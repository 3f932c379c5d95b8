import UdeSample.Gadget.One

/-!
# Runs of the gadget

Whatever fails while it is bound, the gadget has given back what it got once it is not bound, each
thing once (`one_givenBack`).
-/

namespace UdeSample

open Lib

def putFunctions (log : List OneRecord) : List Nat :=
  log.filterMap fun
    | .putFunction f => some f
    | .bindReturned _ | .putInstance _ | .freedOtg _ | .armed _ | .disarmed | .wakeup _ => none

def putInstances (log : List OneRecord) : List Nat :=
  log.filterMap fun
    | .putInstance fi => some fi
    | .bindReturned _ | .putFunction _ | .freedOtg _ | .armed _ | .disarmed | .wakeup _ => none

def freedOtgDescs (log : List OneRecord) : List Nat :=
  log.filterMap fun
    | .freedOtg desc => some desc
    | .bindReturned _ | .putFunction _ | .putInstance _ | .armed _ | .disarmed | .wakeup _ => none

@[simp] theorem putFunctions_append (log out : List OneRecord) :
    putFunctions (log ++ out) = putFunctions log ++ putFunctions out := List.filterMap_append

@[simp] theorem putInstances_append (log out : List OneRecord) :
    putInstances (log ++ out) = putInstances log ++ putInstances out := List.filterMap_append

@[simp] theorem freedOtgDescs_append (log out : List OneRecord) :
    freedOtgDescs (log ++ out) = freedOtgDescs log ++ freedOtgDescs out := List.filterMap_append

/-- The gadget owns these instances and functions. -/
structure OneOwns (s : GadgetOne) (fis fs : List Nat) (log : List OneRecord) : Prop where
  instances : s.instances.Ledger fis (putInstances log)
  functions : s.functions.Ledger fs (putFunctions log)
  otgDescs : s.otgDescs.Ledger s.otgDesc.toList (freedOtgDescs log)

section

variable {p : OneParams} {s s' : GadgetOne} {fi f : Nat} {fis fs : List Nat} {lb : FLoopback}
  {opts : FLbOpts} {status : Int} {log out : List OneRecord}

/-- Records of other things. -/
theorem OneOwns.unlogged (h : OneOwns s fis fs log) (hinst : putInstances out = [])
    (hfunc : putFunctions out = []) (hotg : freedOtgDescs out = []) :
    OneOwns s fis fs (log ++ out) := by
  refine ⟨?_, ?_, ?_⟩
  · rw [putInstances_append, hinst, List.append_nil]
    exact h.instances
  · rw [putFunctions_append, hfunc, List.append_nil]
    exact h.functions
  · rw [freedOtgDescs_append, hotg, List.append_nil]
    exact h.otgDescs

/-! ## Giving back -/

theorem OneOwns.putFunction (h : OneOwns s [fi] [f] log)
    (hfi : s.instances.get? fi = some opts) (hf : s.functions.get? f = some (fi, lb)) :
    ∃ s', usbPutFunction f s = some (s', [.putFunction f]) ∧
      OneOwns s' [fi] [] (log ++ [.putFunction f]) ∧ s'.otgDesc = s.otgDesc ∧
      s'.timer = s.timer ∧ s'.bound = s.bound ∧ s'.funcInstLb = s.funcInstLb := by
  refine ⟨{ s with
    instances := s.instances.update fi { opts with refcnt := opts.refcnt - 1 }
    functions := s.functions.delete f }, ?_, ⟨?_, ?_, ?_⟩, rfl, rfl, rfl, rfl⟩
  · simp [usbPutFunction, hf, hfi]
  · simpa [putInstances] using h.instances.update hfi _
  · simpa [putFunctions] using h.functions.delete
  · simpa [freedOtgDescs] using h.otgDescs

theorem OneOwns.putInstance (h : OneOwns s [fi] fs log) :
    ∃ s', usbPutFunctionInstance fi s = some (s', [.putInstance fi]) ∧
      OneOwns s' [] fs (log ++ [.putInstance fi]) ∧ s'.otgDesc = s.otgDesc ∧
      s'.timer = s.timer ∧ s'.bound = s.bound := by
  obtain ⟨opts, hfi⟩ := (h.instances.mem fi).1 List.mem_cons_self
  refine ⟨{ s with instances := s.instances.delete fi }, ?_, ⟨?_, ?_, ?_⟩, rfl, rfl, rfl⟩
  · simp [usbPutFunctionInstance, Store.free?_of_some hfi]
  · simpa [putInstances] using h.instances.delete
  · simpa [putFunctions] using h.functions
  · simpa [freedOtgDescs] using h.otgDescs

theorem OneOwns.kfreeOtg (h : OneOwns s fis fs log) :
    ∃ s' out, kfreeOtgDesc s = some (s', out) ∧ OneOwns s' fis fs (log ++ out) ∧
      (∀ a, .wakeup a ∉ out) ∧ s'.otgDesc = none ∧ s'.timer = s.timer ∧ s'.bound = s.bound ∧
      s'.instances = s.instances ∧ s'.functions = s.functions := by
  cases hotg : s.otgDesc with
  | none =>
    refine ⟨s, [], ?_, ?_, nofun, hotg, rfl, rfl, rfl, rfl⟩
    · rw [kfreeOtgDesc, hotg]
    · rw [List.append_nil]
      exact h
  | some desc =>
    have hledger := h.otgDescs
    rw [hotg] at hledger
    obtain ⟨u, hdesc⟩ := (hledger.mem desc).1 List.mem_cons_self
    refine ⟨{ s with otgDescs := s.otgDescs.delete desc, otgDesc := none }, [.freedOtg desc], ?_,
      ⟨?_, ?_, ?_⟩, by simp, rfl, rfl, rfl, rfl, rfl⟩
    · simp [kfreeOtgDesc, hotg, Store.free?_of_some hdesc]
    · simpa [putInstances] using h.instances
    · simpa [putFunctions] using h.functions
    · simpa [freedOtgDescs] using hledger.delete

/-! ## `zero_bind` and `zero_unbind` -/

/-- The gadget owns nothing. -/
structure OneIdle (s : GadgetOne) (log : List OneRecord) : Prop where
  owns : OneOwns s [] [] log
  otgDesc : s.otgDesc = none
  timer : s.timer = none
  bound : s.bound = false

theorem OneOwns.errPutFuncInstLb (h : OneOwns s [fi] [] log) (hotg : s.otgDesc = none)
    (htimer : s.timer = none) (hbound : s.bound = false) (status : Int) :
    ∃ s' out, errPutFuncInstLb fi status s = some (s', out) ∧ OneIdle s' (log ++ out) ∧
      ∀ a, .wakeup a ∉ out := by
  obtain ⟨s₁, hput, howns, hotg₁, htimer₁, hbound₁⟩ := h.putInstance
  refine ⟨{ s₁ with funcInstLb := none }, [.putInstance fi, .bindReturned status], ?_, ⟨?_,
    hotg₁.trans hotg, htimer₁.trans htimer, hbound₁.trans hbound⟩, by simp⟩
  · simp [UdeSample.errPutFuncInstLb, hput]
  · have hlogged : OneOwns s₁ [] [] (log ++ [.putInstance fi] ++ [.bindReturned status]) :=
      howns.unlogged rfl rfl rfl
    rw [List.append_assoc] at hlogged
    exact ⟨hlogged.instances, hlogged.functions, hlogged.otgDescs⟩

theorem OneOwns.errConfFlb (h : OneOwns s [fi] [f] log) (hotg : s.otgDesc = none)
    (hfi : s.instances.get? fi = some opts) (hf : s.functions.get? f = some (fi, lb))
    (htimer : s.timer = none) (hbound : s.bound = false) (status : Int) :
    ∃ s' out, errConfFlb fi f status s = some (s', out) ∧ OneIdle s' (log ++ out) ∧
      ∀ a, .wakeup a ∉ out := by
  obtain ⟨s₁, hput, howns, hotg₁, htimer₁, hbound₁, -⟩ := h.putFunction hfi hf
  have howns' : OneOwns { s₁ with funcLb := none } [fi] [] (log ++ [.putFunction f]) :=
    ⟨howns.instances, howns.functions, howns.otgDescs⟩
  obtain ⟨s₂, out, herr, hidle, hquiet⟩ := howns'.errPutFuncInstLb (hotg₁.trans hotg)
    (htimer₁.trans htimer) (hbound₁.trans hbound) status
  refine ⟨s₂, .putFunction f :: out, ?_, ?_, ?_⟩
  · simp [UdeSample.errConfFlb, hput, herr]
  · rw [List.append_assoc] at hidle
    exact hidle
  · simp [hquiet]

theorem OneOwns.errFreeOtgDesc (h : OneOwns s [fi] [f] log)
    (hfi : s.instances.get? fi = some opts) (hf : s.functions.get? f = some (fi, lb))
    (htimer : s.timer = none) (hbound : s.bound = false) (status : Int) :
    ∃ s' out, errFreeOtgDesc fi f status s = some (s', out) ∧ OneIdle s' (log ++ out) ∧
      ∀ a, .wakeup a ∉ out := by
  obtain ⟨s₁, out₁, hfree, howns, hquiet₁, hotg₁, htimer₁, hbound₁, hinst, hfunc⟩ := h.kfreeOtg
  obtain ⟨s₂, out, herr, hidle, hquiet⟩ := howns.errConfFlb hotg₁ (hinst ▸ hfi) (hfunc ▸ hf)
    (htimer₁.trans htimer) (hbound₁.trans hbound) status
  refine ⟨s₂, out₁ ++ out, ?_, ?_, ?_⟩
  · simp [UdeSample.errFreeOtgDesc, hfree, herr]
  · rw [List.append_assoc] at hidle
    exact hidle
  · simp [hquiet₁, hquiet]

/-- The gadget has its function, which has the options of its instance. -/
structure HasFunction (s : GadgetOne) (fi f : Nat) : Prop where
  funcInstLb : s.funcInstLb = some fi
  funcLb : s.funcLb = some f
  function : ∃ buflen qlen, s.instances.get? fi = some ⟨buflen, qlen, 1⟩ ∧
    s.functions.get? f = some (fi, ⟨loopbackQlen qlen, buflen⟩)

structure OneBound (p : OneParams) (s : GadgetOne) (log : List OneRecord) : Prop where
  bound : s.bound = true
  inUse : ∃ fi f, OneOwns s [fi] [f] log ∧ HasFunction s fi f
  advertised : p.autoresume ≠ 0 → s.bmAttributes &&& usbConfigAttWakeup ≠ 0

theorem or_wakeup (a : UCHAR) : (a ||| usbConfigAttWakeup) &&& usbConfigAttWakeup ≠ 0 := by
  have hself : (a ||| usbConfigAttWakeup) &&& usbConfigAttWakeup = usbConfigAttWakeup := by
    ext i
    simp only [BitVec.getElem_and, BitVec.getElem_or]
    cases usbConfigAttWakeup[i] <;> simp
  rw [hself]
  decide

/-- What making the configuration leaves alone. -/
structure Configured (s s' : GadgetOne) : Prop where
  instances : s'.instances = s.instances
  functions : s'.functions = s.functions
  funcInstLb : s'.funcInstLb = s.funcInstLb
  funcLb : s'.funcLb = s.funcLb
  timer : s'.timer = s.timer
  bound : s'.bound = s.bound

theorem Configured.hasFunction (h : Configured s s') (hf : HasFunction s fi f) :
    HasFunction s' fi f := by
  obtain ⟨buflen, qlen, hfi, hlb⟩ := hf.function
  exact ⟨h.funcInstLb.trans hf.funcInstLb, h.funcLb.trans hf.funcLb, buflen, qlen,
    h.instances ▸ hfi, h.functions ▸ hlb⟩

theorem OneOwns.withAutoresume (h : OneOwns s fis fs log) (p : OneParams) :
    OneOwns (s.withAutoresume p) fis fs log ∧ Configured s (s.withAutoresume p) ∧
      (s.withAutoresume p).otgDesc = s.otgDesc ∧ (p.autoresume ≠ 0 →
        (s.withAutoresume p).bmAttributes &&& usbConfigAttWakeup ≠ 0 ∧
          (s.withAutoresume p).autoresumeStepMs = p.autoresume * 1000) := by
  unfold GadgetOne.withAutoresume
  dsimp only
  by_cases hauto : p.autoresume ≠ 0
  · rw [if_pos hauto]
    exact ⟨⟨h.instances, h.functions, h.otgDescs⟩, ⟨rfl, rfl, rfl, rfl, rfl, rfl⟩, rfl,
      fun _ => ⟨or_wakeup _, rfl⟩⟩
  · rw [if_neg hauto]
    exact ⟨⟨h.instances, h.functions, h.otgDescs⟩, ⟨rfl, rfl, rfl, rfl, rfl, rfl⟩, rfl,
      fun hne => absurd hne hauto⟩

theorem OneOwns.withOtg (h : OneOwns s fis fs log) :
    OneOwns s.withOtg fis fs log ∧ Configured s s.withOtg ∧
      s.withOtg.bmAttributes = s.bmAttributes ||| usbConfigAttWakeup ∧
      s.withOtg.autoresumeStepMs = s.autoresumeStepMs := by
  have hledger := h.otgDescs
  unfold GadgetOne.withOtg
  cases hotg : s.otgDesc with
  | none =>
    rw [hotg] at hledger
    exact ⟨⟨h.instances, h.functions, hledger.create ()⟩, ⟨rfl, rfl, rfl, rfl, rfl, rfl⟩, rfl,
      rfl⟩
  | some desc =>
    rw [hotg] at hledger
    exact ⟨⟨h.instances, h.functions, hledger⟩, ⟨rfl, rfl, rfl, rfl, rfl, rfl⟩, rfl, rfl⟩

/-- A bind that fails leaves nothing behind, one that succeeds has the function. -/
def BindEnded (p : OneParams) (s' : GadgetOne) (log out : List OneRecord) : Prop :=
  (OneIdle s' (log ++ out) ∧ ∀ a, .wakeup a ∉ out) ∨
    (OneBound p s' (log ++ out) ∧ s'.timer = none ∧ out = [.bindReturned 0] ∧
      (p.autoresume ≠ 0 → s'.autoresumeStepMs = p.autoresume * 1000))

theorem OneOwns.bindConfiguration (h : OneOwns s [fi] [f] log) (hf : HasFunction s fi f)
    (hotg : s.otgDesc = none) (htimer : s.timer = none) (hbound : s.bound = false)
    (p : OneParams) (o : BindOutcomes) :
    ∃ s' out, bindConfiguration p o fi f s = some (s', out) ∧ BindEnded p s' log out := by
  obtain ⟨howns, hconf, hotg₁, hauto⟩ := h.withAutoresume p
  obtain ⟨buflen, qlen, hfi, hlb⟩ := (hconf.hasFunction hf).function
  unfold UdeSample.bindConfiguration
  dsimp only
  by_cases hnomem : o.gadgetIsOtg = true ∧ (s.withAutoresume p).otgDesc = none ∧
      ¬ o.usbOtgDescriptorAlloc = true
  · rw [if_pos hnomem]
    obtain ⟨s', out, herr, hidle, hquiet⟩ := howns.errConfFlb (hotg₁.trans hotg) hfi hlb
      (hconf.timer.trans htimer) (hconf.bound.trans hbound) (-enomem)
    exact ⟨s', out, herr, Or.inl ⟨hidle, hquiet⟩⟩
  rw [if_neg hnomem]
  obtain ⟨s₂, hs₂, howns₂, hconf₂, hauto₂⟩ : ∃ s₂,
      (if o.gadgetIsOtg = true then (s.withAutoresume p).withOtg else s.withAutoresume p) = s₂ ∧
        OneOwns s₂ [fi] [f] log ∧ Configured (s.withAutoresume p) s₂ ∧ (p.autoresume ≠ 0 →
          s₂.bmAttributes &&& usbConfigAttWakeup ≠ 0 ∧
            s₂.autoresumeStepMs = p.autoresume * 1000) := by
    by_cases hisOtg : o.gadgetIsOtg = true
    · obtain ⟨howns₂, hconf₂, hattr, hstep⟩ := howns.withOtg
      refine ⟨_, if_pos hisOtg, howns₂, hconf₂, fun hne => ⟨?_, hstep.trans (hauto hne).2⟩⟩
      rw [hattr]
      exact or_wakeup _
    · exact ⟨_, if_neg hisOtg, howns, ⟨rfl, rfl, rfl, rfl, rfl, rfl⟩, hauto⟩
  rw [hs₂]
  have hf₂ := hconf₂.hasFunction (hconf.hasFunction hf)
  have htimer₂ : s₂.timer = none := (hconf₂.timer.trans hconf.timer).trans htimer
  cases o.usbAddFunction with
  | error e =>
    obtain ⟨buflen, qlen, hfi, hlb⟩ := hf₂.function
    obtain ⟨s', out, herr, hidle, hquiet⟩ := howns₂.errFreeOtgDesc hfi hlb htimer₂
      ((hconf₂.bound.trans hconf.bound).trans hbound) e.value
    exact ⟨s', out, herr, Or.inl ⟨hidle, hquiet⟩⟩
  | ok u =>
    refine ⟨{ s₂ with bound := true }, [.bindReturned 0], rfl, Or.inr ⟨⟨rfl, ⟨fi, f, ?_, ?_⟩,
      fun hne => (hauto₂ hne).1⟩, htimer₂, rfl, fun hne => (hauto₂ hne).2⟩⟩
    · have hlogged : OneOwns s₂ [fi] [f] (log ++ [.bindReturned 0]) :=
        howns₂.unlogged rfl rfl rfl
      exact ⟨hlogged.instances, hlogged.functions, hlogged.otgDescs⟩
    · exact ⟨hf₂.funcInstLb, hf₂.funcLb, hf₂.function⟩

theorem OneIdle.bind (h : OneIdle s log) (p : OneParams) (o : BindOutcomes) :
    ∃ s' out, zeroBind p o s = some (s', out) ∧ BindEnded p s' log out := by
  have howns := h.owns
  unfold zeroBind
  cases o.usbStringIdsTab with
  | error e =>
    exact ⟨s, [.bindReturned e.value], rfl, Or.inl ⟨⟨howns.unlogged rfl rfl rfl, h.otgDesc,
      h.timer, h.bound⟩, by simp⟩⟩
  | ok _ =>
    cases o.usbGetFunctionInstance with
    | error e =>
      have hlogged : OneOwns s [] [] (log ++ [.bindReturned e.value]) :=
        howns.unlogged rfl rfl rfl
      exact ⟨_, [.bindReturned e.value], rfl, Or.inl ⟨⟨⟨hlogged.instances, hlogged.functions,
        hlogged.otgDescs⟩, h.otgDesc, rfl, h.bound⟩, by simp⟩⟩
    | ok _ =>
      dsimp only
      have hfi : (s.instances.create
          { loopbackAllocInstance.opts with bulkBuflen := s.bulkBuflen, qlen := s.qlen }).get?
            s.instances.next = some ⟨s.bulkBuflen, s.qlen, 0⟩ := by
        rw [Store.get?_create, if_pos rfl]
        rfl
      have hinst := howns.instances.create
        { loopbackAllocInstance.opts with bulkBuflen := s.bulkBuflen, qlen := s.qlen }
      cases o.usbGetFunction with
      | error e =>
        obtain ⟨s', out, herr, hidle, hquiet⟩ := OneOwns.errPutFuncInstLb
          (s := { s with
            timer := none, funcLb := none, funcInstLb := some s.instances.next
            instances := s.instances.create
              { loopbackAllocInstance.opts with bulkBuflen := s.bulkBuflen, qlen := s.qlen } })
          ⟨hinst, howns.functions, howns.otgDescs⟩ h.otgDesc rfl h.bound e.value
        exact ⟨s', out, herr, Or.inl ⟨hidle, hquiet⟩⟩
      | ok _ =>
        simp only [usbGetFunction, hfi, Option.map_some, Option.bind_some]
        refine OneOwns.bindConfiguration ?_ ?_ ?_ ?_ ?_ p o
        · exact ⟨hinst.update hfi _, howns.functions.create _, howns.otgDescs⟩
        · refine ⟨rfl, rfl, s.bulkBuflen, s.qlen, ?_, ?_⟩
          · dsimp only
            rw [Store.get?_update hfi, if_pos rfl]
            rfl
          · dsimp only
            rw [Store.get?_create, if_pos rfl]
        · exact h.otgDesc
        · rfl
        · exact h.bound

/-- Unbinding gives everything back. -/
theorem OneBound.unbind (h : OneBound p s log) :
    ∃ s' out, zeroUnbind s = some (s', out) ∧ OneIdle s' (log ++ out) ∧
      ∀ a, .wakeup a ∉ out := by
  obtain ⟨fi, f, howns, hf⟩ := h.inUse
  obtain ⟨buflen, qlen, hfi, hlb⟩ := hf.function
  have hlogged : OneOwns s [fi] [f] (log ++ [.disarmed]) := howns.unlogged rfl rfl rfl
  have hstart : OneOwns { s with timer := none, bound := false } [fi] [f] (log ++ [.disarmed]) :=
    ⟨hlogged.instances, hlogged.functions, hlogged.otgDescs⟩
  obtain ⟨s₁, hput, howns₁, hotg₁, htimer₁, hbound₁, hptr₁⟩ := hstart.putFunction hfi hlb
  obtain ⟨s₂, hputInst, howns₂, hotg₂, htimer₂, hbound₂⟩ := howns₁.putInstance
  obtain ⟨s₃, out, hfree, howns₃, hquiet, hotg₃, htimer₃, hbound₃, -, -⟩ := howns₂.kfreeOtg
  refine ⟨s₃, .disarmed :: ([.putFunction f] ++ [.putInstance fi] ++ out), ?_, ⟨?_, hotg₃,
    htimer₃.trans (htimer₂.trans htimer₁), hbound₃.trans (hbound₂.trans hbound₁)⟩, ?_⟩
  · simp only [hf.funcLb, hf.funcInstLb] at hput hptr₁
    simp [zeroUnbind, hf.funcLb, hput, hptr₁, hf.funcInstLb, hputInst, hfree]
  · simpa using howns₃
  · simp [hquiet]

/-! ## Runs -/

/-- The callbacks between `zero_bind` and `zero_unbind` concern the timer only. -/
theorem OneBound.tick (h : OneBound p s log) (timer : Option ULONG) (autoresumeStepMs qlen : ULONG)
    (hinst : putInstances out = []) (hfunc : putFunctions out = [])
    (hotg : freedOtgDescs out = []) :
    OneBound p { s with timer, autoresumeStepMs, qlen } (log ++ out) := by
  obtain ⟨fi, f, howns, hf⟩ := h.inUse
  have hlogged := howns.unlogged hinst hfunc hotg
  exact ⟨h.bound, ⟨fi, f, ⟨hlogged.instances, hlogged.functions, hlogged.otgDescs⟩,
    ⟨hf.funcInstLb, hf.funcLb, hf.function⟩⟩, h.advertised⟩

theorem one_step (h : OneIdle s log ∨ OneBound p s log) {e : OneEvent}
    (hacc : s.accepts e = true) :
    ∃ s' out, oneHandle p s e = some (s', out) ∧
      (OneIdle s' (log ++ out) ∨ OneBound p s' (log ++ out)) := by
  cases e with
  | bind o =>
    rcases h with hidle | hbound
    · obtain ⟨s', out, hbind, hended⟩ := hidle.bind p o
      exact ⟨s', out, hbind, hended.imp And.left And.left⟩
    · simp [GadgetOne.accepts, hbound.bound] at hacc
  | unbind =>
    rcases h with hidle | hbound
    · simp [GadgetOne.accepts, hidle.bound] at hacc
    · obtain ⟨s', out, hunbind, hidle, -⟩ := hbound.unbind
      exact ⟨s', out, hunbind, Or.inl hidle⟩
  | suspend speedKnown =>
    rcases h with hidle | hbound
    · simp [GadgetOne.accepts, hidle.bound] at hacc
    · refine ⟨(zeroSuspend p speedKnown s).1, (zeroSuspend p speedKnown s).2, rfl, Or.inr ?_⟩
      unfold zeroSuspend
      split
      · exact hbound.tick _ _ s.qlen rfl rfl rfl
      · rw [List.append_nil]
        exact hbound
  | resume =>
    rcases h with hidle | hbound
    · simp [GadgetOne.accepts, hidle.bound] at hacc
    · exact ⟨_, _, rfl, Or.inr (hbound.tick none s.autoresumeStepMs s.qlen rfl rfl rfl)⟩
  | timer configured speedKnown =>
    rcases h with hidle | hbound
    · simp [GadgetOne.accepts, hidle.timer] at hacc
    · refine ⟨_, _, rfl, Or.inr (hbound.tick none s.autoresumeStepMs s.qlen ?_ ?_ ?_)⟩
      · split <;> rfl
      · split <;> rfl
      · split <;> rfl
  | setQlen qlen =>
    refine ⟨_, [], rfl, h.imp (fun hidle => ?_) fun hbound => ?_⟩
    · rw [List.append_nil]
      exact ⟨⟨hidle.owns.instances, hidle.owns.functions, hidle.owns.otgDescs⟩, hidle.otgDesc,
        hidle.timer, hidle.bound⟩
    · exact hbound.tick s.timer s.autoresumeStepMs qlen rfl rfl rfl

theorem oneStep_eq_some {e : OneEvent} : oneStep p s e = some (s', out) ↔
    s.accepts e = true ∧ oneHandle p s e = some (s', out) := by
  unfold oneStep
  split
  · next hacc => simp [hacc]
  · next hacc => simp [hacc]

theorem oneRun_inv {bulkBuflen qlen : ULONG} {t : List OneEvent}
    (h : oneRun p bulkBuflen qlen t = some (s, log)) : OneIdle s log ∨ OneBound p s log := by
  refine run_invariant (P := fun _ q => OneIdle q.1 q.2 ∨ OneBound p q.1 q.2)
    (Or.inl ⟨⟨.empty, .empty, .empty⟩, rfl, rfl, rfl⟩) ?_ h
  rintro - ⟨s, log⟩ e ⟨s', log'⟩ - hinv hlog
  obtain ⟨out, hstep, rfl⟩ := logged_eq_some.1 hlog
  obtain ⟨hacc, hhandle⟩ := oneStep_eq_some.1 hstep
  obtain ⟨s₁, out₁, hhandle₁, hinv₁⟩ := one_step hinv hacc
  cases hhandle₁.symm.trans hhandle
  exact hinv₁

/-- **Whatever fails, everything is given back**: the gadget has one instance with one function
while it is bound, which has the options of the instance, and otherwise nothing, each of the things
it ever had having been put or freed once. -/
theorem one_givenBack {bulkBuflen qlen : ULONG} {t : List OneEvent}
    (h : oneRun p bulkBuflen qlen t = some (s, log)) :
    (∀ e, s.accepts e = true → (oneHandle p s e).isSome = true) ∧
    (s.bound = true → ∃ fi f buflen qlen, s.instances.get? fi = some ⟨buflen, qlen, 1⟩ ∧
      s.functions.get? f = some (fi, ⟨loopbackQlen qlen, buflen⟩) ∧
      (∀ i, i ≠ fi → s.instances.get? i = none) ∧ ∀ i, i ≠ f → s.functions.get? i = none) ∧
    (s.bound = false → ∀ i,
      (putInstances log).count i = (if i < s.instances.next then 1 else 0) ∧
      (putFunctions log).count i = (if i < s.functions.next then 1 else 0) ∧
      (freedOtgDescs log).count i = (if i < s.otgDescs.next then 1 else 0)) := by
  have hinv := oneRun_inv h
  refine ⟨?_, ?_, ?_⟩
  · intro e hacc
    obtain ⟨s', out, hhandle, -⟩ := one_step hinv hacc
    rw [hhandle]
    rfl
  · intro hbound
    rcases hinv with hidle | hinv
    · rw [hidle.bound] at hbound
      cases hbound
    · obtain ⟨fi, f, howns, hf⟩ := hinv.inUse
      obtain ⟨buflen, qlen, hfi, hlb⟩ := hf.function
      refine ⟨fi, f, buflen, qlen, hfi, hlb, fun i hne => ?_, fun i hne => ?_⟩
      · refine Option.eq_none_iff_forall_ne_some.2 fun a ha => hne ?_
        exact List.mem_singleton.1 ((howns.instances.mem i).2 ⟨a, ha⟩)
      · refine Option.eq_none_iff_forall_ne_some.2 fun a ha => hne ?_
        exact List.mem_singleton.1 ((howns.functions.mem i).2 ⟨a, ha⟩)
  · intro hfree i
    rcases hinv with hidle | hinv
    · have hotg := hidle.owns.otgDescs
      rw [hidle.otgDesc] at hotg
      exact ⟨hidle.owns.instances.count_freed i, hidle.owns.functions.count_freed i,
        hotg.count_freed i⟩
    · rw [hinv.bound] at hfree
      cases hfree

/-- An on-the-go controller; everything succeeds. -/
def bindOk : BindOutcomes :=
  { usbStringIdsTab := .ok (), usbGetFunctionInstance := .ok (), usbGetFunction := .ok ()
    gadgetIsOtg := true, usbOtgDescriptorAlloc := true, usbAddFunction := .ok () }

/-- A bind whose last call fails, and a bind that is undone. -/
def undoneBinds : List OneEvent :=
  [.bind { bindOk with usbAddFunction := .error ⟨-enomem, by decide⟩ }, .setQlen 8, .bind bindOk,
    .unbind]

theorem undoneBinds_givenBack : ∃ s log, oneRun ⟨0, 0, 0⟩ 4096 32 undoneBinds = some (s, log) ∧
    s.functions.next = 2 ∧ (putFunctions log).count 0 = 1 ∧ (putFunctions log).count 1 = 1 := by
  obtain ⟨⟨s, log⟩, hrun, hbound, hnext⟩ : ∃ q, oneRun ⟨0, 0, 0⟩ 4096 32 undoneBinds = some q ∧
      q.1.bound = false ∧ q.1.functions.next = 2 := ⟨_, rfl, rfl, rfl⟩
  have hcount := fun i => ((one_givenBack hrun).2.2 hbound i).2.1
  exact ⟨s, log, hrun, hnext, (hcount 0).trans (by rw [hnext]; rfl),
    (hcount 1).trans (by rw [hnext]; rfl)⟩

end

end UdeSample
