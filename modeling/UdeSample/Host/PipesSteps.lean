import UdeSample.Host.Pipes

/-!
# Steps of the pipes of the host driver

What the call of `ResetDevice` that holds the lock knows of the pipes, and what every callback
does with the requests in flight.
-/

namespace UdeSample

open Lib

variable {β : Type} {s s' : HostPipes β} {log out : List (PipeRecord β)}

/-! ## I/O targets -/

theorem setTarget_started (s : HostPipes β) (pipe q : HostPipe) (target : IoTarget β) :
    ((s.setTarget pipe target).targets q).started =
      if q = pipe then target.started else (s.targets q).started := by
  rw [HostPipes.setTarget]
  by_cases hq : q = pipe
  · subst hq
    simp
  · simp [hq]

/-- Nothing but what is pending has changed. -/
structure SameStarts (s s' : HostPipes β) : Prop where
  started : ∀ pipe, (s'.targets pipe).started = (s.targets pipe).started
  lock : s'.resetDeviceWaitLock = s.resetDeviceWaitLock
  resets : s'.resets = s.resets
  power : s'.power = s.power

theorem sameStarts_setTarget {pipe : HostPipe} {target : IoTarget β}
    (h : target.started = (s.targets pipe).started) :
    SameStarts s (s.setTarget pipe target) := by
  refine ⟨fun q => ?_, rfl, rfl, rfl⟩
  rw [setTarget_started]
  split
  · next hq =>
    subst hq
    exact h
  · rfl

theorem sameStarts_completePending (s : HostPipes β) (pipe : HostPipe) (status : NTSTATUS)
    (length : Nat) : SameStarts s (s.completePending pipe status length).1 := by
  unfold HostPipes.completePending
  split
  · exact ⟨fun _ => rfl, rfl, rfl, rfl⟩
  · exact sameStarts_setTarget rfl

theorem sameStarts_send (s : HostPipes β) (pipe : HostPipe) (request : WdfRequest β)
    (r : Except (Completion β ULONG) (WdfRequest β)) :
    SameStarts s (s.send pipe request r).1 := by
  cases r with
  | error c => exact ⟨fun _ => rfl, rfl, rfl, rfl⟩
  | ok request' => exact sameStarts_setTarget rfl

theorem sameStarts_ioStop (s : HostPipes β) (pipe : HostPipe) (flags : StopFlags) :
    SameStarts s (s.setTarget pipe (osrFxEvtIoStop flags (s.targets pipe))) := by
  refine sameStarts_setTarget ?_
  unfold osrFxEvtIoStop
  split
  · rfl
  · rfl

theorem stop_started (s : HostPipes β) (pipe q : HostPipe) (o : PipeOutcome) :
    ((s.stop pipe o).1.targets q).started =
      if q = pipe then false else (s.targets q).started := by
  have hsame := sameStarts_completePending s pipe o.status o.length
  rw [HostPipes.stop]
  dsimp only
  rw [setTarget_started, hsame.started]

theorem start_started (s : HostPipes β) (pipe q : HostPipe) :
    ((s.start pipe).targets q).started = if q = pipe then true else (s.targets q).started :=
  setTarget_started s pipe q _

theorem stop_frame (s : HostPipes β) (pipe : HostPipe) (o : PipeOutcome) :
    (s.stop pipe o).1.resetDeviceWaitLock = s.resetDeviceWaitLock ∧
      (s.stop pipe o).1.resets = s.resets ∧ (s.stop pipe o).1.power = s.power := by
  have hsame := sameStarts_completePending s pipe o.status o.length
  exact ⟨hsame.lock, hsame.resets, hsame.power⟩

/-! ## Invariants -/

def HostPipe.index : HostPipe → Nat
  | .interrupt => 0
  | .bulkRead => 1
  | .bulkWrite => 2

/-- The pipes before this index are started, and no others. -/
def RunningBelow (targets : HostPipe → IoTarget β) (n : Nat) : Prop :=
  ∀ pipe, (targets pipe).started = decide (pipe.index < n)

/-- The call holds the lock. -/
def ResetPlace.inside : ResetPlace → Bool
  | .acquire => false
  | .stopAllPipes _ | .resetPort | .startAllPipes _ | .release _ => true

def ResetCall.inside (c : ResetCall β) : Bool := c.place.inside

/-- What a call that holds the lock knows of the pipes. -/
def ResetPlace.Knows (targets : HostPipe → IoTarget β) : ResetPlace → Prop
  | .acquire => True
  | .stopAllPipes pipe => ∀ q, q.index < pipe.index → (targets q).started = false
  | .resetPort => RunningBelow targets 0
  | .startAllPipes pipe => RunningBelow targets pipe.index
  | .release status => ∃ n, RunningBelow targets n ∧ (ntSuccess status = true ↔ 3 ≤ n)

theorem ResetPlace.Knows.congr {targets targets' : HostPipe → IoTarget β}
    (h : ∀ pipe, (targets' pipe).started = (targets pipe).started) {place : ResetPlace}
    (hknows : place.Knows targets) : place.Knows targets' := by
  cases place with
  | acquire => trivial
  | stopAllPipes pipe => exact fun q hq => (h q).trans (hknows q hq)
  | resetPort => exact fun q => (h q).trans (hknows q)
  | startAllPipes pipe => exact fun q => (h q).trans (hknows q)
  | release status =>
    obtain ⟨n, hrunning, hn⟩ := hknows
    exact ⟨n, fun q => (h q).trans (hrunning q), hn⟩

/-- The status of the last `ResetDevice` that had the lock. -/
def lastReset (log : List (PipeRecord β)) : NTSTATUS :=
  log.foldl (fun status r =>
    match r with
    | .released status' => status'
    | .dispatched _ | .completed _ => status) statusSuccess

/-- Nobody holds the lock. -/
structure PipesSettled (s : HostPipes β) (log : List (PipeRecord β)) : Prop where
  bulkWrite : (s.targets .bulkWrite).started = ntSuccess (lastReset log)
  bulkRead : (s.targets .bulkWrite).started = true → (s.targets .bulkRead).started = true
  interrupt : s.power = .d0 → ntSuccess (lastReset log) = true →
    (s.targets .interrupt).started = true

structure PipesInv (s : HostPipes β) (log : List (PipeRecord β)) : Prop where
  holders : s.resets.countP ResetCall.inside = s.resetDeviceWaitLock.toNat
  knows : ∀ c ∈ s.resets, c.place.Knows s.targets
  settled : s.resetDeviceWaitLock = false → PipesSettled s log
  asleep : s.power ≠ .d0 → s.resets = [] ∧ (s.targets .interrupt).started = false

theorem pipesInv_init : PipesInv (hostPipesInit : HostPipes β) [] :=
  ⟨rfl, (fun _ hc => by cases hc), fun _ => ⟨rfl, fun _ => rfl, fun hd0 => by cases hd0⟩,
    fun _ => ⟨rfl, rfl⟩⟩

theorem PipesInv.same (h : PipesInv s log) (hs' : SameStarts s s')
    (hlast : lastReset (log ++ out) = lastReset log) : PipesInv s' (log ++ out) := by
  refine ⟨?_, fun c hc => ?_, fun hlock => ?_, fun hpower => ?_⟩
  · rw [hs'.resets, hs'.lock]
    exact h.holders
  · exact (h.knows c (hs'.resets ▸ hc)).congr hs'.started
  · obtain ⟨hwrite, hread, hintr⟩ := h.settled (hs'.lock ▸ hlock)
    refine ⟨?_, ?_, ?_⟩
    · rw [hs'.started, hlast]
      exact hwrite
    · rw [hs'.started, hs'.started]
      exact hread
    · rw [hs'.power, hlast, hs'.started]
      exact hintr
  · rw [hs'.power] at hpower
    obtain ⟨hresets, hstarted⟩ := h.asleep hpower
    exact ⟨hs'.resets.trans hresets, (hs'.started _).trans hstarted⟩

section

variable {l r : List (ResetCall β)} {c : ResetCall β}

theorem PipesInv.awake (h : PipesInv s log) (hres : s.resets = l ++ c :: r) : s.power = .d0 := by
  by_contra hpower
  have hnil := (h.asleep hpower).1
  rw [hres] at hnil
  simp at hnil

/-- **Mutual exclusion**: the others wait for the lock. -/
theorem PipesInv.others (h : PipesInv s log) (hres : s.resets = l ++ c :: r)
    (hin : c.inside = true) :
    s.resetDeviceWaitLock = true ∧ ∀ d ∈ l ++ r, d.inside = false := by
  have hcount := h.holders
  rw [hres, List.countP_append, List.countP_cons_of_pos hin, ← Nat.add_assoc,
    ← List.countP_append] at hcount
  cases hlock : s.resetDeviceWaitLock with
  | false =>
    rw [hlock] at hcount
    cases hcount
  | true =>
    rw [hlock] at hcount
    have hnone : (l ++ r).countP ResetCall.inside = 0 := Nat.succ.inj hcount
    exact ⟨rfl, fun d hd => Bool.eq_false_iff.2 (List.countP_eq_zero.1 hnone d hd)⟩

theorem knows_of_outside {d : ResetCall β} (h : d.inside = false)
    (targets : HostPipe → IoTarget β) : d.place.Knows targets := by
  obtain ⟨request, place⟩ := d
  cases place with
  | acquire => trivial
  | stopAllPipes pipe => cases h
  | resetPort => cases h
  | startAllPipes pipe => cases h
  | release status => cases h

/-- The call that holds the lock goes on. -/
theorem PipesInv.moved (h : PipesInv s log) (hres : s.resets = l ++ c :: r)
    (hin : c.inside = true) (hlock : s'.resetDeviceWaitLock = s.resetDeviceWaitLock)
    (hpower : s'.power = s.power) (place : ResetPlace) (hplace : place.inside = true)
    (hknows : place.Knows s'.targets) (log' : List (PipeRecord β)) :
    PipesInv { s' with resets := l ++ ⟨c.request, place⟩ :: r } log' := by
  obtain ⟨hheld, hothers⟩ := h.others hres hin
  have hcount := h.holders
  rw [hres, List.countP_append, List.countP_cons_of_pos hin] at hcount
  refine ⟨?_, fun d hd => ?_, fun hfree => ?_, fun hasleep => ?_⟩
  · have hpos : ResetCall.inside ⟨c.request, place⟩ = true := hplace
    rw [List.countP_append, List.countP_cons_of_pos hpos, hcount]
    exact congrArg _ hlock.symm
  · rcases List.mem_append.1 hd with hd | hd
    · exact knows_of_outside (hothers d (List.mem_append_left _ hd)) _
    · rcases List.mem_cons.1 hd with rfl | hd
      · exact hknows
      · exact knows_of_outside (hothers d (List.mem_append_right _ hd)) _
  · exact Bool.noConfusion ((hlock.trans hheld).symm.trans hfree)
  · exact absurd (hpower.trans (h.awake hres)) hasleep

theorem PipesInv.acquired (h : PipesInv s log) (hres : s.resets = l ++ c :: r)
    (hout : c.inside = false) (hfree : s.resetDeviceWaitLock = false) :
    PipesInv { s with
      resetDeviceWaitLock := true
      resets := l ++ ⟨c.request, .stopAllPipes .interrupt⟩ :: r } log := by
  have hcount := h.holders
  rw [hres, hfree, List.countP_append, List.countP_cons_of_neg (Bool.eq_false_iff.1 hout),
    ← List.countP_append] at hcount
  refine ⟨?_, fun d hd => ?_, (fun hlock => by cases hlock), fun hasleep => ?_⟩
  · have hpos : ResetCall.inside
        ⟨c.request, .stopAllPipes .interrupt⟩ = true := rfl
    rw [List.countP_append, List.countP_cons_of_pos hpos, ← Nat.add_assoc, ← List.countP_append,
      hcount]
    rfl
  · have hothers : ∀ d ∈ l ++ r, d.inside = false := fun d hd =>
      Bool.eq_false_iff.2 (List.countP_eq_zero.1 hcount d hd)
    rcases List.mem_append.1 hd with hd | hd
    · exact knows_of_outside (hothers d (List.mem_append_left _ hd)) _
    · rcases List.mem_cons.1 hd with rfl | hd
      · exact fun q hq => absurd hq (Nat.not_lt_zero _)
      · exact knows_of_outside (hothers d (List.mem_append_right _ hd)) _
  · exact absurd (h.awake hres) hasleep

/-- A call returns that does not have the lock. -/
theorem PipesInv.refused (h : PipesInv s log) (hres : s.resets = l ++ c :: r)
    (hout : c.inside = false) (hlast : lastReset (log ++ out) = lastReset log) :
    PipesInv { s with resets := l ++ r } (log ++ out) := by
  have hcount := h.holders
  rw [hres, List.countP_append, List.countP_cons_of_neg (Bool.eq_false_iff.1 hout),
    ← List.countP_append] at hcount
  refine ⟨hcount, fun d hd => ?_, fun hlock => ?_, fun hasleep => ?_⟩
  · refine h.knows d ?_
    rw [hres]
    rcases List.mem_append.1 hd with hd | hd
    · exact List.mem_append_left _ hd
    · exact List.mem_append_right _ (List.mem_cons_of_mem _ hd)
  · obtain ⟨hwrite, hread, hintr⟩ := h.settled hlock
    rw [← hlast] at hwrite hintr
    exact ⟨hwrite, hread, hintr⟩
  · exact absurd (h.awake hres) hasleep

/-- The call that holds the lock returns. -/
theorem PipesInv.released (h : PipesInv s log) {status : NTSTATUS}
    (hres : s.resets = l ++ c :: r) (hplace : c.place = .release status)
    (hlast : lastReset (log ++ out) = status) :
    PipesInv { s with resetDeviceWaitLock := false, resets := l ++ r } (log ++ out) := by
  obtain ⟨-, hothers⟩ := h.others hres (by rw [ResetCall.inside, hplace]; rfl)
  have hknows : c.place.Knows s.targets := h.knows c (by rw [hres]; simp)
  rw [hplace] at hknows
  obtain ⟨n, hrunning, hn⟩ := hknows
  refine ⟨?_, fun d hd => knows_of_outside (hothers d hd) _, fun _ => ⟨?_, ?_, fun _ hok => ?_⟩,
    fun hasleep => absurd (h.awake hres) hasleep⟩
  · exact List.countP_eq_zero.2 fun d hd => Bool.eq_false_iff.1 (hothers d hd)
  · dsimp only
    rw [hlast, hrunning .bulkWrite, Bool.eq_iff_iff, hn, decide_eq_true_iff]
    rfl
  · dsimp only
    rw [hrunning .bulkWrite, hrunning .bulkRead, decide_eq_true_iff, decide_eq_true_iff]
    intro hlt
    exact Nat.lt_of_succ_lt hlt
  · rw [hlast, hn] at hok
    dsimp only
    rw [hrunning .interrupt, decide_eq_true_iff]
    exact Nat.lt_of_lt_of_le (by decide) hok

end

/-! ## Steps -/

theorem resetDeviceNext_resets {request : WdfRequest β} {o : PipeOutcome} {place : ResetPlace}
    {place' : Option ResetPlace}
    (h : resetDeviceNext request o s place = some (s', place', out)) : s'.resets = s.resets := by
  cases place with
  | acquire =>
    simp only [resetDeviceNext] at h
    split at h
    · cases h
      rfl
    · split at h
      · cases h
      · cases h
        rfl
  | stopAllPipes pipe =>
    cases h
    exact (stop_frame s pipe o).2.1
  | resetPort =>
    cases h
    rfl
  | startAllPipes pipe =>
    simp only [resetDeviceNext] at h
    split at h
    · cases h
      rfl
    · cases h
      rfl
  | release status =>
    cases h
    rfl

/-- A call among those in flight, and what it leaves of itself. -/
theorem resetNext_eq_some {i : Nat} {o : PipeOutcome} :
    pipesHandle s (.resetNext i o) = some (s', out) ↔ ∃ l c r s₁ place,
      s.resets = l ++ c :: r ∧ l.length = i ∧
      resetDeviceNext c.request o s c.place = some (s₁, place, out) ∧
      s' = { s₁ with resets := l ++ place.toList.map (ResetCall.mk c.request) ++ r } := by
  simp only [pipesHandle, Option.bind_eq_some_iff, Option.map_eq_some_iff]
  constructor
  · rintro ⟨c, hc, ⟨s₁, place, out₁⟩, hnext, heq⟩
    obtain ⟨hlt, hget⟩ := List.getElem?_eq_some_iff.1 hc
    have hsplit : s.resets = s.resets.take i ++ c :: s.resets.drop (i + 1) := by
      rw [← hget, List.getElem_cons_drop, List.take_append_drop]
    have hlen : (s.resets.take i).length = i := List.length_take_of_le (Nat.le_of_lt hlt)
    have hresets := (resetDeviceNext_resets hnext).trans hsplit
    refine ⟨_, c, _, s₁, place, hsplit, hlen, ?_⟩
    cases place with
    | none =>
      obtain ⟨rfl, rfl⟩ := Prod.mk.inj heq
      refine ⟨hnext, ?_⟩
      rw [hresets, List.eraseIdx_append_of_length_le (Nat.le_of_eq hlen), hlen, Nat.sub_self]
      simp
    | some place =>
      obtain ⟨rfl, rfl⟩ := Prod.mk.inj heq
      refine ⟨hnext, ?_⟩
      rw [hresets, List.set_append_right _ _ (Nat.le_of_eq hlen), hlen, Nat.sub_self]
      simp
  · rintro ⟨l, c, r, s₁, place, hsplit, rfl, hnext, rfl⟩
    have hresets := (resetDeviceNext_resets hnext).trans hsplit
    refine ⟨c, by rw [hsplit]; simp, (s₁, place, out), hnext, ?_⟩
    cases place with
    | none => simp [hresets, List.eraseIdx_append_of_length_le]
    | some place => simp [hresets]

theorem lastReset_append_same (log : List (PipeRecord β)) (h : ∀ status, .released status ∉ out) :
    lastReset (log ++ out) = lastReset log := by
  rw [lastReset, lastReset, List.foldl_append]
  generalize List.foldl _ statusSuccess log = status
  induction out with
  | nil => rfl
  | cons r out ih =>
    have hrest := ih fun status hmem => h status (List.mem_cons_of_mem _ hmem)
    cases r with
    | released status => exact absurd List.mem_cons_self (h status)
    | dispatched request => exact hrest
    | completed c => exact hrest

theorem PipesInv.resetNext (h : PipesInv s log) {i : Nat} {o : PipeOutcome}
    (hstep : pipesHandle s (.resetNext i o) = some (s', out)) : PipesInv s' (log ++ out) := by
  obtain ⟨l, ⟨request, place⟩, r, s₁, place', hres, -, hnext, rfl⟩ := resetNext_eq_some.1 hstep
  have hknows : place.Knows s.targets := h.knows ⟨request, place⟩ (by rw [hres]; simp)
  cases place with
  | acquire =>
    simp only [resetDeviceNext] at hnext
    split at hnext
    · cases hnext
      simpa using h.refused hres rfl (lastReset_append_same log (by simp))
    · split at hnext
      · cases hnext
      · next hfree =>
        cases hnext
        simpa using h.acquired hres rfl (Bool.eq_false_iff.2 hfree)
  | stopAllPipes pipe =>
    simp only [resetDeviceNext, Option.some.injEq, Prod.mk.injEq] at hnext
    obtain ⟨rfl, rfl, rfl⟩ := hnext
    obtain ⟨hlock, -, hpower⟩ := stop_frame s pipe o
    have hstopped : ∀ q, q.index ≤ pipe.index →
        ((s.stop pipe o).1.targets q).started = false := by
      intro q hq
      rw [stop_started]
      split
      · rfl
      · next hne =>
        refine hknows q (Nat.lt_of_le_of_ne hq fun heq => hne ?_)
        cases q <;> cases pipe <;> first | rfl | cases heq
    have hmoved := fun place' hplace' hknows' =>
      h.moved hres rfl hlock hpower place' hplace' hknows' (log ++ (s.stop pipe o).2)
    cases pipe with
    | interrupt =>
      simpa [HostPipe.next] using
        hmoved (.stopAllPipes .bulkRead) rfl fun q hq => hstopped q (Nat.le_of_lt_succ hq)
    | bulkRead =>
      simpa [HostPipe.next] using
        hmoved (.stopAllPipes .bulkWrite) rfl fun q hq => hstopped q (Nat.le_of_lt_succ hq)
    | bulkWrite =>
      simpa [HostPipe.next] using hmoved .resetPort rfl fun q => hstopped q (by cases q <;> decide)
  | resetPort =>
    cases hnext
    simpa using h.moved hres rfl rfl rfl (.startAllPipes .interrupt) rfl hknows log
  | startAllPipes pipe =>
    simp only [resetDeviceNext] at hnext
    split at hnext
    · next e _ =>
      cases hnext
      have hreleased : (ResetPlace.release e.status).Knows s.targets := by
        refine ⟨pipe.index, hknows, iff_of_false e.not_success ?_⟩
        cases pipe <;> decide
      simpa using h.moved hres rfl rfl rfl _ rfl hreleased log
    · cases hnext
      have hstarted : RunningBelow (s.start pipe).targets (pipe.index + 1) := by
        intro q
        rw [start_started, hknows q]
        cases q <;> cases pipe <;> rfl
      have hmoved : ∀ place : ResetPlace, place.inside = true →
          place.Knows (s.start pipe).targets →
            PipesInv { s.start pipe with resets := l ++ ⟨request, place⟩ :: r } log :=
        fun place hplace hknows' =>
          have hlock : (s.start pipe).resetDeviceWaitLock = s.resetDeviceWaitLock := rfl
          h.moved hres rfl hlock rfl place hplace hknows' log
      cases pipe with
      | interrupt => simpa [HostPipe.next] using hmoved (.startAllPipes .bulkRead) rfl hstarted
      | bulkRead => simpa [HostPipe.next] using hmoved (.startAllPipes .bulkWrite) rfl hstarted
      | bulkWrite =>
        simpa [HostPipe.next] using hmoved (.release statusSuccess) rfl
          ⟨3, hstarted, iff_of_true rfl (Nat.le_refl 3)⟩
  | release status =>
    cases hnext
    have hlast : lastReset (log ++ [.released status,
        .completed (completeRequest .wdfRequest request status 0)]) = status := by
      rw [lastReset, List.foldl_append]
      rfl
    simpa using h.released hres rfl hlast

theorem PipesInv.d0Entry (h : PipesInv s log) (hoff : s.power = .off) (o : NtResult Unit) :
    PipesInv (osrFxEvtDeviceD0Entry o s) log := by
  have hne : s.power ≠ .d0 := by
    rw [hoff]
    decide
  obtain ⟨hnil, hstopped⟩ := h.asleep hne
  cases o with
  | error e =>
    refine ⟨h.holders, h.knows, fun hfree => ?_, fun _ => ⟨hnil, hstopped⟩⟩
    obtain ⟨hwrite, hread, -⟩ := h.settled hfree
    exact ⟨hwrite, hread, fun hd0 => by cases hd0⟩
  | ok _ =>
    refine ⟨h.holders, fun c hc => ?_, fun hfree => ?_, fun hd0 => absurd rfl hd0⟩
    · change c ∈ s.resets at hc
      rw [hnil] at hc
      cases hc
    · obtain ⟨hwrite, hread, -⟩ := h.settled hfree
      refine ⟨?_, ?_, fun _ _ => ?_⟩
      · exact (start_started s .interrupt .bulkWrite).trans hwrite
      · intro hstarted
        exact (start_started s .interrupt .bulkRead).trans
          (hread ((start_started s .interrupt .bulkWrite).symm.trans hstarted))
      · exact start_started s .interrupt .interrupt

theorem PipesInv.d0Exit (h : PipesInv s log) (hnil : s.resets = []) (o : PipeOutcome)
    (hlast : lastReset (log ++ (osrFxEvtDeviceD0Exit o s).2) = lastReset log) :
    PipesInv (osrFxEvtDeviceD0Exit o s).1 (log ++ (osrFxEvtDeviceD0Exit o s).2) := by
  obtain ⟨hlock, hresets, -⟩ := stop_frame s .interrupt o
  have hstarted := stop_started s .interrupt
  refine ⟨?_, fun c hc => ?_, fun hfree => ?_, fun _ => ⟨hresets.trans hnil, ?_⟩⟩
  · change List.countP _ (s.stop .interrupt o).1.resets =
      (s.stop .interrupt o).1.resetDeviceWaitLock.toNat
    rw [hresets, hlock]
    exact h.holders
  · change c ∈ (s.stop .interrupt o).1.resets at hc
    rw [hresets, hnil] at hc
    cases hc
  · obtain ⟨hwrite, hread, -⟩ := h.settled (hlock.symm.trans hfree)
    refine ⟨?_, ?_, fun hd0 => by cases hd0⟩
    · rw [hlast]
      exact (hstarted .bulkWrite o).trans hwrite
    · intro hbulk
      exact (hstarted .bulkRead o).trans (hread ((hstarted .bulkWrite o).symm.trans hbulk))
  · exact hstarted .interrupt o

theorem completePending_quiet (s : HostPipes β) (pipe : HostPipe) (status : NTSTATUS)
    (length : Nat) (status' : NTSTATUS) :
    .released status' ∉ (s.completePending pipe status length).2 := by
  unfold HostPipes.completePending
  split
  · simp
  · simp

theorem send_quiet (s : HostPipes β) (pipe : HostPipe) (request : WdfRequest β)
    (r : Except (Completion β ULONG) (WdfRequest β)) (status : NTSTATUS) :
    .released status ∉ (s.send pipe request r).2 := by
  cases r with
  | error c => simp [HostPipes.send]
  | ok request' => simp [HostPipes.send]

theorem PipesInv.step (h : PipesInv s log) {e : PipesEvent β} (hacc : s.accepts e = true)
    (hstep : pipesHandle s e = some (s', out)) : PipesInv s' (log ++ out) := by
  cases e with
  | read request o =>
    obtain ⟨rfl, rfl⟩ := Prod.ext_iff.1 (Option.some.inj hstep)
    exact h.same (sameStarts_send s _ _ _) (lastReset_append_same log (send_quiet s _ _ _))
  | write request o =>
    obtain ⟨rfl, rfl⟩ := Prod.ext_iff.1 (Option.some.inj hstep)
    exact h.same (sameStarts_send s _ _ _) (lastReset_append_same log (send_quiet s _ _ _))
  | transferred pipe status length =>
    obtain ⟨rfl, rfl⟩ := Prod.ext_iff.1 (Option.some.inj hstep)
    exact h.same (sameStarts_completePending s _ _ _)
      (lastReset_append_same log (completePending_quiet s _ _ _))
  | ioStop pipe flags =>
    obtain ⟨rfl, rfl⟩ := Prod.ext_iff.1 (Option.some.inj hstep)
    exact h.same (sameStarts_ioStop s pipe flags) (lastReset_append_same log (by simp))
  | resetDevice request =>
    obtain ⟨rfl, rfl⟩ := Prod.ext_iff.1 (Option.some.inj hstep)
    have hd0 : s.power = .d0 := by simpa [HostPipes.accepts] using hacc
    have hlast : lastReset (log ++ [.dispatched request]) = lastReset log :=
      lastReset_append_same log (by simp)
    refine ⟨?_, fun c hc => ?_, fun hfree => ?_, fun hne => absurd hd0 hne⟩
    · rw [List.countP_append, h.holders]
      rfl
    · rcases List.mem_append.1 hc with hc | hc
      · exact h.knows c hc
      · rw [List.mem_singleton.1 hc]
        trivial
    · obtain ⟨hwrite, hread, hintr⟩ := h.settled hfree
      rw [← hlast] at hwrite hintr
      exact ⟨hwrite, hread, hintr⟩
  | resetNext i o => exact h.resetNext hstep
  | d0Entry o =>
    obtain ⟨rfl, rfl⟩ := Prod.ext_iff.1 (Option.some.inj hstep)
    rw [List.append_nil]
    exact h.d0Entry (by simpa [HostPipes.accepts] using hacc) o
  | d0Exit o =>
    obtain ⟨rfl, rfl⟩ := Prod.ext_iff.1 (Option.some.inj hstep)
    simp only [HostPipes.accepts, decide_eq_true_eq] at hacc
    exact h.d0Exit (List.isEmpty_iff.1 hacc.2.1) o
      (lastReset_append_same log (completePending_quiet s _ _ _))

theorem pipesStep_eq_some {e : PipesEvent β} : pipesStep s e = some (s', out) ↔
    s.accepts e = true ∧ pipesHandle s e = some (s', out) := by
  unfold pipesStep
  split
  · next hacc => simp [hacc]
  · next hacc => simp [hacc]

/-! ## Requests -/

def dispatchedIds (log : List (PipeRecord β)) : List Nat :=
  log.filterMap fun
    | .dispatched request => some request.id
    | .completed _ | .released _ => none

def completedIds (log : List (PipeRecord β)) : List Nat :=
  log.filterMap fun
    | .completed c => some c.request.id
    | .dispatched _ | .released _ => none

def IoTarget.pendingIds (target : IoTarget β) : List Nat :=
  target.pending.toList.map fun request => request.id

/-- The requests that the driver has. -/
def HostPipes.inFlight (s : HostPipes β) : List Nat :=
  (s.targets .interrupt).pendingIds ++ (s.targets .bulkRead).pendingIds ++
    (s.targets .bulkWrite).pendingIds ++ s.resets.map fun c => c.request.id

@[simp] theorem dispatchedIds_append (log out : List (PipeRecord β)) :
    dispatchedIds (log ++ out) = dispatchedIds log ++ dispatchedIds out := List.filterMap_append

@[simp] theorem completedIds_append (log out : List (PipeRecord β)) :
    completedIds (log ++ out) = completedIds log ++ completedIds out := List.filterMap_append

/-- What a callback dispatches and what it completes account for what is in flight. -/
def Balanced (s s' : HostPipes β) (out : List (PipeRecord β)) : Prop :=
  ∀ i, (dispatchedIds out).count i + s.inFlight.count i =
    (completedIds out).count i + s'.inFlight.count i

theorem count_setTarget (s : HostPipes β) (pipe : HostPipe) (target : IoTarget β) (i : Nat) :
    (s.setTarget pipe target).inFlight.count i + (s.targets pipe).pendingIds.count i =
      s.inFlight.count i + target.pendingIds.count i := by
  cases pipe <;> simp [HostPipes.inFlight, HostPipes.setTarget] <;> omega

theorem balanced_completePending (s : HostPipes β) (pipe : HostPipe) (status : NTSTATUS)
    (length : Nat) : Balanced s (s.completePending pipe status length).1
      (s.completePending pipe status length).2 := by
  intro i
  unfold HostPipes.completePending
  cases hpending : (s.targets pipe).pending with
  | none => rfl
  | some request =>
    have hcount := count_setTarget s pipe { s.targets pipe with pending := none } i
    simp only [IoTarget.pendingIds, hpending] at hcount
    simp only [dispatchedIds, completedIds, evtRequestCompletionRoutine]
    simp at hcount ⊢
    omega

theorem balanced_setTarget (s : HostPipes β) (pipe : HostPipe) (target : IoTarget β)
    (h : target.pending = (s.targets pipe).pending) : Balanced s (s.setTarget pipe target) [] := by
  intro i
  have hcount := count_setTarget s pipe target i
  rw [IoTarget.pendingIds, IoTarget.pendingIds, h] at hcount
  simp only [dispatchedIds, completedIds]
  simp
  omega

theorem Balanced.trans {s₁ : HostPipes β} {out' : List (PipeRecord β)} (h : Balanced s s₁ out)
    (h' : Balanced s₁ s' out') : Balanced s s' (out ++ out') := by
  intro i
  have hfirst := h i
  have hsecond := h' i
  simp only [dispatchedIds_append, completedIds_append, List.count_append]
  omega

theorem balanced_stop (s : HostPipes β) (pipe : HostPipe) (o : PipeOutcome) :
    Balanced s (s.stop pipe o).1 (s.stop pipe o).2 := by
  have hboth := (balanced_completePending s pipe o.status o.length).trans
    (balanced_setTarget _ pipe
      { (s.completePending pipe o.status o.length).1.targets pipe with started := false } rfl)
  rw [List.append_nil] at hboth
  exact hboth

theorem balanced_send {pipe : HostPipe} (h : (s.targets pipe).pending = none)
    (request : WdfRequest β) {r : Except (Completion β ULONG) (WdfRequest β)}
    (hr : r = .ok request ∨ ∃ status, r = .error (completeRequest .wdfRequest request status 0)) :
    Balanced s (s.send pipe request r).1 (s.send pipe request r).2 := by
  intro i
  rcases hr with rfl | ⟨status, rfl⟩
  · have hcount := count_setTarget s pipe
      { s.targets pipe with pending := some request, acknowledged := false } i
    simp only [IoTarget.pendingIds, h] at hcount
    simp only [HostPipes.send, dispatchedIds, completedIds]
    simp at hcount ⊢
    omega
  · simp [HostPipes.send, dispatchedIds, completedIds]

theorem count_resets (s : HostPipes β) (l r : List (ResetCall β)) (c : ResetCall β) (i : Nat) :
    { s with resets := l ++ c :: r }.inFlight.count i =
      { s with resets := l ++ r }.inFlight.count i + [c.request.id].count i := by
  simp only [HostPipes.inFlight, List.map_append, List.map_cons, List.count_append,
    List.count_cons, List.count_nil]
  omega

theorem balanced_resetNext {i : Nat} {o : PipeOutcome}
    (hstep : pipesHandle s (.resetNext i o) = some (s', out)) : Balanced s s' out := by
  obtain ⟨l, ⟨request, place⟩, r, s₁, place', hres, -, hnext, rfl⟩ := resetNext_eq_some.1 hstep
  have hs : s = { s with resets := l ++ ⟨request, place⟩ :: r } := by rw [← hres]
  -- A call that goes on is in flight as before, one that returns is completed.
  have hgoes : ∀ {s₁ : HostPipes β} {place' : ResetPlace}, Balanced s s₁ out →
      s₁.resets = s.resets →
        Balanced s { s₁ with resets := l ++ [⟨request, place'⟩] ++ r } out := by
    intro s₁ place' hbalanced hresets i
    have hfirst := hbalanced i
    have hs₁ : s₁ = { s₁ with resets := l ++ ⟨request, place⟩ :: r } := by rw [← hres, ← hresets]
    rw [hs₁, count_resets] at hfirst
    rw [List.append_assoc, List.singleton_append, count_resets]
    exact hfirst
  have hreturns : ∀ {lock : Bool}, dispatchedIds out = [] → completedIds out = [request.id] →
      Balanced s { s with resetDeviceWaitLock := lock, resets := l ++ r } out := by
    intro lock hdispatched hcompleted i
    rw [hdispatched, hcompleted, hs, count_resets, List.count_nil, Nat.zero_add, Nat.add_comm]
    rfl
  cases place with
  | acquire =>
    simp only [resetDeviceNext] at hnext
    split at hnext
    · cases hnext
      simpa using hreturns rfl rfl
    · split at hnext
      · cases hnext
      · cases hnext
        exact hgoes (fun _ => rfl) rfl
  | stopAllPipes pipe =>
    simp only [resetDeviceNext, Option.some.injEq, Prod.mk.injEq] at hnext
    obtain ⟨rfl, rfl, rfl⟩ := hnext
    exact hgoes (balanced_stop s pipe o) (stop_frame s pipe o).2.1
  | resetPort =>
    cases hnext
    exact hgoes (fun _ => rfl) rfl
  | startAllPipes pipe =>
    simp only [resetDeviceNext] at hnext
    split at hnext
    · cases hnext
      exact hgoes (fun _ => rfl) rfl
    · cases hnext
      exact hgoes (balanced_setTarget s pipe _ rfl) rfl
  | release status =>
    cases hnext
    simpa using hreturns rfl rfl

theorem balanced_step {e : PipesEvent β} (hacc : s.accepts e = true)
    (hstep : pipesHandle s e = some (s', out)) : Balanced s s' out := by
  cases e with
  | read request o =>
    obtain ⟨rfl, rfl⟩ := Prod.ext_iff.1 (Option.some.inj hstep)
    simp only [HostPipes.accepts, decide_eq_true_eq, Option.isNone_iff_eq_none] at hacc
    refine balanced_send hacc.2 request ((osrSendToPipe_cases request o).imp_right ?_)
    rintro ⟨status, -, herr⟩
    exact ⟨status, herr⟩
  | write request o =>
    obtain ⟨rfl, rfl⟩ := Prod.ext_iff.1 (Option.some.inj hstep)
    simp only [HostPipes.accepts, decide_eq_true_eq, Option.isNone_iff_eq_none] at hacc
    refine balanced_send hacc.2 request ((osrSendToPipe_cases request o).imp_right ?_)
    rintro ⟨status, -, herr⟩
    exact ⟨status, herr⟩
  | transferred pipe status length =>
    obtain ⟨rfl, rfl⟩ := Prod.ext_iff.1 (Option.some.inj hstep)
    exact balanced_completePending s pipe status length
  | ioStop pipe flags =>
    obtain ⟨rfl, rfl⟩ := Prod.ext_iff.1 (Option.some.inj hstep)
    refine balanced_setTarget s pipe _ ?_
    unfold osrFxEvtIoStop
    split
    · rfl
    · rfl
  | resetDevice request =>
    obtain ⟨rfl, rfl⟩ := Prod.ext_iff.1 (Option.some.inj hstep)
    intro i
    simp only [HostPipes.inFlight, dispatchedIds, completedIds]
    simp
    omega
  | resetNext i o => exact balanced_resetNext hstep
  | d0Entry o =>
    obtain ⟨rfl, rfl⟩ := Prod.ext_iff.1 (Option.some.inj hstep)
    cases o with
    | error e => exact fun _ => rfl
    | ok _ => exact balanced_setTarget s .interrupt _ rfl
  | d0Exit o =>
    obtain ⟨rfl, rfl⟩ := Prod.ext_iff.1 (Option.some.inj hstep)
    exact balanced_stop s .interrupt o

end UdeSample
