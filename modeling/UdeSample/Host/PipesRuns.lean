import UdeSample.Host.PipesSteps

/-!
# Runs of the pipes of the host driver

Resets exclude each other, and what the last one has left lasts until the next, whatever the power
does (`pipes_settled`). No request is lost (`pipes_answered`), and no request keeps the device from
leaving D0 (`pipes_sleep`).
-/

namespace UdeSample

open Lib

variable {β : Type} {s : HostPipes β} {log : List (PipeRecord β)}

theorem pipesRun_inv {t : List (PipesEvent β)} (h : pipesRun t = some (s, log)) :
    PipesInv s log := by
  refine run_invariant (P := fun _ q => PipesInv q.1 q.2) pipesInv_init ?_ h
  rintro - ⟨s, log⟩ e ⟨s', log'⟩ - hinv hlog
  obtain ⟨out, hstep, rfl⟩ := logged_eq_some.1 hlog
  obtain ⟨hacc, hhandle⟩ := pipesStep_eq_some.1 hstep
  exact hinv.step hacc hhandle

/-- **Resets exclude each other, and what a reset has left lasts until the next**: one that
returns with success has started all pipes and one that fails has not, whatever the port reset
answered, and going to D0 repairs the interrupt pipe only. -/
theorem pipes_settled {t : List (PipesEvent β)} (h : pipesRun t = some (s, log)) :
    s.resets.countP ResetCall.inside = s.resetDeviceWaitLock.toNat ∧
    (∀ c ∈ s.resets, ∀ status, c.place = .release status →
      (ntSuccess status = true ↔ ∀ pipe, (s.targets pipe).started = true)) ∧
    (s.resetDeviceWaitLock = false →
      (s.targets .bulkWrite).started = ntSuccess (lastReset log) ∧
      ((s.targets .bulkWrite).started = true → (s.targets .bulkRead).started = true) ∧
      (s.power = .d0 → ntSuccess (lastReset log) = true →
        ∀ pipe, (s.targets pipe).started = true)) ∧
    (s.power ≠ .d0 → s.resets = [] ∧ (s.targets .interrupt).started = false) := by
  have hinv := pipesRun_inv h
  refine ⟨hinv.holders, fun c hc status hplace => ?_, fun hfree => ?_, hinv.asleep⟩
  · have hknows := hinv.knows c hc
    rw [hplace] at hknows
    obtain ⟨n, hrunning, hn⟩ := hknows
    rw [hn]
    constructor
    · intro hall pipe
      rw [hrunning, decide_eq_true_iff]
      exact Nat.lt_of_lt_of_le (by cases pipe <;> decide) hall
    · intro hall
      have hlast := hrunning .bulkWrite
      rw [hall, eq_comm, decide_eq_true_iff] at hlast
      exact hlast
  · obtain ⟨hwrite, hread, hintr⟩ := hinv.settled hfree
    refine ⟨hwrite, hread, fun hd0 hok pipe => ?_⟩
    cases pipe with
    | interrupt => exact hintr hd0 hok
    | bulkRead => exact hread (hwrite.trans hok)
    | bulkWrite => exact hwrite.trans hok

/-- Everything succeeds, and what is pending is cancelled. -/
def canceling : PipeOutcome := ⟨.ok (), statusCancelled, 0⟩

/-- A read and two resets; the first cancels the read, the second cannot start the read pipe. -/
def crossedResets : List (PipesEvent UCHAR) :=
  [.d0Entry (.ok ()), .read ⟨0, .read, [0, 0]⟩ (.ok ()), .resetDevice ⟨1, .ioctl, []⟩,
    .resetDevice ⟨2, .ioctl, []⟩] ++ List.replicate 15 (.resetNext 0 canceling) ++
  [.resetNext 0 ⟨.error ⟨statusDeviceRemoved, rfl⟩, statusCancelled, 0⟩]

/-- Going to D0 again does not start the pipes for reads and writes. -/
theorem crossedResets_settled : ∃ s log,
    pipesRun (crossedResets ++ [.resetNext 0 canceling, .d0Exit canceling, .d0Entry (.ok ())]) =
      some (s, log) ∧ lastReset log = statusDeviceRemoved ∧
        (s.targets .bulkWrite).started = ntSuccess statusDeviceRemoved := by
  obtain ⟨⟨s, log⟩, hrun, hfree, hlast⟩ : ∃ q,
      pipesRun (crossedResets ++
        [.resetNext 0 canceling, .d0Exit canceling, .d0Entry (.ok ())]) = some q ∧
        q.1.resetDeviceWaitLock = false ∧ lastReset q.2 = statusDeviceRemoved :=
    ⟨_, rfl, rfl, rfl⟩
  exact ⟨s, log, hrun, hlast, hlast ▸ ((pipes_settled hrun).2.2.1 hfree).1⟩

/-- **No request is lost**: what was dispatched was completed or is in flight, each once. -/
theorem pipes_answered {t : List (PipesEvent β)} (h : pipesRun t = some (s, log)) :
    (dispatchedIds log).Perm (completedIds log ++ s.inFlight) := by
  have hbalanced : Balanced hostPipesInit s log := by
    refine run_invariant (P := fun _ q => Balanced hostPipesInit q.1 q.2) (fun _ => rfl) ?_ h
    rintro - ⟨s, log⟩ e ⟨s', log'⟩ - hinv hlog
    obtain ⟨out, hstep, rfl⟩ := logged_eq_some.1 hlog
    obtain ⟨hacc, hhandle⟩ := pipesStep_eq_some.1 hstep
    exact hinv.trans (balanced_step hacc hhandle)
  refine List.perm_iff_count.2 fun i => ?_
  rw [List.count_append, ← hbalanced i]
  rfl

theorem crossedResets_answered : ∃ s log, pipesRun crossedResets = some (s, log) ∧
    s.inFlight = [2] ∧ (dispatchedIds log).Perm (completedIds log ++ [2]) := by
  obtain ⟨⟨s, log⟩, hrun, hflight⟩ : ∃ q, pipesRun crossedResets = some q ∧
      q.1.inFlight = [2] := ⟨_, rfl, rfl⟩
  exact ⟨s, log, hrun, hflight, hflight ▸ pipes_answered hrun⟩

/-! ## Sleeping -/

/-- The calls that a `ResetDevice` still has to make. -/
def ResetPlace.left : ResetPlace → Nat
  | .acquire => 9
  | .stopAllPipes pipe => 8 - pipe.index
  | .resetPort => 5
  | .startAllPipes pipe => 4 - pipe.index
  | .release _ => 1

def HostPipes.left (s : HostPipes β) : Nat := (s.resets.map fun c => c.place.left).sum

theorem resetDeviceNext_left (request : WdfRequest β) (o : PipeOutcome) {place : ResetPlace}
    (h : place = .acquire → s.resetDeviceWaitLock = false) : ∃ s₁ place' out,
      resetDeviceNext request o s place = some (s₁, place', out) ∧
        (place'.map ResetPlace.left).getD 0 < place.left ∧ s₁.power = s.power := by
  cases place with
  | acquire =>
    unfold resetDeviceNext
    cases o.result with
    | error e => exact ⟨_, _, _, rfl, by decide, rfl⟩
    | ok _ =>
      rw [h rfl]
      exact ⟨_, _, _, rfl, by decide, rfl⟩
  | stopAllPipes pipe =>
    exact ⟨_, _, _, rfl, by cases pipe <;> decide, (stop_frame s pipe o).2.2⟩
  | resetPort => exact ⟨_, _, _, rfl, by decide, rfl⟩
  | startAllPipes pipe =>
    unfold resetDeviceNext
    cases o.result with
    | error e =>
      exact ⟨_, _, _, rfl, by cases pipe <;> simp [ResetPlace.left, HostPipe.index], rfl⟩
    | ok _ => exact ⟨_, _, _, rfl, by cases pipe <;> decide, rfl⟩
  | release status => exact ⟨_, _, _, rfl, Nat.one_pos, rfl⟩

/-- The lock is never waited for by all. -/
theorem PipesInv.exists_resetNext (h : PipesInv s log) (hne : s.resets ≠ []) (o : PipeOutcome) :
    ∃ i s' out, pipesHandle s (.resetNext i o) = some (s', out) ∧ s'.left < s.left ∧
      s'.power = s.power := by
  obtain ⟨c, hc, hplace⟩ : ∃ c ∈ s.resets,
      c.place = .acquire → s.resetDeviceWaitLock = false := by
    cases hlock : s.resetDeviceWaitLock with
    | false =>
      obtain ⟨c, hc⟩ := List.exists_mem_of_ne_nil _ hne
      exact ⟨c, hc, fun _ => rfl⟩
    | true =>
      have hcount := h.holders
      rw [hlock] at hcount
      obtain ⟨c, hc, hin⟩ := List.countP_pos_iff.1 (Nat.lt_of_lt_of_eq Nat.one_pos hcount.symm)
      refine ⟨c, hc, fun hacq => ?_⟩
      simp only [ResetCall.inside, hacq] at hin
      cases hin
  obtain ⟨l, r, hres⟩ := List.append_of_mem hc
  obtain ⟨s₁, place', out, hnext, hleft, hpower⟩ :=
    resetDeviceNext_left c.request o hplace
  refine ⟨l.length, _, out, resetNext_eq_some.2 ⟨l, c, r, s₁, place', hres, rfl, hnext, rfl⟩, ?_,
    hpower⟩
  rw [HostPipes.left, HostPipes.left, hres]
  cases place' with
  | none => simpa using hleft
  | some place' => simpa using hleft

/-- A step that takes no transfer and no application, when the framework answers `o`. -/
def OwnStep (o : HostPipes β → PipeOutcome) (s : HostPipes β) : PipesEvent β → Prop
  | .resetNext _ a | .d0Exit a => a = o s
  | .ioStop _ flags => flags = ⟨true, false⟩
  | .read _ _ | .write _ _ | .transferred _ _ _ | .resetDevice _ | .d0Entry _ => False

theorem run_resets (o : HostPipes β → PipeOutcome) (h : PipesInv s log) (hd0 : s.power = .d0) :
    ∃ t s' log', run (logged pipesStep) (s, log) t = some (s', log') ∧
      Along (fun q e => OwnStep o q.1 e) (logged pipesStep) (s, log) t ∧ PipesInv s' log' ∧
        s'.power = .d0 ∧ s'.resets = [] := by
  induction hn : s.left using Nat.strongRecOn generalizing s log with
  | ind n ih =>
    by_cases hnil : s.resets = []
    · exact ⟨[], s, log, rfl, trivial, h, hd0, hnil⟩
    obtain ⟨i, s₁, out, hhandle, hleft, hpower⟩ := h.exists_resetNext hnil (o s)
    have hstep : logged pipesStep (s, log) (.resetNext i (o s)) = some (s₁, log ++ out) :=
      logged_eq_some.2 ⟨out, pipesStep_eq_some.2 ⟨rfl, hhandle⟩, rfl⟩
    obtain ⟨t, s', log', hrun, halong, hinv, hend⟩ :=
      ih s₁.left (hn ▸ hleft) (h.resetNext hhandle) (hpower.trans hd0) rfl
    refine ⟨.resetNext i (o s) :: t, s', log', ?_, ⟨rfl, fun q hq => ?_⟩, hinv, hend⟩
    · rw [run_cons, hstep]
      exact hrun
    · cases hstep.symm.trans hq
      exact halong

/-- `OsrFxEvtIoStop` for what is pending at the pipe. -/
theorem run_ioStop (o : HostPipes β → PipeOutcome) (hd0 : s.power = .d0) (hnil : s.resets = [])
    (pipe : HostPipe) (log : List (PipeRecord β)) :
    ∃ t s', run (logged pipesStep) (s, log) t = some (s', log) ∧
      Along (fun q e => OwnStep o q.1 e) (logged pipesStep) (s, log) t ∧ s'.power = .d0 ∧
        s'.resets = [] ∧ (s'.targets pipe).quiet = true ∧
          ∀ q, q ≠ pipe → s'.targets q = s.targets q := by
  by_cases hquiet : (s.targets pipe).quiet = true
  · exact ⟨[], s, rfl, trivial, hd0, hnil, hquiet, fun q hq => rfl⟩
  have hsome : (s.targets pipe).pending.isSome = true := by
    cases hpending : (s.targets pipe).pending with
    | none => simp [IoTarget.quiet, hpending] at hquiet
    | some request => rfl
  have hstep : logged pipesStep (s, log) (.ioStop pipe ⟨true, false⟩) =
      some (s.setTarget pipe { s.targets pipe with acknowledged := true }, log) := by
    refine logged_eq_some.2 ⟨[], pipesStep_eq_some.2 ⟨?_, rfl⟩, (List.append_nil log).symm⟩
    simp [HostPipes.accepts, hd0, hsome]
  refine ⟨[.ioStop pipe ⟨true, false⟩],
    s.setTarget pipe { s.targets pipe with acknowledged := true }, ?_,
    ⟨rfl, fun _ _ => trivial⟩, hd0, hnil, ?_, ?_⟩
  · rw [run_cons, hstep]
    rfl
  · simp [HostPipes.setTarget, IoTarget.quiet]
  · intro q hq
    exact Function.update_of_ne hq _ _

theorem PipesInv.sleep (h : PipesInv s log) (hd0 : s.power = .d0)
    (o : HostPipes β → PipeOutcome) : ∃ t s' log',
      run (logged pipesStep) (s, log) t = some (s', log') ∧
        Along (fun q e => OwnStep o q.1 e) (logged pipesStep) (s, log) t ∧
          s'.power = .off ∧ s'.resets = [] := by
  obtain ⟨t₁, s₁, log₁, hrun₁, halong₁, -, hpower₁, hnil₁⟩ := run_resets o h hd0
  obtain ⟨t₂, s₂, hrun₂, halong₂, hpower₂, hnil₂, hread₂, -⟩ :=
    run_ioStop o hpower₁ hnil₁ .bulkRead log₁
  obtain ⟨t₃, s₃, hrun₃, halong₃, hpower₃, hnil₃, hwrite₃, hother₃⟩ :=
    run_ioStop o hpower₂ hnil₂ .bulkWrite log₁
  have hacc : s₃.accepts (.d0Exit (o s₃)) = true := by
    have hread₃ : (s₃.targets .bulkRead).quiet = true := by
      rw [hother₃ .bulkRead (by decide)]
      exact hread₂
    simp [HostPipes.accepts, hpower₃, hnil₃, hread₃, hwrite₃]
  have hstep : logged pipesStep (s₃, log₁) (.d0Exit (o s₃)) =
      some ((osrFxEvtDeviceD0Exit (o s₃) s₃).1, log₁ ++ (osrFxEvtDeviceD0Exit (o s₃) s₃).2) :=
    logged_eq_some.2 ⟨_, pipesStep_eq_some.2 ⟨hacc, rfl⟩, rfl⟩
  have hrun : run (logged pipesStep) (s, log) (t₁ ++ (t₂ ++ (t₃ ++ [.d0Exit (o s₃)]))) =
      some ((osrFxEvtDeviceD0Exit (o s₃) s₃).1, log₁ ++ (osrFxEvtDeviceD0Exit (o s₃) s₃).2) := by
    simp only [run_append, hrun₁, hrun₂, hrun₃, Option.bind_some, run_cons, hstep, run_nil]
  refine ⟨_, _, _, hrun, ?_, rfl, (stop_frame s₃ .interrupt (o s₃)).2.1.trans hnil₃⟩
  refine (along_append hrun₁).2 ⟨halong₁, (along_append hrun₂).2 ⟨halong₂, ?_⟩⟩
  exact (along_append hrun₃).2 ⟨halong₃, rfl, fun _ _ => trivial⟩

/-- **Nothing keeps the device from leaving D0**: whatever the framework answers, the resets return
and the transfers are acknowledged, none of them waiting for the device or an application. -/
theorem pipes_sleep {t : List (PipesEvent β)} (h : pipesRun t = some (s, log))
    (hd0 : s.power = .d0) (o : HostPipes β → PipeOutcome) : ∃ t' s' log',
      run (logged pipesStep) (s, log) t' = some (s', log') ∧
        Along (fun q e => OwnStep o q.1 e) (logged pipesStep) (s, log) t' ∧
          s'.power = .off ∧ s'.resets = [] :=
  (pipesRun_inv h).sleep hd0 o

theorem crossedResets_sleep : ∃ s log, pipesRun crossedResets = some (s, log) ∧
    ∃ t' s' log', run (logged pipesStep) (s, log) t' = some (s', log') ∧ s'.power = .off := by
  obtain ⟨⟨s, log⟩, hrun, hd0⟩ : ∃ q, pipesRun crossedResets = some q ∧ q.1.power = .d0 :=
    ⟨_, rfl, rfl⟩
  obtain ⟨t', s', log', hrun', -, hoff, -⟩ := pipes_sleep hrun hd0 fun _ => canceling
  exact ⟨s, log, hrun, t', s', log', hrun', hoff⟩

end UdeSample
