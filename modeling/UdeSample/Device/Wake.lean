import UdeSample.Device.Run

/-!
# Waking the host

`Io_RaiseInterrupt` does not look at `IsAwake`: it wakes the host whenever it finds no deferred URB.
That suffices because a sleeping device has none (`AsleepIdle`): the power callbacks purge and start
`IntrDeferredQueue` together with the flag. The raised value stays cached until an interrupt URB
comes, which takes the latest one (`remoteWake`). An interrupt URB that comes while the device is
still asleep takes the value too, so that the first one after the link power entry may find none
(`asleepUrb_takesValue`).
-/

namespace UdeSample

open Lib

variable {β F : Type}

/-- The event lets `IoEvtInterruptInUrb` look at the cached update. -/
def DeviceEvent.IsInterruptUrb : DeviceEvent β F → Prop
  | .dispatch request ioControlCode _ =>
    request.source = .interruptIn ∧ ioControlCode = ioctlInternalUsbSubmitUrb
  | .raise _ _ | .cancel _ _ | .linkPowerEntry | .linkPowerExit => False

def DeviceEvent.raisedValue : DeviceEvent β F → Option F
  | .raise v _ => some v
  | .dispatch _ _ _ | .cancel _ _ | .linkPowerEntry | .linkPowerExit => none

/-- The last raise of some events, or `v` if they contain none. -/
def lastRaised (v : F) (t : List (DeviceEvent β F)) : F :=
  (t.filterMap DeviceEvent.raisedValue).getLast?.getD v

/-- A transfer buffer that `IoCompletePendingRequest` can fill. -/
def WellFormedUrb (request : WdfRequest β) (retrieve : NtResult Unit) : Prop :=
  retrieve = .ok () ∧ request.buffer.length = sizeofDeviceIntrFlags

/-! ## A sleeping device has no deferred URB -/

/-- A sleeping device has no deferred URB and accepts none. -/
def AsleepIdle (s : DeviceState β F) : Prop :=
  s.isAwake = false →
    s.io.intrDeferredQueue.requests = [] ∧ s.io.intrDeferredQueue.accepting = false

theorem deviceStep_asleepIdle [Zero F] {s s' : DeviceState β F} {e : DeviceEvent β F}
    {fx : List (Effect β F)} (hs : AsleepIdle s) (h : deviceStep s e = some (s', fx)) :
    AsleepIdle s' := by
  cases deviceStep_effect h with
  | control => exact hs
  | write ch | read ch => cases ch <;> exact hs
  | urb _ hurb =>
    intro hasleep
    obtain ⟨hempty, hrejects⟩ := hs hasleep
    cases hurb with
    | dropped | answered | refused => exact ⟨hempty, hrejects⟩
    | deferred _ _ hfwd =>
      rw [hrejects] at hfwd
      cases hfwd.1
  | raise hraise =>
    intro hasleep
    obtain ⟨hempty, hrejects⟩ := hs hasleep
    cases hraise with
    | cached => exact ⟨hempty, hrejects⟩
    | handed hread =>
      rw [hempty] at hread
      cases hread
  | @cancel queue request l m hqueue =>
    intro hasleep
    cases queue with
    | missionRequest | missionCompletion => exact hs hasleep
    | intrDeferred =>
      have hempty : s.io.intrDeferredQueue.requests = [] := (hs hasleep).1
      have hne : s.io.intrDeferredQueue.requests = l ++ request :: m := hqueue
      rw [hempty] at hne
      cases l <;> cases hne
  | linkPowerEntry => intro hasleep; cases hasleep
  | linkPowerExit => exact fun _ => ⟨rfl, rfl⟩

theorem deviceRun_asleepIdle [Zero F] {t : List (DeviceEvent β F)} {s : DeviceState β F}
    {log : List (Effect β F)} (hrun : deviceRun t = some (s, log)) : AsleepIdle s := by
  refine run_invariant (P := fun _ p => AsleepIdle p.1) (fun hasleep => by cases hasleep) ?_ hrun
  intro t p e p' _ hp hstep
  obtain ⟨out, hout, -⟩ := logged_eq_some.1 hstep
  exact deviceStep_asleepIdle hp hout

/-! ## A raised value waits for an interrupt URB -/

/-- The value `v` is cached and no URB waits. -/
structure CachedUpdate (v : F) (s : DeviceState β F) : Prop where
  idle : s.io.intrDeferredQueue.requests = []
  unread : 0 < s.io.intrState.numUnreadUpdates
  latest : s.io.intrState.latestStatus = v

theorem raise_of_idle [Zero F] {s : DeviceState β F} (hidle : s.io.intrDeferredQueue.requests = [])
    (v : F) (o : Outcomes) :
    deviceStep s (.raise v o) = some ({ s with io := ioCacheUpdate v s.io }, [.signalWake]) := by
  simp [deviceStep, ioRaiseInterrupt, ioTakeDeferred, wdfIoQueueRetrieveNextRequest, hidle]

theorem cachedUpdate_raise {s : DeviceState β F} (hidle : s.io.intrDeferredQueue.requests = [])
    (v : F) : CachedUpdate v { s with io := ioCacheUpdate v s.io } :=
  ⟨hidle, DeviceIntrState.cache_pos (by decide) v s.io.intrState,
    DeviceIntrState.cache_latestStatus v s.io.intrState⟩

theorem CachedUpdate.step [Zero F] {v : F} {s s' : DeviceState β F} {e : DeviceEvent β F}
    {fx : List (Effect β F)} (hc : CachedUpdate v s) (hurb : ¬ e.IsInterruptUrb)
    (h : deviceStep s e = some (s', fx)) : CachedUpdate (e.raisedValue.getD v) s' := by
  have hstep := h
  cases deviceStep_effect h with
  | control => exact hc
  | write ch | read ch => cases ch <;> exact ⟨hc.idle, hc.unread, hc.latest⟩
  | urb hsource hstep =>
    cases hstep with
    | dropped => exact ⟨hc.idle, hc.unread, hc.latest⟩
    | answered hcode | deferred hcode | refused hcode => exact absurd ⟨hsource, hcode⟩ hurb
  | @raise w o io _ hraise =>
    rw [raise_of_idle hc.idle] at hstep
    obtain ⟨heq, -⟩ := Prod.mk.inj (Option.some.inj hstep)
    rw [← heq]
    exact cachedUpdate_raise hc.idle w
  | @cancel queue request l m hqueue =>
    cases queue with
    | missionRequest | missionCompletion => exact ⟨hc.idle, hc.unread, hc.latest⟩
    | intrDeferred =>
      have hne : s.io.intrDeferredQueue.requests = l ++ request :: m := hqueue
      rw [hc.idle] at hne
      cases l <;> cases hne
  | linkPowerEntry => exact ⟨hc.idle, hc.unread, hc.latest⟩
  | linkPowerExit => exact ⟨rfl, hc.unread, hc.latest⟩

theorem lastRaised_concat (v : F) (t : List (DeviceEvent β F)) (e : DeviceEvent β F) :
    lastRaised v (t ++ [e]) = e.raisedValue.getD (lastRaised v t) := by
  unfold lastRaised
  cases he : e.raisedValue with
  | none => simp [List.filterMap_append, he]
  | some w => simp [List.filterMap_append, he]

theorem CachedUpdate.run [Zero F] {v : F} {s s' : DeviceState β F} {t : List (DeviceEvent β F)}
    {fx : List (Effect β F)} (hc : CachedUpdate v s) (hurb : ∀ e ∈ t, ¬ e.IsInterruptUrb)
    (hrun : run (logged deviceStep) (s, []) t = some (s', fx)) :
    CachedUpdate (lastRaised v t) s' := by
  have hnil : CachedUpdate (lastRaised v ([] : List (DeviceEvent β F))) s := hc
  refine run_invariant_along (C := fun _ e => ¬ e.IsInterruptUrb)
    (P := fun t p => CachedUpdate (lastRaised v t) p.1) hnil ?_ hrun
    (along_of_events (fun e he _ => hurb e he) (s, []))
  intro t p e p' _ hp hno hstep
  obtain ⟨out, hout, -⟩ := logged_eq_some.1 hstep
  rw [lastRaised_concat]
  exact hp.step hno hout

theorem CachedUpdate.urb [Zero F] {v : F} {s : DeviceState β F} (hc : CachedUpdate v s)
    {request : WdfRequest β} {o : Outcomes} (hsource : request.source = .interruptIn)
    (hwf : WellFormedUrb request o.retrieve) :
    ∃ s', deviceStep s (.dispatch request ioctlInternalUsbSubmitUrb o) =
      some (s', [.complete { request, api := .udecxUrb, status := statusSuccess
                             information := sizeofDeviceIntrFlags, data := .flags v }]) := by
  refine ⟨{ s with io := { s.io with intrState := .cleared } }, ?_⟩
  obtain ⟨hretrieve, hlen⟩ := hwf
  simp [deviceStep, hsource, ioEvtInterruptInUrb, ioTakeUpdate, hc.unread, hc.latest,
    ioCompletePendingRequest, udecxUrbRetrieveBuffer, hretrieve, Except.map, hlen]

/-- **A sleeping device wakes the host**: a raise completes no URB, is cached and signals the wake.
The next interrupt URB, if it is well formed, gets the value of the latest raise, whatever link
power callbacks come in between. -/
theorem remoteWake [Zero F] {t : List (DeviceEvent β F)} {s : DeviceState β F}
    {log : List (Effect β F)} (hrun : deviceRun t = some (s, log))
    (hasleep : s.isAwake = false) :
    s.io.intrDeferredQueue.requests = [] ∧
    (∀ r o, ∃ e, wdfRequestForwardToIoQueue r s.io.intrDeferredQueue o = .error e) ∧
    ∀ v o, ∃ s', deviceStep s (.raise v o) = some (s', [.signalWake]) ∧
      0 < s'.io.intrState.numUnreadUpdates ∧ s'.io.intrState.latestStatus = v ∧
      ∀ t' s'' log', run (logged deviceStep) (s', []) t' = some (s'', log') →
        (∀ e ∈ t', ¬ e.IsInterruptUrb) →
        ∀ urb o', urb.source = .interruptIn → WellFormedUrb urb o'.retrieve →
          ∃ s₃, deviceStep s'' (.dispatch urb ioctlInternalUsbSubmitUrb o') =
            some (s₃, [.complete
              { request := urb, api := .udecxUrb, status := statusSuccess
                information := sizeofDeviceIntrFlags, data := .flags (lastRaised v t') }]) := by
  obtain ⟨hidle, hrejects⟩ := deviceRun_asleepIdle hrun hasleep
  refine ⟨hidle, ?_, ?_⟩
  · intro r o
    exact ⟨o.error, by simp [wdfRequestForwardToIoQueue, hrejects]⟩
  · intro v o
    have hcached := cachedUpdate_raise (F := F) hidle v
    refine ⟨_, raise_of_idle hidle v o, hcached.unread, hcached.latest, ?_⟩
    intro t' s'' log' hrun' hurb urb o' hsource hwf
    exact (hcached.run hurb hrun').urb hsource hwf

def interruptUrb (i : Nat) : WdfRequest UInt8 := ⟨i, .interruptIn, [0, 0, 0, 0]⟩

/-- Asleep, 10 is raised; after the link power entry 11 is raised. -/
theorem asleepRaise_delivered : ∃ s s' log, deviceRun [.linkPowerExit] = some (s, log) ∧
    deviceStep s (.raise 10 outcomesOk) = some (s', [.signalWake]) ∧
    ∃ s'' log', run (logged deviceStep) (s', ([] : List (Effect UInt8 ULONG)))
      [.linkPowerEntry, .raise 11 outcomesOk] = some (s'', log') ∧
    ∃ s₃, deviceStep s'' (.dispatch (interruptUrb 0) ioctlInternalUsbSubmitUrb outcomesOk) =
      some (s₃, [.complete ⟨interruptUrb 0, .udecxUrb, statusSuccess, 4, .flags 11⟩]) := by
  obtain ⟨-, -, h⟩ := remoteWake (β := UInt8) (F := ULONG) (t := [.linkPowerExit]) rfl rfl
  obtain ⟨s', hraise, -, -, h⟩ := h 10 outcomesOk
  have hs' := hraise
  obtain ⟨rfl, -⟩ := Prod.mk.inj (Option.some.inj hs')
  refine ⟨_, _, _, rfl, hraise, _, _, rfl, ?_⟩
  exact h [.linkPowerEntry, .raise 11 outcomesOk] _ _ rfl (by simp [DeviceEvent.IsInterruptUrb])
    (interruptUrb 0) outcomesOk rfl ⟨rfl, rfl⟩

/-- 10 is raised asleep, and an interrupt URB asleep takes it: the first one after the link power
entry waits. Without the first URB, a raise after the link power entry replaces 10. -/
theorem asleepUrb_takesValue :
    (∃ s log, deviceRun [.linkPowerExit, .raise 10 outcomesOk,
        .dispatch (interruptUrb 0) ioctlInternalUsbSubmitUrb outcomesOk, .linkPowerEntry,
        .dispatch (interruptUrb 1) ioctlInternalUsbSubmitUrb outcomesOk] = some (s, log) ∧
      completions log =
        [⟨interruptUrb 0, .udecxUrb, statusSuccess, 4, .flags (10 : ULONG)⟩] ∧
      s.io.intrDeferredQueue.requests = [interruptUrb 1]) ∧
    ∃ s log, deviceRun [.linkPowerExit, .raise 10 outcomesOk, .linkPowerEntry,
        .raise 11 outcomesOk,
        .dispatch (interruptUrb 0) ioctlInternalUsbSubmitUrb outcomesOk] = some (s, log) ∧
      completions log =
        [⟨interruptUrb 0, .udecxUrb, statusSuccess, 4, .flags (11 : ULONG)⟩] :=
  ⟨⟨_, _, rfl, rfl, rfl⟩, _, _, rfl, rfl⟩

end UdeSample
