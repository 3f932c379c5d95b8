import UdeSample.Device.Fifo

/-!
# Every request is completed through its own calls

Requests of an endpoint queue are URBs and must be completed with `UdecxUrbCompleteWithNtStatus`,
requests of the back channel with `WdfRequestComplete`. The same code parks and answers both, and
three cancel callbacks complete what the framework takes back. `ProperlyQueued` ties them together:
a manual queue holds requests of one source only, and its cancel callback fits that source.

The runs here are those of the whole driver: the handlers of `deviceStep`, the control requests of
the back channel, the power transitions of the controller and the purge that precedes a disconnect.
-/

namespace UdeSample

open Lib

variable {β F : Type}

/-- The calls that complete the requests of a source. -/
def RequestSource.api : RequestSource → CompletionApi
  | .control | .bulkOut | .bulkIn | .interruptIn => .udecxUrb
  | .read | .write | .ioctl => .wdfRequest

/-! ## Runs of the driver -/

/-- `ControllerEvtIoDeviceControl` while the device is plugged in; `handled` is what
`UdecxWdfDeviceTryHandleUserIoctl` answers. -/
def deviceControl (flagsOf : List β → F) (handled : Bool) (ioControlCode : ULONG)
    (request : WdfRequest β) (retrieve : NtResult Unit) (o : Outcomes) (s : DeviceState β F) :
    Option (DeviceState β F × List (Effect β F)) :=
  if handled then some (s, [])
  else
    (backChannelIoctl flagsOf
      (fun latestStatus s =>
        let (status, io, effects) := ioRaiseInterrupt latestStatus o s.io
        some ((status, effects), { s with io }))
      ioControlCode request retrieve s).map fun ((handled, effects), s) =>
        if handled then (s, effects)
        else (s, [.complete (completeRequest .wdfRequest request statusInvalidDeviceRequest 0)])

/-- The two read queues are power managed: out of D0 no request can be retrieved from them. -/
def DeviceState.setDispatching (s : DeviceState β F) (dispatching : Bool) : DeviceState β F :=
  { s with
    missionRequest.readBufferQueue.dispatching := dispatching
    missionCompletion.readBufferQueue.dispatching := dispatching }

inductive DriverEvent (β F : Type) where
  | device (e : DeviceEvent β F)
  | deviceControl (handled : Bool) (ioControlCode : ULONG) (request : WdfRequest β)
    (retrieve : NtResult Unit) (o : Outcomes)
  /-- the controller enters or leaves D0 -/
  | controllerPower (d0 : Bool)
  /-- `Io_StopDeferredProcessing` -/
  | stopDeferredProcessing

/-- A request reaches the handler of its source only. -/
def driverStep [Zero F] (flagsOf : List β → F) (s : DeviceState β F) :
    DriverEvent β F → Option (DeviceState β F × List (Effect β F))
  | .device e => deviceStep s e
  | .deviceControl handled ioControlCode request retrieve o =>
    if request.source = .ioctl then
      deviceControl flagsOf handled ioControlCode request retrieve o s
    else none
  | .controllerPower d0 => some (s.setDispatching d0, [])
  | .stopDeferredProcessing =>
    let (io, effects) := ioStopDeferredProcessing s.io
    some ({ s with io }, effects)

def driverRun [Zero F] (flagsOf : List β → F) (t : List (DriverEvent β F)) :
    Option (DeviceState β F × List (Effect β F)) :=
  run (logged (driverStep flagsOf)) (deviceInit, []) t

/-! ## The invariant -/

/-- Every manual queue holds requests of its own source only, and its cancel callback completes
them as that source demands. -/
structure ProperlyQueued (s : DeviceState β F) : Prop where
  typed : s.Typed
  canceled : ∀ queue, (s.manualQueue queue).evtIoCanceledOnQueue = queue.source.api

/-- Every request is completed through the calls of its source. -/
def ProperlyCompleted (fx : List (Effect β F)) : Prop :=
  ∀ c ∈ completions fx, c.api = c.request.source.api

theorem deviceInit_properlyQueued [Zero F] : ProperlyQueued (deviceInit : DeviceState β F) :=
  ⟨deviceInit_typed, fun queue => by cases queue <;> rfl⟩

@[simp] theorem ProperlyCompleted.nil : ProperlyCompleted ([] : List (Effect β F)) := by
  simp [ProperlyCompleted]

theorem ProperlyCompleted.append {fx gx : List (Effect β F)} (hf : ProperlyCompleted fx)
    (hg : ProperlyCompleted gx) : ProperlyCompleted (fx ++ gx) := by
  intro c hc
  rw [completions_append] at hc
  exact (List.mem_append.1 hc).elim (hf c) (hg c)

theorem ProperlyCompleted.single {api : CompletionApi} {r : WdfRequest β} {status : NTSTATUS}
    {n : Nat} (h : api = r.source.api) :
    ProperlyCompleted (F := F) [.complete (completeRequest api r status n)] := by
  intro c hc
  obtain rfl : c = completeRequest api r status n := by simpa using hc
  exact h

/-- The purge of a queue whose cancel callback fits its requests. -/
theorem ProperlyCompleted.canceled {q : WdfQueue β} {source : RequestSource}
    (hsource : ∀ r ∈ q.requests, r.source = source) (hapi : q.evtIoCanceledOnQueue = source.api) :
    ProperlyCompleted (F := F) (q.requests.map fun r => .complete (q.canceled r)) := by
  intro c hc
  rw [completions_map_complete] at hc
  obtain ⟨r, hr, rfl⟩ := List.mem_map.1 hc
  rw [WdfQueue.canceled_request, hsource r hr]
  exact hapi

/-! ## One event -/

theorem WriteStep.properlyCompleted {api readApi : CompletionApi} {request : WdfRequest β}
    {ok : Prop} {q q' : WRQueue β} {fx : List (Effect β F)}
    (h : WriteStep api readApi request ok q q' fx) (hapi : api = request.source.api)
    (hread : ∀ r ∈ q.readBufferQueue.requests, readApi = r.source.api) :
    ProperlyCompleted fx := by
  cases h with
  | refused | stored => exact .single hapi
  | lost _ hq =>
    exact .append (.single (hread _ (by simp [hq]))) (.single hapi)
  | @handed matchingRead rs _ hq =>
    intro c hc
    simp only [completions_complete, completions_nil, List.mem_cons, List.not_mem_nil,
      or_false] at hc
    rcases hc with rfl | rfl
    · exact hread matchingRead (by simp [hq])
    · exact hapi

theorem ReadStep.properlyCompleted {api : CompletionApi} {request : WdfRequest β} {ok : Prop}
    {q q' : WRQueue β} {fx : List (Effect β F)} (h : ReadStep api request ok q q' fx)
    (hapi : api = request.source.api) : ProperlyCompleted fx := by
  cases h with
  | dropped | parked => exact .nil
  | served =>
    intro c hc
    obtain rfl := List.mem_singleton.1 hc
    exact hapi

@[simp] theorem ioCompletePendingRequest_api (r : WdfRequest β) (v : F) (o : NtResult Unit) :
    (ioCompletePendingRequest r v o).api = .udecxUrb := by
  unfold ioCompletePendingRequest
  split
  · rfl
  · split <;> rfl

/-- A completion by `IoCompletePendingRequest`. -/
theorem ProperlyCompleted.pending {r : WdfRequest β} {v : F} {o : NtResult Unit}
    (hsource : r.source = .interruptIn) :
    ProperlyCompleted [.complete (ioCompletePendingRequest r v o)] := by
  intro c hc
  obtain rfl : c = ioCompletePendingRequest r v o := by simpa using hc
  rw [ioCompletePendingRequest_api, ioCompletePendingRequest_request, hsource]
  rfl

theorem UrbStep.properlyCompleted [Zero F] {code : ULONG} {request : WdfRequest β} {o : Outcomes}
    {io io' : IoContext β F} {fx : List (Effect β F)} (h : UrbStep code request o io io' fx)
    (hsource : request.source = .interruptIn) : ProperlyCompleted fx := by
  cases h with
  | dropped | deferred => exact .nil
  | answered => exact .pending hsource
  | refused => exact .single (by rw [hsource]; rfl)

theorem RaiseStep.properlyCompleted {v : F} {o : Outcomes} {io io' : IoContext β F}
    {fx : List (Effect β F)} (h : RaiseStep v o io io' fx)
    (hsource : ∀ r ∈ io.intrDeferredQueue.requests, r.source = .interruptIn) :
    ProperlyCompleted fx := by
  cases h with
  | cached => simp [ProperlyCompleted]
  | handed hread => exact .pending (hsource _ (by simp [hread]))

theorem ioEvtControlUrb_properlyCompleted (code : ULONG) {request : WdfRequest β} (o : Outcomes)
    (hsource : request.source = .control) :
    ProperlyCompleted (ioEvtControlUrb code request o : List (Effect β F)) := by
  have hapi : CompletionApi.udecxUrb = request.source.api := by rw [hsource]; rfl
  unfold ioEvtControlUrb
  split
  · split <;> exact .single hapi
  · exact .nil

/-- No event changes the cancel callback of a queue. -/
theorem DeviceEffect.evtIoCanceledOnQueue [Zero F] {s s' : DeviceState β F} {e : DeviceEvent β F}
    {fx : List (Effect β F)} (h : DeviceEffect s e s' fx) (queue : ManualQueue) :
    (s'.manualQueue queue).evtIoCanceledOnQueue =
      (s.manualQueue queue).evtIoCanceledOnQueue := by
  cases h with
  | control => rfl
  | write ch _ hwrite =>
    rw [manualQueue_setChannel]
    split
    · next hq =>
      rw [hq, manualQueue_channel]
      cases hwrite <;> rfl
    · rfl
  | read ch _ hread =>
    rw [manualQueue_setChannel]
    split
    · next hq =>
      rw [hq, manualQueue_channel]
      cases hread <;> rfl
    · rfl
  | urb _ hurb => cases hurb <;> cases queue <;> rfl
  | raise hraise => cases hraise <;> cases queue <;> rfl
  | cancel =>
    rw [manualQueue_setManualQueue]
    split
    · next hq => rw [hq]
    · rfl
  | linkPowerEntry | linkPowerExit => cases queue <;> rfl

theorem DeviceEffect.properlyCompleted [Zero F] {s s' : DeviceState β F} {e : DeviceEvent β F}
    {fx : List (Effect β F)} (h : DeviceEffect s e s' fx) (hs : ProperlyQueued s) :
    ProperlyCompleted fx := by
  have hchannel : ∀ ch : MissionChannel, ∀ r ∈ (s.channel ch).readBufferQueue.requests,
      ch.readApi = r.source.api := by
    intro ch r hr
    rw [← manualQueue_channel] at hr
    rw [hs.typed _ r hr]
    cases ch <;> rfl
  cases h with
  | control hsource => exact ioEvtControlUrb_properlyCompleted _ _ hsource
  | write ch hsource hwrite =>
    exact hwrite.properlyCompleted (by rw [hsource]; cases ch <;> rfl) (hchannel ch)
  | read ch hsource hread => exact hread.properlyCompleted (by rw [hsource]; cases ch <;> rfl)
  | urb hsource hurb => exact hurb.properlyCompleted hsource
  | raise hraise => exact hraise.properlyCompleted (hs.typed .intrDeferred)
  | @cancel queue request l m hqueue =>
    have hsource : request.source = queue.source := hs.typed queue request (by simp [hqueue])
    refine .single ?_
    rw [hs.canceled queue, hsource]
  | linkPowerEntry => exact .nil
  | linkPowerExit => exact .canceled (hs.typed .intrDeferred) (hs.canceled .intrDeferred)

theorem deviceStep_proper [Zero F] {s s' : DeviceState β F} {e : DeviceEvent β F}
    {fx : List (Effect β F)} (hs : ProperlyQueued s) (h : deviceStep s e = some (s', fx)) :
    ProperlyQueued s' ∧ ProperlyCompleted fx := by
  have heffect := deviceStep_effect h
  refine ⟨⟨deviceStep_typed hs.typed h, ?_⟩, heffect.properlyCompleted hs⟩
  intro queue
  rw [heffect.evtIoCanceledOnQueue, hs.canceled]

/-- A control request raises an interrupt as the event `raise` does, and completes itself. -/
theorem deviceControl_proper [Zero F] {flagsOf : List β → F} {handled : Bool} {code : ULONG}
    {request : WdfRequest β} {retrieve : NtResult Unit} {o : Outcomes} {s s' : DeviceState β F}
    {fx : List (Effect β F)} (hs : ProperlyQueued s) (hsource : request.source = .ioctl)
    (h : deviceControl flagsOf handled code request retrieve o s = some (s', fx)) :
    ProperlyQueued s' ∧ ProperlyCompleted fx := by
  have hown : ∀ status n, ProperlyCompleted (F := F)
      [.complete (completeRequest .wdfRequest request status n)] :=
    fun status n => .single (by rw [hsource]; rfl)
  unfold deviceControl at h
  split at h
  · obtain ⟨rfl, rfl⟩ := Prod.mk.inj (Option.some.inj h)
    exact ⟨hs, .nil⟩
  · obtain ⟨⟨⟨handled', fx'⟩, s₁⟩, hioctl, heq⟩ := Option.map_eq_some_iff.1 h
    unfold backChannelIoctl at hioctl
    split at hioctl
    · split at hioctl
      · cases hioctl
        obtain ⟨rfl, rfl⟩ := Prod.mk.inj heq
        exact ⟨hs, hown _ _⟩
      · next pflags _ =>
        split at hioctl
        · obtain ⟨⟨⟨status, raised⟩, s₂⟩, hraise, hmk⟩ := Option.map_eq_some_iff.1 hioctl
          cases hmk
          obtain ⟨rfl, rfl⟩ := Prod.mk.inj heq
          cases hraise
          have hstep : deviceStep s (.raise (flagsOf pflags) o) =
            some ({ s with io := (ioRaiseInterrupt (flagsOf pflags) o s.io).2.1 },
              (ioRaiseInterrupt (flagsOf pflags) o s.io).2.2) := rfl
          obtain ⟨hqueued, hcompleted⟩ := deviceStep_proper hs hstep
          exact ⟨hqueued, hcompleted.append (hown _ _)⟩
        · cases hioctl
          obtain ⟨rfl, rfl⟩ := Prod.mk.inj heq
          exact ⟨hs, hown _ _⟩
    · cases hioctl
      obtain ⟨rfl, rfl⟩ := Prod.mk.inj heq
      exact ⟨hs, hown _ _⟩

/-- **One event of the driver.** -/
theorem driverStep_proper [Zero F] {flagsOf : List β → F} {s s' : DeviceState β F}
    {e : DriverEvent β F} {fx : List (Effect β F)} (hs : ProperlyQueued s)
    (h : driverStep flagsOf s e = some (s', fx)) : ProperlyQueued s' ∧ ProperlyCompleted fx := by
  cases e with
  | device e => exact deviceStep_proper hs h
  | deviceControl handled code request retrieve o =>
    simp only [driverStep] at h
    split at h
    · next hsource => exact deviceControl_proper hs hsource h
    · cases h
  | controllerPower d0 =>
    obtain ⟨rfl, rfl⟩ := Prod.mk.inj (Option.some.inj h)
    refine ⟨⟨?_, ?_⟩, .nil⟩
    · intro queue r hr
      cases queue with
      | missionRequest => exact hs.typed .missionRequest r hr
      | missionCompletion => exact hs.typed .missionCompletion r hr
      | intrDeferred => exact hs.typed .intrDeferred r hr
    · intro queue
      cases queue with
      | missionRequest => exact hs.canceled .missionRequest
      | missionCompletion => exact hs.canceled .missionCompletion
      | intrDeferred => exact hs.canceled .intrDeferred
  | stopDeferredProcessing =>
    obtain ⟨rfl, rfl⟩ := Prod.mk.inj (Option.some.inj h)
    refine ⟨⟨?_, ?_⟩, .canceled (hs.typed .intrDeferred) (hs.canceled .intrDeferred)⟩
    · intro queue r hr
      cases queue with
      | missionRequest => exact hs.typed .missionRequest r hr
      | missionCompletion => exact hs.typed .missionCompletion r hr
      | intrDeferred => cases hr
    · intro queue
      cases queue with
      | missionRequest => exact hs.canceled .missionRequest
      | missionCompletion => exact hs.canceled .missionCompletion
      | intrDeferred => exact hs.canceled .intrDeferred

/-- **Every request is completed through the calls of its source, in every run of the driver**, and
the manual queues hold requests that their cancel callbacks fit. -/
theorem driverRun_proper [Zero F] {flagsOf : List β → F} {t : List (DriverEvent β F)}
    {s : DeviceState β F} {log : List (Effect β F)}
    (hrun : driverRun flagsOf t = some (s, log)) :
    (∀ c ∈ completions log, c.api = c.request.source.api) ∧
    (∀ queue, ∀ r ∈ (s.manualQueue queue).requests, r.source = queue.source) ∧
    ∀ queue, (s.manualQueue queue).evtIoCanceledOnQueue = queue.source.api := by
  have hinv : ProperlyQueued s ∧ ProperlyCompleted log := by
    refine run_invariant (P := fun _ p => ProperlyQueued p.1 ∧ ProperlyCompleted p.2)
      ⟨deviceInit_properlyQueued, .nil⟩ ?_ hrun
    rintro t p e p' - ⟨hqueued, hcompleted⟩ hstep
    obtain ⟨out, hout, hlog⟩ := logged_eq_some.1 hstep
    obtain ⟨hqueued', hout'⟩ := driverStep_proper hqueued hout
    exact ⟨hqueued', hlog ▸ hcompleted.append hout'⟩
  exact ⟨hinv.2, hinv.1.typed, hinv.1.canceled⟩

/-- A mission handed to a parked read, an interrupt answering a deferred URB, and a canceled bulk IN
URB. -/
def mixedRequests : List (DriverEvent UInt8 UInt8) :=
  [.device (.dispatch ⟨0, .read, [0, 0]⟩ 0 outcomesOk),
    .device (.dispatch ⟨1, .bulkOut, [1, 2]⟩ ioctlInternalUsbSubmitUrb outcomesOk),
    .device (.dispatch ⟨2, .interruptIn, [0, 0, 0, 0]⟩ ioctlInternalUsbSubmitUrb outcomesOk),
    .deviceControl false ioctlUdefx2GenerateInterrupt ⟨3, .ioctl, [7, 0, 0, 0]⟩ (.ok ())
      outcomesOk,
    .device (.dispatch ⟨4, .bulkIn, [0]⟩ ioctlInternalUsbSubmitUrb outcomesOk),
    .device (.cancel .missionCompletion 0)]

theorem mixedRequests_proper : ∃ s log,
    driverRun (fun b => b.headD 0) mixedRequests = some (s, log) ∧
    (completions log).map (fun c => (c.request.id, c.api)) =
      [(0, .wdfRequest), (1, .udecxUrb), (2, .udecxUrb), (3, .wdfRequest), (4, .udecxUrb)] ∧
    ∀ c ∈ completions log, c.api = c.request.source.api := by
  have hlog : (driverRun (fun b => b.headD 0) mixedRequests).map
      (fun p => (completions p.2).map fun c => (c.request.id, c.api)) =
      some [(0, .wdfRequest), (1, .udecxUrb), (2, .udecxUrb), (3, .wdfRequest),
        (4, .udecxUrb)] := by decide +kernel
  obtain ⟨⟨s, log⟩, hrun, hmap⟩ := Option.map_eq_some_iff.1 hlog
  exact ⟨s, log, hrun, hmap, (driverRun_proper hrun).1⟩

end UdeSample
