import UdeSample.Device.Steps
import UdeSample.Lib.Run

/-!
# The device as a state machine

One event is one handler call, one cancellation of a parked request or one link power callback,
executed to its end. Dispatched requests go to the handler of the queue they come from; `raise` is
`Io_RaiseInterrupt` as the control handler of the back channel calls it. A run collects the effects
of its events.

`DeviceState.Typed` is the invariant behind all results on parked requests: each manual queue holds
requests of one source only.
-/

namespace UdeSample

open Lib

variable {β F : Type}

/-- The plugged-in device with the two channels of its controller. -/
structure DeviceState (β F : Type) where
  missionRequest : WRQueue β
  missionCompletion : WRQueue β
  io : IoContext β F
  isAwake : Bool
deriving DecidableEq

/-- After `BackChannelInit` and a successful plug-in. -/
def deviceInit [Zero F] : DeviceState β F :=
  { missionRequest := wrQueueInit false, missionCompletion := wrQueueInit true
    io := ioContextCreated, isAwake := true }

/-- The driver-owned manual queues. -/
inductive ManualQueue where
  | missionRequest
  | missionCompletion
  | intrDeferred
deriving DecidableEq, Repr

def DeviceState.manualQueue (s : DeviceState β F) : ManualQueue → WdfQueue β
  | .missionRequest => s.missionRequest.readBufferQueue
  | .missionCompletion => s.missionCompletion.readBufferQueue
  | .intrDeferred => s.io.intrDeferredQueue

def DeviceState.setManualQueue (s : DeviceState β F) (queue : ManualQueue) (q : WdfQueue β) :
    DeviceState β F :=
  match queue with
  | .missionRequest => { s with missionRequest := { s.missionRequest with readBufferQueue := q } }
  | .missionCompletion =>
    { s with missionCompletion := { s.missionCompletion with readBufferQueue := q } }
  | .intrDeferred => { s with io := { s.io with intrDeferredQueue := q } }

inductive DeviceEvent (β F : Type) where
  | dispatch (request : WdfRequest β) (ioControlCode : ULONG) (o : Outcomes)
  | raise (latestStatus : F) (o : Outcomes)
  | cancel (queue : ManualQueue) (i : Nat)
  /-- `UsbDevice_EvtUsbDeviceLinkPowerEntry` -/
  | linkPowerEntry
  /-- `UsbDevice_EvtUsbDeviceLinkPowerExit` -/
  | linkPowerExit

def deviceStep [Zero F] (s : DeviceState β F) :
    DeviceEvent β F → Option (DeviceState β F × List (Effect β F))
  | .dispatch request ioControlCode o =>
    match request.source with
    | .control => some (s, ioEvtControlUrb ioControlCode request o)
    | .bulkOut =>
      let (missionRequest, effects) := ioEvtBulkOutUrb ioControlCode request o s.missionRequest
      some ({ s with missionRequest }, effects)
    | .bulkIn =>
      let (missionCompletion, effects) :=
        ioEvtBulkInUrb ioControlCode request o s.missionCompletion
      some ({ s with missionCompletion }, effects)
    | .interruptIn =>
      let (io, effects) := ioEvtInterruptInUrb ioControlCode request o s.io
      some ({ s with io }, effects)
    | .read =>
      let (missionRequest, effects) := backChannelEvtRead request o s.missionRequest
      some ({ s with missionRequest }, effects)
    | .write =>
      let (missionCompletion, effects) := backChannelEvtWrite request o s.missionCompletion
      some ({ s with missionCompletion }, effects)
    | .ioctl => none
  | .raise latestStatus o =>
    let (_, io, effects) := ioRaiseInterrupt latestStatus o s.io
    some ({ s with io }, effects)
  | .cancel queue i =>
    ((s.manualQueue queue).cancel i).map fun (request, q) =>
      (s.setManualQueue queue q, [.complete (q.canceled request)])
  | .linkPowerEntry => some ({ s with io := ioDeviceWokeUp s.io, isAwake := true }, [])
  | .linkPowerExit =>
    let (io, effects) := ioDeviceSlept s.io
    some ({ s with io, isAwake := false }, effects)

def deviceRun [Zero F] (t : List (DeviceEvent β F)) :
    Option (DeviceState β F × List (Effect β F)) :=
  run (logged deviceStep) (deviceInit, []) t

/-! ## The two mission channels -/

/-- The two channels of the controller. -/
inductive MissionChannel where
  | missionRequest
  | missionCompletion
deriving DecidableEq, Repr

namespace MissionChannel

/-- Missions are written by the host through bulk OUT, responses through the back channel. -/
def writeSource : MissionChannel → RequestSource
  | missionRequest => .bulkOut
  | missionCompletion => .write

def readSource : MissionChannel → RequestSource
  | missionRequest => .read
  | missionCompletion => .bulkIn

def writeApi : MissionChannel → CompletionApi
  | missionRequest => .udecxUrb
  | missionCompletion => .wdfRequest

def readApi : MissionChannel → CompletionApi
  | missionRequest => .wdfRequest
  | missionCompletion => .udecxUrb

def manualQueue : MissionChannel → ManualQueue
  | missionRequest => .missionRequest
  | missionCompletion => .missionCompletion

/-- No framework call of the write handler of a channel fails. -/
def WriteOk (code : ULONG) (request : WdfRequest β) (o : Outcomes) (q : WRQueue β) :
    MissionChannel → Prop
  | missionRequest => BulkOutOk code request o q
  | missionCompletion => BackChannelWriteOk code request o q

/-- No framework call of the read handler of a channel fails. -/
def ReadOk (code : ULONG) (request : WdfRequest β) (o : Outcomes) (q : WRQueue β) :
    MissionChannel → Prop
  | missionRequest => BackChannelReadOk code request o q
  | missionCompletion => BulkInOk code request o q

instance (code : ULONG) (request : WdfRequest β) (o : Outcomes) (q : WRQueue β) :
    ∀ ch, Decidable (WriteOk code request o q ch)
  | missionRequest => inferInstanceAs (Decidable (BulkOutOk code request o q))
  | missionCompletion => inferInstanceAs (Decidable (BackChannelWriteOk code request o q))

instance (code : ULONG) (request : WdfRequest β) (o : Outcomes) (q : WRQueue β) :
    ∀ ch, Decidable (ReadOk code request o q ch)
  | missionRequest => inferInstanceAs (Decidable (BackChannelReadOk code request o q))
  | missionCompletion => inferInstanceAs (Decidable (BulkInOk code request o q))

end MissionChannel

theorem writeSource_ne_readSource (ch ch' : MissionChannel) :
    ch.writeSource ≠ ch'.readSource := by
  cases ch <;> cases ch' <;> decide

theorem writeSource_injective {ch ch' : MissionChannel} (h : ch.writeSource = ch'.writeSource) :
    ch = ch' := by
  cases ch <;> cases ch' <;> first | rfl | cases h

theorem readSource_injective {ch ch' : MissionChannel} (h : ch.readSource = ch'.readSource) :
    ch = ch' := by
  cases ch <;> cases ch' <;> first | rfl | cases h

def DeviceState.channel (s : DeviceState β F) : MissionChannel → WRQueue β
  | .missionRequest => s.missionRequest
  | .missionCompletion => s.missionCompletion

def DeviceState.setChannel (s : DeviceState β F) (ch : MissionChannel) (q : WRQueue β) :
    DeviceState β F :=
  match ch with
  | .missionRequest => { s with missionRequest := q }
  | .missionCompletion => { s with missionCompletion := q }

@[simp] theorem channel_setChannel (s : DeviceState β F) (ch : MissionChannel) (q : WRQueue β) :
    (s.setChannel ch q).channel ch = q := by
  cases ch <;> rfl

@[simp] theorem setChannel_io (s : DeviceState β F) (ch : MissionChannel) (q : WRQueue β) :
    (s.setChannel ch q).io = s.io := by
  cases ch <;> rfl

theorem channel_setChannel_of_ne {s : DeviceState β F} {ch ch' : MissionChannel} (h : ch' ≠ ch)
    (q : WRQueue β) : (s.setChannel ch q).channel ch' = s.channel ch' := by
  cases ch <;> cases ch' <;> first | rfl | exact absurd rfl h

/-! ## What one event can do -/

/-- Everything an event can do to the device. -/
inductive DeviceEffect [Zero F] (s : DeviceState β F) :
    DeviceEvent β F → DeviceState β F → List (Effect β F) → Prop where
  | control {request : WdfRequest β} {code : ULONG} {o : Outcomes}
    (hsource : request.source = .control) :
    DeviceEffect s (.dispatch request code o) s (ioEvtControlUrb code request o)
  | write (ch : MissionChannel) {request : WdfRequest β} {code : ULONG} {o : Outcomes}
    {q : WRQueue β} {effects : List (Effect β F)} (hsource : request.source = ch.writeSource)
    (hwrite : WriteStep ch.writeApi ch.readApi request (ch.WriteOk code request o (s.channel ch))
      (s.channel ch) q effects) :
    DeviceEffect s (.dispatch request code o) (s.setChannel ch q) effects
  | read (ch : MissionChannel) {request : WdfRequest β} {code : ULONG} {o : Outcomes}
    {q : WRQueue β} {effects : List (Effect β F)} (hsource : request.source = ch.readSource)
    (hread : ReadStep ch.readApi request (ch.ReadOk code request o (s.channel ch))
      (s.channel ch) q effects) :
    DeviceEffect s (.dispatch request code o) (s.setChannel ch q) effects
  | urb {request : WdfRequest β} {code : ULONG} {o : Outcomes} {io : IoContext β F}
    {effects : List (Effect β F)} (hsource : request.source = .interruptIn)
    (hurb : UrbStep code request o s.io io effects) :
    DeviceEffect s (.dispatch request code o) { s with io } effects
  | raise {latestStatus : F} {o : Outcomes} {io : IoContext β F} {effects : List (Effect β F)}
    (hraise : RaiseStep latestStatus o s.io io effects) :
    DeviceEffect s (.raise latestStatus o) { s with io } effects
  | cancel {queue : ManualQueue} {request : WdfRequest β} {l m : List (WdfRequest β)}
    (hqueue : (s.manualQueue queue).requests = l ++ request :: m) :
    DeviceEffect s (.cancel queue l.length)
      (s.setManualQueue queue { s.manualQueue queue with requests := l ++ m })
      [.complete ((s.manualQueue queue).canceled request)]
  | linkPowerEntry : DeviceEffect s .linkPowerEntry
      { s with
        io := { s.io with intrDeferredQueue := { s.io.intrDeferredQueue with accepting := true } }
        isAwake := true } []
  | linkPowerExit : DeviceEffect s .linkPowerExit
      { s with
        io := { s.io with
          intrDeferredQueue := { s.io.intrDeferredQueue with requests := [], accepting := false } }
        isAwake := false }
      (s.io.intrDeferredQueue.requests.map fun request =>
        .complete (s.io.intrDeferredQueue.canceled request))

/-- **Inversion of a step.** -/
theorem deviceStep_effect [Zero F] {s s' : DeviceState β F} {e : DeviceEvent β F}
    {effects : List (Effect β F)} (h : deviceStep s e = some (s', effects)) :
    DeviceEffect s e s' effects := by
  cases e with
  | dispatch request code o =>
    cases hsource : request.source <;> simp only [deviceStep, hsource] at h
    case control =>
      obtain ⟨rfl, rfl⟩ := Prod.mk.inj (Option.some.inj h)
      exact .control hsource
    case bulkOut =>
      obtain ⟨rfl, rfl⟩ := Prod.mk.inj (Option.some.inj h)
      exact .write .missionRequest hsource (ioEvtBulkOutUrb_step code request o s.missionRequest)
    case bulkIn =>
      obtain ⟨rfl, rfl⟩ := Prod.mk.inj (Option.some.inj h)
      exact .read .missionCompletion hsource
        (ioEvtBulkInUrb_step code request o s.missionCompletion)
    case interruptIn =>
      obtain ⟨rfl, rfl⟩ := Prod.mk.inj (Option.some.inj h)
      exact .urb hsource (ioEvtInterruptInUrb_step code request o s.io)
    case read =>
      obtain ⟨rfl, rfl⟩ := Prod.mk.inj (Option.some.inj h)
      exact .read .missionRequest hsource (backChannelEvtRead_step code request o s.missionRequest)
    case write =>
      obtain ⟨rfl, rfl⟩ := Prod.mk.inj (Option.some.inj h)
      exact .write .missionCompletion hsource
        (backChannelEvtWrite_step code request o s.missionCompletion)
    case ioctl => cases h
  | raise latestStatus o =>
    obtain ⟨rfl, rfl⟩ := Prod.mk.inj (Option.some.inj h)
    exact .raise (ioRaiseInterrupt_step latestStatus o s.io)
  | cancel queue i =>
    obtain ⟨⟨request, q⟩, hcancel, heq⟩ := Option.map_eq_some_iff.1 h
    obtain ⟨rfl, rfl⟩ := Prod.mk.inj heq
    obtain ⟨l, m, hlm, rfl, rfl⟩ := WdfQueue.cancel_eq_some.1 hcancel
    exact .cancel hlm
  | linkPowerEntry =>
    obtain ⟨rfl, rfl⟩ := Prod.mk.inj (Option.some.inj h)
    exact .linkPowerEntry
  | linkPowerExit =>
    obtain ⟨rfl, rfl⟩ := Prod.mk.inj (Option.some.inj h)
    exact .linkPowerExit

/-! ## Requests in the manual queues -/

@[simp] theorem manualQueue_setChannel (s : DeviceState β F) (ch : MissionChannel) (q : WRQueue β)
    (queue : ManualQueue) : (s.setChannel ch q).manualQueue queue =
      if queue = ch.manualQueue then q.readBufferQueue else s.manualQueue queue := by
  cases ch <;> cases queue <;> rfl

theorem manualQueue_channel (s : DeviceState β F) (ch : MissionChannel) :
    s.manualQueue ch.manualQueue = (s.channel ch).readBufferQueue := by
  cases ch <;> rfl

@[simp] theorem manualQueue_setManualQueue (s : DeviceState β F) (queue queue' : ManualQueue)
    (q : WdfQueue β) : (s.setManualQueue queue q).manualQueue queue' =
      if queue' = queue then q else s.manualQueue queue' := by
  cases queue <;> cases queue' <;> rfl

/-- The only source of the requests in a manual queue. -/
def ManualQueue.source : ManualQueue → RequestSource
  | .missionRequest => .read
  | .missionCompletion => .bulkIn
  | .intrDeferred => .interruptIn

theorem MissionChannel.manualQueue_source (ch : MissionChannel) :
    ch.manualQueue.source = ch.readSource := by
  cases ch <;> rfl

/-- Every manual queue holds requests of its own source only. -/
def DeviceState.Typed (s : DeviceState β F) : Prop :=
  ∀ queue, ∀ r ∈ (s.manualQueue queue).requests, r.source = queue.source

theorem deviceInit_typed [Zero F] : (deviceInit : DeviceState β F).Typed := by
  intro queue r hr
  cases queue <;> cases hr

/-- A write parks nothing. -/
theorem WriteStep.parked_subset {api readApi : CompletionApi} {request : WdfRequest β} {ok : Prop}
    {q q' : WRQueue β} {fx : List (Effect β F)} (h : WriteStep api readApi request ok q q' fx) :
    ∀ r ∈ q'.readBufferQueue.requests, r ∈ q.readBufferQueue.requests := by
  cases h with
  | refused | stored => exact fun _ => id
  | lost _ hread | handed _ hread =>
    intro r hr
    rw [hread]
    exact List.mem_cons_of_mem _ hr

/-- A read parks at most itself. -/
theorem ReadStep.parked_subset {api : CompletionApi} {request : WdfRequest β} {ok : Prop}
    {q q' : WRQueue β} {fx : List (Effect β F)} (h : ReadStep api request ok q q' fx) :
    ∀ r ∈ q'.readBufferQueue.requests, r ∈ q.readBufferQueue.requests ∨ r = request := by
  cases h with
  | dropped | served => exact fun _ => Or.inl
  | parked => exact fun r hr => (List.mem_append.1 hr).imp_right List.mem_singleton.1

/-- An interrupt URB parks at most itself. -/
theorem UrbStep.parked_subset [Zero F] {code : ULONG} {request : WdfRequest β} {o : Outcomes}
    {io io' : IoContext β F} {fx : List (Effect β F)} (h : UrbStep code request o io io' fx) :
    ∀ r ∈ io'.intrDeferredQueue.requests,
      r ∈ io.intrDeferredQueue.requests ∨ r = request := by
  cases h with
  | dropped | answered | refused => exact fun _ => Or.inl
  | deferred => exact fun r hr => (List.mem_append.1 hr).imp_right List.mem_singleton.1

/-- A raise parks nothing. -/
theorem RaiseStep.parked_subset {v : F} {o : Outcomes} {io io' : IoContext β F}
    {fx : List (Effect β F)} (h : RaiseStep v o io io' fx) :
    ∀ r ∈ io'.intrDeferredQueue.requests, r ∈ io.intrDeferredQueue.requests := by
  cases h with
  | cached => exact fun _ => id
  | handed hread =>
    intro r hr
    rw [hread]
    exact List.mem_cons_of_mem _ hr

/-- What is parked after an event was parked in the same queue before, or is the dispatched
request, parked by the handler of its source. -/
theorem DeviceEffect.parked_subset [Zero F] {s s' : DeviceState β F} {e : DeviceEvent β F}
    {fx : List (Effect β F)} (h : DeviceEffect s e s' fx) {queue : ManualQueue}
    {r : WdfRequest β} (hr : r ∈ (s'.manualQueue queue).requests) :
    r ∈ (s.manualQueue queue).requests ∨ r.source = queue.source := by
  cases h with
  | control => exact Or.inl hr
  | write ch hsource hwrite =>
    rw [manualQueue_setChannel] at hr
    split at hr
    · next hq =>
      subst hq
      exact Or.inl (manualQueue_channel s ch ▸ hwrite.parked_subset r hr)
    · exact Or.inl hr
  | read ch hsource hread =>
    rw [manualQueue_setChannel] at hr
    split at hr
    · next hq =>
      subst hq
      rcases hread.parked_subset r hr with hr | rfl
      · exact Or.inl (manualQueue_channel s ch ▸ hr)
      · exact Or.inr (hsource.trans ch.manualQueue_source.symm)
    · exact Or.inl hr
  | urb hsource hurb =>
    cases queue with
    | missionRequest | missionCompletion => exact Or.inl hr
    | intrDeferred =>
      rcases hurb.parked_subset r hr with hr | rfl
      · exact Or.inl hr
      · exact Or.inr hsource
  | raise hraise =>
    cases queue with
    | missionRequest | missionCompletion => exact Or.inl hr
    | intrDeferred => exact Or.inl (hraise.parked_subset r hr)
  | cancel hqueue =>
    rw [manualQueue_setManualQueue] at hr
    split at hr
    · next hq =>
      subst hq
      rw [hqueue]
      exact Or.inl (by simp only [List.mem_append, List.mem_cons] at hr ⊢; tauto)
    · exact Or.inl hr
  | linkPowerEntry => cases queue <;> exact Or.inl hr
  | linkPowerExit =>
    cases queue with
    | missionRequest | missionCompletion => exact Or.inl hr
    | intrDeferred => cases hr

theorem deviceStep_typed [Zero F] {s s' : DeviceState β F} {e : DeviceEvent β F}
    {fx : List (Effect β F)} (hs : s.Typed) (h : deviceStep s e = some (s', fx)) : s'.Typed := by
  intro queue r hr
  rcases (deviceStep_effect h).parked_subset hr with hr | hr
  · exact hs queue r hr
  · exact hr

/-- **The manual queues are typed in every run.** -/
theorem deviceRun_typed [Zero F] {t : List (DeviceEvent β F)} {s : DeviceState β F}
    {log : List (Effect β F)} (h : deviceRun t = some (s, log)) : s.Typed := by
  refine run_invariant (P := fun _ p => p.1.Typed) deviceInit_typed ?_ h
  intro t p e p' _ hp hstep
  obtain ⟨out, hout, -⟩ := logged_eq_some.1 hstep
  exact deviceStep_typed hp hout

end UdeSample
