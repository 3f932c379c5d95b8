import UdeSample.Device.Objects

/-!
# The virtual device and its controller (`usbdevice.c`, `Device.c`)

The controller plugs the device in when it enters D0 for the first time, and unplugs and deletes it
when it leaves for good. Its default queue is not power managed, so requests of the back channel
arrive in between, before and after. `deferredQueueLives` reads off the events whether there is a
device that an interrupt can be raised on; `ioctl_guarded_iff` says that only then the interrupt
request is safe to send.
-/

namespace UdeSample

open Lib

variable {β F : Type}

/-- `WDF_POWER_DEVICE_STATE`, as far as the controller tells the states apart. -/
inductive WdfPowerDeviceState where
  | d3Final
  | other
deriving DecidableEq, Repr

/-- The part of `UDECX_USBCONTROLLER_CONTEXT` that the device lives in. -/
structure Controller (β F : Type) where
  objects : Objects β F
  /-- `ChildDeviceInit` is not `NULL` -/
  childDeviceInit : Bool
  childDevice : Option Nat
  allowOnlyResetInterrupts : Bool

/-- After `UDEFX2CreateDevice`. -/
def controllerCreated : Controller β F :=
  { objects := Store.empty, childDeviceInit := true, childDevice := none
    allowOnlyResetInterrupts := false }

/-- What the framework answers while the device is plugged in, also to a `ChildDeviceInit` that was
used up by an earlier device. -/
structure PlugInOutcomes where
  pool : Bool
  addDescriptor : NtResult Unit
  deviceCreate : NtResult Unit
  allocateContext : NtResult Unit
  control : EndpointOutcomes
  bulkOut : EndpointOutcomes
  bulkIn : EndpointOutcomes
  interruptIn : EndpointOutcomes
  plugIn : NtResult Unit

def PlugInOutcomes.endpoints (o : PlugInOutcomes) : List (UCHAR × EndpointOutcomes) :=
  [(usbDefaultEndpointAddress, o.control), (gBulkOutEndpointAddress, o.bulkOut),
    (gBulkInEndpointAddress, o.bulkIn), (gInterruptEndpointAddress, o.interruptIn)]

def createEndpoints [Zero F] (device : Nat) :
    List (UCHAR × EndpointOutcomes) → Objects β F → Option (NTSTATUS × Objects β F)
  | [], objects => some (statusSuccess, objects)
  | (epAddr, o) :: rest, objects =>
    onSuccess (usbCreateEndpointObj objects (some device) epAddr o) (createEndpoints device rest)

/-- `Usb_ReadDescriptorsAndPlugIn` from the created device on. -/
def initializeAndPlugIn [Zero F] (o : PlugInOutcomes) (device : Nat) (objects : Objects β F) :
    Option (NTSTATUS × Objects β F) :=
  onSuccess (ioAllocateContext objects device o.allocateContext) fun objects =>
    onSuccess (createEndpoints device o.endpoints (objects.setAwake (some device) true))
      fun objects => some (o.plugIn.status, objects)

def usbReadDescriptorsAndPlugIn [Zero F] (o : PlugInOutcomes) (c : Controller β F) :
    Option (NTSTATUS × Controller β F) :=
  if !o.pool then some (statusInsufficientResources, c)
  else
    match o.addDescriptor, o.deviceCreate with
    | .error e, _ | .ok (), .error e => some (e.status, c)
    | .ok (), .ok () =>
      (initializeAndPlugIn o c.objects.next
        (c.objects.create (.usbDevice { ioContext := none, isAwake := false }))).map
          fun (status, objects) => (status, { c with
            objects, childDeviceInit := false, childDevice := some c.objects.next })

/-- `Usb_Disconnect`, with the deferred URBs it cancels. -/
def usbDisconnect (plugOutAndDelete : NtResult Unit) (c : Controller β F) :
    Option ((NTSTATUS × List (Effect β F)) × Controller β F) :=
  (ioStopDeferredProcessingOn c.objects c.childDevice).bind fun ((ioContextCopy, fx), objects) =>
    match plugOutAndDelete with
    | .error e => some ((e.status, fx), { c with objects })
    | .ok () =>
      (objects.wdfObjectDelete c.childDevice).bind fun objects =>
        (ioFreeEndpointQueues ioContextCopy objects).map fun objects =>
          ((statusSuccess, fx), { c with objects })

def controllerWdfEvtDeviceD0Entry [Zero F] (previousState : WdfPowerDeviceState)
    (o : PlugInOutcomes) (c : Controller β F) : Option (NTSTATUS × Controller β F) :=
  if previousState = .d3Final then
    usbReadDescriptorsAndPlugIn o { c with allowOnlyResetInterrupts := true }
  else some (statusSuccess, c)

/-- `ControllerWdfEvtDeviceD0Exit`; the status of the disconnect is dropped. -/
def controllerWdfEvtDeviceD0Exit (targetState : WdfPowerDeviceState)
    (plugOutAndDelete : NtResult Unit) (c : Controller β F) :
    Option (NTSTATUS × Controller β F) :=
  if targetState = .d3Final then
    (usbDisconnect plugOutAndDelete c).map fun (_, c) => (statusSuccess, c)
  else some (statusSuccess, c)

/-- `BackChannelIoctl` on the child device of the controller. -/
def Controller.ioctl (flagsOf : List β → F) (ioControlCode : ULONG) (request : WdfRequest β)
    (retrieve : NtResult Unit) (o : Outcomes) (c : Controller β F) :
    Option ((Bool × List (Effect β F)) × Controller β F) :=
  backChannelIoctl flagsOf
    (fun flags c => (ioRaiseInterruptOn c.objects c.childDevice flags o).map
      fun (answer, objects) => (answer, { c with objects }))
    ioControlCode request retrieve c

/-- `ControllerEvtIoDeviceControl`; `handled` is what `UdecxWdfDeviceTryHandleUserIoctl` answers. -/
def controllerEvtIoDeviceControl (flagsOf : List β → F) (handled : Bool) (ioControlCode : ULONG)
    (request : WdfRequest β) (retrieve : NtResult Unit) (o : Outcomes) (c : Controller β F) :
    Option (List (Effect β F) × Controller β F) :=
  if handled then some ([], c)
  else
    (c.ioctl flagsOf ioControlCode request retrieve o).map fun ((handled, effects), c) =>
      if handled then (effects, c)
      else ([.complete (completeRequest .wdfRequest request statusInvalidDeviceRequest 0)], c)

inductive LifecycleEvent (β : Type) where
  | d0Entry (previousState : WdfPowerDeviceState) (o : PlugInOutcomes)
  | d0Exit (targetState : WdfPowerDeviceState) (plugOutAndDelete : NtResult Unit)
  | deviceControl (handled : Bool) (ioControlCode : ULONG) (request : WdfRequest β)
    (retrieve : NtResult Unit) (o : Outcomes)

def lifecycleStep [Zero F] (flagsOf : List β → F) (c : Controller β F) :
    LifecycleEvent β → Option (Controller β F)
  | .d0Entry previousState o => (controllerWdfEvtDeviceD0Entry previousState o c).map Prod.snd
  | .d0Exit targetState plugOutAndDelete =>
    (controllerWdfEvtDeviceD0Exit targetState plugOutAndDelete c).map Prod.snd
  | .deviceControl handled ioControlCode request retrieve o =>
    (controllerEvtIoDeviceControl flagsOf handled ioControlCode request retrieve o c).map Prod.snd

def lifecycleRun [Zero F] (flagsOf : List β → F) (t : List (LifecycleEvent β)) :
    Option (Controller β F) :=
  run (lifecycleStep flagsOf) controllerCreated t

/-! ## A device that an interrupt can be raised on -/

/-- The handle is that of a live device whose deferred queue is live. -/
def deferredQueueLive (objects : Objects β F) (device : Option Nat) : Bool :=
  (deferredQueueOf objects device).isSome

/-- A live device with a context, whose deferred queue is live or not. -/
def HasContext (objects : Objects β F) (d : Nat) (live : Bool) : Prop :=
  ∃ u record, objects.usbDevice d = some u ∧ u.ioContext = some record ∧
    (objects.deferredQueue record).isSome = live

section

variable {objects objects' : Objects β F} {d : Nat} {live : Bool} {status : NTSTATUS}

theorem HasContext.deferredQueueLive (h : HasContext objects d live) :
    deferredQueueLive objects (some d) = live := by
  obtain ⟨u, record, hu, hrecord, hlive⟩ := h
  rw [UdeSample.deferredQueueLive, deferredQueueOf_eq hu hrecord]
  exact hlive

theorem deferredQueueLive_of_deleted (h : objects.usbDevice d = none) :
    deferredQueueLive objects (some d) = false := by
  simp [deferredQueueLive, deferredQueueOf, wdfDeviceGetIoContext, h]

theorem hasContext_setIoContext {u : UsbDevice F} (hu : objects.usbDevice d = some u)
    (u' : UsbDevice F) (record : IoRecord F) :
    HasContext (objects.setIoContext d u' record) d (objects.deferredQueue record).isSome := by
  refine ⟨{ u' with ioContext := some record }, record, ?_, rfl, ?_⟩
  · rw [Objects.usbDevice_setIoContext hu, if_pos rfl]
  · rw [Objects.deferredQueue_congr rfl (Objects.queue_setIoContext hu u' record)]

theorem onIoContext_live {ρ : Type} {device : Option Nat} {answer : ρ}
    {f : IoRecord F → IoContext β F → Option (ρ × IoContext β F)}
    (h : onIoContext objects device f = some (answer, objects')) :
    deferredQueueLive objects device = true ∧ deferredQueueLive objects' device = true := by
  obtain ⟨_, _, _, _, _, _, -, hbefore, -, -, hafter⟩ := onIoContext_eq_some h
  rw [deferredQueueLive, deferredQueueLive, hbefore, hafter]
  exact ⟨rfl, rfl⟩

theorem HasContext.setAwake (h : HasContext objects d live) (isAwake : Bool) :
    HasContext (objects.setAwake (some d) isAwake) d live := by
  obtain ⟨u, record, hu, hrecord, rfl⟩ := h
  rw [Objects.setAwake_eq hu hrecord]
  exact hasContext_setIoContext hu _ record

theorem findOrCreateEpQueue_live {u u' : UsbDevice F} {record : IoRecord F} {slot : EndpointSlot}
    {o : NtResult Unit} {queue : Option Nat} (hu : objects.usbDevice d = some u)
    (hrecord : u.ioContext = some record)
    (h : findOrCreateEpQueue objects d u' record slot o = some (status, queue, objects')) :
    ntSuccess status = true ∧ HasContext objects' d (objects.deferredQueue record).isSome := by
  obtain ⟨rfl, ⟨q, -, -, rfl⟩ | ⟨-, -, -, rfl⟩⟩ := findOrCreateEpQueue_cases h
  · exact ⟨rfl, u, record, hu, hrecord, rfl⟩
  · have hu' := Objects.usbDevice_create_of_some hu (.endpointQueue d)
    refine ⟨rfl, ?_⟩
    have hcontext := hasContext_setIoContext hu' u' (record.setEndpointQueue slot objects.next)
    rwa [Objects.deferredQueue_congr rfl
      (Objects.queue_create_of_ne objects (fun q => by simp))] at hcontext

/-! ## Plugging in -/

@[simp] theorem ntSuccess_status (o : NtResult Unit) : ntSuccess o.status = o.isOk := by
  cases o with
  | error e => exact e.failed
  | ok => rfl

/-- No call of `UsbCreateEndpointObj` fails after the queue was created. -/
def EndpointOutcomes.created (o : EndpointOutcomes) : Bool := o.initAllocated && o.endpoint.isOk

/-- After the queue was found, an endpoint can still fail, and touches nothing. -/
theorem usbCreateEndpointObj_eq_some [Zero F] {epAddr : UCHAR} {o : EndpointOutcomes}
    {device : Option Nat}
    (h : usbCreateEndpointObj objects device epAddr o = some (status, objects')) :
    ∃ st queue, ioRetrieveEpQueue objects device epAddr o = some (st, queue, objects') ∧
      (ntSuccess st = true → ntSuccess status = o.created) ∧
      (ntSuccess st = false → status = st) := by
  obtain ⟨⟨st, queue, objects₁⟩, hretrieve, h⟩ := Option.bind_eq_some_iff.1 h
  cases hst : ntSuccess st with
  | false =>
    simp only [hst, Bool.false_eq_true, if_false, Option.some.injEq, Prod.mk.injEq] at h
    obtain ⟨hsame, rfl⟩ := h
    exact ⟨st, queue, hretrieve, fun hok => absurd (hst.symm.trans hok) (by decide),
      fun _ => hsame.symm⟩
  | true =>
    cases hinit : o.initAllocated with
    | true =>
      simp only [hst, hinit, if_true, Option.some.injEq, Prod.mk.injEq] at h
      obtain ⟨rfl, rfl⟩ := h
      exact ⟨st, queue, hretrieve, fun _ => by simp [EndpointOutcomes.created, hinit],
        fun hfail => absurd (hst.symm.trans hfail) (by decide)⟩
    | false =>
      simp only [hst, hinit, if_true, Bool.false_eq_true, if_false, Option.some.injEq,
        Prod.mk.injEq] at h
      obtain ⟨rfl, rfl⟩ := h
      exact ⟨st, queue, hretrieve, fun _ => by rw [EndpointOutcomes.created, hinit]; rfl,
        fun hfail => absurd (hst.symm.trans hfail) (by decide)⟩

/-- An address of another endpoint than the interrupt endpoint. -/
def OtherEndpoint (epAddr : UCHAR) : Prop :=
  EndpointSlot.ofAddress epAddr = some .control ∨ EndpointSlot.ofAddress epAddr = some .bulkOut ∨
    EndpointSlot.ofAddress epAddr = some .bulkIn

/-- **An endpoint** other than the interrupt endpoint leaves the deferred queue alone. -/
theorem usbCreateEndpointObj_live [Zero F] {epAddr : UCHAR} {o : EndpointOutcomes}
    (hslot : OtherEndpoint epAddr) (h : HasContext objects d live)
    (hcreate : usbCreateEndpointObj objects (some d) epAddr o = some (status, objects')) :
    ntSuccess status = o.created ∧ HasContext objects' d live := by
  obtain ⟨st, queue, hretrieve, hstatus, -⟩ := usbCreateEndpointObj_eq_some hcreate
  obtain ⟨u, record, hu, hrecord, rfl⟩ := h
  rcases ioRetrieveEpQueue_cases (wdfDeviceGetIoContext_eq_some.2 ⟨rfl, hu, hrecord⟩) hretrieve
    with ⟨hnone, -⟩ | ⟨slot, -, -, hfind⟩ | ⟨hinterrupt, -⟩
  · rw [OtherEndpoint, hnone] at hslot
    simp at hslot
  · obtain ⟨hok, hlive⟩ := findOrCreateEpQueue_live hu hrecord hfind
    exact ⟨hstatus hok, hlive⟩
  · rw [OtherEndpoint, hinterrupt] at hslot
    simp at hslot

theorem queue_deferredQueueObject (objects : Objects β F) :
    Objects.queue (objects.create deferredQueueObject) objects.next =
      some (wdfIoQueueCreated .udecxUrb) := by
  rw [Objects.queue, Store.get?_create, if_pos rfl]
  rfl

theorem ioCreateDeferredIntrQueue_live [Zero F] {u : UsbDevice F} {record record' : IoRecord F}
    {o : EndpointOutcomes} (hu : objects.usbDevice d = some u)
    (h : ioCreateDeferredIntrQueue record o objects = (status, record', objects')) :
    objects'.usbDevice d = some u ∧
      (objects'.deferredQueue record').isSome = o.deferredQueue.isOk := by
  have hu₁ := Objects.usbDevice_create_of_some hu deferredQueueObject
  have hq := queue_deferredQueueObject objects
  rcases ioCreateDeferredIntrQueue_cases h with ⟨ho, -, rfl, rfl⟩ | ⟨ho, -, rfl, rfl⟩ |
    ⟨ho, -, rfl, rfl⟩
  · exact ⟨hu, ho.symm⟩
  · refine ⟨hu₁, ?_⟩
    rw [Objects.deferredQueue_eq_some.2 ⟨rfl, hq⟩, ho]
    rfl
  · refine ⟨Objects.usbDevice_create_of_some hu₁ _, ?_⟩
    rw [Objects.deferredQueue_eq_some.2 ⟨rfl, Objects.queue_create_of_some hq _⟩, ho]
    rfl

/-- **The interrupt endpoint** brings the deferred queue, whatever fails after it. -/
theorem usbCreateInterruptEndpoint_live [Zero F] {o : EndpointOutcomes}
    (h : HasContext objects d live)
    (hcreate : usbCreateEndpointObj objects (some d) gInterruptEndpointAddress o =
      some (status, objects')) : HasContext objects' d o.deferredQueue.isOk := by
  obtain ⟨st, queue, hretrieve, -⟩ := usbCreateEndpointObj_eq_some hcreate
  obtain ⟨u, record, hu, hrecord, -⟩ := h
  rcases ioRetrieveEpQueue_cases (wdfDeviceGetIoContext_eq_some.2 ⟨rfl, hu, hrecord⟩) hretrieve
    with ⟨hnone, -⟩ | ⟨slot, hslot, hne, -⟩ | ⟨-, st₁, record₁, objects₁, hdeferred, hrest⟩
  · cases hnone
  · exact absurd (Option.some.inj hslot).symm hne
  · obtain ⟨hu₁, hlive⟩ := ioCreateDeferredIntrQueue_live hu hdeferred
    rcases hrest with ⟨-, hfind⟩ | ⟨-, -, -, rfl⟩
    · have hfound := (findOrCreateEpQueue_live
        (by rw [Objects.usbDevice_setIoContext hu₁, if_pos rfl]) rfl hfind).2
      rwa [Objects.deferredQueue_congr rfl (Objects.queue_setIoContext hu₁ _ _), hlive] at hfound
    · exact hlive ▸ hasContext_setIoContext hu₁ u _

/-- The deferred queue is there when the other endpoints could be created and it could. -/
theorem createEndpoints_live [Zero F] (others : List (UCHAR × EndpointOutcomes))
    {o : EndpointOutcomes} (hothers : ∀ e ∈ others, OtherEndpoint e.1)
    (h : HasContext objects d false)
    (hcreate : createEndpoints d (others ++ [(gInterruptEndpointAddress, o)]) objects =
      some (status, objects')) :
    HasContext objects' d (others.all (fun e => e.2.created) && o.deferredQueue.isOk) := by
  induction others generalizing objects with
  | nil =>
    obtain ⟨st, objects₁, hint, ⟨-, hrest⟩ | ⟨-, -, rfl⟩⟩ := onSuccess_eq_some hcreate
    · obtain ⟨-, rfl⟩ := Prod.mk.inj (Option.some.inj hrest)
      exact usbCreateInterruptEndpoint_live h hint
    · exact usbCreateInterruptEndpoint_live h hint
  | cons e others ih =>
    obtain ⟨st, objects₁, hep, hrest⟩ := onSuccess_eq_some hcreate
    obtain ⟨hst, h₁⟩ := usbCreateEndpointObj_live (hothers e List.mem_cons_self) h hep
    rw [List.all_cons, ← hst]
    rcases hrest with ⟨hok, hrest⟩ | ⟨hfail, -, rfl⟩
    · rw [hok, Bool.true_and]
      exact ih (fun e' he' => hothers e' (List.mem_cons_of_mem e he')) h₁ hrest
    · rw [hfail]
      exact h₁

def PlugInOutcomes.createsDevice (o : PlugInOutcomes) : Bool :=
  o.pool && o.addDescriptor.isOk && o.deviceCreate.isOk

/-- The plug-in of a created device gets as far as its deferred queue. -/
def PlugInOutcomes.createsDeferredQueue (o : PlugInOutcomes) : Bool :=
  o.allocateContext.isOk && ([o.control, o.bulkOut, o.bulkIn].all EndpointOutcomes.created &&
    o.interruptIn.deferredQueue.isOk)

/-- The context is not allocated, or the endpoints are created on a zeroed one; plugging the device
in changes the status only. -/
theorem initializeAndPlugIn_cases [Zero F] {o : PlugInOutcomes} {u : UsbDevice F}
    (hu : objects.usbDevice d = some u)
    (h : initializeAndPlugIn o d objects = some (status, objects')) :
    (o.allocateContext.isOk = false ∧ ntSuccess status = false ∧ objects' = objects) ∨
      (o.allocateContext.isOk = true ∧ ∃ st, createEndpoints d o.endpoints
          ((objects.setIoContext d u .zeroed).setAwake (some d) true) = some (st, objects') ∧
        (ntSuccess st = false → status = st)) := by
  obtain ⟨st, objects₁, hallocate, hrest⟩ := onSuccess_eq_some h
  simp only [ioAllocateContext, hu, Option.map_some, Option.some.injEq] at hallocate
  cases hctx : o.allocateContext with
  | error e =>
    simp only [hctx, Prod.mk.injEq] at hallocate
    obtain ⟨rfl, rfl⟩ := hallocate
    rcases hrest with ⟨hok, -⟩ | ⟨-, rfl, rfl⟩
    · exact absurd hok e.not_success
    · exact Or.inl ⟨rfl, e.failed, rfl⟩
  | ok =>
    simp only [hctx, Prod.mk.injEq] at hallocate
    obtain ⟨rfl, rfl⟩ := hallocate
    rcases hrest with ⟨-, hrest⟩ | ⟨hfail, -⟩
    · obtain ⟨st, objects₂, hcreate, ⟨hst, hplug⟩ | ⟨-, rfl, rfl⟩⟩ := onSuccess_eq_some hrest
      · obtain ⟨-, rfl⟩ := Prod.mk.inj (Option.some.inj hplug)
        exact Or.inr ⟨rfl, st, hcreate, fun hfail => absurd (hst.symm.trans hfail) (by decide)⟩
      · exact Or.inr ⟨rfl, _, hcreate, fun _ => rfl⟩
    · exact absurd hfail (by decide)

theorem initializeAndPlugIn_live [Zero F] {o : PlugInOutcomes} {isAwake : Bool}
    (hu : objects.usbDevice d = some { ioContext := none, isAwake })
    (h : initializeAndPlugIn o d objects = some (status, objects')) :
    deferredQueueLive objects' (some d) = o.createsDeferredQueue := by
  rcases initializeAndPlugIn_cases hu h with ⟨hctx, -, rfl⟩ | ⟨hctx, st, hcreate, -⟩
  · have hnone : deferredQueueLive objects' (some d) = false := by
      simp [deferredQueueLive, deferredQueueOf, wdfDeviceGetIoContext, hu]
    rw [hnone, PlugInOutcomes.createsDeferredQueue, hctx]
    rfl
  · have hcontext := (hasContext_setIoContext hu
      { ioContext := none, isAwake } IoRecord.zeroed).setAwake true
    have hlive := createEndpoints_live
      [(usbDefaultEndpointAddress, o.control), (gBulkOutEndpointAddress, o.bulkOut),
        (gBulkInEndpointAddress, o.bulkIn)]
      (by simp [OtherEndpoint]; decide) hcontext hcreate
    rw [PlugInOutcomes.createsDeferredQueue, hctx]
    exact hlive.deferredQueueLive

/-- There is no device to plug in, or a new one takes the place of the child device. -/
theorem usbReadDescriptorsAndPlugIn_cases [Zero F] {o : PlugInOutcomes} {c c' : Controller β F}
    (h : usbReadDescriptorsAndPlugIn o c = some (status, c')) :
    (o.createsDevice = false ∧ ntSuccess status = false ∧ c' = c) ∨
      (o.createsDevice = true ∧ ∃ objects, initializeAndPlugIn o c.objects.next
          (c.objects.create (.usbDevice { ioContext := none, isAwake := false })) =
            some (status, objects) ∧
        c' = { c with
          objects, childDeviceInit := false, childDevice := some c.objects.next }) := by
  unfold usbReadDescriptorsAndPlugIn at h
  unfold PlugInOutcomes.createsDevice
  cases hpool : o.pool with
  | false =>
    simp only [hpool, Bool.not_false, if_true, Option.some.injEq, Prod.mk.injEq] at h
    obtain ⟨rfl, rfl⟩ := h
    exact Or.inl ⟨rfl, by decide, rfl⟩
  | true =>
    simp only [hpool, Bool.not_true, Bool.false_eq_true, if_false] at h
    cases hadd : o.addDescriptor with
    | error e =>
      simp only [hadd, Option.some.injEq, Prod.mk.injEq] at h
      obtain ⟨rfl, rfl⟩ := h
      exact Or.inl ⟨rfl, e.failed, rfl⟩
    | ok =>
      cases hcreate : o.deviceCreate with
      | error e =>
        simp only [hadd, hcreate, Option.some.injEq, Prod.mk.injEq] at h
        obtain ⟨rfl, rfl⟩ := h
        exact Or.inl ⟨rfl, e.failed, rfl⟩
      | ok =>
        simp only [hadd, hcreate] at h
        obtain ⟨⟨st, objects⟩, hinit, heq⟩ := Option.map_eq_some_iff.1 h
        obtain ⟨rfl, rfl⟩ := Prod.mk.inj heq
        exact Or.inr ⟨rfl, objects, hinit, rfl⟩

end

/-! ## The events -/

section

variable {c c' : Controller β F} {flagsOf : List β → F}

def Controller.DeferredQueueLive (c : Controller β F) : Prop :=
  deferredQueueLive c.objects c.childDevice = true

instance (c : Controller β F) : Decidable c.DeferredQueueLive :=
  inferInstanceAs (Decidable (_ = true))

theorem usbReadDescriptorsAndPlugIn_live [Zero F] {o : PlugInOutcomes} {status : NTSTATUS}
    (h : usbReadDescriptorsAndPlugIn o c = some (status, c')) :
    c'.DeferredQueueLive ↔
      if o.createsDevice then o.createsDeferredQueue = true else c.DeferredQueueLive := by
  rcases usbReadDescriptorsAndPlugIn_cases h with ⟨hno, -, rfl⟩ | ⟨hcreates, objects, hinit, rfl⟩
  · rw [hno]
    rfl
  · have hu := Objects.usbDevice_create_next c.objects { ioContext := none, isAwake := false }
    rw [hcreates, Controller.DeferredQueueLive, initializeAndPlugIn_live hu hinit]
    rfl

theorem freeCalls_deleted {objects objects' : Objects β F} {d : Nat} {calls : List FreeCall}
    (hd : objects.usbDevice d = none) (h : run freeCall objects calls = some objects') :
    objects'.usbDevice d = none := by
  induction calls generalizing objects with
  | nil =>
    obtain rfl := Option.some.inj h
    exact hd
  | cons call calls ih =>
    obtain ⟨objects₁, hcall, h⟩ := Option.bind_eq_some_iff.1 h
    refine ih ?_ h
    cases call with
    | delete handle =>
      obtain ⟨i, -, hdelete⟩ := Option.bind_eq_some_iff.1 hcall
      obtain ⟨-, -, rfl⟩ := Option.map_eq_some_iff.1 hdelete
      rw [Objects.usbDevice, Store.get?_delete]
      by_cases hi : d = i
      · rw [if_pos hi]
      · rw [if_neg hi]
        exact hd
    | purge handle =>
      obtain ⟨-, -, rfl⟩ := Option.map_eq_some_iff.1 hcall
      exact hd

theorem usbDisconnect_live {plugOut : NtResult Unit} {answer : NTSTATUS × List (Effect β F)}
    (h : usbDisconnect plugOut c = some (answer, c')) :
    c.DeferredQueueLive ∧ (c'.DeferredQueueLive ↔ plugOut.isOk = false) := by
  obtain ⟨⟨⟨ioContextCopy, fx⟩, objects⟩, hstop, h⟩ := Option.bind_eq_some_iff.1 h
  obtain ⟨hbefore, hafter⟩ := onIoContext_live hstop
  refine ⟨hbefore, ?_⟩
  cases plugOut with
  | error e =>
    simp only [Option.some.injEq, Prod.mk.injEq] at h
    obtain ⟨-, rfl⟩ := h
    exact ⟨fun _ => rfl, fun _ => hafter⟩
  | ok =>
    obtain ⟨objects₁, hdelete, h⟩ := Option.bind_eq_some_iff.1 h
    obtain ⟨objects₂, hfree, heq⟩ := Option.map_eq_some_iff.1 h
    obtain ⟨-, rfl⟩ := Prod.mk.inj heq
    obtain ⟨d, hd, hdelete⟩ := Option.bind_eq_some_iff.1 hdelete
    obtain ⟨-, -, rfl⟩ := Option.map_eq_some_iff.1 hdelete
    have hgone : Objects.usbDevice (Store.delete objects d) d = none := by
      rw [Objects.usbDevice, Store.get?_delete, if_pos rfl]
    have hdead := deferredQueueLive_of_deleted (freeCalls_deleted hgone hfree)
    rw [Controller.DeferredQueueLive, hd, hdead]
    constructor <;>
    · intro h
      cases h

theorem ioctl_live {code : ULONG} {request : WdfRequest β} {retrieve : NtResult Unit}
    {o : Outcomes} {answer : Bool × List (Effect β F)}
    (h : c.ioctl flagsOf code request retrieve o = some (answer, c')) :
    c'.DeferredQueueLive ↔ c.DeferredQueueLive := by
  unfold Controller.ioctl backChannelIoctl at h
  split at h
  · split at h
    · obtain ⟨-, rfl⟩ := Prod.mk.inj (Option.some.inj h)
      rfl
    · split at h
      · obtain ⟨⟨answer, c₁⟩, hraise, heq⟩ := Option.map_eq_some_iff.1 h
        obtain ⟨-, rfl⟩ := Prod.mk.inj heq
        obtain ⟨⟨answer', objects⟩, hon, heq⟩ := Option.map_eq_some_iff.1 hraise
        obtain ⟨-, rfl⟩ := Prod.mk.inj heq
        obtain ⟨hbefore, hafter⟩ := onIoContext_live hon
        exact ⟨fun _ => hbefore, fun _ => hafter⟩
      · obtain ⟨-, rfl⟩ := Prod.mk.inj (Option.some.inj h)
        rfl
  · obtain ⟨-, rfl⟩ := Prod.mk.inj (Option.some.inj h)
    rfl

/-! ## Runs -/

/-- What an event does to the deferred queue of the child device. -/
def deferredQueueLivesAfter (lives : Bool) : LifecycleEvent β → Bool
  | .d0Entry .d3Final o => if o.createsDevice then o.createsDeferredQueue else lives
  | .d0Exit .d3Final plugOutAndDelete => lives && !plugOutAndDelete.isOk
  | _ => lives

/-- The last plug-in that created a device got as far as its deferred queue, and the device was not
unplugged since. -/
def deferredQueueLives (t : List (LifecycleEvent β)) : Bool :=
  t.foldl deferredQueueLivesAfter false

/-- A plug-in, an unplugging, an interrupt request for the child device, or nothing. -/
theorem lifecycleStep_cases [Zero F] {e : LifecycleEvent β}
    (hstep : lifecycleStep flagsOf c e = some c') :
    (c' = c ∧
        ((∃ o, e = .d0Entry .other o) ∨ (∃ plugOutAndDelete, e = .d0Exit .other plugOutAndDelete) ∨
          ∃ code request retrieve o, e = .deviceControl true code request retrieve o)) ∨
      (∃ o status, e = .d0Entry .d3Final o ∧
        usbReadDescriptorsAndPlugIn o { c with allowOnlyResetInterrupts := true } =
          some (status, c')) ∨
      (∃ plugOutAndDelete answer, e = .d0Exit .d3Final plugOutAndDelete ∧
        usbDisconnect plugOutAndDelete c = some (answer, c')) ∨
      ∃ code request retrieve o answer, e = .deviceControl false code request retrieve o ∧
        c.ioctl flagsOf code request retrieve o = some (answer, c') := by
  cases e with
  | d0Entry previousState o =>
    obtain ⟨⟨status, c₁⟩, hentry, rfl⟩ := Option.map_eq_some_iff.1 hstep
    cases previousState with
    | other =>
      obtain ⟨-, rfl⟩ := Prod.mk.inj (Option.some.inj hentry)
      exact Or.inl ⟨rfl, Or.inl ⟨o, rfl⟩⟩
    | d3Final => exact Or.inr (Or.inl ⟨o, status, rfl, hentry⟩)
  | d0Exit targetState plugOutAndDelete =>
    obtain ⟨⟨status, c₁⟩, hexit, rfl⟩ := Option.map_eq_some_iff.1 hstep
    cases targetState with
    | other =>
      obtain ⟨-, rfl⟩ := Prod.mk.inj (Option.some.inj hexit)
      exact Or.inl ⟨rfl, Or.inr (Or.inl ⟨plugOutAndDelete, rfl⟩)⟩
    | d3Final =>
      obtain ⟨⟨answer, c₂⟩, hdisconnect, heq⟩ := Option.map_eq_some_iff.1 hexit
      obtain ⟨-, rfl⟩ := Prod.mk.inj heq
      exact Or.inr (Or.inr (Or.inl ⟨plugOutAndDelete, answer, rfl, hdisconnect⟩))
  | deviceControl handled code request retrieve o =>
    obtain ⟨⟨effects, c₁⟩, hcontrol, rfl⟩ := Option.map_eq_some_iff.1 hstep
    unfold controllerEvtIoDeviceControl at hcontrol
    cases handled with
    | true =>
      obtain ⟨-, rfl⟩ := Prod.mk.inj (Option.some.inj hcontrol)
      exact Or.inl ⟨rfl, Or.inr (Or.inr ⟨code, request, retrieve, o, rfl⟩)⟩
    | false =>
      obtain ⟨⟨answer, c₂⟩, hioctl, heq⟩ := Option.map_eq_some_iff.1 hcontrol
      obtain ⟨handled', fx⟩ := answer
      simp only at heq
      split at heq <;> obtain ⟨-, rfl⟩ := Prod.mk.inj heq <;>
        exact Or.inr (Or.inr (Or.inr ⟨code, request, retrieve, o, _, rfl, hioctl⟩))

theorem lifecycleStep_live [Zero F] {e : LifecycleEvent β} {lives : Bool}
    (hc : c.DeferredQueueLive ↔ lives = true) (hstep : lifecycleStep flagsOf c e = some c') :
    c'.DeferredQueueLive ↔ deferredQueueLivesAfter lives e = true := by
  rcases lifecycleStep_cases hstep with ⟨rfl, hquiet⟩ | ⟨o, status, rfl, hplug⟩ |
    ⟨plugOutAndDelete, answer, rfl, hdisconnect⟩ | ⟨code, request, retrieve, o, answer, rfl, hioctl⟩
  · rcases hquiet with ⟨o, rfl⟩ | ⟨plugOutAndDelete, rfl⟩ | ⟨code, request, retrieve, o, rfl⟩
    all_goals exact hc
  · have hlive := usbReadDescriptorsAndPlugIn_live hplug
    simp only [deferredQueueLivesAfter]
    cases hcreates : o.createsDevice with
    | true => simpa only [hcreates, if_true] using hlive
    | false =>
      simp only [hcreates, Bool.false_eq_true, if_false] at hlive ⊢
      exact hlive.trans hc
  · obtain ⟨hbefore, hafter⟩ := usbDisconnect_live hdisconnect
    refine hafter.trans ?_
    rw [deferredQueueLivesAfter, hc.1 hbefore, Bool.true_and, Bool.not_eq_true']
  · exact (ioctl_live hioctl).trans hc

/-- **The history tells** whether there is a device to raise an interrupt on. -/
theorem lifecycleRun_live [Zero F] {t : List (LifecycleEvent β)}
    (hrun : lifecycleRun flagsOf t = some c) :
    c.DeferredQueueLive ↔ deferredQueueLives t = true := by
  refine run_invariant (P := fun t c => c.DeferredQueueLive ↔ deferredQueueLives t = true)
    ?_ ?_ hrun
  · constructor <;>
    · intro h
      cases h
  · intro t c e c' _ hc hstep
    rw [deferredQueueLives, List.foldl_append]
    exact lifecycleStep_live hc hstep

/-- An interrupt request is safe: the device it is raised on is live, or it is completed with an
error. -/
def Controller.IoctlGuarded (flagsOf : List β → F) (request : WdfRequest β)
    (retrieve : NtResult Unit) (o : Outcomes) (c : Controller β F) : Prop :=
  c.DeferredQueueLive ∨ ∃ status, ntSuccess status = false ∧
    c.ioctl flagsOf ioctlUdefx2GenerateInterrupt request retrieve o =
      some ((true, [.complete (completeRequest .wdfRequest request status 0)]), c)

/-- An input buffer of four bytes, which can be retrieved. -/
def FourByteInput (request : WdfRequest β) (retrieve : NtResult Unit) : Prop :=
  retrieve.isOk = true ∧ request.buffer.length = sizeofDeviceIntrFlags

theorem ioctl_fourByteInput {request : WdfRequest β} {retrieve : NtResult Unit} {o : Outcomes}
    (hinput : FourByteInput request retrieve) (hdead : ¬ c.DeferredQueueLive) :
    c.ioctl flagsOf ioctlUdefx2GenerateInterrupt request retrieve o = none := by
  obtain ⟨hok, hlen⟩ := hinput
  obtain ⟨u, rfl⟩ : ∃ u, retrieve = .ok u := by
    cases retrieve with
    | error e => cases hok
    | ok u => exact ⟨u, rfl⟩
  have hbuffer : wdfRequestRetrieveBuffer request sizeofDeviceIntrFlags (.ok u) =
      .ok request.buffer := if_neg (by rw [hlen]; exact Nat.lt_irrefl _)
  simp only [Controller.ioctl, backChannelIoctl, if_true, hbuffer, hlen, Option.map_eq_none_iff]
  cases hraise : ioRaiseInterruptOn c.objects c.childDevice (flagsOf request.buffer) o with
  | none => rfl
  | some x => exact absurd (onIoContext_live hraise).1 hdead

theorem ioctl_otherInput {request : WdfRequest β} {retrieve : NtResult Unit}
    (hinput : ¬ FourByteInput request retrieve) (o : Outcomes) :
    c.IoctlGuarded flagsOf request retrieve o := by
  refine Or.inr ?_
  simp only [Controller.ioctl, backChannelIoctl, if_true]
  cases hbuffer : wdfRequestRetrieveBuffer request sizeofDeviceIntrFlags retrieve with
  | error e => exact ⟨e.status, e.failed, rfl⟩
  | ok pflags =>
    obtain rfl := wdfRequestRetrieveBuffer_eq_ok hbuffer
    have hlen : request.buffer.length ≠ sizeofDeviceIntrFlags := by
      intro hlen
      refine hinput ⟨?_, hlen⟩
      cases retrieve with
      | error e => cases hbuffer
      | ok => rfl
    simp only [hlen, if_false]
    exact ⟨statusInvalidParameter, rfl, rfl⟩

theorem not_ioctlGuarded {request : WdfRequest β} {retrieve : NtResult Unit} {o : Outcomes}
    (hinput : FourByteInput request retrieve) (hdead : ¬ c.DeferredQueueLive) :
    ¬ c.IoctlGuarded flagsOf request retrieve o := by
  rintro (hlive | ⟨status, -, hioctl⟩)
  · exact hdead hlive
  · rw [ioctl_fourByteInput hinput hdead] at hioctl
    cases hioctl

/-- **Interrupt requests in any state of the controller**: after any history, an interrupt request
is safe if and only if its input is not a flag word, or the last device created got as far as its
deferred queue and is still plugged in. -/
theorem ioctl_guarded_iff [Zero F] {t : List (LifecycleEvent β)}
    (hrun : lifecycleRun flagsOf t = some c) (request : WdfRequest β) (retrieve : NtResult Unit)
    (o : Outcomes) : c.IoctlGuarded flagsOf request retrieve o ↔
      (FourByteInput request retrieve → deferredQueueLives t = true) := by
  constructor
  · intro hguarded hinput
    by_contra hdead
    exact not_ioctlGuarded hinput (mt (lifecycleRun_live hrun).1 hdead) hguarded
  · intro h
    by_cases hinput : FourByteInput request retrieve
    · exact Or.inl ((lifecycleRun_live hrun).2 (h hinput))
    · exact ioctl_otherInput hinput o

end

def endpointOk : EndpointOutcomes :=
  { deferredQueue := .ok (), deferredLock := .ok (), epQueue := .ok (), initAllocated := true
    endpoint := .ok () }

def plugInOk : PlugInOutcomes :=
  { pool := true, addDescriptor := .ok (), deviceCreate := .ok (), allocateContext := .ok ()
    control := endpointOk, bulkOut := endpointOk, bulkIn := endpointOk, interruptIn := endpointOk
    plugIn := .ok () }

/-- `IOCTL_UDEFX2_GENERATE_INTERRUPT` with a flag word. -/
def generateInterrupt : WdfRequest UInt8 := ⟨0, .ioctl, [10, 0, 0, 0]⟩

def flagWord (bs : List UInt8) : ULONG :=
  bs.foldr (fun b acc => (acc <<< 8) ||| b.toBitVec.setWidth 32) 0

/-- A plug-in that fails before the device is created, and one that does not. -/
def pluggedIn : List (LifecycleEvent UInt8) :=
  [.d0Entry .d3Final { plugInOk with pool := false }, .d0Entry .d3Final plugInOk]

theorem pluggedIn_guarded : ∃ c, lifecycleRun flagWord pluggedIn = some c ∧
    c.IoctlGuarded flagWord generateInterrupt (.ok ()) outcomesOk := by
  have hrun : (lifecycleRun flagWord pluggedIn).isSome = true := by decide +kernel
  obtain ⟨c, hc⟩ := Option.isSome_iff_exists.1 hrun
  exact ⟨c, hc, (ioctl_guarded_iff hc _ _ _).2 fun _ => by decide⟩

def unplugged : List (LifecycleEvent UInt8) :=
  [.d0Entry .d3Final plugInOk, .d0Exit .d3Final (.ok ())]

/-- After that, an interrupt request is raised on the handle of the deleted device. -/
theorem unplugged_unguarded : ∃ c, lifecycleRun flagWord unplugged = some c ∧
    ¬ c.IoctlGuarded flagWord generateInterrupt (.ok ()) outcomesOk := by
  have hrun : (lifecycleRun flagWord unplugged).isSome = true := by decide +kernel
  obtain ⟨c, hc⟩ := Option.isSome_iff_exists.1 hrun
  refine ⟨c, hc, not_ioctlGuarded ⟨rfl, rfl⟩ ?_⟩
  intro hlive
  exact absurd ((lifecycleRun_live hc).1 hlive) (by decide)

end UdeSample
