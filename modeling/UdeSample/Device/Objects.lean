import UdeSample.Device.BackChannel
import UdeSample.Lib.Run
import UdeSample.Lib.Store
import Mathlib.Logic.Function.Basic

/-!
# Framework objects of the virtual device (`USBCom.c`, `usbdevice.c`)

The device, its queues and its lock as objects behind handles, and the functions that create and
delete them. The handlers of `Device.USBCom` work on the context itself; here they find it through
the handle of the device, as the callbacks do.

`none` as a handle is `NULL`. `none` as a result is a call on a handle that is not good, or on the
context of an object that has none: the system stops there, and the call does not return.
-/

namespace UdeSample

open Lib

variable {β F : Type}

def usbDefaultEndpointAddress : UCHAR := 0x00
def gBulkOutEndpointAddress : UCHAR := 0x02
def gBulkInEndpointAddress : UCHAR := 0x84
def gInterruptEndpointAddress : UCHAR := 0x86

/-- The four endpoint queues of `IO_CONTEXT`. -/
inductive EndpointSlot where
  | control
  | bulkOut
  | bulkIn
  | interruptUrb
deriving DecidableEq, Repr

def EndpointSlot.ofAddress (epAddr : UCHAR) : Option EndpointSlot :=
  if epAddr = usbDefaultEndpointAddress then some .control
  else if epAddr = gBulkOutEndpointAddress then some .bulkOut
  else if epAddr = gBulkInEndpointAddress then some .bulkIn
  else if epAddr = gInterruptEndpointAddress then some .interruptUrb
  else none

/-- `IO_CONTEXT` with the handles it holds. -/
structure IoRecord (F : Type) where
  endpointQueue : EndpointSlot → Option Nat
  intrDeferredQueue : Option Nat
  bStopping : Bool
  /-- `IntrState.sync` -/
  sync : Option Nat
  intrState : DeviceIntrState intrStateMaxCachedUpdates F

def IoRecord.zeroed [Zero F] : IoRecord F :=
  { endpointQueue := fun _ => none, intrDeferredQueue := none, bStopping := false, sync := none
    intrState := .cleared }

/-- A `UDECXUSBDEVICE` with its contexts, `IO_CONTEXT` if it was allocated. -/
structure UsbDevice (F : Type) where
  ioContext : Option (IoRecord F)
  isAwake : Bool

inductive DriverObject (β F : Type) where
  | usbDevice (device : UsbDevice F)
  | queue (q : WdfQueue β)
  /-- a sequential queue with its `ENDPOINTQUEUE_CONTEXT` -/
  | endpointQueue (usbDeviceObj : Nat)
  | spinLock

abbrev Objects (β F : Type) := Store (DriverObject β F)

/-- `if (!NT_SUCCESS(status)) goto exit;` -/
def onSuccess {σ : Type} (r : Option (NTSTATUS × σ)) (k : σ → Option (NTSTATUS × σ)) :
    Option (NTSTATUS × σ) :=
  r.bind fun (status, s) => if ntSuccess status then k s else some (status, s)

theorem onSuccess_eq_some {σ : Type} {r : Option (NTSTATUS × σ)}
    {k : σ → Option (NTSTATUS × σ)} {status : NTSTATUS} {s : σ}
    (h : onSuccess r k = some (status, s)) : ∃ status₁ s₁, r = some (status₁, s₁) ∧
      (ntSuccess status₁ = true ∧ k s₁ = some (status, s) ∨
        ntSuccess status₁ = false ∧ status = status₁ ∧ s = s₁) := by
  obtain ⟨⟨status₁, s₁⟩, hr, hk⟩ := Option.bind_eq_some_iff.1 h
  refine ⟨status₁, s₁, hr, ?_⟩
  cases hok : ntSuccess status₁ with
  | true => exact Or.inl ⟨rfl, by simpa [hok] using hk⟩
  | false =>
    simp only [hok, Bool.false_eq_true, if_false, Option.some.injEq, Prod.mk.injEq] at hk
    exact Or.inr ⟨rfl, hk.1.symm, hk.2.symm⟩

namespace Objects

def usbDevice (objects : Objects β F) (i : Nat) : Option (UsbDevice F) :=
  match objects.get? i with
  | some (.usbDevice device) => some device
  | _ => none

def queue (objects : Objects β F) (i : Nat) : Option (WdfQueue β) :=
  match objects.get? i with
  | some (.queue q) => some q
  | _ => none

def isSpinLock (objects : Objects β F) (handle : Option Nat) : Bool :=
  match handle.bind objects.get? with
  | some .spinLock => true
  | _ => false

def deferredQueue (objects : Objects β F) (record : IoRecord F) : Option (Nat × WdfQueue β) :=
  record.intrDeferredQueue.bind fun h => (objects.queue h).map fun q => (h, q)

def setIoContext (objects : Objects β F) (d : Nat) (u : UsbDevice F) (record : IoRecord F) :
    Objects β F :=
  objects.update d (.usbDevice { u with ioContext := some record })

def wdfObjectDelete (objects : Objects β F) (handle : Option Nat) : Option (Objects β F) :=
  handle.bind fun i => (objects.get? i).map fun _ => objects.delete i

end Objects

/-! ## The handlers, through the handle of the device -/

/-- `WdfDeviceGetIoContext`, with the device it belongs to. -/
def wdfDeviceGetIoContext (objects : Objects β F) (device : Option Nat) :
    Option (Nat × UsbDevice F × IoRecord F) :=
  device.bind fun d => (objects.usbDevice d).bind fun u => u.ioContext.map fun record =>
    (d, u, record)

/-- The deferred queue of a device, if both are live. -/
def deferredQueueOf (objects : Objects β F) (device : Option Nat) : Option (Nat × WdfQueue β) :=
  (wdfDeviceGetIoContext objects device).bind fun (_, _, record) => objects.deferredQueue record

/-- What the handlers of `Device.USBCom` work on. -/
def IoRecord.view (record : IoRecord F) (q : WdfQueue β) : IoContext β F :=
  { intrDeferredQueue := q, bStopping := record.bStopping, intrState := record.intrState }

/-- Runs `f` on the context of a device and its deferred queue. -/
def onIoContext {ρ : Type} (objects : Objects β F) (device : Option Nat)
    (f : IoRecord F → IoContext β F → Option (ρ × IoContext β F)) : Option (ρ × Objects β F) :=
  (wdfDeviceGetIoContext objects device).bind fun (d, u, record) =>
    (objects.deferredQueue record).bind fun (h, q) =>
      (f record (record.view q)).map fun (answer, io) =>
        (answer, Objects.setIoContext (objects.update h (.queue io.intrDeferredQueue)) d u
          { record with bStopping := io.bStopping, intrState := io.intrState })

/-- `Io_RaiseInterrupt`; caching the update takes the lock. -/
def ioRaiseInterruptOn (objects : Objects β F) (device : Option Nat) (latestStatus : F)
    (o : Outcomes) : Option ((NTSTATUS × List (Effect β F)) × Objects β F) :=
  onIoContext objects device fun record io =>
    if (ioTakeDeferred io).isNone && !objects.isSpinLock record.sync then none
    else
      let (status, io, effects) := ioRaiseInterrupt latestStatus o io
      some ((status, effects), io)

/-- `IoEvtInterruptInUrb`; an update that is cached is handed over without the deferred queue. -/
def ioEvtInterruptInUrbOn [Zero F] (objects : Objects β F) (tgtDevice : Option Nat)
    (ioControlCode : ULONG) (request : WdfRequest β) (o : Outcomes) :
    Option (List (Effect β F) × Objects β F) :=
  (wdfDeviceGetIoContext objects tgtDevice).bind fun (d, u, record) =>
    if ioControlCode ≠ ioctlInternalUsbSubmitUrb then some ([], objects)
    else if !objects.isSpinLock record.sync then none
    else if record.intrState.numUnreadUpdates > 0 then
      some ([.complete (ioCompletePendingRequest request record.intrState.latestStatus o.retrieve)],
        objects.setIoContext d u { record with intrState := .cleared })
    else
      onIoContext objects tgtDevice fun _ io =>
        let (io, effects) := ioEvtInterruptInUrb ioControlCode request o io
        some (effects, io)

/-- Sets `IsAwake` of a live device. -/
def Objects.setAwake (objects : Objects β F) (device : Option Nat) (isAwake : Bool) :
    Objects β F :=
  match device.bind fun d => (objects.usbDevice d).map fun u => (d, u) with
  | some (d, u) => Store.update objects d (.usbDevice { u with isAwake })
  | none => objects

/-- `UsbDevice_EvtUsbDeviceLinkPowerEntry`, with `Io_DeviceWokeUp`. -/
def usbDeviceEvtLinkPowerEntry (objects : Objects β F) (device : Option Nat) :
    Option (Objects β F) :=
  (onIoContext objects device fun _ io => some ((), ioDeviceWokeUp io)).map fun (_, objects) =>
    objects.setAwake device true

/-- `UsbDevice_EvtUsbDeviceLinkPowerExit`, with `Io_DeviceSlept`. -/
def usbDeviceEvtLinkPowerExit (objects : Objects β F) (device : Option Nat) :
    Option (List (Effect β F) × Objects β F) :=
  onIoContext (objects.setAwake device false) device fun _ io =>
    let (io, effects) := ioDeviceSlept io
    some (effects, io)

/-- `Io_StopDeferredProcessing`, with the copy it makes of the context. -/
def ioStopDeferredProcessingOn (objects : Objects β F) (device : Option Nat) :
    Option ((IoRecord F × List (Effect β F)) × Objects β F) :=
  onIoContext objects device fun record io =>
    let (io, effects) := ioStopDeferredProcessing io
    some (({ record with bStopping := true }, effects), io)

/-! ## Deleting the queues -/

/-- The calls `Io_FreeEndpointQueues` makes. -/
inductive FreeCall where
  | delete (handle : Option Nat)
  | purge (handle : Option Nat)

def ioFreeEndpointQueuesCalls (record : IoRecord F) : List FreeCall :=
  .delete record.intrDeferredQueue ::
    [EndpointSlot.control, .interruptUrb, .bulkIn, .bulkOut].flatMap fun slot =>
      [.purge (record.endpointQueue slot), .delete (record.endpointQueue slot)]

/-- One of the calls. A purge waits for the requests of the queue, which the framework holds. -/
def freeCall (objects : Objects β F) : FreeCall → Option (Objects β F)
  | .delete handle => objects.wdfObjectDelete handle
  | .purge handle => (handle.bind objects.get?).map fun _ => objects

def ioFreeEndpointQueues (record : IoRecord F) (objects : Objects β F) : Option (Objects β F) :=
  run freeCall objects (ioFreeEndpointQueuesCalls record)

/-! ## Creating the queues -/

def ioAllocateContext [Zero F] (objects : Objects β F) (device : Nat) (o : NtResult Unit) :
    Option (NTSTATUS × Objects β F) :=
  (objects.usbDevice device).map fun u =>
    match o with
    | .error e => (e.status, objects)
    | .ok () => (statusSuccess, objects.setIoContext device u .zeroed)

/-- What the framework answers while an endpoint is created. -/
structure EndpointOutcomes where
  /-- the deferred queue and its lock, for the interrupt endpoint only -/
  deferredQueue : NtResult Unit
  deferredLock : NtResult Unit
  epQueue : NtResult Unit
  initAllocated : Bool
  endpoint : NtResult Unit

/-- `Io_CreateDeferredIntrQueue`; a failed creation leaves `NULL` in the handle. -/
def ioCreateDeferredIntrQueue [Zero F] (record : IoRecord F) (o : EndpointOutcomes)
    (objects : Objects β F) : NTSTATUS × IoRecord F × Objects β F :=
  let record := { record with intrState := .cleared }
  match o.deferredQueue with
  | .error e => (e.status, { record with intrDeferredQueue := none }, objects)
  | .ok () =>
    let record := { record with intrDeferredQueue := some objects.next }
    let objects := Store.create objects (.queue (wdfIoQueueCreated .udecxUrb))
    match o.deferredLock with
    | .error e => (e.status, { record with sync := none }, objects)
    | .ok () =>
      (statusSuccess, { record with sync := some objects.next }, Store.create objects .spinLock)

/-- The queue of an endpoint, created if it is not there yet. `GetEndpointQueueContext` is applied
to the handle before the status of the creation is looked at. -/
def findOrCreateEpQueue (objects : Objects β F) (d : Nat) (u : UsbDevice F) (record : IoRecord F)
    (slot : EndpointSlot) (o : NtResult Unit) : Option (NTSTATUS × Option Nat × Objects β F) :=
  match record.endpointQueue slot, o with
  | some queue, _ => some (statusSuccess, some queue, objects)
  | none, .error _ => none
  | none, .ok () =>
    let record := { record with
      endpointQueue := Function.update record.endpointQueue slot (some objects.next) }
    some (statusSuccess, some objects.next,
      Objects.setIoContext (objects.create (.endpointQueue d)) d u record)

/-- `Io_RetrieveEpQueue`: its status, and `*Queue` (`NULL` also where it is not assigned). -/
def ioRetrieveEpQueue [Zero F] (objects : Objects β F) (device : Option Nat) (epAddr : UCHAR)
    (o : EndpointOutcomes) : Option (NTSTATUS × Option Nat × Objects β F) :=
  (wdfDeviceGetIoContext objects device).bind fun (d, u, record) =>
    match EndpointSlot.ofAddress epAddr with
    | none => some (statusIllegalFunction, none, objects)
    | some .interruptUrb =>
      let (status, record, objects) := ioCreateDeferredIntrQueue record o objects
      let objects := objects.setIoContext d u record
      if ntSuccess status then findOrCreateEpQueue objects d u record .interruptUrb o.epQueue
      else some (status, none, objects)
    | some slot => findOrCreateEpQueue objects d u record slot o.epQueue

def usbCreateEndpointObj [Zero F] (objects : Objects β F) (device : Option Nat) (epAddr : UCHAR)
    (o : EndpointOutcomes) : Option (NTSTATUS × Objects β F) :=
  (ioRetrieveEpQueue objects device epAddr o).bind fun (status, _, objects) =>
    if ntSuccess status then
      if o.initAllocated then some (o.endpoint.status, objects)
      else some (statusInsufficientResources, objects)
    else some (status, objects)

/-! ## Looking objects up -/

namespace Objects

variable {objects : Objects β F} {d i : Nat} {u u' : UsbDevice F} {q : WdfQueue β}

theorem usbDevice_eq_some :
    objects.usbDevice i = some u ↔ objects.get? i = some (.usbDevice u) := by
  unfold usbDevice
  split <;> simp_all

theorem queue_eq_some : objects.queue i = some q ↔ objects.get? i = some (.queue q) := by
  unfold queue
  split <;> simp_all

theorem queue_of_usbDevice (h : objects.usbDevice i = some u) : objects.queue i = none := by
  rw [queue, usbDevice_eq_some.1 h]

theorem usbDevice_of_queue (h : objects.queue i = some q) : objects.usbDevice i = none := by
  rw [usbDevice, queue_eq_some.1 h]

theorem deferredQueue_eq_some {record : IoRecord F} :
    objects.deferredQueue record = some (i, q) ↔
      record.intrDeferredQueue = some i ∧ objects.queue i = some q := by
  unfold deferredQueue
  cases record.intrDeferredQueue with
  | none => simp
  | some h =>
    simp only [Option.bind_some, Option.map_eq_some_iff, Prod.mk.injEq, Option.some.injEq]
    constructor
    · rintro ⟨q', hq, rfl, rfl⟩
      exact ⟨rfl, hq⟩
    · rintro ⟨rfl, hq⟩
      exact ⟨q, hq, rfl, rfl⟩

theorem usbDevice_setIoContext (h : objects.usbDevice d = some u) (u' : UsbDevice F)
    (record : IoRecord F) (i : Nat) : (objects.setIoContext d u' record).usbDevice i =
      if i = d then some { u' with ioContext := some record } else objects.usbDevice i := by
  unfold usbDevice setIoContext
  rw [Store.get?_update (usbDevice_eq_some.1 h)]
  by_cases hi : i = d
  · rw [if_pos hi, if_pos hi]
  · rw [if_neg hi, if_neg hi]

theorem queue_setIoContext (h : objects.usbDevice d = some u) (u' : UsbDevice F)
    (record : IoRecord F) (i : Nat) :
    (objects.setIoContext d u' record).queue i = objects.queue i := by
  by_cases hi : i = d
  · subst hi
    rw [queue_of_usbDevice h, queue, setIoContext, Store.get?_update (usbDevice_eq_some.1 h),
      if_pos rfl]
  · rw [queue, setIoContext, Store.get?_update (usbDevice_eq_some.1 h), if_neg hi]
    rfl

theorem queue_update (h : objects.queue d = some q) (q' : WdfQueue β) (i : Nat) :
    Objects.queue (objects.update d (.queue q')) i =
      if i = d then some q' else objects.queue i := by
  unfold queue
  rw [Store.get?_update (queue_eq_some.1 h)]
  by_cases hi : i = d
  · rw [if_pos hi, if_pos hi]
  · rw [if_neg hi, if_neg hi]

theorem usbDevice_update (h : objects.queue d = some q) (q' : WdfQueue β) (i : Nat) :
    Objects.usbDevice (objects.update d (.queue q')) i = objects.usbDevice i := by
  by_cases hi : i = d
  · subst hi
    rw [usbDevice_of_queue h, usbDevice, Store.get?_update (queue_eq_some.1 h), if_pos rfl]
  · rw [usbDevice, Store.get?_update (queue_eq_some.1 h), if_neg hi]
    rfl

theorem usbDevice_create_of_some (h : objects.usbDevice i = some u) (a : DriverObject β F) :
    Objects.usbDevice (objects.create a) i = some u :=
  usbDevice_eq_some.2 (Store.get?_create_of_some (usbDevice_eq_some.1 h) a)

theorem usbDevice_create_next (objects : Objects β F) (u : UsbDevice F) :
    Objects.usbDevice (objects.create (.usbDevice u)) objects.next = some u := by
  rw [usbDevice, Store.get?_create, if_pos rfl]

theorem queue_create_of_some (h : objects.queue i = some q) (a : DriverObject β F) :
    Objects.queue (objects.create a) i = some q :=
  queue_eq_some.2 (Store.get?_create_of_some (queue_eq_some.1 h) a)

theorem queue_create_of_ne (objects : Objects β F) {a : DriverObject β F}
    (ha : ∀ q, a ≠ .queue q) (i : Nat) : Objects.queue (objects.create a) i = objects.queue i := by
  unfold queue
  rw [Store.get?_create]
  by_cases hi : i = objects.next
  · have hnone : Store.get? objects i = none := by
      by_contra hsome
      obtain ⟨b, hb⟩ := Option.ne_none_iff_exists'.1 hsome
      exact absurd (Store.lt_next hb) (by rw [hi]; exact Nat.lt_irrefl _)
    rw [if_pos hi, hnone]
    cases a <;> first | rfl | exact absurd rfl (ha _)
  · rw [if_neg hi]

theorem deferredQueue_congr {objects' : Objects β F} {record record' : IoRecord F}
    (hrecord : record'.intrDeferredQueue = record.intrDeferredQueue)
    (hqueue : ∀ i, objects'.queue i = objects.queue i) :
    objects'.deferredQueue record' = objects.deferredQueue record := by
  unfold deferredQueue
  rw [hrecord]
  simp only [hqueue]

end Objects

theorem wdfDeviceGetIoContext_eq_some {objects : Objects β F} {device : Option Nat} {d : Nat}
    {u : UsbDevice F} {record : IoRecord F} :
    wdfDeviceGetIoContext objects device = some (d, u, record) ↔
      device = some d ∧ objects.usbDevice d = some u ∧ u.ioContext = some record := by
  cases device with
  | none => simp [wdfDeviceGetIoContext]
  | some d' =>
    simp only [wdfDeviceGetIoContext, Option.bind_some, Option.bind_eq_some_iff,
      Option.map_eq_some_iff, Prod.mk.injEq, Option.some.injEq]
    constructor
    · rintro ⟨u', hu, record', hrecord, rfl, rfl, rfl⟩
      exact ⟨rfl, hu, hrecord⟩
    · rintro ⟨rfl, hu, hrecord⟩
      exact ⟨u, hu, record, hrecord, rfl, rfl, rfl⟩

section

variable {objects objects' : Objects β F} {device : Option Nat} {d : Nat} {u : UsbDevice F}
  {record : IoRecord F}

theorem wdfDeviceGetIoContext_setIoContext (hu : objects.usbDevice d = some u) (u' : UsbDevice F)
    (record : IoRecord F) : wdfDeviceGetIoContext (objects.setIoContext d u' record) (some d) =
      some (d, { u' with ioContext := some record }, record) := by
  refine wdfDeviceGetIoContext_eq_some.2 ⟨rfl, ?_, rfl⟩
  rw [Objects.usbDevice_setIoContext hu, if_pos rfl]

theorem deferredQueueOf_eq (hu : objects.usbDevice d = some u)
    (hrecord : u.ioContext = some record) :
    deferredQueueOf objects (some d) = objects.deferredQueue record := by
  rw [deferredQueueOf, wdfDeviceGetIoContext_eq_some.2 ⟨rfl, hu, hrecord⟩]
  rfl

theorem deferredQueueOf_setIoContext (hu : objects.usbDevice d = some u) (u' : UsbDevice F)
    (record : IoRecord F) : deferredQueueOf (objects.setIoContext d u' record) (some d) =
      objects.deferredQueue record := by
  rw [deferredQueueOf_eq (by rw [Objects.usbDevice_setIoContext hu, if_pos rfl]) rfl,
    Objects.deferredQueue_congr rfl (Objects.queue_setIoContext hu u' record)]

/-- **A call on the context** finds the deferred queue live and keeps it, with what `f` made of
it. -/
theorem onIoContext_eq_some {ρ : Type} {answer : ρ}
    {f : IoRecord F → IoContext β F → Option (ρ × IoContext β F)}
    (h : onIoContext objects device f = some (answer, objects')) :
    ∃ d u record i q io, wdfDeviceGetIoContext objects device = some (d, u, record) ∧
      deferredQueueOf objects device = some (i, q) ∧
      f record (record.view q) = some (answer, io) ∧
      objects' = Objects.setIoContext (objects.update i (.queue io.intrDeferredQueue)) d u
        { record with bStopping := io.bStopping, intrState := io.intrState } ∧
      deferredQueueOf objects' device = some (i, io.intrDeferredQueue) := by
  obtain ⟨⟨d, u, record⟩, hcontext, h⟩ := Option.bind_eq_some_iff.1 h
  obtain ⟨⟨i, q⟩, hdeferred, h⟩ := Option.bind_eq_some_iff.1 h
  obtain ⟨⟨answer', io⟩, hf, h⟩ := Option.map_eq_some_iff.1 h
  obtain ⟨rfl, rfl⟩ := Prod.mk.inj h
  obtain ⟨rfl, hu, hrecord⟩ := wdfDeviceGetIoContext_eq_some.1 hcontext
  obtain ⟨hi, hq⟩ := Objects.deferredQueue_eq_some.1 hdeferred
  refine ⟨d, u, record, i, q, io, hcontext, ?_, hf, rfl, ?_⟩
  · rw [deferredQueueOf_eq hu hrecord, hdeferred]
  · have hu' : Objects.usbDevice (objects.update i (.queue io.intrDeferredQueue)) d = some u := by
      rw [Objects.usbDevice_update hq, hu]
    have hq' : Objects.queue (objects.update i (.queue io.intrDeferredQueue)) i =
        some io.intrDeferredQueue := by
      rw [Objects.queue_update hq, if_pos rfl]
    rw [deferredQueueOf_setIoContext hu']
    exact Objects.deferredQueue_eq_some.2 ⟨hi, hq'⟩

theorem Objects.setAwake_eq (hu : objects.usbDevice d = some u)
    (hrecord : u.ioContext = some record) (isAwake : Bool) :
    objects.setAwake (some d) isAwake = objects.setIoContext d { u with isAwake } record := by
  simp [Objects.setAwake, hu, Objects.setIoContext, hrecord]

end

/-! ## Kinds of objects

Nothing but a deletion takes an object away, and no call changes what kind of object a handle is
for. -/

inductive ObjectKind where
  | usbDevice
  | queue
  | endpointQueue
  | spinLock
deriving DecidableEq, Repr

def DriverObject.kind : DriverObject β F → ObjectKind
  | .usbDevice _ => .usbDevice
  | .queue _ => .queue
  | .endpointQueue _ => .endpointQueue
  | .spinLock => .spinLock

namespace Objects

variable {objects objects' objects'' : Objects β F} {d i : Nat}

def kind? (objects : Objects β F) (i : Nat) : Option ObjectKind :=
  (objects.get? i).map DriverObject.kind

/-- Live handles stay good for objects of their kind. -/
def Extends (objects objects' : Objects β F) : Prop :=
  ∀ i k, objects.kind? i = some k → objects'.kind? i = some k

theorem Extends.refl (objects : Objects β F) : objects.Extends objects := fun _ _ h => h

theorem Extends.trans (h₁ : objects.Extends objects') (h₂ : objects'.Extends objects'') :
    objects.Extends objects'' := fun i k h => h₂ i k (h₁ i k h)

theorem kind?_of_usbDevice {u : UsbDevice F} (h : objects.usbDevice i = some u) :
    objects.kind? i = some .usbDevice := by
  rw [kind?, usbDevice_eq_some.1 h]
  rfl

theorem isSpinLock_eq_true {handle : Option Nat} :
    objects.isSpinLock handle = true ↔ ∃ i, handle = some i ∧ objects.kind? i = some .spinLock := by
  cases handle with
  | none => simp [isSpinLock]
  | some i =>
    simp only [isSpinLock, Option.bind_some, Option.some.injEq, exists_eq_left', kind?]
    cases objects.get? i with
    | none => simp
    | some a => cases a <;> simp [DriverObject.kind]

theorem extends_create (objects : Objects β F) (a : DriverObject β F) :
    objects.Extends (objects.create a) := by
  intro i k h
  obtain ⟨b, hb, rfl⟩ := Option.map_eq_some_iff.1 h
  rw [kind?, Store.get?_create_of_some hb]
  rfl

theorem kind?_create_next (objects : Objects β F) (a : DriverObject β F) :
    Objects.kind? (objects.create a) objects.next = some a.kind := by
  rw [kind?, Store.get?_create, if_pos rfl]
  rfl

theorem extends_update {a b : DriverObject β F} (hb : objects.get? d = some b)
    (hkind : b.kind = a.kind) : objects.Extends (objects.update d a) := by
  intro i k h
  rw [kind?, Store.get?_update hb]
  by_cases hi : i = d
  · subst hi
    rw [kind?, hb, Option.map_some, hkind] at h
    rw [if_pos rfl]
    exact h
  · rw [if_neg hi]
    exact h

theorem extends_setIoContext {u : UsbDevice F} (hu : objects.usbDevice d = some u)
    (u' : UsbDevice F) (record : IoRecord F) :
    objects.Extends (objects.setIoContext d u' record) :=
  extends_update (usbDevice_eq_some.1 hu) rfl

theorem usbDevice_delete (hne : d ≠ i) :
    Objects.usbDevice (objects.delete i) d = objects.usbDevice d := by
  rw [usbDevice, Store.get?_delete, if_neg hne]
  rfl

theorem queue_delete (hne : d ≠ i) : Objects.queue (objects.delete i) d = objects.queue d := by
  rw [queue, Store.get?_delete, if_neg hne]
  rfl

theorem isSpinLock_delete {handle : Option Nat} (hne : handle ≠ some i)
    (hlock : objects.isSpinLock handle = true) :
    Objects.isSpinLock (objects.delete i) handle = true := by
  obtain ⟨k, rfl, hkind⟩ := isSpinLock_eq_true.1 hlock
  refine isSpinLock_eq_true.2 ⟨k, rfl, ?_⟩
  have hk : k ≠ i := by
    intro hk
    exact hne (congrArg some hk)
  rw [kind?, Store.get?_delete, if_neg hk]
  exact hkind

end Objects

theorem onIoContext_extends {ρ : Type} {objects objects' : Objects β F} {device : Option Nat}
    {answer : ρ} {f : IoRecord F → IoContext β F → Option (ρ × IoContext β F)}
    (h : onIoContext objects device f = some (answer, objects')) : objects.Extends objects' := by
  obtain ⟨d, u, record, i, q, io, hcontext, hdeferred, -, rfl, -⟩ := onIoContext_eq_some h
  obtain ⟨rfl, hu, hrecord⟩ := wdfDeviceGetIoContext_eq_some.1 hcontext
  rw [deferredQueueOf_eq hu hrecord] at hdeferred
  obtain ⟨-, hq⟩ := Objects.deferredQueue_eq_some.1 hdeferred
  have hupdate : objects.Extends (objects.update i (.queue io.intrDeferredQueue)) :=
    Objects.extends_update (Objects.queue_eq_some.1 hq) rfl
  exact hupdate.trans
    (Objects.extends_setIoContext ((Objects.usbDevice_update hq _ d).trans hu) u _)

/-! ## What `Io_RetrieveEpQueue` does -/

section

variable {objects : Objects β F} {d : Nat} {u : UsbDevice F} {record : IoRecord F}
  {epAddr : UCHAR} {slot : EndpointSlot}

theorem findOrCreateEpQueue_found {q : Nat} (hq : record.endpointQueue slot = some q)
    (o : NtResult Unit) : findOrCreateEpQueue objects d u record slot o =
      some (statusSuccess, some q, objects) := by
  simp only [findOrCreateEpQueue, hq]

/-- The context with the queue of an endpoint in it. -/
def IoRecord.setEndpointQueue (record : IoRecord F) (slot : EndpointSlot) (q : Nat) : IoRecord F :=
  { record with endpointQueue := Function.update record.endpointQueue slot (some q) }

theorem findOrCreateEpQueue_created (hq : record.endpointQueue slot = none) :
    findOrCreateEpQueue objects d u record slot (.ok ()) =
      some (statusSuccess, some objects.next,
        Objects.setIoContext (objects.create (.endpointQueue d)) d u
          (record.setEndpointQueue slot objects.next)) := by
  simp only [findOrCreateEpQueue, hq]
  rfl

theorem findOrCreateEpQueue_failed (hq : record.endpointQueue slot = none) (e : NtError) :
    findOrCreateEpQueue objects d u record slot (.error e) = none := by
  simp only [findOrCreateEpQueue, hq]

theorem findOrCreateEpQueue_cases {o : NtResult Unit} {status : NTSTATUS} {queue : Option Nat}
    {objects' : Objects β F}
    (h : findOrCreateEpQueue objects d u record slot o = some (status, queue, objects')) :
    status = statusSuccess ∧
      ((∃ q, record.endpointQueue slot = some q ∧ queue = some q ∧ objects' = objects) ∨
        (record.endpointQueue slot = none ∧ o.isOk = true ∧ queue = some objects.next ∧
          objects' = Objects.setIoContext (objects.create (.endpointQueue d)) d u
            (record.setEndpointQueue slot objects.next))) := by
  cases hq : record.endpointQueue slot with
  | some q =>
    obtain ⟨rfl, rfl, rfl⟩ := (findOrCreateEpQueue_found hq o).symm.trans h
    exact ⟨rfl, Or.inl ⟨q, rfl, rfl, rfl⟩⟩
  | none =>
    cases o with
    | error e =>
      rw [findOrCreateEpQueue_failed hq e] at h
      cases h
    | ok =>
      obtain ⟨rfl, rfl, rfl⟩ := (findOrCreateEpQueue_created hq).symm.trans h
      exact ⟨rfl, Or.inr ⟨rfl, rfl, rfl, rfl⟩⟩

variable [Zero F]

/-- The context with new handles for the deferred interrupts, and no update. -/
def IoRecord.setDeferred (record : IoRecord F) (intrDeferredQueue sync : Option Nat) : IoRecord F :=
  { record with intrDeferredQueue, sync, intrState := .cleared }

/-- The deferred queue as it is created. -/
def deferredQueueObject : DriverObject β F := .queue (wdfIoQueueCreated .udecxUrb)

section

variable {o : EndpointOutcomes} {e : NtError}

theorem ioCreateDeferredIntrQueue_noQueue (hqueue : o.deferredQueue = .error e) :
    ioCreateDeferredIntrQueue record o objects =
      (e.status, record.setDeferred none record.sync, objects) := by
  rw [ioCreateDeferredIntrQueue, hqueue]
  rfl

theorem ioCreateDeferredIntrQueue_noLock (hqueue : o.deferredQueue = .ok ())
    (hlock : o.deferredLock = .error e) :
    ioCreateDeferredIntrQueue record o objects =
      (e.status, record.setDeferred (some objects.next) none,
        Store.create objects deferredQueueObject) := by
  rw [ioCreateDeferredIntrQueue, hqueue, hlock]
  rfl

theorem ioCreateDeferredIntrQueue_ok (hqueue : o.deferredQueue = .ok ())
    (hlock : o.deferredLock = .ok ()) :
    ioCreateDeferredIntrQueue record o objects =
      (statusSuccess, record.setDeferred (some objects.next) (some (objects.next + 1)),
        Store.create (Store.create objects deferredQueueObject) .spinLock) := by
  rw [ioCreateDeferredIntrQueue, hqueue, hlock, ← Store.next_create objects deferredQueueObject]
  rfl

/-- Both are created, or the call fails and the handle of what was not created is `NULL`. -/
theorem ioCreateDeferredIntrQueue_cases {status : NTSTATUS} {record' : IoRecord F}
    {objects' : Objects β F}
    (h : ioCreateDeferredIntrQueue record o objects = (status, record', objects')) :
    (o.deferredQueue.isOk = false ∧ ntSuccess status = false ∧
        record' = record.setDeferred none record.sync ∧ objects' = objects) ∨
      (o.deferredQueue.isOk = true ∧ ntSuccess status = false ∧
        record' = record.setDeferred (some objects.next) none ∧
        objects' = Store.create objects deferredQueueObject) ∨
      (o.deferredQueue.isOk = true ∧ status = statusSuccess ∧
        record' = record.setDeferred (some objects.next) (some (objects.next + 1)) ∧
        objects' = Store.create (Store.create objects deferredQueueObject) .spinLock) := by
  cases hqueue : o.deferredQueue with
  | error e =>
    obtain ⟨rfl, rfl, rfl⟩ := (ioCreateDeferredIntrQueue_noQueue hqueue).symm.trans h
    exact Or.inl ⟨rfl, e.failed, rfl, rfl⟩
  | ok =>
    cases hlock : o.deferredLock with
    | error e =>
      obtain ⟨rfl, rfl, rfl⟩ := (ioCreateDeferredIntrQueue_noLock hqueue hlock).symm.trans h
      exact Or.inr (Or.inl ⟨rfl, e.failed, rfl, rfl⟩)
    | ok =>
      obtain ⟨rfl, rfl, rfl⟩ := (ioCreateDeferredIntrQueue_ok hqueue hlock).symm.trans h
      exact Or.inr (Or.inr ⟨rfl, rfl, rfl, rfl⟩)

end

theorem ioRetrieveEpQueue_unknown
    (hcontext : wdfDeviceGetIoContext objects (some d) = some (d, u, record))
    (hslot : EndpointSlot.ofAddress epAddr = none) (o : EndpointOutcomes) :
    ioRetrieveEpQueue objects (some d) epAddr o =
      some (statusIllegalFunction, none, objects) := by
  rw [ioRetrieveEpQueue, hcontext, Option.bind_some]
  simp only [hslot]

theorem ioRetrieveEpQueue_transfer
    (hcontext : wdfDeviceGetIoContext objects (some d) = some (d, u, record))
    (hslot : EndpointSlot.ofAddress epAddr = some slot) (hne : slot ≠ .interruptUrb)
    (o : EndpointOutcomes) :
    ioRetrieveEpQueue objects (some d) epAddr o =
      findOrCreateEpQueue objects d u record slot o.epQueue := by
  rw [ioRetrieveEpQueue, hcontext, Option.bind_some]
  cases slot with
  | interruptUrb => exact absurd rfl hne
  | control | bulkOut | bulkIn => simp only [hslot]

theorem ioRetrieveEpQueue_interrupt
    (hcontext : wdfDeviceGetIoContext objects (some d) = some (d, u, record))
    (hslot : EndpointSlot.ofAddress epAddr = some .interruptUrb) {o : EndpointOutcomes}
    {status : NTSTATUS} {record' : IoRecord F} {objects' : Objects β F}
    (hcreate : ioCreateDeferredIntrQueue record o objects = (status, record', objects')) :
    ioRetrieveEpQueue objects (some d) epAddr o =
      if ntSuccess status then
        findOrCreateEpQueue (objects'.setIoContext d u record') d u record' .interruptUrb o.epQueue
      else some (status, none, objects'.setIoContext d u record') := by
  rw [ioRetrieveEpQueue, hcontext, Option.bind_some]
  simp only [hslot, hcreate]

/-- **What a call does**: an unknown address is refused; the queue of another endpoint than the
interrupt endpoint is found or created; for the interrupt endpoint the deferred queue and its lock
are created first, and the context is written back, whether that fails or not. -/
theorem ioRetrieveEpQueue_cases
    (hcontext : wdfDeviceGetIoContext objects (some d) = some (d, u, record))
    {o : EndpointOutcomes} {status : NTSTATUS} {queue : Option Nat} {objects' : Objects β F}
    (h : ioRetrieveEpQueue objects (some d) epAddr o = some (status, queue, objects')) :
    (EndpointSlot.ofAddress epAddr = none ∧ status = statusIllegalFunction ∧ queue = none ∧
        objects' = objects) ∨
      (∃ slot, EndpointSlot.ofAddress epAddr = some slot ∧ slot ≠ .interruptUrb ∧
        findOrCreateEpQueue objects d u record slot o.epQueue =
          some (status, queue, objects')) ∨
      (EndpointSlot.ofAddress epAddr = some .interruptUrb ∧ ∃ st record₁ objects₁,
        ioCreateDeferredIntrQueue record o objects = (st, record₁, objects₁) ∧
          ((ntSuccess st = true ∧ findOrCreateEpQueue (objects₁.setIoContext d u record₁) d u
              record₁ .interruptUrb o.epQueue = some (status, queue, objects')) ∨
            (ntSuccess st = false ∧ status = st ∧ queue = none ∧
              objects' = objects₁.setIoContext d u record₁))) := by
  cases hslot : EndpointSlot.ofAddress epAddr with
  | none =>
    obtain ⟨rfl, rfl, rfl⟩ := (ioRetrieveEpQueue_unknown hcontext hslot o).symm.trans h
    exact Or.inl ⟨rfl, rfl, rfl, rfl⟩
  | some slot =>
    by_cases hne : slot = .interruptUrb
    · subst hne
      obtain ⟨⟨st, record₁, objects₁⟩, hdeferred⟩ :
          ∃ x, ioCreateDeferredIntrQueue record o objects = x := ⟨_, rfl⟩
      rw [ioRetrieveEpQueue_interrupt hcontext hslot hdeferred] at h
      refine Or.inr (Or.inr ⟨rfl, st, record₁, objects₁, hdeferred, ?_⟩)
      cases hst : ntSuccess st with
      | true =>
        rw [if_pos hst] at h
        exact Or.inl ⟨rfl, h⟩
      | false =>
        rw [if_neg (Bool.eq_false_iff.1 hst)] at h
        obtain ⟨rfl, rfl, rfl⟩ := h
        exact Or.inr ⟨rfl, rfl, rfl, rfl⟩
    · rw [ioRetrieveEpQueue_transfer hcontext hslot hne] at h
      exact Or.inr (Or.inl ⟨slot, rfl, hne, h⟩)

end

end UdeSample
