import UdeSample.Device.Lifecycle

/-!
# The handles of a plugged-in device

A plug-in that succeeds leaves a context with a live lock whose queue handles are those of queues
(`usbReadDescriptorsAndPlugIn_handles`). The handlers keep it so: they change neither a handle of
the context nor the kind of an object (`Objects.Keeps`).
-/

namespace UdeSample

open Lib

variable {β F : Type}

/-- The handles of an `IO_CONTEXT`. -/
structure IoHandles where
  endpointQueue : EndpointSlot → Option Nat
  intrDeferredQueue : Option Nat
  sync : Option Nat

def IoRecord.handles (record : IoRecord F) : IoHandles :=
  { endpointQueue := record.endpointQueue, intrDeferredQueue := record.intrDeferredQueue
    sync := record.sync }

/-- The handles of the context of a live device. -/
def handlesOf (objects : Objects β F) (device : Option Nat) : Option (Nat × IoHandles) :=
  (wdfDeviceGetIoContext objects device).map fun (d, _, record) => (d, record.handles)

/-- The queue handles are those of queues. -/
structure IoHandles.Typed (objects : Objects β F) (handles : IoHandles) : Prop where
  deferred : ∀ i, handles.intrDeferredQueue = some i → objects.kind? i = some .queue
  endpoints : ∀ slot i, handles.endpointQueue slot = some i → objects.kind? i = some .endpointQueue

/-- A live device with a context whose queue handles are those of queues, and whose lock is live if
`locked`. -/
def HasHandles (objects : Objects β F) (d : Nat) (locked : Bool) : Prop :=
  ∃ handles, handlesOf objects (some d) = some (d, handles) ∧ handles.Typed objects ∧
    (locked = true → objects.isSpinLock handles.sync = true)

/-- Live handles and the handles of the context stay what they are. -/
structure Objects.Keeps (objects objects' : Objects β F) (device : Option Nat) : Prop where
  kinds : objects.Extends objects'
  handles : handlesOf objects' device = handlesOf objects device

section

variable {objects objects' objects'' : Objects β F} {device : Option Nat} {d : Nat}
  {handles : IoHandles} {u : UsbDevice F} {record : IoRecord F} {locked : Bool} {status : NTSTATUS}

theorem handlesOf_eq_some : handlesOf objects device = some (d, handles) ↔
    ∃ u record, wdfDeviceGetIoContext objects device = some (d, u, record) ∧
      record.handles = handles := by
  simp only [handlesOf, Option.map_eq_some_iff, Prod.exists, Prod.mk.injEq]
  constructor
  · rintro ⟨d', u, record, hcontext, rfl, hrecord⟩
    exact ⟨u, record, hcontext, hrecord⟩
  · rintro ⟨u, record, hcontext, hrecord⟩
    exact ⟨d, u, record, hcontext, rfl, hrecord⟩

theorem handlesOf_eq (hu : objects.usbDevice d = some u) (hrecord : u.ioContext = some record) :
    handlesOf objects (some d) = some (d, record.handles) :=
  handlesOf_eq_some.2 ⟨u, record, wdfDeviceGetIoContext_eq_some.2 ⟨rfl, hu, hrecord⟩, rfl⟩

theorem handlesOf_setIoContext (hu : objects.usbDevice d = some u) (u' : UsbDevice F)
    (record : IoRecord F) :
    handlesOf (objects.setIoContext d u' record) (some d) = some (d, record.handles) := by
  apply handlesOf_eq (u := { u' with ioContext := some record })
  · rw [Objects.usbDevice_setIoContext hu, if_pos rfl]
  · rfl

theorem IoHandles.Typed.extends (h : handles.Typed objects) (hext : objects.Extends objects') :
    handles.Typed objects' where
  deferred i hi := hext i _ (h.deferred i hi)
  endpoints slot i hi := hext i _ (h.endpoints slot i hi)

theorem isSpinLock_extends {handle : Option Nat} (hext : objects.Extends objects')
    (h : objects.isSpinLock handle = true) : objects'.isSpinLock handle = true := by
  obtain ⟨i, hi, hkind⟩ := Objects.isSpinLock_eq_true.1 h
  exact Objects.isSpinLock_eq_true.2 ⟨i, hi, hext i _ hkind⟩

theorem Objects.Keeps.refl (objects : Objects β F) (device : Option Nat) :
    objects.Keeps objects device := ⟨Extends.refl objects, rfl⟩

theorem Objects.Keeps.trans (h₁ : objects.Keeps objects' device)
    (h₂ : objects'.Keeps objects'' device) : objects.Keeps objects'' device :=
  ⟨h₁.kinds.trans h₂.kinds, h₂.handles.trans h₁.handles⟩

theorem keeps_setIoContext (hu : objects.usbDevice d = some u) (hrecord : u.ioContext = some record)
    (u' : UsbDevice F) {record' : IoRecord F} (hhandles : record'.handles = record.handles) :
    objects.Keeps (objects.setIoContext d u' record') (some d) where
  kinds := Objects.extends_setIoContext hu u' record'
  handles := by rw [handlesOf_setIoContext hu, handlesOf_eq hu hrecord, hhandles]

/-- **A call on the context** keeps the handles. -/
theorem keeps_onIoContext {ρ : Type} {answer : ρ}
    {f : IoRecord F → IoContext β F → Option (ρ × IoContext β F)}
    (h : onIoContext objects device f = some (answer, objects')) :
    objects.Keeps objects' device := by
  refine ⟨onIoContext_extends h, ?_⟩
  obtain ⟨d, u, record, i, q, io, hcontext, hdeferred, -, rfl, -⟩ := onIoContext_eq_some h
  obtain ⟨rfl, hu, hrecord⟩ := wdfDeviceGetIoContext_eq_some.1 hcontext
  rw [deferredQueueOf_eq hu hrecord] at hdeferred
  obtain ⟨-, hq⟩ := Objects.deferredQueue_eq_some.1 hdeferred
  rw [handlesOf_setIoContext ((Objects.usbDevice_update hq _ d).trans hu), handlesOf_eq hu hrecord]
  rfl

theorem keeps_setAwake (h : handlesOf objects device = some (d, handles)) (isAwake : Bool) :
    objects.Keeps (objects.setAwake device isAwake) device := by
  obtain ⟨u, record, hcontext, rfl⟩ := handlesOf_eq_some.1 h
  obtain ⟨rfl, hu, hrecord⟩ := wdfDeviceGetIoContext_eq_some.1 hcontext
  rw [Objects.setAwake_eq hu hrecord]
  exact keeps_setIoContext hu hrecord _ rfl

theorem HasHandles.unlocked (h : HasHandles objects d locked) : HasHandles objects d false := by
  obtain ⟨handles, hhandles, htyped, -⟩ := h
  exact ⟨handles, hhandles, htyped, fun hlocked => by cases hlocked⟩

theorem HasHandles.keeps (h : HasHandles objects d locked)
    (hkeeps : objects.Keeps objects' (some d)) : HasHandles objects' d locked := by
  obtain ⟨handles, hhandles, htyped, hlock⟩ := h
  refine ⟨handles, hkeeps.handles.trans hhandles, htyped.extends hkeeps.kinds, ?_⟩
  intro hlocked
  exact isSpinLock_extends hkeeps.kinds (hlock hlocked)

/-! ## Plugging in -/

theorem hasHandles_setIoContext (hu : objects.usbDevice d = some u) (u' : UsbDevice F)
    (htyped : record.handles.Typed objects)
    (hlock : locked = true → objects.isSpinLock record.sync = true) :
    HasHandles (objects.setIoContext d u' record) d locked := by
  have hext := Objects.extends_setIoContext hu u' record
  refine ⟨record.handles, handlesOf_setIoContext hu u' record, htyped.extends hext, ?_⟩
  intro hlocked
  exact isSpinLock_extends hext (hlock hlocked)

theorem typed_zeroed [Zero F] (objects : Objects β F) :
    (IoRecord.zeroed : IoRecord F).handles.Typed objects where
  deferred _ hi := by cases hi
  endpoints _ _ hi := by cases hi

theorem typed_createEpQueue (htyped : record.handles.Typed objects) (slot : EndpointSlot) :
    IoHandles.Typed (objects.create (.endpointQueue d))
      { record with endpointQueue :=
          Function.update record.endpointQueue slot (some objects.next) }.handles := by
  have hext : objects.Extends (objects.create (.endpointQueue d)) :=
    Objects.extends_create objects _
  refine ⟨(htyped.extends hext).deferred, ?_⟩
  intro slot' i hi
  by_cases hslot : slot' = slot
  · subst hslot
    simp only [IoRecord.handles, Function.update_self, Option.some.injEq] at hi
    subst hi
    exact Objects.kind?_create_next objects _
  · simp only [IoRecord.handles, Function.update_of_ne hslot] at hi
    exact (htyped.extends hext).endpoints slot' i hi

theorem findOrCreateEpQueue_handles {u' : UsbDevice F} {slot : EndpointSlot} {o : NtResult Unit}
    {queue : Option Nat} (hu : objects.usbDevice d = some u) (hrecord : u.ioContext = some record)
    (htyped : record.handles.Typed objects)
    (hlock : locked = true → objects.isSpinLock record.sync = true)
    (h : findOrCreateEpQueue objects d u' record slot o = some (status, queue, objects')) :
    HasHandles objects' d locked := by
  obtain ⟨-, ⟨q, -, -, rfl⟩ | ⟨-, -, -, rfl⟩⟩ := findOrCreateEpQueue_cases h
  · exact ⟨record.handles, handlesOf_eq hu hrecord, htyped, hlock⟩
  · apply hasHandles_setIoContext (Objects.usbDevice_create_of_some hu _)
    · exact typed_createEpQueue htyped slot
    · intro hlocked
      exact isSpinLock_extends (Objects.extends_create objects _) (hlock hlocked)

theorem ioCreateDeferredIntrQueue_handles [Zero F] (o : EndpointOutcomes)
    (hu : objects.usbDevice d = some u) (htyped : record.handles.Typed objects)
    {record' : IoRecord F}
    (h : ioCreateDeferredIntrQueue record o objects = (status, record', objects')) :
    objects'.usbDevice d = some u ∧ record'.handles.Typed objects' ∧
      (ntSuccess status = true → objects'.isSpinLock record'.sync = true) := by
  have hext := Objects.extends_create objects deferredQueueObject
  have hu₁ := Objects.usbDevice_create_of_some hu deferredQueueObject
  have hcreated : IoHandles.Typed (objects.create deferredQueueObject)
      { record.handles with intrDeferredQueue := some objects.next } := by
    refine ⟨?_, (htyped.extends hext).endpoints⟩
    intro i hi
    obtain rfl := Option.some.inj hi
    exact Objects.kind?_create_next objects _
  rcases ioCreateDeferredIntrQueue_cases h with ⟨-, hfail, rfl, rfl⟩ | ⟨-, hfail, rfl, rfl⟩ |
    ⟨-, -, rfl, rfl⟩
  · refine ⟨hu, ⟨fun _ hi => (by cases hi), htyped.endpoints⟩, ?_⟩
    intro hok
    exact absurd (hfail.symm.trans hok) (by decide)
  · refine ⟨hu₁, ⟨hcreated.deferred, hcreated.endpoints⟩, ?_⟩
    intro hok
    exact absurd (hfail.symm.trans hok) (by decide)
  · have hboth := hcreated.extends (Objects.extends_create _ .spinLock)
    refine ⟨Objects.usbDevice_create_of_some hu₁ _, ⟨hboth.deferred, hboth.endpoints⟩, ?_⟩
    intro _
    refine Objects.isSpinLock_eq_true.2 ⟨_, rfl, ?_⟩
    rw [← Store.next_create objects deferredQueueObject]
    exact Objects.kind?_create_next _ _

theorem ofAddress_interruptUrb {epAddr : UCHAR}
    (h : EndpointSlot.ofAddress epAddr = some .interruptUrb) :
    epAddr = gInterruptEndpointAddress := by
  unfold EndpointSlot.ofAddress at h
  repeat' split at h
  all_goals first | assumption | cases h

/-- **An endpoint** leaves the queue handles those of queues; the interrupt endpoint brings the
lock. -/
theorem usbCreateEndpointObj_handles [Zero F] {epAddr : UCHAR} {o : EndpointOutcomes}
    (h : HasHandles objects d false)
    (hcreate : usbCreateEndpointObj objects (some d) epAddr o = some (status, objects')) :
    HasHandles objects' d (epAddr == gInterruptEndpointAddress && ntSuccess status) := by
  obtain ⟨st, queue, hretrieve, -, hfailed⟩ := usbCreateEndpointObj_eq_some hcreate
  obtain ⟨handles, hhandles, htyped, -⟩ := h
  obtain ⟨u, record, hcontext, rfl⟩ := handlesOf_eq_some.1 hhandles
  obtain ⟨-, hu, hrecord⟩ := wdfDeviceGetIoContext_eq_some.1 hcontext
  -- nothing is promised of the lock at another address
  have hother (hne : EndpointSlot.ofAddress epAddr ≠ some .interruptUrb)
      (hlocked : (epAddr == gInterruptEndpointAddress && ntSuccess status) = true) :
      objects.isSpinLock record.sync = true := by
    have haddr : epAddr ≠ gInterruptEndpointAddress := fun h => hne (h ▸ rfl)
    simp [haddr] at hlocked
  rcases ioRetrieveEpQueue_cases hcontext hretrieve with ⟨hslot, -, -, rfl⟩ |
    ⟨slot, hslot, hne, hfind⟩ | ⟨hslot, st₁, record₁, objects₁, hdeferred, hrest⟩
  · exact ⟨record.handles, hhandles, htyped, hother fun h => by cases hslot.symm.trans h⟩
  · exact findOrCreateEpQueue_handles hu hrecord htyped
      (hother fun h => hne (Option.some.inj (hslot.symm.trans h))) hfind
  · obtain ⟨hu₁, htyped₁, hlock₁⟩ := ioCreateDeferredIntrQueue_handles o hu htyped hdeferred
    have hext₁ := Objects.extends_setIoContext hu₁ u record₁
    rcases hrest with ⟨hok, hfind⟩ | ⟨hfail, rfl, -, rfl⟩
    · have hu₂ : (Objects.setIoContext objects₁ d u record₁).usbDevice d =
          some { u with ioContext := some record₁ } := by
        rw [Objects.usbDevice_setIoContext hu₁, if_pos rfl]
      apply findOrCreateEpQueue_handles hu₂ rfl (htyped₁.extends hext₁) ?_ hfind
      intro _
      exact isSpinLock_extends hext₁ (hlock₁ hok)
    · -- the context is written back all the same; a failed status promises no lock
      apply hasHandles_setIoContext hu₁ u htyped₁
      intro hlocked
      rw [hfailed hfail, hfail, Bool.and_false] at hlocked
      cases hlocked

theorem createEndpoints_handles [Zero F] (others : List (UCHAR × EndpointOutcomes))
    {o : EndpointOutcomes} (h : HasHandles objects d false)
    (hcreate : createEndpoints d (others ++ [(gInterruptEndpointAddress, o)]) objects =
      some (status, objects')) (hok : ntSuccess status = true) : HasHandles objects' d true := by
  induction others generalizing objects with
  | nil =>
    obtain ⟨st, objects₁, hep, ⟨hst, hrest⟩ | ⟨hst, rfl, -⟩⟩ := onSuccess_eq_some hcreate
    · obtain ⟨-, rfl⟩ := Prod.mk.inj (Option.some.inj hrest)
      have hlast := usbCreateEndpointObj_handles h hep
      rw [hst] at hlast
      exact hlast
    · exact absurd (hst.symm.trans hok) (by decide)
  | cons e others ih =>
    obtain ⟨st, objects₁, hep, ⟨-, hrest⟩ | ⟨hst, rfl, -⟩⟩ := onSuccess_eq_some hcreate
    · exact ih (usbCreateEndpointObj_handles h hep).unlocked hrest
    · exact absurd (hst.symm.trans hok) (by decide)

theorem initializeAndPlugIn_handles [Zero F] {o : PlugInOutcomes}
    (hu : objects.usbDevice d = some u)
    (h : initializeAndPlugIn o d objects = some (status, objects'))
    (hok : ntSuccess status = true) : HasHandles objects' d true := by
  rcases initializeAndPlugIn_cases hu h with ⟨-, hfail, -⟩ | ⟨-, st, hcreate, hfailed⟩
  · exact absurd (hfail.symm.trans hok) (by decide)
  · have hcontext : HasHandles (objects.setIoContext d u .zeroed) d false :=
      hasHandles_setIoContext hu u (typed_zeroed objects) fun hlocked => by cases hlocked
    obtain ⟨handles, hhandles, -⟩ := id hcontext
    have hawake := hcontext.keeps (keeps_setAwake hhandles true)
    cases hst : ntSuccess st with
    | true =>
      exact createEndpoints_handles
        [(usbDefaultEndpointAddress, o.control), (gBulkOutEndpointAddress, o.bulkOut),
          (gBulkInEndpointAddress, o.bulkIn)] hawake hcreate hst
    | false =>
      rw [hfailed hst, hst] at hok
      cases hok

/-- **A plug-in that succeeds** leaves a live lock and queue handles that are those of queues. -/
theorem usbReadDescriptorsAndPlugIn_handles [Zero F] {o : PlugInOutcomes} {c c' : Controller β F}
    (h : usbReadDescriptorsAndPlugIn o c = some (status, c')) (hok : ntSuccess status = true) :
    ∃ d, c'.childDevice = some d ∧ HasHandles c'.objects d true := by
  rcases usbReadDescriptorsAndPlugIn_cases h with ⟨-, hfail, -⟩ | ⟨-, objects, hinit, rfl⟩
  · exact absurd (hfail.symm.trans hok) (by decide)
  · have hcreated := Objects.usbDevice_create_next c.objects
      { ioContext := none, isAwake := false }
    exact ⟨_, rfl, initializeAndPlugIn_handles hcreated hinit hok⟩

end

end UdeSample
