import UdeSample.Device.Plugged

/-!
# What a disconnect leaves behind (`usbdevice.c`, `USBCom.c`)

`Usb_Disconnect` cancels the deferred URBs and deletes the five queues of the device
(`usbDisconnect_left`). Nothing deletes the lock of its `IO_CONTEXT`, as `WRQueueDestroy` deletes
that of a channel (`usbDisconnect_leavesLock`), and the bulk IN URBs parked in `missionCompletion`
stay parked.
-/

namespace UdeSample

open Lib

variable {β F : Type}

/-- `Usb_Disconnect`. -/
def PluggedDriver.disconnect (plugOutAndDelete : NtResult Unit) (s : PluggedDriver β F) :
    Option ((NTSTATUS × List (Effect β F)) × PluggedDriver β F) :=
  (usbDisconnect plugOutAndDelete s.controller).map fun (answer, controller) =>
    (answer, { s with controller })

/-! ## What is left -/

/-- Created and deleted: a second deletion would not have returned. -/
def Objects.DeletedOnce (objects : Objects β F) (i : Nat) : Prop :=
  i < objects.next ∧ objects.get? i = none

def IoHandles.queues (handles : IoHandles) : List Nat :=
  ([EndpointSlot.control, .bulkOut, .bulkIn, .interruptUrb].filterMap handles.endpointQueue) ++
    handles.intrDeferredQueue.toList

/-- No URB of the device with these handles is parked, and its queues and its lock are deleted. -/
structure LeavesNothing (handles : IoHandles) (s : PluggedDriver β F) : Prop where
  deferred : ∀ i q, handles.intrDeferredQueue = some i → s.objects.queue i = some q →
    q.requests = []
  mission : s.missionCompletion.readBufferQueue.requests = []
  queues : ∀ i ∈ handles.queues, s.objects.DeletedOnce i
  lock : ∀ i, handles.sync = some i → s.objects.DeletedOnce i

/-! ## The lock of a device -/

/-- The queue handles of a device are those of queues, and a device with a queue for interrupt URBs
has a live lock. -/
def LockOk (objects : Objects β F) (device : Option Nat) : Prop :=
  ∀ d handles, handlesOf objects device = some (d, handles) → handles.Typed objects ∧
    (handles.endpointQueue .interruptUrb ≠ none → objects.isSpinLock handles.sync = true)

section

variable {objects objects' : Objects β F} {device : Option Nat} {d : Nat} {handles : IoHandles}
  {u : UsbDevice F} {record : IoRecord F} {status : NTSTATUS}

theorem LockOk.keeps (h : LockOk objects device) (hkeeps : objects.Keeps objects' device) :
    LockOk objects' device := by
  intro d handles hhandles
  obtain ⟨htyped, hlock⟩ := h d handles (hkeeps.handles.symm.trans hhandles)
  exact ⟨htyped.extends hkeeps.kinds, fun hslot => isSpinLock_extends hkeeps.kinds (hlock hslot)⟩

theorem LockOk.of_deleted (h : objects.usbDevice d = none) : LockOk objects (some d) := by
  intro d' handles hhandles
  obtain ⟨u, record, hcontext, -⟩ := handlesOf_eq_some.1 hhandles
  obtain ⟨hd, hu, -⟩ := wdfDeviceGetIoContext_eq_some.1 hcontext
  cases hd
  rw [h] at hu
  cases hu

/-- An endpoint other than the interrupt endpoint leaves the queue of that one alone. -/
theorem usbCreateEndpointObj_interruptUrb [Zero F] {epAddr : UCHAR} {o : EndpointOutcomes}
    (hne : epAddr ≠ gInterruptEndpointAddress) (h : handlesOf objects (some d) = some (d, handles))
    (hcreate : usbCreateEndpointObj objects (some d) epAddr o = some (status, objects')) :
    ∃ handles', handlesOf objects' (some d) = some (d, handles') ∧
      handles'.endpointQueue .interruptUrb = handles.endpointQueue .interruptUrb := by
  obtain ⟨st, queue, hretrieve, -⟩ := usbCreateEndpointObj_eq_some hcreate
  obtain ⟨u, record, hcontext, rfl⟩ := handlesOf_eq_some.1 h
  obtain ⟨-, hu, hrecord⟩ := wdfDeviceGetIoContext_eq_some.1 hcontext
  rcases ioRetrieveEpQueue_cases hcontext hretrieve with ⟨-, -, -, rfl⟩ |
    ⟨slot, -, hslot, hfind⟩ | ⟨hslot, -⟩
  · exact ⟨_, h, rfl⟩
  · obtain ⟨-, ⟨q, -, -, rfl⟩ | ⟨-, -, -, rfl⟩⟩ := findOrCreateEpQueue_cases hfind
    · exact ⟨_, h, rfl⟩
    · exact ⟨_, handlesOf_setIoContext (Objects.usbDevice_create_of_some hu _) _ _,
        Function.update_of_ne hslot.symm _ _⟩
  · exact absurd (ofAddress_interruptUrb hslot) hne

theorem ioCreateDeferredIntrQueue_endpointQueue [Zero F] {record record' : IoRecord F}
    {o : EndpointOutcomes} {st : NTSTATUS}
    (h : ioCreateDeferredIntrQueue record o objects = (st, record', objects')) :
    record'.endpointQueue = record.endpointQueue := by
  rcases ioCreateDeferredIntrQueue_cases h with ⟨-, -, rfl, -⟩ | ⟨-, -, rfl, -⟩ | ⟨-, -, rfl, -⟩
  all_goals rfl

/-- The interrupt endpoint gets a queue only with its lock. -/
theorem usbCreateInterruptEndpoint_lock [Zero F] {o : EndpointOutcomes}
    (h : handlesOf objects (some d) = some (d, handles)) (htyped : handles.Typed objects)
    (hslot : handles.endpointQueue .interruptUrb = none)
    (hcreate : usbCreateEndpointObj objects (some d) gInterruptEndpointAddress o =
      some (status, objects')) : LockOk objects' (some d) := by
  have hhandles := usbCreateEndpointObj_handles
    ⟨handles, h, htyped, fun hlocked => by cases hlocked⟩ hcreate
  obtain ⟨handles', hhandles', htyped', -⟩ := hhandles
  obtain ⟨st, queue, hretrieve, -⟩ := usbCreateEndpointObj_eq_some hcreate
  obtain ⟨u, record, hcontext, rfl⟩ := handlesOf_eq_some.1 h
  obtain ⟨-, hu, hrecord⟩ := wdfDeviceGetIoContext_eq_some.1 hcontext
  intro d' handles'' hfinal
  obtain ⟨rfl, rfl⟩ := hhandles'.symm.trans hfinal
  refine ⟨htyped', fun hne => ?_⟩
  rcases ioRetrieveEpQueue_cases hcontext hretrieve with ⟨hnone, -⟩ | ⟨slot, haddr, hother, -⟩ |
    ⟨-, st₁, record₁, objects₁, hdeferred, hrest⟩
  · cases hnone
  · exact absurd (Option.some.inj haddr).symm hother
  obtain ⟨hu₁, htyped₁, hlock₁⟩ := ioCreateDeferredIntrQueue_handles o hu htyped hdeferred
  have hext₁ := Objects.extends_setIoContext hu₁ u record₁
  rcases hrest with ⟨hok, hfind⟩ | ⟨-, -, -, rfl⟩
  · have hu₂ : (Objects.setIoContext objects₁ d u record₁).usbDevice d =
        some { u with ioContext := some record₁ } := by
      rw [Objects.usbDevice_setIoContext hu₁, if_pos rfl]
    have hlocked : HasHandles objects' d true := findOrCreateEpQueue_handles hu₂ rfl
      (htyped₁.extends hext₁) (fun _ => isSpinLock_extends hext₁ (hlock₁ hok)) hfind
    obtain ⟨handles₂, hhandles₂, -, hlock₂⟩ := hlocked
    obtain ⟨-, rfl⟩ := hhandles₂.symm.trans hfinal
    exact hlock₂ rfl
  · obtain ⟨-, rfl⟩ := (handlesOf_setIoContext hu₁ u record₁).symm.trans hfinal
    have hslots := ioCreateDeferredIntrQueue_endpointQueue hdeferred
    exact absurd ((congrFun hslots _).trans hslot) hne

theorem createEndpoints_lock [Zero F] (others : List (UCHAR × EndpointOutcomes))
    {o : EndpointOutcomes} (hothers : ∀ e ∈ others, e.1 ≠ gInterruptEndpointAddress)
    (h : handlesOf objects (some d) = some (d, handles)) (htyped : handles.Typed objects)
    (hslot : handles.endpointQueue .interruptUrb = none)
    (hcreate : createEndpoints d (others ++ [(gInterruptEndpointAddress, o)]) objects =
      some (status, objects')) : LockOk objects' (some d) := by
  induction others generalizing objects handles with
  | nil =>
    obtain ⟨st, objects₁, hep, ⟨-, hrest⟩ | ⟨-, -, rfl⟩⟩ := onSuccess_eq_some hcreate
    · obtain ⟨-, rfl⟩ := Prod.mk.inj (Option.some.inj hrest)
      exact usbCreateInterruptEndpoint_lock h htyped hslot hep
    · exact usbCreateInterruptEndpoint_lock h htyped hslot hep
  | cons e others ih =>
    obtain ⟨st, objects₁, hep, hrest⟩ := onSuccess_eq_some hcreate
    have hhandles := usbCreateEndpointObj_handles
      ⟨handles, h, htyped, fun hlocked => by cases hlocked⟩ hep
    obtain ⟨handles₁, hhandles₁, htyped₁, -⟩ := hhandles
    obtain ⟨handles₂, hhandles₂, hsame⟩ :=
      usbCreateEndpointObj_interruptUrb (hothers e List.mem_cons_self) h hep
    obtain ⟨-, rfl⟩ := hhandles₁.symm.trans hhandles₂
    have hslot₁ := hsame.trans hslot
    rcases hrest with ⟨-, hrest⟩ | ⟨-, -, rfl⟩
    · exact ih (fun e' he' => hothers e' (List.mem_cons_of_mem e he')) hhandles₁ htyped₁ hslot₁
        hrest
    · intro d' handles' hfinal
      obtain ⟨rfl, rfl⟩ := hhandles₁.symm.trans hfinal
      exact ⟨htyped₁, fun hne => absurd hslot₁ hne⟩

theorem initializeAndPlugIn_lock [Zero F] {o : PlugInOutcomes} {isAwake : Bool}
    (hu : objects.usbDevice d = some { ioContext := none, isAwake })
    (h : initializeAndPlugIn o d objects = some (status, objects')) : LockOk objects' (some d) := by
  rcases initializeAndPlugIn_cases hu h with ⟨-, -, rfl⟩ | ⟨-, st, hcreate, -⟩
  · intro d' handles hhandles
    obtain ⟨u, record, hcontext, -⟩ := handlesOf_eq_some.1 hhandles
    obtain ⟨hd, hu', hrecord⟩ := wdfDeviceGetIoContext_eq_some.1 hcontext
    cases hd
    cases hu.symm.trans hu'
    cases hrecord
  · have hcontext := handlesOf_setIoContext hu { ioContext := none, isAwake }
      (IoRecord.zeroed : IoRecord F)
    have hkeeps := keeps_setAwake hcontext true
    exact createEndpoints_lock
      [(usbDefaultEndpointAddress, o.control), (gBulkOutEndpointAddress, o.bulkOut),
        (gBulkInEndpointAddress, o.bulkIn)] (by simp; decide) (hkeeps.handles.trans hcontext)
      (typed_zeroed _) rfl hcreate

/-- **A plug-in**, however far it gets. -/
theorem usbReadDescriptorsAndPlugIn_lock [Zero F] {o : PlugInOutcomes} {c c' : Controller β F}
    (h : usbReadDescriptorsAndPlugIn o c = some (status, c'))
    (hc : LockOk c.objects c.childDevice) :
    LockOk c'.objects c'.childDevice := by
  rcases usbReadDescriptorsAndPlugIn_cases h with ⟨-, -, rfl⟩ | ⟨-, objects, hinit, rfl⟩
  · exact hc
  · exact initializeAndPlugIn_lock (Objects.usbDevice_create_next c.objects _) hinit

/-! ## The disconnect -/

theorem Objects.DeletedOnce.delete {i : Nat} (h : objects.DeletedOnce i) (k : Nat) :
    Objects.DeletedOnce (objects.delete k) i := by
  refine ⟨?_, ?_⟩
  · rw [Store.next_delete]
    exact h.1
  · rw [Store.get?_delete, h.2, ite_self]

theorem freeCall_delete {handle : Option Nat}
    (h : freeCall objects (.delete handle) = some objects') :
    ∃ i a, handle = some i ∧ objects.get? i = some a ∧ objects' = objects.delete i := by
  obtain ⟨i, rfl, hdelete⟩ := Option.bind_eq_some_iff.1 h
  obtain ⟨a, ha, rfl⟩ := Option.map_eq_some_iff.1 hdelete
  exact ⟨i, a, rfl, ha, rfl⟩

theorem freeCalls_deletedOnce {calls : List FreeCall} {i : Nat}
    (h : run freeCall objects calls = some objects')
    (hi : objects.DeletedOnce i ∨ .delete (some i) ∈ calls) : objects'.DeletedOnce i := by
  induction calls generalizing objects with
  | nil =>
    obtain rfl := Option.some.inj h
    exact hi.resolve_right List.not_mem_nil
  | cons call calls ih =>
    obtain ⟨objects₁, hcall, hrest⟩ := Option.bind_eq_some_iff.1 h
    refine ih hrest ?_
    cases call with
    | purge handle =>
      obtain ⟨-, -, rfl⟩ := Option.map_eq_some_iff.1 hcall
      simpa using hi
    | delete handle =>
      obtain ⟨k, a, rfl, hk, rfl⟩ := freeCall_delete hcall
      rcases hi with hdeleted | hmem
      · exact Or.inl (hdeleted.delete k)
      · rcases List.mem_cons.1 hmem with heq | hmem
        · cases heq
          refine Or.inl ⟨?_, ?_⟩
          · rw [Store.next_delete]
            exact Store.lt_next hk
          · rw [Store.get?_delete, if_pos rfl]
        · exact Or.inr hmem

/-- Calls that do not return on `NULL`. -/
theorem freeCalls_handle {calls : List FreeCall} (h : run freeCall objects calls = some objects')
    {handle : Option Nat} (hmem : .delete handle ∈ calls) : handle ≠ none := by
  induction calls generalizing objects with
  | nil => cases hmem
  | cons call calls ih =>
    obtain ⟨objects₁, hcall, hrest⟩ := Option.bind_eq_some_iff.1 h
    rcases List.mem_cons.1 hmem with rfl | hmem
    · obtain ⟨i, a, rfl, -⟩ := freeCall_delete hcall
      exact Option.some_ne_none i
    · exact ih hrest hmem

theorem freeCalls_isSpinLock {calls : List FreeCall} {handle : Option Nat}
    (h : run freeCall objects calls = some objects')
    (hcalls : ∀ call ∈ calls, call.handle = none ∨ call.handle ≠ handle)
    (hlock : objects.isSpinLock handle = true) : objects'.isSpinLock handle = true := by
  induction calls generalizing objects with
  | nil =>
    obtain rfl := Option.some.inj h
    exact hlock
  | cons call calls ih =>
    obtain ⟨objects₁, hcall, hrest⟩ := Option.bind_eq_some_iff.1 h
    refine ih hrest (fun call' hmem => hcalls call' (List.mem_cons_of_mem call hmem)) ?_
    cases call with
    | purge handle' =>
      obtain ⟨-, -, rfl⟩ := Option.map_eq_some_iff.1 hcall
      exact hlock
    | delete handle' =>
      obtain ⟨i, a, rfl, -, rfl⟩ := freeCall_delete hcall
      rcases hcalls _ List.mem_cons_self with hnone | hne
      · cases hnone
      · exact Objects.isSpinLock_delete (Ne.symm hne) hlock

/-- No queue handle of a device is that of its lock. -/
theorem ioFreeEndpointQueues_isSpinLock {objects₁ : Objects β F}
    (htyped : record.handles.Typed objects) (hlock : objects.isSpinLock record.sync = true)
    (h : run freeCall objects₁ (ioFreeEndpointQueuesCalls record) = some objects')
    (hlock₁ : objects₁.isSpinLock record.sync = true) : objects'.isSpinLock record.sync = true := by
  obtain ⟨l, hl, hkind⟩ := Objects.isSpinLock_eq_true.1 hlock
  refine freeCalls_isSpinLock h ?_ hlock₁
  intro call hmem
  cases hcall : call.handle with
  | none => exact Or.inl rfl
  | some k =>
    refine Or.inr fun hsync => ?_
    have hk : objects.kind? k = some .spinLock := by
      cases hsync.trans hl
      exact hkind
    rcases ioFreeEndpointQueuesCalls_handle hmem with hdeferred | ⟨slot, hslot⟩
    · have hqueue := htyped.deferred k (hdeferred.symm.trans hcall)
      rw [hk] at hqueue
      cases hqueue
    · have hqueue := htyped.endpoints slot k (hslot.symm.trans hcall)
      rw [hk] at hqueue
      cases hqueue

/-- **A disconnect that succeeds** deletes the five queues of the device and leaves its lock. -/
theorem usbDisconnect_left {plugOutAndDelete : NtResult Unit} {c c' : Controller β F}
    {fx : List (Effect β F)} (hc : LockOk c.objects c.childDevice)
    (h : usbDisconnect plugOutAndDelete c = some ((status, fx), c'))
    (hok : ntSuccess status = true) : ∃ d handles,
      handlesOf c.objects c.childDevice = some (d, handles) ∧
      (∀ i ∈ handles.queues, c'.objects.DeletedOnce i) ∧
      c'.objects.isSpinLock handles.sync = true := by
  obtain ⟨⟨⟨ioContextCopy, fx'⟩, objects₁⟩, hstop, h⟩ := Option.bind_eq_some_iff.1 h
  have hkeeps := keeps_onIoContext hstop
  obtain ⟨d, u, record, i, q, io, hcontext, -, hf, -⟩ := onIoContext_eq_some hstop
  obtain ⟨hcopy, -⟩ := Prod.mk.inj (Option.some.inj hf)
  obtain ⟨rfl, -⟩ := Prod.mk.inj hcopy
  have hhandles := handlesOf_eq_some.2 ⟨u, record, hcontext, rfl⟩
  obtain ⟨htyped, hlock⟩ := hc d _ hhandles
  refine ⟨d, record.handles, hhandles, ?_⟩
  cases plugOutAndDelete with
  | error e =>
    simp only [Option.some.injEq, Prod.mk.injEq] at h
    obtain ⟨⟨rfl, -⟩, -⟩ := h
    exact absurd hok e.not_success
  | ok =>
    obtain ⟨objects₂, hdelete, h⟩ := Option.bind_eq_some_iff.1 h
    obtain ⟨objects₃, hfree, heq⟩ := Option.map_eq_some_iff.1 h
    obtain ⟨-, rfl⟩ := Prod.mk.inj heq
    obtain ⟨k, hdevice, hdelete⟩ := Option.bind_eq_some_iff.1 hdelete
    obtain ⟨-, -, rfl⟩ := Option.map_eq_some_iff.1 hdelete
    obtain ⟨hd, hu, -⟩ := wdfDeviceGetIoContext_eq_some.1 hcontext
    cases hdevice.symm.trans hd
    -- the queue of the interrupt URBs is deleted, so it is there
    have hslot : record.endpointQueue .interruptUrb ≠ none :=
      freeCalls_handle hfree (by simp [ioFreeEndpointQueuesCalls])
    obtain ⟨l, hl, hkind⟩ := Objects.isSpinLock_eq_true.1 (hlock hslot)
    refine ⟨?_, ?_⟩
    · intro i hi
      refine freeCalls_deletedOnce hfree (Or.inr ?_)
      simpa [IoHandles.queues, IoRecord.handles, ioFreeEndpointQueuesCalls, or_assoc, or_comm,
        or_left_comm, eq_comm] using hi
    · refine ioFreeEndpointQueues_isSpinLock htyped (hlock hslot) hfree ?_
      refine Objects.isSpinLock_delete ?_ (isSpinLock_extends hkeeps.kinds (hlock hslot))
      intro hsync
      have hdeviceKind := Objects.kind?_of_usbDevice hu
      cases hl.symm.trans hsync
      rw [hkind] at hdeviceKind
      cases hdeviceKind

end

/-! ## Runs -/

section

variable {flagsOf : List β → F} {s s' : PluggedDriver β F}

theorem ioctl_keeps {c c' : Controller β F} {code : ULONG} {request : WdfRequest β}
    {retrieve : NtResult Unit} {o : Outcomes} {answer : Bool × List (Effect β F)}
    (h : c.ioctl flagsOf code request retrieve o = some (answer, c')) :
    c'.childDevice = c.childDevice ∧ c.objects.Keeps c'.objects c.childDevice := by
  unfold Controller.ioctl backChannelIoctl at h
  split at h
  · split at h
    · obtain ⟨-, rfl⟩ := Prod.mk.inj (Option.some.inj h)
      exact ⟨rfl, .refl _ _⟩
    · split at h
      · obtain ⟨⟨answer, c₁⟩, hraise, heq⟩ := Option.map_eq_some_iff.1 h
        obtain ⟨-, rfl⟩ := Prod.mk.inj heq
        obtain ⟨⟨answer', objects⟩, hon, heq⟩ := Option.map_eq_some_iff.1 hraise
        obtain ⟨-, rfl⟩ := Prod.mk.inj heq
        exact ⟨rfl, keeps_onIoContext hon⟩
      · obtain ⟨-, rfl⟩ := Prod.mk.inj (Option.some.inj h)
        exact ⟨rfl, .refl _ _⟩
  · obtain ⟨-, rfl⟩ := Prod.mk.inj (Option.some.inj h)
    exact ⟨rfl, .refl _ _⟩

theorem usbDisconnect_lock {plugOutAndDelete : NtResult Unit} {c c' : Controller β F}
    {answer : NTSTATUS × List (Effect β F)} (hc : LockOk c.objects c.childDevice)
    (h : usbDisconnect plugOutAndDelete c = some (answer, c')) :
    LockOk c'.objects c'.childDevice := by
  obtain ⟨⟨⟨ioContextCopy, fx⟩, objects₁⟩, hstop, h⟩ := Option.bind_eq_some_iff.1 h
  cases plugOutAndDelete with
  | error e =>
    simp only [Option.some.injEq, Prod.mk.injEq] at h
    obtain ⟨-, rfl⟩ := h
    exact hc.keeps (keeps_onIoContext hstop)
  | ok =>
    obtain ⟨objects₂, hdelete, h⟩ := Option.bind_eq_some_iff.1 h
    obtain ⟨objects₃, hfree, heq⟩ := Option.map_eq_some_iff.1 h
    obtain ⟨-, rfl⟩ := Prod.mk.inj heq
    obtain ⟨d, hd, hdelete⟩ := Option.bind_eq_some_iff.1 hdelete
    obtain ⟨-, -, rfl⟩ := Option.map_eq_some_iff.1 hdelete
    have hgone : Objects.usbDevice (Store.delete objects₁ d) d = none := by
      rw [Objects.usbDevice, Store.get?_delete, if_pos rfl]
    have hdead := LockOk.of_deleted (freeCalls_deleted hgone hfree)
    rw [← hd] at hdead
    exact hdead

theorem lifecycleStep_lock [Zero F] {c c' : Controller β F} {e : LifecycleEvent β}
    (hc : LockOk c.objects c.childDevice) (hstep : lifecycleStep flagsOf c e = some c') :
    LockOk c'.objects c'.childDevice := by
  rcases lifecycleStep_cases hstep with ⟨rfl, -⟩ | ⟨o, status, rfl, hplug⟩ |
    ⟨plugOutAndDelete, answer, rfl, hdisconnect⟩ | ⟨code, request, retrieve, o, answer, rfl, hioctl⟩
  · exact hc
  · exact usbReadDescriptorsAndPlugIn_lock hplug hc
  · exact usbDisconnect_lock hc hdisconnect
  · obtain ⟨hdevice, hkeeps⟩ := ioctl_keeps hioctl
    rw [hdevice]
    exact hc.keeps hkeeps

def PluggedDriver.LockOk (s : PluggedDriver β F) : Prop := UdeSample.LockOk s.objects s.childDevice

theorem pluggedDeviceStep_lock [Zero F] {e : DeviceEvent β F} (h : s.LockOk)
    (hstep : pluggedDeviceStep s e = some s') : s'.LockOk := by
  obtain ⟨hdevice, hkeeps⟩ := pluggedDeviceStep_keeps hstep
  have hlock := UdeSample.LockOk.keeps h hkeeps
  rwa [PluggedDriver.LockOk, hdevice]

theorem pluggedStep_lock [Zero F] {e : PluggedEvent β F} (h : s.LockOk)
    (hstep : pluggedStep flagsOf s e = some s') : s'.LockOk := by
  cases e with
  | lifecycle e =>
    obtain ⟨c, hlifecycle, rfl⟩ := Option.map_eq_some_iff.1 hstep
    exact lifecycleStep_lock h hlifecycle
  | device e => exact pluggedDeviceStep_lock h hstep
  | controllerPower d0 =>
    obtain rfl := Option.some.inj hstep
    exact h

theorem pluggedRun_lock [Zero F] {t : List (PluggedEvent β F)}
    (hrun : pluggedRun flagsOf t = some s) : s.LockOk := by
  refine run_invariant (P := fun _ s => s.LockOk) ?_ (fun _ _ _ _ _ h => pluggedStep_lock h) hrun
  intro d handles hhandles
  cases hhandles

/-- **After a disconnect something is left**, in every run: the lock of the device. -/
theorem usbDisconnect_leavesLock [Zero F] {t : List (PluggedEvent β F)}
    (hrun : pluggedRun flagsOf t = some s) {plugOutAndDelete : NtResult Unit} {status : NTSTATUS}
    {fx : List (Effect β F)} (h : s.disconnect plugOutAndDelete = some ((status, fx), s'))
    (hok : ntSuccess status = true) : ∃ d handles,
      handlesOf s.objects s.childDevice = some (d, handles) ∧ ¬ LeavesNothing handles s' := by
  obtain ⟨⟨answer, c'⟩, hdisconnect, heq⟩ := Option.map_eq_some_iff.1 h
  obtain ⟨rfl, rfl⟩ := Prod.mk.inj heq
  obtain ⟨d, handles, hhandles, -, hlock⟩ :=
    usbDisconnect_left (pluggedRun_lock hrun) hdisconnect hok
  refine ⟨d, handles, hhandles, fun hleaves => ?_⟩
  obtain ⟨l, hsync, hkind⟩ := Objects.isSpinLock_eq_true.1 hlock
  have hdeleted := (hleaves.lock l hsync).2
  rw [Objects.kind?, show c'.objects.get? l = none from hdeleted] at hkind
  cases hkind

end

/-- A device is plugged in, and reads a response that nobody has written yet. -/
def parkedRead : List (PluggedEvent UInt8 ULONG) :=
  [.lifecycle (.d0Entry .d3Final plugInOk),
    .device (.dispatch ⟨0, .bulkIn, [0, 0]⟩ ioctlInternalUsbSubmitUrb outcomesOk)]

theorem parkedRead_leavesLock : ∃ s ∈ pluggedRun flagWord parkedRead,
    ∃ x ∈ s.disconnect (.ok ()), ∃ d handles,
      handlesOf s.objects s.childDevice = some (d, handles) ∧ ¬ LeavesNothing handles x.2 := by
  have hrun : ∃ s ∈ pluggedRun flagWord parkedRead, ∃ x ∈ s.disconnect (.ok ()),
      ntSuccess x.1.1 = true := by
    decide +kernel
  obtain ⟨s, hs, x, hx, hok⟩ := hrun
  exact ⟨s, hs, x, hx, usbDisconnect_leavesLock hs hx hok⟩

/-- The URB stays parked. -/
theorem parkedRead_left : ¬ ∀ (t : List (PluggedEvent UInt8 ULONG)), ∀ s ∈ pluggedRun flagWord t,
    ∀ x ∈ s.disconnect (.ok ()), ntSuccess x.1.1 = true → ∀ d handles,
      handlesOf s.objects s.childDevice = some (d, handles) → LeavesNothing handles x.2 := by
  intro h
  have hrun : ∃ s ∈ pluggedRun flagWord parkedRead, ∃ x ∈ s.disconnect (.ok ()),
      ntSuccess x.1.1 = true ∧ x.2.missionCompletion.readBufferQueue.requests ≠ [] ∧
      (handlesOf s.objects s.childDevice).isSome = true := by
    decide +kernel
  obtain ⟨s, hs, x, hx, hok, hparked, hsome⟩ := hrun
  obtain ⟨⟨d, handles⟩, hhandles⟩ := Option.isSome_iff_exists.1 hsome
  exact hparked (h parkedRead s hs x hx hok d handles hhandles).mission

end UdeSample
