import UdeSample.Device.Stopping

/-!
# Asking for the queue of an endpoint (`Io_RetrieveEpQueue` in `USBCom.c`)

A queue is created when its address is asked for first, and found from then on. For the interrupt
address the deferred queue and its lock are created before that is looked at, on every call:
`retrieve_same_iff` says that asking again changes nothing if and only if that address is asked for
once at most. When a creation fails, `retrieve_atomic_iff` says exactly when the call leaves the
context and the objects as they were.
-/

namespace UdeSample

open Lib

variable {β F : Type}

/-! ## Calls that fail -/

/-- `GetEndpointQueueContext` is applied to a queue, and if the call fails, `IO_CONTEXT` is what it
was and no object created by the call is left. -/
def RetrieveAtomic [Zero F] (objects : Objects β F) (d : Nat) (epAddr : UCHAR)
    (o : EndpointOutcomes) : Prop :=
  ∃ status queue objects',
    ioRetrieveEpQueue objects (some d) epAddr o = some (status, queue, objects') ∧
      (ntSuccess status = false →
        wdfDeviceGetIoContext objects' (some d) = wdfDeviceGetIoContext objects (some d) ∧
          ∀ i, objects.next ≤ i → objects'.get? i = none)

/-- The queue is there, or its creation succeeds. -/
def IoRecord.HasOrGets (record : IoRecord F) (slot : EndpointSlot) (o : NtResult Unit) : Prop :=
  (record.endpointQueue slot).isSome = true ∨ o.isOk = true

/-- What a call needs to be atomic. -/
def IoRecord.RetrieveOk [Zero F] (record : IoRecord F) (epAddr : UCHAR) (o : EndpointOutcomes) :
    Prop :=
  match EndpointSlot.ofAddress epAddr with
  | none => True
  | some .interruptUrb =>
    -- the interrupt address creates the deferred queue and its lock first
    if o.deferredQueue.isOk then
      o.deferredLock.isOk = true ∧ record.HasOrGets .interruptUrb o.epQueue
    else record.intrState = .cleared ∧ record.intrDeferredQueue = none
  | some slot => record.HasOrGets slot o.epQueue

/-- The context was written back, and no object was created. -/
theorem unchanged_setIoContext_iff {objects : Objects β F} {d : Nat} {u : UsbDevice F}
    {record : IoRecord F}
    (hcontext : wdfDeviceGetIoContext objects (some d) = some (d, u, record))
    (record₁ : IoRecord F) :
    (wdfDeviceGetIoContext (objects.setIoContext d u record₁) (some d) =
        wdfDeviceGetIoContext objects (some d) ∧
      ∀ i, objects.next ≤ i → (objects.setIoContext d u record₁).get? i = none) ↔
      record₁ = record := by
  obtain ⟨-, hu, hrecord⟩ := wdfDeviceGetIoContext_eq_some.1 hcontext
  rw [wdfDeviceGetIoContext_setIoContext hu, hcontext]
  constructor
  · rintro ⟨hsame, -⟩
    exact (Prod.mk.inj (Prod.mk.inj (Option.some.inj hsame)).2).2
  · rintro rfl
    refine ⟨by rw [← hrecord], ?_⟩
    intro i hi
    have hne : i ≠ d := by
      rintro rfl
      exact Nat.not_lt.2 hi (Store.lt_next (Objects.usbDevice_eq_some.1 hu))
    rw [Objects.setIoContext, Store.get?_update (Objects.usbDevice_eq_some.1 hu), if_neg hne,
      Store.get?_of_next_le hi]

section

variable [Zero F] {objects : Objects β F} {d : Nat} {u : UsbDevice F} {record : IoRecord F}
  {epAddr : UCHAR} {o : EndpointOutcomes}

/-- The queue of the address is all that can be missing. -/
theorem retrieveAtomic_of_eq {objects₁ : Objects β F} {record₁ : IoRecord F} {slot : EndpointSlot}
    (hresult : ioRetrieveEpQueue objects (some d) epAddr o =
      findOrCreateEpQueue objects₁ d u record₁ slot o.epQueue) :
    RetrieveAtomic objects d epAddr o ↔ record₁.HasOrGets slot o.epQueue := by
  have hatomic {queue : Option Nat} {objects' : Objects β F}
      (h : findOrCreateEpQueue objects₁ d u record₁ slot o.epQueue =
        some (statusSuccess, queue, objects')) : RetrieveAtomic objects d epAddr o :=
    ⟨statusSuccess, queue, objects', hresult.trans h, fun hfailed => by cases hfailed⟩
  cases hq : record₁.endpointQueue slot with
  | some q =>
    exact iff_of_true (hatomic (findOrCreateEpQueue_found hq o.epQueue)) (Or.inl (by simp [hq]))
  | none =>
    cases ho : o.epQueue with
    | ok =>
      have hfound : findOrCreateEpQueue objects₁ d u record₁ slot o.epQueue = _ :=
        (congrArg _ ho).trans (findOrCreateEpQueue_created hq)
      exact iff_of_true (hatomic hfound) (Or.inr rfl)
    | error e =>
      refine iff_of_false ?_ ?_
      · rintro ⟨status, queue, objects', h, -⟩
        rw [hresult, ho, findOrCreateEpQueue_failed hq] at h
        cases h
      · rintro (hsome | hok)
        · rw [hq] at hsome
          cases hsome
        · cases hok

/-- A call that fails has to leave everything as it was. -/
theorem retrieveAtomic_of_failed {status : NTSTATUS} {queue : Option Nat} {objects' : Objects β F}
    (hresult : ioRetrieveEpQueue objects (some d) epAddr o = some (status, queue, objects'))
    (hfailed : ntSuccess status = false) :
    RetrieveAtomic objects d epAddr o ↔
      wdfDeviceGetIoContext objects' (some d) = wdfDeviceGetIoContext objects (some d) ∧
        ∀ i, objects.next ≤ i → objects'.get? i = none := by
  constructor
  · rintro ⟨status₁, queue₁, objects₁, heq, hunchanged⟩
    obtain ⟨rfl, rfl, rfl⟩ : status = status₁ ∧ queue = queue₁ ∧ objects' = objects₁ := by
      simpa using hresult.symm.trans heq
    exact hunchanged hfailed
  · intro hunchanged
    exact ⟨status, queue, objects', hresult, fun _ => hunchanged⟩

theorem retrieveAtomic_interrupt
    (hcontext : wdfDeviceGetIoContext objects (some d) = some (d, u, record))
    (hslot : EndpointSlot.ofAddress epAddr = some .interruptUrb) (o : EndpointOutcomes) :
    RetrieveAtomic objects d epAddr o ↔ record.RetrieveOk epAddr o := by
  obtain ⟨-, hu, -⟩ := wdfDeviceGetIoContext_eq_some.1 hcontext
  simp only [IoRecord.RetrieveOk, hslot]
  cases hdeferred : o.deferredQueue with
  | error e =>
    -- the update and the handle of the deferred queue are lost
    have hresult := ioRetrieveEpQueue_interrupt hcontext hslot
      (ioCreateDeferredIntrQueue_noQueue hdeferred)
    rw [if_neg e.not_success] at hresult
    rw [retrieveAtomic_of_failed hresult e.failed, unchanged_setIoContext_iff hcontext]
    simp only [Except.isOk, Except.toBool, Bool.false_eq_true, if_false]
    constructor
    · intro hrecords
      exact ⟨(congrArg IoRecord.intrState hrecords).symm,
        (congrArg IoRecord.intrDeferredQueue hrecords).symm⟩
    · rintro ⟨hstate, hqueue⟩
      rw [IoRecord.setDeferred, ← hstate, ← hqueue]
  | ok =>
    simp only [Except.isOk, Except.toBool, if_true]
    cases hlock : o.deferredLock with
    | error e =>
      -- the deferred queue stays
      have hresult := ioRetrieveEpQueue_interrupt hcontext hslot
        (ioCreateDeferredIntrQueue_noLock hdeferred hlock)
      rw [if_neg e.not_success] at hresult
      rw [retrieveAtomic_of_failed hresult e.failed]
      refine iff_of_false ?_ (fun h => Bool.false_ne_true h.1)
      rintro ⟨-, hfresh⟩
      have hkind := Objects.extends_setIoContext
        (Objects.usbDevice_create_of_some hu deferredQueueObject) u
        (record.setDeferred (some objects.next) none) objects.next .queue
        (Objects.kind?_create_next objects deferredQueueObject)
      rw [Objects.kind?, hfresh objects.next (Nat.le_refl _)] at hkind
      cases hkind
    | ok =>
      have hresult := ioRetrieveEpQueue_interrupt hcontext hslot
        (ioCreateDeferredIntrQueue_ok hdeferred hlock)
      rw [if_pos (by decide)] at hresult
      rw [retrieveAtomic_of_eq hresult]
      exact ⟨fun h => ⟨rfl, h⟩, fun h => h.2⟩

/-- **Failed calls**: in every context, a call is atomic if and only if the queue of its address is
there or its creation succeeds, and for the interrupt address both creations before that succeed, or
the first one fails where there is no deferred queue and no update is cached. -/
theorem retrieve_atomic_iff
    (hcontext : wdfDeviceGetIoContext objects (some d) = some (d, u, record)) (epAddr : UCHAR)
    (o : EndpointOutcomes) :
    RetrieveAtomic objects d epAddr o ↔ record.RetrieveOk epAddr o := by
  cases hslot : EndpointSlot.ofAddress epAddr with
  | none =>
    have hresult := ioRetrieveEpQueue_unknown hcontext hslot o
    simp only [IoRecord.RetrieveOk, hslot, iff_true]
    exact ⟨_, _, _, hresult, fun _ => ⟨rfl, fun i hi => Store.get?_of_next_le hi⟩⟩
  | some slot =>
    by_cases hne : slot = .interruptUrb
    · subst hne
      exact retrieveAtomic_interrupt hcontext hslot o
    · have hresult := ioRetrieveEpQueue_transfer hcontext hslot hne o
      rw [retrieveAtomic_of_eq hresult]
      cases slot with
      | interruptUrb => exact absurd rfl hne
      | control | bulkOut | bulkIn => simp only [IoRecord.RetrieveOk, hslot]

end

/-- A device after `Io_AllocateContext`. -/
def oneDevice : Objects UInt8 Nat :=
  Store.create Store.empty (.usbDevice { ioContext := some .zeroed, isAwake := true })

theorem oneDevice_context : wdfDeviceGetIoContext oneDevice (some 0) =
    some (0, { ioContext := some .zeroed, isAwake := true }, .zeroed) := rfl

def insufficientResources : NtError := ⟨statusInsufficientResources, rfl⟩

/-- A deferred queue that is not created leaves nothing behind. -/
theorem noDeferredQueue_atomic :
    RetrieveAtomic oneDevice 0 gInterruptEndpointAddress
      { endpointOk with deferredQueue := .error insufficientResources } :=
  (retrieve_atomic_iff oneDevice_context gInterruptEndpointAddress _).2 ⟨rfl, rfl⟩

/-- The context of a queue that was not created is written to; and the deferred queue stays when its
lock is not created. -/
theorem noQueue_not_atomic :
    ¬ RetrieveAtomic oneDevice 0 gBulkOutEndpointAddress
      { endpointOk with epQueue := .error insufficientResources } ∧
    ¬ RetrieveAtomic oneDevice 0 gInterruptEndpointAddress
      { endpointOk with deferredLock := .error insufficientResources } := by
  refine ⟨?_, ?_⟩
  · rintro ⟨status, queue, objects', heq, -⟩
    cases heq
  · intro hatomic
    exact Bool.false_ne_true ((retrieveAtomic_interrupt oneDevice_context rfl _).1 hatomic).1

/-! ## Calls that succeed, again and again -/

inductive QueueEvent (β F : Type) where
  | retrieve (epAddr : UCHAR)
  | raise (latestStatus : F) (o : Outcomes)
  | interruptUrb (ioControlCode : ULONG) (request : WdfRequest β) (o : Outcomes)

/-- The objects, and the queue that was returned last for each of the endpoints. -/
structure QueueState (β F : Type) where
  objects : Objects β F
  served : EndpointSlot → Option Nat

/-- A call of `Io_RetrieveEpQueue` for one of the endpoints. -/
structure RetrieveCall (β F : Type) where
  slot : EndpointSlot
  /-- what the call before it returned, if there was one -/
  earlier : Option Nat
  queue : Option Nat
  before : Objects β F
  after : Objects β F

/-- The same queue again, and nothing changed. -/
def RetrieveCall.Same (c : RetrieveCall β F) : Prop :=
  ∀ q, c.earlier = some q → c.queue = some q ∧ c.after = c.before

/-- How many objects of a kind the call created. -/
def RetrieveCall.created (c : RetrieveCall β F) (k : ObjectKind) : Nat :=
  (c.after.since c.before.next).countP fun cell => cell.map DriverObject.kind = some k

theorem RetrieveCall.created_of_same {c : RetrieveCall β F} (h : c.after = c.before)
    (k : ObjectKind) : c.created k = 0 := by
  rw [RetrieveCall.created, h, Store.since_next]
  rfl

/-- What a call returns and creates. -/
structure RetrieveCall.Expected (c : RetrieveCall β F) : Prop where
  same : c.Same
  queue_isSome : c.queue.isSome = true
  created_endpointQueue : c.created .endpointQueue = if c.earlier.isSome then 0 else 1
  created_queue : c.created .queue =
    if c.slot = .interruptUrb ∧ c.earlier = none then 1 else 0

/-- A first call creates the queue, and for the interrupt address the deferred queue. -/
theorem RetrieveCall.expected_first {d : Nat} {c : RetrieveCall β F} (hearlier : c.earlier = none)
    (hqueue : c.queue.isSome = true)
    (hsince : Store.since c.after c.before.next =
      (if c.slot = .interruptUrb then [some deferredQueueObject, some .spinLock] else []) ++
        [some (.endpointQueue d)]) : c.Expected := by
  have hcreated (k : ObjectKind) : c.created k =
      (if c.slot = .interruptUrb ∧ k = .queue then 1 else 0) +
        (if c.slot = .interruptUrb ∧ k = .spinLock then 1 else 0) +
        (if k = .endpointQueue then 1 else 0) := by
    rw [RetrieveCall.created, hsince]
    by_cases hslot : c.slot = .interruptUrb <;> cases k <;>
      simp [hslot, deferredQueueObject, DriverObject.kind]
  refine ⟨?_, hqueue, ?_, ?_⟩
  · intro q hq
    rw [hearlier] at hq
    cases hq
  · rw [hcreated]
    simp [hearlier]
  · rw [hcreated]
    simp [hearlier]

/-- A later call for another address finds the queue. -/
theorem RetrieveCall.expected_found {c : RetrieveCall β F} {q : Nat} (hearlier : c.earlier = some q)
    (hqueue : c.queue = some q) (hafter : c.after = c.before) (hne : c.slot ≠ .interruptUrb) :
    c.Expected := by
  refine ⟨?_, by rw [hqueue, Option.isSome_some], ?_, ?_⟩
  · intro q' hq'
    exact ⟨hqueue.trans (hearlier.symm.trans hq'), hafter⟩
  · rw [RetrieveCall.created_of_same hafter]
    simp [hearlier]
  · rw [RetrieveCall.created_of_same hafter]
    simp [hne]

/-- One call on the device `d`, in which all creations succeed. -/
def queueStep [Zero F] (d : Nat) (s : QueueState β F) :
    QueueEvent β F → Option (QueueState β F × List (RetrieveCall β F))
  | .retrieve epAddr =>
    (ioRetrieveEpQueue s.objects (some d) epAddr endpointOk).map fun (_, queue, objects) =>
      match EndpointSlot.ofAddress epAddr with
      | none => ({ s with objects }, [])
      | some slot =>
        ({ objects, served := Function.update s.served slot queue },
          [{ slot, earlier := s.served slot, queue, before := s.objects, after := objects }])
  | .raise latestStatus o =>
    (ioRaiseInterruptOn s.objects (some d) latestStatus o).map fun (_, objects) =>
      ({ s with objects }, [])
  | .interruptUrb ioControlCode request o =>
    (ioEvtInterruptInUrbOn s.objects (some d) ioControlCode request o).map fun (_, objects) =>
      ({ s with objects }, [])

/-- A call for the interrupt address. -/
def QueueEvent.asksInterrupt : QueueEvent β F → Bool
  | .retrieve epAddr => EndpointSlot.ofAddress epAddr = some .interruptUrb
  | .raise _ _ | .interruptUrb _ _ _ => false

/-- The queues served are those of the context. -/
def QueueState.Served (d : Nat) (s : QueueState β F) : Prop :=
  ∃ handles, handlesOf s.objects (some d) = some (d, handles) ∧ handles.endpointQueue = s.served

section

variable {objects : Objects β F} {d : Nat} {u : UsbDevice F} {record : IoRecord F}
  {epAddr : UCHAR} {slot : EndpointSlot}

/-- The objects after the creation of an endpoint queue. -/
def Objects.withEndpointQueue (objects : Objects β F) (d : Nat) (u : UsbDevice F)
    (record : IoRecord F) (slot : EndpointSlot) : Objects β F :=
  Objects.setIoContext (objects.create (.endpointQueue d)) d u
    (record.setEndpointQueue slot objects.next)

theorem Objects.withEndpointQueue_context (hu : objects.usbDevice d = some u) (u' : UsbDevice F)
    (record : IoRecord F) (slot : EndpointSlot) : ∃ u₁,
      wdfDeviceGetIoContext (objects.withEndpointQueue d u' record slot) (some d) =
        some (d, u₁, record.setEndpointQueue slot objects.next) :=
  ⟨_, wdfDeviceGetIoContext_setIoContext (Objects.usbDevice_create_of_some hu _) _ _⟩

theorem Objects.withEndpointQueue_since {n : Nat} (hd : d < n) (hn : n ≤ objects.next)
    (u : UsbDevice F) (record : IoRecord F) (slot : EndpointSlot) :
    Store.since (objects.withEndpointQueue d u record slot) n =
      Store.since objects n ++ [some (.endpointQueue d)] := by
  rw [Objects.withEndpointQueue, Objects.setIoContext, Store.since_update hd,
    Store.since_create hn]

variable [Zero F]

/-- The objects after the creation of the deferred queue and its lock. -/
def Objects.withDeferred (objects : Objects β F) (d : Nat) (u : UsbDevice F)
    (record : IoRecord F) : Objects β F :=
  Objects.setIoContext (Store.create (Store.create objects deferredQueueObject) .spinLock) d u
    (record.setDeferred (some objects.next) (some (objects.next + 1)))

theorem Objects.withDeferred_since {n : Nat} (hd : d < n) (hn : n ≤ objects.next)
    (u : UsbDevice F) (record : IoRecord F) :
    Store.since (objects.withDeferred d u record) n =
      Store.since objects n ++ [some deferredQueueObject, some .spinLock] := by
  have hn' : n ≤ Store.next (Store.create objects deferredQueueObject) := by
    rw [Store.next_create]
    exact Nat.le_succ_of_le hn
  rw [Objects.withDeferred, Objects.setIoContext, Store.since_update hd, Store.since_create hn',
    Store.since_create hn, List.append_assoc]
  rfl

theorem Objects.usbDevice_withDeferred (hu : objects.usbDevice d = some u) (u' : UsbDevice F)
    (record : IoRecord F) : ∃ u₁, (objects.withDeferred d u' record).usbDevice d = some u₁ :=
  have hcreated := Objects.usbDevice_create_of_some
    (Objects.usbDevice_create_of_some hu deferredQueueObject) .spinLock
  ⟨_, (Objects.usbDevice_setIoContext hcreated u' _ d).trans (if_pos rfl)⟩

theorem ioRetrieveEpQueue_interruptOk
    (hcontext : wdfDeviceGetIoContext objects (some d) = some (d, u, record))
    (hslot : EndpointSlot.ofAddress epAddr = some .interruptUrb) :
    ioRetrieveEpQueue objects (some d) epAddr endpointOk =
      findOrCreateEpQueue (objects.withDeferred d u record) d u
        (record.setDeferred (some objects.next) (some (objects.next + 1))) .interruptUrb
        (.ok ()) := by
  rw [ioRetrieveEpQueue_interrupt hcontext hslot (ioCreateDeferredIntrQueue_ok rfl rfl)]
  rfl

/-- A first call. -/
theorem ioRetrieveEpQueue_first
    (hcontext : wdfDeviceGetIoContext objects (some d) = some (d, u, record))
    (hslot : EndpointSlot.ofAddress epAddr = some slot)
    (hfirst : record.endpointQueue slot = none) :
    ∃ q objects' u' record',
      ioRetrieveEpQueue objects (some d) epAddr endpointOk =
        some (statusSuccess, some q, objects') ∧
      wdfDeviceGetIoContext objects' (some d) = some (d, u', record') ∧
      record'.endpointQueue = Function.update record.endpointQueue slot (some q) ∧
      Store.since objects' objects.next =
        (if slot = .interruptUrb then [some deferredQueueObject, some .spinLock] else []) ++
          [some (.endpointQueue d)] := by
  obtain ⟨-, hu, -⟩ := wdfDeviceGetIoContext_eq_some.1 hcontext
  have hd : d < objects.next := Store.lt_next (Objects.usbDevice_eq_some.1 hu)
  by_cases hne : slot = .interruptUrb
  · subst hne
    obtain ⟨u₁, hu₁⟩ := Objects.usbDevice_withDeferred hu u record
    obtain ⟨u', hcontext'⟩ := Objects.withEndpointQueue_context hu₁ u
      (record.setDeferred (some objects.next) (some (objects.next + 1))) .interruptUrb
    refine ⟨_, _, u', _, ?_, hcontext', rfl, ?_⟩
    · rw [ioRetrieveEpQueue_interruptOk hcontext hslot]
      exact findOrCreateEpQueue_created hfirst
    · have hnext : objects.next ≤ Store.next (objects.withDeferred d u record) := by
        simp only [Objects.withDeferred, Objects.setIoContext, Store.next_update, Store.next_create]
        omega
      rw [Objects.withEndpointQueue_since hd hnext, Objects.withDeferred_since hd (Nat.le_refl _),
        Store.since_next, if_pos rfl]
      rfl
  · obtain ⟨u', hcontext'⟩ := Objects.withEndpointQueue_context hu u record slot
    refine ⟨_, _, u', _, ?_, hcontext', rfl, ?_⟩
    · rw [ioRetrieveEpQueue_transfer hcontext hslot hne]
      exact findOrCreateEpQueue_created hfirst
    · rw [Objects.withEndpointQueue_since hd (Nat.le_refl _), Store.since_next, if_neg hne]

/-- The interrupt address is asked for first. -/
def QueueState.AsksFirst (s : QueueState β F) (e : QueueEvent β F) : Prop :=
  e.asksInterrupt = true → s.served .interruptUrb = none

/-- **One step** in which the interrupt address is not asked for again. -/
theorem queueStep_expected {s s' : QueueState β F} {e : QueueEvent β F}
    {out : List (RetrieveCall β F)} (h : s.Served d) (hfirst : s.AsksFirst e)
    (hstep : queueStep d s e = some (s', out)) :
    s'.Served d ∧ (out = [] ∧ s'.served = s.served ∧ e.asksInterrupt = false ∨
      ∃ c, out = [c] ∧ c.earlier = s.served c.slot ∧
        s'.served = Function.update s.served c.slot c.queue ∧
        e.asksInterrupt = decide (c.slot = .interruptUrb) ∧ c.Expected) := by
  obtain ⟨handles, hhandles, hserved⟩ := h
  have hquiet {objects : Objects β F} (hkeeps : s.objects.Keeps objects (some d)) :
      QueueState.Served d { s with objects } :=
    ⟨handles, hkeeps.handles.trans hhandles, hserved⟩
  cases e with
  | raise latestStatus o =>
    obtain ⟨⟨answer, objects⟩, hcall, heq⟩ := Option.map_eq_some_iff.1 hstep
    obtain ⟨rfl, rfl⟩ := Prod.mk.inj heq
    exact ⟨hquiet (keeps_onIoContext hcall), Or.inl ⟨rfl, rfl, rfl⟩⟩
  | interruptUrb code request o =>
    obtain ⟨⟨effects, objects⟩, hcall, heq⟩ := Option.map_eq_some_iff.1 hstep
    obtain ⟨rfl, rfl⟩ := Prod.mk.inj heq
    exact ⟨hquiet (keeps_interruptUrb hcall), Or.inl ⟨rfl, rfl, rfl⟩⟩
  | retrieve epAddr =>
    obtain ⟨u, record, hcontext, rfl⟩ := handlesOf_eq_some.1 hhandles
    obtain ⟨⟨status, queue, objects⟩, hcall, heq⟩ := Option.map_eq_some_iff.1 hstep
    cases hslot : EndpointSlot.ofAddress epAddr with
    | none =>
      rw [ioRetrieveEpQueue_unknown hcontext hslot] at hcall
      obtain ⟨-, -, rfl⟩ : _ ∧ none = queue ∧ s.objects = objects := by simpa using hcall
      simp only [hslot] at heq
      obtain ⟨rfl, rfl⟩ := Prod.mk.inj heq
      exact ⟨hquiet (.refl _ _), Or.inl ⟨rfl, rfl, by simp [QueueEvent.asksInterrupt, hslot]⟩⟩
    | some slot =>
      simp only [hslot] at heq
      obtain ⟨rfl, rfl⟩ := Prod.mk.inj heq
      have hasks : (QueueEvent.retrieve epAddr : QueueEvent β F).asksInterrupt =
          decide (slot = .interruptUrb) := by
        simp [QueueEvent.asksInterrupt, hslot]
      have hqueue : s.served slot = record.endpointQueue slot := congrFun hserved.symm slot
      cases hq : record.endpointQueue slot with
      | none =>
        obtain ⟨q, objects', u', record', hretrieve, hcontext', hslots, hsince⟩ :=
          ioRetrieveEpQueue_first hcontext hslot hq
        obtain ⟨-, rfl, rfl⟩ : _ ∧ some q = queue ∧ objects' = objects := by
          simpa using hretrieve.symm.trans hcall
        refine ⟨⟨record'.handles, handlesOf_eq_some.2 ⟨u', record', hcontext', rfl⟩, ?_⟩,
          Or.inr ⟨_, rfl, rfl, rfl, hasks, ?_⟩⟩
        · rw [← hserved]
          exact hslots
        · exact RetrieveCall.expected_first (hqueue.trans hq) rfl hsince
      | some q =>
        have hne : slot ≠ .interruptUrb := by
          rintro rfl
          have hnone := hfirst (by simp [QueueEvent.asksInterrupt, hslot])
          rw [hqueue, hq] at hnone
          cases hnone
        rw [ioRetrieveEpQueue_transfer hcontext hslot hne, findOrCreateEpQueue_found hq] at hcall
        obtain ⟨-, rfl, rfl⟩ : _ ∧ some q = queue ∧ s.objects = objects := by simpa using hcall
        have hearlier : s.served slot = some q := hqueue.trans hq
        have hsame : Function.update s.served slot (some q) = s.served := by
          rw [← hearlier, Function.update_eq_self]
        exact ⟨⟨record.handles, hhandles, hserved.trans hsame.symm⟩,
          Or.inr ⟨_, rfl, rfl, rfl, hasks, RetrieveCall.expected_found hearlier rfl rfl hne⟩⟩

/-- Asking for the interrupt address again replaces the deferred queue and its lock. -/
theorem queueStep_again {s s' : QueueState β F} {e : QueueEvent β F}
    {out : List (RetrieveCall β F)} (h : s.Served d) (hagain : ¬ s.AsksFirst e)
    (hstep : queueStep d s e = some (s', out)) : ∃ c ∈ out, ¬ c.Same := by
  obtain ⟨hasks, hsome⟩ := Classical.not_imp.1 hagain
  obtain ⟨q, hq⟩ := Option.ne_none_iff_exists'.1 hsome
  obtain ⟨handles, hhandles, hserved⟩ := h
  obtain ⟨u, record, hcontext, rfl⟩ := handlesOf_eq_some.1 hhandles
  cases e with
  | raise latestStatus o => cases hasks
  | interruptUrb code request o => cases hasks
  | retrieve epAddr =>
    have hslot : EndpointSlot.ofAddress epAddr = some .interruptUrb := by
      simpa [QueueEvent.asksInterrupt] using hasks
    have hfound : (record.setDeferred (some s.objects.next)
        (some (s.objects.next + 1))).endpointQueue .interruptUrb = some q :=
      (congrFun hserved .interruptUrb).trans hq
    simp only [queueStep, ioRetrieveEpQueue_interruptOk hcontext hslot,
      findOrCreateEpQueue_found hfound, Option.map_some, hslot] at hstep
    obtain ⟨-, rfl⟩ := Prod.mk.inj (Option.some.inj hstep)
    refine ⟨_, List.mem_cons_self, ?_⟩
    intro hsame
    have hnext := congrArg Store.next (hsame q hq).2
    simp only [Objects.withDeferred, Objects.setIoContext, Store.next_update,
      Store.next_create] at hnext
    omega

end

/-! ## Runs -/

/-- How many objects of a kind the calls for an endpoint created. -/
def createdFor (log : List (RetrieveCall β F)) (slot : EndpointSlot) (k : ObjectKind) : Nat :=
  ((log.filter fun c => c.slot = slot).map fun c => c.created k).sum

/-- Nothing happens twice. -/
structure Idempotent (log : List (RetrieveCall β F)) : Prop where
  same : ∀ c ∈ log, c.Same
  queues : ∀ slot, createdFor log slot .endpointQueue ≤ 1
  deferred : (log.map fun c => c.created .queue).sum ≤ 1

/-- What was created so far is what is served. -/
structure CreatedOnce (s : QueueState β F) (log : List (RetrieveCall β F)) : Prop where
  queues : ∀ slot, createdFor log slot .endpointQueue = if (s.served slot).isSome then 1 else 0
  deferred : (log.map fun c => c.created .queue).sum =
    if (s.served .interruptUrb).isSome then 1 else 0

theorem CreatedOnce.call {s s' : QueueState β F} {log : List (RetrieveCall β F)}
    {c : RetrieveCall β F} (h : CreatedOnce s log) (hearlier : c.earlier = s.served c.slot)
    (hserved : s'.served = Function.update s.served c.slot c.queue) (hc : c.Expected) :
    CreatedOnce s' (log ++ [c]) := by
  refine ⟨?_, ?_⟩
  · intro slot
    have hadd : createdFor (log ++ [c]) slot .endpointQueue =
        createdFor log slot .endpointQueue +
          if c.slot = slot then c.created .endpointQueue else 0 := by
      by_cases hslot : c.slot = slot <;> simp [createdFor, List.filter_append, hslot]
    rw [hadd, h.queues, hserved]
    by_cases hslot : c.slot = slot
    · subst hslot
      rw [if_pos rfl, Function.update_self, if_pos hc.queue_isSome, hc.created_endpointQueue,
        hearlier]
      cases (s.served c.slot).isSome <;> rfl
    · rw [if_neg hslot, Function.update_of_ne (Ne.symm hslot)]
      rfl
  · rw [List.map_append, List.sum_append, List.map_singleton, List.sum_singleton, h.deferred,
      hserved, hc.created_queue]
    by_cases hslot : c.slot = .interruptUrb
    · rw [hslot, Function.update_self, if_pos hc.queue_isSome, hearlier, hslot]
      cases s.served .interruptUrb <;> rfl
    · have hno : ¬ (c.slot = .interruptUrb ∧ c.earlier = none) := fun h => hslot h.1
      rw [Function.update_of_ne (Ne.symm hslot), if_neg hno, Nat.add_zero]

theorem CreatedOnce.idempotent {s : QueueState β F} {log : List (RetrieveCall β F)}
    (h : CreatedOnce s log) (hsame : ∀ c ∈ log, c.Same) : Idempotent log := by
  refine ⟨hsame, ?_, ?_⟩
  · intro slot
    rw [h.queues slot]
    split <;> omega
  · rw [h.deferred]
    split <;> omega

section

variable [Zero F] {d : Nat}

/-- In a run in which the interrupt address is asked for once, what was created is what is
served. -/
theorem run_createdOnce {s₀ s : QueueState β F} {log : List (RetrieveCall β F)}
    {t : List (QueueEvent β F)} (h : s₀.Served d) (hnone : ∀ slot, s₀.served slot = none)
    (hrun : run (logged (queueStep d)) (s₀, []) t = some (s, log))
    (hfirst : Along (fun p e => p.1.AsksFirst e) (logged (queueStep d)) (s₀, []) t) :
    CreatedOnce s log := by
  have hinv := run_invariant_along
    (P := fun _ p => p.1.Served d ∧ CreatedOnce p.1 p.2) ?_ ?_ hrun hfirst
  · exact hinv.2
  · refine ⟨h, ?_, ?_⟩
    · intro slot
      rw [hnone slot]
      rfl
    · rw [hnone .interruptUrb]
      rfl
  · rintro t ⟨s, log⟩ e ⟨s', log'⟩ - ⟨hserved, hcreated⟩ hasks hstep
    obtain ⟨out, hout, rfl⟩ := logged_eq_some.1 hstep
    obtain ⟨hserved', hcall⟩ := queueStep_expected hserved hasks hout
    refine ⟨hserved', ?_⟩
    rcases hcall with ⟨rfl, hsame, -⟩ | ⟨c, rfl, hearlier, hupdate, -, hexpected⟩
    · rw [List.append_nil]
      exact ⟨hsame ▸ hcreated.queues, hsame ▸ hcreated.deferred⟩
    · exact hcreated.call hearlier hupdate hexpected

theorem served_none_iff {s₀ s : QueueState β F} {log : List (RetrieveCall β F)}
    {t : List (QueueEvent β F)} (h : s₀.Served d) (hnone : ∀ slot, s₀.served slot = none)
    (hrun : run (logged (queueStep d)) (s₀, []) t = some (s, log))
    (hfirst : Along (fun p e => p.1.AsksFirst e) (logged (queueStep d)) (s₀, []) t) :
    s.served .interruptUrb = none ↔ t.countP QueueEvent.asksInterrupt = 0 := by
  have hinv := run_invariant_along (P := fun t p => p.1.Served d ∧
    (p.1.served .interruptUrb = none ↔ t.countP QueueEvent.asksInterrupt = 0)) ?_ ?_ hrun hfirst
  · exact hinv.2
  · exact ⟨h, iff_of_true (hnone .interruptUrb) rfl⟩
  · rintro t ⟨s, log⟩ e ⟨s', log'⟩ - ⟨hserved, hiff⟩ hasks hstep
    obtain ⟨out, hout, rfl⟩ := logged_eq_some.1 hstep
    obtain ⟨hserved', hcall⟩ := queueStep_expected hserved hasks hout
    refine ⟨hserved', ?_⟩
    rw [List.countP_append, List.countP_singleton]
    rcases hcall with ⟨-, hsame, hno⟩ | ⟨c, -, -, hupdate, hslot, hexpected⟩
    · rw [hsame, hiff, hno]
      simp
    · rw [hupdate, hslot]
      by_cases hc : c.slot = .interruptUrb
      · have hqueue := Option.isSome_iff_ne_none.1 hexpected.queue_isSome
        rw [hc, Function.update_self]
        simp [hqueue]
      · rw [Function.update_of_ne (Ne.symm hc), hiff]
        simp [hc]

/-- The steps of a run all meet the condition if and only if the interrupt address is asked for once
at most. -/
theorem asksFirst_iff {s₀ s : QueueState β F} {log : List (RetrieveCall β F)}
    {t : List (QueueEvent β F)} (h : s₀.Served d) (hnone : ∀ slot, s₀.served slot = none)
    (hrun : run (logged (queueStep d)) (s₀, []) t = some (s, log)) :
    Along (fun p e => p.1.AsksFirst e) (logged (queueStep d)) (s₀, []) t ↔
      t.countP QueueEvent.asksInterrupt ≤ 1 := by
  induction t using List.reverseRecOn generalizing s log with
  | nil => exact ⟨fun _ => Nat.zero_le 1, fun _ => trivial⟩
  | append_singleton t e ih =>
    obtain ⟨⟨s₁, log₁⟩, hrun₁, hlast⟩ := run_concat.1 hrun
    have hcount : (t ++ [e]).countP QueueEvent.asksInterrupt =
        t.countP QueueEvent.asksInterrupt + if e.asksInterrupt = true then 1 else 0 := by
      rw [List.countP_append, List.countP_singleton]
    rw [along_append hrun₁, hcount]
    constructor
    · rintro ⟨hfirst, hasks, -⟩
      have hle := (ih hrun₁).1 hfirst
      split
      · next he =>
        have hzero := (served_none_iff h hnone hrun₁ hfirst).1 (hasks he)
        omega
      · omega
    · intro hle
      have hfirst := (ih hrun₁).2 (by omega)
      refine ⟨hfirst, ?_, fun _ _ => trivial⟩
      intro he
      rw [if_pos he] at hle
      exact (served_none_iff h hnone hrun₁ hfirst).2 (by omega)

/-- **Asking again**: on a device whose context was just allocated, a call for an address that was
served before returns the same queue and changes nothing, and no queue is created twice, if and only
if the interrupt address is asked for once at most. -/
theorem retrieve_same_iff {objects objects₀ : Objects β F}
    (hallocated : ioAllocateContext objects d (.ok ()) = some (statusSuccess, objects₀))
    {t : List (QueueEvent β F)} {s : QueueState β F} {log : List (RetrieveCall β F)}
    (hrun : run (logged (queueStep d)) (⟨objects₀, fun _ => none⟩, []) t = some (s, log)) :
    Idempotent log ↔ t.countP QueueEvent.asksInterrupt ≤ 1 := by
  have hserved : QueueState.Served d ⟨objects₀, fun _ => none⟩ := by
    obtain ⟨u, hu, heq⟩ := Option.map_eq_some_iff.1 hallocated
    obtain ⟨-, rfl⟩ := Prod.mk.inj heq
    exact ⟨_, handlesOf_setIoContext hu u .zeroed, rfl⟩
  have hiff := along_iff_logged (fun s => QueueState.Served d s)
    RetrieveCall.Same ?_ (fun _ _ _ _ hs hagain hstep => queueStep_again hs hagain hstep) hserved
    (fun _ hc => absurd hc List.not_mem_nil) hrun
  · rw [← asksFirst_iff hserved (fun _ => rfl) hrun]
    constructor
    · intro hidempotent
      exact hiff.2 hidempotent.same
    · intro hfirst
      exact (run_createdOnce hserved (fun _ => rfl) hrun hfirst).idempotent (hiff.1 hfirst)
  · intro s e s' out hs hfirst hstep
    obtain ⟨hs', hcall⟩ := queueStep_expected hs hfirst hstep
    refine ⟨hs', ?_⟩
    rcases hcall with ⟨rfl, -⟩ | ⟨c, rfl, -, -, -, hexpected⟩
    · exact fun _ hc => absurd hc List.not_mem_nil
    · intro x hx
      rw [List.mem_singleton.1 hx]
      exact hexpected.same

end

/-- A device before `Io_AllocateContext`. -/
def bareDevice : Objects UInt8 Nat :=
  Store.create Store.empty (.usbDevice { ioContext := none, isAwake := true })

def parkedUrb : WdfRequest UInt8 := ⟨0, .interruptIn, [0, 0, 0, 0]⟩

/-- The interrupt address once, and a bulk address twice, with a URB and a raise between. -/
def askedOnce : List (QueueEvent UInt8 Nat) :=
  [.retrieve gInterruptEndpointAddress, .retrieve gBulkOutEndpointAddress,
    .interruptUrb ioctlInternalUsbSubmitUrb parkedUrb outcomesOk, .raise 7 outcomesOk,
    .raise 8 outcomesOk, .retrieve gBulkOutEndpointAddress]

theorem askedOnce_same : ∃ s log,
    run (logged (queueStep 0)) (⟨oneDevice, fun _ => none⟩, []) askedOnce = some (s, log) ∧
      Idempotent log := by
  have hrun : (run (logged (queueStep 0)) (⟨oneDevice, fun _ => none⟩, [])
    askedOnce).isSome = true := by decide
  obtain ⟨⟨s, log⟩, hrun⟩ := Option.isSome_iff_exists.1 hrun
  have hallocated : ioAllocateContext bareDevice 0 (.ok ()) = some (statusSuccess, oneDevice) := rfl
  exact ⟨s, log, hrun, (retrieve_same_iff hallocated hrun).2 (by decide)⟩

/-- The interrupt address twice, with a URB between. -/
def askedTwice : List (QueueEvent UInt8 Nat) :=
  [.retrieve gInterruptEndpointAddress,
    .interruptUrb ioctlInternalUsbSubmitUrb parkedUrb outcomesOk,
    .retrieve gInterruptEndpointAddress]

/-- The context has an empty deferred queue then, and the URB is left in the one before. -/
theorem askedTwice_not_same : ∃ s log,
    run (logged (queueStep 0)) (⟨oneDevice, fun _ => none⟩, []) askedTwice = some (s, log) ∧
      ¬ Idempotent log ∧
      (deferredQueueOf s.objects (some 0)).map (fun x => x.2.requests) = some [] ∧
      (s.objects.queue 1).map WdfQueue.requests = some [parkedUrb] := by
  have hrun : (run (logged (queueStep 0)) (⟨oneDevice, fun _ => none⟩, []) askedTwice).map
      (fun p => ((p.2.map fun c => c.created .queue).sum,
        (deferredQueueOf p.1.objects (some 0)).map (fun x => x.2.requests),
        (p.1.objects.queue 1).map WdfQueue.requests)) =
      some (2, some [], some [parkedUrb]) := by decide
  obtain ⟨⟨s, log⟩, hrun, heq⟩ := Option.map_eq_some_iff.1 hrun
  obtain ⟨hcreated, hrest⟩ := Prod.mk.inj heq
  refine ⟨s, log, hrun, ?_, Prod.mk.inj hrest⟩
  intro hidempotent
  have hle := hidempotent.deferred
  rw [hcreated] at hle
  exact absurd hle (by decide)

end UdeSample
