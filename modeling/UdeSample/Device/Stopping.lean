import UdeSample.Device.Handles

/-!
# Stopping the deferred queue (`USBCom.c`, `usbdevice.c`)

`Usb_Disconnect` stops the deferred queue of a device, and later deletes the queues one after
another, by a copy it made of their handles. Interrupt URBs, interrupts to raise and power callbacks
may come at any point in between. Nothing looks at `bStopping`, and a link power entry starts the
queue again; `stopping_final_iff` says in which runs the stop is final all the same: no URB is
deferred again, and no handler uses the queue after its deletion.

The device itself is left in place here, for the handlers to find their context.
-/

namespace UdeSample

open Lib

variable {β F : Type}

/-- A device, and the calls that `Io_FreeEndpointQueues` has still to make for it. -/
structure StoppingDevice (β F : Type) where
  objects : Objects β F
  device : Option Nat
  remaining : List FreeCall

/-- What comes while a device is stopped. -/
inductive StoppingEvent (β F : Type) where
  | interruptUrb (ioControlCode : ULONG) (request : WdfRequest β) (o : Outcomes)
  | raiseInterrupt (latestStatus : F) (o : Outcomes)
  | linkPowerExit
  | linkPowerEntry
  | freeNext

/-- One event: a handler runs, or `Io_FreeEndpointQueues` makes its next call. -/
def stoppingStep [Zero F] (s : StoppingDevice β F) :
    StoppingEvent β F → Option (StoppingDevice β F)
  | .interruptUrb ioControlCode request o =>
    (ioEvtInterruptInUrbOn s.objects s.device ioControlCode request o).map fun (_, objects) =>
      { s with objects }
  | .raiseInterrupt latestStatus o =>
    (ioRaiseInterruptOn s.objects s.device latestStatus o).map fun (_, objects) =>
      { s with objects }
  | .linkPowerExit =>
    (usbDeviceEvtLinkPowerExit s.objects s.device).map fun (_, objects) => { s with objects }
  | .linkPowerEntry =>
    (usbDeviceEvtLinkPowerEntry s.objects s.device).map fun objects => { s with objects }
  | .freeNext =>
    match s.remaining with
    | [] => some s
    | call :: remaining =>
      (freeCall s.objects call).map fun objects => { s with objects, remaining }

/-- `Io_StopDeferredProcessing`, with the deferred URBs it cancels; the copy of the context is what
`Io_FreeEndpointQueues` is called with. -/
def StoppingDevice.stopDeferredProcessing (s : StoppingDevice β F) :
    Option (List (Effect β F) × StoppingDevice β F) :=
  (ioStopDeferredProcessingOn s.objects s.device).map fun ((ioContextCopy, fx), objects) =>
    (fx, { s with objects, remaining := ioFreeEndpointQueuesCalls ioContextCopy })

def deferredUrbs (objects : Objects β F) (device : Option Nat) : List (WdfRequest β) :=
  ((deferredQueueOf objects device).map fun (_, q) => q.requests).getD []

def StoppingDevice.deferred (s : StoppingDevice β F) : List (WdfRequest β) :=
  deferredUrbs s.objects s.device

def StoppingEvent.isHandler : StoppingEvent β F → Bool
  | .freeNext => false
  | _ => true

/-- No URB is deferred after the event, and a handler returns: it uses no deleted object. -/
def StaysStopped [Zero F] (s : StoppingDevice β F) (e : StoppingEvent β F) : Prop :=
  (∀ s', stoppingStep s e = some s' → s'.deferred = []) ∧
    (e.isHandler = true → (stoppingStep s e).isSome = true)

instance [Zero F] (s : StoppingDevice β F) (e : StoppingEvent β F) : Decidable (StaysStopped s e) :=
  decidable_of_iff ((stoppingStep s e).all (fun s' => s'.deferred.isEmpty) = true ∧
    (e.isHandler = true → (stoppingStep s e).isSome = true)) (by
      rw [StaysStopped]
      cases stoppingStep s e <;> simp)

def updateCached (objects : Objects β F) (device : Option Nat) : Bool :=
  (wdfDeviceGetIoContext objects device).any fun (_, _, record) =>
    0 < record.intrState.numUnreadUpdates

/-- The deferred queue is there and refuses a URB: it was purged and not started since, or the
framework refuses for a reason of its own. -/
def deferralRefused (objects : Objects β F) (device : Option Nat) (forward : ForwardOutcome) :
    Bool :=
  (deferredQueueOf objects device).any fun (_, q) => !q.accepting || forward.refuses

/-- The events that do nothing to a stopped device: an interrupt URB that is not deferred, and any
other handler while the deferred queue is there. -/
def Harmless (s : StoppingDevice β F) : StoppingEvent β F → Prop
  | .interruptUrb ioControlCode _ o =>
    ioControlCode ≠ ioctlInternalUsbSubmitUrb ∨ updateCached s.objects s.device = true ∨
      deferralRefused s.objects s.device o.forward = true
  | .raiseInterrupt _ _ | .linkPowerExit | .linkPowerEntry =>
    deferredQueueLive s.objects s.device = true
  | .freeNext => True

instance (s : StoppingDevice β F) : ∀ e, Decidable (Harmless s e)
  | .interruptUrb _ _ _ => inferInstanceAs (Decidable (_ ∨ _ ∨ _))
  | .raiseInterrupt _ _ | .linkPowerExit | .linkPowerEntry => inferInstanceAs (Decidable (_ = _))
  | .freeNext => isTrue trivial

/-! ## The handlers on an empty deferred queue -/

section

variable {objects objects' : Objects β F} {device : Option Nat} {d : Nat} {u : UsbDevice F}
  {record : IoRecord F} {handles : IoHandles}

theorem onIoContext_deferredUrbs {ρ : Type}
    {f : IoRecord F → IoContext β F → Option (ρ × IoContext β F)}
    (hcontext : wdfDeviceGetIoContext objects device = some (d, u, record))
    (after : WdfQueue β → List (WdfRequest β))
    (hf : ∀ i q, deferredQueueOf objects device = some (i, q) →
      ∃ answer io, f record (record.view q) = some (answer, io) ∧
        io.intrDeferredQueue.requests = after q) :
    ((onIoContext objects device f).map fun (_, objects') => deferredUrbs objects' device) =
      (deferredQueueOf objects device).map fun (_, q) => after q := by
  cases hdeferred : deferredQueueOf objects device with
  | none =>
    cases hcall : onIoContext objects device f with
    | none => rfl
    | some x =>
      obtain ⟨_, _, _, _, _, _, -, hlive, -⟩ := onIoContext_eq_some hcall
      rw [hdeferred] at hlive
      cases hlive
  | some x =>
    obtain ⟨i, q⟩ := x
    obtain ⟨answer, io, hio, hafter⟩ := hf i q hdeferred
    have hqueue : objects.deferredQueue record = some (i, q) := by
      rw [← hdeferred, deferredQueueOf, hcontext, Option.bind_some]
    have hanswer : (onIoContext objects device f).map Prod.fst = some answer := by
      simp only [onIoContext, hcontext, Option.bind_some, hqueue, hio, Option.map_some]
    obtain ⟨⟨_, objects'⟩, hcall, rfl⟩ := Option.map_eq_some_iff.1 hanswer
    obtain ⟨_, _, _, i', q', io', hcontext', hlive, hio', -, hlast⟩ := onIoContext_eq_some hcall
    rw [hcontext] at hcontext'
    rw [hdeferred] at hlive
    obtain ⟨rfl, rfl, rfl⟩ := hcontext'
    obtain ⟨rfl, rfl⟩ := hlive
    rw [hio] at hio'
    obtain ⟨-, rfl⟩ := hio'
    simp only [hcall, Option.map_some, deferredUrbs, hlast, Option.getD_some, hafter]

theorem deferredUrbs_of_deferredQueueOf {i : Nat} {q : WdfQueue β}
    (hempty : deferredUrbs objects device = [])
    (hdeferred : deferredQueueOf objects device = some (i, q)) : q.requests = [] := by
  rw [deferredUrbs, hdeferred] at hempty
  exact hempty

/-- A call that keeps an empty deferred queue empty returns if and only if the queue is there. -/
theorem onIoContext_quiet {ρ : Type} {f : IoRecord F → IoContext β F → Option (ρ × IoContext β F)}
    (hcontext : wdfDeviceGetIoContext objects device = some (d, u, record))
    (hempty : deferredUrbs objects device = [])
    (hf : ∀ q : WdfQueue β, q.requests = [] →
      ∃ answer io, f record (record.view q) = some (answer, io) ∧
        io.intrDeferredQueue.requests = []) :
    ((onIoContext objects device f).map fun (_, objects') => deferredUrbs objects' device) =
      some [] ↔ deferredQueueLive objects device = true := by
  have hcall := onIoContext_deferredUrbs hcontext (fun _ => []) fun i q hdeferred =>
    hf q (deferredUrbs_of_deferredQueueOf hempty hdeferred)
  rw [hcall, deferredQueueLive]
  cases deferredQueueOf objects device <;> simp

/-! ## Each handler -/

theorem deferredQueueOf_setAwake
    (hcontext : wdfDeviceGetIoContext objects device = some (d, u, record)) (isAwake : Bool) :
    deferredQueueOf (objects.setAwake device isAwake) device = deferredQueueOf objects device := by
  obtain ⟨rfl, hu, hrecord⟩ := wdfDeviceGetIoContext_eq_some.1 hcontext
  rw [Objects.setAwake_eq hu hrecord, deferredQueueOf_setIoContext hu,
    deferredQueueOf_eq hu hrecord]

theorem raiseInterrupt_quiet (hcontext : wdfDeviceGetIoContext objects device = some (d, u, record))
    (hlock : objects.isSpinLock record.sync = true) (hempty : deferredUrbs objects device = [])
    (latestStatus : F) (o : Outcomes) :
    ((ioRaiseInterruptOn objects device latestStatus o).map fun (_, objects') =>
      deferredUrbs objects' device) = some [] ↔ deferredQueueLive objects device = true := by
  apply onIoContext_quiet hcontext hempty
  intro q hq
  have hnone : ioTakeDeferred (record.view q) = none := by
    rw [ioTakeDeferred, IoRecord.view, wdfIoQueueRetrieveNextRequest, hq]
    rfl
  refine ⟨(statusSuccess, [.signalWake]), ioCacheUpdate latestStatus (record.view q), ?_, hq⟩
  simp only [ioRaiseInterrupt, hnone, hlock]
  rfl

theorem linkPowerExit_quiet (hcontext : wdfDeviceGetIoContext objects device = some (d, u, record))
    (hempty : deferredUrbs objects device = []) :
    ((usbDeviceEvtLinkPowerExit (F := F) objects device).map fun (_, objects') =>
      deferredUrbs objects' device) = some [] ↔ deferredQueueLive objects device = true := by
  have hsame := deferredQueueOf_setAwake hcontext false
  obtain ⟨rfl, hu, hrecord⟩ := wdfDeviceGetIoContext_eq_some.1 hcontext
  have hcontext' : wdfDeviceGetIoContext (objects.setAwake (some d) false) (some d) =
      some (d, { u with ioContext := some record, isAwake := false }, record) := by
    rw [Objects.setAwake_eq hu hrecord, wdfDeviceGetIoContext_eq_some]
    exact ⟨rfl, by rw [Objects.usbDevice_setIoContext hu, if_pos rfl], rfl⟩
  rw [deferredQueueLive, ← hsame]
  apply onIoContext_quiet hcontext'
  · rw [deferredUrbs, hsame]
    exact hempty
  · intro q hq
    exact ⟨_, _, rfl, rfl⟩

theorem linkPowerEntry_quiet (hcontext : wdfDeviceGetIoContext objects device = some (d, u, record))
    (hempty : deferredUrbs objects device = []) :
    ((usbDeviceEvtLinkPowerEntry objects device).map fun objects' =>
      deferredUrbs objects' device) = some [] ↔ deferredQueueLive objects device = true := by
  have hquiet := onIoContext_quiet (f := fun _ io => some ((), ioDeviceWokeUp io)) hcontext hempty
    fun q hq => ⟨(), _, rfl, hq⟩
  rw [← hquiet, usbDeviceEvtLinkPowerEntry, Option.map_map]
  cases hcall : onIoContext objects device fun _ io => some ((), ioDeviceWokeUp io) with
  | none => rfl
  | some x =>
    obtain ⟨_, objects'⟩ := x
    have hhandles := (keeps_onIoContext hcall).handles.trans
      (handlesOf_eq_some.2 ⟨u, record, hcontext, rfl⟩)
    obtain ⟨u', record', hcontext', -⟩ := handlesOf_eq_some.1 hhandles
    simp only [Option.map_some, Function.comp_apply, deferredUrbs,
      deferredQueueOf_setAwake hcontext']

theorem interruptUrb_deferred [Zero F] (io : IoContext β F)
    (hupdate : ¬ 0 < io.intrState.numUnreadUpdates) (hempty : io.intrDeferredQueue.requests = [])
    (request : WdfRequest β) (o : Outcomes) :
    (ioEvtInterruptInUrb ioctlInternalUsbSubmitUrb request o io).1.intrDeferredQueue.requests =
      if io.intrDeferredQueue.accepting && !o.forward.refuses then [request] else [] := by
  simp only [ioEvtInterruptInUrb, ioTakeUpdate, hupdate, ioDeferUrb, wdfRequestForwardToIoQueue]
  cases hacc : io.intrDeferredQueue.accepting <;> cases o.forward.refuses <;> simp [hacc, hempty]

theorem interruptUrb_quiet [Zero F]
    (hcontext : wdfDeviceGetIoContext objects device = some (d, u, record))
    (hlock : objects.isSpinLock record.sync = true) (hempty : deferredUrbs objects device = [])
    (ioControlCode : ULONG) (request : WdfRequest β) (o : Outcomes) :
    ((ioEvtInterruptInUrbOn objects device ioControlCode request o).map fun (_, objects') =>
      deferredUrbs objects' device) = some [] ↔
        ioControlCode ≠ ioctlInternalUsbSubmitUrb ∨ updateCached objects device = true ∨
          deferralRefused objects device o.forward = true := by
  have hcached : updateCached objects device = decide (0 < record.intrState.numUnreadUpdates) := by
    rw [updateCached, hcontext]
    rfl
  obtain ⟨rfl, hu, hrecord⟩ := wdfDeviceGetIoContext_eq_some.1 hcontext
  rw [hcached]
  by_cases hcode : ioControlCode = ioctlInternalUsbSubmitUrb
  · subst hcode
    by_cases hupdate : 0 < record.intrState.numUnreadUpdates
    · have hsame : deferredUrbs (objects.setIoContext d u { record with intrState := .cleared })
          (some d) = [] := by
        rw [deferredUrbs, deferredQueueOf_eq hu hrecord] at hempty
        rw [deferredUrbs, deferredQueueOf_setIoContext hu]
        exact hempty
      simp [ioEvtInterruptInUrbOn, hcontext, hlock, hupdate, hsame]
    · -- no update is cached, so the URB is forwarded, and refused or deferred
      have hcall : ioEvtInterruptInUrbOn objects (some d) ioctlInternalUsbSubmitUrb request o =
          onIoContext objects (some d) fun _ io =>
            some ((ioEvtInterruptInUrb ioctlInternalUsbSubmitUrb request o io).2,
              (ioEvtInterruptInUrb ioctlInternalUsbSubmitUrb request o io).1) := by
        rw [ioEvtInterruptInUrbOn, hcontext]
        simp only [Option.bind_some, hlock, hupdate]
        rfl
      have hdeferred := onIoContext_deferredUrbs
        (f := fun _ io => some ((ioEvtInterruptInUrb ioctlInternalUsbSubmitUrb request o io).2,
          (ioEvtInterruptInUrb ioctlInternalUsbSubmitUrb request o io).1)) hcontext _
        fun i q hq => ⟨_, _, rfl, interruptUrb_deferred (record.view q) hupdate
          (deferredUrbs_of_deferredQueueOf hempty hq) request o⟩
      rw [hcall, hdeferred, deferralRefused]
      cases deferredQueueOf objects (some d) with
      | none => simp [hupdate]
      | some x =>
        obtain ⟨i, q⟩ := x
        cases hacc : q.accepting <;> cases o.forward.refuses <;>
          simp [IoRecord.view, hacc, hupdate]
  · simp [ioEvtInterruptInUrbOn, hcontext, hcode, hempty]

/-! ## Deleting the queues -/

/-- The handle a call of `Io_FreeEndpointQueues` is about. -/
def FreeCall.handle : FreeCall → Option Nat
  | .delete handle | .purge handle => handle

theorem ioFreeEndpointQueuesCalls_handle {record : IoRecord F} {call : FreeCall}
    (hmem : call ∈ ioFreeEndpointQueuesCalls record) :
    call.handle = record.intrDeferredQueue ∨ ∃ slot, call.handle = record.endpointQueue slot := by
  rcases List.mem_cons.1 hmem with rfl | hmem
  · exact Or.inl rfl
  · obtain ⟨slot, -, hmem⟩ := List.mem_flatMap.1 hmem
    refine Or.inr ⟨slot, ?_⟩
    simp only [List.mem_cons, List.not_mem_nil, or_false] at hmem
    rcases hmem with rfl | rfl <;> rfl

/-- Deleting any other object than the device leaves the deferred queue what it is, or deletes
it. -/
theorem deferredUrbs_delete {objects : Objects β F} {i : Nat} {u : UsbDevice F}
    {record : IoRecord F} (hne : d ≠ i) (hu : objects.usbDevice d = some u)
    (hrecord : u.ioContext = some record) (hempty : deferredUrbs objects (some d) = []) :
    deferredUrbs (objects.delete i) (some d) = [] := by
  rw [deferredUrbs, deferredQueueOf_eq hu hrecord, Objects.deferredQueue] at hempty
  rw [deferredUrbs, deferredQueueOf_eq ((Objects.usbDevice_delete hne).trans hu) hrecord,
    Objects.deferredQueue]
  cases hhandle : record.intrDeferredQueue with
  | none => rfl
  | some h =>
    rw [hhandle] at hempty
    by_cases hi : h = i
    · simp [Objects.queue, Store.get?_delete, hi]
    · rw [Option.bind_some, Objects.queue_delete hi]
      exact hempty

/-- **A call of `Io_FreeEndpointQueues`** about neither the device nor the lock. -/
theorem freeCall_keeps {objects objects' : Objects β F} {device : Option Nat} {call : FreeCall}
    (hhandles : handlesOf objects device = some (d, handles))
    (hlock : objects.isSpinLock handles.sync = true)
    (hcall : ∀ i, call.handle = some i → i ≠ d ∧ handles.sync ≠ some i)
    (hempty : deferredUrbs objects device = []) (hfree : freeCall objects call = some objects') :
    handlesOf objects' device = some (d, handles) ∧ objects'.isSpinLock handles.sync = true ∧
      deferredUrbs objects' device = [] := by
  cases call with
  | purge handle =>
    obtain ⟨-, -, rfl⟩ := Option.map_eq_some_iff.1 hfree
    exact ⟨hhandles, hlock, hempty⟩
  | delete handle =>
    obtain ⟨i, rfl, hdelete⟩ := Option.bind_eq_some_iff.1 hfree
    obtain ⟨-, -, rfl⟩ := Option.map_eq_some_iff.1 hdelete
    obtain ⟨hd, hsync⟩ := hcall i rfl
    obtain ⟨u, record, hcontext, rfl⟩ := handlesOf_eq_some.1 hhandles
    obtain ⟨rfl, hu, hrecord⟩ := wdfDeviceGetIoContext_eq_some.1 hcontext
    have hu' := (Objects.usbDevice_delete hd.symm).trans hu
    exact ⟨handlesOf_eq hu' hrecord, Objects.isSpinLock_delete hsync hlock,
      deferredUrbs_delete hd.symm hu hrecord hempty⟩

end

/-! ## Runs after the stop -/

/-- A stopped device: its context and its lock are there, the deferred queue is empty if it is
there, and the calls that remain are about neither the device nor the lock. -/
structure StoppingDevice.Stopped (s : StoppingDevice β F) : Prop where
  context : ∃ d handles, handlesOf s.objects s.device = some (d, handles) ∧
    s.objects.isSpinLock handles.sync = true ∧
    ∀ call ∈ s.remaining, ∀ i, call.handle = some i → i ≠ d ∧ handles.sync ≠ some i
  empty : s.deferred = []

section

variable {s s' : StoppingDevice β F} {e : StoppingEvent β F} {d : Nat}
  {handles : IoHandles}

theorem keeps_interruptUrb [Zero F] {objects objects' : Objects β F} {device : Option Nat}
    {ioControlCode : ULONG} {request : WdfRequest β} {o : Outcomes} {fx : List (Effect β F)}
    (h : ioEvtInterruptInUrbOn objects device ioControlCode request o = some (fx, objects')) :
    objects.Keeps objects' device := by
  obtain ⟨⟨d, u, record⟩, hcontext, h⟩ := Option.bind_eq_some_iff.1 h
  obtain ⟨rfl, hu, hrecord⟩ := wdfDeviceGetIoContext_eq_some.1 hcontext
  simp only at h
  split at h
  · obtain ⟨-, rfl⟩ := h
    exact Objects.Keeps.refl objects _
  split at h
  · cases h
  split at h
  · obtain ⟨-, rfl⟩ := h
    exact keeps_setIoContext hu hrecord u rfl
  · exact keeps_onIoContext h

theorem stoppingStep_handler [Zero F] (hhandler : e.isHandler = true)
    (hhandles : handlesOf s.objects s.device = some (d, handles))
    (hstep : stoppingStep s e = some s') :
    s.objects.Keeps s'.objects s.device ∧ s'.device = s.device ∧ s'.remaining = s.remaining := by
  cases e with
  | interruptUrb ioControlCode request o =>
    obtain ⟨⟨fx, objects⟩, hcall, rfl⟩ := Option.map_eq_some_iff.1 hstep
    exact ⟨keeps_interruptUrb hcall, rfl, rfl⟩
  | raiseInterrupt latestStatus o =>
    obtain ⟨⟨answer, objects⟩, hcall, rfl⟩ := Option.map_eq_some_iff.1 hstep
    exact ⟨keeps_onIoContext hcall, rfl, rfl⟩
  | linkPowerExit =>
    obtain ⟨⟨fx, objects⟩, hcall, rfl⟩ := Option.map_eq_some_iff.1 hstep
    exact ⟨(keeps_setAwake hhandles false).trans (keeps_onIoContext hcall), rfl, rfl⟩
  | linkPowerEntry =>
    obtain ⟨objects, hentry, rfl⟩ := Option.map_eq_some_iff.1 hstep
    obtain ⟨⟨_, objects₁⟩, hcall, rfl⟩ := Option.map_eq_some_iff.1 hentry
    have hkeeps := keeps_onIoContext hcall
    exact ⟨hkeeps.trans (keeps_setAwake (hkeeps.handles.trans hhandles) true), rfl, rfl⟩
  | freeNext => cases hhandler

theorem StoppingDevice.Stopped.freeNext [Zero F] (h : s.Stopped)
    (hstep : stoppingStep s .freeNext = some s') : s'.Stopped := by
  obtain ⟨⟨d, handles, hhandles, hlock, hcalls⟩, hempty⟩ := h
  rw [stoppingStep] at hstep
  split at hstep
  · obtain rfl := Option.some.inj hstep
    exact ⟨⟨d, handles, hhandles, hlock, hcalls⟩, hempty⟩
  · rename_i call remaining hremaining
    obtain ⟨objects, hfree, rfl⟩ := Option.map_eq_some_iff.1 hstep
    rw [hremaining] at hcalls
    obtain ⟨hhandles', hlock', hempty'⟩ :=
      freeCall_keeps hhandles hlock (hcalls call List.mem_cons_self) hempty hfree
    refine ⟨⟨d, handles, hhandles', hlock', ?_⟩, hempty'⟩
    intro call' hmem
    exact hcalls call' (List.mem_cons_of_mem call hmem)

theorem staysStopped_handler [Zero F] (hhandler : e.isHandler = true) :
    StaysStopped s e ↔ (stoppingStep s e).map StoppingDevice.deferred = some [] := by
  rw [StaysStopped]
  cases stoppingStep s e with
  | none => simp [hhandler]
  | some s' => simp

/-- **One event**: on a stopped device the condition is exact. -/
theorem staysStopped_iff [Zero F] (h : s.Stopped) : StaysStopped s e ↔ Harmless s e := by
  obtain ⟨d, handles, hhandles, hlock, -⟩ := h.context
  obtain ⟨u, record, hcontext, rfl⟩ := handlesOf_eq_some.1 hhandles
  cases e with
  | interruptUrb ioControlCode request o =>
    rw [staysStopped_handler rfl, stoppingStep, Option.map_map]
    exact interruptUrb_quiet hcontext hlock h.empty ioControlCode request o
  | raiseInterrupt latestStatus o =>
    rw [staysStopped_handler rfl, stoppingStep, Option.map_map]
    exact raiseInterrupt_quiet hcontext hlock h.empty latestStatus o
  | linkPowerExit =>
    rw [staysStopped_handler rfl, stoppingStep, Option.map_map]
    exact linkPowerExit_quiet hcontext h.empty
  | linkPowerEntry =>
    rw [staysStopped_handler rfl, stoppingStep, Option.map_map]
    exact linkPowerEntry_quiet hcontext h.empty
  | freeNext =>
    constructor
    · intro _
      trivial
    · intro _
      exact ⟨fun s' hstep => (h.freeNext hstep).empty, fun hhandler => by cases hhandler⟩

theorem StoppingDevice.Stopped.step [Zero F] (h : s.Stopped) (hstays : StaysStopped s e)
    (hstep : stoppingStep s e = some s') : s'.Stopped := by
  by_cases hhandler : e.isHandler = true
  · obtain ⟨d, handles, hhandles, hlock, hcalls⟩ := h.context
    obtain ⟨hkeeps, hdevice, hremaining⟩ := stoppingStep_handler hhandler hhandles hstep
    refine ⟨⟨d, handles, ?_, isSpinLock_extends hkeeps.kinds hlock, ?_⟩, hstays.1 s' hstep⟩
    · rw [hdevice]
      exact hkeeps.handles.trans hhandles
    · rw [hremaining]
      exact hcalls
  · cases e with
    | freeNext => exact h.freeNext hstep
    | _ => exact absurd rfl hhandler

/-- **The stop** leaves a device stopped. -/
theorem stopDeferredProcessing_stopped {fx : List (Effect β F)} (hdevice : s.device = some d)
    (h : HasHandles s.objects d true) (hstop : s.stopDeferredProcessing = some (fx, s')) :
    s'.Stopped := by
  obtain ⟨⟨⟨ioContextCopy, fx'⟩, objects⟩, hcall, heq⟩ := Option.map_eq_some_iff.1 hstop
  obtain ⟨-, rfl⟩ := Prod.mk.inj heq
  have hkeeps := keeps_onIoContext hcall
  obtain ⟨d', u, record, i, q, io, hcontext, -, hf, -, hlast⟩ := onIoContext_eq_some hcall
  obtain ⟨hcopy, rfl⟩ := Prod.mk.inj (Option.some.inj hf)
  obtain ⟨rfl, -⟩ := Prod.mk.inj hcopy
  obtain ⟨handles, hhandles, htyped, hlock⟩ := h
  rw [hdevice] at hcontext
  have hsame := handlesOf_eq_some.2 ⟨u, record, hcontext, rfl⟩
  obtain ⟨rfl, rfl⟩ := hhandles.symm.trans hsame
  obtain ⟨k, hk, hlockKind⟩ := Objects.isSpinLock_eq_true.1 (hlock rfl)
  have hdeviceKind := Objects.kind?_of_usbDevice (wdfDeviceGetIoContext_eq_some.1 hcontext).2.1
  refine ⟨⟨d, record.handles, ?_, isSpinLock_extends hkeeps.kinds (hlock rfl), ?_⟩, ?_⟩
  · rw [hdevice] at hkeeps ⊢
    exact hkeeps.handles.trans hhandles
  · intro call hmem i hi
    have hqueue : s.objects.kind? i = some .queue ∨ s.objects.kind? i = some .endpointQueue := by
      rcases ioFreeEndpointQueuesCalls_handle hmem with hdeferred | ⟨slot, hslot⟩
      · exact Or.inl (htyped.deferred i (hdeferred.symm.trans hi))
      · exact Or.inr (htyped.endpoints slot i (hslot.symm.trans hi))
    constructor
    · rintro rfl
      rw [hdeviceKind] at hqueue
      simp at hqueue
    · intro hsync
      obtain rfl := Option.some.inj (hk.symm.trans hsync)
      rw [hlockKind] at hqueue
      simp at hqueue
  · rw [StoppingDevice.deferred, deferredUrbs, hlast]
    rfl

theorem stoppingRun_handles [Zero F] {t : List (StoppingEvent β F)} {s₀ : StoppingDevice β F}
    (hdevice : s₀.device = some d) (hremaining : s₀.remaining = [])
    (h : HasHandles s₀.objects d true) (hrun : run stoppingStep s₀ t = some s) :
    s.device = some d ∧ s.remaining = [] ∧ HasHandles s.objects d true := by
  refine run_invariant (P := fun _ s => s.device = some d ∧ s.remaining = [] ∧
    HasHandles s.objects d true) ⟨hdevice, hremaining, h⟩ ?_ hrun
  intro t s e s' _ h hstep
  obtain ⟨hdevice, hremaining, h⟩ := h
  by_cases hhandler : e.isHandler = true
  · obtain ⟨handles, hhandles, -⟩ := id h
    rw [← hdevice] at hhandles
    obtain ⟨hkeeps, hdevice', hremaining'⟩ := stoppingStep_handler hhandler hhandles hstep
    rw [hdevice] at hkeeps
    exact ⟨hdevice'.trans hdevice, hremaining'.trans hremaining, h.keeps hkeeps⟩
  · cases e with
    | freeNext =>
      rw [stoppingStep, hremaining] at hstep
      obtain rfl := Option.some.inj hstep
      exact ⟨hdevice, hremaining, h⟩
    | _ => exact absurd rfl hhandler

def stoppingInit (c : Controller β F) : StoppingDevice β F :=
  { objects := c.objects, device := c.childDevice, remaining := [] }

/-- **When stopping is final**: once a device that was plugged in has been stopped, whatever it did
in between, nothing is deferred again and no handler uses a deleted object, if and only if every
event to come is harmless. -/
theorem stopping_final_iff [Zero F] {o : PlugInOutcomes} {c₀ c : Controller β F}
    {status : NTSTATUS} {t₀ : List (StoppingEvent β F)} {s₁ : StoppingDevice β F}
    {fx : List (Effect β F)} (hplug : usbReadDescriptorsAndPlugIn o c₀ = some (status, c))
    (hok : ntSuccess status = true) (hbefore : run stoppingStep (stoppingInit c) t₀ = some s)
    (hstop : s.stopDeferredProcessing = some (fx, s₁)) (t : List (StoppingEvent β F)) :
    Along Harmless stoppingStep s₁ t ↔ Along StaysStopped stoppingStep s₁ t := by
  obtain ⟨d, hdevice, hhandles⟩ := usbReadDescriptorsAndPlugIn_handles hplug hok
  obtain ⟨hdevice', -, hhandles'⟩ := stoppingRun_handles hdevice rfl hhandles hbefore
  have hstopped : s₁.Stopped := stopDeferredProcessing_stopped hdevice' hhandles' hstop
  have hiff : ∀ (s : StoppingDevice β F) e, s.Stopped → (StaysStopped s e ↔ Harmless s e) :=
    fun _ _ h => staysStopped_iff h
  refine (along_congr hiff ?_ hstopped t).symm
  intro s e s' h hstays hstep
  exact h.step hstays hstep

end

def urbComes (id : Nat) : StoppingEvent UInt8 ULONG :=
  .interruptUrb ioctlInternalUsbSubmitUrb ⟨id, .interruptIn, [0, 0, 0, 0]⟩ outcomesOk

/-- A plugged-in device that is stopped with a URB deferred. -/
def stoppedDevice : Option (StoppingDevice UInt8 ULONG) :=
  (usbReadDescriptorsAndPlugIn plugInOk controllerCreated).bind fun (_, c) =>
    (run stoppingStep (stoppingInit c) [urbComes 0]).bind fun s =>
      s.stopDeferredProcessing.map Prod.snd

/-- URBs are refused or find an update, and the queues are deleted when nothing else comes. -/
def quietEvents : List (StoppingEvent UInt8 ULONG) :=
  [urbComes 1, .linkPowerEntry, .raiseInterrupt 10 outcomesOk, urbComes 2, .linkPowerExit,
    urbComes 3] ++ List.replicate 9 .freeNext

theorem quietEvents_stopped :
    ∃ s₁ ∈ stoppedDevice, Along StaysStopped stoppingStep s₁ quietEvents := by
  have hharmless : ∃ s₁ ∈ stoppedDevice, Along Harmless stoppingStep s₁ quietEvents := by
    decide +kernel
  have hok : ∀ x ∈ usbReadDescriptorsAndPlugIn plugInOk
      (controllerCreated : Controller UInt8 ULONG), ntSuccess x.1 = true := by
    decide +kernel
  obtain ⟨s₁, hs₁, hquiet⟩ := hharmless
  obtain ⟨⟨status, c⟩, hplug, h⟩ := Option.bind_eq_some_iff.1 hs₁
  obtain ⟨s, hbefore, h⟩ := Option.bind_eq_some_iff.1 h
  obtain ⟨⟨fx, s₂⟩, hstop, rfl⟩ := Option.map_eq_some_iff.1 h
  exact ⟨s₂, hs₁, (stopping_final_iff hplug (hok _ hplug) hbefore hstop quietEvents).1 hquiet⟩

/-- A link power entry starts the queue again, and the next URB is deferred; an interrupt raised
after the first call of `Io_FreeEndpointQueues` uses the deleted queue. -/
theorem restarted_defers : ∃ s₁ ∈ stoppedDevice,
    ¬ Along StaysStopped stoppingStep s₁ [.linkPowerEntry, urbComes 1] ∧
      ¬ Along StaysStopped stoppingStep s₁ [.freeNext, .raiseInterrupt 10 outcomesOk] := by
  decide +kernel

end UdeSample
