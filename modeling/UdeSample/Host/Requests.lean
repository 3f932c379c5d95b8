import UdeSample.Host.ConfigDescriptor
import UdeSample.Host.History
import UdeSample.Host.PipesRuns

/-!
# The requests of the host driver

Reads and writes are pending at the bulk pipes, `OsrFxEvtIoDeviceControl` (`ioctl.c`) tells its
requests by their codes, and those for an interrupt message wait in a manual queue, which is not
power managed: they stay while the device sleeps, until the continuous reader, a cancellation or
`OsrFxEvtDeviceSelfManagedIoFlush` answers them.

`hostDriver_answered`: no request of any kind is lost or completed twice. `hostDriver_removed`: a
removal leaves none unanswered.
-/

namespace UdeSample

open Lib

/-! ## The driver -/

def fileDeviceOsrusbfx2 : ULONG := 65500

def ioctlIndex : ULONG := 0x800

/-- `METHOD_BUFFERED`, `FILE_READ_ACCESS` -/
def ioctlOsrusbfx2GetConfigDescriptor : ULONG := ctlCode fileDeviceOsrusbfx2 ioctlIndex 0 1

/-- `METHOD_BUFFERED`, `FILE_WRITE_ACCESS` -/
def ioctlOsrusbfx2ResetDevice : ULONG := ctlCode fileDeviceOsrusbfx2 (ioctlIndex + 1) 0 2

/-- `METHOD_OUT_DIRECT`, `FILE_READ_ACCESS` -/
def ioctlOsrusbfx2GetInterruptMessage : ULONG := ctlCode fileDeviceOsrusbfx2 (ioctlIndex + 9) 2 1

structure HostDriver where
  pipes : HostPipes UCHAR
  messages : HostContext UCHAR ULONG

def hostDriverInit : HostDriver := ⟨hostPipesInit, hostContextCreated⟩

/-- What the framework answers while an I/O control is handled. -/
structure ControlOutcomes where
  config : ConfigDescriptorOutcomes
  retrieve : NtResult Unit
  forward : ForwardOutcome

/-- `OsrFxEvtIoDeviceControl`; the calls that `ResetDevice` makes are events of their own. -/
def osrFxEvtIoDeviceControl (usbDevice : UsbTargetDevice) (request : WdfRequest UCHAR)
    (ioControlCode : ULONG) (o : ControlOutcomes) (s : HostDriver) :
    HostDriver × List (Completion UCHAR ULONG) :=
  if ioControlCode = ioctlOsrusbfx2GetConfigDescriptor then
    (s, [osrGetConfigDescriptor usbDevice request o.config])
  else if ioControlCode = ioctlOsrusbfx2ResetDevice then
    ({ s with pipes := { s.pipes with resets := s.pipes.resets ++ [⟨request, .acquire⟩] } }, [])
  else if ioControlCode = ioctlOsrusbfx2GetInterruptMessage then
    let (messages, cs) := osrGetInterruptMessage request o.retrieve o.forward s.messages
    ({ s with messages }, cs)
  else (s, [completeRequest .wdfRequest request statusInvalidDeviceRequest 0])

inductive HostDriverEvent where
  | deviceControl (request : WdfRequest UCHAR) (ioControlCode : ULONG) (o : ControlOutcomes)
  /-- anything at the pipes but an I/O control -/
  | pipes (e : PipesEvent UCHAR)
  /-- a callback of the continuous reader, the flush, or a cancellation -/
  | messages (e : HostEvent UCHAR ULONG)

/-- The reader calls back while its pipe is started, and the flush comes when the device has left
D0 for good. -/
def HostDriver.accepts (s : HostDriver) : HostDriverEvent → Bool
  | .deviceControl _ _ _ => s.pipes.power = .d0
  | .pipes (.resetDevice _) => false
  | .pipes e => s.pipes.accepts e
  | .messages (.get _ _ _) => false
  | .messages (.readComplete _ _ _) | .messages (.readersFailed _ _) =>
    (s.pipes.targets .interrupt).started
  | .messages (.selfManagedIoFlush _) => s.pipes.power ≠ .d0
  | .messages (.cancel _) => true

def hostDriverHandle (usbDevice : UsbTargetDevice) (s : HostDriver) :
    HostDriverEvent → Option (HostDriver × List (PipeRecord UCHAR))
  | .deviceControl request ioControlCode o =>
    let (s, cs) := osrFxEvtIoDeviceControl usbDevice request ioControlCode o s
    some (s, .dispatched request :: cs.map .completed)
  | .pipes e => (pipesHandle s.pipes e).map fun (pipes, out) => ({ s with pipes }, out)
  | .messages e => (hostStep s.messages e).map fun (messages, cs) =>
    ({ s with messages }, cs.map .completed)

def hostDriverStep (usbDevice : UsbTargetDevice) (s : HostDriver) (e : HostDriverEvent) :
    Option (HostDriver × List (PipeRecord UCHAR)) :=
  if s.accepts e then hostDriverHandle usbDevice s e else none

def hostDriverRun (usbDevice : UsbTargetDevice) (t : List HostDriverEvent) :
    Option (HostDriver × List (PipeRecord UCHAR)) :=
  run (logged (hostDriverStep usbDevice)) (hostDriverInit, []) t

/-! ## What the driver has -/

def HostContext.waitingIds (host : HostContext UCHAR ULONG) : List Nat :=
  host.interruptMsgQueue.requests.map fun r => r.id

/-- The requests at the pipes, in `ResetDevice`, and waiting for a message. -/
def HostDriver.inFlight (s : HostDriver) : List Nat := s.pipes.inFlight ++ s.messages.waitingIds

def requestIds (cs : List (Completion UCHAR ULONG)) : List Nat := cs.map fun c => c.request.id

theorem dispatchedIds_completed (cs : List (Completion UCHAR ULONG)) :
    dispatchedIds (cs.map PipeRecord.completed) = [] := by
  induction cs with
  | nil => rfl
  | cons c cs ih => exact ih

theorem completedIds_completed (cs : List (Completion UCHAR ULONG)) :
    completedIds (cs.map PipeRecord.completed) = requestIds cs := by
  induction cs with
  | nil => rfl
  | cons c cs ih => exact congrArg (c.request.id :: ·) ih

section Messages

variable {h : List (StatusRecord ULONG)} {host host' : HostContext UCHAR ULONG}

/-- A request for an interrupt message is answered, or waits. -/
theorem osrGetInterruptMessage_ids (request : WdfRequest UCHAR) (retrieve : NtResult Unit)
    (forward : ForwardOutcome) (host : HostContext UCHAR ULONG) (i : Nat) :
    [request.id].count i + host.waitingIds.count i =
      (requestIds (osrGetInterruptMessage request retrieve forward host).2).count i +
        (osrGetInterruptMessage request retrieve forward host).1.waitingIds.count i := by
  unfold osrGetInterruptMessage osrTakeUpdate
  by_cases hunread : host.interruptStatus.numUnreadUpdates > 0
  · have hrequest := (osrCompleteInterruptRequest_answeredBy
      ⟨statusSuccess, host.interruptStatus.latestStatus, fun _ => retrieve⟩ request).1
    simp only [hunread, if_true, requestIds, List.map_cons, List.map_nil]
    rw [hrequest]
    rfl
  · simp only [hunread, if_false, osrDeferRequest]
    cases hforward : wdfRequestForwardToIoQueue request host.interruptMsgQueue forward with
    | error e => rfl
    | ok q =>
      obtain ⟨-, -, rfl⟩ := wdfRequestForwardToIoQueue_eq_ok.1 hforward
      simp [HostContext.waitingIds, requestIds, List.count_append]
      omega

/-- The other events answer what waits, or leave it. -/
theorem hostStep_ids (hh : HostHistory h host) {e : HostEvent UCHAR ULONG}
    {cs : List (Completion UCHAR ULONG)} (hget : ∀ r o f, e ≠ .get r o f)
    (hstep : hostStep host e = some (host', cs)) (i : Nat) :
    host.waitingIds.count i = (requestIds cs).count i + host'.waitingIds.count i := by
  cases hmessage : e.message with
  | some message =>
    rw [hostStep_message hmessage, hh.message_eq] at hstep
    obtain ⟨rfl, rfl⟩ := Prod.mk.inj (Option.some.inj hstep)
    have hids : requestIds (host.interruptMsgQueue.requests.map fun r =>
        osrCompleteInterruptRequest r message.readerStatus message.newDeviceFlags
          (message.retrieve r)) = host.waitingIds := by
      rw [requestIds, List.map_map, HostContext.waitingIds]
      refine List.map_congr_left ?_
      intro r _
      exact congrArg WdfRequest.id (osrCompleteInterruptRequest_answeredBy message r).1
    rw [hids]
    rfl
  | none =>
    cases e with
    | get r o f => exact absurd rfl (hget r o f)
    | readersFailed | selfManagedIoFlush => cases hmessage
    | readComplete n v retrieve =>
      have hn : n = 0 := by
        by_contra hne
        simp [HostEvent.message, hne] at hmessage
      subst hn
      obtain ⟨rfl, rfl⟩ := Prod.mk.inj (Option.some.inj hstep)
      exact (Nat.zero_add _).symm
    | cancel j =>
      obtain ⟨⟨request, q⟩, hcancel, heq⟩ := Option.map_eq_some_iff.1 hstep
      obtain ⟨rfl, rfl⟩ := Prod.mk.inj heq
      obtain ⟨l, m, hlm, -, rfl⟩ := WdfQueue.cancel_eq_some.1 hcancel
      simp only [HostContext.waitingIds, requestIds, hlm, List.map_append, List.map_cons,
        List.map_nil, List.count_append, List.count_cons, List.count_nil, WdfQueue.canceled_request]
      omega

end Messages

/-! ## The invariant -/

variable {usbDevice : UsbTargetDevice}

structure HostDriverInv (s : HostDriver) (log : List (PipeRecord UCHAR)) : Prop where
  pipes : PipesInv s.pipes log
  messages : ∃ h, HostHistory h s.messages
  ledger : ∀ i, (dispatchedIds log).count i = (completedIds log).count i + s.inFlight.count i

theorem hostDriverInv_init : HostDriverInv hostDriverInit [] :=
  ⟨pipesInv_init, ⟨[], .init⟩, fun _ => rfl⟩

theorem hostDriverStep_eq_some {s s' : HostDriver} {e : HostDriverEvent}
    {out : List (PipeRecord UCHAR)} : hostDriverStep usbDevice s e = some (s', out) ↔
      s.accepts e = true ∧ hostDriverHandle usbDevice s e = some (s', out) := by
  unfold hostDriverStep
  split
  · next hacc => simp [hacc]
  · next hacc => simp [hacc]

theorem osrGetConfigDescriptor_request (request : WdfRequest UCHAR)
    (o : ConfigDescriptorOutcomes) :
    (osrGetConfigDescriptor usbDevice request o : Completion UCHAR ULONG).request = request := by
  by_cases hok : o.Ok ∧ usbDevice.configDescriptor.length ≤ request.buffer.length
  · rw [osrGetConfigDescriptor_ok usbDevice request hok.1 hok.2]
  · obtain ⟨e, herror⟩ := osrGetConfigDescriptor_error (F := ULONG) usbDevice request hok
    rw [herror]
    rfl

section Step

variable {s s' : HostDriver} {log : List (PipeRecord UCHAR)}

namespace HostDriverInv

/-- What is put out by handling a message, or a request, does not release the lock. -/
theorem unreleased {pipes : HostPipes UCHAR} (h : PipesInv pipes log)
    {out : List (PipeRecord UCHAR)} (hout : ∀ status, .released status ∉ out) :
    PipesInv pipes (log ++ out) :=
  h.same ⟨fun _ => rfl, rfl, rfl, rfl⟩ (lastReset_append_same log hout)

theorem released_notMem (cs : List (Completion UCHAR ULONG)) (status : NTSTATUS) :
    PipeRecord.released status ∉ cs.map PipeRecord.completed := by
  intro hmem
  obtain ⟨c, -, heq⟩ := List.mem_map.1 hmem
  cases heq

/-- A request that is answered, or from then on in flight. -/
theorem handled (hinv : HostDriverInv s log) {messages : HostContext UCHAR ULONG}
    {h : List (StatusRecord ULONG)} (hh : HostHistory h messages) {request : WdfRequest UCHAR}
    {cs : List (Completion UCHAR ULONG)}
    (hids : ∀ i, [request.id].count i + s.messages.waitingIds.count i =
      (requestIds cs).count i + messages.waitingIds.count i) :
    HostDriverInv { s with messages } (log ++ .dispatched request :: cs.map .completed) := by
  refine ⟨unreleased hinv.pipes ?_, ⟨h, hh⟩, ?_⟩
  · intro status hmem
    rcases List.mem_cons.1 hmem with heq | hmem
    · cases heq
    · exact released_notMem cs status hmem
  · intro i
    have hledger := hinv.ledger i
    have hi := hids i
    have hdispatched : dispatchedIds (.dispatched request :: cs.map PipeRecord.completed) =
        [request.id] := congrArg (request.id :: ·) (dispatchedIds_completed cs)
    have hcompleted : completedIds (.dispatched request :: cs.map PipeRecord.completed) =
        requestIds cs := completedIds_completed cs
    simp only [dispatchedIds_append, completedIds_append, hdispatched, hcompleted,
      HostDriver.inFlight, List.count_append] at hledger ⊢
    omega

/-- What is put out at the pipes. -/
theorem pipes_step (hinv : HostDriverInv s log) {e : PipesEvent UCHAR} {pipes : HostPipes UCHAR}
    {out : List (PipeRecord UCHAR)} (hacc : s.pipes.accepts e = true)
    (hhandle : pipesHandle s.pipes e = some (pipes, out)) :
    HostDriverInv { s with pipes } (log ++ out) := by
  refine ⟨hinv.pipes.step hacc hhandle, hinv.messages, ?_⟩
  intro i
  have hledger := hinv.ledger i
  have hbalanced := balanced_step hacc hhandle i
  simp only [dispatchedIds_append, completedIds_append, HostDriver.inFlight,
    List.count_append] at hledger ⊢
  omega

theorem control (hinv : HostDriverInv s log) (hd0 : s.pipes.power = .d0)
    (request : WdfRequest UCHAR) (ioControlCode : ULONG) (o : ControlOutcomes) :
    HostDriverInv (osrFxEvtIoDeviceControl usbDevice request ioControlCode o s).1
      (log ++ .dispatched request ::
        (osrFxEvtIoDeviceControl usbDevice request ioControlCode o s).2.map .completed) := by
  obtain ⟨h, hh⟩ := hinv.messages
  unfold osrFxEvtIoDeviceControl
  split
  · refine hinv.handled hh ?_
    intro i
    rw [requestIds, List.map_singleton, osrGetConfigDescriptor_request]
  split
  · exact hinv.pipes_step (e := .resetDevice request) (decide_eq_true hd0) rfl
  split
  · exact hinv.handled (hh.get request o.retrieve o.forward)
      (osrGetInterruptMessage_ids request o.retrieve o.forward s.messages)
  · exact hinv.handled hh fun _ => rfl

/-- **One event.** -/
theorem step (hinv : HostDriverInv s log) {e : HostDriverEvent} {out : List (PipeRecord UCHAR)}
    (hstep : hostDriverStep usbDevice s e = some (s', out)) : HostDriverInv s' (log ++ out) := by
  obtain ⟨hacc, hhandle⟩ := hostDriverStep_eq_some.1 hstep
  cases e with
  | deviceControl request ioControlCode o =>
    obtain ⟨rfl, rfl⟩ := Prod.mk.inj (Option.some.inj hhandle)
    exact hinv.control (of_decide_eq_true hacc) request ioControlCode o
  | pipes e =>
    obtain ⟨⟨pipes, out⟩, hpipes, heq⟩ := Option.map_eq_some_iff.1 hhandle
    obtain ⟨rfl, rfl⟩ := Prod.mk.inj heq
    refine hinv.pipes_step ?_ hpipes
    cases e with
    | resetDevice request => cases hacc
    | _ => exact hacc
  | messages e =>
    obtain ⟨⟨messages, cs⟩, hmessages, heq⟩ := Option.map_eq_some_iff.1 hhandle
    obtain ⟨rfl, rfl⟩ := Prod.mk.inj heq
    obtain ⟨h, hh⟩ := hinv.messages
    have hget : ∀ r o f, e ≠ .get r o f := by
      rintro r o f rfl
      cases hacc
    refine ⟨unreleased hinv.pipes (released_notMem cs), ⟨_, hh.step hmessages⟩, ?_⟩
    intro i
    have hledger := hinv.ledger i
    have hids := hostStep_ids hh hget hmessages i
    simp only [dispatchedIds_append, completedIds_append, dispatchedIds_completed,
      completedIds_completed, HostDriver.inFlight, List.count_append, List.append_nil]
      at hledger ⊢
    omega

end HostDriverInv

theorem hostDriverRun_inv {t : List HostDriverEvent}
    (h : hostDriverRun usbDevice t = some (s, log)) : HostDriverInv s log := by
  refine run_invariant (P := fun _ q => HostDriverInv q.1 q.2) hostDriverInv_init ?_ h
  rintro - ⟨s, log⟩ e ⟨s', log'⟩ - hinv hlog
  obtain ⟨out, hstep, rfl⟩ := logged_eq_some.1 hlog
  exact hinv.step hstep

theorem HostDriverInv.perm (hinv : HostDriverInv s log) :
    (dispatchedIds log).Perm (completedIds log ++ s.inFlight) := by
  refine List.perm_iff_count.2 ?_
  intro i
  rw [List.count_append, hinv.ledger i]

/-- **Every request is answered once**: what the driver was given, in reads, writes and I/O controls
of any code, it has completed or still has. -/
theorem hostDriver_answered {t : List HostDriverEvent}
    (h : hostDriverRun usbDevice t = some (s, log)) :
    (dispatchedIds log).Perm (completedIds log ++ s.inFlight) :=
  (hostDriverRun_inv h).perm

/-! ## Removal -/

/-- A step of the driver, or of the framework while it removes the device; `o` is what the framework
answers. -/
def RemovalStep (o : HostPipes UCHAR → PipeOutcome) (s : HostDriver) : HostDriverEvent → Prop
  | .pipes (.transferred _ status _) => status = statusCancelled
  | .pipes e => OwnStep o s.pipes e
  | .messages (.selfManagedIoFlush _) => True
  | .deviceControl _ _ _ | .messages _ => False

/-- A run from a state by such steps. -/
def Removes (usbDevice : UsbTargetDevice) (o : HostPipes UCHAR → PipeOutcome)
    (q q' : HostDriver × List (PipeRecord UCHAR)) : Prop :=
  ∃ t, run (logged (hostDriverStep usbDevice)) q t = some q' ∧
    Along (fun q e => RemovalStep o q.1 e) (logged (hostDriverStep usbDevice)) q t

variable {o : HostPipes UCHAR → PipeOutcome}

theorem Removes.trans {q q₁ q' : HostDriver × List (PipeRecord UCHAR)}
    (h : Removes usbDevice o q q₁) (h' : Removes usbDevice o q₁ q') :
    Removes usbDevice o q q' := by
  obtain ⟨t, hrun, halong⟩ := h
  obtain ⟨t', hrun', halong'⟩ := h'
  refine ⟨t ++ t', ?_, (along_append hrun).2 ⟨halong, halong'⟩⟩
  rw [run_append, hrun, Option.bind_some, hrun']

theorem Removes.refl (q : HostDriver × List (PipeRecord UCHAR)) : Removes usbDevice o q q :=
  ⟨[], rfl, trivial⟩

theorem Removes.one {e : HostDriverEvent} {out : List (PipeRecord UCHAR)}
    (hstep : hostDriverStep usbDevice s e = some (s', out)) (hown : RemovalStep o s e) :
    Removes usbDevice o (s, log) (s', log ++ out) := by
  have hlogged : logged (hostDriverStep usbDevice) (s, log) e = some (s', log ++ out) :=
    logged_eq_some.2 ⟨out, hstep, rfl⟩
  refine ⟨[e], ?_, hown, fun _ _ => trivial⟩
  rw [run_cons, hlogged]
  rfl

theorem Removes.inv {q' : HostDriver × List (PipeRecord UCHAR)} (hinv : HostDriverInv s log)
    (h : Removes usbDevice o (s, log) q') : HostDriverInv q'.1 q'.2 := by
  obtain ⟨t, hrun, -⟩ := h
  refine run_invariant (P := fun _ q => HostDriverInv q.1 q.2) hinv ?_ hrun
  rintro - ⟨s, log⟩ e ⟨s', log'⟩ - hinv hlog
  obtain ⟨out, hstep, rfl⟩ := logged_eq_some.1 hlog
  exact hinv.step hstep

variable (usbDevice)

/-- What the pipes do on their own, the driver does. -/
theorem Removes.pipes {t : List (PipesEvent UCHAR)} {plog plog' : List (PipeRecord UCHAR)}
    {pipes : HostPipes UCHAR}
    (hrun : run (logged pipesStep) (s.pipes, plog) t = some (pipes, plog'))
    (hown : Along (fun q e => OwnStep o q.1 e) (logged pipesStep) (s.pipes, plog) t)
    (log : List (PipeRecord UCHAR)) :
    ∃ log', Removes usbDevice o (s, log) ({ s with pipes }, log') := by
  induction t generalizing s plog log with
  | nil =>
    cases hrun
    exact ⟨log, .refl _⟩
  | cons e t ih =>
    obtain ⟨⟨pipes₁, plog₁⟩, hfirst, hrest⟩ := Option.bind_eq_some_iff.1 hrun
    obtain ⟨out, hstep, rfl⟩ := logged_eq_some.1 hfirst
    obtain ⟨hacc, hhandle⟩ := pipesStep_eq_some.1 hstep
    obtain ⟨log', hremoves⟩ := ih (s := { s with pipes := pipes₁ }) hrest
      (hown.2 _ hfirst) (log ++ out)
    have hstep' : hostDriverStep usbDevice s (.pipes e) =
        some ({ s with pipes := pipes₁ }, out) := by
      refine hostDriverStep_eq_some.2 ⟨?_, ?_⟩
      · cases e with
        | resetDevice request => exact absurd hown.1 id
        | _ => exact hacc
      · rw [hostDriverHandle, hhandle]
        rfl
    have hown' : RemovalStep o s (.pipes e) := by
      cases e with
      | transferred pipe status length => exact absurd hown.1 id
      | _ => exact hown.1
    exact ⟨log', (Removes.one hstep' hown').trans hremoves⟩

/-- The framework cancels what is pending at a pipe. -/
theorem Removes.cancel (o : HostPipes UCHAR → PipeOutcome) (s : HostDriver)
    (log : List (PipeRecord UCHAR)) (pipe : HostPipe) :
    ∃ s' log', Removes usbDevice o (s, log) (s', log') ∧
      (s'.pipes.targets pipe).pending = none ∧
      (∀ q, q ≠ pipe → s'.pipes.targets q = s.pipes.targets q) ∧
      s'.pipes.resets = s.pipes.resets ∧ s'.pipes.power = s.pipes.power := by
  cases hpending : (s.pipes.targets pipe).pending with
  | none => exact ⟨s, log, .refl _, hpending, fun _ _ => rfl, rfl, rfl⟩
  | some request =>
    have hstep : hostDriverStep usbDevice s (.pipes (.transferred pipe statusCancelled 0)) =
        some ({ s with pipes := (s.pipes.completePending pipe statusCancelled 0).1 },
          (s.pipes.completePending pipe statusCancelled 0).2) := by
      refine hostDriverStep_eq_some.2 ⟨?_, rfl⟩
      simp [HostDriver.accepts, HostPipes.accepts, hpending]
    refine ⟨_, _, .one hstep rfl, ?_⟩
    simp only [HostPipes.completePending, hpending, HostPipes.setTarget]
    refine ⟨by rw [Function.update_self], ?_, trivial, trivial⟩
    intro q hq
    exact Function.update_of_ne hq _ _

/-- The device leaves D0, unless it has. -/
theorem HostDriverInv.asleep (hinv : HostDriverInv s log) (o : HostPipes UCHAR → PipeOutcome) :
    ∃ s' log', Removes usbDevice o (s, log) (s', log') ∧ s'.pipes.power ≠ .d0 ∧
      s'.pipes.resets = [] := by
  by_cases hd0 : s.pipes.power = .d0
  · obtain ⟨t, pipes, plog, hrun, hown, hoff, hnil⟩ := hinv.pipes.sleep hd0 o
    obtain ⟨log', hremoves⟩ := Removes.pipes usbDevice hrun hown log
    refine ⟨_, log', hremoves, ?_, hnil⟩
    intro hpower
    cases hoff.symm.trans hpower
  · exact ⟨s, log, .refl _, hd0, (hinv.pipes.asleep hd0).1⟩

/-- The framework cancels what is pending at all pipes. -/
theorem Removes.cancelAll (o : HostPipes UCHAR → PipeOutcome) (s : HostDriver)
    (log : List (PipeRecord UCHAR)) :
    ∃ s' log', Removes usbDevice o (s, log) (s', log') ∧
      (∀ pipe, (s'.pipes.targets pipe).pending = none) ∧
      s'.pipes.resets = s.pipes.resets ∧ s'.pipes.power = s.pipes.power := by
  obtain ⟨s₁, log₁, h₁, hintr, -, hresets₁, hpower₁⟩ :=
    Removes.cancel usbDevice o s log .interrupt
  obtain ⟨s₂, log₂, h₂, hread, hother₂, hresets₂, hpower₂⟩ :=
    Removes.cancel usbDevice o s₁ log₁ .bulkRead
  obtain ⟨s₃, log₃, h₃, hwrite, hother₃, hresets₃, hpower₃⟩ :=
    Removes.cancel usbDevice o s₂ log₂ .bulkWrite
  refine ⟨s₃, log₃, h₁.trans (h₂.trans h₃), ?_, hresets₃.trans (hresets₂.trans hresets₁),
    hpower₃.trans (hpower₂.trans hpower₁)⟩
  intro pipe
  cases pipe with
  | interrupt =>
    rw [hother₃ .interrupt (by decide), hother₂ .interrupt (by decide)]
    exact hintr
  | bulkRead =>
    rw [hother₃ .bulkRead (by decide)]
    exact hread
  | bulkWrite => exact hwrite

/-- `OsrFxEvtDeviceSelfManagedIoFlush` answers what waits. -/
theorem Removes.flush (o : HostPipes UCHAR → PipeOutcome) (hinv : HostDriverInv s log)
    (hpower : s.pipes.power ≠ .d0) :
    ∃ messages log', Removes usbDevice o (s, log) ({ s with messages }, log') ∧
      messages.waitingIds = [] := by
  obtain ⟨h, hh⟩ := hinv.messages
  obtain ⟨messages, cs, hflush, hwaiting⟩ : ∃ messages cs,
      hostStep s.messages (.selfManagedIoFlush fun _ => .ok ()) = some (messages, cs) ∧
        messages.waitingIds = [] := by
    refine ⟨_, _, (hostStep_message rfl s.messages).trans (congrArg some
      (hh.message_eq ⟨statusDeviceRemoved, 0, fun _ => .ok ()⟩)), rfl⟩
  have hstep : hostDriverStep usbDevice s (.messages (.selfManagedIoFlush fun _ => .ok ())) =
      some ({ s with messages }, cs.map .completed) := by
    refine hostDriverStep_eq_some.2 ⟨decide_eq_true hpower, ?_⟩
    rw [hostDriverHandle, hflush]
    rfl
  exact ⟨messages, _, .one hstep trivial, hwaiting⟩

variable {usbDevice}

/-- **A removal answers everything**: in whatever state it comes, and whatever the framework
answers, the driver and the framework alone bring the device out of D0 and complete every request
that the driver was given, also those that wait for an interrupt message. -/
theorem hostDriver_removed {t : List HostDriverEvent}
    (h : hostDriverRun usbDevice t = some (s, log)) (o : HostPipes UCHAR → PipeOutcome) :
    ∃ s' log', Removes usbDevice o (s, log) (s', log') ∧ s'.pipes.power ≠ .d0 ∧
      s'.inFlight = [] ∧ (dispatchedIds log).Subperm (completedIds log') := by
  have hinv := hostDriverRun_inv h
  obtain ⟨s₁, log₁, h₁, hpower₁, hresets₁⟩ := hinv.asleep usbDevice o
  obtain ⟨s₂, log₂, h₂, hpending, hresets₂, hpower₂⟩ :=
    Removes.cancelAll usbDevice o s₁ log₁
  have hpower : s₂.pipes.power ≠ .d0 := hpower₂ ▸ hpower₁
  obtain ⟨messages, log', h₃, hwaiting⟩ :=
    Removes.flush usbDevice o ((h₁.trans h₂).inv hinv) hpower
  have hremoves := (h₁.trans h₂).trans h₃
  have hnone : HostDriver.inFlight { s₂ with messages } = [] := by
    rw [HostDriver.inFlight, hwaiting]
    simp [HostPipes.inFlight, IoTarget.pendingIds, hpending, hresets₂, hresets₁]
  refine ⟨_, log', hremoves, hpower, hnone, ?_⟩
  -- what was given before is part of what was given, and all of that is completed
  have hperm := (hremoves.inv hinv).perm
  rw [hnone, List.append_nil] at hperm
  obtain ⟨t', hrun, -⟩ := hremoves
  obtain ⟨out, hout⟩ := logged_take hrun
  have hsub : (dispatchedIds log).Sublist (dispatchedIds (log ++ out)) := by
    rw [dispatchedIds_append]
    exact List.sublist_append_left _ _
  rw [hout] at hsub
  exact hsub.subperm.trans hperm.subperm

end Step

/-- A configuration descriptor and nothing else. -/
def mereDevice : UsbTargetDevice where
  configDescriptor := [9, 2, 9, 0, 0, 1, 0, 0x80, 50]
  standard_le := by decide
  wTotalLength_eq := by decide

def controlOk : ControlOutcomes :=
  ⟨⟨.ok (), .ok (), .ok ()⟩, .ok (), ⟨false, ⟨statusCancelled, rfl⟩⟩⟩

/-- A read, a reset that has the lock, a request for an interrupt message, one for the descriptor
and one with a code that the driver does not know. -/
def busyDriver : List HostDriverEvent :=
  [.pipes (.d0Entry (.ok ())), .pipes (.read ⟨0, .read, [0, 0]⟩ (.ok ())),
    .deviceControl ⟨1, .ioctl, []⟩ ioctlOsrusbfx2ResetDevice controlOk,
    .pipes (.resetNext 0 canceling),
    .deviceControl ⟨2, .ioctl, [0, 0, 0, 0]⟩ ioctlOsrusbfx2GetInterruptMessage controlOk,
    .deviceControl ⟨3, .ioctl, .replicate 9 0⟩ ioctlOsrusbfx2GetConfigDescriptor controlOk,
    .deviceControl ⟨4, .ioctl, []⟩ 0 controlOk]

theorem busyDriver_answered : ∃ s log, hostDriverRun mereDevice busyDriver = some (s, log) ∧
    s.inFlight = [0, 1, 2] ∧ (dispatchedIds log).Perm (completedIds log ++ [0, 1, 2]) := by
  obtain ⟨⟨s, log⟩, hrun, hflight⟩ : ∃ q, hostDriverRun mereDevice busyDriver = some q ∧
      q.1.inFlight = [0, 1, 2] := ⟨_, rfl, rfl⟩
  exact ⟨s, log, hrun, hflight, hflight ▸ hostDriver_answered hrun⟩

theorem busyDriver_removed : ∃ s log, hostDriverRun mereDevice busyDriver = some (s, log) ∧
    ∃ s' log', Removes mereDevice (fun _ => canceling) (s, log) (s', log') ∧
      s'.inFlight = [] := by
  obtain ⟨⟨s, log⟩, hrun⟩ : ∃ q, hostDriverRun mereDevice busyDriver = some q := ⟨_, rfl⟩
  obtain ⟨s', log', hremoves, -, hnone, -⟩ := hostDriver_removed hrun fun _ => canceling
  exact ⟨s, log, hrun, s', log', hremoves, hnone⟩

end UdeSample
