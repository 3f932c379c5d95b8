import UdeSample.Host.Ioctl
import UdeSample.Lib.Loop
import UdeSample.Lib.Run

/-!
# The interrupt status of the host driver and its history

`OsrUsbIoctlGetInterruptMessage` is given once more with its two loops as they are written; both
end, and what they do is what `osrUsbIoctlGetInterruptMessage` computes. Over any run of requests,
updates, reader failures, cancellations and the flush of the self-managed I/O, the cached status is
the last of the updates since the cache was last emptied, their number is the counter up to its
bound, and no request waits while an update is cached (`hostHistory_run`).
-/

namespace UdeSample

open Lib

variable {β F : Type}

/-! ## The loops of `OsrUsbIoctlGetInterruptMessage` -/

/-- `WdfIoQueueRetrieveNextRequest` with its status. -/
def wdfIoQueueRetrieveNextRequestStatus (queue : WdfQueue β) :
    NtResult (WdfRequest β) × WdfQueue β :=
  match queue.requests with
  | [] => (.error ⟨statusNoMoreEntries, statusNoMoreEntries_failed⟩, queue)
  | r :: rs =>
    if queue.dispatching then (.ok r, { queue with requests := rs })
    else (.error ⟨statusWdfPaused, statusWdfPaused_failed⟩, queue)

/-- The variables of the loops: the status of the last retrieval with the request it found, the
queue, and the requests completed so far. -/
structure DrainState (β F : Type) where
  retrieved : NtResult (WdfRequest β)
  interruptMsgQueue : WdfQueue β
  completions : List (Completion β F)

def DrainState.status (s : DrainState β F) : NTSTATUS := s.retrieved.status

/-- The body of the first loop. -/
def osrDrainBody (complete : WdfRequest β → Completion β F) (s : DrainState β F) :
    DrainState β F :=
  match s.retrieved with
  | .error _ => s
  | .ok request =>
    let (retrieved, interruptMsgQueue) := wdfIoQueueRetrieveNextRequestStatus s.interruptMsgQueue
    { retrieved, interruptMsgQueue, completions := s.completions ++ [complete request] }

/-- The two loops; the second one has no body. -/
def osrDrainLoops (complete : WdfRequest β → Completion β F) (bound : Nat) (s : DrainState β F) :
    Option (DrainState β F) :=
  (whileLoop (fun s => ntSuccess s.status) (osrDrainBody complete) bound s).bind
    (whileLoop (fun s => s.status == statusSuccess) id bound)

/-- `OsrUsbIoctlGetInterruptMessage` with at most `bound` iterations of each loop. -/
def osrUsbIoctlGetInterruptMessageLoops [Zero F] (bound : Nat) (readerStatus : NTSTATUS)
    (newDeviceFlags : F) (retrieve : WdfRequest β → NtResult Unit) (host : HostContext β F) :
    Option (HostContext β F × List (Completion β F)) :=
  let (retrieved, interruptMsgQueue) :=
    wdfIoQueueRetrieveNextRequestStatus host.interruptMsgQueue
  let interruptStatus := osrUpdateStatus (ntSuccess retrieved.status) readerStatus newDeviceFlags
    host.interruptStatus
  (osrDrainLoops (fun r => osrCompleteInterruptRequest r readerStatus newDeviceFlags (retrieve r))
    bound { retrieved, interruptMsgQueue, completions := [] }).map fun s =>
      ({ interruptMsgQueue := s.interruptMsgQueue, interruptStatus }, s.completions)

/-- The requests the loops still have to complete. -/
def DrainState.pending (s : DrainState β F) : List (WdfRequest β) :=
  match s.retrieved with
  | .error _ => []
  | .ok request => request :: s.interruptMsgQueue.requests

/-- The variables when `done` is completed and `pending` is still to be completed. -/
def drainState (complete : WdfRequest β → Completion β F) (queue : WdfQueue β)
    (done pending : List (WdfRequest β)) : DrainState β F :=
  let (retrieved, interruptMsgQueue) :=
    wdfIoQueueRetrieveNextRequestStatus { queue with requests := pending }
  { retrieved, interruptMsgQueue, completions := done.map complete }

section

variable (complete : WdfRequest β → Completion β F) {queue : WdfQueue β}

theorem drainState_pending (hd : queue.dispatching = true) (done pending : List (WdfRequest β)) :
    (drainState complete queue done pending).pending = pending := by
  cases pending with
  | nil => rfl
  | cons r rs => simp [drainState, wdfIoQueueRetrieveNextRequestStatus, hd, DrainState.pending]

theorem drainState_status (hd : queue.dispatching = true) (done pending : List (WdfRequest β)) :
    ntSuccess (drainState complete queue done pending).status = !pending.isEmpty := by
  cases pending with
  | nil => rfl
  | cons r rs =>
    simp only [drainState, wdfIoQueueRetrieveNextRequestStatus, hd, DrainState.status, if_true]
    rfl

theorem osrDrainBody_drainState (hd : queue.dispatching = true) (done : List (WdfRequest β))
    (r : WdfRequest β) (rs : List (WdfRequest β)) :
    osrDrainBody complete (drainState complete queue done (r :: rs)) =
      drainState complete queue (done ++ [r]) rs := by
  simp [drainState, osrDrainBody, wdfIoQueueRetrieveNextRequestStatus, hd]

/-- After a failed retrieval neither loop is entered. -/
theorem osrDrainLoops_of_failed {s : DrainState β F} (h : ntSuccess s.status = false)
    (bound : Nat) : osrDrainLoops complete bound s = some s := by
  have hne : s.status ≠ statusSuccess := ne_statusSuccess h
  have hfirst : whileLoop (fun s : DrainState β F => ntSuccess s.status) (osrDrainBody complete)
      bound s = some s := by
    apply whileLoop_of_false
    exact h
  rw [osrDrainLoops, hfirst, Option.bind_some]
  apply whileLoop_of_false
  simpa using hne

/-- The invariant of the first loop: some of the requests `rs` are completed, the others wait. -/
def Draining (complete : WdfRequest β → Completion β F) (queue : WdfQueue β)
    (rs : List (WdfRequest β)) (s : DrainState β F) : Prop :=
  ∃ done pending, done ++ pending = rs ∧ s = drainState complete queue done pending

theorem osrDrainBody_draining (hd : queue.dispatching = true) {rs : List (WdfRequest β)}
    {s : DrainState β F} (h : Draining complete queue rs s) (hstatus : ntSuccess s.status = true) :
    Draining complete queue rs (osrDrainBody complete s) ∧
      (osrDrainBody complete s).pending.length < s.pending.length := by
  obtain ⟨done, pending, hsplit, rfl⟩ := h
  rw [drainState_status complete hd] at hstatus
  cases pending with
  | nil => cases hstatus
  | cons r rest =>
    rw [osrDrainBody_drainState complete hd, drainState_pending complete hd,
      drainState_pending complete hd]
    exact ⟨⟨done ++ [r], rest, by simpa using hsplit, rfl⟩, Nat.lt_succ_self _⟩

/-- The second loop is never entered. -/
theorem osrDrainLoops_eq (hd : queue.dispatching = true) (rs : List (WdfRequest β)) {bound : Nat}
    (hbound : rs.length ≤ bound) :
    osrDrainLoops complete bound (drainState complete queue [] rs) =
      some (drainState complete queue rs []) := by
  have hfirst : ∃ s, whileLoop (fun s : DrainState β F => ntSuccess s.status)
      (osrDrainBody complete) bound (drainState complete queue [] rs) = some s ∧
      Draining complete queue rs s ∧ ntSuccess s.status = false := by
    refine whileLoop_total (Draining complete queue rs) (fun s => s.pending.length)
      (fun s => osrDrainBody_draining complete hd) ⟨[], rs, rfl, rfl⟩ ?_
    rwa [drainState_pending complete hd]
  obtain ⟨s, hloop, ⟨done, pending, hsplit, rfl⟩, hcond⟩ := hfirst
  have hnil : pending = [] := by
    rw [drainState_status complete hd] at hcond
    simpa using hcond
  subst hnil
  rw [List.append_nil] at hsplit
  subst hsplit
  rw [osrDrainLoops, hloop, Option.bind_some]
  exact whileLoop_of_false rfl bound

end

/-- **Both loops end**, and the call does what `osrUsbIoctlGetInterruptMessage` computes, in any
state of the driver. -/
theorem osrUsbIoctlGetInterruptMessageLoops_eq [Zero F] (readerStatus : NTSTATUS) (v : F)
    (retrieve : WdfRequest β → NtResult Unit) (host : HostContext β F) {bound : Nat}
    (hbound : host.interruptMsgQueue.requests.length ≤ bound) :
    osrUsbIoctlGetInterruptMessageLoops bound readerStatus v retrieve host =
      some (osrUsbIoctlGetInterruptMessage readerStatus v retrieve host) := by
  cases hd : host.interruptMsgQueue.dispatching with
  | true =>
    have hloops := osrDrainLoops_eq
      (fun r => osrCompleteInterruptRequest r readerStatus v (retrieve r)) hd _ hbound
    have hentry := drainState_status
      (fun r => osrCompleteInterruptRequest r readerStatus v (retrieve r)) hd []
      host.interruptMsgQueue.requests
    simp only [drainState, DrainState.status, List.map_nil] at hloops hentry
    simp only [osrUsbIoctlGetInterruptMessageLoops, hloops, hentry, Option.map_some]
    by_cases hnil : host.interruptMsgQueue.requests = []
    · rw [osrUsbIoctlGetInterruptMessage_idle hnil]
      obtain ⟨⟨rs, acc, dis, api⟩, st⟩ := host
      obtain rfl : rs = [] := hnil
      rfl
    · rw [osrUsbIoctlGetInterruptMessage_waiting hd hnil]
      have hne : host.interruptMsgQueue.requests.isEmpty = false := by simpa using hnil
      simp [hne, wdfIoQueueRetrieveNextRequestStatus]
  | false =>
    have hfail : ∃ e, wdfIoQueueRetrieveNextRequestStatus host.interruptMsgQueue =
        (.error e, host.interruptMsgQueue) := by
      unfold wdfIoQueueRetrieveNextRequestStatus
      cases host.interruptMsgQueue.requests with
      | nil => exact ⟨_, rfl⟩
      | cons r rs =>
        refine ⟨⟨statusWdfPaused, statusWdfPaused_failed⟩, ?_⟩
        simp [hd]
    obtain ⟨e, he⟩ := hfail
    have htake : osrTakeWaiter host = none := by
      unfold osrTakeWaiter wdfIoQueueRetrieveNextRequest
      cases host.interruptMsgQueue.requests with
      | nil => rfl
      | cons r rs => simp [hd]
    have hloops := osrDrainLoops_of_failed
      (fun r => osrCompleteInterruptRequest r readerStatus v (retrieve r))
      (s := ⟨.error e, host.interruptMsgQueue, []⟩) e.failed bound
    simp only [osrUsbIoctlGetInterruptMessageLoops, he, osrUsbIoctlGetInterruptMessage, htake,
      hloops, NtResult.status, e.failed, Option.map_some]

/-! ## Runs of the host driver -/

/-- `OsrFxEvtDeviceSelfManagedIoFlush` -/
def osrFxEvtDeviceSelfManagedIoFlush [Zero F] (retrieve : WdfRequest β → NtResult Unit)
    (host : HostContext β F) : HostContext β F × List (Completion β F) :=
  osrUsbIoctlGetInterruptMessage statusDeviceRemoved 0 retrieve host

inductive HostEvent (β F : Type) where
  | get (request : WdfRequest β) (retrieve : NtResult Unit) (forward : ForwardOutcome)
  | readComplete (numBytesTransferred : Nat) (newFlags : F)
    (retrieve : WdfRequest β → NtResult Unit)
  | readersFailed (status : NTSTATUS) (retrieve : WdfRequest β → NtResult Unit)
  | selfManagedIoFlush (retrieve : WdfRequest β → NtResult Unit)
  | cancel (i : Nat)

def hostStep [Zero F] (host : HostContext β F) :
    HostEvent β F → Option (HostContext β F × List (Completion β F))
  | .get request retrieve forward => some (osrGetInterruptMessage request retrieve forward host)
  | .readComplete numBytesTransferred newFlags retrieve =>
    some (osrFxEvtUsbInterruptPipeReadComplete numBytesTransferred newFlags retrieve host)
  | .readersFailed status retrieve => some (osrFxEvtUsbInterruptReadersFailed status retrieve host)
  | .selfManagedIoFlush retrieve => some (osrFxEvtDeviceSelfManagedIoFlush retrieve host)
  | .cancel i =>
    (host.interruptMsgQueue.cancel i).map fun (request, interruptMsgQueue) =>
      ({ host with interruptMsgQueue }, [host.interruptMsgQueue.canceled request])

/-- The arguments of `OsrUsbIoctlGetInterruptMessage`, and what the framework answers for the
buffers. -/
structure InterruptMessage (β F : Type) where
  readerStatus : NTSTATUS
  newDeviceFlags : F
  retrieve : WdfRequest β → NtResult Unit

/-- The call of `OsrUsbIoctlGetInterruptMessage` that an event makes. -/
def HostEvent.message [Zero F] : HostEvent β F → Option (InterruptMessage β F)
  | .readComplete n v retrieve => if n = 0 then none else some ⟨statusSuccess, v, retrieve⟩
  | .readersFailed status retrieve => some ⟨status, 0, retrieve⟩
  | .selfManagedIoFlush retrieve => some ⟨statusDeviceRemoved, 0, retrieve⟩
  | .get _ _ _ | .cancel _ => none

/-- What an event does to the cached update. -/
inductive StatusRecord (F : Type) where
  | updated (newDeviceFlags : F)
  | emptied
deriving DecidableEq

/-- The records of an event: a successful update is cached or consumed by a waiting request, any
failure but a cancellation erases the cache, and a request takes what is cached. -/
def statusRecords [Zero F] (host : HostContext β F) (e : HostEvent β F) : List (StatusRecord F) :=
  match e.message with
  | some message =>
    if ntSuccess message.readerStatus then
      if (osrTakeWaiter host).isSome then [.updated message.newDeviceFlags, .emptied]
      else [.updated message.newDeviceFlags]
    else if message.readerStatus ≠ statusCancelled then [.emptied]
    else []
  | none =>
    match e with
    | .get _ _ _ => if (osrTakeUpdate host).1.isSome then [.emptied] else []
    | _ => []

def hostRecorded [Zero F] (host : HostContext β F) (e : HostEvent β F) :
    Option (HostContext β F × List (StatusRecord F)) :=
  (hostStep host e).map fun (host', _) => (host', statusRecords host e)

/-- The run of a list of events with its records. -/
def hostRun [Zero F] (t : List (HostEvent β F)) :
    Option (HostContext β F × List (StatusRecord F)) :=
  run (logged hostRecorded) (hostContextCreated, []) t

def StatusRecord.next (updates : List F) : StatusRecord F → List F
  | updated v => updates ++ [v]
  | emptied => []

/-- The successful updates since the cache was last emptied. -/
def updatesSinceEmptied (h : List (StatusRecord F)) : List F := h.foldl StatusRecord.next []

/-- What a waiting request is completed with: the status and the value of the reader, or the error
of its buffer. -/
def AnsweredBy (message : InterruptMessage β F) (r : WdfRequest β) (c : Completion β F) : Prop :=
  c.request = r ∧ c.api = .wdfRequest ∧
  match message.retrieve r with
  | .error e => c.status = e.status
  | .ok () =>
    if r.buffer.length < sizeofDeviceIntrFlags then c.status = statusBufferTooSmall
    else c.status = message.readerStatus ∧
      c.data = if ntSuccess message.readerStatus then .flags message.newDeviceFlags else .none

theorem osrCompleteInterruptRequest_answeredBy (message : InterruptMessage β F)
    (r : WdfRequest β) :
    AnsweredBy message r (osrCompleteInterruptRequest r message.readerStatus
      message.newDeviceFlags (message.retrieve r)) := by
  unfold AnsweredBy osrCompleteInterruptRequest wdfRequestRetrieveBuffer
  cases message.retrieve r with
  | error e => exact ⟨rfl, rfl, rfl⟩
  | ok u =>
    by_cases hshort : r.buffer.length < sizeofDeviceIntrFlags
    · simp [hshort, completeRequest]
    · by_cases hok : ntSuccess message.readerStatus = true
      · simp [hshort, hok]
      · simp [hshort, hok, completeRequest]

/-- The cache and the queue of the host driver after a run with these records. -/
structure HostHistory [Zero F] (h : List (StatusRecord F)) (host : HostContext β F) : Prop where
  dispatching : host.interruptMsgQueue.dispatching = true
  reflects : host.interruptStatus.Reflects (updatesSinceEmptied h)
  parked : 0 < host.interruptStatus.numUnreadUpdates → host.interruptMsgQueue.requests = []

/-- An event that calls `OsrUsbIoctlGetInterruptMessage` does what that call does. -/
theorem hostStep_message [Zero F] {e : HostEvent β F} {message : InterruptMessage β F}
    (h : e.message = some message) (host : HostContext β F) :
    hostStep host e = some (osrUsbIoctlGetInterruptMessage message.readerStatus
      message.newDeviceFlags message.retrieve host) := by
  cases e with
  | get | cancel => cases h
  | readComplete n v retrieve =>
    simp only [HostEvent.message] at h
    split at h
    · cases h
    · next hn =>
      cases h
      simp [hostStep, osrFxEvtUsbInterruptPipeReadComplete, hn]
  | readersFailed | selfManagedIoFlush =>
    cases h
    rfl

/-- The state after a call of `OsrUsbIoctlGetInterruptMessage`. -/
def afterMessage [Zero F] (message : InterruptMessage β F) (host : HostContext β F) :
    HostContext β F :=
  { interruptMsgQueue := { host.interruptMsgQueue with requests := [] }
    interruptStatus := osrUpdateStatus (osrTakeWaiter host).isSome message.readerStatus
      message.newDeviceFlags host.interruptStatus }

namespace HostHistory

variable [Zero F] {h : List (StatusRecord F)} {host host' : HostContext β F}

theorem init : HostHistory ([] : List (StatusRecord F)) (hostContextCreated : HostContext β F) :=
  ⟨rfl, .cleared, fun hpos => by cases hpos⟩

theorem takeWaiter (hh : HostHistory h host) :
    (osrTakeWaiter host).isSome = !host.interruptMsgQueue.requests.isEmpty := by
  cases hrs : host.interruptMsgQueue.requests <;>
    simp [osrTakeWaiter, wdfIoQueueRetrieveNextRequest, hrs, hh.dispatching]

theorem message_eq (hh : HostHistory h host) (message : InterruptMessage β F) :
    osrUsbIoctlGetInterruptMessage message.readerStatus message.newDeviceFlags message.retrieve
      host =
      (afterMessage message host, host.interruptMsgQueue.requests.map fun r =>
        osrCompleteInterruptRequest r message.readerStatus message.newDeviceFlags
          (message.retrieve r)) := by
  rw [afterMessage, hh.takeWaiter]
  by_cases hnil : host.interruptMsgQueue.requests = []
  · rw [osrUsbIoctlGetInterruptMessage_idle hnil]
    obtain ⟨⟨rs, acc, dis, api⟩, st⟩ := host
    obtain rfl : rs = [] := hnil
    rfl
  · rw [osrUsbIoctlGetInterruptMessage_waiting hh.dispatching hnil]
    have hne : host.interruptMsgQueue.requests.isEmpty = false := by simpa using hnil
    rw [hne]
    rfl

theorem unread_eq_nil (hh : HostHistory h host)
    (hwait : host.interruptMsgQueue.requests ≠ []) : updatesSinceEmptied h = [] := by
  refine hh.reflects.updates_eq_nil (by decide) ?_
  by_contra hpos
  exact hwait (hh.parked (Nat.pos_of_ne_zero hpos))

/-- One call of `OsrUsbIoctlGetInterruptMessage`. -/
theorem message (hh : HostHistory h host) {e : HostEvent β F} {message : InterruptMessage β F}
    (he : e.message = some message) :
    HostHistory (h ++ statusRecords host e) (afterMessage message host) := by
  refine ⟨hh.dispatching, ?_, fun _ => rfl⟩
  have hreflects := hh.reflects
  unfold statusRecords afterMessage osrUpdateStatus updatesSinceEmptied at *
  rw [he]
  dsimp only
  split
  · split
    · simpa [StatusRecord.next] using DeviceIntrState.Reflects.cleared
    · simpa [StatusRecord.next] using hreflects.cache message.newDeviceFlags
  · split
    · simpa [StatusRecord.next] using DeviceIntrState.Reflects.cleared
    · simpa using hreflects

theorem get (hh : HostHistory h host) (request : WdfRequest β) (retrieve : NtResult Unit)
    (forward : ForwardOutcome) :
    HostHistory (h ++ statusRecords host (.get request retrieve forward))
      (osrGetInterruptMessage request retrieve forward host).1 := by
  unfold statusRecords osrGetInterruptMessage osrTakeUpdate
  by_cases hunread : host.interruptStatus.numUnreadUpdates > 0
  · simp only [HostEvent.message, hunread, if_true, Option.isSome_some]
    refine ⟨hh.dispatching, ?_, fun hpos => by cases hpos⟩
    simpa [updatesSinceEmptied, StatusRecord.next] using DeviceIntrState.Reflects.cleared
  · simp only [HostEvent.message, hunread, if_false, Option.isSome_none, Bool.false_eq_true,
      List.append_nil, osrDeferRequest]
    cases hfwd : wdfRequestForwardToIoQueue request host.interruptMsgQueue forward with
    | error e => exact hh
    | ok q =>
      obtain ⟨-, -, rfl⟩ := wdfRequestForwardToIoQueue_eq_ok.1 hfwd
      exact ⟨hh.dispatching, hh.reflects, fun hpos => absurd hpos hunread⟩

/-- **One event.** -/
theorem step (hh : HostHistory h host) {e : HostEvent β F} {cs : List (Completion β F)}
    (hstep : hostStep host e = some (host', cs)) :
    HostHistory (h ++ statusRecords host e) host' := by
  cases hmessage : e.message with
  | some message =>
    rw [hostStep_message hmessage, hh.message_eq] at hstep
    obtain ⟨rfl, -⟩ := Prod.mk.inj (Option.some.inj hstep)
    exact hh.message hmessage
  | none =>
    cases e with
    | get request retrieve forward =>
      obtain ⟨heq, -⟩ := Prod.mk.inj (Option.some.inj hstep)
      rw [← heq]
      exact hh.get request retrieve forward
    | readComplete n v retrieve =>
      have hn : n = 0 := by
        by_contra hne
        simp [HostEvent.message, hne] at hmessage
      simp only [hostStep, osrFxEvtUsbInterruptPipeReadComplete, hn, if_true, Option.some.injEq,
        Prod.mk.injEq] at hstep
      obtain ⟨rfl, -⟩ := hstep
      simpa [statusRecords, hmessage] using hh
    | readersFailed | selfManagedIoFlush => cases hmessage
    | cancel i =>
      obtain ⟨⟨request, q⟩, hcancel, heq⟩ := Option.map_eq_some_iff.1 hstep
      obtain ⟨rfl, -⟩ := Prod.mk.inj heq
      obtain ⟨l, m, hlm, -, rfl⟩ := WdfQueue.cancel_eq_some.1 hcancel
      have hrecords : h ++ statusRecords host (.cancel i : HostEvent β F) = h := by
        simp [statusRecords, HostEvent.message]
      rw [hrecords]
      refine ⟨hh.dispatching, hh.reflects, ?_⟩
      intro hpos
      have hnil := hh.parked hpos
      rw [hlm] at hnil
      cases l <;> cases hnil

end HostHistory

/-- **The cached status tells its history in every run**, and each call of
`OsrUsbIoctlGetInterruptMessage` ends, empties the queue and answers all requests in it. -/
theorem hostHistory_run [Zero F] {t : List (HostEvent β F)} {host : HostContext β F}
    {h : List (StatusRecord F)} (hrun : hostRun t = some (host, h)) :
    (∀ e message, e.message = some message → ∃ host' cs, hostStep host e = some (host', cs) ∧
      (∀ bound, host.interruptMsgQueue.requests.length ≤ bound →
        osrUsbIoctlGetInterruptMessageLoops bound message.readerStatus message.newDeviceFlags
          message.retrieve host = some (host', cs)) ∧
      host'.interruptMsgQueue.requests = [] ∧
      List.Forall₂ (AnsweredBy message) host.interruptMsgQueue.requests cs ∧
      (message.readerStatus = statusCancelled → host'.interruptStatus = host.interruptStatus)) ∧
    host.interruptStatus.numUnreadUpdates =
      min maxCachedIntrUpdates (updatesSinceEmptied h).length ∧
    host.interruptStatus.latestStatus = (updatesSinceEmptied h).getLast?.getD 0 ∧
    (host.interruptMsgQueue.requests ≠ [] → host.interruptStatus.numUnreadUpdates = 0) := by
  have hh : HostHistory h host := by
    refine run_invariant (P := fun _ p => HostHistory p.2 p.1) .init ?_ hrun
    intro t p e p' _ hp hstep
    obtain ⟨out, hout, hlog⟩ := logged_eq_some.1 hstep
    obtain ⟨⟨host₁, cs⟩, hs, heq⟩ := Option.map_eq_some_iff.1 hout
    obtain ⟨rfl, rfl⟩ := Prod.mk.inj heq
    rw [hlog]
    exact hp.step hs
  refine ⟨?_, hh.reflects.count, hh.reflects.latest, ?_⟩
  · intro e message he
    have heq := hh.message_eq message
    refine ⟨_, _, (hostStep_message he host).trans (congrArg some heq), ?_, rfl, ?_, ?_⟩
    · intro bound hbound
      rw [osrUsbIoctlGetInterruptMessageLoops_eq _ _ _ host hbound, heq]
    · rw [List.forall₂_map_right_iff, List.forall₂_same]
      exact fun r _ => osrCompleteInterruptRequest_answeredBy message r
    · intro hcancel
      rw [afterMessage, hcancel]
      rfl
  · intro hwait
    by_contra hpos
    exact hwait (hh.parked (Nat.pos_of_ne_zero hpos))

/-- A cached update taken by a request, and two requests that wait, one of them too short. -/
def twoWaiters : List (HostEvent UInt8 ULONG) :=
  let forward : ForwardOutcome := ⟨false, ⟨statusCancelled, statusCancelled_failed⟩⟩
  [.readComplete 4 6 fun _ => .ok (), .get ⟨0, .ioctl, [0, 0, 0, 0]⟩ (.ok ()) forward,
    .get ⟨1, .ioctl, [0, 0, 0, 0]⟩ (.ok ()) forward, .get ⟨2, .ioctl, [0]⟩ (.ok ()) forward]

theorem twoWaiters_answered : ∃ host h, hostRun twoWaiters = some (host, h) ∧
    host.interruptMsgQueue.requests.length = 2 ∧
    (∃ host' cs, hostStep host (.readComplete 4 7 fun _ => .ok ()) = some (host', cs) ∧
      host'.interruptMsgQueue.requests = [] ∧
      List.Forall₂ (AnsweredBy ⟨statusSuccess, 7, fun _ => .ok ()⟩)
        host.interruptMsgQueue.requests cs) ∧
    host.interruptStatus.numUnreadUpdates =
      min maxCachedIntrUpdates (updatesSinceEmptied h).length := by
  have h := hostHistory_run (t := twoWaiters) rfl
  obtain ⟨host', cs, hstep, -, hempty, hanswered, -⟩ :=
    h.1 (.readComplete 4 7 fun _ => .ok ()) ⟨statusSuccess, 7, fun _ => .ok ()⟩ rfl
  exact ⟨_, _, rfl, rfl, ⟨host', cs, hstep, hempty, hanswered⟩, h.2.1⟩

end UdeSample
