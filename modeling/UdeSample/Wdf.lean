import Mathlib.Data.List.Basic
import Mathlib.Data.UInt

/-!
# The driver framework as the two drivers use it

Status codes, requests with their transfer buffers, manual queues, and request completion. The
framework is not part of the repository: what a call may answer is an argument of the model
(`NtResult`, `ForwardOutcome`), and only documented behaviour is built in: a manual queue hands
out its requests in arrival order, a purged queue rejects requests until it is started, and a
retrieved buffer is the whole transfer buffer of its request.

The bytes of a buffer (`β`) and the interrupt flag word (`F`, `DEVICE_INTR_FLAGS`) are type
parameters: the drivers copy them and never look inside. They are `UCHAR` and `ULONG` in the
source; results that must tell two writes or two raises of equal value apart use tagged values.
-/

namespace UdeSample

/-! ## Status and control codes -/

/-- `NTSTATUS`: a signed 32-bit code. -/
abbrev NTSTATUS := BitVec 32

abbrev ULONG := BitVec 32

abbrev UCHAR := BitVec 8

abbrev USHORT := BitVec 16

def ntSuccess (status : NTSTATUS) : Bool := decide (0 ≤ status.toInt)

def statusSuccess : NTSTATUS := 0x00000000
def statusCancelled : NTSTATUS := 0xC0000120
def statusInvalidParameter : NTSTATUS := 0xC000000D
def statusInvalidDeviceRequest : NTSTATUS := 0xC0000010
def statusBufferTooSmall : NTSTATUS := 0xC0000023
def statusInsufficientResources : NTSTATUS := 0xC000009A
def statusIllegalFunction : NTSTATUS := 0xC00000AF
def statusInvalidBlockLength : NTSTATUS := 0xC0000173
def statusDeviceRemoved : NTSTATUS := 0xC00002B6
def statusNoMoreEntries : NTSTATUS := 0x8000001A
def statusWdfPaused : NTSTATUS := 0xC0200203

theorem statusCancelled_failed : ntSuccess statusCancelled = false := rfl

theorem statusInvalidParameter_failed : ntSuccess statusInvalidParameter = false := rfl

theorem statusBufferTooSmall_failed : ntSuccess statusBufferTooSmall = false := rfl

theorem statusNoMoreEntries_failed : ntSuccess statusNoMoreEntries = false := rfl

theorem statusWdfPaused_failed : ntSuccess statusWdfPaused = false := rfl

theorem ne_statusSuccess {status : NTSTATUS} (h : ntSuccess status = false) :
    status ≠ statusSuccess := by
  rintro rfl
  cases h

/-- A status that is not a success. -/
structure NtError where
  status : NTSTATUS
  failed : ntSuccess status = false
deriving DecidableEq

theorem NtError.not_success (e : NtError) : ntSuccess e.status ≠ true :=
  Bool.eq_false_iff.1 e.failed

/-- What a framework call answers: a value, or an error status. -/
abbrev NtResult (α : Type) := Except NtError α

def NtResult.status {α : Type} : NtResult α → NTSTATUS
  | .ok _ => statusSuccess
  | .error e => e.status

def ctlCode (deviceType function method access : ULONG) : ULONG :=
  (deviceType <<< 16) ||| (access <<< 14) ||| (function <<< 2) ||| method

/-- `IOCTL_INTERNAL_USB_SUBMIT_URB` (`FILE_DEVICE_USB`, function 0, `METHOD_NEITHER`). -/
def ioctlInternalUsbSubmitUrb : ULONG := ctlCode 0x22 0 3 0

/-! ## Requests -/

/-- Where a request comes from: one of the four endpoint queues of the emulated device, or the
default queue of a driver. -/
inductive RequestSource where
  | control
  | bulkOut
  | bulkIn
  | interruptIn
  | read
  | write
  | ioctl
deriving DecidableEq, Repr

/-- A request handle with its transfer buffer: the data of a write, the room of a read. -/
structure WdfRequest (β : Type) where
  id : Nat
  source : RequestSource
  buffer : List β
deriving DecidableEq

variable {β F : Type}

/-- `WdfRequestRetrieveInputBuffer` and `WdfRequestRetrieveOutputBuffer`: `o` is what the framework
answers, apart from the check of the minimum size. -/
def wdfRequestRetrieveBuffer (request : WdfRequest β) (minimumRequired : Nat) (o : NtResult Unit) :
    NtResult (List β) :=
  match o with
  | .error e => .error e
  | .ok () =>
    if request.buffer.length < minimumRequired then
      .error ⟨statusBufferTooSmall, statusBufferTooSmall_failed⟩
    else .ok request.buffer

def udecxUrbRetrieveBuffer (request : WdfRequest β) (o : NtResult Unit) : NtResult (List β) :=
  o.map fun _ => request.buffer

theorem udecxUrbRetrieveBuffer_eq_ok {r : WdfRequest β} {o : NtResult Unit} {b : List β}
    (h : udecxUrbRetrieveBuffer r o = .ok b) : b = r.buffer := by
  cases o with
  | error e => cases h
  | ok u => exact (Except.ok.inj h).symm

theorem wdfRequestRetrieveBuffer_eq_ok {r : WdfRequest β} {m : Nat} {o : NtResult Unit}
    {b : List β} (h : wdfRequestRetrieveBuffer r m o = .ok b) : b = r.buffer := by
  unfold wdfRequestRetrieveBuffer at h
  split at h
  · cases h
  · split at h
    · cases h
    · exact (Except.ok.inj h).symm

/-! ## Request completion -/

/-- The family of calls a request is completed through. -/
inductive CompletionApi where
  /-- `UdecxUrbCompleteWithNtStatus` -/
  | udecxUrb
  /-- `WdfRequestComplete`, `WdfRequestCompleteWithInformation` -/
  | wdfRequest
deriving DecidableEq, Repr

/-- What was copied into the buffer of a request before it was completed. -/
inductive Transfer (β F : Type) where
  | none
  | bytes (bs : List β)
  | flags (f : F)
deriving DecidableEq

/-- A completed request: how, with which status and byte count, and what its buffer received. -/
structure Completion (β F : Type) where
  request : WdfRequest β
  api : CompletionApi
  status : NTSTATUS
  information : Nat
  data : Transfer β F
deriving DecidableEq

def completeRequest (api : CompletionApi) (request : WdfRequest β) (status : NTSTATUS)
    (information : Nat) : Completion β F :=
  { request, api, status, information, data := .none }

@[simp] theorem completeRequest_request (api : CompletionApi) (r : WdfRequest β) (st : NTSTATUS)
    (n : Nat) : (completeRequest api r st n : Completion β F).request = r := rfl

@[simp] theorem completeRequest_status (api : CompletionApi) (r : WdfRequest β) (st : NTSTATUS)
    (n : Nat) : (completeRequest api r st n : Completion β F).status = st := rfl

/-- What a handler does that is seen outside the driver. -/
inductive Effect (β F : Type) where
  | complete (c : Completion β F)
  /-- `UdecxUsbDeviceSignalWake` -/
  | signalWake
deriving DecidableEq

def Effect.completion : Effect β F → Option (Completion β F)
  | .complete c => some c
  | .signalWake => none

def completions (effects : List (Effect β F)) : List (Completion β F) :=
  effects.filterMap Effect.completion

@[simp] theorem completions_nil : completions ([] : List (Effect β F)) = [] := rfl

@[simp] theorem completions_complete (c : Completion β F) (fx : List (Effect β F)) :
    completions (.complete c :: fx) = c :: completions fx := rfl

@[simp] theorem completions_signalWake (fx : List (Effect β F)) :
    completions (.signalWake :: fx) = completions fx := rfl

@[simp] theorem completions_append (fx gx : List (Effect β F)) :
    completions (fx ++ gx) = completions fx ++ completions gx :=
  List.filterMap_append

@[simp] theorem completions_map_complete {α : Type} (f : α → Completion β F) (rs : List α) :
    completions (rs.map fun r => .complete (f r)) = rs.map f := by
  induction rs with
  | nil => rfl
  | cons r rs ih => rw [List.map_cons, completions_complete, ih, List.map_cons]

/-! ## Manual queues -/

/-- A manually dispatched queue: the parked requests in arrival order, whether it accepts
forwarded requests (a purged one does not), whether requests can be retrieved from it (not
while its device is out of D0, for a power-managed queue) and the family of calls its callback
`EvtIoCanceledOnQueue` completes a canceled request with. -/
structure WdfQueue (β : Type) where
  requests : List (WdfRequest β)
  accepting : Bool
  dispatching : Bool
  evtIoCanceledOnQueue : CompletionApi
deriving DecidableEq

def wdfIoQueueCreated (evtIoCanceledOnQueue : CompletionApi) : WdfQueue β :=
  { requests := [], accepting := true, dispatching := true, evtIoCanceledOnQueue }

/-- What the cancel callback of a queue does to a request. -/
def WdfQueue.canceled (queue : WdfQueue β) (request : WdfRequest β) : Completion β F :=
  completeRequest queue.evtIoCanceledOnQueue request statusCancelled 0

@[simp] theorem WdfQueue.canceled_request (q : WdfQueue β) (r : WdfRequest β) :
    (q.canceled r : Completion β F).request = r := rfl

@[simp] theorem WdfQueue.canceled_status (q : WdfQueue β) (r : WdfRequest β) :
    (q.canceled r : Completion β F).status = statusCancelled := rfl

/-- `WdfIoQueueRetrieveNextRequest`; `none` stands for the error statuses (no more entries, paused),
which the callers only test with `NT_SUCCESS`. -/
def wdfIoQueueRetrieveNextRequest (queue : WdfQueue β) : Option (WdfRequest β × WdfQueue β) :=
  match queue.requests with
  | [] => none
  | r :: rs => if queue.dispatching then some (r, { queue with requests := rs }) else none

/-- What the framework answers to a forward: whether it refuses for a reason of its own, and the
status of a refusal, also of the one by a queue that does not accept requests. -/
structure ForwardOutcome where
  refuses : Bool
  error : NtError
deriving DecidableEq

def wdfRequestForwardToIoQueue (request : WdfRequest β) (queue : WdfQueue β) (o : ForwardOutcome) :
    NtResult (WdfQueue β) :=
  if queue.accepting && !o.refuses then
    .ok { queue with requests := queue.requests ++ [request] }
  else .error o.error

/-- `WdfIoQueuePurge`, `WdfIoQueuePurgeSynchronously`: the requests handed to the cancel callback of
the queue, and the queue, which accepts nothing until it is started. -/
def wdfIoQueuePurge (queue : WdfQueue β) : List (WdfRequest β) × WdfQueue β :=
  (queue.requests, { queue with requests := [], accepting := false })

def wdfIoQueueStart (queue : WdfQueue β) : WdfQueue β := { queue with accepting := true }

/-- The framework cancels the `i`-th parked request: it leaves the queue and goes to the cancel
callback. -/
def WdfQueue.cancel (queue : WdfQueue β) (i : Nat) : Option (WdfRequest β × WdfQueue β) :=
  queue.requests[i]?.map fun r => (r, { queue with requests := queue.requests.eraseIdx i })

theorem wdfIoQueueRetrieveNextRequest_eq_some {q q' : WdfQueue β} {r : WdfRequest β} :
    wdfIoQueueRetrieveNextRequest q = some (r, q') ↔
      q.dispatching = true ∧ ∃ rs, q.requests = r :: rs ∧ q' = { q with requests := rs } := by
  unfold wdfIoQueueRetrieveNextRequest
  cases q.requests <;> cases q.dispatching <;> simp [eq_comm]

theorem wdfIoQueueRetrieveNextRequest_eq_none {q : WdfQueue β} (hd : q.dispatching = true) :
    wdfIoQueueRetrieveNextRequest q = none ↔ q.requests = [] := by
  unfold wdfIoQueueRetrieveNextRequest
  cases q.requests <;> simp [hd]

theorem wdfRequestForwardToIoQueue_eq_ok {r : WdfRequest β} {q q' : WdfQueue β}
    {o : ForwardOutcome} :
    wdfRequestForwardToIoQueue r q o = .ok q' ↔
      q.accepting = true ∧ o.refuses = false ∧ q' = { q with requests := q.requests ++ [r] } := by
  unfold wdfRequestForwardToIoQueue
  cases q.accepting <;> cases o.refuses <;> simp [eq_comm]

/-- A refused forward leaves the queue to the caller unchanged, with the error of the answer. -/
theorem wdfRequestForwardToIoQueue_eq_error {r : WdfRequest β} {q : WdfQueue β}
    {o : ForwardOutcome} {e : NtError} (h : wdfRequestForwardToIoQueue r q o = .error e) :
    e = o.error := by
  unfold wdfRequestForwardToIoQueue at h
  split at h
  · cases h
  · cases h; rfl

theorem WdfQueue.cancel_eq_some {q q' : WdfQueue β} {i : Nat} {r : WdfRequest β} :
    q.cancel i = some (r, q') ↔
      ∃ l m, q.requests = l ++ r :: m ∧ l.length = i ∧ q' = { q with requests := l ++ m } := by
  unfold WdfQueue.cancel
  constructor
  · intro h
    obtain ⟨r', hr, hq⟩ := Option.map_eq_some_iff.1 h
    obtain ⟨rfl, rfl⟩ := Prod.mk.inj hq
    obtain ⟨hi, rfl⟩ := List.getElem?_eq_some_iff.1 hr
    refine ⟨q.requests.take i, q.requests.drop (i + 1), ?_, ?_, ?_⟩
    · rw [List.getElem_cons_drop, List.take_append_drop]
    · rw [List.length_take]; omega
    · rw [List.eraseIdx_eq_take_drop_succ]
  · rintro ⟨l, m, hq, rfl, rfl⟩
    rw [hq]
    simp [List.eraseIdx_append_of_length_le]

end UdeSample
