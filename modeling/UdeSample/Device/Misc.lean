import UdeSample.Wdf

/-!
# Write-to-read queues (`Misc.c`)

A `WRQueue` matches write buffers with read requests: a write without a reader is copied into a
list, a read without a write is parked in a manual queue. `wrQueuePushWrite` and `wrQueuePullRead`
are given first by their atomic sections, a call on the read queue or a section holding `qsync`,
and then as the composition the code makes of them.

The null checks of the out parameters are left out: every caller passes the address of a local.
-/

namespace UdeSample

variable {β F : Type}

/-- `BUFFER_CONTENT`: a copied write buffer. -/
structure BufferContent (β : Type) where
  bufferLength : Nat
  bufferStart : List β
  length_eq : bufferStart.length = bufferLength
deriving DecidableEq

def BufferContent.ofBuffer (wbuffer : List β) : BufferContent β :=
  { bufferLength := wbuffer.length, bufferStart := wbuffer, length_eq := rfl }

/-- `WRITE_BUFFER_TO_READ_REQUEST_QUEUE`; `qsync` shows in the sections below. -/
structure WRQueue (β : Type) where
  writeBufferQueue : List (BufferContent β)
  readBufferQueue : WdfQueue β
deriving DecidableEq

/-- The queue that a successful `WRQueueInit` leaves; its reads are canceled by
`_WQQCancelUSBRequest` or `_WQQCancelRequest`. -/
def wrQueueInit (bUSBReqQueue : Bool) : WRQueue β :=
  { writeBufferQueue := []
    readBufferQueue := wdfIoQueueCreated (if bUSBReqQueue then .udecxUrb else .wdfRequest) }

def minLen (a b : Nat) : Nat := if a < b then a else b

theorem minLen_eq_min (a b : Nat) : minLen a b = min a b := by
  unfold minLen
  split <;> omega

/-! ## Atomic sections -/

/-- First section of a push: take the next parked read, if there is one. -/
def wrQueueTakeRead (pQ : WRQueue β) : Option (WdfRequest β × WRQueue β) :=
  (wdfIoQueueRetrieveNextRequest pQ.readBufferQueue).map fun (r, rq) =>
    (r, { pQ with readBufferQueue := rq })

/-- Second section of a push that found no read: copy the buffer into a new entry and append it
under `qsync`; `alloc` says whether the pool has room. -/
def wrQueueStoreWrite (alloc : Bool) (wbuffer : List β) (pQ : WRQueue β) : NTSTATUS × WRQueue β :=
  if alloc then
    (statusSuccess,
      { pQ with writeBufferQueue := pQ.writeBufferQueue ++ [BufferContent.ofBuffer wbuffer] })
  else (statusInsufficientResources, pQ)

/-- First section of a pull: remove the oldest write under `qsync`, if there is one. -/
def wrQueueTakeWrite (pQ : WRQueue β) : Option (BufferContent β × WRQueue β) :=
  match pQ.writeBufferQueue with
  | [] => none
  | w :: ws => some (w, { pQ with writeBufferQueue := ws })

/-- Second section of a pull that found no write: park the read. -/
def wrQueueParkRead (o : ForwardOutcome) (rqRead : WdfRequest β) (pQ : WRQueue β) :
    NTSTATUS × WRQueue β :=
  match wdfRequestForwardToIoQueue rqRead pQ.readBufferQueue o with
  | .ok rq => (statusSuccess, { pQ with readBufferQueue := rq })
  | .error e => (e.status, pQ)

/-! ## The two operations -/

/-- `WRQueuePushWrite`: the status, the read to complete if one was waiting, and the queue. -/
def wrQueuePushWrite (alloc : Bool) (wbuffer : List β) (pQ : WRQueue β) :
    NTSTATUS × Option (WdfRequest β) × WRQueue β :=
  match wrQueueTakeRead pQ with
  | some (firstPendingRead, pQ) => (statusSuccess, some firstPendingRead, pQ)
  | none =>
    let (status, pQ) := wrQueueStoreWrite alloc wbuffer pQ
    (status, none, pQ)

/-- What `WRQueuePullRead` answers: its status, `*pbReadyToComplete`, `*completedBytes`, and the
bytes it copied to the read buffer. -/
structure PullAnswer (β : Type) where
  status : NTSTATUS
  readyToComplete : Bool
  completedBytes : Nat
  copied : List β
deriving DecidableEq

/-- `WRQueuePullRead`; `rbuffer` is the read buffer, `none` for a null pointer. No caller passes
one: each has retrieved its buffer. The code leaves `*pbReadyToComplete` and `*completedBytes`
unassigned then, and what the answer has for them here stands for no value of the code. -/
def wrQueuePullRead (o : ForwardOutcome) (rqRead : WdfRequest β) (rbuffer : Option (List β))
    (pQ : WRQueue β) : PullAnswer β × WRQueue β :=
  match rbuffer with
  | none => (⟨statusInvalidParameter, false, 0, []⟩, pQ)
  | some rbuffer =>
    match wrQueueTakeWrite pQ with
    | none =>
      let (status, pQ) := wrQueueParkRead o rqRead pQ
      (⟨status, false, 0, []⟩, pQ)
    | some (pWriteEntry, pQ) =>
      let minlen := minLen pWriteEntry.bufferLength rbuffer.length
      (⟨statusSuccess, true, minlen, pWriteEntry.bufferStart.take minlen⟩, pQ)

theorem wrQueueTakeRead_eq_some {q q' : WRQueue β} {r : WdfRequest β} :
    wrQueueTakeRead q = some (r, q') ↔
      q.readBufferQueue.dispatching = true ∧ ∃ rs, q.readBufferQueue.requests = r :: rs ∧
        q' = { q with readBufferQueue := { q.readBufferQueue with requests := rs } } := by
  unfold wrQueueTakeRead
  rw [Option.map_eq_some_iff]
  constructor
  · rintro ⟨⟨r₁, rq₁⟩, hret, heq⟩
    obtain ⟨rfl, rfl⟩ := Prod.mk.inj heq
    obtain ⟨hd, rs, hrs, rfl⟩ := wdfIoQueueRetrieveNextRequest_eq_some.1 hret
    exact ⟨hd, rs, hrs, rfl⟩
  · rintro ⟨hd, rs, hrs, rfl⟩
    exact ⟨_, wdfIoQueueRetrieveNextRequest_eq_some.2 ⟨hd, rs, hrs, rfl⟩, rfl⟩

theorem wrQueueTakeRead_eq_none {q : WRQueue β} (hd : q.readBufferQueue.dispatching = true) :
    wrQueueTakeRead q = none ↔ q.readBufferQueue.requests = [] := by
  rw [wrQueueTakeRead, Option.map_eq_none_iff, wdfIoQueueRetrieveNextRequest_eq_none hd]

theorem wrQueueTakeWrite_eq_none {q : WRQueue β} :
    wrQueueTakeWrite q = none ↔ q.writeBufferQueue = [] := by
  unfold wrQueueTakeWrite
  split <;> simp_all

theorem wrQueueTakeWrite_eq_some {q q' : WRQueue β} {w : BufferContent β} :
    wrQueueTakeWrite q = some (w, q') ↔
      ∃ ws, q.writeBufferQueue = w :: ws ∧ q' = { q with writeBufferQueue := ws } := by
  unfold wrQueueTakeWrite
  cases q.writeBufferQueue <;> simp [eq_comm]

end UdeSample
