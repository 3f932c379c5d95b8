import UdeSample.Device.Misc
import UdeSample.Lib.Ledger
import UdeSample.Lib.Run
import Mathlib.Logic.Function.Basic

/-!
# The memory of the back channel (`Misc.c`, `BackChannel.c`)

The two write-to-read queues with the handles they hold: the spin lock `qsync`, the queue of parked
reads, and the pool entries of the stored writes. `MemoryCall` records what is given back.

The functions of `Device.Misc` are these ones seen through the handles (`wrQueuePushWriteOn_view`,
`wrQueuePullReadOn_view`). When `BackChannelDestroy` has run, every entry has been freed once and
every lock and queue deleted once, in every case; `WdfObjectDelete` is called on `NULL` exactly when
a `WRQueueInit` gets its lock and then no queue, since `WRQueueDestroy` takes the lock for a sign
that both exist (`backChannelAccounted_iff`).
-/

namespace UdeSample

open Lib

variable {β : Type}

/-- The objects of the driver and its pool. A handle of a deleted object is not given out again. -/
structure ChannelMemory (β : Type) where
  locks : Store Unit
  queues : Store (WdfQueue β)
  pool : Store (BufferContent β)

/-- `WRITE_BUFFER_TO_READ_REQUEST_QUEUE`; `none` is `NULL`. -/
structure ChannelHandles where
  writeBufferQueue : List Nat
  readBufferQueue : Option Nat
  qsync : Option Nat
deriving DecidableEq

def ChannelHandles.zeroed : ChannelHandles := ⟨[], none, none⟩

/-- `ExFreePool` and the two uses of `WdfObjectDelete`. -/
inductive MemoryCall where
  | freePool (entry : Nat)
  | deleteQueue (handle : Option Nat)
  | deleteLock (handle : Option Nat)
deriving DecidableEq

/-- A handle deleted; nothing happens to a store at `NULL`. -/
def deleteHandle {α : Type} (s : Store α) (handle : Option Nat) : Store α :=
  s.deleteAll handle.toList

/-- `WRQueueDestroy`. -/
def wrQueueDestroyOn (pQ : ChannelHandles) (m : ChannelMemory β) :
    ChannelHandles × ChannelMemory β × List MemoryCall :=
  if pQ.qsync = none then (pQ, m, [])
  else
    (.zeroed,
      { locks := deleteHandle m.locks pQ.qsync
        queues := deleteHandle m.queues pQ.readBufferQueue
        pool := m.pool.deleteAll pQ.writeBufferQueue },
      pQ.writeBufferQueue.map .freePool ++
        [.deleteQueue pQ.readBufferQueue, .deleteLock pQ.qsync])

/-- What the framework answers to `WRQueueInit`. -/
structure WRQueueOutcomes where
  spinLockCreate : NtResult Unit
  ioQueueCreate : NtResult Unit

/-- `WRQueueInit`, with the label `Error`. -/
def wrQueueInitOn (o : WRQueueOutcomes) (bUSBReqQueue : Bool) (m : ChannelMemory β) :
    NTSTATUS × ChannelHandles × ChannelMemory β × List MemoryCall :=
  match o.spinLockCreate with
  | .error e => (e.status, wrQueueDestroyOn .zeroed m)
  | .ok () =>
    let pQ := { ChannelHandles.zeroed with qsync := some m.locks.next }
    let m := { m with locks := m.locks.create () }
    match o.ioQueueCreate with
    | .error e => (e.status, wrQueueDestroyOn pQ m)
    | .ok () =>
      let readBufferQueue : WdfQueue β :=
        wdfIoQueueCreated (if bUSBReqQueue then .udecxUrb else .wdfRequest)
      (statusSuccess, { pQ with readBufferQueue := some m.queues.next },
        { m with queues := m.queues.create readBufferQueue }, [])

/-- `WRQueuePushWrite`; `none` where it meets a handle that is not good. -/
def wrQueuePushWriteOn (alloc : Bool) (wbuffer : List β) (pQ : ChannelHandles)
    (m : ChannelMemory β) :
    Option (NTSTATUS × Option (WdfRequest β) × ChannelHandles × ChannelMemory β) :=
  pQ.readBufferQueue.bind fun h => (m.queues.get? h).bind fun q =>
    match wdfIoQueueRetrieveNextRequest q with
    | some (firstPendingRead, q) =>
      some (statusSuccess, some firstPendingRead, pQ, { m with queues := m.queues.update h q })
    | none =>
      if alloc then
        (pQ.qsync.bind m.locks.get?).map fun _ =>
          (statusSuccess, none,
            { pQ with writeBufferQueue := pQ.writeBufferQueue ++ [m.pool.next] },
            { m with pool := m.pool.create (BufferContent.ofBuffer wbuffer) })
      else some (statusInsufficientResources, none, pQ, m)

/-- `WRQueuePullRead`; `none` where it meets a handle that is not good. -/
def wrQueuePullReadOn (o : ForwardOutcome) (rqRead : WdfRequest β) (rbuffer : Option (List β))
    (pQ : ChannelHandles) (m : ChannelMemory β) :
    Option (PullAnswer β × ChannelHandles × ChannelMemory β × List MemoryCall) :=
  match rbuffer with
  | none => some (⟨statusInvalidParameter, false, 0, []⟩, pQ, m, [])
  | some rbuffer =>
    (pQ.qsync.bind m.locks.get?).bind fun _ =>
      match pQ.writeBufferQueue with
      | [] =>
        pQ.readBufferQueue.bind fun h => (m.queues.get? h).map fun q =>
          match wdfRequestForwardToIoQueue rqRead q o with
          | .ok q =>
            (⟨statusSuccess, false, 0, []⟩, pQ, { m with queues := m.queues.update h q }, [])
          | .error e => (⟨e.status, false, 0, []⟩, pQ, m, [])
      | firstPendingWrite :: es =>
        (m.pool.get? firstPendingWrite).map fun pWriteEntry =>
          let minlen := minLen pWriteEntry.bufferLength rbuffer.length
          (⟨statusSuccess, true, minlen, pWriteEntry.bufferStart.take minlen⟩,
            { pQ with writeBufferQueue := es },
            { m with pool := m.pool.delete firstPendingWrite }, [.freePool firstPendingWrite])

/-! ## The two channels -/

inductive BackChannelQueue where
  | missionRequest
  | missionCompletion
deriving DecidableEq

structure BackChannelMemory (β : Type) where
  memory : ChannelMemory β
  channel : BackChannelQueue → ChannelHandles

/-- The controller context as the framework hands it out. -/
def backChannelZeroed : BackChannelMemory β :=
  { memory := ⟨.empty, .empty, .empty⟩, channel := fun _ => .zeroed }

def BackChannelMemory.set (s : BackChannelMemory β) (ch : BackChannelQueue) (pQ : ChannelHandles)
    (memory : ChannelMemory β) : BackChannelMemory β :=
  { memory, channel := Function.update s.channel ch pQ }

/-- `WRQueueInit` on a channel; the parked reads of `missionCompletion` are URBs. -/
def backChannelInitQueue (o : BackChannelQueue → WRQueueOutcomes) (ch : BackChannelQueue)
    (s : BackChannelMemory β) : NTSTATUS × BackChannelMemory β × List MemoryCall :=
  let (status, pQ, memory, out) :=
    wrQueueInitOn (o ch) (decide (ch = .missionCompletion)) s.memory
  (status, s.set ch pQ memory, out)

/-- `BackChannelInit`. -/
def backChannelInit (o : BackChannelQueue → WRQueueOutcomes) (s : BackChannelMemory β) :
    NTSTATUS × BackChannelMemory β × List MemoryCall :=
  let (status, s, out) := backChannelInitQueue o .missionRequest s
  if ntSuccess status then
    let (status, s, out') := backChannelInitQueue o .missionCompletion s
    (status, s, out ++ out')
  else (status, s, out)

/-- `WRQueueDestroy` on a channel. -/
def backChannelDestroyQueue (ch : BackChannelQueue) (s : BackChannelMemory β) :
    BackChannelMemory β × List MemoryCall :=
  let (pQ, memory, out) := wrQueueDestroyOn (s.channel ch) s.memory
  (s.set ch pQ memory, out)

/-- `BackChannelDestroy`. -/
def backChannelDestroy (s : BackChannelMemory β) : BackChannelMemory β × List MemoryCall :=
  let (s, out) := backChannelDestroyQueue .missionCompletion s
  let (s, out') := backChannelDestroyQueue .missionRequest s
  (s, out ++ out')

/-- What happens on a channel: the two calls, and the framework canceling the `i`-th parked read, if
there is one, or the controller entering and leaving D0. -/
inductive ChannelOp (β : Type) where
  | pushWrite (alloc : Bool) (wbuffer : List β)
  | pullRead (forward : ForwardOutcome) (rqRead : WdfRequest β) (rbuffer : Option (List β))
  | cancel (i : Nat)
  | power (d0 : Bool)

def onReadBufferQueue (f : WdfQueue β → WdfQueue β) (pQ : ChannelHandles) (m : ChannelMemory β) :
    Option (ChannelMemory β) :=
  pQ.readBufferQueue.bind fun h => (m.queues.get? h).map fun q =>
    { m with queues := m.queues.update h (f q) }

def channelOp : ChannelOp β → ChannelHandles → ChannelMemory β →
    Option (ChannelHandles × ChannelMemory β × List MemoryCall)
  | .pushWrite alloc wbuffer, pQ, m =>
    (wrQueuePushWriteOn alloc wbuffer pQ m).map fun (_, _, pQ, m) => (pQ, m, [])
  | .pullRead forward rqRead rbuffer, pQ, m =>
    (wrQueuePullReadOn forward rqRead rbuffer pQ m).map fun (_, pQ, m, out) => (pQ, m, out)
  | .cancel i, pQ, m =>
    (onReadBufferQueue (fun q => ((q.cancel i).map Prod.snd).getD q) pQ m).map fun m => (pQ, m, [])
  | .power d0, pQ, m =>
    (onReadBufferQueue (fun q => { q with dispatching := d0 }) pQ m).map fun m => (pQ, m, [])

inductive BackChannelEvent (β : Type) where
  | op (ch : BackChannelQueue) (e : ChannelOp β)
  | destroy

def backChannelStep (s : BackChannelMemory β) :
    BackChannelEvent β → Option (BackChannelMemory β × List MemoryCall)
  | .op ch e =>
    (channelOp e (s.channel ch) s.memory).map fun (pQ, memory, out) => (s.set ch pQ memory, out)
  | .destroy => some (backChannelDestroy s)

/-- `BackChannelInit`, and what follows. -/
def backChannelRun (o : BackChannelQueue → WRQueueOutcomes) (t : List (BackChannelEvent β)) :
    Option (BackChannelMemory β × List MemoryCall) :=
  let (_, s, out) := backChannelInit o backChannelZeroed
  run (logged backChannelStep) (s, out) t

/-! ## What is given back -/

def freedEntries (log : List MemoryCall) : List Nat :=
  log.filterMap fun
    | .freePool entry => some entry
    | .deleteQueue _ | .deleteLock _ => none

def deletedQueues (log : List MemoryCall) : List Nat :=
  log.filterMap fun
    | .deleteQueue handle => handle
    | .freePool _ | .deleteLock _ => none

def deletedLocks (log : List MemoryCall) : List Nat :=
  log.filterMap fun
    | .deleteLock handle => handle
    | .freePool _ | .deleteQueue _ => none

@[simp] theorem freedEntries_append (log out : List MemoryCall) :
    freedEntries (log ++ out) = freedEntries log ++ freedEntries out := List.filterMap_append

@[simp] theorem deletedQueues_append (log out : List MemoryCall) :
    deletedQueues (log ++ out) = deletedQueues log ++ deletedQueues out := List.filterMap_append

@[simp] theorem deletedLocks_append (log out : List MemoryCall) :
    deletedLocks (log ++ out) = deletedLocks log ++ deletedLocks out := List.filterMap_append

/-- `WdfObjectDelete` is called on `NULL`. -/
def DeletesNull (log : List MemoryCall) : Prop :=
  .deleteQueue none ∈ log ∨ .deleteLock none ∈ log

@[simp] theorem deletesNull_append (log out : List MemoryCall) :
    DeletesNull (log ++ out) ↔ DeletesNull log ∨ DeletesNull out := by
  unfold DeletesNull
  rw [List.mem_append, List.mem_append]
  tauto

@[simp] theorem not_deletesNull_nil : ¬ DeletesNull [] := by
  rintro (h | h) <;> cases h

/-- What the handles of a channel own, with those of the other channel. -/
structure ChannelInv (pQ rest : ChannelHandles) (m : ChannelMemory β) (log : List MemoryCall) :
    Prop where
  locks : m.locks.Ledger (pQ.qsync.toList ++ rest.qsync.toList) (deletedLocks log)
  queues : m.queues.Ledger (pQ.readBufferQueue.toList ++ rest.readBufferQueue.toList)
    (deletedQueues log)
  pool : m.pool.Ledger (pQ.writeBufferQueue ++ rest.writeBufferQueue) (freedEntries log)

/-- The channel has both its objects. -/
def ChannelHandles.Initialised (pQ : ChannelHandles) : Prop :=
  pQ.qsync.isSome = true ∧ pQ.readBufferQueue.isSome = true

section

variable {pQ rest : ChannelHandles} {m : ChannelMemory β} {log : List MemoryCall}

theorem ChannelInv.symm (h : ChannelInv pQ rest m log) : ChannelInv rest pQ m log :=
  ⟨h.locks.perm List.perm_append_comm, h.queues.perm List.perm_append_comm,
    h.pool.perm List.perm_append_comm⟩

/-- `WRQueueDestroy` gives back what the handles own, unless it takes them for zeroed. -/
theorem ChannelInv.destroy (h : ChannelInv pQ rest m log)
    (hzero : pQ.qsync = none → pQ = .zeroed) :
    ∃ m' out, wrQueueDestroyOn pQ m = (.zeroed, m', out) ∧
      ChannelInv .zeroed rest m' (log ++ out) ∧
      (DeletesNull out ↔ pQ.qsync.isSome = true ∧ pQ.readBufferQueue = none) := by
  unfold wrQueueDestroyOn
  by_cases hqsync : pQ.qsync = none
  · cases hzero hqsync
    refine ⟨m, [], rfl, ?_, ?_⟩
    · rw [List.append_nil]
      exact h
    · simp [ChannelHandles.zeroed]
  · rw [if_neg hqsync]
    refine ⟨_, _, rfl, ⟨?_, ?_, ?_⟩, ?_⟩
    · have hlocks : deletedLocks (pQ.writeBufferQueue.map .freePool ++
          [.deleteQueue pQ.readBufferQueue, .deleteLock pQ.qsync]) = pQ.qsync.toList := by
        cases pQ.qsync <;> simp [deletedLocks, List.filterMap_map]
      rw [deletedLocks_append, hlocks]
      exact h.locks.deleteAll
    · have hqueues : deletedQueues (pQ.writeBufferQueue.map .freePool ++
          [.deleteQueue pQ.readBufferQueue, .deleteLock pQ.qsync]) =
          pQ.readBufferQueue.toList := by
        cases pQ.readBufferQueue <;> simp [deletedQueues, List.filterMap_map]
      rw [deletedQueues_append, hqueues]
      exact h.queues.deleteAll
    · have hentries : freedEntries (pQ.writeBufferQueue.map .freePool ++
          [.deleteQueue pQ.readBufferQueue, .deleteLock pQ.qsync]) = pQ.writeBufferQueue := by
        simp [freedEntries, List.filterMap_map]
      rw [freedEntries_append, hentries]
      exact h.pool.deleteAll
    · obtain ⟨l, hl⟩ := Option.ne_none_iff_exists'.1 hqsync
      cases pQ.readBufferQueue <;> simp [DeletesNull, hl]

def WRQueueOutcomes.halfDone (o : WRQueueOutcomes) : Bool :=
  match o.spinLockCreate, o.ioQueueCreate with
  | .ok _, .error _ => true
  | .ok _, .ok _ | .error _, _ => false

def WRQueueOutcomes.succeeds (o : WRQueueOutcomes) : Bool :=
  match o.spinLockCreate, o.ioQueueCreate with
  | .ok _, .ok _ => true
  | .ok _, .error _ | .error _, _ => false

/-- `WRQueueInit` makes both objects or leaves none, but on the way it may delete `NULL`. -/
theorem ChannelInv.init (h : ChannelInv .zeroed rest m log) (o : WRQueueOutcomes)
    (bUSBReqQueue : Bool) :
    ∃ status pQ m' out, wrQueueInitOn o bUSBReqQueue m = (status, pQ, m', out) ∧
      ntSuccess status = o.succeeds ∧
      (if o.succeeds = true then pQ.Initialised else pQ = .zeroed) ∧
      ChannelInv pQ rest m' (log ++ out) ∧ (DeletesNull out ↔ o.halfDone = true) := by
  obtain ⟨spinLockCreate, ioQueueCreate⟩ := o
  cases spinLockCreate with
  | error e =>
    obtain ⟨m', out, heq, hinv, hnull⟩ := h.destroy fun _ => rfl
    refine ⟨e.status, .zeroed, m', out, by simp only [wrQueueInitOn, heq], e.failed, rfl, hinv,
      hnull.trans ?_⟩
    simp [WRQueueOutcomes.halfDone, ChannelHandles.zeroed]
  | ok =>
    have hlock : ChannelInv { ChannelHandles.zeroed with qsync := some m.locks.next } rest
        { m with locks := m.locks.create () } log :=
      ⟨h.locks.create (), h.queues, h.pool⟩
    cases ioQueueCreate with
    | error e =>
      obtain ⟨m', out, heq, hinv, hnull⟩ := hlock.destroy nofun
      refine ⟨e.status, .zeroed, m', out, by simp only [wrQueueInitOn, heq], e.failed, rfl, hinv,
        hnull.trans ?_⟩
      simp [WRQueueOutcomes.halfDone, ChannelHandles.zeroed]
    | ok =>
      refine ⟨_, _, _, _, rfl, rfl, ⟨rfl, rfl⟩, ?_, ?_⟩
      · rw [List.append_nil]
        exact ⟨hlock.locks, h.queues.create _, h.pool⟩
      · simp [WRQueueOutcomes.halfDone]

theorem ChannelInv.updateQueue (h : ChannelInv pQ rest m log) {i : Nat} {q : WdfQueue β}
    (hq : m.queues.get? i = some q) (q' : WdfQueue β) :
    ChannelInv pQ rest { m with queues := m.queues.update i q' } log :=
  ⟨h.locks, h.queues.update hq q', h.pool⟩

/-- The objects of an initialised channel are live. -/
theorem ChannelInv.live (h : ChannelInv pQ rest m log) (hinit : pQ.Initialised) :
    ∃ l i q, pQ.qsync = some l ∧ m.locks.get? l = some () ∧ pQ.readBufferQueue = some i ∧
      m.queues.get? i = some q := by
  obtain ⟨l, hl⟩ := Option.isSome_iff_exists.1 hinit.1
  obtain ⟨i, hi⟩ := Option.isSome_iff_exists.1 hinit.2
  have hlocks := h.locks
  have hqueues := h.queues
  rw [hl] at hlocks
  rw [hi] at hqueues
  obtain ⟨⟨⟩, hlock⟩ := (hlocks.mem l).1 List.mem_cons_self
  obtain ⟨q, hq⟩ := (hqueues.mem i).1 List.mem_cons_self
  exact ⟨l, i, q, hl, hlock, hi, hq⟩

/-- The operation is carried out, deletes nothing, and leaves the channel initialised. -/
def CarriedOut (rest : ChannelHandles) (log : List MemoryCall)
    (r : Option (ChannelHandles × ChannelMemory β × List MemoryCall)) : Prop :=
  ∃ pQ m out, r = some (pQ, m, out) ∧ pQ.Initialised ∧ ChannelInv pQ rest m (log ++ out) ∧
    ¬ DeletesNull out

theorem ChannelInv.carriedOut (h : ChannelInv pQ rest m log) (hinit : pQ.Initialised) :
    CarriedOut rest log (some (pQ, m, [])) :=
  ⟨_, _, _, rfl, hinit, by rwa [List.append_nil], not_deletesNull_nil⟩

/-- A write is stored in a new entry. -/
theorem ChannelInv.store (h : ChannelInv pQ rest m log) (w : BufferContent β) :
    ChannelInv { pQ with writeBufferQueue := pQ.writeBufferQueue ++ [m.pool.next] } rest
      { m with pool := m.pool.create w } log := by
  refine ⟨h.locks, h.queues, ?_⟩
  have hperm := (List.perm_append_singleton m.pool.next pQ.writeBufferQueue).symm
  exact (h.pool.create w).perm (hperm.append_right rest.writeBufferQueue)

/-- The oldest entry is taken and freed. -/
theorem ChannelInv.take (h : ChannelInv pQ rest m log) {e : Nat} {es : List Nat}
    (hes : pQ.writeBufferQueue = e :: es) :
    ChannelInv { pQ with writeBufferQueue := es } rest { m with pool := m.pool.delete e }
      (log ++ [.freePool e]) := by
  have hpool := h.pool
  rw [hes] at hpool
  refine ⟨?_, ?_, ?_⟩
  · rw [deletedLocks_append]
    simpa [deletedLocks] using h.locks
  · rw [deletedQueues_append]
    simpa [deletedQueues] using h.queues
  · rw [freedEntries_append]
    exact hpool.delete

/-- Every operation on an initialised channel is carried out. -/
theorem ChannelInv.op (h : ChannelInv pQ rest m log) (hinit : pQ.Initialised) (e : ChannelOp β) :
    CarriedOut rest log (channelOp e pQ m) := by
  obtain ⟨l, i, q, hl, hlock, hi, hq⟩ := h.live hinit
  have hupdate := fun q' => (h.updateQueue hq q').carriedOut hinit
  obtain ⟨entries, readBufferQueue, qsync⟩ := pQ
  cases hl
  cases hi
  cases e with
  | pushWrite alloc wbuffer =>
    simp only [channelOp, wrQueuePushWriteOn, hq, Option.bind_some]
    cases wdfIoQueueRetrieveNextRequest q with
    | some r => exact hupdate r.2
    | none =>
      cases alloc with
      | true =>
        simp only [if_true, hlock, Option.map_some]
        exact (h.store (BufferContent.ofBuffer wbuffer)).carriedOut hinit
      | false => exact h.carriedOut hinit
  | pullRead forward rqRead rbuffer =>
    cases rbuffer with
    | none => exact h.carriedOut hinit
    | some rbuffer =>
      simp only [channelOp, wrQueuePullReadOn, hlock, Option.bind_some]
      cases entries with
      | nil =>
        simp only [hq, Option.map_some]
        cases wdfRequestForwardToIoQueue rqRead q forward with
        | ok q' => exact hupdate q'
        | error e => exact h.carriedOut hinit
      | cons e es =>
        obtain ⟨w, hw⟩ := (h.pool.mem e).1 List.mem_cons_self
        simp only [hw, Option.map_some]
        exact ⟨_, _, _, rfl, hinit, h.take rfl, by simp [DeletesNull]⟩
  | cancel j =>
    simp only [channelOp, onReadBufferQueue, hq, Option.bind_some, Option.map_some]
    exact hupdate _
  | power d0 =>
    simp only [channelOp, onReadBufferQueue, hq, Option.bind_some, Option.map_some]
    exact hupdate _

end

/-! ## Runs -/

def BackChannelQueue.other : BackChannelQueue → BackChannelQueue
  | missionRequest => missionCompletion
  | missionCompletion => missionRequest

/-- The two channels own what is live; `ready` tells the initialised ones. -/
structure BackChannelInv (ready : BackChannelQueue → Bool) (s : BackChannelMemory β)
    (log : List MemoryCall) : Prop where
  owns : ∀ ch, ChannelInv (s.channel ch) (s.channel ch.other) s.memory log
  ready : ∀ ch, if ready ch = true then (s.channel ch).Initialised else s.channel ch = .zeroed

section

variable {ready : BackChannelQueue → Bool} {s : BackChannelMemory β} {log : List MemoryCall}

theorem backChannelZeroed_inv :
    BackChannelInv (fun _ => false) (backChannelZeroed : BackChannelMemory β) [] := by
  refine ⟨fun _ => ⟨?_, ?_, ?_⟩, fun _ => rfl⟩
  · exact Store.Ledger.empty
  · exact Store.Ledger.empty
  · exact Store.Ledger.empty

/-- One channel changes. -/
theorem BackChannelInv.set (h : BackChannelInv ready s log) {ch : BackChannelQueue}
    {pQ : ChannelHandles} {m : ChannelMemory β} {log' : List MemoryCall} (b : Bool)
    (howns : ChannelInv pQ (s.channel ch.other) m log')
    (hready : if b = true then pQ.Initialised else pQ = .zeroed) :
    BackChannelInv (Function.update ready ch b) (s.set ch pQ m) log' := by
  have hother := h.ready ch.other
  refine ⟨?_, ?_⟩
  · intro ch'
    cases ch <;> cases ch'
    · exact howns
    · exact howns.symm
    · exact howns.symm
    · exact howns
  · intro ch'
    by_cases hch : ch' = ch
    · subst hch
      simpa [BackChannelMemory.set] using hready
    · simpa [BackChannelMemory.set, hch] using h.ready ch'

theorem BackChannelInv.initQueue (h : BackChannelInv ready s log) (ch : BackChannelQueue)
    (hch : ready ch = false) (o : BackChannelQueue → WRQueueOutcomes) :
    ∃ status s' out, backChannelInitQueue o ch s = (status, s', out) ∧
      ntSuccess status = (o ch).succeeds ∧
      BackChannelInv (Function.update ready ch (o ch).succeeds) s' (log ++ out) ∧
      (DeletesNull out ↔ (o ch).halfDone = true) := by
  have howns := h.owns ch
  have hzero := h.ready ch
  rw [hch, if_neg Bool.false_ne_true] at hzero
  rw [hzero] at howns
  obtain ⟨status, pQ, m', out, heq, hstatus, hready, hinv, hnull⟩ :=
    howns.init (o ch) (decide (ch = .missionCompletion))
  refine ⟨status, s.set ch pQ m', out, ?_, hstatus, h.set _ hinv hready, hnull⟩
  simp only [backChannelInitQueue, heq]

/-- A `WRQueueInit` that gets its lock and no queue. -/
def backChannelHalfDone (o : BackChannelQueue → WRQueueOutcomes) : Bool :=
  (o .missionRequest).halfDone ||
    (o .missionRequest).succeeds && (o .missionCompletion).halfDone

/-- The channels whose `WRQueueInit` succeeds. -/
def backChannelReady (o : BackChannelQueue → WRQueueOutcomes) : BackChannelQueue → Bool
  | .missionRequest => (o .missionRequest).succeeds
  | .missionCompletion => (o .missionRequest).succeeds && (o .missionCompletion).succeeds

theorem backChannelInit_inv (o : BackChannelQueue → WRQueueOutcomes) :
    ∃ status s out, backChannelInit o (backChannelZeroed : BackChannelMemory β) =
        (status, s, out) ∧
      BackChannelInv (backChannelReady o) s out ∧
      (DeletesNull out ↔ backChannelHalfDone o = true) := by
  obtain ⟨status, s, out, hfirst, hstatus, hinv, hnull⟩ :=
    (backChannelZeroed_inv (β := β)).initQueue .missionRequest rfl o
  cases hsucceeds : (o .missionRequest).succeeds with
  | false =>
    have hready : Function.update (fun _ => false) .missionRequest
        (o .missionRequest).succeeds = backChannelReady o := by
      funext ch
      cases ch <;> simp [backChannelReady, hsucceeds]
    refine ⟨status, s, out, ?_, ?_, ?_⟩
    · simp only [backChannelInit, hfirst, hstatus, hsucceeds, Bool.false_eq_true, if_false]
    · rw [← hready]
      exact hinv
    · rw [hnull, backChannelHalfDone, hsucceeds, Bool.false_and, Bool.or_false]
  | true =>
    obtain ⟨status', s', out', hsecond, -, hinv', hnull'⟩ := hinv.initQueue .missionCompletion rfl o
    have hready : Function.update (Function.update (fun _ => false) .missionRequest
        (o .missionRequest).succeeds) .missionCompletion (o .missionCompletion).succeeds =
        backChannelReady o := by
      funext ch
      cases ch <;> simp [backChannelReady, hsucceeds]
    refine ⟨status', s', out ++ out', ?_, ?_, ?_⟩
    · simp only [backChannelInit, hfirst, hstatus, hsucceeds, if_true, hsecond]
    · rw [← hready]
      exact hinv'
    · rw [deletesNull_append, hnull, hnull', backChannelHalfDone, hsucceeds, Bool.true_and,
        Bool.or_eq_true]

theorem BackChannelInv.op (h : BackChannelInv ready s log) {ch : BackChannelQueue}
    (hch : ready ch = true) (e : ChannelOp β) :
    ∃ s' out, backChannelStep s (.op ch e) = some (s', out) ∧
      BackChannelInv ready s' (log ++ out) ∧ ¬ DeletesNull out := by
  have hready := h.ready ch
  rw [hch, if_pos rfl] at hready
  obtain ⟨pQ, m, out, heq, hinit, hinv, hnull⟩ := (h.owns ch).op hready e
  have hset := h.set true hinv hinit
  rw [← hch, Function.update_eq_self] at hset
  exact ⟨_, out, by rw [backChannelStep, heq, Option.map_some], hset, hnull⟩

theorem BackChannelInv.destroyQueue (h : BackChannelInv ready s log) (ch : BackChannelQueue) :
    ∃ s' out, backChannelDestroyQueue ch s = (s', out) ∧
      BackChannelInv (Function.update ready ch false) s' (log ++ out) ∧ ¬ DeletesNull out := by
  have hready := h.ready ch
  have hzero : (s.channel ch).qsync = none → s.channel ch = .zeroed := by
    intro hnone
    split at hready
    · rw [ChannelHandles.Initialised, hnone] at hready
      exact absurd hready.1 Bool.false_ne_true
    · exact hready
  obtain ⟨m, out, heq, hinv, hnull⟩ := (h.owns ch).destroy hzero
  refine ⟨s.set ch .zeroed m, out, by simp only [backChannelDestroyQueue, heq],
    h.set false hinv rfl, ?_⟩
  rw [hnull]
  rintro ⟨hqsync, hreads⟩
  split at hready
  · rw [ChannelHandles.Initialised, hreads] at hready
    exact Bool.false_ne_true hready.2
  · rw [hready] at hqsync
    cases hqsync

theorem BackChannelInv.destroy (h : BackChannelInv ready s log) :
    ∃ s' out, backChannelDestroy s = (s', out) ∧
      BackChannelInv (fun _ => false) s' (log ++ out) ∧ ¬ DeletesNull out := by
  obtain ⟨s₁, out₁, hfirst, hinv₁, hnull₁⟩ := h.destroyQueue .missionCompletion
  obtain ⟨s₂, out₂, hsecond, hinv₂, hnull₂⟩ := hinv₁.destroyQueue .missionRequest
  have hnone : Function.update (Function.update ready .missionCompletion false) .missionRequest
      false = fun _ => false := by
    funext ch
    cases ch <;> rfl
  refine ⟨s₂, out₁ ++ out₂, by simp only [backChannelDestroy, hfirst, hsecond], ?_, ?_⟩
  · rw [hnone, List.append_assoc] at hinv₂
    exact hinv₂
  · rw [deletesNull_append]
    exact not_or.2 ⟨hnull₁, hnull₂⟩

/-- The operations of a run are carried out. -/
theorem BackChannelInv.ops (h : BackChannelInv ready s log)
    {ops : List (BackChannelQueue × ChannelOp β)} (hops : ∀ e ∈ ops, ready e.1 = true) :
    ∃ s' out, run (logged backChannelStep) (s, log) (ops.map fun e => .op e.1 e.2) =
        some (s', log ++ out) ∧
      BackChannelInv ready s' (log ++ out) ∧ ¬ DeletesNull out := by
  induction ops generalizing s log with
  | nil =>
    exact ⟨s, [], by rw [List.append_nil]; rfl, by rwa [List.append_nil], not_deletesNull_nil⟩
  | cons e ops ih =>
    obtain ⟨s₁, out₁, hstep, hinv, hnull⟩ := h.op (hops e List.mem_cons_self) e.2
    obtain ⟨s₂, out₂, hrun, hinv₂, hnull₂⟩ :=
      ih hinv fun e' he' => hops e' (List.mem_cons_of_mem e he')
    refine ⟨s₂, out₁ ++ out₂, ?_, ?_, ?_⟩
    · simp only [List.map_cons, run_cons, logged, hstep, Option.map_some, Option.bind_some]
      rw [← List.append_assoc]
      exact hrun
    · rw [← List.append_assoc]
      exact hinv₂
    · rw [deletesNull_append]
      exact not_or.2 ⟨hnull, hnull₂⟩

/-- Destroying once or more often leaves nothing. -/
theorem BackChannelInv.destroys (h : BackChannelInv ready s log) (n : Nat) :
    ∃ s' out, run (logged backChannelStep) (s, log) (List.replicate (n + 1) .destroy) =
        some (s', log ++ out) ∧
      BackChannelInv (fun _ => false) s' (log ++ out) ∧ ¬ DeletesNull out := by
  obtain ⟨s₁, out₁, hstep, hinv, hnull⟩ := h.destroy
  induction n generalizing s ready log s₁ out₁ with
  | zero =>
    refine ⟨s₁, out₁, ?_, hinv, hnull⟩
    simp [logged, backChannelStep, hstep]
  | succ n ih =>
    obtain ⟨s₂, out₂, hstep₂, hinv₂, hnull₂⟩ := hinv.destroy
    obtain ⟨s₃, out₃, hrun, hinv₃, hnull₃⟩ := ih hinv s₂ out₂ hstep₂ hinv₂ hnull₂
    refine ⟨s₃, out₁ ++ out₃, ?_, ?_, ?_⟩
    · rw [List.replicate_succ, run_cons, ← List.append_assoc]
      simp only [logged, backChannelStep, hstep, Option.map_some, Option.bind_some]
      exact hrun
    · rw [← List.append_assoc]
      exact hinv₃
    · rw [deletesNull_append]
      exact not_or.2 ⟨hnull, hnull₃⟩

/-- Everything created was given back once, and nothing else. -/
structure Accounted (s : BackChannelMemory β) (log : List MemoryCall) : Prop where
  pool : ∀ e, (freedEntries log).count e = if e < s.memory.pool.next then 1 else 0
  queues : ∀ h, (deletedQueues log).count h = if h < s.memory.queues.next then 1 else 0
  locks : ∀ h, (deletedLocks log).count h = if h < s.memory.locks.next then 1 else 0
  null : ¬ DeletesNull log

theorem BackChannelInv.accounted_iff (h : BackChannelInv (fun _ => false) s log) :
    Accounted s log ↔ ¬ DeletesNull log := by
  have hzero : ∀ ch, s.channel ch = .zeroed := h.ready
  have howns := h.owns .missionRequest
  rw [hzero, hzero] at howns
  constructor
  · exact fun hacc => hacc.null
  · exact fun hnull => ⟨howns.pool.count_freed, howns.queues.count_freed, howns.locks.count_freed,
      hnull⟩

end

/-- **The back channel gives back what it made** exactly when no `WRQueueInit` gets its lock and no
queue. -/
theorem backChannelAccounted_iff (o : BackChannelQueue → WRQueueOutcomes)
    (ops : List (BackChannelQueue × ChannelOp β)) (n : Nat)
    (h : ∀ e ∈ ops, backChannelReady o e.1 = true) :
    ∃ s log, backChannelRun o
        ((ops.map fun e => .op e.1 e.2) ++ List.replicate (n + 1) .destroy) = some (s, log) ∧
      (Accounted s log ↔ backChannelHalfDone o = false) := by
  obtain ⟨status, s₀, out, hinit, hinv₀, hnull₀⟩ := backChannelInit_inv (β := β) o
  obtain ⟨s₁, out₁, hrun₁, hinv₁, hnull₁⟩ := hinv₀.ops h
  obtain ⟨s₂, out₂, hrun₂, hinv₂, hnull₂⟩ := hinv₁.destroys n
  refine ⟨s₂, out ++ out₁ ++ out₂, ?_, ?_⟩
  · simp only [backChannelRun, hinit]
    rw [run_append, hrun₁]
    exact hrun₂
  · rw [hinv₂.accounted_iff, deletesNull_append, deletesNull_append, hnull₀,
      or_iff_left hnull₂, or_iff_left hnull₁, Bool.not_eq_true]

/-- A write is stored and answered, another one is left; the channels are destroyed twice. -/
theorem storedWrites_accounted : ∃ s log,
    backChannelRun (fun _ => ⟨.ok (), .ok ()⟩)
      [.op .missionRequest (.pushWrite true [7]), .op .missionCompletion (.pushWrite true [8, 9]),
        .op .missionRequest (.pullRead ⟨false, ⟨statusCancelled, rfl⟩⟩ ⟨0, .read, [0]⟩ (some [0])),
        .destroy, .destroy] = some (s, log) ∧ Accounted s log := by
  obtain ⟨s, log, hrun, hiff⟩ := backChannelAccounted_iff (fun _ => ⟨.ok (), .ok ()⟩)
    [(.missionRequest, .pushWrite true [7]), (.missionCompletion, .pushWrite true [8, 9]),
      (.missionRequest,
        .pullRead ⟨false, ⟨statusCancelled, rfl⟩⟩ ⟨0, .read, [0]⟩ (some [0]))] 1
    (fun e _ => by obtain ⟨_ | _, _⟩ := e <;> rfl)
  exact ⟨s, log, hrun, hiff.2 rfl⟩

/-- A lock is created and no queue, and `NULL` is deleted. -/
theorem lockWithoutQueue_deletesNull :
    ¬ ∀ (o : BackChannelQueue → WRQueueOutcomes) (ops : List (BackChannelQueue × ChannelOp ULONG))
      (n : Nat), (∀ e ∈ ops, backChannelReady o e.1 = true) → ∃ s log,
      backChannelRun o ((ops.map fun e => .op e.1 e.2) ++ List.replicate (n + 1) .destroy) =
        some (s, log) ∧ Accounted s log := by
  intro h
  obtain ⟨s, log, hrun, hacc⟩ := h
    (fun _ => ⟨.ok (), .error ⟨statusInsufficientResources, rfl⟩⟩) [] 0 nofun
  cases hrun
  exact hacc.null (Or.inl List.mem_cons_self)

/-! ## `WRQueue` as a view of the memory -/

section

variable {pQ rest : ChannelHandles} {m : ChannelMemory β} {q : WRQueue β} {log : List MemoryCall}

/-- The handles of a channel are good and stand for this `WRQueue`. -/
structure ChannelView (pQ : ChannelHandles) (m : ChannelMemory β) (q : WRQueue β) : Prop where
  locked : ∃ l, pQ.qsync = some l ∧ m.locks.get? l = some ()
  reads : ∃ h, pQ.readBufferQueue = some h ∧ m.queues.get? h = some q.readBufferQueue
  writes : List.Forall₂ (fun e w => m.pool.get? e = some w) pQ.writeBufferQueue q.writeBufferQueue
  nodup : pQ.writeBufferQueue.Nodup

/-- An initialised channel stands for some `WRQueue`. -/
theorem ChannelInv.view (h : ChannelInv pQ rest m log) (hinit : pQ.Initialised) :
    ∃ q, ChannelView pQ m q := by
  obtain ⟨l, i, reads, hl, hlock, hi, hq⟩ := h.live hinit
  have hwrites : ∀ es : List Nat, (∀ e ∈ es, ∃ w, m.pool.get? e = some w) →
      ∃ ws, List.Forall₂ (fun e w => m.pool.get? e = some w) es ws := by
    intro es hlive
    induction es with
    | nil => exact ⟨[], .nil⟩
    | cons e es ih =>
      obtain ⟨w, hw⟩ := hlive e List.mem_cons_self
      obtain ⟨ws, hws⟩ := ih fun e' he' => hlive e' (List.mem_cons_of_mem e he')
      exact ⟨w :: ws, .cons hw hws⟩
  obtain ⟨ws, hws⟩ := hwrites pQ.writeBufferQueue fun e he =>
    (h.pool.mem e).1 (List.mem_append_left _ he)
  exact ⟨⟨ws, reads⟩, ⟨l, hl, hlock⟩, ⟨i, hi, hq⟩, hws, h.pool.nodup.of_append_left⟩

theorem ChannelView.updateQueue (h : ChannelView pQ m q) {i : Nat}
    (hi : pQ.readBufferQueue = some i) (rq : WdfQueue β) :
    ChannelView pQ { m with queues := m.queues.update i rq } { q with readBufferQueue := rq } := by
  obtain ⟨j, hj, hq⟩ := h.reads
  cases hi.symm.trans hj
  exact ⟨h.locked, ⟨i, hi, (Store.get?_update hq rq i).trans (if_pos rfl)⟩, h.writes, h.nodup⟩

theorem ChannelView.store (h : ChannelView pQ m q) (w : BufferContent β) :
    ChannelView { pQ with writeBufferQueue := pQ.writeBufferQueue ++ [m.pool.next] }
      { m with pool := m.pool.create w }
      { q with writeBufferQueue := q.writeBufferQueue ++ [w] } := by
  refine ⟨h.locked, h.reads, ?_, ?_⟩
  · refine List.rel_append (h.writes.imp ?_) (.cons ?_ .nil)
    · exact fun e w' hw => Store.get?_create_of_some hw w
    · rw [Store.get?_create, if_pos rfl]
  · have hlt : List.Forall₂ (fun e w => e < m.pool.next ∧ m.pool.get? e = some w)
        pQ.writeBufferQueue q.writeBufferQueue :=
      h.writes.imp fun e w hw => ⟨Store.lt_next hw, hw⟩
    refine List.nodup_append.2 ⟨h.nodup, List.nodup_singleton _, ?_⟩
    rintro e he e' he' rfl
    cases List.mem_singleton.1 he'
    exact Nat.lt_irrefl _ (((List.forall₂_and_left _ _).1 hlt).1 _ he)

theorem ChannelView.take (h : ChannelView pQ m q) {e : Nat} {es : List Nat} {w : BufferContent β}
    {ws : List (BufferContent β)} (hes : pQ.writeBufferQueue = e :: es)
    (hws : q.writeBufferQueue = w :: ws) :
    ChannelView { pQ with writeBufferQueue := es } { m with pool := m.pool.delete e }
      { q with writeBufferQueue := ws } := by
  have hwrites := h.writes
  have hnodup := h.nodup
  rw [hes] at hnodup
  rw [hes, hws, List.forall₂_cons] at hwrites
  obtain ⟨hnot, hnodup⟩ := List.nodup_cons.1 hnodup
  have hne : ∀ e' ∈ es, e' ≠ e := by
    rintro e' he' rfl
    exact hnot he'
  refine ⟨h.locked, h.reads, ?_, hnodup⟩
  refine ((List.forall₂_and_left _ _).2 ⟨hne, hwrites.2⟩).imp ?_
  rintro e' w' ⟨hne', hget⟩
  rw [Store.get?_delete, if_neg hne', hget]

theorem wrQueuePushWriteOn_view (h : ChannelView pQ m q) (alloc : Bool) (wbuffer : List β) :
    ∃ pQ' m', wrQueuePushWriteOn alloc wbuffer pQ m =
      some ((wrQueuePushWrite alloc wbuffer q).1, (wrQueuePushWrite alloc wbuffer q).2.1, pQ', m') ∧
      ChannelView pQ' m' (wrQueuePushWrite alloc wbuffer q).2.2 := by
  obtain ⟨l, hl, hlock⟩ := h.locked
  obtain ⟨i, hi, hq⟩ := h.reads
  simp only [wrQueuePushWriteOn, hi, hq, Option.bind_some, wrQueuePushWrite, wrQueueTakeRead]
  cases wdfIoQueueRetrieveNextRequest q.readBufferQueue with
  | some r => exact ⟨pQ, _, rfl, h.updateQueue hi r.2⟩
  | none =>
    cases alloc with
    | false => exact ⟨pQ, m, rfl, h⟩
    | true =>
      have hstore := h.store (BufferContent.ofBuffer wbuffer)
      simp only [if_true, hl, hlock, Option.bind_some, Option.map_some]
      rw [hl, hi] at hstore
      exact ⟨_, _, rfl, hstore⟩

theorem wrQueuePullReadOn_view (h : ChannelView pQ m q) (o : ForwardOutcome)
    (rqRead : WdfRequest β) (rbuffer : Option (List β)) :
    ∃ pQ' m' out, wrQueuePullReadOn o rqRead rbuffer pQ m =
        some ((wrQueuePullRead o rqRead rbuffer q).1, pQ', m', out) ∧
      ChannelView pQ' m' (wrQueuePullRead o rqRead rbuffer q).2 := by
  obtain ⟨l, hl, hlock⟩ := h.locked
  obtain ⟨i, hi, hq⟩ := h.reads
  have hupdate := h.updateQueue hi
  have hwrites := h.writes
  cases rbuffer with
  | none => exact ⟨pQ, m, [], rfl, h⟩
  | some rbuffer =>
    simp only [wrQueuePullReadOn, hl, hlock, Option.bind_some, wrQueuePullRead, wrQueueTakeWrite]
    cases hes : pQ.writeBufferQueue with
    | nil =>
      rw [hes] at hwrites
      cases hws : q.writeBufferQueue with
      | cons w ws => rw [hws] at hwrites; cases hwrites
      | nil =>
        simp only [hi, hq, Option.bind_some, Option.map_some, wrQueueParkRead]
        cases wdfRequestForwardToIoQueue rqRead q.readBufferQueue o with
        | ok rq => exact ⟨_, _, _, rfl, hupdate rq⟩
        | error e => exact ⟨_, _, _, rfl, h⟩
    | cons e es =>
      cases hws : q.writeBufferQueue with
      | nil => rw [hes, hws] at hwrites; cases hwrites
      | cons w ws =>
        have htake := h.take hes hws
        rw [hes, hws, List.forall₂_cons] at hwrites
        rw [hl] at htake
        simp only [hwrites.1, Option.map_some]
        exact ⟨_, _, _, rfl, htake⟩

end

end UdeSample
