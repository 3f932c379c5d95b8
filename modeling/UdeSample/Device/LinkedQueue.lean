import UdeSample.Lib.ListEntry
import UdeSample.Device.QueueMemory

/-!
# Where the stored writes lie (`Misc.c`)

The write-to-read queue once more, with the `LIST_ENTRY` links of its list and the pool every entry
is allocated from. A function answers with the memory it touches, and whether `qsync` is held then:
the processor is at `DISPATCH_LEVEL`, where paged pool may not be touched.

`linkedStep_simulates` relates it to the queue of `Device.QueueMemory`, whose list of entries is
the ring of the links. Every entry comes from `POOL_FLAG_PAGED`, and is linked under the lock as
soon as it is there: no paged memory is touched under `qsync` exactly when no write is ever stored
(`nonPagedUnderLock_iff`). With entries from non-paged pool every run would be safe
(`nonPaged_safe`), since what a list operation touches besides the moved entry is the head or
another entry of the list.
-/

namespace UdeSample

open Lib

variable {β : Type}

/-- The pool flags of `ExAllocatePool2`. -/
inductive PoolFlags where
  | paged
  | nonPaged
deriving DecidableEq, Repr

/-- A `BUFFER_CONTENT` in the pool. -/
structure PoolEntry (β : Type) where
  flags : PoolFlags
  content : BufferContent β
deriving DecidableEq

/-- A `LIST_ENTRY`: the list head in the queue, or the first field of a pool entry. -/
inductive ListNode where
  | writeBufferQueue
  | bufferLink (entry : Nat)
deriving DecidableEq, Repr

/-- Memory touched, linked or freed: the pool it lies in (`none` where the entry is freed already)
and whether `qsync` is held. -/
structure Access where
  node : ListNode
  pool : Option PoolFlags
  qsyncHeld : Bool
deriving DecidableEq, Repr

/-- `WRITE_BUFFER_TO_READ_REQUEST_QUEUE` with the objects and the pool behind it. -/
structure LinkedQueue (β : Type) where
  locks : Store Unit
  queues : Store (WdfQueue β)
  pool : Store (PoolEntry β)
  links : ListMemory ListNode
  readBufferQueue : Option Nat
  qsync : Option Nat

namespace LinkedQueue

/-- The head lies in the device context, which is not paged. -/
def poolOf (pQ : LinkedQueue β) : ListNode → Option PoolFlags
  | .writeBufferQueue => some .nonPaged
  | .bufferLink entry => (pQ.pool.get? entry).map PoolEntry.flags

def access (pQ : LinkedQueue β) (qsyncHeld : Bool) (node : ListNode) : Access :=
  { node, pool := pQ.poolOf node, qsyncHeld }

/-- The context as the framework hands it out. -/
def zeroed : LinkedQueue β :=
  { locks := .empty, queues := .empty, pool := .empty, links := ⟨fun _ => none, fun _ => none⟩,
    readBufferQueue := none, qsync := none }

end LinkedQueue

/-- The loop of `WRQueueDestroy`; `none` where it meets a link that is `NULL`, or runs out of
fuel. -/
def wrQueueFreeAll : Nat → LinkedQueue β → Option (LinkedQueue β × List Access)
  | 0, _ => none
  | fuel + 1, pQ =>
    (pQ.links.removeHeadList .writeBufferQueue).bind fun (e, links, touched) =>
      let out := touched.map (pQ.access true)
      match e with
      | .writeBufferQueue => some ({ pQ with links }, out)
      | .bufferLink pWriteEntry =>
        (wrQueueFreeAll fuel { pQ with links, pool := pQ.pool.delete pWriteEntry }).map
          fun (pQ', out') => (pQ', out ++ pQ.access true e :: out')

/-- `WRQueueDestroy`; the loop frees at most the entries there are. -/
def wrQueueDestroyLinked (pQ : LinkedQueue β) : Option (LinkedQueue β × List Access) :=
  if pQ.qsync = none then some (pQ, [])
  else
    (wrQueueFreeAll (pQ.pool.next + 1) pQ).map fun (pQ, out) =>
      ({ pQ with
          readBufferQueue := none
          qsync := none
          queues := deleteHandle pQ.queues pQ.readBufferQueue
          locks := deleteHandle pQ.locks pQ.qsync }, out)

/-- `WRQueueInit`, with the label `Error`. -/
def wrQueueInitLinked (o : WRQueueOutcomes) (bUSBReqQueue : Bool) (pQ : LinkedQueue β) :
    Option (NTSTATUS × LinkedQueue β × List Access) :=
  let pQ := { pQ with
    links := pQ.links.clear .writeBufferQueue, readBufferQueue := none, qsync := none }
  match o.spinLockCreate with
  | .error e => (wrQueueDestroyLinked pQ).map fun (pQ, out) => (e.status, pQ, out)
  | .ok () =>
    let pQ := { pQ with
      qsync := some pQ.locks.next
      locks := pQ.locks.create ()
      links := pQ.links.initializeListHead .writeBufferQueue }
    let out := [pQ.access false .writeBufferQueue]
    match o.ioQueueCreate with
    | .error e => (wrQueueDestroyLinked pQ).map fun (pQ, out') => (e.status, pQ, out ++ out')
    | .ok () =>
      let readBufferQueue : WdfQueue β :=
        wdfIoQueueCreated (if bUSBReqQueue then .udecxUrb else .wdfRequest)
      some (statusSuccess,
        { pQ with
          readBufferQueue := some pQ.queues.next
          queues := pQ.queues.create readBufferQueue }, out)

/-- `WRQueuePushWrite`; `flags` is what it allocates with, `none` a handle or a link that is not
good. -/
def wrQueuePushWriteLinked (flags : PoolFlags) (alloc : Bool) (wbuffer : List β)
    (pQ : LinkedQueue β) :
    Option (NTSTATUS × Option (WdfRequest β) × LinkedQueue β × List Access) :=
  pQ.readBufferQueue.bind fun h => (pQ.queues.get? h).bind fun q =>
    match wdfIoQueueRetrieveNextRequest q with
    | some (firstPendingRead, q) =>
      some (statusSuccess, some firstPendingRead, { pQ with queues := pQ.queues.update h q }, [])
    | none =>
      if alloc then
        let pNewEntry := ListNode.bufferLink pQ.pool.next
        let pQ := { pQ with pool := pQ.pool.create ⟨flags, BufferContent.ofBuffer wbuffer⟩ }
        (pQ.qsync.bind pQ.locks.get?).bind fun _ =>
          (pQ.links.insertTailList .writeBufferQueue pNewEntry).map fun (links, touched) =>
            (statusSuccess, none, { pQ with links },
              pQ.access false pNewEntry :: touched.map (pQ.access true))
      else some (statusInsufficientResources, none, pQ, [])

/-- `WRQueuePullRead`; `none` where it meets a handle or a link that is not good. -/
def wrQueuePullReadLinked (o : ForwardOutcome) (rqRead : WdfRequest β)
    (rbuffer : Option (List β)) (pQ : LinkedQueue β) :
    Option (PullAnswer β × LinkedQueue β × List Access) :=
  match rbuffer with
  | none => some (⟨statusInvalidParameter, false, 0, []⟩, pQ, [])
  | some rbuffer =>
    (pQ.qsync.bind pQ.locks.get?).bind fun _ =>
      (pQ.links.removeHeadList .writeBufferQueue).bind fun (firstPendingWrite, links, touched) =>
        let out := touched.map (pQ.access true)
        let pQ := { pQ with links }
        match firstPendingWrite with
        | .writeBufferQueue =>
          pQ.readBufferQueue.bind fun h => (pQ.queues.get? h).map fun q =>
            match wdfRequestForwardToIoQueue rqRead q o with
            | .ok q => (⟨statusSuccess, false, 0, []⟩,
                { pQ with queues := pQ.queues.update h q }, out)
            | .error e => (⟨e.status, false, 0, []⟩, pQ, out)
        | .bufferLink entry =>
          (pQ.pool.get? entry).map fun pWriteEntry =>
            let minlen := minLen pWriteEntry.content.bufferLength rbuffer.length
            (⟨statusSuccess, true, minlen, pWriteEntry.content.bufferStart.take minlen⟩,
              { pQ with pool := pQ.pool.delete entry },
              out ++ [pQ.access false firstPendingWrite])

/-- What happens to a queue: the four functions, and the framework canceling the `i`-th parked
read, if there is one, or the controller entering and leaving D0. -/
inductive QueueCall (β : Type) where
  | init (o : WRQueueOutcomes) (bUSBReqQueue : Bool)
  | pushWrite (alloc : Bool) (wbuffer : List β)
  | pullRead (forward : ForwardOutcome) (rqRead : WdfRequest β) (rbuffer : Option (List β))
  | destroy
  | cancel (i : Nat)
  | power (d0 : Bool)

def LinkedQueue.reads (pQ : LinkedQueue β) : Option (WdfQueue β) :=
  pQ.readBufferQueue.bind pQ.queues.get?

/-- A write that finds no read to complete and gets its memory. -/
def QueueCall.stores (reads : Option (WdfQueue β)) : QueueCall β → Bool
  | .pushWrite alloc _ => alloc && (reads.bind wdfIoQueueRetrieveNextRequest).isNone
  | .init _ _ | .pullRead _ _ _ | .destroy | .cancel _ | .power _ => false

def LinkedQueue.onReadBufferQueue (f : WdfQueue β → WdfQueue β) (pQ : LinkedQueue β) :
    Option (LinkedQueue β) :=
  pQ.readBufferQueue.bind fun h => (pQ.queues.get? h).map fun q =>
    { pQ with queues := pQ.queues.update h (f q) }

def linkedStepIn (flags : PoolFlags) (pQ : LinkedQueue β) :
    QueueCall β → Option (LinkedQueue β × List Access)
  | .init o bUSBReqQueue =>
    (wrQueueInitLinked o bUSBReqQueue pQ).map fun (_, pQ, out) => (pQ, out)
  | .pushWrite alloc wbuffer =>
    (wrQueuePushWriteLinked flags alloc wbuffer pQ).map fun (_, _, pQ, out) => (pQ, out)
  | .pullRead forward rqRead rbuffer =>
    (wrQueuePullReadLinked forward rqRead rbuffer pQ).map fun (_, pQ, out) => (pQ, out)
  | .destroy => wrQueueDestroyLinked pQ
  | .cancel i =>
    (pQ.onReadBufferQueue fun q => ((q.cancel i).map Prod.snd).getD q).map fun pQ => (pQ, [])
  | .power d0 =>
    (pQ.onReadBufferQueue fun q => { q with dispatching := d0 }).map fun pQ => (pQ, [])

/-- The driver allocates the entries with `POOL_FLAG_PAGED`. -/
def linkedStep (pQ : LinkedQueue β) : QueueCall β → Option (LinkedQueue β × List Access) :=
  linkedStepIn .paged pQ

/-! ## What the list holds -/

/-- The list holds the entries `es`, which are in the pool and allocated with `flags`. -/
structure LinkedInv (flags : PoolFlags) (pQ : LinkedQueue β) (es : List Nat) : Prop where
  ring : pQ.qsync ≠ none → pQ.links.Ring .writeBufferQueue (es.map .bufferLink)
  live : ∀ i ∈ es, ∃ e, pQ.pool.get? i = some e ∧ e.flags = flags
  null : pQ.qsync = none → es = []

/-- An access to the head of the list or to one of the entries `es`, which is not freed. -/
def Access.Touches (flags : PoolFlags) (es : List Nat) (a : Access) : Prop :=
  (a.node = .writeBufferQueue ∧ a.pool = some .nonPaged) ∨
    ∃ i ∈ es, a.node = .bufferLink i ∧ a.pool = some flags

section

variable {flags : PoolFlags} {pQ pQ' : LinkedQueue β} {es : List Nat} {out : List Access}

theorem Access.Touches.mono {es' : List Nat} {a : Access} (h : a.Touches flags es)
    (hsub : es ⊆ es') : a.Touches flags es' := by
  rcases h with h | ⟨i, hi, h⟩
  · exact Or.inl h
  · exact Or.inr ⟨i, hsub hi, h⟩

theorem LinkedInv.accesses (h : LinkedInv flags pQ es) {touched : List ListNode}
    (htouched : touched ⊆ ListNode.writeBufferQueue :: es.map .bufferLink) (held : Bool) :
    ∀ a ∈ touched.map (pQ.access held), a.Touches flags es := by
  intro a ha
  obtain ⟨n, hn, rfl⟩ := List.mem_map.1 ha
  rcases List.mem_cons.1 (htouched hn) with rfl | hn
  · exact Or.inl ⟨rfl, rfl⟩
  · obtain ⟨i, hi, rfl⟩ := List.mem_map.1 hn
    obtain ⟨e, he, hflags⟩ := h.live i hi
    refine Or.inr ⟨i, hi, rfl, ?_⟩
    simp [LinkedQueue.access, LinkedQueue.poolOf, he, hflags]

/-- An access to an entry of the list. -/
theorem LinkedInv.access (h : LinkedInv flags pQ es) {i : Nat} (hi : i ∈ es) (held : Bool) :
    (pQ.access held (.bufferLink i)).Touches flags es := by
  have htouched : [.bufferLink i] ⊆ ListNode.writeBufferQueue :: es.map .bufferLink := by
    intro n hn
    rw [List.mem_singleton.1 hn]
    exact List.mem_cons_of_mem _ (List.mem_map_of_mem hi)
  exact h.accesses htouched held _ List.mem_cons_self

theorem LinkedInv.remove {i : Nat} {is : List Nat} (h : LinkedInv flags pQ (i :: is))
    (hqsync : pQ.qsync ≠ none) :
    ∃ links touched,
      pQ.links.removeHeadList .writeBufferQueue = some (.bufferLink i, links, touched) ∧
      LinkedInv flags { pQ with links, pool := pQ.pool.delete i } is ∧
      touched ⊆ ListNode.writeBufferQueue :: (i :: is).map .bufferLink := by
  have hnot : i ∉ is := by
    have hnodup := (List.nodup_cons.1 (h.ring hqsync).nodup).2
    exact (List.nodup_cons.1 (List.Nodup.of_map _ hnodup)).1
  obtain ⟨links, hremove, hring⟩ := (h.ring hqsync).removeHeadList_cons
  refine ⟨links, _, hremove, ⟨fun _ => hring, ?_, fun hnull => absurd hnull hqsync⟩,
    ListMemory.removeHeadList_touched _ _ _⟩
  intro j hj
  obtain ⟨e, he, hflags⟩ := h.live j (List.mem_cons_of_mem i hj)
  have hji : j ≠ i := fun heq => hnot (heq ▸ hj)
  exact ⟨e, by rw [Store.get?_delete, if_neg hji, he], hflags⟩

theorem LinkedInv.remove_nil (h : LinkedInv flags pQ []) (hqsync : pQ.qsync ≠ none) :
    ∃ links touched,
      pQ.links.removeHeadList .writeBufferQueue = some (.writeBufferQueue, links, touched) ∧
      LinkedInv flags { pQ with links } [] ∧ touched ⊆ [.writeBufferQueue] := by
  obtain ⟨links, hremove, hring⟩ := (h.ring hqsync).removeHeadList_nil
  exact ⟨links, _, hremove, ⟨fun _ => hring, h.live, h.null⟩, by simp⟩

/-- **The loop of `WRQueueDestroy`** frees the entries of the list, and nothing else is touched. -/
theorem LinkedInv.freeAll (h : LinkedInv flags pQ es) (hqsync : pQ.qsync ≠ none) {fuel : Nat}
    (hfuel : es.length < fuel) :
    ∃ links out, wrQueueFreeAll fuel pQ =
        some ({ pQ with links, pool := pQ.pool.deleteAll es }, out) ∧
      ∀ a ∈ out, a.Touches flags es := by
  obtain ⟨fuel, rfl⟩ := Nat.exists_eq_succ_of_ne_zero (Nat.ne_of_gt (Nat.zero_lt_of_lt hfuel))
  induction es generalizing pQ fuel with
  | nil =>
    obtain ⟨links, touched, hremove, -, htouched⟩ := h.remove_nil hqsync
    rw [wrQueueFreeAll, hremove]
    exact ⟨links, _, rfl, h.accesses htouched true⟩
  | cons i is ih =>
    obtain ⟨links, touched, hremove, hinv, htouched⟩ := h.remove hqsync
    obtain ⟨fuel, rfl⟩ := Nat.exists_eq_succ_of_ne_zero
      (Nat.ne_of_gt (Nat.zero_lt_of_lt (Nat.lt_of_succ_lt_succ hfuel)))
    obtain ⟨links', out, hrest, hout⟩ := ih hinv hqsync fuel (Nat.lt_of_succ_lt_succ hfuel)
    rw [wrQueueFreeAll, hremove, Option.bind_some]
    dsimp only
    rw [hrest]
    refine ⟨links', _, rfl, ?_⟩
    intro a ha
    rcases List.mem_append.1 ha with ha | ha
    · exact h.accesses htouched true a ha
    · rcases List.mem_cons.1 ha with rfl | ha
      · exact h.access List.mem_cons_self true
      · exact (hout a ha).mono (List.subset_cons_self i is)

/-! ## The queue of `Device.QueueMemory` -/

def LinkedQueue.handles (pQ : LinkedQueue β) (es : List Nat) : ChannelHandles :=
  { writeBufferQueue := es, readBufferQueue := pQ.readBufferQueue, qsync := pQ.qsync }

def LinkedQueue.memory (pQ : LinkedQueue β) : ChannelMemory β :=
  { locks := pQ.locks, queues := pQ.queues, pool := pQ.pool.map PoolEntry.content }

/-- The calls on a queue whose list is a list of handles. -/
def channelCall (pQ : ChannelHandles) (m : ChannelMemory β) :
    QueueCall β → Option (ChannelHandles × ChannelMemory β)
  | .init o bUSBReqQueue =>
    let (_, pQ, m, _) := wrQueueInitOn o bUSBReqQueue m
    some (pQ, m)
  | .pushWrite alloc wbuffer =>
    (wrQueuePushWriteOn alloc wbuffer pQ m).map fun (_, _, pQ, m) => (pQ, m)
  | .pullRead forward rqRead rbuffer =>
    (wrQueuePullReadOn forward rqRead rbuffer pQ m).map fun (_, pQ, m, _) => (pQ, m)
  | .destroy =>
    let (pQ, m, _) := wrQueueDestroyOn pQ m
    some (pQ, m)
  | .cancel i =>
    (onReadBufferQueue (fun q => ((q.cancel i).map Prod.snd).getD q) pQ m).map fun m => (pQ, m)
  | .power d0 =>
    (onReadBufferQueue (fun q => { q with dispatching := d0 }) pQ m).map fun m => (pQ, m)

theorem LinkedInv.length_le (h : LinkedInv flags pQ es) : es.length ≤ pQ.pool.next := by
  by_cases hqsync : pQ.qsync = none
  · rw [h.null hqsync]
    exact Nat.zero_le _
  · have hnodup : es.Nodup :=
      List.Nodup.of_map _ (List.nodup_cons.1 (h.ring hqsync).nodup).2
    have hsub : es ⊆ List.range pQ.pool.next := by
      intro i hi
      obtain ⟨e, he, -⟩ := h.live i hi
      exact List.mem_range.2 (Store.lt_next he)
    simpa using (hnodup.subperm hsub).length_le

theorem LinkedInv.destroy (h : LinkedInv flags pQ es) :
    ∃ pQ' out calls, wrQueueDestroyLinked pQ = some (pQ', out) ∧
      wrQueueDestroyOn (pQ.handles es) pQ.memory = (pQ'.handles [], pQ'.memory, calls) ∧
      LinkedInv flags pQ' [] ∧ ∀ a ∈ out, a.Touches flags es := by
  unfold wrQueueDestroyLinked wrQueueDestroyOn
  by_cases hqsync : pQ.qsync = none
  · obtain rfl := h.null hqsync
    rw [if_pos hqsync]
    exact ⟨pQ, [], [], rfl, if_pos hqsync, h, nofun⟩
  · obtain ⟨links, out, hfree, hout⟩ := h.freeAll hqsync (Nat.lt_succ_of_le h.length_le)
    rw [if_neg hqsync, if_neg (c := (pQ.handles es).qsync = none) hqsync, hfree]
    refine ⟨_, out, _, rfl, Prod.ext rfl (Prod.ext ?_ rfl), ⟨?_, nofun, fun _ => rfl⟩, hout⟩
    · simp [LinkedQueue.memory, LinkedQueue.handles, Store.map_deleteAll]
    · intro hne
      exact absurd rfl hne

/-- `WRQueueInit` leaves an empty list, or no queue. -/
theorem wrQueueInitLinked_eq (flags : PoolFlags) (o : WRQueueOutcomes) (bUSBReqQueue : Bool)
    (pQ : LinkedQueue β) :
    ∃ status pQ' out calls, wrQueueInitLinked o bUSBReqQueue pQ = some (status, pQ', out) ∧
      wrQueueInitOn o bUSBReqQueue pQ.memory = (status, pQ'.handles [], pQ'.memory, calls) ∧
      LinkedInv flags pQ' [] ∧ ∀ a ∈ out, a.Touches flags [] := by
  obtain ⟨spinLockCreate, ioQueueCreate⟩ := o
  cases spinLockCreate with
  | error e =>
    have hinv : LinkedInv flags { pQ with
        links := pQ.links.clear .writeBufferQueue, readBufferQueue := none, qsync := none } [] :=
      ⟨fun hne => absurd rfl hne, nofun, fun _ => rfl⟩
    obtain ⟨pQ', out, calls, hdestroy, hon, hinv', hout⟩ := hinv.destroy
    refine ⟨e.status, pQ', out, calls, ?_, ?_, hinv', hout⟩
    · simp only [wrQueueInitLinked, hdestroy, Option.map_some]
    · exact congrArg (Prod.mk e.status) hon
  | ok =>
    -- the list is made before the queue of reads, so that `WRQueueDestroy` finds it
    have hinv (queues : Store (WdfQueue β)) (readBufferQueue : Option Nat) :
        LinkedInv flags { pQ with
          links := (pQ.links.clear .writeBufferQueue).initializeListHead .writeBufferQueue
          locks := pQ.locks.create (), qsync := some pQ.locks.next
          queues, readBufferQueue } [] :=
      ⟨fun _ => ListMemory.Ring.initializeListHead _ _, nofun, fun _ => rfl⟩
    cases ioQueueCreate with
    | error e =>
      obtain ⟨pQ', out, calls, hdestroy, hon, hinv', hout⟩ := (hinv pQ.queues none).destroy
      refine ⟨e.status, pQ', ⟨.writeBufferQueue, some .nonPaged, false⟩ :: out, calls, ?_, ?_,
        hinv', ?_⟩
      · simp only [wrQueueInitLinked, hdestroy, Option.map_some]
        rfl
      · exact congrArg (Prod.mk e.status) hon
      · intro a ha
        rcases List.mem_cons.1 ha with rfl | ha
        · exact Or.inl ⟨rfl, rfl⟩
        · exact hout a ha
    | ok =>
      refine ⟨statusSuccess, _, _, _, rfl, rfl, hinv _ _, ?_⟩
      intro a ha
      exact Or.inl (List.mem_singleton.1 ha ▸ ⟨rfl, rfl⟩)

theorem LinkedInv.insert (h : LinkedInv flags pQ es) (hqsync : pQ.qsync ≠ none)
    (content : BufferContent β) :
    ∃ links touched,
      pQ.links.insertTailList .writeBufferQueue (.bufferLink pQ.pool.next) =
        some (links, touched) ∧
      LinkedInv flags { pQ with links, pool := pQ.pool.create ⟨flags, content⟩ }
        (es ++ [pQ.pool.next]) ∧
      touched ⊆ ListNode.writeBufferQueue :: (es ++ [pQ.pool.next]).map .bufferLink := by
  have hnew : ListNode.bufferLink pQ.pool.next ∉
      ListNode.writeBufferQueue :: es.map .bufferLink := by
    intro hmem
    rcases List.mem_cons.1 hmem with hmem | hmem
    · cases hmem
    · obtain ⟨i, hi, hlink⟩ := List.mem_map.1 hmem
      obtain ⟨e, he, -⟩ := h.live i hi
      exact Nat.ne_of_lt (Store.lt_next he) (ListNode.bufferLink.inj hlink)
  obtain ⟨links, hinsert, hring⟩ := (h.ring hqsync).insertTailList hnew
  refine ⟨links, _, hinsert, ⟨fun _ => ?_, ?_, fun hnull => absurd hnull hqsync⟩, ?_⟩
  · rw [List.map_append]
    exact hring
  · intro i hi
    rcases List.mem_append.1 hi with hi | hi
    · obtain ⟨e, he, hflags⟩ := h.live i hi
      exact ⟨e, Store.get?_create_of_some he _, hflags⟩
    · obtain rfl := List.mem_singleton.1 hi
      exact ⟨_, (Store.get?_create _ _ _).trans (if_pos rfl), rfl⟩
  · rw [List.map_append]
    exact ListMemory.insertTailList_touched _ _ _

/-- **A push** does to the list of handles what it does to the links. -/
theorem LinkedInv.pushWrite (h : LinkedInv flags pQ es) (alloc : Bool) (wbuffer : List β) :
    (wrQueuePushWriteLinked flags alloc wbuffer pQ = none ∧
      wrQueuePushWriteOn alloc wbuffer (pQ.handles es) pQ.memory = none) ∨
    ∃ status r pQ' out es',
      wrQueuePushWriteLinked flags alloc wbuffer pQ = some (status, r, pQ', out) ∧
      wrQueuePushWriteOn alloc wbuffer (pQ.handles es) pQ.memory =
        some (status, r, pQ'.handles es', pQ'.memory) ∧
      LinkedInv flags pQ' es' ∧ ∀ a ∈ out, a.Touches flags es' := by
  unfold wrQueuePushWriteLinked wrQueuePushWriteOn
  dsimp only [LinkedQueue.handles, LinkedQueue.memory]
  cases hread : pQ.readBufferQueue with
  | none => exact Or.inl ⟨rfl, rfl⟩
  | some i =>
    simp only [Option.bind_some]
    cases hq : pQ.queues.get? i with
    | none => exact Or.inl ⟨rfl, rfl⟩
    | some q =>
      simp only [Option.bind_some]
      cases hnext : wdfIoQueueRetrieveNextRequest q with
      | some p =>
        exact Or.inr ⟨_, _, _, _, es, rfl, rfl, ⟨h.ring, h.live, h.null⟩, List.forall_mem_nil _⟩
      | none =>
        dsimp only
        cases alloc with
        | false =>
          refine Or.inr ⟨_, _, _, _, es, rfl, ?_, h, List.forall_mem_nil _⟩
          simp [hread]
        | true =>
          simp only [if_true]
          cases hqsync : pQ.qsync.bind pQ.locks.get? with
          | none => exact Or.inl ⟨rfl, rfl⟩
          | some lock =>
            have hne : pQ.qsync ≠ none := by
              intro hnull
              rw [hnull] at hqsync
              cases hqsync
            obtain ⟨links, touched, hinsert, hinv, htouched⟩ :=
              h.insert hne (BufferContent.ofBuffer wbuffer)
            simp only [Option.bind_some, hinsert, Option.map_some]
            refine Or.inr ⟨_, _, _, _, es ++ [pQ.pool.next], rfl, ?_, hread ▸ hinv, ?_⟩
            · simp
            · intro a ha
              rcases List.mem_cons.1 ha with rfl | ha
              · exact hinv.access (by simp) false
              · exact hinv.accesses htouched true a ha

/-- **A pull** does to the list of handles what it does to the links. -/
theorem LinkedInv.pullRead (h : LinkedInv flags pQ es) (o : ForwardOutcome)
    (rqRead : WdfRequest β) (rbuffer : Option (List β)) :
    (wrQueuePullReadLinked o rqRead rbuffer pQ = none ∧
      wrQueuePullReadOn o rqRead rbuffer (pQ.handles es) pQ.memory = none) ∨
    ∃ answer pQ' out es' calls,
      wrQueuePullReadLinked o rqRead rbuffer pQ = some (answer, pQ', out) ∧
      wrQueuePullReadOn o rqRead rbuffer (pQ.handles es) pQ.memory =
        some (answer, pQ'.handles es', pQ'.memory, calls) ∧
      LinkedInv flags pQ' es' ∧ ∀ a ∈ out, a.Touches flags es := by
  unfold wrQueuePullReadLinked wrQueuePullReadOn
  dsimp only [LinkedQueue.handles, LinkedQueue.memory]
  cases rbuffer with
  | none => exact Or.inr ⟨_, pQ, [], es, [], rfl, rfl, h, List.forall_mem_nil _⟩
  | some rbuffer =>
    dsimp only
    cases hqsync : pQ.qsync.bind pQ.locks.get? with
    | none => exact Or.inl ⟨rfl, rfl⟩
    | some lock =>
      have hne : pQ.qsync ≠ none := by
        intro hnull
        rw [hnull] at hqsync
        cases hqsync
      simp only [Option.bind_some]
      cases es with
      | nil =>
        obtain ⟨links, touched, hremove, hinv, htouched⟩ := h.remove_nil hne
        have hinv' (queues : Store (WdfQueue β)) : LinkedInv flags { pQ with links, queues } [] :=
          ⟨hinv.ring, hinv.live, hinv.null⟩
        simp only [hremove, Option.bind_some]
        cases hread : pQ.readBufferQueue with
        | none => exact Or.inl ⟨rfl, rfl⟩
        | some i =>
          simp only [Option.bind_some]
          cases hq : pQ.queues.get? i with
          | none => exact Or.inl ⟨rfl, rfl⟩
          | some q =>
            simp only [Option.map_some]
            cases wdfRequestForwardToIoQueue rqRead q o with
            | ok q' =>
              exact Or.inr ⟨_, _, _, [], _, rfl, rfl, hread ▸ hinv' _,
                h.accesses htouched true⟩
            | error e =>
              exact Or.inr ⟨_, _, _, [], _, rfl, by rw [← hread], hread ▸ hinv,
                h.accesses htouched true⟩
      | cons i is =>
        obtain ⟨links, touched, hremove, hinv, htouched⟩ := h.remove hne
        obtain ⟨e, he, -⟩ := h.live i List.mem_cons_self
        simp only [hremove, Option.bind_some, Store.get?_map, he, Option.map_some]
        refine Or.inr ⟨_, _, _, is, [.freePool i], rfl, ?_, hinv, ?_⟩
        · simp
        · intro a ha
          rcases List.mem_append.1 ha with ha | ha
          · exact h.accesses htouched true a ha
          · rw [List.mem_singleton.1 ha]
            exact h.access List.mem_cons_self false

/-- **One call** does to the list of handles what it does to the links, and touches the head and
the entries that are in the list before it or after it. -/
theorem LinkedInv.call (h : LinkedInv flags pQ es) (e : QueueCall β) :
    (linkedStepIn flags pQ e = none ∧ channelCall (pQ.handles es) pQ.memory e = none) ∨
    ∃ pQ' out es', linkedStepIn flags pQ e = some (pQ', out) ∧
      channelCall (pQ.handles es) pQ.memory e = some (pQ'.handles es', pQ'.memory) ∧
      LinkedInv flags pQ' es' ∧ ∀ a ∈ out, a.Touches flags (es ++ es') := by
  have hreads (f : WdfQueue β → WdfQueue β) :
      (pQ.onReadBufferQueue f = none ∧ onReadBufferQueue f (pQ.handles es) pQ.memory = none) ∨
      ∃ pQ', pQ.onReadBufferQueue f = some pQ' ∧
        onReadBufferQueue f (pQ.handles es) pQ.memory = some pQ'.memory ∧
        pQ.handles es = pQ'.handles es ∧ LinkedInv flags pQ' es := by
    unfold LinkedQueue.onReadBufferQueue onReadBufferQueue
    dsimp only [LinkedQueue.handles, LinkedQueue.memory]
    cases hread : pQ.readBufferQueue with
    | none => exact Or.inl ⟨rfl, rfl⟩
    | some i =>
      simp only [Option.bind_some]
      cases pQ.queues.get? i with
      | none => exact Or.inl ⟨rfl, rfl⟩
      | some q => exact Or.inr ⟨_, rfl, rfl, rfl, ⟨h.ring, h.live, h.null⟩⟩
  cases e with
  | init o bUSBReqQueue =>
    obtain ⟨status, pQ', out, calls, hinit, hon, hinv, hout⟩ :=
      wrQueueInitLinked_eq flags o bUSBReqQueue pQ
    refine Or.inr ⟨pQ', out, [], ?_, ?_, hinv, fun a ha => (hout a ha).mono (by simp)⟩
    · simp only [linkedStepIn, hinit, Option.map_some]
    · simp only [channelCall, hon]
  | pushWrite alloc wbuffer =>
    rcases h.pushWrite alloc wbuffer with ⟨hnone, hon⟩ | ⟨status, r, pQ', out, es', hpush, hon,
      hinv, hout⟩
    · exact Or.inl ⟨by simp only [linkedStepIn, hnone, Option.map_none],
        by simp only [channelCall, hon, Option.map_none]⟩
    · refine Or.inr ⟨pQ', out, es', ?_, ?_, hinv, fun a ha => (hout a ha).mono (by simp)⟩
      · simp only [linkedStepIn, hpush, Option.map_some]
      · simp only [channelCall, hon, Option.map_some]
  | pullRead forward rqRead rbuffer =>
    rcases h.pullRead forward rqRead rbuffer with ⟨hnone, hon⟩ | ⟨answer, pQ', out, es', calls,
      hpull, hon, hinv, hout⟩
    · exact Or.inl ⟨by simp only [linkedStepIn, hnone, Option.map_none],
        by simp only [channelCall, hon, Option.map_none]⟩
    · refine Or.inr ⟨pQ', out, es', ?_, ?_, hinv, fun a ha => (hout a ha).mono (by simp)⟩
      · simp only [linkedStepIn, hpull, Option.map_some]
      · simp only [channelCall, hon, Option.map_some]
  | destroy =>
    obtain ⟨pQ', out, calls, hdestroy, hon, hinv, hout⟩ := h.destroy
    refine Or.inr ⟨pQ', out, [], hdestroy, ?_, hinv, fun a ha => (hout a ha).mono (by simp)⟩
    simp only [channelCall, hon]
  | cancel i =>
    rcases hreads fun q => ((q.cancel i).map Prod.snd).getD q with ⟨hnone, hon⟩ | ⟨pQ', hsome,
      hon, hhandles, hinv⟩
    · exact Or.inl ⟨by simp only [linkedStepIn, hnone, Option.map_none],
        by simp only [channelCall, hon, Option.map_none]⟩
    · refine Or.inr ⟨pQ', [], es, ?_, ?_, hinv, List.forall_mem_nil _⟩
      · simp only [linkedStepIn, hsome, Option.map_some]
      · rw [channelCall, hon, Option.map_some, hhandles]
  | power d0 =>
    rcases hreads fun q => { q with dispatching := d0 } with ⟨hnone, hon⟩ | ⟨pQ', hsome, hon,
      hhandles, hinv⟩
    · exact Or.inl ⟨by simp only [linkedStepIn, hnone, Option.map_none],
        by simp only [channelCall, hon, Option.map_none]⟩
    · refine Or.inr ⟨pQ', [], es, ?_, ?_, hinv, List.forall_mem_nil _⟩
      · simp only [linkedStepIn, hsome, Option.map_some]
      · rw [channelCall, hon, Option.map_some, hhandles]

/-- **The links refine the list of handles**: a run on the links is a run on the list. -/
theorem linkedStep_simulates {pQ : LinkedQueue β} {es : List Nat} (h : LinkedInv flags pQ es)
    {t : List (QueueCall β)} {p : LinkedQueue β × List Access} {log : List Access}
    (hrun : run (logged (linkedStepIn flags)) (pQ, log) t = some p) :
    ∃ es', run (fun c e => channelCall c.1 c.2 e) (pQ.handles es, pQ.memory) t =
      some (p.1.handles es', p.1.memory) ∧ LinkedInv flags p.1 es' := by
  have hstep (p : LinkedQueue β × List Access) (c : ChannelHandles × ChannelMemory β)
      (e : QueueCall β) (p' : LinkedQueue β × List Access)
      (hc : ∃ es, c = (p.1.handles es, p.1.memory) ∧ LinkedInv flags p.1 es)
      (hstep : logged (linkedStepIn flags) p e = some p') :
      ∃ c', channelCall c.1 c.2 e = some c' ∧
        ∃ es', c' = (p'.1.handles es', p'.1.memory) ∧ LinkedInv flags p'.1 es' := by
    obtain ⟨es, rfl, hinv⟩ := hc
    obtain ⟨out, hout, -⟩ := logged_eq_some.1 hstep
    rcases hinv.call e with ⟨hnone, -⟩ | ⟨pQ', out', es', hsome, hcall, hinv', -⟩
    · rw [hnone] at hout
      cases hout
    · rw [hsome] at hout
      cases hout
      exact ⟨_, hcall, es', rfl, hinv'⟩
  obtain ⟨c, hc, es', rfl, hinv⟩ := run_simulates hstep ⟨es, rfl, h⟩ hrun
  exact ⟨es', hc, hinv⟩

/-! ## Paged memory under the lock -/

/-- Only a stored write lengthens the list. -/
theorem channelCall_subset {c c' : ChannelHandles} {m m' : ChannelMemory β} {e : QueueCall β}
    (hcall : channelCall c m e = some (c', m'))
    (hstores : e.stores (c.readBufferQueue.bind m.queues.get?) = false) :
    c'.writeBufferQueue ⊆ c.writeBufferQueue := by
  cases e with
  | init o bUSBReqQueue =>
    obtain ⟨spinLockCreate, ioQueueCreate⟩ := o
    obtain rfl := congrArg Prod.fst (Option.some.inj hcall)
    cases spinLockCreate <;> cases ioQueueCreate <;> exact List.nil_subset _
  | pushWrite alloc wbuffer =>
    obtain ⟨⟨status, r, c₁, m₁⟩, hpush, heq⟩ := Option.map_eq_some_iff.1 hcall
    obtain ⟨rfl, rfl⟩ := Prod.mk.inj heq
    obtain ⟨i, hread, hpush⟩ := Option.bind_eq_some_iff.1 hpush
    obtain ⟨q, hq, hpush⟩ := Option.bind_eq_some_iff.1 hpush
    simp only [QueueCall.stores, hread, Option.bind_some, hq] at hstores
    cases hnext : wdfIoQueueRetrieveNextRequest q with
    | some p =>
      rw [hnext] at hpush
      cases hpush
      exact List.Subset.refl _
    | none =>
      rw [hnext] at hpush hstores
      obtain rfl : alloc = false := by simpa using hstores
      cases hpush
      exact List.Subset.refl _
  | pullRead forward rqRead rbuffer =>
    obtain ⟨⟨answer, c₁, m₁, calls⟩, hpull, heq⟩ := Option.map_eq_some_iff.1 hcall
    obtain ⟨rfl, rfl⟩ := Prod.mk.inj heq
    cases rbuffer with
    | none =>
      cases hpull
      exact List.Subset.refl _
    | some rbuffer =>
      obtain ⟨lock, -, hpull⟩ := Option.bind_eq_some_iff.1 hpull
      cases hes : c.writeBufferQueue with
      | nil =>
        rw [hes] at hpull
        obtain ⟨i, -, hpull⟩ := Option.bind_eq_some_iff.1 hpull
        obtain ⟨q, -, hpull⟩ := Option.map_eq_some_iff.1 hpull
        split at hpull <;>
        · cases hpull
          exact hes ▸ List.Subset.refl _
      | cons i is =>
        rw [hes] at hpull
        obtain ⟨e, -, hpull⟩ := Option.map_eq_some_iff.1 hpull
        cases hpull
        exact List.subset_cons_self i is
  | destroy =>
    have hc : (wrQueueDestroyOn c m).1 = c' := congrArg Prod.fst (Option.some.inj hcall)
    rw [← hc, wrQueueDestroyOn]
    split
    · exact List.Subset.refl _
    · exact List.nil_subset _
  | cancel i =>
    obtain ⟨m₁, -, heq⟩ := Option.map_eq_some_iff.1 hcall
    obtain rfl := (Prod.mk.inj heq).1
    exact List.Subset.refl _
  | power d0 =>
    obtain ⟨m₁, -, heq⟩ := Option.map_eq_some_iff.1 hcall
    obtain rfl := (Prod.mk.inj heq).1
    exact List.Subset.refl _

/-- A stored write is linked under the lock. -/
theorem linkedStepIn_stores {e : QueueCall β} (hstores : e.stores pQ.reads = true)
    (hstep : linkedStepIn flags pQ e = some (pQ', out)) :
    (⟨.bufferLink pQ.pool.next, some flags, true⟩ : Access) ∈ out := by
  cases e with
  | pushWrite alloc wbuffer =>
    obtain ⟨⟨status, r, pQ₁, out₁⟩, hpush, heq⟩ := Option.map_eq_some_iff.1 hstep
    obtain ⟨rfl, rfl⟩ := Prod.mk.inj heq
    obtain ⟨i, hread, hpush⟩ := Option.bind_eq_some_iff.1 hpush
    obtain ⟨q, hq, hpush⟩ := Option.bind_eq_some_iff.1 hpush
    simp only [QueueCall.stores, LinkedQueue.reads, hread, Option.bind_some, hq,
      Bool.and_eq_true, Option.isNone_iff_eq_none] at hstores
    obtain ⟨rfl, hnext⟩ := hstores
    simp only [hnext, if_true] at hpush
    obtain ⟨lock, -, hpush⟩ := Option.bind_eq_some_iff.1 hpush
    obtain ⟨⟨links, touched⟩, hinsert, heq⟩ := Option.map_eq_some_iff.1 hpush
    obtain ⟨blink, -, heq'⟩ := Option.map_eq_some_iff.1 hinsert
    cases heq'
    cases heq
    refine List.mem_cons_of_mem _ (List.mem_map.2 ⟨.bufferLink pQ.pool.next, by simp, ?_⟩)
    simp [LinkedQueue.access, LinkedQueue.poolOf, Store.get?_create]
  | init o bUSBReqQueue => cases hstores
  | pullRead forward rqRead rbuffer => cases hstores
  | destroy => cases hstores
  | cancel i => cases hstores
  | power d0 => cases hstores

end

/-- **No paged memory under the spin lock**, exactly when no write is ever stored: when every
`WRQueuePushWrite` finds a parked read, or gets no memory. -/
theorem nonPagedUnderLock_iff {t : List (QueueCall β)} {pQ : LinkedQueue β} {log : List Access}
    (hrun : run (logged linkedStep) (LinkedQueue.zeroed, []) t = some (pQ, log)) :
    Along (fun p e => e.stores p.1.reads = false) (logged linkedStep) (LinkedQueue.zeroed, []) t ↔
      ∀ a ∈ log, a.qsyncHeld = true → a.pool = some .nonPaged := by
  refine along_iff_logged (C := fun (pQ : LinkedQueue β) e => e.stores pQ.reads = false)
    (fun pQ => LinkedInv .paged pQ []) _ ?_ ?_ ?_ nofun hrun
  · intro pQ e pQ' out hinv hstores hstep
    rcases hinv.call e with ⟨hnone, -⟩ | ⟨pQ₁, out₁, es', hsome, hcall, hinv', hout⟩
    · rw [linkedStep, hnone] at hstep
      cases hstep
    · rw [linkedStep, hsome] at hstep
      cases hstep
      obtain rfl : es' = [] := List.subset_nil.1 (channelCall_subset hcall hstores)
      refine ⟨hinv', fun a ha _ => ?_⟩
      rcases hout a ha with ⟨-, hpool⟩ | ⟨i, hi, -⟩
      · exact hpool
      · cases hi
  · intro pQ e pQ' out _ hstores hstep
    refine ⟨_, linkedStepIn_stores (Bool.not_eq_false _ ▸ hstores) hstep, ?_⟩
    intro hgood
    cases hgood rfl
  · exact ⟨fun hne => absurd rfl hne, nofun, fun _ => rfl⟩

/-- A read is parked before the write comes, and the queue is destroyed. -/
theorem parkedRead_nonPaged :
    ∃ (pQ : LinkedQueue UInt8) (log : List Access), run (logged linkedStep)
        (LinkedQueue.zeroed, [])
        [.init ⟨.ok (), .ok ()⟩ false,
          .pullRead ⟨false, ⟨statusWdfPaused, statusWdfPaused_failed⟩⟩ ⟨0, .read, [0]⟩ (some [0]),
          .pushWrite true [1], .destroy] = some (pQ, log) ∧
      ∀ a ∈ log, a.qsyncHeld = true → a.pool = some .nonPaged := by
  obtain ⟨⟨pQ, log⟩, hrun⟩ := Option.isSome_iff_exists.1 (show (run (logged linkedStep)
    ((LinkedQueue.zeroed : LinkedQueue UInt8), []) [.init ⟨.ok (), .ok ()⟩ false,
      .pullRead ⟨false, ⟨statusWdfPaused, statusWdfPaused_failed⟩⟩ ⟨0, .read, [0]⟩ (some [0]),
      .pushWrite true [1], .destroy]).isSome = true by decide)
  exact ⟨pQ, log, hrun, (nonPagedUnderLock_iff hrun).1 (by decide)⟩

/-- The write comes first. -/
theorem storedWrite_paged :
    ¬ ∀ (t : List (QueueCall UInt8)) (pQ : LinkedQueue UInt8) (log : List Access),
      run (logged linkedStep) (LinkedQueue.zeroed, []) t = some (pQ, log) →
        ∀ a ∈ log, a.qsyncHeld = true → a.pool = some .nonPaged := by
  intro hall
  have hpaged := hall [.init ⟨.ok (), .ok ()⟩ false, .pushWrite true [1]] _ _ rfl
    ⟨.bufferLink 0, some .paged, true⟩ (by decide) rfl
  cases hpaged

/-- With entries from non-paged pool, no run touches other memory. -/
theorem nonPaged_safe {t : List (QueueCall β)} {pQ : LinkedQueue β} {log : List Access}
    (hrun : run (logged (linkedStepIn .nonPaged)) (LinkedQueue.zeroed, []) t = some (pQ, log)) :
    ∀ a ∈ log, a.pool = some .nonPaged := by
  refine (run_invariant (P := fun _ p => (∃ es, LinkedInv .nonPaged p.1 es) ∧
    ∀ a ∈ p.2, a.pool = some .nonPaged) ⟨⟨[], ?_⟩, nofun⟩ ?_ hrun).2
  · exact ⟨fun hne => absurd rfl hne, nofun, fun _ => rfl⟩
  · rintro t p e p' - ⟨⟨es, hinv⟩, hlog⟩ hstep
    obtain ⟨out, hout, heq⟩ := logged_eq_some.1 hstep
    rcases hinv.call e with ⟨hnone, -⟩ | ⟨pQ₁, out₁, es', hsome, -, hinv', htouch⟩
    · rw [hnone] at hout
      cases hout
    · rw [hsome] at hout
      cases hout
      refine ⟨⟨es', hinv'⟩, ?_⟩
      intro a ha
      rw [heq] at ha
      rcases List.mem_append.1 ha with ha | ha
      · exact hlog a ha
      · rcases htouch a ha with ⟨-, hpool⟩ | ⟨i, -, -, hpool⟩
        · exact hpool
        · exact hpool

end UdeSample
