import UdeSample.Gadget.Loopback

/-!
# The request pairs on the heap

`HeapInv` is the invariant of the heap of the loopback function: the live requests and buffers are
those of a list of pairs that have nothing in common, and what was freed was freed once. It is kept
by freeing a pair, by setting its IN request up, and by making a new one.
-/

namespace UdeSample

open Lib

structure LoopPair where
  outReq : Nat
  inReq : Nat
  buf : Nat
deriving DecidableEq

def LoopPair.req (p : LoopPair) : LoopEp → Nat
  | .outEp => p.outReq
  | .inEp => p.inReq

def LoopConfig.outLength (cfg : LoopConfig) : Nat := cfg.usbEpAlign cfg.buflen

def freedRequests (log : List LoopRecord) : List Nat :=
  log.filterMap fun
    | .freedRequest req => some req
    | .made _ _ _ | .freedBuffer _ => none

def freedBuffers (log : List LoopRecord) : List Nat :=
  log.filterMap fun
    | .freedBuffer buf => some buf
    | .made _ _ _ | .freedRequest _ => none

@[simp] theorem freedRequests_append (log out : List LoopRecord) :
    freedRequests (log ++ out) = freedRequests log ++ freedRequests out := List.filterMap_append

@[simp] theorem freedBuffers_append (log out : List LoopRecord) :
    freedBuffers (log ++ out) = freedBuffers log ++ freedBuffers out := List.filterMap_append

/-! ## The heap -/

/-- The two requests of a live pair point to each other and to their buffer. -/
structure PairLive (cfg : LoopConfig) (heap : LoopHeap) (p : LoopPair) : Prop where
  outReq : heap.requests.get? p.outReq =
    some ⟨.outEp, some p.buf, some p.inReq, cfg.outLength, false⟩
  inReq : ∃ length zero, heap.requests.get? p.inReq =
    some ⟨.inEp, some p.buf, some p.outReq, length, zero⟩
  buf : heap.buffers.get? p.buf = some ()

/-- Nothing of a pair is live any more. -/
structure PairDead (heap : LoopHeap) (p : LoopPair) : Prop where
  outReq : heap.requests.get? p.outReq = none ∧ p.outReq < heap.requests.next
  inReq : heap.requests.get? p.inReq = none ∧ p.inReq < heap.requests.next
  buf : heap.buffers.get? p.buf = none ∧ p.buf < heap.buffers.next

/-- The pairs have nothing in common. -/
def LoopPair.Apart (p q : LoopPair) : Prop :=
  p.outReq ≠ q.outReq ∧ p.inReq ≠ q.inReq ∧ p.buf ≠ q.buf

/-- The live requests and buffers are those of the pairs `ps`, and the freed ones are recorded. -/
structure HeapInv (cfg : LoopConfig) (heap : LoopHeap) (ps : List LoopPair)
    (log : List LoopRecord) : Prop where
  live : ∀ p ∈ ps, PairLive cfg heap p
  apart : ps.Pairwise LoopPair.Apart
  requests : ∀ h r, heap.requests.get? h = some r → ∃ p ∈ ps, h = p.outReq ∨ h = p.inReq
  buffers : ∀ b u, heap.buffers.get? b = some u → ∃ p ∈ ps, b = p.buf
  freedRequests : heap.requests.FreedOnce (freedRequests log)
  freedBuffers : heap.buffers.FreedOnce (freedBuffers log)
  made : ∀ p : LoopPair, .made p.outReq p.inReq p.buf ∈ log → p ∈ ps ∨ PairDead heap p

section

variable {cfg : LoopConfig} {heap : LoopHeap} {p q : LoopPair} {ps : List LoopPair}
  {log : List LoopRecord}

theorem LoopPair.Apart.symm (h : p.Apart q) : q.Apart p :=
  ⟨h.1.symm, h.2.1.symm, h.2.2.symm⟩

/-- An OUT request is no IN request. -/
theorem PairLive.outReq_ne_inReq (hp : PairLive cfg heap p) (hq : PairLive cfg heap q) :
    p.outReq ≠ q.inReq := by
  intro heq
  obtain ⟨length, zero, hin⟩ := hq.inReq
  rw [← heq, hp.outReq] at hin
  cases hin

theorem HeapInv.perm {ps' : List LoopPair} (h : HeapInv cfg heap ps log) (hp : ps.Perm ps') :
    HeapInv cfg heap ps' log where
  live p hm := h.live p (hp.mem_iff.2 hm)
  apart := (hp.pairwise_iff LoopPair.Apart.symm).1 h.apart
  requests i r hr := by
    obtain ⟨p, hm, hi⟩ := h.requests i r hr
    exact ⟨p, hp.mem_iff.1 hm, hi⟩
  buffers b u hb := by
    obtain ⟨p, hm, hi⟩ := h.buffers b u hb
    exact ⟨p, hp.mem_iff.1 hm, hi⟩
  freedRequests := h.freedRequests
  freedBuffers := h.freedBuffers
  made p hm := (h.made p hm).imp_left hp.mem_iff.1

/-- The heap without the requests of a pair and its buffer. -/
def LoopHeap.withoutPair (heap : LoopHeap) (a b buf : Nat) : LoopHeap :=
  ⟨(heap.requests.delete a).delete b, heap.buffers.delete buf⟩

theorem get?_withoutPair (a b buf i : Nat) :
    (heap.withoutPair a b buf).requests.get? i =
      if i = a ∨ i = b then none else heap.requests.get? i := by
  rw [LoopHeap.withoutPair, Store.get?_delete, Store.get?_delete]
  by_cases hb : i = b
  · simp [hb]
  · simp [hb]

theorem PairDead.withoutPair (h : PairDead heap p) (a b buf : Nat) :
    PairDead (heap.withoutPair a b buf) p := by
  refine ⟨⟨?_, ?_⟩, ⟨?_, ?_⟩, ⟨?_, ?_⟩⟩
  · rw [get?_withoutPair, h.outReq.1, ite_self]
  · simpa [LoopHeap.withoutPair] using h.outReq.2
  · rw [get?_withoutPair, h.inReq.1, ite_self]
  · simpa [LoopHeap.withoutPair] using h.inReq.2
  · rw [LoopHeap.withoutPair, Store.get?_delete, h.buf.1, ite_self]
  · simpa [LoopHeap.withoutPair] using h.buf.2

section

variable {a b : Nat} (hab : a = p.outReq ∧ b = p.inReq ∨ a = p.inReq ∧ b = p.outReq)

include hab

theorem get?_withoutPair_of (i : Nat) : (heap.withoutPair a b p.buf).requests.get? i =
    if i = p.outReq ∨ i = p.inReq then none else heap.requests.get? i := by
  rw [get?_withoutPair]
  rcases hab with ⟨rfl, rfl⟩ | ⟨rfl, rfl⟩
  · rfl
  · simp only [or_comm]

/-- The other pairs stay live. -/
theorem PairLive.withoutPair (hp : PairLive cfg heap p) (hq : PairLive cfg heap q)
    (happart : p.Apart q) : PairLive cfg (heap.withoutPair a b p.buf) q := by
  obtain ⟨houts, hins, hbufs⟩ := happart
  obtain ⟨n, z, hin⟩ := hq.inReq
  refine ⟨?_, ⟨n, z, ?_⟩, ?_⟩
  · have hne := hq.outReq_ne_inReq hp
    rw [get?_withoutPair_of hab, if_neg (by tauto), hq.outReq]
  · have hne := hp.outReq_ne_inReq hq
    rw [get?_withoutPair_of hab, if_neg (by tauto), hin]
  · rw [LoopHeap.withoutPair, Store.get?_delete, if_neg (Ne.symm hbufs), hq.buf]

theorem PairLive.dead_withoutPair (hp : PairLive cfg heap p) :
    PairDead (heap.withoutPair a b p.buf) p := by
  obtain ⟨n, z, hin⟩ := hp.inReq
  refine ⟨⟨?_, ?_⟩, ⟨?_, ?_⟩, ⟨?_, ?_⟩⟩
  · rw [get?_withoutPair_of hab, if_pos (Or.inl rfl)]
  · simpa [LoopHeap.withoutPair] using Store.lt_next hp.outReq
  · rw [get?_withoutPair_of hab, if_pos (Or.inr rfl)]
  · simpa [LoopHeap.withoutPair] using Store.lt_next hin
  · rw [LoopHeap.withoutPair, Store.get?_delete, if_pos rfl]
  · simpa [LoopHeap.withoutPair] using Store.lt_next hp.buf

/-- Neither request was freed before. -/
theorem PairLive.freedOnce (hp : PairLive cfg heap p) {freed : List Nat}
    (h : heap.requests.FreedOnce freed) :
    ((heap.requests.delete a).delete b).FreedOnce (freed ++ [a] ++ [b]) := by
  obtain ⟨n, z, hin⟩ := hp.inReq
  have hne : p.outReq ≠ p.inReq := hp.outReq_ne_inReq hp
  rcases hab with ⟨rfl, rfl⟩ | ⟨rfl, rfl⟩
  · have hleft := (Store.get?_delete heap.requests p.outReq p.inReq).trans (if_neg hne.symm)
    exact (h.delete hp.outReq).delete (hleft.trans hin)
  · have hleft := (Store.get?_delete heap.requests p.inReq p.outReq).trans (if_neg hne)
    exact (h.delete hin).delete (hleft.trans hp.outReq)

/-- **Both requests of a pair and its buffer** are freed. -/
theorem HeapInv.free (h : HeapInv cfg heap (p :: ps) log) {out : List LoopRecord}
    (hreqs : UdeSample.freedRequests out = [a, b]) (hbufs : UdeSample.freedBuffers out = [p.buf])
    (hmade : ∀ o i b, .made o i b ∉ out) :
    HeapInv cfg (heap.withoutPair a b p.buf) ps (log ++ out) := by
  have hp := h.live p List.mem_cons_self
  obtain ⟨hpq, hps⟩ := List.pairwise_cons.1 h.apart
  refine ⟨?_, hps, ?_, ?_, ?_, ?_, ?_⟩
  · intro q hq
    exact hp.withoutPair hab (h.live q (List.mem_cons_of_mem p hq)) (hpq q hq)
  · intro i r hr
    rw [get?_withoutPair_of hab] at hr
    split at hr
    · cases hr
    · next hne =>
      obtain ⟨q, hq, hi⟩ := h.requests i r hr
      rcases List.mem_cons.1 hq with rfl | hq
      · exact absurd hi hne
      · exact ⟨q, hq, hi⟩
  · intro b' u hb
    rw [LoopHeap.withoutPair, Store.get?_delete] at hb
    split at hb
    · cases hb
    · next hne =>
      obtain ⟨q, hq, hi⟩ := h.buffers b' u hb
      rcases List.mem_cons.1 hq with rfl | hq
      · exact absurd hi hne
      · exact ⟨q, hq, hi⟩
  · rw [freedRequests_append, hreqs, LoopHeap.withoutPair]
    simpa using hp.freedOnce hab h.freedRequests
  · rw [freedBuffers_append, hbufs]
    exact h.freedBuffers.delete hp.buf
  · intro q hq
    rcases List.mem_append.1 hq with hq | hq
    · rcases h.made q hq with hmem | hdead
      · rcases List.mem_cons.1 hmem with rfl | hmem
        · exact Or.inr (hp.dead_withoutPair hab)
        · exact Or.inl hmem
      · exact Or.inr (hdead.withoutPair a b p.buf)
    · exact absurd hq (hmade _ _ _)

end

/-- The length and the flag of the IN request of a pair are set. -/
def LoopHeap.setIn (heap : LoopHeap) (p : LoopPair) (length : Nat) (zero : Bool) : LoopHeap :=
  { heap with
    requests := heap.requests.update p.inReq ⟨.inEp, some p.buf, some p.outReq, length, zero⟩ }

theorem get?_setIn (hp : PairLive cfg heap p) (length : Nat) (zero : Bool) (i : Nat) :
    (heap.setIn p length zero).requests.get? i =
      if i = p.inReq then some ⟨.inEp, some p.buf, some p.outReq, length, zero⟩
      else heap.requests.get? i := by
  obtain ⟨n, z, hin⟩ := hp.inReq
  exact Store.get?_update hin _ i

theorem PairDead.setIn (h : PairDead heap q) (hp : PairLive cfg heap p) (length : Nat)
    (zero : Bool) : PairDead (heap.setIn p length zero) q := by
  obtain ⟨n, z, hin⟩ := hp.inReq
  have hne : ∀ i, heap.requests.get? i = none → i ≠ p.inReq := by
    rintro i hnone rfl
    rw [hin] at hnone
    cases hnone
  refine ⟨⟨?_, ?_⟩, ⟨?_, ?_⟩, h.buf⟩
  · rw [get?_setIn hp, if_neg (hne _ h.outReq.1), h.outReq.1]
  · simpa [LoopHeap.setIn] using h.outReq.2
  · rw [get?_setIn hp, if_neg (hne _ h.inReq.1), h.inReq.1]
  · simpa [LoopHeap.setIn] using h.inReq.2

theorem HeapInv.setIn (h : HeapInv cfg heap (p :: ps) log) (length : Nat) (zero : Bool) :
    HeapInv cfg (heap.setIn p length zero) (p :: ps) log := by
  have hp := h.live p List.mem_cons_self
  obtain ⟨n, z, hin⟩ := hp.inReq
  refine ⟨?_, h.apart, ?_, h.buffers, h.freedRequests.update hin _, h.freedBuffers, ?_⟩
  · intro q hq
    have hlive := h.live q hq
    refine ⟨?_, ?_, hlive.buf⟩
    · rw [get?_setIn hp, if_neg (hlive.outReq_ne_inReq hp), hlive.outReq]
    · rcases List.mem_cons.1 hq with rfl | hmem
      · exact ⟨length, zero, by rw [get?_setIn hp, if_pos rfl]⟩
      · have happart := (List.pairwise_cons.1 h.apart).1 q hmem
        obtain ⟨n', z', hin'⟩ := hlive.inReq
        exact ⟨n', z', by rw [get?_setIn hp, if_neg happart.2.1.symm, hin']⟩
  · intro i r hr
    rw [get?_setIn hp] at hr
    split at hr
    · next hi => exact ⟨p, List.mem_cons_self, Or.inr hi⟩
    · exact h.requests i r hr
  · exact fun q hq => (h.made q hq).imp_right fun hdead => hdead.setIn hp length zero

/-! ## A new pair -/

/-- The heap of `alloc_requests` with a new pair. -/
def LoopHeap.withPair (cfg : LoopConfig) (heap : LoopHeap) : LoopHeap where
  requests :=
    let inReq := heap.requests.next
    let requests := heap.requests.create ⟨.inEp, none, none, 0, false⟩
    let outReq := requests.next
    let requests := requests.create ⟨.outEp, some heap.buffers.next, none, cfg.outLength, false⟩
    let requests := requests.update inReq
      ⟨.inEp, some heap.buffers.next, some outReq, 0, false⟩
    requests.update outReq ⟨.outEp, some heap.buffers.next, some inReq, cfg.outLength, false⟩
  buffers := heap.buffers.create ()

/-- The next pair of a heap. -/
def LoopHeap.nextPair (heap : LoopHeap) : LoopPair :=
  ⟨heap.requests.next + 1, heap.requests.next, heap.buffers.next⟩

theorem get?_withPair (i : Nat) : (heap.withPair cfg).requests.get? i =
    if i = heap.requests.next + 1 then
      some ⟨.outEp, some heap.buffers.next, some heap.requests.next, cfg.outLength, false⟩
    else if i = heap.requests.next then
      some ⟨.inEp, some heap.buffers.next, some (heap.requests.next + 1), 0, false⟩
    else heap.requests.get? i := by
  have hin := Store.get?_create heap.requests ⟨.inEp, none, none, 0, false⟩
  have hout := Store.get?_create (heap.requests.create ⟨.inEp, none, none, 0, false⟩)
    ⟨.outEp, some heap.buffers.next, none, cfg.outLength, false⟩
  have hin₁ : ((heap.requests.create ⟨.inEp, none, none, 0, false⟩).create
      ⟨.outEp, some heap.buffers.next, none, cfg.outLength, false⟩).get? heap.requests.next =
      some ⟨.inEp, none, none, 0, false⟩ := by
    rw [hout, Store.next_create, if_neg (Nat.ne_of_lt (Nat.lt_succ_self _)), hin, if_pos rfl]
  have hset := Store.get?_update hin₁
    ⟨.inEp, some heap.buffers.next, some (heap.requests.next + 1), 0, false⟩
  have hout₁ := hset (heap.requests.next + 1)
  rw [if_neg (Nat.succ_ne_self _), hout, Store.next_create, if_pos rfl] at hout₁
  simp only [LoopHeap.withPair, Store.next_create]
  rw [Store.get?_update hout₁, hset, hout, hin, Store.next_create]
  by_cases hi : i = heap.requests.next + 1
  · rw [if_pos hi, if_pos hi]
  · rw [if_neg hi, if_neg hi, if_neg hi]
    by_cases hi' : i = heap.requests.next
    · rw [if_pos hi', if_pos hi']
    · rw [if_neg hi', if_neg hi', if_neg hi']

@[simp] theorem next_withPair : (heap.withPair cfg).requests.next = heap.requests.next + 2 := by
  simp [LoopHeap.withPair]

/-- What was live is older than the new pair. -/
theorem PairLive.lt_nextPair (h : PairLive cfg heap p) :
    p.outReq < heap.requests.next ∧ p.inReq < heap.requests.next ∧ p.buf < heap.buffers.next := by
  obtain ⟨n, z, hin⟩ := h.inReq
  exact ⟨Store.lt_next h.outReq, Store.lt_next hin, Store.lt_next h.buf⟩

theorem get?_withPair_of_lt {i : Nat} (h : i < heap.requests.next) :
    (heap.withPair cfg).requests.get? i = heap.requests.get? i := by
  rw [get?_withPair, if_neg (by omega), if_neg (by omega)]

theorem get?_withPair_buf_of_lt {i : Nat} (h : i < heap.buffers.next) :
    (heap.withPair cfg).buffers.get? i = heap.buffers.get? i := by
  rw [LoopHeap.withPair, Store.get?_create, if_neg (by omega)]

theorem nextPair_live : PairLive cfg (heap.withPair cfg) heap.nextPair := by
  refine ⟨?_, ⟨0, false, ?_⟩, ?_⟩
  · rw [LoopHeap.nextPair, get?_withPair, if_pos rfl]
  · rw [LoopHeap.nextPair, get?_withPair, if_neg (Nat.ne_of_lt (Nat.lt_succ_self _)), if_pos rfl]
  · rw [LoopHeap.nextPair, LoopHeap.withPair, Store.get?_create, if_pos rfl]

theorem PairLive.withPair (h : PairLive cfg heap p) : PairLive cfg (heap.withPair cfg) p := by
  obtain ⟨hout, hin, hbuf⟩ := h.lt_nextPair
  obtain ⟨n, z, hrec⟩ := h.inReq
  refine ⟨?_, ⟨n, z, ?_⟩, ?_⟩
  · rw [get?_withPair_of_lt hout, h.outReq]
  · rw [get?_withPair_of_lt hin, hrec]
  · rw [get?_withPair_buf_of_lt hbuf, h.buf]

theorem PairDead.withPair (h : PairDead heap p) : PairDead (heap.withPair cfg) p := by
  refine ⟨⟨?_, ?_⟩, ⟨?_, ?_⟩, ⟨?_, ?_⟩⟩
  · rw [get?_withPair_of_lt h.outReq.2, h.outReq.1]
  · rw [next_withPair]
    exact Nat.lt_add_right 2 h.outReq.2
  · rw [get?_withPair_of_lt h.inReq.2, h.inReq.1]
  · rw [next_withPair]
    exact Nat.lt_add_right 2 h.inReq.2
  · rw [get?_withPair_buf_of_lt h.buf.2, h.buf.1]
  · simpa [LoopHeap.withPair] using Nat.lt_add_right 1 h.buf.2

/-- The two requests of a new pair are new, so neither was freed. -/
theorem freedOnce_withPair {freed : List Nat} (h : heap.requests.FreedOnce freed) :
    (heap.withPair cfg).requests.FreedOnce freed := by
  intro i
  rw [h i, get?_withPair, next_withPair]
  by_cases hi : i = heap.requests.next + 1
  · subst hi
    have hlt : ¬ heap.requests.next + 1 < heap.requests.next := by omega
    simp [hlt]
  · by_cases hi' : i = heap.requests.next
    · simp [hi']
    · have hlt : i < heap.requests.next + 2 ↔ i < heap.requests.next := by omega
      simp [hi, hi', hlt]

/-- **A new pair** joins the live ones. -/
theorem HeapInv.create (h : HeapInv cfg heap ps log) :
    HeapInv cfg (heap.withPair cfg) (heap.nextPair :: ps)
      (log ++ [.made heap.nextPair.outReq heap.nextPair.inReq heap.nextPair.buf]) := by
  refine ⟨?_, ?_, ?_, ?_, ?_, ?_, ?_⟩
  · intro q hq
    rcases List.mem_cons.1 hq with rfl | hq
    · exact nextPair_live
    · exact (h.live q hq).withPair
  · refine List.pairwise_cons.2 ⟨?_, h.apart⟩
    intro q hq
    obtain ⟨hout, hin, hbuf⟩ := (h.live q hq).lt_nextPair
    simp only [LoopHeap.nextPair]
    refine ⟨?_, ?_, ?_⟩ <;> dsimp only <;> omega
  · intro i r hr
    rw [get?_withPair] at hr
    split at hr
    · next hi => exact ⟨_, List.mem_cons_self, Or.inl hi⟩
    · split at hr
      · next hi => exact ⟨_, List.mem_cons_self, Or.inr hi⟩
      · obtain ⟨q, hq, hi⟩ := h.requests i r hr
        exact ⟨q, List.mem_cons_of_mem _ hq, hi⟩
  · intro b u hb
    rw [LoopHeap.withPair, Store.get?_create] at hb
    split at hb
    · next hi => exact ⟨_, List.mem_cons_self, hi⟩
    · obtain ⟨q, hq, hi⟩ := h.buffers b u hb
      exact ⟨q, List.mem_cons_of_mem _ hq, hi⟩
  · rw [freedRequests_append]
    simpa [UdeSample.freedRequests] using freedOnce_withPair h.freedRequests
  · rw [freedBuffers_append]
    simpa [UdeSample.freedBuffers, LoopHeap.withPair] using h.freedBuffers.create ()
  · intro q hq
    rcases List.mem_append.1 hq with hq | hq
    · rcases h.made q hq with hmem | hdead
      · exact Or.inl (List.mem_cons_of_mem _ hmem)
      · exact Or.inr hdead.withPair
    · obtain ⟨qo, qi, qb⟩ := q
      cases List.mem_singleton.1 hq
      exact Or.inl List.mem_cons_self

/-- An IN request allocated and freed again. -/
theorem HeapInv.createFree (h : HeapInv cfg heap ps log) (r : UsbRequest) :
    HeapInv cfg
      { heap with requests := (heap.requests.create r).delete heap.requests.next } ps
      (log ++ [.freedRequest heap.requests.next]) := by
  have hget : ∀ i, ((heap.requests.create r).delete heap.requests.next).get? i =
      heap.requests.get? i := by
    intro i
    rw [Store.get?_delete, Store.get?_create]
    by_cases hi : i = heap.requests.next
    · rw [if_pos hi, hi, Store.get?_next]
    · rw [if_neg hi, if_neg hi]
  have hlt : ∀ i, i < heap.requests.next →
      i < ((heap.requests.create r).delete heap.requests.next).next := by
    intro i hi
    rw [Store.next_delete, Store.next_create]
    exact Nat.lt_succ_of_lt hi
  refine ⟨?_, h.apart, ?_, h.buffers, ?_, ?_, ?_⟩
  · intro q hq
    have hlive := h.live q hq
    obtain ⟨n, z, hin⟩ := hlive.inReq
    exact ⟨(hget _).trans hlive.outReq, ⟨n, z, (hget _).trans hin⟩, hlive.buf⟩
  · intro i r' hr
    exact h.requests i r' ((hget i).symm.trans hr)
  · rw [freedRequests_append]
    exact (h.freedRequests.create r).delete
      ((Store.get?_create heap.requests r heap.requests.next).trans (if_pos rfl))
  · rw [freedBuffers_append]
    simpa [UdeSample.freedBuffers] using h.freedBuffers
  · intro q hq
    rcases List.mem_append.1 hq with hq | hq
    · refine (h.made q hq).imp_right fun hdead => ⟨⟨?_, ?_⟩, ⟨?_, ?_⟩, hdead.buf⟩
      · exact (hget _).trans hdead.outReq.1
      · exact hlt _ hdead.outReq.2
      · exact (hget _).trans hdead.inReq.1
      · exact hlt _ hdead.inReq.2
    · cases List.mem_singleton.1 hq

end

end UdeSample
