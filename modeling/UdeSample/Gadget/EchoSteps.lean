import UdeSample.Gadget.Echo
import UdeSample.Gadget.Ownership

/-!
# The steps of the loopback function, with the data

A pair that is completed without an error takes its transfer to the other queue (`moved_out`,
`moved_in`); any other completion loses the transfer (`freed`). The control callbacks leave the
transfers alone (`extended`), as new pairs receive only after those there are. So a packet that is
received becomes the last one pending (`EchoInv.fill`), and the one that is sent was the first
(`EchoInv.send`).
-/

namespace UdeSample

open Lib

/-! ## What a completion does to the queues and the requests -/

section

variable {cfg : LoopConfig} {s : LoopState} {p q : LoopPair} {ps : List LoopPair}
  {log : List LoopRecord} {pairs : LoopEp → List LoopPair} {ep : LoopEp} {i : Nat} {status : Int}
  {actual : Nat} {queueResult : Int}

/-- Completing one of the pairs is `loopback_complete` without it in the queue. -/
theorem LoopInv.complete_eq (h : LoopInv cfg s log pairs) (hp : (pairs ep)[i]? = some p) :
    loopHandle cfg s (.complete ep i status actual queueResult) =
      if status = 0 then
        requeue ep.other (p.req ep.other) queueResult
          { s with
            queue := Function.update s.queue ep ((s.queue ep).eraseIdx i)
            heap := s.heap.completed cfg p ep actual }
      else
        some (({ s with queue := Function.update s.queue ep ((s.queue ep).eraseIdx i) } :
          LoopState).freePair p ep, p.freed ep) := by
  have hreq : (s.queue ep)[i]? = some (p.req ep) := by
    rw [h.queue ep, List.getElem?_map, hp, Option.map_some]
  have hheap := h.heap.perm (perm_eraseIdx hp)
  have hcomplete := loopbackComplete_eq (s := { s with
    queue := Function.update s.queue ep ((s.queue ep).eraseIdx i) }) hheap ep status actual
    queueResult
  rw [loopHandle, hreq, Option.bind_some, hcomplete]

/-- The pair moves to the other queue. -/
theorem LoopInv.complete_moved (h : LoopInv cfg s log pairs) (hp : (pairs ep)[i]? = some p)
    (hother : s.enabled ep.other = true) :
    ∃ s', loopHandle cfg s (.complete ep i 0 actual 0) = some (s', []) ∧
      s'.enabled = s.enabled ∧ s'.control = s.control ∧
      s'.heap = s.heap.completed cfg p ep actual ∧
      s'.queue ep = (s.queue ep).eraseIdx i ∧
      s'.queue ep.other = s.queue ep.other ++ [p.req ep.other] := by
  have hset := (h.heap.perm (perm_eraseIdx hp)).completed ep actual
  have hne : ep.other ≠ ep := by cases ep <;> nofun
  rw [h.complete_eq hp, if_pos rfl, requeue_eq (hset.live p List.mem_cons_self),
    if_pos ⟨hother, rfl⟩]
  refine ⟨_, rfl, rfl, rfl, rfl, ?_, ?_⟩
  · dsimp only
    rw [Function.update_of_ne hne.symm, Function.update_self]
  · dsimp only
    rw [Function.update_self, Function.update_of_ne hne]

theorem LoopInv.complete_moved_length {s' : LoopState} {out : List LoopRecord}
    (h : LoopInv cfg s log pairs) (hp : (pairs ep)[0]? = some p)
    (hother : s.enabled ep.other = true)
    (hstep : loopHandle cfg s (.complete ep 0 0 actual 0) = some (s', out)) :
    (s'.queue .outEp).length + (s'.queue .inEp).length =
      (s.queue .outEp).length + (s.queue .inEp).length := by
  obtain ⟨s₁, hmoved, -, -, -, hself, hnext⟩ := h.complete_moved hp hother
  cases hmoved.symm.trans hstep
  have hpos : 0 < (s.queue ep).length := by
    rw [h.queue ep, List.length_map]
    exact (List.getElem?_eq_some_iff.1 hp).1
  have hlen := congrArg List.length hself
  have hlen' := congrArg List.length hnext
  rw [List.length_eraseIdx_of_lt hpos] at hlen
  rw [List.length_append, List.length_singleton] at hlen'
  cases ep with
  | inEp =>
    change (s'.queue .outEp).length = (s.queue .outEp).length + 1 at hlen'
    omega
  | outEp =>
    change (s'.queue .inEp).length = (s.queue .inEp).length + 1 at hlen'
    omega

/-- Or its requests are freed, which leaves the other pairs alone. -/
theorem LoopInv.complete_freed (h : LoopInv cfg s log pairs) (hp : (pairs ep)[i]? = some p)
    (hnot : ¬ (status = 0 ∧ s.enabled ep.other = true ∧ queueResult = 0)) :
    ∃ s' out, loopHandle cfg s (.complete ep i status actual queueResult) = some (s', out) ∧
      s'.enabled = s.enabled ∧ s'.control = s.control ∧
      s'.queue = Function.update s.queue ep ((s.queue ep).eraseIdx i) ∧
      ∀ ep', ∀ req ∈ s'.queue ep', s'.heap.requests.get? req = s.heap.requests.get? req := by
  have hheap := h.heap.perm (perm_eraseIdx hp)
  have hlive := hheap.live p List.mem_cons_self
  have hqueue := queue_update h.queue ep ((pairs ep).eraseIdx i)
  rw [← List.eraseIdx_map, ← h.queue ep] at hqueue
  have hapart := (List.pairwise_cons.1 hheap.apart).1
  have hfree : ∀ (heap : LoopHeap) ep', ∀ ep'', ∀ req ∈
      Function.update s.queue ep ((s.queue ep).eraseIdx i) ep'',
      req ≠ p.inReq ∧ (heap.withoutPair (p.req ep'.other) (p.req ep') p.buf).requests.get? req =
        heap.requests.get? req := by
    intro heap ep' ep'' req hreq
    rw [hqueue ep''] at hreq
    obtain ⟨q, hq, rfl⟩ := List.mem_map.1 hreq
    have hmem : q ∈ Function.update pairs ep ((pairs ep).eraseIdx i) .outEp ++
        Function.update pairs ep ((pairs ep).eraseIdx i) .inEp := by
      cases ep'' with
      | inEp => exact List.mem_append_right _ hq
      | outEp => exact List.mem_append_left _ hq
    have hqlive := hheap.live q (List.mem_cons_of_mem p hmem)
    have hne : q.req ep'' ≠ p.inReq ∧ q.req ep'' ≠ p.outReq := by
      have hpq := hapart q hmem
      cases ep'' with
      | inEp => exact ⟨hpq.2.1.symm, (hlive.outReq_ne_inReq hqlive).symm⟩
      | outEp => exact ⟨hqlive.outReq_ne_inReq hlive, hpq.1.symm⟩
    refine ⟨hne.1, ?_⟩
    rw [get?_withoutPair, if_neg]
    cases ep' with
    | inEp => exact fun heq => heq.elim hne.2 hne.1
    | outEp => exact fun heq => heq.elim hne.1 hne.2
  rw [h.complete_eq hp]
  by_cases hstatus : status = 0
  · have hset := hheap.completed ep actual
    rw [if_pos hstatus, requeue_eq (hset.live p List.mem_cons_self),
      if_neg fun hok => hnot ⟨hstatus, hok⟩]
    refine ⟨_, _, rfl, rfl, rfl, rfl, ?_⟩
    intro ep' req hreq
    obtain ⟨hne, hget⟩ := hfree (s.heap.completed cfg p ep actual) ep.other ep' req hreq
    refine hget.trans ?_
    cases ep with
    | inEp => rfl
    | outEp => exact (get?_setIn hlive _ _ _).trans (if_neg hne)
  · rw [if_neg hstatus]
    refine ⟨_, _, rfl, rfl, rfl, rfl, ?_⟩
    exact fun ep' req hreq => (hfree s.heap ep ep' req hreq).2

/-- The requests there are stay what they are, and the queue of IN requests too. -/
def LoopState.Extends (s s' : LoopState) : Prop :=
  s'.queue .inEp = s.queue .inEp ∧ (∃ l, s'.queue .outEp = s.queue .outEp ++ l) ∧
    ∀ i < s.heap.requests.next, s'.heap.requests.get? i = s.heap.requests.get? i

theorem LoopState.Extends.of_eq {s' : LoopState} (hheap : s'.heap = s.heap)
    (hqueue : s'.queue = s.queue) : s.Extends s' :=
  ⟨congrFun hqueue _, ⟨[], by rw [hqueue, List.append_nil]⟩, fun i _ => by rw [hheap]⟩

theorem allocPair_extends {o : LoopOutcomes} {result : Int} {s' : LoopState}
    {out : List LoopRecord} (h : allocPair cfg o s = some ((result, s'), out)) : s.Extends s' := by
  have hnew : ∀ i < s.heap.requests.next, i ≠ s.heap.requests.next ∧
      i ≠ s.heap.requests.next + 1 := fun i hi => ⟨Nat.ne_of_lt hi, by omega⟩
  cases hin : o.allocIn with
  | false =>
    simp only [allocPair, hin, Bool.false_eq_true, if_false, Option.some.injEq,
      Prod.mk.injEq] at h
    obtain ⟨⟨-, rfl⟩, -⟩ := h
    exact .of_eq rfl rfl
  | true =>
    cases hout : o.allocOut with
    | false =>
      simp only [allocPair, hin, hout, if_true, Bool.false_eq_true, if_false,
        Option.map_eq_some_iff, Prod.mk.injEq, Prod.exists] at h
      obtain ⟨heap, frees, hfree, ⟨-, rfl⟩, -⟩ := h
      refine ⟨rfl, ⟨[], (List.append_nil _).symm⟩, fun i hi => ?_⟩
      simp only [usbEpFreeRequest, Option.bind_some, Store.get?_create, if_true, Option.some.injEq,
        Prod.mk.injEq] at hfree
      rw [← hfree.1, Store.get?_delete, Store.get?_create, if_neg (hnew i hi).1,
        if_neg (hnew i hi).1]
    | true =>
      rw [allocPair_eq hin hout] at h
      dsimp only at h
      by_cases hqueued :
        (if s.enabled .outEp = true then o.queueResult else -eshutdown) = 0
      · rw [if_pos hqueued] at h
        cases h
        refine ⟨by simp, ⟨[s.heap.nextPair.outReq], by simp⟩, fun i hi => ?_⟩
        exact get?_withPair_of_lt hi
      · rw [if_neg hqueued] at h
        cases h
        refine ⟨rfl, ⟨[], (List.append_nil _).symm⟩, fun i hi => ?_⟩
        dsimp only
        rw [get?_withoutPair, if_neg, get?_withPair_of_lt hi]
        simp only [LoopHeap.nextPair, not_or]
        exact (hnew i hi).symm

theorem loopAdvance_extends {o : LoopOutcomes} {s' : LoopState} {out : List LoopRecord}
    (h : loopAdvance cfg o s = some (s', out)) : s.Extends s' := by
  unfold loopAdvance at h
  split at h
  · cases h
  · obtain ⟨rfl, -⟩ := Prod.mk.inj (Option.some.inj h)
    exact .of_eq rfl rfl
  · obtain ⟨rfl, -⟩ := Prod.mk.inj (Option.some.inj h)
    exact .of_eq rfl rfl
  · dsimp only at h
    split at h
    · obtain ⟨rfl, -⟩ := Prod.mk.inj (Option.some.inj h)
      exact .of_eq rfl rfl
    · obtain ⟨rfl, -⟩ := Prod.mk.inj (Option.some.inj h)
      exact .of_eq rfl rfl
  · split at h
    · simp only [Option.map_eq_some_iff, Prod.mk.injEq, Prod.exists] at h
      obtain ⟨result, s₁, out, halloc, rfl, -⟩ := h
      obtain ⟨hin, hout, hget⟩ := allocPair_extends halloc
      exact ⟨hin, hout, hget⟩
    · obtain ⟨rfl, -⟩ := Prod.mk.inj (Option.some.inj h)
      exact .of_eq rfl rfl

end

/-! ## What is pending -/

section

variable {β : Type} {cfg : EchoConfig} {s s' : EchoState β} {p q : LoopPair}
  {log : List LoopRecord} {pairs : LoopEp → List LoopPair}

/-- An OUT request tells its pair. -/
theorem PairLive.eq_of_outReq {heap : LoopHeap} (hp : PairLive cfg.toLoopConfig heap p)
    (hq : heap.requests.get? q.outReq =
      some ⟨.outEp, some q.buf, some q.inReq, cfg.outLength, false⟩)
    (h : p.outReq = q.outReq) : p = q := by
  rw [← h, hp.outReq, Option.some.injEq, UsbRequest.mk.injEq] at hq
  obtain ⟨-, hbuf, hin, -, -⟩ := hq
  obtain ⟨out, in', buf⟩ := p
  cases hbuf
  cases hin
  cases h
  rfl

theorem transfer_of_live {n : Nat} {z : Bool}
    (h : s.loop.heap.requests.get? p.inReq = some ⟨.inEp, some p.buf, some p.outReq, n, z⟩)
    (sent : Nat) : s.transfer cfg sent p.inReq =
      transferPackets cfg.maxpacket z (((s.memory p.buf).take n).drop sent) := by
  rw [EchoState.transfer, h]

theorem transfer_congr {req : Nat}
    (hget : s'.loop.heap.requests.get? req = s.loop.heap.requests.get? req)
    (hmem : ∀ r buf, s.loop.heap.requests.get? req = some r → r.buf = some buf →
      s'.memory buf = s.memory buf) (sent : Nat) :
    s'.transfer cfg sent req = s.transfer cfg sent req := by
  unfold EchoState.transfer
  rw [hget]
  split
  · next hr => rw [hmem _ _ hr rfl]
  · rfl
  · rfl

theorem filling_of_live (h : PairLive cfg.toLoopConfig s.loop.heap p)
    (hhead : (s.loop.queue .outEp).head? = some p.outReq) :
    s.filling cfg = fullPackets cfg.maxpacket ((s.memory p.buf).take (s.progress .outEp)) := by
  rw [EchoState.filling, hhead, Option.bind_some, h.outReq]

theorem filling_zero (h : s.progress .outEp = 0) : s.filling cfg = [] := by
  unfold EchoState.filling
  split
  · rw [h, List.take_zero, fullPackets_of_lt cfg.maxpacket_pos]
  · rfl
  · rfl

theorem filling_congr
    (hget : (s'.loop.queue .outEp).head?.bind s'.loop.heap.requests.get? =
      (s.loop.queue .outEp).head?.bind s.loop.heap.requests.get?)
    (hmem : s'.memory = s.memory) (hprogress : s'.progress .outEp = s.progress .outEp) :
    s'.filling cfg = s.filling cfg := by
  unfold EchoState.filling
  rw [hget, hmem, hprogress]

/-- What is invariant of the function with the data: the request pairs, no progress without a
request, and full packets in an OUT request that is not full. -/
structure EchoInv (cfg : EchoConfig) (s : EchoState β) (log : List LoopRecord) : Prop where
  loop : ∃ pairs, LoopInv cfg.toLoopConfig s.loop log pairs
  idle : ∀ ep, s.loop.queue ep = [] → s.progress ep = 0
  filling : ∀ p, PairLive cfg.toLoopConfig s.loop.heap p →
    (s.loop.queue .outEp).head? = some p.outReq →
      cfg.maxpacket ∣ s.progress .outEp ∧ s.progress .outEp ≤ (s.memory p.buf).length ∧
        (s.progress .outEp ≠ 0 → s.progress .outEp < cfg.outLength)

/-- The pair of the OUT request at the head. -/
theorem LoopInv.head_out (h : LoopInv cfg.toLoopConfig s.loop log pairs) {req : Nat}
    (hhead : (s.loop.queue .outEp).head? = some req) :
    ∃ p ∈ pairs .outEp, p.outReq = req ∧ PairLive cfg.toLoopConfig s.loop.heap p := by
  rw [h.queue .outEp, List.head?_map, Option.map_eq_some_iff] at hhead
  obtain ⟨p, hp, rfl⟩ := hhead
  have hmem := List.mem_of_head? hp
  exact ⟨p, hmem, rfl, h.heap.live p (List.mem_append_left _ hmem)⟩

/-! ## Completions -/

section

variable {ep : LoopEp} {i : Nat} {status : Int} {actual : Nat} {queueResult : Int}
  {loop : LoopState} {out : List LoopRecord}

theorem LoopInv.exists_pair {cfg : LoopConfig} {ls : LoopState} (h : LoopInv cfg ls log pairs)
    (hacc : ls.accepts (.complete ep i status actual queueResult) = true) :
    ∃ p, (pairs ep)[i]? = some p := by
  cases hp : (pairs ep)[i]? with
  | none => simp [LoopState.accepts, h.queue ep, hp] at hacc
  | some p => exact ⟨p, rfl⟩

/-- The invariant of the pairs after an event that is accepted. -/
theorem LoopInv.of_handle {ls ls' : LoopState} {e : LoopEvent}
    (h : LoopInv cfg.toLoopConfig ls log pairs) (hacc : ls.accepts e = true)
    (hstep : loopHandle cfg.toLoopConfig ls e = some (ls', out)) :
    ∃ pairs', LoopInv cfg.toLoopConfig ls' (log ++ out) pairs' := by
  obtain ⟨ls₁, out₁, pairs', hhandle, hinv⟩ := h.step hacc
  cases hhandle.symm.trans hstep
  exact ⟨pairs', hinv⟩

theorem eraseIdx_eq_nil {α : Type} {l : List α} (h : l.eraseIdx i = []) (hi : i < l.length) :
    i = 0 := by
  have hlen := congrArg List.length h
  rw [List.length_eraseIdx_of_lt hi, List.length_nil] at hlen
  omega

theorem completed_progress (s : EchoState β) (loop : LoopState) (ep : LoopEp) (i : Nat) :
    (s.completed loop ep i).progress ep = if i = 0 then 0 else s.progress ep := by
  simp only [EchoState.completed]
  split
  · exact Function.update_self ..
  · rfl

theorem completed_progress_of_ne (s : EchoState β) (loop : LoopState) (i : Nat) {ep ep' : LoopEp}
    (hne : ep' ≠ ep) : (s.completed loop ep i).progress ep' = s.progress ep' := by
  simp only [EchoState.completed]
  split
  · exact Function.update_of_ne hne _ _
  · rfl

/-- A completion that does not queue the pair again leaves the transfers of the others. -/
theorem EchoInv.freed (h : EchoInv cfg s log)
    (hacc : s.loop.accepts (.complete ep i status actual queueResult) = true)
    (hnot : ¬ (status = 0 ∧ s.loop.enabled ep.other = true ∧ queueResult = 0))
    (hstep : loopHandle cfg.toLoopConfig s.loop (.complete ep i status actual queueResult) =
      some (loop, out)) :
    EchoInv cfg (s.completed loop ep i) (log ++ out) ∧
      loop.queue = Function.update s.loop.queue ep ((s.loop.queue ep).eraseIdx i) ∧
      (s.completed loop ep i).unsent cfg = queuePackets (s.transfer cfg)
        ((s.completed loop ep i).progress .inEp) (loop.queue .inEp) ∧
      ((s.completed loop ep i).filling cfg).Sublist (s.filling cfg) := by
  obtain ⟨pairs, hloop⟩ := h.loop
  obtain ⟨p, hp⟩ := hloop.exists_pair hacc
  obtain ⟨pairs', hloop'⟩ := hloop.of_handle hacc hstep
  obtain ⟨loop₁, out₁, hstep₁, -, -, hqueue, hframe⟩ := hloop.complete_freed hp hnot
  cases hstep₁.symm.trans hstep
  have hi : i < (s.loop.queue ep).length := by
    rw [hloop.queue ep, List.length_map]
    exact (List.getElem?_eq_some_iff.1 hp).1
  have hother : ∀ ep', ep' ≠ ep → loop.queue ep' = s.loop.queue ep' ∧
      (s.completed loop ep i).progress ep' = s.progress ep' := by
    intro ep' hne
    exact ⟨by rw [hqueue, Function.update_of_ne hne], completed_progress_of_ne s loop i hne⟩
  have hself : loop.queue ep = (s.loop.queue ep).eraseIdx i := by
    rw [hqueue, Function.update_self]
  have hprogress := completed_progress s loop ep i
  -- an OUT request that is filled stays at the head of its queue
  have hhead : (s.completed loop ep i).progress .outEp = 0 ∨
      (s.completed loop ep i).progress .outEp = s.progress .outEp ∧
        (loop.queue .outEp).head? = (s.loop.queue .outEp).head? := by
    by_cases hep : LoopEp.outEp = ep
    · subst hep
      by_cases hzero : i = 0
      · exact Or.inl (by rw [hprogress, if_pos hzero])
      · refine Or.inr ⟨by rw [hprogress, if_neg hzero], ?_⟩
        rw [hself]
        obtain ⟨j, rfl⟩ := Nat.exists_eq_succ_of_ne_zero hzero
        cases s.loop.queue .outEp with
        | nil => rfl
        | cons x xs => rfl
    · obtain ⟨hq, hpr⟩ := hother .outEp hep
      exact Or.inr ⟨hpr, by rw [hq]⟩
  refine ⟨⟨⟨pairs', hloop'⟩, ?_, ?_⟩, hqueue, ?_, ?_⟩
  · intro ep' hnil
    by_cases hep : ep' = ep
    · subst hep
      have hzero := eraseIdx_eq_nil (hself.symm.trans hnil) hi
      rw [hprogress, if_pos hzero]
    · obtain ⟨hq, hpr⟩ := hother ep' hep
      rw [hpr]
      exact h.idle ep' (hq.symm.trans hnil)
  · intro q hq hfirst
    rcases hhead with hzero | ⟨hpr, hsame⟩
    · rw [hzero]
      exact ⟨Nat.dvd_zero _, Nat.zero_le _, fun hne => absurd rfl hne⟩
    · obtain ⟨q', -, hout, hlive⟩ := hloop.head_out (hsame.symm.trans hfirst)
      have hmem : q.outReq ∈ loop.queue .outEp := List.mem_of_head? hfirst
      have heq := hlive.eq_of_outReq ((hframe .outEp _ hmem).symm.trans hq.outReq) hout
      rw [hpr]
      exact heq ▸ h.filling q' hlive (by rw [hout, ← hsame]; exact hfirst)
  · exact queuePackets_congr fun req hreq =>
      transfer_congr (hframe .inEp req hreq) fun _ _ _ _ => rfl
  · rcases hhead with hzero | ⟨hpr, hsame⟩
    · rw [filling_zero hzero]
      exact List.nil_sublist _
    · cases hfirst : (loop.queue .outEp).head? with
      | none =>
        rw [List.head?_eq_none_iff] at hfirst
        have hnil := hsame.symm.trans (List.head?_eq_none_iff.2 hfirst)
        rw [filling_zero (hpr.trans (h.idle .outEp (List.head?_eq_none_iff.1 hnil)))]
        exact List.nil_sublist _
      | some req =>
        have hget := hframe .outEp req (List.mem_of_head? hfirst)
        have hbind : (loop.queue .outEp).head?.bind loop.heap.requests.get? =
            (s.loop.queue .outEp).head?.bind s.loop.heap.requests.get? := by
          rw [← hsame, hfirst, Option.bind_some, Option.bind_some, hget]
        have heq : (s.completed loop ep i).filling cfg = s.filling cfg :=
          filling_congr hbind rfl hpr
        rw [heq]

/-- It loses what the pair holds. -/
theorem EchoInv.freed_pending (h : EchoInv cfg s log)
    (hacc : s.loop.accepts (.complete ep i status actual queueResult) = true)
    (hnot : ¬ (status = 0 ∧ s.loop.enabled ep.other = true ∧ queueResult = 0))
    (hstep : loopHandle cfg.toLoopConfig s.loop (.complete ep i status actual queueResult) =
      some (loop, out)) :
    ((s.completed loop ep i).pending cfg).Sublist (s.pending cfg) := by
  obtain ⟨-, hqueue, hunsent, hfilling⟩ := h.freed hacc hnot hstep
  refine List.Sublist.append ?_ hfilling
  rw [hunsent, hqueue]
  cases ep with
  | inEp =>
    rw [completed_progress, Function.update_self]
    exact queuePackets_eraseIdx _ _ _ _
  | outEp =>
    have hpr : (s.completed loop .outEp i).progress .inEp = s.progress .inEp :=
      completed_progress_of_ne s loop i nofun
    have hne : LoopEp.inEp ≠ .outEp := by decide
    rw [hpr, Function.update_of_ne hne]
    exact List.Sublist.refl _

theorem LoopInv.lt_next {ls : LoopState} (h : LoopInv cfg.toLoopConfig ls log pairs)
    {req : Nat} (hreq : req ∈ ls.queue ep) : req < ls.heap.requests.next := by
  rw [h.queue ep] at hreq
  obtain ⟨q, hq, rfl⟩ := List.mem_map.1 hreq
  have hlive : PairLive cfg.toLoopConfig ls.heap q := by
    refine h.heap.live q ?_
    cases ep with
    | inEp => exact List.mem_append_right _ hq
    | outEp => exact List.mem_append_left _ hq
  obtain ⟨n, z, hget⟩ := hlive.get? ep
  exact Store.lt_next hget

/-- The control callbacks, apart from the completions they wait for, leave the data alone. -/
theorem EchoInv.extended (h : EchoInv cfg s log)
    (hloop' : ∃ pairs', LoopInv cfg.toLoopConfig loop (log ++ out) pairs')
    (hext : s.loop.Extends loop) :
    EchoInv cfg { s with loop } (log ++ out) ∧
      EchoState.pending cfg { s with loop } = s.pending cfg := by
  obtain ⟨pairs, hloop⟩ := h.loop
  obtain ⟨hin, ⟨l, hout⟩, hget⟩ := hext
  have hhead : s.progress .outEp = 0 ∨ (loop.queue .outEp).head? = (s.loop.queue .outEp).head? := by
    cases hq : s.loop.queue .outEp with
    | nil => exact Or.inl (h.idle .outEp hq)
    | cons x xs => exact Or.inr (by rw [hout, hq]; rfl)
  have hsame : ∀ ep, ∀ req ∈ s.loop.queue ep,
      loop.heap.requests.get? req = s.loop.heap.requests.get? req :=
    fun ep req hreq => hget req (hloop.lt_next hreq)
  refine ⟨⟨hloop', ?_, ?_⟩, ?_⟩
  · rintro (_ | _) hnil
    · exact h.idle .inEp (hin.symm.trans hnil)
    · refine h.idle .outEp (List.append_eq_nil_iff.1 (hout.symm.trans hnil)).1
  · intro q hq hfirst
    rcases hhead with hzero | hhead
    · dsimp only
      rw [hzero]
      exact ⟨Nat.dvd_zero _, Nat.zero_le _, fun hne => absurd rfl hne⟩
    · obtain ⟨q', -, hreq, hlive⟩ := hloop.head_out (hhead.symm.trans hfirst)
      have hmem : q.outReq ∈ s.loop.queue .outEp :=
        List.mem_of_head? (hhead.symm.trans hfirst)
      have heq := hlive.eq_of_outReq ((hsame .outEp _ hmem).symm.trans hq.outReq) hreq
      exact heq ▸ h.filling q' hlive (by rw [hreq, ← hhead]; exact hfirst)
  · refine congrArg₂ (· ++ ·) ?_ ?_
    · unfold EchoState.unsent
      dsimp only
      rw [hin]
      exact queuePackets_congr fun req hreq =>
        transfer_congr (hsame .inEp req hreq) fun _ _ _ _ => rfl
    · rcases hhead with hzero | hhead
      · rw [filling_zero hzero, filling_zero (s := { s with loop }) hzero]
      · refine filling_congr ?_ rfl rfl
        dsimp only
        rw [hhead]
        cases hfirst : (s.loop.queue .outEp).head? with
        | none => rfl
        | some req => exact hsame .outEp req (List.mem_of_head? hfirst)

/-- The buffers of an OUT and an IN request are different ones. -/
theorem LoopInv.buf_ne {ls : LoopState} (h : LoopInv cfg.toLoopConfig ls log pairs)
    (hp : p ∈ pairs .outEp) {req buf : Nat} {r : UsbRequest} (hreq : req ∈ ls.queue .inEp)
    (hr : ls.heap.requests.get? req = some r) (hbuf : r.buf = some buf) : buf ≠ p.buf := by
  rw [h.queue .inEp] at hreq
  obtain ⟨q, hq, rfl⟩ := List.mem_map.1 hreq
  obtain ⟨n, z, hget⟩ := (h.heap.live q (List.mem_append_right _ hq)).inReq
  cases hget.symm.trans hr
  cases hbuf
  exact ((List.pairwise_append.1 h.heap.apart).2.2 p hp q hq).2.2.symm

/-- Bytes written behind what an OUT request holds change nothing yet. -/
theorem EchoInv.write (h : EchoInv cfg s log) (hloop : LoopInv cfg.toLoopConfig s.loop log pairs)
    (hp : p ∈ pairs .outEp) (hhead : (s.loop.queue .outEp).head? = some p.outReq)
    (packet : List β) {memory : Nat → List β}
    (hmem : memory = Function.update s.memory p.buf
      ((s.memory p.buf).take (s.progress .outEp) ++ packet)) :
    EchoInv cfg { s with memory } log ∧
      EchoState.unsent cfg { s with memory } = s.unsent cfg ∧
      EchoState.pending cfg { s with memory } = s.pending cfg := by
  have hlive := hloop.heap.live p (List.mem_append_left _ hp)
  obtain ⟨hdvd, hle, hroom⟩ := h.filling p hlive hhead
  have hself : memory p.buf = (s.memory p.buf).take (s.progress .outEp) ++ packet := by
    rw [hmem, Function.update_self]
  have hunsent : EchoState.unsent cfg { s with memory } = s.unsent cfg := by
    refine queuePackets_congr fun req hreq => transfer_congr rfl ?_
    intro r buf hr hbuf
    dsimp only
    rw [hmem, Function.update_of_ne (hloop.buf_ne hp hreq hr hbuf)]
  refine ⟨⟨h.loop, h.idle, ?_⟩, hunsent, ?_⟩
  · intro q hq hfirst
    have heq := hlive.eq_of_outReq hq.outReq (Option.some.inj (hhead.symm.trans hfirst))
    refine ⟨hdvd, ?_, hroom⟩
    dsimp only
    rw [← heq, hself, List.length_append, List.length_take_of_le hle]
    exact Nat.le_add_right _ _
  · have hnew : EchoState.filling cfg { s with memory } =
        fullPackets cfg.maxpacket ((memory p.buf).take (s.progress .outEp)) :=
      filling_of_live hlive hhead
    rw [EchoState.pending, EchoState.pending, hunsent, hnew, filling_of_live hlive hhead, hself,
      List.take_left' (List.length_take_of_le hle)]

/-- **A transfer received** becomes an IN transfer at the end of the queue. -/
theorem EchoInv.moved_out (h : EchoInv cfg s log)
    (hloop : LoopInv cfg.toLoopConfig s.loop log pairs) (hp : (pairs .outEp)[0]? = some p)
    (hacc : s.loop.accepts (.complete .outEp 0 0 actual 0) = true)
    (henabled : s.loop.enabled .inEp = true)
    (hstep : loopHandle cfg.toLoopConfig s.loop (.complete .outEp 0 0 actual 0) =
      some (loop, out)) :
    EchoInv cfg (s.completed loop .outEp 0) (log ++ out) ∧
      (s.completed loop .outEp 0).pending cfg = s.unsent cfg ++
        transferPackets cfg.maxpacket (decide (actual < cfg.outLength))
          ((s.memory p.buf).take actual) := by
  obtain ⟨pairs', hloop'⟩ := hloop.of_handle hacc hstep
  have hlive := hloop.heap.live p (List.mem_append_left _ (List.mem_of_getElem? hp))
  obtain ⟨loop₁, hmoved, -, -, hheap, -, hother⟩ :=
    hloop.complete_moved hp henabled
  cases hmoved.symm.trans hstep
  have hqueue : loop.queue .inEp = s.loop.queue .inEp ++ [p.inReq] := hother
  have hget := get?_setIn hlive actual (decide (actual < cfg.outLength))
  have hzero : (s.completed loop .outEp 0).progress .outEp = 0 :=
    completed_progress s loop .outEp 0
  have hpr : (s.completed loop .outEp 0).progress .inEp = s.progress .inEp :=
    completed_progress_of_ne s loop 0 nofun
  refine ⟨⟨⟨pairs', hloop'⟩, ?_, ?_⟩, ?_⟩
  · rintro (_ | _) hnil
    · exact absurd (hqueue.symm.trans hnil) (by simp)
    · exact hzero
  · intro q hq hfirst
    rw [hzero]
    exact ⟨Nat.dvd_zero _, Nat.zero_le _, fun hne => absurd rfl hne⟩
  · rw [EchoState.pending, filling_zero hzero, List.append_nil, EchoState.unsent,
      hpr]
    change queuePackets _ _ (loop.queue .inEp) = _
    rw [hqueue, queuePackets_concat (h.idle .inEp)]
    refine congrArg₂ (· ++ ·) (queuePackets_congr fun req hreq => ?_) ?_
    · refine transfer_congr ?_ fun _ _ _ _ => rfl
      change loop.heap.requests.get? req = _
      rw [hheap]
      refine (hget req).trans (if_neg ?_)
      change req ∈ s.loop.queue .inEp at hreq
      rw [hloop.queue .inEp] at hreq
      obtain ⟨q, hq, rfl⟩ := List.mem_map.1 hreq
      have hmem : p ∈ pairs .outEp := List.mem_of_getElem? hp
      exact ((List.pairwise_append.1 hloop.heap.apart).2.2 p hmem q hq).2.1.symm
    · refine transfer_of_live (s := s.completed loop .outEp 0) (p := p) ?_ 0
      change loop.heap.requests.get? p.inReq = _
      rw [hheap]
      exact (hget p.inReq).trans (if_pos rfl)

/-- **A transfer sent** leaves the queue, and its pair receives again. -/
theorem EchoInv.moved_in (h : EchoInv cfg s log)
    (hloop : LoopInv cfg.toLoopConfig s.loop log pairs) (hp : (pairs .inEp)[0]? = some p)
    (hacc : s.loop.accepts (.complete .inEp 0 0 actual 0) = true)
    (henabled : s.loop.enabled .outEp = true)
    (hstep : loopHandle cfg.toLoopConfig s.loop (.complete .inEp 0 0 actual 0) =
      some (loop, out)) :
    EchoInv cfg (s.completed loop .inEp 0) (log ++ out) ∧
      s.unsent cfg = s.transfer cfg (s.progress .inEp) p.inReq ++
        (s.completed loop .inEp 0).unsent cfg ∧
      (s.completed loop .inEp 0).filling cfg = s.filling cfg := by
  obtain ⟨pairs', hloop'⟩ := hloop.of_handle hacc hstep
  obtain ⟨loop₁, hmoved, -, -, hheap, hself, hother⟩ :=
    hloop.complete_moved hp henabled
  cases hmoved.symm.trans hstep
  have hzero : (s.completed loop .inEp 0).progress .inEp = 0 := completed_progress s loop .inEp 0
  have hpr : (s.completed loop .inEp 0).progress .outEp = s.progress .outEp :=
    completed_progress_of_ne s loop 0 nofun
  have hget : loop.heap.requests.get? = s.loop.heap.requests.get? := by rw [hheap]; rfl
  have hhead : s.progress .outEp = 0 ∨ (loop.queue .outEp).head? = (s.loop.queue .outEp).head? := by
    cases hq : s.loop.queue .outEp with
    | nil => exact Or.inl (h.idle .outEp hq)
    | cons x xs =>
      refine Or.inr ?_
      change (loop.queue LoopEp.inEp.other).head? = _
      rw [hother]
      change (s.loop.queue .outEp ++ _).head? = _
      rw [hq]
      rfl
  refine ⟨⟨⟨pairs', hloop'⟩, ?_, ?_⟩, ?_, ?_⟩
  · rintro (_ | _) hnil
    · exact hzero
    · exact absurd (hother.symm.trans hnil) (by simp)
  · intro q hq hfirst
    rw [hpr]
    rcases hhead with hnone | hhead
    · rw [hnone]
      exact ⟨Nat.dvd_zero _, Nat.zero_le _, fun hne => absurd rfl hne⟩
    · obtain ⟨q', -, hreq, hlive⟩ := hloop.head_out (hhead.symm.trans hfirst)
      have hrec : s.loop.heap.requests.get? q.outReq = _ := hget ▸ hq.outReq
      have heq := hlive.eq_of_outReq hrec hreq
      exact heq ▸ h.filling q' hlive (by rw [hreq, ← hhead]; exact hfirst)
  · have hqueue : s.loop.queue .inEp = p.inReq :: loop.queue .inEp := by
      have hnext : (s.loop.queue .inEp)[0]? = some p.inReq := by
        rw [hloop.queue .inEp, List.getElem?_map, hp]
        rfl
      rw [hself]
      cases hq : s.loop.queue .inEp with
      | nil => rw [hq] at hnext; cases hnext
      | cons x xs => rw [hq] at hnext; cases hnext; rfl
    rw [EchoState.unsent, EchoState.unsent, hqueue, hzero, queuePackets_zero, queuePackets]
    refine congrArg _ (List.flatMap_congr fun req _ => ?_)
    refine (transfer_congr ?_ ?_ 0).symm
    · exact congrFun hget req
    · exact fun _ _ _ _ => rfl
  · rcases hhead with hnone | hhead
    · rw [filling_zero hnone, filling_zero (hpr.trans hnone)]
    · refine filling_congr ?_ rfl hpr
      change (loop.queue .outEp).head?.bind loop.heap.requests.get? = _
      rw [hhead, hget]

end

/-! ## Steps -/

@[simp] theorem received_append (log out : List (EchoRecord β)) :
    received (log ++ out) = received log ++ received out := List.filterMap_append

@[simp] theorem returned_append (log out : List (EchoRecord β)) :
    returned (log ++ out) = returned log ++ returned out := List.filterMap_append

@[simp] theorem loopRecords_append (log out : List (EchoRecord β)) :
    loopRecords (log ++ out) = loopRecords log ++ loopRecords out := List.filterMap_append

@[simp] theorem received_loop (l : List LoopRecord) :
    received (l.map (.loop : LoopRecord → EchoRecord β)) = [] := by simp [received]

@[simp] theorem returned_loop (l : List LoopRecord) :
    returned (l.map (.loop : LoopRecord → EchoRecord β)) = [] := by simp [returned]

@[simp] theorem loopRecords_loop (l : List LoopRecord) :
    loopRecords (l.map (.loop : LoopRecord → EchoRecord β)) = l := by
  simp [loopRecords]

theorem loopStep_eq_some {cfg : LoopConfig} {ls ls' : LoopState} {e : LoopEvent}
    {out : List LoopRecord} : loopStep cfg ls e = some (ls', out) ↔
      ls.accepts e = true ∧ loopHandle cfg ls e = some (ls', out) := by
  unfold loopStep
  split
  · next hacc => simp [hacc]
  · next hacc => simp [hacc]

theorem EchoState.complete_eq_some {ep : LoopEp} {status : Int} {actual : Nat}
    {queueResult : Int} {out : List (EchoRecord β)}
    (h : s.complete cfg ep status actual queueResult = some (s', out)) :
    ∃ loop lout, s.loop.accepts (.complete ep 0 status actual queueResult) = true ∧
      loopHandle cfg.toLoopConfig s.loop (.complete ep 0 status actual queueResult) =
        some (loop, lout) ∧ s' = s.completed loop ep 0 ∧ out = lout.map .loop := by
  simp only [EchoState.complete, Option.map_eq_some_iff, Prod.mk.injEq, Prod.exists] at h
  obtain ⟨loop, lout, hstep, rfl, rfl⟩ := h
  obtain ⟨hacc, hhandle⟩ := loopStep_eq_some.1 hstep
  exact ⟨loop, lout, hacc, hhandle, rfl, rfl⟩

/-- A completion leaves the endpoints and the control callbacks alone. -/
theorem LoopInv.complete_frame {cfg : LoopConfig} {ls ls' : LoopState} {ep : LoopEp} {i : Nat}
    {status : Int} {actual : Nat} {queueResult : Int} {out : List LoopRecord}
    (h : LoopInv cfg ls log pairs)
    (hacc : ls.accepts (.complete ep i status actual queueResult) = true)
    (hstep : loopHandle cfg ls (.complete ep i status actual queueResult) = some (ls', out)) :
    ls'.enabled = ls.enabled ∧ ls'.control = ls.control := by
  obtain ⟨p, hp⟩ := h.exists_pair hacc
  by_cases hmoved : status = 0 ∧ ls.enabled ep.other = true ∧ queueResult = 0
  · obtain ⟨rfl, hother, rfl⟩ := hmoved
    obtain ⟨ls₁, hstep₁, henabled, hcontrol, -⟩ := h.complete_moved hp hother
    cases hstep₁.symm.trans hstep
    exact ⟨henabled, hcontrol⟩
  · obtain ⟨ls₁, out₁, hstep₁, henabled, hcontrol, -⟩ := h.complete_freed hp hmoved
    cases hstep₁.symm.trans hstep
    exact ⟨henabled, hcontrol⟩

/-- What a step keeps besides the data. -/
structure EchoFrame (cfg : EchoConfig) (s s' : EchoState β) (log : List LoopRecord)
    (out : List (EchoRecord β)) : Prop where
  inv : EchoInv cfg s' (log ++ loopRecords out)
  received : received out = []
  returned : returned out = []
  enabled : s'.loop.enabled = s.loop.enabled
  control : s'.loop.control = s.loop.control

section

variable {packet : List β} {queueResult : Int}

/-- The last packet of a transfer. -/
theorem EchoInv.fill_done (h : EchoInv cfg s log)
    (hloop : LoopInv cfg.toLoopConfig s.loop log pairs) (hp : (pairs .outEp)[0]? = some p)
    (hhead : (s.loop.queue .outEp).head? = some p.outReq) {memory : Nat → List β}
    (hmemory : memory = Function.update s.memory p.buf
      ((s.memory p.buf).take (s.progress .outEp) ++ packet))
    (hle : packet.length ≤ cfg.maxpacket)
    (hfit : s.progress .outEp + packet.length ≤ cfg.outLength)
    (hdone : fillDone cfg.maxpacket cfg.outLength (s.progress .outEp) packet = true)
    (hin : s.loop.enabled .inEp = true) {loop : LoopState} {lout : List LoopRecord}
    (hacc : s.loop.accepts (.complete .outEp 0 0 (s.progress .outEp + packet.length) 0) = true)
    (hhandle : loopHandle cfg.toLoopConfig s.loop
      (.complete .outEp 0 0 (s.progress .outEp + packet.length) 0) = some (loop, lout)) :
    EchoInv cfg (EchoState.completed { s with memory } loop .outEp 0) (log ++ lout) ∧
      (EchoState.completed { s with memory } loop .outEp 0).pending cfg =
        s.pending cfg ++ [packet] := by
  have hmem : p ∈ pairs .outEp := List.mem_of_getElem? hp
  have hlive := hloop.heap.live p (List.mem_append_left _ hmem)
  obtain ⟨hdvd, hlen, hroom⟩ := h.filling p hlive hhead
  have htaken := List.length_take_of_le hlen
  have hself : memory p.buf = (s.memory p.buf).take (s.progress .outEp) ++ packet := by
    rw [hmemory, Function.update_self]
  obtain ⟨hwrite, hunsent, -⟩ := h.write hloop hmem hhead packet hmemory
  obtain ⟨hinv, hmoved⟩ := hwrite.moved_out hloop hp hacc hin hhandle
  refine ⟨hinv, ?_⟩
  have hbytes : (memory p.buf).take (s.progress .outEp + packet.length) =
      (s.memory p.buf).take (s.progress .outEp) ++ packet := by
    rw [hself, List.take_of_length_le (Nat.le_of_eq (by rw [List.length_append, htaken]))]
  have hfilled : transferPackets cfg.maxpacket
      (decide (s.progress .outEp + packet.length < cfg.outLength))
      ((s.memory p.buf).take (s.progress .outEp) ++ packet) =
        fullPackets cfg.maxpacket ((s.memory p.buf).take (s.progress .outEp)) ++ [packet] := by
    have hpackets := transferPackets_filled cfg.maxpacket_pos (htaken.symm ▸ hdvd) (fun hne => ?_)
      (htaken.symm ▸ hfit) hle (htaken.symm ▸ hdone)
    · rwa [htaken] at hpackets
    · rw [htaken]
      refine hroom fun hzero => hne ?_
      rw [hzero, List.take_zero]
  rw [hmoved, hunsent]
  dsimp only
  rw [hbytes, hfilled, EchoState.pending, filling_of_live hlive hhead, List.append_assoc]

/-- A full packet that leaves room for more. -/
theorem EchoInv.fill_more (h : EchoInv cfg s log)
    (hloop : LoopInv cfg.toLoopConfig s.loop log pairs) (hmem : p ∈ pairs .outEp)
    (hhead : (s.loop.queue .outEp).head? = some p.outReq)
    (hfull : packet.length = cfg.maxpacket)
    (hroom : s.progress .outEp + packet.length < cfg.outLength) (hs' : s'.loop = s.loop)
    (hbytes : s'.memory p.buf = (s.memory p.buf).take (s.progress .outEp) ++ packet)
    (hunsent : s'.unsent cfg = s.unsent cfg) (hin : s'.progress .inEp = s.progress .inEp)
    (hout : s'.progress .outEp = s.progress .outEp + packet.length) :
    EchoInv cfg s' log ∧ s'.pending cfg = s.pending cfg ++ [packet] := by
  have hlive := hloop.heap.live p (List.mem_append_left _ hmem)
  obtain ⟨hdvd, hlen, -⟩ := h.filling p hlive hhead
  have htaken := List.length_take_of_le hlen
  have hlive' : PairLive cfg.toLoopConfig s'.loop.heap p := by rwa [hs']
  have hhead' : (s'.loop.queue .outEp).head? = some p.outReq := by rwa [hs']
  have hlength : (s'.memory p.buf).length = s'.progress .outEp := by
    rw [hbytes, List.length_append, htaken, hout]
  refine ⟨⟨⟨pairs, by rwa [hs']⟩, ?_, ?_⟩, ?_⟩
  · rintro (_ | _) hnil
    · rw [hin]
      exact h.idle .inEp (hs' ▸ hnil)
    · rw [hnil] at hhead'
      cases hhead'
  · intro q hq hfirst
    have heq := hlive'.eq_of_outReq hq.outReq (Option.some.inj (hhead'.symm.trans hfirst))
    rw [← heq, hlength, hout]
    exact ⟨Nat.dvd_add hdvd ⟨1, hfull.trans (Nat.mul_one _).symm⟩, Nat.le_refl _,
      fun _ => hroom⟩
  · have hdvd' : cfg.maxpacket ∣ ((s.memory p.buf).take (s.progress .outEp)).length := by
      rwa [htaken]
    rw [EchoState.pending, hunsent, filling_of_live hlive' hhead', ← hlength, List.take_length,
      hbytes, fullPackets_concat cfg.maxpacket_pos hdvd' hfull, EchoState.pending,
      filling_of_live hlive hhead, List.append_assoc]

/-- **A packet received** is the last one pending. -/
theorem EchoInv.fill (h : EchoInv cfg s log) (hloop : LoopInv cfg.toLoopConfig s.loop log pairs)
    (hp : (pairs .outEp)[0]? = some p) (hle : packet.length ≤ cfg.maxpacket)
    {out : List (EchoRecord β)}
    (hstep : s.fill cfg ⟨.outEp, some p.buf, some p.inReq, cfg.outLength, false⟩ p.buf packet
      queueResult = some (s', out)) :
    EchoFrame cfg s s' log out ∧
      (s'.pending cfg).Sublist (s.pending cfg ++ [packet]) ∧
      (queueResult = 0 → s.loop.enabled .inEp = true →
        s.progress .outEp + packet.length ≤ cfg.outLength →
          s'.pending cfg = s.pending cfg ++ [packet] ∧ s'.pairs = s.pairs) := by
  have hmem : p ∈ pairs .outEp := List.mem_of_getElem? hp
  have hhead : (s.loop.queue .outEp).head? = some p.outReq := by
    rw [hloop.queue .outEp, List.head?_map, List.head?_eq_getElem?, hp]
    rfl
  have hwritten := fun (memory : Nat → List β) (heq : memory = _) =>
    h.write hloop hmem hhead packet heq
  unfold EchoState.fill at hstep
  dsimp only at hstep
  split at hstep
  · -- the packet does not fit
    next hover =>
    obtain ⟨loop, lout, hacc, hhandle, rfl, rfl⟩ := EchoState.complete_eq_some hstep
    have hnot : ¬ (-eoverflow = 0 ∧ s.loop.enabled LoopEp.outEp.other = true ∧
        queueResult = 0) := fun hok => absurd hok.1 (by decide)
    obtain ⟨hinv, -⟩ := h.freed hacc hnot hhandle
    obtain ⟨henabled, hcontrol⟩ := hloop.complete_frame hacc hhandle
    refine ⟨⟨by rwa [loopRecords_loop], received_loop _, returned_loop _, henabled, hcontrol⟩,
      ?_, fun _ _ hfit => absurd hover (Nat.not_lt.2 hfit)⟩
    exact (h.freed_pending hacc hnot hhandle).trans (List.sublist_append_left _ _)
  next hfit =>
  split at hstep
  · -- the transfer is over
    next hdone =>
    obtain ⟨loop, lout, hacc, hhandle, rfl, rfl⟩ := EchoState.complete_eq_some hstep
    obtain ⟨henabled, hcontrol⟩ := hloop.complete_frame hacc hhandle
    by_cases hok : s.loop.enabled .inEp = true ∧ queueResult = 0
    · obtain ⟨hin, rfl⟩ := hok
      obtain ⟨hinv, heq⟩ := h.fill_done hloop hp hhead rfl hle (Nat.not_lt.1 hfit) hdone hin hacc
        hhandle
      refine ⟨⟨by rwa [loopRecords_loop], received_loop _, returned_loop _, henabled, hcontrol⟩,
        ?_, fun _ _ _ => ⟨heq, hloop.complete_moved_length hp hin hhandle⟩⟩
      rw [heq]
    · have hnot : ¬ ((0 : Int) = 0 ∧ s.loop.enabled LoopEp.outEp.other = true ∧
          queueResult = 0) := fun h => hok h.2
      obtain ⟨hwrite, -, hpending⟩ := hwritten _ rfl
      obtain ⟨hinv, -⟩ := hwrite.freed hacc hnot hhandle
      refine ⟨⟨by rwa [loopRecords_loop], received_loop _, returned_loop _, henabled, hcontrol⟩,
        ?_, fun hq hin _ => absurd ⟨hin, hq⟩ hok⟩
      have hlost := hwrite.freed_pending hacc hnot hhandle
      rw [hpending] at hlost
      exact hlost.trans (List.sublist_append_left _ _)
  · -- a full packet, and room for more
    next hdone =>
    simp only [fillDone, Bool.or_eq_true, decide_eq_true_eq, not_or, Nat.not_lt] at hdone
    obtain ⟨-, hunsent, -⟩ := hwritten _ rfl
    obtain ⟨hs', rfl⟩ := Prod.mk.inj (Option.some.inj hstep)
    have hloop' : s'.loop = s.loop := by rw [← hs']
    have hin : s'.progress .inEp = s.progress .inEp := by
      have hne : LoopEp.inEp ≠ .outEp := by decide
      rw [← hs']
      dsimp only
      rw [Function.update_of_ne hne]
    have hout : s'.progress .outEp = s.progress .outEp + packet.length := by
      rw [← hs']
      dsimp only
      rw [Function.update_self]
    have hbytes : s'.memory p.buf = (s.memory p.buf).take (s.progress .outEp) ++ packet := by
      rw [← hs']
      exact Function.update_self ..
    have hunsent' : s'.unsent cfg = s.unsent cfg := by
      rw [← hunsent, EchoState.unsent, EchoState.unsent, hin, ← hs']
      rfl
    obtain ⟨hinv, heq⟩ := h.fill_more hloop hmem hhead (Nat.le_antisymm hle hdone.1)
      (Nat.lt_of_le_of_ne (Nat.not_lt.1 hfit) hdone.2) hloop' hbytes hunsent' hin hout
    have hpairs : s'.pairs = s.pairs := by rw [EchoState.pairs, EchoState.pairs, hloop']
    refine ⟨⟨?_, rfl, rfl, by rw [hloop'], by rw [hloop']⟩, ?_, fun _ _ _ => ⟨heq, hpairs⟩⟩
    · simpa [loopRecords] using hinv
    · rw [heq]

/-- The transfer at the head of the queue, seen through its next packet. -/
theorem unsent_head (hloop : LoopInv cfg.toLoopConfig s.loop log pairs)
    (hp : (pairs .inEp)[0]? = some p) :
    ∃ reqs, s.loop.queue .inEp = p.inReq :: reqs ∧
      s.unsent cfg = s.transfer cfg (s.progress .inEp) p.inReq ++
        reqs.flatMap (s.transfer cfg 0) := by
  have hnext : (s.loop.queue .inEp)[0]? = some p.inReq := by
    rw [hloop.queue .inEp, List.getElem?_map, hp]
    rfl
  unfold EchoState.unsent
  cases hq : s.loop.queue .inEp with
  | nil => rw [hq] at hnext; cases hnext
  | cons x xs =>
    rw [hq] at hnext
    cases hnext
    exact ⟨xs, rfl, rfl⟩

theorem transfer_step (cfg : EchoConfig) {n : Nat} {z : Bool} {r : UsbRequest}
    (hr : r = ⟨.inEp, some p.buf, some p.outReq, n, z⟩)
    (hget : s.loop.heap.requests.get? p.inReq = some r) :
    s.transfer cfg (s.progress .inEp) p.inReq = (s.rest r p.buf).take cfg.maxpacket ::
      if sendDone cfg.maxpacket z (s.rest r p.buf) = true then []
      else s.transfer cfg (s.progress .inEp + cfg.maxpacket) p.inReq := by
  subst hr
  rw [transfer_of_live hget, transfer_of_live hget, transferPackets_step cfg.maxpacket_pos,
    List.drop_drop]
  rfl

/-- **A packet sent** is the first one pending. -/
theorem EchoInv.send (h : EchoInv cfg s log) (hloop : LoopInv cfg.toLoopConfig s.loop log pairs)
    (hp : (pairs .inEp)[0]? = some p) {n : Nat} {z : Bool} {r : UsbRequest}
    (hr : r = ⟨.inEp, some p.buf, some p.outReq, n, z⟩)
    (hget : s.loop.heap.requests.get? p.inReq = some r) {out : List (EchoRecord β)}
    (hstep : s.send cfg r p.buf queueResult = some (s', out)) :
    EchoFrame cfg s s' log out ∧
      ((s.rest r p.buf).take cfg.maxpacket :: s'.pending cfg).Sublist (s.pending cfg) ∧
      (queueResult = 0 → s.loop.enabled .outEp = true →
        s.unsent cfg = (s.rest r p.buf).take cfg.maxpacket :: s'.unsent cfg ∧
          s'.filling cfg = s.filling cfg ∧ s'.pairs = s.pairs) := by
  obtain ⟨reqs, hqueue, hunsent⟩ := unsent_head hloop hp
  have hfirst := transfer_step cfg hr hget
  have hz : r.zero = z := by rw [hr]
  have hsub : s.unsent cfg = (s.rest r p.buf).take cfg.maxpacket :: s'.unsent cfg →
      s'.filling cfg = s.filling cfg →
        ((s.rest r p.buf).take cfg.maxpacket :: s'.pending cfg).Sublist (s.pending cfg) := by
    intro hnext hfilling
    rw [EchoState.pending, EchoState.pending, hnext, hfilling]
    exact List.Sublist.refl _
  unfold EchoState.send at hstep
  rw [hz] at hstep
  split at hstep
  · -- the transfer is over
    next hdone =>
    rw [if_pos hdone] at hfirst
    obtain ⟨loop, lout, hacc, hhandle, rfl, rfl⟩ := EchoState.complete_eq_some hstep
    obtain ⟨henabled, hcontrol⟩ := hloop.complete_frame hacc hhandle
    by_cases hok : s.loop.enabled .outEp = true ∧ queueResult = 0
    · obtain ⟨hout, rfl⟩ := hok
      obtain ⟨hinv, hnext, hfilling⟩ := h.moved_in hloop hp hacc hout hhandle
      rw [hfirst] at hnext
      exact ⟨⟨by rwa [loopRecords_loop], received_loop _, returned_loop _, henabled, hcontrol⟩,
        hsub hnext hfilling,
        fun _ _ => ⟨hnext, hfilling, hloop.complete_moved_length hp hout hhandle⟩⟩
    · have hnot : ¬ ((0 : Int) = 0 ∧ s.loop.enabled LoopEp.inEp.other = true ∧
          queueResult = 0) := fun h => hok h.2
      obtain ⟨hinv, hupdate, hrest, hfilling⟩ := h.freed hacc hnot hhandle
      refine ⟨⟨by rwa [loopRecords_loop], received_loop _, returned_loop _, henabled, hcontrol⟩,
        ?_, fun hq hout => absurd ⟨hout, hq⟩ hok⟩
      rw [hupdate, Function.update_self, hqueue, List.eraseIdx_cons_zero, completed_progress,
        if_pos rfl, queuePackets_zero] at hrest
      rw [EchoState.pending, EchoState.pending, hunsent, hfirst, hrest]
      exact ((List.Sublist.refl _).append hfilling).cons_cons _
  · -- a full packet, and more to send
    next hdone =>
    rw [if_neg hdone] at hfirst
    obtain ⟨hs', rfl⟩ := Prod.mk.inj (Option.some.inj hstep)
    have hloop' : s'.loop = s.loop := by rw [← hs']
    have hin : s'.progress .inEp = s.progress .inEp + cfg.maxpacket := by
      rw [← hs']
      dsimp only
      rw [Function.update_self]
    have hout : s'.progress .outEp = s.progress .outEp := by
      have hne : LoopEp.outEp ≠ .inEp := by decide
      rw [← hs']
      dsimp only
      rw [Function.update_of_ne hne]
    have hmem : s'.memory = s.memory := by rw [← hs']
    have hnext : s.unsent cfg = (s.rest r p.buf).take cfg.maxpacket :: s'.unsent cfg := by
      have hunsent' : s'.unsent cfg = s.transfer cfg (s.progress .inEp + cfg.maxpacket) p.inReq ++
          reqs.flatMap (s.transfer cfg 0) := by
        rw [EchoState.unsent, hin, hloop', hqueue, queuePackets, ← hs']
        rfl
      rw [hunsent, hfirst, hunsent']
      rfl
    have hfilling : s'.filling cfg = s.filling cfg := filling_congr (by rw [hloop']) hmem hout
    have hpairs : s'.pairs = s.pairs := by rw [EchoState.pairs, EchoState.pairs, hloop']
    refine ⟨⟨⟨⟨pairs, ?_⟩, ?_, ?_⟩, rfl, rfl, by rw [hloop'], by rw [hloop']⟩, hsub hnext hfilling,
      fun _ _ => ⟨hnext, hfilling, hpairs⟩⟩
    · rw [hloop']
      simpa [loopRecords] using hloop
    · rintro (_ | _) hnil
      · rw [hloop', hqueue] at hnil
        cases hnil
      · rw [hout]
        exact h.idle .outEp (hloop' ▸ hnil)
    · intro q hq hhead
      rw [hout, hmem]
      exact h.filling q (hloop' ▸ hq) (hloop' ▸ hhead)

end

/-- Packets only, and the USB stack takes every request it is given. -/
def EchoEvent.Lossless : EchoEvent β → Prop
  | .outPacket _ queueResult | .inPacket queueResult => queueResult = 0
  | .loop _ => False

/-- The request that a packet finds. -/
theorem LoopInv.head?_eq_some (hloop : LoopInv cfg.toLoopConfig s.loop log pairs) {ep : LoopEp}
    {req : Nat} (h : s.head? ep = some req) :
    s.loop.enabled ep = true ∧ ∃ p, (pairs ep)[0]? = some p ∧ p.req ep = req ∧
      PairLive cfg.toLoopConfig s.loop.heap p := by
  unfold EchoState.head? at h
  split at h
  · next henabled =>
    rw [hloop.queue ep, List.head?_map, Option.map_eq_some_iff] at h
    obtain ⟨p, hp, rfl⟩ := h
    refine ⟨henabled, p, List.head?_eq_getElem?.symm.trans hp, rfl, hloop.heap.live p ?_⟩
    cases ep with
    | inEp => exact List.mem_append_right _ (List.mem_of_head? hp)
    | outEp => exact List.mem_append_left _ (List.mem_of_head? hp)
  · cases h

/-- A buffer whose size is a multiple of the packet size has room for a packet until it is full. -/
theorem EchoInv.fits (h : EchoInv cfg s log) (hlive : PairLive cfg.toLoopConfig s.loop.heap p)
    (hhead : (s.loop.queue .outEp).head? = some p.outReq) (hdvd : cfg.maxpacket ∣ cfg.outLength)
    (hpos : 0 < cfg.outLength) : s.progress .outEp + cfg.maxpacket ≤ cfg.outLength := by
  obtain ⟨hprogress, -, hroom⟩ := h.filling p hlive hhead
  by_cases hzero : s.progress .outEp = 0
  · rw [hzero, Nat.zero_add]
    exact Nat.le_of_dvd hpos hdvd
  · have hlt := hroom hzero
    have hle := Nat.le_of_dvd (Nat.sub_pos_of_lt hlt) (Nat.dvd_sub hdvd hprogress)
    omega

/-- What a step keeps, loses and, if nothing goes wrong, carries. -/
structure EchoStepped (cfg : EchoConfig) (s s' : EchoState β) (log : List LoopRecord)
    (e : EchoEvent β) (out : List (EchoRecord β)) : Prop where
  inv : EchoInv cfg s' (log ++ loopRecords out)
  sublist : (returned out ++ s'.pending cfg).Sublist (s.pending cfg ++ received out)
  lossless : e.Lossless → (∀ ep, s.loop.enabled ep = true) → cfg.maxpacket ∣ cfg.outLength →
    0 < cfg.outLength → s'.loop.enabled = s.loop.enabled ∧ s'.pairs = s.pairs ∧
      returned out ++ s'.pending cfg = s.pending cfg ++ received out

theorem EchoInv.refused (h : EchoInv cfg s log) (e : EchoEvent β) (ep : LoopEp) :
    EchoStepped cfg s s log e [.refused ep] where
  inv := by simpa [loopRecords] using h
  sublist := by simp [returned, received]
  lossless _ _ _ _ := ⟨rfl, rfl, by simp [returned, received]⟩

theorem EchoInv.outPacket (h : EchoInv cfg s log) {packet : List β} {queueResult : Int}
    {out : List (EchoRecord β)}
    (hstep : echoStep cfg s (.outPacket packet queueResult) = some (s', out)) :
    EchoStepped cfg s s' log (.outPacket packet queueResult) out := by
  obtain ⟨pairs, hloop⟩ := h.loop
  by_cases hle : cfg.maxpacket < packet.length
  · simp [echoStep, hle] at hstep
  cases hhead : s.head? .outEp with
  | none =>
    simp only [echoStep, if_neg hle, hhead, Option.some.injEq, Prod.mk.injEq] at hstep
    obtain ⟨rfl, rfl⟩ := hstep
    exact h.refused _ _
  | some req =>
    obtain ⟨-, p, hp, rfl, hlive⟩ := hloop.head?_eq_some hhead
    simp only [echoStep, if_neg hle, hhead, LoopPair.req, hlive.outReq, Option.bind_some,
      Option.map_eq_some_iff, Prod.mk.injEq, Prod.exists] at hstep
    obtain ⟨s₁, out₁, hfill, rfl, rfl⟩ := hstep
    obtain ⟨hframe, hsub, heq⟩ := h.fill hloop hp (Nat.not_lt.1 hle) hfill
    have hreceived : received (.received packet :: out₁) = [packet] :=
      congrArg (packet :: ·) hframe.received
    have hreturned : returned (.received packet :: out₁) = [] := hframe.returned
    refine ⟨hframe.inv, ?_, fun hq henabled hdvd hpos => ?_⟩
    · rw [hreceived, hreturned]
      exact hsub
    · have hfirst : (s.loop.queue .outEp).head? = some p.outReq := by
        rw [hloop.queue .outEp, List.head?_map, List.head?_eq_getElem?, hp]
        rfl
      have hroom := h.fits hlive hfirst hdvd hpos
      obtain ⟨hpending, hpairs⟩ := heq hq (henabled .inEp)
        (Nat.le_trans (Nat.add_le_add_left (Nat.not_lt.1 hle) _) hroom)
      rw [hreceived, hreturned]
      exact ⟨hframe.enabled, hpairs, hpending⟩

theorem EchoInv.inPacket (h : EchoInv cfg s log) {queueResult : Int}
    {out : List (EchoRecord β)}
    (hstep : echoStep cfg s (.inPacket queueResult) = some (s', out)) :
    EchoStepped cfg s s' log (.inPacket queueResult) out := by
  obtain ⟨pairs, hloop⟩ := h.loop
  cases hhead : s.head? .inEp with
  | none =>
    simp only [echoStep, hhead, Option.some.injEq, Prod.mk.injEq] at hstep
    obtain ⟨rfl, rfl⟩ := hstep
    exact h.refused _ _
  | some req =>
    obtain ⟨-, p, hp, rfl, hlive⟩ := hloop.head?_eq_some hhead
    obtain ⟨n, z, hget⟩ := hlive.inReq
    simp only [echoStep, hhead, LoopPair.req, hget, Option.bind_some, Option.map_eq_some_iff,
      Prod.mk.injEq, Prod.exists] at hstep
    obtain ⟨s₁, out₁, hsend, rfl, rfl⟩ := hstep
    obtain ⟨hframe, hsub, heq⟩ := h.send hloop hp rfl hget hsend
    have hreceived : ∀ x, received (.returned x :: out₁) = [] := fun _ => hframe.received
    have hreturned : ∀ x, returned (.returned x :: out₁) = [x] :=
      fun x => congrArg (x :: ·) hframe.returned
    refine ⟨hframe.inv, ?_, fun hq henabled _ _ => ?_⟩
    · rw [hreceived, hreturned, List.append_nil]
      exact hsub
    · obtain ⟨hnext, hfilling, hpairs⟩ := heq hq (henabled .outEp)
      refine ⟨hframe.enabled, hpairs, ?_⟩
      rw [hreceived, hreturned, List.append_nil, EchoState.pending, EchoState.pending, hnext,
        hfilling]
      rfl

/-- The control callbacks leave the requests and the queues, apart from new OUT requests. -/
theorem loopHandle_extends {cfg : LoopConfig} {ls ls' : LoopState} {e : LoopEvent}
    {out : List LoopRecord}
    (hne : ∀ ep i status actual queueResult, e ≠ .complete ep i status actual queueResult)
    (h : loopHandle cfg ls e = some (ls', out)) : ls.Extends ls' := by
  cases e with
  | setAlt =>
    obtain ⟨rfl, -⟩ := Prod.mk.inj (Option.some.inj h)
    exact .of_eq rfl rfl
  | disable =>
    obtain ⟨rfl, -⟩ := Prod.mk.inj (Option.some.inj h)
    exact .of_eq rfl rfl
  | advance o => exact loopAdvance_extends h
  | complete ep i status actual queueResult => exact absurd rfl (hne _ _ _ _ _)

theorem echoStep_loop {cfg : EchoConfig} {e : LoopEvent}
    (hne : ∀ ep i status actual queueResult, e ≠ .complete ep i status actual queueResult) :
    echoStep cfg s (.loop e) = (loopStep cfg.toLoopConfig s.loop e).map
      fun (loop, out) => ({ s with loop }, out.map .loop) := by
  cases e with
  | setAlt => rfl
  | disable => rfl
  | advance o => rfl
  | complete ep i status actual queueResult => exact absurd rfl (hne _ _ _ _ _)

theorem EchoInv.loopEvent (h : EchoInv cfg s log) {e : LoopEvent} {out : List (EchoRecord β)}
    (hstep : echoStep cfg s (.loop e) = some (s', out)) :
    EchoStepped cfg s s' log (.loop e) out := by
  obtain ⟨pairs, hloop⟩ := h.loop
  have hresult : ∀ {s' : EchoState β} {lout : List LoopRecord},
      EchoInv cfg s' (log ++ lout) → (s'.pending cfg).Sublist (s.pending cfg) →
        EchoStepped cfg s s' log (.loop e) (lout.map .loop) := by
    intro s' lout hinv hsub
    refine ⟨by rwa [loopRecords_loop], ?_, fun hlossless => hlossless.elim⟩
    rwa [returned_loop, received_loop, List.append_nil, List.nil_append]
  by_cases hcomplete : ∃ ep i status actual queueResult,
      e = .complete ep i status actual queueResult
  · obtain ⟨ep, i, status, actual, queueResult, rfl⟩ := hcomplete
    by_cases hstatus : status = 0
    · simp [echoStep, hstatus] at hstep
    simp only [echoStep, if_neg hstatus, Option.map_eq_some_iff, Prod.mk.injEq,
      Prod.exists] at hstep
    obtain ⟨loop, lout, hloopStep, rfl, rfl⟩ := hstep
    obtain ⟨hacc, hhandle⟩ := loopStep_eq_some.1 hloopStep
    have hnot : ¬ (status = 0 ∧ s.loop.enabled ep.other = true ∧ queueResult = 0) :=
      fun hok => hstatus hok.1
    exact hresult (h.freed hacc hnot hhandle).1 (h.freed_pending hacc hnot hhandle)
  · have hne : ∀ ep i status actual queueResult, e ≠ .complete ep i status actual queueResult :=
      fun ep i status actual queueResult heq => hcomplete ⟨ep, i, status, actual, queueResult, heq⟩
    rw [echoStep_loop hne] at hstep
    simp only [Option.map_eq_some_iff, Prod.mk.injEq, Prod.exists] at hstep
    obtain ⟨loop, lout, hloopStep, rfl, rfl⟩ := hstep
    obtain ⟨hacc, hhandle⟩ := loopStep_eq_some.1 hloopStep
    obtain ⟨hinv, heq⟩ := h.extended (hloop.of_handle hacc hhandle)
      (loopHandle_extends hne hhandle)
    refine hresult hinv ?_
    rw [heq]

/-- **Every step** returns packets off the front of the pending ones and receives packets behind
them, apart from what it loses; in a lossless step it loses nothing. -/
theorem EchoInv.step (h : EchoInv cfg s log) {e : EchoEvent β} {out : List (EchoRecord β)}
    (hstep : echoStep cfg s e = some (s', out)) : EchoStepped cfg s s' log e out := by
  cases e with
  | outPacket packet queueResult => exact h.outPacket hstep
  | inPacket queueResult => exact h.inPacket hstep
  | loop e => exact h.loopEvent hstep

end

end UdeSample
