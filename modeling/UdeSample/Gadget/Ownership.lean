import Mathlib.Data.List.Perm.Basic
import UdeSample.Gadget.Pairs

/-!
# Who owns the request pairs of the loopback function

Every pair made by `alloc_requests` is at any time in exactly one of three places: its OUT request
is queued, its IN request is queued, or both requests and their buffer have been freed, each once
(`loopbackPairs`). The handlers never meet a freed request or buffer, and when the endpoints have
been disabled nothing is left.

`LoopInv` says that the pairs of the heap are the queued ones, and `ControlOk` what the control
callbacks know of the endpoints.
-/

namespace UdeSample

open Lib

section

variable {cfg : LoopConfig} {s : LoopState} {p : LoopPair} {ps : List LoopPair}
  {log : List LoopRecord}

/-- What either request of a live pair holds. -/
theorem PairLive.get? (h : PairLive cfg s.heap p) (ep : LoopEp) :
    ∃ length zero, s.heap.requests.get? (p.req ep) =
      some ⟨ep, some p.buf, some (p.req ep.other), length, zero⟩ := by
  cases ep with
  | inEp => exact h.inReq
  | outEp => exact ⟨_, _, h.outReq⟩

theorem PairLive.req_ne (h : PairLive cfg s.heap p) (ep : LoopEp) : p.req ep ≠ p.req ep.other := by
  cases ep with
  | inEp => exact (h.outReq_ne_inReq h).symm
  | outEp => exact h.outReq_ne_inReq h

/-! ## Freeing a pair -/

variable {requests : Store UsbRequest} {buffers : Store Unit}

theorem usbEpFreeRequest_of_some {ep : LoopEp} {req : Nat} {r : UsbRequest}
    (h : requests.get? req = some r) (hep : r.ep = ep) :
    usbEpFreeRequest ep (some req) ⟨requests, buffers⟩ =
      some (⟨requests.delete req, buffers⟩, [.freedRequest req]) := by
  simp [usbEpFreeRequest, h, hep]

theorem freeEpReq_of_some {ep : LoopEp} {req buf : Nat} {r : UsbRequest} {u : Unit}
    (h : requests.get? req = some r) (hep : r.ep = ep) (hbuf : r.buf = some buf)
    (hlive : buffers.get? buf = some u) : freeEpReq ep req ⟨requests, buffers⟩ =
      some (⟨requests.delete req, buffers.delete buf⟩,
        [.freedBuffer buf, .freedRequest req]) := by
  simp [freeEpReq, h, hbuf, Store.free?_of_some hlive, usbEpFreeRequest_of_some h hep]

/-- The state after `free_req` on an endpoint. -/
def LoopState.freePair (s : LoopState) (p : LoopPair) (ep : LoopEp) : LoopState :=
  { s with heap := s.heap.withoutPair (p.req ep.other) (p.req ep) p.buf }

def LoopPair.freed (p : LoopPair) (ep : LoopEp) : List LoopRecord :=
  [.freedRequest (p.req ep.other), .freedBuffer p.buf, .freedRequest (p.req ep)]

theorem freeReq_eq (h : PairLive cfg s.heap p) (ep : LoopEp) :
    freeReq ep (p.req ep) s = some (s.freePair p ep, p.freed ep) := by
  obtain ⟨n, z, hreq⟩ := h.get? ep
  obtain ⟨n', z', hother⟩ := h.get? ep.other
  have hleft : (s.heap.requests.delete (p.req ep.other)).get? (p.req ep) =
      some ⟨ep, some p.buf, some (p.req ep.other), n, z⟩ := by
    rw [Store.get?_delete, if_neg (h.req_ne ep), hreq]
  have hfirst : usbEpFreeRequest ep.other (some (p.req ep.other)) s.heap = _ :=
    usbEpFreeRequest_of_some hother rfl
  have hthen := freeEpReq_of_some hleft rfl rfl h.buf
  simp [freeReq, hreq, hfirst, hthen, LoopState.freePair, LoopHeap.withoutPair, LoopPair.freed]

theorem HeapInv.freePair (h : HeapInv cfg s.heap (p :: ps) log) (ep : LoopEp) :
    HeapInv cfg (s.freePair p ep).heap ps (log ++ p.freed ep) := by
  refine h.free ?_ rfl rfl ?_
  · cases ep with
    | inEp => exact Or.inl ⟨rfl, rfl⟩
    | outEp => exact Or.inr ⟨rfl, rfl⟩
  · intro o i b hmem
    simp [LoopPair.freed] at hmem

/-! ## The completion of a request -/

/-- The status of queueing a request on an endpoint. -/
def LoopState.queueStatus (s : LoopState) (ep : LoopEp) (result : Int) : Int :=
  if s.enabled ep = true then result else -eshutdown

theorem LoopState.queueStatus_eq_zero {ep : LoopEp} {result : Int} :
    s.queueStatus ep result = 0 ↔ s.enabled ep = true ∧ result = 0 := by
  unfold queueStatus
  cases s.enabled ep with
  | false => simp [eshutdown]
  | true => simp

theorem usbEpQueue_eq (h : PairLive cfg s.heap p) (ep : LoopEp) (result : Int) :
    usbEpQueue ep (p.req ep) result s =
      some (s.queueStatus ep result,
        if s.queueStatus ep result = 0 then
          { s with queue := Function.update s.queue ep (s.queue ep ++ [p.req ep]) }
        else s) := by
  obtain ⟨n, z, hreq⟩ := h.get? ep
  unfold usbEpQueue LoopState.queueStatus
  cases s.enabled ep with
  | false => simp [hreq, eshutdown]
  | true =>
    by_cases hq : result = 0
    · simp [hreq, hq]
    · simp [hreq, hq]

theorem requeue_eq (h : PairLive cfg s.heap p) (ep : LoopEp) (queueResult : Int) :
    requeue ep (p.req ep) queueResult s =
      if s.enabled ep = true ∧ queueResult = 0 then
        some ({ s with queue := Function.update s.queue ep (s.queue ep ++ [p.req ep]) }, [])
      else some (s.freePair p ep, p.freed ep) := by
  unfold requeue
  rw [usbEpQueue_eq h, Option.bind_some]
  by_cases hok : s.queueStatus ep queueResult = 0
  · rw [if_pos hok, if_pos (LoopState.queueStatus_eq_zero.mp hok)]
    exact if_pos hok
  · rw [if_neg hok, if_neg (mt LoopState.queueStatus_eq_zero.mpr hok)]
    exact (if_neg hok).trans (freeReq_eq h ep)

/-- The IN request is set up by a successful OUT completion only. -/
def LoopHeap.completed (cfg : LoopConfig) (heap : LoopHeap) (p : LoopPair) (ep : LoopEp)
    (actual : Nat) : LoopHeap :=
  match ep with
  | .outEp => heap.setIn p actual (decide (actual < cfg.outLength))
  | .inEp => heap

theorem HeapInv.completed (h : HeapInv cfg s.heap (p :: ps) log) (ep : LoopEp) (actual : Nat) :
    HeapInv cfg (s.heap.completed cfg p ep actual) (p :: ps) log := by
  cases ep with
  | inEp => exact h
  | outEp => exact h.setIn actual _

theorem loopbackComplete_eq (h : HeapInv cfg s.heap (p :: ps) log) (ep : LoopEp) (status : Int)
    (actual : Nat) (queueResult : Int) :
    loopbackComplete ep (p.req ep) status actual queueResult s =
      if status = 0 then
        requeue ep.other (p.req ep.other) queueResult
          { s with heap := s.heap.completed cfg p ep actual }
      else some (s.freePair p ep, p.freed ep) := by
  have hp := h.live p List.mem_cons_self
  obtain ⟨n, z, hreq⟩ := hp.get? ep
  by_cases hstatus : status = 0
  · rw [if_pos hstatus]
    cases ep with
    | inEp => simp [loopbackComplete, hreq, hstatus, LoopHeap.completed, LoopEp.other]
    | outEp =>
      obtain ⟨n', z', hin⟩ := hp.inReq
      have hout := hp.outReq
      simp [loopbackComplete, LoopPair.req, hout, hin, hstatus, LoopHeap.completed, LoopEp.other,
        LoopHeap.setIn]
  · have hfree := freeReq_eq hp ep
    simp [loopbackComplete, hreq, hstatus, hfree]

/-- A completed pair is queued on the other endpoint, or freed. -/
theorem loopbackComplete_cases (h : HeapInv cfg s.heap (p :: ps) log) (ep : LoopEp) (status : Int)
    (actual : Nat) (queueResult : Int) :
    ∃ s' out, loopbackComplete ep (p.req ep) status actual queueResult s = some (s', out) ∧
      s'.enabled = s.enabled ∧ s'.control = s.control ∧
      (s.enabled ep.other = true ∧ HeapInv cfg s'.heap (p :: ps) (log ++ out) ∧
          s'.queue = Function.update s.queue ep.other (s.queue ep.other ++ [p.req ep.other]) ∨
        HeapInv cfg s'.heap ps (log ++ out) ∧ s'.queue = s.queue) := by
  rw [loopbackComplete_eq h]
  by_cases hstatus : status = 0
  · have hset := h.completed ep actual
    rw [if_pos hstatus, requeue_eq (hset.live p List.mem_cons_self)]
    by_cases hqueued : s.enabled ep.other = true ∧ queueResult = 0
    · rw [if_pos hqueued]
      refine ⟨_, _, rfl, rfl, rfl, Or.inl ⟨hqueued.1, ?_, rfl⟩⟩
      rwa [List.append_nil]
    · rw [if_neg hqueued]
      exact ⟨_, _, rfl, rfl, rfl, Or.inr ⟨hset.freePair ep.other, rfl⟩⟩
  · rw [if_neg hstatus]
    exact ⟨_, _, rfl, rfl, rfl, Or.inr ⟨h.freePair ep, rfl⟩⟩

/-! ## `alloc_requests` -/

/-- The labels `fail_out` and `fail_in`. -/
theorem failOut_eq {heap : LoopHeap} (h : PairLive cfg heap p) :
    freeEpReq .outEp p.outReq heap = some
      (⟨heap.requests.delete p.outReq, heap.buffers.delete p.buf⟩,
        [.freedBuffer p.buf, .freedRequest p.outReq]) ∧
    usbEpFreeRequest .inEp (some p.inReq)
      ⟨heap.requests.delete p.outReq, heap.buffers.delete p.buf⟩ =
        some (heap.withoutPair p.outReq p.inReq p.buf, [.freedRequest p.inReq]) := by
  obtain ⟨n, z, hin⟩ := h.inReq
  have hleft : (heap.requests.delete p.outReq).get? p.inReq =
      some ⟨.inEp, some p.buf, some p.outReq, n, z⟩ := by
    rw [Store.get?_delete, if_neg (h.outReq_ne_inReq h).symm, hin]
  refine ⟨?_, ?_⟩
  · exact freeEpReq_of_some h.outReq rfl rfl h.buf
  · exact usbEpFreeRequest_of_some hleft rfl

/-- An iteration that gets both requests. -/
theorem allocPair_eq {o : LoopOutcomes} (hin : o.allocIn = true) (hout : o.allocOut = true) :
    allocPair cfg o s =
      let p := s.heap.nextPair
      let result := if s.enabled .outEp = true then o.queueResult else -eshutdown
      let made := LoopRecord.made p.outReq p.inReq p.buf
      if result = 0 then
        some ((0, { s with
          heap := s.heap.withPair cfg
          queue := Function.update s.queue .outEp (s.queue .outEp ++ [p.outReq]) }), [made])
      else
        some ((result, { s with
          heap := (s.heap.withPair cfg).withoutPair p.outReq p.inReq p.buf }),
          [made, .freedBuffer p.buf, .freedRequest p.outReq, .freedRequest p.inReq]) := by
  have hlive : PairLive cfg (s.heap.withPair cfg) s.heap.nextPair := nextPair_live
  obtain ⟨hfailOut, hfailIn⟩ := failOut_eq hlive
  have hqueue : usbEpQueue .outEp s.heap.nextPair.outReq o.queueResult
      { s with heap := s.heap.withPair cfg } = _ := usbEpQueue_eq hlive .outEp o.queueResult
  have hnext : s.heap.nextPair.outReq =
      (s.heap.requests.create ⟨.inEp, none, none, 0, false⟩).next := (Store.next_create ..).symm
  simp only [LoopPair.req, hnext] at hqueue hfailOut hfailIn ⊢
  simp only [allocPair, hin, hout, if_true]
  -- the heap that the iteration builds is that of the new pair
  change Option.bind (usbEpQueue .outEp (Store.next _) o.queueResult
    { s with heap := s.heap.withPair cfg }) _ = _
  rw [hqueue, Option.bind_some]
  have hstatus : LoopState.queueStatus { s with heap := s.heap.withPair cfg } .outEp
      o.queueResult = s.queueStatus .outEp o.queueResult := rfl
  rw [hstatus]
  change _ = if s.queueStatus .outEp o.queueResult = 0 then _ else _
  by_cases hok : s.queueStatus .outEp o.queueResult = 0
  · rw [if_pos hok, if_pos hok]
    exact (if_pos hok).symm
  · rw [if_neg hok, if_neg hok]
    refine Eq.trans ?_ (if_neg hok).symm
    change Option.bind (freeEpReq .outEp (Store.next _) (s.heap.withPair cfg)) _ = _
    rw [hfailOut]
    change Option.map _ (usbEpFreeRequest .inEp (some s.heap.nextPair.inReq) _) = _
    rw [hfailIn]
    rfl

/-- An iteration queues the OUT request of a new pair, or leaves nothing behind. -/
theorem allocPair_cases (h : HeapInv cfg s.heap ps log) (o : LoopOutcomes) :
    ∃ result s' out, allocPair cfg o s = some ((result, s'), out) ∧
      s'.enabled = s.enabled ∧
      (HeapInv cfg s'.heap (s.heap.nextPair :: ps) (log ++ out) ∧
          s'.queue = Function.update s.queue .outEp (s.queue .outEp ++ [s.heap.nextPair.outReq]) ∨
        HeapInv cfg s'.heap ps (log ++ out) ∧ s'.queue = s.queue) := by
  cases hin : o.allocIn with
  | false =>
    rw [allocPair, hin]
    exact ⟨_, _, _, rfl, rfl, Or.inr ⟨by rwa [List.append_nil], rfl⟩⟩
  | true =>
    cases hout : o.allocOut with
    | false =>
      have hnew : (s.heap.requests.create ⟨.inEp, none, none, 0, false⟩).get?
          s.heap.requests.next = some ⟨.inEp, none, none, 0, false⟩ :=
        (Store.get?_create s.heap.requests _ s.heap.requests.next).trans (if_pos rfl)
      have hfree : usbEpFreeRequest .inEp (some s.heap.requests.next) ⟨_, s.heap.buffers⟩ = _ :=
        usbEpFreeRequest_of_some hnew rfl
      simp only [allocPair, hin, hout, if_true, Bool.false_eq_true, if_false, hfree,
        Option.map_some]
      exact ⟨_, _, _, rfl, rfl, Or.inr ⟨h.createFree _, rfl⟩⟩
    | true =>
      rw [allocPair_eq hin hout]
      dsimp only
      by_cases hqueued :
        (if s.enabled .outEp = true then o.queueResult else -eshutdown) = 0
      · rw [if_pos hqueued]
        exact ⟨_, _, _, rfl, rfl, Or.inl ⟨h.create, rfl⟩⟩
      · rw [if_neg hqueued]
        refine ⟨_, _, _, rfl, rfl, Or.inr ⟨?_, rfl⟩⟩
        rw [← List.singleton_append, ← List.append_assoc]
        exact h.create.free (Or.inl ⟨rfl, rfl⟩) rfl rfl (by simp)

/-! ## The endpoints -/

/-- The endpoint is known to be disabled and empty. -/
def LoopControl.down : LoopControl → LoopEp → Bool
  | .idle enabled, _ => !enabled
  | .disable .outEp (.disableLoopback _), .inEp => true
  | .draining .outEp (.disableLoopback _), .inEp => true
  | .disable .inEp .failedEnable, .outEp => true
  | .draining .inEp .failedEnable, .outEp => true
  | .enable .inEp, _ => true
  | .enable .outEp, .outEp => true
  | _, _ => false

/-- What the control callbacks know of the endpoints. -/
structure ControlOk (s : LoopState) : Prop where
  down : ∀ ep, s.control.down ep = true → s.enabled ep = false ∧ s.queue ep = []
  draining : ∀ ep k, s.control = .draining ep k → s.enabled ep = false

theorem ControlOk.of_unknown (hdown : ∀ ep, s.control.down ep = false)
    (hdraining : ∀ ep k, s.control ≠ .draining ep k) : ControlOk s := by
  refine ⟨?_, ?_⟩
  · intro ep h
    rw [hdown ep] at h
    cases h
  · exact fun ep k h => absurd h (hdraining ep k)

/-- A completion keeps a disabled endpoint empty. -/
theorem ControlOk.complete {s' : LoopState} (h : ControlOk s) (henabled : s'.enabled = s.enabled)
    (hcontrol : s'.control = s.control)
    (hqueue : ∀ ep, s.enabled ep = false → s.queue ep = [] → s'.queue ep = []) :
    ControlOk s' := by
  refine ⟨?_, ?_⟩
  · intro ep hdown
    rw [hcontrol] at hdown
    obtain ⟨hdis, hempty⟩ := h.down ep hdown
    exact ⟨by rw [henabled, hdis], hqueue ep hdis hempty⟩
  · intro ep k hdraining
    rw [henabled]
    exact h.draining ep k (hcontrol ▸ hdraining)

theorem Teardown.after_ne_draining (k : Teardown) (ep ep' : LoopEp) (k' : Teardown) :
    k.after ep ≠ .draining ep' k' := by
  rcases k with ⟨_ | _⟩ | _ <;> cases ep <;> nofun

theorem LoopControl.down_draining (k : Teardown) (ep ep' : LoopEp)
    (h : (LoopControl.draining ep k).down ep' = true) :
    ep' ≠ ep ∧ (LoopControl.disable ep k).down ep' = true := by
  rcases k with ⟨_ | _⟩ | _ <;> cases ep <;> cases ep' <;> simp_all [LoopControl.down]

/-- When `usb_ep_disable` returns, what is known is what was known and that its endpoint is down. -/
theorem Teardown.down_after (k : Teardown) (ep ep' : LoopEp) (h : (k.after ep).down ep' = true) :
    ep' = ep ∨ (LoopControl.draining ep k).down ep' = true := by
  rcases k with ⟨_ | _⟩ | _ <;> cases ep <;> cases ep' <;>
    simp_all [Teardown.after, LoopControl.down]

/-- A control callback that returns or calls `usb_ep_disable` keeps what is known. -/
theorem ControlOk.advance (h : ControlOk s) (hno : ∀ i, s.control ≠ .alloc i) {o : LoopOutcomes}
    {s' : LoopState} {out : List LoopRecord} (hacc : s.accepts (.advance o) = true)
    (hstep : loopAdvance cfg o s = some (s', out)) : ControlOk s' := by
  unfold loopAdvance at hstep
  cases hc : s.control with
  | idle enabled => simp [hc] at hstep
  | disable ep k =>
    simp only [hc, Option.some.injEq, Prod.mk.injEq] at hstep
    obtain ⟨rfl, -⟩ := hstep
    refine ⟨?_, ?_⟩
    · intro ep' hdown
      obtain ⟨hne, hold⟩ := LoopControl.down_draining k ep ep' hdown
      dsimp only
      rw [Function.update_of_ne hne]
      exact h.down ep' (hc ▸ hold)
    · rintro ep' k' ⟨⟩
      exact Function.update_self ..
  | draining ep k =>
    simp only [hc, Option.some.injEq, Prod.mk.injEq] at hstep
    obtain ⟨rfl, -⟩ := hstep
    have hempty : s.queue ep = [] := by simpa [LoopState.accepts, hc] using hacc
    refine ⟨?_, fun ep' k' hc' => absurd hc' (k.after_ne_draining ep ep' k')⟩
    intro ep' hdown
    rcases k.down_after ep ep' hdown with rfl | hdown
    · exact ⟨h.draining ep' k hc, hempty⟩
    · exact h.down ep' (hc ▸ hdown)
  | enable ep =>
    simp only [hc] at hstep
    split at hstep
    · simp only [Option.some.injEq, Prod.mk.injEq] at hstep
      obtain ⟨rfl, -⟩ := hstep
      cases ep with
      | outEp => exact .of_unknown (fun ep' => by cases ep' <;> rfl) nofun
      | inEp =>
        refine ⟨?_, nofun⟩
        rintro (_ | _) hdown
        · cases hdown
        · exact h.down .outEp (by rw [hc]; rfl)
    · simp only [Option.some.injEq, Prod.mk.injEq] at hstep
      obtain ⟨rfl, -⟩ := hstep
      cases ep with
      | outEp =>
        refine ⟨?_, nofun⟩
        rintro (_ | _) hdown
        · cases hdown
        · exact h.down .outEp (by rw [hc]; rfl)
      | inEp => exact ⟨fun ep' _ => h.down ep' (by rw [hc]; cases ep' <;> rfl), nofun⟩
  | alloc i => exact absurd hc (hno i)

/-! ## The invariant -/

/-- The live pairs are those queued on the endpoints. -/
structure LoopInv (cfg : LoopConfig) (s : LoopState) (log : List LoopRecord)
    (pairs : LoopEp → List LoopPair) : Prop where
  queue : ∀ ep, s.queue ep = (pairs ep).map (·.req ep)
  heap : HeapInv cfg s.heap (pairs .outEp ++ pairs .inEp) log
  control : ControlOk s

theorem loopInv_init : LoopInv cfg loopInit [] fun _ => [] := by
  refine ⟨fun _ => rfl, ⟨?_, .nil, ?_, ?_, Store.FreedOnce.empty, Store.FreedOnce.empty, ?_⟩, ?_⟩
  · exact fun p hp => absurd hp List.not_mem_nil
  · exact fun i r hr => by cases hr
  · exact fun b u hb => by cases hb
  · exact fun p hp => absurd hp List.not_mem_nil
  · exact ⟨fun _ _ => ⟨rfl, rfl⟩, nofun⟩

section

variable {pairs : LoopEp → List LoopPair}

/-- A pair is taken off an endpoint. -/
theorem perm_eraseIdx {ep : LoopEp} {i : Nat} (h : (pairs ep)[i]? = some p) :
    (pairs .outEp ++ pairs .inEp).Perm
      (p :: (Function.update pairs ep ((pairs ep).eraseIdx i) .outEp ++
        Function.update pairs ep ((pairs ep).eraseIdx i) .inEp)) := by
  obtain ⟨hi, rfl⟩ := List.getElem?_eq_some_iff.1 h
  have hperm := List.getElem_cons_eraseIdx_perm hi
  cases ep with
  | outEp => simpa using (hperm.append_right (pairs .inEp)).symm
  | inEp => simpa using ((hperm.append_left (pairs .outEp)).symm).trans List.perm_middle

/-- A pair is queued on an endpoint. -/
theorem perm_queue (ep : LoopEp) :
    (p :: (pairs .outEp ++ pairs .inEp)).Perm
      (Function.update pairs ep (pairs ep ++ [p]) .outEp ++
        Function.update pairs ep (pairs ep ++ [p]) .inEp) := by
  cases ep with
  | outEp =>
    have hperm := (List.perm_append_singleton p (pairs .outEp)).symm
    simpa using hperm.append_right (pairs .inEp)
  | inEp =>
    have hperm := (List.perm_append_singleton p (pairs .inEp)).symm
    simpa using List.perm_middle.symm.trans (hperm.append_left (pairs .outEp))

theorem queue_update {queue : LoopEp → List Nat}
    (h : ∀ ep, queue ep = (pairs ep).map (·.req ep)) (ep : LoopEp) (ps : List LoopPair)
    (ep' : LoopEp) : Function.update queue ep (ps.map (·.req ep)) ep' =
      (Function.update pairs ep ps ep').map (·.req ep') := by
  by_cases hep : ep' = ep
  · subst hep
    rw [Function.update_self, Function.update_self]
  · rw [Function.update_of_ne hep, Function.update_of_ne hep, h ep']

end

/-! ## Steps -/

section

variable {pairs : LoopEp → List LoopPair}

/-- A completion is handled, and keeps the invariant. -/
theorem LoopInv.complete (h : LoopInv cfg s log pairs) {ep : LoopEp} {i : Nat} {status : Int}
    {actual : Nat} {queueResult : Int}
    (hacc : s.accepts (.complete ep i status actual queueResult) = true) :
    ∃ s' out pairs', loopHandle cfg s (.complete ep i status actual queueResult) =
      some (s', out) ∧ LoopInv cfg s' (log ++ out) pairs' := by
  obtain ⟨p, hp⟩ : ∃ p, (pairs ep)[i]? = some p := by
    cases hp : (pairs ep)[i]? with
    | none => simp [LoopState.accepts, h.queue ep, hp] at hacc
    | some p => exact ⟨p, rfl⟩
  have hreq : (s.queue ep)[i]? = some (p.req ep) := by
    rw [h.queue ep, List.getElem?_map, hp, Option.map_some]
  have hqueue := queue_update h.queue ep ((pairs ep).eraseIdx i)
  rw [← List.eraseIdx_map, ← h.queue ep] at hqueue
  have hheap := h.heap.perm (perm_eraseIdx hp)
  obtain ⟨s', out, hstep, henabled, hcontrol, hcases⟩ := loopbackComplete_cases (s :=
    { s with queue := Function.update s.queue ep ((s.queue ep).eraseIdx i) }) hheap ep status
    actual queueResult
  have hempty : ∀ ep', s.queue ep' = [] →
      Function.update s.queue ep ((s.queue ep).eraseIdx i) ep' = [] := by
    intro ep' hnil
    by_cases hep : ep' = ep
    · subst hep
      rw [Function.update_self, hnil, List.eraseIdx_nil]
    · rw [Function.update_of_ne hep, hnil]
  simp only [loopHandle, hreq, Option.bind_some]
  rcases hcases with ⟨hother, hinv, hq⟩ | ⟨hinv, hq⟩
  · refine ⟨s', out, _, hstep, ?_, hinv.perm (perm_queue ep.other), ?_⟩
    · intro ep'
      have hnew := queue_update hqueue ep.other
        (Function.update pairs ep ((pairs ep).eraseIdx i) ep.other ++ [p]) ep'
      rw [List.map_append, ← hqueue] at hnew
      rw [hq]
      exact hnew
    · refine h.control.complete henabled hcontrol ?_
      intro ep' hdis hnil
      have hne : ep' ≠ ep.other := by
        rintro rfl
        rw [hdis] at hother
        cases hother
      rw [hq, Function.update_of_ne hne]
      exact hempty ep' hnil
  · refine ⟨s', out, _, hstep, ?_, hinv, ?_⟩
    · intro ep'
      rw [hq]
      exact hqueue ep'
    · refine h.control.complete henabled hcontrol ?_
      intro ep' hdis hnil
      rw [hq]
      exact hempty ep' hnil

/-- A step of a control callback is made, and keeps the invariant. -/
theorem LoopInv.advance (h : LoopInv cfg s log pairs) {o : LoopOutcomes}
    (hacc : s.accepts (.advance o) = true) :
    ∃ s' out pairs', loopHandle cfg s (.advance o) = some (s', out) ∧
      LoopInv cfg s' (log ++ out) pairs' := by
  by_cases halloc : ∃ i, s.control = .alloc i
  · obtain ⟨i, hc⟩ := halloc
    by_cases hi : i < cfg.qlen
    · obtain ⟨result, s', out, hstep, henabled, hcases⟩ := allocPair_cases h.heap o
      have hok : ∀ control, (control = .alloc (i + 1) ∨ control = .disable .outEp .failedEnable) →
          ControlOk { s' with control } := by
        rintro control (rfl | rfl)
        · exact .of_unknown (fun _ => rfl) nofun
        · exact .of_unknown (fun ep => by cases ep <;> rfl) nofun
      simp only [loopHandle, loopAdvance, hc, if_pos hi, hstep, Option.map_some]
      rcases hcases with ⟨hinv, hq⟩ | ⟨hinv, hq⟩
      · refine ⟨_, _, _, rfl, ?_, hinv.perm (perm_queue .outEp), hok _ (by split <;> simp)⟩
        intro ep
        have hnew := queue_update h.queue .outEp (pairs .outEp ++ [s.heap.nextPair]) ep
        rw [List.map_append, ← h.queue] at hnew
        rw [hq]
        exact hnew
      · exact ⟨_, _, _, rfl, fun ep => by rw [hq, h.queue ep], hinv, hok _ (by split <;> simp)⟩
    · simp only [loopHandle, loopAdvance, hc, if_neg hi]
      refine ⟨_, _, _, rfl, h.queue, ?_, .of_unknown (fun _ => rfl) nofun⟩
      rw [List.append_nil]
      exact h.heap
  · have hno : ∀ i, s.control ≠ .alloc i := fun i hi => halloc ⟨i, hi⟩
    obtain ⟨s', hstep, hheap, hqueue⟩ : ∃ s', loopAdvance cfg o s = some (s', []) ∧
        s'.heap = s.heap ∧ s'.queue = s.queue := by
      unfold loopAdvance
      cases hc : s.control with
      | idle enabled => simp [LoopState.accepts, hc] at hacc
      | disable ep k => exact ⟨_, rfl, rfl, rfl⟩
      | draining ep k => exact ⟨_, rfl, rfl, rfl⟩
      | enable ep =>
        dsimp only
        split
        · exact ⟨_, rfl, rfl, rfl⟩
        · exact ⟨_, rfl, rfl, rfl⟩
      | alloc i => exact absurd hc (hno i)
    refine ⟨s', [], pairs, hstep, fun ep => by rw [hqueue, h.queue ep], ?_, ?_⟩
    · rw [hheap, List.append_nil]
      exact h.heap
    · exact h.control.advance hno hacc hstep

/-- **Every event is handled**, and keeps the invariant. -/
theorem LoopInv.step (h : LoopInv cfg s log pairs) {e : LoopEvent} (hacc : s.accepts e = true) :
    ∃ s' out pairs', loopHandle cfg s e = some (s', out) ∧
      LoopInv cfg s' (log ++ out) pairs' := by
  have hstart : ∀ k, LoopInv cfg { s with control := .disable .inEp (.disableLoopback k) }
      (log ++ []) pairs := by
    intro k
    rw [List.append_nil]
    exact ⟨h.queue, h.heap, .of_unknown (fun ep => by cases ep <;> rfl) nofun⟩
  cases e with
  | setAlt => exact ⟨_, _, _, rfl, hstart true⟩
  | disable => exact ⟨_, _, _, rfl, hstart false⟩
  | advance o => exact h.advance hacc
  | complete ep i status actual queueResult => exact h.complete hacc

end

/-! ## Runs -/

/-- How often the requests of a pair are queued, and its requests and its buffer freed. -/
def LoopPair.counts (p : LoopPair) (s : LoopState) (log : List LoopRecord) : List Nat :=
  [(s.queue .outEp).count p.outReq, (s.queue .inEp).count p.inReq,
    (freedRequests log).count p.outReq, (freedRequests log).count p.inReq,
    (freedBuffers log).count p.buf]

section

variable {pairs : LoopEp → List LoopPair}

theorem loopRun_inv {t : List LoopEvent} (h : loopRun cfg t = some (s, log)) :
    ∃ pairs, LoopInv cfg s log pairs := by
  refine run_invariant (P := fun _ q => ∃ pairs, LoopInv cfg q.1 q.2 pairs)
    ⟨_, loopInv_init⟩ ?_ h
  rintro - ⟨s, log⟩ e ⟨s', log'⟩ - ⟨pairs, hinv⟩ hlog
  obtain ⟨out, hstep, rfl⟩ := logged_eq_some.1 hlog
  unfold loopStep at hstep
  split at hstep
  · next hacc =>
    obtain ⟨s₁, out₁, pairs', hhandle, hinv'⟩ := hinv.step hacc
    cases hhandle.symm.trans hstep
    exact ⟨pairs', hinv'⟩
  · cases hstep

/-- Pairs that are apart are queued once. -/
theorem count_req {ps : List LoopPair} (h : ps.Pairwise LoopPair.Apart) (hp : p ∈ ps)
    (ep : LoopEp) : (ps.map (·.req ep)).count (p.req ep) = 1 := by
  have hnodup : (ps.map (·.req ep)).Nodup := by
    refine List.pairwise_map.2 (h.imp ?_)
    rintro q q' ⟨hout, hin, -⟩
    cases ep with
    | inEp => exact hin
    | outEp => exact hout
  rw [hnodup.count, if_pos (List.mem_map_of_mem hp)]

theorem count_req_eq_zero {ps : List LoopPair} (ep : LoopEp)
    (h : ∀ q ∈ ps, q.req ep ≠ p.req ep) : (ps.map (·.req ep)).count (p.req ep) = 0 := by
  refine List.count_eq_zero.2 fun hmem => ?_
  obtain ⟨q, hq, heq⟩ := List.mem_map.1 hmem
  exact h q hq heq

theorem LoopInv.counts_dead (h : LoopInv cfg s log pairs) (hp : PairDead s.heap p) :
    p.counts s log = [0, 0, 1, 1, 1] := by
  have hne : ∀ ep, ∀ q ∈ pairs .outEp ++ pairs .inEp, q.req ep ≠ p.req ep := by
    intro ep q hq heq
    obtain ⟨n, z, hget⟩ := (h.heap.live q hq).get? ep
    rw [heq] at hget
    cases ep with
    | inEp => cases hp.inReq.1.symm.trans hget
    | outEp => cases hp.outReq.1.symm.trans hget
  have hout : (s.queue .outEp).count p.outReq = 0 := by
    rw [h.queue .outEp]
    exact count_req_eq_zero .outEp fun q hq => hne .outEp q (List.mem_append_left _ hq)
  have hin : (s.queue .inEp).count p.inReq = 0 := by
    rw [h.queue .inEp]
    exact count_req_eq_zero .inEp fun q hq => hne .inEp q (List.mem_append_right _ hq)
  rw [LoopPair.counts, hout, hin, h.heap.freedRequests.count_of_none hp.outReq.2 hp.outReq.1,
    h.heap.freedRequests.count_of_none hp.inReq.2 hp.inReq.1,
    h.heap.freedBuffers.count_of_none hp.buf.2 hp.buf.1]

/-- A pair made is in one of its three places. -/
theorem LoopInv.counts_made (h : LoopInv cfg s log pairs)
    (hmade : .made p.outReq p.inReq p.buf ∈ log) :
    p.counts s log ∈ [[1, 0, 0, 0, 0], [0, 1, 0, 0, 0], [0, 0, 1, 1, 1]] := by
  rcases h.heap.made p hmade with hmem | hdead
  · have hlive := h.heap.live p hmem
    obtain ⟨n, z, hget⟩ := hlive.inReq
    obtain ⟨houts, hins, happart⟩ := List.pairwise_append.1 h.heap.apart
    have hfreed : p.counts s log =
        [(s.queue .outEp).count p.outReq, (s.queue .inEp).count p.inReq, 0, 0, 0] := by
      rw [LoopPair.counts, h.heap.freedRequests.count_of_some hlive.outReq,
        h.heap.freedRequests.count_of_some hget, h.heap.freedBuffers.count_of_some hlive.buf]
    rw [hfreed, h.queue .outEp, h.queue .inEp]
    rcases List.mem_append.1 hmem with hout | hin
    · have hone : ((pairs .outEp).map (·.outReq)).count p.outReq = 1 := count_req houts hout .outEp
      have hzero : ((pairs .inEp).map (·.inReq)).count p.inReq = 0 :=
        count_req_eq_zero .inEp fun q hq => (happart p hout q hq).2.1.symm
      simp [LoopPair.req, hone, hzero]
    · have hone : ((pairs .inEp).map (·.inReq)).count p.inReq = 1 := count_req hins hin .inEp
      have hzero : ((pairs .outEp).map (·.outReq)).count p.outReq = 0 :=
        count_req_eq_zero .outEp fun q hq => (happart q hq p hin).1
      simp [LoopPair.req, hone, hzero]
  · rw [h.counts_dead hdead]
    simp

/-- Nothing is left when both endpoints are down. -/
theorem LoopInv.drained (h : LoopInv cfg s log pairs) (hidle : s.control = .idle false) :
    (∀ ep, s.queue ep = []) ∧ (∀ i, s.heap.requests.get? i = none) ∧
      (∀ b, s.heap.buffers.get? b = none) ∧
      ∀ p : LoopPair, .made p.outReq p.inReq p.buf ∈ log → p.counts s log = [0, 0, 1, 1, 1] := by
  have hqueue : ∀ ep, s.queue ep = [] := fun ep =>
    (h.control.down ep (by rw [hidle]; rfl)).2
  have hnil : pairs .outEp ++ pairs .inEp = [] := by
    have hpairs : ∀ ep, pairs ep = [] := fun ep =>
      List.map_eq_nil_iff.1 ((h.queue ep).symm.trans (hqueue ep))
    rw [hpairs, hpairs, List.append_nil]
  have hheap := h.heap
  rw [hnil] at hheap
  refine ⟨hqueue, ?_, ?_, ?_⟩
  · intro i
    cases hi : s.heap.requests.get? i with
    | none => rfl
    | some r =>
      obtain ⟨p, hp, -⟩ := hheap.requests i r hi
      cases hp
  · intro b
    cases hb : s.heap.buffers.get? b with
    | none => rfl
    | some u =>
      obtain ⟨p, hp, -⟩ := hheap.buffers b u hb
      cases hp
  · intro p hmade
    rcases hheap.made p hmade with hp | hdead
    · cases hp
    · exact h.counts_dead hdead

/-- A successful OUT completion that finds the IN endpoint ready gives one IN transfer of the bytes
received; the others free the pair. -/
theorem LoopInv.outCompleted (h : LoopInv cfg s log pairs) {i req : Nat} {r : UsbRequest}
    {actual : Nat} {queueResult : Int} {s' : LoopState} {out : List LoopRecord}
    (hreq : (s.queue .outEp)[i]? = some req) (hr : s.heap.requests.get? req = some r)
    (hstep : loopStep cfg s (.complete .outEp i 0 actual queueResult) = some (s', out)) :
    s'.queue .outEp = (s.queue .outEp).eraseIdx i ∧ ∃ inReq, r.context = some inReq ∧
      if s.enabled .inEp = true ∧ queueResult = 0 then
        s'.queue .inEp = s.queue .inEp ++ [inReq] ∧ s'.heap.requests.get? inReq =
          some ⟨.inEp, r.buf, some req, actual, decide (actual < r.length)⟩
      else s'.queue .inEp = s.queue .inEp ∧ freedRequests out = [req, inReq] ∧
        (freedBuffers out).map some = [r.buf] := by
  have hget := hreq
  rw [h.queue .outEp, List.getElem?_map, Option.map_eq_some_iff] at hreq
  obtain ⟨p, hp, rfl⟩ := hreq
  have hheap := h.heap.perm (perm_eraseIdx hp)
  have hset := hheap.setIn actual (decide (actual < cfg.outLength))
  have hlive := hset.live p List.mem_cons_self
  cases (hheap.live p List.mem_cons_self).outReq.symm.trans hr
  have hcomplete := loopbackComplete_eq (s := { s with
    queue := Function.update s.queue .outEp ((s.queue .outEp).eraseIdx i) }) hheap .outEp 0 actual
    queueResult
  have hhandle : loopHandle cfg s (.complete .outEp i 0 actual queueResult) = some (s', out) := by
    unfold loopStep at hstep
    split at hstep
    · exact hstep
    · cases hstep
  have hrequeue := requeue_eq (s := { s with
    heap := s.heap.setIn p actual (decide (actual < cfg.outLength))
    queue := Function.update s.queue .outEp ((s.queue .outEp).eraseIdx i) }) hlive .inEp queueResult
  simp only [loopHandle, hget, Option.bind_some] at hhandle
  rw [hcomplete, if_pos rfl] at hhandle
  have hdone := hrequeue.symm.trans hhandle
  dsimp only at hdone
  by_cases hqueued : s.enabled .inEp = true ∧ queueResult = 0
  · rw [if_pos hqueued, Option.some.injEq, Prod.mk.injEq] at hdone
    obtain ⟨rfl, -⟩ := hdone
    refine ⟨by simp, p.inReq, rfl, ?_⟩
    rw [if_pos hqueued]
    refine ⟨by simp [LoopPair.req], ?_⟩
    rw [get?_setIn (hheap.live p List.mem_cons_self), if_pos rfl]
    rfl
  · rw [if_neg hqueued, Option.some.injEq, Prod.mk.injEq] at hdone
    obtain ⟨rfl, rfl⟩ := hdone
    refine ⟨by simp [LoopState.freePair], p.inReq, rfl, ?_⟩
    rw [if_neg hqueued]
    exact ⟨by simp [LoopState.freePair], rfl, rfl⟩

end

/-- **The request pairs** of the loopback function. -/
theorem loopbackPairs {t : List LoopEvent} (h : loopRun cfg t = some (s, log)) :
    (∀ e, s.accepts e = true → (loopHandle cfg s e).isSome = true) ∧
    (∀ outReq inReq buf, .made outReq inReq buf ∈ log →
      (LoopPair.mk outReq inReq buf).counts s log ∈
        [[1, 0, 0, 0, 0], [0, 1, 0, 0, 0], [0, 0, 1, 1, 1]]) ∧
    (∀ i req r actual queueResult s' out, (s.queue .outEp)[i]? = some req →
      s.heap.requests.get? req = some r →
      loopStep cfg s (.complete .outEp i 0 actual queueResult) = some (s', out) →
      s'.queue .outEp = (s.queue .outEp).eraseIdx i ∧ ∃ inReq, r.context = some inReq ∧
        if s.enabled .inEp = true ∧ queueResult = 0 then
          s'.queue .inEp = s.queue .inEp ++ [inReq] ∧ s'.heap.requests.get? inReq =
            some ⟨.inEp, r.buf, some req, actual, decide (actual < r.length)⟩
        else s'.queue .inEp = s.queue .inEp ∧ freedRequests out = [req, inReq] ∧
          (freedBuffers out).map some = [r.buf]) ∧
    (s.control = .idle false →
      (∀ ep, s.queue ep = []) ∧ (∀ i, s.heap.requests.get? i = none) ∧
      (∀ b, s.heap.buffers.get? b = none) ∧
      ∀ outReq inReq buf, .made outReq inReq buf ∈ log →
        (LoopPair.mk outReq inReq buf).counts s log = [0, 0, 1, 1, 1]) := by
  obtain ⟨pairs, hinv⟩ := loopRun_inv h
  refine ⟨?_, ?_, ?_, ?_⟩
  · intro e hacc
    obtain ⟨s', out, pairs', hhandle, -⟩ := hinv.step hacc
    rw [hhandle]
    rfl
  · exact fun outReq inReq buf hmade => hinv.counts_made (p := ⟨outReq, inReq, buf⟩) hmade
  · exact fun i req r actual queueResult s' out hreq hr hstep => hinv.outCompleted hreq hr hstep
  · intro hidle
    obtain ⟨hqueue, hreqs, hbufs, hmade⟩ := hinv.drained hidle
    exact ⟨hqueue, hreqs, hbufs, fun outReq inReq buf => hmade ⟨outReq, inReq, buf⟩⟩

def twoPairs : List LoopEvent :=
  let ok := LoopEvent.advance ⟨0, 0, true, true, 0⟩
  .setAlt :: List.replicate 9 ok ++ [.complete .outEp 0 0 100 0, .disable, ok,
    .complete .inEp 0 (-108) 0 0, ok, ok, .complete .outEp 0 (-108) 0 0, ok]

/-- Two pairs, one on each endpoint when the function is disabled. -/
theorem twoPairs_freed : ∃ s log, loopRun ⟨2, 512, id⟩ twoPairs = some (s, log) ∧
    (∀ ep, s.queue ep = []) ∧ (LoopPair.mk 1 0 0).counts s log = [0, 0, 1, 1, 1] ∧
    (LoopPair.mk 3 2 1).counts s log = [0, 0, 1, 1, 1] := by
  obtain ⟨⟨s, log⟩, hrun, hidle, hfirst, hsecond⟩ : ∃ q, loopRun ⟨2, 512, id⟩ twoPairs = some q ∧
      q.1.control = .idle false ∧ .made 1 0 0 ∈ q.2 ∧ .made 3 2 1 ∈ q.2 :=
    ⟨_, rfl, by decide⟩
  obtain ⟨-, -, -, hdown⟩ := loopbackPairs hrun
  obtain ⟨hqueue, -, -, hmade⟩ := hdown hidle
  exact ⟨s, log, hrun, hqueue, hmade 1 0 0 hfirst, hmade 3 2 1 hsecond⟩

end

end UdeSample
