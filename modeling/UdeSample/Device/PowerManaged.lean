import UdeSample.Device.Misc
import UdeSample.Lib.Channel
import UdeSample.Lib.Run

/-!
# A channel whose controller loses power

`WRQueueInit` leaves `ReadBufferQueue` power managed, as `WDF_IO_QUEUE_CONFIG_INIT` has it: while
the controller is out of D0, `WdfIoQueueRetrieveNextRequest` fails although reads are parked, and
`WRQueuePushWrite` takes that failure for an empty queue. The back-channel queue is not power
managed and goes on dispatching. `PushesPowered` is the exact condition under which a write is
stored only when no read waits; then the writes are delivered in the order they were accepted.
-/

namespace UdeSample

open Lib

variable {β : Type}

inductive WRQueueEvent (β : Type) where
  | pushWrite (alloc : Bool) (wbuffer : List β)
  | pullRead (forward : ForwardOutcome) (rqRead : WdfRequest β) (rbuffer : Option (List β))
  | cancel (i : Nat)
  /-- the controller enters or leaves D0 -/
  | power (d0 : Bool)

/-- What happens to the writes of a channel. -/
inductive MatchRecord (β : Type) where
  /-- `WRQueuePushWrite` succeeds -/
  | accepted (wbuffer : List β)
  /-- a read is answered with a write -/
  | delivered (rqRead : WdfRequest β) (wbuffer : List β)

def wrQueueStep (pQ : WRQueue β) :
    WRQueueEvent β → Option (WRQueue β × List (MatchRecord β))
  | .pushWrite alloc wbuffer =>
    match wrQueuePushWrite alloc wbuffer pQ with
    | (_, some rqRead, pQ) => some (pQ, [.accepted wbuffer, .delivered rqRead wbuffer])
    | (status, none, pQ) => some (pQ, if ntSuccess status then [.accepted wbuffer] else [])
  | .pullRead forward rqRead rbuffer =>
    let (answer, pQ') := wrQueuePullRead forward rqRead rbuffer pQ
    some (pQ', if answer.readyToComplete then
      (pQ.writeBufferQueue.take 1).map fun w => .delivered rqRead w.bufferStart else [])
  | .cancel i =>
    (pQ.readBufferQueue.cancel i).map fun (_, readBufferQueue) => ({ pQ with readBufferQueue }, [])
  | .power d0 => some ({ pQ with readBufferQueue.dispatching := d0 }, [])

def acceptedWrites (h : List (MatchRecord β)) : List (List β) :=
  h.filterMap fun
    | .accepted w => some w
    | .delivered _ _ => none

def deliveries (h : List (MatchRecord β)) : List (WdfRequest β × List β) :=
  h.filterMap fun
    | .accepted _ => none
    | .delivered r w => some (r, w)

@[simp] theorem acceptedWrites_nil : acceptedWrites ([] : List (MatchRecord β)) = [] := rfl

@[simp] theorem deliveries_nil : deliveries ([] : List (MatchRecord β)) = [] := rfl

@[simp] theorem acceptedWrites_append (h h' : List (MatchRecord β)) :
    acceptedWrites (h ++ h') = acceptedWrites h ++ acceptedWrites h' := List.filterMap_append

@[simp] theorem deliveries_append (h h' : List (MatchRecord β)) :
    deliveries (h ++ h') = deliveries h ++ deliveries h' := List.filterMap_append

/-- A push appends its write only when no read is parked. -/
def StoresOnlyIdle (pQ : WRQueue β) : WRQueueEvent β → Prop
  | .pushWrite alloc wbuffer =>
    (wrQueuePushWrite alloc wbuffer pQ).2.2.writeBufferQueue ≠ pQ.writeBufferQueue →
      pQ.readBufferQueue.requests = []
  | .pullRead _ _ _ | .cancel _ | .power _ => True

/-- No push that gets its memory comes while the controller is out of D0 and a read is parked. -/
def PushesPowered (pQ : WRQueue β) : WRQueueEvent β → Prop
  | .pushWrite alloc _ =>
    alloc = true → pQ.readBufferQueue.dispatching = true ∨ pQ.readBufferQueue.requests = []
  | .pullRead _ _ _ | .cancel _ | .power _ => True

instance (pQ : WRQueue β) : ∀ e, Decidable (PushesPowered pQ e)
  | .pushWrite alloc _ =>
    match h : pQ.readBufferQueue.requests with
    | [] => isTrue fun _ => Or.inr h
    | _ :: _ => decidable_of_iff (alloc = true → pQ.readBufferQueue.dispatching = true)
        ⟨fun hd ha => Or.inl (hd ha), fun hd ha => (hd ha).resolve_right (by simp [h])⟩
  | .pullRead _ _ _ | .cancel _ | .power _ => isTrue trivial

theorem wrQueueTakeRead_none {pQ : WRQueue β} :
    wrQueueTakeRead pQ = none ↔
      pQ.readBufferQueue.dispatching = false ∨ pQ.readBufferQueue.requests = [] := by
  unfold wrQueueTakeRead wdfIoQueueRetrieveNextRequest
  cases pQ.readBufferQueue.requests <;> cases pQ.readBufferQueue.dispatching <;> simp

/-- **One event** stores a write only when no read is parked if and only if it is no push that finds
the controller without power. -/
theorem pushesPowered_iff (pQ : WRQueue β) (e : WRQueueEvent β) :
    PushesPowered pQ e ↔ StoresOnlyIdle pQ e := by
  cases e with
  | pullRead | cancel | power => exact Iff.rfl
  | pushWrite alloc wbuffer =>
    cases htake : wrQueueTakeRead pQ with
    | some x =>
      obtain ⟨r, pQ'⟩ := x
      obtain ⟨hd, rs, -, rfl⟩ := wrQueueTakeRead_eq_some.1 htake
      constructor
      · intro _ hstored
        simp [wrQueuePushWrite, htake] at hstored
      · exact fun _ _ => Or.inl hd
    | none =>
      have hstored : (wrQueuePushWrite alloc wbuffer pQ).2.2.writeBufferQueue ≠
          pQ.writeBufferQueue ↔ alloc = true := by
        cases alloc <;> simp [wrQueuePushWrite, htake, wrQueueStoreWrite]
      rw [StoresOnlyIdle, hstored, PushesPowered]
      rcases wrQueueTakeRead_none.1 htake with hd | hnil
      · simp [hd]
      · simp [hnil]

/-! ## Order -/

/-- The stored writes and the parked reads. -/
def WRQueue.rendezvous (pQ : WRQueue β) : Channel (List β) (WdfRequest β) where
  store := pQ.writeBufferQueue.map fun w => w.bufferStart
  waiting := pQ.readBufferQueue.requests

section

variable {pQ pQ' : WRQueue β} {h out : List (MatchRecord β)}
  (hacc : pQ.rendezvous.Account (acceptedWrites h) (deliveries h))

include hacc

theorem wrQueuePushWrite_account {alloc : Bool} {wbuffer : List β}
    (hpow : PushesPowered pQ (.pushWrite alloc wbuffer))
    (hstep : wrQueueStep pQ (.pushWrite alloc wbuffer) = some (pQ', out)) :
    pQ'.rendezvous.Account (acceptedWrites h ++ acceptedWrites out)
      (deliveries h ++ deliveries out) := by
  cases htake : wrQueueTakeRead pQ with
  | some x =>
    obtain ⟨r, pQ₁⟩ := x
    obtain ⟨-, rs, hrs, rfl⟩ := wrQueueTakeRead_eq_some.1 htake
    simp only [wrQueueStep, wrQueuePushWrite, htake, Option.some.injEq, Prod.mk.injEq] at hstep
    obtain ⟨rfl, rfl⟩ := hstep
    exact hacc.put_waiting hrs wbuffer
  | none =>
    cases alloc with
    | false =>
      simp only [wrQueueStep, wrQueuePushWrite, htake, wrQueueStoreWrite, Option.some.injEq,
        Prod.mk.injEq, Bool.false_eq_true, if_false] at hstep
      obtain ⟨rfl, rfl⟩ := hstep
      simpa [statusInsufficientResources, ntSuccess] using hacc
    | true =>
      have hidle : pQ.readBufferQueue.requests = [] := by
        rcases wrQueueTakeRead_none.1 htake with hd | hnil
        · exact (hpow rfl).resolve_left (by simp [hd])
        · exact hnil
      simp only [wrQueueStep, wrQueuePushWrite, htake, wrQueueStoreWrite, Option.some.injEq,
        Prod.mk.injEq, if_true] at hstep
      obtain ⟨rfl, rfl⟩ := hstep
      have hput := hacc.put_store hidle wbuffer
      simpa [acceptedWrites, deliveries, statusSuccess, ntSuccess, WRQueue.rendezvous,
        BufferContent.ofBuffer] using hput

theorem wrQueuePullRead_account {forward : ForwardOutcome} {rqRead : WdfRequest β}
    {rbuffer : Option (List β)}
    (hstep : wrQueueStep pQ (.pullRead forward rqRead rbuffer) = some (pQ', out)) :
    pQ'.rendezvous.Account (acceptedWrites h ++ acceptedWrites out)
      (deliveries h ++ deliveries out) := by
  cases rbuffer with
  | none =>
    simp only [wrQueueStep, wrQueuePullRead, Option.some.injEq, Prod.mk.injEq,
      Bool.false_eq_true, if_false] at hstep
    obtain ⟨rfl, rfl⟩ := hstep
    simpa using hacc
  | some rbuffer =>
    cases htake : wrQueueTakeWrite pQ with
    | some x =>
      obtain ⟨w, pQ₁⟩ := x
      obtain ⟨ws, hws, rfl⟩ := wrQueueTakeWrite_eq_some.1 htake
      simp only [wrQueueStep, wrQueuePullRead, htake, Option.some.injEq, Prod.mk.injEq,
        if_true] at hstep
      obtain ⟨rfl, rfl⟩ := hstep
      have hstore : pQ.rendezvous.store = w.bufferStart :: ws.map fun w => w.bufferStart := by
        simp [WRQueue.rendezvous, hws]
      have hget := hacc.get_store hstore rqRead
      simpa [acceptedWrites, deliveries, hws, WRQueue.rendezvous] using hget
    | none =>
      have hnil : pQ.rendezvous.store = [] := by
        simp [WRQueue.rendezvous, wrQueueTakeWrite_eq_none.1 htake]
      simp only [wrQueueStep, wrQueuePullRead, htake, wrQueueParkRead, Option.some.injEq,
        Prod.mk.injEq, Bool.false_eq_true, if_false] at hstep
      obtain ⟨heq, rfl⟩ := hstep
      rw [acceptedWrites_nil, deliveries_nil, List.append_nil, List.append_nil]
      cases hfwd : wdfRequestForwardToIoQueue rqRead pQ.readBufferQueue forward with
      | error e =>
        rw [hfwd] at heq
        exact heq ▸ hacc
      | ok q =>
        obtain ⟨-, -, rfl⟩ := wdfRequestForwardToIoQueue_eq_ok.1 hfwd
        rw [hfwd] at heq
        exact heq ▸ hacc.get_waiting hnil rqRead

theorem wrQueueStep_account {e : WRQueueEvent β} (hpow : PushesPowered pQ e)
    (hstep : wrQueueStep pQ e = some (pQ', out)) :
    pQ'.rendezvous.Account (acceptedWrites (h ++ out)) (deliveries (h ++ out)) := by
  rw [acceptedWrites_append, deliveries_append]
  cases e with
  | pushWrite alloc wbuffer => exact wrQueuePushWrite_account hacc hpow hstep
  | pullRead forward rqRead rbuffer => exact wrQueuePullRead_account hacc hstep
  | cancel i =>
    obtain ⟨⟨r, q⟩, hcancel, heq⟩ := Option.map_eq_some_iff.1 hstep
    obtain ⟨rfl, rfl⟩ := Prod.mk.inj heq
    obtain ⟨l, m, hlm, -, rfl⟩ := WdfQueue.cancel_eq_some.1 hcancel
    have hsub : (l ++ m).Sublist pQ.rendezvous.waiting := by
      rw [WRQueue.rendezvous, hlm]
      exact (List.Sublist.refl l).append (List.sublist_cons_self r m)
    simpa [acceptedWrites, deliveries, WRQueue.rendezvous] using hacc.withdraw hsub
  | power d0 =>
    obtain ⟨rfl, rfl⟩ := Prod.mk.inj (Option.some.inj hstep)
    simpa [acceptedWrites, deliveries, WRQueue.rendezvous] using hacc

end

theorem wrQueueRun_account {b : Bool} {t : List (WRQueueEvent β)} {pQ : WRQueue β}
    {h : List (MatchRecord β)}
    (hrun : run (logged wrQueueStep) (wrQueueInit b, []) t = some (pQ, h))
    (hpow : Along (fun p e => PushesPowered p.1 e) (logged wrQueueStep) (wrQueueInit b, []) t) :
    pQ.rendezvous.Account (acceptedWrites h) (deliveries h) := by
  refine run_invariant_along (C := fun p e => PushesPowered p.1 e)
    (P := fun _ p => p.1.rendezvous.Account (acceptedWrites p.2) (deliveries p.2))
    .empty ?_ hrun hpow
  intro t p e p' _ hp hC hstep
  obtain ⟨out, hout, hlog⟩ := logged_eq_some.1 hstep
  rw [hlog]
  exact wrQueueStep_account hp hC hout

/-- **Writes are stored only when no read waits if and only if no push finds the controller without
power and a read parked**; then no write is delivered before one accepted earlier. -/
theorem pushesPowered_run {b : Bool} {t : List (WRQueueEvent β)} {pQ : WRQueue β}
    {h : List (MatchRecord β)}
    (hrun : run (logged wrQueueStep) (wrQueueInit b, []) t = some (pQ, h)) :
    Along (fun p e => PushesPowered p.1 e) (logged wrQueueStep) (wrQueueInit b, []) t ↔
      Along (fun p e => StoresOnlyIdle p.1 e) (logged wrQueueStep) (wrQueueInit b, []) t ∧
        (deliveries h).map Prod.snd <+: acceptedWrites h := by
  have hiff : Along (fun p e => PushesPowered p.1 e) (logged wrQueueStep) (wrQueueInit b, []) t ↔
      Along (fun p e => StoresOnlyIdle p.1 e) (logged wrQueueStep) (wrQueueInit b, []) t :=
    along_congr (I := fun _ => True) (fun p e _ => pushesPowered_iff p.1 e)
      (fun _ _ _ _ _ _ => trivial) trivial t
  constructor
  · intro hpow
    refine ⟨hiff.1 hpow, ?_⟩
    rw [(wrQueueRun_account hrun hpow).conserve]
    exact List.prefix_append _ _
  · exact fun hidle => hiff.2 hidle.1

def forwarded : ForwardOutcome := ⟨false, ⟨statusCancelled, statusCancelled_failed⟩⟩

/-- A write stored while no read waits, although the controller has no power. -/
def poweredPushes : List (WRQueueEvent UInt8) :=
  [.power false, .pushWrite true [1], .power true, .pullRead forwarded ⟨0, .read, [0]⟩ (some [0]),
    .pullRead forwarded ⟨1, .read, [0]⟩ (some [0]), .pushWrite true [2]]

theorem poweredPushes_inOrder : ∃ pQ h,
    run (logged wrQueueStep) (wrQueueInit false, []) poweredPushes = some (pQ, h) ∧
    (deliveries h).map Prod.snd <+: acceptedWrites h := by
  refine ⟨_, _, rfl, ?_⟩
  exact ((pushesPowered_run (t := poweredPushes) rfl).1 (by decide +kernel)).2

/-- A read is parked, the controller leaves D0, a write is stored, the controller returns to D0, and
the read is answered with the next write. -/
def strandedRead : List (WRQueueEvent UInt8) :=
  [.pullRead forwarded ⟨0, .read, [0]⟩ (some [0]), .power false, .pushWrite true [1], .power true,
    .pushWrite true [2], .pullRead forwarded ⟨1, .read, [0]⟩ (some [0])]

theorem strandedRead_overtaken :
    (∃ pQ h, run (logged wrQueueStep) (wrQueueInit false, []) (strandedRead.take 3) =
        some (pQ, h) ∧ pQ.writeBufferQueue.map (fun w => w.bufferStart) = [[1]] ∧
      pQ.readBufferQueue.requests = [⟨0, .read, [0]⟩]) ∧
    ∃ pQ h, run (logged wrQueueStep) (wrQueueInit false, []) strandedRead = some (pQ, h) ∧
      acceptedWrites h = [[1], [2]] ∧ (deliveries h).map Prod.snd = [[2], [1]] :=
  ⟨⟨_, _, rfl, rfl, rfl⟩, _, _, rfl, rfl, rfl⟩

end UdeSample
