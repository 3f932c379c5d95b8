import UdeSample.Device.Misc
import UdeSample.Lib.CheckThenAct

/-!
# Concurrent pushes and pulls on one `WRQueue`

`WRQueuePushWrite` and `WRQueuePullRead` run on different, concurrently dispatched queues. Each
call on the read queue and each section holding `qsync` is one atomic step; any number of calls is
in flight, and their steps interleave in any order.

Both operations check the other side first and insert into their own side in a later section, so
they can pass each other: a write is stored while a read is parked. `noOverlap_iff` says exactly
when this happens: a run avoids it if and only if no call finds the other side empty while a call
of the other kind is between its check and its insertion.
-/

namespace UdeSample

open Lib

variable {β : Type}

/-- A call between its check and its insertion. -/
inductive WRCall (β : Type) where
  | pushing (wbuffer : List β)
  | pulling (rqRead : WdfRequest β)
deriving DecidableEq

def WRCall.isPush : WRCall β → Bool
  | .pushing _ => true
  | .pulling _ => false

inductive WRStart (β : Type) where
  | push (wbuffer : List β)
  | pull (rqRead : WdfRequest β) (rbuffer : List β)

/-- The outcomes of the second section: pool allocation of a push, forwarding of a pull. -/
structure WRChoice where
  alloc : Bool
  forward : ForwardOutcome

def wrBegin (pQ : WRQueue β) : WRStart β → WRQueue β × Option (WRCall β)
  | .push wbuffer =>
    match wrQueueTakeRead pQ with
    | some (_, pQ) => (pQ, none)
    | none => (pQ, some (.pushing wbuffer))
  | .pull rqRead _ =>
    match wrQueueTakeWrite pQ with
    | some (_, pQ) => (pQ, none)
    | none => (pQ, some (.pulling rqRead))

def wrNext (pQ : WRQueue β) (call : WRCall β) (o : WRChoice) : WRQueue β × Option (WRCall β) :=
  match call with
  | .pushing wbuffer => ((wrQueueStoreWrite o.alloc wbuffer pQ).2, none)
  | .pulling rqRead => ((wrQueueParkRead o.forward rqRead pQ).2, none)

def wrStep : Pool (WRQueue β) (WRCall β) → Pool.Event (WRStart β) WRChoice →
    Option (Pool (WRQueue β) (WRCall β)) :=
  Pool.step wrBegin wrNext

def wrPoolInit (bUSBReqQueue : Bool) : Pool (WRQueue β) (WRCall β) :=
  ⟨wrQueueInit bUSBReqQueue, []⟩

/-- A whole call with no other step between its two sections. -/
def wrAlone (pQ : WRQueue β) (a : WRStart β) (o : WRChoice) : WRQueue β :=
  match wrBegin pQ a with
  | (pQ, none) => pQ
  | (pQ, some call) => (wrNext pQ call o).1

theorem wrAlone_push (pQ : WRQueue β) (w : List β) (o : WRChoice) :
    wrAlone pQ (.push w) o = (wrQueuePushWrite o.alloc w pQ).2.2 := by
  unfold wrAlone wrBegin wrQueuePushWrite
  cases wrQueueTakeRead pQ <;> rfl

theorem wrAlone_pull (pQ : WRQueue β) (r : WdfRequest β) (rbuffer : List β) (o : WRChoice) :
    wrAlone pQ (.pull r rbuffer) o = (wrQueuePullRead o.forward r (some rbuffer) pQ).2 := by
  simp only [wrAlone, wrBegin, wrQueuePullRead]
  cases wrQueueTakeWrite pQ <;> rfl

/-! ## The queue as a rendezvous -/

/-- Stored writes are the items, parked reads that can be retrieved the waiters. -/
def wrView : View (WRQueue β) (WRCall β) where
  item pQ := !pQ.writeBufferQueue.isEmpty
  waiter pQ := !pQ.readBufferQueue.requests.isEmpty && pQ.readBufferQueue.dispatching
  window
    | .pushing _ => .putting
    | .pulling _ => .parking

theorem wrView_item_false {pQ : WRQueue β} :
    wrView.item pQ = false ↔ pQ.writeBufferQueue = [] := by
  simp [wrView]

theorem wrView_waiter_false {pQ : WRQueue β} :
    wrView.waiter pQ = false ↔ wrQueueTakeRead pQ = none := by
  obtain ⟨ws, rs, acc, dis⟩ := pQ
  cases rs <;> cases dis <;> simp [wrView, wrQueueTakeRead, wdfIoQueueRetrieveNextRequest]

theorem wrView_takeRead {q : WRQueue β} {x : WdfRequest β × WRQueue β}
    (h : wrQueueTakeRead q = some x) :
    wrView.item x.2 = wrView.item q ∧ wrView.waiter q = true := by
  obtain ⟨r, q'⟩ := x
  refine ⟨?_, ?_⟩
  · obtain ⟨-, rs, -, rfl⟩ := wrQueueTakeRead_eq_some.1 h
    rfl
  · rw [← Bool.not_eq_false, wrView_waiter_false, h]
    exact fun hn => nomatch hn

theorem wrView_takeWrite {q : WRQueue β} {x : BufferContent β × WRQueue β}
    (h : wrQueueTakeWrite q = some x) :
    wrView.item q = true ∧ wrView.waiter x.2 = wrView.waiter q := by
  obtain ⟨w, q'⟩ := x
  obtain ⟨ws, hws, rfl⟩ := wrQueueTakeWrite_eq_some.1 h
  exact ⟨by simp [wrView, hws], rfl⟩

theorem wrView_implements : (wrView (β := β)).Implements wrBegin wrNext where
  start q a := by
    cases a with
    | push wbuffer =>
      simp only [wrBegin]
      cases h : wrQueueTakeRead q with
      | none =>
        have hw : wrView.waiter q = false := wrView_waiter_false.2 h
        simp only [hw]
        exact .seeNoWaiter
      | some x =>
        obtain ⟨hi, hw⟩ := wrView_takeRead h
        exact .shrink (fun h => hi ▸ h) (fun _ => hw)
    | pull rqRead rbuffer =>
      simp only [wrBegin]
      cases h : wrQueueTakeWrite q with
      | none =>
        have hi : wrView.item q = false := wrView_item_false.2 (wrQueueTakeWrite_eq_none.1 h)
        simp only [hi]
        exact .seeNoItem
      | some x =>
        obtain ⟨hi, hw⟩ := wrView_takeWrite h
        exact .shrink (fun _ => hi) (fun h => hw ▸ h)
  resume q c b := by
    cases c with
    | pushing wbuffer =>
      simp only [wrNext, wrQueueStoreWrite]
      cases b.alloc with
      | false => exact .shrink id id
      | true =>
        have hi : wrView.item { q with writeBufferQueue :=
            q.writeBufferQueue ++ [BufferContent.ofBuffer wbuffer] } = true := by
          simp [wrView]
        simp only [if_true, hi]
        exact .put
    | pulling rqRead =>
      simp only [wrNext, wrQueueParkRead]
      cases h : wdfRequestForwardToIoQueue rqRead q.readBufferQueue b.forward with
      | error e => exact .shrink id id
      | ok rq =>
        obtain ⟨-, -, rfl⟩ := wdfRequestForwardToIoQueue_eq_ok.1 h
        by_cases hd : q.readBufferQueue.dispatching = true
        · have hw : wrView.waiter { q with readBufferQueue := { q.readBufferQueue with
              requests := q.readBufferQueue.requests ++ [rqRead] } } = true := by
            simp [wrView, hd]
          simp only [hw]
          exact .park
        · exact .shrink id (fun hw => by simp [wrView, hd] at hw)
  closes q c b := by cases c <;> rfl

/-- The read queue can be retrieved from and accepts reads. -/
def WRQueue.Open (pQ : WRQueue β) : Prop :=
  pQ.readBufferQueue.dispatching = true ∧ pQ.readBufferQueue.accepting = true

theorem WRQueue.Open.begin {q : WRQueue β} (h : q.Open) (a : WRStart β) : (wrBegin q a).1.Open := by
  cases a with
  | push wbuffer =>
    simp only [wrBegin]
    cases ht : wrQueueTakeRead q with
    | none => exact h
    | some x =>
      obtain ⟨r, q'⟩ := x
      obtain ⟨-, rs, -, rfl⟩ := wrQueueTakeRead_eq_some.1 ht
      exact h
  | pull rqRead rbuffer =>
    simp only [wrBegin]
    cases ht : wrQueueTakeWrite q with
    | none => exact h
    | some x =>
      obtain ⟨w, q'⟩ := x
      obtain ⟨ws, -, rfl⟩ := wrQueueTakeWrite_eq_some.1 ht
      exact h

theorem WRQueue.Open.next {q : WRQueue β} (h : q.Open) (c : WRCall β) (o : WRChoice) :
    (wrNext q c o).1.Open := by
  cases c with
  | pushing wbuffer =>
    simp only [wrNext, wrQueueStoreWrite]
    split <;> exact h
  | pulling rqRead =>
    simp only [wrNext, wrQueueParkRead]
    cases hf : wdfRequestForwardToIoQueue rqRead q.readBufferQueue o.forward with
    | error e => exact h
    | ok rq =>
      obtain ⟨-, -, rfl⟩ := wdfRequestForwardToIoQueue_eq_ok.1 hf
      exact h

theorem wrView_completes : (wrView (β := β)).Completes wrBegin wrNext (fun _ => False)
    WRQueue.Open WRQueue.Open where
  quiet := fun _ _ h => h.elim
  keepBegin _ a h := h.begin a
  keepNext _ c b h := h.next c b
  finish q c := by
    cases c <;> exact ⟨_, .last ⟨true, false, ⟨statusCancelled, statusCancelled_failed⟩⟩ rfl⟩
  prepare p h := ⟨[], p.shared, by simp, rfl, h⟩
  park q c h hc := by
    cases c with
    | pushing wbuffer => cases hc
    | pulling rqRead =>
      refine ⟨_, .last ⟨true, false, ⟨statusCancelled, statusCancelled_failed⟩⟩ rfl, ?_⟩
      simp [wrView, wrQueueParkRead, wdfRequestForwardToIoQueue, h.1, h.2]
  put q c hc := by
    cases c with
    | pulling rqRead => cases hc
    | pushing wbuffer =>
      refine ⟨_, .last ⟨true, false, ⟨statusCancelled, statusCancelled_failed⟩⟩ rfl, ?_, fun h => h⟩
      simp [wrView, wrQueueStoreWrite]

/-! ## When a write and a read are stranded -/

/-- A write is stored while a read is parked. -/
def WRQueue.Stranded (pQ : WRQueue β) : Prop :=
  pQ.writeBufferQueue ≠ [] ∧ pQ.readBufferQueue.requests ≠ []

/-- No call finds the other side empty while a call of the other kind is between its check and its
insertion. -/
def NoOverlap (p : Pool (WRQueue β) (WRCall β)) : Pool.Event (WRStart β) WRChoice → Prop
  | .start (.push _) => wrQueueTakeRead p.shared = none → ∀ c ∈ p.calls, c.isPush = true
  | .start (.pull _ _) => p.shared.writeBufferQueue = [] → ∀ c ∈ p.calls, c.isPush = false
  | .resume _ _ => True

instance [DecidableEq β] (p : Pool (WRQueue β) (WRCall β)) : ∀ e, Decidable (NoOverlap p e)
  | .start (.push _) => inferInstanceAs (Decidable (_ = none → ∀ c ∈ p.calls, _ = true))
  | .start (.pull _ _) => inferInstanceAs (Decidable (_ = [] → ∀ c ∈ p.calls, _ = false))
  | .resume _ _ => isTrue trivial

theorem parking_notMem {calls : List (WRCall β)} :
    .parking ∉ calls.map wrView.window ↔ ∀ c ∈ calls, c.isPush = true :=
  View.notMem_windows fun c => by cases c <;> simp [wrView, WRCall.isPush]

theorem putting_notMem {calls : List (WRCall β)} :
    .putting ∉ calls.map wrView.window ↔ ∀ c ∈ calls, c.isPush = false :=
  View.notMem_windows fun c => by cases c <;> simp [wrView, WRCall.isPush]

/-- The condition is the exclusiveness of the rendezvous. -/
theorem exclusive_iff_noOverlap {p : Pool (WRQueue β) (WRCall β)}
    {e : Pool.Event (WRStart β) WRChoice} :
    wrView.Exclusive wrBegin p e ↔ NoOverlap p e := by
  cases e with
  | resume i b => exact Iff.rfl
  | start a =>
    cases a with
    | push wbuffer =>
      simp only [View.Exclusive, NoOverlap, wrBegin, ← parking_notMem]
      cases wrQueueTakeRead p.shared <;> simp [View.windowOf, wrView]
    | pull rqRead rbuffer =>
      simp only [View.Exclusive, NoOverlap, wrBegin, ← putting_notMem, ← wrQueueTakeWrite_eq_none]
      cases wrQueueTakeWrite p.shared <;> simp [View.windowOf, wrView]

/-- **Stranded rendezvous**: in a run of pushes and pulls of any number and interleaving, no state
lets the calls in flight return with a write stored and a read parked, if and only if no call of
the run finds the other side empty while a call of the other kind is between its check and its
insertion. -/
theorem noOverlap_iff {bUSBReqQueue : Bool}
    {t : List (Pool.Event (WRStart β) WRChoice)}
    {p : Pool (WRQueue β) (WRCall β)} (hrun : run wrStep (wrPoolInit bUSBReqQueue) t = some p) :
    Along NoOverlap wrStep (wrPoolInit bUSBReqQueue) t ↔
      ∀ t₁ t₂ q, t₁ <+: t → (∀ e ∈ t₂, e.Quiet fun _ => False) →
        run wrStep (wrPoolInit bUSBReqQueue) (t₁ ++ t₂) = some ⟨q, []⟩ → ¬ q.Stranded := by
  apply View.exclusive_iff_congr wrView_implements wrView_completes (View.sound_init rfl)
    ⟨rfl, rfl⟩ hrun (fun _ _ => exclusive_iff_noOverlap)
  intro q hopen
  simp [View.Stranded, WRQueue.Stranded, wrView, hopen.1]

def orderedCalls : List (Pool.Event (WRStart UInt8) WRChoice) :=
  let o : WRChoice := ⟨true, false, ⟨statusCancelled, statusCancelled_failed⟩⟩
  [.start (.push [1, 2]), .start (.push [3]), .resume 1 o, .resume 0 o,
    .start (.pull ⟨0, .read, [0, 0]⟩ [0, 0])]

/-- Pushes may overlap each other: here one write is left, and no read. -/
theorem ordered_not_stranded :
    ∃ q, run wrStep (wrPoolInit false) orderedCalls = some ⟨q, []⟩ ∧ q.writeBufferQueue ≠ [] ∧
      ¬ q.Stranded :=
  ⟨_, rfl, by decide, (noOverlap_iff (t := orderedCalls) rfl).1 (by decide) orderedCalls [] _
    (List.prefix_refl _) (by simp) rfl⟩

def passingCalls : List (Pool.Event (WRStart UInt8) WRChoice) :=
  let o : WRChoice := ⟨true, false, ⟨statusCancelled, statusCancelled_failed⟩⟩
  [.start (.push [1, 2]), .start (.pull ⟨0, .read, [0, 0]⟩ [0, 0]), .resume 0 o, .resume 0 o]

/-- A push and a pull can leave the write stored and the read parked, with no call in flight. -/
theorem passing_strands :
    ∃ q, run wrStep (wrPoolInit false) passingCalls = some ⟨q, []⟩ ∧ q.Stranded :=
  ⟨_, rfl, by decide, by decide⟩

end UdeSample
