import UdeSample.Device.BackChannel

/-!
# What the handlers do

The two write handlers and the two read handlers differ in their control-code checks, in how they
retrieve buffers and in the calls they complete requests through. `WriteStep` and `ReadStep` list
everything a write and a read can do to their queue, `UrbStep` and `RaiseStep` everything an
interrupt URB and a raise can do to the interrupt state. Each handler is shown to do one of these,
with the exact condition (`*Ok`) under which no framework call of it fails; later results use only
that.
-/

namespace UdeSample

variable {β F : Type}

def answeredRead (api : CompletionApi) (request : WdfRequest β) (wbuffer : List β) :
    Completion β F :=
  { request, api, status := statusSuccess, information := min wbuffer.length request.buffer.length
    data := .bytes (wbuffer.take (min wbuffer.length request.buffer.length)) }

/-- No framework call of a push and of answering its matching read fails. -/
def PushOk (retrieveRead : WdfRequest β → NtResult (List β)) (alloc : Bool) (q : WRQueue β) :
    Prop :=
  (match wrQueueTakeRead q with
  | some (matchingRead, _) => (retrieveRead matchingRead).isOk
  | none => alloc) = true

instance (retrieveRead : WdfRequest β → NtResult (List β)) (alloc : Bool) (q : WRQueue β) :
    Decidable (PushOk retrieveRead alloc q) := inferInstanceAs (Decidable (_ = true))

def PullOk (forward : ForwardOutcome) (q : WRQueue β) : Prop :=
  q.writeBufferQueue.isEmpty = true → q.readBufferQueue.accepting = true ∧ forward.refuses = false

instance (forward : ForwardOutcome) (q : WRQueue β) : Decidable (PullOk forward q) :=
  inferInstanceAs (Decidable (_ → _ ∧ _))

/-- Everything a write can do to its queue `q`; `ok` says that no framework call failed. -/
inductive WriteStep (api readApi : CompletionApi) (request : WdfRequest β) (ok : Prop)
    (q : WRQueue β) : WRQueue β → List (Effect β F) → Prop where
  /-- failed before or at the allocation -/
  | refused {status : NTSTATUS} {n : Nat} (hok : ¬ ok) (hfail : ntSuccess status = false) :
    WriteStep api readApi request ok q q [.complete (completeRequest api request status n)]
  /-- matched with a read whose buffer cannot be retrieved: both fail -/
  | lost {matchingRead : WdfRequest β} {rs : List (WdfRequest β)} {status : NTSTATUS}
    (hok : ¬ ok) (hread : q.readBufferQueue.requests = matchingRead :: rs)
    (hfail : ntSuccess status = false) :
    WriteStep api readApi request ok q
      { q with readBufferQueue := { q.readBufferQueue with requests := rs } }
      [.complete (completeRequest readApi matchingRead status 0),
        .complete (completeRequest api request status request.buffer.length)]
  | handed {matchingRead : WdfRequest β} {rs : List (WdfRequest β)} (hok : ok)
    (hread : q.readBufferQueue.requests = matchingRead :: rs) :
    WriteStep api readApi request ok q
      { q with readBufferQueue := { q.readBufferQueue with requests := rs } }
      [.complete (answeredRead readApi matchingRead request.buffer),
        .complete (completeRequest api request statusSuccess request.buffer.length)]
  | stored (hok : ok) (hread : wrQueueTakeRead q = none) :
    WriteStep api readApi request ok q
      { q with writeBufferQueue := q.writeBufferQueue ++ [BufferContent.ofBuffer request.buffer] }
      [.complete (completeRequest api request statusSuccess request.buffer.length)]

/-- Everything a read can do to its queue `q`; `ok` says that no framework call failed. -/
inductive ReadStep (api : CompletionApi) (request : WdfRequest β) (ok : Prop) (q : WRQueue β) :
    WRQueue β → List (Effect β F) → Prop where
  /-- left alone: not completed and not parked -/
  | dropped (hok : ¬ ok) : ReadStep api request ok q q []
  | parked (hok : ok) (hwrites : q.writeBufferQueue = []) : ReadStep api request ok q
      { q with readBufferQueue :=
        { q.readBufferQueue with requests := q.readBufferQueue.requests ++ [request] } } []
  | served {w : BufferContent β} {ws : List (BufferContent β)} (hok : ok)
    (hwrites : q.writeBufferQueue = w :: ws) :
    ReadStep api request ok q { q with writeBufferQueue := ws }
      [.complete (answeredRead api request w.bufferStart)]

theorem pushAndComplete_step {api readApi : CompletionApi} {ok : Prop}
    {retrieveRead : WdfRequest β → NtResult (List β)} {alloc : Bool} {request : WdfRequest β}
    {q : WRQueue β} (hbuf : ∀ r b, retrieveRead r = .ok b → b = r.buffer)
    (hok : ok ↔ PushOk retrieveRead alloc q) :
    WriteStep (F := F) api readApi request ok q
      (pushAndComplete (F := F) api readApi retrieveRead alloc request request.buffer q).1
      (pushAndComplete api readApi retrieveRead alloc request request.buffer q).2 := by
  unfold pushAndComplete wrQueuePushWrite
  cases hread : wrQueueTakeRead q with
  | none =>
    simp only [PushOk, hread] at hok
    cases alloc with
    | true => exact .stored (hok.2 rfl) hread
    | false => exact .refused (fun h => nomatch hok.1 h) rfl
  | some x =>
    obtain ⟨matchingRead, q'⟩ := x
    simp only [PushOk, hread] at hok
    obtain ⟨-, rs, hrs, rfl⟩ := wrQueueTakeRead_eq_some.1 hread
    cases hret : retrieveRead matchingRead with
    | error e =>
      simp only [completeMatchingRead, hret] at hok ⊢
      exact .lost (fun h => nomatch hok.1 h) hrs e.failed
    | ok rbuffer =>
      simp only [hret] at hok
      obtain rfl := hbuf _ _ hret
      simp only [completeMatchingRead, hret, minLen_eq_min]
      rw [Nat.min_comm]
      exact .handed (hok.2 rfl) hrs

theorem pullAndComplete_step {api : CompletionApi} {ok : Prop} {forward : ForwardOutcome}
    {request : WdfRequest β} {q : WRQueue β} (hok : ok ↔ PullOk forward q) :
    ReadStep (F := F) api request ok q
      (pullAndComplete (F := F) api forward request request.buffer q).1
      (pullAndComplete api forward request request.buffer q).2 := by
  unfold pullAndComplete wrQueuePullRead
  cases hwrite : wrQueueTakeWrite q with
  | none =>
    have hws := wrQueueTakeWrite_eq_none.1 hwrite
    simp only [PullOk, hws, List.isEmpty_nil, forall_const] at hok
    simp only [wrQueueParkRead]
    cases hfwd : wdfRequestForwardToIoQueue request q.readBufferQueue forward with
    | error e =>
      refine .dropped ?_
      intro h
      obtain ⟨hacc, href⟩ := hok.1 h
      rw [wdfRequestForwardToIoQueue_eq_ok.2 ⟨hacc, href, rfl⟩] at hfwd
      cases hfwd
    | ok rq =>
      obtain ⟨hacc, href, rfl⟩ := wdfRequestForwardToIoQueue_eq_ok.1 hfwd
      exact .parked (hok.2 ⟨hacc, href⟩) hws
  | some x =>
    obtain ⟨w, q'⟩ := x
    obtain ⟨ws, hws, rfl⟩ := wrQueueTakeWrite_eq_some.1 hwrite
    simp only [minLen_eq_min, ← w.length_eq, if_true]
    exact .served (hok.2 fun h => by simp [hws] at h) hws

/-! ## The four handlers -/

/-- No framework call of `IoEvtBulkOutUrb` fails. -/
def BulkOutOk (code : ULONG) (_request : WdfRequest β) (o : Outcomes) (q : WRQueue β) : Prop :=
  code = ioctlInternalUsbSubmitUrb ∧ o.retrieve.isOk = true ∧
    PushOk (wdfRequestRetrieveBuffer · 1 o.retrieveParked) o.alloc q

/-- No framework call of `BackChannelEvtWrite` fails. -/
def BackChannelWriteOk (_code : ULONG) (request : WdfRequest β) (o : Outcomes) (q : WRQueue β) :
    Prop :=
  (wdfRequestRetrieveBuffer request 1 o.retrieve).isOk = true ∧
    PushOk (udecxUrbRetrieveBuffer · o.retrieveParked) o.alloc q

/-- No framework call of `IoEvtBulkInUrb` fails. -/
def BulkInOk (code : ULONG) (_request : WdfRequest β) (o : Outcomes) (q : WRQueue β) : Prop :=
  code = ioctlInternalUsbSubmitUrb ∧ o.retrieve.isOk = true ∧ PullOk o.forward q

/-- No framework call of `BackChannelEvtRead` fails. -/
def BackChannelReadOk (_code : ULONG) (request : WdfRequest β) (o : Outcomes) (q : WRQueue β) :
    Prop :=
  (wdfRequestRetrieveBuffer request 1 o.retrieve).isOk = true ∧ PullOk o.forward q

instance (code : ULONG) (request : WdfRequest β) (o : Outcomes) (q : WRQueue β) :
    Decidable (BulkOutOk code request o q) := inferInstanceAs (Decidable (_ ∧ _ ∧ _))

instance (code : ULONG) (request : WdfRequest β) (o : Outcomes) (q : WRQueue β) :
    Decidable (BackChannelWriteOk code request o q) := inferInstanceAs (Decidable (_ ∧ _))

instance (code : ULONG) (request : WdfRequest β) (o : Outcomes) (q : WRQueue β) :
    Decidable (BulkInOk code request o q) := inferInstanceAs (Decidable (_ ∧ _ ∧ _))

instance (code : ULONG) (request : WdfRequest β) (o : Outcomes) (q : WRQueue β) :
    Decidable (BackChannelReadOk code request o q) := inferInstanceAs (Decidable (_ ∧ _))

theorem udecxUrbRetrieveBuffer_isOk {r : WdfRequest β} {o : NtResult Unit} :
    (udecxUrbRetrieveBuffer r o).isOk = o.isOk := by
  cases o <;> rfl

theorem ioEvtBulkOutUrb_step (code : ULONG) (request : WdfRequest β) (o : Outcomes)
    (q : WRQueue β) :
    WriteStep (F := F) .udecxUrb .wdfRequest request (BulkOutOk code request o q) q
      (ioEvtBulkOutUrb (F := F) code request o q).1 (ioEvtBulkOutUrb code request o q).2 := by
  unfold ioEvtBulkOutUrb
  split
  · next hcode => exact .refused (fun h => hcode h.1) rfl
  · next hcode =>
    cases hret : udecxUrbRetrieveBuffer request o.retrieve with
    | error e =>
      refine .refused ?_ e.failed
      intro h
      rw [BulkOutOk, ← udecxUrbRetrieveBuffer_isOk (r := request), hret] at h
      exact nomatch h.2.1
    | ok transferBuffer =>
      obtain rfl := udecxUrbRetrieveBuffer_eq_ok hret
      refine pushAndComplete_step (fun _ _ => wdfRequestRetrieveBuffer_eq_ok) ?_
      rw [BulkOutOk, ← udecxUrbRetrieveBuffer_isOk (r := request), hret]
      exact ⟨fun h => h.2.2, fun h => ⟨not_not.1 hcode, rfl, h⟩⟩

theorem backChannelEvtWrite_step (code : ULONG) (request : WdfRequest β) (o : Outcomes)
    (q : WRQueue β) :
    WriteStep (F := F) .wdfRequest .udecxUrb request (BackChannelWriteOk code request o q) q
      (backChannelEvtWrite (F := F) request o q).1 (backChannelEvtWrite request o q).2 := by
  unfold backChannelEvtWrite BackChannelWriteOk
  cases hret : wdfRequestRetrieveBuffer request 1 o.retrieve with
  | error e => exact .refused (fun h => nomatch h.1) e.failed
  | ok transferBuffer =>
    obtain rfl := wdfRequestRetrieveBuffer_eq_ok hret
    exact pushAndComplete_step (fun _ _ => udecxUrbRetrieveBuffer_eq_ok)
      ⟨fun h => h.2, fun h => ⟨rfl, h⟩⟩

theorem ioEvtBulkInUrb_step (code : ULONG) (request : WdfRequest β) (o : Outcomes)
    (q : WRQueue β) :
    ReadStep (F := F) .udecxUrb request (BulkInOk code request o q) q
      (ioEvtBulkInUrb (F := F) code request o q).1 (ioEvtBulkInUrb code request o q).2 := by
  unfold ioEvtBulkInUrb
  split
  · next hcode => exact .dropped fun h => hcode h.1
  · next hcode =>
    cases hret : udecxUrbRetrieveBuffer request o.retrieve with
    | error e =>
      refine .dropped ?_
      intro h
      rw [BulkInOk, ← udecxUrbRetrieveBuffer_isOk (r := request), hret] at h
      exact nomatch h.2.1
    | ok transferBuffer =>
      obtain rfl := udecxUrbRetrieveBuffer_eq_ok hret
      refine pullAndComplete_step ?_
      rw [BulkInOk, ← udecxUrbRetrieveBuffer_isOk (r := request), hret]
      exact ⟨fun h => h.2.2, fun h => ⟨not_not.1 hcode, rfl, h⟩⟩

theorem backChannelEvtRead_step (code : ULONG) (request : WdfRequest β) (o : Outcomes)
    (q : WRQueue β) :
    ReadStep (F := F) .wdfRequest request (BackChannelReadOk code request o q) q
      (backChannelEvtRead (F := F) request o q).1 (backChannelEvtRead request o q).2 := by
  unfold backChannelEvtRead BackChannelReadOk
  cases hret : wdfRequestRetrieveBuffer request 1 o.retrieve with
  | error e => exact .dropped fun h => nomatch h.1
  | ok transferBuffer =>
    obtain rfl := wdfRequestRetrieveBuffer_eq_ok hret
    exact pullAndComplete_step ⟨fun h => h.2, fun h => ⟨rfl, h⟩⟩

/-! ## The interrupt path -/

/-- Everything an interrupt URB can do; `o` are the answers of the framework. -/
inductive UrbStep [Zero F] (code : ULONG) (request : WdfRequest β) (o : Outcomes)
    (io : IoContext β F) : IoContext β F → List (Effect β F) → Prop where
  /-- left alone: not completed and not deferred -/
  | dropped (hcode : code ≠ ioctlInternalUsbSubmitUrb) : UrbStep code request o io io []
  | answered (hcode : code = ioctlInternalUsbSubmitUrb)
    (hcached : 0 < io.intrState.numUnreadUpdates) :
    UrbStep code request o io { io with intrState := .cleared }
      [.complete (ioCompletePendingRequest request io.intrState.latestStatus o.retrieve)]
  | deferred (hcode : code = ioctlInternalUsbSubmitUrb)
    (hcached : io.intrState.numUnreadUpdates = 0)
    (hfwd : io.intrDeferredQueue.accepting = true ∧ o.forward.refuses = false) :
    UrbStep code request o io
      { io with
        intrDeferredQueue :=
          { io.intrDeferredQueue with requests := io.intrDeferredQueue.requests ++ [request] }
        intrState := .cleared } []
  | refused (hcode : code = ioctlInternalUsbSubmitUrb)
    (hcached : io.intrState.numUnreadUpdates = 0)
    (hfwd : ¬ (io.intrDeferredQueue.accepting = true ∧ o.forward.refuses = false)) :
    UrbStep code request o io { io with intrState := .cleared }
      [.complete (completeRequest .udecxUrb request o.forward.error.status 0)]

/-- Everything a raise can do. -/
inductive RaiseStep (latestStatus : F) (o : Outcomes) (io : IoContext β F) :
    IoContext β F → List (Effect β F) → Prop where
  | cached (hread : wdfIoQueueRetrieveNextRequest io.intrDeferredQueue = none) :
    RaiseStep latestStatus o io { io with intrState := io.intrState.cache latestStatus }
      [.signalWake]
  | handed {request : WdfRequest β} {rs : List (WdfRequest β)}
    (hread : io.intrDeferredQueue.requests = request :: rs) :
    RaiseStep latestStatus o io
      { io with intrDeferredQueue := { io.intrDeferredQueue with requests := rs } }
      [.complete (ioCompletePendingRequest request latestStatus o.retrieveParked)]

theorem ioEvtInterruptInUrb_step [Zero F] (code : ULONG) (request : WdfRequest β) (o : Outcomes)
    (io : IoContext β F) :
    UrbStep code request o io (ioEvtInterruptInUrb code request o io).1
      (ioEvtInterruptInUrb code request o io).2 := by
  unfold ioEvtInterruptInUrb
  split
  · next hcode => exact .dropped hcode
  · next hcode =>
    have hcode := not_not.1 hcode
    unfold ioTakeUpdate
    by_cases hcached : 0 < io.intrState.numUnreadUpdates
    · simp only [gt_iff_lt, hcached, if_true]
      exact .answered hcode hcached
    · simp only [gt_iff_lt, hcached, if_false, ioDeferUrb]
      have hcached : io.intrState.numUnreadUpdates = 0 := Nat.eq_zero_of_not_pos hcached
      cases hfwd : wdfRequestForwardToIoQueue request io.intrDeferredQueue o.forward with
      | error e =>
        obtain rfl := wdfRequestForwardToIoQueue_eq_error hfwd
        refine .refused hcode hcached ?_
        intro h
        rw [wdfRequestForwardToIoQueue_eq_ok.2 ⟨h.1, h.2, rfl⟩] at hfwd
        cases hfwd
      | ok q =>
        obtain ⟨hacc, href, rfl⟩ := wdfRequestForwardToIoQueue_eq_ok.1 hfwd
        exact .deferred hcode hcached ⟨hacc, href⟩

theorem ioRaiseInterrupt_step (latestStatus : F) (o : Outcomes) (io : IoContext β F) :
    RaiseStep latestStatus o io (ioRaiseInterrupt latestStatus o io).2.1
      (ioRaiseInterrupt latestStatus o io).2.2 := by
  unfold ioRaiseInterrupt ioTakeDeferred
  cases hread : wdfIoQueueRetrieveNextRequest io.intrDeferredQueue with
  | none => exact .cached hread
  | some x =>
    obtain ⟨request, q⟩ := x
    obtain ⟨-, rs, hrs, rfl⟩ := wdfIoQueueRetrieveNextRequest_eq_some.1 hread
    exact .handed hrs

@[simp] theorem ioCompletePendingRequest_request (r : WdfRequest β) (v : F) (o : NtResult Unit) :
    (ioCompletePendingRequest r v o).request = r := by
  unfold ioCompletePendingRequest
  split
  · rfl
  · split <;> rfl

end UdeSample
