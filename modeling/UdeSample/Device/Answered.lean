import UdeSample.Device.Run
import Mathlib.Data.List.Nodup

/-!
# Which requests are answered

A handler should complete its request or park it. `Answers` is the exact condition on the event and
the state before it under which it does: write handlers always, the others unless the control code
is unexpected, and the two read handlers also unless the buffer cannot be retrieved or the read
cannot be parked. The leaking branches are early exits that complete nothing, where the sibling
handlers complete with the error status.

The proof counts, for one request identity, its completions and its places in the manual queues:
every event keeps the sum, apart from the dispatched request itself (`DeviceEffect.balance`).
-/

namespace UdeSample

open Lib

variable {β F : Type}

/-- How often a request identity occurs. -/
def idCount (i : Nat) (rs : List (WdfRequest β)) : Nat := (rs.map fun r => r.id).count i

@[simp] theorem idCount_nil (i : Nat) : idCount i ([] : List (WdfRequest β)) = 0 := rfl

@[simp] theorem idCount_cons (i : Nat) (r : WdfRequest β) (rs : List (WdfRequest β)) :
    idCount i (r :: rs) = (if r.id = i then 1 else 0) + idCount i rs := by
  simp [idCount, List.count_cons, Nat.add_comm]

@[simp] theorem idCount_append (i : Nat) (rs rs' : List (WdfRequest β)) :
    idCount i (rs ++ rs') = idCount i rs + idCount i rs' := by
  simp [idCount]

def completed (fx : List (Effect β F)) : List (WdfRequest β) :=
  (completions fx).map fun c => c.request

@[simp] theorem completed_nil : completed ([] : List (Effect β F)) = [] := rfl

@[simp] theorem completed_complete (c : Completion β F) (fx : List (Effect β F)) :
    completed (.complete c :: fx) = c.request :: completed fx := rfl

@[simp] theorem completed_signalWake (fx : List (Effect β F)) :
    completed (.signalWake :: fx) = completed fx := rfl

@[simp] theorem completed_append (fx gx : List (Effect β F)) :
    completed (fx ++ gx) = completed fx ++ completed gx := by
  simp [completed]

/-- The requests parked anywhere. -/
def DeviceState.parked (s : DeviceState β F) : List (WdfRequest β) :=
  s.missionRequest.readBufferQueue.requests ++ s.missionCompletion.readBufferQueue.requests ++
    s.io.intrDeferredQueue.requests

def DeviceEvent.handed : DeviceEvent β F → List (WdfRequest β)
  | .dispatch request _ _ => [request]
  | _ => []

def handedRequests (t : List (DeviceEvent β F)) : List (WdfRequest β) :=
  t.flatMap fun e => e.handed

/-- The handler of a source completes the request or parks it. -/
def HandlerAnswers (s : DeviceState β F) (request : WdfRequest β) (code : ULONG) (o : Outcomes) :
    RequestSource → Prop
  | .control | .interruptIn => code = ioctlInternalUsbSubmitUrb
  | .bulkIn => BulkInOk code request o s.missionCompletion
  | .read => BackChannelReadOk code request o s.missionRequest
  | .bulkOut | .write | .ioctl => True

/-- The handler of the event completes its request or parks it. -/
def Answers (s : DeviceState β F) : DeviceEvent β F → Prop
  | .dispatch request code o => HandlerAnswers s request code o request.source
  | _ => True

instance (s : DeviceState β F) (request : WdfRequest β) (code : ULONG) (o : Outcomes) :
    ∀ source, Decidable (HandlerAnswers s request code o source)
  | .control | .interruptIn => inferInstanceAs (Decidable (_ = _))
  | .bulkIn => inferInstanceAs (Decidable (BulkInOk code request o s.missionCompletion))
  | .read => inferInstanceAs (Decidable (BackChannelReadOk code request o s.missionRequest))
  | .bulkOut | .write | .ioctl => isTrue trivial

instance (s : DeviceState β F) : ∀ e, Decidable (Answers s e)
  | .dispatch _ _ _ => inferInstanceAs (Decidable (HandlerAnswers _ _ _ _ _))
  | .raise _ _ | .cancel _ _ | .linkPowerEntry | .linkPowerExit => isTrue trivial

/-! ## Counting -/

theorem WriteStep.balance {api readApi : CompletionApi} {request : WdfRequest β} {ok : Prop}
    {q q' : WRQueue β} {fx : List (Effect β F)} (h : WriteStep api readApi request ok q q' fx)
    (i : Nat) : idCount i (completed fx) + idCount i q'.readBufferQueue.requests =
      idCount i q.readBufferQueue.requests + idCount i [request] := by
  cases h with
  | refused => simp [Nat.add_comm]
  | stored => simp [Nat.add_comm]
  | lost _ hread | handed _ hread =>
    simp only [completed_complete, completed_nil, completeRequest_request, answeredRead, hread,
      idCount_cons, idCount_nil]
    omega

theorem ReadStep.balance {api : CompletionApi} {request : WdfRequest β} {ok : Prop}
    {q q' : WRQueue β} {fx : List (Effect β F)} (h : ReadStep api request ok q q' fx) (i : Nat) :
    (ok → idCount i (completed fx) + idCount i q'.readBufferQueue.requests =
      idCount i q.readBufferQueue.requests + idCount i [request]) ∧
    (¬ ok → q' = q ∧ fx = []) := by
  cases h with
  | dropped hok => exact ⟨fun h => absurd h hok, fun _ => ⟨rfl, rfl⟩⟩
  | parked hok => exact ⟨fun _ => by simp, fun h => absurd hok h⟩
  | served hok => exact ⟨fun _ => by simp [answeredRead, Nat.add_comm], fun h => absurd hok h⟩

theorem UrbStep.balance [Zero F] {code : ULONG} {request : WdfRequest β} {o : Outcomes}
    {io io' : IoContext β F} {fx : List (Effect β F)} (h : UrbStep code request o io io' fx)
    (i : Nat) :
    (code = ioctlInternalUsbSubmitUrb →
      idCount i (completed fx) + idCount i io'.intrDeferredQueue.requests =
        idCount i io.intrDeferredQueue.requests + idCount i [request]) ∧
    (code ≠ ioctlInternalUsbSubmitUrb → io' = io ∧ fx = []) := by
  cases h with
  | dropped hcode => exact ⟨fun h => absurd h hcode, fun _ => ⟨rfl, rfl⟩⟩
  | answered hcode | refused hcode =>
    exact ⟨fun _ => by simp [Nat.add_comm], fun h => absurd hcode h⟩
  | deferred hcode => exact ⟨fun _ => by simp, fun h => absurd hcode h⟩

theorem RaiseStep.balance {v : F} {o : Outcomes} {io io' : IoContext β F}
    {fx : List (Effect β F)} (h : RaiseStep v o io io' fx) (i : Nat) :
    idCount i (completed fx) + idCount i io'.intrDeferredQueue.requests =
      idCount i io.intrDeferredQueue.requests := by
  cases h with
  | cached => simp
  | handed hread => simp [hread]

theorem ioEvtControlUrb_balance (code : ULONG) (request : WdfRequest β) (o : Outcomes) :
    completed (ioEvtControlUrb code request o : List (Effect β F)) =
      if code = ioctlInternalUsbSubmitUrb then [request] else [] := by
  unfold ioEvtControlUrb
  split
  · split <;> rfl
  · rfl

theorem idCount_parked_setChannel (i : Nat) (s : DeviceState β F) (ch : MissionChannel)
    (q : WRQueue β) : idCount i (s.setChannel ch q).parked +
      idCount i (s.channel ch).readBufferQueue.requests =
    idCount i s.parked + idCount i q.readBufferQueue.requests := by
  cases ch <;> simp only [DeviceState.parked, DeviceState.setChannel, DeviceState.channel,
    idCount_append] <;> omega

theorem idCount_parked_io (i : Nat) (s : DeviceState β F) (io : IoContext β F) (awake : Bool) :
    idCount i ({ s with io, isAwake := awake } : DeviceState β F).parked +
      idCount i s.io.intrDeferredQueue.requests =
    idCount i s.parked + idCount i io.intrDeferredQueue.requests := by
  simp only [DeviceState.parked, idCount_append]
  omega

theorem idCount_parked_setManualQueue (i : Nat) (s : DeviceState β F) (queue : ManualQueue)
    (q : WdfQueue β) : idCount i (s.setManualQueue queue q).parked +
      idCount i (s.manualQueue queue).requests = idCount i s.parked + idCount i q.requests := by
  cases queue <;> simp only [DeviceState.parked, DeviceState.setManualQueue,
    DeviceState.manualQueue, idCount_append] <;> omega

theorem completed_canceled (q : WdfQueue β) (rs : List (WdfRequest β)) :
    completed (rs.map fun r => .complete (q.canceled r : Completion β F)) = rs := by
  simp [completed, Function.comp_def]

/-- **One event** completes or parks the request it hands over and keeps all others, if its handler
answers; otherwise the request is lost and nothing else happens. -/
theorem DeviceEffect.balance [Zero F] {s s' : DeviceState β F} {e : DeviceEvent β F}
    {fx : List (Effect β F)} (h : DeviceEffect s e s' fx) (i : Nat) :
    (Answers s e → idCount i (completed fx) + idCount i s'.parked =
      idCount i s.parked + idCount i e.handed) ∧
    (¬ Answers s e → idCount i (completed fx) + idCount i s'.parked = idCount i s.parked ∧
      ∃ request, e.handed = [request]) := by
  cases h with
  | @control request code o hsource =>
    rw [ioEvtControlUrb_balance]
    simp only [Answers, HandlerAnswers, hsource, DeviceEvent.handed]
    refine ⟨?_, fun hcode => ⟨?_, request, rfl⟩⟩
    · intro hcode
      rw [if_pos hcode, Nat.add_comm]
    · rw [if_neg hcode, idCount_nil, Nat.zero_add]
  | @write ch request code o q fx hsource hwrite =>
    have hanswers : Answers s (.dispatch request code o) := by
      simp only [Answers, hsource]
      cases ch <;> trivial
    refine ⟨?_, fun hno => absurd hanswers hno⟩
    intro _
    have hq := hwrite.balance i
    have hp := idCount_parked_setChannel i s ch q
    simp only [DeviceEvent.handed] at hq ⊢
    omega
  | @read ch request code o q fx hsource hread =>
    have hiff : Answers s (.dispatch request code o) ↔
        ch.ReadOk code request o (s.channel ch) := by
      simp only [Answers, hsource]
      cases ch <;> exact Iff.rfl
    obtain ⟨hok, hno⟩ := hread.balance i
    have hp := idCount_parked_setChannel i s ch q
    refine ⟨?_, fun ha => ⟨?_, request, rfl⟩⟩
    · intro ha
      have hq := hok (hiff.1 ha)
      simp only [DeviceEvent.handed]
      omega
    · obtain ⟨rfl, rfl⟩ := hno (fun h => ha (hiff.2 h))
      simp only [completed_nil, idCount_nil]
      omega
  | @urb request code o io fx hsource hurb =>
    have hiff : Answers s (.dispatch request code o) ↔ code = ioctlInternalUsbSubmitUrb := by
      simp only [Answers, hsource, HandlerAnswers]
    obtain ⟨hok, hno⟩ := hurb.balance i
    have hp := idCount_parked_io i s io s.isAwake
    refine ⟨?_, fun ha => ⟨?_, request, rfl⟩⟩
    · intro ha
      have hq := hok (hiff.1 ha)
      simp only [DeviceEvent.handed]
      omega
    · obtain ⟨rfl, rfl⟩ := hno (fun h => ha (hiff.2 h))
      simp
  | @raise v o io fx hraise =>
    refine ⟨?_, fun hno => absurd trivial hno⟩
    intro _
    have hq := hraise.balance i
    have hp := idCount_parked_io i s io s.isAwake
    simp only [DeviceEvent.handed, idCount_nil]
    omega
  | @cancel queue request l m hqueue =>
    refine ⟨?_, fun hno => absurd trivial hno⟩
    intro _
    have hp := idCount_parked_setManualQueue i s queue
      { s.manualQueue queue with requests := l ++ m }
    simp only [hqueue, DeviceEvent.handed, completed_complete, completed_nil,
      WdfQueue.canceled_request, idCount_append, idCount_cons, idCount_nil] at hp ⊢
    omega
  | linkPowerEntry => exact ⟨fun _ => by simp [DeviceState.parked, DeviceEvent.handed],
      fun hno => absurd trivial hno⟩
  | linkPowerExit =>
    refine ⟨?_, fun hno => absurd trivial hno⟩
    intro _
    rw [completed_canceled]
    simp only [DeviceState.parked, DeviceEvent.handed, idCount_append, idCount_nil]
    omega

/-! ## Runs -/

section

variable [Zero F] {t : List (DeviceEvent β F)} {s : DeviceState β F} {log : List (Effect β F)}

/-- Every request handed to a handler so far is completed once or parked once, not both. -/
def AllAnswered (t : List (DeviceEvent β F)) : Prop :=
  ∀ s log, deviceRun t = some (s, log) →
    ∀ r ∈ handedRequests t, idCount r.id (completed log) + idCount r.id s.parked = 1

/-- When all handlers answer, completions and parked requests together are the requests handed
over. -/
theorem balance_run (hrun : deviceRun t = some (s, log))
    (hans : Along (fun p e => Answers p.1 e) (logged deviceStep) (deviceInit, []) t) (i : Nat) :
    idCount i (completed log) + idCount i s.parked = idCount i (handedRequests t) := by
  refine run_invariant_along (C := fun p e => Answers p.1 e)
    (P := fun t p => idCount i (completed p.2) + idCount i p.1.parked =
      idCount i (handedRequests t)) rfl ?_ hrun hans
  intro t p e p' _ h hC hstep
  obtain ⟨fx, hout, hlog⟩ := logged_eq_some.1 hstep
  have hbal := ((deviceStep_effect hout).balance i).1 hC
  have hhanded : idCount i (handedRequests (t ++ [e])) =
      idCount i (handedRequests t) + idCount i e.handed := by
    simp [handedRequests]
  rw [hhanded, hlog, completed_append, idCount_append]
  omega

theorem idCount_eq_one {rs : List (WdfRequest β)} (hids : (rs.map fun r => r.id).Nodup)
    {r : WdfRequest β} (hr : r ∈ rs) : idCount r.id rs = 1 :=
  List.count_eq_one_of_mem hids (List.mem_map_of_mem hr)

/-- **Which runs answer every request.** When no request is handed over twice, every request is,
at every time, completed once or parked once and not both, if and only if the handler of every
event answers. -/
theorem answers_iff (hids : ((handedRequests t).map fun r => r.id).Nodup)
    (hrun : deviceRun t = some (s, log)) :
    Along (fun p e => Answers p.1 e) (logged deviceStep) (deviceInit, []) t ↔
      ∀ t₁, t₁ <+: t → AllAnswered t₁ := by
  have hnodup : ∀ t₁, t₁ <+: t → ((handedRequests t₁).map fun r => r.id).Nodup := by
    rintro t₁ ⟨t₂, rfl⟩
    simp only [handedRequests, List.flatMap_append, List.map_append] at hids
    exact (List.nodup_append.1 hids).1
  have hinit : ∀ t₁ : List (DeviceEvent β F), run (logged deviceStep) (deviceInit, []) t₁ =
      deviceRun t₁ := fun _ => rfl
  refine (along_iff (fun t₁ => t₁ <+: t → AllAnswered t₁) hrun ?_ ?_).trans
    ⟨fun h t₁ hpre => h t₁ hpre hpre, fun h t₁ hpre _ => h t₁ hpre⟩
  · intro t₁ p hrun₁ hC hpre s₁ log₁ hrun' r hr
    rw [hinit, hrun'] at hrun₁
    obtain rfl := Option.some.inj hrun₁
    rw [balance_run hrun' hC]
    exact idCount_eq_one (hnodup t₁ hpre) hr
  · intro t₁ p e p' hpre hrun₁ hC hstep hno hgood
    -- the request of a handler that does not answer is neither completed nor parked
    obtain ⟨fx, hout, hlog⟩ := logged_eq_some.1 hstep
    have heff := deviceStep_effect hout
    obtain ⟨-, r, hr⟩ := (heff.balance 0).2 hno
    have hkeep := ((heff.balance r.id).2 hno).1
    have hbal : idCount r.id (completed p.2) + idCount r.id p.1.parked =
        idCount r.id (handedRequests t₁) := balance_run hrun₁ hC r.id
    have hlast : handedRequests (t₁ ++ [e]) = handedRequests t₁ ++ [r] := by
      simp [handedRequests, hr]
    have hrun₂ : deviceRun (t₁ ++ [e]) = some (p'.1, p'.2) := run_concat.2 ⟨p, hrun₁, hstep⟩
    have hone := hgood hpre p'.1 p'.2 hrun₂ r (by simp [hlast])
    have hfresh : idCount r.id (handedRequests t₁) = 0 := by
      have htwo := idCount_eq_one (hnodup _ hpre) (r := r) (by simp [hlast])
      rw [hlast, idCount_append, idCount_cons, if_pos rfl, idCount_nil] at htwo
      omega
    rw [hlog, completed_append, idCount_append] at hone
    omega

end

def unretrievedRead : List (DeviceEvent UInt8 ULONG) :=
  [.dispatch ⟨0, .bulkIn, [0, 0]⟩ ioctlInternalUsbSubmitUrb
    ⟨.error ⟨statusInvalidParameter, statusInvalidParameter_failed⟩, true, .ok (),
      ⟨false, ⟨statusCancelled, statusCancelled_failed⟩⟩, 0⟩]

/-- `IoEvtBulkInUrb` returns with that URB neither completed nor parked. -/
theorem unretrievedRead_lost : ¬ AllAnswered unretrievedRead ∧
    ∃ s log, deviceRun unretrievedRead = some (s, log) ∧
      ∃ r ∈ handedRequests unretrievedRead, r ∉ completed log ∧ r ∉ s.parked := by
  refine ⟨?_, _, _, rfl, _, List.mem_singleton.2 rfl, by decide, by decide⟩
  intro h
  have hone := h _ _ rfl _ (List.mem_singleton.2 rfl)
  revert hone
  decide

/-- A mission read that is parked, an interrupt URB that is canceled, and a mission. -/
def answeredRequests : List (DeviceEvent UInt8 ULONG) :=
  let o : Outcomes := ⟨.ok (), true, .ok (), ⟨false, ⟨statusCancelled, statusCancelled_failed⟩⟩, 0⟩
  [.dispatch ⟨0, .read, [0, 0]⟩ 0 o,
    .dispatch ⟨1, .interruptIn, [0, 0, 0, 0]⟩ ioctlInternalUsbSubmitUrb o, .cancel .intrDeferred 0,
    .dispatch ⟨2, .bulkOut, [1, 2, 3]⟩ ioctlInternalUsbSubmitUrb o]

theorem answeredRequests_answered : AllAnswered answeredRequests :=
  (answers_iff (t := answeredRequests) (by decide) rfl).1 (by decide) answeredRequests
    (List.prefix_refl _)

end UdeSample
