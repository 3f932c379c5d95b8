import UdeSample.Device.Fifo

/-!
# The interrupt state and its history

What a run does with interrupts is recorded next to it: the raises, the URBs deferred and retrieved
again, the updates handed to a URB, and all completions. `IntrHistory` says what the state is in
terms of these records: the counter is the number of raises since the last hand-over, up to its
bound, the cached value is the latest of them, and a URB is parked only when there is none. What is
handed over is always the latest raise (`intrHistory_run`).
-/

namespace UdeSample

open Lib

variable {β F : Type}

/-- What an event does with interrupts. -/
inductive IntrRecord (β F : Type) where
  /-- `Io_RaiseInterrupt` is called -/
  | raised (latestStatus : F)
  /-- a URB is forwarded to `IntrDeferredQueue` -/
  | deferred (request : WdfRequest β)
  /-- a raise retrieves a URB from `IntrDeferredQueue` -/
  | retrieved (request : WdfRequest β)
  /-- `IoCompletePendingRequest` is called -/
  | handed (latestStatus : F) (request : WdfRequest β)
  | completed (c : Completion β F)
deriving DecidableEq

/-- The records of an event but for its completions. -/
def intrHandled [Zero F] (s : DeviceState β F) : DeviceEvent β F → List (IntrRecord β F)
  | .raise latestStatus _ =>
    match ioTakeDeferred s.io with
    | none => [.raised latestStatus]
    | some (request, _) => [.raised latestStatus, .retrieved request, .handed latestStatus request]
  | .dispatch request ioControlCode o =>
    if request.source = .interruptIn ∧ ioControlCode = ioctlInternalUsbSubmitUrb then
      match (ioTakeUpdate s.io).1 with
      | some latestStatus => [.handed latestStatus request]
      | none =>
        match wdfRequestForwardToIoQueue request s.io.intrDeferredQueue o.forward with
        | .ok _ => [.deferred request]
        | .error _ => []
    else []
  | .cancel _ _ | .linkPowerEntry | .linkPowerExit => []

/-- `deviceStep` with the records of the event. -/
def deviceRecorded [Zero F] (s : DeviceState β F) (e : DeviceEvent β F) :
    Option (DeviceState β F × List (IntrRecord β F)) :=
  (deviceStep s e).map fun (s', effects) =>
    (s', intrHandled s e ++ (completions effects).map .completed)

/-- The run of a list of events with its records. -/
def intrRun [Zero F] (t : List (DeviceEvent β F)) :
    Option (DeviceState β F × List (IntrRecord β F)) :=
  run (logged deviceRecorded) (deviceInit, []) t

/-! ## What the records tell -/

namespace IntrRecord

@[simp] def raisedValue : IntrRecord β F → Option F
  | raised v => some v
  | deferred _ | retrieved _ | handed _ _ | completed _ => none

@[simp] def handedValue : IntrRecord β F → Option F
  | handed v _ => some v
  | raised _ | deferred _ | retrieved _ | completed _ => none

@[simp] def deferredUrb : IntrRecord β F → Option (WdfRequest β)
  | deferred r => some r
  | raised _ | retrieved _ | handed _ _ | completed _ => none

@[simp] def retrievedUrb : IntrRecord β F → Option (WdfRequest β)
  | retrieved r => some r
  | raised _ | deferred _ | handed _ _ | completed _ => none

/-- The raises since the last hand-over, after one more record. -/
@[simp] def next (unread : List F) : IntrRecord β F → List F
  | raised v => unread ++ [v]
  | handed _ _ => []
  | deferred _ | retrieved _ | completed _ => unread

end IntrRecord

def raises (h : List (IntrRecord β F)) : List F := h.filterMap IntrRecord.raisedValue

def handOvers (h : List (IntrRecord β F)) : List F := h.filterMap IntrRecord.handedValue

def deferrals (h : List (IntrRecord β F)) : List (WdfRequest β) :=
  h.filterMap IntrRecord.deferredUrb

def retrievals (h : List (IntrRecord β F)) : List (WdfRequest β) :=
  h.filterMap IntrRecord.retrievedUrb

/-- The raises since an update was last handed to a URB. -/
def unreadRaises (h : List (IntrRecord β F)) : List F := h.foldl IntrRecord.next []

theorem filterMap_cons_toList {α γ : Type} (f : α → Option γ) (a : α) (l : List α) :
    (a :: l).filterMap f = (f a).toList ++ l.filterMap f := by
  cases h : f a <;> simp [h]

@[simp] theorem raises_nil : raises ([] : List (IntrRecord β F)) = [] := rfl

@[simp] theorem raises_cons (x : IntrRecord β F) (h : List (IntrRecord β F)) :
    raises (x :: h) = x.raisedValue.toList ++ raises h := filterMap_cons_toList _ _ _

@[simp] theorem raises_append (h h' : List (IntrRecord β F)) :
    raises (h ++ h') = raises h ++ raises h' := List.filterMap_append

@[simp] theorem handOvers_nil : handOvers ([] : List (IntrRecord β F)) = [] := rfl

@[simp] theorem handOvers_cons (x : IntrRecord β F) (h : List (IntrRecord β F)) :
    handOvers (x :: h) = x.handedValue.toList ++ handOvers h := filterMap_cons_toList _ _ _

@[simp] theorem handOvers_append (h h' : List (IntrRecord β F)) :
    handOvers (h ++ h') = handOvers h ++ handOvers h' := List.filterMap_append

@[simp] theorem deferrals_nil : deferrals ([] : List (IntrRecord β F)) = [] := rfl

@[simp] theorem deferrals_cons (x : IntrRecord β F) (h : List (IntrRecord β F)) :
    deferrals (x :: h) = x.deferredUrb.toList ++ deferrals h := filterMap_cons_toList _ _ _

@[simp] theorem deferrals_append (h h' : List (IntrRecord β F)) :
    deferrals (h ++ h') = deferrals h ++ deferrals h' := List.filterMap_append

@[simp] theorem retrievals_nil : retrievals ([] : List (IntrRecord β F)) = [] := rfl

@[simp] theorem retrievals_cons (x : IntrRecord β F) (h : List (IntrRecord β F)) :
    retrievals (x :: h) = x.retrievedUrb.toList ++ retrievals h := filterMap_cons_toList _ _ _

@[simp] theorem retrievals_append (h h' : List (IntrRecord β F)) :
    retrievals (h ++ h') = retrievals h ++ retrievals h' := List.filterMap_append

theorem filterMap_completed {γ : Type} {f : IntrRecord β F → Option γ}
    (hf : ∀ c, f (.completed c) = none) (cs : List (Completion β F)) :
    (cs.map .completed).filterMap f = [] := by
  rw [List.filterMap_map, List.filterMap_eq_nil_iff]
  exact fun c _ => hf c

@[simp] theorem raises_completed (cs : List (Completion β F)) :
    raises (cs.map .completed) = [] := filterMap_completed (fun _ => rfl) cs

@[simp] theorem handOvers_completed (cs : List (Completion β F)) :
    handOvers (cs.map .completed) = [] := filterMap_completed (fun _ => rfl) cs

@[simp] theorem deferrals_completed (cs : List (Completion β F)) :
    deferrals (cs.map .completed) = [] := filterMap_completed (fun _ => rfl) cs

@[simp] theorem retrievals_completed (cs : List (Completion β F)) :
    retrievals (cs.map .completed) = [] := filterMap_completed (fun _ => rfl) cs

@[simp] theorem next_completed (unread : List F) (cs : List (Completion β F)) :
    (cs.map IntrRecord.completed).foldl IntrRecord.next unread = unread := by
  induction cs with
  | nil => rfl
  | cons c cs ih => simpa using ih

@[simp] theorem unreadRaises_append (h h' : List (IntrRecord β F)) :
    unreadRaises (h ++ h') = h'.foldl IntrRecord.next (unreadRaises h) := List.foldl_append

/-- A success of an interrupt URB. -/
def IsDelivery (c : Completion β F) : Prop :=
  c.request.source = .interruptIn ∧ c.status = statusSuccess

/-- Every success of an interrupt URB is the end of a hand-over to it, and carries the latest
raise. -/
def DeliversLatest (h : List (IntrRecord β F)) : Prop :=
  ∀ l c m, h = l ++ .completed c :: m → IsDelivery c →
    ∃ v, c.data = .flags v ∧ l.getLast? = some (.handed v c.request) ∧
      (raises l).getLast? = some v

/-- The interrupt part of the device after a run with these records. -/
structure IntrHistory [Zero F] (h : List (IntrRecord β F)) (io : IoContext β F) : Prop where
  latest : DeliversLatest h
  /-- every hand-over is of a raise of its own -/
  once : (handOvers h).Sublist (raises h)
  inOrder : (retrievals h ++ io.intrDeferredQueue.requests).Sublist (deferrals h)
  count : io.intrState.numUnreadUpdates = min intrStateMaxCachedUpdates (unreadRaises h).length
  latestStatus : io.intrState.latestStatus =
    if io.intrState.numUnreadUpdates > 0 then (raises h).getLast?.getD 0 else 0
  parked : io.intrDeferredQueue.requests ≠ [] → io.intrState.numUnreadUpdates = 0

/-! ## What one event records -/

/-- Everything an event does to the interrupt part of the device, with its records. -/
inductive IntrMove [Zero F] (io : IoContext β F) :
    IoContext β F → List (IntrRecord β F) → Prop where
  | cached {v : F} (hidle : io.intrDeferredQueue.requests = []) :
    IntrMove io { io with intrState := io.intrState.cache v } [.raised v]
  | handed {v : F} {request : WdfRequest β} {rs : List (WdfRequest β)} {o : NtResult Unit}
    (hread : io.intrDeferredQueue.requests = request :: rs) :
    IntrMove io { io with intrDeferredQueue := { io.intrDeferredQueue with requests := rs } }
      [.raised v, .retrieved request, .handed v request,
        .completed (ioCompletePendingRequest request v o)]
  | taken {request : WdfRequest β} {o : NtResult Unit}
    (hcached : 0 < io.intrState.numUnreadUpdates) :
    IntrMove io { io with intrState := .cleared }
      [.handed io.intrState.latestStatus request,
        .completed (ioCompletePendingRequest request io.intrState.latestStatus o)]
  | deferred {request : WdfRequest β} (hcached : io.intrState.numUnreadUpdates = 0) :
    IntrMove io
      { io with
        intrDeferredQueue :=
          { io.intrDeferredQueue with requests := io.intrDeferredQueue.requests ++ [request] }
        intrState := .cleared }
      [.deferred request]
  /-- nothing is raised, parked or handed over -/
  | other {io' : IoContext β F} {cs : List (Completion β F)}
    (hstate : io'.intrState = io.intrState ∨
      io.intrState.numUnreadUpdates = 0 ∧ io'.intrState = .cleared)
    (hqueue : io'.intrDeferredQueue.requests.Sublist io.intrDeferredQueue.requests)
    (hfail : ∀ c ∈ cs, ¬ IsDelivery c) : IntrMove io io' (cs.map .completed)

theorem not_isDelivery_of_source {c : Completion β F} (h : c.request.source ≠ .interruptIn) :
    ¬ IsDelivery c :=
  fun hd => h hd.1

theorem not_isDelivery_of_failed {c : Completion β F} (h : ntSuccess c.status = false) :
    ¬ IsDelivery c := by
  rintro ⟨-, hstatus⟩
  rw [hstatus] at h
  exact absurd h (by decide)

/-- An event that leaves the interrupt part alone. -/
theorem IntrMove.elsewhere [Zero F] {io : IoContext β F} {fx : List (Effect β F)}
    (h : ∀ c ∈ completions fx, c.request.source ≠ .interruptIn) :
    IntrMove io io ((completions fx).map .completed) :=
  .other (Or.inl rfl) (List.Sublist.refl _) fun c hc => not_isDelivery_of_source (h c hc)

/-- A request of another endpoint queue or of the back channel. -/
theorem intrHandled_of_ne [Zero F] {s : DeviceState β F} {request : WdfRequest β}
    (hne : request.source ≠ .interruptIn) (code : ULONG) (o : Outcomes) :
    intrHandled s (.dispatch request code o) = [] := by
  simp [intrHandled, hne]

/-- **An interrupt URB** is dropped, handed the cached update, parked or refused. -/
theorem UrbStep.intrMove [Zero F] {s : DeviceState β F} {request : WdfRequest β} {code : ULONG}
    {o : Outcomes} {io : IoContext β F} {fx : List (Effect β F)}
    (hsource : request.source = .interruptIn) (h : UrbStep code request o s.io io fx) :
    IntrMove s.io io
      (intrHandled s (.dispatch request code o) ++ (completions fx).map .completed) := by
  cases h with
  | dropped hcode =>
    have hnone : intrHandled s (.dispatch request code o) = [] := by simp [intrHandled, hcode]
    rw [hnone]
    exact .elsewhere fun c hc => by cases hc
  | answered hcode hcached =>
    have hhand : intrHandled s (.dispatch request code o) =
        [.handed s.io.intrState.latestStatus request] := by
      simp [intrHandled, hsource, hcode, ioTakeUpdate, hcached]
    rw [hhand]
    exact .taken hcached
  | deferred hcode hcached hfwd =>
    have hfwd := (wdfRequestForwardToIoQueue_eq_ok (r := request)).2 ⟨hfwd.1, hfwd.2, rfl⟩
    have hhand : intrHandled s (.dispatch request code o) = [.deferred request] := by
      simp [intrHandled, hsource, hcode, ioTakeUpdate, hcached, hfwd]
    rw [hhand]
    exact .deferred hcached
  | refused hcode hcached hfwd =>
    have hhand : intrHandled s (.dispatch request code o) = [] := by
      simp only [intrHandled, hsource, hcode, ioTakeUpdate, hcached, gt_iff_lt, Nat.lt_irrefl,
        if_false, and_self, if_true]
      split
      · next heq => exact absurd (wdfRequestForwardToIoQueue_eq_ok.1 heq) (by tauto)
      · rfl
    rw [hhand]
    refine .other (Or.inr ⟨hcached, rfl⟩) (List.Sublist.refl _) fun c hc => ?_
    obtain rfl : c = completeRequest .udecxUrb request o.forward.error.status 0 := by
      simpa using hc
    exact not_isDelivery_of_failed o.forward.error.failed

/-- **A raise** is cached, or handed to the first parked URB. -/
theorem raise_intrMove [Zero F] {s s' : DeviceState β F} {v : F} {o : Outcomes}
    {fx : List (Effect β F)} (hd : s.io.intrDeferredQueue.dispatching = true)
    (hstep : deviceStep s (.raise v o) = some (s', fx)) :
    IntrMove s.io s'.io (intrHandled s (.raise v o) ++ (completions fx).map .completed) := by
  simp only [deviceStep, ioRaiseInterrupt] at hstep
  unfold intrHandled
  cases htake : ioTakeDeferred s.io with
  | none =>
    simp only [htake, Option.some.injEq, Prod.mk.injEq] at hstep
    obtain ⟨rfl, rfl⟩ := hstep
    have hidle : s.io.intrDeferredQueue.requests = [] := by
      rw [ioTakeDeferred, Option.map_eq_none_iff] at htake
      exact (wdfIoQueueRetrieveNextRequest_eq_none hd).1 htake
    exact .cached hidle
  | some x =>
    obtain ⟨request, io'⟩ := x
    simp only [htake, Option.some.injEq, Prod.mk.injEq] at hstep
    obtain ⟨rfl, rfl⟩ := hstep
    obtain ⟨⟨r, q⟩, hret, hmk⟩ := Option.map_eq_some_iff.1 htake
    obtain ⟨rfl, rfl⟩ := Prod.mk.inj hmk
    obtain ⟨-, rs, hrs, rfl⟩ := wdfIoQueueRetrieveNextRequest_eq_some.1 hret
    exact .handed hrs

theorem deviceStep_intrMove [Zero F] {s s' : DeviceState β F} {e : DeviceEvent β F}
    {fx : List (Effect β F)} (hs : s.Typed) (hd : s.io.intrDeferredQueue.dispatching = true)
    (h : deviceStep s e = some (s', fx)) :
    IntrMove s.io s'.io (intrHandled s e ++ (completions fx).map .completed) := by
  have hstep := h
  cases deviceStep_effect h with
  | @control request code o hsource =>
    rw [intrHandled_of_ne (by simp [hsource])]
    refine .elsewhere fun c hc => ?_
    rw [ioEvtControlUrb_completed code request o c hc, hsource]
    decide
  | @write ch request code o q _ hsource hwrite =>
    have hne : request.source ≠ .interruptIn := by
      rw [hsource]
      cases ch <;> decide
    rw [intrHandled_of_ne hne, setChannel_io]
    refine .elsewhere fun c hc => ?_
    rcases hwrite.completed c hc with hr | hr
    · rwa [hr]
    · rw [← manualQueue_channel] at hr
      rw [hs _ _ hr]
      cases ch <;> decide
  | @read ch request code o q _ hsource hread =>
    have hne : request.source ≠ .interruptIn := by
      rw [hsource]
      cases ch <;> decide
    rw [intrHandled_of_ne hne, setChannel_io]
    refine .elsewhere fun c hc => ?_
    rwa [hread.completed c hc]
  | urb hsource hurb => exact hurb.intrMove hsource
  | raise => exact raise_intrMove hd hstep
  | @cancel queue request l m hqueue =>
    refine .other (Or.inl ?_) ?_ fun c hc => ?_
    · cases queue <;> rfl
    · cases queue with
      | missionRequest | missionCompletion => exact List.Sublist.refl _
      | intrDeferred =>
        have hq : s.io.intrDeferredQueue.requests = l ++ request :: m := hqueue
        rw [hq]
        exact (List.Sublist.refl l).append (List.sublist_cons_self request m)
    · obtain rfl : c = (s.manualQueue queue).canceled request := by simpa using hc
      exact not_isDelivery_of_failed statusCancelled_failed
  | linkPowerEntry =>
    exact .other (Or.inl rfl) (List.Sublist.refl _) fun c hc => by cases hc
  | linkPowerExit =>
    refine .other (Or.inl rfl) (List.nil_sublist _) fun c hc => ?_
    rw [completions_map_complete] at hc
    obtain ⟨r, -, rfl⟩ := List.mem_map.1 hc
    exact not_isDelivery_of_failed statusCancelled_failed

/-! ## The invariant -/

/-- `IntrHistory` in the form that events keep: the raises end with the ones not handed over. -/
structure IntrLedger [Zero F] (h : List (IntrRecord β F)) (io : IoContext β F) : Prop where
  latest : DeliversLatest h
  reflects : io.intrState.Reflects (unreadRaises h)
  split : ∃ l, raises h = l ++ unreadRaises h ∧ (handOvers h).Sublist l
  inOrder : (retrievals h ++ io.intrDeferredQueue.requests).Sublist (deferrals h)
  parked : io.intrDeferredQueue.requests ≠ [] → io.intrState.numUnreadUpdates = 0

/-- Records without a delivery. -/
theorem DeliversLatest.append {h h' : List (IntrRecord β F)} (hd : DeliversLatest h)
    (hnone : ∀ c, .completed c ∈ h' → ¬ IsDelivery c) : DeliversLatest (h ++ h') := by
  intro l c m heq hc
  rcases List.append_eq_append_iff.1 heq with ⟨l', rfl, rfl⟩ | ⟨m', rfl, hm'⟩
  · exact absurd hc (hnone c (by simp))
  · cases m' with
    | nil =>
      rw [List.nil_append] at hm'
      exact absurd hc (hnone c (hm' ▸ List.mem_cons_self))
    | cons x m' =>
      obtain ⟨rfl, -⟩ := List.cons.inj hm'
      exact hd l c m' rfl hc

/-- The end of a hand-over. -/
theorem DeliversLatest.append_completed {h : List (IntrRecord β F)} {c : Completion β F} {v : F}
    (hd : DeliversLatest h) (hdata : IsDelivery c → c.data = .flags v)
    (hhand : h.getLast? = some (.handed v c.request)) (hraise : (raises h).getLast? = some v) :
    DeliversLatest (h ++ [.completed c]) := by
  intro l c' m heq hc
  rcases List.append_eq_append_iff.1 heq with ⟨l', rfl, hl'⟩ | ⟨m', rfl, hm'⟩
  · cases l' with
    | nil =>
      obtain ⟨heq, -⟩ := List.cons.inj hl'
      cases heq
      rw [List.append_nil]
      exact ⟨v, hdata hc, hhand, hraise⟩
    | cons x l' =>
      obtain ⟨-, hnil⟩ := List.cons.inj hl'
      cases l' <;> cases hnil
  · cases m' with
    | nil =>
      obtain ⟨heq, -⟩ := List.cons.inj hm'
      cases heq
      rw [List.append_nil] at hhand hraise
      exact ⟨v, hdata hc, hhand, hraise⟩
    | cons x m' =>
      obtain ⟨rfl, -⟩ := List.cons.inj hm'
      exact hd l c' m' rfl hc

theorem ioCompletePendingRequest_data {r : WdfRequest β} {v : F} {o : NtResult Unit}
    (h : (ioCompletePendingRequest r v o).status = statusSuccess) :
    (ioCompletePendingRequest r v o).data = .flags v := by
  unfold ioCompletePendingRequest at h ⊢
  split at h
  · next e _ =>
    have hfail := e.failed
    rw [completeRequest_status] at h
    rw [h] at hfail
    exact absurd hfail (by decide)
  · split at h
    · rw [completeRequest_status] at h
      exact absurd h (by decide)
    · next hlen => rw [if_neg hlen]

/-- Both ways of handing an update over: what was recorded before, `IoCompletePendingRequest`. -/
theorem DeliversLatest.hand {h : List (IntrRecord β F)} {v : F} {r : WdfRequest β}
    {o : NtResult Unit} (hd : DeliversLatest h) (h' : List (IntrRecord β F))
    (hnone : ∀ c, .completed c ∉ h')
    (hraise : (raises (h ++ h')).getLast? = some v) :
    DeliversLatest (h ++ (h' ++ [.handed v r, .completed (ioCompletePendingRequest r v o)])) := by
  have hhand : DeliversLatest (h ++ (h' ++ [.handed v r])) := by
    refine hd.append ?_
    intro c hc
    rcases List.mem_append.1 hc with hc | hc
    · exact absurd hc (hnone c)
    · cases List.mem_singleton.1 hc
  have hend := hhand.append_completed (c := ioCompletePendingRequest r v o) (v := v)
    (fun hc => ioCompletePendingRequest_data hc.2) (by simp) ?_
  · simpa using hend
  · rw [← List.append_assoc, raises_append]
    simpa [raises, IntrRecord.raisedValue] using hraise

namespace IntrLedger

variable [Zero F] {h : List (IntrRecord β F)} {io io' : IoContext β F}

theorem init : IntrLedger ([] : List (IntrRecord β F)) ioContextCreated := by
  refine ⟨?_, DeviceIntrState.Reflects.cleared, ⟨[], rfl, List.Sublist.refl _⟩,
    List.Sublist.refl _, fun hne => absurd rfl hne⟩
  intro l c m heq
  cases l <;> cases heq

/-- While a URB waits nothing is unread. -/
theorem unreadRaises_eq_nil (hl : IntrLedger h io)
    (hnone : io.intrState.numUnreadUpdates = 0) : unreadRaises h = [] :=
  hl.reflects.updates_eq_nil (by decide) hnone

theorem cached (hl : IntrLedger h io) (hidle : io.intrDeferredQueue.requests = []) (v : F) :
    IntrLedger (h ++ [.raised v]) { io with intrState := io.intrState.cache v } := by
  refine ⟨hl.latest.append fun c hc => by simp at hc, ?_, ?_, ?_, fun hne => absurd hidle hne⟩
  · simpa using hl.reflects.cache v
  · obtain ⟨l, hraises, hsub⟩ := hl.split
    exact ⟨l, by simp [hraises], by simpa using hsub⟩
  · simpa using hl.inOrder

theorem handed (hl : IntrLedger h io) {request : WdfRequest β} {rs : List (WdfRequest β)}
    (hread : io.intrDeferredQueue.requests = request :: rs) (v : F) (o : NtResult Unit) :
    IntrLedger
      (h ++ [.raised v, .retrieved request, .handed v request,
        .completed (ioCompletePendingRequest request v o)])
      { io with intrDeferredQueue := { io.intrDeferredQueue with requests := rs } } := by
  have hnone : io.intrState.numUnreadUpdates = 0 := hl.parked (by simp [hread])
  have hunread : unreadRaises h = [] := hl.unreadRaises_eq_nil hnone
  refine ⟨?_, ?_, ?_, ?_, fun _ => hnone⟩
  · exact hl.latest.hand [.raised v, .retrieved request] (by simp) (by simp)
  · simpa [hunread] using hl.reflects
  · obtain ⟨l, hraises, hsub⟩ := hl.split
    refine ⟨l ++ [v], by simp [hraises, hunread], ?_⟩
    simpa using hsub.append (List.Sublist.refl [v])
  · simpa [hread] using hl.inOrder

theorem taken (hl : IntrLedger h io) (hcached : 0 < io.intrState.numUnreadUpdates)
    (request : WdfRequest β) (o : NtResult Unit) :
    IntrLedger
      (h ++ [.handed io.intrState.latestStatus request,
        .completed (ioCompletePendingRequest request io.intrState.latestStatus o)])
      { io with intrState := .cleared } := by
  have hlast := hl.reflects.getLast? hcached
  obtain ⟨l, hraises, hsub⟩ := hl.split
  refine ⟨?_, ?_, ?_, ?_, fun _ => rfl⟩
  · refine hl.latest.hand [] (by simp) ?_
    rw [List.append_nil, hraises, List.getLast?_append, hlast, Option.some_or]
  · simpa using DeviceIntrState.Reflects.cleared
  · refine ⟨l ++ unreadRaises h, by simp [hraises], ?_⟩
    have hmem : [io.intrState.latestStatus].Sublist (unreadRaises h) :=
      List.singleton_sublist.2 (List.mem_of_getLast? hlast)
    simpa using hsub.append hmem
  · simpa using hl.inOrder

theorem deferred (hl : IntrLedger h io) (hcached : io.intrState.numUnreadUpdates = 0)
    (request : WdfRequest β) :
    IntrLedger (h ++ [.deferred request])
      { io with
        intrDeferredQueue :=
          { io.intrDeferredQueue with requests := io.intrDeferredQueue.requests ++ [request] }
        intrState := .cleared } := by
  have hunread : unreadRaises h = [] := hl.unreadRaises_eq_nil hcached
  refine ⟨hl.latest.append fun c hc => by simp at hc, ?_, ?_, ?_, fun _ => rfl⟩
  · simpa [hunread] using DeviceIntrState.Reflects.cleared
  · simpa using hl.split
  · simpa using hl.inOrder.append (List.Sublist.refl [request])

theorem other (hl : IntrLedger h io) {cs : List (Completion β F)}
    (hstate : io'.intrState = io.intrState ∨
      io.intrState.numUnreadUpdates = 0 ∧ io'.intrState = .cleared)
    (hqueue : io'.intrDeferredQueue.requests.Sublist io.intrDeferredQueue.requests)
    (hfail : ∀ c ∈ cs, ¬ IsDelivery c) : IntrLedger (h ++ cs.map .completed) io' := by
  have hunread : unreadRaises (h ++ cs.map .completed) = unreadRaises h := by simp
  refine ⟨?_, ?_, ?_, ?_, ?_⟩
  · refine hl.latest.append ?_
    intro c hc
    obtain ⟨c', hc', heq⟩ := List.mem_map.1 hc
    cases heq
    exact hfail c hc'
  · rw [hunread]
    rcases hstate with hsame | ⟨hnone, hcleared⟩
    · exact hsame ▸ hl.reflects
    · rw [hcleared, hl.unreadRaises_eq_nil hnone]
      exact .cleared
  · rw [hunread]
    simpa using hl.split
  · simpa using (hqueue.append_left (retrievals h)).trans hl.inOrder
  · intro hne
    have hbefore : io.intrDeferredQueue.requests ≠ [] := by
      intro hnil
      rw [hnil] at hqueue
      exact hne (List.sublist_nil.1 hqueue)
    rcases hstate with hsame | ⟨-, hcleared⟩
    · rw [hsame]
      exact hl.parked hbefore
    · rw [hcleared]
      rfl

/-- **One event.** -/
theorem move {h' : List (IntrRecord β F)} (hl : IntrLedger h io) (hm : IntrMove io io' h') :
    IntrLedger (h ++ h') io' := by
  cases hm with
  | cached hidle => exact hl.cached hidle _
  | handed hread => exact hl.handed hread _ _
  | taken hcached => exact hl.taken hcached _ _
  | deferred hcached => exact hl.deferred hcached _
  | other hstate hqueue hfail => exact hl.other hstate hqueue hfail

theorem history (hl : IntrLedger h io) : IntrHistory h io := by
  obtain ⟨l, hraises, hsub⟩ := hl.split
  refine ⟨hl.latest, ?_, hl.inOrder, hl.reflects.count, ?_, hl.parked⟩
  · rw [hraises]
    exact hsub.trans (List.sublist_append_left _ _)
  · split
    · next hpos =>
      have hlast := hl.reflects.getLast? hpos
      rw [hraises, List.getLast?_append, hlast, Option.some_or, Option.getD_some]
    · next hnone =>
      rw [hl.reflects.latest, hl.unreadRaises_eq_nil (Nat.eq_zero_of_not_pos hnone)]
      rfl

end IntrLedger

theorem deviceRecorded_eq_some [Zero F] {s s' : DeviceState β F} {e : DeviceEvent β F}
    {h : List (IntrRecord β F)} (hstep : deviceRecorded s e = some (s', h)) :
    ∃ fx, deviceStep s e = some (s', fx) ∧
      h = intrHandled s e ++ (completions fx).map .completed := by
  obtain ⟨⟨s₁, fx⟩, hs, heq⟩ := Option.map_eq_some_iff.1 hstep
  obtain ⟨rfl, rfl⟩ := Prod.mk.inj heq
  exact ⟨fx, hs, rfl⟩

/-- The deferred queue is not power managed. -/
theorem IntrMove.dispatching [Zero F] {s s' : DeviceState β F} {e : DeviceEvent β F}
    {fx : List (Effect β F)} (h : DeviceEffect s e s' fx) :
    s'.io.intrDeferredQueue.dispatching = s.io.intrDeferredQueue.dispatching := by
  cases h with
  | control | linkPowerEntry | linkPowerExit => rfl
  | write ch | read ch => cases ch <;> rfl
  | urb _ hurb => cases hurb <;> rfl
  | raise hraise => cases hraise <;> rfl
  | @cancel queue => cases queue <;> rfl

/-- **The interrupt state tells its history in every run.** -/
theorem intrHistory_run [Zero F] {t : List (DeviceEvent β F)} {s : DeviceState β F}
    {h : List (IntrRecord β F)} (hrun : intrRun t = some (s, h)) : IntrHistory h s.io := by
  have hinv : s.Typed ∧ s.io.intrDeferredQueue.dispatching = true ∧ IntrLedger h s.io := by
    refine run_invariant (P := fun _ p => p.1.Typed ∧
      p.1.io.intrDeferredQueue.dispatching = true ∧ IntrLedger p.2 p.1.io)
      ⟨deviceInit_typed, rfl, .init⟩ ?_ hrun
    rintro t p e p' - ⟨htyped, hdisp, hledger⟩ hstep
    obtain ⟨out, hout, hlog⟩ := logged_eq_some.1 hstep
    obtain ⟨fx, hs, rfl⟩ := deviceRecorded_eq_some hout
    refine ⟨deviceStep_typed htyped hs, ?_, ?_⟩
    · rw [IntrMove.dispatching (deviceStep_effect hs), hdisp]
    · rw [hlog]
      exact hledger.move (deviceStep_intrMove htyped hdisp hs)
  exact hinv.2.2.history

/-- Two raises while the host is asleep, the URB that gets the second, and one that waits. -/
def sleepyRaises : List (DeviceEvent UInt8 ULONG) :=
  let urb (i : Nat) : WdfRequest UInt8 := ⟨i, .interruptIn, [0, 0, 0, 0]⟩
  [.linkPowerExit, .raise 10 outcomesOk, .raise 11 outcomesOk, .linkPowerEntry,
    .dispatch (urb 0) ioctlInternalUsbSubmitUrb outcomesOk,
    .dispatch (urb 1) ioctlInternalUsbSubmitUrb outcomesOk]

theorem sleepyRaises_history : ∃ s h, intrRun sleepyRaises = some (s, h) ∧ IntrHistory h s.io ∧
    handOvers h = [11] ∧ (deferrals h).map (fun r => r.id) = [1] := by
  refine ⟨_, _, rfl, intrHistory_run (t := sleepyRaises) rfl, ?_, ?_⟩
  · rfl
  · rfl

end UdeSample
