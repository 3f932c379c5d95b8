import UdeSample.Device.IntrRace

/-!
# The order of delivered interrupt values

Raises are executed one at a time, and so are interrupt URBs. When no two calls pass each other,
the values of the successfully completed URBs are a subsequence of the raised values
(`delivered_sublist`): none is delivered after a later one, and none twice. Values are of an
arbitrary type, so raises of the same flags can be told apart by tags.

A value on its way is with an answering URB, with a raise that took a URB, in the cache, or with a
raise about to cache it; `IntrOrder` says that these places, in this order, continue what was
delivered. Calls that pass each other break the order: the update stays in the cache while a later
one takes the deferred URB (`passingRaises_reordered`).
-/

namespace UdeSample

open Lib

variable {β F : Type}

/-- The values delivered by successfully completed URBs, in order. -/
def deliveredValues (fx : List (Effect β F)) : List F :=
  (completions fx).filterMap Completion.delivered

def raisedValues (t : List (Pool.Event (IntrStart β F) Outcomes)) : List F :=
  t.filterMap fun
    | .start (.raise v) => some v
    | _ => none

@[simp] theorem deliveredValues_append (fx gx : List (Effect β F)) :
    deliveredValues (fx ++ gx) = deliveredValues fx ++ deliveredValues gx := by
  simp [deliveredValues]

@[simp] theorem deliveredValues_signalWake : deliveredValues [(.signalWake : Effect β F)] = [] :=
  rfl

@[simp] theorem deliveredValues_completeRequest (api : CompletionApi) (r : WdfRequest β)
    (st : NTSTATUS) (n : Nat) :
    deliveredValues [.complete (completeRequest api r st n : Completion β F)] = [] := rfl

theorem deliveredValues_canceled (q : WdfQueue β) (rs : List (WdfRequest β)) :
    deliveredValues (rs.map fun r => .complete (q.canceled r : Completion β F)) = [] := by
  rw [deliveredValues, completions_map_complete, List.filterMap_map, List.filterMap_eq_nil_iff]
  exact fun _ _ => rfl

theorem deliveredValues_pending (r : WdfRequest β) (v : F) (o : NtResult Unit) :
    (deliveredValues [.complete (ioCompletePendingRequest r v o)]).Sublist [v] := by
  unfold ioCompletePendingRequest
  split
  · exact List.nil_sublist _
  · split
    · exact List.nil_sublist _
    · exact List.Sublist.refl _

/-! ## Values on their way -/

def IntrCall.cachingValue : IntrCall β F → Option F
  | .caching v => some v
  | .handing _ _ | .answering _ _ | .deferring _ => none

/-- The value a raise is about to complete its URB with. -/
def IntrCall.handingValue : IntrCall β F → Option F
  | .handing _ v => some v
  | .caching _ | .answering _ _ | .deferring _ => none

def IntrCall.answeringValue : IntrCall β F → Option F
  | .answering _ v => some v
  | .caching _ | .handing _ _ | .deferring _ => none

def IntrCall.isRaise : IntrCall β F → Bool
  | .caching _ | .handing _ _ => true
  | .answering _ _ | .deferring _ => false

/-- Raises are executed one at a time, and interrupt URBs are. -/
def OneAtATime (p : Pool (IntrDevice β F) (IntrCall β F)) :
    Pool.Event (IntrStart β F) Outcomes → Prop
  | .start (.raise _) => ∀ c ∈ p.calls, c.isRaise = false
  | .start (.urb _ _) => ∀ c ∈ p.calls, c.isRaise = true
  | .start .slept | .start .wokeUp | .start (.cancel _) | .resume _ _ => True

instance (p : Pool (IntrDevice β F) (IntrCall β F)) : ∀ e, Decidable (OneAtATime p e)
  | .start (.raise _) => inferInstanceAs (Decidable (∀ c ∈ p.calls, _ = false))
  | .start (.urb _ _) => inferInstanceAs (Decidable (∀ c ∈ p.calls, _ = true))
  | .start .slept | .start .wokeUp | .start (.cancel _) | .resume _ _ => isTrue trivial

/-! ## The order invariant -/

/-- The values delivered and on their way, oldest first. -/
def valuesInOrder (p : Pool (IntrDevice β F) (IntrCall β F)) : List F :=
  deliveredValues p.shared.effects ++ p.calls.filterMap IntrCall.answeringValue ++
    p.calls.filterMap IntrCall.handingValue ++ p.shared.io.intrState.unread ++
    p.calls.filterMap IntrCall.cachingValue

/-- The invariant of runs without overtaking: at most one raise and one URB in flight, no deferred
URB while another one is answered, nothing cached and no URB answered while a raise hands its value
over, and all values in the order of their raises. -/
structure IntrOrder [Zero F] (t : List (Pool.Event (IntrStart β F) Outcomes))
    (p : Pool (IntrDevice β F) (IntrCall β F)) : Prop where
  sound : (intrView.scene p).Sound
  dispatching : p.shared.Dispatching
  oneEach : p.calls.Pairwise fun c d => c.isRaise ≠ d.isRaise
  answering : p.calls.filterMap IntrCall.answeringValue ≠ [] →
    p.shared.io.intrDeferredQueue.requests = []
  handing : p.calls.filterMap IntrCall.handingValue ≠ [] →
    p.shared.io.intrState.unread = [] ∧ p.calls.filterMap IntrCall.answeringValue = []
  order : (valuesInOrder p).Sublist (raisedValues t)

theorem noRaise_values {cs : List (IntrCall β F)} (h : ∀ c ∈ cs, c.isRaise = false) :
    cs.filterMap IntrCall.handingValue = [] ∧ cs.filterMap IntrCall.cachingValue = [] := by
  simp only [List.filterMap_eq_nil_iff]
  refine ⟨fun c hc => ?_, fun c hc => ?_⟩ <;>
  · have hr := h c hc
    cases c <;> first | rfl | cases hr

theorem noUrb_values {cs : List (IntrCall β F)} (h : ∀ c ∈ cs, c.isRaise = true) :
    cs.filterMap IntrCall.answeringValue = [] := by
  apply List.filterMap_eq_nil_iff.2
  intro c hc
  have hr := h c hc
  cases c <;> first | rfl | cases hr

theorem others_isRaise {l r : List (IntrCall β F)} {c : IntrCall β F}
    (h : (l ++ c :: r).Pairwise fun c d => c.isRaise ≠ d.isRaise) :
    ∀ d ∈ l ++ r, d.isRaise = !c.isRaise := by
  intro d hd
  have hne := (List.pairwise_cons.1 ((List.pairwise_middle fun h => h.symm).1 h)).1 d hd
  cases hc : c.isRaise <;> cases hd : d.isRaise <;> simp_all

section

variable [Zero F] {t : List (Pool.Event (IntrStart β F) Outcomes)}
  {p p' : Pool (IntrDevice β F) (IntrCall β F)}

theorem IntrOrder.deferred_nil (h : IntrOrder t p)
    (hcached : 0 < p.shared.io.intrState.numUnreadUpdates) :
    p.shared.io.intrDeferredQueue.requests = [] := by
  have hd : p.shared.io.intrDeferredQueue.dispatching = true := h.dispatching
  have hw := h.sound.apart (by simpa [View.scene, intrView] using hcached)
  simpa [View.scene, intrView, hd] using hw

theorem IntrOrder.unread_nil (h : IntrOrder t p) {r : WdfRequest β} {rs : List (WdfRequest β)}
    (hdeferred : p.shared.io.intrDeferredQueue.requests = r :: rs) :
    p.shared.io.intrState.unread = [] := by
  apply DeviceIntrState.unread_eq_nil.2
  by_contra hne
  have hcached := Nat.pos_of_ne_zero hne
  rw [h.deferred_nil hcached] at hdeferred
  cases hdeferred

theorem IntrOrder.answering_nil (h : IntrOrder t p) {r : WdfRequest β} {rs : List (WdfRequest β)}
    (hdeferred : p.shared.io.intrDeferredQueue.requests = r :: rs) :
    p.calls.filterMap IntrCall.answeringValue = [] := by
  by_contra hne
  rw [h.answering hne] at hdeferred
  cases hdeferred

/-- A new call of one kind joins calls of the other kind only. -/
theorem IntrOrder.oneEach_append (h : IntrOrder t p) {c : IntrCall β F}
    (hone : ∀ d ∈ p.calls, d.isRaise = !c.isRaise) :
    (p.calls ++ [c]).Pairwise fun c d => c.isRaise ≠ d.isRaise := by
  refine List.pairwise_append.2 ⟨h.oneEach, List.pairwise_singleton _ _, ?_⟩
  intro d hd c' hc'
  rw [List.mem_singleton.1 hc', hone d hd]
  exact Bool.not_ne_self c.isRaise

/-- **The start of a raise** keeps the order: its value is the newest. -/
theorem IntrOrder.raise (h : IntrOrder t p) {v : F}
    (hone : ∀ c ∈ p.calls, c.isRaise = false)
    (hstep : intrStep p (.start (.raise v)) = some p') (hsound : (intrView.scene p').Sound)
    (hdisp : p'.shared.Dispatching) : IntrOrder (t ++ [.start (.raise v)]) p' := by
  obtain ⟨hhand, hcach⟩ := noRaise_values hone
  have horder := h.order
  simp only [valuesInOrder, hhand, hcach, List.append_nil] at horder
  have hraised : raisedValues (t ++ [.start (.raise v)]) = raisedValues t ++ [v] := by
    simp [raisedValues]
  have hp' := Pool.step_start hstep
  cases htake : ioTakeDeferred p.shared.io with
  | none =>
    simp only [intrBegin, htake, Option.toList_some] at hp'
    subst hp'
    -- the value is cached later: until then it is the last one in order
    refine ⟨hsound, hdisp, h.oneEach_append hone,
      fun hne => h.answering ?_, fun hne => absurd ?_ hne, ?_⟩
    · simpa [IntrCall.answeringValue] using hne
    · simp [hhand, IntrCall.handingValue]
    · rw [hraised]
      simpa [valuesInOrder, List.filterMap_cons, hhand, hcach, IntrCall.answeringValue,
        IntrCall.handingValue, IntrCall.cachingValue] using horder.append (List.Sublist.refl [v])
  | some x =>
    obtain ⟨request, io⟩ := x
    obtain ⟨-, rs, hrs, rfl⟩ := ioTakeDeferred_eq_some.1 htake
    -- a URB waits, so no older value is cached or on its way: the new one may go directly
    have hcached := h.unread_nil hrs
    have hans := h.answering_nil hrs
    simp only [intrBegin, htake, Option.toList_some] at hp'
    subst hp'
    refine ⟨hsound, hdisp, h.oneEach_append hone,
      fun hne => absurd ?_ hne, fun _ => ⟨hcached, ?_⟩, ?_⟩
    · simp [hans, IntrCall.answeringValue]
    · simp [hans, IntrCall.answeringValue]
    · rw [hraised]
      simp only [hcached, hans, List.append_nil] at horder
      simpa [valuesInOrder, List.filterMap_cons, hhand, hcach, hcached, hans,
        IntrCall.answeringValue, IntrCall.handingValue, IntrCall.cachingValue] using
        horder.append (List.Sublist.refl [v])

/-- **The start of an interrupt URB** keeps the order: it takes the cached value, if any. -/
theorem IntrOrder.urb (h : IntrOrder t p) {code : ULONG} {request : WdfRequest β}
    (hone : ∀ c ∈ p.calls, c.isRaise = true)
    (hstep : intrStep p (.start (.urb code request)) = some p')
    (hsound : (intrView.scene p').Sound) (hdisp : p'.shared.Dispatching) :
    IntrOrder (t ++ [.start (.urb code request)]) p' := by
  have hans := noUrb_values hone
  have horder := h.order
  have hraised : raisedValues (t ++ [.start (.urb code request)]) = raisedValues t := by
    simp [raisedValues]
  have hp' := Pool.step_start hstep
  by_cases hcode : code = ioctlInternalUsbSubmitUrb
  · by_cases hcached : 0 < p.shared.io.intrState.numUnreadUpdates
    · have hdeferred := h.deferred_nil hcached
      have hvalue := DeviceIntrState.unread_of_pos hcached
      have hhand : p.calls.filterMap IntrCall.handingValue = [] := by
        by_contra hne
        have hnil := (h.handing hne).1
        rw [hvalue] at hnil
        cases hnil
      simp only [intrBegin, hcode, ne_eq, not_true_eq_false, if_false, ioTakeUpdate, gt_iff_lt,
        hcached, if_true, Option.toList_some] at hp'
      subst hp'
      refine ⟨hsound, hdisp, h.oneEach_append hone,
        fun _ => hdeferred, fun hne => absurd ?_ hne, ?_⟩
      · simp [hhand, List.filterMap_cons, IntrCall.handingValue]
      · rw [hraised]
        simpa [valuesInOrder, List.filterMap_cons, hans, hhand, hvalue, IntrCall.answeringValue,
          IntrCall.handingValue, IntrCall.cachingValue] using horder
    · have hvalue := DeviceIntrState.unread_eq_nil.2 (Nat.eq_zero_of_not_pos hcached)
      simp only [intrBegin, hcode, ne_eq, not_true_eq_false, if_false, ioTakeUpdate, gt_iff_lt,
        hcached, Option.toList_some] at hp'
      subst hp'
      refine ⟨hsound, hdisp, h.oneEach_append hone,
        fun hne => absurd ?_ hne, fun _ => ⟨rfl, ?_⟩, ?_⟩
      · simp [hans, List.filterMap_cons, IntrCall.answeringValue]
      · simp [hans, List.filterMap_cons, IntrCall.answeringValue]
      · rw [hraised]
        simpa [valuesInOrder, List.filterMap_cons, hans, hvalue, IntrCall.answeringValue,
          IntrCall.handingValue, IntrCall.cachingValue] using horder
  · simp only [intrBegin, ne_eq, hcode, not_false_eq_true, if_true, Option.toList_none,
      List.append_nil] at hp'
    subst hp'
    exact ⟨hsound, hdisp, h.oneEach, h.answering, h.handing, hraised ▸ horder⟩

theorem filterMap_middle_none {γ δ : Type} {f : γ → Option δ} {l r : List γ} {c : γ}
    (hc : f c = none) : (l ++ c :: r).filterMap f = (l ++ r).filterMap f := by
  simp [hc]

theorem filterMap_middle_some {γ δ : Type} {f : γ → Option δ} {l r : List γ} {c : γ} {v : δ}
    (hnil : (l ++ r).filterMap f = []) (hc : f c = some v) :
    (l ++ c :: r).filterMap f = [v] := by
  obtain ⟨hl, hr⟩ := List.append_eq_nil_iff.1 (List.filterMap_append ▸ hnil)
  simp [hc, hl, hr]

/-- **The second section of a call** keeps the order. -/
theorem IntrOrder.resume (h : IntrOrder t p) {i : Nat} {o : Outcomes}
    (hstep : intrStep p (.resume i o) = some p') (hsound : (intrView.scene p').Sound)
    (hdisp : p'.shared.Dispatching) : IntrOrder (t ++ [.resume i o]) p' := by
  obtain ⟨l, c, r, hcalls, hp'⟩ := Pool.step_resume hstep
  have hothers := others_isRaise (hcalls ▸ h.oneEach)
  have hpair : (l ++ r).Pairwise fun c d => c.isRaise ≠ d.isRaise := by
    have hall := h.oneEach
    rw [hcalls] at hall
    exact hall.sublist (List.Sublist.append_left (List.sublist_cons_self c r) l)
  have hraised : raisedValues (t ++ [.resume i o]) = raisedValues t := by simp [raisedValues]
  have horder := h.order
  have hanswering := h.answering
  have hhanding := h.handing
  rw [valuesInOrder, hcalls] at horder
  rw [hcalls] at hanswering hhanding
  cases c with
  | caching v =>
    obtain ⟨hhand, hcach⟩ := noRaise_values hothers
    rw [filterMap_middle_none rfl, filterMap_middle_none rfl, hhand,
      filterMap_middle_some hcach rfl] at horder
    rw [filterMap_middle_none rfl] at hanswering
    -- the value overwrites the cached one, if any: the order only loses a value
    simp only [intrNext, Option.toList_none, List.append_nil] at hp'
    subst hp'
    have hvalue : (ioCacheUpdate v p.shared.io).intrState.unread = [v] :=
      DeviceIntrState.cache_unread (by decide) v _
    refine ⟨hsound, hdisp, hpair, hanswering, fun hne => absurd hhand hne, ?_⟩
    rw [hraised, valuesInOrder]
    simp only [hhand, hcach, hvalue, deliveredValues_append, deliveredValues_signalWake,
      List.append_nil] at horder ⊢
    refine List.Sublist.trans ?_ horder
    exact (List.sublist_append_left _ _).append (List.Sublist.refl [v])
  | handing request v =>
    obtain ⟨hhand, hcach⟩ := noRaise_values hothers
    rw [filterMap_middle_some hhand rfl, filterMap_middle_none rfl] at hhanding
    obtain ⟨hcached, hans⟩ := hhanding (List.cons_ne_nil v [])
    rw [filterMap_middle_none rfl, filterMap_middle_some hhand rfl, filterMap_middle_none rfl,
      hans, hcached, hcach] at horder
    simp only [intrNext, Option.toList_none, List.append_nil] at hp'
    subst hp'
    refine ⟨hsound, hdisp, hpair, fun hne => absurd hans hne, fun hne => absurd hhand hne, ?_⟩
    rw [hraised, valuesInOrder]
    simp only [hhand, hcach, hcached, hans, deliveredValues_append, List.append_nil] at horder ⊢
    exact ((List.Sublist.refl _).append (deliveredValues_pending request v _)).trans horder
  | answering request v =>
    have hans := noUrb_values hothers
    have hhand : (l ++ r).filterMap IntrCall.handingValue = [] := by
      by_contra hne
      rw [filterMap_middle_none rfl, filterMap_middle_some hans rfl] at hhanding
      cases (hhanding hne).2
    rw [filterMap_middle_some hans rfl, filterMap_middle_none rfl, filterMap_middle_none rfl,
      hhand] at horder
    simp only [intrNext, Option.toList_none, List.append_nil] at hp'
    subst hp'
    refine ⟨hsound, hdisp, hpair, fun hne => absurd hans hne, fun hne => absurd hhand hne, ?_⟩
    rw [hraised, valuesInOrder]
    simp only [hhand, hans, deliveredValues_append, List.append_nil] at horder ⊢
    refine List.Sublist.trans ?_ horder
    exact (((List.Sublist.refl _).append (deliveredValues_pending request v _)).append
      (List.Sublist.refl _)).append (List.Sublist.refl _)
  | deferring request =>
    have hans := noUrb_values hothers
    rw [filterMap_middle_none rfl, filterMap_middle_none rfl, filterMap_middle_none rfl] at horder
    rw [filterMap_middle_none rfl, filterMap_middle_none rfl] at hhanding
    have hio : (ioDeferUrb (F := F) o.forward request p.shared.io).1.intrState =
        p.shared.io.intrState ∧
        deliveredValues (ioDeferUrb o.forward request p.shared.io).2 = ([] : List F) := by
      unfold ioDeferUrb
      split <;> exact ⟨rfl, rfl⟩
    simp only [intrNext, Option.toList_none, List.append_nil] at hp'
    subst hp'
    refine ⟨hsound, hdisp, hpair, fun hne => absurd hans hne, ?_, ?_⟩
    · intro hne
      rw [hio.1]
      exact hhanding hne
    · rw [hraised, valuesInOrder]
      simp only [hio.1, hio.2, deliveredValues_append, List.append_nil]
      exact horder

/-- The power callbacks and cancellations deliver nothing and only remove deferred URBs. -/
theorem IntrOrder.quiet (h : IntrOrder t p) {a : IntrStart β F}
    (ha : a = .slept ∨ a = .wokeUp ∨ ∃ i, a = .cancel i)
    (hstep : intrStep p (.start a) = some p') (hsound : (intrView.scene p').Sound)
    (hdisp : p'.shared.Dispatching) : IntrOrder (t ++ [.start a]) p' := by
  have hp' := Pool.step_start hstep
  have hframe : p'.calls = p.calls ∧ p'.shared.io.intrState = p.shared.io.intrState ∧
      deliveredValues p'.shared.effects = deliveredValues p.shared.effects ∧
      (p.shared.io.intrDeferredQueue.requests = [] →
        p'.shared.io.intrDeferredQueue.requests = []) ∧
      raisedValues (t ++ [.start a]) = raisedValues t := by
    rcases ha with rfl | rfl | ⟨i, rfl⟩
    · subst hp'
      refine ⟨by simp [intrBegin], rfl, ?_, fun _ => rfl, by simp [raisedValues]⟩
      simp only [intrBegin, ioDeviceSlept, wdfIoQueuePurge, deliveredValues_append]
      rw [deliveredValues_canceled, List.append_nil]
    · subst hp'
      exact ⟨by simp [intrBegin], rfl, rfl, fun h => h, by simp [raisedValues]⟩
    · cases hc : p.shared.io.intrDeferredQueue.cancel i with
      | none =>
        simp only [intrBegin, hc, Option.toList_none, List.append_nil] at hp'
        subst hp'
        exact ⟨rfl, rfl, rfl, fun h => h, by simp [raisedValues]⟩
      | some x =>
        obtain ⟨r, q⟩ := x
        obtain ⟨l, m, hlm, -, rfl⟩ := WdfQueue.cancel_eq_some.1 hc
        simp only [intrBegin, hc, Option.toList_none, List.append_nil] at hp'
        subst hp'
        refine ⟨rfl, rfl, ?_, fun h => absurd h (by simp [hlm]), by simp [raisedValues]⟩
        rw [deliveredValues_append, WdfQueue.canceled, deliveredValues_completeRequest,
          List.append_nil]
  obtain ⟨hcalls, hstate, hdelivered, hdeferred, hraised⟩ := hframe
  refine ⟨hsound, hdisp, hcalls ▸ h.oneEach, ?_, ?_, ?_⟩
  · rw [hcalls]
    exact fun hne => hdeferred (h.answering hne)
  · rw [hcalls, hstate]
    exact h.handing
  · rw [hraised, valuesInOrder, hcalls, hstate, hdelivered]
    exact h.order

/-- **One step** keeps the order invariant. -/
theorem IntrOrder.step (h : IntrOrder t p) {e : Pool.Event (IntrStart β F) Outcomes}
    (hone : OneAtATime p e) (hno : NoIntrOverlap p e) (hstep : intrStep p e = some p') :
    IntrOrder (t ++ [e]) p' := by
  have hsound : (intrView.scene p').Sound :=
    View.sound_step intrView_implements h.sound (exclusive_iff_noIntrOverlap.2 hno) hstep
  have hdisp : p'.shared.Dispatching := by
    cases e with
    | start a =>
      rw [Pool.step_start hstep]
      exact h.dispatching.begin a
    | resume i o =>
      obtain ⟨l, c, r, -, rfl⟩ := Pool.step_resume hstep
      exact h.dispatching.next c o
  cases e with
  | resume i o => exact h.resume hstep hsound hdisp
  | start a =>
    cases a with
    | raise v => exact h.raise hone hstep hsound hdisp
    | urb code request => exact h.urb hone hstep hsound hdisp
    | slept => exact h.quiet (Or.inl rfl) hstep hsound hdisp
    | wokeUp => exact h.quiet (Or.inr (Or.inl rfl)) hstep hsound hdisp
    | cancel i => exact h.quiet (Or.inr (Or.inr ⟨i, rfl⟩)) hstep hsound hdisp

theorem intrOrder_init : IntrOrder (β := β) (F := F) [] intrPoolInit :=
  ⟨intrPoolInit_sound, rfl, List.Pairwise.nil, fun h => absurd rfl h, fun h => absurd rfl h,
    List.Sublist.refl _⟩

/-- **Delivered values never go backwards**: with raises one at a time and interrupt URBs one at a
time, power callbacks and cancellations at any time, if no raise and URB pass each other then the
delivered values are a subsequence of the raised ones. -/
theorem delivered_sublist (hrun : run intrStep intrPoolInit t = some p)
    (hone : Along OneAtATime intrStep intrPoolInit t)
    (hno : Along NoIntrOverlap intrStep intrPoolInit t) :
    (deliveredValues p.shared.effects).Sublist (raisedValues t) := by
  have h : IntrOrder t p := run_invariant_along
    (C := fun p e => OneAtATime p e ∧ NoIntrOverlap p e) (P := IntrOrder) intrOrder_init
    (fun _ _ _ _ _ h hC hstep => h.step hC.1 hC.2 hstep) hrun (hone.and hno)
  refine List.Sublist.trans ?_ h.order
  simp only [valuesInOrder, List.append_assoc]
  exact List.sublist_append_left _ _

end

/-- Three raises: the first one is cached and answered, the second and the third one are handed
to deferred URBs. -/
def threeRaises : List (Pool.Event (IntrStart UInt8 ULONG) Outcomes) :=
  let urb (i : Nat) := Pool.Event.start (.urb ioctlInternalUsbSubmitUrb (fourByteUrb i))
  [.start (.raise 1), .resume 0 outcomesOk, urb 0, .resume 0 outcomesOk, urb 1,
    .resume 0 outcomesOk, .start (.raise 2), urb 2, .resume 0 outcomesOk, .resume 0 outcomesOk,
    .start (.raise 3), .resume 0 outcomesOk]

theorem threeRaises_delivered : ∃ p, run intrStep intrPoolInit threeRaises = some p ∧
    deliveredValues p.shared.effects = [1, 2, 3] ∧
    (deliveredValues p.shared.effects).Sublist (raisedValues threeRaises) :=
  ⟨_, rfl, rfl, delivered_sublist (t := threeRaises) rfl (by decide) (by decide)⟩

/-- A raise and a URB pass each other, and the next raise takes the deferred URB. -/
def passingRaises : List (Pool.Event (IntrStart UInt8 ULONG) Outcomes) :=
  passingRaise ++ [.start (.raise 2), .resume 0 outcomesOk,
    .start (.urb ioctlInternalUsbSubmitUrb (fourByteUrb 1)), .resume 0 outcomesOk]

/-- The first raise is delivered after the second one. -/
theorem passingRaises_reordered :
    ∃ p, run intrStep intrPoolInit passingRaises = some p ∧
      Along OneAtATime intrStep intrPoolInit passingRaises ∧
      raisedValues passingRaises = [1, 2] ∧ deliveredValues p.shared.effects = [2, 1] ∧
      ¬ (deliveredValues p.shared.effects).Sublist (raisedValues passingRaises) :=
  ⟨_, rfl, by decide, rfl, rfl, by decide⟩

end UdeSample
