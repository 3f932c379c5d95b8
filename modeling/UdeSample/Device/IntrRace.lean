import UdeSample.Device.USBCom
import UdeSample.Lib.CheckThenAct

/-!
# Concurrent raises and interrupt URBs

Each call on `IntrDeferredQueue` and each section holding `IntrState.sync` is one atomic step, and
so is the completion of a URB; raises, interrupt URBs, power callbacks and cancellations interleave
in any order and number.

A raise looks for a deferred URB and, finding none, caches its update in a later step; an interrupt
URB looks for a cached update and, finding none, is deferred in a later step. `noIntrOverlap_iff`
says exactly when the two pass each other and leave an update cached while a URB is deferred.
-/

namespace UdeSample

open Lib

variable {β F : Type}

/-- The interrupt state of the device and the effects so far. -/
structure IntrDevice (β F : Type) where
  io : IoContext β F
  effects : List (Effect β F)

/-- A call between two of its sections. -/
inductive IntrCall (β F : Type) where
  /-- a raise that found no URB -/
  | caching (latestStatus : F)
  /-- a raise that took a URB -/
  | handing (request : WdfRequest β) (latestStatus : F)
  /-- an interrupt URB that took a cached update -/
  | answering (request : WdfRequest β) (latestStatus : F)
  /-- an interrupt URB that found no cached update -/
  | deferring (request : WdfRequest β)

inductive IntrStart (β F : Type) where
  | raise (latestStatus : F)
  | urb (ioControlCode : ULONG) (request : WdfRequest β)
  | slept
  | wokeUp
  | cancel (i : Nat)

def intrBegin [Zero F] (s : IntrDevice β F) :
    IntrStart β F → IntrDevice β F × Option (IntrCall β F)
  | .raise latestStatus =>
    match ioTakeDeferred s.io with
    | none => (s, some (.caching latestStatus))
    | some (request, io) => ({ s with io }, some (.handing request latestStatus))
  | .urb ioControlCode request =>
    if ioControlCode ≠ ioctlInternalUsbSubmitUrb then (s, none)
    else
      match ioTakeUpdate s.io with
      | (some latestStatus, io) => ({ s with io }, some (.answering request latestStatus))
      | (none, io) => ({ s with io }, some (.deferring request))
  | .slept =>
    let (io, effects) := ioDeviceSlept s.io
    ({ io, effects := s.effects ++ effects }, none)
  | .wokeUp => ({ s with io := ioDeviceWokeUp s.io }, none)
  | .cancel i =>
    match s.io.intrDeferredQueue.cancel i with
    | none => (s, none)
    | some (request, q) =>
      ({ io := { s.io with intrDeferredQueue := q }
         effects := s.effects ++ [.complete (q.canceled request)] }, none)

def intrNext (s : IntrDevice β F) (call : IntrCall β F) (o : Outcomes) :
    IntrDevice β F × Option (IntrCall β F) :=
  match call with
  | .caching latestStatus =>
    ({ io := ioCacheUpdate latestStatus s.io, effects := s.effects ++ [.signalWake] }, none)
  | .handing request latestStatus =>
    ({ s with effects := s.effects ++
        [.complete (ioCompletePendingRequest request latestStatus o.retrieveParked)] }, none)
  | .answering request latestStatus =>
    ({ s with effects := s.effects ++
        [.complete (ioCompletePendingRequest request latestStatus o.retrieve)] }, none)
  | .deferring request =>
    let (io, effects) := ioDeferUrb o.forward request s.io
    ({ io, effects := s.effects ++ effects }, none)

def intrStep [Zero F] : Pool (IntrDevice β F) (IntrCall β F) →
    Pool.Event (IntrStart β F) Outcomes → Option (Pool (IntrDevice β F) (IntrCall β F)) :=
  Pool.step intrBegin intrNext

def intrPoolInit [Zero F] : Pool (IntrDevice β F) (IntrCall β F) :=
  ⟨{ io := ioContextCreated, effects := [] }, []⟩

/-- A whole call with no other step between its two sections. -/
def intrAlone [Zero F] (s : IntrDevice β F) (a : IntrStart β F) (o : Outcomes) : IntrDevice β F :=
  match intrBegin s a with
  | (s, none) => s
  | (s, some call) => (intrNext s call o).1

theorem intrAlone_raise [Zero F] (s : IntrDevice β F) (v : F) (o : Outcomes) :
    intrAlone s (.raise v) o =
      { io := (ioRaiseInterrupt v o s.io).2.1
        effects := s.effects ++ (ioRaiseInterrupt v o s.io).2.2 } := by
  unfold intrAlone intrBegin ioRaiseInterrupt
  cases ioTakeDeferred s.io <;> rfl

theorem intrAlone_urb [Zero F] (s : IntrDevice β F) (code : ULONG) (r : WdfRequest β)
    (o : Outcomes) : intrAlone s (.urb code r) o =
      { io := (ioEvtInterruptInUrb code r o s.io).1
        effects := s.effects ++ (ioEvtInterruptInUrb code r o s.io).2 } := by
  simp only [intrAlone, intrBegin, ioEvtInterruptInUrb]
  by_cases hcode : code = ioctlInternalUsbSubmitUrb
  · simp only [hcode, ne_eq, not_true_eq_false, if_false]
    rcases ioTakeUpdate s.io with ⟨_ | v, io⟩ <;> rfl
  · simp [hcode]

/-! ## The interrupt state as a rendezvous -/

/-- A cached update is the item, deferred URBs that can be retrieved are the waiters. -/
def intrView : View (IntrDevice β F) (IntrCall β F) where
  item s := decide (0 < s.io.intrState.numUnreadUpdates)
  waiter s := !s.io.intrDeferredQueue.requests.isEmpty && s.io.intrDeferredQueue.dispatching
  window
    | .caching _ => .putting
    | .deferring _ => .parking
    | .handing _ _ | .answering _ _ => .out

theorem intrView_waiter_false {s : IntrDevice β F} :
    intrView.waiter s = false ↔ ioTakeDeferred s.io = none := by
  obtain ⟨⟨⟨rs, acc, dis, api⟩, stopping, st⟩, fx⟩ := s
  cases rs <;> cases dis <;>
    simp [intrView, ioTakeDeferred, wdfIoQueueRetrieveNextRequest]

theorem ioTakeDeferred_eq_some {io io' : IoContext β F} {r : WdfRequest β} :
    ioTakeDeferred io = some (r, io') ↔ io.intrDeferredQueue.dispatching = true ∧
      ∃ rs, io.intrDeferredQueue.requests = r :: rs ∧
        io' = { io with intrDeferredQueue := { io.intrDeferredQueue with requests := rs } } := by
  unfold ioTakeDeferred
  rw [Option.map_eq_some_iff]
  constructor
  · rintro ⟨⟨r₁, q₁⟩, hret, heq⟩
    obtain ⟨rfl, rfl⟩ := Prod.mk.inj heq
    obtain ⟨hd, rs, hrs, rfl⟩ := wdfIoQueueRetrieveNextRequest_eq_some.1 hret
    exact ⟨hd, rs, hrs, rfl⟩
  · rintro ⟨hd, rs, hrs, rfl⟩
    exact ⟨_, wdfIoQueueRetrieveNextRequest_eq_some.2 ⟨hd, rs, hrs, rfl⟩, rfl⟩

theorem intrView_implements [Zero F] :
    (intrView (β := β) (F := F)).Implements intrBegin intrNext where
  start s a := by
    cases a with
    | raise v =>
      simp only [intrBegin]
      cases h : ioTakeDeferred s.io with
      | none =>
        have hw : intrView.waiter s = false := intrView_waiter_false.2 h
        simp only [hw]
        exact .seeNoWaiter
      | some x =>
        obtain ⟨r, io⟩ := x
        obtain ⟨hd, rs, hrs, rfl⟩ := ioTakeDeferred_eq_some.1 h
        exact .shrink id fun _ => by simp [intrView, hrs, hd]
    | urb code request =>
      simp only [intrBegin]
      by_cases hcode : code = ioctlInternalUsbSubmitUrb
      · by_cases hcached : 0 < s.io.intrState.numUnreadUpdates
        · simp only [hcode, ne_eq, not_true_eq_false, if_false, ioTakeUpdate, gt_iff_lt, hcached,
            if_true]
          exact .shrink (fun h => by simp [intrView] at h) id
        · simp only [hcode, ne_eq, not_true_eq_false, if_false, ioTakeUpdate, gt_iff_lt, hcached]
          have hi : intrView.item s = false := by simpa [intrView] using hcached
          rw [hi]
          exact .seeNoItem
      · simp only [ne_eq, hcode, not_false_eq_true, if_true]
        exact .shrink id id
    | slept =>
      refine .shrink id ?_
      intro hw
      simp [intrView, intrBegin, ioDeviceSlept, wdfIoQueuePurge] at hw
    | wokeUp => exact .shrink id id
    | cancel i =>
      simp only [intrBegin]
      cases h : s.io.intrDeferredQueue.cancel i with
      | none => exact .shrink id id
      | some x =>
        obtain ⟨r, q⟩ := x
        obtain ⟨l, m, hlm, -, rfl⟩ := WdfQueue.cancel_eq_some.1 h
        refine .shrink id ?_
        intro hw
        simp only [intrView, Bool.and_eq_true] at hw ⊢
        exact ⟨by simp [hlm], hw.2⟩
  resume s c o := by
    cases c with
    | caching v =>
      have hi : intrView.item (intrNext s (.caching v) o).1 = true := by
        simpa [intrView, intrNext, ioCacheUpdate] using s.io.intrState.cache_pos (by decide) v
      rw [hi]
      exact .put
    | handing | answering => exact .shrink id id
    | deferring request =>
      simp only [intrNext, ioDeferUrb]
      cases h : wdfRequestForwardToIoQueue request s.io.intrDeferredQueue o.forward with
      | error e => exact .shrink id id
      | ok q =>
        obtain ⟨-, -, rfl⟩ := wdfRequestForwardToIoQueue_eq_ok.1 h
        by_cases hd : s.io.intrDeferredQueue.dispatching = true
        · have hw : intrView.waiter { io := { s.io with intrDeferredQueue :=
              { s.io.intrDeferredQueue with
                requests := s.io.intrDeferredQueue.requests ++ [request] } }
                                      effects := s.effects ++ [] } = true := by
            simp [intrView, hd]
          simp only [hw]
          exact .park
        · exact .shrink id (fun hw => by simp [intrView, hd] at hw)
  closes s c o := by cases c <;> rfl

def IntrDevice.Dispatching (s : IntrDevice β F) : Prop :=
  s.io.intrDeferredQueue.dispatching = true

theorem IntrDevice.Dispatching.begin [Zero F] {s : IntrDevice β F} (h : s.Dispatching)
    (a : IntrStart β F) : (intrBegin s a).1.Dispatching := by
  cases a with
  | raise v =>
    simp only [intrBegin]
    cases ht : ioTakeDeferred s.io with
    | none => exact h
    | some x =>
      obtain ⟨r, io⟩ := x
      obtain ⟨hd, rs, -, rfl⟩ := ioTakeDeferred_eq_some.1 ht
      exact hd
  | urb code request =>
    simp only [intrBegin]
    split
    · exact h
    · by_cases hcached : 0 < s.io.intrState.numUnreadUpdates
      · simp only [ioTakeUpdate, gt_iff_lt, hcached, if_true]
        exact h
      · simp only [ioTakeUpdate, gt_iff_lt, hcached, if_false]
        exact h
  | slept | wokeUp => exact h
  | cancel i =>
    simp only [intrBegin]
    cases hc : s.io.intrDeferredQueue.cancel i with
    | none => exact h
    | some x =>
      obtain ⟨r, q⟩ := x
      obtain ⟨l, m, -, -, rfl⟩ := WdfQueue.cancel_eq_some.1 hc
      exact h

theorem IntrDevice.Dispatching.next {s : IntrDevice β F} (h : s.Dispatching) (c : IntrCall β F)
    (o : Outcomes) : (intrNext s c o).1.Dispatching := by
  cases c with
  | caching | handing | answering => exact h
  | deferring request =>
    simp only [intrNext, ioDeferUrb]
    cases hf : wdfRequestForwardToIoQueue request s.io.intrDeferredQueue o.forward with
    | error e => exact h
    | ok q =>
      obtain ⟨-, -, rfl⟩ := wdfRequestForwardToIoQueue_eq_ok.1 hf
      exact h

/-- The queue can be retrieved from and accepts URBs. -/
def IntrDevice.Open (s : IntrDevice β F) : Prop :=
  s.Dispatching ∧ s.io.intrDeferredQueue.accepting = true

/-- Calls in flight can always be let return; after a power entry the URBs among them are
deferred. -/
theorem intrView_completes [Zero F] : (intrView (β := β) (F := F)).Completes intrBegin intrNext
    (fun a => a = .wokeUp) IntrDevice.Dispatching IntrDevice.Open where
  quiet := by
    rintro s a rfl
    rfl
  keepBegin _ a h := h.begin a
  keepNext _ c o h := h.next c o
  finish s c := by
    cases c <;> exact ⟨_, .last outcomesOk rfl⟩
  prepare p h := by
    refine ⟨[.start .wokeUp], { p.shared with io := ioDeviceWokeUp p.shared.io }, ?_, ?_, h, rfl⟩
    · simp [Pool.Event.Quiet]
    · simp [Pool.step, intrBegin]
  park s c h hc := by
    cases c with
    | caching | handing | answering => cases hc
    | deferring request =>
      refine ⟨_, .last outcomesOk rfl, ?_⟩
      have hd : s.io.intrDeferredQueue.dispatching = true := h.1
      simp [intrView, wdfRequestForwardToIoQueue, h.2, hd, outcomesOk]
  put s c hc := by
    cases c with
    | deferring | handing | answering => cases hc
    | caching v =>
      refine ⟨_, .last outcomesOk rfl, ?_, fun h => h⟩
      simpa [intrView, ioCacheUpdate] using s.io.intrState.cache_pos (by decide) v

/-! ## When a wake-up is lost -/

/-- An unread update sits in the cache while a URB is deferred. -/
def IntrDevice.WakeUpLost (s : IntrDevice β F) : Prop :=
  s.io.intrDeferredQueue.requests ≠ [] ∧ s.io.intrState.numUnreadUpdates ≠ 0

def IntrCall.isCaching : IntrCall β F → Bool
  | .caching _ => true
  | .handing _ _ | .answering _ _ | .deferring _ => false

def IntrCall.isDeferring : IntrCall β F → Bool
  | .deferring _ => true
  | .caching _ | .handing _ _ | .answering _ _ => false

/-- No raise finds no deferred URB while a URB that found no update is about to be deferred, and no
URB finds no update while a raise that found no URB is about to cache its update. -/
def NoIntrOverlap (p : Pool (IntrDevice β F) (IntrCall β F)) :
    Pool.Event (IntrStart β F) Outcomes → Prop
  | .start (.raise _) => (ioTakeDeferred p.shared.io).isNone = true →
    ∀ c ∈ p.calls, c.isDeferring = false
  | .start (.urb code _) =>
    code = ioctlInternalUsbSubmitUrb ∧ p.shared.io.intrState.numUnreadUpdates = 0 →
      ∀ c ∈ p.calls, c.isCaching = false
  | .start .slept | .start .wokeUp | .start (.cancel _) | .resume _ _ => True

instance (p : Pool (IntrDevice β F) (IntrCall β F)) : ∀ e, Decidable (NoIntrOverlap p e)
  | .start (.raise _) => inferInstanceAs (Decidable (_ = true → ∀ c ∈ p.calls, _ = false))
  | .start (.urb _ _) => inferInstanceAs (Decidable (_ = _ ∧ _ = _ → ∀ c ∈ p.calls, _ = false))
  | .start .slept | .start .wokeUp | .start (.cancel _) | .resume _ _ => isTrue trivial

theorem deferring_notMem {calls : List (IntrCall β F)} :
    .parking ∉ calls.map intrView.window ↔ ∀ c ∈ calls, c.isDeferring = false :=
  View.notMem_windows fun c => by cases c <;> simp [intrView, IntrCall.isDeferring]

theorem caching_notMem {calls : List (IntrCall β F)} :
    .putting ∉ calls.map intrView.window ↔ ∀ c ∈ calls, c.isCaching = false :=
  View.notMem_windows fun c => by cases c <;> simp [intrView, IntrCall.isCaching]

theorem exclusive_iff_noIntrOverlap [Zero F] {p : Pool (IntrDevice β F) (IntrCall β F)}
    {e : Pool.Event (IntrStart β F) Outcomes} :
    intrView.Exclusive intrBegin p e ↔ NoIntrOverlap p e := by
  cases e with
  | resume i o => exact Iff.rfl
  | start a =>
    cases a with
    | raise v =>
      simp only [View.Exclusive, NoIntrOverlap, intrBegin, ← deferring_notMem]
      cases ioTakeDeferred p.shared.io <;> simp [View.windowOf, intrView]
    | urb code request =>
      simp only [View.Exclusive, NoIntrOverlap, intrBegin, ← caching_notMem]
      by_cases hcode : code = ioctlInternalUsbSubmitUrb
      · by_cases hcached : 0 < p.shared.io.intrState.numUnreadUpdates
        · simp [hcode, ioTakeUpdate, hcached, Nat.ne_of_gt hcached, View.windowOf, intrView]
        · have hzero := Nat.eq_zero_of_not_pos hcached
          simp [hcode, ioTakeUpdate, hzero, View.windowOf, intrView]
      · simp [hcode, View.windowOf]
    | slept | wokeUp => simp [View.Exclusive, NoIntrOverlap, intrBegin, View.windowOf]
    | cancel i =>
      simp only [View.Exclusive, NoIntrOverlap, intrBegin]
      cases p.shared.io.intrDeferredQueue.cancel i <;> simp [View.windowOf]

theorem intrPoolInit_sound [Zero F] :
    (intrView.scene (intrPoolInit (β := β) (F := F))).Sound :=
  View.sound_init rfl

/-- **Lost device wake-up**: in a run of raises, interrupt URBs, power callbacks and cancellations
of any number and interleaving, no state lets the calls in flight return, with power entries at
most, with an update cached and a URB deferred, if and only if no call of the run finds the other
side empty while a call of the other kind is between its two sections. -/
theorem noIntrOverlap_iff [Zero F] {t : List (Pool.Event (IntrStart β F) Outcomes)}
    {p : Pool (IntrDevice β F) (IntrCall β F)} (hrun : run intrStep intrPoolInit t = some p) :
    Along NoIntrOverlap intrStep intrPoolInit t ↔
      ∀ t₁ t₂ s, t₁ <+: t → (∀ e ∈ t₂, e.Quiet fun a => a = .wokeUp) →
        run intrStep intrPoolInit (t₁ ++ t₂) = some ⟨s, []⟩ → ¬ s.WakeUpLost := by
  refine View.exclusive_iff_congr intrView_implements intrView_completes intrPoolInit_sound rfl
    hrun (fun _ _ => exclusive_iff_noIntrOverlap) ?_
  intro s hdispatching
  have hd : s.io.intrDeferredQueue.dispatching = true := hdispatching
  simp [View.Stranded, IntrDevice.WakeUpLost, intrView, hd, Nat.pos_iff_ne_zero, and_comm]

def fourByteUrb (id : Nat) : WdfRequest UInt8 := ⟨id, .interruptIn, [0, 0, 0, 0]⟩

/-- A URB is deferred and answered by a raise, the next raise is cached. -/
def orderlyRaises : List (Pool.Event (IntrStart UInt8 ULONG) Outcomes) :=
  [.start (.urb ioctlInternalUsbSubmitUrb (fourByteUrb 0)), .resume 0 outcomesOk,
    .start (.raise 1), .resume 0 outcomesOk, .start (.raise 2), .resume 0 outcomesOk]

theorem orderlyRaises_wake : ∃ s, run intrStep intrPoolInit orderlyRaises = some ⟨s, []⟩ ∧
    s.io.intrState.numUnreadUpdates = 1 ∧ ¬ s.WakeUpLost :=
  ⟨_, rfl, rfl, (noIntrOverlap_iff (t := orderlyRaises) rfl).1 (by decide) orderlyRaises [] _
    (List.prefix_refl _) (by simp) rfl⟩

def passingRaise : List (Pool.Event (IntrStart UInt8 ULONG) Outcomes) :=
  [.start (.raise 1), .start (.urb ioctlInternalUsbSubmitUrb (fourByteUrb 0)),
    .resume 0 outcomesOk, .resume 0 outcomesOk]

/-- A raise and a URB can leave the update cached and the URB deferred, with no call in flight. -/
theorem passingRaise_lost :
    ∃ s, run intrStep intrPoolInit passingRaise = some ⟨s, []⟩ ∧ s.WakeUpLost :=
  ⟨_, rfl, by decide, by decide⟩

end UdeSample
