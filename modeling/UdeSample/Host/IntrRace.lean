import UdeSample.Host.Ioctl
import UdeSample.Lib.CheckThenAct

/-!
# Concurrent interrupt messages and reader callbacks

Each call on `InterruptMsgQueue` and each section holding `InterruptStatus.sync` is one atomic
step. The default queue dispatches in parallel and reader callbacks may run concurrently, so any
number of both is in flight.

A reader callback looks for a waiting request and, finding none, caches its update in a later step;
a request looks for a cached update and, finding none, starts to wait in a later step.
`noMessageOverlap_iff` says exactly when the two pass each other and leave an update cached while a
request waits.
-/

namespace UdeSample

open Lib

variable {β F : Type}

/-- A handler between two of its steps. -/
inductive MessageCall (β F : Type) where
  /-- a request that found no update -/
  | deferring (request : WdfRequest β)
  /-- a reader callback before its section holding the lock, with the request it took, if any -/
  | updating (waiter : Option (WdfRequest β)) (readerStatus : NTSTATUS) (newDeviceFlags : F)
  /-- a reader callback emptying the queue, with the request it took last -/
  | draining (request : WdfRequest β) (readerStatus : NTSTATUS) (newDeviceFlags : F)

/-- A handler that begins: a request, or `OsrUsbIoctlGetInterruptMessage` in a reader callback. -/
inductive MessageStart (β F : Type) where
  | get (request : WdfRequest β)
  | reader (readerStatus : NTSTATUS) (newDeviceFlags : F)

/-- The first step of a handler; a request that takes a cached update is completed without another
step on the queue or the cache. -/
def messageBegin [Zero F] (host : HostContext β F) :
    MessageStart β F → HostContext β F × Option (MessageCall β F)
  | .get request =>
    match osrTakeUpdate host with
    | (some _, host) => (host, none)
    | (none, host) => (host, some (.deferring request))
  | .reader readerStatus newDeviceFlags =>
    match osrTakeWaiter host with
    | none => (host, some (.updating none readerStatus newDeviceFlags))
    | some (request, host) => (host, some (.updating (some request) readerStatus newDeviceFlags))

def messageNext [Zero F] (host : HostContext β F) (call : MessageCall β F)
    (forward : ForwardOutcome) : HostContext β F × Option (MessageCall β F) :=
  match call with
  | .deferring request => ((osrDeferRequest (F := F) forward request host).1, none)
  | .updating waiter readerStatus newDeviceFlags =>
    ({ host with
        interruptStatus :=
          osrUpdateStatus waiter.isSome readerStatus newDeviceFlags host.interruptStatus },
      waiter.map fun request => .draining request readerStatus newDeviceFlags)
  | .draining _ readerStatus newDeviceFlags =>
    match osrTakeWaiter host with
    | none => (host, none)
    | some (request, host) => (host, some (.draining request readerStatus newDeviceFlags))

def messageStep [Zero F] : Pool (HostContext β F) (MessageCall β F) →
    Pool.Event (MessageStart β F) ForwardOutcome →
    Option (Pool (HostContext β F) (MessageCall β F)) :=
  Pool.step messageBegin messageNext

def messagePoolInit [Zero F] : Pool (HostContext β F) (MessageCall β F) := ⟨hostContextCreated, []⟩

/-! ## The message queue as a rendezvous -/

/-- A cached update is the item, waiting requests that can be retrieved are the waiters. -/
def messageView : View (HostContext β F) (MessageCall β F) where
  item host := decide (0 < host.interruptStatus.numUnreadUpdates)
  waiter host := !host.interruptMsgQueue.requests.isEmpty && host.interruptMsgQueue.dispatching
  window
    | .deferring _ => .parking
    | .updating none readerStatus _ => if ntSuccess readerStatus then .putting else .out
    | .updating (some _) _ _ | .draining _ _ _ => .out

theorem messageView_window_updating {readerStatus : NTSTATUS} {v : F} :
    messageView.window (.updating none readerStatus v : MessageCall β F) =
      if ntSuccess readerStatus then .putting else .out := rfl

theorem osrTakeWaiter_eq_some {host host' : HostContext β F} {r : WdfRequest β} :
    osrTakeWaiter host = some (r, host') ↔ host.interruptMsgQueue.dispatching = true ∧
      ∃ rs, host.interruptMsgQueue.requests = r :: rs ∧ host' = { host with
        interruptMsgQueue := { host.interruptMsgQueue with requests := rs } } := by
  unfold osrTakeWaiter
  rw [Option.map_eq_some_iff]
  constructor
  · rintro ⟨⟨r₁, q₁⟩, hret, heq⟩
    obtain ⟨rfl, rfl⟩ := Prod.mk.inj heq
    obtain ⟨hd, rs, hrs, rfl⟩ := wdfIoQueueRetrieveNextRequest_eq_some.1 hret
    exact ⟨hd, rs, hrs, rfl⟩
  · rintro ⟨hd, rs, hrs, rfl⟩
    exact ⟨_, wdfIoQueueRetrieveNextRequest_eq_some.2 ⟨hd, rs, hrs, rfl⟩, rfl⟩

theorem messageView_waiter_false {host : HostContext β F} :
    messageView.waiter host = false ↔ osrTakeWaiter host = none := by
  obtain ⟨⟨rs, acc, dis, api⟩, st⟩ := host
  cases rs <;> cases dis <;>
    simp [messageView, osrTakeWaiter, wdfIoQueueRetrieveNextRequest]

theorem messageView_takeWaiter {host host' : HostContext β F} {r : WdfRequest β}
    (h : osrTakeWaiter host = some (r, host')) :
    messageView.item host' = messageView.item host ∧ messageView.waiter host = true := by
  obtain ⟨hd, rs, hrs, rfl⟩ := osrTakeWaiter_eq_some.1 h
  exact ⟨rfl, by simp [messageView, hrs, hd]⟩

/-- Only a successful update that took no request puts something into an empty cache. -/
theorem osrUpdateStatus_pos [Zero F] {waiter : Bool} {readerStatus : NTSTATUS} {v : F}
    {s : DeviceIntrState maxCachedIntrUpdates F}
    (h : 0 < (osrUpdateStatus waiter readerStatus v s).numUnreadUpdates) :
    (ntSuccess readerStatus = true ∧ waiter = false) ∨ 0 < s.numUnreadUpdates := by
  unfold osrUpdateStatus at h
  cases hok : ntSuccess readerStatus with
  | true =>
    cases waiter with
    | false => exact Or.inl ⟨rfl, rfl⟩
    | true => simp [hok] at h
  | false =>
    refine Or.inr ?_
    simp only [hok, Bool.false_eq_true, if_false] at h
    split at h
    · cases h
    · exact h

theorem messageView_implements [Zero F] :
    (messageView (β := β) (F := F)).Implements messageBegin messageNext where
  start host a := by
    cases a with
    | get request =>
      by_cases hcached : 0 < host.interruptStatus.numUnreadUpdates
      · simp only [messageBegin, osrTakeUpdate, gt_iff_lt, hcached, if_true]
        exact .shrink (fun h => by simp [messageView] at h) id
      · simp only [messageBegin, osrTakeUpdate, gt_iff_lt, hcached, if_false]
        have hi : messageView.item host = false := by simpa [messageView] using hcached
        rw [hi]
        exact .seeNoItem
    | reader readerStatus v =>
      simp only [messageBegin]
      cases h : osrTakeWaiter host with
      | none =>
        have hw : messageView.waiter host = false := messageView_waiter_false.2 h
        simp only [hw, View.windowOf, messageView_window_updating]
        split
        · exact .seeNoWaiter
        · exact .shrink id id
      | some x =>
        obtain ⟨r, host'⟩ := x
        obtain ⟨hi, hw⟩ := messageView_takeWaiter h
        exact .shrink (fun h => hi ▸ h) fun _ => hw
  resume host c forward := by
    cases c with
    | deferring request =>
      simp only [messageNext, osrDeferRequest]
      cases h : wdfRequestForwardToIoQueue request host.interruptMsgQueue forward with
      | error e => exact .shrink id id
      | ok q =>
        obtain ⟨-, -, rfl⟩ := wdfRequestForwardToIoQueue_eq_ok.1 h
        by_cases hd : host.interruptMsgQueue.dispatching = true
        · have hw : messageView.waiter { host with interruptMsgQueue :=
              { host.interruptMsgQueue with
                requests := host.interruptMsgQueue.requests ++ [request] } } = true := by
            simp [messageView, hd]
          simp only [hw]
          exact .park
        · exact .shrink id (fun hw => by simp [messageView, hd] at hw)
    | updating waiter readerStatus v =>
      cases waiter with
      | none =>
        by_cases hok : ntSuccess readerStatus = true
        · have hi : messageView.item (messageNext host (.updating none readerStatus v)
              forward).1 = true := by
            simpa [messageView, messageNext, osrUpdateStatus, hok] using
              host.interruptStatus.cache_pos (by decide) v
          rw [hi, messageView_window_updating, if_pos hok]
          exact .put
        · refine .shrink ?_ id
          intro h
          rcases osrUpdateStatus_pos (of_decide_eq_true h) with hput | hpos
          · exact absurd hput.1 hok
          · exact decide_eq_true hpos
      | some request =>
        refine .shrink ?_ id
        intro h
        rcases osrUpdateStatus_pos (of_decide_eq_true h) with hput | hpos
        · cases hput.2
        · exact decide_eq_true hpos
    | draining request readerStatus v =>
      simp only [messageNext]
      cases h : osrTakeWaiter host with
      | none => exact .shrink id id
      | some x =>
        obtain ⟨r, host'⟩ := x
        obtain ⟨hi, hw⟩ := messageView_takeWaiter h
        exact .shrink (fun h => hi ▸ h) fun _ => hw
  closes host c forward := by
    cases c with
    | deferring => rfl
    | updating waiter => cases waiter <;> rfl
    | draining =>
      simp only [messageNext]
      cases osrTakeWaiter host <;> rfl

/-- The message queue can be retrieved from and accepts requests. -/
def HostContext.Open (host : HostContext β F) : Prop :=
  host.interruptMsgQueue.dispatching = true ∧ host.interruptMsgQueue.accepting = true

theorem HostContext.Open.takeWaiter {host host' : HostContext β F} {r : WdfRequest β}
    (h : host.Open) (ht : osrTakeWaiter host = some (r, host')) : host'.Open := by
  obtain ⟨-, rs, -, rfl⟩ := osrTakeWaiter_eq_some.1 ht
  exact h

theorem HostContext.Open.begin [Zero F] {host : HostContext β F} (h : host.Open)
    (a : MessageStart β F) : (messageBegin host a).1.Open := by
  cases a with
  | get request =>
    by_cases hcached : 0 < host.interruptStatus.numUnreadUpdates
    · simp only [messageBegin, osrTakeUpdate, gt_iff_lt, hcached, if_true]
      exact h
    · simp only [messageBegin, osrTakeUpdate, gt_iff_lt, hcached, if_false]
      exact h
  | reader readerStatus v =>
    simp only [messageBegin]
    cases ht : osrTakeWaiter host with
    | none => exact h
    | some x => exact h.takeWaiter ht

theorem HostContext.Open.next [Zero F] {host : HostContext β F} (h : host.Open)
    (c : MessageCall β F) (forward : ForwardOutcome) : (messageNext host c forward).1.Open := by
  cases c with
  | deferring request =>
    simp only [messageNext, osrDeferRequest]
    cases hf : wdfRequestForwardToIoQueue request host.interruptMsgQueue forward with
    | error e => exact h
    | ok q =>
      obtain ⟨-, -, rfl⟩ := wdfRequestForwardToIoQueue_eq_ok.1 hf
      exact h
  | updating => exact h
  | draining request readerStatus v =>
    simp only [messageNext]
    cases ht : osrTakeWaiter host with
    | none => exact h
    | some x => exact h.takeWaiter ht

def forwardOk : ForwardOutcome := ⟨false, ⟨statusCancelled, statusCancelled_failed⟩⟩

/-- The loop of a reader callback ends; it leaves the queue that `osrDrain` leaves. -/
theorem draining_finishes [Zero F] (complete : WdfRequest β → Completion β F)
    (host : HostContext β F) (request : WdfRequest β) (readerStatus : NTSTATUS) (v : F) :
    Pool.Finishes messageNext host (.draining request readerStatus v)
      { host with interruptMsgQueue := (osrDrain complete
          host.interruptMsgQueue.requests.length request host.interruptMsgQueue).1 } := by
  obtain ⟨⟨rs, acc, dis, api⟩, st⟩ := host
  induction rs generalizing request with
  | nil => exact .last forwardOk rfl
  | cons r rs ih =>
    cases dis with
    | false => exact .last forwardOk rfl
    | true => exact .more forwardOk rfl (ih r)

/-- With no other step in between, the sections of a request are `osrGetInterruptMessage`. -/
theorem messageAlone_get [Zero F] (host : HostContext β F) (request : WdfRequest β)
    (retrieve : NtResult Unit) (forward : ForwardOutcome) :
    (match messageBegin host (.get request) with
      | (host, none) => host
      | (host, some call) => (messageNext host call forward).1) =
      (osrGetInterruptMessage request retrieve forward host).1 := by
  simp only [messageBegin, osrGetInterruptMessage]
  rcases osrTakeUpdate host with ⟨_ | v, host'⟩ <;> rfl

/-- With no other step in between, those of a callback are `osrUsbIoctlGetInterruptMessage`. -/
theorem messageAlone_reader [Zero F] (host : HostContext β F) (readerStatus : NTSTATUS) (v : F)
    (retrieve : WdfRequest β → NtResult Unit) :
    ∃ host' call, messageBegin host (.reader readerStatus v) = (host', some call) ∧
      Pool.Finishes messageNext host' call
        (osrUsbIoctlGetInterruptMessage readerStatus v retrieve host).1 := by
  simp only [messageBegin, osrUsbIoctlGetInterruptMessage]
  cases osrTakeWaiter host with
  | none => exact ⟨_, _, rfl, .last forwardOk rfl⟩
  | some x => exact ⟨_, _, rfl, .more forwardOk rfl (draining_finishes _ _ x.1 readerStatus v)⟩

theorem messageView_completes [Zero F] : (messageView (β := β) (F := F)).Completes messageBegin
    messageNext (fun _ => False) HostContext.Open HostContext.Open where
  quiet := fun _ _ h => h.elim
  keepBegin _ a h := h.begin a
  keepNext _ c forward h := h.next c forward
  finish host c := by
    cases c with
    | deferring request => exact ⟨_, .last forwardOk rfl⟩
    | draining request readerStatus v =>
      exact ⟨_, draining_finishes (fun r => completeRequest .wdfRequest r readerStatus 0) host
        request readerStatus v⟩
    | updating waiter readerStatus v =>
      cases waiter with
      | none => exact ⟨_, .last forwardOk rfl⟩
      | some request =>
        exact ⟨_, .more forwardOk rfl (draining_finishes
          (fun r => completeRequest .wdfRequest r readerStatus 0) _ request readerStatus v)⟩
  prepare p h := ⟨[], p.shared, by simp, rfl, h⟩
  park host c h hc := by
    cases c with
    | draining => cases hc
    | updating waiter readerStatus v =>
      cases waiter with
      | some => cases hc
      | none =>
        rw [messageView_window_updating] at hc
        split at hc <;> cases hc
    | deferring request =>
      refine ⟨_, .last forwardOk rfl, ?_⟩
      simp [messageView, osrDeferRequest, wdfRequestForwardToIoQueue, h.1, h.2, forwardOk]
  put host c hc := by
    cases c with
    | draining | deferring => cases hc
    | updating waiter readerStatus v =>
      cases waiter with
      | some => cases hc
      | none =>
        have hok : ntSuccess readerStatus = true := by
          by_contra hno
          rw [messageView_window_updating, if_neg hno] at hc
          cases hc
        refine ⟨_, .last forwardOk rfl, ?_, fun h => h⟩
        simpa [messageView, osrUpdateStatus, hok] using
          host.interruptStatus.cache_pos (by decide) v

/-! ## When a wake-up is lost -/

/-- An unread update sits in the cache while a request waits. -/
def HostContext.WakeUpLost (host : HostContext β F) : Prop :=
  host.interruptMsgQueue.requests ≠ [] ∧ 0 < host.interruptStatus.numUnreadUpdates

def MessageCall.isDeferring : MessageCall β F → Bool
  | .deferring _ => true
  | .updating _ _ _ | .draining _ _ _ => false

/-- A reader callback that is about to cache its update. -/
def MessageCall.isCaching : MessageCall β F → Bool
  | .updating none readerStatus _ => ntSuccess readerStatus
  | .deferring _ | .updating (some _) _ _ | .draining _ _ _ => false

/-- No successful reader callback finds no waiting request while a request that found no update is
about to wait, and no request finds no update while a reader callback that found no request is
about to cache its update. -/
def NoMessageOverlap (p : Pool (HostContext β F) (MessageCall β F)) :
    Pool.Event (MessageStart β F) ForwardOutcome → Prop
  | .start (.reader readerStatus _) =>
    ntSuccess readerStatus = true ∧ (osrTakeWaiter p.shared).isNone = true →
      ∀ c ∈ p.calls, c.isDeferring = false
  | .start (.get _) =>
    p.shared.interruptStatus.numUnreadUpdates = 0 → ∀ c ∈ p.calls, c.isCaching = false
  | .resume _ _ => True

instance (p : Pool (HostContext β F) (MessageCall β F)) : ∀ e, Decidable (NoMessageOverlap p e)
  | .start (.reader _ _) =>
    inferInstanceAs (Decidable (_ = true ∧ _ = true → ∀ c ∈ p.calls, _ = false))
  | .start (.get _) => inferInstanceAs (Decidable (_ = 0 → ∀ c ∈ p.calls, _ = false))
  | .resume _ _ => isTrue trivial

theorem messageDeferring_notMem {calls : List (MessageCall β F)} :
    .parking ∉ calls.map messageView.window ↔ ∀ c ∈ calls, c.isDeferring = false := by
  apply View.notMem_windows
  intro c
  cases c with
  | deferring | draining => simp [messageView, MessageCall.isDeferring]
  | updating waiter =>
    cases waiter with
    | some => simp [messageView, MessageCall.isDeferring]
    | none =>
      rw [messageView_window_updating]
      split <;> simp [MessageCall.isDeferring]

theorem messageCaching_notMem {calls : List (MessageCall β F)} :
    .putting ∉ calls.map messageView.window ↔ ∀ c ∈ calls, c.isCaching = false := by
  apply View.notMem_windows
  intro c
  cases c with
  | deferring | draining => simp [messageView, MessageCall.isCaching]
  | updating waiter =>
    cases waiter with
    | some => simp [messageView, MessageCall.isCaching]
    | none =>
      rw [messageView_window_updating]
      split <;> simp_all [MessageCall.isCaching]

theorem exclusive_iff_noMessageOverlap [Zero F] {p : Pool (HostContext β F) (MessageCall β F)}
    {e : Pool.Event (MessageStart β F) ForwardOutcome} :
    messageView.Exclusive messageBegin p e ↔ NoMessageOverlap p e := by
  cases e with
  | resume i o => exact Iff.rfl
  | start a =>
    cases a with
    | get request =>
      simp only [View.Exclusive, NoMessageOverlap, messageBegin, ← messageCaching_notMem]
      by_cases hcached : 0 < p.shared.interruptStatus.numUnreadUpdates
      · simp [osrTakeUpdate, hcached, Nat.ne_of_gt hcached, View.windowOf]
      · have hzero := Nat.eq_zero_of_not_pos hcached
        simp [osrTakeUpdate, hzero, View.windowOf, messageView]
    | reader readerStatus v =>
      simp only [View.Exclusive, NoMessageOverlap, messageBegin, ← messageDeferring_notMem]
      cases osrTakeWaiter p.shared with
      | some x => simp [View.windowOf, messageView]
      | none =>
        simp only [View.windowOf, messageView_window_updating]
        cases ntSuccess readerStatus <;> simp

/-- **Lost host wake-up**: in a run of requests and reader callbacks of any status, number and
interleaving, no state lets the handlers in flight return with an update cached and a request
waiting, if and only if no handler of the run finds the other side empty while a handler of the
other kind is between its two steps. -/
theorem noMessageOverlap_iff [Zero F] {t : List (Pool.Event (MessageStart β F) ForwardOutcome)}
    {p : Pool (HostContext β F) (MessageCall β F)}
    (hrun : run messageStep messagePoolInit t = some p) :
    Along NoMessageOverlap messageStep messagePoolInit t ↔
      ∀ t₁ t₂ host, t₁ <+: t → (∀ e ∈ t₂, e.Quiet fun _ => False) →
        run messageStep messagePoolInit (t₁ ++ t₂) = some ⟨host, []⟩ → ¬ host.WakeUpLost := by
  apply View.exclusive_iff_congr messageView_implements messageView_completes
    (View.sound_init rfl) ⟨rfl, rfl⟩ hrun (fun _ _ => exclusive_iff_noMessageOverlap)
  intro host hopen
  simp [View.Stranded, HostContext.WakeUpLost, messageView, hopen.1, and_comm]

def getRequest (id : Nat) : WdfRequest UInt8 := ⟨id, .ioctl, [0, 0, 0, 0]⟩

/-- Two requests wait and are answered by one update, the next update is cached. -/
def orderlyMessages : List (Pool.Event (MessageStart UInt8 ULONG) ForwardOutcome) :=
  [.start (.get (getRequest 0)), .start (.get (getRequest 1)), .resume 1 forwardOk,
    .resume 0 forwardOk, .start (.reader statusSuccess 1), .resume 0 forwardOk,
    .resume 0 forwardOk, .resume 0 forwardOk, .start (.reader statusSuccess 2),
    .resume 0 forwardOk]

theorem orderlyMessages_wake :
    ∃ host, run messageStep messagePoolInit orderlyMessages = some ⟨host, []⟩ ∧
      host.interruptStatus.numUnreadUpdates = 1 ∧ ¬ host.WakeUpLost :=
  ⟨_, rfl, rfl, (noMessageOverlap_iff (t := orderlyMessages) rfl).1 (by decide) orderlyMessages []
    _ (List.prefix_refl _) (by simp) rfl⟩

def passingMessage : List (Pool.Event (MessageStart UInt8 ULONG) ForwardOutcome) :=
  [.start (.reader statusSuccess 1), .start (.get (getRequest 0)), .resume 0 forwardOk,
    .resume 0 forwardOk]

/-- An update and a request can leave the update cached and the request waiting, with no handler in
flight. -/
theorem passingMessage_lost :
    ∃ host, run messageStep messagePoolInit passingMessage = some ⟨host, []⟩ ∧ host.WakeUpLost :=
  ⟨_, rfl, by decide, by decide⟩

end UdeSample
