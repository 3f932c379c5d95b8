import UdeSample.System.Interrupts
import UdeSample.Lib.LatestValue
import Mathlib.Data.List.Forall2

/-!
# End-to-end freshness of interrupts

A raised value travels through the device cache, a completed URB and the host cache to the
requests of the applications. `Tracks` numbers the values in these places by the raises they come
from; the numbers are the pipeline of `Lib.LatestValue`. `freshness` is the law for every run: the
returned values never go back, and the newest raise was returned or is in exactly one place.

Two facts keep the places in order: the device caches nothing while a URB is deferred, and a
deferred or posted URB has room for the flags.
-/

namespace UdeSample

open Lib

variable {β F : Type}

/-- The raise with number `i` has value `v`. -/
def IsRaise (raises : List F) (i : Nat) (v : F) : Prop := raises[i]? = some v

/-- Values and the numbers of the raises they come from. -/
abbrev FromRaises (raises : List F) (indices : List Nat) (values : List F) : Prop :=
  List.Forall₂ (IsRaise raises) indices values

theorem FromRaises.raise {raises : List F} {indices : List Nat} {values : List F}
    (h : FromRaises raises indices values) (v : F) : FromRaises (raises ++ [v]) indices values := by
  apply h.imp
  intro i w hi
  obtain ⟨hlt, -⟩ := List.getElem?_eq_some_iff.1 hi
  rw [IsRaise, List.getElem?_append_left hlt]
  exact hi

theorem fromRaises_last (raises : List F) (v : F) :
    FromRaises (raises ++ [v]) [raises.length] [v] :=
  .cons (by simp [IsRaise]) .nil

theorem FromRaises.append {raises : List F} {i₁ i₂ : List Nat} {v₁ v₂ : List F}
    (h₁ : FromRaises raises i₁ v₁) (h₂ : FromRaises raises i₂ v₂) :
    FromRaises raises (i₁ ++ i₂) (v₁ ++ v₂) :=
  List.rel_append h₁ h₂

theorem IsRaise.replicate {raises : List F} {i : Nat} {v : F} (h : IsRaise raises i v) (n : Nat) :
    FromRaises raises (List.replicate n i) (List.replicate n v) := by
  induction n with
  | zero => exact .nil
  | succ n ih => exact .cons h ih

/-! ## The invariant -/

/-- What the requests in the two queues and the completed URBs look like. -/
structure InterruptSystem.WellFormed (s : InterruptSystem β F) : Prop where
  deferred : ∀ r ∈ s.device.io.intrDeferredQueue.requests,
    r.buffer.length = sizeofDeviceIntrFlags
  waiting : ∀ r ∈ s.host.interruptMsgQueue.requests, sizeofDeviceIntrFlags ≤ r.buffer.length
  flying : ∀ c ∈ s.inFlight, c.delivered.isSome = true → c.information = sizeofDeviceIntrFlags
  /-- the device caches nothing while a URB is deferred -/
  apart : s.device.io.intrState.unread = [] ∨ s.device.io.intrDeferredQueue.requests = []
  deviceDispatching : s.device.io.intrDeferredQueue.dispatching = true
  hostDispatching : s.host.interruptMsgQueue.dispatching = true

/-- The numbers of the values in each place, and their order. -/
structure Tracks (raises : List F) (s : InterruptSystem β F)
    (returned host flying device : List Nat) : Prop where
  returned_of : FromRaises raises returned s.returned
  host_of : FromRaises raises host s.host.interruptStatus.unread
  flying_of : FromRaises raises flying s.flying
  device_of : FromRaises raises device s.device.io.intrState.unread
  order : LatestValue.Order raises.length returned (host ++ flying ++ device)

/-- The invariant of every run. -/
def Fresh (raises : List F) (s : InterruptSystem β F) : Prop :=
  s.WellFormed ∧ ∃ returned host flying device, Tracks raises s returned host flying device

/-! ## Device events -/

section

variable {raises : List F} {s s' : InterruptSystem β F}

@[simp] theorem InterruptSystem.flying_append (s : InterruptSystem β F) (device : DeviceState β F)
    (cs : List (Completion β F)) :
    ({ s with device, inFlight := s.inFlight ++ cs } : InterruptSystem β F).flying =
      s.flying ++ cs.filterMap Completion.delivered :=
  List.filterMap_append

/-- A device event that cancels or fails URBs at most, and leaves the cache alone. -/
theorem Fresh.deviceQuiet (h : Fresh raises s) {device : DeviceState β F}
    {cs : List (Completion β F)}
    (hunread : device.io.intrState.unread = s.device.io.intrState.unread)
    (hcs : ∀ c ∈ cs, c.delivered = none)
    (hrequests : ∀ r ∈ device.io.intrDeferredQueue.requests,
      r ∈ s.device.io.intrDeferredQueue.requests)
    (hdisp : device.io.intrDeferredQueue.dispatching = true) :
    Fresh raises { s with device, inFlight := s.inFlight ++ cs } := by
  obtain ⟨wf, returned, host, flying, dev, tr⟩ := h
  refine ⟨⟨fun r hr => wf.deferred r (hrequests r hr), wf.waiting, ?_, ?_, hdisp,
    wf.hostDispatching⟩, returned, host, flying, dev, tr.returned_of, tr.host_of, ?_,
    hunread ▸ tr.device_of, tr.order⟩
  · intro c hc hsome
    rcases List.mem_append.1 hc with hc | hc
    · exact wf.flying c hc hsome
    · rw [hcs c hc] at hsome
      cases hsome
  · rw [hunread]
    apply wf.apart.imp_right
    intro hnil
    apply List.eq_nil_iff_forall_not_mem.2
    intro r hr
    exact List.not_mem_nil (hnil ▸ hrequests r hr)
  · rw [InterruptSystem.flying_append, List.filterMap_eq_nil_iff.2 hcs, List.append_nil]
    exact tr.flying_of

/-- **A raise** goes to the first deferred URB, or into the cache in place of an older update. -/
theorem InterruptSystem.WellFormed.raise [Zero F] (wf : s.WellFormed)
    {returned host flying : List Nat} (hreturned : FromRaises raises returned s.returned)
    (hhost : FromRaises raises host s.host.interruptStatus.unread)
    (hflying : FromRaises raises flying s.flying)
    (horder : LatestValue.Order (raises.length + 1) returned
      (host ++ flying ++ [raises.length]))
    {v : F} {forward : ForwardOutcome} {io : IoContext β F} {fx : List (Effect β F)}
    (hraise : RaiseStep v (retrievable forward) s.device.io io fx) :
    Fresh (raises ++ [v])
      { s with device := { s.device with io }, inFlight := s.inFlight ++ completions fx } := by
  have hlen : (raises ++ [v]).length = raises.length + 1 := by simp
  cases hraise with
  | cached hread =>
    have hnil := (wdfIoQueueRetrieveNextRequest_eq_none wf.deviceDispatching).1 hread
    have hunread := DeviceIntrState.cache_unread (by decide) v s.device.io.intrState
    refine ⟨⟨wf.deferred, wf.waiting, fun c hc => wf.flying c (by simpa using hc), Or.inr hnil,
      wf.deviceDispatching, wf.hostDispatching⟩, returned, host, flying, [raises.length],
      hreturned.raise v, hhost.raise v, ?_, ?_, ?_⟩
    · rw [InterruptSystem.flying_append]
      simpa using hflying.raise v
    · exact hunread ▸ fromRaises_last raises v
    · rw [hlen]
      exact horder
  | @handed r rs hread =>
    -- the hand-over leaves the cache alone, so it must hold no update
    have hempty : s.device.io.intrState.unread = [] := by
      rcases wf.apart with hnil | hnil
      · exact hnil
      · rw [hnil] at hread
        cases hread
    obtain ⟨hdel, hinfo⟩ := ioCompletePendingRequest_delivered
      (wf.deferred r (by simp [hread])) v
    refine ⟨⟨fun q hq => wf.deferred q (by rw [hread]; exact List.mem_cons_of_mem r hq), wf.waiting,
      ?_, Or.inl hempty, wf.deviceDispatching, wf.hostDispatching⟩,
      returned, host, flying ++ [raises.length], [], hreturned.raise v, hhost.raise v, ?_,
      ?_, ?_⟩
    · intro c hc hsome
      rcases List.mem_append.1 hc with hc | hc
      · exact wf.flying c hc hsome
      · obtain rfl := List.mem_singleton.1 hc
        exact hinfo
    · rw [InterruptSystem.flying_append]
      refine (hflying.raise v).append ?_
      simpa [retrievable, hdel] using fromRaises_last raises v
    · show FromRaises _ [] s.device.io.intrState.unread
      rw [hempty]
      exact .nil
    · rw [hlen]
      simpa using horder

theorem Fresh.raise [Zero F] (h : Fresh raises s) {v : F} {forward : ForwardOutcome}
    {io : IoContext β F} {fx : List (Effect β F)}
    (hraise : RaiseStep v (retrievable forward) s.device.io io fx) :
    Fresh (raises ++ [v])
      { s with device := { s.device with io }, inFlight := s.inFlight ++ completions fx } := by
  obtain ⟨wf, returned, host, flying, dev, tr⟩ := h
  have hkept : (host ++ flying).Sublist (host ++ flying ++ dev) := List.sublist_append_left _ dev
  exact wf.raise tr.returned_of tr.host_of tr.flying_of (tr.order.produce hkept) hraise

/-- **A posted URB** takes the cached update, or is deferred or refused. -/
theorem Fresh.urb [Zero F] (h : Fresh raises s) {request : WdfRequest β}
    {forward : ForwardOutcome} {io : IoContext β F} {fx : List (Effect β F)}
    (hsize : request.buffer.length = sizeofDeviceIntrFlags)
    (hurb : UrbStep ioctlInternalUsbSubmitUrb request (retrievable forward) s.device.io io fx) :
    Fresh raises
      { s with device := { s.device with io }, inFlight := s.inFlight ++ completions fx } := by
  cases hurb with
  | dropped hcode => exact absurd rfl hcode
  | answered _ hcached =>
    obtain ⟨wf, returned, host, flying, dev, tr⟩ := h
    obtain ⟨hdel, hinfo⟩ :=
      ioCompletePendingRequest_delivered hsize s.device.io.intrState.latestStatus
    refine ⟨⟨wf.deferred, wf.waiting, ?_, Or.inl rfl, wf.deviceDispatching,
      wf.hostDispatching⟩, returned, host, flying ++ dev, [], tr.returned_of, tr.host_of, ?_, .nil,
      ?_⟩
    · intro c hc hsome
      rcases List.mem_append.1 hc with hc | hc
      · exact wf.flying c hc hsome
      · obtain rfl := List.mem_singleton.1 hc
        exact hinfo
    · rw [InterruptSystem.flying_append]
      refine tr.flying_of.append ?_
      have hof := tr.device_of
      rw [DeviceIntrState.unread_of_pos hcached] at hof
      simpa [retrievable, hdel] using hof
    · simpa using tr.order
  | deferred _ hcached hfwd =>
    have hempty := DeviceIntrState.unread_eq_nil.2 hcached
    obtain ⟨wf, returned, host, flying, dev, tr⟩ := h
    refine ⟨⟨?_, wf.waiting, fun c hc => wf.flying c (by simpa using hc), Or.inl rfl,
      wf.deviceDispatching, wf.hostDispatching⟩, returned, host, flying, dev, tr.returned_of,
      tr.host_of, ?_, ?_, tr.order⟩
    · intro r hr
      rcases List.mem_append.1 hr with hr | hr
      · exact wf.deferred r hr
      · obtain rfl := List.mem_singleton.1 hr
        exact hsize
    · rw [InterruptSystem.flying_append]
      simpa using tr.flying_of
    · have hof := tr.device_of
      rw [hempty] at hof
      exact hof
  | refused _ hcached hfwd =>
    refine h.deviceQuiet ?_ (by simp) (fun _ hr => hr) h.1.deviceDispatching
    exact (DeviceIntrState.unread_eq_nil.2 hcached).symm

/-! ## Host events -/

/-- A host event that returns no value and leaves the cache alone. -/
theorem Fresh.hostQuiet (h : Fresh raises s) {queue : WdfQueue β} {cs : List (Completion β F)}
    (hcs : ∀ c ∈ cs, c.delivered = none)
    (hrequests : ∀ r ∈ queue.requests, sizeofDeviceIntrFlags ≤ r.buffer.length)
    (hdisp : queue.dispatching = true) :
    Fresh raises { s with
      host := { s.host with interruptMsgQueue := queue }, answers := s.answers ++ cs } := by
  obtain ⟨wf, returned, host, flying, dev, tr⟩ := h
  refine ⟨⟨wf.deferred, hrequests, wf.flying, wf.apart, wf.deviceDispatching, hdisp⟩, returned,
    host, flying, dev, ?_, tr.host_of, tr.flying_of, tr.device_of, tr.order⟩
  rw [InterruptSystem.returned, List.filterMap_append, List.filterMap_eq_nil_iff.2 hcs,
    List.append_nil]
  exact tr.returned_of

/-- **A request** takes the cached update, or waits or is refused. -/
theorem Fresh.get [Zero F] (h : Fresh raises s) {request : WdfRequest β}
    {forward : ForwardOutcome} (hsize : sizeofDeviceIntrFlags ≤ request.buffer.length) :
    Fresh raises { s with
      host := (osrGetInterruptMessage request (.ok ()) forward s.host).1
      answers := s.answers ++ (osrGetInterruptMessage request (.ok ()) forward s.host).2 } := by
  by_cases hcached : 0 < s.host.interruptStatus.numUnreadUpdates
  · obtain ⟨wf, returned, host, flying, dev, tr⟩ := h
    have hof := tr.host_of
    rw [DeviceIntrState.unread_of_pos hcached] at hof
    obtain ⟨i, rest, hi, hrest, rfl⟩ := List.forall₂_cons_right_iff.1 hof
    obtain rfl := List.forall₂_nil_right_iff.1 hrest
    simp only [osrGetInterruptMessage, osrTakeUpdate, gt_iff_lt, hcached, if_true]
    refine ⟨⟨wf.deferred, wf.waiting, wf.flying, wf.apart, wf.deviceDispatching,
      wf.hostDispatching⟩, returned ++ [i], [], flying, dev, ?_, .nil, tr.flying_of, tr.device_of,
      ?_⟩
    · rw [InterruptSystem.returned, List.filterMap_append]
      refine tr.returned_of.append ?_
      have hdel := osrCompleteInterruptRequest_delivered hsize statusSuccess
        s.host.interruptStatus.latestStatus
      rw [if_pos (by decide)] at hdel
      simpa [hdel] using hi
    · exact tr.order.answer (by simp) (by simp)
  · simp only [osrGetInterruptMessage, osrTakeUpdate, gt_iff_lt, hcached, if_false,
      osrDeferRequest]
    cases hfwd : wdfRequestForwardToIoQueue request s.host.interruptMsgQueue forward with
    | error e => exact h.hostQuiet (by simp) h.1.waiting h.1.hostDispatching
    | ok q =>
      obtain ⟨-, -, rfl⟩ := wdfRequestForwardToIoQueue_eq_ok.1 hfwd
      refine h.hostQuiet (by simp) ?_ h.1.hostDispatching
      intro r hr
      rcases List.mem_append.1 hr with hr | hr
      · exact h.1.waiting r hr
      · obtain rfl := List.mem_singleton.1 hr
        exact hsize

/-- Waiting requests with room are all given the value of a successful read. -/
theorem answers_delivered {rs : List (WdfRequest β)} (readerStatus : NTSTATUS) (v : F)
    (hrs : ∀ r ∈ rs, sizeofDeviceIntrFlags ≤ r.buffer.length) :
    (rs.map fun r => osrCompleteInterruptRequest r readerStatus v (.ok ())).filterMap
      Completion.delivered = if ntSuccess readerStatus then List.replicate rs.length v else [] := by
  induction rs with
  | nil => split <;> rfl
  | cons r rs ih =>
    have hdel := osrCompleteInterruptRequest_delivered (hrs r List.mem_cons_self) readerStatus v
    rw [List.map_cons, List.filterMap_cons, hdel,
      ih fun q hq => hrs q (List.mem_cons_of_mem r hq)]
    cases ntSuccess readerStatus <;> rfl

/-- **A successful read** is given to all waiting requests, or cached in place of an older one. -/
theorem Fresh.deliver [Zero F] (h : Fresh raises s) {c : Completion β F}
    {cs : List (Completion β F)} {v : F} (hcs : s.inFlight = c :: cs)
    (hv : c.delivered = some v) :
    Fresh raises { s with
      inFlight := cs
      host := (osrFxEvtUsbInterruptPipeReadComplete c.information v (fun _ => .ok ()) s.host).1
      answers := s.answers ++ (osrFxEvtUsbInterruptPipeReadComplete c.information v
        (fun _ => .ok ()) s.host).2 } := by
  obtain ⟨wf, returned, host, flying, dev, tr⟩ := h
  have hinfo : c.information ≠ 0 := by
    rw [wf.flying c (by simp [hcs]) (by simp [hv])]
    decide
  have hof := tr.flying_of
  rw [InterruptSystem.flying, hcs, List.filterMap_cons_some hv] at hof
  obtain ⟨i, flying, hi, hrest, rfl⟩ := List.forall₂_cons_right_iff.1 hof
  have hflying : ∀ d ∈ cs, d.delivered.isSome = true → d.information = sizeofDeviceIntrFlags :=
    fun d hd => wf.flying d (by rw [hcs]; exact List.mem_cons_of_mem c hd)
  have happended : LatestValue.Order raises.length returned (host ++ i :: (flying ++ dev)) := by
    simpa using tr.order
  have horder : LatestValue.Order raises.length returned (i :: (flying ++ dev)) :=
    happended.supersede
  simp only [osrFxEvtUsbInterruptPipeReadComplete, hinfo, if_false]
  -- either way the value of the host cache is superseded, returned or not
  by_cases hnil : s.host.interruptMsgQueue.requests = []
  · rw [osrUsbIoctlGetInterruptMessage_idle hnil]
    refine ⟨⟨wf.deferred, wf.waiting, hflying, wf.apart, wf.deviceDispatching,
      wf.hostDispatching⟩, returned, [i], flying, dev, ?_, ?_, hrest, tr.device_of, horder⟩
    · simpa [InterruptSystem.returned] using tr.returned_of
    · have hunread : (osrUpdateStatus false statusSuccess v s.host.interruptStatus).unread = [v] :=
        DeviceIntrState.cache_unread (by decide) v _
      rw [hunread]
      exact .cons hi .nil
  · rw [osrUsbIoctlGetInterruptMessage_waiting wf.hostDispatching hnil]
    refine ⟨⟨wf.deferred, fun r hr => (by cases hr), hflying, wf.apart, wf.deviceDispatching,
      wf.hostDispatching⟩,
      returned ++ List.replicate s.host.interruptMsgQueue.requests.length i, [], flying, dev, ?_,
      .nil, hrest, tr.device_of, ?_⟩
    · rw [InterruptSystem.returned, List.filterMap_append, answers_delivered _ v wf.waiting,
        if_pos (by decide)]
      exact tr.returned_of.append (hi.replicate _)
    · refine horder.answer (fun j hj => List.eq_of_mem_replicate hj) fun hrep => hnil ?_
      simpa using hrep

/-- **A canceled read** is told to all waiting requests and leaves the cache alone. -/
theorem Fresh.deliverCanceled [Zero F] (h : Fresh raises s) {c : Completion β F}
    {cs : List (Completion β F)} (hcs : s.inFlight = c :: cs) (hv : c.delivered = none) :
    Fresh raises { s with
      inFlight := cs
      host := (osrFxEvtUsbInterruptReadersFailed statusCancelled (fun _ => .ok ()) s.host).1
      answers := s.answers ++ (osrFxEvtUsbInterruptReadersFailed statusCancelled
        (fun _ => .ok ()) s.host).2 } := by
  have hrest : Fresh raises { s with inFlight := cs } := by
    obtain ⟨wf, returned, host, flying, dev, tr⟩ := h
    refine ⟨⟨wf.deferred, wf.waiting, fun d hd => wf.flying d (by simp [hcs, hd]), wf.apart,
      wf.deviceDispatching, wf.hostDispatching⟩, returned, host, flying, dev, tr.returned_of,
      tr.host_of, ?_, tr.device_of, tr.order⟩
    have hof := tr.flying_of
    rw [InterruptSystem.flying, hcs, List.filterMap_cons_none hv] at hof
    exact hof
  have hstatus : ∀ waiter, osrUpdateStatus waiter statusCancelled (0 : F) s.host.interruptStatus =
      s.host.interruptStatus := fun _ => rfl
  unfold osrFxEvtUsbInterruptReadersFailed
  by_cases hnil : s.host.interruptMsgQueue.requests = []
  · rw [osrUsbIoctlGetInterruptMessage_idle hnil, hstatus]
    have hnone : ∀ c ∈ ([] : List (Completion β F)), c.delivered = none := by simp
    exact hrest.hostQuiet hnone h.1.waiting h.1.hostDispatching
  · rw [osrUsbIoctlGetInterruptMessage_waiting h.1.hostDispatching hnil, hstatus]
    refine hrest.hostQuiet ?_ (fun r hr => by cases hr) h.1.hostDispatching
    intro d hd
    have hnone := answers_delivered statusCancelled (0 : F) h.1.waiting
    rw [if_neg (by decide)] at hnone
    exact List.filterMap_eq_nil_iff.1 hnone d hd

end

/-! ## Runs -/

/-- An event that raises nothing. -/
theorem Fresh.quiet {raises : List F} {s : InterruptSystem β F} (h : Fresh raises s) :
    Fresh (raises ++ []) s :=
  (List.append_nil raises).symm ▸ h

theorem Fresh.step [Zero F] {raises : List F} {s s' : InterruptSystem β F} {e : SystemEvent β F}
    (h : Fresh raises s) (hstep : systemStep s e = some s') :
    Fresh (raises ++ systemRaises [e]) s' := by
  cases e with
  | raise v =>
    obtain rfl := Option.some.inj hstep
    exact h.raise (ioRaiseInterrupt_step v _ s.device.io)
  | postUrb request forward =>
    obtain ⟨hurb, hevent⟩ := systemStep_postUrb_eq_some.1 hstep
    obtain ⟨device, fx, hdev, rfl⟩ := InterruptSystem.deviceEvent_eq_some.1 hevent
    simp only [deviceStep, hurb.1, Option.some.injEq, Prod.mk.injEq] at hdev
    obtain ⟨rfl, rfl⟩ := hdev
    exact (h.urb hurb.2 (ioEvtInterruptInUrb_step _ request _ s.device.io)).quiet
  | cancelUrb i =>
    obtain ⟨device, fx, hdev, rfl⟩ := InterruptSystem.deviceEvent_eq_some.1 hstep
    cases deviceStep_effect hdev with
    | @cancel _ request l m hqueue =>
      refine Fresh.quiet (h.deviceQuiet rfl ?_ ?_ h.1.deviceDispatching)
      · simp
      · intro r hr
        rw [show s.device.io.intrDeferredQueue.requests = l ++ request :: m from hqueue]
        exact List.mem_append.2 ((List.mem_append.1 hr).imp_right (List.mem_cons_of_mem _))
  | suspend =>
    obtain ⟨device, fx, hdev, rfl⟩ := InterruptSystem.deviceEvent_eq_some.1 hstep
    cases deviceStep_effect hdev with
    | linkPowerExit =>
      refine Fresh.quiet (h.deviceQuiet rfl ?_ (fun r hr => by cases hr) h.1.deviceDispatching)
      simp
  | resume =>
    obtain ⟨device, fx, hdev, rfl⟩ := InterruptSystem.deviceEvent_eq_some.1 hstep
    cases deviceStep_effect hdev with
    | linkPowerEntry =>
      refine Fresh.quiet (h.deviceQuiet rfl ?_ (fun _ hr => hr) h.1.deviceDispatching)
      simp
  | deliver =>
    obtain ⟨c, inFlight, hcs, handled, rfl, ⟨v, hv, rfl⟩ | ⟨hv, -, rfl⟩⟩ :=
      systemStep_deliver_eq_some.1 hstep
    · exact (h.deliver hcs hv).quiet
    · exact (h.deliverCanceled hcs hv).quiet
  | get request forward =>
    obtain ⟨hsize, rfl⟩ := systemStep_get_eq_some.1 hstep
    exact (h.get hsize).quiet
  | cancelGet i =>
    obtain ⟨⟨request, q⟩, hcancel, rfl⟩ := Option.map_eq_some_iff.1 hstep
    obtain ⟨l, m, hlm, rfl, rfl⟩ := WdfQueue.cancel_eq_some.1 hcancel
    refine Fresh.quiet (h.hostQuiet ?_ (fun r hr => h.1.waiting r ?_) h.1.hostDispatching)
    · simp
    · rw [hlm]
      exact List.mem_append.2 ((List.mem_append.1 hr).imp_right (List.mem_cons_of_mem _))

theorem Fresh.steps [Zero F] {raises : List F} {s s' : InterruptSystem β F}
    {t : List (SystemEvent β F)} (h : Fresh raises s) (hrun : run systemStep s t = some s') :
    Fresh (raises ++ systemRaises t) s' := by
  refine run_invariant (P := fun t s => Fresh (raises ++ systemRaises t) s) h.quiet ?_ hrun
  intro t s e s' _ hfresh hstep
  rw [systemRaises_concat, ← List.append_assoc]
  exact hfresh.step hstep

theorem interruptSystemInit_fresh [Zero F] : Fresh [] (interruptSystemInit : InterruptSystem β F) :=
  ⟨⟨fun _ hr => (by cases hr), fun _ hr => (by cases hr), fun _ hc => (by cases hc), Or.inl rfl,
    rfl, rfl⟩, [], [], [], [], .nil, .nil, .nil, .nil, LatestValue.Order.empty⟩

/-- **Freshness**: the values returned to the applications come from raises that never go back, and
the newest raise was returned or is in exactly one of the host cache, the URBs on their way and the
device cache. -/
theorem freshness [Zero F] {t : List (SystemEvent β F)} {s : InterruptSystem β F}
    (hrun : systemRun t = some s) :
    ∃ returned host flying device : List Nat,
      FromRaises (systemRaises t) returned s.returned ∧
      FromRaises (systemRaises t) host s.host.interruptStatus.unread ∧
      FromRaises (systemRaises t) flying s.flying ∧
      FromRaises (systemRaises t) device s.device.io.intrState.unread ∧
      returned.Pairwise (· ≤ ·) ∧
      ∀ newest, (systemRaises t).length = newest + 1 →
        (newest ∈ returned ∧ (host ++ flying ++ device).count newest = 0) ∨
          (newest ∉ returned ∧ (host ++ flying ++ device).count newest = 1) := by
  obtain ⟨-, returned, host, flying, device, tr⟩ := interruptSystemInit_fresh.steps hrun
  refine ⟨returned, host, flying, device, tr.returned_of, tr.host_of, tr.flying_of, tr.device_of,
    tr.order.returned_le, ?_⟩
  intro newest hnewest
  exact LatestValue.Order.newest_once (hnewest ▸ tr.order)

/-- Two raises on both paths through the device, with a suspend between them: one application gets
the first value, and the second waits in the host cache. -/
theorem twoRaises_fresh :
    let urb (id : Nat) : WdfRequest UInt8 := ⟨id, .interruptIn, [0, 0, 0, 0]⟩
    let accepts : ForwardOutcome := ⟨false, ⟨statusCancelled, statusCancelled_failed⟩⟩
    let t : List (SystemEvent UInt8 Nat) :=
      [.postUrb (urb 0) accepts, .get ⟨1, .ioctl, [0, 0, 0, 0, 0]⟩ accepts, .raise 7, .deliver,
        .postUrb (urb 2) accepts, .suspend, .deliver, .resume, .raise 8,
        .postUrb (urb 3) accepts, .deliver]
    ∃ s, systemRun t = some s ∧ s.returned = [7] ∧ s.host.interruptStatus.unread = [8] ∧
      ∃ returned host flying device : List Nat,
        FromRaises (systemRaises t) returned s.returned ∧
        FromRaises (systemRaises t) host s.host.interruptStatus.unread ∧
        FromRaises (systemRaises t) flying s.flying ∧
        FromRaises (systemRaises t) device s.device.io.intrState.unread ∧
        returned.Pairwise (· ≤ ·) ∧
        ∀ newest, (systemRaises t).length = newest + 1 →
          (newest ∈ returned ∧ (host ++ flying ++ device).count newest = 0) ∨
            (newest ∉ returned ∧ (host ++ flying ++ device).count newest = 1) :=
  ⟨_, rfl, rfl, rfl, freshness rfl⟩

end UdeSample
