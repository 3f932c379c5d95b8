import UdeSample.System.Freshness

/-!
# What becomes of one raise

From any reachable state, a raise with no other raise after it: the readers are given updates that
were underway before, and from some time on the raised value only; when nothing is underway any more
they have been given it; and it can always be fetched (`ReturnsNext`). This covers the parked and
the cached path of the device, and those of the host driver, in any interleaving with URBs,
suspends, requests and cancellations.
-/

namespace UdeSample

open Lib

variable {β F : Type}

/-! ## Only the events matter, not the answers so far -/

theorem systemStep_answers [Zero F] {s s' : InterruptSystem β F} {e : SystemEvent β F}
    (hstep : systemStep s e = some s') (answers : List (Completion β F)) :
    ∃ more, s'.answers = s.answers ++ more ∧
      systemStep { s with answers } e = some { s' with answers := answers ++ more } := by
  have hdevice (d : DeviceEvent β F) (h : s.deviceEvent d = some s') :
      ∃ more, s'.answers = s.answers ++ more ∧
        ({ s with answers } : InterruptSystem β F).deviceEvent d =
          some { s' with answers := answers ++ more } := by
    obtain ⟨device, effects, hdev, rfl⟩ := InterruptSystem.deviceEvent_eq_some.1 h
    refine ⟨[], (List.append_nil _).symm, ?_⟩
    rw [List.append_nil]
    exact InterruptSystem.deviceEvent_eq_some.2 ⟨device, effects, hdev, rfl⟩
  cases e with
  | raise v => exact hdevice _ hstep
  | postUrb request forward =>
    obtain ⟨hurb, hevent⟩ := systemStep_postUrb_eq_some.1 hstep
    obtain ⟨more, hmore, hevent'⟩ := hdevice _ hevent
    exact ⟨more, hmore, systemStep_postUrb_eq_some.2 ⟨hurb, hevent'⟩⟩
  | cancelUrb i => exact hdevice _ hstep
  | suspend => exact hdevice _ hstep
  | resume => exact hdevice _ hstep
  | deliver =>
    obtain ⟨c, inFlight, hcs, handled, rfl, hhandled⟩ := systemStep_deliver_eq_some.1 hstep
    exact ⟨handled.2, rfl,
      systemStep_deliver_eq_some.2 ⟨c, inFlight, hcs, handled, rfl, hhandled⟩⟩
  | get request forward =>
    obtain ⟨hsize, rfl⟩ := systemStep_get_eq_some.1 hstep
    exact ⟨_, rfl, systemStep_get_eq_some.2 ⟨hsize, rfl⟩⟩
  | cancelGet i =>
    obtain ⟨⟨request, q⟩, hcancel, rfl⟩ := Option.map_eq_some_iff.1 hstep
    exact ⟨_, rfl, Option.map_eq_some_iff.2 ⟨(request, q), hcancel, rfl⟩⟩

theorem run_answers [Zero F] {s s' : InterruptSystem β F} {t : List (SystemEvent β F)}
    (hrun : run systemStep s t = some s') :
    ∃ more, s'.answers = s.answers ++ more ∧
      run systemStep { s with answers := [] } t = some { s' with answers := more } := by
  have hstep (x y : InterruptSystem β F) (e : SystemEvent β F) (x' : InterruptSystem β F)
      (hR : ∃ more, x.answers = s.answers ++ more ∧ y = { x with answers := more })
      (hx : systemStep x e = some x') : ∃ y', systemStep y e = some y' ∧
        ∃ more, x'.answers = s.answers ++ more ∧ y' = { x' with answers := more } := by
    obtain ⟨more, hmore, rfl⟩ := hR
    obtain ⟨next, hnext, hstep'⟩ := systemStep_answers hx more
    refine ⟨_, hstep', more ++ next, ?_, rfl⟩
    rw [hnext, hmore, List.append_assoc]
  obtain ⟨y, hy, more, hmore, rfl⟩ :=
    run_simulates hstep ⟨[], (List.append_nil _).symm, rfl⟩ hrun
  exact ⟨more, hmore, hy⟩

/-! ## Numbering the updates underway -/

/-- The updates that the device has given away and that no reader was given. -/
def InterruptSystem.underway (s : InterruptSystem β F) : List F :=
  s.host.interruptStatus.unread ++ s.flying

theorem fromRaises_range' (l₁ l l₂ : List F) :
    FromRaises (l₁ ++ l ++ l₂) (List.range' l₁.length l.length) l := by
  induction l generalizing l₁ with
  | nil => exact .nil
  | cons v l ih =>
    refine .cons (by simp [IsRaise]) ?_
    have hrest := ih (l₁ ++ [v])
    rw [List.append_assoc l₁] at hrest
    simpa using hrest

/-- The updates underway and the raised one, as if nothing had been raised or returned before. -/
theorem Fresh.restart [Zero F] {raises : List F} {s s₁ : InterruptSystem β F} {v : F}
    (h : Fresh raises s) (hraise : systemStep s (.raise v) = some s₁) :
    Fresh (s.underway ++ [v]) { s₁ with answers := [] } := by
  obtain rfl := Option.some.inj hraise
  let start : InterruptSystem β F := { s with answers := [] }
  have wf : start.WellFormed := ⟨h.1.deferred, h.1.waiting, h.1.flying, h.1.apart,
    h.1.deviceDispatching, h.1.hostDispatching⟩
  have hhost := fromRaises_range' [] s.host.interruptStatus.unread s.flying
  have hflying := fromRaises_range' s.host.interruptStatus.unread s.flying []
  rw [List.append_nil] at hflying
  refine wf.raise (s := start) .nil hhost hflying ?_ (ioRaiseInterrupt_step v _ s.device.io)
  have hrange (a b : Nat) :
      List.range' 0 a ++ List.range' a b ++ [a + b] = List.range (a + b + 1) := by
    have happend := List.range'_append_1 (s := 0) (m := a) (n := b)
    rw [Nat.zero_add] at happend
    rw [happend, ← List.range_eq_range', ← List.range_succ]
  rw [List.nil_append, List.length_append, List.length_nil, hrange]
  exact LatestValue.Order.range _

theorem FromRaises.mem {raises : List F} {indices : List Nat} {values : List F}
    (h : FromRaises raises indices values) {u : F} (hu : u ∈ values) :
    ∃ i ∈ indices, IsRaise raises i u := by
  induction h with
  | nil => exact absurd hu List.not_mem_nil
  | @cons i w _ _ hi _ ih =>
    rcases List.mem_cons.1 hu with rfl | hu
    · exact ⟨i, List.mem_cons_self, hi⟩
    · obtain ⟨j, hj, hju⟩ := ih hu
      exact ⟨j, List.mem_cons_of_mem i hj, hju⟩

/-- The numbers given out never go back, so the newest value is the last one. -/
theorem FromRaises.newest_last {older : List F} {v : F} {indices : List Nat} {values : List F}
    (h : FromRaises (older ++ [v]) indices values) (hle : indices.Pairwise (· ≤ ·))
    (hbound : ∀ i ∈ indices, i < older.length + 1) :
    ∃ before, values = before ++ List.replicate (indices.count older.length) v ∧
      ∀ u ∈ before, u ∈ older := by
  induction h with
  | nil => exact ⟨[], rfl, fun _ hu => absurd hu List.not_mem_nil⟩
  | @cons i u indices values hi hrest ih =>
    obtain ⟨before, hvalues, hbefore⟩ := ih (List.pairwise_cons.1 hle).2
      fun j hj => hbound j (List.mem_cons_of_mem i hj)
    by_cases hlt : i < older.length
    · refine ⟨u :: before, ?_, ?_⟩
      · rw [List.count_cons_of_ne (Nat.ne_of_lt hlt), hvalues, List.cons_append]
      · intro w hw
        rcases List.mem_cons.1 hw with rfl | hw
        · rw [IsRaise, List.getElem?_append_left hlt] at hi
          exact List.mem_of_getElem? hi
        · exact hbefore w hw
    · -- from here on every number is the last one
      have hlast : ∀ j ∈ i :: indices, j = older.length := by
        intro j hj
        have hij : i ≤ j := by
          rcases List.mem_cons.1 hj with rfl | hj
          · exact Nat.le_refl j
          · exact (List.pairwise_cons.1 hle).1 j hj
        have hj := hbound j hj
        omega
      have hcount : (i :: indices).count older.length = (i :: indices).length :=
        List.count_eq_length.2 fun j hj => (hlast j hj).symm
      refine ⟨[], ?_, fun _ hw => absurd hw List.not_mem_nil⟩
      rw [List.nil_append, hcount, List.eq_replicate_iff]
      refine ⟨by rw [List.length_cons, List.length_cons, hrest.length_eq], ?_⟩
      intro w hw
      obtain ⟨j, hj, hjw⟩ := FromRaises.mem (.cons hi hrest) hw
      rw [hlast j hj, IsRaise, List.getElem?_concat_length] at hjw
      exact (Option.some.inj hjw).symm

/-! ## Fetching what is underway -/

/-- The events that fetch an update: completed URBs reach the host driver, it posts `urb`, and an
application sends `request`. -/
def Fetches (urb request : WdfRequest β) : SystemEvent β F → Prop
  | .deliver => True
  | .postUrb r _ => r = urb
  | .get r _ => r = request
  | .raise _ | .cancelUrb _ | .suspend | .resume | .cancelGet _ => False

theorem systemRaises_of_fetches {urb request : WdfRequest β} {t : List (SystemEvent β F)}
    (h : ∀ e ∈ t, Fetches urb request e) : systemRaises t = [] := by
  refine List.filterMap_eq_nil_iff.2 ?_
  intro e he
  cases e with
  | raise v => exact (h _ he).elim
  | _ => rfl

/-- What the reader of the host driver is told: an update, or that its URB was canceled. -/
def Completion.Readable (c : Completion β F) : Prop :=
  c.delivered.isSome = true ∨ c.status = statusCancelled

section

variable [Zero F] {s : InterruptSystem β F}

theorem systemStep_deliver {c : Completion β F} {cs : List (Completion β F)}
    (hcs : s.inFlight = c :: cs) (hc : c.Readable) :
    ∃ s', systemStep s .deliver = some s' ∧ s'.inFlight = cs ∧ s'.device = s.device := by
  simp only [systemStep, hcs]
  cases hv : c.delivered with
  | some v => exact ⟨_, rfl, rfl, rfl⟩
  | none =>
    have hcancel : c.status = statusCancelled := by
      rcases hc with hsome | hcancel
      · rw [hv] at hsome
        cases hsome
      · exact hcancel
    exact ⟨_, if_pos hcancel, rfl, rfl⟩

theorem systemStep_postUrb {urb : WdfRequest β} (hsource : urb.source = .interruptIn)
    (hsize : urb.buffer.length = sizeofDeviceIntrFlags)
    (hpos : 0 < s.device.io.intrState.numUnreadUpdates) (forward : ForwardOutcome) :
    ∃ s' c, systemStep s (.postUrb urb forward) = some s' ∧ s'.inFlight = s.inFlight ++ [c] ∧
      c.Readable ∧ s'.device.io.intrState.unread = [] := by
  have hdelivered :=
    (ioCompletePendingRequest_delivered hsize s.device.io.intrState.latestStatus).1
  simp only [systemStep, hsource, hsize, and_self, if_true, InterruptSystem.deviceEvent, deviceStep,
    ioEvtInterruptInUrb, ioTakeUpdate, hpos, ne_eq, not_true_eq_false, if_false]
  exact ⟨_, _, rfl, rfl, Or.inl (Option.isSome_iff_exists.2 ⟨_, hdelivered⟩), rfl⟩

theorem systemStep_get {request : WdfRequest β}
    (hsize : sizeofDeviceIntrFlags ≤ request.buffer.length)
    (hpos : 0 < s.host.interruptStatus.numUnreadUpdates) (forward : ForwardOutcome) :
    ∃ s', systemStep s (.get request forward) = some s' ∧
      s'.host.interruptStatus.unread = [] ∧ s'.inFlight = s.inFlight ∧ s'.device = s.device := by
  simp only [systemStep, hsize, if_true, osrGetInterruptMessage, osrTakeUpdate, gt_iff_lt, hpos]
  exact ⟨_, rfl, rfl, rfl, rfl⟩

theorem deliver_all (hreadable : ∀ c ∈ s.inFlight, c.Readable) :
    ∃ s', run systemStep s (List.replicate s.inFlight.length .deliver) = some s' ∧
      s'.inFlight = [] ∧ s'.device = s.device := by
  induction hcs : s.inFlight generalizing s with
  | nil => exact ⟨s, rfl, hcs, rfl⟩
  | cons c cs ih =>
    rw [hcs] at hreadable
    obtain ⟨s₁, hstep, hflight, hdevice⟩ :=
      systemStep_deliver hcs (hreadable c List.mem_cons_self)
    obtain ⟨s', hrun, hnil, hdevice'⟩ := ih
      (fun d hd => hreadable d (List.mem_cons_of_mem c (hflight ▸ hd))) hflight
    refine ⟨s', ?_, hnil, hdevice'.trans hdevice⟩
    rw [List.length_cons, List.replicate_succ, run_cons, hstep, Option.bind_some]
    exact hrun

/-- Everything underway is fetched by delivering it, one URB and one request. -/
theorem exists_fetch (hreadable : ∀ c ∈ s.inFlight, c.Readable) {urb request : WdfRequest β}
    (hsource : urb.source = .interruptIn) (hurb : urb.buffer.length = sizeofDeviceIntrFlags)
    (hrequest : sizeofDeviceIntrFlags ≤ request.buffer.length) (forward : ForwardOutcome) :
    ∃ t s', (∀ e ∈ t, Fetches urb request e) ∧ run systemStep s t = some s' ∧
      s'.underway = [] ∧ s'.device.io.intrState.unread = [] := by
  obtain ⟨s₁, hrun₁, hflight₁, -⟩ := deliver_all hreadable
  obtain ⟨t₂, s₂, ht₂, hrun₂, hflight₂, hdevice₂⟩ : ∃ t s', (∀ e ∈ t, Fetches urb request e) ∧
      run systemStep s₁ t = some s' ∧ s'.inFlight = [] ∧
        s'.device.io.intrState.unread = [] := by
    by_cases hpos : 0 < s₁.device.io.intrState.numUnreadUpdates
    · obtain ⟨s', c, hpost, hflight, hc, hunread⟩ :=
        systemStep_postUrb hsource hurb hpos forward
      rw [hflight₁] at hflight
      obtain ⟨s'', hdeliver, hnil, hdevice⟩ := systemStep_deliver hflight hc
      refine ⟨[.postUrb urb forward, .deliver], s'', ?_, ?_, hnil, hdevice ▸ hunread⟩
      · simp [Fetches]
      · simp [hpost, hdeliver]
    · exact ⟨[], s₁, by simp, rfl, hflight₁,
        DeviceIntrState.unread_eq_nil.2 (Nat.eq_zero_of_not_pos hpos)⟩
  obtain ⟨t₃, s₃, ht₃, hrun₃, hflight₃, hdevice₃, hhost₃⟩ : ∃ t s',
      (∀ e ∈ t, Fetches urb request e) ∧ run systemStep s₂ t = some s' ∧ s'.inFlight = [] ∧
        s'.device = s₂.device ∧ s'.host.interruptStatus.unread = [] := by
    by_cases hpos : 0 < s₂.host.interruptStatus.numUnreadUpdates
    · obtain ⟨s', hget, hunread, hflight, hdevice⟩ := systemStep_get hrequest hpos forward
      refine ⟨[.get request forward], s', ?_, ?_, hflight.trans hflight₂, hdevice, hunread⟩
      · simp [Fetches]
      · simp [hget]
    · exact ⟨[], s₂, by simp, rfl, hflight₂, rfl,
        DeviceIntrState.unread_eq_nil.2 (Nat.eq_zero_of_not_pos hpos)⟩
  refine ⟨List.replicate s.inFlight.length .deliver ++ (t₂ ++ t₃), s₃, ?_, ?_, ?_,
    hdevice₃ ▸ hdevice₂⟩
  · intro e he
    rcases List.mem_append.1 he with he | he
    · rw [List.eq_of_mem_replicate he]
      trivial
    · exact (List.mem_append.1 he).elim (ht₂ e) (ht₃ e)
  · rw [run_append, hrun₁, Option.bind_some, run_append, hrun₂, Option.bind_some, hrun₃]
  · rw [InterruptSystem.underway, hhost₃, InterruptSystem.flying, hflight₃]
    rfl

end

/-! ## The law -/

/-- What follows the raise of `v` that led from `s` to `s₁`, as long as nothing else is raised. -/
structure ReturnsNext [Zero F] (v : F) (s s₁ : InterruptSystem β F) : Prop where
  /-- the readers are given updates that were underway, and then `v` -/
  answers : ∀ t s₂, run systemStep s₁ t = some s₂ → systemRaises t = [] →
    ∃ older n, s₂.returned = s.returned ++ older ++ List.replicate n v ∧
      (∀ u ∈ older, u ∈ s.underway) ∧
      (s₂.underway = [] → s₂.device.io.intrState.unread = [] → 0 < n)
  /-- and so are the host driver and its cache -/
  underway : ∀ t s₂, run systemStep s₁ t = some s₂ → systemRaises t = [] →
    ∀ u ∈ s₂.underway, u ∈ s.underway ∨ u = v
  /-- when the URBs underway can be read, one more URB and one more request at most are enough for
  `v` to be returned -/
  fetched : ∀ t s₂, run systemStep s₁ t = some s₂ → systemRaises t = [] →
    (∀ c ∈ s₂.inFlight, c.Readable) → ∀ urb request : WdfRequest β,
    urb.source = .interruptIn → urb.buffer.length = sizeofDeviceIntrFlags →
    sizeofDeviceIntrFlags ≤ request.buffer.length →
    ∃ t' s₃, (∀ e ∈ t', Fetches urb request e) ∧ run systemStep s₂ t' = some s₃ ∧
      v ∈ s₃.returned.drop s.returned.length

section

variable [Zero F] {raises : List F} {v : F} {s s₁ s₂ : InterruptSystem β F}
  {t : List (SystemEvent β F)}

/-- A later state, with the answers since the raise only. -/
theorem Fresh.later (h : Fresh raises s) (hraise : systemStep s (.raise v) = some s₁)
    (hrun : run systemStep s₁ t = some s₂) (hquiet : systemRaises t = []) :
    ∃ more, s₂.returned = s.returned ++ more.filterMap Completion.delivered ∧
      Fresh (s.underway ++ [v]) { s₂ with answers := more } := by
  obtain ⟨more, hmore, hrun'⟩ := run_answers hrun
  refine ⟨more, ?_, ?_⟩
  · have hanswers : s₁.answers = s.answers := by
      obtain rfl := Option.some.inj hraise
      rfl
    rw [InterruptSystem.returned, hmore, hanswers, List.filterMap_append]
    rfl
  · have hfresh := (h.restart hraise).steps hrun'
    rw [hquiet, List.append_nil] at hfresh
    exact hfresh

theorem Fresh.returns (h : Fresh raises s) (hraise : systemStep s (.raise v) = some s₁)
    (hrun : run systemStep s₁ t = some s₂) (hquiet : systemRaises t = []) :
    ∃ older n, s₂.returned = s.returned ++ older ++ List.replicate n v ∧
      (∀ u ∈ older, u ∈ s.underway) ∧
      (s₂.underway = [] → s₂.device.io.intrState.unread = [] → 0 < n) := by
  obtain ⟨more, hreturned, -, returned, host, flying, device, tr⟩ := h.later hraise hrun hquiet
  have hlen : (s.underway ++ [v]).length = s.underway.length + 1 := by simp
  obtain ⟨older, hvalues, holder⟩ := tr.returned_of.newest_last tr.order.returned_le
    fun i hi => hlen ▸ tr.order.bound i (List.mem_append_left _ hi)
  refine ⟨older, returned.count s.underway.length, ?_, holder, ?_⟩
  · rw [hreturned, List.append_assoc]
    exact congrArg (s.returned ++ ·) hvalues
  · intro hunderway hunread
    obtain ⟨hhost, hflying⟩ := List.append_eq_nil_iff.1 hunderway
    have hnone {indices : List Nat} {values : List F}
        (hof : FromRaises (s.underway ++ [v]) indices values) (hnil : values = []) :
        indices = [] := by
      rw [hnil] at hof
      exact List.forall₂_nil_right_iff.1 hof
    have hnewest := tr.order.newest s.underway.length hlen
    rw [hnone tr.host_of hhost, hnone tr.flying_of hflying, hnone tr.device_of hunread] at hnewest
    exact List.count_pos_iff.2 (by simpa using hnewest)

/-- **One raise**: readers are given the raised value and nothing else, after what was underway
before, and it can always be fetched. -/
theorem returnsNext (hraises : Fresh raises s) (hraise : systemStep s (.raise v) = some s₁) :
    ReturnsNext v s s₁ := by
  refine ⟨fun t s₂ => hraises.returns hraise, ?_, ?_⟩
  · intro t s₂ hrun hquiet u hu
    obtain ⟨more, -, -, returned, host, flying, device, tr⟩ := hraises.later hraise hrun hquiet
    have hof : FromRaises (s.underway ++ [v]) (host ++ flying) s₂.underway :=
      tr.host_of.append tr.flying_of
    obtain ⟨i, -, hi⟩ := hof.mem hu
    have hmem := List.mem_of_getElem? hi
    simpa using hmem
  · intro t s₂ hrun hquiet hreadable urb request hsource hurb hrequest
    obtain ⟨t', s₃, hfetches, hrun', hunderway, hunread⟩ := exists_fetch hreadable hsource hurb
      hrequest ⟨false, ⟨statusCancelled, statusCancelled_failed⟩⟩
    have hall : run systemStep s₁ (t ++ t') = some s₃ := by
      rw [run_append, hrun, Option.bind_some, hrun']
    have hquiet' : systemRaises (t ++ t') = [] := by
      rw [systemRaises, List.filterMap_append]
      exact List.append_eq_nil_iff.2 ⟨hquiet, systemRaises_of_fetches hfetches⟩
    obtain ⟨older, n, hreturned, -, hpos⟩ := hraises.returns hraise hall hquiet'
    refine ⟨t', s₃, hfetches, hrun', ?_⟩
    rw [hreturned, List.append_assoc, List.drop_left]
    refine List.mem_append_right _ (List.mem_replicate.2 ⟨?_, rfl⟩)
    exact Nat.pos_iff_ne_zero.1 (hpos hunderway hunread)

end

end UdeSample
