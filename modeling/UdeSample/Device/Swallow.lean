import UdeSample.Device.History
import UdeSample.Device.Wake

/-!
# Updates handed to a URB that cannot take them

Both ways of handing an update to an interrupt URB commit first: the cache is cleared, or the URB
is taken out of `IntrDeferredQueue`, and only then `IoCompletePendingRequest` looks at the transfer
buffer. Its failure is reported to nobody. `HandedWell` is the exact condition under which the
update is not lost: the buffer can be retrieved and has the size of the flags. The other disjunct
is for states that no run from a plug-in reaches, with a deferred URB and a cached update at once.
-/

namespace UdeSample

open Lib

variable {β F : Type}

/-- An update and the URB that `IoCompletePendingRequest` is to give it to, with what the framework
answers for its buffer. -/
structure HandOver (β F : Type) where
  latestStatus : F
  urb : WdfRequest β
  retrieve : NtResult Unit

/-- The update that an event hands to a URB. -/
def handOver [Zero F] (s : DeviceState β F) : DeviceEvent β F → Option (HandOver β F)
  | .raise latestStatus o =>
    (ioTakeDeferred s.io).map fun (urb, _) => ⟨latestStatus, urb, o.retrieveParked⟩
  | .dispatch request ioControlCode o =>
    if request.source = .interruptIn ∧ ioControlCode = ioctlInternalUsbSubmitUrb then
      (ioTakeUpdate s.io).1.map fun latestStatus => ⟨latestStatus, request, o.retrieve⟩
    else none
  | .cancel _ _ | .linkPowerEntry | .linkPowerExit => none

/-- A URB is successfully completed with the value `v`. -/
def Effect.Delivers (v : F) (x : Effect β F) : Prop :=
  ∃ c, x = .complete c ∧ c.status = statusSuccess ∧ c.data = .flags v

def Delivered (v : F) (fx : List (Effect β F)) : Prop := ∃ x ∈ fx, x.Delivers v

def Cached (v : F) (io : IoContext β F) : Prop :=
  0 < io.intrState.numUnreadUpdates ∧ io.intrState.latestStatus = v

/-- An update handed to a URB reaches it, or is the cached one afterwards. -/
def NotSwallowed [Zero F] (s : DeviceState β F) (e : DeviceEvent β F) : Prop :=
  ∀ h, handOver s e = some h → ∀ s' fx, deviceStep s e = some (s', fx) →
    Delivered h.latestStatus fx ∨ Cached h.latestStatus s'.io

/-- The URB has a buffer for the flags, or an equal update is cached next to the deferred URB. -/
def HandedWell [Zero F] (s : DeviceState β F) (e : DeviceEvent β F) : Prop :=
  ∀ h, handOver s e = some h →
    WellFormedUrb h.urb h.retrieve ∨ e.raisedValue = some h.latestStatus ∧
      Cached h.latestStatus s.io

instance (request : WdfRequest β) (retrieve : NtResult Unit) :
    Decidable (WellFormedUrb request retrieve) := inferInstanceAs (Decidable (_ ∧ _))

instance [DecidableEq F] (v : F) (io : IoContext β F) : Decidable (Cached v io) :=
  inferInstanceAs (Decidable (_ ∧ _))

instance [Zero F] [DecidableEq F] (s : DeviceState β F) (e : DeviceEvent β F) :
    Decidable (HandedWell s e) :=
  match h : handOver s e with
  | none => isTrue fun h' hh => by rw [h] at hh; cases hh
  | some x =>
    decidable_of_iff
      (WellFormedUrb x.urb x.retrieve ∨ e.raisedValue = some x.latestStatus ∧
        Cached x.latestStatus s.io)
      ⟨fun hx h' hh => by rw [h] at hh; cases hh; exact hx, fun hx => hx x h⟩

theorem ioCompletePendingRequest_success {r : WdfRequest β} {v : F} {o : NtResult Unit} :
    (ioCompletePendingRequest r v o).status = statusSuccess ↔ WellFormedUrb r o := by
  unfold ioCompletePendingRequest udecxUrbRetrieveBuffer WellFormedUrb
  cases o with
  | error e =>
    have hne : e.status ≠ statusSuccess := ne_statusSuccess e.failed
    simp [Except.map, hne]
  | ok u =>
    by_cases hlen : r.buffer.length = sizeofDeviceIntrFlags
    · simp [Except.map, hlen]
    · have hne : statusInvalidBlockLength ≠ statusSuccess := by decide
      simp [Except.map, hlen, hne]

/-! ## What a hand-over does -/

/-- The step that hands an update over: a raise leaves the cache, a URB clears it. -/
theorem deviceStep_handOver [Zero F] {s : DeviceState β F} {e : DeviceEvent β F}
    {h : HandOver β F} (hhand : handOver s e = some h) :
    ∃ s', deviceStep s e =
      some (s', [.complete (ioCompletePendingRequest h.urb h.latestStatus h.retrieve)]) ∧
      (e.raisedValue = some h.latestStatus ∧ s'.io.intrState = s.io.intrState ∨
        e.raisedValue = none ∧ h.latestStatus = s.io.intrState.latestStatus ∧
          s'.io.intrState = .cleared) := by
  cases e with
  | raise v o =>
    obtain ⟨⟨urb, io⟩, htake, rfl⟩ := Option.map_eq_some_iff.1 hhand
    refine ⟨{ s with io }, ?_, Or.inl ⟨rfl, ?_⟩⟩
    · simp [deviceStep, ioRaiseInterrupt, htake]
    · obtain ⟨⟨r, q⟩, -, heq⟩ := Option.map_eq_some_iff.1 htake
      obtain ⟨-, rfl⟩ := Prod.mk.inj heq
      rfl
  | dispatch request code o =>
    simp only [handOver] at hhand
    split at hhand
    · next hurb =>
      obtain ⟨v, htake, rfl⟩ := Option.map_eq_some_iff.1 hhand
      unfold ioTakeUpdate at htake
      split at htake
      · next hpos =>
        obtain rfl := Option.some.inj htake
        refine ⟨{ s with io := { s.io with intrState := .cleared } }, ?_, Or.inr ⟨rfl, rfl, rfl⟩⟩
        simp [deviceStep, hurb.1, ioEvtInterruptInUrb, hurb.2, ioTakeUpdate, hpos]
      · cases htake
    · cases hhand
  | cancel | linkPowerEntry | linkPowerExit => cases hhand

/-- **One event** swallows no update if and only if it hands it over well. -/
theorem handedWell_iff [Zero F] (s : DeviceState β F) (e : DeviceEvent β F) :
    HandedWell s e ↔ NotSwallowed s e := by
  constructor
  · intro hwell h hhand s' fx hstep
    obtain ⟨s₁, hstep₁, hcache⟩ := deviceStep_handOver hhand
    rw [hstep₁] at hstep
    obtain ⟨rfl, rfl⟩ := Prod.mk.inj (Option.some.inj hstep)
    rcases hwell h hhand with hwf | ⟨hraise, hcached⟩
    · have hstatus := (ioCompletePendingRequest_success (v := h.latestStatus)).2 hwf
      exact Or.inl ⟨_, List.mem_singleton_self _, _, rfl, hstatus,
        ioCompletePendingRequest_data hstatus⟩
    · rcases hcache with ⟨-, hkept⟩ | ⟨hnone, -, -⟩
      · refine Or.inr ?_
        rw [Cached, hkept]
        exact hcached
      · rw [hraise] at hnone
        cases hnone
  · intro hsafe h hhand
    obtain ⟨s₁, hstep₁, hcache⟩ := deviceStep_handOver hhand
    rcases hsafe h hhand s₁ _ hstep₁ with ⟨x, hx, c, rfl, hstatus, -⟩ | hcached
    · cases List.mem_singleton.1 hx
      exact Or.inl (ioCompletePendingRequest_success.1 hstatus)
    · rcases hcache with ⟨hraise, hkept⟩ | ⟨-, -, hcleared⟩
      · rw [Cached, hkept] at hcached
        exact Or.inr ⟨hraise, hcached⟩
      · have hpos := hcached.1
        rw [hcleared] at hpos
        cases hpos

/-- An event that hands nothing over and is no raise leaves a cached update alone. -/
theorem Cached.kept [Zero F] {s s' : DeviceState β F} {e : DeviceEvent β F}
    {fx : List (Effect β F)} {v : F} (hc : Cached v s.io) (hnone : handOver s e = none)
    (hraise : e.raisedValue = none) (hstep : deviceStep s e = some (s', fx)) :
    Cached v s'.io := by
  cases deviceStep_effect hstep with
  | control | linkPowerEntry | linkPowerExit => exact hc
  | write ch | read ch => cases ch <;> exact hc
  | urb hsource hurb =>
    cases hurb with
    | dropped => exact hc
    | answered hcode hcached =>
      simp [handOver, hsource, hcode, ioTakeUpdate, hcached] at hnone
    | deferred _ hzero | refused _ hzero =>
      have hpos := hc.1
      omega
  | raise => cases hraise
  | @cancel queue => cases queue <;> exact hc

/-- A cached update that is handed over well is delivered. -/
theorem Cached.step [Zero F] {s s' : DeviceState β F} {e : DeviceEvent β F}
    {fx : List (Effect β F)} {v : F} (hc : Cached v s.io) (hwell : HandedWell s e)
    (hraise : e.raisedValue = none) (hstep : deviceStep s e = some (s', fx)) :
    Delivered v fx ∨ Cached v s'.io := by
  cases hhand : handOver s e with
  | none => exact Or.inr (hc.kept hhand hraise hstep)
  | some h =>
    obtain ⟨s₁, hstep₁, hcache⟩ := deviceStep_handOver hhand
    have hvalue : h.latestStatus = v := by
      rcases hcache with ⟨hsome, -⟩ | ⟨-, hlatest, -⟩
      · rw [hraise] at hsome
        cases hsome
      · exact hlatest.trans hc.2
    exact hvalue ▸ (handedWell_iff s e).1 hwell h hhand s' fx hstep

/-- After a raise that is handed over well its value is delivered or cached. -/
theorem raise_notLost [Zero F] {s s' : DeviceState β F} {v : F} {o : Outcomes}
    {fx : List (Effect β F)} (hwell : HandedWell s (.raise v o))
    (hstep : deviceStep s (.raise v o) = some (s', fx)) : Delivered v fx ∨ Cached v s'.io := by
  cases htake : ioTakeDeferred s.io with
  | none =>
    have hcache : deviceStep s (.raise v o) =
        some ({ s with io := ioCacheUpdate v s.io }, [.signalWake]) := by
      simp [deviceStep, ioRaiseInterrupt, htake]
    rw [hcache] at hstep
    obtain ⟨rfl, -⟩ := Prod.mk.inj (Option.some.inj hstep)
    exact Or.inr ⟨DeviceIntrState.cache_pos (by decide) v s.io.intrState,
      DeviceIntrState.cache_latestStatus v s.io.intrState⟩
  | some x =>
    have hhand : handOver s (.raise v o) = some ⟨v, x.1, o.retrieveParked⟩ := by
      simp [handOver, htake]
    exact (handedWell_iff s _).1 hwell _ hhand s' fx hstep

/-- **A raise whose value is handed over well is not lost**: until the next raise, its value is
delivered or still cached. -/
theorem raise_run [Zero F] {s s' : DeviceState β F} {v : F} {o : Outcomes}
    {t : List (DeviceEvent β F)} {log : List (Effect β F)}
    (hrun : run (logged deviceStep) (s, []) (.raise v o :: t) = some (s', log))
    (hwell : Along (fun p e => HandedWell p.1 e) (logged deviceStep) (s, []) (.raise v o :: t))
    (hlast : ∀ e ∈ t, e.raisedValue = none) : Delivered v log ∨ Cached v s'.io := by
  rw [run_cons] at hrun
  obtain ⟨p, hfirst, hrest⟩ := Option.bind_eq_some_iff.1 hrun
  obtain ⟨fx, hstep, hlog⟩ := logged_eq_some.1 hfirst
  rw [List.nil_append] at hlog
  have hstart : Delivered v p.2 ∨ Cached v p.1.io := hlog ▸ raise_notLost hwell.1 hstep
  exact run_until (C := fun s e => HandedWell s e ∧ e.raisedValue = none) (fun s => Cached v s.io)
    (Effect.Delivers v) (fun s e s' fx hc hC hstep => hc.step hC.1 hC.2 hstep) hstart hrest
    ((hwell.2 p hfirst).and (along_of_events (fun e he _ => hlast e he) p))

/-- **No update is swallowed in a run, from any state, if and only if every update is handed over
well**; then the value of every raise is delivered, still cached, or superseded by a later one. -/
theorem notSwallowed_iff [Zero F] (s : DeviceState β F) (t : List (DeviceEvent β F)) :
    (Along (fun p e => HandedWell p.1 e) (logged deviceStep) (s, []) t ↔
      Along (fun p e => NotSwallowed p.1 e) (logged deviceStep) (s, []) t) ∧
    (Along (fun p e => HandedWell p.1 e) (logged deviceStep) (s, []) t →
      ∀ t₁ v o t₂ s₁ log₁ s₂ log₂, t = t₁ ++ .raise v o :: t₂ →
        (∀ e ∈ t₂, e.raisedValue = none) →
        run (logged deviceStep) (s, []) t₁ = some (s₁, log₁) →
        run (logged deviceStep) (s₁, []) (.raise v o :: t₂) = some (s₂, log₂) →
        Delivered v log₂ ∨ Cached v s₂.io) := by
  refine ⟨?_, ?_⟩
  · exact along_congr (I := fun _ => True) (fun p e _ => handedWell_iff p.1 e)
      (fun _ _ _ _ _ _ => trivial) trivial t
  · intro hwell t₁ v o t₂ s₁ log₁ s₂ log₂ hsplit hlast hrun₁ hrun₂
    subst hsplit
    have hrest := ((along_append hrun₁).1 hwell).2
    exact raise_run hrun₂ (along_logged hrest []) hlast

def orderlyUrbs : List (DeviceEvent UInt8 ULONG) :=
  [.dispatch (interruptUrb 0) ioctlInternalUsbSubmitUrb outcomesOk, .raise 10 outcomesOk,
    .raise 11 outcomesOk, .dispatch (interruptUrb 1) ioctlInternalUsbSubmitUrb outcomesOk]

theorem orderlyUrbs_delivered : ∃ s₁ log₁ s₂ log₂,
    run (logged deviceStep) (deviceInit, []) (orderlyUrbs.take 2) = some (s₁, log₁) ∧
    run (logged deviceStep) (s₁, []) (orderlyUrbs.drop 2) = some (s₂, log₂) ∧
    (Delivered 11 log₂ ∨ Cached 11 s₂.io) := by
  refine ⟨_, _, _, _, rfl, rfl, ?_⟩
  exact (notSwallowed_iff deviceInit orderlyUrbs).2 (by decide +kernel) (orderlyUrbs.take 2) 11
    outcomesOk _ _ _ _ _ rfl (by simp [DeviceEvent.raisedValue]) rfl rfl

def shortUrb (i : Nat) : WdfRequest UInt8 := ⟨i, .interruptIn, [0, 0, 0]⟩

/-- A raise given to a deferred URB of three bytes, and a cached one taken by such a URB: both URBs
fail and nothing is cached. -/
theorem shortUrb_swallows :
    (∃ s log, deviceRun [.dispatch (shortUrb 0) ioctlInternalUsbSubmitUrb outcomesOk,
        .raise 10 outcomesOk] = some (s, log) ∧
      log = [.complete (completeRequest .udecxUrb (shortUrb 0) statusInvalidBlockLength 0)] ∧
      s.io.intrState = (.cleared : DeviceIntrState intrStateMaxCachedUpdates ULONG)) ∧
    ∃ s log, deviceRun [.raise 10 outcomesOk,
        .dispatch (shortUrb 0) ioctlInternalUsbSubmitUrb outcomesOk] = some (s, log) ∧
      log = [.signalWake,
        .complete (completeRequest .udecxUrb (shortUrb 0) statusInvalidBlockLength 0)] ∧
      s.io.intrState = (.cleared : DeviceIntrState intrStateMaxCachedUpdates ULONG) :=
  ⟨⟨_, _, rfl, rfl, rfl⟩, _, _, rfl, rfl, rfl⟩

end UdeSample
