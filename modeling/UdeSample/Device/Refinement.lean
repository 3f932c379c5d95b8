import UdeSample.Device.Plugged

/-!
# A plugged-in device refines `deviceStep`

A plug-in that succeeds leaves a device whose context is as `deviceInit` has it
(`usbReadDescriptorsAndPlugIn_view`), and every event of the device does to that context what
`deviceStep` does. So the runs of a device on its handles are the runs of `deviceStep`
(`pluggedRun_refines`), and what is proved of those holds of the handles.
-/

namespace UdeSample

open Lib

variable {β F : Type}

/-- The context of a device that no request has reached yet, with or without its queues. -/
def FreshContext [Zero F] (objects : Objects β F) (d : Nat) : Prop :=
  ∃ u record, wdfDeviceGetIoContext objects (some d) = some (d, u, record) ∧ u.isAwake = true ∧
    record.bStopping = false ∧ record.intrState = .cleared

section

variable {objects objects' : Objects β F} {d : Nat} {u : UsbDevice F} {record : IoRecord F}
  {status : NTSTATUS} {queue : Option Nat}

theorem ioViewOf_eq (h : wdfDeviceGetIoContext objects (some d) = some (d, u, record)) :
    ioViewOf objects (some d) =
      (objects.deferredQueue record).map fun x => (u.isAwake, record.view x.2) := by
  rw [ioViewOf, h]
  rfl

/-- The queue of an endpoint is found or added; nothing else of the context changes. -/
theorem findOrCreateEpQueue_context {u₁ : UsbDevice F} {slot : EndpointSlot} {o : NtResult Unit}
    (hcontext : wdfDeviceGetIoContext objects (some d) = some (d, u, record))
    (hu₁ : u₁.isAwake = u.isAwake)
    (h : findOrCreateEpQueue objects d u₁ record slot o = some (status, queue, objects')) :
    ∃ u' record', wdfDeviceGetIoContext objects' (some d) = some (d, u', record') ∧
      u'.isAwake = u.isAwake ∧ record'.bStopping = record.bStopping ∧
      record'.intrState = record.intrState ∧
      objects'.deferredQueue record' = objects.deferredQueue record := by
  obtain ⟨-, ⟨q, -, -, rfl⟩ | ⟨-, -, -, rfl⟩⟩ := findOrCreateEpQueue_cases h
  · exact ⟨u, record, hcontext, rfl, rfl, rfl, rfl⟩
  · obtain ⟨-, hu, -⟩ := wdfDeviceGetIoContext_eq_some.1 hcontext
    have hu' := Objects.usbDevice_create_of_some hu (.endpointQueue d)
    refine ⟨_, _, wdfDeviceGetIoContext_setIoContext hu' _ _, hu₁, rfl, rfl, ?_⟩
    rw [Objects.deferredQueue_congr rfl (Objects.queue_setIoContext hu' _ _)]
    exact Objects.deferredQueue_congr rfl
      (Objects.queue_create_of_ne objects fun q => by simp)

variable [Zero F]

theorem findOrCreateEpQueue_fresh {u₁ : UsbDevice F} {slot : EndpointSlot} {o : NtResult Unit}
    (hcontext : wdfDeviceGetIoContext objects (some d) = some (d, u, record))
    (hfresh : u.isAwake = true ∧ record.bStopping = false ∧ record.intrState = .cleared)
    (hu₁ : u₁.isAwake = u.isAwake)
    (h : findOrCreateEpQueue objects d u₁ record slot o = some (status, queue, objects')) :
    FreshContext objects' d := by
  obtain ⟨u', record', hcontext', hawake, hstopping, hstate, -⟩ :=
    findOrCreateEpQueue_context hcontext hu₁ h
  refine ⟨u', record', hcontext', ?_, ?_, ?_⟩
  · rw [hawake, hfresh.1]
  · rw [hstopping, hfresh.2.1]
  · rw [hstate, hfresh.2.2]

/-- The new context is cleared; its queue is as it was created, if that and its lock succeeded. -/
theorem ioCreateDeferredIntrQueue_created {o : EndpointOutcomes} {record' : IoRecord F}
    (hu : objects.usbDevice d = some u)
    (h : ioCreateDeferredIntrQueue record o objects = (status, record', objects')) :
    objects'.usbDevice d = some u ∧ record'.bStopping = record.bStopping ∧
      record'.intrState = .cleared ∧ (ntSuccess status = true →
        ∃ i, objects'.deferredQueue record' = some (i, wdfIoQueueCreated .udecxUrb)) := by
  have hu₁ := Objects.usbDevice_create_of_some hu deferredQueueObject
  have hq := queue_deferredQueueObject objects
  rcases ioCreateDeferredIntrQueue_cases h with ⟨-, hfail, rfl, rfl⟩ | ⟨-, hfail, rfl, rfl⟩ |
    ⟨-, -, rfl, rfl⟩
  · exact ⟨hu, rfl, rfl, fun hok => absurd (hfail.symm.trans hok) (by decide)⟩
  · exact ⟨hu₁, rfl, rfl, fun hok => absurd (hfail.symm.trans hok) (by decide)⟩
  · refine ⟨Objects.usbDevice_create_of_some hu₁ _, rfl, rfl, fun _ => ⟨objects.next, ?_⟩⟩
    exact Objects.deferredQueue_eq_some.2 ⟨rfl, Objects.queue_create_of_some hq _⟩

/-! ## Plugging in -/

theorem usbCreateEndpointObj_fresh {epAddr : UCHAR} {o : EndpointOutcomes}
    (h : FreshContext objects d)
    (hcreate : usbCreateEndpointObj objects (some d) epAddr o = some (status, objects')) :
    FreshContext objects' d := by
  obtain ⟨st, queue, hretrieve, -⟩ := usbCreateEndpointObj_eq_some hcreate
  obtain ⟨u, record, hcontext, hfresh⟩ := h
  rcases ioRetrieveEpQueue_cases hcontext hretrieve with ⟨-, -, -, rfl⟩ | ⟨slot, -, -, hfind⟩ |
    ⟨-, st₁, record₁, objects₁, hdeferred, hrest⟩
  · exact ⟨u, record, hcontext, hfresh⟩
  · exact findOrCreateEpQueue_fresh hcontext hfresh rfl hfind
  · obtain ⟨-, hu, -⟩ := wdfDeviceGetIoContext_eq_some.1 hcontext
    obtain ⟨hu₁, hstopping, hstate, -⟩ := ioCreateDeferredIntrQueue_created hu hdeferred
    have hcontext₁ := wdfDeviceGetIoContext_setIoContext hu₁ u record₁
    have hfresh₁ : u.isAwake = true ∧ record₁.bStopping = false ∧ record₁.intrState = .cleared :=
      ⟨hfresh.1, hstopping.trans hfresh.2.1, hstate⟩
    rcases hrest with ⟨-, hfind⟩ | ⟨-, -, -, rfl⟩
    · exact findOrCreateEpQueue_fresh hcontext₁ hfresh₁ rfl hfind
    · exact ⟨_, record₁, hcontext₁, hfresh₁⟩

/-- **The interrupt endpoint** of a fresh device completes its context. -/
theorem usbCreateInterruptEndpoint_view {o : EndpointOutcomes} (h : FreshContext objects d)
    (hcreate : usbCreateEndpointObj objects (some d) gInterruptEndpointAddress o =
      some (status, objects')) (hok : ntSuccess status = true) :
    ioViewOf objects' (some d) = some (true, ioContextCreated) := by
  obtain ⟨st, queue, hretrieve, -, hfailed⟩ := usbCreateEndpointObj_eq_some hcreate
  obtain ⟨u, record, hcontext, hawake, hstopping, -⟩ := h
  obtain ⟨-, hu, -⟩ := wdfDeviceGetIoContext_eq_some.1 hcontext
  rcases ioRetrieveEpQueue_cases hcontext hretrieve with ⟨hnone, -⟩ | ⟨slot, hslot, hne, -⟩ |
    ⟨-, st₁, record₁, objects₁, hdeferred, hrest⟩
  · cases hnone
  · exact absurd (Option.some.inj hslot).symm hne
  obtain ⟨hu₁, hstopping₁, hstate₁, hcreated⟩ := ioCreateDeferredIntrQueue_created hu hdeferred
  rcases hrest with ⟨hst₁, hfind⟩ | ⟨hst₁, rfl, -, -⟩
  · obtain ⟨i, hqueue⟩ := hcreated hst₁
    obtain ⟨u', record', hcontext', hawake', hstopping', hstate', hqueue'⟩ :=
      findOrCreateEpQueue_context (wdfDeviceGetIoContext_setIoContext hu₁ u record₁) rfl hfind
    rw [Objects.deferredQueue_congr rfl (Objects.queue_setIoContext hu₁ u record₁), hqueue]
      at hqueue'
    rw [ioViewOf_eq hcontext', hqueue', Option.map_some, hawake', IoRecord.view, hstopping',
      hstopping₁, hstopping, hstate', hstate₁]
    exact congrArg some (Prod.ext hawake rfl)
  · rw [hfailed hst₁, hst₁] at hok
    cases hok

theorem createEndpoints_view (others : List (UCHAR × EndpointOutcomes)) {o : EndpointOutcomes}
    (h : FreshContext objects d)
    (hcreate : createEndpoints d (others ++ [(gInterruptEndpointAddress, o)]) objects =
      some (status, objects')) (hok : ntSuccess status = true) :
    ioViewOf objects' (some d) = some (true, ioContextCreated) := by
  induction others generalizing objects with
  | nil =>
    obtain ⟨st, objects₁, hep, ⟨hst, hrest⟩ | ⟨hst, rfl, -⟩⟩ := onSuccess_eq_some hcreate
    · obtain ⟨-, rfl⟩ := Prod.mk.inj (Option.some.inj hrest)
      exact usbCreateInterruptEndpoint_view h hep hst
    · exact absurd (hst.symm.trans hok) (by decide)
  | cons e others ih =>
    obtain ⟨st, objects₁, hep, ⟨-, hrest⟩ | ⟨hst, rfl, -⟩⟩ := onSuccess_eq_some hcreate
    · exact ih (usbCreateEndpointObj_fresh h hep) hrest
    · exact absurd (hst.symm.trans hok) (by decide)

theorem initializeAndPlugIn_view {o : PlugInOutcomes} (hu : objects.usbDevice d = some u)
    (h : initializeAndPlugIn o d objects = some (status, objects'))
    (hok : ntSuccess status = true) :
    ioViewOf objects' (some d) = some (true, ioContextCreated) := by
  rcases initializeAndPlugIn_cases hu h with ⟨-, hfail, -⟩ | ⟨-, st, hcreate, hfailed⟩
  · exact absurd (hfail.symm.trans hok) (by decide)
  · have hcontext := wdfDeviceGetIoContext_setIoContext hu u (IoRecord.zeroed : IoRecord F)
    obtain ⟨-, hu₁, hrecord₁⟩ := wdfDeviceGetIoContext_eq_some.1 hcontext
    have hawake : FreshContext
        ((objects.setIoContext d u .zeroed).setAwake (some d) true) d := by
      rw [Objects.setAwake_eq hu₁ hrecord₁]
      exact ⟨_, _, wdfDeviceGetIoContext_setIoContext hu₁ _ _, rfl, rfl, rfl⟩
    cases hst : ntSuccess st with
    | true =>
      exact createEndpoints_view
        [(usbDefaultEndpointAddress, o.control), (gBulkOutEndpointAddress, o.bulkOut),
          (gBulkInEndpointAddress, o.bulkIn)] hawake hcreate hst
    | false =>
      rw [hfailed hst, hst] at hok
      cases hok

/-- **A plug-in that succeeds** leaves the context of `deviceInit`. -/
theorem usbReadDescriptorsAndPlugIn_view {o : PlugInOutcomes} {c c' : Controller β F}
    (h : usbReadDescriptorsAndPlugIn o c = some (status, c')) (hok : ntSuccess status = true) :
    ioViewOf c'.objects c'.childDevice = some (true, ioContextCreated) := by
  rcases usbReadDescriptorsAndPlugIn_cases h with ⟨-, hfail, -⟩ | ⟨-, objects, hinit, rfl⟩
  · exact absurd (hfail.symm.trans hok) (by decide)
  · have hcreated := Objects.usbDevice_create_next c.objects
      { ioContext := none, isAwake := false }
    exact initializeAndPlugIn_view hcreated hinit hok

/-! ## Runs -/

/-- What `deviceStep` refuses is refused on the handles. -/
theorem pluggedDeviceStep_none {s : PluggedDriver β F} {v : DeviceState β F} {e : DeviceEvent β F}
    (hview : s.view = some v) (hstep : deviceStep v e = none) : pluggedDeviceStep s e = none := by
  obtain ⟨⟨isAwake, io⟩, hio, rfl⟩ := Option.map_eq_some_iff.1 hview
  cases e with
  | dispatch request ioControlCode o =>
    unfold deviceStep at hstep
    unfold pluggedDeviceStep
    cases hsource : request.source with
    | ioctl => simp only [hsource]
    | _ => simp [hsource] at hstep
  | raise latestStatus o => cases hstep
  | cancel queue i =>
    have hcancel := Option.map_eq_none_iff.1 hstep
    cases queue with
    | missionRequest => exact Option.map_eq_none_iff.2 hcancel
    | missionCompletion => exact Option.map_eq_none_iff.2 hcancel
    | intrDeferred =>
      obtain ⟨d, u, record, k, q, hcontext, hq, -, rfl⟩ := ioViewOf_eq_some.1 hio
      have hnone : (record.view q).intrDeferredQueue.cancel i = none := hcancel
      refine Option.map_eq_none_iff.2 ?_
      simp only [cancelDeferredOn, onIoContext, hcontext, Option.bind_some, hq, hnone,
        Option.map_none]
  | linkPowerEntry => cases hstep
  | linkPowerExit => cases hstep

/-- A driver whose handles stand for a state of the device. -/
def PluggedDriver.StandsFor (s : PluggedDriver β F) (p : DeviceState β F × List (Effect β F)) :
    Prop :=
  s.view = some p.1 ∧ HasLock s.objects s.childDevice

/-- An event of a plugged-in device is a step of `deviceStep`. -/
theorem PluggedDriver.StandsFor.step {s s' : PluggedDriver β F}
    {p : DeviceState β F × List (Effect β F)} {e : DeviceEvent β F} (h : s.StandsFor p)
    (hstep : pluggedDeviceStep s e = some s') :
    ∃ p', logged deviceStep p e = some p' ∧ s'.StandsFor p' := by
  cases hdevice : deviceStep p.1 e with
  | none =>
    rw [pluggedDeviceStep_none h.1 hdevice] at hstep
    cases hstep
  | some x =>
    obtain ⟨v', fx⟩ := x
    obtain ⟨s₁, hstep₁, hview₁⟩ := pluggedDeviceStep_view h.1 h.2 hdevice
    obtain rfl := Option.some.inj (hstep.symm.trans hstep₁)
    obtain ⟨hsame, hkeeps⟩ := pluggedDeviceStep_keeps hstep
    refine ⟨(v', p.2 ++ fx), logged_eq_some.2 ⟨fx, hdevice, rfl⟩, hview₁, ?_⟩
    rw [hsame]
    exact h.2.keeps hkeeps

/-- No step of `deviceStep` is missing on the handles. -/
theorem PluggedDriver.StandsFor.exists_step {s : PluggedDriver β F}
    {p p' : DeviceState β F × List (Effect β F)} {e : DeviceEvent β F} (h : s.StandsFor p)
    (hstep : logged deviceStep p e = some p') :
    ∃ s', pluggedDeviceStep s e = some s' ∧ s'.StandsFor p' := by
  obtain ⟨fx, hdevice, -⟩ := logged_eq_some.1 hstep
  obtain ⟨s', hplugged, -⟩ := pluggedDeviceStep_view h.1 h.2 hdevice
  obtain ⟨p₁, hstep₁, hstands⟩ := h.step hplugged
  obtain rfl := Option.some.inj (hstep.symm.trans hstep₁)
  exact ⟨s', hplugged, hstands⟩

/-- A device that is plugged in stands for a new one, with the channels as they are. -/
theorem standsFor_plugIn {c : Controller β F} {s : PluggedDriver β F} {o : PlugInOutcomes}
    (hplug : usbReadDescriptorsAndPlugIn o c = some (status, s.controller))
    (hok : ntSuccess status = true) :
    s.StandsFor ({ deviceInit with
      missionRequest := s.missionRequest, missionCompletion := s.missionCompletion }, []) := by
  have hio := usbReadDescriptorsAndPlugIn_view hplug hok
  obtain ⟨d, hd, hhandles⟩ := usbReadDescriptorsAndPlugIn_handles hplug hok
  refine ⟨Option.map_eq_some_iff.2 ⟨_, hio, rfl⟩, ?_⟩
  rw [PluggedDriver.childDevice, hd]
  exact hhandles.hasLock

/-- **The runs of a plugged-in device** on its handles are those of `deviceStep`: the same events
are taken, and the handles stand for the state that `deviceRun` reaches. -/
theorem pluggedRun_refines {flagsOf : List β → F} {o : PlugInOutcomes} {c : Controller β F}
    (hplug : controllerWdfEvtDeviceD0Entry .d3Final o controllerCreated = some (status, c))
    (hok : ntSuccess status = true) (t : List (DeviceEvent β F)) :
    (∀ s, pluggedRun flagsOf (.lifecycle (.d0Entry .d3Final o) :: t.map .device) = some s →
      ∃ v log, deviceRun t = some (v, log) ∧ s.view = some v) ∧
    ∀ v log, deviceRun t = some (v, log) →
      ∃ s, pluggedRun flagsOf (.lifecycle (.d0Entry .d3Final o) :: t.map .device) = some s ∧
        s.view = some v := by
  obtain ⟨plugged, hplugged⟩ : ∃ plugged : PluggedDriver β F, plugged =
      { controller := c, missionRequest := wrQueueInit false
        missionCompletion := wrQueueInit true } := ⟨_, rfl⟩
  have hentry : pluggedStep flagsOf pluggedInit (.lifecycle (.d0Entry .d3Final o)) =
      some plugged := by
    simp only [pluggedStep, lifecycleStep, pluggedInit, hplug, Option.map_some, hplugged]
  have hrun : pluggedRun flagsOf (.lifecycle (.d0Entry .d3Final o) :: t.map .device) =
      run pluggedDeviceStep plugged t := by
    rw [pluggedRun, run_cons, hentry, Option.bind_some, run_map]
    rfl
  have hplugIn : usbReadDescriptorsAndPlugIn o
      { controllerCreated with allowOnlyResetInterrupts := true } = some (status, c) := hplug
  have hstands : plugged.StandsFor (deviceInit, []) := by
    rw [hplugged]
    exact standsFor_plugIn hplugIn hok
  rw [hrun]
  constructor
  · intro s hs
    have hsimulates : ∃ p, run (logged deviceStep) (deviceInit, []) t = some p ∧
        s.StandsFor p := run_simulates (fun _ _ _ _ h hstep => h.step hstep) hstands hs
    obtain ⟨⟨v, log⟩, hdevice, hview, -⟩ := hsimulates
    exact ⟨v, log, hdevice, hview⟩
  · intro v log hdevice
    have hback : ∀ (p : DeviceState β F × List (Effect β F)) (s : PluggedDriver β F) e p',
        s.StandsFor p → logged deviceStep p e = some p' →
        ∃ s', pluggedDeviceStep s e = some s' ∧ s'.StandsFor p' :=
      fun _ _ _ _ h hstep => h.exists_step hstep
    obtain ⟨s, hs, hview, -⟩ := run_simulates hback hstands hdevice
    exact ⟨s, hs, hview⟩

end

/-- A raise with no URB, a sleep and the wake up. -/
def sleepingRaise : List (DeviceEvent UInt8 ULONG) :=
  [.raise 5 outcomesOk, .linkPowerExit, .linkPowerEntry]

theorem sleepingRaise_refines : ∃ s v log,
    pluggedRun flagWord (.lifecycle (.d0Entry .d3Final plugInOk) :: sleepingRaise.map .device) =
      some s ∧ deviceRun sleepingRaise = some (v, log) ∧ s.view = some v := by
  obtain ⟨status, c, hplug, hok⟩ : ∃ status c,
      controllerWdfEvtDeviceD0Entry .d3Final plugInOk (controllerCreated : Controller UInt8 ULONG) =
        some (status, c) ∧ ntSuccess status = true := ⟨_, _, rfl, rfl⟩
  obtain ⟨v, log, hdevice⟩ : ∃ v log, deviceRun sleepingRaise = some (v, log) := ⟨_, _, rfl⟩
  obtain ⟨s, hrun, hview⟩ := (pluggedRun_refines hplug hok sleepingRaise).2 v log hdevice
  exact ⟨s, v, log, hrun, hdevice, hview⟩

end UdeSample
