import UdeSample.Gadget.BindRuns
import UdeSample.Host.Interfaces
import UdeSample.App.DumpRoundTrip

/-!
# The host driver on the gadget (`Device.c`, `f_one.c`)

The framework makes the pipes of a start from the endpoint descriptors of the device. The emulated
device has the three that `SelectInterfaces` looks for; the loopback function has no interrupt
endpoint, at any speed, so that the host driver, were it installed for the product id of the gadget,
would never start on it (`gadget_notStarted`).
-/

namespace UdeSample

open Lib

/-- The type in `bmAttributes`. -/
def pipeTypeOf (bmAttributes : UCHAR) : UsbPipeType :=
  match (bmAttributes &&& 3).toNat with
  | 0 => .control
  | 1 => .isochronous
  | 2 => .bulk
  | _ => .interrupt

def pipeDirectionOf (bEndpointAddress : UCHAR) : UsbPipeDirection :=
  if bEndpointAddress &&& usbDirIn = usbDirIn then .input else .output

/-- What the framework tells about the pipes of a list of descriptors. -/
def pipeKinds (descs : List DescriptorHeader) : List (UsbPipeType × UsbPipeDirection) :=
  descs.filterMap fun
    | .endpoint desc => some (pipeTypeOf desc.bmAttributes, pipeDirectionOf desc.bEndpointAddress)
    | .interface _ | .ssEpComp => none

def UsbPipe.kind (pipe : UsbPipe) : UsbPipeType × UsbPipeDirection :=
  (pipe.pipeType, pipe.direction)

/-- Every configuration that the host selects is that of an instance of the loopback function in the
gadget, at one of the speeds. -/
def OnGadget (s : LoopGadget) (o : PrepareOutcomes) : Prop :=
  ∀ config, o.selectConfig = .ok config → ∃ f loop i descs,
    s.functions.get? f = some loop ∧ loop.added = true ∧ loop.descs = some i ∧
      s.copies.get? i = some descs ∧
        ∃ speed ∈ [descs.fsDescriptors, descs.hsDescriptors, descs.ssDescriptors],
          config.configuredPipes.map UsbPipe.kind = pipeKinds speed

section

variable {s : LoopGadget} {log : List LoopBindRecord} {c : PipeContext} {o : PrepareOutcomes}

/-- A copy has bulk endpoints only. -/
theorem LoopBinding.kinds (b : LoopBinding) {speed : List DescriptorHeader}
    (h : speed ∈ [b.descs.fsDescriptors, b.descs.hsDescriptors, b.descs.ssDescriptors]) :
    ∀ kind ∈ pipeKinds speed, kind.1 = .bulk := by
  have hbulk : pipeTypeOf usbEndpointXferBulk = .bulk := rfl
  simp only [List.mem_cons, List.not_mem_nil, or_false] at h
  rcases h with rfl | rfl | rfl <;> simp [pipeKinds, LoopBinding.descs, hbulk]

theorem OnGadget.no_interrupt {t : List LoopBindEvent} (h : loopGadgetRun t = some (s, log))
    (ho : OnGadget s o) {config : SelectedConfig} (hconfig : o.selectConfig = .ok config) :
    ¬ HasPipe UsbPipe.isInterrupt config.configuredPipes := by
  obtain ⟨f, loop, i, descs, hf, hadded, hi, hcopy, speed, hspeed, hpipes⟩ := ho config hconfig
  obtain ⟨lost, hinv, -⟩ := loopGadgetRun_inv h
  obtain ⟨b, hbound⟩ := hinv.bound
  obtain ⟨j, hj, hdescs⟩ := (hbound.of f loop hf hadded).copy
  obtain rfl : i = j := Option.some.inj (hi.symm.trans hj)
  obtain rfl : descs = (b f).descs := Option.some.inj (hcopy.symm.trans hdescs)
  rintro ⟨pipe, hpipe, hinterrupt⟩
  have hkind : pipe.kind ∈ pipeKinds speed := hpipes ▸ List.mem_map_of_mem hpipe
  have hbulk : pipe.pipeType = .bulk := (b f).kinds hspeed _ hkind
  have htype : pipe.pipeType = .interrupt := of_decide_eq_true hinterrupt
  rw [hbulk] at htype
  cases htype

theorem selectInterfaces_noInterrupt {selectConfig : NtResult SelectedConfig}
    (hnone : c.interruptPipe = none) (hpipes : ∀ config, selectConfig = .ok config →
      ¬ HasPipe UsbPipe.isInterrupt config.configuredPipes) :
    ntSuccess (selectInterfaces c selectConfig).1 = false ∧
      (selectInterfaces c selectConfig).2.interruptPipe = none := by
  cases selectConfig with
  | error e => exact ⟨e.failed, hnone⟩
  | ok config =>
    have hno := hpipes config rfl
    constructor
    · refine Bool.eq_false_iff.2 fun hok => ?_
      have hfound := ((selectionOf_success c config).1 hok).2.2
      exact not_hasPipe_or.2 ⟨hno, hnone⟩ hfound
    · have hafter := congrArg PipeContext.interruptPipe (selectionOf_after c config)
      have hlast : lastPipe UsbPipe.isInterrupt config.configuredPipes = none := by
        rw [← Option.not_isSome_iff_eq_none, lastPipe_isSome]
        exact hno
      exact hafter.trans (by rw [hlast, Option.none_or, hnone])

/-- Without an interrupt pipe, now or in the context, a start fails and finds none. -/
theorem prepareHardware_noInterrupt (hnone : c.interruptPipe = none)
    (hpipes : ∀ config, o.selectConfig = .ok config →
      ¬ HasPipe UsbPipe.isInterrupt config.configuredPipes) :
    ntSuccess (prepareHardware c o).1 = false ∧
      (prepareHardware c o).2.1.interruptPipe = none := by
  unfold prepareHardware
  cases hdevice : createUsbDevice c o.createDevice with
  | error e => exact ⟨e.failed, hnone⟩
  | ok c' =>
    have hnone' : c'.interruptPipe = none := by
      rcases createUsbDevice_eq_ok hdevice with rfl | ⟨handle, rfl⟩
      · exact hnone
      · exact hnone
    obtain ⟨hfailed, hafter⟩ := selectInterfaces_noInterrupt
      (c := { c' with usbDeviceTraits := o.traits }) hnone' hpipes
    refine ⟨?_, hafter⟩
    simp only [hfailed, Bool.not_false, if_true]

/-- **The host driver never starts on the gadget**, however often it is started, whichever instances
of the loopback function are bound, and at whatever speed. -/
theorem gadget_notStarted {t : List LoopBindEvent} (h : loopGadgetRun t = some (s, log))
    {starts : List PrepareOutcomes} (hstarts : ∀ o ∈ starts, OnGadget s o) :
    Along (fun p o => ntSuccess (prepareHardware p.1 o).1 = false) (logged prepareStep)
      (pipeContextCreated, []) starts := by
  have hiff : ∀ (p : PipeContext × List Selection) (o : PrepareOutcomes),
      p.1.interruptPipe = none →
        (OnGadget s o ↔ OnGadget s o ∧ ntSuccess (prepareHardware p.1 o).1 = false) := by
    intro p o hnone
    refine (and_iff_left_of_imp fun ho => ?_).symm
    exact (prepareHardware_noInterrupt hnone fun config hconfig => ho.no_interrupt h hconfig).1
  have hstep : ∀ (p : PipeContext × List Selection) (o : PrepareOutcomes)
      (p' : PipeContext × List Selection), p.1.interruptPipe = none → OnGadget s o →
        logged prepareStep p o = some p' → p'.1.interruptPipe = none := by
    intro p o p' hnone ho hstep
    obtain ⟨out, hprepare, -⟩ := logged_eq_some.1 hstep
    rw [← (Prod.mk.inj (Option.some.inj hprepare)).1]
    exact (prepareHardware_noInterrupt hnone fun config hconfig => ho.no_interrupt h hconfig).2
  have hon : Along (fun _ o => OnGadget s o) (logged prepareStep) (pipeContextCreated, []) starts :=
    along_of_events (fun o ho _ => hstarts o ho) _
  exact ((along_congr hiff hstep rfl starts).1 hon).mono fun _ _ hboth => hboth.2

/-! ## The emulated device -/

/-- The endpoints of the emulated device, as the framework tells about them. -/
def deviceKinds : List (UsbPipeType × UsbPipeDirection) :=
  (deviceConfiguration.interfaces.flatMap InterfaceBytes.endpoints).map fun e =>
    let desc := endpointDescriptorAt e.mem 0
    (pipeTypeOf desc.bmAttributes, pipeDirectionOf desc.bEndpointAddress)

theorem hasPipe_of_kind {kind : UsbPipe → Bool} {pipes : List UsbPipe}
    {k : UsbPipeType × UsbPipeDirection} (hk : k ∈ pipes.map UsbPipe.kind)
    (hkind : ∀ handle, kind ⟨handle, k.1, k.2⟩ = true) : HasPipe kind pipes := by
  obtain ⟨pipe, hpipe, rfl⟩ := List.mem_map.1 hk
  exact ⟨pipe, hpipe, hkind pipe.handle⟩

theorem emulatedDevice_selected {config : SelectedConfig}
    (hkinds : config.configuredPipes.map UsbPipe.kind = deviceKinds) (c : PipeContext) :
    ntSuccess (selectInterfaces c (.ok config)).1 = true := by
  have hdevice : deviceKinds = [(.bulk, .output), (.bulk, .input), (.interrupt, .input)] := by
    decide
  rw [hdevice] at hkinds
  have hread : HasPipe UsbPipe.isBulkIn config.configuredPipes :=
    hasPipe_of_kind (k := (.bulk, .input)) (by simp [hkinds]) fun _ => rfl
  have hwrite : HasPipe UsbPipe.isBulkOut config.configuredPipes :=
    hasPipe_of_kind (k := (.bulk, .output)) (by simp [hkinds]) fun _ => rfl
  have hinterrupt : HasPipe UsbPipe.isInterrupt config.configuredPipes :=
    hasPipe_of_kind (k := (.interrupt, .input)) (by simp [hkinds]) fun _ => rfl
  exact (selectionOf_success c config).2 ⟨Or.inl hread, Or.inl hwrite, Or.inl hinterrupt⟩

theorem emulatedDevice_started {handle : Nat} {config : SelectedConfig}
    (hcreate : o.createDevice = .ok handle) (hconfig : o.selectConfig = .ok config)
    (hkinds : config.configuredPipes.map UsbPipe.kind = deviceKinds)
    (hpolicy : o.setPowerPolicy = .ok ()) (hreader : o.configContReader = .ok ())
    (c : PipeContext) : (prepareHardware c o).1 = statusSuccess := by
  obtain ⟨c', hdevice⟩ : ∃ c', createUsbDevice c o.createDevice = .ok c' := by
    rw [hcreate, createUsbDevice]
    cases c.usbDevice with
    | none => exact ⟨_, rfl⟩
    | some _ => exact ⟨_, rfl⟩
  have hselected := emulatedDevice_selected hkinds { c' with usbDeviceTraits := o.traits }
  have hpolicyOk : o.setPowerPolicy.isOk = true := by
    rw [hpolicy]
    rfl
  simp only [prepareHardware, hdevice, hconfig, hselected, hreader, hpolicyOk, Bool.not_true,
    Bool.false_eq_true, and_false, if_false]
  rfl

/-- **Where the host driver starts.** On the emulated device every start succeeds in which the calls
of the framework do, whatever earlier starts have left. On the gadget none does, however often the
driver is started, whichever instances of the loopback function are bound, and at whatever speed. -/
theorem hostDriver_starts :
    (∀ (c : PipeContext) (o : PrepareOutcomes) (handle : Nat) (config : SelectedConfig),
      o.createDevice = .ok handle → o.selectConfig = .ok config →
        config.configuredPipes.map UsbPipe.kind = deviceKinds → o.setPowerPolicy = .ok () →
          o.configContReader = .ok () → (prepareHardware c o).1 = statusSuccess) ∧
    ∀ (t : List LoopBindEvent) (s : LoopGadget) (log : List LoopBindRecord)
      (starts : List PrepareOutcomes), loopGadgetRun t = some (s, log) →
        (∀ o ∈ starts, OnGadget s o) →
          Along (fun p o => ntSuccess (prepareHardware p.1 o).1 = false) (logged prepareStep)
            (pipeContextCreated, []) starts := by
  constructor
  · intro c o handle config hcreate hconfig hkinds hpolicy hreader
    exact emulatedDevice_started hcreate hconfig hkinds hpolicy hreader c
  · intro t s log starts hrun hstarts
    exact gadget_notStarted hrun hstarts

/-- The pipes of the emulated device, and those of an instance at high speed, twice. -/
theorem hostDriver_starts_both :
    (prepareHardware pipeContextCreated
      (preparedWith [bulkOutPipe, bulkInPipe, interruptInPipe])).1 = statusSuccess ∧
    Along (fun p o => ntSuccess (prepareHardware p.1 o).1 = false) (logged prepareStep)
      (pipeContextCreated, [])
      [preparedWith [bulkInPipe, bulkOutPipe], preparedWith [bulkInPipe, bulkOutPipe]] := by
  obtain ⟨hdevice, hgadget⟩ := hostDriver_starts
  constructor
  · exact hdevice _ _ 0 _ rfl rfl (by decide) rfl rfl
  · obtain ⟨⟨s, log⟩, hrun, hon⟩ : ∃ p, loopGadgetRun sharedBinds = some p ∧
        OnGadget p.1 (preparedWith [bulkInPipe, bulkOutPipe]) := by
      refine ⟨_, rfl, fun config hconfig => ?_⟩
      obtain rfl := Except.ok.inj hconfig
      exact ⟨0, _, _, _, rfl, rfl, rfl, rfl, _, List.mem_cons_of_mem _ List.mem_cons_self, rfl⟩
    refine hgadget sharedBinds s log _ hrun fun o ho => ?_
    simp only [List.mem_cons, List.not_mem_nil, or_false, or_self] at ho
    exact ho ▸ hon

end

end UdeSample
