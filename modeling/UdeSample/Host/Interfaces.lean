import UdeSample.Wdf
import UdeSample.Lib.Run

/-!
# Selecting the pipes of the device (`Device.c`)

`OsrFxEvtDevicePrepareHardware` selects the configuration each time the device is started, and
`SelectInterfaces` puts the pipes it finds into the device context, where those of the start before
still are. `selectInterfaces_current_iff` says exactly in which runs every start that succeeds has
found its three pipes in its own list.
-/

namespace UdeSample

open Lib

/-- `WDF_USB_PIPE_TYPE`. -/
inductive UsbPipeType where
  | invalid
  | control
  | isochronous
  | bulk
  | interrupt
deriving DecidableEq, Repr

inductive UsbPipeDirection where
  | input
  | output
deriving DecidableEq, Repr

/-- A `WDFUSBPIPE`, with what the framework tells about it. -/
structure UsbPipe where
  handle : Nat
  pipeType : UsbPipeType
  direction : UsbPipeDirection
deriving DecidableEq, Repr

def UsbPipe.isBulkIn (pipe : UsbPipe) : Bool := pipe.pipeType = .bulk ∧ pipe.direction = .input

def UsbPipe.isBulkOut (pipe : UsbPipe) : Bool := pipe.pipeType = .bulk ∧ pipe.direction = .output

def UsbPipe.isInterrupt (pipe : UsbPipe) : Bool := pipe.pipeType = .interrupt

def UsbPipe.isInterruptIn (pipe : UsbPipe) : Bool := pipe.isInterrupt ∧ pipe.direction = .input

/-- The part of `DEVICE_CONTEXT` that starting the device fills; `none` is `NULL`. -/
structure PipeContext where
  usbDevice : Option Nat
  usbInterface : Option Nat
  bulkReadPipe : Option UsbPipe
  bulkWritePipe : Option UsbPipe
  interruptPipe : Option UsbPipe
  usbDeviceTraits : ULONG
deriving DecidableEq

def pipeContextCreated : PipeContext :=
  { usbDevice := none, usbInterface := none, bulkReadPipe := none, bulkWritePipe := none
    interruptPipe := none, usbDeviceTraits := 0 }

/-- What `WdfUsbTargetDeviceSelectConfig` yields: the interface, and its pipes in order. -/
structure SelectedConfig where
  configuredUsbInterface : Nat
  configuredPipes : List UsbPipe

/-- The body of the loop over the configured pipes. -/
def selectPipe (s : PipeContext) (pipe : UsbPipe) : PipeContext :=
  let s := if pipe.pipeType = .interrupt then { s with interruptPipe := some pipe } else s
  let s := if pipe.pipeType = .bulk ∧ pipe.direction = .input then
    { s with bulkReadPipe := some pipe } else s
  if pipe.pipeType = .bulk ∧ pipe.direction = .output then
    { s with bulkWritePipe := some pipe } else s

def statusInvalidDeviceState : NTSTATUS := 0xC0000184

theorem statusInvalidDeviceState_failed : ¬ ntSuccess statusInvalidDeviceState = true := by decide

def selectInterfaces (s : PipeContext) (o : NtResult SelectedConfig) : NTSTATUS × PipeContext :=
  match o with
  | .error e => (e.status, s)
  | .ok config =>
    let s := config.configuredPipes.foldl selectPipe
      { s with usbInterface := some config.configuredUsbInterface }
    if s.bulkWritePipe.isSome && s.bulkReadPipe.isSome && s.interruptPipe.isSome then
      (statusSuccess, s)
    else (statusInvalidDeviceState, s)

/-- `WDF_USB_DEVICE_TRAIT_REMOTE_WAKE_CAPABLE` -/
def traitRemoteWakeCapable : ULONG := 2

/-- What the framework answers while the device is started. -/
structure PrepareOutcomes where
  createDevice : NtResult Nat
  information : NtResult ULONG
  selectConfig : NtResult SelectedConfig
  setPowerPolicy : NtResult Unit
  configContReader : NtResult Unit

def PrepareOutcomes.traits (o : PrepareOutcomes) : ULONG :=
  match o.information with
  | .ok traits => traits
  | .error _ => 0

/-- A selection that succeeded: the context before, the pipes, and the status and the context
after. -/
structure Selection where
  before : PipeContext
  pipes : List UsbPipe
  status : NTSTATUS
  after : PipeContext

/-- The device handle is created on the first call, and kept. -/
def createUsbDevice (s : PipeContext) (o : NtResult Nat) : NtResult PipeContext :=
  match s.usbDevice with
  | some _ => .ok s
  | none => o.map fun h => { s with usbDevice := some h }

/-- `OsrFxEvtDevicePrepareHardware`, with the selection it makes, if there is a configuration to
select from. -/
def prepareHardware (s : PipeContext) (o : PrepareOutcomes) :
    NTSTATUS × PipeContext × List Selection :=
  match createUsbDevice s o.createDevice with
  | .error e => (e.status, s, [])
  | .ok s =>
    let s := { s with usbDeviceTraits := o.traits }
    let (selected, s') := selectInterfaces s o.selectConfig
    let status :=
      if !ntSuccess selected then selected
      else if o.traits &&& traitRemoteWakeCapable ≠ 0 ∧ !o.setPowerPolicy.isOk then
        o.setPowerPolicy.status
      else o.configContReader.status
    let selections := match o.selectConfig with
      | .error _ => []
      | .ok config =>
        [{ before := s, pipes := config.configuredPipes, status := selected, after := s' }]
    (status, s', selections)

/-- One start of the device. -/
def prepareStep (s : PipeContext) (o : PrepareOutcomes) :
    Option (PipeContext × List Selection) :=
  some (prepareHardware s o).2

/-! ## What a selection finds -/

def HasPipe (kind : UsbPipe → Bool) (pipes : List UsbPipe) : Prop :=
  ∃ pipe ∈ pipes, kind pipe = true

instance (kind : UsbPipe → Bool) (pipes : List UsbPipe) : Decidable (HasPipe kind pipes) :=
  inferInstanceAs (Decidable (∃ pipe ∈ pipes, kind pipe = true))

/-- The last pipe of a kind. -/
def lastPipe (kind : UsbPipe → Bool) (pipes : List UsbPipe) : Option UsbPipe :=
  (pipes.filter kind).getLast?

theorem lastPipe_eq_some {kind : UsbPipe → Bool} {pipes : List UsbPipe} {pipe : UsbPipe}
    (h : lastPipe kind pipes = some pipe) : pipe ∈ pipes ∧ kind pipe = true :=
  List.mem_filter.1 (List.mem_of_getLast? h)

theorem lastPipe_isSome {kind : UsbPipe → Bool} {pipes : List UsbPipe} :
    (lastPipe kind pipes).isSome = true ↔ HasPipe kind pipes := by
  rw [lastPipe, List.getLast?_isSome, Ne, List.filter_eq_nil_iff]
  simp [HasPipe]

theorem lastPipe_concat (kind : UsbPipe → Bool) (pipes : List UsbPipe) (pipe : UsbPipe) :
    lastPipe kind (pipes ++ [pipe]) =
      if kind pipe then some pipe else lastPipe kind pipes := by
  rw [lastPipe, List.filter_append]
  by_cases hkind : kind pipe = true <;> simp [hkind, lastPipe]

/-- What was found before stays where nothing is found. -/
theorem selectPipe_foldl (pipes : List UsbPipe) (s : PipeContext) :
    pipes.foldl selectPipe s = { s with
      bulkReadPipe := (lastPipe UsbPipe.isBulkIn pipes).or s.bulkReadPipe
      bulkWritePipe := (lastPipe UsbPipe.isBulkOut pipes).or s.bulkWritePipe
      interruptPipe := (lastPipe UsbPipe.isInterrupt pipes).or s.interruptPipe } := by
  induction pipes using List.reverseRecOn with
  | nil => rfl
  | append_singleton pipes pipe ih =>
    rw [List.foldl_append, ih, List.foldl_cons, List.foldl_nil]
    simp only [lastPipe_concat]
    obtain ⟨handle, pipeType, direction⟩ := pipe
    cases pipeType <;> cases direction <;>
      simp [selectPipe, UsbPipe.isBulkIn, UsbPipe.isBulkOut, UsbPipe.isInterrupt]

/-- A handle after the loop: found in the list, or held before. -/
theorem lastPipe_or_isSome {kind : UsbPipe → Bool} {pipes : List UsbPipe} {held : Option UsbPipe} :
    ((lastPipe kind pipes).or held).isSome = true ↔ HasPipe kind pipes ∨ held.isSome = true := by
  rw [Option.isSome_or, Bool.or_eq_true, lastPipe_isSome]

theorem not_hasPipe_or {kind : UsbPipe → Bool} {pipes : List UsbPipe} {held : Option UsbPipe} :
    ¬ (HasPipe kind pipes ∨ held.isSome = true) ↔ ¬ HasPipe kind pipes ∧ held = none := by
  rw [not_or, Bool.not_eq_true, Option.isSome_eq_false_iff, Option.isNone_iff_eq_none]

theorem lastPipe_or_of_hasPipe {kind : UsbPipe → Bool} {pipes : List UsbPipe}
    (h : HasPipe kind pipes) (held : Option UsbPipe) :
    ∃ pipe ∈ pipes, kind pipe = true ∧ lastPipe kind pipes = some pipe ∧
      (lastPipe kind pipes).or held = some pipe := by
  obtain ⟨pipe, hlast⟩ := Option.isSome_iff_exists.1 (lastPipe_isSome.2 h)
  obtain ⟨hmem, hkind⟩ := lastPipe_eq_some hlast
  exact ⟨pipe, hmem, hkind, hlast, by rw [hlast, Option.some_or]⟩

/-- The selection made in a context. -/
def selectionOf (s : PipeContext) (config : SelectedConfig) : Selection :=
  { before := s, pipes := config.configuredPipes, status := (selectInterfaces s (.ok config)).1
    after := (selectInterfaces s (.ok config)).2 }

theorem selectionOf_after (s : PipeContext) (config : SelectedConfig) :
    (selectionOf s config).after = { s with
      usbInterface := some config.configuredUsbInterface
      bulkReadPipe := (lastPipe UsbPipe.isBulkIn config.configuredPipes).or s.bulkReadPipe
      bulkWritePipe := (lastPipe UsbPipe.isBulkOut config.configuredPipes).or s.bulkWritePipe
      interruptPipe :=
        (lastPipe UsbPipe.isInterrupt config.configuredPipes).or s.interruptPipe } := by
  simp only [selectionOf, selectInterfaces, selectPipe_foldl]
  split <;> rfl

/-- The test is made on the context, whatever its handles come from. -/
theorem selectionOf_success (s : PipeContext) (config : SelectedConfig) :
    ntSuccess (selectionOf s config).status = true ↔
      (HasPipe UsbPipe.isBulkIn config.configuredPipes ∨ s.bulkReadPipe.isSome = true) ∧
        (HasPipe UsbPipe.isBulkOut config.configuredPipes ∨ s.bulkWritePipe.isSome = true) ∧
          (HasPipe UsbPipe.isInterrupt config.configuredPipes ∨
            s.interruptPipe.isSome = true) := by
  simp only [← lastPipe_or_isSome]
  simp only [selectionOf, selectInterfaces, selectPipe_foldl, Bool.and_eq_true]
  split
  · rename_i hfound
    exact iff_of_true rfl ⟨hfound.1.2, hfound.1.1, hfound.2⟩
  · rename_i hmissing
    exact iff_of_false statusInvalidDeviceState_failed fun hfound =>
      hmissing ⟨⟨hfound.2.1, hfound.1⟩, hfound.2.2⟩

/-- The selection depends on this call's list only. -/
structure Selection.Current (c : Selection) : Prop where
  success_iff : ntSuccess c.status = true ↔
    HasPipe UsbPipe.isBulkIn c.pipes ∧ HasPipe UsbPipe.isBulkOut c.pipes ∧
      HasPipe UsbPipe.isInterruptIn c.pipes
  own : ntSuccess c.status = true →
    (∃ pipe ∈ c.pipes, pipe.isBulkIn = true ∧ c.after.bulkReadPipe = some pipe) ∧
      (∃ pipe ∈ c.pipes, pipe.isBulkOut = true ∧ c.after.bulkWritePipe = some pipe) ∧
        ∃ pipe ∈ c.pipes, pipe.isInterruptIn = true ∧ c.after.interruptPipe = some pipe

/-- In a list of pipes that has all three, the last interrupt pipe is an IN pipe; where one is
missing, a kind that the list lacks is not held from before either. -/
def PipeContext.FindsOwn (s : PipeContext) (pipes : List UsbPipe) : Prop :=
  (HasPipe UsbPipe.isBulkIn pipes ∧ HasPipe UsbPipe.isBulkOut pipes ∧
      (lastPipe UsbPipe.isInterrupt pipes).any UsbPipe.isInterruptIn = true) ∨
    (¬ HasPipe UsbPipe.isBulkIn pipes ∧ s.bulkReadPipe = none) ∨
      (¬ HasPipe UsbPipe.isBulkOut pipes ∧ s.bulkWritePipe = none) ∨
        (¬ HasPipe UsbPipe.isInterrupt pipes ∧ s.interruptPipe = none)

instance (s : PipeContext) (pipes : List UsbPipe) : Decidable (s.FindsOwn pipes) :=
  inferInstanceAs (Decidable (_ ∨ _))

theorem UsbPipe.isInterrupt_of_in {pipe : UsbPipe} (h : pipe.isInterruptIn = true) :
    pipe.isInterrupt = true :=
  (of_decide_eq_true h).1

theorem hasPipe_interrupt {pipes : List UsbPipe} (h : HasPipe UsbPipe.isInterruptIn pipes) :
    HasPipe UsbPipe.isInterrupt pipes := by
  obtain ⟨pipe, hmem, hin⟩ := h
  exact ⟨pipe, hmem, UsbPipe.isInterrupt_of_in hin⟩

theorem Selection.current_of_failed {c : Selection} (hfail : ¬ ntSuccess c.status = true)
    (hmissing : ¬ (HasPipe UsbPipe.isBulkIn c.pipes ∧ HasPipe UsbPipe.isBulkOut c.pipes ∧
      HasPipe UsbPipe.isInterruptIn c.pipes)) : c.Current :=
  ⟨iff_of_false hfail hmissing, fun hok => absurd hok hfail⟩

theorem PipeContext.FindsOwn.current {s : PipeContext} {config : SelectedConfig}
    (h : s.FindsOwn config.configuredPipes) : (selectionOf s config).Current := by
  have hsuccess := selectionOf_success s config
  rcases h with ⟨hread, hwrite, hlast⟩ | ⟨hno, hheld⟩ | ⟨hno, hheld⟩ | ⟨hno, hheld⟩
  · obtain ⟨pipe, hpipe, hin⟩ := (Option.any_eq_true _ _).1 hlast
    have hmem : pipe ∈ config.configuredPipes := (lastPipe_eq_some hpipe).1
    have hinterrupt : HasPipe UsbPipe.isInterruptIn config.configuredPipes := ⟨pipe, hmem, hin⟩
    refine ⟨?_, ?_⟩
    · exact iff_of_true
        (hsuccess.2 ⟨Or.inl hread, Or.inl hwrite, Or.inl (hasPipe_interrupt hinterrupt)⟩)
        ⟨hread, hwrite, hinterrupt⟩
    · intro _
      rw [selectionOf_after]
      obtain ⟨pipe₁, hmem₁, hkind₁, -, hor₁⟩ := lastPipe_or_of_hasPipe hread s.bulkReadPipe
      obtain ⟨pipe₂, hmem₂, hkind₂, -, hor₂⟩ := lastPipe_or_of_hasPipe hwrite s.bulkWritePipe
      refine ⟨⟨pipe₁, hmem₁, hkind₁, hor₁⟩, ⟨pipe₂, hmem₂, hkind₂, hor₂⟩, pipe, hmem, hin, ?_⟩
      simp only [hpipe, Option.some_or]
  · refine Selection.current_of_failed (fun hok => ?_) fun hall => hno hall.1
    exact not_hasPipe_or.2 ⟨hno, hheld⟩ (hsuccess.1 hok).1
  · refine Selection.current_of_failed (fun hok => ?_) fun hall => hno hall.2.1
    exact not_hasPipe_or.2 ⟨hno, hheld⟩ (hsuccess.1 hok).2.1
  · refine Selection.current_of_failed (fun hok => ?_) fun hall =>
      hno (hasPipe_interrupt hall.2.2)
    exact not_hasPipe_or.2 ⟨hno, hheld⟩ (hsuccess.1 hok).2.2

theorem Selection.Current.findsOwn {s : PipeContext} {config : SelectedConfig}
    (h : (selectionOf s config).Current) : s.FindsOwn config.configuredPipes := by
  have hsuccess := selectionOf_success s config
  by_cases hok : ntSuccess (selectionOf s config).status = true
  · obtain ⟨hread, hwrite, hinterrupt⟩ := h.success_iff.1 hok
    obtain ⟨pipe, -, hin, hafter⟩ := (h.own hok).2.2
    obtain ⟨pipe', -, -, hlast, hor⟩ :=
      lastPipe_or_of_hasPipe (hasPipe_interrupt hinterrupt) s.interruptPipe
    rw [selectionOf_after] at hafter
    obtain rfl : pipe' = pipe := Option.some.inj (hor.symm.trans hafter)
    exact Or.inl ⟨hread, hwrite, (Option.any_eq_true _ _).2 ⟨pipe', hlast, hin⟩⟩
  · have hmissing := mt hsuccess.2 hok
    rw [not_and_or, not_and_or, not_hasPipe_or, not_hasPipe_or, not_hasPipe_or] at hmissing
    exact Or.inr hmissing

/-- `SelectInterfaces` is right in a context exactly when it finds its own pipes there. -/
theorem selectionOf_current_iff (s : PipeContext) (config : SelectedConfig) :
    (selectionOf s config).Current ↔ s.FindsOwn config.configuredPipes :=
  ⟨Selection.Current.findsOwn, PipeContext.FindsOwn.current⟩

/-! ## Every start of the device -/

/-- The pipes that a start gets to select from. -/
def PrepareOutcomes.configured (o : PrepareOutcomes) (s : PipeContext) : Option (List UsbPipe) :=
  match createUsbDevice s o.createDevice, o.selectConfig with
  | .ok _, .ok config => some config.configuredPipes
  | _, _ => none

/-- The context and the outcomes of a start leave no handle of an earlier start to be taken for one
of this start. -/
def FindsOwnPipes (s : PipeContext) (o : PrepareOutcomes) : Prop :=
  ∀ pipes ∈ o.configured s, s.FindsOwn pipes

instance (s : PipeContext) (o : PrepareOutcomes) : Decidable (FindsOwnPipes s o) :=
  inferInstanceAs (Decidable (∀ pipes ∈ o.configured s, s.FindsOwn pipes))

theorem createUsbDevice_eq_ok {s s' : PipeContext} {o : NtResult Nat}
    (h : createUsbDevice s o = .ok s') :
    s' = s ∨ ∃ handle, s' = { s with usbDevice := some handle } := by
  unfold createUsbDevice at h
  split at h
  · exact Or.inl (Except.ok.inj h).symm
  · cases o with
    | error e => cases h
    | ok handle => exact Or.inr ⟨handle, (Except.ok.inj h).symm⟩

/-- The selection sees the pipe handles as the start before left them. -/
theorem prepareHardware_selections (s : PipeContext) (o : PrepareOutcomes) :
    (o.configured s = none ∧ (prepareHardware s o).2.2 = []) ∨
      ∃ s₁ config, o.configured s = some config.configuredPipes ∧
        (∀ pipes, s₁.FindsOwn pipes ↔ s.FindsOwn pipes) ∧
          (prepareHardware s o).2.2 = [selectionOf s₁ config] := by
  unfold PrepareOutcomes.configured prepareHardware
  cases hdevice : createUsbDevice s o.createDevice with
  | error e => exact Or.inl ⟨rfl, rfl⟩
  | ok s' =>
    cases hconfig : o.selectConfig with
    | error e => exact Or.inl ⟨rfl, rfl⟩
    | ok config =>
      refine Or.inr ⟨{ s' with usbDeviceTraits := o.traits }, config, rfl, fun pipes => ?_, rfl⟩
      rcases createUsbDevice_eq_ok hdevice with rfl | ⟨handle, rfl⟩ <;> rfl

/-- **The pipes of this start**, exactly when no handle of an earlier start can be taken for one of
them: in every list that has the three pipes the last interrupt pipe is an IN pipe, and where one is
missing, a kind the list lacks has no handle in the context yet. -/
theorem selectInterfaces_current_iff {s₀ s : PipeContext} {t : List PrepareOutcomes}
    {log : List Selection} (hrun : run (logged prepareStep) (s₀, []) t = some (s, log)) :
    Along (fun p o => FindsOwnPipes p.1 o) (logged prepareStep) (s₀, []) t ↔
      ∀ c ∈ log, c.Current := by
  refine along_iff_logged (C := FindsOwnPipes) (fun _ => True) Selection.Current ?_ ?_ trivial
    (List.forall_mem_nil _) hrun
  · intro s o s' out _ hown hstep
    obtain rfl : (prepareHardware s o).2.2 = out := (Prod.mk.inj (Option.some.inj hstep)).2
    refine ⟨trivial, ?_⟩
    rcases prepareHardware_selections s o with ⟨-, hnone⟩ | ⟨s₁, config, hpipes, hsame, hone⟩
    · rw [hnone]
      exact List.forall_mem_nil _
    · rw [hone, List.forall_mem_singleton, selectionOf_current_iff, hsame]
      exact hown _ hpipes
  · intro s o s' out _ hown hstep
    obtain rfl : (prepareHardware s o).2.2 = out := (Prod.mk.inj (Option.some.inj hstep)).2
    rcases prepareHardware_selections s o with ⟨hnone, -⟩ | ⟨s₁, config, hpipes, hsame, hone⟩
    · refine absurd (fun pipes hmem => ?_) hown
      rw [hnone] at hmem
      cases hmem
    · refine ⟨selectionOf s₁ config, by rw [hone]; exact List.mem_cons_self, fun hcurrent => ?_⟩
      refine hown fun pipes hmem => ?_
      obtain rfl : config.configuredPipes = pipes := Option.some.inj (hpipes.symm.trans hmem)
      exact (hsame _).1 ((selectionOf_current_iff s₁ config).1 hcurrent)

/-! ## Two runs -/

def bulkInPipe : UsbPipe := { handle := 1, pipeType := .bulk, direction := .input }

def bulkOutPipe : UsbPipe := { handle := 2, pipeType := .bulk, direction := .output }

def interruptInPipe : UsbPipe := { handle := 3, pipeType := .interrupt, direction := .input }

/-- A start in which everything succeeds, with these pipes. -/
def preparedWith (pipes : List UsbPipe) : PrepareOutcomes :=
  { createDevice := .ok 0, information := .ok 0
    selectConfig := .ok { configuredUsbInterface := 0, configuredPipes := pipes }
    setPowerPolicy := .ok (), configContReader := .ok () }

/-- A start without the interrupt pipe fails, and the next start, which has all three, succeeds. -/
theorem selectInterfaces_current_restart :
    ∃ s log, run (logged prepareStep) (pipeContextCreated, [])
        [preparedWith [bulkInPipe, bulkOutPipe],
          preparedWith [interruptInPipe, bulkOutPipe, bulkInPipe]] = some (s, log) ∧
      (∀ c ∈ log, c.Current) ∧ log.map Selection.status =
        [statusInvalidDeviceState, statusSuccess] := by
  have halong : Along (fun p o => FindsOwnPipes p.1 o) (logged prepareStep)
      (pipeContextCreated, []) [preparedWith [bulkInPipe, bulkOutPipe],
        preparedWith [interruptInPipe, bulkOutPipe, bulkInPipe]] := by
    decide
  refine ⟨_, _, rfl, ?_, rfl⟩
  exact (selectInterfaces_current_iff rfl).1 halong

/-- The device is restarted and has no interrupt pipe any more, and the start succeeds with the
interrupt pipe of the start before. -/
theorem selectInterfaces_not_current :
    ∃ s log, run (logged prepareStep) (pipeContextCreated, [])
        [preparedWith [bulkInPipe, bulkOutPipe, interruptInPipe],
          preparedWith [bulkInPipe, bulkOutPipe]] = some (s, log) ∧
      ∃ c ∈ log, ntSuccess c.status = true ∧ c.pipes = [bulkInPipe, bulkOutPipe] ∧
        c.after.interruptPipe = some interruptInPipe ∧ ¬ c.Current := by
  refine ⟨_, _, rfl, _, List.mem_cons_of_mem _ List.mem_cons_self, by decide, rfl, rfl, ?_⟩
  intro hcurrent
  have hinterrupt := (hcurrent.success_iff.1 (by decide)).2.2
  exact absurd hinterrupt (by decide)

end UdeSample
