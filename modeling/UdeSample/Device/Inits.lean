import UdeSample.Device.Lifecycle
import UdeSample.Lib.Ledger

/-!
# What the driver holds while it creates things (`Device.c`, `usbdevice.c`)

`Usb_Initialize` asks for the `UDECXUSBDEVICE_INIT` of the child device when the controller is
created, and `Usb_Destroy` frees it when the controller goes, unless a device was created from it;
the plug-in holds a copy of the configuration descriptor in the pool, and for each endpoint a
`UDECXUSBENDPOINT_INIT`. The events are those of `Device.Lifecycle` in a controller that is added
and goes, and may be added again.

`inits_accounted`: whatever fails, each of these is freed or used up once, and nothing is held when
there is no controller. `inits_null_iff`: a second start of a controller goes on with a `NULL` in
place of the init that the first one used up.
-/

namespace UdeSample

open Lib

variable {β F : Type}

/-- What was handed out and not given back. A handle that was given back is not handed out again. -/
structure InitMemory where
  deviceInits : Store Unit
  endpointInits : Store Unit
  pool : Store Unit

/-- A call with an init or a pool entry; `none` is `NULL`. -/
inductive InitCall where
  /-- `UdecxUsbDeviceInitAddDescriptor` and its siblings -/
  | addDescriptor (init : Option Nat)
  /-- `UdecxUsbDeviceCreate`, which uses the init up -/
  | deviceCreate (init : Option Nat)
  | deviceInitFree (init : Nat)
  /-- `UdecxUsbEndpointCreate`, which uses the init up -/
  | endpointCreate (init : Nat)
  | endpointInitFree (init : Nat)
  /-- `ExFreePoolWithTag` -/
  | freePool (entry : Nat)
deriving DecidableEq

namespace InitMemory

/-- A call with an init that is good, or `NULL`. -/
def useDeviceInit (m : InitMemory) (init : Option Nat) : Option Unit :=
  match init with
  | none => some ()
  | some i => m.deviceInits.get? i

/-- A call that takes the init. -/
def takeDeviceInit (m : InitMemory) (init : Option Nat) : Option InitMemory :=
  match init with
  | none => some m
  | some i => (m.deviceInits.free? i).map fun deviceInits => { m with deviceInits }

def takeEndpointInit (m : InitMemory) (init : Nat) : Option InitMemory :=
  (m.endpointInits.free? init).map fun endpointInits => { m with endpointInits }

def exFreePool (m : InitMemory) (entry : Nat) : Option InitMemory :=
  (m.pool.free? entry).map fun pool => { m with pool }

end InitMemory

/-! ## Creating the controller -/

/-- What the framework answers to `Usb_Initialize`. -/
structure InitializeOutcomes where
  allocated : Bool
  deviceDescriptor : NtResult Unit
  languageDescriptor : NtResult Unit
  manufacturerString : NtResult Unit
  productString : NtResult Unit

/-- The descriptors, one after another until one is refused. -/
def addDescriptors (m : InitMemory) (init : Option Nat) :
    List (NtResult Unit) → Option (NTSTATUS × List InitCall)
  | [] => some (statusSuccess, [])
  | o :: rest =>
    (m.useDeviceInit init).bind fun _ =>
      match o with
      | .error e => some (e.status, [.addDescriptor init])
      | .ok () =>
        (addDescriptors m init rest).map fun (status, calls) =>
          (status, .addDescriptor init :: calls)

/-- `Usb_Initialize`: its status, and `ChildDeviceInit`. -/
def usbInitialize (o : InitializeOutcomes) (m : InitMemory) :
    Option (NTSTATUS × Option Nat × InitMemory × List InitCall) :=
  if o.allocated then
    let childDeviceInit := some m.deviceInits.next
    let m := { m with deviceInits := m.deviceInits.create () }
    (addDescriptors m childDeviceInit
      [o.deviceDescriptor, o.languageDescriptor, o.manufacturerString, o.productString]).map
        fun (status, calls) => (status, childDeviceInit, m, calls)
  else some (statusInsufficientResources, none, m, [])

/-- `Usb_Destroy`. -/
def usbDestroy (childDeviceInit : Option Nat) (m : InitMemory) :
    Option (InitMemory × List InitCall) :=
  match childDeviceInit with
  | none => some (m, [])
  | some init => (m.takeDeviceInit (some init)).map fun m => (m, [.deviceInitFree init])

/-- What the framework answers to `UDEFX2CreateDevice`. -/
structure CreationOutcomes where
  /-- up to `WdfDeviceCreate` -/
  deviceCreate : NtResult Unit
  /-- from there to the default queue -/
  prepared : NtResult Unit
  childDevice : InitializeOutcomes

/-! ## Plugging in -/

/-- The objects of the driver with its memory, and the calls made so far. -/
structure PlugInState (β F : Type) where
  objects : Objects β F
  memory : InitMemory
  calls : List InitCall

/-- Where the init of an endpoint ends. -/
def EndpointOutcomes.initCall (o : EndpointOutcomes) (init : Nat) : InitCall :=
  if o.endpoint.isOk then .endpointCreate init else .endpointInitFree init

/-- `UsbCreateEndpointObj` once the queue is there, with its `endpointInit`. -/
def createEndpointOn (o : EndpointOutcomes) (s : PlugInState β F) :
    Option (NTSTATUS × PlugInState β F) :=
  if o.initAllocated then
    let endpointInit := s.memory.endpointInits.next
    let m := { s.memory with endpointInits := s.memory.endpointInits.create () }
    (m.takeEndpointInit endpointInit).map fun memory =>
      (o.endpoint.status, { s with memory, calls := s.calls ++ [o.initCall endpointInit] })
  else some (statusInsufficientResources, s)

def usbCreateEndpointObjOn [Zero F] (device : Option Nat) (epAddr : UCHAR) (o : EndpointOutcomes)
    (s : PlugInState β F) : Option (NTSTATUS × PlugInState β F) :=
  onSuccess ((ioRetrieveEpQueue s.objects device epAddr o).map
    fun (status, _, objects) => (status, { s with objects })) (createEndpointOn o)

def createEndpointsOn [Zero F] (device : Nat) :
    List (UCHAR × EndpointOutcomes) → PlugInState β F → Option (NTSTATUS × PlugInState β F)
  | [], s => some (statusSuccess, s)
  | (epAddr, o) :: rest, s =>
    onSuccess (usbCreateEndpointObjOn (some device) epAddr o s) (createEndpointsOn device rest)

/-- `initializeAndPlugIn`, with the memory. -/
def initializeAndPlugInOn [Zero F] (o : PlugInOutcomes) (device : Nat) (s : PlugInState β F) :
    Option (NTSTATUS × PlugInState β F) :=
  onSuccess ((ioAllocateContext s.objects device o.allocateContext).map
      fun (status, objects) => (status, { s with objects })) fun s =>
    onSuccess (createEndpointsOn device o.endpoints
        { s with objects := s.objects.setAwake (some device) true })
      fun s => some (o.plugIn.status, s)

/-- The controller with the memory of the driver. -/
structure InitState (β F : Type) where
  controller : Option (Controller β F)
  childDeviceInit : Option Nat
  memory : InitMemory

/-- `Usb_ReadDescriptorsAndPlugIn` from the copied descriptor to its label `exit`. -/
def configureAndPlugIn [Zero F] (o : PlugInOutcomes) (c : Controller β F)
    (childDeviceInit : Option Nat) (m : InitMemory) :
    Option (NTSTATUS × InitState β F × List InitCall) :=
  (m.useDeviceInit childDeviceInit).bind fun _ =>
    match o.addDescriptor, o.deviceCreate with
    | .error e, _ | .ok (), .error e =>
      some (e.status, ⟨some c, childDeviceInit, m⟩, [.addDescriptor childDeviceInit])
    | .ok (), .ok () =>
      (m.takeDeviceInit childDeviceInit).bind fun memory =>
        (initializeAndPlugInOn o c.objects.next
          { objects := c.objects.create (.usbDevice { ioContext := none, isAwake := false })
            memory
            calls := [.addDescriptor childDeviceInit, .deviceCreate childDeviceInit] }).map
              fun (status, s) => (status,
                { controller := some { c with
                    objects := s.objects, childDeviceInit := false
                    childDevice := some c.objects.next }
                  childDeviceInit := none
                  memory := s.memory }, s.calls)

/-- `Usb_ReadDescriptorsAndPlugIn`, with `pComputedConfigDescSet`. -/
def usbReadDescriptorsAndPlugInOn [Zero F] (o : PlugInOutcomes) (c : Controller β F)
    (childDeviceInit : Option Nat) (m : InitMemory) :
    Option (NTSTATUS × InitState β F × List InitCall) :=
  if !o.pool then
    some (statusInsufficientResources, ⟨some c, childDeviceInit, m⟩, [])
  else
    let pComputedConfigDescSet := m.pool.next
    (configureAndPlugIn o c childDeviceInit { m with pool := m.pool.create () }).bind
      fun (status, s, calls) =>
        (s.memory.exFreePool pComputedConfigDescSet).map fun memory =>
          (status, { s with memory }, calls ++ [.freePool pComputedConfigDescSet])

/-! ## The life of controllers -/

inductive InitEvent (β : Type) where
  /-- `UDEFX2EvtDeviceAdd` -/
  | add (o : CreationOutcomes)
  | lifecycle (e : LifecycleEvent β)
  /-- `ControllerWdfEvtCleanupCallback` -/
  | cleanup

/-- The framework deletes a controller: `ControllerWdfEvtCleanupCallback`. -/
def controllerWdfEvtCleanupCallback (childDeviceInit : Option Nat) (m : InitMemory) :
    Option (InitState β F × List InitCall) :=
  (usbDestroy childDeviceInit m).map fun (memory, calls) => (⟨none, none, memory⟩, calls)

/-- `UDEFX2CreateDevice`; the framework deletes a controller that could not be prepared. -/
def udefx2CreateDeviceOn (o : CreationOutcomes) (m : InitMemory) :
    Option (InitState β F × List InitCall) :=
  match o.deviceCreate, o.prepared with
  | .error _, _ => some (⟨none, none, m⟩, [])
  | .ok (), .error _ => controllerWdfEvtCleanupCallback none m
  | .ok (), .ok () =>
    (usbInitialize o.childDevice m).bind fun (status, childDeviceInit, m, calls) =>
      if ntSuccess status then some (⟨some controllerCreated, childDeviceInit, m⟩, calls)
      else
        (controllerWdfEvtCleanupCallback childDeviceInit m).map fun (s, calls') =>
          (s, calls ++ calls')

def initStep [Zero F] (flagsOf : List β → F) (s : InitState β F) :
    InitEvent β → Option (InitState β F × List InitCall)
  | .add o =>
    match s.controller with
    | some _ => none
    | none => udefx2CreateDeviceOn o s.memory
  | .lifecycle (.d0Entry .d3Final o) =>
    s.controller.bind fun c =>
      (usbReadDescriptorsAndPlugInOn o { c with allowOnlyResetInterrupts := true }
        s.childDeviceInit s.memory).map Prod.snd
  | .lifecycle e =>
    s.controller.bind fun c => (lifecycleStep flagsOf c e).map fun c =>
      ({ s with controller := some c }, [])
  | .cleanup =>
    s.controller.bind fun _ => controllerWdfEvtCleanupCallback s.childDeviceInit s.memory

def initStateInit : InitState β F := ⟨none, none, ⟨.empty, .empty, .empty⟩⟩

def initRun [Zero F] (flagsOf : List β → F) (t : List (InitEvent β)) :
    Option (InitState β F × List InitCall) :=
  run (logged (initStep flagsOf)) (initStateInit, []) t

/-! ## What was given back -/

def usedDeviceInits (log : List InitCall) : List Nat :=
  log.filterMap fun
    | .deviceCreate init => init
    | .deviceInitFree init => some init
    | .addDescriptor _ | .endpointCreate _ | .endpointInitFree _ | .freePool _ => none

def usedEndpointInits (log : List InitCall) : List Nat :=
  log.filterMap fun
    | .endpointCreate init | .endpointInitFree init => some init
    | .addDescriptor _ | .deviceCreate _ | .deviceInitFree _ | .freePool _ => none

def freedPool (log : List InitCall) : List Nat :=
  log.filterMap fun
    | .freePool entry => some entry
    | .addDescriptor _ | .deviceCreate _ | .deviceInitFree _ | .endpointCreate _
    | .endpointInitFree _ => none

@[simp] theorem usedDeviceInits_append (log calls : List InitCall) :
    usedDeviceInits (log ++ calls) = usedDeviceInits log ++ usedDeviceInits calls :=
  List.filterMap_append

@[simp] theorem usedEndpointInits_append (log calls : List InitCall) :
    usedEndpointInits (log ++ calls) = usedEndpointInits log ++ usedEndpointInits calls :=
  List.filterMap_append

@[simp] theorem freedPool_append (log calls : List InitCall) :
    freedPool (log ++ calls) = freedPool log ++ freedPool calls :=
  List.filterMap_append

/-- The memory against the calls so far, with the init and the pool entries that are held. -/
structure InitInv (init : Option Nat) (held : List Nat) (m : InitMemory) (log : List InitCall) :
    Prop where
  deviceInits : m.deviceInits.Ledger init.toList (usedDeviceInits log)
  endpointInits : m.endpointInits.Ledger [] (usedEndpointInits log)
  pool : m.pool.Ledger held (freedPool log)

namespace InitInv

variable {init : Option Nat} {held : List Nat} {m : InitMemory} {log : List InitCall}

theorem empty : InitInv none [] ⟨.empty, .empty, .empty⟩ [] := ⟨.empty, .empty, .empty⟩

/-- Calls that give nothing back. -/
theorem quiet (h : InitInv init held m log) (calls : List InitCall)
    (hcalls : usedDeviceInits calls = [] ∧ usedEndpointInits calls = [] ∧ freedPool calls = []) :
    InitInv init held m (log ++ calls) := by
  obtain ⟨hdevice, hendpoint, hpool⟩ := hcalls
  refine ⟨?_, ?_, ?_⟩
  · rw [usedDeviceInits_append, hdevice, List.append_nil]
    exact h.deviceInits
  · rw [usedEndpointInits_append, hendpoint, List.append_nil]
    exact h.endpointInits
  · rw [freedPool_append, hpool, List.append_nil]
    exact h.pool

/-- The init that is held is good. -/
theorem useDeviceInit (h : InitInv init held m log) : m.useDeviceInit init = some () := by
  cases init with
  | none => rfl
  | some i =>
    obtain ⟨_, hlive⟩ := (h.deviceInits.mem i).1 (List.mem_singleton_self i)
    exact hlive

/-- The init that is held is taken by a call that uses it up. -/
theorem takeDeviceInit (h : InitInv init held m log) (call : InitCall)
    (hcall : usedDeviceInits [call] = init.toList ∧ usedEndpointInits [call] = [] ∧
      freedPool [call] = []) :
    ∃ m', m.takeDeviceInit init = some m' ∧ m'.pool = m.pool ∧
      InitInv none held m' (log ++ [call]) := by
  obtain ⟨hused, hquiet⟩ := hcall
  cases init with
  | none => exact ⟨m, rfl, rfl, h.quiet [call] ⟨hused, hquiet⟩⟩
  | some i =>
    obtain ⟨_, hlive⟩ := (h.deviceInits.mem i).1 (List.mem_singleton_self i)
    refine ⟨{ m with deviceInits := m.deviceInits.delete i }, ?_, rfl, ?_, ?_, ?_⟩
    · rw [InitMemory.takeDeviceInit, Store.free?_of_some hlive]
      rfl
    · rw [usedDeviceInits_append, hused]
      exact Store.Ledger.delete h.deviceInits
    · rw [usedEndpointInits_append, hquiet.1, List.append_nil]
      exact h.endpointInits
    · rw [freedPool_append, hquiet.2, List.append_nil]
      exact h.pool

/-- An init for an endpoint, and the call that gives it back or uses it up. -/
theorem endpointInit (h : InitInv init held m log) {call : InitCall}
    (hcall : usedDeviceInits [call] = [] ∧ usedEndpointInits [call] = [m.endpointInits.next] ∧
      freedPool [call] = []) :
    ∃ m', InitMemory.takeEndpointInit { m with endpointInits := m.endpointInits.create () }
        m.endpointInits.next = some m' ∧ InitInv init held m' (log ++ [call]) := by
  obtain ⟨hdevice, hused, hpool⟩ := hcall
  have hcreated := h.endpointInits.create ()
  obtain ⟨_, hlive⟩ := (hcreated.mem m.endpointInits.next).1 List.mem_cons_self
  refine ⟨{ m with
    endpointInits := (m.endpointInits.create ()).delete m.endpointInits.next }, ?_, ?_, ?_, ?_⟩
  · rw [InitMemory.takeEndpointInit, Store.free?_of_some hlive]
    rfl
  · rw [usedDeviceInits_append, hdevice, List.append_nil]
    exact h.deviceInits
  · rw [usedEndpointInits_append, hused]
    exact hcreated.delete
  · rw [freedPool_append, hpool, List.append_nil]
    exact h.pool

theorem pool_create (h : InitInv init held m log) :
    InitInv init (m.pool.next :: held) { m with pool := m.pool.create () } log :=
  ⟨h.deviceInits, h.endpointInits, h.pool.create ()⟩

theorem exFreePool {entry : Nat} (h : InitInv init (entry :: held) m log) :
    ∃ m', m.exFreePool entry = some m' ∧ InitInv init held m' (log ++ [.freePool entry]) := by
  obtain ⟨_, hlive⟩ := (h.pool.mem entry).1 List.mem_cons_self
  refine ⟨{ m with pool := m.pool.delete entry }, ?_, ?_, ?_, ?_⟩
  · rw [InitMemory.exFreePool, Store.free?_of_some hlive]
    rfl
  · rw [usedDeviceInits_append]
    exact (List.append_nil _).symm ▸ h.deviceInits
  · rw [usedEndpointInits_append]
    exact (List.append_nil _).symm ▸ h.endpointInits
  · rw [freedPool_append]
    exact h.pool.delete

end InitInv

/-! ## The plug-in, with and without the memory -/

/-- A status with the objects only. -/
def PlugInState.erase (p : NTSTATUS × PlugInState β F) : NTSTATUS × Objects β F :=
  (p.1, p.2.objects)

/-- No `NULL` in place of an init. -/
def InitCall.NotNull : InitCall → Prop
  | .addDescriptor init | .deviceCreate init => init.isSome = true
  | .deviceInitFree _ | .endpointCreate _ | .endpointInitFree _ | .freePool _ => True

/-- What a step of the plug-in does: it goes as it does without the memory, and what it allocates
it gives back. -/
structure PlugInRefines (r : Option (NTSTATUS × PlugInState β F))
    (objects : Option (NTSTATUS × Objects β F)) (s : PlugInState β F) : Prop where
  erase : r.map PlugInState.erase = objects
  keeps : ∀ p, r = some p → ∀ init held log, InitInv init held s.memory (log ++ s.calls) →
    InitInv init held p.2.memory (log ++ p.2.calls)
  calls : ∀ p, r = some p → ∃ calls, p.2.calls = s.calls ++ calls ∧ ∀ call ∈ calls, call.NotNull

section

variable {s : PlugInState β F}

/-- Where nothing is called. -/
theorem PlugInRefines.of_memory_eq {r : Option (NTSTATUS × PlugInState β F)}
    (h : ∀ p, r = some p → p.2.memory = s.memory ∧ p.2.calls = s.calls) :
    PlugInRefines r (r.map PlugInState.erase) s where
  erase := rfl
  keeps := by
    intro p hp init held log hinv
    rwa [(h p hp).1, (h p hp).2]
  calls := fun p hp => ⟨[], by rw [(h p hp).2, List.append_nil], fun _ hc => by cases hc⟩

/-- `goto exit` in both. -/
theorem PlugInRefines.onSuccess {r : Option (NTSTATUS × PlugInState β F)}
    {objects : Option (NTSTATUS × Objects β F)}
    {k : PlugInState β F → Option (NTSTATUS × PlugInState β F)}
    {k' : Objects β F → Option (NTSTATUS × Objects β F)} (hr : PlugInRefines r objects s)
    (hk : ∀ s', PlugInRefines (k s') (k' s'.objects) s') :
    PlugInRefines (UdeSample.onSuccess r k) (UdeSample.onSuccess objects k') s := by
  obtain ⟨rfl, hkeeps, hcalls⟩ := hr
  cases r with
  | none => exact ⟨rfl, (fun _ hp => by cases hp), (fun _ hp => by cases hp)⟩
  | some p =>
    obtain ⟨status, s'⟩ := p
    obtain ⟨herase', hkeeps', hcalls'⟩ := hk s'
    cases hok : ntSuccess status with
    | true =>
      have hnext : UdeSample.onSuccess (some (status, s')) k = k s' := by
        simp [UdeSample.onSuccess, hok]
      rw [hnext]
      refine ⟨?_, ?_, ?_⟩
      · rw [herase']
        simp [UdeSample.onSuccess, hok, PlugInState.erase]
      · intro p hp init held log h
        exact hkeeps' p hp init held log (hkeeps _ rfl init held log h)
      · intro p hp
        obtain ⟨calls, heq, hnull⟩ := hcalls _ rfl
        obtain ⟨calls', heq', hnull'⟩ := hcalls' p hp
        refine ⟨calls ++ calls', ?_, ?_⟩
        · rw [heq', heq, List.append_assoc]
        · exact fun call hc => (List.mem_append.1 hc).elim (hnull call) (hnull' call)
    | false =>
      have hexit : UdeSample.onSuccess (some (status, s')) k = some (status, s') := by
        simp [UdeSample.onSuccess, hok]
      rw [hexit]
      refine ⟨?_, hkeeps, hcalls⟩
      simp [UdeSample.onSuccess, hok, PlugInState.erase]

theorem createEndpointOn_refines (o : EndpointOutcomes) (s : PlugInState β F) :
    PlugInRefines (createEndpointOn o s)
      (if o.initAllocated then some (o.endpoint.status, s.objects)
        else some (statusInsufficientResources, s.objects)) s := by
  unfold createEndpointOn
  cases o.initAllocated with
  | false => exact .of_memory_eq fun p hp => by cases hp; exact ⟨rfl, rfl⟩
  | true =>
    have hcall : ∀ init, (usedDeviceInits [o.initCall init] = [] ∧
        usedEndpointInits [o.initCall init] = [init] ∧ freedPool [o.initCall init] = []) ∧
        (o.initCall init).NotNull := by
      intro init
      rw [EndpointOutcomes.initCall]
      split <;> exact ⟨⟨rfl, rfl, rfl⟩, trivial⟩
    have hlive : (s.memory.endpointInits.create ()).get? s.memory.endpointInits.next =
        some () := by rw [Store.get?_create, if_pos rfl]
    obtain ⟨m', htaken⟩ : ∃ m', InitMemory.takeEndpointInit
        { s.memory with endpointInits := s.memory.endpointInits.create () }
        s.memory.endpointInits.next = some m' := by
      rw [InitMemory.takeEndpointInit, Store.free?_of_some hlive]
      exact ⟨_, rfl⟩
    simp only [if_true, htaken]
    refine ⟨rfl, ?_, ?_⟩
    · intro p hp init held log h
      obtain rfl := Option.some.inj hp
      obtain ⟨m'', htaken', hinv⟩ := h.endpointInit (hcall _).1
      obtain rfl : m'' = m' := Option.some.inj (htaken'.symm.trans htaken)
      rw [List.append_assoc] at hinv
      exact hinv
    · intro p hp
      obtain rfl := Option.some.inj hp
      exact ⟨[_], rfl, fun call hc => List.mem_singleton.1 hc ▸ (hcall _).2⟩

/-- A function of the objects alone. -/
theorem objectsOnly_refines (r : Option (NTSTATUS × Objects β F)) (s : PlugInState β F) :
    PlugInRefines (r.map fun (status, objects) => (status, { s with objects })) r s := by
  have hsame := PlugInRefines.of_memory_eq (s := s)
    (r := r.map fun (status, objects) => (status, { s with objects })) (by
      intro p hp
      obtain ⟨_, -, rfl⟩ := Option.map_eq_some_iff.1 hp
      exact ⟨rfl, rfl⟩)
  have herase : (r.map fun (status, objects) =>
      (status, { s with objects })).map PlugInState.erase = r := by
    cases r <;> rfl
  rwa [herase] at hsame

theorem usbCreateEndpointObjOn_refines [Zero F] (device : Option Nat) (epAddr : UCHAR)
    (o : EndpointOutcomes) (s : PlugInState β F) :
    PlugInRefines (usbCreateEndpointObjOn device epAddr o s)
      (usbCreateEndpointObj s.objects device epAddr o) s := by
  have hretrieve := objectsOnly_refines ((ioRetrieveEpQueue s.objects device epAddr o).map
    fun (status, _, objects) => (status, objects)) s
  rw [Option.map_map] at hretrieve
  have hcreate : usbCreateEndpointObj s.objects device epAddr o =
      onSuccess ((ioRetrieveEpQueue s.objects device epAddr o).map
        fun (status, _, objects) => (status, objects)) fun objects =>
          if o.initAllocated then some (o.endpoint.status, objects)
          else some (statusInsufficientResources, objects) := by
    unfold usbCreateEndpointObj
    cases ioRetrieveEpQueue s.objects device epAddr o <;> rfl
  rw [hcreate, usbCreateEndpointObjOn]
  exact hretrieve.onSuccess (createEndpointOn_refines o)

theorem createEndpointsOn_refines [Zero F] (device : Nat)
    (endpoints : List (UCHAR × EndpointOutcomes)) (s : PlugInState β F) :
    PlugInRefines (createEndpointsOn device endpoints s)
      (createEndpoints device endpoints s.objects) s := by
  induction endpoints generalizing s with
  | nil => exact .of_memory_eq fun p hp => by cases hp; exact ⟨rfl, rfl⟩
  | cons endpoint rest ih =>
    exact (usbCreateEndpointObjOn_refines (some device) endpoint.1 endpoint.2 s).onSuccess ih

theorem initializeAndPlugInOn_refines [Zero F] (o : PlugInOutcomes) (device : Nat)
    (s : PlugInState β F) :
    PlugInRefines (initializeAndPlugInOn o device s)
      (initializeAndPlugIn o device s.objects) s := by
  have hcontext := objectsOnly_refines (ioAllocateContext s.objects device o.allocateContext) s
  refine hcontext.onSuccess fun s₁ => ?_
  have hendpoints := createEndpointsOn_refines device o.endpoints
    { s₁ with objects := s₁.objects.setAwake (some device) true }
  refine PlugInRefines.onSuccess (s := s₁)
    ⟨hendpoints.erase, hendpoints.keeps, hendpoints.calls⟩ fun s₂ => ?_
  exact .of_memory_eq fun p hp => by cases hp; exact ⟨rfl, rfl⟩

end

/-- The status and the controller after a plug-in. -/
def InitState.erase (p : NTSTATUS × InitState β F × List InitCall) :
    NTSTATUS × Option (Controller β F) :=
  (p.1, p.2.1.controller)

/-- What a plug-in leaves: the controller as it was, or a device made from the init, if there is
one. -/
structure PlugInLeaves (o : PlugInOutcomes) (c : Controller β F) (init : Option Nat)
    (log : List InitCall) (s : InitState β F) (calls : List InitCall) : Prop where
  memory : InitInv s.childDeviceInit [] s.memory (log ++ calls)
  childDevice : (s.controller = some c ∧ s.childDeviceInit = init) ∨
    (s.childDeviceInit = none ∧ ∃ c', s.controller = some c' ∧ c'.childDeviceInit = false ∧
      c'.childDevice.isSome = true)
  notNull : (∀ call ∈ calls, call.NotNull) ↔ (o.pool = true → init.isSome = true)

theorem configureAndPlugIn_spec [Zero F] {o : PlugInOutcomes} {c : Controller β F}
    {init : Option Nat} {held : List Nat} {m : InitMemory} {log : List InitCall}
    (h : InitInv init held m log) (hpool : o.pool = true) :
    (configureAndPlugIn o c init m).map InitState.erase =
        (usbReadDescriptorsAndPlugIn o c).map (fun (status, c) => (status, some c)) ∧
      ∀ status s calls, configureAndPlugIn o c init m = some (status, s, calls) →
        InitInv s.childDeviceInit held s.memory (log ++ calls) ∧
        ((s.controller = some c ∧ s.childDeviceInit = init) ∨
          (s.childDeviceInit = none ∧ ∃ c', s.controller = some c' ∧
            c'.childDeviceInit = false ∧ c'.childDevice.isSome = true)) ∧
        ((∀ call ∈ calls, call.NotNull) ↔ init.isSome = true) := by
  unfold configureAndPlugIn usbReadDescriptorsAndPlugIn
  rw [h.useDeviceInit, Option.bind_some, hpool]
  have hrefused : ∀ e : NtError,
      InitInv init held m (log ++ [.addDescriptor init]) ∧
        ((∀ call ∈ [InitCall.addDescriptor init], call.NotNull) ↔ init.isSome = true) := by
    intro e
    refine ⟨h.quiet _ ⟨rfl, rfl, rfl⟩, ?_⟩
    constructor
    · exact fun hall => hall _ (List.mem_singleton_self _)
    · exact fun hsome call hc => List.mem_singleton.1 hc ▸ hsome
  cases hadd : o.addDescriptor with
  | error e =>
    refine ⟨rfl, ?_⟩
    intro status s calls hout
    cases hout
    exact ⟨(hrefused e).1, Or.inl ⟨rfl, rfl⟩, (hrefused e).2⟩
  | ok =>
    cases hcreate : o.deviceCreate with
    | error e =>
      refine ⟨rfl, ?_⟩
      intro status s calls hout
      cases hout
      exact ⟨(hrefused e).1, Or.inl ⟨rfl, rfl⟩, (hrefused e).2⟩
    | ok =>
      have hadded := h.quiet [.addDescriptor init] ⟨rfl, rfl, rfl⟩
      obtain ⟨m', htaken, -, hinv⟩ := hadded.takeDeviceInit (.deviceCreate init)
        ⟨by cases init <;> rfl, rfl, rfl⟩
      rw [htaken, Option.bind_some]
      obtain ⟨herase, hkeeps, hcalls⟩ := initializeAndPlugInOn_refines o c.objects.next
        { objects := c.objects.create (.usbDevice { ioContext := none, isAwake := false })
          memory := m'
          calls := [.addDescriptor init, .deviceCreate init] }
      refine ⟨?_, ?_⟩
      · simp only [Bool.not_true, Bool.false_eq_true, if_false, ← herase, Option.map_map]
        rfl
      · intro status s calls hout
        obtain ⟨⟨status', s'⟩, hplug, heq⟩ := Option.map_eq_some_iff.1 hout
        cases heq
        obtain ⟨calls', hcalls', hnull⟩ := hcalls _ hplug
        refine ⟨?_, Or.inr ⟨rfl, _, rfl, rfl, rfl⟩, ?_⟩
        · refine hkeeps _ hplug none held log ?_
          rw [List.append_assoc] at hinv
          exact hinv
        · rw [hcalls']
          constructor
          · exact fun hall => hall (.addDescriptor init) (List.mem_append_left _ List.mem_cons_self)
          · intro hsome call hc
            rcases List.mem_append.1 hc with hc | hc
            · rcases List.mem_cons.1 hc with rfl | hc
              · exact hsome
              · exact List.mem_singleton.1 hc ▸ hsome
            · exact hnull call hc

/-- **The plug-in** goes as it does without the memory. -/
theorem usbReadDescriptorsAndPlugInOn_spec [Zero F] {o : PlugInOutcomes} {c : Controller β F}
    {init : Option Nat} {m : InitMemory} {log : List InitCall} (h : InitInv init [] m log) :
    (usbReadDescriptorsAndPlugInOn o c init m).map InitState.erase =
        (usbReadDescriptorsAndPlugIn o c).map (fun (status, c) => (status, some c)) ∧
      ∀ status s calls, usbReadDescriptorsAndPlugInOn o c init m = some (status, s, calls) →
        PlugInLeaves o c init log s calls := by
  unfold usbReadDescriptorsAndPlugInOn
  cases hpool : o.pool with
  | false =>
    refine ⟨by simp [usbReadDescriptorsAndPlugIn, hpool, InitState.erase], ?_⟩
    intro status s calls hout
    cases hout
    refine ⟨?_, Or.inl ⟨rfl, rfl⟩, ?_⟩
    · rw [List.append_nil]
      exact h
    · rw [hpool]
      exact ⟨(fun _ hno => by cases hno), fun _ call hc => absurd hc List.not_mem_nil⟩
  | true =>
    obtain ⟨herase, hspec⟩ := configureAndPlugIn_spec (o := o) (c := c) h.pool_create hpool
    rw [← herase]
    simp only [Bool.not_true, Bool.false_eq_true, if_false]
    cases hconfigure : configureAndPlugIn o c init
        { m with pool := m.pool.create () } with
    | none => exact ⟨rfl, fun _ _ _ hout => by cases hout⟩
    | some p =>
      obtain ⟨status, s, calls⟩ := p
      obtain ⟨hinv, hinit, hnull⟩ := hspec status s calls hconfigure
      obtain ⟨m', hfree, hinv'⟩ := hinv.exFreePool
      simp only [Option.bind_some, hfree, Option.map_some]
      refine ⟨rfl, ?_⟩
      intro status' s' calls' hout
      cases hout
      refine ⟨?_, hinit, ?_⟩
      · rw [List.append_assoc] at hinv'
        exact hinv'
      · rw [hpool, forall_prop_of_true rfl, ← hnull]
        constructor
        · exact fun hall call hc => hall call (List.mem_append_left _ hc)
        · intro hall call hc
          rcases List.mem_append.1 hc with hc | hc
          · exact hall call hc
          · rw [List.mem_singleton.1 hc]
            trivial

/-! ## Every run -/

/-- The init is there as long as no device was made from it. -/
structure InitStateInv [Zero F] (flagsOf : List β → F) (s : InitState β F) (log : List InitCall) :
    Prop where
  memory : InitInv s.childDeviceInit [] s.memory log
  absent : s.controller = none → s.childDeviceInit = none
  present : ∀ c, s.controller = some c → c.childDeviceInit = s.childDeviceInit.isSome ∧
    c.childDevice.isSome = !s.childDeviceInit.isSome ∧ ∃ t, lifecycleRun flagsOf t = some c

section

variable {s s' : InitState β F} {log calls : List InitCall} {flagsOf : List β → F}

theorem InitInv.cleanup {m : InitMemory} {init : Option Nat} (h : InitInv init [] m log) :
    ∃ s' calls, (controllerWdfEvtCleanupCallback init m :
        Option (InitState β F × List InitCall)) = some (s', calls) ∧
      InitInv none [] s'.memory (log ++ calls) ∧ s'.controller = none ∧
      s'.childDeviceInit = none ∧ ∀ call ∈ calls, call.NotNull := by
  cases init with
  | none =>
    refine ⟨⟨none, none, m⟩, [], rfl, ?_, rfl, rfl, fun _ hc => absurd hc List.not_mem_nil⟩
    rw [List.append_nil]
    exact h
  | some i =>
    obtain ⟨m', htaken, -, hinv⟩ := h.takeDeviceInit (.deviceInitFree i) ⟨rfl, rfl, rfl⟩
    refine ⟨⟨none, none, m'⟩, [.deviceInitFree i], ?_, hinv, rfl, rfl, ?_⟩
    · simp only [controllerWdfEvtCleanupCallback, usbDestroy, htaken, Option.map_some]
    · intro call hc
      rw [List.mem_singleton.1 hc]
      trivial

theorem addDescriptors_spec {m : InitMemory} {i : Nat} (h : InitInv (some i) [] m log)
    (descriptors : List (NtResult Unit)) :
    ∃ status calls, addDescriptors m (some i) descriptors = some (status, calls) ∧
      InitInv (some i) [] m (log ++ calls) ∧ ∀ call ∈ calls, call.NotNull := by
  induction descriptors generalizing log with
  | nil =>
    refine ⟨statusSuccess, [], rfl, ?_, fun _ hc => absurd hc List.not_mem_nil⟩
    rw [List.append_nil]
    exact h
  | cons o rest ih =>
    have hadded := h.quiet [.addDescriptor (some i)] ⟨rfl, rfl, rfl⟩
    simp only [addDescriptors, h.useDeviceInit, Option.bind_some]
    cases o with
    | error e =>
      exact ⟨e.status, _, rfl, hadded, fun call hc => List.mem_singleton.1 hc ▸ rfl⟩
    | ok =>
      obtain ⟨status, calls, hrest, hinv, hnull⟩ := ih hadded
      refine ⟨status, .addDescriptor (some i) :: calls, by rw [hrest]; rfl, ?_, ?_⟩
      · rw [List.append_assoc] at hinv
        exact hinv
      · intro call hc
        rcases List.mem_cons.1 hc with rfl | hc
        · rfl
        · exact hnull call hc

/-- Without a controller nothing is held. -/
theorem InitInv.gone [Zero F] (h : InitInv none [] s.memory log) (hcontroller : s.controller = none)
    (hinit : s.childDeviceInit = none) : InitStateInv flagsOf s log := by
  refine ⟨hinit ▸ h, fun _ => hinit, ?_⟩
  intro c hc
  rw [hcontroller] at hc
  cases hc

/-- **A controller is added**, or nothing of it is left. -/
theorem InitInv.add [Zero F] {m : InitMemory} (h : InitInv none [] m log) (flagsOf : List β → F)
    (o : CreationOutcomes) :
    ∃ s' calls, (udefx2CreateDeviceOn o m : Option (InitState β F × List InitCall)) =
        some (s', calls) ∧
      InitStateInv flagsOf s' (log ++ calls) ∧ ∀ call ∈ calls, call.NotNull := by
  unfold udefx2CreateDeviceOn
  cases o.deviceCreate with
  | error e =>
    refine ⟨⟨none, none, m⟩, [], rfl, InitInv.gone ?_ rfl rfl,
      fun _ hc => absurd hc List.not_mem_nil⟩
    rw [List.append_nil]
    exact h
  | ok =>
    cases o.prepared with
    | error e =>
      obtain ⟨s', calls, hcleanup, hinv, hcontroller, hinit, hnull⟩ :
        ∃ s' : InitState β F, _ := h.cleanup
      exact ⟨s', calls, hcleanup, hinv.gone hcontroller hinit, hnull⟩
    | ok =>
      have hprepared : ∀ {status : NTSTATUS} {init : Option Nat} {m' : InitMemory}
          {calls : List InitCall}, usbInitialize o.childDevice m = some (status, init, m', calls) →
          InitInv init [] m' (log ++ calls) → (∀ call ∈ calls, call.NotNull) →
          (ntSuccess status = true → init.isSome = true) →
          ∃ s' calls', ((usbInitialize o.childDevice m).bind fun (status, init, m, calls) =>
              if ntSuccess status then
                some ((⟨some controllerCreated, init, m⟩ : InitState β F), calls)
              else (controllerWdfEvtCleanupCallback init m).map fun (s, calls') =>
                (s, calls ++ calls')) = some (s', calls') ∧
            InitStateInv flagsOf s' (log ++ calls') ∧ ∀ call ∈ calls', call.NotNull := by
        intro status init m' calls hmade hinv hnull hsome
        simp only [hmade, Option.bind_some]
        cases hok : ntSuccess status with
        | true =>
          refine ⟨⟨some controllerCreated, init, m'⟩, calls, rfl,
            ⟨hinv, (fun hno => by cases hno), ?_⟩, hnull⟩
          intro c hc
          obtain rfl := Option.some.inj hc
          exact ⟨(hsome hok).symm, by rw [hsome hok]; rfl, [], rfl⟩
        | false =>
          obtain ⟨s', calls', hcleanup, hinv', hcontroller, hinit, hnull'⟩ :
            ∃ s' : InitState β F, _ := hinv.cleanup
          simp only [Bool.false_eq_true, if_false, hcleanup, Option.map_some]
          refine ⟨s', calls ++ calls', rfl, InitInv.gone ?_ hcontroller hinit, ?_⟩
          · rw [← List.append_assoc]
            exact hinv'
          · exact fun call hc => (List.mem_append.1 hc).elim (hnull call) (hnull' call)
      cases hallocated : o.childDevice.allocated with
      | false =>
        have hnone : usbInitialize o.childDevice m =
            some (statusInsufficientResources, none, m, []) := by
          rw [usbInitialize, hallocated]
          rfl
        refine hprepared hnone ?_ (fun _ hc => absurd hc List.not_mem_nil)
          fun hok => absurd hok (by decide)
        rw [List.append_nil]
        exact h
      | true =>
        have hcreated : InitInv (some m.deviceInits.next) []
            { m with deviceInits := m.deviceInits.create () } log :=
          ⟨h.deviceInits.create (), h.endpointInits, h.pool⟩
        obtain ⟨status, calls, hadd, hinv, hnull⟩ := addDescriptors_spec hcreated
          [o.childDevice.deviceDescriptor, o.childDevice.languageDescriptor,
            o.childDevice.manufacturerString, o.childDevice.productString]
        have hsome : usbInitialize o.childDevice m = some (status, some m.deviceInits.next,
            { m with deviceInits := m.deviceInits.create () }, calls) := by
          simp only [usbInitialize, hallocated, if_true, hadd, Option.map_some]
        exact hprepared hsome hinv hnull fun _ => rfl

/-- An interrupt request changes the objects only. -/
theorem ioctl_objects {c c' : Controller β F} {code : ULONG} {request : WdfRequest β}
    {retrieve : NtResult Unit} {o : Outcomes} {answer : Bool × List (Effect β F)}
    (h : c.ioctl flagsOf code request retrieve o = some (answer, c')) :
    c' = { c with objects := c'.objects } := by
  unfold Controller.ioctl backChannelIoctl at h
  split at h
  · split at h
    · obtain ⟨-, rfl⟩ := Prod.mk.inj (Option.some.inj h)
      rfl
    · split at h
      · obtain ⟨⟨answer, c₁⟩, hraise, heq⟩ := Option.map_eq_some_iff.1 h
        obtain ⟨-, rfl⟩ := Prod.mk.inj heq
        obtain ⟨_, -, heq⟩ := Option.map_eq_some_iff.1 hraise
        obtain ⟨-, rfl⟩ := Prod.mk.inj heq
        rfl
      · obtain ⟨-, rfl⟩ := Prod.mk.inj (Option.some.inj h)
        rfl
  · obtain ⟨-, rfl⟩ := Prod.mk.inj (Option.some.inj h)
    rfl

/-- Nothing but a plug-in makes a child device. -/
theorem lifecycleStep_childDevice [Zero F] {c c' : Controller β F} {e : LifecycleEvent β}
    (he : ∀ o, e ≠ .d0Entry .d3Final o) (hstep : lifecycleStep flagsOf c e = some c') :
    c'.childDevice = c.childDevice ∧ c'.childDeviceInit = c.childDeviceInit := by
  rcases lifecycleStep_cases hstep with ⟨rfl, -⟩ | ⟨o, status, rfl, -⟩ |
    ⟨plugOutAndDelete, answer, rfl, hdisconnect⟩ | ⟨code, request, retrieve, o, answer, rfl, hioctl⟩
  · exact ⟨rfl, rfl⟩
  · exact absurd rfl (he o)
  · obtain ⟨⟨⟨copy, fx⟩, objects⟩, -, h⟩ := Option.bind_eq_some_iff.1 hdisconnect
    cases plugOutAndDelete with
    | error e =>
      cases h
      exact ⟨rfl, rfl⟩
    | ok =>
      obtain ⟨objects₁, -, h⟩ := Option.bind_eq_some_iff.1 h
      obtain ⟨objects₂, -, heq⟩ := Option.map_eq_some_iff.1 h
      cases heq
      exact ⟨rfl, rfl⟩
  · rw [ioctl_objects hioctl]
    exact ⟨rfl, rfl⟩

/-- An event of a controller goes as it does without the memory. -/
theorem InitStateInv.lifecycle [Zero F] (h : InitStateInv flagsOf s log) {c : Controller β F}
    (hc : s.controller = some c) (e : LifecycleEvent β) :
    (initStep flagsOf s (.lifecycle e)).map (fun p => p.1.controller) =
      (lifecycleStep flagsOf c e).map some := by
  cases e with
  | d0Entry previousState o =>
    cases previousState with
    | other => simp [initStep, hc, lifecycleStep, controllerWdfEvtDeviceD0Entry]
    | d3Final =>
      have herase := (usbReadDescriptorsAndPlugInOn_spec (o := o)
        (c := { c with allowOnlyResetInterrupts := true }) h.memory).1
      have hcontroller := congrArg (Option.map Prod.snd) herase
      simp only [Option.map_map] at hcontroller
      simp only [initStep, hc, Option.bind_some, Option.map_map, lifecycleStep,
        controllerWdfEvtDeviceD0Entry, if_true]
      exact hcontroller
  | d0Exit targetState plugOutAndDelete =>
    simp only [initStep, hc, Option.bind_some, Option.map_map]
    rfl
  | deviceControl handled code request retrieve o =>
    simp only [initStep, hc, Option.bind_some, Option.map_map]
    rfl

/-- A start that gets as far as its descriptor copy finds no child device made before. -/
def FirstStart (s : InitState β F) : InitEvent β → Prop
  | .lifecycle (.d0Entry .d3Final o) =>
    o.pool = true → ∀ c, s.controller = some c → c.childDevice = none
  | _ => True

theorem InitStateInv.step [Zero F] (h : InitStateInv flagsOf s log) {e : InitEvent β}
    (hstep : initStep flagsOf s e = some (s', calls)) :
    InitStateInv flagsOf s' (log ++ calls) ∧
      ((∀ call ∈ calls, call.NotNull) ↔ FirstStart s e) := by
  cases e with
  | add o =>
    rw [initStep] at hstep
    split at hstep
    · cases hstep
    · next hnone =>
      have hmemory := h.memory
      rw [h.absent hnone] at hmemory
      obtain ⟨s₁, calls₁, hadd, hinv, hnull⟩ := hmemory.add flagsOf o
      obtain ⟨rfl, rfl⟩ := Prod.mk.inj (Option.some.inj (hadd.symm.trans hstep))
      exact ⟨hinv, iff_of_true hnull trivial⟩
  | cleanup =>
    obtain ⟨c, -, hcleanup⟩ := Option.bind_eq_some_iff.1 hstep
    obtain ⟨s₁, calls₁, hcleanup', hinv, hcontroller, hinit, hnull⟩ :
      ∃ s' : InitState β F, _ := h.memory.cleanup
    obtain ⟨rfl, rfl⟩ := Prod.mk.inj (Option.some.inj (hcleanup'.symm.trans hcleanup))
    exact ⟨hinv.gone hcontroller hinit, iff_of_true hnull trivial⟩
  | lifecycle e =>
    obtain ⟨c, hc⟩ : ∃ c, s.controller = some c := by
      cases hnone : s.controller with
      | some c => exact ⟨c, rfl⟩
      | none =>
        cases e with
        | d0Entry previousState o => cases previousState <;> simp [initStep, hnone] at hstep
        | d0Exit | deviceControl => simp [initStep, hnone] at hstep
    obtain ⟨hbool, hdevice, t, hrun⟩ := h.present c hc
    -- without the memory the event leads to the same controller
    obtain ⟨c', hc', hnext⟩ :
        ∃ c', s'.controller = some c' ∧ lifecycleStep flagsOf c e = some c' := by
      have hmap := h.lifecycle hc e
      rw [hstep] at hmap
      obtain ⟨c', hnext, heq⟩ := Option.map_eq_some_iff.1 hmap.symm
      exact ⟨c', heq.symm, hnext⟩
    have hreached : ∃ t, lifecycleRun flagsOf t = some c' :=
      ⟨t ++ [e], run_concat.2 ⟨c, hrun, hnext⟩⟩
    have habsent : s'.controller = none → s'.childDeviceInit = none := by
      intro hnone
      rw [hc'] at hnone
      cases hnone
    have hpresent : c'.childDeviceInit = s'.childDeviceInit.isSome →
        (c'.childDevice.isSome = !s'.childDeviceInit.isSome) → ∀ c, s'.controller = some c →
          c.childDeviceInit = s'.childDeviceInit.isSome ∧
          (c.childDevice.isSome = !s'.childDeviceInit.isSome) ∧
          ∃ t, lifecycleRun flagsOf t = some c := by
      intro hbool' hdevice' c'' hc''
      obtain rfl : c' = c'' := Option.some.inj (hc'.symm.trans hc'')
      exact ⟨hbool', hdevice', hreached⟩
    by_cases hplug : ∃ o, e = .d0Entry .d3Final o
    · obtain ⟨o, rfl⟩ := hplug
      simp only [initStep, hc, Option.bind_some] at hstep
      obtain ⟨⟨status, s₁, calls₁⟩, hplugged, heq⟩ := Option.map_eq_some_iff.1 hstep
      obtain ⟨rfl, rfl⟩ := Prod.mk.inj heq
      have hleaves := (usbReadDescriptorsAndPlugInOn_spec h.memory).2 _ _ _ hplugged
      refine ⟨⟨hleaves.memory, habsent, ?_⟩, ?_⟩
      · rcases hleaves.childDevice with ⟨hsame, hinit⟩ | ⟨hinit, c₁, hc₁, hno, hsome⟩
        · obtain rfl : c' = { c with allowOnlyResetInterrupts := true } :=
            Option.some.inj (hc'.symm.trans hsame)
          exact hpresent (by rw [hinit]; exact hbool) (by rw [hinit]; exact hdevice)
        · obtain rfl : c' = c₁ := Option.some.inj (hc'.symm.trans hc₁)
          exact hpresent (by rw [hinit]; exact hno) (by rw [hinit]; exact hsome)
      · rw [hleaves.notNull]
        constructor
        · intro hinit hpool c₁ hc₁
          obtain rfl : c = c₁ := Option.some.inj (hc.symm.trans hc₁)
          rw [hinit hpool] at hdevice
          exact Option.isNone_iff_eq_none.1 (Option.isSome_eq_false_iff.1 hdevice)
        · intro hfirst hpool
          rw [hfirst hpool c hc] at hdevice
          simpa using hdevice
    · have hother : ∀ o, e ≠ .d0Entry .d3Final o := fun o heq => hplug ⟨o, heq⟩
      have hstep' : (lifecycleStep flagsOf c e).map (fun c =>
          (({ s with controller := some c } : InitState β F), ([] : List InitCall))) =
            some (s', calls) := by
        rw [← hstep]
        cases e with
        | d0Entry previousState o =>
          cases previousState with
          | d3Final => exact absurd rfl (hother o)
          | other => simp only [initStep, hc, Option.bind_some]
        | d0Exit | deviceControl => simp only [initStep, hc, Option.bind_some]
      obtain ⟨c₁, hc₁, heq⟩ := Option.map_eq_some_iff.1 hstep'
      obtain ⟨rfl, rfl⟩ := Prod.mk.inj heq
      obtain rfl : c₁ = c' := Option.some.inj hc'
      obtain ⟨hsame, hinit⟩ := lifecycleStep_childDevice hother hc₁
      refine ⟨⟨?_, habsent, hpresent (hinit.trans hbool) ?_⟩, ?_⟩
      · rw [List.append_nil]
        exact h.memory
      · rw [hsame]
        exact hdevice
      · refine iff_of_true (fun _ hcall => absurd hcall List.not_mem_nil) ?_
        cases e with
        | d0Entry previousState o =>
          cases previousState with
          | d3Final => exact absurd rfl (hother o)
          | other => trivial
        | d0Exit | deviceControl => trivial

theorem initRun_inv [Zero F] {t : List (InitEvent β)} (h : initRun flagsOf t = some (s, log)) :
    InitStateInv flagsOf s log := by
  refine run_invariant (P := fun _ p => InitStateInv flagsOf p.1 p.2) ?_ ?_ h
  · exact InitInv.empty.gone rfl rfl
  · intro t p e p' _ hinv hstep
    obtain ⟨calls, hout, hlog⟩ := logged_eq_some.1 hstep
    exact hlog ▸ (hinv.step hout).1

/-- **Everything is given back once.** However controllers are added, started, stopped and deleted,
and whatever fails: every init of an endpoint and every pool entry handed out was given back or used
up, once; so was every init of a device, but the one that the controller still has; no call meets a
handle that was given back before, so the controller lives as it does without the memory; and it can
always be deleted. -/
theorem inits_accounted [Zero F] {t : List (InitEvent β)}
    (h : initRun flagsOf t = some (s, log)) :
    (∀ i, (usedEndpointInits log).count i = if i < s.memory.endpointInits.next then 1 else 0) ∧
    (∀ i, (freedPool log).count i = if i < s.memory.pool.next then 1 else 0) ∧
    s.memory.deviceInits.Ledger s.childDeviceInit.toList (usedDeviceInits log) ∧
    (s.controller = none → (∀ i, (usedDeviceInits log).count i =
        if i < s.memory.deviceInits.next then 1 else 0) ∧
      ∀ o, (initStep flagsOf s (.add o)).isSome = true) ∧
    ∀ c, s.controller = some c → c.childDevice.isSome = !s.childDeviceInit.isSome ∧
      (∃ t, lifecycleRun flagsOf t = some c) ∧
      (∀ e, (initStep flagsOf s (.lifecycle e)).map (fun p => p.1.controller) =
        (lifecycleStep flagsOf c e).map some) ∧
      (initStep flagsOf s .cleanup).isSome = true := by
  have hinv := initRun_inv h
  refine ⟨hinv.memory.endpointInits.count_freed, hinv.memory.pool.count_freed,
    hinv.memory.deviceInits, ?_, ?_⟩
  · intro hnone
    have hmemory := hinv.memory
    rw [hinv.absent hnone] at hmemory
    refine ⟨hmemory.deviceInits.count_freed, ?_⟩
    intro o
    obtain ⟨s', calls, hadd, -⟩ := hmemory.add flagsOf o
    simp [initStep, hnone, hadd]
  · intro c hc
    obtain ⟨-, hdevice, hrun⟩ := hinv.present c hc
    refine ⟨hdevice, hrun, hinv.lifecycle hc, ?_⟩
    obtain ⟨s', calls, hcleanup, -⟩ : ∃ s' : InitState β F, _ := hinv.memory.cleanup
    simp [initStep, hc, hcleanup]

/-- **A start of a controller that has made its device** passes `NULL` where an init is asked for,
and nothing else does. -/
theorem inits_null_iff [Zero F] {t : List (InitEvent β)} (h : initRun flagsOf t = some (s, log)) :
    Along (fun p e => FirstStart p.1 e) (logged (initStep flagsOf)) (initStateInit, []) t ↔
      ∀ call ∈ log, call.NotNull := by
  refine along_iff_logged (fun s => ∃ log, InitStateInv flagsOf s log) InitCall.NotNull
    ?_ ?_ ⟨[], InitInv.empty.gone rfl rfl⟩ (fun _ hc => absurd hc List.not_mem_nil) h
  · rintro s e s' out ⟨log, hinv⟩ hfirst hstep
    obtain ⟨hinv', hnull⟩ := hinv.step hstep
    exact ⟨⟨_, hinv'⟩, hnull.2 hfirst⟩
  · rintro s e s' out ⟨log, hinv⟩ hnot hstep
    obtain ⟨-, hnull⟩ := hinv.step hstep
    by_contra hno
    refine hnot (hnull.1 fun call hcall => ?_)
    by_contra hbad
    exact hno ⟨call, hcall, hbad⟩

end

def creationOk : CreationOutcomes :=
  ⟨.ok (), .ok (), ⟨true, .ok (), .ok (), .ok (), .ok ()⟩⟩

/-- A controller whose last string is refused, and one whose first start fails at the bulk OUT
endpoint. -/
def failedStart : List (InitEvent UInt8) :=
  let refused : NtError := ⟨statusInvalidParameter, rfl⟩
  [.add { creationOk with childDevice :=
      { creationOk.childDevice with productString := .error refused } },
    .add creationOk,
    .lifecycle (.d0Entry .d3Final { plugInOk with
      bulkOut := { endpointOk with endpoint := .error refused } })]

theorem failedStart_accounted : ∃ s log,
    (initRun flagWord failedStart : Option (InitState UInt8 ULONG × _)) = some (s, log) ∧
      (usedDeviceInits log).length = 2 ∧ ∀ i, (usedEndpointInits log).count i =
        if i < s.memory.endpointInits.next then 1 else 0 := by
  have hrun : ((initRun flagWord failedStart : Option (InitState UInt8 ULONG × _)).map fun p =>
      (usedDeviceInits p.2).length) = some 2 := by decide +kernel
  obtain ⟨⟨s, log⟩, hrun, hlen⟩ := Option.map_eq_some_iff.1 hrun
  exact ⟨s, log, hrun, hlen, (inits_accounted hrun).1⟩

/-- A controller that is stopped and started again. -/
def restarted : List (InitEvent UInt8) :=
  [.add creationOk, .lifecycle (.d0Entry .d3Final plugInOk),
    .lifecycle (.d0Exit .d3Final (.ok ())), .lifecycle (.d0Entry .d3Final plugInOk)]

theorem restarted_null : ∃ s log,
    (initRun flagWord restarted : Option (InitState UInt8 ULONG × _)) = some (s, log) ∧
      InitCall.addDescriptor none ∈ log ∧
      ¬ Along (fun p e => FirstStart p.1 e) (logged (initStep flagWord)) (initStateInit, [])
        restarted := by
  have hrun : ((initRun flagWord restarted : Option (InitState UInt8 ULONG × _)).map fun p =>
      decide (InitCall.addDescriptor none ∈ p.2)) = some true := by decide +kernel
  obtain ⟨⟨s, log⟩, hrun, hdec⟩ := Option.map_eq_some_iff.1 hrun
  have hmem : InitCall.addDescriptor none ∈ log := of_decide_eq_true hdec
  refine ⟨s, log, hrun, hmem, ?_⟩
  intro hfirst
  cases (inits_null_iff hrun).1 hfirst _ hmem

end UdeSample
