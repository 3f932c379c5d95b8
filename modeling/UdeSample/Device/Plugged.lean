import UdeSample.Device.Run
import UdeSample.Device.Stopping

/-!
# The driver with its objects (`usbdevice.c`, `USBCom.c`)

The controller with its objects and its two channels, from its creation on. A device is plugged in,
its handlers find their context through its handle, and it is unplugged. While it is plugged in,
an event does to what the handles stand for what `deviceStep` does (`pluggedDeviceStep_view`).
-/

namespace UdeSample

open Lib

variable {β F : Type}

/-- The controller with its objects and channels. -/
structure PluggedDriver (β F : Type) where
  controller : Controller β F
  missionRequest : WRQueue β
  missionCompletion : WRQueue β

def pluggedInit : PluggedDriver β F :=
  { controller := controllerCreated, missionRequest := wrQueueInit false
    missionCompletion := wrQueueInit true }

inductive PluggedEvent (β F : Type) where
  | lifecycle (e : LifecycleEvent β)
  | device (e : DeviceEvent β F)
  /-- the controller enters or leaves D0 -/
  | controllerPower (d0 : Bool)

def PluggedDriver.objects (s : PluggedDriver β F) : Objects β F := s.controller.objects

def PluggedDriver.childDevice (s : PluggedDriver β F) : Option Nat := s.controller.childDevice

def PluggedDriver.setObjects (s : PluggedDriver β F) (objects : Objects β F) :
    PluggedDriver β F :=
  { s with controller := { s.controller with objects } }

/-- The framework cancels the `i`-th deferred URB. -/
def cancelDeferredOn (objects : Objects β F) (device : Option Nat) (i : Nat) :
    Option (Completion β F × Objects β F) :=
  onIoContext objects device fun _ io =>
    (io.intrDeferredQueue.cancel i).map fun (request, intrDeferredQueue) =>
      (io.intrDeferredQueue.canceled request, { io with intrDeferredQueue })

/-- The events of `deviceStep`, on the child device and the channels. -/
def pluggedDeviceStep [Zero F] (s : PluggedDriver β F) :
    DeviceEvent β F → Option (PluggedDriver β F)
  | .dispatch request ioControlCode o =>
    match request.source with
    | .control => some s
    | .bulkOut =>
      let (missionRequest, _) := ioEvtBulkOutUrb (F := F) ioControlCode request o s.missionRequest
      some { s with missionRequest }
    | .bulkIn =>
      let (missionCompletion, _) :=
        ioEvtBulkInUrb (F := F) ioControlCode request o s.missionCompletion
      some { s with missionCompletion }
    | .interruptIn =>
      (ioEvtInterruptInUrbOn s.objects s.childDevice ioControlCode request o).map
        fun (_, objects) => s.setObjects objects
    | .read =>
      let (missionRequest, _) := backChannelEvtRead (F := F) request o s.missionRequest
      some { s with missionRequest }
    | .write =>
      let (missionCompletion, _) := backChannelEvtWrite (F := F) request o s.missionCompletion
      some { s with missionCompletion }
    | .ioctl => none
  | .raise latestStatus o =>
    (ioRaiseInterruptOn s.objects s.childDevice latestStatus o).map fun (_, objects) =>
      s.setObjects objects
  | .cancel .missionRequest i =>
    (s.missionRequest.readBufferQueue.cancel i).map fun (_, q) =>
      { s with missionRequest.readBufferQueue := q }
  | .cancel .missionCompletion i =>
    (s.missionCompletion.readBufferQueue.cancel i).map fun (_, q) =>
      { s with missionCompletion.readBufferQueue := q }
  | .cancel .intrDeferred i =>
    (cancelDeferredOn s.objects s.childDevice i).map fun (_, objects) => s.setObjects objects
  | .linkPowerEntry =>
    (usbDeviceEvtLinkPowerEntry s.objects s.childDevice).map fun objects => s.setObjects objects
  | .linkPowerExit =>
    (usbDeviceEvtLinkPowerExit s.objects s.childDevice).map fun (_, objects) =>
      s.setObjects objects

def pluggedStep [Zero F] (flagsOf : List β → F) (s : PluggedDriver β F) :
    PluggedEvent β F → Option (PluggedDriver β F)
  | .lifecycle e =>
    (lifecycleStep flagsOf s.controller e).map fun controller => { s with controller }
  | .device e => pluggedDeviceStep s e
  | .controllerPower d0 =>
    some { s with
      missionRequest.readBufferQueue.dispatching := d0
      missionCompletion.readBufferQueue.dispatching := d0 }

def pluggedRun [Zero F] (flagsOf : List β → F) (t : List (PluggedEvent β F)) :
    Option (PluggedDriver β F) :=
  run (pluggedStep flagsOf) pluggedInit t

/-! ## The handles of the device -/

theorem keeps_setAwake_any (objects : Objects β F) (device : Option Nat) (isAwake : Bool) :
    objects.Keeps (objects.setAwake device isAwake) device := by
  cases hhandles : handlesOf objects device with
  | some x => exact keeps_setAwake (d := x.1) (by rw [hhandles]) isAwake
  | none =>
    cases device with
    | none => exact .refl objects none
    | some d =>
      cases hu : objects.usbDevice d with
      | none =>
        have hsame : objects.setAwake (some d) isAwake = objects := by simp [Objects.setAwake, hu]
        rw [hsame]
        exact .refl objects (some d)
      | some u =>
        have hupdate : objects.setAwake (some d) isAwake =
            objects.update d (.usbDevice { u with isAwake }) := by
          simp [Objects.setAwake, hu]
        have hcontext : u.ioContext = none := by
          cases hrecord : u.ioContext with
          | none => rfl
          | some record =>
            rw [handlesOf_eq hu hrecord] at hhandles
            cases hhandles
        have hget := Store.get?_update (Objects.usbDevice_eq_some.1 hu)
          (.usbDevice { u with isAwake }) d
        rw [if_pos rfl] at hget
        rw [hupdate]
        refine ⟨Objects.extends_update (Objects.usbDevice_eq_some.1 hu) rfl, ?_⟩
        rw [hhandles]
        rw [handlesOf, wdfDeviceGetIoContext, Option.bind_some, Objects.usbDevice_eq_some.2 hget,
          Option.bind_some, hcontext]
        rfl

theorem PluggedDriver.keeps_setObjects {s : PluggedDriver β F} {objects : Objects β F}
    (h : s.objects.Keeps objects s.childDevice) :
    (s.setObjects objects).childDevice = s.childDevice ∧
      s.objects.Keeps (s.setObjects objects).objects s.childDevice := ⟨rfl, h⟩

/-- **An event of a device** keeps its handles, and those of the controller. -/
theorem pluggedDeviceStep_keeps [Zero F] {s s' : PluggedDriver β F} {e : DeviceEvent β F}
    (hstep : pluggedDeviceStep s e = some s') :
    s'.childDevice = s.childDevice ∧ s.objects.Keeps s'.objects s.childDevice := by
  cases e with
  | dispatch request ioControlCode o =>
    unfold pluggedDeviceStep at hstep
    cases hsource : request.source with
    | interruptIn =>
      simp only [hsource] at hstep
      obtain ⟨⟨fx, objects⟩, hcall, rfl⟩ := Option.map_eq_some_iff.1 hstep
      exact PluggedDriver.keeps_setObjects (keeps_interruptUrb hcall)
    | ioctl =>
      simp only [hsource] at hstep
      cases hstep
    | _ =>
      simp only [hsource, Option.some.injEq] at hstep
      obtain rfl := hstep
      exact ⟨rfl, .refl _ _⟩
  | raise latestStatus o =>
    obtain ⟨⟨answer, objects⟩, hcall, rfl⟩ := Option.map_eq_some_iff.1 hstep
    exact PluggedDriver.keeps_setObjects (keeps_onIoContext hcall)
  | cancel queue i =>
    cases queue with
    | missionRequest =>
      obtain ⟨⟨r, q⟩, -, rfl⟩ := Option.map_eq_some_iff.1 hstep
      exact ⟨rfl, .refl _ _⟩
    | missionCompletion =>
      obtain ⟨⟨r, q⟩, -, rfl⟩ := Option.map_eq_some_iff.1 hstep
      exact ⟨rfl, .refl _ _⟩
    | intrDeferred =>
      obtain ⟨⟨answer, objects⟩, hcall, rfl⟩ := Option.map_eq_some_iff.1 hstep
      exact PluggedDriver.keeps_setObjects (keeps_onIoContext hcall)
  | linkPowerEntry =>
    obtain ⟨objects, hentry, rfl⟩ := Option.map_eq_some_iff.1 hstep
    obtain ⟨⟨_, objects₁⟩, hcall, rfl⟩ := Option.map_eq_some_iff.1 hentry
    exact PluggedDriver.keeps_setObjects
      ((keeps_onIoContext hcall).trans (keeps_setAwake_any objects₁ _ true))
  | linkPowerExit =>
    obtain ⟨⟨fx, objects⟩, hcall, rfl⟩ := Option.map_eq_some_iff.1 hstep
    exact PluggedDriver.keeps_setObjects
      ((keeps_setAwake_any s.objects _ false).trans (keeps_onIoContext hcall))

/-! ## The handlers through the handles -/

/-- What the handle of a device stands for. -/
def ioViewOf (objects : Objects β F) (device : Option Nat) : Option (Bool × IoContext β F) :=
  (wdfDeviceGetIoContext objects device).bind fun (_, u, record) =>
    (objects.deferredQueue record).map fun (_, q) => (u.isAwake, record.view q)

def PluggedDriver.view (s : PluggedDriver β F) : Option (DeviceState β F) :=
  (ioViewOf s.objects s.childDevice).map fun (isAwake, io) =>
    { missionRequest := s.missionRequest, missionCompletion := s.missionCompletion, io, isAwake }

section

variable {objects : Objects β F} {device : Option Nat} {io : IoContext β F} {isAwake : Bool}

theorem ioViewOf_eq_some : ioViewOf objects device = some (isAwake, io) ↔
    ∃ d u record i q, wdfDeviceGetIoContext objects device = some (d, u, record) ∧
      objects.deferredQueue record = some (i, q) ∧ u.isAwake = isAwake ∧ record.view q = io := by
  simp only [ioViewOf, Option.bind_eq_some_iff, Option.map_eq_some_iff, Prod.exists, Prod.mk.injEq]
  constructor
  · rintro ⟨d, u, record, hcontext, i, q, hq, hawake, hio⟩
    exact ⟨d, u, record, i, q, hcontext, hq, hawake, hio⟩
  · rintro ⟨d, u, record, i, q, hcontext, hq, hawake, hio⟩
    exact ⟨d, u, record, hcontext, i, q, hq, hawake, hio⟩

/-- **A call on the context** does to the view what it does to the context. -/
theorem onIoContext_view {ρ : Type} {f : IoRecord F → IoContext β F → Option (ρ × IoContext β F)}
    {answer : ρ} {io' : IoContext β F} (hview : ioViewOf objects device = some (isAwake, io))
    (hf : ∀ d u record, wdfDeviceGetIoContext objects device = some (d, u, record) →
      f record io = some (answer, io')) :
    ∃ objects', onIoContext objects device f = some (answer, objects') ∧
      ioViewOf objects' device = some (isAwake, io') := by
  obtain ⟨d, u, record, i, q, hcontext, hq, rfl, rfl⟩ := ioViewOf_eq_some.1 hview
  have hcall : onIoContext objects device f = some (answer,
      Objects.setIoContext (objects.update i (.queue io'.intrDeferredQueue)) d u
        { record with bStopping := io'.bStopping, intrState := io'.intrState }) := by
    simp only [onIoContext, hcontext, Option.bind_some, hq, hf d u record hcontext, Option.map_some]
  refine ⟨_, hcall, ?_⟩
  obtain ⟨rfl, hu, -⟩ := wdfDeviceGetIoContext_eq_some.1 hcontext
  obtain ⟨hi, hqueue⟩ := Objects.deferredQueue_eq_some.1 hq
  have hu' := (Objects.usbDevice_update hqueue io'.intrDeferredQueue d).trans hu
  have hafter := (Objects.usbDevice_setIoContext hu' u { record with
    bStopping := io'.bStopping, intrState := io'.intrState } d).trans (if_pos rfl)
  refine ioViewOf_eq_some.2 ⟨d, _, _, i, io'.intrDeferredQueue,
    wdfDeviceGetIoContext_eq_some.2 ⟨rfl, hafter, rfl⟩, ?_, rfl, rfl⟩
  rw [Objects.deferredQueue_congr rfl (Objects.queue_setIoContext hu' u _)]
  exact Objects.deferredQueue_eq_some.2 ⟨hi, (Objects.queue_update hqueue _ i).trans (if_pos rfl)⟩

theorem setAwake_view (hview : ioViewOf objects device = some (isAwake, io)) (isAwake' : Bool) :
    ioViewOf (objects.setAwake device isAwake') device = some (isAwake', io) := by
  obtain ⟨d, u, record, i, q, hcontext, hq, rfl, rfl⟩ := ioViewOf_eq_some.1 hview
  obtain ⟨rfl, hu, hrecord⟩ := wdfDeviceGetIoContext_eq_some.1 hcontext
  rw [Objects.setAwake_eq hu hrecord]
  have hafter := (Objects.usbDevice_setIoContext hu { u with isAwake := isAwake' } record d).trans
    (if_pos rfl)
  refine ioViewOf_eq_some.2 ⟨d, _, record, i, q,
    wdfDeviceGetIoContext_eq_some.2 ⟨rfl, hafter, rfl⟩, ?_, rfl, rfl⟩
  rw [Objects.deferredQueue_congr rfl (Objects.queue_setIoContext hu _ _)]
  exact hq

/-- The context of the device has a live lock. -/
def HasLock (objects : Objects β F) (device : Option Nat) : Prop :=
  ∀ d u record, wdfDeviceGetIoContext objects device = some (d, u, record) →
    objects.isSpinLock record.sync = true

theorem HasLock.keeps {objects' : Objects β F} (h : HasLock objects device)
    (hkeeps : objects.Keeps objects' device) : HasLock objects' device := by
  intro d u record hcontext
  have hhandles := handlesOf_eq_some.2 ⟨u, record, hcontext, rfl⟩
  rw [hkeeps.handles] at hhandles
  obtain ⟨u₀, record₀, hcontext₀, hsame⟩ := handlesOf_eq_some.1 hhandles
  have hsync : record₀.sync = record.sync := congrArg IoHandles.sync hsame
  rw [← hsync]
  exact isSpinLock_extends hkeeps.kinds (h d u₀ record₀ hcontext₀)

theorem HasHandles.hasLock {d : Nat} (h : HasHandles objects d true) :
    HasLock objects (some d) := by
  obtain ⟨handles, hhandles, -, hlock⟩ := h
  intro d' u record hcontext
  have hhandles' := handlesOf_eq_some.2 ⟨u, record, hcontext, rfl⟩
  obtain ⟨-, rfl⟩ := Prod.mk.inj (Option.some.inj (hhandles.symm.trans hhandles'))
  exact hlock rfl

theorem ioRaiseInterruptOn_view (hview : ioViewOf objects device = some (isAwake, io))
    (hlock : HasLock objects device) (latestStatus : F) (o : Outcomes) :
    ∃ objects', ioRaiseInterruptOn objects device latestStatus o =
        some (((ioRaiseInterrupt latestStatus o io).1, (ioRaiseInterrupt latestStatus o io).2.2),
          objects') ∧
      ioViewOf objects' device = some (isAwake, (ioRaiseInterrupt latestStatus o io).2.1) := by
  refine onIoContext_view hview ?_
  intro d u record hcontext
  simp [hlock d u record hcontext]

theorem ioEvtInterruptInUrbOn_view [Zero F] (hview : ioViewOf objects device = some (isAwake, io))
    (hlock : HasLock objects device) (ioControlCode : ULONG) (request : WdfRequest β)
    (o : Outcomes) :
    ∃ objects', ioEvtInterruptInUrbOn objects device ioControlCode request o =
        some ((ioEvtInterruptInUrb ioControlCode request o io).2, objects') ∧
      ioViewOf objects' device =
        some (isAwake, (ioEvtInterruptInUrb ioControlCode request o io).1) := by
  obtain ⟨d, u, record, i, q, hcontext, hq, hawake, hio⟩ := ioViewOf_eq_some.1 hview
  have hspin := hlock d u record hcontext
  by_cases hcode : ioControlCode = ioctlInternalUsbSubmitUrb
  · subst hcode
    by_cases hupdate : 0 < record.intrState.numUnreadUpdates
    · obtain ⟨rfl, hu, hrecord⟩ := wdfDeviceGetIoContext_eq_some.1 hcontext
      have hafter := (Objects.usbDevice_setIoContext hu u { record with intrState := .cleared }
        d).trans (if_pos rfl)
      refine ⟨objects.setIoContext d u { record with intrState := .cleared }, ?_, ?_⟩
      · subst hio
        simp [ioEvtInterruptInUrbOn, hcontext, hspin, hupdate, ioEvtInterruptInUrb, ioTakeUpdate,
          IoRecord.view]
      · refine ioViewOf_eq_some.2 ⟨d, _, _, i, q,
          wdfDeviceGetIoContext_eq_some.2 ⟨rfl, hafter, rfl⟩, ?_, hawake, ?_⟩
        · rw [Objects.deferredQueue_congr rfl (Objects.queue_setIoContext hu _ _)]
          exact hq
        · subst hio
          simp [ioEvtInterruptInUrb, ioTakeUpdate, IoRecord.view, hupdate]
    · obtain ⟨objects', hcall, hafter⟩ := onIoContext_view (f := fun _ io =>
        some ((ioEvtInterruptInUrb ioctlInternalUsbSubmitUrb request o io).2,
          (ioEvtInterruptInUrb ioctlInternalUsbSubmitUrb request o io).1)) hview fun _ _ _ _ => rfl
      refine ⟨objects', ?_, hafter⟩
      simp only [ioEvtInterruptInUrbOn, hcontext, Option.bind_some, hspin, hupdate]
      exact hcall
  · refine ⟨objects, ?_, ?_⟩
    · simp [ioEvtInterruptInUrbOn, hcontext, hcode, ioEvtInterruptInUrb]
    · simp only [ioEvtInterruptInUrb, if_pos hcode, ne_eq]
      exact hview

/-- **An event of a plugged-in device** does to what the handles stand for what `deviceStep`
does. -/
theorem pluggedDeviceStep_view [Zero F] {s : PluggedDriver β F} {v v' : DeviceState β F}
    {e : DeviceEvent β F} {fx : List (Effect β F)} (hview : s.view = some v)
    (hlock : HasLock s.objects s.childDevice) (hstep : deviceStep v e = some (v', fx)) :
    ∃ s', pluggedDeviceStep s e = some s' ∧ s'.view = some v' := by
  obtain ⟨⟨isAwake, io⟩, hio, rfl⟩ := Option.map_eq_some_iff.1 hview
  cases e with
  | dispatch request ioControlCode o =>
    unfold pluggedDeviceStep
    unfold deviceStep at hstep
    cases hsource : request.source with
    | interruptIn =>
      simp only [hsource, Option.some.injEq, Prod.mk.injEq] at hstep ⊢
      obtain ⟨rfl, -⟩ := hstep
      obtain ⟨objects', hcall, hafter⟩ :=
        ioEvtInterruptInUrbOn_view hio hlock ioControlCode request o
      refine ⟨s.setObjects objects', ?_, Option.map_eq_some_iff.2 ⟨_, hafter, rfl⟩⟩
      rw [hcall]
      rfl
    | ioctl =>
      simp only [hsource] at hstep
      cases hstep
    | _ =>
      simp only [hsource, Option.some.injEq, Prod.mk.injEq] at hstep ⊢
      obtain ⟨rfl, -⟩ := hstep
      exact ⟨_, rfl, Option.map_eq_some_iff.2 ⟨_, hio, rfl⟩⟩
  | raise latestStatus o =>
    obtain ⟨rfl, -⟩ := Prod.mk.inj (Option.some.inj hstep)
    obtain ⟨objects', hcall, hafter⟩ := ioRaiseInterruptOn_view hio hlock latestStatus o
    refine ⟨s.setObjects objects', ?_, Option.map_eq_some_iff.2 ⟨_, hafter, rfl⟩⟩
    rw [pluggedDeviceStep, hcall]
    rfl
  | cancel queue i =>
    obtain ⟨⟨request, q⟩, hcancel, heq⟩ := Option.map_eq_some_iff.1 hstep
    obtain ⟨rfl, -⟩ := Prod.mk.inj heq
    cases queue with
    | missionRequest =>
      refine ⟨{ s with missionRequest.readBufferQueue := q }, ?_,
        Option.map_eq_some_iff.2 ⟨_, hio, rfl⟩⟩
      rw [pluggedDeviceStep, show s.missionRequest.readBufferQueue.cancel i = _ from hcancel]
      rfl
    | missionCompletion =>
      refine ⟨{ s with missionCompletion.readBufferQueue := q }, ?_,
        Option.map_eq_some_iff.2 ⟨_, hio, rfl⟩⟩
      rw [pluggedDeviceStep, show s.missionCompletion.readBufferQueue.cancel i = _ from hcancel]
      rfl
    | intrDeferred =>
      have hdeferred : io.intrDeferredQueue.cancel i = some (request, q) := hcancel
      obtain ⟨objects', hcall, hafter⟩ := onIoContext_view (f := fun _ io =>
        (io.intrDeferredQueue.cancel i).map fun (request, intrDeferredQueue) =>
          ((io.intrDeferredQueue.canceled request : Completion β F), { io with intrDeferredQueue }))
        hio fun _ _ _ _ => by rw [hdeferred]; rfl
      refine ⟨s.setObjects objects', ?_, Option.map_eq_some_iff.2 ⟨_, hafter, rfl⟩⟩
      rw [pluggedDeviceStep, cancelDeferredOn, hcall]
      rfl
  | linkPowerEntry =>
    obtain ⟨rfl, -⟩ := Prod.mk.inj (Option.some.inj hstep)
    obtain ⟨objects', hcall, hafter⟩ := onIoContext_view (f := fun _ io =>
      some ((), ioDeviceWokeUp io)) hio fun _ _ _ _ => rfl
    refine ⟨s.setObjects (objects'.setAwake s.childDevice true), ?_,
      Option.map_eq_some_iff.2 ⟨_, setAwake_view hafter true, rfl⟩⟩
    rw [pluggedDeviceStep, usbDeviceEvtLinkPowerEntry, hcall]
    rfl
  | linkPowerExit =>
    obtain ⟨rfl, -⟩ := Prod.mk.inj (Option.some.inj hstep)
    obtain ⟨objects', hcall, hafter⟩ := onIoContext_view (f := fun _ io =>
      some ((ioDeviceSlept io).2, (ioDeviceSlept io).1)) (setAwake_view hio false)
      fun _ _ _ _ => rfl
    refine ⟨s.setObjects objects', ?_, Option.map_eq_some_iff.2 ⟨_, hafter, rfl⟩⟩
    rw [pluggedDeviceStep, usbDeviceEvtLinkPowerExit, hcall]
    rfl

end

end UdeSample
