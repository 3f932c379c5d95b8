import UdeSample.Device.Run
import UdeSample.Host.Ioctl

/-!
# Device and host driver together: interrupts

The device machine and the interrupt part of the host driver, with the completed interrupt URBs
between them. The continuous reader posts well-formed URBs of four bytes whose buffer can be
retrieved; completed URBs reach its callbacks in completion order, and it is told of no failure
other than a cancellation. Applications send requests with room for the flags, and may cancel them.
-/

namespace UdeSample

open Lib

variable {β F : Type}

/-- The device, the URBs completed by it and not yet seen by the host, the host driver, and the
requests it has completed, in order. -/
structure InterruptSystem (β F : Type) where
  device : DeviceState β F
  inFlight : List (Completion β F)
  host : HostContext β F
  answers : List (Completion β F)

def interruptSystemInit [Zero F] : InterruptSystem β F :=
  { device := deviceInit, inFlight := [], host := hostContextCreated, answers := [] }

inductive SystemEvent (β F : Type) where
  | raise (latestStatus : F)
  | postUrb (request : WdfRequest β) (forward : ForwardOutcome)
  | cancelUrb (i : Nat)
  | suspend
  | resume
  | deliver
  | get (request : WdfRequest β) (forward : ForwardOutcome)
  | cancelGet (i : Nat)

/-- Answers of the framework to the device when URB buffers can be retrieved. -/
def retrievable (forward : ForwardOutcome) : Outcomes := ⟨.ok (), true, .ok (), forward, 0⟩

/-- A device event; the URBs it completes are on their way to the host. -/
def InterruptSystem.deviceEvent [Zero F] (s : InterruptSystem β F) (e : DeviceEvent β F) :
    Option (InterruptSystem β F) :=
  (deviceStep s.device e).map fun (device, effects) =>
    { s with device, inFlight := s.inFlight ++ completions effects }

theorem InterruptSystem.deviceEvent_eq_some [Zero F] {s s' : InterruptSystem β F}
    {e : DeviceEvent β F} : s.deviceEvent e = some s' ↔ ∃ device effects,
      deviceStep s.device e = some (device, effects) ∧
        s' = { s with device, inFlight := s.inFlight ++ completions effects } := by
  constructor
  · intro h
    obtain ⟨⟨device, effects⟩, hdev, rfl⟩ := Option.map_eq_some_iff.1 h
    exact ⟨device, effects, hdev, rfl⟩
  · rintro ⟨device, effects, hdev, rfl⟩
    exact Option.map_eq_some_iff.2 ⟨(device, effects), hdev, rfl⟩

def systemStep [Zero F] (s : InterruptSystem β F) : SystemEvent β F → Option (InterruptSystem β F)
  | .raise latestStatus =>
    s.deviceEvent (.raise latestStatus
      (retrievable ⟨false, ⟨statusCancelled, statusCancelled_failed⟩⟩))
  | .postUrb request forward =>
    if request.source = .interruptIn ∧ request.buffer.length = sizeofDeviceIntrFlags then
      s.deviceEvent (.dispatch request ioctlInternalUsbSubmitUrb (retrievable forward))
    else none
  | .cancelUrb i => s.deviceEvent (.cancel .intrDeferred i)
  | .suspend => s.deviceEvent .linkPowerExit
  | .resume => s.deviceEvent .linkPowerEntry
  | .deliver =>
    match s.inFlight with
    | [] => none
    | c :: inFlight =>
      match c.delivered with
      | some newFlags =>
        let (host, answers) :=
          osrFxEvtUsbInterruptPipeReadComplete c.information newFlags (fun _ => .ok ()) s.host
        some { s with inFlight, host, answers := s.answers ++ answers }
      | none =>
        if c.status = statusCancelled then
          let (host, answers) :=
            osrFxEvtUsbInterruptReadersFailed c.status (fun _ => .ok ()) s.host
          some { s with inFlight, host, answers := s.answers ++ answers }
        else none
  | .get request forward =>
    if sizeofDeviceIntrFlags ≤ request.buffer.length then
      let (host, answers) := osrGetInterruptMessage request (.ok ()) forward s.host
      some { s with host, answers := s.answers ++ answers }
    else none
  | .cancelGet i =>
    (s.host.interruptMsgQueue.cancel i).map fun (request, interruptMsgQueue) =>
      { s with
        host := { s.host with interruptMsgQueue }
        answers := s.answers ++ [interruptMsgQueue.canceled request] }

def systemRun [Zero F] (t : List (SystemEvent β F)) : Option (InterruptSystem β F) :=
  run systemStep interruptSystemInit t

def systemRaises (t : List (SystemEvent β F)) : List F :=
  t.filterMap fun
    | .raise v => some v
    | _ => none

def InterruptSystem.returned (s : InterruptSystem β F) : List F :=
  s.answers.filterMap Completion.delivered

def InterruptSystem.flying (s : InterruptSystem β F) : List F :=
  s.inFlight.filterMap Completion.delivered

@[simp] theorem systemRaises_concat (t : List (SystemEvent β F)) (e : SystemEvent β F) :
    systemRaises (t ++ [e]) = systemRaises t ++ systemRaises [e] :=
  List.filterMap_append

section

variable [Zero F] {s s' : InterruptSystem β F}

theorem systemStep_postUrb_eq_some {request : WdfRequest β} {forward : ForwardOutcome} :
    systemStep s (.postUrb request forward) = some s' ↔
      (request.source = .interruptIn ∧ request.buffer.length = sizeofDeviceIntrFlags) ∧
        s.deviceEvent (.dispatch request ioctlInternalUsbSubmitUrb (retrievable forward)) =
          some s' := by
  rw [systemStep]
  split
  · next hurb => exact ⟨fun h => ⟨hurb, h⟩, fun h => h.2⟩
  · next hurb => exact ⟨fun h => (by cases h), fun h => absurd h.1 hurb⟩

/-- The first URB in flight brings an update, or its cancellation. -/
theorem systemStep_deliver_eq_some : systemStep s .deliver = some s' ↔
    ∃ c inFlight, s.inFlight = c :: inFlight ∧
      ∃ handled : HostContext β F × List (Completion β F),
        s' = { s with inFlight, host := handled.1, answers := s.answers ++ handled.2 } ∧
          ((∃ newFlags, c.delivered = some newFlags ∧ handled =
              osrFxEvtUsbInterruptPipeReadComplete c.information newFlags (fun _ => .ok ())
                s.host) ∨
            (c.delivered = none ∧ c.status = statusCancelled ∧ handled =
              osrFxEvtUsbInterruptReadersFailed statusCancelled (fun _ => .ok ()) s.host)) := by
  rw [systemStep]
  cases hcs : s.inFlight with
  | nil => simp
  | cons c inFlight =>
    simp only [List.cons.injEq]
    constructor
    · intro h
      cases hv : c.delivered with
      | some v =>
        simp only [hv] at h
        exact ⟨c, inFlight, ⟨rfl, rfl⟩, _, (Option.some.inj h).symm, Or.inl ⟨v, hv, rfl⟩⟩
      | none =>
        simp only [hv] at h
        split at h
        · next hcancel =>
          rw [hcancel] at h
          exact ⟨c, inFlight, ⟨rfl, rfl⟩, _, (Option.some.inj h).symm, Or.inr ⟨hv, hcancel, rfl⟩⟩
        · cases h
    · rintro ⟨c', inFlight', ⟨rfl, rfl⟩, handled, rfl, ⟨v, hv, rfl⟩ | ⟨hv, hcancel, rfl⟩⟩
      · simp only [hv]
      · simp only [hv, hcancel, if_true]

theorem systemStep_get_eq_some {request : WdfRequest β} {forward : ForwardOutcome} :
    systemStep s (.get request forward) = some s' ↔
      sizeofDeviceIntrFlags ≤ request.buffer.length ∧
        s' = { s with
          host := (osrGetInterruptMessage request (.ok ()) forward s.host).1
          answers := s.answers ++ (osrGetInterruptMessage request (.ok ()) forward s.host).2 } := by
  rw [systemStep]
  split
  · next hsize =>
    exact ⟨fun h => ⟨hsize, (Option.some.inj h).symm⟩, fun h => congrArg some h.2.symm⟩
  · next hsize => exact ⟨fun h => (by cases h), fun h => absurd h.1 hsize⟩

end

theorem systemStep_channel [Zero F] {s s' : InterruptSystem β F} {e : SystemEvent β F}
    (hstep : systemStep s e = some s') (ch : MissionChannel) :
    s'.device.channel ch = s.device.channel ch := by
  cases e with
  | raise v =>
    obtain rfl := Option.some.inj hstep
    cases ch <;> rfl
  | postUrb request forward =>
    obtain ⟨hurb, hevent⟩ := systemStep_postUrb_eq_some.1 hstep
    obtain ⟨device, fx, hdev, rfl⟩ := InterruptSystem.deviceEvent_eq_some.1 hevent
    simp only [deviceStep, hurb.1, Option.some.injEq, Prod.mk.injEq] at hdev
    obtain ⟨rfl, rfl⟩ := hdev
    cases ch <;> rfl
  | cancelUrb i =>
    obtain ⟨device, fx, hdev, rfl⟩ := InterruptSystem.deviceEvent_eq_some.1 hstep
    cases deviceStep_effect hdev with
    | cancel => cases ch <;> rfl
  | suspend | resume =>
    obtain ⟨device, fx, hdev, rfl⟩ := InterruptSystem.deviceEvent_eq_some.1 hstep
    cases deviceStep_effect hdev
    cases ch <;> rfl
  | deliver =>
    obtain ⟨c, inFlight, -, handled, rfl, -⟩ := systemStep_deliver_eq_some.1 hstep
    rfl
  | get request forward =>
    obtain ⟨-, rfl⟩ := systemStep_get_eq_some.1 hstep
    rfl
  | cancelGet i =>
    obtain ⟨x, -, rfl⟩ := Option.map_eq_some_iff.1 hstep
    rfl

/-! ## What the handlers deliver -/

theorem ioCompletePendingRequest_delivered {r : WdfRequest β}
    (hr : r.buffer.length = sizeofDeviceIntrFlags) (v : F) :
    (ioCompletePendingRequest r v (.ok ())).delivered = some v ∧
      (ioCompletePendingRequest r v (.ok ())).information = sizeofDeviceIntrFlags := by
  have hok : udecxUrbRetrieveBuffer r (.ok ()) = .ok r.buffer := rfl
  simp only [ioCompletePendingRequest, hok, hr, ne_eq, not_true_eq_false, if_false]
  exact ⟨rfl, trivial⟩

theorem osrCompleteInterruptRequest_delivered {r : WdfRequest β}
    (hr : sizeofDeviceIntrFlags ≤ r.buffer.length) (readerStatus : NTSTATUS) (v : F) :
    (osrCompleteInterruptRequest r readerStatus v (.ok ())).delivered =
      if ntSuccess readerStatus then some v else none := by
  have hok : wdfRequestRetrieveBuffer r sizeofDeviceIntrFlags (.ok ()) = .ok r.buffer :=
    if_neg (Nat.not_lt.2 hr)
  simp only [osrCompleteInterruptRequest, hok]
  cases hs : ntSuccess readerStatus with
  | true => simp [Completion.delivered, hs]
  | false => rfl

end UdeSample
