import UdeSample.App.Dump

/-!
# The configuration descriptor in the host driver (`ioctl.c`)

`IOCTL_OSRUSBFX2_GET_CONFIG_DESCRIPTOR` asks the framework for the size of the descriptor set of the
device and then for the set. `osrGetConfigDescriptor_ok` and `osrGetConfigDescriptor_error` say what
an application gets.
-/

namespace UdeSample

open Lib

/-- The device as the framework of the host driver knows it: the descriptor set that it read when
the device came, which is as long as it says. -/
structure UsbTargetDevice where
  configDescriptor : List UCHAR
  standard_le : sizeofConfigurationDescriptor ≤ configDescriptor.length
  wTotalLength_eq : (ushortAt (charBuf configDescriptor fun _ => 0) 2).toNat =
    configDescriptor.length

/-- `WdfUsbTargetDeviceRetrieveConfigDescriptor`: its status, `ConfigDescriptorLength` and the bytes
copied. Without a buffer it tells the size. -/
def wdfUsbTargetDeviceRetrieveConfigDescriptor (usbDevice : UsbTargetDevice)
    (hasBuffer : Bool) (configDescriptorLength : USHORT) (o : NtResult Unit) :
    NTSTATUS × USHORT × List UCHAR :=
  let required : USHORT := .ofNat 16 usbDevice.configDescriptor.length
  match o with
  | .error e => (e.status, configDescriptorLength, [])
  | .ok () =>
    if hasBuffer ∧ required ≤ configDescriptorLength then
      (statusSuccess, required, usbDevice.configDescriptor)
    else (statusBufferTooSmall, required, [])

/-- What the framework answers while `IOCTL_OSRUSBFX2_GET_CONFIG_DESCRIPTOR` is handled. -/
structure ConfigDescriptorOutcomes where
  querySize : NtResult Unit
  retrieveOutputBuffer : NtResult Unit
  retrieveDescriptor : NtResult Unit

variable {F : Type}

/-- The part of the handler with the output buffer, once the size is known. -/
def osrFillConfigDescriptor (usbDevice : UsbTargetDevice) (request : WdfRequest UCHAR)
    (requiredSize : USHORT) (o : ConfigDescriptorOutcomes) : Completion UCHAR F :=
  match wdfRequestRetrieveBuffer request requiredSize.toNat o.retrieveOutputBuffer with
  | .error e => completeRequest .wdfRequest request e.status 0
  | .ok _ =>
    let (status, bytesReturned, bytes) :=
      wdfUsbTargetDeviceRetrieveConfigDescriptor usbDevice true requiredSize o.retrieveDescriptor
    if ntSuccess status then
      { request, api := .wdfRequest, status, information := bytesReturned.toNat
        data := .bytes bytes }
    else completeRequest .wdfRequest request status 0

/-- `OsrFxEvtIoDeviceControl`, case `IOCTL_OSRUSBFX2_GET_CONFIG_DESCRIPTOR`. -/
def osrGetConfigDescriptor (usbDevice : UsbTargetDevice) (request : WdfRequest UCHAR)
    (o : ConfigDescriptorOutcomes) : Completion UCHAR F :=
  let (status, requiredSize, _) :=
    wdfUsbTargetDeviceRetrieveConfigDescriptor usbDevice false 0 o.querySize
  if status ≠ statusBufferTooSmall then completeRequest .wdfRequest request status 0
  else osrFillConfigDescriptor usbDevice request requiredSize o

/-! ## What the driver answers -/

theorem UsbTargetDevice.length_lt (usbDevice : UsbTargetDevice) :
    usbDevice.configDescriptor.length < 2 ^ 16 := by
  rw [← usbDevice.wTotalLength_eq]
  exact BitVec.isLt _

/-- The calls all succeed. -/
def ConfigDescriptorOutcomes.Ok (o : ConfigDescriptorOutcomes) : Prop :=
  o.querySize = .ok () ∧ o.retrieveOutputBuffer = .ok () ∧ o.retrieveDescriptor = .ok ()

theorem UsbTargetDevice.required_toNat (usbDevice : UsbTargetDevice) :
    (BitVec.ofNat 16 usbDevice.configDescriptor.length).toNat =
      usbDevice.configDescriptor.length := by
  rw [BitVec.toNat_ofNat, Nat.mod_eq_of_lt usbDevice.length_lt]

section Handler

variable (usbDevice : UsbTargetDevice) (request : WdfRequest UCHAR) {o : ConfigDescriptorOutcomes}

theorem osrGetConfigDescriptor_ok (hok : o.Ok)
    (hfits : usbDevice.configDescriptor.length ≤ request.buffer.length) :
    (osrGetConfigDescriptor usbDevice request o : Completion UCHAR F) =
      { request, api := .wdfRequest, status := statusSuccess
        information := usbDevice.configDescriptor.length
        data := .bytes usbDevice.configDescriptor } := by
  obtain ⟨hsize, hbuffer, hretrieve⟩ := hok
  have hroom := Nat.not_lt.2 hfits
  have hsuccess : ntSuccess statusSuccess = true := rfl
  simp [osrGetConfigDescriptor, osrFillConfigDescriptor, wdfRequestRetrieveBuffer,
    wdfUsbTargetDeviceRetrieveConfigDescriptor, hsize, hbuffer, hretrieve,
    usbDevice.required_toNat, hroom, hsuccess]

/-- A size that is not the right one, or a call that fails. -/
theorem osrFillConfigDescriptor_error {requiredSize : USHORT}
    (hno : o.retrieveOutputBuffer = .ok () → requiredSize.toNat ≤ request.buffer.length →
      o.retrieveDescriptor = .ok () →
        ¬ usbDevice.configDescriptor.length ≤ requiredSize.toNat) :
    ∃ e : NtError, (osrFillConfigDescriptor usbDevice request requiredSize o :
      Completion UCHAR F) = completeRequest .wdfRequest request e.status 0 := by
  have hfailed (e : NtError) : ntSuccess e.status = false := e.failed
  rw [osrFillConfigDescriptor]
  cases hbuffer : o.retrieveOutputBuffer with
  | error e => exact ⟨e, rfl⟩
  | ok u =>
    rcases Nat.lt_or_ge request.buffer.length requiredSize.toNat with hlt | hge
    · exact ⟨⟨statusBufferTooSmall, rfl⟩, by simp [wdfRequestRetrieveBuffer, hlt]⟩
    · simp only [wdfRequestRetrieveBuffer, Nat.not_lt.2 hge, if_false,
        wdfUsbTargetDeviceRetrieveConfigDescriptor]
      cases hretrieve : o.retrieveDescriptor with
      | error e => exact ⟨e, by simp [hfailed]⟩
      | ok u =>
        have hsmall : ¬ BitVec.ofNat 16 usbDevice.configDescriptor.length ≤ requiredSize := by
          rw [BitVec.le_def, usbDevice.required_toNat]
          exact hno hbuffer hge hretrieve
        have hstatus : ntSuccess statusBufferTooSmall = false := rfl
        exact ⟨⟨statusBufferTooSmall, rfl⟩, by simp [hsmall, hstatus]⟩

theorem osrGetConfigDescriptor_error
    (hno : ¬ (o.Ok ∧ usbDevice.configDescriptor.length ≤ request.buffer.length)) :
    ∃ e : NtError, (osrGetConfigDescriptor usbDevice request o : Completion UCHAR F) =
      completeRequest .wdfRequest request e.status 0 := by
  rw [osrGetConfigDescriptor]
  cases hsize : o.querySize with
  | error e =>
    by_cases hstatus : e.status = statusBufferTooSmall
    · -- the size is still zero, which no descriptor set has
      have hfill : ∃ e : NtError, (osrFillConfigDescriptor usbDevice request 0 o :
          Completion UCHAR F) = completeRequest .wdfRequest request e.status 0 := by
        refine osrFillConfigDescriptor_error usbDevice request ?_
        intro _ _ _ hle
        exact absurd (usbDevice.standard_le.trans hle) (by decide)
      simpa [wdfUsbTargetDeviceRetrieveConfigDescriptor, hstatus] using hfill
    · exact ⟨e, by simp [wdfUsbTargetDeviceRetrieveConfigDescriptor, hstatus]⟩
  | ok u =>
    have hfill : ∃ e : NtError, (osrFillConfigDescriptor usbDevice request
        (.ofNat 16 usbDevice.configDescriptor.length) o : Completion UCHAR F) =
          completeRequest .wdfRequest request e.status 0 := by
      refine osrFillConfigDescriptor_error usbDevice request ?_
      intro hbuffer hfits hretrieve
      rw [usbDevice.required_toNat] at hfits
      exact absurd ⟨⟨hsize, hbuffer, hretrieve⟩, hfits⟩ hno
    simpa [wdfUsbTargetDeviceRetrieveConfigDescriptor] using hfill

end Handler

end UdeSample
