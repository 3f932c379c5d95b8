import UdeSample.App.DumpText
import UdeSample.Host.ConfigDescriptor

/-!
# From the device to the text of its dump (`dump.c`)

The host driver answers `IOCTL_OSRUSBFX2_GET_CONFIG_DESCRIPTOR` with the descriptor set of the
device, and `DumpUsbConfig` writes down what it finds there. `dumpConfigDescriptor_roundTrip`: for a
device with an encoded configuration the text gives every descriptor back, unless a call fails or
the set does not fit in the buffer of the program; then the text has no descriptor in it.

The program is modelled from its `DeviceIoControl` on, for a handle of the device. Its call
`OpenDevice(TRUE)` is not: `dump.c` declares the function with a `BOOL` where the one of `testapp.c`
takes a pointer to the interface class.
-/

namespace UdeSample

open Lib

/-! ## The program -/

structure DumpOutcomes where
  ioctl : ConfigDescriptorOutcomes
  /-- `GetLastError` after a failed `DeviceIoControl` -/
  lastError : ULONG

/-- The request that `DeviceIoControl` makes, with `buf` for its buffer. -/
def dumpRequest : WdfRequest UCHAR := { id := 0, source := .ioctl, buffer := List.replicate 256 0 }

/-- The bytes that a buffered request brings back. -/
def Completion.returnedBytes {F : Type} (c : Completion UCHAR F) : List UCHAR :=
  match c.data with
  | .bytes bs => bs.take c.information
  | .none | .flags _ => []

/-- `DumpUsbConfig` once it has a handle: what it returns and what it writes. -/
def dumpConfigDescriptor (o : DumpOutcomes) (usbDevice : UsbTargetDevice) (beyond : Nat → UCHAR)
    (fuel : Nat) : Option (Bool × List Char) :=
  let c : Completion UCHAR ULONG := osrGetConfigDescriptor usbDevice dumpRequest o.ioctl
  if ntSuccess c.status then
    (dumpUsbConfig (charBuf c.returnedBytes beyond) fuel).map fun (_, dumped) =>
      (true, dumpText dumped)
  else
    some (false,
      unlines ["Ioct - GetConfigDesc failed ".toList ++ intText o.lastError.toInt])

/-! ## The program over the driver -/

/-- No call fails, and `buf` has room for the descriptor set. -/
def DumpOutcomes.Ok (o : DumpOutcomes) (usbDevice : UsbTargetDevice) : Prop :=
  o.ioctl.Ok ∧ usbDevice.configDescriptor.length ≤ 256

section Program

variable {o : DumpOutcomes} {usbDevice : UsbTargetDevice}

theorem dumpRequest_length : dumpRequest.buffer.length = 256 := List.length_replicate

theorem dumpConfigDescriptor_ok (hok : o.Ok usbDevice) (beyond : Nat → UCHAR) (fuel : Nat) :
    dumpConfigDescriptor o usbDevice beyond fuel =
      (dumpUsbConfig (charBuf usbDevice.configDescriptor beyond) fuel).map fun (_, dumped) =>
        (true, dumpText dumped) := by
  obtain ⟨hioctl, hfits⟩ := hok
  have hroom : usbDevice.configDescriptor.length ≤ dumpRequest.buffer.length := by
    rw [dumpRequest_length]
    exact hfits
  have hsuccess : ntSuccess statusSuccess = true := rfl
  simp [dumpConfigDescriptor, osrGetConfigDescriptor_ok usbDevice dumpRequest hioctl hroom,
    hsuccess, Completion.returnedBytes]

/-- A failure leaves one line. -/
theorem dumpConfigDescriptor_failed (hno : ¬ o.Ok usbDevice) :
    ∃ text, readDump text = none ∧
      ∀ beyond fuel, dumpConfigDescriptor o usbDevice beyond fuel = some (false, text) := by
  obtain ⟨e, herror⟩ := osrGetConfigDescriptor_error (F := ULONG) usbDevice dumpRequest
    (o := o.ioctl) (by rw [dumpRequest_length]; exact hno)
  have hfailed : ntSuccess e.status = false := e.failed
  refine ⟨unlines ["Ioct - GetConfigDesc failed ".toList ++ intText o.lastError.toInt], ?_, ?_⟩
  · have hline : '\n' ∉ "Ioct - GetConfigDesc failed ".toList := by decide
    rw [readDump, lines_unlines]
    exact List.forall_mem_singleton.2 fun h =>
      (List.mem_append.1 h).elim hline (newline_notMem_intText _)
  · intro beyond fuel
    simp [dumpConfigDescriptor, herror, hfailed]

/-- **From the device to the text and back.** If a call fails or the descriptor set does not fit in
`buf`, the program fails, and what it wrote has no descriptor in it. Else the text gives back what
the walk visited, whatever the device sent; of an encoded configuration, every descriptor. -/
theorem dumpConfigDescriptor_roundTrip (o : DumpOutcomes) (usbDevice : UsbTargetDevice) :
    (¬ o.Ok usbDevice → ∃ text, readDump text = none ∧
      ∀ beyond fuel, dumpConfigDescriptor o usbDevice beyond fuel = some (false, text)) ∧
    (o.Ok usbDevice → ∀ beyond,
      (∀ fuel ok text, dumpConfigDescriptor o usbDevice beyond fuel = some (ok, text) → ok = true ∧
        readDump text = dumpUsbConfig (charBuf usbDevice.configDescriptor beyond) fuel) ∧
      ∀ c : ConfigurationBytes, c.encode = usbDevice.configDescriptor →
        ∃ text, dumpConfigDescriptor o usbDevice beyond c.interfaces.length = some (true, text) ∧
          readDump text = some (c.encode.length, c.dumped)) := by
  refine ⟨dumpConfigDescriptor_failed, ?_⟩
  intro hok beyond
  constructor
  · intro fuel ok text hmain
    rw [dumpConfigDescriptor_ok hok] at hmain
    obtain ⟨⟨stop, dumped⟩, hwalk, heq⟩ := Option.map_eq_some_iff.1 hmain
    obtain ⟨rfl, rfl⟩ := Prod.mk.inj heq
    have hread := dumpUsbConfig_read (charBuf usbDevice.configDescriptor beyond) fuel
    refine ⟨rfl, ?_⟩
    rw [hwalk, Option.bind_some] at hread
    rw [hwalk]
    exact hread
  · intro c hc
    have hwalk := c.dumped_encode beyond
    have hread := dumpUsbConfig_read (charBuf c.encode beyond) c.interfaces.length
    rw [hwalk, Option.bind_some] at hread
    refine ⟨dumpText c.dumped, ?_, hread⟩
    rw [dumpConfigDescriptor_ok hok, ← hc, hwalk]
    rfl

end Program

/-- The emulated device. -/
def emulatedDevice : UsbTargetDevice where
  configDescriptor := gUsbConfigDescriptorSet
  standard_le := by decide
  wTotalLength_eq := by decide

def dumpOk : DumpOutcomes :=
  { ioctl := ⟨.ok (), .ok (), .ok ()⟩, lastError := 0 }

theorem emulatedDevice_roundTrip : ∃ text,
    dumpConfigDescriptor dumpOk emulatedDevice (fun _ => 0) 1 = some (true, text) ∧
      readDump text = some (39, deviceConfiguration.dumped) := by
  have hok : dumpOk.Ok emulatedDevice := ⟨⟨rfl, rfl, rfl⟩, by decide⟩
  have hencode : deviceConfiguration.encode = emulatedDevice.configDescriptor := by decide
  obtain ⟨text, hmain, hread⟩ :=
    ((dumpConfigDescriptor_roundTrip dumpOk emulatedDevice).2 hok fun _ => 0).2 _ hencode
  have hlen : deviceConfiguration.encode.length = 39 := by decide
  rw [hlen] at hread
  exact ⟨text, hmain, hread⟩

end UdeSample
