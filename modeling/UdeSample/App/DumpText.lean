import UdeSample.App.DumpRoundTrip
import UdeSample.Lib.Printf

/-!
# The text of the dump (`dump.c`)

What the print functions write for the descriptors that the walk of `DumpUsbConfig` visits, by
lines. `readDump` goes back from the text: each field stands on a line of its own, in hexadecimal
after a `0x`, a blank line starts an interface, and an offset is the sum of the lengths before it.
`readDump_dumpText`: no field, no index and no offset is lost in the text.
-/

namespace UdeSample

open Lib

/-! ## The print functions -/

def usbDescriptorTypeString (bDescriptorType : UCHAR) : String :=
  match bDescriptorType.toNat with
  | 1 => "USB_DEVICE_DESCRIPTOR_TYPE"
  | 2 => "USB_CONFIGURATION_DESCRIPTOR_TYPE"
  | 3 => "USB_STRING_DESCRIPTOR_TYPE"
  | 4 => "USB_INTERFACE_DESCRIPTOR_TYPE"
  | 5 => "USB_ENDPOINT_DESCRIPTOR_TYPE"
  | 6 => "USB_RESERVED_DESCRIPTOR_TYPE"
  | 7 => "USB_CONFIG_POWER_DESCRIPTOR_TYPE"
  | 8 => "USB_INTERFACE_POWER_DESCRIPTOR_TYPE"
  | _ => "??? UNKNOWN!!"

def usbEndpointTypeMask : UCHAR := 0x03

def usbEndPointTypeString (bmAttributes : UCHAR) : String :=
  match (bmAttributes &&& usbEndpointTypeMask).toNat with
  | 3 => "USB_ENDPOINT_TYPE_INTERRUPT"
  | 2 => "USB_ENDPOINT_TYPE_BULK"
  | 1 => "USB_ENDPOINT_TYPE_ISOCHRONOUS"
  | 0 => "USB_ENDPOINT_TYPE_CONTROL"
  | _ => "??? UNKNOWN!!"

def usbConfigPoweredMask : UCHAR := 0xC0

def usbConfigAttributesString (bmAttributes : UCHAR) : String :=
  match (bmAttributes &&& usbConfigPoweredMask).toNat with
  | 0x80 => "USB_CONFIG_BUS_POWERED"
  | 0x40 => "USB_CONFIG_SELF_POWERED"
  | 0x20 => "USB_CONFIG_REMOTE_WAKEUP"
  | _ => "??? UNKNOWN!!"

/-- A field in hexadecimal, after its label and before the rest of its line. -/
def fieldLine (label : String) (v : Nat) (rest : List Char) : List Char :=
  label.toList ++ (hexText v ++ rest)

/-- `", decimal %d"` -/
def decimalOf (v : Nat) : List Char := ", decimal ".toList ++ intText v

/-- `" ( %s )"` -/
def named (name : String) : List Char := " ( ".toList ++ name.toList ++ " )".toList

/-- `print_USB_CONFIGURATION_DESCRIPTOR`. -/
def printUsbConfigurationDescriptor (cd : UsbConfigurationDescriptor) : List (List Char) :=
  [[], "===================".toList, "USB_CONFIGURATION_DESCRIPTOR".toList,
    fieldLine "bLength = 0x" cd.bLength.toNat (decimalOf cd.bLength.toNat),
    fieldLine "bDescriptorType = 0x" cd.bDescriptorType.toNat
      (named (usbDescriptorTypeString cd.bDescriptorType)),
    fieldLine "wTotalLength = 0x" cd.wTotalLength.toNat (decimalOf cd.wTotalLength.toNat),
    fieldLine "bNumInterfaces = 0x" cd.bNumInterfaces.toNat (decimalOf cd.bNumInterfaces.toNat),
    fieldLine "bConfigurationValue = 0x" cd.bConfigurationValue.toNat
      (decimalOf cd.bConfigurationValue.toNat),
    fieldLine "iConfiguration = 0x" cd.iConfiguration.toNat (decimalOf cd.iConfiguration.toNat),
    fieldLine "bmAttributes = 0x" cd.bmAttributes.toNat
      (named (usbConfigAttributesString cd.bmAttributes)),
    fieldLine "MaxPower = 0x" cd.maxPower.toNat (decimalOf cd.maxPower.toNat)]

/-- `print_USB_INTERFACE_DESCRIPTOR`; `%d` takes the `UINT` for a signed number. -/
def printUsbInterfaceDescriptor (id : UsbInterfaceDescriptor) (ix : Nat) : List (List Char) :=
  [[], "-----------------------------".toList,
    "USB_INTERFACE_DESCRIPTOR #".toList ++ intText (BitVec.ofNat 32 ix).toInt,
    fieldLine "bLength = 0x" id.bLength.toNat [],
    fieldLine "bDescriptorType = 0x" id.bDescriptorType.toNat
      (named (usbDescriptorTypeString id.bDescriptorType)),
    fieldLine "bInterfaceNumber = 0x" id.bInterfaceNumber.toNat [],
    fieldLine "bAlternateSetting = 0x" id.bAlternateSetting.toNat [],
    fieldLine "bNumEndpoints = 0x" id.bNumEndpoints.toNat [],
    fieldLine "bInterfaceClass = 0x" id.bInterfaceClass.toNat [],
    fieldLine "bInterfaceSubClass = 0x" id.bInterfaceSubClass.toNat [],
    fieldLine "bInterfaceProtocol = 0x" id.bInterfaceProtocol.toNat [],
    fieldLine "bInterface = 0x" id.iInterface.toNat []]

/-- The conversion `%02d` of a number that is not negative. -/
def twoDigits (i : Nat) : List Char :=
  if (intText i).length < 2 then '0' :: intText i else intText i

/-- `USB_ENDPOINT_DIRECTION_IN` -/
def usbEndpointDirectionIn (bEndpointAddress : UCHAR) : Bool := bEndpointAddress &&& 0x80 != 0

/-- `print_USB_ENDPOINT_DESCRIPTOR`. -/
def printUsbEndpointDescriptor (ed : UsbEndpointDescriptor) (i : Nat) : List (List Char) :=
  ["------------------------------".toList,
    "USB_ENDPOINT_DESCRIPTOR for Pipe".toList ++ twoDigits i,
    fieldLine "bLength = 0x" ed.bLength.toNat [],
    fieldLine "bDescriptorType = 0x" ed.bDescriptorType.toNat
      (named (usbDescriptorTypeString ed.bDescriptorType)),
    fieldLine "bEndpointAddress= 0x" ed.bEndpointAddress.toNat
      (named (if usbEndpointDirectionIn ed.bEndpointAddress then "INPUT" else "OUTPUT")),
    fieldLine "bmAttributes= 0x" ed.bmAttributes.toNat
      (named (usbEndPointTypeString ed.bmAttributes)),
    fieldLine "wMaxPacketSize= 0x" ed.wMaxPacketSize.toNat (decimalOf ed.wMaxPacketSize.toNat),
    fieldLine "bInterval = 0x" ed.bInterval.toNat (decimalOf ed.bInterval.toNat)]

def Dumped.print : Dumped → List (List Char)
  | .configuration _ cd => printUsbConfigurationDescriptor cd
  | .interface _ id ix => printUsbInterfaceDescriptor id ix
  | .endpoint _ ed i => printUsbEndpointDescriptor ed i

/-- What a dump writes. -/
def dumpText (dumped : List Dumped) : List Char := unlines (dumped.flatMap Dumped.print)

/-! ## Reading the text -/

/-- The number on a line, after the `= 0x`. -/
def fieldValue (line : List Char) : Nat :=
  hexValue (hexDigits ((line.dropWhile (· != '=')).drop 4))

/-- The lines after those of the configuration descriptor: the next descriptor is at `off`, the next
interface is the `ix`-th and the next endpoint the `j`-th of its interface. -/
def readDescriptors (off ix j : Nat) : List (List Char) → Option (Nat × List Dumped)
  | [] => some (off, [])
  | [] :: _ :: _ :: bLength :: bDescriptorType :: bInterfaceNumber :: bAlternateSetting ::
      bNumEndpoints :: bInterfaceClass :: bInterfaceSubClass :: bInterfaceProtocol ::
      iInterface :: rest =>
    let id : UsbInterfaceDescriptor :=
      { bLength := .ofNat 8 (fieldValue bLength)
        bDescriptorType := .ofNat 8 (fieldValue bDescriptorType)
        bInterfaceNumber := .ofNat 8 (fieldValue bInterfaceNumber)
        bAlternateSetting := .ofNat 8 (fieldValue bAlternateSetting)
        bNumEndpoints := .ofNat 8 (fieldValue bNumEndpoints)
        bInterfaceClass := .ofNat 8 (fieldValue bInterfaceClass)
        bInterfaceSubClass := .ofNat 8 (fieldValue bInterfaceSubClass)
        bInterfaceProtocol := .ofNat 8 (fieldValue bInterfaceProtocol)
        iInterface := .ofNat 8 (fieldValue iInterface) }
    (readDescriptors (off + id.bLength.toNat) (ix + 1) 0 rest).map fun (stop, dumped) =>
      (stop, .interface off id ix :: dumped)
  | (_ :: _) :: _ :: bLength :: bDescriptorType :: bEndpointAddress :: bmAttributes ::
      wMaxPacketSize :: bInterval :: rest =>
    let ed : UsbEndpointDescriptor :=
      { bLength := .ofNat 8 (fieldValue bLength)
        bDescriptorType := .ofNat 8 (fieldValue bDescriptorType)
        bEndpointAddress := .ofNat 8 (fieldValue bEndpointAddress)
        bmAttributes := .ofNat 8 (fieldValue bmAttributes)
        wMaxPacketSize := .ofNat 16 (fieldValue wMaxPacketSize)
        bInterval := .ofNat 8 (fieldValue bInterval) }
    (readDescriptors (off + ed.bLength.toNat) ix (j + 1) rest).map fun (stop, dumped) =>
      (stop, .endpoint off ed j :: dumped)
  | _ => none

/-- The descriptors that a text was written for, and where the walk stopped. -/
def readDump (text : List Char) : Option (Nat × List Dumped) :=
  match lines text with
  | _ :: _ :: _ :: bLength :: bDescriptorType :: wTotalLength :: bNumInterfaces ::
      bConfigurationValue :: iConfiguration :: bmAttributes :: maxPower :: rest =>
    let cd : UsbConfigurationDescriptor :=
      { bLength := .ofNat 8 (fieldValue bLength)
        bDescriptorType := .ofNat 8 (fieldValue bDescriptorType)
        wTotalLength := .ofNat 16 (fieldValue wTotalLength)
        bNumInterfaces := .ofNat 8 (fieldValue bNumInterfaces)
        bConfigurationValue := .ofNat 8 (fieldValue bConfigurationValue)
        iConfiguration := .ofNat 8 (fieldValue iConfiguration)
        bmAttributes := .ofNat 8 (fieldValue bmAttributes)
        maxPower := .ofNat 8 (fieldValue maxPower) }
    (readDescriptors cd.bLength.toNat 0 0 rest).map fun (stop, dumped) =>
      (stop, .configuration 0 cd :: dumped)
  | _ => none

/-! ## A field read back -/

section Field

variable {label : String} (hlabel : label.toList.dropWhile (· != '=') = "= 0x".toList)
  {w : Nat} (v : BitVec w)
include hlabel

theorem fieldValue_line {rest : List Char} (hrest : ∀ c ∈ rest.head?, hexDigit c = none) :
    BitVec.ofNat w (fieldValue (fieldLine label v.toNat rest)) = v := by
  have hdrop : (fieldLine label v.toNat rest).dropWhile (· != '=') =
      "= 0x".toList ++ (hexText v.toNat ++ rest) := by
    rw [fieldLine, List.dropWhile_append, hlabel]
    rfl
  rw [fieldValue, hdrop, List.drop_left' (by decide), hexValue_hexText _ hrest,
    BitVec.ofNat_toNat, BitVec.setWidth_eq]

theorem fieldValue_plain : BitVec.ofNat w (fieldValue (fieldLine label v.toNat [])) = v :=
  fieldValue_line hlabel v fun _ h => by cases h

theorem fieldValue_decimal :
    BitVec.ofNat w (fieldValue (fieldLine label v.toNat (decimalOf v.toNat))) = v := by
  refine fieldValue_line hlabel v ?_
  rintro c ⟨⟩
  decide

theorem fieldValue_named (name : String) :
    BitVec.ofNat w (fieldValue (fieldLine label v.toNat (named name))) = v := by
  refine fieldValue_line hlabel v ?_
  rintro c ⟨⟩
  decide

end Field

/-! ## The walk read back -/

/-- What is read after the descriptors before it. -/
def readAfter (before : List Dumped) (r : Option (Nat × List Dumped)) :
    Option (Nat × List Dumped) :=
  r.map fun (stop, dumped) => (stop, before ++ dumped)

theorem readAfter_readAfter (ds ds' : List Dumped) (r : Option (Nat × List Dumped)) :
    readAfter ds (readAfter ds' r) = readAfter (ds ++ ds') r := by
  cases r with
  | none => rfl
  | some r => simp [readAfter]

theorem readDescriptors_interface (off ix j : Nat) (id : UsbInterfaceDescriptor)
    (rest : List (List Char)) :
    readDescriptors off ix j (printUsbInterfaceDescriptor id ix ++ rest) =
      readAfter [.interface off id ix]
        (readDescriptors (off + id.bLength.toNat) (ix + 1) 0 rest) := by
  simp (disch := decide) only [printUsbInterfaceDescriptor, List.cons_append, List.nil_append,
    readDescriptors, fieldValue_plain, fieldValue_named]
  rfl

theorem readDescriptors_endpoint (off ix j : Nat) (ed : UsbEndpointDescriptor)
    (rest : List (List Char)) :
    readDescriptors off ix j (printUsbEndpointDescriptor ed j ++ rest) =
      readAfter [.endpoint off ed j]
        (readDescriptors (off + ed.bLength.toNat) ix (j + 1) rest) := by
  have hdashes : "------------------------------".toList =
    '-' :: "-----------------------------".toList := by decide
  simp (disch := decide) only [printUsbEndpointDescriptor, List.cons_append, List.nil_append,
    hdashes, readDescriptors, fieldValue_plain, fieldValue_named, fieldValue_decimal]
  rfl

/-- The inner loop. -/
theorem readDescriptors_endpoints (buf : Nat → UCHAR) (count j pch ix : Nat)
    (rest : List (List Char)) :
    readDescriptors pch ix j ((dumpEndpoints buf count j pch).2.flatMap Dumped.print ++ rest) =
      readAfter (dumpEndpoints buf count j pch).2
        (readDescriptors (dumpEndpoints buf count j pch).1 ix (j + count) rest) := by
  induction count generalizing j pch with
  | zero => cases h : readDescriptors pch ix j rest <;> simp [dumpEndpoints, readAfter, h]
  | succ count ih =>
    have hnum : j + 1 + count = j + (count + 1) := by omega
    simp only [dumpEndpoints, List.flatMap_cons, Dumped.print, List.append_assoc,
      readDescriptors_endpoint, ih, hnum, readAfter_readAfter, List.singleton_append]

/-- The body of the outer loop; an interface numbers its endpoints anew. -/
theorem readDescriptors_body (buf : Nat → UCHAR) (s : DumpCursor) (j : Nat)
    (rest : List (List Char)) :
    ∃ j', readDescriptors s.pch s.n j ((dumpInterface buf s).2.flatMap Dumped.print ++ rest) =
      readAfter (dumpInterface buf s).2
        (readDescriptors (dumpInterface buf s).1.pch (dumpInterface buf s).1.n j' rest) := by
  refine ⟨0 + (interfaceDescriptorAt buf s.pch).bNumEndpoints.toNat, ?_⟩
  simp only [dumpInterface, List.flatMap_cons, Dumped.print, List.append_assoc,
    readDescriptors_interface, readDescriptors_endpoints, readAfter_readAfter,
    List.singleton_append]

/-- Any number of passes of the outer loop. -/
theorem readDescriptors_loop {buf : Nat → UCHAR} {again : DumpCursor → Bool} {fuel : Nat}
    {s s' : DumpCursor} {dumped : List Dumped}
    (h : doWhile (dumpInterface buf) again fuel s = some (s', dumped)) (j : Nat) :
    readDescriptors s.pch s.n j (dumped.flatMap Dumped.print) = some (s'.pch, dumped) := by
  induction fuel generalizing s dumped j with
  | zero => cases h
  | succ fuel ih =>
    cases hagain : again (dumpInterface buf s).1 with
    | false =>
      obtain ⟨j', hbody⟩ := readDescriptors_body buf s j []
      rw [doWhile_last hagain] at h
      rw [Option.some.inj h, List.append_nil] at hbody
      simpa [readDescriptors, readAfter] using hbody
    | true =>
      rw [doWhile_again hagain] at h
      obtain ⟨⟨s₁, tail⟩, htail, heq⟩ := Option.map_eq_some_iff.1 h
      obtain ⟨rfl, rfl⟩ := Prod.mk.inj heq
      obtain ⟨j', hbody⟩ := readDescriptors_body buf s j (tail.flatMap Dumped.print)
      rw [List.flatMap_append, hbody, ih htail]
      rfl

/-! ## Lines without newlines -/

theorem newline_mem_fieldLine (label : String) (v : Nat) (rest : List Char) :
    '\n' ∈ fieldLine label v rest ↔ '\n' ∈ label.toList ∨ '\n' ∈ rest := by
  simp [fieldLine, newline_notMem_hexText]

theorem newline_mem_named (name : String) : '\n' ∈ named name ↔ '\n' ∈ name.toList := by
  have hopen : '\n' ∉ " ( ".toList := by decide
  have hclose : '\n' ∉ " )".toList := by decide
  rw [named, List.mem_append, List.mem_append, or_iff_left hclose, or_iff_right hopen]

theorem newline_notMem_decimalOf (v : Nat) : '\n' ∉ decimalOf v := by
  have hdecimal : '\n' ∉ ", decimal ".toList := by decide
  exact fun h => (List.mem_append.1 h).elim hdecimal (newline_notMem_intText v)

theorem newline_notMem_usbDescriptorTypeString (v : UCHAR) :
    '\n' ∉ (usbDescriptorTypeString v).toList := by
  unfold usbDescriptorTypeString
  split <;> decide

theorem newline_notMem_usbEndPointTypeString (v : UCHAR) :
    '\n' ∉ (usbEndPointTypeString v).toList := by
  unfold usbEndPointTypeString
  split <;> decide

theorem newline_notMem_usbConfigAttributesString (v : UCHAR) :
    '\n' ∉ (usbConfigAttributesString v).toList := by
  unfold usbConfigAttributesString
  split <;> decide

theorem newline_notMem_print (d : Dumped) : ∀ l ∈ d.print, '\n' ∉ l := by
  cases d with
  | configuration off cd =>
    simp +decide [Dumped.print, printUsbConfigurationDescriptor, newline_mem_fieldLine,
      newline_mem_named, newline_notMem_decimalOf, newline_notMem_usbDescriptorTypeString,
      newline_notMem_usbConfigAttributesString]
  | interface off id ix =>
    simp +decide [Dumped.print, printUsbInterfaceDescriptor, newline_mem_fieldLine,
      newline_mem_named, newline_notMem_intText, newline_notMem_usbDescriptorTypeString]
  | endpoint off ed i =>
    have hdirection : '\n' ∉
        (if usbEndpointDirectionIn ed.bEndpointAddress then "INPUT" else "OUTPUT").toList := by
      split <;> decide
    have hdigits : '\n' ∉ twoDigits i := by
      unfold twoDigits
      split <;> simp [newline_notMem_intText]
    simp +decide [Dumped.print, printUsbEndpointDescriptor, newline_mem_fieldLine,
      newline_mem_named, newline_notMem_decimalOf, newline_notMem_usbDescriptorTypeString,
      newline_notMem_usbEndPointTypeString, hdirection, hdigits]

/-! ## The text read back -/

theorem readDump_configuration (cd : UsbConfigurationDescriptor) (dumped : List Dumped) :
    readDump (dumpText (.configuration 0 cd :: dumped)) =
      readAfter [.configuration 0 cd]
        (readDescriptors cd.bLength.toNat 0 0 (dumped.flatMap Dumped.print)) := by
  have hlines : lines (dumpText (.configuration 0 cd :: dumped)) =
      printUsbConfigurationDescriptor cd ++ dumped.flatMap Dumped.print := by
    refine lines_unlines ?_
    intro l hl
    obtain ⟨d, -, hd⟩ := List.mem_flatMap.1 hl
    exact newline_notMem_print d l hd
  rw [readDump, hlines]
  simp (disch := decide) only [printUsbConfigurationDescriptor, List.cons_append, List.nil_append,
    fieldValue_named, fieldValue_decimal]
  rfl

/-- Nothing is lost between the walk and the reader of its text. -/
theorem dumpUsbConfig_read (buf : Nat → UCHAR) (fuel : Nat) :
    ((dumpUsbConfig buf fuel).bind fun (_, dumped) => readDump (dumpText dumped)) =
      dumpUsbConfig buf fuel := by
  cases h : dumpUsbConfig buf fuel with
  | none => rfl
  | some walk =>
    obtain ⟨⟨s, visited⟩, hloop, rfl⟩ := Option.map_eq_some_iff.1 h
    dsimp only [Option.bind_some]
    rw [readDump_configuration, readDescriptors_loop hloop 0]
    rfl

/-- **The text of a dump is read back**: on whatever memory the walk ends, the text it writes
determines every descriptor that was visited, with each field, number and offset, and where the
walk stopped. -/
theorem readDump_dumpText {buf : Nat → UCHAR} {fuel stop : Nat} {dumped : List Dumped}
    (h : dumpUsbConfig buf fuel = some (stop, dumped)) :
    readDump (dumpText dumped) = some (stop, dumped) := by
  have hread := dumpUsbConfig_read buf fuel
  rw [h, Option.bind_some] at hread
  exact hread

theorem readDump_gUsbConfigDescriptorSet : ∃ dumped,
    dumpUsbConfig (charBuf gUsbConfigDescriptorSet fun _ => 0) 1 = some (39, dumped) ∧
      readDump (dumpText dumped) = some (39, dumped) := by
  have hstop : (dumpUsbConfig (charBuf gUsbConfigDescriptorSet fun _ => 0) 1).map Prod.fst =
      some 39 := by decide +kernel
  obtain ⟨⟨stop, dumped⟩, hdump, rfl⟩ := Option.map_eq_some_iff.1 hstop
  exact ⟨dumped, hdump, readDump_dumpText hdump⟩

end UdeSample
