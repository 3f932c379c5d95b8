import UdeSample.Device.Objects
import UdeSample.App.Dump

/-!
# The dump of an encoded configuration (`dump.c`, `usbdevice.c`)

A configuration in bytes: a configuration descriptor, and interfaces with as many endpoints as they
say, each descriptor as long as its `bLength`. `dumpUsbConfig_encode` says that the walk of
`DumpUsbConfig` visits exactly these descriptors. `gUsbConfigDescriptorSet`, which the device
answers with, is such a configuration.
-/

namespace UdeSample

open Lib

/-! ## Configurations in bytes -/

/-- A descriptor, with what may follow its standard fields. -/
structure DescriptorBytes (standard : Nat) where
  bytes : List UCHAR
  standard_le : standard ≤ bytes.length
  bLength_eq : bytes[0]?.map BitVec.toNat = some bytes.length

def DescriptorBytes.mem {standard : Nat} (d : DescriptorBytes standard) (i : Nat) : UCHAR :=
  d.bytes[i]?.getD 0

structure InterfaceBytes where
  interface : DescriptorBytes sizeofInterfaceDescriptor
  endpoints : List (DescriptorBytes sizeofEndpointDescriptor)
  bNumEndpoints_eq : interface.bytes[4]?.map BitVec.toNat = some endpoints.length

def InterfaceBytes.bytes (g : InterfaceBytes) : List UCHAR :=
  g.interface.bytes ++ g.endpoints.flatMap DescriptorBytes.bytes

structure ConfigurationBytes where
  configuration : DescriptorBytes sizeofConfigurationDescriptor
  interfaces : List InterfaceBytes
  interfaces_ne_nil : interfaces ≠ []
  wTotalLength_eq : (configurationDescriptorAt configuration.mem 0).wTotalLength.toNat =
    (configuration.bytes ++ interfaces.flatMap InterfaceBytes.bytes).length
  length_le : (configuration.bytes ++ interfaces.flatMap InterfaceBytes.bytes).length ≤ 256

def ConfigurationBytes.encode (c : ConfigurationBytes) : List UCHAR :=
  c.configuration.bytes ++ c.interfaces.flatMap InterfaceBytes.bytes

/-- The `ix`-th interface, at its offset, and its endpoints at theirs. -/
def InterfaceBytes.dumped (g : InterfaceBytes) (ix off : Nat) : List Dumped :=
  .interface off (interfaceDescriptorAt g.interface.mem 0) ix ::
    (placed (fun e => e.bytes.length) (off + g.interface.bytes.length) g.endpoints).mapIdx
      fun i p => .endpoint p.1 (endpointDescriptorAt p.2.mem 0) i

/-- Every descriptor of the configuration, in order. -/
def ConfigurationBytes.dumped (c : ConfigurationBytes) : List Dumped :=
  .configuration 0 (configurationDescriptorAt c.configuration.mem 0) ::
    ((placed (fun g => g.bytes.length) c.configuration.bytes.length c.interfaces).mapIdx
      fun ix p => p.2.dumped ix p.1).flatten

/-! ## A descriptor read back -/

theorem DescriptorBytes.bLength_toNat {standard : Nat} (d : DescriptorBytes standard) :
    (d.mem 0).toNat = d.bytes.length := by
  obtain ⟨b, hb, hlen⟩ := Option.map_eq_some_iff.1 d.bLength_eq
  rw [mem, hb, Option.getD_some, hlen]

theorem InterfaceBytes.bNumEndpoints_toNat (g : InterfaceBytes) :
    (g.interface.mem 4).toNat = g.endpoints.length := by
  obtain ⟨b, hb, hnum⟩ := Option.map_eq_some_iff.1 g.bNumEndpoints_eq
  rw [DescriptorBytes.mem, hb, Option.getD_some, hnum]

/-- Where a memory holds a descriptor, its standard fields are read. -/
theorem DescriptorBytes.mem_eq {standard : Nat} {d : DescriptorBytes standard}
    {mem : Nat → UCHAR} {off : Nat} (h : Holds mem off d.bytes) (i : Nat) (hi : i < standard) :
    mem (off + i) = d.mem i := by
  have hlt : i < d.bytes.length := Nat.lt_of_lt_of_le hi d.standard_le
  rw [DescriptorBytes.mem, List.getElem?_eq_getElem hlt, Option.getD_some]
  exact h i _ (List.getElem?_eq_getElem hlt)

theorem configurationDescriptorAt_eq {mem mem' : Nat → UCHAR} {off : Nat}
    (h : ∀ i < sizeofConfigurationDescriptor, mem (off + i) = mem' i) :
    configurationDescriptorAt mem off = configurationDescriptorAt mem' 0 := by
  have hword : ushortAt mem (off + 2) = ushortAt mem' (0 + 2) :=
    congrArg₂ (fun hi lo : UCHAR => (hi ++ lo : USHORT)) (h 3 (by decide)) (h 2 (by decide))
  simp only [configurationDescriptorAt, hword, UsbConfigurationDescriptor.mk.injEq]
  exact ⟨h 0 (by decide), h 1 (by decide), trivial, h 4 (by decide), h 5 (by decide),
    h 6 (by decide), h 7 (by decide), h 8 (by decide)⟩

theorem interfaceDescriptorAt_eq {mem mem' : Nat → UCHAR} {off : Nat}
    (h : ∀ i < sizeofInterfaceDescriptor, mem (off + i) = mem' i) :
    interfaceDescriptorAt mem off = interfaceDescriptorAt mem' 0 := by
  simp only [interfaceDescriptorAt, UsbInterfaceDescriptor.mk.injEq]
  exact ⟨h 0 (by decide), h 1 (by decide), h 2 (by decide), h 3 (by decide), h 4 (by decide),
    h 5 (by decide), h 6 (by decide), h 7 (by decide), h 8 (by decide)⟩

theorem endpointDescriptorAt_eq {mem mem' : Nat → UCHAR} {off : Nat}
    (h : ∀ i < sizeofEndpointDescriptor, mem (off + i) = mem' i) :
    endpointDescriptorAt mem off = endpointDescriptorAt mem' 0 := by
  have hword : ushortAt mem (off + 4) = ushortAt mem' (0 + 4) :=
    congrArg₂ (fun hi lo : UCHAR => (hi ++ lo : USHORT)) (h 5 (by decide)) (h 4 (by decide))
  simp only [endpointDescriptorAt, hword, UsbEndpointDescriptor.mk.injEq]
  exact ⟨h 0 (by decide), h 1 (by decide), h 2 (by decide), h 3 (by decide), trivial,
    h 6 (by decide)⟩

/-! ## The loops over what was encoded -/

theorem InterfaceBytes.bytes_length (g : InterfaceBytes) :
    g.bytes.length = placedEnd (fun e : DescriptorBytes sizeofEndpointDescriptor => e.bytes.length)
      g.interface.bytes.length g.endpoints := by
  rw [bytes, List.length_append, placedEnd_length]

theorem dumpEndpoints_encoded {buf : Nat → UCHAR}
    {es : List (DescriptorBytes sizeofEndpointDescriptor)} {pch : Nat}
    (h : ∀ p ∈ placed (fun e => e.bytes.length) pch es, Holds buf p.1 p.2.bytes) (j : Nat) :
    dumpEndpoints buf es.length j pch =
      (placedEnd (fun e => e.bytes.length) pch es,
        (placed (fun e => e.bytes.length) pch es).mapIdx
          fun i p => .endpoint p.1 (endpointDescriptorAt p.2.mem 0) (j + i)) := by
  induction es generalizing pch j with
  | nil => rfl
  | cons e es ih =>
    rw [placed_cons, List.forall_mem_cons] at h
    have hread := endpointDescriptorAt_eq (DescriptorBytes.mem_eq h.1)
    have hlen : (endpointDescriptorAt e.mem 0).bLength.toNat = e.bytes.length := e.bLength_toNat
    have hnum (i : Nat) : j + 1 + i = j + (i + 1) := by omega
    simp only [List.length_cons, dumpEndpoints, hread, hlen, ih h.2 (j + 1), placedEnd_cons,
      placed_cons, List.mapIdx_cons, hnum, Nat.add_zero]

theorem dumpInterface_encoded {buf : Nat → UCHAR} {g : InterfaceBytes} {s : DumpCursor}
    (h : Holds buf s.pch g.bytes) :
    dumpInterface buf s =
      ({ pch := s.pch + g.bytes.length, n := s.n + 1 }, g.dumped s.n s.pch) := by
  obtain ⟨hinterface, hendpoints⟩ := holds_append.1 h
  rw [holds_flatMap] at hendpoints
  have hread := interfaceDescriptorAt_eq (DescriptorBytes.mem_eq hinterface)
  have hlen : (interfaceDescriptorAt g.interface.mem 0).bLength.toNat = g.interface.bytes.length :=
    g.interface.bLength_toNat
  have hcount : (interfaceDescriptorAt g.interface.mem 0).bNumEndpoints.toNat =
      g.endpoints.length := g.bNumEndpoints_toNat
  simp only [dumpInterface, hread, hlen, hcount, dumpEndpoints_encoded hendpoints 0, Nat.zero_add]
  rw [InterfaceBytes.bytes_length, placedEnd_add]
  rfl

theorem InterfaceBytes.bytes_pos (g : InterfaceBytes) : 0 < g.bytes.length := by
  have hlen : 0 < g.interface.bytes.length :=
    Nat.lt_of_lt_of_le (by decide) g.interface.standard_le
  rw [bytes, List.length_append]
  omega

/-- The walk over the last interfaces, of at least one. -/
theorem dumpInterfaces_encoded (r : ConfigReply) (beyond : Nat → UCHAR) {gs : List InterfaceBytes}
    {s : DumpCursor} (hne : gs ≠ [])
    (h : ∀ p ∈ placed (fun g => g.bytes.length) s.pch gs, Holds (r.buf beyond) p.1 p.2.bytes)
    (hend : placedEnd (fun g : InterfaceBytes => g.bytes.length) s.pch gs = r.bytes.length) :
    doWhile (dumpInterface (r.buf beyond)) (dumpAgain (configurationDescriptorAt (r.buf beyond) 0))
        gs.length s =
      some ({ pch := r.bytes.length, n := s.n + gs.length },
        ((placed (fun g => g.bytes.length) s.pch gs).mapIdx
          fun ix p => p.2.dumped (s.n + ix) p.1).flatten) := by
  induction gs generalizing s with
  | nil => exact absurd rfl hne
  | cons g gs ih =>
    rw [placed_cons, List.forall_mem_cons] at h
    rw [placedEnd_cons] at hend
    have hfirst := dumpInterface_encoded h.1
    have hlt : (dumpInterface (r.buf beyond) s).1.pch < 2 ^ 32 := by
      have hle := le_placedEnd (fun g : InterfaceBytes => g.bytes.length)
        (s.pch + g.bytes.length) gs
      have hlen := r.length_le
      rw [hfirst]
      simp only
      omega
    have hagain := r.dumpAgain_iff beyond hlt
    rw [hfirst] at hagain
    cases gs with
    | nil =>
      rw [placedEnd_nil] at hend
      rw [List.length_cons, doWhile_last, hfirst]
      · simp [hend]
      · rw [hfirst, ← Bool.not_eq_true, hagain]
        exact Nat.not_lt.2 (Nat.le_of_eq hend.symm)
    | cons g' gs =>
      have hrest := ih (s := { pch := s.pch + g.bytes.length, n := s.n + 1 })
        (List.cons_ne_nil g' gs) h.2 hend
      have hnum (ix : Nat) : s.n + 1 + ix = s.n + (ix + 1) := by omega
      rw [List.length_cons, doWhile_again, hfirst, hrest, Option.map_some]
      · simp only [placed_cons, List.mapIdx_cons, List.flatten_cons, List.length_cons, hnum,
          Nat.add_zero]
      · rw [hfirst, hagain, ← hend, placedEnd_cons]
        have hpos := g'.bytes_pos
        have hle := le_placedEnd (fun g : InterfaceBytes => g.bytes.length)
          (s.pch + g.bytes.length + g'.bytes.length) gs
        simp only
        omega

/-! ## The round trip -/

theorem charBuf_holds (bytes : List UCHAR) (beyond : Nat → UCHAR) :
    Holds (charBuf bytes beyond) 0 bytes := by
  intro i v hv
  rw [Nat.zero_add]
  exact charBuf_eq hv

theorem ConfigurationBytes.configurationDescriptorAt_encode (c : ConfigurationBytes)
    (beyond : Nat → UCHAR) :
    configurationDescriptorAt (charBuf c.encode beyond) 0 =
      configurationDescriptorAt c.configuration.mem 0 :=
  configurationDescriptorAt_eq
    (DescriptorBytes.mem_eq (holds_append.1 (charBuf_holds c.encode beyond)).1)

/-- The configuration as the driver returns it. -/
def ConfigurationBytes.reply (c : ConfigurationBytes) : ConfigReply where
  bytes := c.encode
  length_le := c.length_le
  wTotalLength_eq :=
    (congrArg (fun cd => cd.wTotalLength.toNat) (c.configurationDescriptorAt_encode _)).trans
      c.wTotalLength_eq

/-- The walk over an encoded configuration. -/
theorem ConfigurationBytes.dumped_encode (c : ConfigurationBytes) (beyond : Nat → UCHAR) :
    dumpUsbConfig (charBuf c.encode beyond) c.interfaces.length =
      some (c.encode.length, c.dumped) := by
  have hread := c.configurationDescriptorAt_encode beyond
  have hlen : (configurationDescriptorAt c.configuration.mem 0).bLength.toNat =
      c.configuration.bytes.length := c.configuration.bLength_toNat
  obtain ⟨-, hinterfaces⟩ := holds_append.1 (charBuf_holds c.encode beyond)
  rw [Nat.zero_add, holds_flatMap] at hinterfaces
  have hend : placedEnd (fun g : InterfaceBytes => g.bytes.length) c.configuration.bytes.length
      c.interfaces = c.encode.length := by
    rw [encode, List.length_append, placedEnd_length]
  have hwalk := dumpInterfaces_encoded c.reply beyond
    (s := { pch := c.configuration.bytes.length, n := 0 }) c.interfaces_ne_nil hinterfaces hend
  have hbuf : c.reply.buf beyond = charBuf c.encode beyond := rfl
  rw [hbuf, hread] at hwalk
  simp only [dumpUsbConfig, hread, hlen, hwalk, Option.map_some, Nat.zero_add]
  rfl

def usbConfigurationDescriptorType : UCHAR := 2
def usbInterfaceDescriptorType : UCHAR := 4
def usbEndpointDescriptorType : UCHAR := 5
def usbEndpointTypeBulk : UCHAR := 2
def usbEndpointTypeInterrupt : UCHAR := 3

def gUsbConfigDescriptorSet : List UCHAR :=
  [0x9, usbConfigurationDescriptorType, 0x27, 0x00, 0x1, 0x01, 0x00, 0xA0, 0x32,
    0x9, usbInterfaceDescriptorType, 0, 0, 3, 0xFF, 0x00, 0x00, 0x00,
    0x07, usbEndpointDescriptorType, gBulkOutEndpointAddress, usbEndpointTypeBulk, 0x00, 0x2, 0x00,
    0x07, usbEndpointDescriptorType, gBulkInEndpointAddress, usbEndpointTypeBulk, 0x00, 0x02, 0x00,
    0x07, usbEndpointDescriptorType, gInterruptEndpointAddress, usbEndpointTypeInterrupt, 0x40, 0x0,
    0x01]

def deviceEndpoint (i : Fin 3) : DescriptorBytes sizeofEndpointDescriptor where
  bytes := (gUsbConfigDescriptorSet.drop (18 + 7 * i)).take 7
  standard_le := by revert i; decide
  bLength_eq := by revert i; decide

/-- The one interface of the device, with its three endpoints. -/
def deviceConfiguration : ConfigurationBytes where
  configuration :=
    { bytes := gUsbConfigDescriptorSet.take 9, standard_le := by decide, bLength_eq := by decide }
  interfaces :=
    [{ interface :=
        { bytes := (gUsbConfigDescriptorSet.drop 9).take 9, standard_le := by decide
          bLength_eq := by decide }
       endpoints := [deviceEndpoint 0, deviceEndpoint 1, deviceEndpoint 2]
       bNumEndpoints_eq := by decide }]
  interfaces_ne_nil := List.cons_ne_nil _ _
  wTotalLength_eq := by decide
  length_le := by decide

/-- **The round trip of the dump**: the walk over an encoded configuration stops at `wTotalLength`
and has visited its descriptors, in order, each at its own offset; what the device answers with is
an encoded configuration. -/
theorem dumpUsbConfig_encode :
    (∀ (c : ConfigurationBytes) (beyond : Nat → UCHAR),
      dumpUsbConfig (charBuf c.encode beyond) c.interfaces.length =
        some ((configurationDescriptorAt c.configuration.mem 0).wTotalLength.toNat, c.dumped)) ∧
      ∃ c : ConfigurationBytes, c.encode = gUsbConfigDescriptorSet := by
  refine ⟨?_, deviceConfiguration, by decide⟩
  intro c beyond
  rw [c.wTotalLength_eq]
  exact c.dumped_encode beyond

end UdeSample
