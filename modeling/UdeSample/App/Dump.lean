import UdeSample.Wdf
import UdeSample.Lib.Layout
import UdeSample.Lib.Loop

/-!
# The descriptor dump (`dump.c`)

`DumpUsbConfig` asks the driver for the configuration descriptor set and walks through it from one
descriptor to the next by their `bLength`, and by `bNumEndpoints`, as they stand in the buffer.
`dumpUsbConfig_safe_iff` says exactly on which descriptor sets the walk ends and stays within the
bytes returned.

What is dumped is kept as the descriptors read, each with its offset; the text printed for them is
left out.
-/

namespace UdeSample

open Lib

/-! ## Descriptors in memory -/

/-- A little-endian word. -/
def ushortAt (mem : Nat → UCHAR) (off : Nat) : USHORT := mem (off + 1) ++ mem off

/-- `USB_CONFIGURATION_DESCRIPTOR` -/
structure UsbConfigurationDescriptor where
  bLength : UCHAR
  bDescriptorType : UCHAR
  wTotalLength : USHORT
  bNumInterfaces : UCHAR
  bConfigurationValue : UCHAR
  iConfiguration : UCHAR
  bmAttributes : UCHAR
  maxPower : UCHAR
deriving DecidableEq

/-- `USB_INTERFACE_DESCRIPTOR` -/
structure UsbInterfaceDescriptor where
  bLength : UCHAR
  bDescriptorType : UCHAR
  bInterfaceNumber : UCHAR
  bAlternateSetting : UCHAR
  bNumEndpoints : UCHAR
  bInterfaceClass : UCHAR
  bInterfaceSubClass : UCHAR
  bInterfaceProtocol : UCHAR
  iInterface : UCHAR
deriving DecidableEq

/-- `USB_ENDPOINT_DESCRIPTOR` -/
structure UsbEndpointDescriptor where
  bLength : UCHAR
  bDescriptorType : UCHAR
  bEndpointAddress : UCHAR
  bmAttributes : UCHAR
  wMaxPacketSize : USHORT
  bInterval : UCHAR
deriving DecidableEq

def sizeofConfigurationDescriptor : Nat := 9

def sizeofInterfaceDescriptor : Nat := 9

def sizeofEndpointDescriptor : Nat := 7

def configurationDescriptorAt (mem : Nat → UCHAR) (off : Nat) : UsbConfigurationDescriptor :=
  { bLength := mem off, bDescriptorType := mem (off + 1), wTotalLength := ushortAt mem (off + 2)
    bNumInterfaces := mem (off + 4), bConfigurationValue := mem (off + 5)
    iConfiguration := mem (off + 6), bmAttributes := mem (off + 7), maxPower := mem (off + 8) }

def interfaceDescriptorAt (mem : Nat → UCHAR) (off : Nat) : UsbInterfaceDescriptor :=
  { bLength := mem off, bDescriptorType := mem (off + 1), bInterfaceNumber := mem (off + 2)
    bAlternateSetting := mem (off + 3), bNumEndpoints := mem (off + 4)
    bInterfaceClass := mem (off + 5), bInterfaceSubClass := mem (off + 6)
    bInterfaceProtocol := mem (off + 7), iInterface := mem (off + 8) }

def endpointDescriptorAt (mem : Nat → UCHAR) (off : Nat) : UsbEndpointDescriptor :=
  { bLength := mem off, bDescriptorType := mem (off + 1), bEndpointAddress := mem (off + 2)
    bmAttributes := mem (off + 3), wMaxPacketSize := ushortAt mem (off + 4)
    bInterval := mem (off + 6) }

/-! ## The walk -/

/-- A descriptor handed to its print function: its offset in the buffer, what is read there, and the
number printed with it. -/
inductive Dumped where
  | configuration (off : Nat) (cd : UsbConfigurationDescriptor)
  | interface (off : Nat) (id : UsbInterfaceDescriptor) (ix : Nat)
  | endpoint (off : Nat) (ed : UsbEndpointDescriptor) (i : Nat)
deriving DecidableEq

/-- Where the bytes read for it end. -/
def Dumped.stop : Dumped → Nat
  | .configuration off _ => off + sizeofConfigurationDescriptor
  | .interface off _ _ => off + sizeofInterfaceDescriptor
  | .endpoint off _ _ => off + sizeofEndpointDescriptor

/-- `pch` counts from the beginning of the buffer. -/
structure DumpCursor where
  pch : Nat
  n : Nat

/-- The inner loop, with `count` endpoints to come. -/
def dumpEndpoints (buf : Nat → UCHAR) : Nat → Nat → Nat → Nat × List Dumped
  | 0, _, pch => (pch, [])
  | count + 1, j, pch =>
    let ed := endpointDescriptorAt buf pch
    let (pch', dumped) := dumpEndpoints buf count (j + 1) (pch + ed.bLength.toNat)
    (pch', .endpoint pch ed j :: dumped)

/-- The body of the outer loop. -/
def dumpInterface (buf : Nat → UCHAR) (s : DumpCursor) : DumpCursor × List Dumped :=
  let id := interfaceDescriptorAt buf s.pch
  let (pch, dumped) :=
    dumpEndpoints buf id.bNumEndpoints.toNat 0 (s.pch + id.bLength.toNat)
  ({ pch, n := s.n + 1 }, .interface s.pch id s.n :: dumped)

/-- `i < cd->wTotalLength`, where `i` is a `ULONG`. -/
def dumpAgain (cd : UsbConfigurationDescriptor) (s : DumpCursor) : Bool :=
  decide ((BitVec.ofNat 32 s.pch).toNat < cd.wTotalLength.toNat)

/-- `DumpUsbConfig` once the driver has filled the buffer, for at most `fuel` interfaces: where it
stops, and what it dumps. -/
def dumpUsbConfig (buf : Nat → UCHAR) (fuel : Nat) : Option (Nat × List Dumped) :=
  let cd := configurationDescriptorAt buf 0
  (doWhile (dumpInterface buf) (dumpAgain cd) fuel { pch := cd.bLength.toNat, n := 0 }).map
    fun (s, dumped) => (s.pch, .configuration 0 cd :: dumped)

/-- `char buf[256] = {'\0'}` after the driver has put some bytes there; `beyond` is the memory
behind it. -/
def charBuf (bytes : List UCHAR) (beyond : Nat → UCHAR) (i : Nat) : UCHAR :=
  bytes[i]?.getD (if i < 256 then 0 else beyond i)

/-- The bytes that `IOCTL_OSRUSBFX2_GET_CONFIG_DESCRIPTOR` returns: at most as many as the buffer
has, and as many as `wTotalLength` says. -/
structure ConfigReply where
  bytes : List UCHAR
  length_le : bytes.length ≤ 256
  wTotalLength_eq : (ushortAt (charBuf bytes fun _ => 0) 2).toNat = bytes.length

def ConfigReply.buf (r : ConfigReply) (beyond : Nat → UCHAR) : Nat → UCHAR :=
  charBuf r.bytes beyond

/-- The walk ends, and reads nothing outside the bytes returned. -/
def ConfigReply.DumpedSafely (r : ConfigReply) (beyond : Nat → UCHAR) : Prop :=
  ∃ fuel stop dumped, dumpUsbConfig (r.buf beyond) fuel = some (stop, dumped) ∧
    ∀ d ∈ dumped, d.stop ≤ r.bytes.length

/-! ## What the bytes must be -/

/-- The lengths of an interface descriptor and of its endpoint descriptors. -/
structure InterfaceLayout where
  bLength : UCHAR
  endpoints : List UCHAR

def InterfaceLayout.size (g : InterfaceLayout) : Nat :=
  placedEnd BitVec.toNat g.bLength.toNat g.endpoints

/-- The bytes hold such an interface at an offset, and there is room for every descriptor of it. -/
structure InterfaceLayout.At (g : InterfaceLayout) (bytes : List UCHAR) (off : Nat) : Prop where
  bLength_eq : bytes[off]? = some g.bLength
  bNumEndpoints_eq : bytes[off + 4]?.map BitVec.toNat = some g.endpoints.length
  room : off + sizeofInterfaceDescriptor ≤ bytes.length
  endpoints : ∀ p ∈ placed BitVec.toNat (off + g.bLength.toNat) g.endpoints,
    bytes[p.1]? = some p.2 ∧ p.1 + sizeofEndpointDescriptor ≤ bytes.length

/-- The bytes hold interfaces one after another from an offset to the end; each but the last has a
length and ends before the end of the bytes. -/
structure LaidOut (bytes : List UCHAR) (off : Nat) (gs : List InterfaceLayout) : Prop where
  ne_nil : gs ≠ []
  interfaces : ∀ p ∈ placed InterfaceLayout.size off gs, p.2.At bytes p.1
  inner : ∀ p ∈ placed InterfaceLayout.size off gs.dropLast,
    0 < p.2.size ∧ p.1 + p.2.size < bytes.length
  reaches : bytes.length ≤ placedEnd InterfaceLayout.size off gs

/-- A whole configuration descriptor, and interfaces from where its `bLength` leads. -/
def ConfigReply.WellLaidOut (r : ConfigReply) : Prop :=
  sizeofConfigurationDescriptor ≤ r.bytes.length ∧
    ∃ bLength gs, r.bytes[0]? = some bLength ∧ LaidOut r.bytes bLength.toNat gs

/-! ## Reading the layout off the buffer -/

/-- The lengths that the inner loop goes by. -/
def endpointLengths (buf : Nat → UCHAR) : Nat → Nat → List UCHAR
  | 0, _ => []
  | count + 1, pch => buf pch :: endpointLengths buf count (pch + (buf pch).toNat)

/-- What the walk takes for the interface at an offset. -/
def layoutAt (buf : Nat → UCHAR) (off : Nat) : InterfaceLayout :=
  { bLength := buf off
    endpoints := endpointLengths buf (buf (off + 4)).toNat (off + (buf off).toNat) }

theorem endpointLengths_length (buf : Nat → UCHAR) (count pch : Nat) :
    (endpointLengths buf count pch).length = count := by
  induction count generalizing pch with
  | zero => rfl
  | succ count ih => rw [endpointLengths, List.length_cons, ih]

theorem placedEnd_endpointLengths_le (buf : Nat → UCHAR) (count pch : Nat) :
    placedEnd BitVec.toNat pch (endpointLengths buf count pch) ≤ pch + 255 * count := by
  induction count generalizing pch with
  | zero => exact Nat.le_refl pch
  | succ count ih =>
    rw [endpointLengths, placedEnd_cons]
    have hrest := ih (pch + (buf pch).toNat)
    have hlen := (buf pch).isLt
    omega

/-- An interface is too short for the cursor to pass what an `ULONG` holds. -/
theorem layoutAt_size_lt (buf : Nat → UCHAR) (off : Nat) : (layoutAt buf off).size < 2 ^ 17 := by
  have hend := placedEnd_endpointLengths_le buf (buf (off + 4)).toNat (off + (buf off).toNat)
  rw [placedEnd_add] at hend
  have hlen := (buf off).isLt
  have hcount := (buf (off + 4)).isLt
  have hsize : (layoutAt buf off).size = placedEnd BitVec.toNat (buf off).toNat
    (endpointLengths buf (buf (off + 4)).toNat (off + (buf off).toNat)) := rfl
  omega

theorem dumpEndpoints_fst (buf : Nat → UCHAR) (count j pch : Nat) :
    (dumpEndpoints buf count j pch).1 =
      placedEnd BitVec.toNat pch (endpointLengths buf count pch) := by
  induction count generalizing j pch with
  | zero => rfl
  | succ count ih =>
    rw [endpointLengths, placedEnd_cons]
    exact ih (j + 1) _

theorem dumpEndpoints_within (buf : Nat → UCHAR) (total count j pch : Nat) :
    (∀ d ∈ (dumpEndpoints buf count j pch).2, d.stop ≤ total) ↔
      ∀ p ∈ placed BitVec.toNat pch (endpointLengths buf count pch),
        p.1 + sizeofEndpointDescriptor ≤ total := by
  induction count generalizing j pch with
  | zero => exact iff_of_true (List.forall_mem_nil _) (List.forall_mem_nil _)
  | succ count ih =>
    rw [endpointLengths, placed_cons, List.forall_mem_cons, ← ih (j + 1)]
    exact List.forall_mem_cons

theorem dumpInterface_fst (buf : Nat → UCHAR) (s : DumpCursor) :
    (dumpInterface buf s).1 = { pch := s.pch + (layoutAt buf s.pch).size, n := s.n + 1 } := by
  have hend := dumpEndpoints_fst buf (buf (s.pch + 4)).toNat 0 (s.pch + (buf s.pch).toNat)
  rw [placedEnd_add] at hend
  exact congrArg (fun pch => { pch, n := s.n + 1 : DumpCursor }) hend

theorem dumpInterface_within (buf : Nat → UCHAR) (total : Nat) (s : DumpCursor) :
    (∀ d ∈ (dumpInterface buf s).2, d.stop ≤ total) ↔
      s.pch + sizeofInterfaceDescriptor ≤ total ∧
        ∀ p ∈ placed BitVec.toNat (s.pch + (buf s.pch).toNat) (layoutAt buf s.pch).endpoints,
          p.1 + sizeofEndpointDescriptor ≤ total := by
  refine List.forall_mem_cons.trans (and_congr Iff.rfl ?_)
  exact dumpEndpoints_within buf total _ 0 _

theorem charBuf_eq {bytes : List UCHAR} {beyond : Nat → UCHAR} {off : Nat} {v : UCHAR}
    (h : bytes[off]? = some v) : charBuf bytes beyond off = v := by
  rw [charBuf, h, Option.getD_some]

theorem getElem?_eq_charBuf {bytes : List UCHAR} (beyond : Nat → UCHAR) {off : Nat}
    (h : off < bytes.length) : bytes[off]? = some (charBuf bytes beyond off) := by
  rw [charBuf, List.getElem?_eq_getElem h, Option.getD_some]

/-- The layout found in the bytes is the one the walk goes by, where it stays inside. -/
theorem endpoints_at_iff {bytes : List UCHAR} (beyond : Nat → UCHAR) (ls : List UCHAR)
    (pch : Nat) :
    (∀ p ∈ placed BitVec.toNat pch ls,
        bytes[p.1]? = some p.2 ∧ p.1 + sizeofEndpointDescriptor ≤ bytes.length) ↔
      ls = endpointLengths (charBuf bytes beyond) ls.length pch ∧
        ∀ p ∈ placed BitVec.toNat pch ls, p.1 + sizeofEndpointDescriptor ≤ bytes.length := by
  induction ls generalizing pch with
  | nil => exact iff_of_true (List.forall_mem_nil _) ⟨rfl, List.forall_mem_nil _⟩
  | cons l ls ih =>
    rw [placed_cons, List.forall_mem_cons, List.forall_mem_cons, ih, List.length_cons,
      endpointLengths, List.cons.injEq]
    constructor
    · rintro ⟨⟨hl, hroom⟩, hls, hrooms⟩
      rw [charBuf_eq hl]
      exact ⟨⟨rfl, hls⟩, hroom, hrooms⟩
    · rintro ⟨⟨hl, hls⟩, hroom, hrooms⟩
      rw [← hl] at hls
      refine ⟨⟨?_, hroom⟩, hls, hrooms⟩
      rw [getElem?_eq_charBuf beyond (by unfold sizeofEndpointDescriptor at hroom; omega), ← hl]

theorem interface_at_iff {bytes : List UCHAR} (beyond : Nat → UCHAR) (g : InterfaceLayout)
    (s : DumpCursor) :
    g.At bytes s.pch ↔ g = layoutAt (charBuf bytes beyond) s.pch ∧
      ∀ d ∈ (dumpInterface (charBuf bytes beyond) s).2, d.stop ≤ bytes.length := by
  rw [dumpInterface_within]
  constructor
  · intro h
    obtain ⟨count, hcount, hlen⟩ := Option.map_eq_some_iff.1 h.bNumEndpoints_eq
    obtain ⟨hls, hrooms⟩ := (endpoints_at_iff beyond _ _).1 h.endpoints
    have hg : g = layoutAt (charBuf bytes beyond) s.pch := by
      rw [layoutAt, charBuf_eq h.bLength_eq, charBuf_eq hcount, hlen, ← hls]
    refine ⟨hg, h.room, ?_⟩
    rw [charBuf_eq h.bLength_eq, ← hg]
    exact hrooms
  · rintro ⟨rfl, hroom, hrooms⟩
    have hlt (i : Nat) (hi : i < 9) : s.pch + i < bytes.length := by
      unfold sizeofInterfaceDescriptor at hroom
      omega
    refine ⟨getElem?_eq_charBuf beyond (hlt 0 (by omega)), ?_, hroom, ?_⟩
    · rw [getElem?_eq_charBuf beyond (hlt 4 (by omega)), Option.map_some, layoutAt,
        endpointLengths_length]
    · refine (endpoints_at_iff beyond _ _).2 ⟨?_, hrooms⟩
      rw [layoutAt, endpointLengths_length]

/-! ## The walk over a layout -/

theorem laidOut_singleton_iff {bytes : List UCHAR} {off : Nat} {g : InterfaceLayout} :
    LaidOut bytes off [g] ↔ g.At bytes off ∧ bytes.length ≤ off + g.size := by
  constructor
  · intro h
    exact ⟨h.interfaces _ List.mem_cons_self, h.reaches⟩
  · rintro ⟨hg, hreaches⟩
    exact ⟨List.cons_ne_nil g [], List.forall_mem_singleton.2 hg, List.forall_mem_nil _, hreaches⟩

theorem laidOut_cons_iff {bytes : List UCHAR} {off : Nat} {g g' : InterfaceLayout}
    {gs : List InterfaceLayout} :
    LaidOut bytes off (g :: g' :: gs) ↔
      g.At bytes off ∧ 0 < g.size ∧ off + g.size < bytes.length ∧
        LaidOut bytes (off + g.size) (g' :: gs) := by
  constructor
  · rintro ⟨-, hat, hinner, hreaches⟩
    rw [placed_cons, List.forall_mem_cons] at hat
    rw [List.dropLast_cons_cons, placed_cons, List.forall_mem_cons] at hinner
    rw [placedEnd_cons] at hreaches
    exact ⟨hat.1, hinner.1.1, hinner.1.2, List.cons_ne_nil g' gs, hat.2, hinner.2, hreaches⟩
  · rintro ⟨hg, hpos, hlt, -, hat, hinner, hreaches⟩
    refine ⟨List.cons_ne_nil g _, List.forall_mem_cons.2 ⟨hg, hat⟩, ?_, ?_⟩
    · rw [List.dropLast_cons_cons]
      exact List.forall_mem_cons.2 ⟨⟨hpos, hlt⟩, hinner⟩
    · rw [placedEnd_cons]
      exact hreaches

section Walk

variable (r : ConfigReply) (beyond : Nat → UCHAR)

theorem ConfigReply.wTotalLength_buf :
    (configurationDescriptorAt (r.buf beyond) 0).wTotalLength.toNat = r.bytes.length :=
  r.wTotalLength_eq

/-- The loop goes on exactly before the end of the bytes, as long as the cursor has not gone far
past it. -/
theorem ConfigReply.dumpAgain_iff {s : DumpCursor} (hlt : s.pch < 2 ^ 32) :
    dumpAgain (configurationDescriptorAt (r.buf beyond) 0) s = true ↔ s.pch < r.bytes.length := by
  rw [dumpAgain, decide_eq_true_iff, r.wTotalLength_buf, BitVec.toNat_ofNat, Nat.mod_eq_of_lt hlt]

theorem ConfigReply.next_lt {s : DumpCursor} {g : InterfaceLayout} (h : g.At r.bytes s.pch) :
    (dumpInterface (r.buf beyond) s).1.pch < 2 ^ 32 := by
  have hsize := layoutAt_size_lt (r.buf beyond) s.pch
  have hroom := h.room
  have hlen := r.length_le
  rw [dumpInterface_fst]
  simp only
  omega

/-- An interface of no length is dumped again and again. -/
theorem ConfigReply.dump_stuck {s : DumpCursor} (hsize : (layoutAt (r.buf beyond) s.pch).size = 0)
    (hagain : dumpAgain (configurationDescriptorAt (r.buf beyond) 0) s = true) (fuel : Nat) :
    doWhile (dumpInterface (r.buf beyond)) (dumpAgain (configurationDescriptorAt (r.buf beyond) 0))
      fuel s = none := by
  refine doWhile_none (fun s' => s'.pch = s.pch) ?_ rfl fuel
  rintro ⟨pch, n⟩ hpch
  obtain rfl : pch = s.pch := hpch
  rw [dumpInterface_fst]
  simp only [hsize, Nat.add_zero]
  exact ⟨hagain, trivial⟩

theorem ConfigReply.laidOut_of_dump {fuel : Nat} {s s' : DumpCursor} {dumped : List Dumped}
    (hdump : doWhile (dumpInterface (r.buf beyond))
      (dumpAgain (configurationDescriptorAt (r.buf beyond) 0)) fuel s = some (s', dumped))
    (hin : ∀ d ∈ dumped, d.stop ≤ r.bytes.length) : ∃ gs, LaidOut r.bytes s.pch gs := by
  induction fuel generalizing s dumped with
  | zero => cases hdump
  | succ fuel ih =>
    have hnext := dumpInterface_fst (r.buf beyond) s
    cases hagain : dumpAgain (configurationDescriptorAt (r.buf beyond) 0)
        (dumpInterface (r.buf beyond) s).1 with
    | false =>
      rw [doWhile_last hagain] at hdump
      obtain ⟨hfirst, hdumped⟩ := Prod.mk.inj (Option.some.inj hdump)
      have hat := (interface_at_iff beyond _ s).2 ⟨rfl, hdumped ▸ hin⟩
      refine ⟨[layoutAt (r.buf beyond) s.pch], laidOut_singleton_iff.2 ⟨hat, ?_⟩⟩
      have hstop := mt (r.dumpAgain_iff beyond (r.next_lt beyond hat)).2 (by rw [hagain]; decide)
      rw [hnext] at hstop
      exact Nat.le_of_not_lt hstop
    | true =>
      rw [doWhile_again hagain] at hdump
      obtain ⟨⟨s₁, rest⟩, hrest, heq⟩ := Option.map_eq_some_iff.1 hdump
      obtain ⟨rfl, rfl⟩ := Prod.mk.inj heq
      obtain ⟨hin₁, hin₂⟩ := List.forall_mem_append.1 hin
      have hat := (interface_at_iff beyond _ s).2 ⟨rfl, hin₁⟩
      obtain ⟨gs, hgs⟩ := ih hrest hin₂
      have hlt := (r.dumpAgain_iff beyond (r.next_lt beyond hat)).1 hagain
      rw [hnext] at hgs hlt hagain hrest
      refine ⟨layoutAt (r.buf beyond) s.pch :: gs, ?_⟩
      obtain ⟨g', gs, rfl⟩ := List.exists_cons_of_ne_nil hgs.ne_nil
      refine laidOut_cons_iff.2 ⟨hat, Nat.pos_of_ne_zero fun hzero => ?_, hlt, hgs⟩
      have hstuck := r.dump_stuck beyond
        (s := { pch := s.pch + (layoutAt (r.buf beyond) s.pch).size, n := s.n + 1 })
        (by simp only [hzero, Nat.add_zero]) hagain fuel
      rw [hstuck] at hrest
      cases hrest

theorem ConfigReply.dump_of_laidOut {gs : List InterfaceLayout} {s : DumpCursor}
    (h : LaidOut r.bytes s.pch gs) :
    ∃ s' dumped, doWhile (dumpInterface (r.buf beyond))
      (dumpAgain (configurationDescriptorAt (r.buf beyond) 0)) gs.length s = some (s', dumped) ∧
        ∀ d ∈ dumped, d.stop ≤ r.bytes.length := by
  induction gs generalizing s with
  | nil => exact absurd rfl h.ne_nil
  | cons g gs ih =>
    cases gs with
    | nil =>
      obtain ⟨hat, hreaches⟩ := laidOut_singleton_iff.1 h
      obtain ⟨rfl, hin⟩ := (interface_at_iff beyond g s).1 hat
      refine ⟨_, _, doWhile_last ?_ 0, hin⟩
      rw [← Bool.not_eq_true, r.dumpAgain_iff beyond (r.next_lt beyond hat), dumpInterface_fst]
      exact Nat.not_lt.2 hreaches
    | cons g' gs =>
      obtain ⟨hat, -, hlt, hrest⟩ := laidOut_cons_iff.1 h
      obtain ⟨rfl, hin⟩ := (interface_at_iff beyond g s).1 hat
      have hnext := dumpInterface_fst (r.buf beyond) s
      obtain ⟨s', dumped, hdump, hin'⟩ :=
        ih (s := (dumpInterface (r.buf beyond) s).1) (by rw [hnext]; exact hrest)
      refine ⟨s', (dumpInterface (r.buf beyond) s).2 ++ dumped, ?_,
        List.forall_mem_append.2 ⟨hin, hin'⟩⟩
      rw [List.length_cons, doWhile_again, hdump, Option.map_some]
      rw [r.dumpAgain_iff beyond (r.next_lt beyond hat), hnext]
      exact hlt

/-- **A safe dump**, exactly on the bytes that hold a whole configuration descriptor and, from where
its `bLength` leads to the end, interfaces with as many endpoints as they say, every descriptor with
room for its standard size, and every interface but the last of some length and short of the end. -/
theorem dumpUsbConfig_safe_iff : r.DumpedSafely beyond ↔ r.WellLaidOut := by
  constructor
  · rintro ⟨fuel, stop, dumped, hdump, hin⟩
    obtain ⟨⟨s, rest⟩, hrest, heq⟩ := Option.map_eq_some_iff.1 hdump
    obtain ⟨rfl, rfl⟩ := Prod.mk.inj heq
    obtain ⟨hroom, hin⟩ := List.forall_mem_cons.1 hin
    obtain ⟨gs, hgs⟩ := r.laidOut_of_dump beyond hrest hin
    have hlt : 0 < r.bytes.length := Nat.lt_of_lt_of_le (Nat.succ_pos 8) hroom
    exact ⟨hroom, _, gs, getElem?_eq_charBuf beyond hlt, hgs⟩
  · rintro ⟨hroom, bLength, gs, hlen, hgs⟩
    obtain rfl : r.buf beyond 0 = bLength := charBuf_eq hlen
    obtain ⟨s', dumped, hdump, hin⟩ :=
      r.dump_of_laidOut beyond (s := { pch := (r.buf beyond 0).toNat, n := 0 }) hgs
    refine ⟨gs.length, s'.pch, _, Option.map_eq_some_iff.2 ⟨_, hdump, rfl⟩, ?_⟩
    exact List.forall_mem_cons.2 ⟨hroom, hin⟩

end Walk

/-- A configuration whose interface descriptor has `bLength` 0 and no endpoints. -/
def zeroLengthInterface : ConfigReply where
  bytes := [9, 2, 18, 0, 1, 1, 0, 0xA0, 0x32, 0, 4, 0, 0, 0, 0xFF, 0, 0, 0]
  length_le := by decide
  wTotalLength_eq := by decide

/-- The dump prints that interface without end. -/
theorem dumpUsbConfig_not_safe :
    (∀ fuel, dumpUsbConfig (zeroLengthInterface.buf fun _ => 0) fuel = none) ∧
      ¬ zeroLengthInterface.DumpedSafely fun _ => 0 := by
  have hnone (fuel : Nat) : dumpUsbConfig (zeroLengthInterface.buf fun _ => 0) fuel = none :=
    Option.map_eq_none_iff.2 (zeroLengthInterface.dump_stuck _ (by decide) (by decide) fuel)
  refine ⟨hnone, ?_⟩
  rintro ⟨fuel, stop, dumped, hdump, -⟩
  rw [hnone] at hdump
  cases hdump

end UdeSample
