import UdeSample.Device.Lifecycle
import UdeSample.System.Delivery
import UdeSample.Lib.Strtol

/-!
# The command line of the test application (`testapp.c`)

`Parse` and `main`, and the interrupt that `-i` sends through the back channel. The number of `-i`
is read by `strtol` into a signed `long` of 32 bits, and everything behind it is unsigned:
`intrText_returned_iff` says that the number given on the command line comes back to the reader of
interrupts if and only if it is below `2 ^ 31`.
-/

namespace UdeSample

open Lib

/-- The flags that `Parse` sets. -/
structure Globals where
  fDumpUsbConfig : Bool
  fRead : Bool
  fWrite : Bool
  fGetDeviceInterrupt : Bool
  fGenerateVirtualDeviceIntr : Bool
  fMission : Bool
  writeText : List Char
  fAutoBot : Bool
  fCommandTrip : Bool
  intrValue : ULONG
deriving DecidableEq

def globalsInit : Globals :=
  { fDumpUsbConfig := false, fRead := false, fWrite := false, fGetDeviceInterrupt := false
    fGenerateVirtualDeviceIntr := false, fMission := true, writeText := "DefaultWrite".toList
    fAutoBot := false, fCommandTrip := false, intrValue := 0 }

inductive Switch where
  | r
  | w
  | u
  | p
  | a
  | c
  | i
  | other
deriving DecidableEq

/-- `argv[i][1]`, which is the NUL of an argument of one character. -/
def switchOf (arg : List Char) : Switch :=
  match arg[1]? with
  | none => .other
  | some x =>
    if x = 'r' ∨ x = 'R' then .r
    else if x = 'w' ∨ x = 'W' then .w
    else if x = 'u' ∨ x = 'U' then .u
    else if x = 'p' ∨ x = 'P' then .p
    else if x = 'a' ∨ x = 'A' then .a
    else if x = 'c' ∨ x = 'C' then .c
    else if x = 'i' ∨ x = 'I' then .i
    else .other

def isSwitch (arg : List Char) : Prop := arg[0]? = some '-' ∨ arg[0]? = some '/'

instance (arg : List Char) : Decidable (isSwitch arg) :=
  inferInstanceAs (Decidable (_ ∨ _))

/-- `Parse`, from the next argument on; `none` is `exit(1)`, for a switch without its arguments. -/
def parse (g : Globals) : List (List Char) → Option Globals
  | [] => some g
  | arg :: argv =>
    if isSwitch arg then
      match switchOf arg, argv with
      | .r, who :: argv =>
        parse { g with fRead := true, fMission := who = "mission".toList } argv
      | .w, who :: text :: argv =>
        parse { g with fWrite := true, fMission := who = "mission".toList, writeText := text } argv
      | .u, argv => parse { g with fDumpUsbConfig := true } argv
      | .p, argv => parse { g with fGetDeviceInterrupt := true } argv
      | .a, argv => parse { g with fAutoBot := true } argv
      | .c, text :: argv => parse { g with fCommandTrip := true, writeText := text } argv
      | .i, n :: argv =>
        parse { g with
          intrValue := BitVec.ofInt 32 (strtol16 32 n), fGenerateVirtualDeviceIntr := true } argv
      | .other, argv => parse g argv
      | .r, [] | .w, [] | .w, [_] | .c, [] | .i, [] => none
    else parse g argv

/-- An argument that is no switch is skipped. -/
theorem parse_of_not_isSwitch {arg : List Char} (h : ¬ isSwitch arg) (g : Globals)
    (argv : List (List Char)) : parse g (arg :: argv) = parse g argv := by
  rw [parse.eq_def]
  exact if_neg h

/-- A switch for interrupts. -/
def isIntrSwitch (arg : List Char) : Prop := isSwitch arg ∧ switchOf arg = .i

instance (arg : List Char) : Decidable (isIntrSwitch arg) :=
  inferInstanceAs (Decidable (_ ∧ _))

theorem parse_intr {arg : List Char} (h : isIntrSwitch arg) (g : Globals) (n : List Char)
    (argv : List (List Char)) :
    parse g (arg :: n :: argv) = parse { g with
      intrValue := BitVec.ofInt 32 (strtol16 32 n), fGenerateVirtualDeviceIntr := true } argv := by
  rw [parse.eq_def]
  simp only [h.1, h.2, if_true]

/-- What `main` does after it has parsed its arguments. -/
inductive AppCall where
  | exit (code : Nat)
  | dumpUsbConfig
  | getDeviceInterrupt
  | generateDeviceInterrupt (value : ULONG)
  | writeTextTo (mission : Bool) (text : List Char)
  | readTextFrom (mission : Bool)
  | autoBot
  | commandTrip (text : List Char)
deriving DecidableEq

def main (argv : List (List Char)) : AppCall :=
  match parse globalsInit argv with
  | none => .exit 1
  | some g =>
    if g.fDumpUsbConfig then .dumpUsbConfig
    else if g.fGetDeviceInterrupt then .getDeviceInterrupt
    else if g.fGenerateVirtualDeviceIntr then .generateDeviceInterrupt g.intrValue
    else if g.fWrite then .writeTextTo g.fMission g.writeText
    else if g.fRead then .readTextFrom g.fMission
    else if g.fAutoBot then .autoBot
    else if g.fCommandTrip then .commandTrip g.writeText
    else .exit 1

/-! ## The interrupt of `-i` -/

/-- The four bytes of a flag word in memory. -/
def flagBytes (v : ULONG) : List UInt8 :=
  (List.range sizeofDeviceIntrFlags).map fun i => UInt8.ofBitVec ((v >>> (8 * i)).setWidth 8)

/-- Bit `i` of the word is a bit of byte `i / 8`. -/
theorem flagWord_flagBytes (v : ULONG) : flagWord (flagBytes v) = v := by
  have hbytes : flagBytes v = [0, 1, 2, 3].map fun i =>
      UInt8.ofBitVec ((v >>> (8 * i)).setWidth 8) := rfl
  simp only [hbytes, flagWord, List.map_cons, List.map_nil, List.foldr_cons, List.foldr_nil]
  ext i hi
  simp only [BitVec.ofNat_eq_ofNat, BitVec.zero_shiftLeft, Nat.reduceMul, BitVec.zero_or, mul_one,
    mul_zero, BitVec.ushiftRight_zero, BitVec.getElem_or, BitVec.getElem_shiftLeft,
    BitVec.getElem_setWidth, BitVec.getLsbD_setWidth, BitVec.getLsbD_ushiftRight]
  have hbyte : i < 8 ∨ 8 ≤ i ∧ i - 8 < 8 ∨ 16 ≤ i ∧ i - 8 - 8 < 8 ∨
      24 ≤ i ∧ i - 8 - 8 - 8 < 8 := by omega
  rcases hbyte with h | ⟨h, hlt⟩ | ⟨h, hlt⟩ | ⟨h, hlt⟩
  · simp [h, BitVec.getLsbD_eq_getElem hi]
  · have hindex : 8 + (i - 8) = i := by omega
    simp [show ¬ i < 8 by omega, hlt, hindex, BitVec.getLsbD_eq_getElem hi]
  · have hindex : 16 + (i - 8 - 8) = i := by omega
    simp [show ¬ i < 8 by omega, show ¬ i - 8 < 8 by omega, hlt, hindex,
      BitVec.getLsbD_eq_getElem hi]
  · have hindex : 24 + (i - 8 - 8 - 8) = i := by omega
    simp [show ¬ i < 8 by omega, show ¬ i - 8 < 8 by omega, show ¬ i - 8 - 8 < 8 by omega, hlt,
      hindex, BitVec.getLsbD_eq_getElem hi]

/-- `Io_RaiseInterrupt` on the child device. -/
def InterruptSystem.ioRaiseInterrupt (v : ULONG) (s : InterruptSystem UInt8 ULONG) :
    Option ((NTSTATUS × List (Effect UInt8 ULONG)) × InterruptSystem UInt8 ULONG) :=
  (systemStep s (.raise v)).map fun s => ((statusSuccess, []), s)

/-- The request of `GenerateDeviceInterrupt`. -/
def generateRequest (id : Nat) (value : ULONG) : WdfRequest UInt8 :=
  { id, source := .ioctl, buffer := flagBytes value }

/-- `GenerateDeviceInterrupt`, in `BackChannelIoctl`. -/
def generateDeviceInterrupt (id : Nat) (value : ULONG) (s : InterruptSystem UInt8 ULONG) :
    Option ((Bool × List (Effect UInt8 ULONG)) × InterruptSystem UInt8 ULONG) :=
  backChannelIoctl flagWord InterruptSystem.ioRaiseInterrupt ioctlUdefx2GenerateInterrupt
    (generateRequest id value) (.ok ()) s

/-- The payload is accepted, and what is raised is what was sent. -/
theorem generateDeviceInterrupt_eq (id : Nat) (value : ULONG) (s : InterruptSystem UInt8 ULONG) :
    generateDeviceInterrupt id value s =
      (systemStep s (.raise value)).map fun s =>
        ((true, [.complete
          (completeRequest .wdfRequest (generateRequest id value) statusSuccess 0)]), s) := by
  have hretrieve : wdfRequestRetrieveBuffer (generateRequest id value) sizeofDeviceIntrFlags
      (.ok ()) = .ok (flagBytes value) := rfl
  have hlen : (flagBytes value).length = sizeofDeviceIntrFlags := rfl
  simp only [generateDeviceInterrupt, backChannelIoctl, if_true, hretrieve, hlen,
    InterruptSystem.ioRaiseInterrupt, flagWord_flagBytes, Option.map_map]
  rfl

/-- The application run on `argv` sends an interrupt, and in whatever state that finds the two
drivers, its request succeeds and the readers of interrupts are given `v` next. -/
def IntrReturned (argv : List (List Char)) (v : ULONG) : Prop :=
  ∃ value, main argv = .generateDeviceInterrupt value ∧
    ∀ (t : List (SystemEvent UInt8 ULONG)) (s : InterruptSystem UInt8 ULONG),
      systemRun t = some s → ∀ id, ∃ s₁,
        generateDeviceInterrupt id value s = some ((true, [.complete
          (completeRequest .wdfRequest (generateRequest id value) statusSuccess 0)]), s₁) ∧
        ReturnsNext v s s₁

theorem main_intrText {name switch text : List Char} (hname : ¬ isSwitch name)
    (hswitch : isIntrSwitch switch) {v : ULONG} (htext : HexText v.toNat text) :
    main [name, switch, text] =
      .generateDeviceInterrupt (BitVec.ofInt 32 (min (v.toNat : Int) (2 ^ 31 - 1))) := by
  rw [main, parse_of_not_isSwitch hname, parse_intr hswitch, strtol16_hexText htext]
  rfl

/-- Whatever number the application sends, that one is returned next. -/
theorem generateDeviceInterrupt_returned {raises : List ULONG} {s s₁ : InterruptSystem UInt8 ULONG}
    {id : Nat} {value : ULONG} {handled : Bool × List (Effect UInt8 ULONG)}
    (h : Fresh raises s) (hsent : generateDeviceInterrupt id value s = some (handled, s₁)) :
    ReturnsNext value s s₁ := by
  rw [generateDeviceInterrupt_eq] at hsent
  obtain ⟨s', hraise, heq⟩ := Option.map_eq_some_iff.1 hsent
  obtain rfl := (Prod.mk.inj heq).2
  exact returnsNext h hraise

/-- Two values cannot both be returned next. -/
theorem ReturnsNext.unique {v w : ULONG} {s₁ : InterruptSystem UInt8 ULONG}
    (hv : ReturnsNext v interruptSystemInit s₁) (hw : ReturnsNext w interruptSystemInit s₁)
    (hflight : s₁.inFlight = []) : v = w := by
  obtain ⟨t, s₂, hfetches, hrun, hmem⟩ := hv.fetched [] s₁ rfl rfl
    (fun c hc => absurd (hflight ▸ hc) List.not_mem_nil) ⟨0, .interruptIn, [0, 0, 0, 0]⟩
    ⟨0, .ioctl, [0, 0, 0, 0]⟩ rfl rfl (Nat.le_refl _)
  obtain ⟨older, n, hreturned, holder, -⟩ :=
    hw.answers t s₂ hrun (systemRaises_of_fetches hfetches)
  have hnone : older = [] := List.eq_nil_iff_forall_not_mem.2 fun u hu =>
    absurd (holder u hu) List.not_mem_nil
  rw [hreturned, hnone] at hmem
  exact List.eq_of_mem_replicate (List.mem_of_mem_drop hmem)

section

variable {name switch text : List Char} {v : ULONG}

theorem IntrReturned.lt (hreturned : IntrReturned [name, switch, text] v)
    (hname : ¬ isSwitch name) (hswitch : isIntrSwitch switch) (htext : HexText v.toNat text) :
    v.toNat < 2 ^ 31 := by
  obtain ⟨value, hvalue, hreturned⟩ := hreturned
  have hmain := main_intrText hname hswitch htext
  obtain rfl := AppCall.generateDeviceInterrupt.inj (hmain.symm.trans hvalue)
  obtain ⟨s₁, hsent, hnext⟩ := hreturned [] interruptSystemInit rfl 0
  have hflight : s₁.inFlight = [] := by
    rw [generateDeviceInterrupt_eq] at hsent
    obtain ⟨s', hraise, heq⟩ := Option.map_eq_some_iff.1 hsent
    obtain rfl := (Prod.mk.inj heq).2
    obtain rfl := Option.some.inj hraise
    rfl
  have hv := hnext.unique (generateDeviceInterrupt_returned interruptSystemInit_fresh hsent)
    hflight
  by_contra hge
  rw [min_eq_right (by omega)] at hv
  exact hge (hv ▸ by decide)

theorem intrReturned_of_lt (hname : ¬ isSwitch name) (hswitch : isIntrSwitch switch)
    (htext : HexText v.toNat text) (hlt : v.toNat < 2 ^ 31) :
    IntrReturned [name, switch, text] v := by
  have hmain := main_intrText hname hswitch htext
  rw [min_eq_left (by omega), BitVec.ofInt_natCast, BitVec.ofNat_toNat, BitVec.setWidth_eq] at hmain
  refine ⟨v, hmain, ?_⟩
  intro t s hrun id
  obtain ⟨s₁, hraise⟩ : ∃ s₁, systemStep s (.raise v) = some s₁ := ⟨_, rfl⟩
  have hsent := generateDeviceInterrupt_eq id v s
  rw [hraise, Option.map_some] at hsent
  exact ⟨s₁, hsent, generateDeviceInterrupt_returned (interruptSystemInit_fresh.steps hrun) hsent⟩

/-- **The number of `-i`**: it is what the readers of interrupts are given next if and only if it is
below `2 ^ 31`. -/
theorem intrText_returned_iff (hname : ¬ isSwitch name) (hswitch : isIntrSwitch switch)
    (htext : HexText v.toNat text) :
    IntrReturned [name, switch, text] v ↔ v.toNat < 2 ^ 31 :=
  ⟨fun h => h.lt hname hswitch htext, intrReturned_of_lt hname hswitch htext⟩

end

/-- `-i 0X00000a` -/
theorem intrText_returned_ten :
    IntrReturned ["hostudetest".toList, "-i".toList, "0X00000a".toList] 10 :=
  (intrText_returned_iff (by decide) (by decide) (by decide)).2 (by decide)

/-- `-i 80000000`: the application sends, and the reader of interrupts gets, `7fffffff`. -/
theorem intrText_not_returned :
    let argv := ["hostudetest".toList, "-i".toList, "80000000".toList]
    HexText (0x80000000 : ULONG).toNat "80000000".toList ∧ ¬ IntrReturned argv 0x80000000 ∧
      main argv = .generateDeviceInterrupt 0x7fffffff ∧
      ((generateDeviceInterrupt 0 0x7fffffff interruptSystemInit).bind fun p =>
        (run systemStep p.2 [.postUrb ⟨1, .interruptIn, [0, 0, 0, 0]⟩ outcomesOk.forward, .deliver,
          .get ⟨2, .ioctl, [0, 0, 0, 0]⟩ outcomesOk.forward]).map InterruptSystem.returned) =
        some [0x7fffffff] := by
  have htext : HexText (0x80000000 : ULONG).toNat "80000000".toList := by decide
  refine ⟨htext, ?_, by decide, by decide⟩
  intro hreturned
  exact absurd (hreturned.lt (by decide) (by decide) htext) (by decide)

end UdeSample
