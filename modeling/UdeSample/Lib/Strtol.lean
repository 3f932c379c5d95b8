import Mathlib.Data.Nat.Digits.Defs

/-!
# Hexadecimal numbers in C strings

`strtol16` is `strtol` with base 16, for a `long` of any width: blanks, a sign and a prefix `0x` may
precede the digits, what follows them is ignored, and a number out of range is replaced by the
limit it passes. `HexText n s` says that `s` writes the number `n` down, and `strtol16_hexText` what
becomes of it.
-/

namespace UdeSample.Lib

/-- `isspace`. -/
def isSpace (c : Char) : Bool := c.toNat == 32 || (9 ≤ c.toNat && c.toNat ≤ 13)

/-- The value of a hexadecimal digit. -/
def hexDigit (c : Char) : Option Nat :=
  if '0' ≤ c ∧ c ≤ '9' then some (c.toNat - '0'.toNat)
  else if 'a' ≤ c ∧ c ≤ 'f' then some (c.toNat - 'a'.toNat + 10)
  else if 'A' ≤ c ∧ c ≤ 'F' then some (c.toNat - 'A'.toNat + 10)
  else none

/-- The digits up to the first character that is none. -/
def hexDigits : List Char → List Nat
  | [] => []
  | c :: s =>
    match hexDigit c with
    | none => []
    | some d => d :: hexDigits s

def hexValue (ds : List Nat) : Nat := ds.foldl (fun n d => n * 16 + d) 0

def skipHexPrefix : List Char → List Char
  | '0' :: 'x' :: s | '0' :: 'X' :: s => s
  | s => s

def takeSign : List Char → Bool × List Char
  | '-' :: s => (true, s)
  | '+' :: s => (false, s)
  | s => (false, s)

/-- `strtol(s, NULL, 16)`, where `long` has `w` bits. -/
def strtol16 (w : Nat) (s : List Char) : Int :=
  let (negative, s) := takeSign (s.dropWhile isSpace)
  let n : Int := hexValue (hexDigits (skipHexPrefix s))
  if negative then max (-n) (-2 ^ (w - 1)) else min n (2 ^ (w - 1) - 1)

/-- `s` is the number `n` in hexadecimal digits, whatever their case, with leading zeros or not, and
with a prefix `0x` or not. -/
def HexText (n : Nat) (s : List Char) : Prop :=
  ∃ ds ∈ [s, skipHexPrefix s], ds ≠ [] ∧ (∀ c ∈ ds, (hexDigit c).isSome = true) ∧
    Nat.ofDigits 16 (ds.reverse.map fun c => (hexDigit c).getD 0) = n

instance (n : Nat) (s : List Char) : Decidable (HexText n s) :=
  have (ds : List Char) : Decidable (∀ c ∈ ds, (hexDigit c).isSome = true) :=
    List.decidableBAll _ ds
  inferInstanceAs (Decidable (∃ ds ∈ [s, skipHexPrefix s], _))

theorem hexValue_eq (ds : List Nat) : hexValue ds = Nat.ofDigits 16 ds.reverse := by
  have hfold (n : Nat) : ds.foldl (fun n d => n * 16 + d) n =
      Nat.ofDigits 16 ds.reverse + 16 ^ ds.length * n := by
    induction ds generalizing n with
    | nil => simp
    | cons d ds ih =>
      rw [List.foldl_cons, ih, List.reverse_cons, Nat.ofDigits_append, List.length_reverse,
        List.length_cons, Nat.ofDigits_singleton, Nat.pow_succ]
      ring
  rw [hexValue, hfold, Nat.mul_zero, Nat.add_zero]

theorem hexDigits_eq {s : List Char} (h : ∀ c ∈ s, (hexDigit c).isSome = true) :
    hexDigits s = s.map fun c => (hexDigit c).getD 0 := by
  induction s with
  | nil => rfl
  | cons c s ih =>
    obtain ⟨d, hd⟩ := Option.isSome_iff_exists.1 (h c List.mem_cons_self)
    rw [hexDigits, List.map_cons, hd, ih fun a ha => h a (List.mem_cons_of_mem c ha)]
    rfl

/-! A number starts with one of its digits, which is no blank, no sign and not the `x`. -/

theorem zero_le_of_hexDigit {c : Char} (h : (hexDigit c).isSome = true) : '0'.toNat ≤ c.toNat := by
  have hle {a : Char} (ha : a ≤ c) : a.toNat ≤ c.toNat := UInt32.le_iff_toNat_le.1 ha
  unfold hexDigit at h
  split at h
  · next hc => exact hle hc.1
  split at h
  · next hc => exact (show '0'.toNat ≤ 'a'.toNat by decide).trans (hle hc.1)
  split at h
  · next hc => exact (show '0'.toNat ≤ 'A'.toNat by decide).trans (hle hc.1)
  · cases h

theorem isSpace_of_hexDigit {c : Char} (h : (hexDigit c).isSome = true) : isSpace c = false := by
  have hc : 48 ≤ c.toNat := zero_le_of_hexDigit h
  simp [isSpace]
  omega

theorem takeSign_of_hexDigit {c : Char} (h : (hexDigit c).isSome = true) (s : List Char) :
    takeSign (c :: s) = (false, c :: s) := by
  unfold takeSign
  split
  · next heq =>
    obtain ⟨rfl, -⟩ := List.cons.inj heq
    exact absurd h (by decide)
  · next heq =>
    obtain ⟨rfl, -⟩ := List.cons.inj heq
    exact absurd h (by decide)
  · rfl

theorem skipHexPrefix_of_hexDigits {s : List Char} (h : ∀ c ∈ s, (hexDigit c).isSome = true) :
    skipHexPrefix s = s := by
  unfold skipHexPrefix
  split
  · exact absurd (h 'x' (by simp)) (by decide)
  · exact absurd (h 'X' (by simp)) (by decide)
  · rfl

theorem HexText.head {n : Nat} {s : List Char} (h : HexText n s) :
    ∃ c t, s = c :: t ∧ (hexDigit c).isSome = true := by
  obtain ⟨ds, hds, hne, hdigits, -⟩ := h
  obtain ⟨c, t, rfl⟩ := List.exists_cons_of_ne_nil hne
  have hc := hdigits c List.mem_cons_self
  rcases List.mem_cons.1 hds with rfl | hds
  · exact ⟨c, t, rfl, hc⟩
  · have hskip := List.mem_singleton.1 hds
    unfold skipHexPrefix at hskip
    split at hskip
    · exact ⟨'0', _, rfl, rfl⟩
    · exact ⟨'0', _, rfl, rfl⟩
    · exact ⟨c, t, hskip.symm, hc⟩

theorem HexText.value {n : Nat} {s : List Char} (h : HexText n s) :
    hexValue (hexDigits (skipHexPrefix s)) = n := by
  obtain ⟨ds, hds, -, hdigits, rfl⟩ := h
  have hskip : skipHexPrefix s = ds := by
    rcases List.mem_cons.1 hds with rfl | hds
    · exact skipHexPrefix_of_hexDigits hdigits
    · exact (List.mem_singleton.1 hds).symm
  rw [hskip, hexDigits_eq hdigits, hexValue_eq, List.map_reverse]

/-- **A number in range is read, one out of range becomes the largest `long`.** -/
theorem strtol16_hexText {n : Nat} {s : List Char} (h : HexText n s) (w : Nat) :
    strtol16 w s = min (n : Int) (2 ^ (w - 1) - 1) := by
  have hvalue := h.value
  obtain ⟨c, t, rfl, hc⟩ := h.head
  have hdrop : (c :: t).dropWhile isSpace = c :: t :=
    List.dropWhile_cons_of_neg (by simp [isSpace_of_hexDigit hc])
  simp only [strtol16, hdrop, takeSign_of_hexDigit hc, hvalue, Bool.false_eq_true, if_false]

end UdeSample.Lib
