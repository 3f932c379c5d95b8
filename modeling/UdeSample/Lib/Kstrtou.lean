import UdeSample.Lib.Strtol

/-!
# Numbers in the texts of kernel attributes

`kstrtou32` with base 0, as the kernel documents it: a plus sign may come first, `0x` before a digit
means hexadecimal and another leading zero octal, the number ends the text but for one newline, and
a number that does not fit is out of range. `intText` is what the conversion `%d` prints.
-/

namespace UdeSample.Lib

def einval : Int := 22

def erange : Int := 34

/-- The base that a prefix stands for, and what follows the prefix. -/
def fixupRadix : List Char → Nat × List Char
  | '0' :: x :: c :: s =>
    if (x = 'x' ∨ x = 'X') ∧ (hexDigit c).isSome = true then (16, c :: s)
    else (8, '0' :: x :: c :: s)
  | '0' :: s => (8, '0' :: s)
  | s => (10, s)

def isDigitOf (base : Nat) (c : Char) : Bool := (hexDigit c).any fun d => decide (d < base)

def numberOf (base : Nat) (ds : List Char) : Nat :=
  ds.foldl (fun n c => base * n + (hexDigit c).getD 0) 0

def skipPlus : List Char → List Char
  | '+' :: s => s
  | s => s

def kstrtoull (s : List Char) : Except Int Nat :=
  let (base, s) := fixupRadix (skipPlus s)
  let ds := s.takeWhile (isDigitOf base)
  let rest := s.dropWhile (isDigitOf base)
  if 2 ^ 64 ≤ numberOf base ds then .error (-erange)
  else if ds ≠ [] ∧ (rest = [] ∨ rest = ['\n']) then .ok (numberOf base ds)
  else .error (-einval)

def kstrtou32 (s : List Char) : Except Int (BitVec 32) :=
  (kstrtoull s).bind fun n => if n < 2 ^ 32 then .ok (BitVec.ofNat 32 n) else .error (-erange)

/-- The conversion `%d`. -/
def intText (i : Int) : List Char :=
  if i < 0 then '-' :: Nat.toDigits 10 i.natAbs else Nat.toDigits 10 i.natAbs

theorem hexDigit_of_isDigit {c : Char} (h : c.isDigit = true) :
    hexDigit c = some (c.toNat - '0'.toNat) := by
  simp only [Char.isDigit, Bool.and_eq_true, decide_eq_true_eq] at h
  exact if_pos h

theorem isDigitOf_ten {c : Char} (h : c.isDigit = true) : isDigitOf 10 c = true := by
  have hle : c.toNat ≤ '9'.toNat := by
    simp only [Char.isDigit, Bool.and_eq_true, decide_eq_true_eq] at h
    exact UInt32.le_iff_toNat_le.1 h.2
  rw [isDigitOf, hexDigit_of_isDigit h, Option.any_some, decide_eq_true_eq]
  change c.toNat ≤ 57 at hle
  change c.toNat - 48 < 10
  omega

theorem isDigit_toDigits {n : Nat} {c : Char} (h : c ∈ Nat.toDigits 10 n) : c.isDigit = true :=
  Nat.isDigit_of_mem_toDigits (by decide) (by decide) h

theorem numberOf_toDigits (n : Nat) : numberOf 10 (Nat.toDigits 10 n) = n := by
  have hfold : ∀ (ds : List Char) (m : Nat), (∀ c ∈ ds, c.isDigit = true) →
      ds.foldl (fun n c => 10 * n + (hexDigit c).getD 0) m = Nat.ofDigitChars 10 ds m := by
    intro ds m hds
    induction ds generalizing m with
    | nil => rw [Nat.ofDigitChars_nil, List.foldl_nil]
    | cons c ds ih =>
      rw [List.foldl_cons, Nat.ofDigitChars_cons, hexDigit_of_isDigit (hds c List.mem_cons_self),
        Option.getD_some, ih _ fun a ha => hds a (List.mem_cons_of_mem c ha)]
  rw [numberOf, hfold _ _ fun c => isDigit_toDigits, Nat.ofDigitChars_ten_toDigits]

/-- A positive number does not start with a zero. -/
theorem toDigits_head {n : Nat} (h : 0 < n) : (Nat.toDigits 10 n).head? ≠ some '0' := by
  have hdigit : ∀ m < 10, 0 < m → [m.digitChar].head? ≠ some '0' := by decide
  induction n using Nat.base_induction 10 (by decide) with
  | single m hm =>
    rw [Nat.toDigits_of_lt_base hm]
    exact hdigit m hm h
  | digit m k hk hm ih =>
    obtain ⟨c, ds, hds⟩ := List.exists_cons_of_ne_nil (Nat.toDigits_ne_nil (n := m) (b := 10))
    rw [← Nat.toDigits_append_toDigits (by decide) hm hk, hds]
    rw [hds] at ih
    exact ih hm

theorem fixupRadix_of_head {s : List Char} (h : s.head? ≠ some '0') : fixupRadix s = (10, s) := by
  unfold fixupRadix
  split
  · exact absurd rfl h
  · exact absurd rfl h
  · rfl

theorem skipPlus_of_isDigit {c : Char} (h : c.isDigit = true) (s : List Char) :
    skipPlus (c :: s) = c :: s := by
  unfold skipPlus
  split
  · next heq =>
    obtain ⟨rfl, -⟩ := List.cons.inj heq
    exact absurd h (by decide)
  · rfl

theorem kstrtou32_error {s : List Char} {ret : Int} (h : kstrtou32 s = .error ret) : ret < 0 := by
  have hcode : ret = -einval ∨ ret = -erange := by
    unfold kstrtou32 at h
    cases hull : kstrtoull s with
    | ok n =>
      rw [hull] at h
      change (if n < 2 ^ 32 then Except.ok _ else .error (-erange)) = .error ret at h
      split at h
      · cases h
      · exact Or.inr (Except.error.inj h).symm
    | error r =>
      rw [hull] at h
      cases h
      unfold kstrtoull at hull
      dsimp only at hull
      split at hull
      · exact Or.inr (Except.error.inj hull).symm
      split at hull
      · cases hull
      · exact Or.inl (Except.error.inj hull).symm
  rcases hcode with rfl | rfl <;> decide

/-- **A number that is printed is read**, if it fits. -/
theorem kstrtou32_toDigits (n : Nat) : kstrtou32 (Nat.toDigits 10 n ++ ['\n']) =
    if n < 2 ^ 32 then .ok (BitVec.ofNat 32 n) else .error (-erange) := by
  rcases Nat.eq_zero_or_pos n with rfl | hpos
  · rfl
  obtain ⟨c, ds, hds⟩ := List.exists_cons_of_ne_nil (Nat.toDigits_ne_nil (n := n) (b := 10))
  have hdigits : ∀ c ∈ Nat.toDigits 10 n, isDigitOf 10 c = true :=
    fun c hc => isDigitOf_ten (isDigit_toDigits hc)
  have hplus : skipPlus (Nat.toDigits 10 n ++ ['\n']) = Nat.toDigits 10 n ++ ['\n'] := by
    have hc : c.isDigit = true := isDigit_toDigits (hds ▸ List.mem_cons_self)
    rw [hds]
    exact skipPlus_of_isDigit hc _
  have hradix : fixupRadix (Nat.toDigits 10 n ++ ['\n']) = (10, Nat.toDigits 10 n ++ ['\n']) := by
    refine fixupRadix_of_head ?_
    have hhead := toDigits_head hpos
    rw [hds] at hhead ⊢
    exact hhead
  have htake : (Nat.toDigits 10 n ++ ['\n']).takeWhile (isDigitOf 10) = Nat.toDigits 10 n := by
    rw [List.takeWhile_append_of_pos hdigits]
    exact List.append_nil _
  have hdrop : (Nat.toDigits 10 n ++ ['\n']).dropWhile (isDigitOf 10) = ['\n'] := by
    rw [List.dropWhile_append_of_pos hdigits]
    rfl
  have hull : kstrtoull (Nat.toDigits 10 n ++ ['\n']) =
      if 2 ^ 64 ≤ n then .error (-erange) else .ok n := by
    simp only [kstrtoull, hplus, hradix, htake, hdrop, numberOf_toDigits]
    simp [Nat.toDigits_ne_nil]
  rw [kstrtou32, hull]
  split
  · rw [if_neg (by omega)]
    rfl
  · rfl

theorem kstrtou32_minus (s : List Char) : kstrtou32 ('-' :: s) = .error (-einval) := by
  have hminus : isDigitOf 10 '-' = false := rfl
  have hradix : fixupRadix ('-' :: s) = (10, '-' :: s) := fixupRadix_of_head (by simp)
  have hplus : skipPlus ('-' :: s) = '-' :: s := rfl
  have hull : kstrtoull ('-' :: s) = .error (-einval) := by
    simp only [kstrtoull, hplus, hradix, List.takeWhile_cons, hminus]
    rfl
  rw [kstrtou32, hull]
  rfl

/-- **Printed as a signed number, read as an unsigned one.** -/
theorem kstrtou32_intText (v : BitVec 32) : kstrtou32 (intText v.toInt ++ ['\n']) =
    if v.toNat < 2 ^ 31 then .ok v else .error (-einval) := by
  have hv := BitVec.toInt_eq_toNat_cond v
  split
  · next hlt =>
    rw [if_pos (by omega)] at hv
    rw [hv, intText, if_neg (by omega), Int.natAbs_natCast, kstrtou32_toDigits,
      if_pos v.isLt, BitVec.ofNat_toNat, BitVec.setWidth_eq]
  · next hge =>
    rw [if_neg (by omega)] at hv
    have hneg : v.toInt < 0 := by
      rw [hv]
      have hlt := v.isLt
      omega
    rw [intText, if_pos hneg]
    exact kstrtou32_minus _

/-! ## The conversion `%d` -/

theorem natAbs_digits (i : Int) : Nat.ofDigitChars 10 (Nat.toDigits 10 i.natAbs) 0 = i.natAbs :=
  Nat.ofDigitChars_ten_toDigits

/-- A digit is no sign. -/
theorem minus_notMem_toDigits (n : Nat) : '-' ∉ Nat.toDigits 10 n := by
  intro h
  exact absurd (isDigit_toDigits h) (by decide)

theorem intText_injective : Function.Injective intText := by
  intro i j h
  have hdigits : Nat.toDigits 10 i.natAbs = Nat.toDigits 10 j.natAbs → i.natAbs = j.natAbs := by
    intro heq
    rw [← natAbs_digits i, heq, natAbs_digits]
  unfold intText at h
  split at h
  · next hi =>
    split at h
    · have habs := hdigits (List.cons.inj h).2
      omega
    · exact absurd (h ▸ List.mem_cons_self) (minus_notMem_toDigits j.natAbs)
  · next hi =>
    split at h
    · exact absurd (h.symm ▸ List.mem_cons_self) (minus_notMem_toDigits i.natAbs)
    · have habs := hdigits h
      omega

/-- A number of 32 bits takes at most eleven characters. -/
theorem length_intText_le (v : BitVec 32) : (intText v.toInt).length ≤ 11 := by
  have hlen : (Nat.toDigits 10 v.toInt.natAbs).length ≤ 10 := by
    rw [Nat.length_toDigits_le_iff (by decide) (by decide)]
    have hlt := v.isLt
    have hv := BitVec.toInt_eq_toNat_cond v
    split at hv <;> omega
  unfold intText
  split
  · exact Nat.succ_le_succ hlen
  · exact Nat.le_succ_of_le hlen

end UdeSample.Lib
