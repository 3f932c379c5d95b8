import UdeSample.Lib.Kstrtou

/-!
# Printed numbers and lines

`hexText` is what the conversion `%x` prints; `hexValue_hexText` reads it back, up to a character
that is no digit. `lines` cuts a text into the lines that `unlines` put together.
-/

namespace UdeSample.Lib

/-- The conversion `%x`. -/
def hexText (n : Nat) : List Char := Nat.toDigits 16 n

theorem hexText_of_le {n : Nat} (h : 16 ≤ n) :
    hexText n = hexText (n / 16) ++ [(n % 16).digitChar] :=
  Nat.toDigits_of_base_le (by decide) h

theorem hexDigit_digitChar : ∀ d < 16, hexDigit d.digitChar = some d := by decide

theorem hexDigit_hexText {n : Nat} {c : Char} (h : c ∈ hexText n) :
    (hexDigit c).isSome = true := by
  induction n using Nat.strongRecOn with
  | _ n ih =>
    rcases Nat.lt_or_ge n 16 with hlt | hge
    · rw [hexText, Nat.toDigits_of_lt_base hlt] at h
      rw [List.mem_singleton.1 h, hexDigit_digitChar n hlt]
      rfl
    · rw [hexText_of_le hge] at h
      rcases List.mem_append.1 h with h | h
      · exact ih (n / 16) (Nat.div_lt_self (by omega) (by decide)) h
      · rw [List.mem_singleton.1 h, hexDigit_digitChar _ (Nat.mod_lt n (by decide))]
        rfl

theorem hexDigits_append {s rest : List Char} (hs : ∀ c ∈ s, (hexDigit c).isSome = true)
    (hrest : ∀ c ∈ rest.head?, hexDigit c = none) : hexDigits (s ++ rest) = hexDigits s := by
  induction s with
  | nil =>
    cases rest with
    | nil => rfl
    | cons c rest =>
      have hc : hexDigit c = none := hrest c rfl
      simp only [List.nil_append, hexDigits, hc]
  | cons c s ih =>
    obtain ⟨d, hd⟩ := Option.isSome_iff_exists.1 (hs c List.mem_cons_self)
    rw [List.cons_append, hexDigits, hexDigits, hd, ih fun a ha => hs a (List.mem_cons_of_mem c ha)]

theorem hexValue_concat (ds : List Nat) (d : Nat) :
    hexValue (ds ++ [d]) = hexValue ds * 16 + d := by
  rw [hexValue, List.foldl_append]
  rfl

/-- **A printed number is read back**, whatever follows that is no digit. -/
theorem hexValue_hexText (n : Nat) {rest : List Char}
    (hrest : ∀ c ∈ rest.head?, hexDigit c = none) :
    hexValue (hexDigits (hexText n ++ rest)) = n := by
  rw [hexDigits_append (fun c => hexDigit_hexText) hrest, hexDigits_eq fun c => hexDigit_hexText]
  induction n using Nat.strongRecOn with
  | _ n ih =>
    rcases Nat.lt_or_ge n 16 with hlt | hge
    · rw [hexText, Nat.toDigits_of_lt_base hlt, List.map_singleton, hexDigit_digitChar n hlt]
      exact Nat.zero_add n
    · have hdigit : (hexDigit (n % 16).digitChar).getD 0 = n % 16 := by
        rw [hexDigit_digitChar _ (Nat.mod_lt n (by decide)), Option.getD_some]
      rw [hexText_of_le hge, List.map_append, List.map_singleton, hexValue_concat,
        ih (n / 16) (Nat.div_lt_self (by omega) (by decide)), hdigit]
      omega

/-! ## Lines -/

/-- Each line with its newline. -/
def unlines (ls : List (List Char)) : List Char := ls.flatMap (· ++ ['\n'])

def lines (text : List Char) : List (List Char) := (text.splitOn '\n').dropLast

/-- **A text is cut where it was put together.** -/
theorem lines_unlines {ls : List (List Char)} (h : ∀ l ∈ ls, '\n' ∉ l) :
    lines (unlines ls) = ls := by
  induction ls with
  | nil => rfl
  | cons l ls ih =>
    obtain ⟨hl, hls⟩ := List.forall_mem_cons.1 h
    have htext : unlines (l :: ls) = l ++ '\n' :: unlines ls := by simp [unlines]
    rw [lines, htext, List.splitOn_append_cons_self_of_not_mem hl,
      List.dropLast_cons_of_ne_nil (List.splitOn_ne_nil _ _)]
    exact congrArg (l :: ·) (ih hls)

/-! ## Without newlines -/

theorem newline_notMem_hexText (n : Nat) : '\n' ∉ hexText n :=
  fun h => absurd (hexDigit_hexText h) (by decide)

theorem newline_notMem_intText (i : Int) : '\n' ∉ intText i := by
  have hdigits (n : Nat) : '\n' ∉ Nat.toDigits 10 n :=
    fun h => absurd (isDigit_toDigits h) (by decide)
  unfold intText
  split
  · simp [hdigits]
  · exact hdigits _

end UdeSample.Lib
