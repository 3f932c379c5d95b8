import UdeSample.Lib.CString

/-!
# Lists of strings in character arrays

`multiString` puts strings one behind another, each with its NUL, and one more NUL at the end. In an
array that holds such a list and is zero behind it, the first string is the first of the list
(`cstring_multiString`), and the character behind its NUL tells whether there is another
(`multiString_second`).
-/

namespace UdeSample.Lib

variable {α : Type} [Zero α]

def multiString (ss : List (List α)) : List α := ss.flatMap (· ++ [0]) ++ [0]

/-- What can stand in a list of strings: an empty string would end it. -/
def IsEntry (s : List α) : Prop := s ≠ [] ∧ ∀ a ∈ s, a ≠ 0

@[simp] theorem multiString_nil : multiString ([] : List (List α)) = [0] := rfl

@[simp] theorem multiString_cons (s : List α) (ss : List (List α)) :
    multiString (s :: ss) = s ++ 0 :: multiString ss := by
  simp [multiString]

theorem zero_mem_multiString (ss : List (List α)) : 0 ∈ multiString ss :=
  List.mem_append_right _ List.mem_cons_self

/-- Only the empty list takes one character. -/
theorem one_lt_length_multiString {ss : List (List α)} (hss : ∀ s ∈ ss, IsEntry s) :
    1 < (multiString ss).length ↔ ss ≠ [] := by
  cases ss with
  | nil => simp
  | cons s ss =>
    have hpos := List.length_pos_iff.2 (hss s List.mem_cons_self).1
    have hrest := List.length_pos_of_mem (zero_mem_multiString ss)
    simp only [multiString_cons, List.length_append, List.length_cons, ne_eq, reduceCtorEq,
      not_false_eq_true, iff_true]
    omega

theorem head_multiString_ne_zero {ss : List (List α)} (hss : ∀ s ∈ ss, IsEntry s) {c : α}
    (hc : (multiString ss).head? = some c) : c ≠ 0 ↔ ss ≠ [] := by
  cases ss with
  | nil =>
    obtain rfl := Option.some.inj hc
    exact iff_of_false (fun h => h rfl) (fun h => h rfl)
  | cons s ss =>
    obtain ⟨hne, hzero⟩ := hss s List.mem_cons_self
    obtain ⟨a, s, rfl⟩ := List.exists_cons_of_ne_nil hne
    obtain rfl : a = c := Option.some.inj hc
    exact iff_of_true (hzero a List.mem_cons_self) (List.cons_ne_nil _ _)

section

variable [DecidableEq α]

theorem cstring_multiString {ss : List (List α)} (hss : ∀ s ∈ ss, IsEntry s) (k : Nat) :
    cstring (multiString ss ++ List.replicate k 0) = ss.head?.getD [] := by
  cases ss with
  | nil => exact cstring_append_zero (fun _ h => absurd h List.not_mem_nil) _
  | cons s ss =>
    rw [multiString_cons, List.append_assoc, List.cons_append]
    exact cstring_append_zero (hss s List.mem_cons_self).2 _

/-- Behind the first string there is a character left, if the array has two. -/
theorem multiString_second {ss : List (List α)} (hss : ∀ s ∈ ss, IsEntry s) {k : Nat}
    (hlen : 2 ≤ (multiString ss ++ List.replicate k 0).length) :
    ∃ c, (multiString ss ++ List.replicate k 0)[
        (cstring (multiString ss ++ List.replicate k 0)).length + 1]? = some c ∧
      (c ≠ 0 ↔ 2 ≤ ss.length) := by
  rw [cstring_multiString hss]
  cases ss with
  | nil =>
    obtain ⟨k, rfl⟩ : ∃ j, k = j + 1 := by
      refine ⟨k - 1, ?_⟩
      simp only [multiString_nil, List.length_append, List.length_singleton,
        List.length_replicate] at hlen
      omega
    exact ⟨0, rfl, by simp⟩
  | cons s ss =>
    have hrest : ∀ s ∈ ss, IsEntry s := fun t ht => hss t (List.mem_cons_of_mem s ht)
    obtain ⟨c, tail, hc⟩ := List.exists_cons_of_ne_nil
      (List.ne_nil_of_mem (zero_mem_multiString ss))
    have hhead := head_multiString_ne_zero hrest (c := c) (by rw [hc]; rfl)
    refine ⟨c, ?_, ?_⟩
    · simp [hc]
    · rw [hhead, List.length_cons, ← List.length_pos_iff]
      omega

end

end UdeSample.Lib
