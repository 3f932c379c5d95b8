import Mathlib.Data.List.TakeWhile

/-!
# Strings in character arrays

A string is what a sequence of characters holds before its first NUL. A `CharBuffer` is an array
with room for `n` characters and a NUL. Each operation has one lemma that gives the string of the
array after it; what lies behind the NUL never matters.
-/

namespace UdeSample.Lib

variable {α : Type} [Zero α] [DecidableEq α]

/-- The characters before the first NUL. -/
def cstring (bs : List α) : List α := bs.takeWhile (· ≠ 0)

theorem ne_zero_of_mem_cstring {bs : List α} {a : α} (h : a ∈ cstring bs) : a ≠ 0 := by
  have hdec := List.mem_takeWhile_imp h
  exact of_decide_eq_true hdec

theorem cstring_take (bs : List α) (k : Nat) : cstring (bs.take k) = (cstring bs).take k :=
  List.take_takeWhile.symm

theorem cstring_append_zero {xs : List α} (hxs : ∀ a ∈ xs, a ≠ 0) (ys : List α) :
    cstring (xs ++ 0 :: ys) = xs := by
  rw [cstring, List.takeWhile_append_of_pos fun a ha => decide_eq_true (hxs a ha),
    List.takeWhile_cons_of_neg (by simp), List.append_nil]

theorem cstring_append_of_mem {xs : List α} (h : 0 ∈ xs) (ys : List α) :
    cstring (xs ++ ys) = cstring xs := by
  rw [cstring, List.takeWhile_append, if_neg]
  · rfl
  · intro hlen
    have hall := List.takeWhile_eq_self_iff.1 ((List.takeWhile_prefix _).eq_of_length hlen)
    exact absurd rfl (of_decide_eq_true (hall 0 h))

theorem cstring_concat_zero (xs : List α) : cstring (xs ++ [0]) = cstring xs := by
  by_cases h : 0 ∈ xs
  · exact cstring_append_of_mem h [0]
  · have hxs : ∀ a ∈ xs, a ≠ 0 := fun a ha h0 => h (h0 ▸ ha)
    rw [cstring_append_zero hxs, cstring,
      List.takeWhile_eq_self_iff.2 fun a ha => decide_eq_true (hxs a ha)]

/-- A character array with room for a string of length `n`. -/
structure CharBuffer (α : Type) (n : Nat) where
  chars : List α
  size_eq : chars.length = n + 1
deriving DecidableEq

namespace CharBuffer

variable {n : Nat}

def string (b : CharBuffer α n) : List α := cstring b.chars

def read (b : CharBuffer α n) (bs : List α) : CharBuffer α n where
  chars := bs.take (n + 1) ++ b.chars.drop bs.length
  size_eq := by
    rw [List.length_append, List.length_take, List.length_drop, b.size_eq]
    omega

def terminate (b : CharBuffer α n) : CharBuffer α n where
  chars := b.chars.take n ++ [0]
  size_eq := by
    rw [List.length_append, List.length_take, b.size_eq]
    simp

/-- Appends as much of a string as there is room for. -/
def append (b : CharBuffer α n) (s : List α) : CharBuffer α n :=
  b.read (b.string ++ s.take (n - b.string.length) ++ [0])

theorem string_read (b : CharBuffer α n) (bs : List α) :
    (b.read bs).string = cstring (bs.take (n + 1) ++ b.chars.drop bs.length) := rfl

theorem string_terminate (b : CharBuffer α n) : b.terminate.string = b.string.take n := by
  rw [string, terminate, cstring_concat_zero, cstring_take]
  rfl

/-- An array that was filled up to its last place, or read a NUL, and was then terminated holds what
it read. -/
theorem string_terminate_read (b : CharBuffer α n) {bs : List α}
    (hbs : 0 ∈ bs ∨ n ≤ bs.length) : (b.read bs).terminate.string = (cstring bs).take n := by
  rw [string_terminate, string_read]
  by_cases hlen : n ≤ bs.length
  · rw [← cstring_take, List.take_append_of_le_length (by rw [List.length_take]; omega),
      List.take_take, Nat.min_eq_left (Nat.le_succ n), cstring_take]
  · have hfull : bs.take (n + 1) = bs := List.take_of_length_le (by omega)
    rw [hfull, cstring_append_of_mem (hbs.resolve_right hlen)]

/-- Behind a string that does not end, an array that was then terminated shows what it held. -/
theorem string_terminate_read_of_not_mem (b : CharBuffer α n) {bs : List α} (hnul : 0 ∉ bs)
    (hlen : bs.length ≤ n) :
    (b.read bs).terminate.string = (bs ++ cstring (b.chars.drop bs.length)).take n := by
  have hfull : bs.take (n + 1) = bs := List.take_of_length_le (by omega)
  have hpos : ∀ a ∈ bs, (fun a : α => decide (a ≠ 0)) a = true :=
    fun a ha => decide_eq_true fun h => hnul (h ▸ ha)
  rw [string_terminate, string_read, hfull, cstring, List.takeWhile_append_of_pos hpos]
  rfl

/-- As much of a string as there is room for, written with its NUL. -/
theorem string_read_take (b : CharBuffer α n) {s : List α} (hs : ∀ a ∈ s, a ≠ 0) :
    (b.read (s.take n ++ [0])).string = s.take n := by
  have hlen : (s.take n ++ [0]).length ≤ n + 1 := by
    rw [List.length_append, List.length_take, List.length_singleton]
    omega
  rw [string_read, List.take_of_length_le hlen, List.append_assoc, List.singleton_append]
  exact cstring_append_zero (fun a ha => hs a (List.mem_of_mem_take ha)) _

theorem string_append {b : CharBuffer α n} (hb : b.string.length ≤ n) {s : List α}
    (hs : ∀ a ∈ s, a ≠ 0) :
    (b.append s).string = b.string ++ s.take (n - b.string.length) := by
  have hlen : (b.string ++ s.take (n - b.string.length) ++ [0]).length ≤ n + 1 := by
    simp only [List.length_append, List.length_take, List.length_singleton]
    omega
  rw [append, string_read, List.take_of_length_le hlen, List.append_assoc, List.singleton_append]
  refine cstring_append_zero ?_ _
  intro a ha
  rcases List.mem_append.1 ha with ha | ha
  · exact ne_zero_of_mem_cstring ha
  · exact hs a (List.mem_of_mem_take ha)

end CharBuffer

end UdeSample.Lib
