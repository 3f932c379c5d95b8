import Mathlib.Data.List.Nodup

/-!
# Pipelines that keep the latest value

Values are numbered as they are produced and travel through the stages of a pipeline to a reader.
A stage may drop a value that a later one follows, and the reader may be given a value several
times. `Order n returned held` relates the numbers given to the reader and the numbers held in the
stages, the stage nearest to the reader first, after `n` values were produced: the reader never
goes back, everything held is newer, and the newest value is not lost.
-/

namespace UdeSample.Lib.LatestValue

/-- The numbers returned to the reader and held in the stages after `n` values. -/
structure Order (n : Nat) (returned held : List Nat) : Prop where
  returned_le : returned.Pairwise (· ≤ ·)
  held_lt : held.Pairwise (· < ·)
  newer : ∀ i ∈ returned, ∀ j ∈ held, i < j
  bound : ∀ i ∈ returned ++ held, i < n
  newest : ∀ m, n = m + 1 → m ∈ returned ++ held

namespace Order

variable {n : Nat} {returned held : List Nat}

theorem empty : Order 0 [] [] :=
  ⟨.nil, .nil, fun _ h => (nomatch h), fun _ h => (nomatch h), fun _ h => (nomatch h)⟩

/-- Everything produced is held. -/
theorem range (n : Nat) : Order n [] (List.range n) where
  returned_le := .nil
  held_lt := List.pairwise_lt_range
  newer _ hi := absurd hi List.not_mem_nil
  bound _ hi := List.mem_range.1 hi
  newest m hm := List.mem_range.2 (hm ▸ Nat.lt_succ_self m)

/-- A new value enters at the far end; others may be dropped. -/
theorem produce (h : Order n returned held) {kept : List Nat} (hkept : kept.Sublist held) :
    Order (n + 1) returned (kept ++ [n]) where
  returned_le := h.returned_le
  held_lt := by
    refine List.pairwise_append.2 ⟨h.held_lt.sublist hkept, List.pairwise_singleton _ _, ?_⟩
    intro i hi j hj
    rw [List.mem_singleton.1 hj]
    exact h.bound i (List.mem_append_right _ (hkept.subset hi))
  newer i hi j hj := by
    rcases List.mem_append.1 hj with hj | hj
    · exact h.newer i hi j (hkept.subset hj)
    · rw [List.mem_singleton.1 hj]
      exact h.bound i (List.mem_append_left _ hi)
  bound i hi := by
    rcases List.mem_append.1 hi with hi | hi
    · exact Nat.lt_succ_of_lt (h.bound i (List.mem_append_left _ hi))
    · rcases List.mem_append.1 hi with hi | hi
      · exact Nat.lt_succ_of_lt (h.bound i (List.mem_append_right _ (hkept.subset hi)))
      · rw [List.mem_singleton.1 hi]
        exact Nat.lt_succ_self n
  newest m hm := by
    obtain rfl : n = m := Nat.succ.inj hm
    simp

theorem supersede {dropped rest : List Nat} {i : Nat}
    (h : Order n returned (dropped ++ i :: rest)) : Order n returned (i :: rest) where
  returned_le := h.returned_le
  held_lt := (List.pairwise_append.1 h.held_lt).2.1
  newer j hj k hk := h.newer j hj k (List.mem_append_right _ hk)
  bound j hj := by
    refine h.bound j ?_
    rcases List.mem_append.1 hj with hj | hj
    · exact List.mem_append_left _ hj
    · exact List.mem_append_right _ (List.mem_append_right _ hj)
  newest m hm := by
    have hall := h.newest m hm
    simp only [List.mem_append] at hall ⊢
    rcases hall with hr | hd | hi
    · exact Or.inl hr
    · -- a dropped value is older than `i`, so it is not the newest one
      have hlt : m < i := (List.pairwise_append.1 h.held_lt).2.2 m hd i List.mem_cons_self
      have hbound := h.bound i (by simp)
      omega
    · exact Or.inr hi

theorem answer {rest answers : List Nat} {i : Nat} (h : Order n returned (i :: rest))
    (hanswers : ∀ j ∈ answers, j = i) (hne : answers ≠ []) :
    Order n (returned ++ answers) rest where
  returned_le := by
    refine List.pairwise_append.2 ⟨h.returned_le, ?_, fun j hj k hk => ?_⟩
    · apply List.pairwise_of_forall_mem_list
      intro j hj k hk
      exact Nat.le_of_eq ((hanswers j hj).trans (hanswers k hk).symm)
    · rw [hanswers k hk]
      exact Nat.le_of_lt (h.newer j hj i List.mem_cons_self)
  held_lt := (List.pairwise_cons.1 h.held_lt).2
  newer j hj k hk := by
    rcases List.mem_append.1 hj with hj | hj
    · exact h.newer j hj k (List.mem_cons_of_mem i hk)
    · rw [hanswers j hj]
      exact (List.pairwise_cons.1 h.held_lt).1 k hk
  bound j hj := by
    refine h.bound j ?_
    simp only [List.mem_append, List.mem_cons] at hj ⊢
    rcases hj with (hj | hj) | hj
    · exact Or.inl hj
    · exact Or.inr (Or.inl (hanswers j hj))
    · exact Or.inr (Or.inr hj)
  newest m hm := by
    have hall := h.newest m hm
    simp only [List.mem_append, List.mem_cons] at hall ⊢
    rcases hall with hr | rfl | hrest
    · exact Or.inl (Or.inl hr)
    · obtain ⟨j, hj⟩ := List.exists_mem_of_ne_nil answers hne
      exact Or.inl (Or.inr (hanswers j hj ▸ hj))
    · exact Or.inr hrest

/-- The newest value was returned, or is held in exactly one place, not both. -/
theorem newest_once {m : Nat} (h : Order (m + 1) returned held) :
    (m ∈ returned ∧ held.count m = 0) ∨ (m ∉ returned ∧ held.count m = 1) := by
  have hnodup : held.Nodup := h.held_lt.imp Nat.ne_of_lt
  by_cases hr : m ∈ returned
  · refine Or.inl ⟨hr, List.count_eq_zero.2 ?_⟩
    intro hh
    exact Nat.lt_irrefl m (h.newer m hr m hh)
  · have hh : m ∈ held := by
      rcases List.mem_append.1 (h.newest m rfl) with hm | hm
      · exact absurd hm hr
      · exact hm
    exact Or.inr ⟨hr, List.count_eq_one_of_mem hnodup hh⟩

end Order

end UdeSample.Lib.LatestValue
