import UdeSample.Lib.Store

/-!
# Owners of the objects of a store

`Ledger s owned freed` says that the live objects of `s` are those of `owned`, each owned once, and
that the deleted ones are those of `freed`, each freed once. An object that is created gets its
owner, one that is deleted loses it, so that a store with nothing owned has all its objects freed
(`Ledger.count_freed`).
-/

namespace UdeSample.Lib.Store

variable {α : Type}

/-- What is live is owned once, what is not was freed once. -/
structure Ledger (s : Store α) (owned freed : List Nat) : Prop where
  nodup : owned.Nodup
  mem : ∀ i, i ∈ owned ↔ ∃ a, s.get? i = some a
  freed : s.FreedOnce freed

/-- What the live objects hold, in the order of their handles. -/
def collect {β : Type} (f : α → Option β) (s : Store α) : List β := s.cells.filterMap (·.bind f)

section collect

variable {β : Type} {f : α → Option β} {s : Store α}

theorem collect_create (a : α) : (s.create a).collect f = s.collect f ++ (f a).toList := by
  rw [collect, create, List.filterMap_append]
  cases hfa : f a <;> simp [collect, hfa]

theorem cells_of_some {i : Nat} {a : α} (h : s.get? i = some a) :
    ∃ hi : i < s.cells.length, s.cells[i] = some a := by
  refine ⟨lt_next h, ?_⟩
  rwa [get?, List.getElem?_eq_getElem (lt_next h), Option.join_some] at h

theorem mem_collect {i : Nat} {a : α} {b : β} (h : s.get? i = some a) (hb : f a = some b) :
    b ∈ s.collect f := by
  obtain ⟨hi, hcell⟩ := cells_of_some h
  refine List.mem_filterMap.2 ⟨some a, ?_, hb⟩
  rw [← hcell]
  exact List.getElem_mem hi

theorem collect_eq_nil (h : ∀ i, s.get? i = none) : s.collect f = [] := by
  rw [collect, List.filterMap_eq_nil_iff]
  intro cell hcell
  obtain ⟨i, hi, rfl⟩ := List.getElem_of_mem hcell
  have hnone := h i
  rw [get?, List.getElem?_eq_getElem hi, Option.join_some] at hnone
  rw [hnone, Option.bind_none]

/-- One object apart from the others, which neither an update nor a deletion of it touches. -/
theorem exists_collect_perm {i : Nat} {a : α} (h : s.get? i = some a) (f : α → Option β) :
    ∃ rest, (s.collect f).Perm ((f a).toList ++ rest) ∧
      (∀ b, ((s.update i b).collect f).Perm ((f b).toList ++ rest)) ∧
      ((s.delete i).collect f).Perm rest := by
  obtain ⟨hi, hcell⟩ := cells_of_some h
  let before := (s.cells.take i).filterMap (·.bind f)
  let after := (s.cells.drop (i + 1)).filterMap (·.bind f)
  have hset : ∀ cell : Option α, ((s.cells.set i cell).filterMap (·.bind f)).Perm
      ((cell.bind f).toList ++ (before ++ after)) := by
    intro cell
    rw [List.set_eq_take_append_cons_drop, if_pos hi, List.filterMap_append, List.filterMap_cons]
    cases cell.bind f with
    | none => exact List.Perm.refl _
    | some b => exact List.perm_middle
  refine ⟨before ++ after, ?_, fun b => hset (some b), hset none⟩
  have hself := hset (some a)
  rwa [← hcell, List.set_getElem_self hi, hcell] at hself

/-- An update takes what the object held for what it holds then. -/
theorem collect_update {i : Nat} {a : α} (h : s.get? i = some a) (f : α → Option β) (b : α) :
    ((s.update i b).collect f ++ (f a).toList).Perm ((f b).toList ++ s.collect f) := by
  obtain ⟨rest, hself, hupdate, -⟩ := exists_collect_perm h f
  have hrest : (rest ++ (f a).toList).Perm (s.collect f) :=
    List.perm_append_comm.trans hself.symm
  refine ((hupdate b).append_right _).trans ?_
  rw [List.append_assoc]
  exact hrest.append_left _

theorem collect_update_of_eq {i : Nat} {a : α} (h : s.get? i = some a) (f : α → Option β) (b : α)
    (hb : f b = f a) : ((s.update i b).collect f).Perm (s.collect f) := by
  have hperm := (collect_update h f b).trans List.perm_append_comm
  rw [hb] at hperm
  exact (List.perm_append_right_iff _).1 hperm

theorem collect_delete {i : Nat} {a : α} (h : s.get? i = some a) (f : α → Option β) :
    (s.collect f).Perm ((f a).toList ++ (s.delete i).collect f) := by
  obtain ⟨rest, hself, -, hdelete⟩ := exists_collect_perm h f
  exact hself.trans (hdelete.symm.append_left _)

end collect

/-- The objects of a list of handles, deleted one after another. -/
def deleteAll (s : Store α) (l : List Nat) : Store α := l.foldl delete s

theorem map_deleteAll {γ : Type} (f : α → γ) (s : Store α) (l : List Nat) :
    (s.deleteAll l).map f = (s.map f).deleteAll l := by
  induction l generalizing s with
  | nil => rfl
  | cons i l ih => exact (ih (s.delete i)).trans (by rw [map_delete]; rfl)

namespace Ledger

variable {s : Store α} {owned freed : List Nat}

theorem empty : Ledger (empty : Store α) [] [] :=
  ⟨.nil, fun _ => ⟨nofun, nofun⟩, FreedOnce.empty⟩

theorem perm {owned' : List Nat} (h : Ledger s owned freed) (hp : owned.Perm owned') :
    Ledger s owned' freed :=
  ⟨hp.nodup_iff.1 h.nodup, fun i => hp.mem_iff.symm.trans (h.mem i), h.freed⟩

theorem create (h : Ledger s owned freed) (a : α) :
    Ledger (s.create a) (s.next :: owned) freed := by
  refine ⟨List.nodup_cons.2 ⟨?_, h.nodup⟩, ?_, h.freed.create a⟩
  · intro hmem
    obtain ⟨b, hb⟩ := (h.mem s.next).1 hmem
    rw [get?_next] at hb
    cases hb
  · intro i
    rw [get?_create, List.mem_cons]
    by_cases hi : i = s.next
    · simp [hi]
    · simp [hi, h.mem i]

theorem update (h : Ledger s owned freed) {i : Nat} {b : α} (hi : s.get? i = some b) (a : α) :
    Ledger (s.update i a) owned freed := by
  refine ⟨h.nodup, ?_, h.freed.update hi a⟩
  intro j
  rw [h.mem j, get?_update hi]
  by_cases hj : j = i
  · simp [hj, hi]
  · rw [if_neg hj]

theorem delete {i : Nat} (h : Ledger s (i :: owned) freed) :
    Ledger (s.delete i) owned (freed ++ [i]) := by
  obtain ⟨a, hi⟩ := (h.mem i).1 List.mem_cons_self
  obtain ⟨hnot, hnodup⟩ := List.nodup_cons.1 h.nodup
  refine ⟨hnodup, ?_, h.freed.delete hi⟩
  intro j
  rw [get?_delete]
  by_cases hj : j = i
  · subst hj
    simp [hnot]
  · rw [if_neg hj, ← h.mem j, List.mem_cons, or_iff_right hj]

theorem deleteAll {l : List Nat} (h : Ledger s (l ++ owned) freed) :
    Ledger (s.deleteAll l) owned (freed ++ l) := by
  induction l generalizing s freed with
  | nil =>
    rw [List.append_nil]
    exact h
  | cons i l ih =>
    have hrest := ih h.delete
    rw [List.append_assoc, List.singleton_append] at hrest
    exact hrest

/-- With nothing left, every object was freed once. -/
theorem count_freed (h : Ledger s [] freed) (i : Nat) :
    freed.count i = if i < s.next then 1 else 0 := by
  have hnone : s.get? i = none := by
    cases hi : s.get? i with
    | none => rfl
    | some a => exact absurd ((h.mem i).2 ⟨a, hi⟩) List.not_mem_nil
  rw [h.freed i]
  simp [hnone]

end Ledger

end UdeSample.Lib.Store
