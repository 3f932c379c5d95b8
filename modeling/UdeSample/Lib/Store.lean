import Mathlib.Data.List.Basic

/-!
# Objects behind handles

Objects are created one after another and may be deleted; a handle is the number of an object. The
handle of a deleted object is never given out again, so `get?` tells whether a handle is still good.
`free?` is the deletion that must not meet a bad handle; `FreedOnce` says of the handles freed so
far that they are those of the deleted objects, each of them once.
-/

namespace UdeSample.Lib

/-- The objects created so far; `none` for the deleted ones. -/
structure Store (α : Type) where
  cells : List (Option α)

namespace Store

variable {α : Type}

def empty : Store α := ⟨[]⟩

def get? (s : Store α) (i : Nat) : Option α := s.cells[i]?.join

def next (s : Store α) : Nat := s.cells.length

def create (s : Store α) (a : α) : Store α := ⟨s.cells ++ [some a]⟩

def update (s : Store α) (i : Nat) (a : α) : Store α := ⟨s.cells.set i (some a)⟩

def delete (s : Store α) (i : Nat) : Store α := ⟨s.cells.set i none⟩

theorem lt_next {s : Store α} {i : Nat} {a : α} (h : s.get? i = some a) : i < s.next := by
  by_contra hle
  rw [get?, List.getElem?_eq_none (Nat.le_of_not_lt hle)] at h
  cases h

theorem get?_create (s : Store α) (a : α) (i : Nat) :
    (s.create a).get? i = if i = s.next then some a else s.get? i := by
  unfold get? create next
  rcases Nat.lt_trichotomy i s.cells.length with hlt | rfl | hgt
  · rw [List.getElem?_append_left hlt, if_neg (Nat.ne_of_lt hlt)]
  · simp
  · rw [List.getElem?_eq_none, List.getElem?_eq_none (Nat.le_of_lt hgt),
      if_neg (Nat.ne_of_gt hgt)]
    rw [List.length_append, List.length_singleton]
    exact hgt

theorem get?_create_of_some {s : Store α} {i : Nat} {b : α} (h : s.get? i = some b) (a : α) :
    (s.create a).get? i = some b := by
  rw [get?_create, if_neg (Nat.ne_of_lt (lt_next h)), h]

theorem get?_update {s : Store α} {i : Nat} {b : α} (h : s.get? i = some b) (a : α) (j : Nat) :
    (s.update i a).get? j = if j = i then some a else s.get? j := by
  have hi : i < s.cells.length := lt_next h
  unfold get? update
  rw [List.getElem?_set]
  by_cases hj : j = i
  · subst hj
    simp [hi]
  · simp [hj, Ne.symm hj]

theorem get?_delete (s : Store α) (i j : Nat) :
    (s.delete i).get? j = if j = i then none else s.get? j := by
  unfold get? delete
  rw [List.getElem?_set]
  by_cases hj : j = i
  · subst hj
    by_cases hi : j < s.cells.length <;> simp [hi]
  · simp [hj, Ne.symm hj]

@[simp] theorem next_create (s : Store α) (a : α) : (s.create a).next = s.next + 1 := by
  simp [next, create]

@[simp] theorem next_update (s : Store α) (i : Nat) (a : α) : (s.update i a).next = s.next := by
  simp [next, update]

@[simp] theorem next_delete (s : Store α) (i : Nat) : (s.delete i).next = s.next := by
  simp [next, delete]

theorem get?_of_next_le {s : Store α} {i : Nat} (h : s.next ≤ i) : s.get? i = none := by
  cases hi : s.get? i with
  | none => rfl
  | some a => exact absurd (lt_next hi) (Nat.not_lt.2 h)

@[simp] theorem get?_next (s : Store α) : s.get? s.next = none := get?_of_next_le (Nat.le_refl _)

/-- What was created after the first `n` objects, without what was deleted of it. -/
def since (s : Store α) (n : Nat) : List (Option α) := s.cells.drop n

@[simp] theorem since_next (s : Store α) : s.since s.next = [] := List.drop_length

theorem since_create {s : Store α} {n : Nat} (h : n ≤ s.next) (a : α) :
    (s.create a).since n = s.since n ++ [some a] :=
  List.drop_append_of_le_length h

theorem since_update {s : Store α} {i n : Nat} (h : i < n) (a : α) :
    (s.update i a).since n = s.since n :=
  List.drop_set_of_lt h

/-- The same handles, with what is seen of the objects behind them. -/
def map {γ : Type} (f : α → γ) (s : Store α) : Store γ := ⟨s.cells.map (Option.map f)⟩

@[simp] theorem get?_map {γ : Type} (f : α → γ) (s : Store α) (i : Nat) :
    (s.map f).get? i = (s.get? i).map f := by
  unfold get? map
  rw [List.getElem?_map]
  cases s.cells[i]? <;> rfl

@[simp] theorem next_map {γ : Type} (f : α → γ) (s : Store α) : (s.map f).next = s.next := by
  simp [next, map]

@[simp] theorem map_create {γ : Type} (f : α → γ) (s : Store α) (a : α) :
    (s.create a).map f = (s.map f).create (f a) := by
  simp [create, map]

@[simp] theorem map_delete {γ : Type} (f : α → γ) (s : Store α) (i : Nat) :
    (s.delete i).map f = (s.map f).delete i := by
  simp [delete, map]

/-- Deletion that fails on a handle that is not good. -/
def free? (s : Store α) (i : Nat) : Option (Store α) := (s.get? i).map fun _ => s.delete i

theorem free?_eq_some {s s' : Store α} {i : Nat} :
    s.free? i = some s' ↔ (∃ a, s.get? i = some a) ∧ s' = s.delete i := by
  unfold free?
  cases s.get? i <;> simp [eq_comm]

theorem free?_of_some {s : Store α} {i : Nat} {a : α} (h : s.get? i = some a) :
    s.free? i = some (s.delete i) :=
  free?_eq_some.2 ⟨⟨a, h⟩, rfl⟩

/-- The handles freed so far are those of the deleted objects, each of them once. -/
def FreedOnce (s : Store α) (freed : List Nat) : Prop :=
  ∀ i, freed.count i = if i < s.next ∧ s.get? i = none then 1 else 0

namespace FreedOnce

variable {s : Store α} {freed : List Nat}

theorem empty : FreedOnce (empty : Store α) [] := fun _ => rfl

theorem create (h : s.FreedOnce freed) (a : α) : (s.create a).FreedOnce freed := by
  intro i
  rw [h i, get?_create, next_create]
  by_cases hi : i = s.next
  · simp [hi]
  · have hlt : i < s.next + 1 ↔ i < s.next := by omega
    simp [hi, hlt]

theorem update (h : s.FreedOnce freed) {i : Nat} {b : α} (hi : s.get? i = some b) (a : α) :
    (s.update i a).FreedOnce freed := by
  intro j
  rw [h j, get?_update hi, next_update]
  by_cases hj : j = i
  · simp [hj, hi]
  · simp [hj]

theorem delete (h : s.FreedOnce freed) {i : Nat} {b : α} (hi : s.get? i = some b) :
    (s.delete i).FreedOnce (freed ++ [i]) := by
  intro j
  rw [List.count_append, h j, get?_delete, next_delete]
  by_cases hj : j = i
  · subst hj
    simp [hi, lt_next hi]
  · simp [hj, Ne.symm hj]

/-- A good handle was not freed. -/
theorem count_of_some (h : s.FreedOnce freed) {i : Nat} {a : α} (hi : s.get? i = some a) :
    freed.count i = 0 := by
  rw [h i, if_neg (by simp [hi])]

theorem count_of_none (h : s.FreedOnce freed) {i : Nat} (hlt : i < s.next)
    (hi : s.get? i = none) : freed.count i = 1 := by
  rw [h i, if_pos ⟨hlt, hi⟩]

end FreedOnce

end Store

end UdeSample.Lib
