import Mathlib.Data.List.Basic

/-!
# Items laid one after another

`placed size off items` pairs each item with the offset it begins at when the items lie one after
another from `off` on, and `placedEnd` is where they end. `Holds mem off values` says that a memory
has the values from `off` on. `holds_flatMap` ties the two: a memory holds the encodings of the
items one after another exactly when it holds each at its own offset.
-/

namespace UdeSample.Lib

universe u v

variable {α : Type u} {β : Type v}

def placed (size : α → Nat) : Nat → List α → List (Nat × α)
  | _, [] => []
  | off, a :: as => (off, a) :: placed size (off + size a) as

def placedEnd (size : α → Nat) : Nat → List α → Nat
  | off, [] => off
  | off, a :: as => placedEnd size (off + size a) as

@[simp] theorem placed_nil (size : α → Nat) (off : Nat) : placed size off [] = [] := rfl

@[simp] theorem placed_cons (size : α → Nat) (off : Nat) (a : α) (as : List α) :
    placed size off (a :: as) = (off, a) :: placed size (off + size a) as := rfl

@[simp] theorem placedEnd_nil (size : α → Nat) (off : Nat) : placedEnd size off [] = off := rfl

@[simp] theorem placedEnd_cons (size : α → Nat) (off : Nat) (a : α) (as : List α) :
    placedEnd size off (a :: as) = placedEnd size (off + size a) as := rfl

theorem placedEnd_add (size : α → Nat) (d off : Nat) (items : List α) :
    placedEnd size (d + off) items = d + placedEnd size off items := by
  induction items generalizing off with
  | nil => rfl
  | cons a as ih => rw [placedEnd_cons, Nat.add_assoc, ih, placedEnd_cons]

theorem le_placedEnd (size : α → Nat) (off : Nat) (items : List α) :
    off ≤ placedEnd size off items := by
  induction items generalizing off with
  | nil => exact Nat.le_refl off
  | cons a as ih => exact Nat.le_trans (Nat.le_add_right off _) (ih _)

/-- Encodings end where their length says. -/
theorem placedEnd_length (encode : α → List β) (off : Nat) (items : List α) :
    placedEnd (fun a => (encode a).length) off items = off + (items.flatMap encode).length := by
  induction items generalizing off with
  | nil => rfl
  | cons a as ih =>
    rw [placedEnd_cons, ih, List.flatMap_cons, List.length_append, Nat.add_assoc]

def Holds (mem : Nat → β) (off : Nat) (values : List β) : Prop :=
  ∀ i v, values[i]? = some v → mem (off + i) = v

theorem holds_nil (mem : Nat → β) (off : Nat) : Holds mem off [] := by
  intro i v h
  cases h

theorem holds_cons {mem : Nat → β} {off : Nat} {v : β} {vs : List β} :
    Holds mem off (v :: vs) ↔ mem off = v ∧ Holds mem (off + 1) vs := by
  constructor
  · intro h
    refine ⟨h 0 v rfl, ?_⟩
    intro i v' hv
    rw [Nat.add_assoc, Nat.add_comm 1]
    exact h (i + 1) v' hv
  · rintro ⟨hv, hvs⟩ i v' hv'
    cases i with
    | zero => exact hv.trans (Option.some.inj hv')
    | succ i =>
      rw [Nat.add_comm i, ← Nat.add_assoc]
      exact hvs i v' hv'

theorem holds_append {mem : Nat → β} {off : Nat} {vs vs' : List β} :
    Holds mem off (vs ++ vs') ↔ Holds mem off vs ∧ Holds mem (off + vs.length) vs' := by
  induction vs generalizing off with
  | nil => simp [holds_nil]
  | cons v vs ih =>
    rw [List.cons_append, holds_cons, holds_cons, ih, and_assoc, List.length_cons,
      Nat.add_comm vs.length, Nat.add_assoc]

/-- **Each at its own offset.** -/
theorem holds_flatMap {mem : Nat → β} {encode : α → List β} {off : Nat} {items : List α} :
    Holds mem off (items.flatMap encode) ↔
      ∀ p ∈ placed (fun a => (encode a).length) off items, Holds mem p.1 (encode p.2) := by
  induction items generalizing off with
  | nil => simp [holds_nil]
  | cons a as ih =>
    rw [List.flatMap_cons, holds_append, ih, placed_cons, List.forall_mem_cons]

end UdeSample.Lib
