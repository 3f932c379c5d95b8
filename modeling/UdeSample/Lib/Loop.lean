import Mathlib.Data.List.Basic

/-!
# Loops with a bound

`whileLoop cond body n` runs a `while` loop for at most `n` iterations and answers `none` when its
condition still holds then. `whileLoop_total` is the rule of total correctness: an invariant of the
iterations, and a variant that they lower and that bounds their number.

`doWhile body again n` runs a `do`-`while` loop whose body puts things out, in the same way;
`doWhile_none` is the rule of a loop that never ends.
-/

namespace UdeSample.Lib

universe u v

section While

variable {σ : Type u} {cond : σ → Bool} {body : σ → σ}

def whileLoop (cond : σ → Bool) (body : σ → σ) : Nat → σ → Option σ
  | 0, s => if cond s then none else some s
  | n + 1, s => if cond s then whileLoop cond body n (body s) else some s

theorem whileLoop_of_false {s : σ} (h : cond s = false) (n : Nat) :
    whileLoop cond body n s = some s := by
  cases n <;> simp [whileLoop, h]

theorem whileLoop_of_true {s : σ} (h : cond s = true) (n : Nat) :
    whileLoop cond body (n + 1) s = whileLoop cond body n (body s) := by
  simp [whileLoop, h]

/-- **Total correctness of a loop.** -/
theorem whileLoop_total (I : σ → Prop) (variant : σ → Nat)
    (hstep : ∀ s, I s → cond s = true → I (body s) ∧ variant (body s) < variant s) {s : σ}
    (hI : I s) {n : Nat} (hn : variant s ≤ n) :
    ∃ s', whileLoop cond body n s = some s' ∧ I s' ∧ cond s' = false := by
  induction n generalizing s with
  | zero =>
    cases hcond : cond s with
    | false => exact ⟨s, whileLoop_of_false hcond 0, hI, hcond⟩
    | true =>
      have hlt := (hstep s hI hcond).2
      omega
  | succ n ih =>
    cases hcond : cond s with
    | false => exact ⟨s, whileLoop_of_false hcond (n + 1), hI, hcond⟩
    | true =>
      obtain ⟨hI', hlt⟩ := hstep s hI hcond
      rw [whileLoop_of_true hcond]
      exact ih hI' (by omega)

end While

section DoWhile

variable {σ : Type u} {ω : Type v} {body : σ → σ × List ω} {again : σ → Bool}

def doWhile (body : σ → σ × List ω) (again : σ → Bool) : Nat → σ → Option (σ × List ω)
  | 0, _ => none
  | n + 1, s =>
    let (s', out) := body s
    if again s' then (doWhile body again n s').map fun (s'', rest) => (s'', out ++ rest)
    else some (s', out)

theorem doWhile_last {s : σ} (h : again (body s).1 = false) (n : Nat) :
    doWhile body again (n + 1) s = some (body s) := by
  simp [doWhile, h]

theorem doWhile_again {s : σ} (h : again (body s).1 = true) (n : Nat) :
    doWhile body again (n + 1) s =
      (doWhile body again n (body s).1).map fun (s', rest) => (s', (body s).2 ++ rest) := by
  simp [doWhile, h]

/-- **A loop that never ends**: an invariant under which the loop goes on. -/
theorem doWhile_none (I : σ → Prop) (hstep : ∀ s, I s → again (body s).1 = true ∧ I (body s).1)
    {s : σ} (hI : I s) (n : Nat) : doWhile body again n s = none := by
  induction n generalizing s with
  | zero => rfl
  | succ n ih =>
    obtain ⟨hagain, hI'⟩ := hstep s hI
    rw [doWhile_again hagain, ih hI', Option.map_none]

end DoWhile

end UdeSample.Lib
