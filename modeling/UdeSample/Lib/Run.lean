import Mathlib.Data.List.Induction

/-!
# Runs of a partial step function

A system is a step function `σ → ε → Option σ`: an event is taken, or it is refused (`none`).
`run` iterates it over a list of events, `logged` collects what the steps put out, `Along C` says
that every step of a run meets a condition on the state before it and the event. The induction
rules add one event at the end, so that an invariant may speak about the whole history of the run
(`run_invariant`), possibly under a condition on the steps (`run_invariant_along`); `run_simulates`
compares the runs of two systems.
-/

namespace UdeSample.Lib

universe u v w

variable {σ : Type u} {ε : Type v}

/-- The state after a list of events, if every event is accepted. -/
def run (step : σ → ε → Option σ) : σ → List ε → Option σ
  | s, [] => some s
  | s, e :: t => (step s e).bind fun s' => run step s' t

/-- Every step of the run from `s` along the events meets `C`. -/
def Along (C : σ → ε → Prop) (step : σ → ε → Option σ) : σ → List ε → Prop
  | _, [] => True
  | s, e :: t => C s e ∧ ∀ s', step s e = some s' → Along C step s' t

instance decidableAlong (C : σ → ε → Prop) [∀ s e, Decidable (C s e)]
    (step : σ → ε → Option σ) : ∀ s t, Decidable (Along C step s t)
  | _, [] => isTrue trivial
  | s, e :: t =>
    have : Decidable (∀ s', step s e = some s' → Along C step s' t) :=
      match step s e with
      | none => isTrue fun _ h => nomatch h
      | some s₁ =>
        match decidableAlong C step s₁ t with
        | isTrue h => isTrue fun _ h' => Option.some.inj h' ▸ h
        | isFalse h => isFalse fun h' => h (h' s₁ rfl)
    inferInstanceAs (Decidable (_ ∧ _))

/-- A step function with outputs, as one that collects them. -/
def logged {ω : Type w} (step : σ → ε → Option (σ × List ω)) :
    σ × List ω → ε → Option (σ × List ω)
  | (s, log), e => (step s e).map fun (s', out) => (s', log ++ out)

theorem logged_eq_some {ω : Type w} {step : σ → ε → Option (σ × List ω)} {p p' : σ × List ω}
    {e : ε} : logged step p e = some p' ↔
      ∃ out, step p.1 e = some (p'.1, out) ∧ p'.2 = p.2 ++ out := by
  obtain ⟨s, log⟩ := p
  obtain ⟨s', log'⟩ := p'
  simp only [logged, Option.map_eq_some_iff, Prod.mk.injEq, Prod.exists]
  constructor
  · rintro ⟨s₁, out, hstep, rfl, rfl⟩
    exact ⟨out, hstep, rfl⟩
  · rintro ⟨out, hstep, rfl⟩
    exact ⟨s', out, hstep, rfl, rfl⟩

variable {step : σ → ε → Option σ} {C : σ → ε → Prop}

@[simp] theorem run_nil (s : σ) : run step s [] = some s := rfl

@[simp] theorem run_cons (s : σ) (e : ε) (t : List ε) :
    run step s (e :: t) = (step s e).bind fun s' => run step s' t := rfl

theorem run_append (s : σ) (t₁ t₂ : List ε) :
    run step s (t₁ ++ t₂) = (run step s t₁).bind fun s' => run step s' t₂ := by
  induction t₁ generalizing s with
  | nil => rfl
  | cons e t ih =>
    simp only [List.cons_append, run_cons]
    cases step s e with
    | none => rfl
    | some s' => exact ih s'

theorem run_concat {s s' : σ} {t : List ε} {e : ε} :
    run step s (t ++ [e]) = some s' ↔ ∃ s₁, run step s t = some s₁ ∧ step s₁ e = some s' := by
  rw [run_append]
  cases run step s t with
  | none => simp
  | some s₁ => cases h : step s₁ e <;> simp [h]

theorem run_map {δ : Type w} (f : δ → ε) (s : σ) (t : List δ) :
    run step s (t.map f) = run (fun s e => step s (f e)) s t := by
  induction t generalizing s with
  | nil => rfl
  | cons e t ih =>
    rw [List.map_cons, run_cons, run_cons]
    exact congrArg _ (funext ih)

/-- **The simulation rule**: when related states stay related by a step and a step of the other
system for the same event, a run has a run of the other system from every related state. -/
theorem run_simulates {τ : Type w} {step' : τ → ε → Option τ} {R : σ → τ → Prop}
    (hstep : ∀ s v e s', R s v → step s e = some s' → ∃ v', step' v e = some v' ∧ R s' v')
    {s s' : σ} {v : τ} {t : List ε} (h : R s v) (hrun : run step s t = some s') :
    ∃ v', run step' v t = some v' ∧ R s' v' := by
  induction t generalizing s v with
  | nil =>
    obtain rfl := Option.some.inj hrun
    exact ⟨v, rfl, h⟩
  | cons e t ih =>
    obtain ⟨s₁, hfirst, hrest⟩ := Option.bind_eq_some_iff.1 hrun
    obtain ⟨v₁, hfirst', h₁⟩ := hstep s v e s₁ h hfirst
    obtain ⟨v', hrest', h'⟩ := ih h₁ hrest
    refine ⟨v', ?_, h'⟩
    rw [run_cons, hfirst', Option.bind_some, hrest']

theorem along_append {s s₁ : σ} {t₁ t₂ : List ε} (h : run step s t₁ = some s₁) :
    Along C step s (t₁ ++ t₂) ↔ Along C step s t₁ ∧ Along C step s₁ t₂ := by
  induction t₁ generalizing s with
  | nil =>
    cases h
    exact ⟨fun h => ⟨trivial, h⟩, fun h => h.2⟩
  | cons e t ih =>
    cases hs : step s e with
    | none => simp [hs] at h
    | some s' =>
      have hrest : run step s' t = some s₁ := by simpa [hs] using h
      simp only [List.cons_append, Along, hs, Option.some.injEq, forall_eq', ih hrest, and_assoc]

theorem along_of_events {t : List ε} (h : ∀ e ∈ t, ∀ s, C s e) (s : σ) : Along C step s t := by
  induction t generalizing s with
  | nil => trivial
  | cons e t ih =>
    exact ⟨h e List.mem_cons_self s, fun s' _ =>
      ih (fun e' he' => h e' (List.mem_cons_of_mem e he')) s'⟩

theorem Along.mono {D : σ → ε → Prop} (hCD : ∀ s e, C s e → D s e) {s : σ} {t : List ε}
    (h : Along C step s t) : Along D step s t := by
  induction t generalizing s with
  | nil => trivial
  | cons e t ih => exact ⟨hCD s e h.1, fun s' hs => ih (h.2 s' hs)⟩

theorem Along.and {D : σ → ε → Prop} {s : σ} {t : List ε} (hC : Along C step s t)
    (hD : Along D step s t) : Along (fun s e => C s e ∧ D s e) step s t := by
  induction t generalizing s with
  | nil => trivial
  | cons e t ih => exact ⟨⟨hC.1, hD.1⟩, fun s' hs => ih (hC.2 s' hs) (hD.2 s' hs)⟩

/-- A condition on the states does not depend on what was put out before. -/
theorem along_logged {ω : Type w} {step : σ → ε → Option (σ × List ω)} {s : σ} {log : List ω}
    {t : List ε} (h : Along (fun p e => C p.1 e) (logged step) (s, log) t) (log' : List ω) :
    Along (fun p e => C p.1 e) (logged step) (s, log') t := by
  induction t generalizing s log log' with
  | nil => trivial
  | cons e t ih =>
    refine ⟨h.1, ?_⟩
    rintro ⟨s', log₁⟩ hstep
    obtain ⟨out, hout, -⟩ := logged_eq_some.1 hstep
    exact ih (h.2 (s', log ++ out) (logged_eq_some.2 ⟨out, hout, rfl⟩)) log₁

/-- Two conditions that agree in every state meeting an invariant of the steps that meet one of them
agree along every run. -/
theorem along_congr {D : σ → ε → Prop} {I : σ → Prop} (hiff : ∀ s e, I s → (C s e ↔ D s e))
    (hstep : ∀ s e s', I s → C s e → step s e = some s' → I s') {s : σ} (h : I s) (t : List ε) :
    Along C step s t ↔ Along D step s t := by
  induction t generalizing s with
  | nil => exact Iff.rfl
  | cons e t ih =>
    constructor
    · intro hC
      exact ⟨(hiff s e h).1 hC.1, fun s' hs => (ih (hstep s e s' h hC.1 hs)).1 (hC.2 s' hs)⟩
    · intro hD
      have hCe := (hiff s e h).2 hD.1
      exact ⟨hCe, fun s' hs => (ih (hstep s e s' h hCe hs)).2 (hD.2 s' hs)⟩

/-- **The run rule under a condition on the steps**: what holds of the empty history and is kept
by every step meeting `C` holds of every run whose steps all meet `C`. -/
theorem run_invariant_along {P : List ε → σ → Prop} {s₀ s : σ} {t : List ε} (h0 : P [] s₀)
    (hstep : ∀ t s e s', run step s₀ t = some s → P t s → C s e → step s e = some s' →
      P (t ++ [e]) s')
    (hrun : run step s₀ t = some s) (hC : Along C step s₀ t) : P t s := by
  induction t using List.reverseRecOn generalizing s with
  | nil =>
    cases hrun
    exact h0
  | append_singleton t e ih =>
    obtain ⟨s₁, hrun₁, hlast⟩ := run_concat.1 hrun
    obtain ⟨hC₁, hCe⟩ := (along_append hrun₁).1 hC
    exact hstep t s₁ e s hrun₁ (ih hrun₁ hC₁) hCe.1 hlast

/-- **The run rule**: what holds of the empty history and is kept by every step holds of every
run. -/
theorem run_invariant {P : List ε → σ → Prop} {s₀ s : σ} {t : List ε} (h0 : P [] s₀)
    (hstep : ∀ t s e s', run step s₀ t = some s → P t s → step s e = some s' →
      P (t ++ [e]) s')
    (hrun : run step s₀ t = some s) : P t s :=
  run_invariant_along (C := fun _ _ => True) h0
    (fun t s e s' hr hP _ hs => hstep t s e s' hr hP hs) hrun
    (along_of_events (fun _ _ _ => trivial) s₀)

/-- **Held until put out**: when every step from a state that holds something puts it out or keeps
holding it, it is put out by a run or still held at its end. -/
theorem run_until {ω : Type w} {step : σ → ε → Option (σ × List ω)} (Held : σ → Prop)
    (Got : ω → Prop)
    (hstep : ∀ s e s' out, Held s → C s e → step s e = some (s', out) →
      (∃ x ∈ out, Got x) ∨ Held s')
    {p p' : σ × List ω} {t : List ε} (hp : (∃ x ∈ p.2, Got x) ∨ Held p.1)
    (hrun : run (logged step) p t = some p')
    (hC : Along (fun p e => C p.1 e) (logged step) p t) : (∃ x ∈ p'.2, Got x) ∨ Held p'.1 := by
  refine run_invariant_along (P := fun _ p => (∃ x ∈ p.2, Got x) ∨ Held p.1) hp ?_ hrun hC
  rintro t p e p' - hp hCe hlog
  obtain ⟨out, hout, hlog⟩ := logged_eq_some.1 hlog
  rw [hlog]
  rcases hp with ⟨x, hx, hgot⟩ | hheld
  · exact Or.inl ⟨x, List.mem_append_left _ hx, hgot⟩
  · rcases hstep p.1 e p'.1 out hheld hCe hout with ⟨x, hx, hgot⟩ | hheld'
    · exact Or.inl ⟨x, List.mem_append_right _ hx, hgot⟩
    · exact Or.inr hheld'

theorem logged_take {ω : Type w} {step : σ → ε → Option (σ × List ω)} {p p' : σ × List ω}
    {t : List ε} (hrun : run (logged step) p t = some p') : p.2 <+: p'.2 := by
  refine run_invariant (P := fun _ p' => p.2 <+: p'.2) (List.prefix_refl _) ?_ hrun
  rintro t p₁ e p₂ - hpre hlog
  obtain ⟨out, -, hlog⟩ := logged_eq_some.1 hlog
  exact hlog ▸ hpre.trans (List.prefix_append p₁.2 out)

/-- **Exact conditions on what is put out**: when the steps that meet `C` keep an invariant and put
out good things only, and one that does not meet `C` puts out a bad thing, the steps of a run all
meet `C` if and only if all it puts out is good. -/
theorem along_iff_logged {ω : Type w} {step : σ → ε → Option (σ × List ω)} (Inv : σ → Prop)
    (Good : ω → Prop)
    (hgood : ∀ s e s' out, Inv s → C s e → step s e = some (s', out) →
      Inv s' ∧ ∀ x ∈ out, Good x)
    (hbad : ∀ s e s' out, Inv s → ¬ C s e → step s e = some (s', out) → ∃ x ∈ out, ¬ Good x)
    {p p' : σ × List ω} {t : List ε} (h0 : Inv p.1) (hp : ∀ x ∈ p.2, Good x)
    (hrun : run (logged step) p t = some p') :
    Along (fun p e => C p.1 e) (logged step) p t ↔ ∀ x ∈ p'.2, Good x := by
  induction t generalizing p with
  | nil =>
    obtain rfl := Option.some.inj hrun
    exact ⟨fun _ => hp, fun _ => trivial⟩
  | cons e t ih =>
    obtain ⟨p₁, hstep, hrest⟩ := Option.bind_eq_some_iff.1 hrun
    obtain ⟨out, hout, hlog⟩ := logged_eq_some.1 hstep
    by_cases hC : C p.1 e
    · obtain ⟨h₁, hsafe⟩ := hgood p.1 e p₁.1 out h0 hC hout
      have hp₁ : ∀ x ∈ p₁.2, Good x := by
        intro x hx
        rw [hlog] at hx
        exact (List.mem_append.1 hx).elim (hp x) (hsafe x)
      rw [← ih h₁ hp₁ hrest]
      constructor
      · intro hAlong
        exact hAlong.2 p₁ hstep
      · intro hAlong
        exact ⟨hC, fun p₂ h₂ => Option.some.inj (hstep.symm.trans h₂) ▸ hAlong⟩
    · refine iff_of_false (fun hAlong => hC hAlong.1) (fun hall => ?_)
      obtain ⟨x, hx, hne⟩ := hbad p.1 e p₁.1 out h0 hC hout
      refine hne (hall x ((logged_take hrest).subset ?_))
      exact hlog ▸ List.mem_append_right p.2 hx

/-- **Exact conditions**: when the runs whose steps all meet `C` are good, and a first step that
does not meet `C` makes a run bad, the steps of a run all meet `C` if and only if all its prefixes
are good. -/
theorem along_iff (Good : List ε → Prop) {s₀ s : σ} {t : List ε} (hrun : run step s₀ t = some s)
    (hsound : ∀ t s, run step s₀ t = some s → Along C step s₀ t → Good t)
    (hexact : ∀ t₁ s₁ e s₂, t₁ ++ [e] <+: t → run step s₀ t₁ = some s₁ → Along C step s₀ t₁ →
      step s₁ e = some s₂ → ¬ C s₁ e → ¬ Good (t₁ ++ [e])) :
    Along C step s₀ t ↔ ∀ t₁, t₁ <+: t → Good t₁ := by
  constructor
  · rintro hC t₁ ⟨t₂, rfl⟩
    cases hrun₁ : run step s₀ t₁ with
    | none => rw [run_append, hrun₁] at hrun; cases hrun
    | some s₁ => exact hsound t₁ s₁ hrun₁ ((along_append hrun₁).1 hC).1
  · intro hgood
    induction t using List.reverseRecOn generalizing s with
    | nil => trivial
    | append_singleton t e ih =>
      obtain ⟨s₁, hrun₁, hlast⟩ := run_concat.1 hrun
      have hpre : t <+: t ++ [e] := List.prefix_append t [e]
      have hC₁ : Along C step s₀ t := ih hrun₁
        (fun t₁ s₁ e' s₂ h => hexact t₁ s₁ e' s₂ (h.trans hpre))
        (fun t₁ h => hgood t₁ (h.trans hpre))
      refine (along_append hrun₁).2 ⟨hC₁, ?_, fun _ _ => trivial⟩
      by_contra hne
      exact hexact t s₁ e s (List.prefix_refl _) hrun₁ hC₁ hlast hne
        (hgood _ (List.prefix_refl _))

end UdeSample.Lib
