import UdeSample.Lib.Run

/-!
# Calls in flight over a shared state

A pool is a shared state together with the calls that have begun and not returned, each at its own
program point. One event is one atomic step: a new call makes its first step (`start`), or a call
in flight makes its next one (`resume`). A step says what it does to the shared state and where
the call stands afterwards, `none` when it returned.

There is no bound on the number of calls, and every interleaving of their steps is a run.
-/

namespace UdeSample.Lib

universe u v w x

/-- A shared state and the calls in flight. -/
structure Pool (σ : Type u) (τ : Type v) where
  shared : σ
  calls : List τ
deriving DecidableEq

namespace Pool

/-- One atomic step: of a new call, or of the `i`-th call in flight. -/
inductive Event (α : Type w) (β : Type x) where
  | start (a : α)
  | resume (i : Nat) (b : β)

variable {σ : Type u} {τ : Type v} {α : Type w} {β : Type x}

/-- One atomic step of a pool: `begin` is the first step of a call, `next` a later one. -/
def step (begin : σ → α → σ × Option τ) (next : σ → τ → β → σ × Option τ) :
    Pool σ τ → Event α β → Option (Pool σ τ)
  | p, .start a =>
    let (s, c) := begin p.shared a
    some ⟨s, p.calls ++ c.toList⟩
  | p, .resume i b =>
    match p.calls[i]? with
    | none => none
    | some c =>
      let (s, c') := next p.shared c b
      some ⟨s, p.calls.take i ++ c'.toList ++ p.calls.drop (i + 1)⟩

variable {begin : σ → α → σ × Option τ} {next : σ → τ → β → σ × Option τ} {p p' : Pool σ τ}

theorem step_start {a : α} (h : step begin next p (.start a) = some p') :
    p' = ⟨(begin p.shared a).1, p.calls ++ (begin p.shared a).2.toList⟩ :=
  (Option.some.inj h).symm

/-- What a later step of a call does to a pool: the call leaves its place to what is left of it. -/
theorem step_resume {i : Nat} {b : β} (h : step begin next p (.resume i b) = some p') :
    ∃ l c r, p.calls = l ++ c :: r ∧
      p' = ⟨(next p.shared c b).1, l ++ (next p.shared c b).2.toList ++ r⟩ := by
  cases hc : p.calls[i]? with
  | none => simp [step, hc] at h
  | some c =>
    simp only [step, hc, Option.some.injEq] at h
    obtain ⟨hi, hget⟩ := List.getElem?_eq_some_iff.1 hc
    refine ⟨p.calls.take i, c, p.calls.drop (i + 1), ?_, h.symm⟩
    rw [← hget, List.getElem_cons_drop, List.take_append_drop]

theorem resume_mem {s : σ} {l r : List τ} {c : τ} (b : β) :
    step begin next ⟨s, l ++ c :: r⟩ (.resume l.length b) =
      some ⟨(next s c b).1, l ++ (next s c b).2.toList ++ r⟩ := by
  have hget : (l ++ c :: r)[l.length]? = some c := by simp
  have htake : (l ++ c :: r).take l.length = l := List.take_left
  have hdrop : (l ++ c :: r).drop (l.length + 1) = r := by simp
  simp only [step, hget, htake, hdrop]

/-! ## Letting calls return -/

/-- The call `c` can return from shared state `s` leaving `s'`, if nothing else steps. -/
inductive Finishes (next : σ → τ → β → σ × Option τ) : σ → τ → σ → Prop where
  | last {s s' : σ} {c : τ} (b : β) (h : next s c b = (s', none)) : Finishes next s c s'
  | more {s s₁ s' : σ} {c c₁ : τ} (b : β) (h : next s c b = (s₁, some c₁))
      (hrest : Finishes next s₁ c₁ s') : Finishes next s c s'

/-- Whether an event is a step of a call in flight or the start of a call meeting `q`. -/
def Event.Quiet (q : α → Prop) : Event α β → Prop
  | .start a => q a
  | .resume _ _ => True

/-- The pool can get from `p` to `p'` by steps of the calls in flight and starts of calls meeting
`q`. -/
def Quietly (begin : σ → α → σ × Option τ) (next : σ → τ → β → σ × Option τ) (q : α → Prop)
    (p p' : Pool σ τ) : Prop :=
  ∃ t, (∀ e ∈ t, Event.Quiet q e) ∧ run (step begin next) p t = some p'

variable {q : α → Prop}

theorem Quietly.refl (p : Pool σ τ) : Quietly begin next q p p :=
  ⟨[], fun _ he => absurd he List.not_mem_nil, rfl⟩

theorem Quietly.trans {p p₁ p₂ : Pool σ τ} (h₁ : Quietly begin next q p p₁)
    (h₂ : Quietly begin next q p₁ p₂) : Quietly begin next q p p₂ := by
  obtain ⟨t₁, hq₁, hrun₁⟩ := h₁
  obtain ⟨t₂, hq₂, hrun₂⟩ := h₂
  refine ⟨t₁ ++ t₂, List.forall_mem_append.2 ⟨hq₁, hq₂⟩, ?_⟩
  rw [run_append, hrun₁]
  exact hrun₂

theorem quietly_resume {s s' : σ} {c : τ} {c' : Option τ} {b : β} (h : next s c b = (s', c'))
    (l r : List τ) :
    Quietly begin next q ⟨s, l ++ c :: r⟩ ⟨s', l ++ c'.toList ++ r⟩ := by
  refine ⟨[.resume l.length b], List.forall_mem_singleton.2 trivial, ?_⟩
  rw [run_cons, resume_mem b, h]
  rfl

theorem Finishes.quietly {s s' : σ} {c : τ} (h : Finishes next s c s') (l r : List τ) :
    Quietly begin next q ⟨s, l ++ c :: r⟩ ⟨s', l ++ r⟩ := by
  induction h with
  | last b h => simpa using quietly_resume h l r
  | @more s s₁ _ c c₁ b h _ ih =>
    have hstep : Quietly begin next q ⟨s, l ++ c :: r⟩ ⟨s₁, l ++ c₁ :: r⟩ := by
      simpa using quietly_resume h l r
    exact hstep.trans ih

theorem Finishes.keeps {J : σ → Prop} (hJ : ∀ s c b, J s → J (next s c b).1) {s s' : σ} {c : τ}
    (h : Finishes next s c s') (hs : J s) : J s' := by
  induction h with
  | @last s s' c b h => simpa [h] using hJ s c b hs
  | @more s s₁ s' c c₁ b h _ ih => exact ih (by simpa [h] using hJ s c b hs)

/-- When every call can return, any block of the calls in flight can be let return. -/
theorem finish_all {J : σ → Prop} (hJ : ∀ s c b, J s → J (next s c b).1)
    (hfin : ∀ s c, ∃ s', Finishes next s c s') (l m r : List τ) {s : σ} (hs : J s) :
    ∃ s', J s' ∧ Quietly begin next q ⟨s, l ++ (m ++ r)⟩ ⟨s', l ++ r⟩ := by
  induction m generalizing s with
  | nil => exact ⟨s, hs, .refl _⟩
  | cons c m ih =>
    obtain ⟨s₁, h₁⟩ := hfin s c
    obtain ⟨s₂, hs₂, hrest⟩ := ih (h₁.keeps hJ hs)
    exact ⟨s₂, hs₂, (h₁.quietly l (m ++ r)).trans hrest⟩

end Pool

end UdeSample.Lib
