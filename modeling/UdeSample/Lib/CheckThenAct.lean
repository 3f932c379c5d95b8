import UdeSample.Lib.Pool

/-!
# Check-then-act rendezvous

Two kinds of calls meet over a shared state. A *putting* call first looks for a waiter and, when
there is none, stores an item in a later step; a *parking* call first looks for an item and, when
there is none, becomes a waiter in a later step. Between the two steps a call is in its *window*.

A state with an item and a waiter is stranded: the two passed each other. `Sound` is the invariant
of runs in which no window is opened while a window of the other kind is open (`Exclusive`): such a
run never strands (`sound_of_run`). The condition is exact: as soon as two windows of opposite
kinds are open together, letting the calls in flight return can end in a stranded state
(`overlap_strands`), so a run is exclusive if and only if none of its states leads there
(`exclusive_iff`).
-/

namespace UdeSample.Lib

universe u v w x

/-- Where a call stands: outside a window, about to store, or about to wait. -/
inductive Window where
  | out
  | putting
  | parking
deriving DecidableEq

/-- What one step may do to (item stored, waiter present, window of the stepping call). -/
inductive Move : Bool → Bool → Window → Bool → Bool → Window → Prop where
  | seeNoWaiter {i : Bool} : Move i false .out i false .putting
  | seeNoItem {w : Bool} : Move false w .out false w .parking
  | put {i w : Bool} : Move i w .putting true w .out
  | park {i w : Bool} : Move i w .parking i true .out
  | shrink {i w i' w' : Bool} {k : Window} (hi : i' = true → i = true)
      (hw : w' = true → w = true) : Move i w k i' w' .out

/-- The calls in flight as the protocol sees them, with the shared state they meet over. -/
structure Scene where
  item : Bool
  waiter : Bool
  windows : List Window

/-- The invariant of exclusive runs: never an item and a waiter at once, no waiter while a call is
about to store, no item while a call is about to wait, and no two windows of opposite kinds. -/
structure Scene.Sound (x : Scene) : Prop where
  apart : x.item = true → x.waiter = false
  putting : .putting ∈ x.windows → x.waiter = false
  parking : .parking ∈ x.windows → x.item = false
  exclusive : .putting ∈ x.windows → .parking ∉ x.windows

/-- **One step**: a move of one call keeps the invariant, if it opens no window while one of the
other kind is open. `ws` and `ws'` are the windows before and after the step. -/
theorem Scene.Sound.move {i w i' w' : Bool} {k k' : Window} {ws ws' : List Window}
    (h : Scene.Sound ⟨i, w, ws⟩) (hmove : Move i w k i' w' k') (hk : k ≠ .out → k ∈ ws)
    (hws : ∀ x ∈ ws', x ≠ .out → x ∈ ws ∨ x = k')
    (hput : k' = .putting → .parking ∉ ws) (hpark : k' = .parking → .putting ∉ ws) :
    Scene.Sound ⟨i', w', ws'⟩ := by
  have old : k' = .out → ∀ x ∈ ws', x ≠ .out → x ∈ ws := by
    intro hk' x hx hne
    rcases hws x hx hne with hx | hx
    · exact hx
    · exact absurd (hx.trans hk') hne
  cases hmove with
  | seeNoWaiter =>
    refine ⟨fun _ => rfl, fun _ => rfl, fun hx => ?_, fun _ hx => ?_⟩ <;>
    · rcases hws _ hx (by decide) with hx | hx
      · exact absurd hx (hput rfl)
      · cases hx
  | seeNoItem =>
    refine ⟨fun hi => (nomatch hi), fun hx => ?_, fun _ => rfl, fun hx => ?_⟩ <;>
    · rcases hws _ hx (by decide) with hx | hx
      · exact absurd hx (hpark rfl)
      · cases hx
  | put =>
    have hmem : .putting ∈ ws := hk (by decide)
    have hno : .parking ∉ ws' := fun hx =>
      h.exclusive hmem (old rfl _ hx (by decide))
    exact ⟨fun _ => h.putting hmem, fun _ => h.putting hmem, fun hx => absurd hx hno, fun _ => hno⟩
  | park =>
    have hmem : .parking ∈ ws := hk (by decide)
    have hno : .putting ∉ ws' := fun hx =>
      h.exclusive (old rfl _ hx (by decide)) hmem
    have hitem : i = false := h.parking hmem
    exact ⟨fun hi => (nomatch hitem.symm.trans hi), fun hx => absurd hx hno, fun _ => hitem,
      fun hx => absurd hx hno⟩
  | shrink hi hw =>
    have hwaiter : w = false → w' = false := fun hf => by
      cases w' with
      | false => rfl
      | true => exact absurd (hw rfl) (by simp [hf])
    have hitem : i = false → i' = false := fun hf => by
      cases i' with
      | false => rfl
      | true => exact absurd (hi rfl) (by simp [hf])
    exact ⟨fun hi' => hwaiter (h.apart (hi hi')),
      fun hx => hwaiter (h.putting (old rfl _ hx (by decide))),
      fun hx => hitem (h.parking (old rfl _ hx (by decide))),
      fun hx hy => h.exclusive (old rfl _ hx (by decide)) (old rfl _ hy (by decide))⟩

/-- Two members of a list have their places in it, in one order or the other. -/
theorem exists_split_pair {γ : Type v} {c d : γ} {l : List γ} (hc : c ∈ l) (hd : d ∈ l)
    (hne : c ≠ d) : ∃ a x b y e, l = a ++ x :: (b ++ y :: e) ∧
      ([x, y] = [c, d] ∨ [x, y] = [d, c]) := by
  obtain ⟨l, r, rfl⟩ := List.append_of_mem hc
  have hd' : d ∈ l ∨ d ∈ r := by
    rcases List.mem_append.1 hd with hd | hd
    · exact Or.inl hd
    · exact Or.inr ((List.mem_cons.1 hd).resolve_left hne.symm)
  rcases hd' with hd | hd
  · obtain ⟨a, b, rfl⟩ := List.append_of_mem hd
    exact ⟨a, d, b, c, r, by simp, Or.inr rfl⟩
  · obtain ⟨b, e, rfl⟩ := List.append_of_mem hd
    exact ⟨l, c, b, d, e, rfl, Or.inl rfl⟩

/-- How a pool is seen as a rendezvous. -/
structure View (σ : Type u) (τ : Type v) where
  item : σ → Bool
  waiter : σ → Bool
  window : τ → Window

namespace View

variable {σ : Type u} {τ : Type v} {α : Type w} {β : Type x} (V : View σ τ)

/-- The window of what is left of a call. -/
def windowOf : Option τ → Window
  | none => .out
  | some c => V.window c

def scene (p : Pool σ τ) : Scene := ⟨V.item p.shared, V.waiter p.shared, p.calls.map V.window⟩

/-- An item and a waiter at once. -/
def Stranded (s : σ) : Prop := V.item s = true ∧ V.waiter s = true

instance (s : σ) : Decidable (V.Stranded s) := inferInstanceAs (Decidable (_ ∧ _))

/-- The steps of a pool are rendezvous moves; a window is opened by the first step of a call and
closed by its next one. -/
structure Implements (begin : σ → α → σ × Option τ) (next : σ → τ → β → σ × Option τ) : Prop where
  start : ∀ s a, Move (V.item s) (V.waiter s) .out (V.item (begin s a).1)
    (V.waiter (begin s a).1) (V.windowOf (begin s a).2)
  resume : ∀ s c b, Move (V.item s) (V.waiter s) (V.window c) (V.item (next s c b).1)
    (V.waiter (next s c b).1) (V.windowOf (next s c b).2)
  closes : ∀ s c b, V.windowOf (next s c b).2 = .out

/-- No call opens a window while a call in flight is in a window of the other kind. -/
def Exclusive (begin : σ → α → σ × Option τ) (p : Pool σ τ) : Pool.Event α β → Prop
  | .start a =>
    (V.windowOf (begin p.shared a).2 = .putting → .parking ∉ p.calls.map V.window) ∧
      (V.windowOf (begin p.shared a).2 = .parking → .putting ∉ p.calls.map V.window)
  | .resume _ _ => True

variable {V} {begin : σ → α → σ × Option τ} {next : σ → τ → β → σ × Option τ}

theorem notMem_windows {k : Window} {P : τ → Prop} (h : ∀ c, V.window c ≠ k ↔ P c)
    {calls : List τ} : k ∉ calls.map V.window ↔ ∀ c ∈ calls, P c := by
  simp only [List.mem_map, not_exists, not_and]
  exact forall₂_congr fun c _ => h c

theorem mem_windows_append {l r : List τ} {c' : Option τ} {x : Window}
    (hmem : x ∈ (l ++ c'.toList ++ r).map V.window) :
    x ∈ (l ++ r).map V.window ∨ x = V.windowOf c' := by
  cases c' with
  | none => exact Or.inl (by simpa using hmem)
  | some c =>
    simp only [Option.toList_some, List.map_append, List.mem_append, List.map_cons, List.map_nil,
      List.mem_singleton] at hmem ⊢
    rcases hmem with (hl | hc) | hr
    · exact Or.inl (Or.inl hl)
    · exact Or.inr hc
    · exact Or.inl (Or.inr hr)

theorem sound_init {s : σ} (hs : V.item s = false) : (V.scene (⟨s, []⟩ : Pool σ τ)).Sound where
  apart hi := absurd (hs.symm.trans hi) Bool.false_ne_true
  putting hm := absurd hm List.not_mem_nil
  parking hm := absurd hm List.not_mem_nil
  exclusive hm := absurd hm List.not_mem_nil

theorem sound_step (hV : V.Implements begin next) {p p' : Pool σ τ} {e : Pool.Event α β}
    (h : (V.scene p).Sound) (hex : V.Exclusive begin p e)
    (hstep : Pool.step begin next p e = some p') : (V.scene p').Sound := by
  cases e with
  | start a =>
    rw [Pool.step_start hstep]
    refine h.move (hV.start p.shared a) (fun hne => absurd rfl hne) ?_ hex.1 hex.2
    intro x hx _
    simpa using mem_windows_append (r := []) (by simpa using hx)
  | resume i b =>
    obtain ⟨l, c, r, hcalls, rfl⟩ := Pool.step_resume hstep
    have hout := hV.closes p.shared c b
    refine h.move (hV.resume p.shared c b) ?_ ?_ ?_ ?_
    · intro _
      exact List.mem_map_of_mem (by simp [hcalls])
    · intro x hx _
      rcases mem_windows_append hx with hx | hx
      · refine Or.inl ?_
        simp only [hcalls, List.map_append, List.mem_append, List.map_cons,
          List.mem_cons] at hx ⊢
        rcases hx with hl | hr
        · exact Or.inl hl
        · exact Or.inr (Or.inr hr)
      · exact Or.inr hx
    · intro hk
      rw [hout] at hk; cases hk
    · intro hk
      rw [hout] at hk; cases hk

/-- **Exclusive runs never strand**, whatever the number of calls and the order of their steps. -/
theorem sound_of_run (hV : V.Implements begin next) {p₀ p : Pool σ τ}
    {t : List (Pool.Event α β)} (h0 : (V.scene p₀).Sound)
    (hrun : run (Pool.step begin next) p₀ t = some p)
    (hex : Along (V.Exclusive begin) (Pool.step begin next) p₀ t) : (V.scene p).Sound :=
  run_invariant_along (P := fun _ p => (V.scene p).Sound) h0
    (fun _ _ _ _ _ h hC hs => sound_step hV h hC hs) hrun hex

theorem not_stranded {p : Pool σ τ} (h : (V.scene p).Sound) : ¬ V.Stranded p.shared := by
  rintro ⟨hi, hw⟩
  have hf : V.waiter p.shared = false := h.apart hi
  rw [hf] at hw
  cases hw

/-! ## Overlapping windows do strand -/

/-- What lets overlapping windows run into each other: an invariant `J` of the shared state under
which every call can return; from some point on, reached by events meeting `q`, a call about to
wait can wait; and a call about to store can store, leaving a waiter where it is. -/
structure Completes (V : View σ τ) (begin : σ → α → σ × Option τ)
    (next : σ → τ → β → σ × Option τ) (q : α → Prop) (J ready : σ → Prop) : Prop where
  quiet : ∀ s a, q a → V.windowOf (begin s a).2 = .out
  keepBegin : ∀ s a, J s → J (begin s a).1
  keepNext : ∀ s c b, J s → J (next s c b).1
  finish : ∀ s c, ∃ s', Pool.Finishes next s c s'
  prepare : ∀ p : Pool σ τ, J p.shared → ∃ t s', (∀ e ∈ t, Pool.Event.Quiet q e) ∧
    run (Pool.step begin next) p t = some ⟨s', p.calls⟩ ∧ ready s'
  park : ∀ s c, ready s → V.window c = .parking →
    ∃ s', Pool.Finishes next s c s' ∧ V.waiter s' = true
  put : ∀ s c, V.window c = .putting →
    ∃ s', Pool.Finishes next s c s' ∧ V.item s' = true ∧ (V.waiter s = true → V.waiter s' = true)

variable {q : α → Prop} {J ready : σ → Prop}

theorem Completes.run_keeps (hC : V.Completes begin next q J ready) (p₀ : Pool σ τ) {p : Pool σ τ}
    {t : List (Pool.Event α β)} (h0 : J p₀.shared)
    (hrun : run (Pool.step begin next) p₀ t = some p) : J p.shared := by
  refine run_invariant (P := fun _ p => J p.shared) h0 ?_ hrun
  intro _ p e p' _ h hs
  cases e with
  | start a =>
    rw [Pool.step_start hs]
    exact hC.keepBegin p.shared a h
  | resume i b =>
    obtain ⟨l, c, r, -, rfl⟩ := Pool.step_resume hs
    exact hC.keepNext p.shared c b h

/-- A call about to store and a call about to wait, alone in flight, strand: the waiter parks
first, since the other call no longer looks for one. -/
theorem strands_of_pair (hC : V.Completes begin next q J ready) {s : σ} {c d : τ} {l : List τ}
    (hs : J s) (hl : l = [c, d] ∨ l = [d, c]) (hc : V.window c = .putting)
    (hd : V.window d = .parking) :
    ∃ s', Pool.Quietly begin next q ⟨s, l⟩ ⟨s', []⟩ ∧ V.Stranded s' := by
  obtain ⟨t, s₁, hq, hrun, hready⟩ := hC.prepare ⟨s, l⟩ hs
  obtain ⟨s₂, hfin₂, hwait⟩ := hC.park s₁ d hready hd
  obtain ⟨s₃, hfin₃, hitem, hkeep⟩ := hC.put s₂ c hc
  have hprepare : Pool.Quietly begin next q ⟨s, l⟩ ⟨s₁, l⟩ := ⟨t, hq, hrun⟩
  have hpark : Pool.Quietly begin next q ⟨s₁, l⟩ ⟨s₂, [c]⟩ := by
    rcases hl with rfl | rfl
    · exact hfin₂.quietly [c] []
    · exact hfin₂.quietly [] [c]
  have hput : Pool.Quietly begin next q ⟨s₂, [c]⟩ ⟨s₃, []⟩ := hfin₃.quietly [] []
  exact ⟨s₃, hprepare.trans (hpark.trans hput), hitem, hkeep hwait⟩

/-- **Overlapping windows strand**: when a call about to store and a call about to wait are both in
flight, the calls in flight can be let return into a stranded state. -/
theorem overlap_strands (hC : V.Completes begin next q J ready) {p : Pool σ τ}
    (hJ : J p.shared) (hput : .putting ∈ p.calls.map V.window)
    (hpark : .parking ∈ p.calls.map V.window) :
    ∃ s', Pool.Quietly begin next q p ⟨s', []⟩ ∧ V.Stranded s' := by
  obtain ⟨c, hc, hcw⟩ := List.mem_map.1 hput
  obtain ⟨d, hd, hdw⟩ := List.mem_map.1 hpark
  have hne : c ≠ d := by
    rintro rfl
    rw [hcw] at hdw
    cases hdw
  obtain ⟨a, x, b, y, e, hcalls, hxy⟩ := exists_split_pair hc hd hne
  obtain ⟨s, calls⟩ := p
  subst hcalls
  -- everything except the two calls returns first, whatever it does to the shared state
  obtain ⟨s₁, hs₁, hrun₁⟩ :=
    Pool.finish_all hC.keepNext hC.finish [] a (x :: (b ++ y :: e)) hJ
  obtain ⟨s₂, hs₂, hrun₂⟩ := Pool.finish_all hC.keepNext hC.finish [x] b (y :: e) hs₁
  obtain ⟨s₃, hs₃, hrun₃⟩ := Pool.finish_all hC.keepNext hC.finish [x, y] e [] hs₂
  rw [List.append_nil] at hrun₃
  obtain ⟨s₄, hrun₄, hstranded⟩ := strands_of_pair hC hs₃ hxy hcw hdw
  exact ⟨s₄, hrun₁.trans (hrun₂.trans (hrun₃.trans hrun₄)), hstranded⟩

theorem overlap_of_not_exclusive {p p' : Pool σ τ} {e : Pool.Event α β}
    (hex : ¬ V.Exclusive begin p e) (hstep : Pool.step begin next p e = some p') :
    .putting ∈ p'.calls.map V.window ∧ .parking ∈ p'.calls.map V.window := by
  cases e with
  | resume i b => exact absurd trivial hex
  | start a =>
    rw [Pool.step_start hstep]
    cases hb : (begin p.shared a).2 with
    | none => exact absurd ⟨fun h => by simp [hb, windowOf] at h,
        fun h => by simp [hb, windowOf] at h⟩ hex
    | some c =>
      simp only [Exclusive, hb, windowOf, not_and_or, not_forall, not_not] at hex
      simp only [Option.toList_some, List.map_append, List.map_cons, List.map_nil,
        List.mem_append, List.mem_singleton]
      rcases hex with ⟨hk, hm⟩ | ⟨hk, hm⟩
      · exact ⟨Or.inr hk.symm, Or.inl hm⟩
      · exact ⟨Or.inl hm, Or.inr hk.symm⟩

/-- **Exclusiveness is exact**: a run is exclusive if and only if at none of its states the calls in
flight can be let return into a stranded state. -/
theorem exclusive_iff (hV : V.Implements begin next) (hC : V.Completes begin next q J ready)
    {p₀ p : Pool σ τ} {t : List (Pool.Event α β)} (h0 : (V.scene p₀).Sound)
    (hJ : J p₀.shared) (hrun : run (Pool.step begin next) p₀ t = some p) :
    Along (V.Exclusive begin) (Pool.step begin next) p₀ t ↔
      ∀ t₁ t₂ s', t₁ <+: t → (∀ e ∈ t₂, Pool.Event.Quiet q e) →
        run (Pool.step begin next) p₀ (t₁ ++ t₂) = some ⟨s', []⟩ → ¬ V.Stranded s' := by
  constructor
  · rintro hex t₁ t₂ s' ⟨t₃, rfl⟩ hq hrun'
    have hquiet : ∀ e ∈ t₂, ∀ p, V.Exclusive (β := β) begin p e := by
      intro e he p
      have hqe := hq e he
      cases e with
      | resume i b => trivial
      | start a =>
        have hout := hC.quiet p.shared a hqe
        simp [Exclusive, hout]
    cases hrun₁ : run (Pool.step begin next) p₀ t₁ with
    | none => rw [run_append, hrun₁] at hrun'; cases hrun'
    | some p₁ =>
      have hex₁ := ((along_append hrun₁).1 hex).1
      have hex₂ := (along_append hrun₁).2 ⟨hex₁, along_of_events hquiet p₁⟩
      exact not_stranded (p := ⟨s', []⟩) (sound_of_run hV h0 hrun' hex₂)
  · intro hsafe
    -- at the first step that is not exclusive, both windows are open and the calls strand
    induction t using List.reverseRecOn generalizing p with
    | nil => trivial
    | append_singleton t e ih =>
      obtain ⟨p₁, hrun₁, hlast⟩ := run_concat.1 hrun
      have hex₁ := ih hrun₁ fun t₁ t₂ s' hpre =>
        hsafe t₁ t₂ s' (hpre.trans (List.prefix_append t [e]))
      refine (along_append hrun₁).2 ⟨hex₁, ?_, fun _ _ => trivial⟩
      by_contra hne
      obtain ⟨hput, hpark⟩ := overlap_of_not_exclusive hne hlast
      obtain ⟨s', ⟨t₂, hq, hrun₂⟩, hstr⟩ :=
        overlap_strands hC (hC.run_keeps p₀ hJ hrun) hput hpark
      refine hsafe (t ++ [e]) t₂ s' (List.prefix_refl _) hq ?_ hstr
      rw [run_append, hrun]
      exact hrun₂

/-- The same in other words: `C` says when an event is exclusive, `S` which states are stranded. -/
theorem exclusive_iff_congr (hV : V.Implements begin next)
    (hC : V.Completes begin next q J ready) {p₀ p : Pool σ τ} {t : List (Pool.Event α β)}
    (h0 : (V.scene p₀).Sound) (hJ : J p₀.shared)
    (hrun : run (Pool.step begin next) p₀ t = some p) {C : Pool σ τ → Pool.Event α β → Prop}
    {S : σ → Prop} (hex : ∀ p e, V.Exclusive begin p e ↔ C p e)
    (hS : ∀ s, J s → (V.Stranded s ↔ S s)) :
    Along C (Pool.step begin next) p₀ t ↔
      ∀ t₁ t₂ s', t₁ <+: t → (∀ e ∈ t₂, Pool.Event.Quiet q e) →
        run (Pool.step begin next) p₀ (t₁ ++ t₂) = some ⟨s', []⟩ → ¬ S s' := by
  have hcond : Along C (Pool.step begin next) p₀ t ↔
      Along (V.Exclusive begin) (Pool.step begin next) p₀ t :=
    ⟨fun h => h.mono fun p e => (hex p e).2, fun h => h.mono fun p e => (hex p e).1⟩
  refine hcond.trans ((exclusive_iff hV hC h0 hJ hrun).trans ?_)
  refine forall₃_congr fun t₁ t₂ s' => forall₂_congr fun _ _ => forall_congr' fun hrun' => ?_
  exact not_congr (hS s' (hC.run_keeps p₀ hJ hrun'))

end View

end UdeSample.Lib
