import UdeSample.Gadget.OneRuns
import UdeSample.Lib.Sawtooth

/-!
# Remote wakeup by the gadget

A suspend starts the timer, and the gadget wakes the host up only when that timer fires: with no
resume, no unbind and no other wakeup in between, and after a bind that has told the host that it
may (`one_wakeups`). The delays grow from bind to bind as `zero_suspend` lets them
(`one_delays`).
-/

namespace UdeSample

open Lib

section

variable {p : OneParams} {s s' : GadgetOne} {log out : List OneRecord}

/-! ## Wakeups -/

/-- What is known of the timer and of the wakeups there were. -/
structure WakeInv (p : OneParams) (s : GadgetOne) (log : List OneRecord) : Prop where
  pending : ∀ ms, s.timer = some ms → p.autoresume ≠ 0 ∧
    ∃ j, log.length = j + 1 ∧ log[j]? = some (.armed ms)
  wakeups : ∀ i a, log[i]? = some (.wakeup a) → a &&& usbConfigAttWakeup ≠ 0 ∧
    ∃ j ms, i = j + 1 ∧ log[j]? = some (.armed ms)

theorem WakeInv.append (h : WakeInv p s log) (timer : Option ULONG)
    (hpending : ∀ ms, timer = some ms → p.autoresume ≠ 0 ∧
      ∃ j, (log ++ out).length = j + 1 ∧ (log ++ out)[j]? = some (.armed ms))
    (hout : ∀ i a, out[i]? = some (.wakeup a) → a &&& usbConfigAttWakeup ≠ 0 ∧
      ∃ j ms, log.length + i = j + 1 ∧ (log ++ out)[j]? = some (.armed ms))
    (hs' : s'.timer = timer) : WakeInv p s' (log ++ out) := by
  refine ⟨fun ms hms => hpending ms (hs' ▸ hms), fun i a hi => ?_⟩
  rcases Nat.lt_or_ge i log.length with hlt | hge
  · rw [List.getElem?_append_left hlt] at hi
    obtain ⟨hadv, j, ms, rfl, hj⟩ := h.wakeups i a hi
    refine ⟨hadv, j, ms, rfl, ?_⟩
    rw [List.getElem?_append_left (Nat.lt_of_succ_lt hlt)]
    exact hj
  · rw [List.getElem?_append_right hge] at hi
    obtain ⟨hadv, j, ms, hij, hj⟩ := hout _ a hi
    exact ⟨hadv, j, ms, by omega, hj⟩

/-- A callback that stops the timer and asks for no wakeup. -/
theorem WakeInv.stopped (h : WakeInv p s log) (hout : ∀ a, .wakeup a ∉ out)
    (hs' : s'.timer = none) : WakeInv p s' (log ++ out) :=
  h.append none (fun _ hms => by cases hms)
    (fun _ a hi => absurd (List.mem_of_getElem? hi) (hout a)) hs'

theorem WakeInv.step (h : WakeInv p s log) (hinv : OneIdle s log ∨ OneBound p s log)
    {e : OneEvent} (hacc : s.accepts e = true) (hstep : oneHandle p s e = some (s', out)) :
    WakeInv p s' (log ++ out) := by
  cases e with
  | bind o =>
    rcases hinv with hidle | hbound
    · obtain ⟨s₁, out₁, hbind, hended⟩ := hidle.bind p o
      cases hbind.symm.trans hstep
      rcases hended with ⟨hidle', hquiet⟩ | ⟨-, htimer, hout, -⟩
      · exact h.stopped hquiet hidle'.timer
      · subst hout
        exact h.stopped (by simp) htimer
    · simp [GadgetOne.accepts, hbound.bound] at hacc
  | unbind =>
    rcases hinv with hidle | hbound
    · simp [GadgetOne.accepts, hidle.bound] at hacc
    · obtain ⟨s₁, out₁, hunbind, hidle, hquiet⟩ := hbound.unbind
      cases hunbind.symm.trans hstep
      exact h.stopped hquiet hidle.timer
  | suspend speedKnown =>
    have hsuspend : zeroSuspend p speedKnown s = (s', out) := Option.some.inj hstep
    unfold zeroSuspend at hsuspend
    split at hsuspend
    · next hauto =>
      obtain ⟨rfl, rfl⟩ := Prod.mk.inj hsuspend
      refine h.append (some _) (fun ms hms => ⟨hauto.2, log.length, ?_, ?_⟩) ?_ rfl
      · simp
      · cases hms
        simp
      · intro i a hi
        cases i with
        | zero => cases hi
        | succ i => cases hi
    · obtain ⟨rfl, rfl⟩ := Prod.mk.inj hsuspend
      rw [List.append_nil]
      exact h
  | resume =>
    obtain ⟨rfl, rfl⟩ := Prod.mk.inj (Option.some.inj hstep)
    exact h.stopped (by simp) rfl
  | timer configured speedKnown =>
    obtain ⟨rfl, rfl⟩ := Prod.mk.inj (Option.some.inj hstep)
    cases htimer : s.timer with
    | none => simp [GadgetOne.accepts, htimer] at hacc
    | some ms =>
      obtain ⟨hauto, j, hlen, hj⟩ := h.pending ms htimer
      rcases hinv with hidle | hbound
      · rw [hidle.timer] at htimer
        cases htimer
      split
      · refine h.append none (fun _ hms => by cases hms) ?_ rfl
        intro i a hi
        cases i with
        | zero =>
          cases hi
          refine ⟨hbound.advertised hauto, j, ms, hlen, ?_⟩
          rw [List.getElem?_append_left (by omega)]
          exact hj
        | succ i => cases hi
      · exact h.stopped (by simp) rfl
  | setQlen qlen =>
    obtain ⟨rfl, rfl⟩ := Prod.mk.inj (Option.some.inj hstep)
    rw [List.append_nil]
    exact ⟨h.pending, h.wakeups⟩

/-- **A wakeup follows the suspend that started its timer**, with nothing in between, and the host
has been told that the gadget may wake it up. -/
theorem one_wakeups {bulkBuflen qlen : ULONG} {t : List OneEvent}
    (h : oneRun p bulkBuflen qlen t = some (s, log)) {i : Nat} {bmAttributes : UCHAR}
    (hi : log[i]? = some (.wakeup bmAttributes)) :
    bmAttributes &&& usbConfigAttWakeup ≠ 0 ∧
      ∃ j ms, i = j + 1 ∧ log[j]? = some (.armed ms) := by
  have hwake : WakeInv p s log := by
    refine run_invariant (P := fun _ q => WakeInv p q.1 q.2) ?_ ?_ h
    · exact ⟨nofun, nofun⟩
    · rintro t ⟨s, log⟩ e ⟨s', log'⟩ hrun hwake hlog
      obtain ⟨out, hstep, rfl⟩ := logged_eq_some.1 hlog
      obtain ⟨hacc, hhandle⟩ := oneStep_eq_some.1 hstep
      exact hwake.step (oneRun_inv hrun) hacc hhandle
  exact hwake.wakeups i bmAttributes hi

/-- Two suspends and one wakeup. -/
def suspends : List OneEvent :=
  [.bind bindOk, .suspend true, .resume, .suspend true, .suspend false, .timer true true]

theorem suspends_wakeup : ∃ s log, oneRun ⟨1, 3, 1000⟩ 4096 32 suspends = some (s, log) ∧
    log[4]? = some (.wakeup 0x60) ∧ ∃ j ms, 4 = j + 1 ∧ log[j]? = some (.armed ms) := by
  obtain ⟨⟨s, log⟩, hrun, hi⟩ : ∃ q, oneRun ⟨1, 3, 1000⟩ 4096 32 suspends = some q ∧
      q.2[4]? = some (.wakeup 0x60) := ⟨_, rfl, rfl⟩
  exact ⟨s, log, hrun, hi, (one_wakeups hrun hi).2⟩

/-! ## Delays -/

/-- The delays since the last bind. -/
def sinceBind (log : List OneRecord) : List ULONG :=
  log.foldl (fun delays r =>
    match r with
    | .bindReturned _ => []
    | .armed ms => delays ++ [ms]
    | .putFunction _ | .putInstance _ | .freedOtg _ | .disarmed | .wakeup _ => delays) []

/-- The delay of a suspend that finds `autoresume_step_ms`. -/
def OneParams.delay (p : OneParams) (stepMs : ULONG) : ULONG :=
  if p.maxAutoresume ≠ 0 ∧ p.maxAutoresume * 1000 < stepMs then p.autoresume * 1000 else stepMs

/-- What the `n`-th suspend after a bind finds. -/
def OneParams.stepMs (p : OneParams) : Nat → ULONG
  | 0 => p.autoresume * 1000
  | n + 1 => p.delay (p.stepMs n) + p.autoresumeIntervalMs

/-- The delays there were, and the next one. -/
def DelayInv (p : OneParams) (s : GadgetOne) (log : List OneRecord) : Prop :=
  s.bound = true → p.autoresume ≠ 0 → ∃ n,
    sinceBind log = (List.range n).map (fun k => p.delay (p.stepMs k)) ∧
      s.autoresumeStepMs = p.stepMs n

theorem DelayInv.step (h : DelayInv p s log) (hinv : OneIdle s log ∨ OneBound p s log)
    {e : OneEvent} (hacc : s.accepts e = true) (hstep : oneHandle p s e = some (s', out)) :
    DelayInv p s' (log ++ out) := by
  have hkept : ∀ {s' : GadgetOne} {r : OneRecord}, sinceBind (log ++ [r]) = sinceBind log →
      s'.bound = s.bound → s'.autoresumeStepMs = s.autoresumeStepMs →
        DelayInv p s' (log ++ [r]) := by
    intro s' r hsince hbound hstepMs hb hauto
    rw [hsince, hstepMs]
    exact h (hbound ▸ hb) hauto
  cases e with
  | bind o =>
    rcases hinv with hidle | hbound
    · obtain ⟨s₁, out₁, hbind, hended⟩ := hidle.bind p o
      cases hbind.symm.trans hstep
      rcases hended with ⟨hidle', -⟩ | ⟨-, -, hout, hstepMs⟩
      · intro hb
        rw [hidle'.bound] at hb
        cases hb
      · subst hout
        refine fun _ hauto => ⟨0, ?_, hstepMs hauto⟩
        rw [sinceBind, List.foldl_append]
        rfl
    · simp [GadgetOne.accepts, hbound.bound] at hacc
  | unbind =>
    rcases hinv with hidle | hbound
    · simp [GadgetOne.accepts, hidle.bound] at hacc
    · obtain ⟨s₁, out₁, hunbind, hidle, -⟩ := hbound.unbind
      cases hunbind.symm.trans hstep
      intro hb
      rw [hidle.bound] at hb
      cases hb
  | suspend speedKnown =>
    have hsuspend : zeroSuspend p speedKnown s = (s', out) := Option.some.inj hstep
    unfold zeroSuspend at hsuspend
    split at hsuspend
    · obtain ⟨rfl, rfl⟩ := Prod.mk.inj hsuspend
      intro hb hauto
      obtain ⟨n, hsince, hstepMs⟩ := h hb hauto
      have hdelay : p.delay s.autoresumeStepMs = p.delay (p.stepMs n) := by rw [hstepMs]
      refine ⟨n + 1, ?_, ?_⟩
      · rw [List.range_succ, List.map_append, ← hsince, List.map_singleton, ← hdelay, sinceBind,
          List.foldl_append]
        rfl
      · rw [OneParams.stepMs, ← hdelay]
        rfl
    · obtain ⟨rfl, rfl⟩ := Prod.mk.inj hsuspend
      rw [List.append_nil]
      exact h
  | resume =>
    obtain ⟨rfl, rfl⟩ := Prod.mk.inj (Option.some.inj hstep)
    exact hkept (by rw [sinceBind, List.foldl_append]; rfl) rfl rfl
  | timer configured speedKnown =>
    obtain ⟨rfl, rfl⟩ := Prod.mk.inj (Option.some.inj hstep)
    split
    · exact hkept (by rw [sinceBind, List.foldl_append]; rfl) rfl rfl
    · rw [List.append_nil]
      exact h
  | setQlen qlen =>
    obtain ⟨rfl, rfl⟩ := Prod.mk.inj (Option.some.inj hstep)
    rw [List.append_nil]
    exact h

/-- Without a longest delay the delays grow, until they overflow. -/
theorem OneParams.delay_unlimited (hmax : p.maxAutoresume = 0) (n : Nat) :
    p.delay (p.stepMs n) =
      p.autoresume * 1000 + BitVec.ofNat 32 n * p.autoresumeIntervalMs := by
  have hdelay : ∀ x, p.delay x = x := fun x => if_neg fun h => h.1 hmax
  rw [hdelay]
  induction n with
  | zero => simp [OneParams.stepMs]
  | succ n ih =>
    rw [OneParams.stepMs, hdelay, ih, BitVec.ofNat_add, BitVec.add_mul, BitVec.add_assoc]
    simp

/-- With one they start again from the first when they would pass it; a first one above it is the
only one. -/
theorem OneParams.delay_limited {b i m : Nat} (hb : (p.autoresume * 1000).toNat = b)
    (hi : p.autoresumeIntervalMs.toNat = i) (hm : (p.maxAutoresume * 1000).toNat = m)
    (hmax : p.maxAutoresume ≠ 0) (hfit : m + i < 2 ^ 32) (hfirst : b + i < 2 ^ 32) (n : Nat) :
    (p.delay (p.stepMs n)).toNat = b + n % ((m - b) / i + 1) * i := by
  have hdelay : ∀ x, (p.delay x).toNat = if m < x.toNat then b else x.toNat := by
    intro x
    have hlt : p.maxAutoresume * 1000 < x ↔ m < x.toNat := by rw [BitVec.lt_def, hm]
    unfold OneParams.delay
    by_cases hover : m < x.toNat
    · rw [if_pos ⟨hmax, hlt.2 hover⟩, if_pos hover, hb]
    · rw [if_neg fun h => hover (hlt.1 h.2), if_neg hover]
  have hlimit : ∀ x, (p.delay x).toNat = b ∨ (p.delay x).toNat ≤ m := by
    intro x
    rw [hdelay]
    split
    · exact Or.inl rfl
    · next hover => exact Or.inr (Nat.not_lt.1 hover)
  refine sawtooth_eq (d := fun n => (p.delay (p.stepMs n)).toNat) ?_ (fun n => ?_) n
  · change (p.delay (p.autoresume * 1000)).toNat = b
    rw [hdelay, hb, ite_self]
  · have hsum : (p.stepMs (n + 1)).toNat = (p.delay (p.stepMs n)).toNat + i := by
      have hsmall : (p.delay (p.stepMs n)).toNat + i < 2 ^ 32 := by
        rcases hlimit (p.stepMs n) with heq | hle
        · rw [heq]
          exact hfirst
        · exact Nat.lt_of_le_of_lt (Nat.add_le_add_right hle i) hfit
      rw [OneParams.stepMs, BitVec.toNat_add, hi, Nat.mod_eq_of_lt hsmall]
    change (p.delay (p.stepMs (n + 1))).toNat = _
    rw [hdelay, hsum]

/-- **The delays after a bind**: they grow by the interval and overflow, or start again from the
first one before they would pass the longest, which the first one itself may be above. -/
theorem one_delays {bulkBuflen qlen : ULONG} {t : List OneEvent}
    (h : oneRun p bulkBuflen qlen t = some (s, log)) (hbound : s.bound = true)
    (hauto : p.autoresume ≠ 0) {n : Nat} {ms : ULONG} (hn : (sinceBind log)[n]? = some ms) :
    (p.maxAutoresume = 0 →
      ms = p.autoresume * 1000 + BitVec.ofNat 32 n * p.autoresumeIntervalMs) ∧
    ∀ b i m, (p.autoresume * 1000).toNat = b → p.autoresumeIntervalMs.toNat = i →
      (p.maxAutoresume * 1000).toNat = m → p.maxAutoresume ≠ 0 → m + i < 2 ^ 32 →
        b + i < 2 ^ 32 → ms.toNat = b + n % ((m - b) / i + 1) * i := by
  have hdelays : DelayInv p s log := by
    refine run_invariant (P := fun _ q => DelayInv p q.1 q.2) ?_ ?_ h
    · intro hb
      cases hb
    · rintro t ⟨s, log⟩ e ⟨s', log'⟩ hrun hdelays hlog
      obtain ⟨out, hstep, rfl⟩ := logged_eq_some.1 hlog
      obtain ⟨hacc, hhandle⟩ := oneStep_eq_some.1 hstep
      exact hdelays.step (oneRun_inv hrun) hacc hhandle
  obtain ⟨count, hsince, -⟩ := hdelays hbound hauto
  have hms : p.delay (p.stepMs n) = ms := by
    rw [hsince, List.getElem?_map, Option.map_eq_some_iff] at hn
    obtain ⟨k, hk, hms⟩ := hn
    obtain ⟨hlt, hkn⟩ := List.getElem?_eq_some_iff.1 hk
    rw [List.getElem_range] at hkn
    rw [hkn]
    exact hms
  refine ⟨fun hmax => ?_, fun b i m hb hi hm hmax hfit hfirst => ?_⟩
  · rw [← hms]
    exact OneParams.delay_unlimited hmax n
  · rw [← hms]
    exact OneParams.delay_limited hb hi hm hmax hfit hfirst n

theorem suspends_delays : ∃ s log, oneRun ⟨1, 3, 1000⟩ 4096 32 suspends = some (s, log) ∧
    ∃ ms, (sinceBind log)[1]? = some ms ∧
      ms.toNat = 1000 + 1 % ((3000 - 1000) / 1000 + 1) * 1000 := by
  obtain ⟨⟨s, log⟩, hrun, hbound, hms⟩ : ∃ q,
      oneRun ⟨1, 3, 1000⟩ 4096 32 suspends = some q ∧ q.1.bound = true ∧
        (sinceBind q.2)[1]? = some 2000 := ⟨_, rfl, rfl, rfl⟩
  refine ⟨s, log, hrun, 2000, hms, ?_⟩
  exact (one_delays hrun hbound (by decide) hms).2 1000 1000 3000 rfl rfl rfl (by decide)
    (by decide) (by decide)

end

end UdeSample
