import UdeSample.Gadget.EchoSteps

/-!
# The loopback function is a line of packets

In every run, whatever fails and however often the function is set up again, the host gets packets
it has sent, each once and in the order it sent them. While the function is set up and nothing
fails it gets all of them, with their boundaries, and a host that goes on reading gets what is
pending.
-/

namespace UdeSample

open Lib

section

variable {β : Type} {cfg : EchoConfig} {memory : Nat → List β} {s s' s₁ s₂ : EchoState β}
  {log log₁ log₂ : List (EchoRecord β)} {t t₁ t₂ : List (EchoEvent β)}

/-! ## The function without the data -/

theorem EchoState.complete_loop {ep : LoopEp} {status : Int} {actual : Nat} {queueResult : Int}
    {out : List (EchoRecord β)}
    (h : s.complete cfg ep status actual queueResult = some (s', out)) :
    loopStep cfg.toLoopConfig s.loop (.complete ep 0 status actual queueResult) =
      some (s'.loop, loopRecords out) := by
  obtain ⟨loop, lout, hacc, hhandle, rfl, rfl⟩ := EchoState.complete_eq_some h
  rw [loopRecords_loop]
  exact loopStep_eq_some.2 ⟨hacc, hhandle⟩

/-- A step is one of `loopStep`, or none. -/
theorem echoStep_loopStep {e : EchoEvent β} {out : List (EchoRecord β)}
    (h : echoStep cfg s e = some (s', out)) :
    (s'.loop = s.loop ∧ loopRecords out = []) ∨
      ∃ e', loopStep cfg.toLoopConfig s.loop e' = some (s'.loop, loopRecords out) := by
  cases e with
  | outPacket packet queueResult =>
    by_cases hle : cfg.maxpacket < packet.length
    · simp [echoStep, hle] at h
    cases hhead : s.head? .outEp with
    | none =>
      simp only [echoStep, if_neg hle, hhead, Option.some.injEq, Prod.mk.injEq] at h
      obtain ⟨rfl, rfl⟩ := h
      exact Or.inl ⟨rfl, rfl⟩
    | some req =>
      simp only [echoStep, if_neg hle, hhead, Option.bind_eq_some_iff, Option.map_eq_some_iff,
        Prod.mk.injEq, Prod.exists] at h
      obtain ⟨r, -, buf, -, s₁, out₁, hfill, rfl, rfl⟩ := h
      change (s₁.loop = s.loop ∧ loopRecords out₁ = []) ∨
        ∃ e', loopStep cfg.toLoopConfig s.loop e' = some (s₁.loop, loopRecords out₁)
      unfold EchoState.fill at hfill
      dsimp only at hfill
      split at hfill
      · exact Or.inr ⟨_, EchoState.complete_loop hfill⟩
      split at hfill
      · exact Or.inr ⟨_, (EchoState.complete_loop hfill :)⟩
      · obtain ⟨rfl, rfl⟩ := Prod.mk.inj (Option.some.inj hfill)
        exact Or.inl ⟨rfl, rfl⟩
  | inPacket queueResult =>
    cases hhead : s.head? .inEp with
    | none =>
      simp only [echoStep, hhead, Option.some.injEq, Prod.mk.injEq] at h
      obtain ⟨rfl, rfl⟩ := h
      exact Or.inl ⟨rfl, rfl⟩
    | some req =>
      simp only [echoStep, hhead, Option.bind_eq_some_iff, Option.map_eq_some_iff,
        Prod.mk.injEq, Prod.exists] at h
      obtain ⟨r, -, buf, -, s₁, out₁, hsend, rfl, rfl⟩ := h
      change (s₁.loop = s.loop ∧ loopRecords out₁ = []) ∨
        ∃ e', loopStep cfg.toLoopConfig s.loop e' = some (s₁.loop, loopRecords out₁)
      unfold EchoState.send at hsend
      split at hsend
      · exact Or.inr ⟨_, EchoState.complete_loop hsend⟩
      · obtain ⟨rfl, rfl⟩ := Prod.mk.inj (Option.some.inj hsend)
        exact Or.inl ⟨rfl, rfl⟩
  | loop e =>
    refine Or.inr ⟨e, ?_⟩
    by_cases hcomplete : ∃ ep i status actual queueResult,
        e = .complete ep i status actual queueResult
    · obtain ⟨ep, i, status, actual, queueResult, rfl⟩ := hcomplete
      by_cases hstatus : status = 0
      · simp [echoStep, hstatus] at h
      simp only [echoStep, if_neg hstatus, Option.map_eq_some_iff, Prod.mk.injEq,
        Prod.exists] at h
      obtain ⟨loop, lout, hstep, rfl, rfl⟩ := h
      rw [loopRecords_loop]
      exact hstep
    · have hne : ∀ ep i status actual queueResult,
          e ≠ .complete ep i status actual queueResult :=
        fun ep i status actual queueResult heq =>
          hcomplete ⟨ep, i, status, actual, queueResult, heq⟩
      rw [echoStep_loop hne] at h
      simp only [Option.map_eq_some_iff, Prod.mk.injEq, Prod.exists] at h
      obtain ⟨loop, lout, hstep, rfl, rfl⟩ := h
      rw [loopRecords_loop]
      exact hstep

/-- The function with the data runs as it does without. -/
theorem echoRun_loopRun (h : echoRun cfg memory t = some (s, log)) :
    ∃ t', loopRun cfg.toLoopConfig t' = some (s.loop, loopRecords log) := by
  refine run_invariant (P := fun _ q => ∃ t', loopRun cfg.toLoopConfig t' =
    some (q.1.loop, loopRecords q.2)) ⟨[], rfl⟩ ?_ h
  rintro - ⟨s, log⟩ e ⟨s', log'⟩ - ⟨t', hrun⟩ hlog
  obtain ⟨out, hstep, rfl⟩ := logged_eq_some.1 hlog
  dsimp only
  rw [loopRecords_append]
  rcases echoStep_loopStep hstep with ⟨hloop, hout⟩ | ⟨e', hloop⟩
  · exact ⟨t', by rw [hloop, hout, List.append_nil]; exact hrun⟩
  · exact ⟨t' ++ [e'], run_concat.2 ⟨_, hrun, logged_eq_some.2 ⟨_, hloop, rfl⟩⟩⟩

/-! ## The endpoints of the function that is set up -/

/-- The endpoint has been enabled, and nothing will disable it before the callback returns. -/
def LoopControl.up : LoopControl → LoopEp → Bool
  | .idle enabled, _ => enabled
  | .enable .outEp, .inEp => true
  | .alloc _, _ => true
  | _, _ => false

theorem allocPair_enabled {cfg : LoopConfig} {o : LoopOutcomes} {ls ls' : LoopState} {result : Int}
    {out : List LoopRecord} (h : allocPair cfg o ls = some ((result, ls'), out)) :
    ls'.enabled = ls.enabled := by
  cases hin : o.allocIn with
  | false =>
    simp only [allocPair, hin, Bool.false_eq_true, if_false, Option.some.injEq, Prod.mk.injEq] at h
    rw [← h.1.2]
  | true =>
    cases hout : o.allocOut with
    | false =>
      simp only [allocPair, hin, hout, if_true, Bool.false_eq_true, if_false,
        Option.map_eq_some_iff, Prod.mk.injEq, Prod.exists] at h
      obtain ⟨heap, frees, -, ⟨-, rfl⟩, -⟩ := h
      rfl
    | true =>
      rw [allocPair_eq hin hout] at h
      dsimp only at h
      by_cases hqueued :
        (if ls.enabled .outEp = true then o.queueResult else -eshutdown) = 0
      · rw [if_pos hqueued] at h
        cases h
        rfl
      · rw [if_neg hqueued] at h
        cases h
        rfl

theorem loopAdvance_up {cfg : LoopConfig} {o : LoopOutcomes} {ls ls' : LoopState}
    {out : List LoopRecord} (h : ∀ ep, ls.control.up ep = true → ls.enabled ep = true)
    (hstep : loopAdvance cfg o ls = some (ls', out)) :
    ∀ ep, ls'.control.up ep = true → ls'.enabled ep = true := by
  unfold loopAdvance at hstep
  cases hc : ls.control with
  | idle enabled => simp [hc] at hstep
  | disable ep k =>
    simp only [hc, Option.some.injEq, Prod.mk.injEq] at hstep
    obtain ⟨rfl, -⟩ := hstep
    exact nofun
  | draining ep k =>
    simp only [hc, Option.some.injEq, Prod.mk.injEq] at hstep
    obtain ⟨rfl, -⟩ := hstep
    rcases k with ⟨_ | _⟩ | _ <;> cases ep <;> nofun
  | enable ep =>
    simp only [hc] at hstep
    split at hstep
    · obtain ⟨rfl, -⟩ := Prod.mk.inj (Option.some.inj hstep)
      intro ep' hup
      by_cases hep : ep' = ep
      · subst hep
        exact Function.update_self ep' true ls.enabled
      · refine (Function.update_of_ne hep true ls.enabled).trans (h ep' ?_)
        rw [hc]
        cases ep with
        | inEp =>
          cases ep' with
          | inEp => exact absurd rfl hep
          | outEp => cases hup
        | outEp =>
          cases ep' with
          | inEp => rfl
          | outEp => exact absurd rfl hep
    · obtain ⟨rfl, -⟩ := Prod.mk.inj (Option.some.inj hstep)
      cases ep <;> nofun
  | alloc i =>
    simp only [hc] at hstep
    split at hstep
    · simp only [Option.map_eq_some_iff, Prod.mk.injEq, Prod.exists] at hstep
      obtain ⟨result, ls₁, out₁, halloc, rfl, -⟩ := hstep
      dsimp only
      split
      · intro ep _
        rw [allocPair_enabled halloc]
        exact h ep (by rw [hc]; rfl)
      · exact nofun
    · obtain ⟨rfl, -⟩ := Prod.mk.inj (Option.some.inj hstep)
      exact fun ep _ => h ep (by rw [hc]; rfl)

theorem loopRun_up {cfg : LoopConfig} {t : List LoopEvent} {ls : LoopState}
    {log : List LoopRecord} (h : loopRun cfg t = some (ls, log)) :
    ∀ ep, ls.control.up ep = true → ls.enabled ep = true := by
  refine run_invariant (P := fun _ q => ∀ ep, q.1.control.up ep = true → q.1.enabled ep = true)
    nofun ?_ h
  rintro t ⟨ls, log⟩ e ⟨ls', log'⟩ hrun hup hlog
  obtain ⟨pairs, hinv⟩ := loopRun_inv hrun
  obtain ⟨out, hstep, -⟩ := logged_eq_some.1 hlog
  obtain ⟨hacc, hhandle⟩ := loopStep_eq_some.1 hstep
  dsimp only at hup ⊢
  cases e with
  | setAlt =>
    obtain ⟨rfl, -⟩ := Prod.mk.inj (Option.some.inj hhandle)
    exact nofun
  | disable =>
    obtain ⟨rfl, -⟩ := Prod.mk.inj (Option.some.inj hhandle)
    exact nofun
  | advance o => exact loopAdvance_up hup hhandle
  | complete ep i status actual queueResult =>
    obtain ⟨henabled, hcontrol⟩ := hinv.complete_frame hacc hhandle
    rw [henabled, hcontrol]
    exact hup

/-- Both endpoints of the function that is set up are enabled. -/
theorem echoRun_enabled (h : echoRun cfg memory t = some (s, log))
    (hup : s.loop.control = .idle true) (ep : LoopEp) : s.loop.enabled ep = true := by
  obtain ⟨t', hrun⟩ := echoRun_loopRun h
  exact loopRun_up hrun ep (by rw [hup]; rfl)

/-! ## Every run -/

theorem echoInv_init (memory : Nat → List β) : EchoInv cfg (echoInit memory) [] where
  loop := ⟨_, loopInv_init⟩
  idle _ _ := rfl
  filling _ _ hhead := by cases hhead

theorem echoRun_inv (h : echoRun cfg memory t = some (s, log)) :
    EchoInv cfg s (loopRecords log) ∧
      (returned log ++ s.pending cfg).Sublist (received log) := by
  refine run_invariant (P := fun _ q => EchoInv cfg q.1 (loopRecords q.2) ∧
    (returned q.2 ++ q.1.pending cfg).Sublist (received q.2)) ⟨echoInv_init memory, ?_⟩ ?_ h
  · exact List.Sublist.refl _
  rintro - ⟨s, log⟩ e ⟨s', log'⟩ - ⟨hinv, hsub⟩ hlog
  obtain ⟨out, hstep, rfl⟩ := logged_eq_some.1 hlog
  have hstepped := hinv.step hstep
  dsimp only at hinv hsub hstepped ⊢
  rw [loopRecords_append, returned_append, received_append]
  refine ⟨hstepped.inv, ?_⟩
  calc
    (returned log ++ returned out ++ s'.pending cfg).Sublist
        (returned log ++ s.pending cfg ++ received out) := by
      rw [List.append_assoc, List.append_assoc]
      exact (List.Sublist.refl _).append hstepped.sublist
    _ |>.Sublist (received log ++ received out) := hsub.append (List.Sublist.refl _)

/-- **Never made up, repeated or reordered**: what the host has got, and may still get, is part of
what it has sent, in that order. -/
theorem echo_inOrder (h : echoRun cfg memory t = some (s, log)) :
    (returned log ++ s.pending cfg).Sublist (received log) := (echoRun_inv h).2

/-- Two pairs with buffers of two packets. -/
def smallEcho : EchoConfig where
  qlen := 2
  buflen := 4
  usbEpAlign := id
  maxpacket := 2
  maxpacket_pos := by decide

def setUp : List (EchoEvent Nat) :=
  .loop .setAlt :: List.replicate 9 (.loop (.advance ⟨0, 0, true, true, 0⟩))

/-- Set up again before the host has read. -/
def interrupted : List (EchoEvent Nat) :=
  let ok := LoopEvent.advance ⟨0, 0, true, true, 0⟩
  setUp ++ [.outPacket [1, 2] 0, .outPacket [3] 0, .outPacket [4, 5] 0, .outPacket [6] 0,
    .inPacket 0, .loop .setAlt, .loop ok, .loop (.complete .inEp 1 (-108) 0 0),
    .loop (.complete .inEp 0 (-108) 0 0)] ++ List.replicate 8 (.loop ok) ++
    [.outPacket [7] 0, .inPacket 0]

theorem interrupted_inOrder : ∃ s log,
    echoRun smallEcho (fun _ => []) interrupted = some (s, log) ∧
      returned log = [[1, 2], [7]] ∧ received log = [[1, 2], [3], [4, 5], [6], [7]] ∧
      (returned log ++ s.pending smallEcho).Sublist (received log) := by
  obtain ⟨⟨s, log⟩, hrun, hreturned, hreceived⟩ : ∃ q,
      echoRun smallEcho (fun _ => []) interrupted = some q ∧ returned q.2 = [[1, 2], [7]] ∧
        received q.2 = [[1, 2], [3], [4, 5], [6], [7]] := ⟨_, rfl, by decide⟩
  exact ⟨s, log, hrun, hreturned, hreceived, echo_inOrder hrun⟩

/-! ## Lossless sessions -/

/-- A session in which nothing fails. -/
structure LosslessSession (cfg : EchoConfig) (s₁ s₂ : EchoState β) (out : List (EchoRecord β)) :
    Prop where
  enabled : s₂.loop.enabled = s₁.loop.enabled
  pairs : s₂.pairs = s₁.pairs
  line : returned out ++ s₂.pending cfg = s₁.pending cfg ++ received out

theorem EchoInv.session (h : EchoInv cfg s₁ (loopRecords log₁))
    (henabled : ∀ ep, s₁.loop.enabled ep = true) (halign : cfg.maxpacket ∣ cfg.outLength)
    (hpos : 0 < cfg.outLength)
    (hrun : run (logged (echoStep cfg)) (s₁, []) t = some (s₂, log₂))
    (hlossless : ∀ e ∈ t, e.Lossless) :
    EchoInv cfg s₂ (loopRecords log₁ ++ loopRecords log₂) ∧ LosslessSession cfg s₁ s₂ log₂ := by
  refine run_invariant_along (C := fun _ e => e.Lossless) (P := fun _ q =>
    EchoInv cfg q.1 (loopRecords log₁ ++ loopRecords q.2) ∧ LosslessSession cfg s₁ q.1 q.2)
    ⟨?_, rfl, rfl, ?_⟩ ?_ hrun ?_
  · simpa [loopRecords] using h
  · simp [returned, received]
  · rintro - ⟨s, log⟩ e ⟨s', log'⟩ - ⟨hinv, hsession⟩ he hlog
    obtain ⟨out, hstep, rfl⟩ := logged_eq_some.1 hlog
    have hstepped := hinv.step hstep
    have henabled' : ∀ ep, s.loop.enabled ep = true := fun ep => by
      rw [hsession.enabled]
      exact henabled ep
    obtain ⟨hsame, hpairs, hline⟩ := hstepped.lossless he henabled' halign hpos
    refine ⟨?_, hsame.trans hsession.enabled, hpairs.trans hsession.pairs, ?_⟩
    · rw [loopRecords_append, ← List.append_assoc]
      exact hstepped.inv
    · have hprev := hsession.line
      dsimp only at hprev hline ⊢
      rw [returned_append, received_append, List.append_assoc, hline, ← List.append_assoc, hprev,
        List.append_assoc]
  · exact along_of_events (fun e he _ => hlossless e he) _

/-- **Nothing is lost** in a session in which nothing fails: the host gets what was pending and what
it has sent, with the same packet boundaries, up to what is pending. -/
theorem echo_lossless (h₁ : echoRun cfg memory t₁ = some (s₁, log₁))
    (hup : s₁.loop.control = .idle true) (halign : cfg.maxpacket ∣ cfg.outLength)
    (hpos : 0 < cfg.outLength)
    (h₂ : run (logged (echoStep cfg)) (s₁, []) t₂ = some (s₂, log₂))
    (hlossless : ∀ e ∈ t₂, e.Lossless) :
    returned log₂ ++ s₂.pending cfg = s₁.pending cfg ++ received log₂ ∧ s₂.pairs = s₁.pairs ∧
      ∀ msgs rest, s₁.pending cfg = [] →
        received log₂ ++ rest = msgs.flatMap (transferPackets cfg.maxpacket true) →
          messages cfg.maxpacket [] (returned log₂) <+: msgs := by
  obtain ⟨hinv, -⟩ := echoRun_inv h₁
  obtain ⟨-, hsession⟩ := hinv.session (echoRun_enabled h₁ hup) halign hpos h₂ hlossless
  refine ⟨hsession.line, hsession.pairs, fun msgs rest hnil hmsgs => ?_⟩
  have hline := hsession.line
  rw [hnil, List.nil_append] at hline
  rw [← messages_flatMap cfg.maxpacket_pos msgs, ← hmsgs, ← hline, List.append_assoc]
  exact messages_prefix _ _ _ _

def session : List (EchoEvent Nat) :=
  [.outPacket [1, 2] 0, .outPacket [] 0, .outPacket [3, 4] 0, .inPacket 0, .outPacket [5] 0,
    .inPacket 0, .inPacket 0]

theorem session_lossless : ∃ s₁ log₁ s₂ log₂,
    echoRun smallEcho (fun _ => []) setUp = some (s₁, log₁) ∧
      run (logged (echoStep smallEcho)) (s₁, []) session = some (s₂, log₂) ∧
      returned log₂ = [[1, 2], [], [3, 4]] ∧
      returned log₂ ++ s₂.pending smallEcho = s₁.pending smallEcho ++ received log₂ ∧
      messages 2 [] (returned log₂) <+: [[1, 2], [3, 4, 5]] := by
  obtain ⟨⟨s₁, log₁⟩, ⟨s₂, log₂⟩, hrun₁, hrun₂, hup, hnil, hreturned, hmsgs⟩ : ∃ q₁ q₂,
      echoRun smallEcho (fun _ => []) setUp = some q₁ ∧
        run (logged (echoStep smallEcho)) (q₁.1, []) session = some q₂ ∧
        q₁.1.loop.control = .idle true ∧ q₁.1.pending smallEcho = [] ∧
        returned q₂.2 = [[1, 2], [], [3, 4]] ∧ received q₂.2 ++ [] =
          [[1, 2], [3, 4, 5]].flatMap (transferPackets smallEcho.maxpacket true) :=
    ⟨_, _, rfl, rfl, by decide⟩
  have hlossless : ∀ e ∈ session, e.Lossless := by simp [session, EchoEvent.Lossless]
  obtain ⟨hline, -, hwhole⟩ := echo_lossless hrun₁ hup (by decide) (by decide) hrun₂ hlossless
  exact ⟨s₁, log₁, s₂, log₂, hrun₁, hrun₂, hreturned, hline, hwhole _ _ hnil hmsgs⟩

/-! ## Reading -/

/-- A packet is read while there is an IN transfer. -/
theorem EchoInv.read {log : List LoopRecord} (h : EchoInv cfg s log)
    (henabled : ∀ ep, s.loop.enabled ep = true) (hqueue : s.loop.queue .inEp ≠ []) :
    ∃ s' x out, echoStep cfg s (.inPacket 0) = some (s', out) ∧
      EchoInv cfg s' (log ++ loopRecords out) ∧ s'.loop.enabled = s.loop.enabled ∧
      s'.pairs = s.pairs ∧ returned out = [x] ∧ s.unsent cfg = x :: s'.unsent cfg ∧
      s'.filling cfg = s.filling cfg := by
  obtain ⟨pairs, hloop⟩ := h.loop
  obtain ⟨p, hp, hhead⟩ : ∃ p, (pairs .inEp)[0]? = some p ∧
      s.head? .inEp = some p.inReq := by
    have hpairs := hloop.queue .inEp
    unfold EchoState.head?
    rw [if_pos (henabled .inEp), hpairs]
    rw [hpairs] at hqueue
    cases hl : pairs .inEp with
    | nil => exact absurd (by rw [hl]; rfl) hqueue
    | cons p ps => exact ⟨p, rfl, rfl⟩
  have hlive := hloop.heap.live p (List.mem_append_right _ (List.mem_of_getElem? hp))
  obtain ⟨n, z, hget⟩ := hlive.inReq
  obtain ⟨s', out, hsend⟩ : ∃ s' out, s.send cfg ⟨.inEp, some p.buf, some p.outReq, n, z⟩ p.buf 0 =
      some (s', out) := by
    unfold EchoState.send
    split
    · obtain ⟨loop, hhandle, -⟩ := hloop.complete_moved hp (henabled .outEp)
      have hacc : s.loop.accepts (.complete .inEp 0 0 n 0) = true := by
        simp [LoopState.accepts, hloop.queue .inEp, hp, LoopPair.req, hget, henabled .inEp]
      refine ⟨_, _, Option.map_eq_some_iff.2 ⟨(loop, []), ?_, rfl⟩⟩
      exact loopStep_eq_some.2 ⟨hacc, hhandle⟩
    · exact ⟨_, _, rfl⟩
  obtain ⟨hframe, -, heq⟩ := h.send hloop hp rfl hget hsend
  obtain ⟨hunsent, hfilling, hpairs⟩ := heq rfl (henabled .outEp)
  have hstep : echoStep cfg s (.inPacket 0) =
      some (s', .returned ((s.rest ⟨.inEp, some p.buf, some p.outReq, n, z⟩ p.buf).take
        cfg.maxpacket) :: out) := by
    simp only [echoStep, hhead, hget, Option.bind_some, hsend, Option.map_some]
  have hreturned : ∀ x, returned (.returned x :: out) = [x] :=
    fun x => congrArg (x :: ·) hframe.returned
  exact ⟨s', _, _, hstep, hframe.inv, hframe.enabled, hpairs, hreturned _, hunsent, hfilling⟩

theorem EchoInv.drain {log : List LoopRecord} (h : EchoInv cfg s log)
    (henabled : ∀ ep, s.loop.enabled ep = true) (acc : List (EchoRecord β)) :
    ∃ s' out, run (logged (echoStep cfg)) (s, acc)
        (List.replicate (s.unsent cfg).length (.inPacket 0)) = some (s', acc ++ out) ∧
      returned out = s.unsent cfg ∧ s'.loop.queue .inEp = [] ∧
      (s'.loop.queue .outEp).length = s.pairs ∧ s'.pending cfg = s.filling cfg := by
  induction hn : (s.unsent cfg).length generalizing s log acc with
  | zero =>
    have hunsent := List.length_eq_zero_iff.1 hn
    have hqueue : s.loop.queue .inEp = [] := by
      by_contra hne
      obtain ⟨s', x, out, -, -, -, -, -, hcons, -⟩ := h.read henabled hne
      rw [hunsent] at hcons
      cases hcons
    refine ⟨s, [], by simp, hunsent.symm, hqueue, ?_, ?_⟩
    · rw [EchoState.pairs, hqueue]
      rfl
    · rw [EchoState.pending, hunsent]
      rfl
  | succ n ih =>
    have hqueue : s.loop.queue .inEp ≠ [] := by
      intro hnil
      rw [EchoState.unsent, hnil] at hn
      cases hn
    obtain ⟨s₁, x, out₁, hstep, hinv, hsame, hpairs, hx, hunsent, hfilling⟩ :=
      h.read henabled hqueue
    rw [hunsent, List.length_cons] at hn
    obtain ⟨s', out, hrun, hret, hnil, hall, hpending⟩ :=
      ih hinv (fun ep => by rw [hsame]; exact henabled ep) (acc ++ out₁) (Nat.succ.inj hn)
    have hlog : logged (echoStep cfg) (s, acc) (.inPacket 0) = some (s₁, acc ++ out₁) :=
      logged_eq_some.2 ⟨out₁, hstep, rfl⟩
    refine ⟨s', out₁ ++ out, ?_, ?_, hnil, hall.trans hpairs, hpending.trans hfilling⟩
    · rw [List.replicate_succ, run_cons, hlog, ← List.append_assoc]
      exact hrun
    · rw [returned_append, hx, hret, hunsent]
      rfl

/-- **The host that reads gets what is pending**, one packet a time, after which all pairs receive
again. -/
theorem echo_drained (h : echoRun cfg memory t = some (s, log))
    (hup : s.loop.control = .idle true) :
    ∃ s' out, run (logged (echoStep cfg)) (s, [])
        (List.replicate (s.unsent cfg).length (.inPacket 0)) = some (s', out) ∧
      returned out = s.unsent cfg ∧ s'.loop.queue .inEp = [] ∧
      (s'.loop.queue .outEp).length = s.pairs ∧ s'.pending cfg = s.filling cfg :=
  (echoRun_inv h).1.drain (echoRun_enabled h hup) []

theorem backlog_drained : ∃ s log, echoRun smallEcho (fun _ => [])
    (setUp ++ [.outPacket [1, 2] 0, .outPacket [3] 0, .outPacket [4] 0]) = some (s, log) ∧
      ∃ s' out, run (logged (echoStep smallEcho)) (s, [])
          (List.replicate (s.unsent smallEcho).length (.inPacket 0)) = some (s', out) ∧
        returned out = [[1, 2], [3], [4]] ∧ (s'.loop.queue .outEp).length = 2 := by
  obtain ⟨⟨s, log⟩, hrun, hup, hunsent, hpairs⟩ : ∃ q, echoRun smallEcho (fun _ => [])
      (setUp ++ [.outPacket [1, 2] 0, .outPacket [3] 0, .outPacket [4] 0]) = some q ∧
        q.1.loop.control = .idle true ∧ q.1.unsent smallEcho = [[1, 2], [3], [4]] ∧
        q.1.pairs = 2 := ⟨_, rfl, by decide⟩
  obtain ⟨s', out, hdrain, hreturned, -, hall, -⟩ := echo_drained hrun hup
  exact ⟨s, log, hrun, s', out, hdrain, hreturned.trans hunsent, hall.trans hpairs⟩

end

end UdeSample
