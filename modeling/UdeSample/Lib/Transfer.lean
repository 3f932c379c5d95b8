import Mathlib.Data.List.Basic
import Mathlib.Data.List.Flatten

/-!
# Bulk transfers and their packets

A bulk endpoint moves packets of at most `m` elements. A receiver fills a buffer until a packet is
short or the buffer is full (`fillDone`); a sender takes packets off what is left of a transfer
until one is short, or until nothing is left and no empty packet is asked for (`sendDone`).
`transferPackets m zero bytes` is what a sender sends in all (`transferPackets_step`), and a
transfer that a receiver filled is sent again in the very packets it was filled with
(`transferPackets_filled`). `queuePackets` are the packets of a queue of transfers whose first one
is under way.
-/

namespace UdeSample.Lib

universe u v w

variable {α : Type u}

/-- Whether a packet ends a transfer into a buffer of `length`, of which `filled` are filled. -/
def fillDone (m length filled : Nat) (packet : List α) : Bool :=
  decide (packet.length < m) || decide (filled + packet.length = length)

/-- Whether the next packet of what is left of a transfer is its last; `zero` asks for an empty
packet after a last one that is full. -/
def sendDone (m : Nat) (zero : Bool) (rest : List α) : Bool :=
  decide (rest.length < m) || (decide (rest.length = m) && !zero)

/-- The packets of full size. -/
def fullPackets (m : Nat) (bytes : List α) : List (List α) :=
  (List.range (bytes.length / m)).map fun i => (bytes.drop (i * m)).take m

/-- The packets of a transfer: the full ones and a short one, which may be empty. -/
def transferPackets (m : Nat) (zero : Bool) (bytes : List α) : List (List α) :=
  fullPackets m bytes ++
    if bytes = [] ∨ bytes.length % m ≠ 0 ∨ zero = true then
      [bytes.drop (bytes.length / m * m)]
    else []

variable {m : Nat} {zero : Bool} {bytes packet rest : List α}

theorem fullPackets_of_lt (h : bytes.length < m) : fullPackets m bytes = [] := by
  rw [fullPackets, Nat.div_eq_of_lt h]
  rfl

theorem length_div_append (hm : 0 < m) (h : packet.length = m) :
    (packet ++ rest).length / m = rest.length / m + 1 := by
  rw [List.length_append, h, Nat.add_comm, Nat.add_div_right _ hm]

theorem fullPackets_append (hm : 0 < m) (h : packet.length = m) :
    fullPackets m (packet ++ rest) = packet :: fullPackets m rest := by
  have htail : ∀ i, (packet ++ rest).drop ((i + 1) * m) = rest.drop (i * m) := by
    intro i
    rw [Nat.add_mul, Nat.one_mul, Nat.add_comm, ← h, List.drop_append]
    simp
  rw [fullPackets, length_div_append hm h, List.range_succ_eq_map, List.map_cons, List.map_map]
  refine congrArg₂ List.cons ?_ ?_
  · rw [Nat.zero_mul, List.drop_zero, List.take_left' h]
  · refine List.map_congr_left fun i _ => ?_
    rw [Function.comp_apply, Nat.succ_eq_add_one, htail]

theorem transferPackets_of_lt (h : bytes.length < m) : transferPackets m zero bytes = [bytes] := by
  have hcond : bytes = [] ∨ bytes.length % m ≠ 0 ∨ zero = true := by
    rw [Nat.mod_eq_of_lt h]
    rcases Nat.eq_zero_or_pos bytes.length with hnil | hpos
    · exact Or.inl (List.length_eq_zero_iff.1 hnil)
    · exact Or.inr (Or.inl (Nat.ne_of_gt hpos))
  rw [transferPackets, fullPackets_of_lt h, if_pos hcond, Nat.div_eq_of_lt h, Nat.zero_mul]
  rfl

/-- A full packet is followed by the packets of the rest, if there are any. -/
theorem transferPackets_append (hm : 0 < m) (h : packet.length = m) :
    transferPackets m zero (packet ++ rest) =
      packet :: if rest = [] ∧ zero = false then [] else transferPackets m zero rest := by
  have hne : packet ≠ [] := by
    rintro rfl
    exact Nat.ne_of_lt hm h
  have hmod : (packet ++ rest).length % m = rest.length % m := by
    rw [List.length_append, h, Nat.add_mod_left]
  have hdrop : (packet ++ rest).drop ((packet ++ rest).length / m * m) =
      rest.drop (rest.length / m * m) := by
    rw [length_div_append hm h, Nat.add_mul, Nat.one_mul, Nat.add_comm, ← h, List.drop_append]
    simp
  rw [transferPackets, fullPackets_append hm h, hmod, hdrop, List.cons_append]
  by_cases hend : rest = [] ∧ zero = false
  · obtain ⟨rfl, rfl⟩ := hend
    simp [fullPackets, hne]
  · rw [if_neg hend, transferPackets]
    by_cases hrest : rest = []
    · have hz : zero = true := by
        cases zero with
        | true => rfl
        | false => exact absurd ⟨hrest, rfl⟩ hend
      simp [hz]
    · simp [hne, hrest]

/-- **A sender's step**: it takes the first packet off the transfer, and was at its last one or has
the packets of the rest before it. -/
theorem transferPackets_step (hm : 0 < m) (zero : Bool) (bytes : List α) :
    transferPackets m zero bytes =
      bytes.take m :: if sendDone m zero bytes = true then []
        else transferPackets m zero (bytes.drop m) := by
  rcases Nat.lt_or_ge bytes.length m with hlt | hge
  · rw [transferPackets_of_lt hlt, List.take_of_length_le (Nat.le_of_lt hlt), sendDone,
      decide_eq_true hlt]
    rfl
  · have hlen : (bytes.take m).length = m := List.length_take_of_le hge
    have hsplit : transferPackets m zero (bytes.take m ++ bytes.drop m) =
        bytes.take m :: if bytes.drop m = [] ∧ zero = false then []
          else transferPackets m zero (bytes.drop m) := transferPackets_append hm hlen
    rw [List.take_append_drop] at hsplit
    have hdone : sendDone m zero bytes = true ↔ bytes.drop m = [] ∧ zero = false := by
      rw [List.drop_eq_nil_iff]
      cases zero <;> simp [sendDone] <;> omega
    rw [hsplit]
    simp only [hdone]

/-- Full packets are read back from what they fill. -/
theorem fullPackets_flatten (hm : 0 < m) {got : List (List α)} (hgot : ∀ p ∈ got, p.length = m) :
    fullPackets m got.flatten = got := by
  induction got with
  | nil => exact fullPackets_of_lt hm
  | cons p got ih =>
    rw [List.flatten_cons, fullPackets_append hm (hgot p List.mem_cons_self),
      ih fun q hq => hgot q (List.mem_cons_of_mem p hq)]

/-- What is a multiple of the packet size is filled by full packets. -/
theorem exists_flatten (h : m ∣ bytes.length) :
    ∃ got : List (List α), (∀ p ∈ got, p.length = m) ∧ got.flatten = bytes := by
  obtain ⟨n, hn⟩ := h
  induction n generalizing bytes with
  | zero => exact ⟨[], by simp, (List.length_eq_zero_iff.1 hn).symm⟩
  | succ n ih =>
    have hle : m ≤ bytes.length := by
      rw [hn]
      exact Nat.le_mul_of_pos_right m n.succ_pos
    have hrest : (bytes.drop m).length = m * n := by
      rw [List.length_drop, hn, Nat.mul_succ, Nat.add_sub_cancel]
    obtain ⟨got, hgot, hflat⟩ := ih hrest
    refine ⟨bytes.take m :: got, List.forall_mem_cons.2 ⟨List.length_take_of_le hle, hgot⟩, ?_⟩
    rw [List.flatten_cons, hflat, List.take_append_drop]

theorem fullPackets_concat (hm : 0 < m) (h : m ∣ bytes.length) (hp : packet.length = m) :
    fullPackets m (bytes ++ packet) = fullPackets m bytes ++ [packet] := by
  obtain ⟨got, hgot, rfl⟩ := exists_flatten h
  have hall : ∀ p ∈ got ++ [packet], p.length = m := by
    simpa [or_imp, forall_and, hp] using hgot
  have hflat := fullPackets_flatten hm hall
  rw [List.flatten_append, List.flatten_singleton] at hflat
  rw [hflat, fullPackets_flatten hm hgot]

/-- A transfer of full packets and a last one, which is not empty if the transfer ends without an
empty packet. -/
theorem transferPackets_flatten (hm : 0 < m) {got : List (List α)}
    (hgot : ∀ p ∈ got, p.length = m) (hle : packet.length ≤ m)
    (hlast : packet = [] → got ≠ [] → zero = true) (hend : packet.length < m ∨ zero = false) :
    transferPackets m zero (got.flatten ++ packet) = got ++ [packet] := by
  induction got with
  | nil =>
    rw [List.flatten_nil, List.nil_append, List.nil_append, transferPackets_step hm,
      List.take_of_length_le hle, if_pos]
    rcases hend with hlt | rfl
    · simp [sendDone, hlt]
    · simp only [sendDone, Bool.not_false, Bool.and_true, Bool.or_eq_true, decide_eq_true_eq]
      omega
  | cons p got ih =>
    have hp := hgot p List.mem_cons_self
    have hrest : ¬ (got.flatten ++ packet = [] ∧ zero = false) := by
      rintro ⟨hnil, hz⟩
      rw [hlast (List.append_eq_nil_iff.1 hnil).2 (List.cons_ne_nil p got)] at hz
      cases hz
    rw [List.flatten_cons, List.append_assoc, transferPackets_append hm hp, if_neg hrest,
      ih (fun q hq => hgot q (List.mem_cons_of_mem p hq)) (fun hnil _ =>
        hlast hnil (List.cons_ne_nil p got)), List.cons_append]

/-- **A filled transfer is sent as it came**: the full packets and the one that ended it, with an
empty packet asked for when the buffer was not full. -/
theorem transferPackets_filled (hm : 0 < m) {length : Nat} (h : m ∣ bytes.length)
    (hroom : bytes ≠ [] → bytes.length < length)
    (hfit : bytes.length + packet.length ≤ length) (hle : packet.length ≤ m)
    (hdone : fillDone m length bytes.length packet = true) :
    transferPackets m (decide (bytes.length + packet.length < length)) (bytes ++ packet) =
      fullPackets m bytes ++ [packet] := by
  obtain ⟨got, hgot, rfl⟩ := exists_flatten h
  rw [fullPackets_flatten hm hgot]
  refine transferPackets_flatten hm hgot hle ?_ ?_
  · rintro rfl hne
    refine decide_eq_true (hroom ?_)
    obtain ⟨p, got, rfl⟩ := List.exists_cons_of_ne_nil hne
    have hp := hgot p List.mem_cons_self
    intro hnil
    rw [(List.append_eq_nil_iff.1 hnil).1] at hp
    exact Nat.ne_of_lt hm hp
  · rcases Nat.lt_or_ge packet.length m with hlt | hge
    · exact Or.inl hlt
    · refine Or.inr (decide_eq_false ?_)
      simp only [fillDone, Bool.or_eq_true, decide_eq_true_eq] at hdone
      omega

/-! ## Messages -/

/-- The messages in a line of packets: each ends with a short packet; `got` is what there is of the
first one. -/
def messages (m : Nat) (got : List α) : List (List α) → List (List α)
  | [] => []
  | packet :: packets =>
    if packet.length < m then (got ++ packet) :: messages m [] packets
    else messages m (got ++ packet) packets

theorem messages_prefix (m : Nat) (got : List α) (packets more : List (List α)) :
    messages m got packets <+: messages m got (packets ++ more) := by
  induction packets generalizing got with
  | nil => exact List.nil_prefix
  | cons packet packets ih =>
    rw [List.cons_append, messages, messages]
    split
    · exact List.prefix_cons_inj _ |>.2 (ih [])
    · exact ih (got ++ packet)

/-- **A transfer is a message**, if an empty packet follows full ones. -/
theorem messages_transferPackets (hm : 0 < m) (got bytes : List α) (packets : List (List α)) :
    messages m got (transferPackets m true bytes ++ packets) =
      (got ++ bytes) :: messages m [] packets := by
  induction hn : bytes.length using Nat.strongRecOn generalizing got bytes with
  | ind n ih =>
    rw [transferPackets_step hm, List.cons_append, messages, List.length_take]
    rcases Nat.lt_or_ge bytes.length m with hlt | hge
    · have hdone : sendDone m true bytes = true := by simp [sendDone, hlt]
      rw [if_pos (by omega), if_pos hdone, List.take_of_length_le (Nat.le_of_lt hlt)]
      rfl
    · have hmore : sendDone m true bytes = false := by simp [sendDone, hge]
      have hrest := ih (bytes.drop m).length (by rw [List.length_drop]; omega)
        (got ++ bytes.take m) (bytes.drop m) rfl
      rw [if_neg (by omega), if_neg (by simp [hmore]), hrest, List.append_assoc,
        List.take_append_drop]

theorem messages_flatMap (hm : 0 < m) (msgs : List (List α)) :
    messages m [] (msgs.flatMap (transferPackets m true)) = msgs := by
  induction msgs with
  | nil => rfl
  | cons msg msgs ih => rw [List.flatMap_cons, messages_transferPackets hm, ih, List.nil_append]

/-! ## Transfers in a queue -/

section Queue

variable {γ : Type v} {δ : Type w}

/-- The packets of the transfers of a queue, `sent` of the first of which have been sent. -/
def queuePackets (f : Nat → γ → List δ) (sent : Nat) : List γ → List δ
  | [] => []
  | x :: xs => f sent x ++ xs.flatMap (f 0)

variable {f g : Nat → γ → List δ} {sent : Nat} {l : List γ}

theorem queuePackets_zero (f : Nat → γ → List δ) (l : List γ) :
    queuePackets f 0 l = l.flatMap (f 0) := by
  cases l with
  | nil => rfl
  | cons x xs => exact List.flatMap_cons.symm

theorem queuePackets_congr (h : ∀ x ∈ l, ∀ sent, f sent x = g sent x) :
    queuePackets f sent l = queuePackets g sent l := by
  cases l with
  | nil => rfl
  | cons x xs =>
    rw [queuePackets, queuePackets, h x List.mem_cons_self sent,
      List.flatMap_congr fun y hy => h y (List.mem_cons_of_mem x hy) 0]

theorem queuePackets_concat (h : l = [] → sent = 0) (x : γ) :
    queuePackets f sent (l ++ [x]) = queuePackets f sent l ++ f 0 x := by
  cases l with
  | nil => simp [queuePackets, h rfl]
  | cons y ys => simp [queuePackets]

/-- Taking a transfer out of the queue. -/
theorem queuePackets_eraseIdx (f : Nat → γ → List δ) (sent : Nat) (l : List γ) (i : Nat) :
    (queuePackets f (if i = 0 then 0 else sent) (l.eraseIdx i)).Sublist
      (queuePackets f sent l) := by
  cases l with
  | nil => exact List.nil_sublist _
  | cons x xs =>
    cases i with
    | zero =>
      rw [List.eraseIdx_cons_zero, if_pos rfl, queuePackets_zero]
      exact List.sublist_append_right _ _
    | succ i =>
      rw [List.eraseIdx_cons_succ, if_neg i.succ_ne_zero]
      exact (List.Sublist.refl _).append ((List.eraseIdx_sublist xs i).flatMap _)

end Queue

end UdeSample.Lib
