import Mathlib.Data.List.Basic

/-!
# A rendezvous channel and its account

A channel keeps the messages nobody has asked for yet (`store`) and the readers that found no
message (`waiting`). Its *account* relates this state to the history of a run: the messages
accepted so far (`sent`) and the hand-overs so far (`got`, each a reader with its message).

`Account` says that the accepted messages are the handed-over ones followed by the stored ones,
in order, and that messages and readers never wait at the same time. Every operation of a channel
keeps it, also one that withdraws readers. When no reader is withdrawn, the account of the readers
(`asked`) holds as well, and the two together determine the hand-overs and both queues from the
two input sequences alone (`Account.got_eq_zip`): their interleaving does not matter.
-/

namespace UdeSample.Lib

universe u v

/-- The state of a rendezvous channel. -/
structure Channel (ω : Type u) (ρ : Type v) where
  store : List ω
  waiting : List ρ

namespace Channel

variable {ω : Type u} {ρ : Type v} {c : Channel ω ρ} {sent : List ω} {got : List (ρ × ω)}

/-- The accepted messages are the handed-over ones followed by the stored ones, and the channel
never holds messages and readers at the same time. -/
structure Account (c : Channel ω ρ) (sent : List ω) (got : List (ρ × ω)) : Prop where
  conserve : sent = got.map Prod.snd ++ c.store
  oneSided : c.store = [] ∨ c.waiting = []

namespace Account

theorem empty : Account (⟨[], []⟩ : Channel ω ρ) [] [] := ⟨rfl, Or.inl rfl⟩

theorem store_nil (h : Account c sent got) {r : ρ} {rs : List ρ} (hw : c.waiting = r :: rs) :
    c.store = [] := by
  rcases h.oneSided with hs | hw'
  · exact hs
  · rw [hw] at hw'; cases hw'

theorem put_waiting (h : Account c sent got) {r : ρ} {rs : List ρ} (hw : c.waiting = r :: rs)
    (w : ω) : Account { c with waiting := rs } (sent ++ [w]) (got ++ [(r, w)]) := by
  have hs : c.store = [] := h.store_nil hw
  refine ⟨?_, Or.inl hs⟩
  rw [h.conserve, hs]
  simp

theorem put_store (h : Account c sent got) (hw : c.waiting = []) (w : ω) :
    Account { c with store := c.store ++ [w] } (sent ++ [w]) got :=
  ⟨by rw [h.conserve, List.append_assoc], Or.inr hw⟩

theorem get_store (h : Account c sent got) {w : ω} {ws : List ω} (hs : c.store = w :: ws) (r : ρ) :
    Account { c with store := ws } sent (got ++ [(r, w)]) := by
  refine ⟨?_, ?_⟩
  · rw [h.conserve, hs]
    simp
  · rcases h.oneSided with hs' | hw
    · rw [hs] at hs'; cases hs'
    · exact Or.inr hw

theorem get_waiting (h : Account c sent got) (hs : c.store = []) (r : ρ) :
    Account { c with waiting := c.waiting ++ [r] } sent got :=
  ⟨h.conserve, Or.inl hs⟩

theorem withdraw (h : Account c sent got) {rs : List ρ} (hsub : rs.Sublist c.waiting) :
    Account { c with waiting := rs } sent got := by
  refine ⟨h.conserve, ?_⟩
  rcases h.oneSided with hs | hw
  · exact Or.inl hs
  · rw [hw] at hsub
    exact Or.inr (List.sublist_nil.1 hsub)

theorem store_eq_drop (h : Account c sent got) : c.store = sent.drop got.length := by
  rw [h.conserve, List.drop_left' (by simp)]

theorem getElem?_got (h : Account c sent got) {k : Nat} {p : ρ × ω} (hk : got[k]? = some p) :
    sent[k]? = some p.2 := by
  have hlt : k < got.length := (List.getElem?_eq_some_iff.1 hk).1
  rw [h.conserve, List.getElem?_append_left (by simpa using hlt), List.getElem?_map, hk]
  rfl

/-- **Interleaving does not matter**: with the account of the readers, the hand-overs are the
readers paired with the messages in order, and what is left of either side is what the other side
did not cover. -/
theorem got_eq_zip (h : Account c sent got) {asked : List ρ}
    (hask : asked = got.map Prod.fst ++ c.waiting) :
    got = asked.zip sent ∧ c.store = sent.drop asked.length ∧
      c.waiting = asked.drop sent.length := by
  have hlen : (got.map Prod.fst).length = (got.map Prod.snd).length := by simp
  have hrest : c.waiting.zip c.store = [] := by
    rcases h.oneSided with hs | hw
    · rw [hs, List.zip_nil_right]
    · rw [hw, List.zip_nil_left]
  refine ⟨?_, ?_, ?_⟩
  · rw [hask, h.conserve, List.zip_append hlen, hrest, List.append_nil, List.zip_map']
    exact (List.map_id got).symm
  · rcases h.oneSided with hs | hw
    · rw [hs, h.conserve, hs, List.append_nil, List.drop_eq_nil_of_le (by simp [hask])]
    · rw [h.conserve, hask, hw, List.append_nil, List.drop_left' (by simp)]
  · rcases h.oneSided with hs | hw
    · rw [hask, h.conserve, hs, List.append_nil, List.drop_left' (by simp)]
    · rw [hask, h.conserve, hw, List.append_nil, List.drop_eq_nil_of_le (by simp)]

end Account

end Channel

end UdeSample.Lib
