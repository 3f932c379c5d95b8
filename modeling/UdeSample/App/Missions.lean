import UdeSample.App.Trip

/-!
# One mission after another (`AutoBot` in `testapp.c`)

`AutoBot` uses one buffer for all its missions and does not look at the number of bytes it read:
only index 249 is set to NUL. `answersCurrent_iff`: what it answers depends on the current mission
alone exactly when that mission holds a NUL or fills the buffer up to there; otherwise what an
earlier mission left behind it becomes part of the answer.
-/

namespace UdeSample

open Lib

/-- One pass of the loop: the read fails, or brings a mission; the calls after it leave the buffer
alone. -/
inductive BotIteration where
  | readFailed
  | mission (bs : List UInt8)
deriving DecidableEq

/-- The bytes of the `WriteFile` that answers a mission. -/
def autoBotWrites (buffer : TextBuffer) (bs : List UInt8) : List UInt8 :=
  sentString (autoBotWorked (autoBotGot buffer bs)).chars

/-- The buffer after a pass of the loop. -/
def autoBotIteration (buffer : TextBuffer) : BotIteration → TextBuffer
  | .readFailed => buffer
  | .mission bs => autoBotWorked (autoBotGot buffer bs)

/-- The buffer after the passes so far, from whatever it held when the loop was entered. -/
def autoBotHistory (buffer : TextBuffer) (earlier : List BotIteration) : TextBuffer :=
  earlier.foldl autoBotIteration buffer

/-- A pass of the loop is what the calls of `AutoBot` do to it. -/
theorem AutoBot.returned_iteration {bot : AutoBot} (hphase : bot.phase = .reading)
    {c : Completion MissionByte ULONG} (hrequest : c.request = bot.readRequest) :
    if ntSuccess c.status then
      ∃ trip, (bot.returned c).phase = .working trip ∧
        ∀ writing : AutoBot, writing.buffer = autoBotWorked (bot.returned c).buffer →
          writing.buffer = autoBotIteration bot.buffer (.mission (charsOf c.data.read)) ∧
          charsOf (writing.writeRequest trip).buffer =
            autoBotWrites bot.buffer (charsOf c.data.read)
    else (bot.returned c).buffer = autoBotIteration bot.buffer .readFailed := by
  simp only [AutoBot.returned, hphase, if_pos hrequest]
  cases ntSuccess c.status with
  | true =>
    refine ⟨_, rfl, ?_⟩
    intro writing hbuffer
    refine ⟨hbuffer, ?_⟩
    rw [AutoBot.writeRequest, charsOf_ofTrip, hbuffer]
    rfl
  | false => rfl

theorem autoBotWrites_eq (buffer : TextBuffer) (bs : List UInt8) :
    autoBotWrites buffer bs = (autoBotGot buffer bs).string ++
      responseSuffix.take (249 - (autoBotGot buffer bs).string.length) ++ [0] :=
  congrArg (fun text => text ++ [0]) (autoBotWorked_string buffer bs)

/-- A mission that ends in the buffer is answered whatever the buffer held before. -/
theorem autoBotWrites_of_ends (buffer : TextBuffer) {bs : List UInt8}
    (hends : 0 ∈ bs ∨ 249 ≤ bs.length) :
    autoBotWrites buffer bs = autoBotResponse bs ++ [0] := by
  rw [autoBotWrites_eq, autoBotGot, CharBuffer.string_terminate_read _ hends]
  rfl

/-- Behind a mission that does not end, the answer goes on with what was in the buffer, or with the
text that AutoBot appends where that is a NUL. -/
theorem autoBotWrites_leaks (buffer : TextBuffer) {bs : List UInt8} (hnul : 0 ∉ bs)
    (hlen : bs.length < 249) {c : UInt8} (hc : buffer.chars[bs.length]? = some c) :
    (autoBotWrites buffer bs)[bs.length]? = if c = 0 then responseSuffix.head? else some c := by
  obtain ⟨hlt, hget⟩ := List.getElem?_eq_some_iff.1 hc
  have hdrop : buffer.chars.drop bs.length = c :: buffer.chars.drop (bs.length + 1) := by
    rw [List.drop_eq_getElem_cons hlt, hget]
  rw [autoBotWrites_eq, autoBotGot,
    CharBuffer.string_terminate_read_of_not_mem _ hnul (Nat.le_of_lt hlen), hdrop, cstring]
  by_cases h0 : c = 0
  · rw [if_pos h0, List.takeWhile_cons_of_neg (by simp [h0]), List.append_nil,
      List.take_of_length_le (Nat.le_of_lt hlen), List.append_assoc,
      List.getElem?_append_right (Nat.le_refl _), Nat.sub_self]
    obtain ⟨k, hk⟩ := Nat.exists_eq_add_of_lt hlen
    rw [show 249 - bs.length = k + 1 by omega]
    rfl
  · rw [if_neg h0, List.takeWhile_cons_of_pos (by simp [h0]), List.append_assoc,
      List.getElem?_append_left, List.getElem?_take_of_lt hlen,
      List.getElem?_append_right (Nat.le_refl _), Nat.sub_self]
    · rfl
    · rw [List.length_take, List.length_append, List.length_cons]
      omega

/-- A mission that fills the buffer, and leaves its characters there. -/
def longMission : List UInt8 := List.replicate 250 97

theorem longMission_left :
    (autoBotHistory emptyBuffer [.mission longMission]).chars = List.replicate 249 97 ++ [0] := by
  decide +kernel

/-- **AutoBot answers only the current mission** exactly when the mission holds a NUL, or reaches
the last place of the buffer. -/
theorem answersCurrent_iff (bs : List UInt8) :
    (∀ (buffer₁ : TextBuffer) (earlier₁ : List BotIteration) (buffer₂ : TextBuffer)
        (earlier₂ : List BotIteration),
      autoBotWrites (autoBotHistory buffer₁ earlier₁) bs =
        autoBotWrites (autoBotHistory buffer₂ earlier₂) bs) ↔ 0 ∈ bs ∨ 249 ≤ bs.length := by
  constructor
  · intro hall
    by_contra hno
    rw [not_or, Nat.not_le] at hno
    obtain ⟨hnul, hlen⟩ := hno
    -- the buffer is zeroed, or an earlier mission has filled it
    have hzero : (autoBotHistory emptyBuffer []).chars[bs.length]? = some 0 :=
      (List.getElem?_replicate_of_lt (Nat.lt_succ_of_lt hlen))
    have hleft : (autoBotHistory emptyBuffer [.mission longMission]).chars[bs.length]? =
        some 97 := by
      rw [longMission_left, List.getElem?_append_left (by rw [List.length_replicate]; exact hlen),
        List.getElem?_replicate_of_lt hlen]
    have hfirst := autoBotWrites_leaks _ hnul hlen hzero
    have hsecond := autoBotWrites_leaks _ hnul hlen hleft
    rw [hall _ _ emptyBuffer [.mission longMission], hsecond] at hfirst
    cases hfirst
  · intro hends buffer₁ earlier₁ buffer₂ earlier₂
    rw [autoBotWrites_of_ends _ hends, autoBotWrites_of_ends _ hends]

/-- After the mission `secret`, a mission of one character without a NUL is answered with what is
left of the other one. -/
theorem secretMission_leaks :
    ¬ ∀ (buffer₁ : TextBuffer) (earlier₁ : List BotIteration) (buffer₂ : TextBuffer)
        (earlier₂ : List BotIteration) (bs : List UInt8), 1 ≤ bs.length → bs.length ≤ 250 →
      autoBotWrites (autoBotHistory buffer₁ earlier₁) bs =
        autoBotWrites (autoBotHistory buffer₂ earlier₂) bs := by
  intro hall
  have hsame := hall emptyBuffer [] emptyBuffer [.mission [115, 101, 99, 114, 101, 116, 0]] [97]
    (by decide) (by decide)
  exact absurd hsame (by decide +kernel)

end UdeSample
