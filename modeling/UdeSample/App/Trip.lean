import UdeSample.App.TestApp

/-!
# Missions and their responses

`commandTrip_correlated`: a trip whose last read succeeds has read the response to its own mission,
in every run whose trips all start clean. The invariant is that each mission channel carries the
message of the current trip only (`Carries`), and that AutoBot works on the mission of the current
trip only. A trip that exits early may leave its message behind; the next one then reads it
(`leftoverTrip_mixed`).
-/

namespace UdeSample

open Lib

/-! ## What AutoBot answers -/

def autoBotResponse (commandStr : List UInt8) : List UInt8 :=
  let mission := (cstring commandStr).take 249
  mission ++ responseSuffix.take (249 - mission.length)

theorem responseSuffix_ne_zero : ∀ a ∈ responseSuffix, a ≠ 0 := by decide +kernel

theorem length_autoBotResponse (commandStr : List UInt8) :
    (autoBotResponse commandStr).length ≤ 249 := by
  simp only [autoBotResponse, List.length_append, List.length_take]
  omega

theorem autoBotGot_string_length (buffer : TextBuffer) (bs : List UInt8) :
    (autoBotGot buffer bs).string.length ≤ 249 := by
  rw [autoBotGot, CharBuffer.string_terminate, List.length_take]
  exact Nat.min_le_left _ _

/-- The text that AutoBot appends is cut where the buffer ends. -/
theorem autoBotWorked_string (buffer : TextBuffer) (bs : List UInt8) :
    (autoBotWorked (autoBotGot buffer bs)).string = (autoBotGot buffer bs).string ++
      responseSuffix.take (249 - (autoBotGot buffer bs).string.length) := by
  have hle := autoBotGot_string_length buffer bs
  rw [autoBotWorked, CharBuffer.string_terminate,
    CharBuffer.string_append hle responseSuffix_ne_zero]
  refine List.take_of_length_le ?_
  rw [List.length_append, List.length_take]
  omega

/-- **AutoBot answers what it read last**, whatever its buffer held before. -/
theorem autoBotWorked_got (buffer : TextBuffer) (commandStr : List UInt8) :
    (autoBotWorked (autoBotGot buffer ((sentString commandStr).take 250))).string =
      autoBotResponse commandStr := by
  have hstring : cstring (sentString commandStr) = cstring commandStr :=
    cstring_append_zero (fun _ => ne_zero_of_mem_cstring) []
  -- the mission ends in a NUL, or fills the buffer
  have hend : 0 ∈ (sentString commandStr).take 250 ∨
      250 ≤ ((sentString commandStr).take 250).length := by
    by_cases hlen : (sentString commandStr).length ≤ 250
    · rw [List.take_of_length_le hlen]
      exact Or.inl (by simp [sentString])
    · exact Or.inr (by rw [List.length_take]; omega)
  have hgot : (autoBotGot buffer ((sentString commandStr).take 250)).string =
      (cstring commandStr).take 249 := by
    rw [autoBotGot, CharBuffer.string_terminate_read _ (hend.imp_right Nat.le_of_succ_le),
      cstring_take, List.take_take, hstring]
    rfl
  rw [autoBotWorked_string, hgot]
  rfl

/-! ## The message of a trip in a channel -/

/-- The current trip's message in each channel: its mission, and the response to it. -/
def CommandTrip.message (trip : CommandTrip) : MissionChannel → List MissionByte
  | .missionRequest => ofTrip trip.number (sentString trip.commandStr)
  | .missionCompletion => ofTrip trip.number (autoBotResponse trip.commandStr ++ [0])

/-- A channel carries one message only, and its parked reads are reads of the channel. -/
structure Carries (message : List MissionByte) (ch : MissionChannel) (q : WRQueue MissionByte) :
    Prop where
  writes : ∀ w ∈ q.writeBufferQueue, w.bufferStart = message
  reads : ∀ r ∈ q.readBufferQueue.requests, r.source = ch.readSource

/-- A completion that brings a read of the channel that message, if anything. -/
def Brings (message : List MissionByte) (ch : MissionChannel)
    (c : Completion MissionByte ULONG) : Prop :=
  (c.request.source = ch.readSource ∨ c.request.source = ch.writeSource) ∧
    (c.request.source = ch.readSource → ntSuccess c.status = true →
      c.data.read = message.take c.request.buffer.length)

section

variable {message : List MissionByte} {ch : MissionChannel} {q q' : WRQueue MissionByte}
  {fx : List (Effect MissionByte ULONG)}

theorem brings_write {request : WdfRequest MissionByte} (hsource : request.source = ch.writeSource)
    (api : CompletionApi) (status : NTSTATUS) (n : Nat) :
    Brings message ch (completeRequest api request status n) :=
  ⟨Or.inr hsource, fun h _ => absurd (hsource.symm.trans h) (writeSource_ne_readSource ch ch)⟩

theorem brings_failed {request : WdfRequest MissionByte} (hsource : request.source = ch.readSource)
    (api : CompletionApi) {status : NTSTATUS} (hfail : ntSuccess status = false) (n : Nat) :
    Brings message ch (completeRequest api request status n) :=
  ⟨Or.inl hsource, fun _ hok => absurd (hfail.symm.trans hok) (by decide)⟩

theorem brings_answered {request : WdfRequest MissionByte}
    (hsource : request.source = ch.readSource) (api : CompletionApi) :
    Brings message ch (answeredRead api request message) := by
  refine ⟨Or.inl hsource, ?_⟩
  intro _ _
  simp [answeredRead, Transfer.read, List.take_eq_take_iff, Nat.min_comm]

theorem Carries.write {api readApi : CompletionApi} {request : WdfRequest MissionByte} {ok : Prop}
    (h : Carries message ch q) (hsource : request.source = ch.writeSource)
    (hmessage : request.buffer = message) (hwrite : WriteStep api readApi request ok q q' fx) :
    Carries message ch q' ∧ ∀ c ∈ completions fx, Brings message ch c := by
  cases hwrite with
  | refused hok hfail =>
    refine ⟨h, ?_⟩
    intro c hc
    obtain rfl := List.mem_singleton.1 hc
    exact brings_write hsource ..
  | lost hok hread hfail =>
    refine ⟨⟨h.writes, fun r hr => h.reads r (by rw [hread]; exact List.mem_cons_of_mem _ hr)⟩,
      List.forall_mem_cons.2 ⟨?_, List.forall_mem_singleton.2 (brings_write hsource ..)⟩⟩
    exact brings_failed (h.reads _ (by simp [hread])) _ hfail _
  | handed hok hread =>
    refine ⟨⟨h.writes, fun r hr => h.reads r (by rw [hread]; exact List.mem_cons_of_mem _ hr)⟩,
      List.forall_mem_cons.2 ⟨?_, List.forall_mem_singleton.2 (brings_write hsource ..)⟩⟩
    rw [hmessage]
    exact brings_answered (h.reads _ (by simp [hread])) _
  | stored hok hread =>
    refine ⟨⟨?_, h.reads⟩, List.forall_mem_singleton.2 (brings_write hsource ..)⟩
    intro w hw
    rcases List.mem_append.1 hw with hw | hw
    · exact h.writes w hw
    · obtain rfl := List.mem_singleton.1 hw
      exact hmessage

theorem Carries.read {api : CompletionApi} {request : WdfRequest MissionByte} {ok : Prop}
    (h : Carries message ch q) (hsource : request.source = ch.readSource)
    (hread : ReadStep api request ok q q' fx) :
    Carries message ch q' ∧ ∀ c ∈ completions fx, Brings message ch c := by
  cases hread with
  | dropped hok => exact ⟨h, fun c hc => (nomatch hc)⟩
  | parked hok hwrites =>
    refine ⟨⟨h.writes, ?_⟩, fun c hc => (nomatch hc)⟩
    intro r hr
    rcases List.mem_append.1 hr with hr | hr
    · exact h.reads r hr
    · obtain rfl := List.mem_singleton.1 hr
      exact hsource
  | served hok hwrites =>
    refine ⟨⟨fun w hw => h.writes w (by rw [hwrites]; exact List.mem_cons_of_mem _ hw), h.reads⟩,
      List.forall_mem_singleton.2 ?_⟩
    rw [h.writes _ (by simp [hwrites])]
    exact brings_answered hsource _

theorem Carries.cancel {request : WdfRequest MissionByte} {l m : List (WdfRequest MissionByte)}
    (h : Carries message ch q) (hqueue : q.readBufferQueue.requests = l ++ request :: m) :
    Carries message ch
        { q with readBufferQueue := { q.readBufferQueue with requests := l ++ m } } ∧
      Brings message ch (q.readBufferQueue.canceled request) := by
  refine ⟨⟨h.writes, fun r hr => h.reads r ?_⟩, ?_⟩
  · rw [hqueue]
    exact List.mem_append.2 ((List.mem_append.1 hr).imp_right (List.mem_cons_of_mem _))
  · exact brings_failed (h.reads _ (by simp [hqueue])) _ (by decide) _

end

/-! ## The invariant -/

/-- AutoBot works on the mission of the trip, if on one. -/
structure AutoBot.WorksOn (bot : AutoBot) (trip : CommandTrip) : Prop where
  working : ∀ n, bot.phase = .working n →
    n = trip.number ∧ (autoBotWorked bot.buffer).string = autoBotResponse trip.commandStr
  writing : ∀ n, bot.phase = .writing n →
    (bot.writeRequest n).buffer = trip.message .missionCompletion

theorem AutoBot.worksOn_of_idle {bot : AutoBot} (h : bot.mission = none) (trip : CommandTrip) :
    bot.WorksOn trip := by
  constructor <;> intro n hn <;> simp [AutoBot.mission, hn] at h

/-- The channels carry the messages of the current trip, AutoBot works on its mission, and every
trip so far that read a response read its own. -/
structure Correlated (s : TripSystem) : Prop where
  carries : ∀ ch, Carries (s.trip.message ch) ch (s.interrupts.device.channel ch)
  bot : s.bot.WorksOn s.trip
  results : ∀ r ∈ s.results, r.read = ofTrip r.trip (autoBotResponse r.commandStr ++ [0])

/-! ## A call returns -/

def OnMission (trip : CommandTrip) (c : Completion MissionByte ULONG) : Prop :=
  ∃ ch, Brings (trip.message ch) ch c

section

variable {trip trip' : CommandTrip} {c : Completion MissionByte ULONG}

theorem OnMission.mission (h : OnMission trip c) (hsource : c.request.source = .read)
    (hok : ntSuccess c.status = true) :
    c.data.read = (trip.message .missionRequest).take c.request.buffer.length := by
  obtain ⟨ch, hch, hdata⟩ := h
  cases ch with
  | missionRequest => exact hdata hsource hok
  | missionCompletion => rw [hsource] at hch; rcases hch with hch | hch <;> cases hch

theorem OnMission.response (h : OnMission trip c) (hsource : c.request.source = .bulkIn)
    (hok : ntSuccess c.status = true) :
    c.data.read = (trip.message .missionCompletion).take c.request.buffer.length := by
  obtain ⟨ch, hch, hdata⟩ := h
  cases ch with
  | missionRequest => rw [hsource] at hch; rcases hch with hch | hch <;> cases hch
  | missionCompletion => exact hdata hsource hok

theorem CommandTrip.message_congr (hnumber : trip'.number = trip.number)
    (hcommand : trip'.commandStr = trip.commandStr) (ch : MissionChannel) :
    trip'.message ch = trip.message ch := by
  cases ch <;> simp only [CommandTrip.message, hnumber, hcommand]

theorem CommandTrip.returned_same (trip : CommandTrip) (c : Completion MissionByte ULONG) :
    (trip.returned c).1.number = trip.number ∧
      (trip.returned c).1.commandStr = trip.commandStr := by
  unfold CommandTrip.returned
  split <;> (try split) <;> exact ⟨rfl, rfl⟩

/-- The part of a mission that fits the buffer of AutoBot tells its trip and its text. -/
theorem mission_take (n : Nat) (commandStr : List UInt8) :
    (((ofTrip n (sentString commandStr)).take 250).head?.map MissionByte.trip).getD 0 = n ∧
      charsOf ((ofTrip n (sentString commandStr)).take 250) =
        (sentString commandStr).take 250 := by
  constructor
  · cases h : sentString commandStr with
    | nil => simp [sentString] at h
    | cons a s => rfl
  · rw [ofTrip, ← List.map_take]
    exact charsOf_ofTrip n _

theorem AutoBot.WorksOn.returned {bot : AutoBot} (h : bot.WorksOn trip) (hc : OnMission trip c) :
    (bot.returned c).WorksOn trip := by
  cases hphase : bot.phase with
  | idle | working | stored =>
    simp only [AutoBot.returned, hphase]
    exact h
  | reading =>
    simp only [AutoBot.returned, hphase]
    split
    · next hreq =>
      split
      · next hok =>
        have hlen : c.request.buffer.length = 250 := by
          rw [hreq, AutoBot.readRequest, length_ofTrip, bot.buffer.size_eq]
        have hread := hc.mission (by rw [hreq]; rfl) hok
        rw [hlen] at hread
        obtain ⟨htrip, hchars⟩ := mission_take trip.number trip.commandStr
        refine ⟨?_, fun n hn => (nomatch hn)⟩
        intro n hn
        obtain rfl := AutoBotPhase.working.inj hn
        rw [hread]
        refine ⟨htrip, ?_⟩
        rw [CommandTrip.message, hchars]
        exact autoBotWorked_got bot.buffer trip.commandStr
      · exact AutoBot.worksOn_of_idle rfl trip
    · exact h
  | writing n =>
    simp only [AutoBot.returned, hphase]
    split
    · split <;> exact AutoBot.worksOn_of_idle rfl trip
    · exact h

theorem CommandTrip.returned_results (hc : OnMission trip c) :
    ∀ r ∈ (trip.returned c).2, r.read = ofTrip r.trip (autoBotResponse r.commandStr ++ [0]) := by
  cases hphase : trip.phase with
  | closed | sent | waiting | notified =>
    simp only [CommandTrip.returned, hphase]
    exact fun r hr => (nomatch hr)
  | writing =>
    simp only [CommandTrip.returned, hphase]
    split <;> exact fun r hr => (nomatch hr)
  | reading =>
    simp only [CommandTrip.returned, hphase]
    split
    · next hreq =>
      split
      · next hok =>
        refine List.forall_mem_singleton.2 ?_
        have hlen : c.request.buffer.length = 250 := by
          rw [hreq, CommandTrip.readRequest, length_ofTrip, trip.buffer.size_eq]
        refine (hc.response (by rw [hreq]; rfl) hok).trans (List.take_of_length_le ?_)
        have hle := length_autoBotResponse trip.commandStr
        rw [hlen, CommandTrip.message, length_ofTrip, List.length_append, List.length_singleton]
        omega
      · exact fun r hr => (nomatch hr)
    · exact fun r hr => (nomatch hr)

end

section

variable {s s' : TripSystem} {c : Completion MissionByte ULONG}

/-- The invariant does not mention the phase of the trip. -/
theorem Correlated.of_same (h : Correlated s) {trip : CommandTrip}
    (hnumber : trip.number = s.trip.number) (hcommand : trip.commandStr = s.trip.commandStr) :
    Correlated { s with trip } where
  carries ch := CommandTrip.message_congr hnumber hcommand ch ▸ h.carries ch
  bot :=
    { working := fun n hn => hnumber ▸ hcommand ▸ h.bot.working n hn
      writing := fun n hn =>
        (h.bot.writing n hn).trans (CommandTrip.message_congr hnumber hcommand _).symm }
  results := h.results

theorem Correlated.returned (h : Correlated s) (hc : OnMission s.trip c) :
    Correlated (s.returned c) := by
  obtain ⟨hnumber, hcommand⟩ := s.trip.returned_same (evtRequestCompletionRoutine c)
  have hbot : Correlated { s with
      bot := s.bot.returned c
      results := s.results ++ (s.trip.returned (evtRequestCompletionRoutine c)).2 } := by
    refine ⟨h.carries, h.bot.returned hc, ?_⟩
    intro r hr
    rcases List.mem_append.1 hr with hr | hr
    · exact h.results r hr
    · exact CommandTrip.returned_results (c := evtRequestCompletionRoutine c) hc r hr
  exact hbot.of_same hnumber hcommand

theorem returned_message (s : TripSystem) (c : Completion MissionByte ULONG) (ch : MissionChannel) :
    (s.returned c).trip.message ch = s.trip.message ch :=
  CommandTrip.message_congr (s.trip.returned_same _).1 (s.trip.returned_same _).2 ch

theorem Correlated.returnedAll {cs : List (Completion MissionByte ULONG)} (h : Correlated s)
    (hcs : ∀ c ∈ cs, OnMission s.trip c) : Correlated (cs.foldl TripSystem.returned s) := by
  induction cs generalizing s with
  | nil => exact h
  | cons c cs ih =>
    apply ih (h.returned (hcs c List.mem_cons_self))
    intro d hd
    obtain ⟨ch, hch⟩ := hcs d (List.mem_cons_of_mem c hd)
    exact ⟨ch, returned_message s c ch ▸ hch⟩

/-! ## One event -/

theorem Correlated.channelEvent (h : Correlated s) (ch : MissionChannel)
    {q : WRQueue MissionByte} {fx : List (Effect MissionByte ULONG)}
    (hq : Carries (s.trip.message ch) ch q)
    (hfx : ∀ c ∈ completions fx, Brings (s.trip.message ch) ch c) :
    Correlated ((completions fx).foldl TripSystem.returned
      { s with interrupts :=
        { s.interrupts with device := s.interrupts.device.setChannel ch q } }) := by
  refine Correlated.returnedAll ⟨?_, h.bot, h.results⟩ fun c hc => ⟨ch, hfx c hc⟩
  intro ch'
  by_cases hch : ch' = ch
  · subst hch
    rw [channel_setChannel]
    exact hq
  · rw [channel_setChannel_of_ne hch]
    exact h.carries ch'

/-- What the programs send to the device: reads, and the messages of the trip. -/
def SentBy (trip : CommandTrip) (request : WdfRequest MissionByte) : Prop :=
  ∃ ch : MissionChannel, request.source = ch.readSource ∨
    request.source = ch.writeSource ∧ request.buffer = trip.message ch

theorem Correlated.dispatch (h : Correlated s) {request : WdfRequest MissionByte} {code : ULONG}
    {o : Outcomes} (hsent : SentBy s.trip request)
    (hstep : s.missionEvent (.dispatch request code o) = some s') : Correlated s' := by
  obtain ⟨⟨device, fx⟩, hdev, rfl⟩ := Option.map_eq_some_iff.1 hstep
  obtain ⟨ch, hsent⟩ := hsent
  cases deviceStep_effect hdev with
  | control hsource | urb hsource _ =>
    rw [hsource] at hsent
    cases ch <;> rcases hsent with hsent | ⟨hsent, -⟩ <;> cases hsent
  | write ch' hsource hwrite =>
    rcases hsent with hsent | ⟨hsent, hmessage⟩
    · exact absurd (hsource.symm.trans hsent) (writeSource_ne_readSource ch' ch)
    · obtain rfl := writeSource_injective (hsource.symm.trans hsent)
      obtain ⟨hq, hfx⟩ := (h.carries ch').write hsource hmessage hwrite
      exact h.channelEvent ch' hq hfx
  | read ch' hsource hread =>
    obtain ⟨hq, hfx⟩ := (h.carries ch').read hsource hread
    exact h.channelEvent ch' hq hfx

theorem Correlated.cancel (h : Correlated s) {ch : MissionChannel} {i : Nat}
    (hstep : s.missionEvent (.cancel ch.manualQueue i) = some s') : Correlated s' := by
  obtain ⟨⟨device, fx⟩, hdev, rfl⟩ := Option.map_eq_some_iff.1 hstep
  cases deviceStep_effect hdev with
  | @cancel _ request l m hqueue =>
    have hqueue' :
        (s.interrupts.device.channel ch).readBufferQueue.requests = l ++ request :: m := by
      rw [← manualQueue_channel]
      exact hqueue
    obtain ⟨hq, hc⟩ := (h.carries ch).cancel hqueue'
    cases ch <;> exact h.channelEvent _ hq (List.forall_mem_singleton.2 hc)

theorem Correlated.sendUrb (h : Correlated s) {request : WdfRequest MissionByte}
    {send : NtResult Unit} {o : Outcomes} (hsent : SentBy s.trip request)
    (hstep : s.sendUrb (osrSendToPipe request send) o = some s') : Correlated s' := by
  rcases osrSendToPipe_cases (F := ULONG) request send with hok | ⟨status, hfail, herr⟩
  · rw [hok] at hstep
    exact h.dispatch hsent hstep
  · rw [herr] at hstep
    obtain rfl := Option.some.inj hstep
    obtain ⟨ch, hread | ⟨hwrite, -⟩⟩ := hsent
    · exact h.returned ⟨ch, brings_failed hread _ hfail _⟩
    · exact h.returned ⟨ch, brings_write hwrite ..⟩

theorem CommandTrip.gotInterrupts_same (trip : CommandTrip)
    (cs : List (Completion MissionByte ULONG)) :
    (cs.foldl CommandTrip.gotInterrupt trip).number = trip.number ∧
      (cs.foldl CommandTrip.gotInterrupt trip).commandStr = trip.commandStr := by
  induction cs generalizing trip with
  | nil => exact ⟨rfl, rfl⟩
  | cons c cs ih =>
    obtain ⟨hnumber, hcommand⟩ := ih (trip.gotInterrupt c)
    have hsame : (trip.gotInterrupt c).number = trip.number ∧
        (trip.gotInterrupt c).commandStr = trip.commandStr := by
      unfold CommandTrip.gotInterrupt
      split <;> exact ⟨rfl, rfl⟩
    exact ⟨hnumber.trans hsame.1, hcommand.trans hsame.2⟩

theorem Correlated.interruptEvent (h : Correlated s) {e : SystemEvent MissionByte ULONG}
    (hstep : s.interruptEvent e = some s') : Correlated s' := by
  obtain ⟨interrupts, hint, rfl⟩ := Option.map_eq_some_iff.1 hstep
  have hnew : Correlated { s with interrupts } :=
    ⟨fun ch => systemStep_channel hint ch ▸ h.carries ch, h.bot, h.results⟩
  obtain ⟨hnumber, hcommand⟩ := s.trip.gotInterrupts_same
    (interrupts.answers.drop s.interrupts.answers.length)
  exact hnew.of_same hnumber hcommand

/-! ## Runs -/

/-- A trip sends its mission only when nothing of an earlier trip is left: no mission is queued,
AutoBot works on none, and no response is queued. -/
def StartsClean (s : TripSystem) : TripEvent → Prop
  | .writeFile .. =>
    s.interrupts.device.missionRequest.writeBufferQueue = [] ∧ s.bot.mission = none ∧
      s.interrupts.device.missionCompletion.writeBufferQueue = []
  | _ => True

instance : ∀ s e, Decidable (StartsClean s e)
  | _, .writeFile .. => inferInstanceAs (Decidable (_ ∧ _ ∧ _))
  | _, .getInterruptMessage _ | _, .readFile .. | _, .exit | _, .botReadFile _
  | _, .botWriteFile _ | _, .botNotify .. | _, .botContinue | _, .cancel .. | _, .interrupt _ =>
    isTrue trivial

theorem Correlated.step (h : Correlated s) {e : TripEvent} (hclean : StartsClean s e)
    (hstep : tripStep s e = some s') : Correlated s' := by
  cases e with
  | writeFile commandStr buffer send o =>
    obtain ⟨hmission, hbot, hresponse⟩ := hclean
    simp only [tripStep] at hstep
    split at hstep
    · refine Correlated.sendUrb ?_ ⟨.missionRequest, Or.inr ⟨rfl, rfl⟩⟩ hstep
      -- the messages change with the trip: a clean start leaves none of the old ones anywhere
      refine ⟨fun ch => ⟨?_, (h.carries ch).reads⟩, AutoBot.worksOn_of_idle hbot _,
        h.results⟩
      intro w hw
      cases ch with
      | missionRequest => exact absurd (hmission ▸ hw) List.not_mem_nil
      | missionCompletion => exact absurd (hresponse ▸ hw) List.not_mem_nil
    · cases hstep
  | getInterruptMessage forward =>
    simp only [tripStep] at hstep
    split at hstep
    · refine Correlated.interruptEvent ?_ hstep
      exact h.of_same rfl rfl
    · cases hstep
  | readFile send o =>
    simp only [tripStep] at hstep
    split at hstep
    · refine Correlated.sendUrb ?_ ⟨.missionCompletion, Or.inl rfl⟩ hstep
      exact h.of_same rfl rfl
    · cases hstep
  | exit =>
    simp only [tripStep] at hstep
    split at hstep
    · obtain rfl := Option.some.inj hstep
      exact h.of_same rfl rfl
    · cases hstep
  | botReadFile o =>
    simp only [tripStep] at hstep
    split at hstep
    · refine Correlated.dispatch ?_ ⟨.missionRequest, Or.inl rfl⟩ hstep
      exact ⟨h.carries, AutoBot.worksOn_of_idle rfl _, h.results⟩
    · cases hstep
  | botWriteFile o =>
    simp only [tripStep] at hstep
    split at hstep
    · next n hphase =>
      obtain ⟨rfl, hstring⟩ := h.bot.working n hphase
      have hmessage : ofTrip s.trip.number (sentString (autoBotWorked s.bot.buffer).chars) =
          s.trip.message .missionCompletion := congrArg (fun r => ofTrip _ (r ++ [0])) hstring
      refine Correlated.dispatch ?_ ⟨.missionCompletion, Or.inr ⟨rfl, hmessage⟩⟩ hstep
      refine ⟨h.carries, ⟨fun m hm => (nomatch hm), ?_⟩, h.results⟩
      intro m hm
      obtain rfl := AutoBotPhase.writing.inj hm
      exact hmessage
    · cases hstep
  | botNotify retrieve o =>
    simp only [tripStep] at hstep
    split at hstep
    · obtain ⟨x, -, rfl⟩ := Option.map_eq_some_iff.1 hstep
      refine ⟨?_, AutoBot.worksOn_of_idle rfl _, h.results⟩
      intro ch
      cases ch <;> exact h.carries _
    · cases hstep
  | botContinue =>
    cases hphase : s.bot.phase with
    | working | stored =>
      simp only [tripStep, hphase] at hstep
      obtain rfl := Option.some.inj hstep
      exact ⟨h.carries, AutoBot.worksOn_of_idle rfl _, h.results⟩
    | idle | reading | writing =>
      simp only [tripStep, hphase] at hstep
      cases hstep
  | cancel ch i => exact h.cancel hstep
  | interrupt e =>
    cases e with
    | get => cases hstep
    | raise | postUrb | cancelUrb | suspend | resume | deliver | cancelGet =>
      exact h.interruptEvent hstep

theorem tripInit_correlated (buffer : TextBuffer) : Correlated (tripInit buffer) where
  carries ch := by
    cases ch <;> exact ⟨fun _ hw => (nomatch hw), fun _ hr => (nomatch hr)⟩
  bot := AutoBot.worksOn_of_idle rfl _
  results _ hr := nomatch hr

/-- **Correlation**: when every trip starts clean, a trip whose last read succeeds has read the
response to its own mission, all of it. -/
theorem commandTrip_correlated {buffer : TextBuffer} {t : List TripEvent}
    (hrun : tripRun buffer t = some s) (hclean : Along StartsClean tripStep (tripInit buffer) t) :
    ∀ r ∈ s.results, r.read = ofTrip r.trip (autoBotResponse r.commandStr ++ [0]) := by
  refine Correlated.results ?_
  exact run_invariant_along (P := fun _ s => Correlated s) (tripInit_correlated buffer)
    (fun _ _ _ _ _ h hc hstep => h.step hc hstep) hrun hclean

end

/-- An empty `buffer`. -/
def emptyBuffer : TextBuffer := ⟨List.replicate 250 0, rfl⟩

/-- The second half of a trip whose mission was sent: AutoBot notifies, and the trip reads. -/
def notifiedTrip : List TripEvent :=
  [.getInterruptMessage outcomesOk.forward, .botNotify (.ok ()) outcomesOk,
    .interrupt (.postUrb ⟨0, .interruptIn, ofTrip 0 [0, 0, 0, 0]⟩ outcomesOk.forward),
    .interrupt .deliver, .readFile (.ok ()) outcomesOk]

/-- AutoBot drops the mission of the first trip, whose request is canceled; the second trip starts
clean. -/
def droppedTrip : List TripEvent :=
  [.writeFile [97] emptyBuffer (.ok ()) outcomesOk, .getInterruptMessage outcomesOk.forward,
    .botReadFile outcomesOk, .botWriteFile { outcomesOk with alloc := false },
    .interrupt (.cancelGet 0), .writeFile [98] emptyBuffer (.ok ()) outcomesOk,
    .botReadFile outcomesOk, .botWriteFile outcomesOk] ++ notifiedTrip

theorem droppedTrip_correlated : ∃ s, tripRun emptyBuffer droppedTrip = some s ∧
    s.results.map TripResult.trip = [2] ∧
    ∀ r ∈ s.results, r.read = ofTrip r.trip (autoBotResponse r.commandStr ++ [0]) := by
  have hrun : (tripRun emptyBuffer droppedTrip).map (fun s => s.results.map TripResult.trip) =
      some [2] := by decide +kernel
  obtain ⟨s, hs, hresults⟩ := Option.map_eq_some_iff.1 hrun
  exact ⟨s, hs, hresults, commandTrip_correlated hs (by decide +kernel)⟩

/-- The first trip gives up while its mission is queued; AutoBot answers it during the second. -/
def leftoverTrip : List TripEvent :=
  [.writeFile [97] emptyBuffer (.ok ()) outcomesOk, .getInterruptMessage outcomesOk.forward,
    .interrupt (.cancelGet 0), .writeFile [98] emptyBuffer (.ok ()) outcomesOk,
    .botReadFile outcomesOk, .botWriteFile outcomesOk] ++ notifiedTrip

/-- The second trip reads the response to the mission of the first. -/
theorem leftoverTrip_mixed : ∃ s, tripRun emptyBuffer leftoverTrip = some s ∧
    s.results = [⟨2, [98], ofTrip 1 (autoBotResponse [97] ++ [0])⟩] ∧
    ¬ ∀ r ∈ s.results, r.read = ofTrip r.trip (autoBotResponse r.commandStr ++ [0]) := by
  have hrun : (tripRun emptyBuffer leftoverTrip).map TripSystem.results =
      some [⟨2, [98], ofTrip 1 (autoBotResponse [97] ++ [0])⟩] := by decide +kernel
  obtain ⟨s, hs, hresults⟩ := Option.map_eq_some_iff.1 hrun
  refine ⟨s, hs, hresults, ?_⟩
  intro hown
  have hread := hown _ (hresults ▸ List.mem_singleton_self _)
  exact absurd hread (by decide +kernel)

end UdeSample
