import UdeSample.App.Trip

/-!
# The text of a round trip (`testapp.c`)

What is left of a mission when it comes back: `CommandTrip` ends up with the first 249 characters
of the mission followed by `_response` (`roundTrip_text`), whether the mission or the response
waited for its reader or the reader for it. `roundTrip` is the run of one trip in which every call
succeeds, with the reader parked first or not at each of the two hops.
-/

namespace UdeSample

open Lib

/-- The buffer of `CommandTrip` after its `ReadFile`, as it is printed. -/
def commandTripGot (buffer : TextBuffer) (bs : List UInt8) : TextBuffer :=
  (buffer.read bs).terminate

/-- The two truncations leave the first 249 characters of the whole text. -/
theorem autoBotResponse_eq (commandStr : List UInt8) :
    autoBotResponse commandStr = (cstring commandStr ++ responseSuffix).take 249 := by
  rw [autoBotResponse, List.take_append, List.length_take]
  congr 2
  omega

theorem cstring_autoBotResponse (commandStr : List UInt8) :
    cstring (autoBotResponse commandStr ++ [0]) = autoBotResponse commandStr := by
  refine cstring_append_zero ?_ []
  intro a ha
  rw [autoBotResponse_eq] at ha
  rcases List.mem_append.1 (List.mem_of_mem_take ha) with ha | ha
  · exact ne_zero_of_mem_cstring ha
  · exact responseSuffix_ne_zero a ha

/-- The response comes with its NUL, so what was in the buffer before does not matter. -/
theorem commandTripGot_string (buffer : TextBuffer) (commandStr : List UInt8) :
    (commandTripGot buffer (autoBotResponse commandStr ++ [0])).string =
      (cstring commandStr ++ responseSuffix).take 249 := by
  rw [commandTripGot, CharBuffer.string_terminate_read _ (Or.inl (by simp)),
    cstring_autoBotResponse, ← autoBotResponse_eq]
  exact List.take_of_length_le (length_autoBotResponse commandStr)

/-! ## Calls that succeed -/

section

variable {β F : Type} [Zero F] {s : DeviceState β F} {ch : MissionChannel}
  {request : WdfRequest β} {code : ULONG} {o : Outcomes}

variable (s request code o) in
theorem dispatch_isSome (hsource : request.source ≠ .ioctl) :
    ∃ s' effects, deviceStep s (.dispatch request code o) = some (s', effects) := by
  cases h : request.source <;> simp [deviceStep, h]
  exact absurd h hsource

variable (s code o) in
theorem dispatch_write (hsource : request.source = ch.writeSource) :
    ∃ q effects, deviceStep s (.dispatch request code o) = some (s.setChannel ch q, effects) ∧
      WriteStep ch.writeApi ch.readApi request (ch.WriteOk code request o (s.channel ch))
        (s.channel ch) q effects := by
  obtain ⟨s', effects, hstep⟩ := dispatch_isSome s request code o
    (by rw [hsource]; cases ch <;> decide)
  cases deviceStep_effect hstep with
  | write ch' hsource' hwrite =>
    obtain rfl := writeSource_injective (hsource.symm.trans hsource')
    exact ⟨_, effects, hstep, hwrite⟩
  | read ch' hsource' _ =>
    exact absurd (hsource.symm.trans hsource') (writeSource_ne_readSource _ _)
  | control hsource' => cases ch <;> cases hsource.symm.trans hsource'
  | urb hsource' _ => cases ch <;> cases hsource.symm.trans hsource'

variable (s code o) in
theorem dispatch_read (hsource : request.source = ch.readSource) :
    ∃ q effects, deviceStep s (.dispatch request code o) = some (s.setChannel ch q, effects) ∧
      ReadStep ch.readApi request (ch.ReadOk code request o (s.channel ch)) (s.channel ch) q
        effects := by
  obtain ⟨s', effects, hstep⟩ := dispatch_isSome s request code o
    (by rw [hsource]; cases ch <;> decide)
  cases deviceStep_effect hstep with
  | read ch' hsource' hread =>
    obtain rfl := readSource_injective (hsource.symm.trans hsource')
    exact ⟨_, effects, hstep, hread⟩
  | write ch' hsource' _ =>
    exact absurd (hsource'.symm.trans hsource) (writeSource_ne_readSource _ _)
  | control hsource' => cases ch <;> cases hsource.symm.trans hsource'
  | urb hsource' _ => cases ch <;> cases hsource.symm.trans hsource'

/-- A write that no reader waits for. -/
theorem dispatch_stored (hsource : request.source = ch.writeSource)
    (hok : ch.WriteOk code request o (s.channel ch))
    (hreads : (s.channel ch).readBufferQueue.requests = []) :
    deviceStep s (.dispatch request code o) =
      some (s.setChannel ch { s.channel ch with
          writeBufferQueue := (s.channel ch).writeBufferQueue ++
            [BufferContent.ofBuffer request.buffer] },
        [.complete (completeRequest ch.writeApi request statusSuccess request.buffer.length)]) := by
  obtain ⟨q, effects, hstep, hwrite⟩ := dispatch_write s code o hsource
  rw [hstep]
  cases hwrite with
  | refused hno => exact absurd hok hno
  | lost hno => exact absurd hok hno
  | handed _ hread => rw [hreads] at hread; cases hread
  | stored => rfl

/-- A write that a parked reader waits for. -/
theorem dispatch_handed (hsource : request.source = ch.writeSource)
    (hok : ch.WriteOk code request o (s.channel ch)) {r : WdfRequest β}
    {rs : List (WdfRequest β)} (hreads : (s.channel ch).readBufferQueue.requests = r :: rs)
    (hd : (s.channel ch).readBufferQueue.dispatching = true) :
    deviceStep s (.dispatch request code o) =
      some (s.setChannel ch { s.channel ch with
          readBufferQueue := { (s.channel ch).readBufferQueue with requests := rs } },
        [.complete (answeredRead ch.readApi r request.buffer),
          .complete
            (completeRequest ch.writeApi request statusSuccess request.buffer.length)]) := by
  obtain ⟨q, effects, hstep, hwrite⟩ := dispatch_write s code o hsource
  rw [hstep]
  cases hwrite with
  | refused hno => exact absurd hok hno
  | lost hno => exact absurd hok hno
  | handed _ hread =>
    cases hreads.symm.trans hread
    rfl
  | stored _ hnone =>
    rw [wrQueueTakeRead_eq_none hd, hreads] at hnone
    cases hnone

/-- A read that finds no write. -/
theorem dispatch_parked (hsource : request.source = ch.readSource)
    (hok : ch.ReadOk code request o (s.channel ch))
    (hwrites : (s.channel ch).writeBufferQueue = []) :
    deviceStep s (.dispatch request code o) =
      some (s.setChannel ch { s.channel ch with
          readBufferQueue := { (s.channel ch).readBufferQueue with
            requests := (s.channel ch).readBufferQueue.requests ++ [request] } }, []) := by
  obtain ⟨q, effects, hstep, hread⟩ := dispatch_read s code o hsource
  rw [hstep]
  cases hread with
  | dropped hno => exact absurd hok hno
  | parked => rfl
  | served _ hne => rw [hwrites] at hne; cases hne

/-- A read that finds a write. -/
theorem dispatch_served (hsource : request.source = ch.readSource)
    (hok : ch.ReadOk code request o (s.channel ch)) {w : BufferContent β}
    {ws : List (BufferContent β)} (hwrites : (s.channel ch).writeBufferQueue = w :: ws) :
    deviceStep s (.dispatch request code o) =
      some (s.setChannel ch { s.channel ch with writeBufferQueue := ws },
        [.complete (answeredRead ch.readApi request w.bufferStart)]) := by
  obtain ⟨q, effects, hstep, hread⟩ := dispatch_read s code o hsource
  rw [hstep]
  cases hread with
  | dropped hno => exact absurd hok hno
  | parked _ hnil => rw [hwrites] at hnil; cases hnil
  | served _ hcons =>
    cases hwrites.symm.trans hcons
    rfl

end

/-! ## The calls of the two programs -/

theorem AutoBot.returned_of_bulk (bot : AutoBot) {c : Completion MissionByte ULONG}
    (hsource : c.request.source = .bulkOut ∨ c.request.source = .bulkIn) :
    bot.returned c = bot := by
  have hread : c.request ≠ bot.readRequest := by
    intro heq
    rw [heq] at hsource
    rcases hsource with hsource | hsource <;> cases hsource
  have hwrite (n : Nat) : c.request ≠ bot.writeRequest n := by
    intro heq
    rw [heq] at hsource
    rcases hsource with hsource | hsource <;> cases hsource
  cases hphase : bot.phase <;> simp [AutoBot.returned, hphase, hread, hwrite]

theorem CommandTrip.returned_of_bot (trip : CommandTrip) {c : Completion MissionByte ULONG}
    (hsource : c.request.source = .read ∨ c.request.source = .write) :
    trip.returned c = (trip, []) := by
  have hread : c.request ≠ trip.readRequest := by
    intro heq
    rw [heq] at hsource
    rcases hsource with hsource | hsource <;> cases hsource
  have hwrite : c.request ≠ trip.writeRequest := by
    intro heq
    rw [heq] at hsource
    rcases hsource with hsource | hsource <;> cases hsource
  cases hphase : trip.phase <;> simp [CommandTrip.returned, hphase, hread, hwrite]

def TripSystem.channel (s : TripSystem) (ch : MissionChannel) : WRQueue MissionByte :=
  s.interrupts.device.channel ch

def TripSystem.setChannel (s : TripSystem) (ch : MissionChannel) (q : WRQueue MissionByte) :
    TripSystem :=
  { s with interrupts := { s.interrupts with device := s.interrupts.device.setChannel ch q } }

section

variable {s : TripSystem} {ch : MissionChannel} {q : WRQueue MissionByte}

theorem missionEvent_eq {e : DeviceEvent MissionByte ULONG}
    {fx : List (Effect MissionByte ULONG)}
    (h : deviceStep s.interrupts.device e = some (s.interrupts.device.setChannel ch q, fx)) :
    s.missionEvent e =
      some ((completions fx).foldl TripSystem.returned (s.setChannel ch q)) := by
  rw [TripSystem.missionEvent, h]
  rfl

/-- A completed call of AutoBot. -/
theorem returned_of_bot {c : Completion MissionByte ULONG}
    (hsource : c.request.source = .read ∨ c.request.source = .write) :
    s.returned c = { s with bot := s.bot.returned c } := by
  simp [TripSystem.returned, s.trip.returned_of_bot (c := evtRequestCompletionRoutine c) hsource]

/-- A completed call of the trip. -/
theorem returned_of_bulk {c : Completion MissionByte ULONG}
    (hsource : c.request.source = .bulkOut ∨ c.request.source = .bulkIn) :
    s.returned c = { s with
      trip := (s.trip.returned (evtRequestCompletionRoutine c)).1
      results := s.results ++ (s.trip.returned (evtRequestCompletionRoutine c)).2 } := by
  simp [TripSystem.returned, s.bot.returned_of_bulk hsource]

theorem osrSendToPipe_of_le (request : WdfRequest MissionByte)
    (hlen : request.buffer.length ≤ testBoardTransferBufferSize) :
    (osrSendToPipe request (.ok ()) : Except (Completion MissionByte ULONG) _) = .ok request :=
  if_neg (Nat.not_lt.2 hlen)

section

variable {request : WdfRequest MissionByte} {code : ULONG}

theorem retrieve_isOk (hlen : 0 < request.buffer.length) :
    (wdfRequestRetrieveBuffer request 1 (.ok ())).isOk = true := by
  rw [wdfRequestRetrieveBuffer, if_neg (Nat.not_lt.2 hlen)]
  rfl

/-- All calls of a write succeed when parked reads have room. -/
theorem writeOk_outcomesOk (hcode : ch = .missionRequest → code = ioctlInternalUsbSubmitUrb)
    (hlen : 0 < request.buffer.length)
    (hreads : ∀ r ∈ q.readBufferQueue.requests, 0 < r.buffer.length) :
    ch.WriteOk code request outcomesOk q := by
  have hpush {retrieveRead : WdfRequest MissionByte → NtResult (List MissionByte)}
      (hret : ∀ r ∈ q.readBufferQueue.requests, (retrieveRead r).isOk = true) :
      PushOk retrieveRead true q := by
    unfold PushOk
    split
    · next r q' htake =>
      obtain ⟨-, rs, hrs, -⟩ := wrQueueTakeRead_eq_some.1 htake
      exact hret r (by rw [hrs]; exact List.mem_cons_self)
    · rfl
  cases ch with
  | missionRequest => exact ⟨hcode rfl, rfl, hpush fun r hr => retrieve_isOk (hreads r hr)⟩
  | missionCompletion => exact ⟨retrieve_isOk hlen, hpush fun _ _ => rfl⟩

theorem readOk_outcomesOk (hcode : ch = .missionCompletion → code = ioctlInternalUsbSubmitUrb)
    (hlen : 0 < request.buffer.length) (haccepting : q.readBufferQueue.accepting = true) :
    ch.ReadOk code request outcomesOk q := by
  cases ch with
  | missionRequest => exact ⟨retrieve_isOk hlen, fun _ => ⟨haccepting, rfl⟩⟩
  | missionCompletion => exact ⟨hcode rfl, rfl, fun _ => ⟨haccepting, rfl⟩⟩

variable (s ch request code) in
theorem missionEvent_stored (hcode : ch = .missionRequest → code = ioctlInternalUsbSubmitUrb)
    (hsource : request.source = ch.writeSource) (hlen : 0 < request.buffer.length)
    (hreads : (s.channel ch).readBufferQueue.requests = []) :
    s.missionEvent (.dispatch request code outcomesOk) =
      some ((s.setChannel ch { s.channel ch with
          writeBufferQueue := (s.channel ch).writeBufferQueue ++
            [BufferContent.ofBuffer request.buffer] }).returned
        (completeRequest ch.writeApi request statusSuccess request.buffer.length)) :=
  missionEvent_eq (dispatch_stored hsource
    (writeOk_outcomesOk hcode hlen fun _ hr => nomatch hreads ▸ hr) hreads)

variable (s ch request code) in
theorem missionEvent_handed (hcode : ch = .missionRequest → code = ioctlInternalUsbSubmitUrb)
    (hsource : request.source = ch.writeSource) (hlen : 0 < request.buffer.length)
    {r : WdfRequest MissionByte} (hr : 0 < r.buffer.length)
    (hreads : (s.channel ch).readBufferQueue.requests = [r])
    (hd : (s.channel ch).readBufferQueue.dispatching = true) :
    s.missionEvent (.dispatch request code outcomesOk) =
      some (((s.setChannel ch { s.channel ch with
          readBufferQueue := { (s.channel ch).readBufferQueue with requests := [] } }).returned
        (answeredRead ch.readApi r request.buffer)).returned
          (completeRequest ch.writeApi request statusSuccess request.buffer.length)) := by
  refine missionEvent_eq (dispatch_handed hsource (writeOk_outcomesOk hcode hlen ?_) hreads hd)
  intro r' hr'
  rw [show s.interrupts.device.channel ch = s.channel ch from rfl, hreads] at hr'
  rw [List.mem_singleton.1 hr']
  exact hr

variable (s ch request code) in
theorem missionEvent_parked (hcode : ch = .missionCompletion → code = ioctlInternalUsbSubmitUrb)
    (hsource : request.source = ch.readSource) (hlen : 0 < request.buffer.length)
    (haccepting : (s.channel ch).readBufferQueue.accepting = true)
    (hwrites : (s.channel ch).writeBufferQueue = []) :
    s.missionEvent (.dispatch request code outcomesOk) =
      some (s.setChannel ch { s.channel ch with
        readBufferQueue := { (s.channel ch).readBufferQueue with
          requests := (s.channel ch).readBufferQueue.requests ++ [request] } }) :=
  missionEvent_eq (dispatch_parked hsource (readOk_outcomesOk hcode hlen haccepting) hwrites)

variable (s ch request code) in
theorem missionEvent_served (hcode : ch = .missionCompletion → code = ioctlInternalUsbSubmitUrb)
    (hsource : request.source = ch.readSource) (hlen : 0 < request.buffer.length)
    (haccepting : (s.channel ch).readBufferQueue.accepting = true)
    {w : BufferContent MissionByte} {ws : List (BufferContent MissionByte)}
    (hwrites : (s.channel ch).writeBufferQueue = w :: ws) :
    s.missionEvent (.dispatch request code outcomesOk) =
      some ((s.setChannel ch { s.channel ch with writeBufferQueue := ws }).returned
        (answeredRead ch.readApi request w.bufferStart)) :=
  missionEvent_eq (dispatch_served hsource (readOk_outcomesOk hcode hlen haccepting) hwrites)

end

/-! What the completion of a call does to its program. -/

theorem AutoBot.returned_read (bot : AutoBot) (hphase : bot.phase = .reading)
    (api : CompletionApi) (n : Nat) (m : List UInt8) :
    bot.returned (answeredRead api bot.readRequest (ofTrip n (sentString m))) =
      { bot with
        buffer := autoBotGot bot.buffer ((sentString m).take 250), phase := .working n } := by
  have hread : (answeredRead api bot.readRequest (ofTrip n (sentString m)) :
      Completion MissionByte ULONG).data.read = (ofTrip n (sentString m)).take 250 := by
    simp [answeredRead, Transfer.read, AutoBot.readRequest, bot.buffer.size_eq,
      List.take_eq_take_iff, Nat.min_comm]
  obtain ⟨htrip, hchars⟩ := mission_take n m
  simp only [AutoBot.returned, hphase, hread, htrip, hchars]
  exact if_pos rfl

theorem AutoBot.returned_write (bot : AutoBot) {n : Nat} (hphase : bot.phase = .writing n)
    (api : CompletionApi) (k : Nat) :
    bot.returned (completeRequest api (bot.writeRequest n) statusSuccess k) =
      { bot with phase := .stored n } := by
  simp [AutoBot.returned, hphase, show ntSuccess statusSuccess = true from rfl]

theorem CommandTrip.returned_write (trip : CommandTrip) (hphase : trip.phase = .writing)
    (api : CompletionApi) (k : Nat) :
    trip.returned
        (evtRequestCompletionRoutine (completeRequest api trip.writeRequest statusSuccess k)) =
      ({ trip with phase := .sent }, []) := by
  simp [CommandTrip.returned, evtRequestCompletionRoutine, hphase,
    show ntSuccess statusSuccess = true from rfl]

theorem CommandTrip.returned_read (trip : CommandTrip) (hphase : trip.phase = .reading)
    (api : CompletionApi) (n : Nat) (m : List UInt8) :
    trip.returned (evtRequestCompletionRoutine
        (answeredRead api trip.readRequest (ofTrip n (autoBotResponse m ++ [0])))) =
      ({ trip with phase := .closed },
        [⟨trip.number, trip.commandStr, ofTrip n (autoBotResponse m ++ [0])⟩]) := by
  have hlen := length_autoBotResponse m
  have hread : (answeredRead api trip.readRequest (ofTrip n (autoBotResponse m ++ [0])) :
      Completion MissionByte ULONG).data.read = ofTrip n (autoBotResponse m ++ [0]) := by
    refine List.take_of_length_le ?_
    simp only [CommandTrip.readRequest, length_ofTrip, trip.buffer.size_eq, List.length_append,
      List.length_singleton]
    omega
  simp only [CommandTrip.returned, hphase, evtRequestCompletionRoutine, hread]
  exact if_pos rfl

end

/-! ## The two hops -/

/-- The first hop: AutoBot reads before the mission is sent, or after. -/
def missionHop (parked : Bool) (m : List UInt8) (buffer : TextBuffer) : List TripEvent :=
  if parked then [.botReadFile outcomesOk, .writeFile m buffer (.ok ()) outcomesOk]
  else [.writeFile m buffer (.ok ()) outcomesOk, .botReadFile outcomesOk]

/-- AutoBot in its first `ReadFile`. -/
def readingBot (buffer : TextBuffer) : AutoBot := ⟨buffer, .reading, 0⟩

/-- `missionRequest` with the mission in it. -/
def waitingMission (m : List UInt8) : WRQueue MissionByte :=
  { writeBufferQueue := [BufferContent.ofBuffer (ofTrip 1 (sentString m))]
    readBufferQueue := wdfIoQueueCreated .wdfRequest }

/-- `missionRequest` with AutoBot parked in it. -/
def waitingBot (buffer : TextBuffer) : WRQueue MissionByte :=
  { writeBufferQueue := []
    readBufferQueue :=
      { (wdfIoQueueCreated .wdfRequest : WdfQueue MissionByte) with
        requests := [(readingBot buffer).readRequest] } }

theorem readingBot_room (buffer : TextBuffer) :
    0 < (readingBot buffer).readRequest.buffer.length := by
  simp [AutoBot.readRequest, readingBot, buffer.size_eq]

theorem botReadFile_parked (buffer : TextBuffer) :
    tripStep (tripInit buffer) (.botReadFile outcomesOk) =
      some (({ tripInit buffer with bot := readingBot buffer } : TripSystem).setChannel
        .missionRequest (waitingBot buffer)) :=
  missionEvent_parked { tripInit buffer with bot := readingBot buffer } .missionRequest
    (readingBot buffer).readRequest 0 (fun h => by cases h) rfl (readingBot_room buffer) rfl rfl

/-- AutoBot has the mission. -/
def missionReceived (m : List UInt8) (buffer : TextBuffer) : TripSystem :=
  { interrupts := interruptSystemInit
    bot := ⟨autoBotGot buffer ((sentString m).take 250), .working 1, 0⟩
    trip := ⟨1, m, buffer, .sent⟩
    results := [] }

theorem missionHop_run (parked : Bool) {m : List UInt8}
    (hlen : (sentString m).length ≤ testBoardTransferBufferSize) (buffer : TextBuffer) :
    tripRun buffer (missionHop parked m buffer) = some (missionReceived m buffer) := by
  have hsend := osrSendToPipe_of_le ⟨1, .bulkOut, ofTrip 1 (sentString m)⟩
    (by rw [length_ofTrip]; exact hlen)
  -- `WriteFile` of the first trip, up to the device
  have hwrite (s : TripSystem) (hphase : s.trip.phase = .closed) (hnumber : s.trip.number = 0) :
      tripStep s (.writeFile m buffer (.ok ()) outcomesOk) =
        ({ s with trip := ⟨1, m, buffer, .writing⟩ } : TripSystem).missionEvent
          (.dispatch ⟨1, .bulkOut, ofTrip 1 (sentString m)⟩ ioctlInternalUsbSubmitUrb
            outcomesOk) := by
    simp only [tripStep, hphase, hnumber, if_true, osrFxEvtIoWrite, CommandTrip.writeRequest,
      Nat.zero_add, hsend]
    rfl
  have hpos : 0 < (ofTrip 1 (sentString m)).length := by simp [sentString]
  have hroom := readingBot_room buffer
  have htrip := CommandTrip.returned_write ⟨1, m, buffer, .writing⟩ rfl .udecxUrb
    (ofTrip 1 (sentString m)).length
  have hbot := AutoBot.returned_read (readingBot buffer) rfl .wdfRequest 1 m
  cases parked with
  | false =>
    have hstored := missionEvent_stored
      { tripInit buffer with trip := ⟨1, m, buffer, .writing⟩ } .missionRequest
      ⟨1, .bulkOut, ofTrip 1 (sentString m)⟩ _ (fun _ => rfl) rfl hpos rfl
    have hsent : tripStep (tripInit buffer) (.writeFile m buffer (.ok ()) outcomesOk) =
        some { (tripInit buffer).setChannel .missionRequest (waitingMission m) with
          trip := ⟨1, m, buffer, .sent⟩ } := by
      rw [hwrite _ rfl rfl, hstored, returned_of_bulk (Or.inl rfl)]
      exact congrArg (fun p : CommandTrip × List TripResult =>
        some { (tripInit buffer).setChannel .missionRequest (waitingMission m) with
          trip := p.1, results := p.2 }) htrip
    have hserved := missionEvent_served
      { (tripInit buffer).setChannel .missionRequest (waitingMission m) with
          trip := ⟨1, m, buffer, .sent⟩, bot := readingBot buffer }
      .missionRequest (readingBot buffer).readRequest 0 (fun h => by cases h) rfl hroom rfl rfl
    rw [tripRun, missionHop, if_neg Bool.false_ne_true, run_cons, hsent, Option.bind_some,
      run_cons]
    refine (congrArg (fun o => o.bind fun s => run tripStep s []) hserved).trans ?_
    rw [Option.bind_some, run_nil, returned_of_bot (Or.inl rfl)]
    exact congrArg (fun bot => some { missionReceived m buffer with bot }) hbot
  | true =>
    have hhanded := missionEvent_handed
      { (tripInit buffer).setChannel .missionRequest (waitingBot buffer) with
          trip := ⟨1, m, buffer, .writing⟩, bot := readingBot buffer }
      .missionRequest ⟨1, .bulkOut, ofTrip 1 (sentString m)⟩ _ (fun _ => rfl) rfl hpos hroom rfl rfl
    rw [tripRun, missionHop, if_pos rfl, run_cons, botReadFile_parked, Option.bind_some, run_cons,
      hwrite _ rfl rfl]
    refine (congrArg (fun o => o.bind fun s => run tripStep s []) hhanded).trans ?_
    rw [Option.bind_some, run_nil, returned_of_bulk (Or.inl rfl), returned_of_bot (Or.inl rfl)]
    exact congrArg₂ (fun bot (p : CommandTrip × List TripResult) =>
      some { missionReceived m buffer with bot, trip := p.1, results := p.2 }) hbot htrip

/-- The trip is told that its mission succeeded. The last request is the one its reader posts. -/
def notification : List TripEvent :=
  [.getInterruptMessage outcomesOk.forward,
    .interrupt (.postUrb ⟨0, .interruptIn, ofTrip 0 [0, 0, 0, 0]⟩ outcomesOk.forward),
    .interrupt .deliver]

/-- The second hop: the trip reads after AutoBot has written, or before, when an interrupt of the
same value comes early. -/
def responseHop (parked : Bool) : List TripEvent :=
  if parked then
    .interrupt (.raise missionSucceeded) :: notification ++
      [.readFile (.ok ()) outcomesOk, .botWriteFile outcomesOk]
  else
    .botWriteFile outcomesOk :: .botNotify (.ok ()) outcomesOk :: notification ++
      [.readFile (.ok ()) outcomesOk]

/-- The interrupts after a raise that no URB waited for. -/
def raisedInterrupts (device : DeviceState MissionByte ULONG) :
    InterruptSystem MissionByte ULONG :=
  { (interruptSystemInit : InterruptSystem MissionByte ULONG) with
    device := { device with io := ioCacheUpdate missionSucceeded ioContextCreated } }

theorem notification_run (device : DeviceState MissionByte ULONG) (bot : AutoBot)
    (m : List UInt8) (buffer : TextBuffer) :
    ∃ interrupts, run tripStep
        ⟨raisedInterrupts device, bot, ⟨1, m, buffer, .sent⟩, []⟩ notification =
          some ⟨interrupts, bot, ⟨1, m, buffer, .notified⟩, []⟩ ∧
      ∀ ch, interrupts.device.channel ch = device.channel ch := by
  refine ⟨_, rfl, ?_⟩
  intro ch
  cases ch <;> rfl

/-- AutoBot in the `WriteFile` of its response. -/
def writingBot (m : List UInt8) (buffer : TextBuffer) : AutoBot :=
  ⟨autoBotWorked (autoBotGot buffer ((sentString m).take 250)), .writing 1, 0⟩

theorem writingBot_writeRequest (m : List UInt8) (buffer : TextBuffer) :
    (writingBot m buffer).writeRequest 1 =
      ⟨0, .write, ofTrip 1 (autoBotResponse m ++ [0])⟩ :=
  congrArg (fun text => (⟨0, .write, ofTrip 1 (text ++ [0])⟩ : WdfRequest MissionByte))
    (autoBotWorked_got buffer m)

/-- The trip in its `ReadFile`. -/
def readingTrip (m : List UInt8) (buffer : TextBuffer) : CommandTrip := ⟨1, m, buffer, .reading⟩

theorem readFile_eq (interrupts : InterruptSystem MissionByte ULONG) (bot : AutoBot)
    (m : List UInt8) (buffer : TextBuffer) :
    tripStep ⟨interrupts, bot, ⟨1, m, buffer, .notified⟩, []⟩ (.readFile (.ok ()) outcomesOk) =
      (⟨interrupts, bot, readingTrip m buffer, []⟩ : TripSystem).missionEvent
        (.dispatch (readingTrip m buffer).readRequest ioctlInternalUsbSubmitUrb outcomesOk) := by
  have hsend := osrSendToPipe_of_le (readingTrip m buffer).readRequest (by
    rw [CommandTrip.readRequest, length_ofTrip, CharBuffer.size_eq]
    decide)
  exact congrArg (fun urb => (⟨interrupts, bot, readingTrip m buffer, []⟩ : TripSystem).sendUrb
    urb outcomesOk) hsend

theorem botWriteFile_eq (interrupts : InterruptSystem MissionByte ULONG) (trip : CommandTrip)
    (m : List UInt8) (buffer : TextBuffer) :
    tripStep ⟨interrupts, (missionReceived m buffer).bot, trip, []⟩ (.botWriteFile outcomesOk) =
      (⟨interrupts, writingBot m buffer, trip, []⟩ : TripSystem).missionEvent
        (.dispatch ⟨0, .write, ofTrip 1 (autoBotResponse m ++ [0])⟩ 0 outcomesOk) := by
  rw [← writingBot_writeRequest m buffer]
  rfl

/-- `missionCompletion` with the response in it. -/
def waitingResponse (m : List UInt8) : WRQueue MissionByte :=
  { writeBufferQueue := [BufferContent.ofBuffer (ofTrip 1 (autoBotResponse m ++ [0]))]
    readBufferQueue := wdfIoQueueCreated .udecxUrb }

/-- `missionCompletion` with the trip parked in it. -/
def waitingTrip (m : List UInt8) (buffer : TextBuffer) : WRQueue MissionByte :=
  { writeBufferQueue := []
    readBufferQueue :=
      { (wdfIoQueueCreated .udecxUrb : WdfQueue MissionByte) with
        requests := [(readingTrip m buffer).readRequest] } }

theorem length_response_pos (m : List UInt8) :
    0 < (ofTrip 1 (autoBotResponse m ++ [0])).length := by
  simp

theorem readingTrip_room (m : List UInt8) (buffer : TextBuffer) :
    0 < (readingTrip m buffer).readRequest.buffer.length := by
  simp [CommandTrip.readRequest, readingTrip, buffer.size_eq]

/-- The response is stored, and AutoBot notifies. -/
theorem botWriteFile_stored (m : List UInt8) (buffer : TextBuffer) :
    run tripStep (missionReceived m buffer)
        [.botWriteFile outcomesOk, .botNotify (.ok ()) outcomesOk] =
      some ⟨raisedInterrupts (deviceInit.setChannel .missionCompletion (waitingResponse m)),
        (writingBot m buffer).next, ⟨1, m, buffer, .sent⟩, []⟩ := by
  have hstored := missionEvent_stored
    ⟨interruptSystemInit, writingBot m buffer, ⟨1, m, buffer, .sent⟩, []⟩ .missionCompletion
    ⟨0, .write, ofTrip 1 (autoBotResponse m ++ [0])⟩ 0 (fun h => by cases h) rfl
    (length_response_pos m) rfl
  have hbot := AutoBot.returned_write (writingBot m buffer) rfl .wdfRequest
    (ofTrip 1 (autoBotResponse m ++ [0])).length
  rw [writingBot_writeRequest] at hbot
  rw [returned_of_bot (Or.inr rfl)] at hstored
  have hfirst : tripStep (missionReceived m buffer) (.botWriteFile outcomesOk) =
      some ⟨{ (interruptSystemInit : InterruptSystem MissionByte ULONG) with
          device := deviceInit.setChannel .missionCompletion (waitingResponse m) },
        { writingBot m buffer with phase := .stored 1 }, ⟨1, m, buffer, .sent⟩, []⟩ := by
    refine (botWriteFile_eq interruptSystemInit ⟨1, m, buffer, .sent⟩ m buffer).trans
      (hstored.trans ?_)
    exact congrArg (fun bot => some (⟨{ (interruptSystemInit :
      InterruptSystem MissionByte ULONG) with
        device := deviceInit.setChannel .missionCompletion (waitingResponse m) }, bot,
      ⟨1, m, buffer, .sent⟩, []⟩ : TripSystem)) hbot
  rw [run_cons, hfirst]
  rfl

theorem readFile_served {interrupts : InterruptSystem MissionByte ULONG} (bot : AutoBot)
    (m : List UInt8) (buffer : TextBuffer)
    (hchannel : interrupts.device.channel .missionCompletion = waitingResponse m) :
    ∃ s, tripStep ⟨interrupts, bot, ⟨1, m, buffer, .notified⟩, []⟩
        (.readFile (.ok ()) outcomesOk) = some s ∧
      s.results = [⟨1, m, ofTrip 1 (autoBotResponse m ++ [0])⟩] := by
  have hserved := missionEvent_served
    ⟨interrupts, bot, readingTrip m buffer, []⟩ .missionCompletion
    (readingTrip m buffer).readRequest ioctlInternalUsbSubmitUrb (fun _ => rfl) rfl
    (readingTrip_room m buffer)
    (congrArg (fun q => q.readBufferQueue.accepting) hchannel)
    (congrArg WRQueue.writeBufferQueue hchannel)
  refine ⟨_, (readFile_eq interrupts bot m buffer).trans hserved, ?_⟩
  rw [returned_of_bulk (Or.inr rfl)]
  exact congrArg Prod.snd
    (CommandTrip.returned_read (readingTrip m buffer) rfl .udecxUrb 1 m)

theorem readFile_parked {interrupts : InterruptSystem MissionByte ULONG} (m : List UInt8)
    (buffer : TextBuffer)
    (hchannel : interrupts.device.channel .missionCompletion = wrQueueInit true) :
    ∃ s, run tripStep
        ⟨interrupts, (missionReceived m buffer).bot, ⟨1, m, buffer, .notified⟩, []⟩
        [.readFile (.ok ()) outcomesOk, .botWriteFile outcomesOk] = some s ∧
      s.results = [⟨1, m, ofTrip 1 (autoBotResponse m ++ [0])⟩] := by
  have hparked := missionEvent_parked
    ⟨interrupts, (missionReceived m buffer).bot, readingTrip m buffer, []⟩ .missionCompletion
    (readingTrip m buffer).readRequest ioctlInternalUsbSubmitUrb (fun _ => rfl) rfl
    (readingTrip_room m buffer)
    (congrArg (fun q => q.readBufferQueue.accepting) hchannel)
    (congrArg WRQueue.writeBufferQueue hchannel)
  have hfirst : tripStep ⟨interrupts, (missionReceived m buffer).bot, ⟨1, m, buffer, .notified⟩,
      []⟩ (.readFile (.ok ()) outcomesOk) =
      some ((⟨interrupts, (missionReceived m buffer).bot, readingTrip m buffer, []⟩ :
        TripSystem).setChannel .missionCompletion (waitingTrip m buffer)) := by
    refine (readFile_eq interrupts _ m buffer).trans (hparked.trans ?_)
    exact congrArg (fun q : WRQueue MissionByte =>
      some ((⟨interrupts, (missionReceived m buffer).bot, readingTrip m buffer, []⟩ :
        TripSystem).setChannel .missionCompletion
          { q with readBufferQueue := { q.readBufferQueue with
            requests := q.readBufferQueue.requests ++ [(readingTrip m buffer).readRequest] } }))
      hchannel
  have hhanded := missionEvent_handed
    ((⟨interrupts, writingBot m buffer, readingTrip m buffer, []⟩ : TripSystem).setChannel
      .missionCompletion (waitingTrip m buffer))
    .missionCompletion ⟨0, .write, ofTrip 1 (autoBotResponse m ++ [0])⟩ 0 (fun h => by cases h) rfl
    (length_response_pos m) (readingTrip_room m buffer) rfl rfl
  rw [returned_of_bot (Or.inr rfl), returned_of_bulk (Or.inr rfl)] at hhanded
  rw [run_cons, hfirst, Option.bind_some]
  refine ⟨_, (Option.bind_fun_some _).trans ((botWriteFile_eq _ _ m buffer).trans hhanded), ?_⟩
  exact congrArg Prod.snd
    (CommandTrip.returned_read (readingTrip m buffer) rfl .udecxUrb 1 m)

theorem responseHop_run (parked : Bool) (m : List UInt8) (buffer : TextBuffer) :
    ∃ s, run tripStep (missionReceived m buffer) (responseHop parked) = some s ∧
      s.results = [⟨1, m, ofTrip 1 (autoBotResponse m ++ [0])⟩] := by
  cases parked with
  | false =>
    obtain ⟨interrupts, hnotified, hchannel⟩ := notification_run
      (deviceInit.setChannel .missionCompletion (waitingResponse m)) (writingBot m buffer).next
      m buffer
    obtain ⟨s, hread, hresults⟩ := readFile_served (writingBot m buffer).next m buffer
      (hchannel .missionCompletion)
    refine ⟨s, ?_, hresults⟩
    rw [responseHop, if_neg Bool.false_ne_true,
      show TripEvent.botWriteFile outcomesOk :: .botNotify (.ok ()) outcomesOk :: notification ++
        [.readFile (.ok ()) outcomesOk] = [.botWriteFile outcomesOk,
          .botNotify (.ok ()) outcomesOk] ++ (notification ++ [.readFile (.ok ()) outcomesOk])
        from rfl,
      run_append, botWriteFile_stored, Option.bind_some, run_append, hnotified, Option.bind_some,
      run_cons, hread]
    rfl
  | true =>
    obtain ⟨interrupts, hnotified, hchannel⟩ := notification_run deviceInit
      (missionReceived m buffer).bot m buffer
    obtain ⟨s, hread, hresults⟩ := readFile_parked m buffer (hchannel .missionCompletion)
    refine ⟨s, ?_, hresults⟩
    have hraised : tripStep (missionReceived m buffer) (.interrupt (.raise missionSucceeded)) =
        some ⟨raisedInterrupts deviceInit, (missionReceived m buffer).bot,
          ⟨1, m, buffer, .sent⟩, []⟩ := rfl
    rw [responseHop, if_pos rfl, List.cons_append, run_cons, hraised, Option.bind_some,
      run_append, hnotified, Option.bind_some, hread]

/-! ## The text -/

/-- One trip with its two hops. -/
def roundTrip (parkedMission parkedResponse : Bool) (m : List UInt8) (buffer : TextBuffer) :
    List TripEvent :=
  missionHop parkedMission m buffer ++ responseHop parkedResponse

theorem roundTrip_run (parkedMission parkedResponse : Bool) {m : List UInt8}
    (hlen : (sentString m).length ≤ testBoardTransferBufferSize) (buffer : TextBuffer) :
    ∃ s, tripRun buffer (roundTrip parkedMission parkedResponse m buffer) = some s ∧
      s.results = [⟨1, m, ofTrip 1 (autoBotResponse m ++ [0])⟩] := by
  obtain ⟨s, hresponse, hresults⟩ := responseHop_run parkedResponse m buffer
  refine ⟨s, ?_, hresults⟩
  have hmission := missionHop_run parkedMission hlen buffer
  rw [tripRun] at hmission
  rw [tripRun, roundTrip, run_append, hmission]
  exact hresponse

theorem roundTrip_clean (parkedMission parkedResponse : Bool) (m : List UInt8)
    (buffer : TextBuffer) :
    Along StartsClean tripStep (tripInit buffer)
      (roundTrip parkedMission parkedResponse m buffer) := by
  have hresponse (s : TripSystem) : Along StartsClean tripStep s (responseHop parkedResponse) := by
    refine along_of_events ?_ s
    cases parkedResponse <;> simp [responseHop, notification, StartsClean]
  cases parkedMission with
  | false => exact ⟨⟨rfl, rfl, rfl⟩, fun s _ => ⟨trivial, fun s' _ => hresponse s'⟩⟩
  | true =>
    refine ⟨trivial, ?_⟩
    intro s hs
    rw [botReadFile_parked] at hs
    obtain rfl := Option.some.inj hs
    exact ⟨⟨rfl, rfl, rfl⟩, fun s' _ => hresponse s'⟩

/-- **The text of a round trip.** A trip that starts with nothing queued and reads a response ends
up with the first 249 characters of its mission followed by `_response`; and of every mission that
the host driver admits there are such trips, on all four delivery paths. -/
theorem roundTrip_text :
    (∀ (buffer : TextBuffer) (t : List TripEvent) (s : TripSystem), tripRun buffer t = some s →
      Along StartsClean tripStep (tripInit buffer) t →
      ∀ r ∈ s.results, (∀ a ∈ r.commandStr, a ≠ 0) → ∀ before : TextBuffer,
        (commandTripGot before (charsOf r.read)).string =
          (r.commandStr ++ responseSuffix).take 249) ∧
    ∀ m : List UInt8, (∀ a ∈ m, a ≠ 0) → m.length + 1 ≤ testBoardTransferBufferSize →
      ∀ (parkedMission parkedResponse : Bool) (buffer : TextBuffer), ∃ s r,
        tripRun buffer (roundTrip parkedMission parkedResponse m buffer) = some s ∧
        Along StartsClean tripStep (tripInit buffer)
          (roundTrip parkedMission parkedResponse m buffer) ∧
        s.results = [r] ∧ r.commandStr = m ∧ ∀ before : TextBuffer,
          (commandTripGot before (charsOf r.read)).string = (m ++ responseSuffix).take 249 := by
  have htext (m : List UInt8) (hm : ∀ a ∈ m, a ≠ 0) (before : TextBuffer) :
      (commandTripGot before (autoBotResponse m ++ [0])).string =
        (m ++ responseSuffix).take 249 := by
    rw [commandTripGot_string, show cstring m = m from List.takeWhile_eq_self_iff.2
      fun a ha => decide_eq_true (hm a ha)]
  refine ⟨?_, ?_⟩
  · intro buffer t s hrun hclean r hr hm before
    have hcorrelated : Correlated s := run_invariant_along (P := fun _ s => Correlated s)
      (tripInit_correlated buffer) (fun _ _ _ _ _ h hc hstep => h.step hc hstep) hrun hclean
    rw [hcorrelated.results r hr, charsOf_ofTrip]
    exact htext r.commandStr hm before
  · intro m hm hlen parkedMission parkedResponse buffer
    have hsent : (sentString m).length ≤ testBoardTransferBufferSize := by
      rw [sentString, show cstring m = m from List.takeWhile_eq_self_iff.2
        fun a ha => decide_eq_true (hm a ha), List.length_append]
      exact hlen
    obtain ⟨s, hrun, hresults⟩ := roundTrip_run parkedMission parkedResponse hsent buffer
    refine ⟨s, _, hrun, roundTrip_clean parkedMission parkedResponse m buffer, hresults, rfl, ?_⟩
    intro before
    rw [charsOf_ofTrip]
    exact htext m hm before

/-- A mission of two characters, whose readers both wait. -/
theorem roundTrip_hi : ∃ s r, tripRun emptyBuffer (roundTrip true true [104, 105] emptyBuffer) =
    some s ∧ s.results = [r] ∧ ∀ before : TextBuffer,
      (commandTripGot before (charsOf r.read)).string = [104, 105] ++ responseSuffix := by
  obtain ⟨s, r, hrun, -, hresults, -, htext⟩ := roundTrip_text.2 [104, 105] (by simp)
    (by simp [testBoardTransferBufferSize]) true true emptyBuffer
  exact ⟨s, r, hrun, hresults, htext⟩

end UdeSample
