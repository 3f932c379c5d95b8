import UdeSample.Device.Run
import UdeSample.Lib.Channel

/-!
# The mission channels are FIFO

Each channel of the controller is a rendezvous channel between the writes completed with success
and the reads completed with success, through whichever of its four code paths the data went:
handed over to a parked read or stored and pulled later, from bulk OUT or from the back channel.

`ChannelEffect` is what an event does to one channel, `ChannelHistory` the account of a channel
against the effects of a run. `missionChannel_fifo` reads the pairing, the stored writes and the
independence of the interleaving off the account.
-/

namespace UdeSample

open Lib

variable {β F : Type}

/-! ## What a run shows of a channel -/

/-- The requests of one source completed with success, in order. -/
def succeeded (source : RequestSource) (log : List (Effect β F)) : List (Completion β F) :=
  (completions log).filter fun c => c.request.source = source ∧ ntSuccess c.status = true

/-- The buffers of the successful writes of a channel, in order. -/
def sentWrites (ch : MissionChannel) (log : List (Effect β F)) : List (List β) :=
  (succeeded ch.writeSource log).map fun c => c.request.buffer

/-- The requests of one source that were dispatched, in order. -/
def dispatched (source : RequestSource) (t : List (DeviceEvent β F)) : List (WdfRequest β) :=
  t.filterMap fun
    | .dispatch request _ _ => if request.source = source then some request else none
    | _ => none

@[simp] theorem succeeded_append (source : RequestSource) (log fx : List (Effect β F)) :
    succeeded source (log ++ fx) = succeeded source log ++ succeeded source fx := by
  simp [succeeded]

@[simp] theorem sentWrites_append (ch : MissionChannel) (log fx : List (Effect β F)) :
    sentWrites ch (log ++ fx) = sentWrites ch log ++ sentWrites ch fx := by
  simp [sentWrites]

@[simp] theorem dispatched_append (source : RequestSource) (t t' : List (DeviceEvent β F)) :
    dispatched source (t ++ t') = dispatched source t ++ dispatched source t' :=
  List.filterMap_append

theorem succeeded_complete (source : RequestSource) (c : Completion β F) (fx : List (Effect β F)) :
    succeeded source (.complete c :: fx) =
      if c.request.source = source ∧ ntSuccess c.status = true then c :: succeeded source fx
      else succeeded source fx := by
  simp [succeeded, List.filter_cons]

@[simp] theorem succeeded_nil (source : RequestSource) :
    succeeded source ([] : List (Effect β F)) = [] := rfl

theorem succeeded_eq_nil {source : RequestSource} {fx : List (Effect β F)}
    (h : ∀ c ∈ completions fx, c.request.source = source → ntSuccess c.status = false) :
    succeeded source fx = [] := by
  apply List.filter_eq_nil_iff.2
  intro c hc hs
  obtain ⟨hsource, hok⟩ := of_decide_eq_true hs
  rw [h c hc hsource] at hok
  cases hok

/-! ## What an event does to one channel -/

theorem WriteStep.completed {api readApi : CompletionApi} {request : WdfRequest β} {ok : Prop}
    {q q' : WRQueue β} {fx : List (Effect β F)} (h : WriteStep api readApi request ok q q' fx) :
    ∀ c ∈ completions fx, c.request = request ∨ c.request ∈ q.readBufferQueue.requests := by
  cases h with
  | refused | stored => simp
  | lost _ hread | handed _ hread => simp [hread, answeredRead]

theorem ReadStep.completed {api : CompletionApi} {request : WdfRequest β} {ok : Prop}
    {q q' : WRQueue β} {fx : List (Effect β F)} (h : ReadStep api request ok q q' fx) :
    ∀ c ∈ completions fx, c.request = request := by
  cases h with
  | dropped | parked => simp
  | served => simp [answeredRead]

theorem UrbStep.completed [Zero F] {code : ULONG} {request : WdfRequest β} {o : Outcomes}
    {io io' : IoContext β F} {fx : List (Effect β F)} (h : UrbStep code request o io io' fx) :
    ∀ c ∈ completions fx, c.request = request := by
  cases h <;> simp

theorem RaiseStep.completed {v : F} {o : Outcomes} {io io' : IoContext β F}
    {fx : List (Effect β F)} (h : RaiseStep v o io io' fx) :
    ∀ c ∈ completions fx, c.request ∈ io.intrDeferredQueue.requests := by
  cases h with
  | cached => simp
  | handed hread => simp [hread]

theorem ioEvtControlUrb_completed (code : ULONG) (request : WdfRequest β) (o : Outcomes) :
    ∀ c ∈ completions (ioEvtControlUrb code request o : List (Effect β F)),
      c.request = request := by
  unfold ioEvtControlUrb
  split
  · split <;> simp
  · simp

/-- Everything an event can do to the channel `ch`. -/
inductive ChannelEffect (ch : MissionChannel) (s : DeviceState β F) (e : DeviceEvent β F)
    (s' : DeviceState β F) (fx : List (Effect β F)) : Prop where
  | write {request : WdfRequest β} {code : ULONG} {o : Outcomes}
    (he : e = .dispatch request code o) (hsource : request.source = ch.writeSource)
    (hwrite : WriteStep ch.writeApi ch.readApi request (ch.WriteOk code request o (s.channel ch))
      (s.channel ch) (s'.channel ch) fx)
  | read {request : WdfRequest β} {code : ULONG} {o : Outcomes}
    (he : e = .dispatch request code o) (hsource : request.source = ch.readSource)
    (hread : ReadStep ch.readApi request (ch.ReadOk code request o (s.channel ch))
      (s.channel ch) (s'.channel ch) fx)
  | cancel {request : WdfRequest β} {l m : List (WdfRequest β)}
    (he : e = .cancel ch.manualQueue l.length)
    (hqueue : (s.channel ch).readBufferQueue.requests = l ++ request :: m)
    (hch : s'.channel ch = { s.channel ch with
      readBufferQueue := { (s.channel ch).readBufferQueue with requests := l ++ m } })
    (hfx : fx = [.complete ((s.channel ch).readBufferQueue.canceled request)])
  | other (hch : s'.channel ch = s.channel ch)
    (hdisp : ∀ source, source = ch.writeSource ∨ source = ch.readSource →
      dispatched source [e] = [])
    (hfx : ∀ c ∈ completions fx,
      c.request.source ≠ ch.writeSource ∧ c.request.source ≠ ch.readSource)

theorem ChannelEffect.dispatchedElsewhere {ch : MissionChannel} {s s' : DeviceState β F}
    {request : WdfRequest β} {code : ULONG} {o : Outcomes} {fx : List (Effect β F)}
    (hch : s'.channel ch = s.channel ch)
    (hne : request.source ≠ ch.writeSource ∧ request.source ≠ ch.readSource)
    (hfx : ∀ c ∈ completions fx, c.request = request ∨
      c.request.source ≠ ch.writeSource ∧ c.request.source ≠ ch.readSource) :
    ChannelEffect ch s (.dispatch request code o) s' fx := by
  refine .other hch ?_ ?_
  · intro source hs
    have hdiff : request.source ≠ source := by
      rcases hs with rfl | rfl
      · exact hne.1
      · exact hne.2
    simp [dispatched, hdiff]
  · intro c hc
    rcases hfx c hc with hr | hr
    · rw [hr]
      exact hne
    · exact hr

theorem DeviceEffect.onChannel [Zero F] {s s' : DeviceState β F} {e : DeviceEvent β F}
    {fx : List (Effect β F)} (h : DeviceEffect s e s' fx) (hs : s.Typed) (ch : MissionChannel) :
    ChannelEffect ch s e s' fx := by
  have htyped : ∀ ch' : MissionChannel, ∀ r ∈ (s.channel ch').readBufferQueue.requests,
      r.source = ch'.readSource := fun ch' r hr => by
    rw [← manualQueue_channel] at hr
    exact (hs _ r hr).trans ch'.manualQueue_source
  cases h with
  | @control request code o hsource =>
    have hne : request.source ≠ ch.writeSource ∧ request.source ≠ ch.readSource := by
      rw [hsource]
      cases ch <;> decide
    exact .dispatchedElsewhere rfl hne fun c hc =>
      Or.inl (ioEvtControlUrb_completed code request o c hc)
  | @write ch' request code o q _ hsource hwrite =>
    by_cases hch : ch = ch'
    · subst hch
      exact .write rfl hsource (by simpa using hwrite)
    · have hne : request.source ≠ ch.writeSource ∧ request.source ≠ ch.readSource := by
        rw [hsource]
        exact ⟨fun h => hch (writeSource_injective h.symm), writeSource_ne_readSource ch' ch⟩
      refine .dispatchedElsewhere (channel_setChannel_of_ne hch q) hne ?_
      intro c hc
      apply (hwrite.completed c hc).imp_right
      intro hr
      rw [htyped ch' _ hr]
      exact ⟨fun h => writeSource_ne_readSource ch ch' h.symm,
        fun h => hch (readSource_injective h.symm)⟩
  | @read ch' request code o q _ hsource hread =>
    by_cases hch : ch = ch'
    · subst hch
      exact .read rfl hsource (by simpa using hread)
    · have hne : request.source ≠ ch.writeSource ∧ request.source ≠ ch.readSource := by
        rw [hsource]
        exact ⟨fun h => writeSource_ne_readSource ch ch' h.symm,
          fun h => hch (readSource_injective h.symm)⟩
      exact .dispatchedElsewhere (channel_setChannel_of_ne hch q) hne fun c hc =>
        Or.inl (hread.completed c hc)
  | @urb request code o io _ hsource hurb =>
    have hne : request.source ≠ ch.writeSource ∧ request.source ≠ ch.readSource := by
      rw [hsource]
      cases ch <;> decide
    exact .dispatchedElsewhere (by cases ch <;> rfl) hne fun c hc => Or.inl (hurb.completed c hc)
  | raise hraise =>
    refine .other (by cases ch <;> rfl) (fun _ _ => rfl) (fun c hc => ?_)
    have hsource : c.request.source = .interruptIn := hs .intrDeferred _ (hraise.completed c hc)
    rw [hsource]
    cases ch <;> decide
  | @cancel queue request l m hqueue =>
    by_cases hch : queue = ch.manualQueue
    · subst hch
      rw [manualQueue_channel] at hqueue ⊢
      refine .cancel rfl hqueue ?_ rfl
      cases ch <;> rfl
    · refine .other (by cases ch <;> cases queue <;> first | rfl | exact absurd rfl hch)
        (fun _ _ => rfl) (fun c hc => ?_)
      obtain rfl : c = (s.manualQueue queue).canceled request := by simpa using hc
      have hsource : request.source = queue.source := hs queue request (by simp [hqueue])
      rw [WdfQueue.canceled_request, hsource]
      cases ch <;> cases queue <;> first | decide | exact absurd rfl hch
  | linkPowerEntry =>
    exact .other (by cases ch <;> rfl) (fun _ _ => rfl) (fun c hc => by cases hc)
  | linkPowerExit =>
    refine .other (by cases ch <;> rfl) (fun _ _ => rfl) (fun c hc => ?_)
    rw [completions_map_complete] at hc
    obtain ⟨request, hrequest, rfl⟩ := List.mem_map.1 hc
    have hsource : request.source = .interruptIn := hs .intrDeferred request hrequest
    rw [WdfQueue.canceled_request, hsource]
    cases ch <;> decide

/-! ## The account of a channel -/

/-- The stored writes and the parked reads of a channel. -/
def DeviceState.rendezvous (s : DeviceState β F) (ch : MissionChannel) :
    Channel (List β) (WdfRequest β) where
  store := (s.channel ch).writeBufferQueue.map fun w => w.bufferStart
  waiting := (s.channel ch).readBufferQueue.requests

/-- A channel against the effects so far: `got` pairs the successful reads with the writes they
were answered with. -/
structure ChannelHistory (ch : MissionChannel) (s : DeviceState β F) (log : List (Effect β F))
    (got : List (WdfRequest β × List β)) : Prop where
  account : (s.rendezvous ch).Account (sentWrites ch log) got
  reads : succeeded ch.readSource log = got.map fun p => answeredRead ch.readApi p.1 p.2
  dispatching : (s.channel ch).readBufferQueue.dispatching = true

/-- The account of both inputs of a channel when nothing fails and nothing is canceled. -/
structure UndisturbedHistory (ch : MissionChannel) (s : DeviceState β F)
    (log : List (Effect β F)) (got : List (WdfRequest β × List β)) (t : List (DeviceEvent β F)) :
    Prop where
  writes : sentWrites ch log = (dispatched ch.writeSource t).map fun r => r.buffer
  asked : dispatched ch.readSource t = got.map Prod.fst ++ (s.rendezvous ch).waiting

/-- No framework call of a handler of `ch` fails and no parked read of `ch` is canceled. -/
def Undisturbed (ch : MissionChannel) (s : DeviceState β F) : DeviceEvent β F → Prop
  | .dispatch request code o =>
    (request.source = ch.writeSource → ch.WriteOk code request o (s.channel ch)) ∧
      (request.source = ch.readSource → ch.ReadOk code request o (s.channel ch))
  | .cancel queue _ => queue ≠ ch.manualQueue
  | _ => True

section

variable {ch : MissionChannel} {s s' : DeviceState β F} {log fx : List (Effect β F)}
  {got : List (WdfRequest β × List β)} {t : List (DeviceEvent β F)} {e : DeviceEvent β F}

theorem DeviceState.rendezvous_eq {q : WRQueue β} (hq : s.channel ch = q) :
    s.rendezvous ch =
      ⟨q.writeBufferQueue.map fun w => w.bufferStart, q.readBufferQueue.requests⟩ := by
  subst hq
  rfl

/-- What a step adds to the logs of the channel, and what it does to the readers it knows of:
the part of `ChannelHistory` that all cases share. -/
theorem ChannelHistory.extend {got' : List (WdfRequest β × List β)} (ws : List (List β))
    (h : ChannelHistory ch s log got) (hwrites : sentWrites ch fx = ws)
    (hreads : succeeded ch.readSource fx = got'.map fun p => answeredRead ch.readApi p.1 p.2)
    (hacc : (s'.rendezvous ch).Account (sentWrites ch log ++ ws) (got ++ got'))
    (hdisp : (s'.channel ch).readBufferQueue.dispatching = true) :
    ChannelHistory ch s' (log ++ fx) (got ++ got') where
  account := by rw [sentWrites_append, hwrites]; exact hacc
  reads := by rw [succeeded_append, h.reads, hreads, List.map_append]
  dispatching := hdisp

/-- A write keeps the account; undisturbed, it is sent, and the readers are paired or waiting as
before. -/
theorem ChannelHistory.write (h : ChannelHistory ch s log got) (hs : s.Typed)
    {request : WdfRequest β} {ok : Prop} (hsource : request.source = ch.writeSource)
    (hwrite : WriteStep ch.writeApi ch.readApi request ok (s.channel ch) (s'.channel ch) fx) :
    ∃ got', ChannelHistory ch s' (log ++ fx) (got ++ got') ∧
      (ok → sentWrites ch fx = [request.buffer] ∧
        got'.map Prod.fst ++ (s'.rendezvous ch).waiting = (s.rendezvous ch).waiting) := by
  have hne : request.source ≠ ch.readSource := by
    rw [hsource]
    exact writeSource_ne_readSource ch ch
  have hparked : ∀ r ∈ (s.channel ch).readBufferQueue.requests, r.source = ch.readSource := by
    intro r hr
    rw [← manualQueue_channel] at hr
    exact (hs _ r hr).trans ch.manualQueue_source
  generalize hq : s'.channel ch = q at hwrite
  have hr' := DeviceState.rendezvous_eq hq
  have hd := h.dispatching
  cases hwrite with
  | refused hok hfail =>
    refine ⟨[], h.extend [] ?_ ?_ ?_ (hq ▸ hd), fun h => absurd h hok⟩
    · simp [sentWrites, succeeded_complete, hfail]
    · simp [succeeded_complete, hfail]
    · rw [hr', List.append_nil, List.append_nil]
      exact h.account
  | lost hok hread hfail =>
    refine ⟨[], h.extend [] ?_ ?_ ?_ (hq ▸ hd), fun h => absurd h hok⟩
    · simp [sentWrites, succeeded_complete, hfail]
    · simp [succeeded_complete, hfail]
    · -- the matching read was taken out and failed: it drops out like a canceled one
      rw [hr', List.append_nil, List.append_nil]
      exact h.account.withdraw (by simp [DeviceState.rendezvous, hread])
  | @handed matchingRead rs hok hread =>
    have hm : matchingRead.source = ch.readSource := hparked matchingRead (by simp [hread])
    have hmne : matchingRead.source ≠ ch.writeSource := by
      rw [hm]
      exact (writeSource_ne_readSource ch ch).symm
    have hsent : sentWrites ch
        [.complete (answeredRead ch.readApi matchingRead request.buffer),
          .complete (completeRequest ch.writeApi request statusSuccess request.buffer.length :
            Completion β F)] = [request.buffer] := by
      simp [sentWrites, succeeded_complete, answeredRead, hmne, hsource, statusSuccess, ntSuccess]
    refine ⟨[(matchingRead, request.buffer)], h.extend _ hsent ?_ ?_ (hq ▸ hd),
      fun _ => ⟨hsent, ?_⟩⟩
    · simp [succeeded_complete, answeredRead, hm, hne, statusSuccess, ntSuccess]
    · rw [hr']
      exact h.account.put_waiting hread request.buffer
    · rw [hr']
      simp [DeviceState.rendezvous, hread]
  | stored hok hread =>
    have hsent : sentWrites ch [.complete (completeRequest ch.writeApi request statusSuccess
        request.buffer.length : Completion β F)] = [request.buffer] := by
      simp [sentWrites, succeeded_complete, hsource, statusSuccess, ntSuccess]
    refine ⟨[], h.extend _ hsent ?_ ?_ (hq ▸ hd), fun _ => ⟨hsent, ?_⟩⟩
    · simp [succeeded_complete, hne]
    · rw [hr', List.append_nil, List.map_append]
      exact h.account.put_store ((wrQueueTakeRead_eq_none hd).1 hread) request.buffer
    · rw [hr']
      rfl

theorem ChannelHistory.read (h : ChannelHistory ch s log got)
    {request : WdfRequest β} {ok : Prop} (hsource : request.source = ch.readSource)
    (hread : ReadStep ch.readApi request ok (s.channel ch) (s'.channel ch) fx) :
    ∃ got', ChannelHistory ch s' (log ++ fx) (got ++ got') ∧ sentWrites ch fx = [] ∧
      (ok → got'.map Prod.fst ++ (s'.rendezvous ch).waiting =
        (s.rendezvous ch).waiting ++ [request]) := by
  have hne : request.source ≠ ch.writeSource := by
    rw [hsource]
    exact (writeSource_ne_readSource ch ch).symm
  generalize hq : s'.channel ch = q at hread
  have hr' := DeviceState.rendezvous_eq hq
  have hd := h.dispatching
  cases hread with
  | dropped hok =>
    refine ⟨[], h.extend [] rfl rfl ?_ (hq ▸ hd), rfl, fun h => absurd h hok⟩
    rw [hr', List.append_nil, List.append_nil]
    exact h.account
  | parked hok hwrites =>
    refine ⟨[], h.extend [] rfl rfl ?_ (hq ▸ hd), rfl, ?_⟩
    · rw [hr', List.append_nil, List.append_nil]
      exact h.account.get_waiting (by simp [DeviceState.rendezvous, hwrites]) request
    · intro _
      rw [hr']
      rfl
  | @served w ws hok hwrites =>
    have hsent : sentWrites ch
        [.complete (answeredRead ch.readApi request w.bufferStart : Completion β F)] = [] := by
      simp [sentWrites, succeeded_complete, answeredRead, hne]
    have hstore : (s.rendezvous ch).store = w.bufferStart :: ws.map fun w => w.bufferStart := by
      simp [DeviceState.rendezvous, hwrites]
    refine ⟨[(request, w.bufferStart)], h.extend _ hsent ?_ ?_ (hq ▸ hd), hsent, ?_⟩
    · simp [succeeded_complete, answeredRead, hsource, statusSuccess, ntSuccess]
    · rw [hr', List.append_nil]
      exact h.account.get_store hstore request
    · intro _
      have hwait : (s.rendezvous ch).waiting = [] := by
        rcases h.account.oneSided with hs | hw
        · rw [hstore] at hs; cases hs
        · exact hw
      rw [hr']
      change [request] ++ (s.rendezvous ch).waiting = (s.rendezvous ch).waiting ++ [request]
      rw [hwait]
      rfl

/-- **One event** keeps the account of a channel, and the account of its inputs if nothing is
disturbed. -/
theorem ChannelHistory.step (h : ChannelHistory ch s log got) (hs : s.Typed)
    (heff : ChannelEffect ch s e s' fx) :
    ∃ got', ChannelHistory ch s' (log ++ fx) (got ++ got') ∧
      (Undisturbed ch s e → UndisturbedHistory ch s log got t →
        UndisturbedHistory ch s' (log ++ fx) (got ++ got') (t ++ [e])) := by
  have hwr := writeSource_ne_readSource ch ch
  cases heff with
  | @write request code o he hsource hwrite =>
    subst he
    obtain ⟨got', hhist, hok⟩ := h.write hs hsource hwrite
    refine ⟨got', hhist, ?_⟩
    intro hund hprev
    obtain ⟨hsent, hpaired⟩ := hok (hund.1 hsource)
    refine ⟨?_, ?_⟩
    · simp [hprev.writes, hsent, dispatched, hsource]
    · rw [dispatched_append, hprev.asked, ← hpaired]
      simp [dispatched, hsource, hwr]
  | @read request code o he hsource hread =>
    subst he
    obtain ⟨got', hhist, hsent, hok⟩ := h.read hsource hread
    refine ⟨got', hhist, ?_⟩
    intro hund hprev
    have hpaired := hok (hund.2 hsource)
    refine ⟨?_, ?_⟩
    · simp [hprev.writes, hsent, dispatched, hsource, hwr.symm]
    · rw [dispatched_append, hprev.asked, List.map_append, List.append_assoc, List.append_assoc,
        hpaired]
      simp [dispatched, hsource]
  | @cancel request l m he hqueue hch hfx =>
    subst he
    refine ⟨[], h.extend [] ?_ ?_ ?_ ?_, fun hund => absurd rfl hund⟩
    · simp [hfx, sentWrites, succeeded_complete, statusCancelled, ntSuccess]
    · simp [hfx, succeeded_complete, statusCancelled, ntSuccess]
    · rw [DeviceState.rendezvous_eq hch, List.append_nil, List.append_nil]
      refine h.account.withdraw ?_
      change (l ++ m).Sublist (s.channel ch).readBufferQueue.requests
      rw [hqueue]
      exact List.Sublist.append_left (List.sublist_cons_self request m) l
    · rw [hch]
      exact h.dispatching
  | other hch hdisp hfx =>
    have hrend : s'.rendezvous ch = s.rendezvous ch := DeviceState.rendezvous_eq hch
    have hsent : sentWrites ch fx = [] := by
      rw [sentWrites, succeeded_eq_nil fun c hc hsource => absurd hsource (hfx c hc).1]
      rfl
    refine ⟨[], h.extend _ hsent ?_ ?_ (hch ▸ h.dispatching), fun _ hprev => ⟨?_, ?_⟩⟩
    · exact succeeded_eq_nil fun c hc hsource => absurd hsource (hfx c hc).2
    · rw [hrend, List.append_nil, List.append_nil]
      exact h.account
    · rw [sentWrites_append, hsent, dispatched_append, hdisp _ (Or.inl rfl), List.append_nil,
        List.append_nil]
      exact hprev.writes
    · rw [dispatched_append, hdisp _ (Or.inr rfl), List.append_nil, List.append_nil, hrend]
      exact hprev.asked

end

theorem channelHistory_init [Zero F] (ch : MissionChannel) :
    ChannelHistory ch (deviceInit : DeviceState β F) [] [] := by
  cases ch <;> exact ⟨.empty, rfl, rfl⟩

theorem channelHistory_run [Zero F] (ch : MissionChannel) {t : List (DeviceEvent β F)}
    {s : DeviceState β F} {log : List (Effect β F)} (hrun : deviceRun t = some (s, log)) :
    ∃ got, ChannelHistory ch s log got := by
  refine run_invariant (P := fun _ p => ∃ got, ChannelHistory ch p.1 p.2 got)
    ⟨[], channelHistory_init ch⟩ ?_ hrun
  intro t p e p' hp h hstep
  obtain ⟨got, h⟩ := h
  obtain ⟨fx, hout, hlog⟩ := logged_eq_some.1 hstep
  have hs : p.1.Typed := deviceRun_typed hp
  obtain ⟨got', h', -⟩ := h.step (t := t) hs ((deviceStep_effect hout).onChannel hs ch)
  exact ⟨got ++ got', hlog ▸ h'⟩

theorem undisturbedHistory_run [Zero F] (ch : MissionChannel) {t : List (DeviceEvent β F)}
    {s : DeviceState β F} {log : List (Effect β F)} (hrun : deviceRun t = some (s, log))
    (hund : Along (fun p e => Undisturbed ch p.1 e) (logged deviceStep) (deviceInit, []) t) :
    ∃ got, ChannelHistory ch s log got ∧ UndisturbedHistory ch s log got t := by
  refine run_invariant_along (C := fun p e => Undisturbed ch p.1 e)
    (P := fun t p => ∃ got, ChannelHistory ch p.1 p.2 got ∧ UndisturbedHistory ch p.1 p.2 got t)
    ⟨[], channelHistory_init ch, rfl, by cases ch <;> rfl⟩ (fun t p e p' hp h hC hstep => ?_)
    hrun hund
  obtain ⟨got, h, hprev⟩ := h
  obtain ⟨fx, hout, hlog⟩ := logged_eq_some.1 hstep
  have hs : p.1.Typed := deviceRun_typed hp
  obtain ⟨got', h', hnext⟩ := h.step (t := t) hs ((deviceStep_effect hout).onChannel hs ch)
  exact ⟨got ++ got', hlog ▸ h', hlog ▸ hnext hC hprev⟩

/-! ## The channel law -/

/-- The event is a write of the channel that its handler completed with an error. -/
def WriteFailed (ch : MissionChannel) (e : DeviceEvent β F) (fx : List (Effect β F)) : Prop :=
  ∃ request code o, e = .dispatch request code o ∧ request.source = ch.writeSource ∧
    ∃ c ∈ completions fx, c.request = request ∧ ntSuccess c.status = false

/-- A write completed with an error is not stored, and no read succeeds in its handler. -/
theorem writeFailed_step [Zero F] {ch : MissionChannel} {s s' : DeviceState β F}
    {e : DeviceEvent β F} {fx : List (Effect β F)} (hs : s.Typed)
    (hstep : deviceStep s e = some (s', fx)) (hfail : WriteFailed ch e fx) :
    (s'.channel ch).writeBufferQueue = (s.channel ch).writeBufferQueue ∧
      sentWrites ch fx = [] ∧ succeeded ch.readSource fx = [] := by
  obtain ⟨request, code, o, rfl, hsource, c, hc, hreq, hst⟩ := hfail
  cases (deviceStep_effect hstep).onChannel hs ch with
  | read he hsource' =>
    cases he
    exact absurd (hsource.symm.trans hsource') (writeSource_ne_readSource ch ch)
  | cancel he => cases he
  | other hch hdisp hfx => exact absurd hsource (hreq ▸ (hfx c hc).1)
  | write he hsource' hwrite =>
    cases he
    generalize hq : s'.channel ch = q at hwrite
    cases hwrite with
    | refused hok hfail => exact ⟨rfl, by simp [sentWrites, succeeded_complete, hfail],
        by simp [succeeded_complete, hfail]⟩
    | lost hok hread hfail => exact ⟨rfl, by simp [sentWrites, succeeded_complete, hfail],
        by simp [succeeded_complete, hfail]⟩
    | handed hok hread =>
      simp only [completions_complete, completions_nil, List.mem_cons, List.not_mem_nil,
        or_false] at hc
      rcases hc with rfl | rfl <;> cases hst
    | stored hok hread =>
      simp only [completions_complete, completions_nil, List.mem_cons, List.not_mem_nil,
        or_false] at hc
      subst hc
      cases hst

/-- **Each mission channel is FIFO.** In every run, the `k`-th successful read received the first
bytes of the `k`-th successful write, as many as fit, and reports that count; the stored writes are
the successful writes not matched yet, in order; writes are stored or reads are parked, not both;
a write completed with an error is neither stored nor delivered; and two undisturbed runs with the
same writes and the same reads, in whatever interleaving, complete the reads alike and leave the
same writes stored and the same reads parked. -/
theorem missionChannel_fifo [Zero F] (ch : MissionChannel) {t : List (DeviceEvent β F)}
    {s : DeviceState β F} {log : List (Effect β F)} (hrun : deviceRun t = some (s, log)) :
    (∀ (k : Nat) (r : Completion β F), (succeeded ch.readSource log)[k]? = some r →
      ∃ w, (sentWrites ch log)[k]? = some w ∧
      r.information = min w.length r.request.buffer.length ∧
      r.data = .bytes (w.take (min w.length r.request.buffer.length))) ∧
    (s.channel ch).writeBufferQueue.map (fun w => w.bufferStart) =
      (sentWrites ch log).drop (succeeded ch.readSource log).length ∧
    ((s.channel ch).writeBufferQueue = [] ∨ (s.channel ch).readBufferQueue.requests = []) ∧
    (∀ e s' fx, deviceStep s e = some (s', fx) → WriteFailed ch e fx →
      (s'.channel ch).writeBufferQueue = (s.channel ch).writeBufferQueue ∧
      sentWrites ch fx = [] ∧ succeeded ch.readSource fx = []) ∧
    (Along (fun p e => Undisturbed ch p.1 e) (logged deviceStep) (deviceInit, []) t →
      ∀ t' s' log', deviceRun t' = some (s', log') →
      Along (fun p e => Undisturbed ch p.1 e) (logged deviceStep) (deviceInit, []) t' →
      dispatched ch.writeSource t' = dispatched ch.writeSource t →
      dispatched ch.readSource t' = dispatched ch.readSource t →
      succeeded ch.readSource log' = succeeded ch.readSource log ∧
      (s'.channel ch).writeBufferQueue.map (fun w => w.bufferStart) =
        (s.channel ch).writeBufferQueue.map (fun w => w.bufferStart) ∧
      (s'.channel ch).readBufferQueue.requests = (s.channel ch).readBufferQueue.requests) := by
  obtain ⟨got, h⟩ := channelHistory_run ch hrun
  have hlen : (succeeded ch.readSource log).length = got.length := by simp [h.reads]
  refine ⟨?_, ?_, ?_, ?_, ?_⟩
  · intro k r hk
    rw [h.reads, List.getElem?_map, Option.map_eq_some_iff] at hk
    obtain ⟨p, hp, rfl⟩ := hk
    exact ⟨p.2, h.account.getElem?_got hp, rfl, rfl⟩
  · rw [hlen]
    exact h.account.store_eq_drop
  · exact h.account.oneSided.imp_left List.map_eq_nil_iff.1
  · intro e s' fx hstep hfail
    exact writeFailed_step (deviceRun_typed hrun) hstep hfail
  · intro hund t' s' log' hrun' hund' hwrites hreads
    obtain ⟨got₁, h₁, u₁⟩ := undisturbedHistory_run ch hrun hund
    obtain ⟨got₂, h₂, u₂⟩ := undisturbedHistory_run ch hrun' hund'
    obtain ⟨hgot₁, hstore₁, hwait₁⟩ := h₁.account.got_eq_zip u₁.asked
    obtain ⟨hgot₂, hstore₂, hwait₂⟩ := h₂.account.got_eq_zip u₂.asked
    have hsent : sentWrites ch log' = sentWrites ch log := by rw [u₂.writes, hwrites, u₁.writes]
    rw [hsent, hreads] at hgot₂ hstore₂ hwait₂
    exact ⟨by rw [h₂.reads, h₁.reads, hgot₂, hgot₁], hstore₂.trans hstore₁.symm,
      hwait₂.trans hwait₁.symm⟩

/-- A mission is handed to a parked read, another one is stored, a third one finds no memory. -/
def threeMissions : List (DeviceEvent UInt8 ULONG) :=
  let o : Outcomes := ⟨.ok (), true, .ok (), ⟨false, ⟨statusCancelled, statusCancelled_failed⟩⟩, 0⟩
  [.dispatch ⟨0, .read, [0, 0]⟩ 0 o,
    .dispatch ⟨1, .bulkOut, [1, 2, 3]⟩ ioctlInternalUsbSubmitUrb o,
    .dispatch ⟨2, .bulkOut, [4]⟩ ioctlInternalUsbSubmitUrb o,
    .dispatch ⟨3, .bulkOut, [5]⟩ ioctlInternalUsbSubmitUrb { o with alloc := false }]

theorem threeMissions_stored : ∃ s log, deviceRun threeMissions = some (s, log) ∧
    (sentWrites .missionRequest log).length = 2 ∧
    (s.channel .missionRequest).writeBufferQueue.map (fun w => w.bufferStart) =
      (sentWrites .missionRequest log).drop (succeeded .read log).length :=
  ⟨_, _, rfl, rfl, (missionChannel_fifo .missionRequest (t := threeMissions) rfl).2.1⟩

end UdeSample
