import UdeSample.App.TextTools

/-!
# Runs of `-w` and `-r`

`textTools_printed`: what the readers print are the texts the writers wrote, in order and each once,
whatever the readers had on their stacks; what is not printed yet is stored in the driver.
`textTools_drained`: enough readers print all of it.
-/

namespace UdeSample

open Lib

/-! ## One event of the device -/

section

variable {s s' : DeviceState UInt8 ULONG} {e : DeviceEvent UInt8 ULONG}
  {fx : List (Effect UInt8 ULONG)}

/-- The parked reads of a channel. -/
def DeviceState.parkedReads (s : DeviceState UInt8 ULONG) (ch : MissionChannel) :
    List (WdfRequest UInt8) :=
  (s.channel ch).readBufferQueue.requests

theorem DeviceState.Typed.parkedReads (h : s.Typed) {ch : MissionChannel} {r : WdfRequest UInt8}
    (hr : r ∈ s.parkedReads ch) : r.source = ch.readSource := by
  rw [DeviceState.parkedReads, ← manualQueue_channel] at hr
  exact (h _ r hr).trans ch.manualQueue_source

/-- The event dispatches a request of a channel. -/
def Dispatches (e : DeviceEvent UInt8 ULONG) (request : WdfRequest UInt8) : Prop :=
  OfChannel request ∧ ∃ code o, e = .dispatch request code o

theorem not_ofChannel {request : WdfRequest UInt8} {source : RequestSource}
    (h : request.source = source) (hsource : source = .control ∨ source = .interruptIn) :
    ¬ OfChannel request := by
  rintro ⟨ch, hch⟩
  rw [h] at hch
  rcases hsource with rfl | rfl <;> cases ch <;> rcases hch with hch | hch <;> cases hch

/-- What an event completes are different requests: the dispatched one, and parked ones. -/
def AnswersOnce (s : DeviceState UInt8 ULONG) (e : DeviceEvent UInt8 ULONG)
    (fx : List (Effect UInt8 ULONG)) : Prop :=
  ((completions fx).map fun c => c.request).Nodup ∧
    ∀ c ∈ completions fx, Dispatches e c.request ∨ ∃ ch, c.request ∈ s.parkedReads ch

theorem WriteStep.answersOnce {ch : MissionChannel} {request : WdfRequest UInt8} {code : ULONG}
    {o : Outcomes} {ok : Prop} {q : WRQueue UInt8} (hs : s.Typed)
    (hsource : request.source = ch.writeSource)
    (h : WriteStep ch.writeApi ch.readApi request ok (s.channel ch) q fx) :
    AnswersOnce s (.dispatch request code o) fx := by
  have hdispatched : Dispatches (.dispatch request code o) request :=
    ⟨⟨ch, Or.inl hsource⟩, code, o, rfl⟩
  have hmatched : ∀ matchingRead rs, (s.channel ch).readBufferQueue.requests = matchingRead :: rs →
      matchingRead ∈ s.parkedReads ch ∧ matchingRead ≠ request := by
    intro matchingRead rs hread
    have hmem : matchingRead ∈ s.parkedReads ch := by
      rw [DeviceState.parkedReads, hread]
      exact List.mem_cons_self
    refine ⟨hmem, ?_⟩
    rintro rfl
    exact writeSource_ne_readSource ch ch (hsource.symm.trans (hs.parkedReads hmem))
  cases h with
  | refused | stored =>
    refine ⟨List.nodup_singleton _, ?_⟩
    intro c hc
    rw [List.mem_singleton.1 hc]
    exact Or.inl hdispatched
  | lost _ hread | handed _ hread =>
    obtain ⟨hmem, hne⟩ := hmatched _ _ hread
    refine ⟨List.nodup_cons.2 ⟨?_, List.nodup_singleton _⟩, ?_⟩
    · exact fun heq => hne (List.mem_singleton.1 heq)
    · intro c hc
      rcases List.mem_cons.1 hc with rfl | hc
      · exact Or.inr ⟨ch, hmem⟩
      · rw [List.mem_singleton.1 hc]
        exact Or.inl hdispatched

/-- **Every event** completes requests of the interrupt path only, or each request once. -/
theorem DeviceEffect.answers (h : DeviceEffect s e s' fx) (hs : s.Typed) :
    (∀ c ∈ completions fx, ¬ OfChannel c.request) ∨ AnswersOnce s e fx := by
  cases h with
  | @control request code o hsource =>
    refine Or.inl ?_
    intro c hc
    rw [ioEvtControlUrb_completed code request o c hc]
    exact not_ofChannel hsource (Or.inl rfl)
  | write ch hsource hwrite => exact Or.inr (hwrite.answersOnce hs hsource)
  | @read ch request code o q _ hsource hread =>
    cases hread with
    | dropped | parked => exact Or.inr ⟨List.nodup_nil, fun _ hc => absurd hc List.not_mem_nil⟩
    | served =>
      refine Or.inr ⟨List.nodup_singleton _, ?_⟩
      intro c hc
      rw [List.mem_singleton.1 hc]
      exact Or.inl ⟨⟨ch, Or.inr hsource⟩, code, o, rfl⟩
  | @urb request code o io _ hsource hurb =>
    refine Or.inl ?_
    intro c hc
    rw [hurb.completed c hc]
    exact not_ofChannel hsource (Or.inr rfl)
  | raise hraise =>
    refine Or.inl ?_
    intro c hc
    exact not_ofChannel (hs .intrDeferred _ (hraise.completed c hc)) (Or.inr rfl)
  | @cancel queue request l m hqueue =>
    have hmem : request ∈ (s.manualQueue queue).requests := by
      rw [hqueue]
      exact List.mem_append_right l List.mem_cons_self
    by_cases hch : ∃ ch : MissionChannel, queue = ch.manualQueue
    · obtain ⟨ch, rfl⟩ := hch
      refine Or.inr ⟨List.nodup_singleton _, ?_⟩
      intro c hc
      rw [List.mem_singleton.1 hc]
      exact Or.inr ⟨ch, by rwa [DeviceState.parkedReads, ← manualQueue_channel]⟩
    · have hqueue : queue = .intrDeferred := by
        cases queue with
        | missionRequest => exact absurd ⟨.missionRequest, rfl⟩ hch
        | missionCompletion => exact absurd ⟨.missionCompletion, rfl⟩ hch
        | intrDeferred => rfl
      subst hqueue
      refine Or.inl ?_
      intro c hc
      rw [List.mem_singleton.1 hc]
      exact not_ofChannel (hs .intrDeferred request hmem) (Or.inr rfl)
  | linkPowerEntry => exact Or.inl fun _ hc => absurd hc List.not_mem_nil
  | linkPowerExit =>
    refine Or.inl ?_
    intro c hc
    rw [completions_map_complete] at hc
    obtain ⟨request, hrequest, rfl⟩ := List.mem_map.1 hc
    exact not_ofChannel (hs .intrDeferred request hrequest) (Or.inr rfl)

/-- A read that stays parked, or is parked anew, was not completed. -/
theorem ChannelEffect.parked {ch : MissionChannel} (h : ChannelEffect ch s e s' fx) (hs : s.Typed)
    (hnodup : (s.parkedReads ch).Nodup)
    (hnew : ∀ request, Dispatches e request → request ∉ s.parkedReads ch) :
    (s'.parkedReads ch).Nodup ∧ ∀ r ∈ s'.parkedReads ch,
      (r ∈ s.parkedReads ch ∨ Dispatches e r) ∧ ∀ c ∈ completions fx, c.request ≠ r := by
  cases h with
  | @write request code o he hsource hwrite =>
    have hne : ∀ r ∈ s.parkedReads ch, request ≠ r := by
      rintro r hr rfl
      exact writeSource_ne_readSource ch ch (hsource.symm.trans (hs.parkedReads hr))
    generalize hq : s'.channel ch = q at hwrite
    have hparked : s'.parkedReads ch = q.readBufferQueue.requests := by
      rw [DeviceState.parkedReads, hq]
    rw [hparked]
    cases hwrite with
    | refused | stored =>
      refine ⟨hnodup, ?_⟩
      intro r hr
      refine ⟨Or.inl hr, ?_⟩
      intro c hc
      rw [List.mem_singleton.1 hc]
      exact hne r hr
    | @lost matchingRead rs _ _ hread | @handed matchingRead rs _ hread =>
      have hcons : s.parkedReads ch = matchingRead :: rs := hread
      rw [hcons] at hnodup hne ⊢
      obtain ⟨hnot, hnodup⟩ := List.nodup_cons.1 hnodup
      refine ⟨hnodup, ?_⟩
      intro r hr
      refine ⟨Or.inl (List.mem_cons_of_mem _ hr), ?_⟩
      intro c hc
      rcases List.mem_cons.1 hc with rfl | hc
      · intro heq
        obtain rfl : matchingRead = r := heq
        exact hnot hr
      · rw [List.mem_singleton.1 hc]
        exact hne r (List.mem_cons_of_mem _ hr)
  | @read request code o he hsource hread =>
    have hdispatched : Dispatches e request := ⟨⟨ch, Or.inr hsource⟩, code, o, he⟩
    have hnot := hnew request hdispatched
    generalize hq : s'.channel ch = q at hread
    have hparked : s'.parkedReads ch = q.readBufferQueue.requests := by
      rw [DeviceState.parkedReads, hq]
    rw [hparked]
    cases hread with
    | dropped => exact ⟨hnodup, fun r hr => ⟨Or.inl hr, fun _ hc => absurd hc List.not_mem_nil⟩⟩
    | parked =>
      refine ⟨?_, ?_⟩
      · refine List.nodup_append.2 ⟨hnodup, List.nodup_singleton _, ?_⟩
        rintro r hr r' hr' rfl
        exact hnot (List.mem_singleton.1 hr' ▸ hr)
      · intro r hr
        refine ⟨(List.mem_append.1 hr).imp_right ?_, fun _ hc => absurd hc List.not_mem_nil⟩
        intro hr
        rw [List.mem_singleton.1 hr]
        exact hdispatched
    | served =>
      refine ⟨hnodup, ?_⟩
      intro r hr
      refine ⟨Or.inl hr, ?_⟩
      intro c hc heq
      rw [List.mem_singleton.1 hc] at heq
      obtain rfl : request = r := heq
      exact hnot hr
  | @cancel request l m he hqueue hch hfx =>
    have hbefore : s.parkedReads ch = l ++ request :: m := hqueue
    have hafter : s'.parkedReads ch = l ++ m := by rw [DeviceState.parkedReads, hch]
    rw [hbefore] at hnodup ⊢
    rw [hafter]
    obtain ⟨hnot, hrest⟩ := List.nodup_cons.1 (List.nodup_middle.1 hnodup)
    refine ⟨hrest, ?_⟩
    intro r hr
    refine ⟨Or.inl ?_, ?_⟩
    · exact (List.mem_append.1 hr).elim (List.mem_append_left _)
        fun hr => List.mem_append_right _ (List.mem_cons_of_mem _ hr)
    · intro c hc heq
      rw [hfx] at hc
      rw [List.mem_singleton.1 hc] at heq
      obtain rfl : request = r := heq
      exact hnot hr
  | other hch hdisp hfx =>
    have hsame : s'.parkedReads ch = s.parkedReads ch := by
      rw [DeviceState.parkedReads, DeviceState.parkedReads, hch]
    rw [hsame]
    refine ⟨hnodup, ?_⟩
    intro r hr
    refine ⟨Or.inl hr, ?_⟩
    intro c hc heq
    exact (hfx c hc).2 (heq ▸ hs.parkedReads hr)

end

/-! ## Every run -/

/-- The processes against the effects of the device so far. -/
structure TextAccount (s : TextTools) (log : List (Effect UInt8 ULONG)) (mission : Bool) :
    Prop where
  wrote : sentWrites (missionChannel mission) log = (s.wrote mission).map sentString
  plain : ∀ text ∈ s.wrote mission, cstring text = text
  got : List.Forall₂ GotLine (succeeded (missionChannel mission).readSource log) (s.got mission)

structure TextToolsInv (s : TextTools) : Prop where
  ids : s.OwnIds
  fresh : ∀ tool ∈ s.running, tool.id < s.launched.length
  once : (s.running ++ s.lines.map Prod.fst).Perm s.launched
  parked : ∀ ch, (s.device.parkedReads ch).Nodup ∧
    ∀ r ∈ s.device.parkedReads ch, ∃ tool ∈ s.running, r = tool.request
  account : ∃ t log, deviceRun t = some (s.device, log) ∧ ∀ mission, TextAccount s log mission

namespace TextToolsInv

variable {s s' : TextTools}

theorem init : TextToolsInv textToolsInit := by
  refine ⟨List.nodup_nil, fun _ h => absurd h List.not_mem_nil, List.Perm.refl _, ?_, ?_⟩
  · intro ch
    cases ch <;> exact ⟨List.nodup_nil, fun _ h => absurd h List.not_mem_nil⟩
  · exact ⟨[], [], rfl, fun _ => ⟨rfl, fun _ h => absurd h List.not_mem_nil, .nil⟩⟩

/-- A new process, whose request is not known to the device. -/
theorem launch (h : TextToolsInv s) {tool : TextTool} (hid : tool.id = s.launched.length) :
    TextToolsInv (s.launch tool) ∧ ∀ ch, tool.request ∉ s.device.parkedReads ch := by
  refine ⟨⟨?_, ?_, ?_, ?_, ?_⟩, ?_⟩
  · change ((s.running ++ [tool]).map TextTool.id).Nodup
    rw [List.map_append]
    refine List.nodup_append.2 ⟨h.ids, List.nodup_singleton _, ?_⟩
    rintro id hmem id' hid' rfl
    obtain ⟨tool', htool', rfl⟩ := List.mem_map.1 hmem
    have hlt := h.fresh tool' htool'
    rw [List.mem_singleton.1 hid', hid] at hlt
    exact absurd hlt (Nat.lt_irrefl _)
  · intro tool' htool'
    change tool'.id < (s.launched ++ [tool]).length
    rw [List.length_append, List.length_singleton]
    rcases List.mem_append.1 htool' with hold | hnew
    · exact Nat.lt_succ_of_lt (h.fresh tool' hold)
    · rw [List.mem_singleton.1 hnew, hid]
      exact Nat.lt_succ_self _
  · change (s.running ++ [tool] ++ s.lines.map Prod.fst).Perm (s.launched ++ [tool])
    rw [List.append_assoc]
    refine List.perm_middle.trans ?_
    exact (h.once.cons tool).trans (List.perm_append_singleton tool s.launched).symm
  · intro ch
    refine ⟨(h.parked ch).1, ?_⟩
    intro r hr
    obtain ⟨tool', htool', heq⟩ := (h.parked ch).2 r hr
    exact ⟨tool', List.mem_append_left _ htool', heq⟩
  · obtain ⟨t, log, hrun, haccount⟩ := h.account
    exact ⟨t, log, hrun, fun mission => ⟨(haccount mission).wrote, (haccount mission).plain,
      (haccount mission).got⟩⟩
  · intro ch hmem
    obtain ⟨tool', htool', heq⟩ := (h.parked ch).2 _ hmem
    have hlt := h.fresh tool' htool'
    rw [← tool'.request_id, ← heq, tool.request_id, hid] at hlt
    exact absurd hlt (Nat.lt_irrefl _)

/-- What completions add to the lines, they add to the log. -/
theorem returned_account {cs : List (Completion UInt8 ULONG)} {log fx : List (Effect UInt8 ULONG)}
    (hret : Returned s cs s') (hcs : ∀ source, succeeded source fx = succeededOf source cs)
    {mission : Bool} (h : TextAccount s log mission) : TextAccount s' (log ++ fx) mission := by
  obtain ⟨texts, hwrote, hsent, hplain⟩ := hret.wrote mission
  obtain ⟨lines, hgot, hlines⟩ := hret.got mission
  refine ⟨?_, ?_, ?_⟩
  · rw [sentWrites_append, h.wrote, hwrote, List.map_append, ← hsent, sentWrites, hcs]
  · rw [hwrote]
    exact fun text htext => (List.mem_append.1 htext).elim (h.plain text) (hplain text)
  · rw [succeeded_append, hgot, hcs]
    exact List.rel_append h.got hlines

/-- Requests of running processes are completed; what stays parked was not. -/
theorem returned (h : TextToolsInv s) {d : DeviceState UInt8 ULONG}
    {cs : List (Completion UInt8 ULONG)} {fx : List (Effect UInt8 ULONG)}
    (hret : Returned { s with device := d } cs s')
    (hparked : ∀ ch, (d.parkedReads ch).Nodup ∧ ∀ r ∈ d.parkedReads ch,
      (∃ tool ∈ s.running, r = tool.request) ∧ ∀ c ∈ cs, c.request ≠ r)
    (hrun : ∀ t log, deviceRun t = some (s.device, log) → ∃ t', deviceRun t' = some (d, log ++ fx))
    (hcs : ∀ source, succeeded source fx = succeededOf source cs) : TextToolsInv s' := by
  refine ⟨TextTools.Returned.ownIds hret h.ids, ?_, ?_, ?_, ?_⟩
  · intro tool htool
    rw [hret.launched]
    exact h.fresh tool (hret.running.subset htool)
  · rw [hret.launched]
    exact hret.once.trans h.once
  · intro ch
    rw [hret.device]
    refine ⟨(hparked ch).1, ?_⟩
    intro r hr
    obtain ⟨⟨tool, htool, rfl⟩, hne⟩ := (hparked ch).2 r hr
    exact ⟨tool, hret.waiting tool htool hne, rfl⟩
  · obtain ⟨t, log, hbefore, haccount⟩ := h.account
    obtain ⟨t', hafter⟩ := hrun t log hbefore
    rw [hret.device]
    refine ⟨t', log ++ fx, hafter, ?_⟩
    intro mission
    have hsame : TextAccount { s with device := d } log mission :=
      ⟨(haccount mission).wrote, (haccount mission).plain, (haccount mission).got⟩
    exact returned_account hret hcs hsame

/-- **An event of the device** that dispatches no request of a channel but that of a process. -/
theorem deviceEvent (h : TextToolsInv s) {e : DeviceEvent UInt8 ULONG}
    (hnew : ∀ request, Dispatches e request →
      (∃ tool ∈ s.running, request = tool.request) ∧ ∀ ch, request ∉ s.device.parkedReads ch)
    (hstep : s.deviceEvent e = some s') : TextToolsInv s' := by
  obtain ⟨⟨d, fx⟩, hout, rfl⟩ := Option.map_eq_some_iff.1 hstep
  have htyped : s.device.Typed := by
    obtain ⟨t, log, hrun, -⟩ := h.account
    exact deviceRun_typed hrun
  have heffect := deviceStep_effect hout
  have hret : Returned { s with device := d } (completions fx)
      ((completions fx).foldl TextTools.returned { s with device := d }) := by
    rcases heffect.answers htyped with hother | ⟨hnodup, hmem⟩
    · exact TextTools.foldl_returned_other hother
    · refine TextTools.foldl_returned h.ids hnodup ?_
      intro c hc
      rcases hmem c hc with hdispatched | ⟨ch, hparked⟩
      · exact (hnew c.request hdispatched).1
      · exact (h.parked ch).2 c.request hparked
  refine h.returned hret ?_ ?_ (fun _ => rfl)
  · intro ch
    obtain ⟨hnodup, hparked⟩ := (heffect.onChannel htyped ch).parked htyped (h.parked ch).1
      fun request hdispatched => (hnew request hdispatched).2 ch
    refine ⟨hnodup, ?_⟩
    intro r hr
    obtain ⟨hold | hdispatched, hne⟩ := hparked r hr
    · exact ⟨(h.parked ch).2 r hold, hne⟩
    · exact ⟨(hnew r hdispatched).1, hne⟩
  · intro t log hrun
    exact ⟨t ++ [e], run_concat.2 ⟨_, hrun, logged_eq_some.2 ⟨fx, hout, rfl⟩⟩⟩

theorem call (h : TextToolsInv s) {tool : TextTool} (htool : tool ∈ s.running)
    (hnew : ∀ ch, tool.request ∉ s.device.parkedReads ch) {send : NtResult Unit} {o : Outcomes}
    (hstep : s.call tool send o = some s') : TextToolsInv s' := by
  have hdispatch : ∀ {code : ULONG}, s.deviceEvent (.dispatch tool.request code o) = some s' →
      TextToolsInv s' := by
    intro code hevent
    refine h.deviceEvent ?_ hevent
    rintro request ⟨-, code', o', he⟩
    obtain rfl : tool.request = request := (DeviceEvent.dispatch.inj he).1
    exact ⟨⟨tool, htool, rfl⟩, hnew⟩
  unfold TextTools.call at hstep
  split at hstep
  · exact hdispatch hstep
  · rcases tool.urb_cases send with hsent | ⟨status, hfail, hfailed⟩
    · rw [hsent] at hstep
      exact hdispatch hstep
    · rw [hfailed] at hstep
      obtain rfl := Option.some.inj hstep
      have hret := TextTools.returned_own h.ids htool
        (c := completeRequest .wdfRequest tool.request status 0) rfl
      have hsame : ∀ t log, deviceRun t = some (s.device, log) →
          ∃ t', deviceRun t' = some (s.device, log ++ []) := by
        intro t log hrun
        exact ⟨t, by rw [List.append_nil, hrun]⟩
      refine h.returned hret ?_ hsame ?_
      · intro ch
        refine ⟨(h.parked ch).1, ?_⟩
        intro r hr
        refine ⟨(h.parked ch).2 r hr, ?_⟩
        intro c hc heq
        rw [List.mem_singleton.1 hc] at heq
        obtain rfl : tool.request = r := heq
        exact hnew ch hr
      · intro source
        rw [TextTools.succeededOf_singleton, if_neg]
        · rfl
        · exact fun hok => absurd (hfail.symm.trans hok.2) (by decide)

theorem step (h : TextToolsInv s) {e : TextToolEvent} (hstep : textToolStep s e = some s') :
    TextToolsInv s' := by
  cases e with
  | launch argv buffer opened send o =>
    obtain ⟨tool, htool, hcall⟩ := Option.bind_eq_some_iff.1 hstep
    cases opened with
    | false => exact Option.some.inj hcall ▸ h
    | true =>
      have hid : tool.id = s.launched.length := by
        unfold textTool at htool
        split at htool <;> cases htool <;> rfl
      obtain ⟨hlaunched, hnew⟩ := h.launch hid
      exact hlaunched.call (List.mem_append_right _ (List.mem_singleton_self tool)) hnew hcall
  | cancel ch i =>
    refine h.deviceEvent ?_ hstep
    rintro request ⟨-, code, o, he⟩
    cases he
  | interrupt e =>
    rw [textToolStep] at hstep
    split at hstep
    · next hpath =>
      refine h.deviceEvent ?_ hstep
      rintro request ⟨hchannel, code, o, rfl⟩
      have hsource := of_decide_eq_true hpath
      exact absurd hchannel (not_ofChannel rfl hsource)
    · cases hstep

end TextToolsInv

/-- A reader of the channel that finds the device, and whose calls in the drivers do not fail. -/
def ReadsText (mission : Bool) (e : TextToolEvent) : Prop :=
  ∃ argv buffer o, e = .launch argv buffer true (.ok ()) o ∧
    main argv = .readTextFrom mission ∧ o.retrieve = .ok ()

/-- No call of a reader's handler fails where a text is stored. -/
theorem readOk_of_stored {mission : Bool} {request : WdfRequest UInt8} {code : ULONG}
    {o : Outcomes} {q : WRQueue UInt8} (hroom : 1 ≤ request.buffer.length)
    (ho : o.retrieve = .ok ())
    (hcode : readInterface mission = .hostude → code = ioctlInternalUsbSubmitUrb)
    (hstored : q.writeBufferQueue ≠ []) : (missionChannel mission).ReadOk code request o q := by
  have hpull : PullOk o.forward q := fun hempty => absurd (List.isEmpty_iff.1 hempty) hstored
  cases mission with
  | true =>
    refine ⟨?_, hpull⟩
    rw [ho, wdfRequestRetrieveBuffer]
    exact congrArg Except.isOk (if_neg (Nat.not_lt.2 hroom))
  | false => exact ⟨hcode rfl, congrArg Except.isOk ho, hpull⟩

/-- A reader that finds a text stored is given it. -/
theorem deviceStep_served {d : DeviceState UInt8 ULONG} (hd : d.Typed) {ch : MissionChannel}
    {request : WdfRequest UInt8} (hsource : request.source = ch.readSource) {code : ULONG}
    {o : Outcomes} {w : BufferContent UInt8} {ws : List (BufferContent UInt8)}
    (hstore : (d.channel ch).writeBufferQueue = w :: ws)
    (hok : ch.ReadOk code request o (d.channel ch)) :
    ∃ d', deviceStep d (.dispatch request code o) =
        some (d', [.complete (answeredRead ch.readApi request w.bufferStart)]) ∧
      (d'.channel ch).writeBufferQueue = ws := by
  obtain ⟨⟨d', fx⟩, hout⟩ : ∃ p, deviceStep d (.dispatch request code o) = some p := by
    cases ch <;> simp only [deviceStep, hsource] <;> exact ⟨_, rfl⟩
  cases (deviceStep_effect hout).onChannel hd ch with
  | write he hsource' =>
    cases he
    exact absurd (hsource'.symm.trans hsource) (writeSource_ne_readSource ch ch)
  | cancel he => cases he
  | other hch hdisp =>
    have hnone := hdisp _ (Or.inr hsource)
    simp [dispatched] at hnone
  | read he _ hread =>
    cases he
    generalize hq : d'.channel ch = q at hread
    cases hread with
    | dropped hnot => exact absurd hok hnot
    | parked _ hwrites =>
      rw [hstore] at hwrites
      cases hwrites
    | served _ hwrites =>
      rw [hstore] at hwrites
      cases hwrites
      exact ⟨d', hout, by rw [hq]⟩

theorem TextToolsInv.typed {s : TextTools} (h : TextToolsInv s) : s.device.Typed := by
  obtain ⟨t, log, hrun, -⟩ := h.account
  exact deviceRun_typed hrun

/-- The call of a reader that finds a text stored. -/
theorem TextToolsInv.call_served {s : TextTools} (h : TextToolsInv s) {tool : TextTool}
    (htool : tool ∈ s.running) {buffer : TextBuffer} (hcall : tool.call = .read buffer)
    {o : Outcomes} (ho : o.retrieve = .ok ()) {w : BufferContent UInt8}
    {ws : List (BufferContent UInt8)}
    (hstore : (s.device.channel (missionChannel tool.mission)).writeBufferQueue = w :: ws) :
    ∃ s', s.call tool (.ok ()) o = some s' ∧
      (s'.device.channel (missionChannel tool.mission)).writeBufferQueue = ws ∧
      s'.running = s.running.erase tool ∧ ∀ mission, s'.wrote mission = s.wrote mission := by
  have hsource := TextTool.request_source_read hcall
  have hinterface : tool.interface = readInterface tool.mission := by
    rw [TextTool.interface, hcall]
  have hbuffer : tool.request.buffer = buffer.chars := by rw [TextTool.request, hcall]
  have hserved : ∀ code, (readInterface tool.mission = .hostude →
      code = ioctlInternalUsbSubmitUrb) → ∃ s',
        s.deviceEvent (.dispatch tool.request code o) = some s' ∧
        (s'.device.channel (missionChannel tool.mission)).writeBufferQueue = ws ∧
        s'.running = s.running.erase tool ∧ ∀ mission, s'.wrote mission = s.wrote mission := by
    intro code hcode
    have hok : (missionChannel tool.mission).ReadOk code tool.request o
        (s.device.channel (missionChannel tool.mission)) := by
      refine readOk_of_stored ?_ ho hcode ?_
      · rw [hbuffer, buffer.size_eq]
        decide
      · rw [hstore]
        exact List.cons_ne_nil w ws
    obtain ⟨d, hout, hws⟩ := deviceStep_served h.typed hsource hstore hok
    have hids : TextTools.OwnIds { s with device := d } := h.ids
    have hret := TextTools.returned_own hids htool
      (c := answeredRead (missionChannel tool.mission).readApi tool.request w.bufferStart) rfl
    have heq := TextTools.returned_eq hids htool
      (c := answeredRead (missionChannel tool.mission).readApi tool.request w.bufferStart) rfl
    refine ⟨_, by rw [TextTools.deviceEvent, hout]; rfl, ?_, ?_, ?_⟩
    · change ((TextTools.returned _ _).device.channel _).writeBufferQueue = ws
      rw [hret.device]
      exact hws
    · change (TextTools.returned _ _).running = _
      rw [heq]
    · intro mission
      change (TextTools.returned _ _).wrote mission = _
      obtain ⟨texts, hwrote, hsent, -⟩ := hret.wrote mission
      rw [TextTools.succeededOf_singleton, if_neg] at hsent
      · obtain rfl : texts = [] := List.map_eq_nil_iff.1 hsent.symm
        rw [hwrote, List.append_nil]
        rfl
      · exact fun hok => writeSource_ne_readSource _ _ (hok.1.symm.trans hsource)
  have hhost : readInterface tool.mission = .hostude →
      tool.urb (.ok ()) = .ok tool.request := by
    intro _
    rw [TextTool.urb, hcall]
    refine if_neg ?_
    rw [hbuffer, buffer.size_eq]
    decide
  rw [TextTools.call, hinterface]
  cases hread : readInterface tool.mission with
  | udeBackchannel => exact hserved 0 fun hhostude => by rw [hread] at hhostude; cases hhostude
  | hostude =>
    simp only [hhost hread]
    exact hserved ioctlInternalUsbSubmitUrb fun _ => rfl

theorem TextToolsInv.reader {s : TextTools} (h : TextToolsInv s) {mission : Bool}
    {e : TextToolEvent} (he : ReadsText mission e) {w : BufferContent UInt8}
    {ws : List (BufferContent UInt8)}
    (hstore : (s.device.channel (missionChannel mission)).writeBufferQueue = w :: ws) :
    ∃ s', textToolStep s e = some s' ∧
      (s'.device.channel (missionChannel mission)).writeBufferQueue = ws ∧
      s'.running = s.running ∧ s'.wrote mission = s.wrote mission := by
  obtain ⟨argv, buffer, o, rfl, hmain, ho⟩ := he
  have hid : (TextTool.mk s.launched.length mission (.read buffer)).id = s.launched.length := rfl
  obtain ⟨hlaunched, -⟩ := h.launch hid
  obtain ⟨s', hcall, hws, hrunning, hwrote⟩ :=
    hlaunched.call_served (List.mem_append_right _ (List.mem_singleton_self _)) rfl ho hstore
  refine ⟨s', ?_, hws, ?_, hwrote mission⟩
  · rw [textToolStep, hmain]
    exact hcall
  · have hnot : TextTool.mk s.launched.length mission (.read buffer) ∉ s.running := by
      intro hmem
      exact absurd (h.fresh _ hmem) (Nat.lt_irrefl _)
    rw [hrunning]
    change (s.running ++ [_]).erase _ = _
    rw [List.erase_append_right _ hnot, List.erase_cons_head, List.append_nil]

end UdeSample
