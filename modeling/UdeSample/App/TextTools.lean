import UdeSample.App.CommandLine
import UdeSample.App.TestApp
import UdeSample.Device.Fifo

/-!
# `-w` and `-r` (`testapp.c`)

Any number of processes of the test application, each writing or reading one mission or response,
at the same time over the two drivers. `main` chooses the interface: a mission is written to the
host driver and read from the back channel, a response the other way round.

A process makes one request and prints one line when that is completed. `Returned` says what
completions do to the processes.
-/

namespace UdeSample

open Lib

/-- `GUID_DEVINTERFACE_HOSTUDE`, `GUID_DEVINTERFACE_UDE_BACKCHANNEL`. -/
inductive DeviceInterface where
  | hostude
  | udeBackchannel
deriving DecidableEq

/-- The interface that `main` gives to `WriteTextTo`. -/
def writeInterface (mission : Bool) : DeviceInterface :=
  if mission then .hostude else .udeBackchannel

/-- The interface that `main` gives to `ReadTextFrom`. -/
def readInterface (mission : Bool) : DeviceInterface :=
  if mission then .udeBackchannel else .hostude

/-- What a `WriteFile` becomes. -/
def DeviceInterface.writeSource : DeviceInterface → RequestSource
  | hostude => .bulkOut
  | udeBackchannel => .write

/-- What a `ReadFile` becomes. -/
def DeviceInterface.readSource : DeviceInterface → RequestSource
  | hostude => .bulkIn
  | udeBackchannel => .read

/-! ## A process -/

inductive TextCall where
  /-- `WriteTextTo` -/
  | write (text : List UInt8)
  /-- `ReadTextFrom`, with its `buffer` -/
  | read (buffer : TextBuffer)
deriving DecidableEq

structure TextTool where
  id : Nat
  mission : Bool
  call : TextCall
deriving DecidableEq

/-- What a process prints when its call has returned. -/
inductive TextLine where
  | writeFailed
  | wrote (text : List UInt8) (nBytesWrite : Nat)
  | readFailed
  | got (text : List UInt8) (nBytesRead : Nat)
deriving DecidableEq

namespace TextTool

def interface (tool : TextTool) : DeviceInterface :=
  match tool.call with
  | .write _ => writeInterface tool.mission
  | .read _ => readInterface tool.mission

/-- `WriteFile`, `ReadFile`. -/
def request (tool : TextTool) : WdfRequest UInt8 :=
  match tool.call with
  | .write text =>
    { id := tool.id, source := tool.interface.writeSource, buffer := sentString text }
  | .read buffer =>
    { id := tool.id, source := tool.interface.readSource, buffer := buffer.chars }

/-- The request in the host driver. -/
def urb (tool : TextTool) (send : NtResult Unit) :
    Except (Completion UInt8 ULONG) (WdfRequest UInt8) :=
  match tool.call with
  | .write _ => osrFxEvtIoWrite tool.request send
  | .read _ => osrFxEvtIoRead tool.request send

/-- The completion as the process gets it. -/
def answer (tool : TextTool) (c : Completion UInt8 ULONG) : Completion UInt8 ULONG :=
  match tool.interface with
  | .hostude => evtRequestCompletionRoutine c
  | .udeBackchannel => c

def line (tool : TextTool) (c : Completion UInt8 ULONG) : TextLine :=
  match tool.call with
  | .write text =>
    if ntSuccess c.status then .wrote (cstring text) c.information else .writeFailed
  | .read buffer =>
    if ntSuccess c.status then
      .got (buffer.read c.data.read).terminate.string c.information
    else .readFailed

end TextTool

/-! ## The processes over the drivers -/

/-- The device, and the processes: all so far, those whose call has not returned, and those that
have ended with what they printed. -/
structure TextTools where
  device : DeviceState UInt8 ULONG
  launched : List TextTool
  running : List TextTool
  lines : List (TextTool × TextLine)

def textToolsInit : TextTools := ⟨deviceInit, [], [], []⟩

namespace TextTools

/-- A request was completed: the process that made it prints its line and ends. -/
def returned (s : TextTools) (c : Completion UInt8 ULONG) : TextTools :=
  match s.running.find? fun tool => tool.request = c.request with
  | none => s
  | some tool =>
    { s with
      running := s.running.erase tool
      lines := s.lines ++ [(tool, tool.line (tool.answer c))] }

def deviceEvent (s : TextTools) (e : DeviceEvent UInt8 ULONG) : Option TextTools :=
  (deviceStep s.device e).map fun (device, effects) =>
    (completions effects).foldl returned { s with device }

/-- A new process. -/
def launch (s : TextTools) (tool : TextTool) : TextTools :=
  { s with launched := s.launched ++ [tool], running := s.running ++ [tool] }

/-- The call of a process. -/
def call (s : TextTools) (tool : TextTool) (send : NtResult Unit) (o : Outcomes) :
    Option TextTools :=
  match tool.interface with
  | .udeBackchannel => s.deviceEvent (.dispatch tool.request 0 o)
  | .hostude =>
    match tool.urb send with
    | .error c => some (s.returned c)
    | .ok request => s.deviceEvent (.dispatch request ioctlInternalUsbSubmitUrb o)

end TextTools

/-- An argument as the process has it. -/
def argBytes (arg : List Char) : List UInt8 := arg.map fun c => UInt8.ofNat c.toNat

def textTool (id : Nat) (buffer : TextBuffer) : AppCall → Option TextTool
  | .writeTextTo mission text => some ⟨id, mission, .write (argBytes text)⟩
  | .readTextFrom mission => some ⟨id, mission, .read buffer⟩
  | _ => none

/-- What does not belong to a read or a write of a text. -/
def onInterruptPath : DeviceEvent UInt8 ULONG → Bool
  | .dispatch request _ _ => request.source = .control ∨ request.source = .interruptIn
  | .cancel queue _ => queue = .intrDeferred
  | .raise _ _ | .linkPowerEntry | .linkPowerExit => true

inductive TextToolEvent where
  /-- a process, with what its buffer holds and whether it finds the device -/
  | launch (argv : List (List Char)) (buffer : TextBuffer) (opened : Bool) (send : NtResult Unit)
    (o : Outcomes)
  | cancel (ch : MissionChannel) (i : Nat)
  | interrupt (e : DeviceEvent UInt8 ULONG)

def textToolStep (s : TextTools) : TextToolEvent → Option TextTools
  | .launch argv buffer opened send o =>
    (textTool s.launched.length buffer (main argv)).bind fun tool =>
      if opened then (s.launch tool).call tool send o else some s
  | .cancel ch i => s.deviceEvent (.cancel ch.manualQueue i)
  | .interrupt e => if onInterruptPath e then s.deviceEvent e else none

/-- The channel of missions or of responses. -/
def missionChannel (mission : Bool) : MissionChannel :=
  if mission then .missionRequest else .missionCompletion

/-- The texts whose writers were told of success, in order. -/
def TextTools.wrote (s : TextTools) (mission : Bool) : List (List UInt8) :=
  s.lines.filterMap fun
    | (tool, .wrote text _) => if tool.mission = mission then some text else none
    | _ => none

/-- The texts and the counts that readers have printed, in order. -/
def TextTools.got (s : TextTools) (mission : Bool) : List (List UInt8 × Nat) :=
  s.lines.filterMap fun
    | (tool, .got text nBytesRead) =>
      if tool.mission = mission then some (text, nBytesRead) else none
    | _ => none

theorem writeInterface_writeSource (mission : Bool) :
    (writeInterface mission).writeSource = (missionChannel mission).writeSource := by
  cases mission <;> rfl

theorem readInterface_readSource (mission : Bool) :
    (readInterface mission).readSource = (missionChannel mission).readSource := by
  cases mission <;> rfl

theorem missionChannel_injective : Function.Injective missionChannel := by
  intro m n h
  cases m <;> cases n <;> first | rfl | cases h

namespace TextTool

theorem request_id (tool : TextTool) : tool.request.id = tool.id := by
  obtain ⟨id, mission, call⟩ := tool
  cases call <;> rfl

theorem request_source_write {tool : TextTool} {text : List UInt8} (h : tool.call = .write text) :
    tool.request.source = (missionChannel tool.mission).writeSource := by
  obtain ⟨id, mission, call⟩ := tool
  subst h
  exact writeInterface_writeSource mission

theorem request_source_read {tool : TextTool} {buffer : TextBuffer} (h : tool.call = .read buffer) :
    tool.request.source = (missionChannel tool.mission).readSource := by
  obtain ⟨id, mission, call⟩ := tool
  subst h
  exact readInterface_readSource mission

@[simp] theorem answer_status (tool : TextTool) (c : Completion UInt8 ULONG) :
    (tool.answer c).status = c.status := by
  unfold answer
  split <;> rfl

@[simp] theorem answer_information (tool : TextTool) (c : Completion UInt8 ULONG) :
    (tool.answer c).information = c.information := by
  unfold answer
  split <;> rfl

@[simp] theorem answer_data (tool : TextTool) (c : Completion UInt8 ULONG) :
    (tool.answer c).data = c.data := by
  unfold answer
  split <;> rfl

/-- The URB is the request, unless the host driver fails it. -/
theorem urb_cases (tool : TextTool) (send : NtResult Unit) :
    tool.urb send = .ok tool.request ∨ ∃ status, ntSuccess status = false ∧
      tool.urb send = .error (completeRequest .wdfRequest tool.request status 0) := by
  unfold urb
  split <;> exact osrSendToPipe_cases tool.request send

end TextTool

/-- A request of a channel, other than those of the interrupt path. -/
def OfChannel (request : WdfRequest UInt8) : Prop :=
  ∃ ch : MissionChannel, request.source = ch.writeSource ∨ request.source = ch.readSource

theorem TextTool.request_ofChannel (tool : TextTool) : OfChannel tool.request := by
  refine ⟨missionChannel tool.mission, ?_⟩
  cases h : tool.call with
  | write text => exact Or.inl (request_source_write h)
  | read buffer => exact Or.inr (request_source_read h)

/-! ## What a completion does to the processes -/

/-- The successful completions of a source, without the log around them. -/
def succeededOf (source : RequestSource) (cs : List (Completion UInt8 ULONG)) :
    List (Completion UInt8 ULONG) :=
  cs.filter fun c => c.request.source = source ∧ ntSuccess c.status = true

/-- What a reader with some buffer prints of a completion. -/
def GotLine (c : Completion UInt8 ULONG) (line : List UInt8 × Nat) : Prop :=
  ∃ buffer : TextBuffer, c.request.buffer = buffer.chars ∧
    line = ((buffer.read c.data.read).terminate.string, c.information)

/-- What completions, taken by the processes in order, do to these. -/
structure Returned (s : TextTools) (cs : List (Completion UInt8 ULONG)) (s' : TextTools) :
    Prop where
  device : s'.device = s.device
  launched : s'.launched = s.launched
  running : s'.running.Sublist s.running
  once : (s'.running ++ s'.lines.map Prod.fst).Perm (s.running ++ s.lines.map Prod.fst)
  waiting : ∀ tool ∈ s.running, (∀ c ∈ cs, c.request ≠ tool.request) → tool ∈ s'.running
  wrote : ∀ mission, ∃ texts, s'.wrote mission = s.wrote mission ++ texts ∧
    (succeededOf (missionChannel mission).writeSource cs).map (fun c => c.request.buffer) =
      texts.map sentString ∧ ∀ text ∈ texts, cstring text = text
  got : ∀ mission, ∃ lines, s'.got mission = s.got mission ++ lines ∧
    List.Forall₂ GotLine (succeededOf (missionChannel mission).readSource cs) lines

namespace Returned

variable {s s₁ s₂ : TextTools} {c : Completion UInt8 ULONG} {cs : List (Completion UInt8 ULONG)}

theorem nil (s : TextTools) : Returned s [] s :=
  ⟨rfl, rfl, List.Sublist.refl _, List.Perm.refl _, fun _ h _ => h,
    fun _ => ⟨[], (List.append_nil _).symm, rfl, fun _ h => absurd h List.not_mem_nil⟩,
    fun _ => ⟨[], (List.append_nil _).symm, .nil⟩⟩

theorem succeededOf_cons (source : RequestSource) (c : Completion UInt8 ULONG)
    (cs : List (Completion UInt8 ULONG)) :
    succeededOf source (c :: cs) = succeededOf source [c] ++ succeededOf source cs := by
  rw [succeededOf, succeededOf, succeededOf, ← List.filter_append, List.singleton_append]

theorem trans (h : Returned s [c] s₁) (h' : Returned s₁ cs s₂) : Returned s (c :: cs) s₂ where
  device := h'.device.trans h.device
  launched := h'.launched.trans h.launched
  running := h'.running.trans h.running
  once := h'.once.trans h.once
  waiting := by
    intro tool htool hcs
    have hfirst : ∀ c' ∈ [c], c'.request ≠ tool.request := by
      intro c' hc'
      rw [List.mem_singleton.1 hc']
      exact hcs c List.mem_cons_self
    exact h'.waiting tool (h.waiting tool htool hfirst)
      fun c' hc' => hcs c' (List.mem_cons_of_mem c hc')
  wrote := by
    intro mission
    obtain ⟨texts, hwrote, hsent, hplain⟩ := h.wrote mission
    obtain ⟨texts', hwrote', hsent', hplain'⟩ := h'.wrote mission
    refine ⟨texts ++ texts', ?_, ?_, ?_⟩
    · rw [hwrote', hwrote, List.append_assoc]
    · rw [succeededOf_cons, List.map_append, hsent, hsent', List.map_append]
    · exact fun text htext => (List.mem_append.1 htext).elim (hplain text) (hplain' text)
  got := by
    intro mission
    obtain ⟨lines, hgot, hlines⟩ := h.got mission
    obtain ⟨lines', hgot', hlines'⟩ := h'.got mission
    refine ⟨lines ++ lines', ?_, ?_⟩
    · rw [hgot', hgot, List.append_assoc]
    · rw [succeededOf_cons]
      exact List.rel_append hlines hlines'

end Returned

/-! ## One completion -/

namespace TextTools

variable {s : TextTools} {c : Completion UInt8 ULONG} {cs : List (Completion UInt8 ULONG)}

/-- The ids of the running processes are their own. -/
def OwnIds (s : TextTools) : Prop := (s.running.map TextTool.id).Nodup

theorem OwnIds.request_inj (h : s.OwnIds) {tool tool' : TextTool} (htool : tool ∈ s.running)
    (htool' : tool' ∈ s.running) (heq : tool.request = tool'.request) : tool = tool' := by
  refine List.inj_on_of_nodup_map h htool htool' ?_
  rw [← tool.request_id, ← tool'.request_id, heq]

theorem OwnIds.nodup (h : s.OwnIds) : s.running.Nodup := h.of_map _

theorem returned_eq (h : s.OwnIds) {tool : TextTool} (htool : tool ∈ s.running)
    (hc : c.request = tool.request) :
    s.returned c = { s with
      running := s.running.erase tool
      lines := s.lines ++ [(tool, tool.line (tool.answer c))] } := by
  have hsome : (s.running.find? fun tool => tool.request = c.request).isSome = true :=
    List.find?_isSome.2 ⟨tool, htool, decide_eq_true hc.symm⟩
  obtain ⟨found, hfound⟩ := Option.isSome_iff_exists.1 hsome
  have hdec := List.find?_some hfound
  have hrequest : found.request = c.request := of_decide_eq_true hdec
  obtain rfl : found = tool :=
    h.request_inj (List.mem_of_find?_eq_some hfound) htool (hrequest.trans hc)
  rw [returned, hfound]

theorem returned_of_not_mem (h : ∀ tool ∈ s.running, tool.request ≠ c.request) :
    s.returned c = s := by
  have hnone : (s.running.find? fun tool => tool.request = c.request) = none := by
    refine List.find?_eq_none.2 ?_
    intro tool htool hdec
    exact h tool htool (of_decide_eq_true hdec)
  rw [returned, hnone]

theorem succeededOf_singleton (source : RequestSource) (c : Completion UInt8 ULONG) :
    succeededOf source [c] =
      if c.request.source = source ∧ ntSuccess c.status = true then [c] else [] := by
  by_cases h : c.request.source = source ∧ ntSuccess c.status = true <;>
    simp [succeededOf, h]

theorem wrote_concat (s : TextTools) (tool : TextTool) (line : TextLine) (running : List TextTool)
    (mission : Bool) :
    ({ s with running, lines := s.lines ++ [(tool, line)] } : TextTools).wrote mission =
      s.wrote mission ++ match line with
        | .wrote text _ => if tool.mission = mission then [text] else []
        | _ => [] := by
  rw [wrote, wrote, List.filterMap_append]
  congr 1
  cases line with
  | wrote text n => by_cases h : tool.mission = mission <;> simp [h]
  | writeFailed | readFailed | got => rfl

theorem got_concat (s : TextTools) (tool : TextTool) (line : TextLine) (running : List TextTool)
    (mission : Bool) :
    ({ s with running, lines := s.lines ++ [(tool, line)] } : TextTools).got mission =
      s.got mission ++ match line with
        | .got text n => if tool.mission = mission then [(text, n)] else []
        | _ => [] := by
  rw [got, got, List.filterMap_append]
  congr 1
  cases line with
  | got text n => by_cases h : tool.mission = mission <;> simp [h]
  | writeFailed | readFailed | wrote => rfl

/-- What a completion makes a writer print. -/
theorem line_wrote {tool : TextTool} (hc : c.request = tool.request) (mission : Bool) :
    ∃ texts, (match tool.line (tool.answer c) with
      | .wrote text _ => if tool.mission = mission then [text] else []
      | _ => []) = texts ∧
      (succeededOf (missionChannel mission).writeSource [c]).map (fun c => c.request.buffer) =
        texts.map sentString ∧ ∀ text ∈ texts, cstring text = text := by
  rw [succeededOf_singleton]
  cases hcall : tool.call with
  | read buffer =>
    have hsource : c.request.source ≠ (missionChannel mission).writeSource := by
      rw [hc, TextTool.request_source_read hcall]
      exact (writeSource_ne_readSource _ _).symm
    refine ⟨[], ?_, ?_, fun _ h => absurd h List.not_mem_nil⟩
    · rw [TextTool.line, hcall]
      by_cases hok : ntSuccess c.status = true <;> simp [hok]
    · rw [if_neg fun h => hsource h.1]
      rfl
  | write text =>
    have hline : tool.line (tool.answer c) =
        if ntSuccess c.status then .wrote (cstring text) c.information else .writeFailed := by
      rw [TextTool.line, hcall]
      simp
    have hbuffer : c.request.buffer = sentString text := by
      rw [hc, TextTool.request, hcall]
    have hcstring : cstring (cstring text) = cstring text :=
      List.takeWhile_eq_self_iff.2 fun a ha => decide_eq_true (ne_zero_of_mem_cstring ha)
    by_cases hsent : c.request.source = (missionChannel mission).writeSource ∧
        ntSuccess c.status = true
    · obtain ⟨hsource, hok⟩ := hsent
      have hmission : tool.mission = mission := by
        rw [hc, TextTool.request_source_write hcall] at hsource
        exact missionChannel_injective (writeSource_injective hsource)
      refine ⟨[cstring text], ?_, ?_, ?_⟩
      · simp [hline, hok, hmission]
      · rw [if_pos ⟨hsource, hok⟩, List.map_singleton, List.map_singleton, hbuffer, sentString,
          sentString, hcstring]
      · intro text' htext'
        rw [List.mem_singleton.1 htext', hcstring]
    · refine ⟨[], ?_, ?_, fun _ h => absurd h List.not_mem_nil⟩
      · rw [hline]
        by_cases hok : ntSuccess c.status = true
        · have hmission : tool.mission ≠ mission := by
            rintro rfl
            exact hsent ⟨by rw [hc, TextTool.request_source_write hcall], hok⟩
          simp [hok, hmission]
        · simp [hok]
      · rw [if_neg hsent]
        rfl

/-- What a completion makes a reader print. -/
theorem line_got {tool : TextTool} (hc : c.request = tool.request) (mission : Bool) :
    ∃ lines, (match tool.line (tool.answer c) with
      | .got text n => if tool.mission = mission then [(text, n)] else []
      | _ => []) = lines ∧
      List.Forall₂ GotLine (succeededOf (missionChannel mission).readSource [c]) lines := by
  rw [succeededOf_singleton]
  cases hcall : tool.call with
  | write text =>
    have hsource : c.request.source ≠ (missionChannel mission).readSource := by
      rw [hc, TextTool.request_source_write hcall]
      exact writeSource_ne_readSource _ _
    refine ⟨[], ?_, ?_⟩
    · rw [TextTool.line, hcall]
      by_cases hok : ntSuccess c.status = true <;> simp [hok]
    · rw [if_neg fun h => hsource h.1]
      exact .nil
  | read buffer =>
    have hline : tool.line (tool.answer c) =
        if ntSuccess c.status then .got (buffer.read c.data.read).terminate.string c.information
        else .readFailed := by
      rw [TextTool.line, hcall]
      simp
    have hbuffer : c.request.buffer = buffer.chars := by
      rw [hc, TextTool.request, hcall]
    by_cases hread : c.request.source = (missionChannel mission).readSource ∧
        ntSuccess c.status = true
    · obtain ⟨hsource, hok⟩ := hread
      have hmission : tool.mission = mission := by
        rw [hc, TextTool.request_source_read hcall] at hsource
        exact missionChannel_injective (readSource_injective hsource)
      refine ⟨[((buffer.read c.data.read).terminate.string, c.information)], ?_, ?_⟩
      · simp [hline, hok, hmission]
      · rw [if_pos ⟨hsource, hok⟩]
        exact .cons ⟨buffer, hbuffer, rfl⟩ .nil
    · refine ⟨[], ?_, ?_⟩
      · rw [hline]
        by_cases hok : ntSuccess c.status = true
        · have hmission : tool.mission ≠ mission := by
            rintro rfl
            exact hread ⟨by rw [hc, TextTool.request_source_read hcall], hok⟩
          simp [hok, hmission]
        · simp [hok]
      · rw [if_neg hread]
        exact .nil

/-- The process whose request was completed. -/
theorem returned_own (h : s.OwnIds) {tool : TextTool} (htool : tool ∈ s.running)
    (hc : c.request = tool.request) : Returned s [c] (s.returned c) := by
  rw [returned_eq h htool hc]
  refine ⟨rfl, rfl, List.erase_sublist, ?_, ?_, ?_, ?_⟩
  · have hperm := (List.perm_cons_erase htool).symm
    rw [List.map_append, List.map_singleton]
    refine List.Perm.trans ?_ (hperm.append_right _)
    rw [← List.append_assoc]
    exact (List.perm_append_singleton _ _)
  · intro tool' htool' hne
    refine (List.Nodup.mem_erase_iff h.nodup).2 ⟨?_, htool'⟩
    rintro rfl
    exact hne c (List.mem_singleton_self c) hc
  · intro mission
    obtain ⟨texts, htexts, hsent⟩ := line_wrote hc mission
    exact ⟨texts, by rw [wrote_concat, htexts], hsent⟩
  · intro mission
    obtain ⟨lines, hlines, hgot⟩ := line_got hc mission
    exact ⟨lines, by rw [got_concat, hlines], hgot⟩

theorem Returned.ownIds {s' : TextTools} (h : Returned s cs s') (hids : s.OwnIds) : s'.OwnIds :=
  hids.sublist (h.running.map TextTool.id)

/-- **Completions** of different running processes. -/
theorem foldl_returned (h : s.OwnIds) (hnodup : (cs.map fun c => c.request).Nodup)
    (hmem : ∀ c ∈ cs, ∃ tool ∈ s.running, c.request = tool.request) :
    Returned s cs (cs.foldl returned s) := by
  induction cs generalizing s with
  | nil => exact .nil s
  | cons c cs ih =>
    obtain ⟨tool, htool, hc⟩ := hmem c List.mem_cons_self
    have hfirst := returned_own h htool hc
    obtain ⟨hnot, hnodup⟩ := List.nodup_cons.1 hnodup
    refine hfirst.trans (ih (Returned.ownIds hfirst h) hnodup ?_)
    intro c' hc'
    obtain ⟨tool', htool', heq⟩ := hmem c' (List.mem_cons_of_mem c hc')
    refine ⟨tool', hfirst.waiting tool' htool' ?_, heq⟩
    intro c'' hc'' hsame
    rw [List.mem_singleton.1 hc''] at hsame
    exact hnot (List.mem_map.2 ⟨c', hc', heq.trans hsame.symm⟩)

/-- Completions of requests that are no process's. -/
theorem foldl_returned_other (hcs : ∀ c ∈ cs, ¬ OfChannel c.request) :
    Returned s cs (cs.foldl returned s) := by
  have hsucceeded : ∀ ch : MissionChannel, succeededOf ch.writeSource cs = [] ∧
      succeededOf ch.readSource cs = [] := by
    intro ch
    refine ⟨List.filter_eq_nil_iff.2 fun c hc hdec => ?_,
      List.filter_eq_nil_iff.2 fun c hc hdec => ?_⟩
    · exact hcs c hc ⟨ch, Or.inl (of_decide_eq_true hdec).1⟩
    · exact hcs c hc ⟨ch, Or.inr (of_decide_eq_true hdec).1⟩
  have hsame : cs.foldl returned s = s := by
    clear hsucceeded
    induction cs with
    | nil => rfl
    | cons c cs ih =>
      have hc : s.returned c = s := by
        refine returned_of_not_mem ?_
        intro tool _ heq
        exact hcs c List.mem_cons_self (heq ▸ tool.request_ofChannel)
      rw [List.foldl_cons, hc]
      exact ih fun c' hc' => hcs c' (List.mem_cons_of_mem c hc')
  rw [hsame]
  refine ⟨rfl, rfl, List.Sublist.refl _, List.Perm.refl _, fun _ htool _ => htool, ?_, ?_⟩
  · intro mission
    exact ⟨[], (List.append_nil _).symm, by rw [(hsucceeded _).1]; rfl,
      fun _ h => absurd h List.not_mem_nil⟩
  · intro mission
    exact ⟨[], (List.append_nil _).symm, by rw [(hsucceeded _).2]; exact .nil⟩

end TextTools

end UdeSample
