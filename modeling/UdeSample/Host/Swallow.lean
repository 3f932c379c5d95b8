import UdeSample.Host.History

/-!
# Updates offered to requests that cannot take them

The host driver clears its cache before `OsrCompleteInterruptRequest` finds out whether the output
buffer has room for the flags: for the request that takes the cached update, and for all waiting
requests when an update comes. `OfferedWell` is the exact condition under which the update is not
lost: one of the requests it is offered to has a buffer for it.
-/

namespace UdeSample

open Lib

variable {β F : Type}

/-- A successful update and the requests it is offered to, with what the framework answers for their
buffers. -/
structure Offer (β F : Type) where
  newDeviceFlags : F
  readers : List (WdfRequest β × NtResult Unit)

/-- The update that an event offers to requests. -/
def offered [Zero F] (host : HostContext β F) : HostEvent β F → Option (Offer β F)
  | .get request retrieve _ =>
    (osrTakeUpdate host).1.map fun newData => ⟨newData, [(request, retrieve)]⟩
  | .readComplete numBytesTransferred newFlags retrieve =>
    if numBytesTransferred = 0 then none
    else
      (osrTakeWaiter host).map fun _ =>
        ⟨newFlags, host.interruptMsgQueue.requests.map fun r => (r, retrieve r)⟩
  | .readersFailed _ _ | .selfManagedIoFlush _ | .cancel _ => none

/-- A request is successfully completed with the value `v`. -/
def Completion.Carries (v : F) (c : Completion β F) : Prop :=
  c.status = statusSuccess ∧ c.data = .flags v

def MessageDelivered (v : F) (cs : List (Completion β F)) : Prop := ∃ c ∈ cs, c.Carries v

def MessageCached (v : F) (host : HostContext β F) : Prop :=
  0 < host.interruptStatus.numUnreadUpdates ∧ host.interruptStatus.latestStatus = v

/-- An update offered to requests reaches one of them, or is the cached one afterwards. -/
def MessageNotSwallowed [Zero F] (host : HostContext β F) (e : HostEvent β F) : Prop :=
  ∀ offer, offered host e = some offer → ∀ host' cs, hostStep host e = some (host', cs) →
    MessageDelivered offer.newDeviceFlags cs ∨ MessageCached offer.newDeviceFlags host'

/-- An output buffer with room for the flags. -/
def HasRoom (p : WdfRequest β × NtResult Unit) : Prop :=
  p.2 = .ok () ∧ sizeofDeviceIntrFlags ≤ p.1.buffer.length

instance (p : WdfRequest β × NtResult Unit) : Decidable (HasRoom p) :=
  inferInstanceAs (Decidable (_ ∧ _))

/-- One of the requests that the update is offered to has room for it. -/
def OfferedWell [Zero F] (host : HostContext β F) (e : HostEvent β F) : Prop :=
  ∀ offer, offered host e = some offer → ∃ p ∈ offer.readers, HasRoom p

instance [Zero F] (host : HostContext β F) (e : HostEvent β F) : Decidable (OfferedWell host e) :=
  match h : offered host e with
  | none => isTrue fun offer hoffer => by rw [h] at hoffer; cases hoffer
  | some offer =>
    decidable_of_iff (∃ p ∈ offer.readers, HasRoom p)
      ⟨fun hx offer' ho => by rw [h] at ho; cases ho; exact hx, fun hx => hx offer h⟩

/-- The event brings a later update, or a failure that erases the cache. -/
def Replaces [Zero F] (e : HostEvent β F) : Prop :=
  ∃ message, e.message = some message ∧ message.readerStatus ≠ statusCancelled

/-! ## What an offer does -/

theorem osrCompleteInterruptRequest_success {p : WdfRequest β × NtResult Unit} {v : F} :
    (osrCompleteInterruptRequest p.1 statusSuccess v p.2).status = statusSuccess ↔ HasRoom p := by
  obtain ⟨r, o⟩ := p
  unfold osrCompleteInterruptRequest wdfRequestRetrieveBuffer HasRoom
  cases o with
  | error e =>
    have hne : e.status ≠ statusSuccess := ne_statusSuccess e.failed
    simp [hne]
  | ok u =>
    have hok : ntSuccess statusSuccess = true := rfl
    have hne : statusBufferTooSmall ≠ statusSuccess := by decide
    by_cases hshort : r.buffer.length < sizeofDeviceIntrFlags
    · simp [hshort, hne]
    · simp [hshort, hok, Nat.le_of_not_lt hshort]

theorem osrCompleteInterruptRequest_data {p : WdfRequest β × NtResult Unit} {v : F}
    (h : HasRoom p) : (osrCompleteInterruptRequest p.1 statusSuccess v p.2).data = .flags v := by
  obtain ⟨r, o⟩ := p
  obtain ⟨rfl, hroom⟩ := h
  have hok : ntSuccess statusSuccess = true := rfl
  simp [osrCompleteInterruptRequest, wdfRequestRetrieveBuffer, Nat.not_lt_of_le hroom, hok]

/-- The step that offers an update clears the cache and completes every request it offers it to. -/
theorem hostStep_offered [Zero F] {host : HostContext β F} {e : HostEvent β F}
    {offer : Offer β F} (hoffer : offered host e = some offer) :
    ∃ host', hostStep host e = some (host', offer.readers.map fun p =>
        osrCompleteInterruptRequest p.1 statusSuccess offer.newDeviceFlags p.2) ∧
      host'.interruptStatus = .cleared := by
  cases e with
  | get request retrieve forward =>
    obtain ⟨v, htake, rfl⟩ := Option.map_eq_some_iff.1 hoffer
    unfold osrTakeUpdate at htake
    split at htake
    · next hpos =>
      obtain rfl := Option.some.inj htake
      refine ⟨{ host with interruptStatus := .cleared }, ?_, rfl⟩
      simp [hostStep, osrGetInterruptMessage, osrTakeUpdate, hpos]
    · cases htake
  | readComplete n v retrieve =>
    simp only [offered] at hoffer
    split at hoffer
    · cases hoffer
    · next hn =>
      obtain ⟨⟨r, host₁⟩, htake, rfl⟩ := Option.map_eq_some_iff.1 hoffer
      obtain ⟨⟨r', q⟩, hret, -⟩ := Option.map_eq_some_iff.1 htake
      obtain ⟨hd, rs, hrs, -⟩ := wdfIoQueueRetrieveNextRequest_eq_some.1 hret
      refine ⟨{ interruptMsgQueue := { host.interruptMsgQueue with requests := [] }
                interruptStatus := .cleared }, ?_, rfl⟩
      have hmessage : hostStep host (.readComplete n v retrieve) =
          some (osrUsbIoctlGetInterruptMessage statusSuccess v retrieve host) := by
        simp [hostStep, osrFxEvtUsbInterruptPipeReadComplete, hn]
      rw [hmessage, osrUsbIoctlGetInterruptMessage_waiting hd (by simp [hrs])]
      simp [osrUpdateStatus, show ntSuccess statusSuccess = true from rfl, Function.comp_def]
  | readersFailed | selfManagedIoFlush | cancel => cases hoffer

/-- **One event** swallows no update if and only if it offers it well. -/
theorem offeredWell_iff [Zero F] (host : HostContext β F) (e : HostEvent β F) :
    OfferedWell host e ↔ MessageNotSwallowed host e := by
  constructor
  · intro hwell offer hoffer host' cs hstep
    obtain ⟨host₁, hstep₁, -⟩ := hostStep_offered hoffer
    rw [hstep₁] at hstep
    obtain ⟨rfl, rfl⟩ := Prod.mk.inj (Option.some.inj hstep)
    obtain ⟨p, hp, hroom⟩ := hwell offer hoffer
    exact Or.inl ⟨_, List.mem_map_of_mem hp, osrCompleteInterruptRequest_success.2 hroom,
      osrCompleteInterruptRequest_data hroom⟩
  · intro hsafe offer hoffer
    obtain ⟨host₁, hstep₁, hcleared⟩ := hostStep_offered hoffer
    rcases hsafe offer hoffer host₁ _ hstep₁ with ⟨c, hc, hstatus, -⟩ | hcached
    · obtain ⟨p, hp, rfl⟩ := List.mem_map.1 hc
      exact ⟨p, hp, osrCompleteInterruptRequest_success.1 hstatus⟩
    · have hpos := hcached.1
      rw [hcleared] at hpos
      cases hpos

/-- An event that offers nothing and brings nothing leaves a cached update alone. -/
theorem MessageCached.kept [Zero F] {host host' : HostContext β F} {e : HostEvent β F}
    {cs : List (Completion β F)} {v : F} (hc : MessageCached v host)
    (hnone : offered host e = none) (hkeep : ¬ Replaces e)
    (hstep : hostStep host e = some (host', cs)) : MessageCached v host' := by
  cases hmessage : e.message with
  | some message =>
    have hcancel : message.readerStatus = statusCancelled :=
      by_contra fun hne => hkeep ⟨message, hmessage, hne⟩
    rw [hostStep_message hmessage, hcancel] at hstep
    obtain ⟨heq, -⟩ := Prod.mk.inj (Option.some.inj hstep)
    have hstatus : host'.interruptStatus = host.interruptStatus := by
      rw [← heq]
      cases htake : osrTakeWaiter host with
      | none => rfl
      | some x =>
        obtain ⟨⟨r, q⟩, -, rfl⟩ := Option.map_eq_some_iff.1 htake
        rfl
    rw [MessageCached, hstatus]
    exact hc
  | none =>
    cases e with
    | get request retrieve forward =>
      simp [offered, osrTakeUpdate, hc.1] at hnone
    | readComplete n w retrieve =>
      have hn : n = 0 := by
        by_contra hne
        simp [HostEvent.message, hne] at hmessage
      simp only [hostStep, osrFxEvtUsbInterruptPipeReadComplete, hn, if_true, Option.some.injEq,
        Prod.mk.injEq] at hstep
      exact hstep.1 ▸ hc
    | readersFailed | selfManagedIoFlush => cases hmessage
    | cancel i =>
      obtain ⟨⟨request, q⟩, -, heq⟩ := Option.map_eq_some_iff.1 hstep
      obtain ⟨rfl, -⟩ := Prod.mk.inj heq
      exact hc

/-- A cached update that is offered well is delivered. -/
theorem MessageCached.step [Zero F] {host host' : HostContext β F} {e : HostEvent β F}
    {cs : List (Completion β F)} {v : F} (hc : MessageCached v host) (hwell : OfferedWell host e)
    (hkeep : ¬ Replaces e) (hstep : hostStep host e = some (host', cs)) :
    MessageDelivered v cs ∨ MessageCached v host' := by
  cases hoffer : offered host e with
  | none => exact Or.inr (hc.kept hoffer hkeep hstep)
  | some offer =>
    have hvalue : offer.newDeviceFlags = v := by
      cases e with
      | get request retrieve forward =>
        simp only [offered, osrTakeUpdate, hc.1, if_true, Option.map_some,
          Option.some.injEq] at hoffer
        rw [← hoffer]
        exact hc.2
      | readComplete n w retrieve =>
        have hne : statusSuccess ≠ statusCancelled := by decide
        refine absurd ⟨⟨statusSuccess, w, retrieve⟩, ?_, hne⟩ hkeep
        by_cases hn : n = 0
        · simp [offered, hn] at hoffer
        · simp [HostEvent.message, hn]
      | readersFailed | selfManagedIoFlush | cancel => cases hoffer
    exact hvalue ▸ (offeredWell_iff host e).1 hwell offer hoffer host' cs hstep

/-- After a successful update that is offered well it is delivered or cached. -/
theorem readComplete_notLost [Zero F] {host host' : HostContext β F} {n : Nat} {v : F}
    {retrieve : WdfRequest β → NtResult Unit} {cs : List (Completion β F)} (hn : n ≠ 0)
    (hwell : OfferedWell host (.readComplete n v retrieve))
    (hstep : hostStep host (.readComplete n v retrieve) = some (host', cs)) :
    MessageDelivered v cs ∨ MessageCached v host' := by
  cases htake : osrTakeWaiter host with
  | none =>
    simp only [hostStep, osrFxEvtUsbInterruptPipeReadComplete, hn, if_false,
      osrUsbIoctlGetInterruptMessage, htake, Option.some.injEq, Prod.mk.injEq] at hstep
    refine Or.inr ?_
    rw [← hstep.1]
    exact ⟨DeviceIntrState.cache_pos (by decide) v host.interruptStatus,
      DeviceIntrState.cache_latestStatus v host.interruptStatus⟩
  | some x =>
    have hoffer : offered host (.readComplete n v retrieve) =
        some ⟨v, host.interruptMsgQueue.requests.map fun r => (r, retrieve r)⟩ := by
      simp [offered, hn, htake]
    exact (offeredWell_iff host _).1 hwell _ hoffer host' cs hstep

/-- **An update that is offered well is not lost**: until a later update or an erasing failure it is
delivered or still cached. -/
theorem readComplete_run [Zero F] {host host' : HostContext β F} {n : Nat} {v : F}
    {retrieve : WdfRequest β → NtResult Unit} {t : List (HostEvent β F)}
    {log : List (Completion β F)} (hn : n ≠ 0)
    (hrun : run (logged hostStep) (host, []) (.readComplete n v retrieve :: t) =
      some (host', log))
    (hwell : Along (fun p e => OfferedWell p.1 e) (logged hostStep) (host, [])
      (.readComplete n v retrieve :: t))
    (hlast : ∀ e ∈ t, ¬ Replaces e) : MessageDelivered v log ∨ MessageCached v host' := by
  rw [run_cons] at hrun
  obtain ⟨p, hfirst, hrest⟩ := Option.bind_eq_some_iff.1 hrun
  obtain ⟨cs, hstep, hlog⟩ := logged_eq_some.1 hfirst
  rw [List.nil_append] at hlog
  have hstart : MessageDelivered v p.2 ∨ MessageCached v p.1 :=
    hlog ▸ readComplete_notLost hn hwell.1 hstep
  exact run_until (C := fun host e => OfferedWell host e ∧ ¬ Replaces e) (MessageCached v)
    (Completion.Carries v) (fun host e host' cs hc hC hstep => hc.step hC.1 hC.2 hstep) hstart
    hrest
    ((hwell.2 p hfirst).and (along_of_events (fun e he _ => hlast e he) p))

/-- **No update is swallowed in a run, from any state, if and only if every update is offered
well**; then every successful update is delivered, still cached, replaced by a later one or erased
by a failure. -/
theorem messageNotSwallowed_iff [Zero F] (host : HostContext β F) (t : List (HostEvent β F)) :
    (Along (fun p e => OfferedWell p.1 e) (logged hostStep) (host, []) t ↔
      Along (fun p e => MessageNotSwallowed p.1 e) (logged hostStep) (host, []) t) ∧
    (Along (fun p e => OfferedWell p.1 e) (logged hostStep) (host, []) t →
      ∀ t₁ n v retrieve t₂ host₁ log₁ host₂ log₂, n ≠ 0 →
        t = t₁ ++ .readComplete n v retrieve :: t₂ → (∀ e ∈ t₂, ¬ Replaces e) →
        run (logged hostStep) (host, []) t₁ = some (host₁, log₁) →
        run (logged hostStep) (host₁, []) (.readComplete n v retrieve :: t₂) =
          some (host₂, log₂) →
        MessageDelivered v log₂ ∨ MessageCached v host₂) := by
  refine ⟨?_, ?_⟩
  · exact along_congr (I := fun _ => True) (fun p e _ => offeredWell_iff p.1 e)
      (fun _ _ _ _ _ _ => trivial) trivial t
  · intro hwell t₁ n v retrieve t₂ host₁ log₁ host₂ log₂ hn hsplit hlast hrun₁ hrun₂
    subst hsplit
    have hrest := ((along_append hrun₁).1 hwell).2
    exact readComplete_run hn hrun₂ (along_logged hrest []) hlast

def shortGet (i : Nat) : HostEvent UInt8 ULONG :=
  .get ⟨i, .ioctl, [0]⟩ (.ok ()) ⟨false, ⟨statusCancelled, statusCancelled_failed⟩⟩

def roomyGet (i : Nat) : HostEvent UInt8 ULONG :=
  .get ⟨i, .ioctl, [0, 0, 0, 0]⟩ (.ok ()) ⟨false, ⟨statusCancelled, statusCancelled_failed⟩⟩

/-- A short request waits next to one with room. -/
def mixedWaiters : List (HostEvent UInt8 ULONG) :=
  [shortGet 0, roomyGet 1, .readComplete 4 10 fun _ => .ok ()]

theorem mixedWaiters_delivered : ∃ host₁ log₁ host₂ log₂,
    run (logged hostStep) (hostContextCreated, []) (mixedWaiters.take 2) = some (host₁, log₁) ∧
    run (logged hostStep) (host₁, []) (mixedWaiters.drop 2) = some (host₂, log₂) ∧
    (MessageDelivered 10 log₂ ∨ MessageCached 10 host₂) := by
  refine ⟨_, _, _, _, rfl, rfl, ?_⟩
  exact (messageNotSwallowed_iff hostContextCreated mixedWaiters).2 (by decide +kernel)
    (mixedWaiters.take 2) 4 10 (fun _ => .ok ()) _ _ _ _ _ (by decide) rfl (by simp) rfl rfl

/-- A short request that takes the cached update, and one that waits for it: both complete with the
error of their buffer and nothing is cached. -/
theorem shortGet_swallows :
    (∃ host log, run (logged hostStep) (hostContextCreated, [])
        [.readComplete 4 10 fun _ => .ok (), shortGet 0] = some (host, log) ∧
      log.map (fun c => (c.status, c.data)) = [(statusBufferTooSmall, .none)] ∧
      host.interruptStatus = .cleared) ∧
    ∃ host log, run (logged hostStep) (hostContextCreated, [])
        [shortGet 0, .readComplete 4 10 fun _ => .ok ()] = some (host, log) ∧
      log.map (fun c => (c.status, c.data)) = [(statusBufferTooSmall, .none)] ∧
      host.interruptStatus = .cleared :=
  ⟨⟨_, _, rfl, rfl, rfl⟩, _, _, rfl, rfl, rfl⟩

end UdeSample
