import UdeSample.Wdf

/-!
# The latest-value cache of both drivers

Device and host driver each keep a `DEVICE_INTR_STATE`: the flags of the latest interrupt and the
number of updates nobody read, which saturates at a bound of its own in each driver.
-/

namespace UdeSample

variable {cap : Nat} {F : Type}

def sizeofDeviceIntrFlags : Nat := 4

/-- `DEVICE_INTR_STATE` with its bound; its lock shows in the sections of the handlers. -/
structure DeviceIntrState (cap : Nat) (F : Type) where
  latestStatus : F
  numUnreadUpdates : Nat
  le_cap : numUnreadUpdates ≤ cap
deriving DecidableEq

namespace DeviceIntrState

def cleared [Zero F] : DeviceIntrState cap F := ⟨0, 0, Nat.zero_le _⟩

/-- One more update cached; the count saturates. -/
def cache (latestStatus : F) (s : DeviceIntrState cap F) : DeviceIntrState cap F :=
  if h : s.numUnreadUpdates < cap then
    { latestStatus, numUnreadUpdates := s.numUnreadUpdates + 1, le_cap := h }
  else { s with latestStatus }

/-- The cached update, if there is an unread one. -/
def unread (s : DeviceIntrState cap F) : List F :=
  if 0 < s.numUnreadUpdates then [s.latestStatus] else []

@[simp] theorem cleared_numUnreadUpdates [Zero F] :
    (cleared : DeviceIntrState cap F).numUnreadUpdates = 0 := rfl

@[simp] theorem cleared_unread [Zero F] : (cleared : DeviceIntrState cap F).unread = [] := rfl

@[simp] theorem cache_latestStatus (v : F) (s : DeviceIntrState cap F) :
    (s.cache v).latestStatus = v := by
  unfold cache
  split <;> rfl

theorem cache_pos (hcap : 0 < cap) (v : F) (s : DeviceIntrState cap F) :
    0 < (s.cache v).numUnreadUpdates := by
  unfold cache
  split
  · exact Nat.succ_pos _
  · next hfull => exact Nat.lt_of_lt_of_le hcap (Nat.le_of_not_lt hfull)

theorem cache_unread (hcap : 0 < cap) (v : F) (s : DeviceIntrState cap F) :
    (s.cache v).unread = [v] := by
  rw [unread, if_pos (cache_pos hcap v s), cache_latestStatus]

theorem unread_of_pos {s : DeviceIntrState cap F} (h : 0 < s.numUnreadUpdates) :
    s.unread = [s.latestStatus] :=
  if_pos h

theorem unread_eq_nil {s : DeviceIntrState cap F} : s.unread = [] ↔ s.numUnreadUpdates = 0 := by
  unfold unread
  split <;> simp <;> omega

/-- The cache after these updates, none of which was handed to anybody. -/
structure Reflects [Zero F] (s : DeviceIntrState cap F) (updates : List F) : Prop where
  count : s.numUnreadUpdates = min cap updates.length
  latest : s.latestStatus = updates.getLast?.getD 0

namespace Reflects

variable [Zero F] {s : DeviceIntrState cap F} {updates : List F}

theorem cleared : Reflects (cleared : DeviceIntrState cap F) [] :=
  ⟨(Nat.min_zero cap).symm, rfl⟩

theorem cache (h : s.Reflects updates) (v : F) : (s.cache v).Reflects (updates ++ [v]) := by
  refine ⟨?_, ?_⟩
  · have hcount := h.count
    rw [List.length_append, List.length_singleton]
    unfold DeviceIntrState.cache
    split <;> dsimp only <;> omega
  · simp

theorem updates_eq_nil (h : s.Reflects updates) (hcap : 0 < cap)
    (hnone : s.numUnreadUpdates = 0) : updates = [] := by
  have hcount := h.count
  exact List.eq_nil_of_length_eq_zero (by omega)

/-- An unread update is the last one. -/
theorem getLast? (h : s.Reflects updates) (hpos : 0 < s.numUnreadUpdates) :
    updates.getLast? = some s.latestStatus := by
  have hne : updates ≠ [] := by
    rintro rfl
    have hcount := h.count
    simp only [List.length_nil] at hcount
    omega
  rw [h.latest, List.getLast?_eq_some_getLast hne, Option.getD_some]

end Reflects

end DeviceIntrState

def Completion.delivered {β : Type} (c : Completion β F) : Option F :=
  match c.data with
  | .flags v => if ntSuccess c.status then some v else none
  | .none | .bytes _ => none

@[simp] theorem completeRequest_delivered {β : Type} (api : CompletionApi) (r : WdfRequest β)
    (st : NTSTATUS) (n : Nat) : (completeRequest api r st n : Completion β F).delivered = none :=
  rfl

@[simp] theorem WdfQueue.canceled_delivered {β : Type} (q : WdfQueue β) (r : WdfRequest β) :
    (q.canceled r : Completion β F).delivered = none := rfl

end UdeSample
