import UdeSample.Wdf
import UdeSample.Lib.Run
import UdeSample.Lib.Kstrtou

/-!
# The names of the controllers (`Device.c`)

`ControllerCreateWdfDeviceWithNameAndSymLink` tries instance numbers until one gives a device name
that nobody has, and links a second name with the same number to it. `controllers_numbered` says
what comes of it while controllers and devices of other drivers come and go.

The plug and play manager adds one device after another. When adding fails the framework deletes
the device, and with a device goes its link.
-/

namespace UdeSample

open Lib

def statusObjectNameCollision : NTSTATUS := 0xC0000035

def statusBufferOverflow : NTSTATUS := 0x80000005

def objectNameCollision : NtError := ⟨statusObjectNameCollision, rfl⟩

def bufferOverflow : NtError := ⟨statusBufferOverflow, rfl⟩

/-! ## Names -/

def baseDeviceName : List Char := "\\Device\\MBIMUDEClient".toList

def baseSymbolicLinkName : List Char := "\\DosDevices\\MBIMUDEClient".toList

def sizeofWchar : Nat := 2

/-- `sizeof` of a string literal. -/
def sizeofLiteral (s : List Char) : Nat := (s.length + 1) * sizeofWchar

def maxSuffixSize : Nat := 9 * sizeofWchar

def deviceNameSize : Nat := sizeofLiteral baseDeviceName + maxSuffixSize

/-- The macro that declares the string takes a number of characters. -/
def uniDeviceNameMaximumLength : Nat := deviceNameSize * sizeofWchar

/-- `SymLinkNameSize` has no parentheses, so the macro multiplies the suffix only. -/
def uniSymLinkNameMaximumLength : Nat :=
  sizeofLiteral baseSymbolicLinkName + maxSuffixSize * sizeofWchar

/-- `RtlUnicodeStringPrintf` with `%ws%d`; the unsigned number is printed as a signed one. -/
def rtlUnicodeStringPrintf (maximumLength : Nat) (base : List Char) (instanceNumber : ULONG) :
    NtResult (List Char) :=
  let text := base ++ intText instanceNumber.toInt
  if text.length * sizeofWchar ≤ maximumLength then .ok text else .error bufferOverflow

structure ControllerDevice where
  name : List Char
  link : List Char
deriving DecidableEq

structure ObjectNames where
  controllers : List ControllerDevice
  /-- of other drivers -/
  otherDevices : List (List Char)
  otherLinks : List (List Char)

def ObjectNames.devices (s : ObjectNames) : List (List Char) :=
  s.controllers.map ControllerDevice.name ++ s.otherDevices

def ObjectNames.links (s : ObjectNames) : List (List Char) :=
  s.controllers.map ControllerDevice.link ++ s.otherLinks

/-! ## Creation -/

/-- `WdfDeviceCreate` fails, but for a name collision. -/
structure CreateError where
  status : NTSTATUS
  failed : ntSuccess status = false
  other : status ≠ statusObjectNameCollision

/-- What the framework answers while a controller is added. -/
structure AddOutcomes where
  before : NtResult Unit
  assignName : ULONG → NtResult Unit
  deviceCreate : ULONG → Except CreateError Unit
  createSymbolicLink : NtResult Unit
  /-- the rest of `UDEFX2CreateDevice` -/
  rest : NtResult Unit

def maxUint32 : Nat := 2 ^ 32 - 1

/-- The loop over the instance numbers, with the number of passes that are left. -/
def createNamed (o : AddOutcomes) (s : ObjectNames) : Nat → ULONG → NtResult (ULONG × List Char)
  | 0, _ => .error objectNameCollision
  | left + 1, instanceNumber => do
    let name ← rtlUnicodeStringPrintf uniDeviceNameMaximumLength baseDeviceName instanceNumber
    o.assignName instanceNumber
    if name ∈ s.devices then createNamed o s left (instanceNumber + 1)
    else
      match o.deviceCreate instanceNumber with
      | .error e => .error ⟨e.status, e.failed⟩
      | .ok () => .ok (instanceNumber, name)

def controllerCreateWdfDeviceWithNameAndSymLink (o : AddOutcomes) (s : ObjectNames) :
    NtResult ControllerDevice := do
  let (instanceNumber, name) ← createNamed o s maxUint32 0
  let link ← rtlUnicodeStringPrintf uniSymLinkNameMaximumLength baseSymbolicLinkName instanceNumber
  if link ∈ s.links then .error objectNameCollision
  else
    o.createSymbolicLink
    .ok ⟨name, link⟩

/-- `UDEFX2CreateDevice`, as far as names go. -/
def udefx2CreateDevice (o : AddOutcomes) (s : ObjectNames) : NtResult ControllerDevice := do
  o.before
  let device ← controllerCreateWdfDeviceWithNameAndSymLink o s
  o.rest
  .ok device

/-! ## Runs -/

inductive NameEvent where
  | add (o : AddOutcomes)
  | remove (i : Nat)
  | otherDevice (name : List Char)
  | otherLink (link : List Char)
  | otherGone (devices links : List Char → Bool)

def nameStep (s : ObjectNames) : NameEvent → Option ObjectNames
  | .add o =>
    match udefx2CreateDevice o s with
    | .error _ => some s
    | .ok device => some { s with controllers := s.controllers ++ [device] }
  | .remove i => some { s with controllers := s.controllers.eraseIdx i }
  | .otherDevice name =>
    if name ∈ s.devices then none else some { s with otherDevices := name :: s.otherDevices }
  | .otherLink link =>
    if link ∈ s.links then none else some { s with otherLinks := link :: s.otherLinks }
  | .otherGone devices links =>
    some { s with
      otherDevices := s.otherDevices.filter devices
      otherLinks := s.otherLinks.filter links }

def nameRun (t : List NameEvent) : Option ObjectNames := run nameStep ⟨[], [], []⟩ t

/-! ## The names of a number -/

def deviceNameOf (instanceNumber : ULONG) : List Char :=
  baseDeviceName ++ intText instanceNumber.toInt

def linkOf (instanceNumber : ULONG) : List Char :=
  baseSymbolicLinkName ++ intText instanceNumber.toInt

theorem intText_toInt_injective : Function.Injective fun n : ULONG => intText n.toInt :=
  fun _ _ h => BitVec.eq_of_toInt_eq (intText_injective h)

theorem deviceNameOf_injective : Function.Injective deviceNameOf :=
  fun _ _ h => intText_toInt_injective (List.append_cancel_left h)

/-- Every number fits. -/
theorem printf_deviceName (n : ULONG) :
    rtlUnicodeStringPrintf uniDeviceNameMaximumLength baseDeviceName n = .ok (deviceNameOf n) := by
  refine if_pos ?_
  have hlen := length_intText_le n
  have hbase : baseDeviceName.length = 21 := rfl
  have hmax : uniDeviceNameMaximumLength = 124 := rfl
  rw [List.length_append, hbase, hmax, sizeofWchar]
  omega

theorem printf_link (n : ULONG) :
    rtlUnicodeStringPrintf uniSymLinkNameMaximumLength baseSymbolicLinkName n =
      .ok (linkOf n) := by
  refine if_pos ?_
  have hlen := length_intText_le n
  have hbase : baseSymbolicLinkName.length = 25 := rfl
  have hmax : uniSymLinkNameMaximumLength = 88 := rfl
  rw [List.length_append, hbase, hmax, sizeofWchar]
  omega

/-! ## The loop -/

variable {s s' : ObjectNames} {o : AddOutcomes}

theorem createNamed_succ (o : AddOutcomes) (s : ObjectNames) (left : Nat) (n : ULONG) :
    createNamed o s (left + 1) n = (o.assignName n).bind fun _ =>
      if deviceNameOf n ∈ s.devices then createNamed o s left (n + 1)
      else
        match o.deviceCreate n with
        | .error e => .error ⟨e.status, e.failed⟩
        | .ok () => .ok (n, deviceNameOf n) := by
  rw [createNamed, printf_deviceName]
  rfl

theorem ofNat_succ_add (n : ULONG) (k : Nat) :
    n + 1 + BitVec.ofNat 32 k = n + BitVec.ofNat 32 (k + 1) := by
  rw [BitVec.ofNat_add, BitVec.add_comm (BitVec.ofNat 32 k), BitVec.add_assoc]
  rfl

/-- The number found is the first one whose name is free. -/
theorem createNamed_ok {left : Nat} {n m : ULONG} {name : List Char}
    (h : createNamed o s left n = .ok (m, name)) :
    name = deviceNameOf m ∧ name ∉ s.devices ∧ ∃ k < left, m = n + BitVec.ofNat 32 k ∧
      ∀ j < k, deviceNameOf (n + BitVec.ofNat 32 j) ∈ s.devices := by
  induction left generalizing n with
  | zero => cases h
  | succ left ih =>
    rw [createNamed_succ] at h
    cases hassign : o.assignName n with
    | error e =>
      rw [hassign] at h
      cases h
    | ok _ =>
      rw [hassign] at h
      change (if deviceNameOf n ∈ s.devices then _ else _) = _ at h
      by_cases hmem : deviceNameOf n ∈ s.devices
      · rw [if_pos hmem] at h
        obtain ⟨hname, hfree, k, hk, hm, hleast⟩ := ih h
        refine ⟨hname, hfree, k + 1, Nat.succ_lt_succ hk, ?_, ?_⟩
        · rw [hm, ofNat_succ_add]
        · intro j hj
          cases j with
          | zero => simpa using hmem
          | succ j =>
            rw [← ofNat_succ_add]
            exact hleast j (Nat.lt_of_succ_lt_succ hj)
      · rw [if_neg hmem] at h
        split at h
        · cases h
        · obtain ⟨rfl, rfl⟩ := Prod.mk.inj (Except.ok.inj h)
          exact ⟨rfl, hmem, 0, Nat.succ_pos left, by simp,
            fun j hj => absurd hj (Nat.not_lt_zero j)⟩

/-- Without other failures the loop ends with the last number. -/
theorem createNamed_error (hassign : ∀ n, o.assignName n = .ok ())
    (hcreate : ∀ n, o.deviceCreate n = .ok ()) {left : Nat} {n : ULONG} {e : NtError}
    (h : createNamed o s left n = .error e) :
    ∀ j < left, deviceNameOf (n + BitVec.ofNat 32 j) ∈ s.devices := by
  induction left generalizing n with
  | zero => exact fun j hj => absurd hj (Nat.not_lt_zero j)
  | succ left ih =>
    rw [createNamed_succ, hassign, hcreate] at h
    change (if deviceNameOf n ∈ s.devices then _ else _) = _ at h
    by_cases hmem : deviceNameOf n ∈ s.devices
    · rw [if_pos hmem] at h
      intro j hj
      cases j with
      | zero => simpa using hmem
      | succ j =>
        rw [← ofNat_succ_add]
        exact ih h j (Nat.lt_of_succ_lt_succ hj)
    · rw [if_neg hmem] at h
      cases h

/-- There are not more names in use than devices. -/
theorem taken_le {k : Nat} (hk : k ≤ maxUint32)
    (h : ∀ j < k, deviceNameOf (BitVec.ofNat 32 j) ∈ s.devices) : k ≤ s.devices.length := by
  have hnodup : ((List.range k).map fun j => deviceNameOf (BitVec.ofNat 32 j)).Nodup := by
    refine List.Nodup.map_on ?_ List.nodup_range
    intro i hi j hj heq
    have hbits := congrArg BitVec.toNat (deviceNameOf_injective heq)
    rw [List.mem_range] at hi hj
    have hmax : maxUint32 < 2 ^ 32 := by decide
    rw [BitVec.toNat_ofNat, BitVec.toNat_ofNat, Nat.mod_eq_of_lt (by omega),
      Nat.mod_eq_of_lt (by omega)] at hbits
    exact hbits
  have hsub : ∀ name ∈ (List.range k).map fun j => deviceNameOf (BitVec.ofNat 32 j),
      name ∈ s.devices := by
    intro name hname
    obtain ⟨j, hj, rfl⟩ := List.mem_map.1 hname
    exact h j (List.mem_range.1 hj)
  have hlen := (hnodup.subperm hsub).length_le
  rwa [List.length_map, List.length_range] at hlen

/-- **The first free number**, which is no larger than the number of devices. -/
theorem createNamed_least (hassign : ∀ n, o.assignName n = .ok ())
    (hcreate : ∀ n, o.deviceCreate n = .ok ()) (hroom : s.devices.length < maxUint32) :
    ∃ k ≤ s.devices.length,
      createNamed o s maxUint32 0 = .ok (BitVec.ofNat 32 k, deviceNameOf (BitVec.ofNat 32 k)) ∧
        deviceNameOf (BitVec.ofNat 32 k) ∉ s.devices ∧
          ∀ j < k, deviceNameOf (BitVec.ofNat 32 j) ∈ s.devices := by
  cases h : createNamed o s maxUint32 0 with
  | error e =>
    have htaken := createNamed_error hassign hcreate h
    simp only [zero_add] at htaken
    exact absurd (taken_le (Nat.le_refl _) htaken) (Nat.not_le_of_lt hroom)
  | ok found =>
    obtain ⟨m, name⟩ := found
    obtain ⟨rfl, hfree, k, hk, rfl, hleast⟩ := createNamed_ok h
    simp only [zero_add] at hfree hleast ⊢
    exact ⟨k, taken_le (Nat.le_of_lt hk) hleast, rfl, hfree, hleast⟩

/-! ## Every controller -/

theorem NtResult.bind_eq_ok {α γ : Type} {x : NtResult α} {f : α → NtResult γ} {c : γ}
    (h : x >>= f = .ok c) : ∃ a, x = .ok a ∧ f a = .ok c := by
  cases x with
  | error e => cases h
  | ok a => exact ⟨a, rfl, h⟩

theorem controllerCreate_ok {device : ControllerDevice}
    (h : controllerCreateWdfDeviceWithNameAndSymLink o s = .ok device) :
    ∃ n, device = ⟨deviceNameOf n, linkOf n⟩ ∧ device.name ∉ s.devices ∧
      device.link ∉ s.links := by
  obtain ⟨⟨n, name⟩, hnamed, h⟩ := NtResult.bind_eq_ok h
  obtain ⟨rfl, hfree, -⟩ := createNamed_ok hnamed
  obtain ⟨link, hlink, h⟩ := NtResult.bind_eq_ok h
  rw [printf_link] at hlink
  obtain rfl := Except.ok.inj hlink
  split at h
  · cases h
  · next hfreeLink =>
    obtain ⟨_, -, h⟩ := NtResult.bind_eq_ok h
    obtain rfl := Except.ok.inj h
    exact ⟨n, rfl, hfree, hfreeLink⟩

theorem udefx2CreateDevice_ok {device : ControllerDevice}
    (h : udefx2CreateDevice o s = .ok device) : ∃ n, device = ⟨deviceNameOf n, linkOf n⟩ ∧
      device.name ∉ s.devices ∧ device.link ∉ s.links := by
  obtain ⟨_, -, h⟩ := NtResult.bind_eq_ok h
  obtain ⟨device', hcreated, h⟩ := NtResult.bind_eq_ok h
  obtain ⟨_, -, h⟩ := NtResult.bind_eq_ok h
  obtain rfl := Except.ok.inj h
  exact controllerCreate_ok hcreated

structure NamesInv (s : ObjectNames) : Prop where
  numbered : ∀ device ∈ s.controllers, ∃ n, device = ⟨deviceNameOf n, linkOf n⟩
  devices : s.devices.Nodup
  links : s.links.Nodup

theorem namesInv_init : NamesInv ⟨[], [], []⟩ :=
  ⟨fun _ hdevice => (List.not_mem_nil hdevice).elim, List.nodup_nil, List.nodup_nil⟩

/-- A new name among the names of two lists. -/
theorem nodup_insert {l m : List (List Char)} {name : List Char} (h : (l ++ m).Nodup)
    (hfree : name ∉ l ++ m) : (l ++ [name] ++ m).Nodup := by
  have hperm : (l ++ [name] ++ m).Perm (name :: (l ++ m)) := by
    rw [List.append_assoc]
    exact List.perm_middle
  exact hperm.nodup_iff.2 (List.nodup_cons.2 ⟨hfree, h⟩)

theorem NamesInv.step (h : NamesInv s) {e : NameEvent} (hstep : nameStep s e = some s') :
    NamesInv s' := by
  cases e with
  | add o =>
    cases hadd : udefx2CreateDevice o s with
    | error e =>
      simp only [nameStep, hadd] at hstep
      cases hstep
      exact h
    | ok device =>
      simp only [nameStep, hadd] at hstep
      cases hstep
      obtain ⟨n, hdevice, hname, hlink⟩ := udefx2CreateDevice_ok hadd
      refine ⟨?_, ?_, ?_⟩
      · intro d hd
        rcases List.mem_append.1 hd with hd | hd
        · exact h.numbered d hd
        · exact ⟨n, (List.mem_singleton.1 hd).trans hdevice⟩
      · simpa [ObjectNames.devices] using nodup_insert h.devices hname
      · simpa [ObjectNames.links] using nodup_insert h.links hlink
  | remove i =>
    cases hstep
    have hsub : (s.controllers.eraseIdx i).Sublist s.controllers := List.eraseIdx_sublist _ _
    exact ⟨fun d hd => h.numbered d (hsub.subset hd),
      h.devices.sublist ((hsub.map _).append_right _),
      h.links.sublist ((hsub.map _).append_right _)⟩
  | otherDevice name =>
    simp only [nameStep] at hstep
    split at hstep
    · cases hstep
    · next hfree =>
      cases hstep
      refine ⟨h.numbered, ?_, h.links⟩
      simpa [ObjectNames.devices] using nodup_insert h.devices hfree
  | otherLink link =>
    simp only [nameStep] at hstep
    split at hstep
    · cases hstep
    · next hfree =>
      cases hstep
      refine ⟨h.numbered, h.devices, ?_⟩
      simpa [ObjectNames.links] using nodup_insert h.links hfree
  | otherGone devices links =>
    cases hstep
    exact ⟨h.numbered, h.devices.sublist (List.filter_sublist.append_left _),
      h.links.sublist (List.filter_sublist.append_left _)⟩

/-- **Every controller has its own number**, which both its names carry, each in its buffer, and as
long as not all numbers are taken the next one has the first free number. -/
theorem controllers_numbered {t : List NameEvent} (h : nameRun t = some s) :
    (∀ n, rtlUnicodeStringPrintf uniDeviceNameMaximumLength baseDeviceName n =
        .ok (deviceNameOf n) ∧
      rtlUnicodeStringPrintf uniSymLinkNameMaximumLength baseSymbolicLinkName n =
        .ok (linkOf n)) ∧
    (∀ device ∈ s.controllers, ∃ n, device = ⟨deviceNameOf n, linkOf n⟩) ∧
    s.devices.Nodup ∧ s.links.Nodup ∧
    ∀ o : AddOutcomes, (∀ n, o.assignName n = .ok ()) → (∀ n, o.deviceCreate n = .ok ()) →
      s.devices.length < maxUint32 → ∃ k ≤ s.devices.length,
        createNamed o s maxUint32 0 =
          .ok (BitVec.ofNat 32 k, deviceNameOf (BitVec.ofNat 32 k)) ∧
        deviceNameOf (BitVec.ofNat 32 k) ∉ s.devices ∧
        ∀ j < k, deviceNameOf (BitVec.ofNat 32 j) ∈ s.devices := by
  have hinv : NamesInv s := by
    refine run_invariant (P := fun _ s => NamesInv s) namesInv_init ?_ h
    intro t s e s' _ hinv hstep
    exact hinv.step hstep
  refine ⟨?_, hinv.numbered, hinv.devices, hinv.links, fun o => createNamed_least⟩
  intro n
  exact ⟨printf_deviceName n, printf_link n⟩

/-- Another driver has number 1, and number 0 is given a second time. -/
def renumbered : List NameEvent :=
  let o : AddOutcomes := ⟨.ok (), fun _ => .ok (), fun _ => .ok (), .ok (), .ok ()⟩
  [.otherDevice (deviceNameOf 1), .add o, .add o, .remove 0, .add o]

theorem renumbered_numbered : ∃ s, nameRun renumbered = some s ∧
    s.controllers = [⟨deviceNameOf 2, linkOf 2⟩, ⟨deviceNameOf 0, linkOf 0⟩] ∧
      s.devices.Nodup := by
  obtain ⟨s, hrun, hcontrollers⟩ : ∃ s, nameRun renumbered = some s ∧
      s.controllers = [⟨deviceNameOf 2, linkOf 2⟩, ⟨deviceNameOf 0, linkOf 0⟩] := ⟨_, rfl, rfl⟩
  exact ⟨s, hrun, hcontrollers, (controllers_numbered hrun).2.2.1⟩

end UdeSample
