import UdeSample.Wdf
import UdeSample.Lib.MultiString
import UdeSample.Lib.Printf

/-!
# Finding and opening a device (`testapp.c`)

`GetDevicePath` asks for the size of the list of device interfaces and then for the list, which may
have changed in between, and takes its first path; `OpenDevice` opens it.

`openDevice_iff`: no access leaves the list, and a handle is that of the first interface which was
there when the list was read; where they had all gone by then, the empty path is opened.
-/

namespace UdeSample

open Lib

abbrev WCHAR := BitVec 16

/-- `CONFIGRET` -/
abbrev CONFIGRET := BitVec 32

def crSuccess : CONFIGRET := 0x00
def crBufferSmall : CONFIGRET := 0x1A

abbrev HRESULT := BitVec 32

def sOk : HRESULT := 0
def strsafeEInsufficientBuffer : HRESULT := 0x8007007A

/-- `FAILED` -/
def hresultFailed (hr : HRESULT) : Bool := decide (hr.toInt < 0)

/-- A device interface that is present, by its path. -/
structure PresentInterface where
  path : List WCHAR
  isEntry : IsEntry path

/-- A `CONFIGRET` that is not a success. -/
structure CrError where
  cr : CONFIGRET
  failed : cr ≠ crSuccess

def interfaceList (present : List PresentInterface) : List WCHAR :=
  multiString (present.map PresentInterface.path)

/-- `CM_Get_Device_Interface_List_Size`, while these interfaces are present. -/
def cmGetDeviceInterfaceListSize (present : List PresentInterface) (o : Except CrError Unit) :
    Except CrError Nat :=
  o.map fun _ => (interfaceList present).length

/-- `CM_Get_Device_Interface_List`: the list, before what the buffer held behind it. -/
def cmGetDeviceInterfaceList (present : List PresentInterface) (buffer : List WCHAR)
    (o : Except CrError Unit) : Except CrError (List WCHAR) :=
  match o with
  | .error e => .error e
  | .ok () =>
    if (interfaceList present).length ≤ buffer.length then
      .ok (interfaceList present ++ buffer.drop (interfaceList present).length)
    else .error ⟨crBufferSmall, by decide⟩

variable {n : Nat}

/-- `StringCchCopy` into an array with a place for the NUL: what does not fit is cut off. -/
def stringCchCopy (b : CharBuffer WCHAR n) (s : List WCHAR) : HRESULT × CharBuffer WCHAR n :=
  (if n < s.length then strsafeEInsufficientBuffer else sOk, b.read (s.take n ++ [0]))

/-- What the system answers, and what is present when each call is made. -/
structure DevicePathOutcomes where
  listSize : Except CrError Unit
  presentAtSize : List PresentInterface
  malloc : Bool
  list : Except CrError Unit
  presentAtList : List PresentInterface

def moreThanOne : List Char :=
  ("Warning: More than one device interface instance found. \n" ++
    "Selecting first matching device.\n\n").toList

/-- `GetDevicePath` once it has read the first character behind the first string of the list. -/
def copyPath (b : CharBuffer WCHAR n) (path : List WCHAR) (nextInterface : WCHAR) :
    Bool × CharBuffer WCHAR n × List Char :=
  let warning := if nextInterface ≠ 0 then moreThanOne else []
  let (hr, b) := stringCchCopy b path
  if hresultFailed hr then
    (false, b, warning ++ "Error: StringCchCopy failed with HRESULT 0x".toList ++ hexText hr.toNat)
  else (true, b, warning)

/-- `GetDevicePath` from the list on; `none` when it reads outside of it. -/
def copyFirstInterface (b : CharBuffer WCHAR n) (deviceInterfaceList : List WCHAR) :
    Option (Bool × CharBuffer WCHAR n × List Char) :=
  if 0 ∈ deviceInterfaceList then
    (deviceInterfaceList[(cstring deviceInterfaceList).length + 1]?).map
      (copyPath b (cstring deviceInterfaceList))
  else none

/-- `GetDevicePath`: what it returns, `DevicePath` and what it writes. -/
def getDevicePath (o : DevicePathOutcomes) (b : CharBuffer WCHAR n) :
    Option (Bool × CharBuffer WCHAR n × List Char) :=
  match cmGetDeviceInterfaceListSize o.presentAtSize o.listSize with
  | .error e =>
    some (false, b, "Error 0x".toList ++ hexText e.cr.toNat ++
      " retrieving device interface list size.\n".toList)
  | .ok deviceInterfaceListLength =>
    if deviceInterfaceListLength ≤ 1 then
      some (false, b, ("Error: No active device interfaces found.\n" ++
        " Is the sample driver loaded?").toList)
    else if !o.malloc then
      some (false, b, "Error allocating memory for device interface list.\n".toList)
    else
      match cmGetDeviceInterfaceList o.presentAtList (.replicate deviceInterfaceListLength 0)
          o.list with
      | .error e =>
        some (false, b, "Error 0x".toList ++ hexText e.cr.toNat ++
          " retrieving device interface list.\n".toList)
      | .ok deviceInterfaceList => copyFirstInterface b deviceInterfaceList

/-- `OpenDevice`: the handle, and what it writes; `narrow` is the conversion `%S`, and `createFile`
opens a path or answers with the error. -/
def openDevice {H : Type} (o : DevicePathOutcomes) (completeDeviceName : CharBuffer WCHAR 255)
    (narrow : List WCHAR → List Char) (createFile : List WCHAR → Except ULONG H) :
    Option (Option H × List Char) :=
  (getDevicePath o completeDeviceName).map fun (found, completeDeviceName, text) =>
    if found then
      let text :=
        text ++ "DeviceName = (".toList ++ narrow completeDeviceName.string ++ ")\n".toList
      match createFile completeDeviceName.string with
      | .error e =>
        (none, text ++ "Failed to open the device, error - ".toList ++ intText e.toInt)
      | .ok hDev => (some hDev, text ++ "Opened the device successfully.\n".toList)
    else (none, text)

/-! ## What is found -/

namespace DevicePathOutcomes

variable (o : DevicePathOutcomes)

/-- No call fails, some interface was there when the size was asked for, and what is there when the
list is read fits in it. -/
def ListRead : Prop :=
  o.listSize = .ok () ∧ o.presentAtSize ≠ [] ∧ o.malloc = true ∧ o.list = .ok () ∧
    (interfaceList o.presentAtList).length ≤ (interfaceList o.presentAtSize).length

/-- The first path of the list; empty if all interfaces have gone. -/
def firstPath : List WCHAR := (o.presentAtList.head?.map PresentInterface.path).getD []

end DevicePathOutcomes

theorem isEntry_paths (present : List PresentInterface) :
    ∀ s ∈ present.map PresentInterface.path, IsEntry s := by
  intro s hs
  obtain ⟨d, -, rfl⟩ := List.mem_map.1 hs
  exact d.isEntry

theorem DevicePathOutcomes.firstPath_ne_zero (o : DevicePathOutcomes) :
    ∀ c ∈ o.firstPath, c ≠ 0 := by
  rw [firstPath]
  cases o.presentAtList with
  | nil => exact fun _ h => absurd h List.not_mem_nil
  | cons d present => exact d.isEntry.2

theorem one_lt_length_interfaceList (present : List PresentInterface) :
    (interfaceList present).length ≤ 1 ↔ present = [] := by
  rw [← Nat.not_lt, interfaceList, one_lt_length_multiString (isEntry_paths present), not_ne_iff,
    List.map_eq_nil_iff]

theorem copyPath_eq (b : CharBuffer WCHAR n) (path : List WCHAR) (nextInterface : WCHAR) :
    copyPath b path nextInterface =
      (decide (path.length ≤ n), b.read (path.take n ++ [0]),
        (if nextInterface ≠ 0 then moreThanOne else []) ++
          if path.length ≤ n then []
          else "Error: StringCchCopy failed with HRESULT 0x".toList ++
            hexText strsafeEInsufficientBuffer.toNat) := by
  have hfailed : hresultFailed strsafeEInsufficientBuffer = true := rfl
  have hok : hresultFailed sOk = false := rfl
  rcases Nat.lt_or_ge n path.length with hlt | hge
  · simp [copyPath, stringCchCopy, hlt, Nat.not_le.2 hlt, hfailed]
  · simp [copyPath, stringCchCopy, hge, Nat.not_lt.2 hge, hok]

/-- The list as it was read gives its first path, and the character behind tells whether there is
another. -/
theorem copyFirstInterface_list (o : DevicePathOutcomes) (b : CharBuffer WCHAR n) {k : Nat}
    (hlen : 2 ≤ (interfaceList o.presentAtList ++ List.replicate k 0).length) :
    ∃ c, (c ≠ 0 ↔ 2 ≤ o.presentAtList.length) ∧
      copyFirstInterface b (interfaceList o.presentAtList ++ List.replicate k 0) =
        some (copyPath b o.firstPath c) := by
  have hentries := isEntry_paths o.presentAtList
  have hzero : 0 ∈ interfaceList o.presentAtList ++ List.replicate k 0 :=
    List.mem_append_left _ (zero_mem_multiString _)
  have hfirst : cstring (interfaceList o.presentAtList ++ List.replicate k 0) = o.firstPath := by
    rw [interfaceList, cstring_multiString hentries, List.head?_map]
    rfl
  obtain ⟨c, hc, hsecond⟩ := multiString_second hentries hlen
  rw [List.length_map] at hsecond
  refine ⟨c, hsecond, ?_⟩
  have hread : (interfaceList o.presentAtList ++ List.replicate k 0)[
      (cstring (interfaceList o.presentAtList ++ List.replicate k 0)).length + 1]? = some c := hc
  rw [copyFirstInterface, if_pos hzero, hread, hfirst, Option.map_some]

theorem cmGetDeviceInterfaceList_ok {present : List PresentInterface} {length : Nat}
    (hfits : (interfaceList present).length ≤ length) :
    cmGetDeviceInterfaceList present (.replicate length 0) (.ok ()) =
      .ok (interfaceList present ++
        List.replicate (length - (interfaceList present).length) 0) := by
  rw [cmGetDeviceInterfaceList, List.length_replicate, if_pos hfits, List.drop_replicate]

theorem cmGetDeviceInterfaceList_small {present : List PresentInterface} {length : Nat}
    (hsmall : ¬ (interfaceList present).length ≤ length) :
    ∃ e, cmGetDeviceInterfaceList present (.replicate length 0) (.ok ()) = .error e := by
  rw [cmGetDeviceInterfaceList, List.length_replicate, if_neg hsmall]
  exact ⟨_, rfl⟩

/-- A path found is the first of the list, with a warning if there is another; no run reads outside
the list. What is written of another error starts with its first word. -/
theorem getDevicePath_cases (o : DevicePathOutcomes) (b : CharBuffer WCHAR n) :
    (o.ListRead ∧ ∃ c, (c ≠ 0 ↔ 2 ≤ o.presentAtList.length) ∧
      getDevicePath o b = some (copyPath b o.firstPath c)) ∨
    (¬ o.ListRead ∧ ∃ text, text.head? = some 'E' ∧
      getDevicePath o b = some (false, b, text)) := by
  rw [getDevicePath]
  cases hsize : o.listSize with
  | error e => exact Or.inr ⟨fun h => (by cases hsize.symm.trans h.1), _, rfl, rfl⟩
  | ok u =>
    simp only [cmGetDeviceInterfaceListSize, Except.map]
    split
    · next hlen =>
      have hnone := (one_lt_length_interfaceList o.presentAtSize).1 hlen
      exact Or.inr ⟨fun h => h.2.1 hnone, _, rfl, rfl⟩
    next hlen =>
    have hsome := mt (one_lt_length_interfaceList o.presentAtSize).2 hlen
    cases hmalloc : o.malloc with
    | false => exact Or.inr ⟨fun h => (by cases hmalloc.symm.trans h.2.2.1), _, rfl, rfl⟩
    | true =>
      cases hlist : o.list with
      | error e => exact Or.inr ⟨fun h => (by cases hlist.symm.trans h.2.2.2.1), _, rfl, rfl⟩
      | ok u =>
        by_cases hfits : (interfaceList o.presentAtList).length ≤
            (interfaceList o.presentAtSize).length
        · rw [cmGetDeviceInterfaceList_ok hfits]
          refine Or.inl ⟨⟨hsize, hsome, hmalloc, hlist, hfits⟩, copyFirstInterface_list o b ?_⟩
          rw [List.length_append, List.length_replicate]
          omega
        · obtain ⟨e, herror⟩ := cmGetDeviceInterfaceList_small hfits
          rw [herror]
          exact Or.inr ⟨fun h => hfits h.2.2.2.2, _, rfl, rfl⟩

/-! ## What is opened -/

theorem moreThanOne_not_read {text : List Char} (h : text.head? ≠ some 'W') :
    ¬ moreThanOne <+: text := by
  have hwarning : moreThanOne = 'W' :: moreThanOne.tail := by decide
  rw [hwarning]
  rintro ⟨rest, rfl⟩
  exact h rfl

/-- The warning is told from what follows it. -/
theorem moreThanOne_read_iff (c : WCHAR) {rest : List Char} (h : rest.head? ≠ some 'W') :
    moreThanOne <+: (if c ≠ 0 then moreThanOne else []) ++ rest ↔ c ≠ 0 := by
  by_cases hc : c = 0
  · rw [if_neg (not_not.2 hc), List.nil_append]
    exact iff_of_false (moreThanOne_not_read h) (not_not.2 hc)
  · rw [if_pos hc]
    exact iff_of_true (List.prefix_append _ _) hc

/-- **What is opened**, while devices come and go: no run reads outside the list. A handle is that
of the first interface present when the list was read, or, if none was left, of the empty path; it
needs that there was one when the size was asked for, that the list has not become longer since, and
that the path fits. The program warns exactly if it has read a list with a second interface,
whatever becomes of the first. -/
theorem openDevice_iff {H : Type} (o : DevicePathOutcomes)
    (completeDeviceName : CharBuffer WCHAR 255) (narrow : List WCHAR → List Char)
    (createFile : List WCHAR → Except ULONG H) :
    ∃ handle text, openDevice o completeDeviceName narrow createFile = some (handle, text) ∧
      (∀ hDev, handle = some hDev ↔
        o.ListRead ∧ o.firstPath.length ≤ 255 ∧ createFile o.firstPath = .ok hDev) ∧
      (moreThanOne <+: text ↔ o.ListRead ∧ 2 ≤ o.presentAtList.length) := by
  rw [openDevice]
  rcases getDevicePath_cases o completeDeviceName with ⟨hread, c, hsecond, hpath⟩ |
    ⟨hno, text, hhead, hpath⟩
  · rw [hpath, Option.map_some, copyPath_eq]
    have hwarns : ∀ rest : List Char, rest.head? ≠ some 'W' →
        (moreThanOne <+: (if c ≠ 0 then moreThanOne else []) ++ rest ↔
          o.ListRead ∧ 2 ≤ o.presentAtList.length) := by
      intro rest hrest
      rw [moreThanOne_read_iff c hrest, hsecond, and_iff_right hread]
    by_cases hfits : o.firstPath.length ≤ 255
    · have hname : (completeDeviceName.read (o.firstPath.take 255 ++ [0])).string =
          o.firstPath := by
        rw [CharBuffer.string_read_take _ o.firstPath_ne_zero, List.take_of_length_le hfits]
      simp only [hfits, decide_true, if_true, List.append_nil, hname]
      cases hcreate : createFile o.firstPath with
      | error e =>
        refine ⟨_, _, rfl, fun hDev => ⟨fun h => (by cases h), fun h => (by cases h.2.2)⟩, ?_⟩
        simp only [List.append_assoc]
        exact hwarns _ (by simp)
      | ok hDev =>
        refine ⟨_, _, rfl, ?_, ?_⟩
        · intro hDev'
          simp [hread]
        · simp only [List.append_assoc]
          exact hwarns _ (by simp)
    · simp only [hfits, decide_false, Bool.false_eq_true, if_false]
      refine ⟨_, _, rfl, fun hDev => ⟨fun h => (by cases h), fun h => (by cases h.2.1)⟩, ?_⟩
      exact hwarns _ (by simp)
  · rw [hpath]
    refine ⟨_, _, rfl, fun hDev => ⟨fun h => (by cases h), fun h => absurd h.1 hno⟩, ?_⟩
    refine iff_of_false (moreThanOne_not_read ?_) fun h => hno h.1
    simp [hhead]

end UdeSample
