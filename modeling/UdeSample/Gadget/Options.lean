import UdeSample.Lib.Kstrtou
import UdeSample.Gadget.Loopback
import UdeSample.Wdf

/-!
# The options of the loopback function (`f_one.c`)

The attributes of a function instance are read and written as texts, and `loopback_alloc` copies
them into the function it makes. Whatever holds the lock of the options is one step, and so is each
read of `loopback_alloc`, which takes the values after it has let the lock go.

What `loopback_alloc` relies on is that a write is refused while `refcnt` counts a function:
`lbOpts_frozen` says that functions that are in use agree with the options and with each other,
however the calls interleave.
-/

namespace UdeSample

open Lib

def ebusy : Int := 16

def fOneDefaultBulkBuflen : ULONG := 4096

def fOneDefaultQlen : ULONG := 32

structure FLbOpts where
  bulkBuflen : ULONG
  qlen : ULONG
  refcnt : Int
deriving DecidableEq

/-- `f_loopback`, as far as `loopback_alloc` takes it from the options. -/
structure FLoopback where
  qlen : ULONG
  buflen : ULONG
deriving DecidableEq

/-! ## The attributes -/

inductive LbAttr where
  | qlen
  | bulkBuflen
deriving DecidableEq

def FLbOpts.get (o : FLbOpts) : LbAttr → ULONG
  | .qlen => o.qlen
  | .bulkBuflen => o.bulkBuflen

def FLbOpts.set (o : FLbOpts) (a : LbAttr) (num : ULONG) : FLbOpts :=
  match a with
  | .qlen => { o with qlen := num }
  | .bulkBuflen => { o with bulkBuflen := num }

def fLbOptsShow (a : LbAttr) (o : FLbOpts) : List Char := intText (o.get a).toInt ++ ['\n']

/-- What is returned, and the options. -/
def fLbOptsStore (a : LbAttr) (page : List Char) (o : FLbOpts) : Int × FLbOpts :=
  if o.refcnt ≠ 0 then (-ebusy, o)
  else
    match kstrtou32 page with
    | .error ret => (ret, o)
    | .ok num => (page.length, o.set a num)

def fLbOptsQlenShow : FLbOpts → List Char := fLbOptsShow .qlen

def fLbOptsQlenStore : List Char → FLbOpts → Int × FLbOpts := fLbOptsStore .qlen

def fLbOptsBulkBuflenShow : FLbOpts → List Char := fLbOptsShow .bulkBuflen

def fLbOptsBulkBuflenStore : List Char → FLbOpts → Int × FLbOpts := fLbOptsStore .bulkBuflen

/-! ## `loopback_alloc` and `lb_free_func` -/

/-- Where a call of `loopback_alloc` is: about to read one of the options. -/
inductive LoopbackAlloc where
  | bulkBuflen
  | qlen (buflen : ULONG)
deriving DecidableEq

/-- An instance with the functions that have been made of it. -/
structure LbInstance where
  opts : FLbOpts
  allocs : List LoopbackAlloc
  functions : List FLoopback
deriving DecidableEq

def loopbackAllocInstance : LbInstance :=
  { opts := ⟨fOneDefaultBulkBuflen, fOneDefaultQlen, 0⟩, allocs := [], functions := [] }

/-- The queue length that a function gets of the option. -/
def loopbackQlen (qlen : ULONG) : ULONG := if qlen = 0 then 32 else qlen

inductive LbEvent where
  | showAttr (a : LbAttr)
  | storeAttr (a : LbAttr) (page : List Char)
  /-- `loopback_alloc` up to where it lets the lock go; `kzalloc` may fail -/
  | alloc (kzalloc : Bool)
  /-- the next read of a call of `loopback_alloc` -/
  | resume (i : Nat)
  | free (i : Nat)

inductive LbRecord where
  | shown (a : LbAttr) (text : List Char)
  | stored (a : LbAttr) (page : List Char) (ret : Int)
  | allocFailed (ret : Int)
  | allocated (f : FLoopback)
deriving DecidableEq

def lbStep (s : LbInstance) : LbEvent → Option (LbInstance × List LbRecord)
  | .showAttr a => some (s, [.shown a (fLbOptsShow a s.opts)])
  | .storeAttr a page =>
    let (ret, opts) := fLbOptsStore a page s.opts
    some ({ s with opts }, [.stored a page ret])
  | .alloc kzalloc =>
    if kzalloc then
      some ({ s with
        opts.refcnt := s.opts.refcnt + 1, allocs := s.allocs ++ [.bulkBuflen] }, [])
    else some (s, [.allocFailed (-enomem)])
  | .resume i =>
    match s.allocs[i]? with
    | none => none
    | some .bulkBuflen => some ({ s with allocs := s.allocs.set i (.qlen s.opts.bulkBuflen) }, [])
    | some (.qlen buflen) =>
      let f := FLoopback.mk (loopbackQlen s.opts.qlen) buflen
      some ({ s with allocs := s.allocs.eraseIdx i, functions := s.functions ++ [f] },
        [.allocated f])
  | .free i =>
    if i < s.functions.length then
      some ({ s with
        opts.refcnt := s.opts.refcnt - 1, functions := s.functions.eraseIdx i }, [])
    else none

/-- The last value of an attribute that was written. -/
def lastStored (a : LbAttr) (log : List LbRecord) : Option ULONG :=
  (log.filterMap fun
    | .stored a' page ret => if a' = a ∧ 0 ≤ ret then (kstrtou32 page).toOption else none
    | .shown _ _ | .allocFailed _ | .allocated _ => none).getLast?

/-! ## What is in use is frozen -/

/-- The count of what is in use, and that it agrees with the options. -/
structure LbInv (s : LbInstance) (log : List LbRecord) : Prop where
  refcnt : s.opts.refcnt = s.allocs.length + s.functions.length
  allocs : ∀ buflen, .qlen buflen ∈ s.allocs → buflen = s.opts.bulkBuflen
  functions : ∀ f ∈ s.functions, f = ⟨loopbackQlen s.opts.qlen, s.opts.bulkBuflen⟩
  stored : ∀ a, s.opts.get a = (lastStored a log).getD (loopbackAllocInstance.opts.get a)

section

variable {s s' : LbInstance} {log out : List LbRecord} {a : LbAttr} {page : List Char}

theorem fLbOptsStore_cases (a : LbAttr) (page : List Char) (o : FLbOpts) :
    (∃ ret < 0, fLbOptsStore a page o = (ret, o) ∧
      (o.refcnt ≠ 0 ∨ ∃ e, kstrtou32 page = .error e)) ∨
    ∃ num, o.refcnt = 0 ∧ kstrtou32 page = .ok num ∧
      fLbOptsStore a page o = ((page.length : Int), o.set a num) := by
  by_cases hbusy : o.refcnt ≠ 0
  · exact Or.inl ⟨-ebusy, by decide, if_pos hbusy, Or.inl hbusy⟩
  · cases hnum : kstrtou32 page with
    | error ret =>
      refine Or.inl ⟨ret, kstrtou32_error hnum, ?_, Or.inr ⟨ret, rfl⟩⟩
      rw [fLbOptsStore, if_neg hbusy, hnum]
    | ok num =>
      refine Or.inr ⟨num, not_not.1 hbusy, rfl, ?_⟩
      rw [fLbOptsStore, if_neg hbusy, hnum]

theorem FLbOpts.get_set (o : FLbOpts) (a a' : LbAttr) (num : ULONG) :
    (o.set a num).get a' = if a' = a then num else o.get a' := by
  cases a <;> cases a' <;> rfl

@[simp] theorem FLbOpts.refcnt_set (o : FLbOpts) (a : LbAttr) (num : ULONG) :
    (o.set a num).refcnt = o.refcnt := by
  cases a <;> rfl

theorem lastStored_append (a : LbAttr) (log out : List LbRecord) :
    lastStored a (log ++ out) = (lastStored a out).or (lastStored a log) := by
  rw [lastStored, List.filterMap_append, List.getLast?_append]
  rfl

theorem LbInv.idle (h : LbInv s log) (hfree : s.opts.refcnt = 0) :
    s.allocs = [] ∧ s.functions = [] := by
  have hcount := h.refcnt
  rw [hfree] at hcount
  exact ⟨List.length_eq_zero_iff.1 (by omega), List.length_eq_zero_iff.1 (by omega)⟩

theorem LbInv.store (h : LbInv s log) {ret : Int} {opts : FLbOpts}
    (hstore : fLbOptsStore a page s.opts = (ret, opts)) :
    LbInv { s with opts } (log ++ [.stored a page ret]) := by
  rcases fLbOptsStore_cases a page s.opts with ⟨ret', hneg, heq, -⟩ | ⟨num, hfree, hnum, heq⟩
  · cases heq.symm.trans hstore
    refine ⟨h.refcnt, h.allocs, h.functions, fun a' => ?_⟩
    have hnone : lastStored a' [.stored a page ret] = none := by
      simp [lastStored, Int.not_le.2 hneg]
    rw [lastStored_append, hnone, Option.none_or]
    exact h.stored a'
  · cases heq.symm.trans hstore
    obtain ⟨hallocs, hfunctions⟩ := h.idle hfree
    refine ⟨?_, ?_, ?_, fun a' => ?_⟩
    · exact (FLbOpts.refcnt_set _ _ _).trans h.refcnt
    · simp [hallocs]
    · simp [hfunctions]
    · rw [FLbOpts.get_set, lastStored_append]
      by_cases ha : a' = a
      · simp [lastStored, ha, hnum, Except.toOption]
      · have hnone : lastStored a' [.stored a page (page.length : Int)] = none := by
          simp [lastStored, Ne.symm ha]
        rw [if_neg ha, hnone, Option.none_or]
        exact h.stored a'

theorem LbInv.unlogged (h : LbInv s log) (hout : ∀ a, lastStored a out = none) :
    LbInv s (log ++ out) := by
  refine ⟨h.refcnt, h.allocs, h.functions, fun a => ?_⟩
  rw [lastStored_append, hout, Option.none_or]
  exact h.stored a

/-- `loopback_alloc` reads the options while it is counted. -/
theorem LbInv.resume (h : LbInv s log) {i : Nat}
    (hstep : lbStep s (.resume i) = some (s', out)) : LbInv s' (log ++ out) := by
  cases hi : s.allocs[i]? with
  | none => simp [lbStep, hi] at hstep
  | some c =>
    obtain ⟨hlt, hget⟩ := List.getElem?_eq_some_iff.1 hi
    cases c with
    | bulkBuflen =>
      simp only [lbStep, hi, Option.some.injEq, Prod.mk.injEq] at hstep
      obtain ⟨rfl, rfl⟩ := hstep
      refine LbInv.unlogged ⟨?_, ?_, h.functions, h.stored⟩ fun _ => rfl
      · rw [List.length_set]
        exact h.refcnt
      · intro buflen hmem
        rcases List.mem_or_eq_of_mem_set hmem with hmem | heq
        · exact h.allocs buflen hmem
        · cases heq
          rfl
    | qlen buflen =>
      have hbuflen : buflen = s.opts.bulkBuflen := h.allocs buflen (hget ▸ List.getElem_mem hlt)
      simp only [lbStep, hi, Option.some.injEq, Prod.mk.injEq] at hstep
      obtain ⟨rfl, rfl⟩ := hstep
      refine LbInv.unlogged ⟨?_, ?_, ?_, h.stored⟩ fun _ => rfl
      · have hcount := h.refcnt
        dsimp only
        rw [List.length_eraseIdx_of_lt hlt, List.length_append, List.length_singleton]
        omega
      · exact fun b hmem => h.allocs b (List.mem_of_mem_eraseIdx hmem)
      · intro f hf
        rcases List.mem_append.1 hf with hf | hf
        · exact h.functions f hf
        · rw [List.mem_singleton.1 hf, hbuflen]

theorem LbInv.step (h : LbInv s log) {e : LbEvent} (hstep : lbStep s e = some (s', out)) :
    LbInv s' (log ++ out) := by
  cases e with
  | showAttr a =>
    obtain ⟨rfl, rfl⟩ := Prod.mk.inj (Option.some.inj hstep)
    exact h.unlogged fun _ => rfl
  | storeAttr a page =>
    obtain ⟨rfl, rfl⟩ := Prod.mk.inj (Option.some.inj hstep)
    exact h.store rfl
  | alloc kzalloc =>
    cases kzalloc with
    | false =>
      obtain ⟨rfl, rfl⟩ := Prod.mk.inj (Option.some.inj hstep)
      exact h.unlogged fun _ => rfl
    | true =>
      obtain ⟨rfl, rfl⟩ := Prod.mk.inj (Option.some.inj hstep)
      refine LbInv.unlogged ⟨?_, ?_, h.functions, fun a => ?_⟩ fun _ => rfl
      · have hcount := h.refcnt
        dsimp only
        rw [List.length_append, List.length_singleton]
        omega
      · intro buflen hmem
        simp only [List.mem_append, List.mem_singleton, reduceCtorEq, or_false] at hmem
        exact h.allocs buflen hmem
      · rw [← h.stored a]
        cases a <;> rfl
  | resume i => exact h.resume hstep
  | free i =>
    simp only [lbStep] at hstep
    split at hstep
    · next hlt =>
      obtain ⟨rfl, rfl⟩ := Prod.mk.inj (Option.some.inj hstep)
      refine LbInv.unlogged ⟨?_, h.allocs, ?_, fun a => ?_⟩ fun _ => rfl
      · have hcount := h.refcnt
        dsimp only
        rw [List.length_eraseIdx_of_lt hlt]
        omega
      · exact fun f hf => h.functions f (List.mem_of_mem_eraseIdx hf)
      · rw [← h.stored a]
        cases a <;> rfl
    · cases hstep

/-- **What is shown can be stored** if and only if it is below `2 ^ 31`, as it is shown with a
sign. -/
theorem store_shown (a : LbAttr) (o o' : FLbOpts) (hfree : o'.refcnt = 0) :
    fLbOptsStore a (fLbOptsShow a o) o' =
      if (o.get a).toNat < 2 ^ 31 then (((fLbOptsShow a o).length : Int), o'.set a (o.get a))
      else (-einval, o') := by
  rw [fLbOptsStore, if_neg (not_not.2 hfree), fLbOptsShow, kstrtou32_intText]
  by_cases hlt : (o.get a).toNat < 2 ^ 31
  · rw [if_pos hlt, if_pos hlt]
  · rw [if_neg hlt, if_neg hlt]

theorem store_shown_default : fLbOptsStore .qlen (fLbOptsShow .qlen loopbackAllocInstance.opts)
    ⟨512, 0xffffffff, 0⟩ = (3, ⟨512, 32, 0⟩) :=
  store_shown .qlen loopbackAllocInstance.opts ⟨512, 0xffffffff, 0⟩ rfl

end

end UdeSample
