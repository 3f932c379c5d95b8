import Mathlib.Data.List.Chain
import Mathlib.Logic.Function.Basic

/-!
# Intrusive doubly linked lists

A list entry holds two links, `Flink` and `Blink`, and lies inside the record it links. A list is a
ring through its head. The operations are given with the nodes whose links they read or write;
`none` is a link that is `NULL`.

`Ring m h ns` says that the ring of `h` holds the nodes `ns` in order. Inserting appends
(`Ring.insertTailList`), removing takes the first node or gives the head of an empty list back
(`Ring.removeHeadList_cons`, `Ring.removeHeadList_nil`), and each touches the neighbours of the
moved node besides the node itself.
-/

namespace UdeSample.Lib

universe u

/-- The links of all nodes. -/
structure ListMemory (ν : Type u) where
  flink : ν → Option ν
  blink : ν → Option ν

variable {ν : Type u} [DecidableEq ν]

namespace ListMemory

def setFlink (m : ListMemory ν) (n : ν) (v : Option ν) : ListMemory ν :=
  { m with flink := Function.update m.flink n v }

def setBlink (m : ListMemory ν) (n : ν) (v : Option ν) : ListMemory ν :=
  { m with blink := Function.update m.blink n v }

/-- A list entry filled with zeros. -/
def clear (m : ListMemory ν) (n : ν) : ListMemory ν := (m.setFlink n none).setBlink n none

def initializeListHead (m : ListMemory ν) (listHead : ν) : ListMemory ν :=
  (m.setFlink listHead (some listHead)).setBlink listHead (some listHead)

/-- The links after `InsertTailList` and the nodes it touches. -/
def insertTailList (m : ListMemory ν) (listHead entry : ν) : Option (ListMemory ν × List ν) :=
  (m.blink listHead).map fun blink =>
    ((((m.setFlink entry (some listHead)).setBlink entry (some blink)).setFlink blink
      (some entry)).setBlink listHead (some entry), [listHead, entry, blink])

/-- The node `RemoveHeadList` returns, the links after it and the nodes it touches. -/
def removeHeadList (m : ListMemory ν) (listHead : ν) : Option (ν × ListMemory ν × List ν) :=
  (m.flink listHead).bind fun entry => (m.flink entry).map fun flink =>
    (entry, (m.setFlink listHead (some flink)).setBlink flink (some listHead),
      [listHead, entry, flink])

/-- The two links between neighbours. -/
def Linked (m : ListMemory ν) (a b : ν) : Prop := m.flink a = some b ∧ m.blink b = some a

/-- The nodes `ns`, in order, on the ring of `listHead`. -/
structure Ring (m : ListMemory ν) (listHead : ν) (ns : List ν) : Prop where
  nodup : (listHead :: ns).Nodup
  linked : (listHead :: (ns ++ [listHead])).IsChain m.Linked

namespace Ring

variable {m : ListMemory ν} {h e n : ν} {ns : List ν}

theorem initializeListHead (m : ListMemory ν) (h : ν) : Ring (m.initializeListHead h) h [] := by
  refine ⟨by simp, ?_⟩
  simp [Linked, ListMemory.initializeListHead, setFlink, setBlink]

omit [DecidableEq ν] in
/-- The node before the head is the last one. -/
theorem last_linked (hr : Ring m h ns) : m.Linked ((h :: ns).getLast (by simp)) h := by
  have hchain := hr.linked
  rw [← List.cons_append] at hchain
  exact hchain.rel_getLast_head_of_append (by simp) (by simp)

/-- **Insertion appends**, and touches the head, the new node and the last one. -/
theorem insertTailList (hr : Ring m h ns) (he : e ∉ h :: ns) :
    ∃ m', m.insertTailList h e = some (m', [h, e, (h :: ns).getLast (by simp)]) ∧
      Ring m' h (ns ++ [e]) := by
  obtain ⟨hlastF, hlastB⟩ := hr.last_linked
  have hlast : (h :: ns).getLast (by simp) ∈ h :: ns := List.getLast_mem _
  generalize hb : (h :: ns).getLast (by simp) = b at hlastF hlastB hlast
  have hbe : b ≠ e := fun heq => he (heq ▸ hlast)
  have hhe : h ≠ e := fun heq => he (heq ▸ List.mem_cons_self)
  have hold : (h :: ns).IsChain m.Linked := by
    have hchain := hr.linked
    rw [← List.cons_append] at hchain
    exact hchain.left_of_append
  rw [ListMemory.insertTailList, hlastB]
  refine ⟨_, rfl, ?_, ?_⟩
  · rw [← List.cons_append, List.nodup_append]
    refine ⟨hr.nodup, by simp, ?_⟩
    intro a ha a' ha'
    rw [List.mem_singleton.1 ha']
    exact fun heq => he (heq ▸ ha)
  · rw [List.append_assoc, ← List.cons_append, List.isChain_append]
    refine ⟨hold.imp_of_mem_tail_imp ?_, ?_, ?_⟩
    · intro x y hx hy hxy
      have hyh : y ≠ h := fun heq => (List.nodup_cons.1 hr.nodup).1 (heq ▸ hy)
      have hye : y ≠ e := fun heq => he (heq ▸ List.mem_cons_of_mem h hy)
      have hxe : x ≠ e := fun heq => he (heq ▸ hx)
      -- the last node was linked to the head, so it is not followed by one of the others
      have hxb : x ≠ b := by
        rintro rfl
        exact hyh (Option.some.inj (hxy.1.symm.trans hlastF))
      simp [Linked, setFlink, setBlink, hxe, hxb, hyh, hye, hxy.1, hxy.2]
    · simp [Linked, setFlink, setBlink, hbe.symm]
    · intro x hx y hy
      rw [List.getLast?_eq_some_getLast (List.cons_ne_nil h ns), hb] at hx
      obtain rfl := Option.some.inj hx
      obtain rfl : e = y := Option.some.inj hy
      simp [Linked, setFlink, setBlink, hhe.symm]

/-- **Removal from a list** takes the first node, and touches the head and the second node. -/
theorem removeHeadList_cons (hr : Ring m h (n :: ns)) :
    ∃ m', m.removeHeadList h = some (n, m', [h, n, (ns ++ [h]).head (by simp)]) ∧
      Ring m' h ns := by
  have hchain := hr.linked
  rw [List.cons_append, List.isChain_cons_cons] at hchain
  obtain ⟨⟨hfirstF, hfirstB⟩, hrest⟩ := hchain
  have hnot : n ∉ ns ++ [h] := by
    have hnodup := hr.nodup
    simp only [List.nodup_cons, List.mem_cons, not_or] at hnodup
    simp [hnodup.2.1, Ne.symm hnodup.1.1]
  obtain ⟨f, fs, hfs⟩ := List.exists_cons_of_ne_nil (show ns ++ [h] ≠ [] by simp)
  simp only [hfs, List.head_cons]
  rw [hfs, List.isChain_cons_cons] at hrest
  rw [ListMemory.removeHeadList, hfirstF, Option.bind_some, hrest.1.1]
  refine ⟨_, rfl, ?_, ?_⟩
  · exact hr.nodup.sublist (List.sublist_cons_self n ns |>.cons_cons h)
  · rw [hfs, List.isChain_cons_cons]
    refine ⟨by simp [Linked, setFlink, setBlink], hrest.2.imp_of_mem_imp ?_⟩
    intro x y hx hy hxy
    have hxn : x ≠ n := fun heq => hnot (hfs ▸ heq ▸ hx)
    have hyn : y ≠ n := fun heq => hnot (hfs ▸ heq ▸ hy)
    -- the head was followed by `n`, and `f` came after it
    have hxh : x ≠ h := by
      rintro rfl
      exact hyn (Option.some.inj (hxy.1.symm.trans hfirstF))
    have hyf : y ≠ f := by
      rintro rfl
      exact hxn (Option.some.inj (hxy.2.symm.trans hrest.1.2))
    simp [Linked, setFlink, setBlink, hxh, hyf, hxy.1, hxy.2]

theorem removeHeadList_nil (hr : Ring m h []) :
    ∃ m', m.removeHeadList h = some (h, m', [h, h, h]) ∧ Ring m' h [] := by
  obtain ⟨hF, hB⟩ : m.Linked h h := hr.last_linked
  refine ⟨_, by rw [ListMemory.removeHeadList, hF, Option.bind_some, hF]; rfl, by simp, ?_⟩
  simp [Linked, setFlink, setBlink]

end Ring

omit [DecidableEq ν] in
/-- An insertion touches nodes of the list it leaves. -/
theorem insertTailList_touched (h e : ν) (ns : List ν) :
    [h, e, (h :: ns).getLast (by simp)] ⊆ h :: (ns ++ [e]) := by
  intro x hx
  simp only [List.mem_cons, List.not_mem_nil, or_false] at hx
  rcases hx with rfl | rfl | rfl
  · exact List.mem_cons_self
  · simp
  · rw [← List.cons_append]
    exact List.mem_append_left _ (List.getLast_mem _)

omit [DecidableEq ν] in
/-- A removal touches nodes of the list it meets. -/
theorem removeHeadList_touched (h n : ν) (ns : List ν) :
    [h, n, (ns ++ [h]).head (by simp)] ⊆ h :: n :: ns := by
  intro x hx
  simp only [List.mem_cons, List.not_mem_nil, or_false] at hx
  rcases hx with rfl | rfl | rfl
  · exact List.mem_cons_self
  · exact List.mem_cons_of_mem _ List.mem_cons_self
  · have hhead := List.head_mem (l := ns ++ [h]) (by simp)
    rcases List.mem_append.1 hhead with hmem | hmem
    · exact List.mem_cons_of_mem _ (List.mem_cons_of_mem _ hmem)
    · exact List.mem_cons.2 (Or.inl (List.mem_singleton.1 hmem))

end ListMemory

end UdeSample.Lib
