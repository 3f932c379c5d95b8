import UdeSample.Gadget.Bind

/-!
# Instances of the loopback function that share their descriptors

All binds write into the same descriptors, but what an instance has a copy of is its own: its
interface number, string and endpoints, the same at every speed, and no two instances in the
configuration have one of these in common (`loopback_bound`).

The copy is freed with the instance, once. Since there is no `unbind`, an instance that is removed
and added again loses the copy it had; `copies_freed_iff`: nothing else is lost.
-/

namespace UdeSample

open Lib

/-! ## What an instance is bound to -/

structure LoopBinding where
  interface : UCHAR
  string : UCHAR
  source : GadgetEp
  sink : GadgetEp

namespace LoopBinding

def inAddress (b : LoopBinding) : UCHAR := usbDirIn ||| b.source.number

def outAddress (b : LoopBinding) : UCHAR := usbDirOut ||| b.sink.number

/-- The descriptors of the binding. At full speed the sink comes first. -/
def descs (b : LoopBinding) : FunctionDescs :=
  let intf : DescriptorHeader := .interface ⟨b.interface, 2, usbClassVendorSpec, b.string⟩
  let ep (address : UCHAR) (size : USHORT) : DescriptorHeader :=
    .endpoint ⟨address, usbEndpointXferBulk, size⟩
  { fsDescriptors :=
      [intf, ep b.outAddress b.sink.fullSpeedSize, ep b.inAddress b.source.fullSpeedSize]
    hsDescriptors := [intf, ep b.inAddress 512, ep b.outAddress 512]
    ssDescriptors := [intf, ep b.inAddress 1024, .ssEpComp, ep b.outAddress 1024, .ssEpComp] }

/-- The instance is bound to what is its own, and its copy says so. -/
structure Of (b : LoopBinding) (s : LoopGadget) (f : Nat) (loop : LoopFunction) : Prop where
  inEp : loop.inEp = some b.inAddress
  outEp : loop.outEp = some b.outAddress
  directions : b.inAddress &&& usbDirIn = usbDirIn ∧ b.outAddress &&& usbDirIn = usbDirOut
  copy : ∃ i, loop.descs = some i ∧ s.copies.get? i = some b.descs
  interface : s.interfaces.lookup b.interface = some f
  string : b.string ∈ s.strings
  source : b.inAddress ∈ s.claimed
  sink : b.outAddress ∈ s.claimed

structure Apart (b b' : LoopBinding) : Prop where
  interface : b.interface ≠ b'.interface
  string : b.string ≠ b'.string
  inAddress : b.inAddress ≠ b'.inAddress
  outAddress : b.outAddress ≠ b'.outAddress

theorem Apart.symm {b b' : LoopBinding} (h : b.Apart b') : b'.Apart b :=
  ⟨h.interface.symm, h.string.symm, h.inAddress.symm, h.outAddress.symm⟩

end LoopBinding

/-! ## The static descriptors -/

/-- What no bind writes is as it was. -/
structure LoopStatics.Fixed (s : LoopStatics) : Prop where
  intf : ∃ number string, s.loopbackIntf = ⟨number, 2, usbClassVendorSpec, string⟩
  fsSource : ∃ address size, s.fsLoopSourceDesc = ⟨address, usbEndpointXferBulk, size⟩ ∧
    address &&& usbDirIn = usbDirIn
  fsSink : ∃ address size, s.fsLoopSinkDesc = ⟨address, usbEndpointXferBulk, size⟩ ∧
    address &&& usbDirIn = usbDirOut
  hsSource : ∃ address, s.hsLoopSourceDesc = ⟨address, usbEndpointXferBulk, 512⟩
  hsSink : ∃ address, s.hsLoopSinkDesc = ⟨address, usbEndpointXferBulk, 512⟩
  ssSource : ∃ address, s.ssLoopSourceDesc = ⟨address, usbEndpointXferBulk, 1024⟩
  ssSink : ∃ address, s.ssLoopSinkDesc = ⟨address, usbEndpointXferBulk, 1024⟩

theorem loopStatics_fixed : loopStatics.Fixed :=
  ⟨⟨_, _, rfl⟩, ⟨_, _, rfl, rfl⟩, ⟨_, _, rfl, rfl⟩, ⟨_, rfl⟩, ⟨_, rfl⟩, ⟨_, rfl⟩, ⟨_, rfl⟩⟩

theorem inAddress_direction {number : UCHAR} (h : number < 16) :
    (usbDirIn ||| number) &&& usbDirIn = usbDirIn := by
  revert number
  decide

theorem outAddress_direction {number : UCHAR} (h : number < 16) :
    (usbDirOut ||| number) &&& usbDirIn = usbDirOut := by
  revert number
  decide

section

variable {s s' s'' : LoopGadget} {o : LoopBindOutcomes} {f g : Nat} {loop loop' : LoopFunction}
  {status : Int} {log out : List LoopBindRecord}

/-- What is given out stays given out, and the descriptors of the bound instances as they are. -/
structure LoopGadget.Extends (s s' : LoopGadget) : Prop where
  fixed : s'.statics.Fixed
  interfaces : ∀ id f, s.interfaces.lookup id = some f → s'.interfaces.lookup id = some f
  strings : s.strings ⊆ s'.strings
  claimed : s.claimed ⊆ s'.claimed
  functions : s'.functions = s.functions
  copies : ∀ i descs, s.copies.get? i = some descs → s'.copies.get? i = some descs

theorem LoopGadget.Extends.refl (h : s.statics.Fixed) : s.Extends s :=
  ⟨h, fun _ _ => id, List.Subset.refl _, List.Subset.refl _, rfl, fun _ _ => id⟩

theorem LoopGadget.Extends.trans (h : s.Extends s') (h' : s'.Extends s'') : s.Extends s'' :=
  ⟨h'.fixed, fun id f hid => h'.interfaces id f (h.interfaces id f hid),
    List.Subset.trans h.strings h'.strings, List.Subset.trans h.claimed h'.claimed,
    h'.functions.trans h.functions,
    fun i descs hi => h'.copies i descs (h.copies i descs hi)⟩

theorem lookup_cons_of_notMem {interfaces : List (UCHAR × Nat)} {id id' : UCHAR}
    (hfresh : id ∉ interfaces.map Prod.fst) (h : interfaces.lookup id' = some g) :
    ((id, f) :: interfaces).lookup id' = some g := by
  have hne : id' ≠ id := by
    rintro rfl
    obtain ⟨before, after, rfl, -⟩ := List.lookup_eq_some_iff.1 h
    exact hfresh (List.mem_map_of_mem (List.mem_append_right before List.mem_cons_self))
  rw [List.lookup_cons, beq_false_of_ne hne]
  exact h

theorem LoopGadget.extends_withInterface (h : s.statics.Fixed) {id : UCHAR}
    (hfresh : id ∉ s.interfaces.map Prod.fst) (f : Nat) : s.Extends (s.withInterface id f) := by
  obtain ⟨number, string, hintf⟩ := h.intf
  refine ⟨⟨⟨id, string, ?_⟩, h.fsSource, h.fsSink, h.hsSource, h.hsSink, h.ssSource, h.ssSink⟩,
    fun _ _ => lookup_cons_of_notMem hfresh, List.Subset.refl _, List.Subset.refl _, rfl,
    fun _ _ h => h⟩
  simp only [LoopGadget.withInterface, hintf]

theorem LoopGadget.extends_withString (h : s.statics.Fixed) (id : UCHAR) :
    s.Extends (s.withString id) := by
  obtain ⟨number, string, hintf⟩ := h.intf
  refine ⟨⟨⟨number, id, ?_⟩, h.fsSource, h.fsSink, h.hsSource, h.hsSink, h.ssSource, h.ssSink⟩,
    fun _ _ h => h, List.subset_cons_self _ _, List.Subset.refl _, rfl, fun _ _ h => h⟩
  simp only [LoopGadget.withString, hintf]

/-- The direction of the static descriptor stays, whatever endpoint was chosen before. -/
theorem LoopGadget.withSource_eq (h : s.statics.Fixed) (ep : GadgetEp) : s.withSource ep =
    { s with
      claimed := (usbDirIn ||| ep.number) :: s.claimed
      statics.fsLoopSourceDesc :=
        ⟨usbDirIn ||| ep.number, usbEndpointXferBulk, ep.fullSpeedSize⟩ } := by
  obtain ⟨address, size, hdesc, hdir⟩ := h.fsSource
  simp only [LoopGadget.withSource, usbEpAutoconfig, hdesc, hdir]

theorem LoopGadget.withSink_eq (h : s.statics.Fixed) (ep : GadgetEp) : s.withSink ep =
    { s with
      claimed := (usbDirOut ||| ep.number) :: s.claimed
      statics.fsLoopSinkDesc :=
        ⟨usbDirOut ||| ep.number, usbEndpointXferBulk, ep.fullSpeedSize⟩ } := by
  obtain ⟨address, size, hdesc, hdir⟩ := h.fsSink
  simp only [LoopGadget.withSink, usbEpAutoconfig, hdesc, hdir]

theorem LoopGadget.extends_withSource (h : s.statics.Fixed) {ep : GadgetEp}
    (hnumber : ep.number < 16) : s.Extends (s.withSource ep) := by
  rw [LoopGadget.withSource_eq h]
  exact ⟨⟨h.intf, ⟨_, _, rfl, inAddress_direction hnumber⟩, h.fsSink, h.hsSource, h.hsSink,
    h.ssSource, h.ssSink⟩, fun _ _ h => h, List.Subset.refl _, List.subset_cons_self _ _, rfl,
    fun _ _ h => h⟩

theorem LoopGadget.extends_withSink (h : s.statics.Fixed) {ep : GadgetEp}
    (hnumber : ep.number < 16) : s.Extends (s.withSink ep) := by
  rw [LoopGadget.withSink_eq h]
  exact ⟨⟨h.intf, h.fsSource, ⟨_, _, rfl, outAddress_direction hnumber⟩, h.hsSource, h.hsSink,
    h.ssSource, h.ssSink⟩, fun _ _ h => h, List.Subset.refl _, List.subset_cons_self _ _, rfl,
    fun _ _ h => h⟩

theorem EndpointDesc.readdressed {desc : EndpointDesc} {attributes : UCHAR} {size : USHORT}
    (h : ∃ address, desc = ⟨address, attributes, size⟩) (address : UCHAR) :
    ∃ address', { desc with bEndpointAddress := address } =
      (⟨address', attributes, size⟩ : EndpointDesc) := by
  obtain ⟨_, rfl⟩ := h
  exact ⟨address, rfl⟩

theorem LoopGadget.extends_withSpeeds (h : s.statics.Fixed) :
    s.Extends { s with statics := s.statics.withSpeeds } :=
  ⟨⟨h.intf, h.fsSource, h.fsSink, EndpointDesc.readdressed h.hsSource _,
    EndpointDesc.readdressed h.hsSink _, EndpointDesc.readdressed h.ssSource _,
    EndpointDesc.readdressed h.ssSink _⟩, fun _ _ h => h, List.Subset.refl _, List.Subset.refl _,
    rfl, fun _ _ h => h⟩

/-! ## `loopback_bind` -/

/-- `usb_assign_descriptors` is reached. -/
def LoopBindOutcomes.assigns (o : LoopBindOutcomes) : Bool :=
  o.usbInterfaceId.isOk && o.usbStringId.isOk && o.sourceEp.isSome && o.sinkEp.isSome

/-- What the framework gave for the binding was not given out yet. -/
structure LoopBinding.Fresh (b : LoopBinding) (s : LoopGadget) : Prop where
  interface : b.interface ∉ s.interfaces.map Prod.fst
  string : b.string ∉ s.strings
  inAddress : b.inAddress ∉ s.claimed
  outAddress : b.outAddress ∉ s.claimed

/-- The copy made at the end, whatever earlier binds have written. -/
theorem copy_bound (h : s.statics.Fixed) (b : LoopBinding) (f : Nat) :
    ((((s.withInterface b.interface f).withString b.string).withSource b.source).withSink
      b.sink).statics.withSpeeds.copy = b.descs := by
  obtain ⟨number, string, hintf⟩ := h.intf
  obtain ⟨address₁, size₁, hfsSource, hin⟩ := h.fsSource
  obtain ⟨address₂, size₂, hfsSink, hout⟩ := h.fsSink
  obtain ⟨_, hhsSource⟩ := h.hsSource
  obtain ⟨_, hhsSink⟩ := h.hsSink
  obtain ⟨_, hssSource⟩ := h.ssSource
  obtain ⟨_, hssSink⟩ := h.ssSink
  simp only [LoopStatics.copy, fsLoopbackDescs, hsLoopbackDescs, ssLoopbackDescs,
    LoopStatics.withSpeeds, LoopGadget.withSink, LoopGadget.withSource, LoopGadget.withString,
    LoopGadget.withInterface, usbEpAutoconfig, hintf, hfsSource, hin, hfsSink, hout, hhsSource,
    hhsSink, hssSource, hssSink]
  rfl

/-- A bind that fails leaves no copy behind, and what others have alone. One that succeeds gives the
function a binding that nobody has, with its copy. -/
theorem loopbackBind_cases (h : s.statics.Fixed) (hoffers : s.offers o = true) (f : Nat)
    (loop : LoopFunction) :
    (∃ status < 0, ∃ loop' s', loopbackBind o f loop s = (status, loop', s') ∧ s.Extends s' ∧
      s'.copies = s.copies ∧ loop'.descs = if o.assigns then none else loop.descs) ∨
    ∃ b : LoopBinding, b.Fresh s ∧ o.assigns = true ∧ ∃ loop' s',
      loopbackBind o f loop s = (0, loop', s') ∧ s.Extends s' ∧
      s'.copies = s.copies.create b.descs ∧ loop'.descs = some s.copies.next ∧ b.Of s' f loop' := by
  obtain ⟨hinterface, hstring, hsource, hsink⟩ := of_decide_eq_true hoffers
  unfold loopbackBind LoopBindOutcomes.assigns
  cases hid : o.usbInterfaceId with
  | error e => exact Or.inl ⟨e.value, e.negative, loop, s, rfl, .refl h, rfl, rfl⟩
  | ok id =>
    rw [hid] at hinterface
    have hfresh : id ∉ s.interfaces.map Prod.fst := of_decide_eq_true hinterface
    have h₁ := LoopGadget.extends_withInterface h hfresh f
    cases hstr : o.usbStringId with
    | error e => exact Or.inl ⟨e.value, e.negative, loop, _, rfl, h₁, rfl, rfl⟩
    | ok string =>
      rw [hstr] at hstring
      have h₂ := h₁.trans (LoopGadget.extends_withString h₁.fixed string)
      cases hsrc : o.sourceEp with
      | none => exact Or.inl ⟨-enodev, by decide, _, _, rfl, h₂, rfl, rfl⟩
      | some source =>
        rw [hsrc] at hsource
        obtain ⟨hsourceNumber, hsourceFree⟩ := of_decide_eq_true hsource
        have h₃ := h₂.trans (LoopGadget.extends_withSource h₂.fixed hsourceNumber)
        cases hsnk : o.sinkEp with
        | none => exact Or.inl ⟨-enodev, by decide, _, _, rfl, h₃, rfl, rfl⟩
        | some sink =>
          rw [hsnk] at hsink
          obtain ⟨hsinkNumber, hsinkFree⟩ := of_decide_eq_true hsink
          have h₄ := h₃.trans (LoopGadget.extends_withSink h₃.fixed hsinkNumber)
          have h₅ := h₄.trans (LoopGadget.extends_withSpeeds h₄.fixed)
          cases o.usbAssignDescriptors with
          | error e => exact Or.inl ⟨e.value, e.negative, _, _, rfl, h₅, rfl, rfl⟩
          | ok _ =>
            let b : LoopBinding := ⟨id, string, source, sink⟩
            have hcopy := copy_bound h b f
            have hin : ((((s.withInterface id f).withString string).withSource
                source).statics.fsLoopSourceDesc).bEndpointAddress = b.inAddress := by
              rw [LoopGadget.withSource_eq h₂.fixed]
              rfl
            have hout : (((((s.withInterface id f).withString string).withSource source).withSink
                sink).statics.fsLoopSinkDesc).bEndpointAddress = b.outAddress := by
              rw [LoopGadget.withSink_eq h₃.fixed]
              rfl
            refine Or.inr ⟨b, ⟨hfresh, of_decide_eq_true hstring, hsourceFree, hsinkFree⟩, rfl,
              _, _, rfl, ?_, congrArg s.copies.create hcopy, rfl, ?_⟩
            · exact ⟨h₅.fixed, h₅.interfaces, h₅.strings, h₅.claimed, h₅.functions,
                fun i descs hi => Store.get?_create_of_some hi _⟩
            · refine ⟨congrArg some hin, congrArg some hout,
                ⟨inAddress_direction hsourceNumber, outAddress_direction hsinkNumber⟩,
                ⟨_, rfl, ?_⟩, List.lookup_cons_self, List.mem_cons_self, ?_, ?_⟩
              · rw [← hcopy]
                exact (Store.get?_create _ _ _).trans (if_pos rfl)
              · exact List.mem_cons_of_mem _ (hin ▸ List.mem_cons_self)
              · exact hout ▸ List.mem_cons_self

/-! ## Every instance -/

theorem LoopBinding.Of.extends {b : LoopBinding} (h : b.Of s f loop) (hs : s.Extends s') :
    b.Of s' f loop := by
  obtain ⟨i, hdescs, hi⟩ := h.copy
  exact ⟨h.inEp, h.outEp, h.directions, ⟨i, hdescs, hs.copies i _ hi⟩,
    hs.interfaces _ _ h.interface, hs.strings h.string, hs.claimed h.source, hs.claimed h.sink⟩

theorem LoopBinding.Of.stored {b : LoopBinding} (h : b.Of s f loop)
    (functions : Store LoopFunction) (added : Bool) :
    b.Of { s with functions } f { loop with added } :=
  ⟨h.inEp, h.outEp, h.directions, h.copy, h.interface, h.string, h.source, h.sink⟩

/-- What is new is not what another instance is bound to. -/
theorem LoopBinding.Of.apart {b b' : LoopBinding} (h : b.Of s f loop) (hfresh : b'.Fresh s) :
    b.Apart b' := by
  refine ⟨?_, ?_, ?_, ?_⟩
  · intro heq
    obtain ⟨before, after, hin, -⟩ := List.lookup_eq_some_iff.1 h.interface
    refine hfresh.interface (heq ▸ ?_)
    rw [hin]
    exact List.mem_map_of_mem (List.mem_append_right before List.mem_cons_self)
  · exact fun heq => hfresh.string (heq ▸ h.string)
  · exact fun heq => hfresh.inAddress (heq ▸ h.source)
  · exact fun heq => hfresh.outAddress (heq ▸ h.sink)

/-- The bindings of the instances that are in the configuration. -/
structure LoopGadget.BoundTo (s : LoopGadget) (b : Nat → LoopBinding) : Prop where
  of : ∀ f loop, s.functions.get? f = some loop → loop.added = true → (b f).Of s f loop
  apart : ∀ f g loop loop', s.functions.get? f = some loop → loop.added = true →
    s.functions.get? g = some loop' → loop'.added = true → f ≠ g → (b f).Apart (b g)

/-- Nothing new is in the configuration. -/
theorem LoopGadget.BoundTo.keeps {b : Nat → LoopBinding} (h : s.BoundTo b)
    (hfunctions : ∀ f loop, s'.functions.get? f = some loop → loop.added = true →
      s.functions.get? f = some loop)
    (hof : ∀ f loop, s'.functions.get? f = some loop → loop.added = true → (b f).Of s f loop →
      (b f).Of s' f loop) : s'.BoundTo b := by
  refine ⟨?_, ?_⟩
  · intro f loop hf hadded
    exact hof f loop hf hadded (h.of f loop (hfunctions f loop hf hadded) hadded)
  · intro f g loop loop' hf hadded hg hadded'
    exact h.apart f g loop loop' (hfunctions f loop hf hadded) hadded
      (hfunctions g loop' hg hadded') hadded'

/-- One instance more is in the configuration. -/
theorem LoopGadget.BoundTo.add {b : Nat → LoopBinding} (h : s.BoundTo b) (hs : s.Extends s')
    (hf : s.functions.get? f = some loop) {b' : LoopBinding} (hfresh : b'.Fresh s)
    (hof : b'.Of s' f loop') :
    LoopGadget.BoundTo { s' with
      functions := s'.functions.update f { loop' with added := true } }
      (Function.update b f b') := by
  have hget : ∀ g, (s'.functions.update f { loop' with added := true }).get? g =
      if g = f then some { loop' with added := true } else s.functions.get? g := by
    intro g
    rw [hs.functions, Store.get?_update hf]
  have hold : ∀ g loop₁, g ≠ f →
      (s'.functions.update f { loop' with added := true }).get? g = some loop₁ →
        s.functions.get? g = some loop₁ := by
    intro g loop₁ hne hg
    rwa [hget, if_neg hne] at hg
  refine ⟨?_, ?_⟩
  · intro g loop₁ hg hadded
    by_cases hgf : g = f
    · subst hgf
      rw [hget, if_pos rfl] at hg
      obtain rfl := Option.some.inj hg
      rw [Function.update_self]
      exact hof.stored _ true
    · rw [Function.update_of_ne hgf]
      exact ((h.of g loop₁ (hold g loop₁ hgf hg) hadded).extends hs).stored _ loop₁.added
  · intro g g' loop₁ loop₂ hg hadded hg' hadded' hne
    by_cases hgf : g = f
    · subst hgf
      rw [Function.update_self, Function.update_of_ne hne.symm]
      exact ((h.of g' loop₂ (hold g' loop₂ hne.symm hg') hadded').apart hfresh).symm
    · rw [Function.update_of_ne hgf]
      by_cases hgf' : g' = f
      · subst hgf'
        rw [Function.update_self]
        exact (h.of g loop₁ (hold g loop₁ hgf hg) hadded).apart hfresh
      · rw [Function.update_of_ne hgf']
        exact h.apart g g' loop₁ loop₂ (hold g loop₁ hgf hg) hadded (hold g' loop₂ hgf' hg')
          hadded' hne

/-! ## The copies -/

def freedCopies (log : List LoopBindRecord) : List Nat :=
  log.filterMap fun
    | .freed copy => some copy
    | .bindReturned _ _ => none

theorem freedCopies_append (log out : List LoopBindRecord) :
    freedCopies (log ++ out) = freedCopies log ++ freedCopies out := List.filterMap_append

/-- No instance that has a copy gets another one. -/
def KeepsCopy (s : LoopGadget) : LoopBindEvent → Prop
  | .add f o => o.assigns = true → ∀ loop ∈ s.functions.get? f, loop.descs = none
  | .alloc | .remove _ | .put _ | .reset => True

instance (s : LoopGadget) : ∀ e, Decidable (KeepsCopy s e)
  | .add f o => inferInstanceAs
    (Decidable (o.assigns = true → ∀ loop ∈ s.functions.get? f, loop.descs = none))
  | .alloc | .remove _ | .put _ | .reset => isTrue trivial

/-- Every copy there is belongs to one instance, or is lost. -/
structure LoopGadgetInv (s : LoopGadget) (lost freed : List Nat) : Prop where
  fixed : s.statics.Fixed
  bound : ∃ b, s.BoundTo b
  copies : s.copies.Ledger (s.functions.collect LoopFunction.descs ++ lost) freed

variable {lost freed : List Nat}

/-- An instance that is not in the configuration changes. -/
theorem LoopGadget.BoundTo.update {b : Nat → LoopBinding} (h : s.BoundTo b) (hs : s.Extends s')
    (hf : s.functions.get? f = some loop) (hout : loop'.added = false) :
    LoopGadget.BoundTo { s' with functions := s'.functions.update f loop' } b := by
  refine h.keeps ?_ fun g loop₁ _ _ hof => (hof.extends hs).stored _ loop₁.added
  intro g loop₁ hg hadded
  dsimp only at hg
  rw [hs.functions, Store.get?_update hf] at hg
  split at hg
  · obtain rfl := Option.some.inj hg
    rw [hout] at hadded
    cases hadded
  · exact hg

theorem collect_descs_update {functions : Store LoopFunction} (hf : functions.get? f = some loop)
    (loop' : LoopFunction) {copy : Option Nat} (hcopy : loop'.descs = copy) (lost : List Nat) :
    ((functions.update f loop').collect LoopFunction.descs ++ (loop.descs.toList ++ lost)).Perm
      (copy.toList ++ (functions.collect LoopFunction.descs ++ lost)) := by
  have hperm := (Store.collect_update hf LoopFunction.descs loop').append_right lost
  rw [hcopy, List.append_assoc, List.append_assoc] at hperm
  exact hperm

/-- The copy that the instance had before the bind is lost if the bind reaches
`usb_assign_descriptors`. -/
theorem LoopGadgetInv.add (h : LoopGadgetInv s lost freed) (hf : s.functions.get? f = some loop)
    (hoffers : s.offers o = true) :
    ∃ s' out lost', usbAddFunction o f s = some (s', out) ∧ freedCopies out = [] ∧
      LoopGadgetInv s' lost' freed ∧ (lost' = [] ↔ lost = [] ∧ KeepsCopy s (.add f o)) := by
  obtain ⟨b, hbound⟩ := h.bound
  have hkeeps : KeepsCopy s (.add f o) ↔ (o.assigns = true → loop.descs = none) := by
    simp [KeepsCopy, hf]
  have hlost : o.assigns = true → (loop.descs.toList ++ lost = [] ↔
      lost = [] ∧ (o.assigns = true → loop.descs = none)) := by
    intro hassigns
    rw [List.append_eq_nil_iff, Option.toList_eq_nil_iff, and_comm, imp_iff_right hassigns]
  rw [hkeeps]
  rcases loopbackBind_cases h.fixed hoffers f loop with
    ⟨status, hneg, loop', s', hbind, hs, hcopies, hdescs⟩ |
    ⟨b', hfresh, hassigns, loop', s', hbind, hs, hcopies, hdescs, hof⟩
  · have hadd : usbAddFunction o f s = some ({ s' with
        functions := s'.functions.update f { loop' with added := false } },
          [.bindReturned f status]) := by
      simp [usbAddFunction, hf, hbind, Int.ne_of_lt hneg]
    by_cases hassigns : o.assigns = true
    · rw [if_pos hassigns] at hdescs
      refine ⟨_, _, _, hadd, rfl, ⟨hs.fixed, ⟨b, hbound.update hs hf rfl⟩, ?_⟩, hlost hassigns⟩
      rw [hcopies, hs.functions]
      exact h.copies.perm (collect_descs_update hf { loop' with added := false } hdescs lost).symm
    · rw [if_neg hassigns] at hdescs
      refine ⟨_, _, lost, hadd, rfl, ⟨hs.fixed, ⟨b, hbound.update hs hf rfl⟩, ?_⟩,
        (and_iff_left fun hyes => absurd hyes hassigns).symm⟩
      have hcollect := Store.collect_update_of_eq hf LoopFunction.descs
        { loop' with added := false } hdescs
      rw [hcopies, hs.functions]
      exact h.copies.perm (hcollect.symm.append_right lost)
  · have hadd : usbAddFunction o f s = some ({ s' with
        functions := s'.functions.update f { loop' with added := true } },
          [.bindReturned f 0]) := by
      simp [usbAddFunction, hf, hbind]
    refine ⟨_, _, _, hadd, rfl, ⟨hs.fixed, ⟨_, hbound.add hs hf hfresh hof⟩, ?_⟩, hlost hassigns⟩
    have hcollect := collect_descs_update hf { loop' with added := true } hdescs lost
    rw [hcopies, hs.functions]
    exact (h.copies.create b'.descs).perm hcollect.symm

/-- One instance less. -/
theorem LoopGadget.BoundTo.delete {b : Nat → LoopBinding} (h : s.BoundTo b)
    {copies : Store FunctionDescs}
    (hcopies : ∀ g loop i, s.functions.get? g = some loop → g ≠ f → loop.descs = some i →
      copies.get? i = s.copies.get? i) :
    LoopGadget.BoundTo { s with functions := s.functions.delete f, copies } b := by
  have hget : ∀ g loop, (s.functions.delete f).get? g = some loop →
      s.functions.get? g = some loop ∧ g ≠ f := by
    intro g loop hg
    rw [Store.get?_delete] at hg
    split at hg
    · cases hg
    · next hne => exact ⟨hg, hne⟩
  refine h.keeps (fun g loop hg _ => (hget g loop hg).1) ?_
  intro g loop hg _ hof
  obtain ⟨hg', hne⟩ := hget g loop hg
  obtain ⟨i, hi, hcopy⟩ := hof.copy
  exact ⟨hof.inEp, hof.outEp, hof.directions, ⟨i, hi, (hcopies g loop i hg' hne hi).trans hcopy⟩,
    hof.interface, hof.string, hof.source, hof.sink⟩

theorem LoopGadgetInv.put (h : LoopGadgetInv s lost freed)
    (hf : s.functions.get? f = some loop) :
    ∃ s' out, lbFreeFunc f s = some (s', out) ∧
      LoopGadgetInv s' lost (freed ++ freedCopies out) := by
  obtain ⟨b, hbound⟩ := h.bound
  have howned := (Store.collect_delete hf LoopFunction.descs).append_right lost
  cases hdescs : loop.descs with
  | none =>
    rw [hdescs] at howned
    refine ⟨{ s with functions := s.functions.delete f }, [], ?_, h.fixed, ⟨b, ?_⟩, ?_⟩
    · simp [lbFreeFunc, hf, hdescs]
    · exact hbound.delete fun _ _ _ _ _ _ => rfl
    · rw [freedCopies, List.filterMap_nil, List.append_nil]
      exact h.copies.perm howned
  | some i =>
    rw [hdescs] at howned
    have hledger := (h.copies.perm howned).delete
    obtain ⟨descs, hi⟩ := ((h.copies.perm howned).mem i).1 List.mem_cons_self
    refine ⟨{ s with functions := s.functions.delete f, copies := s.copies.delete i }, [.freed i],
      ?_, h.fixed, ⟨b, ?_⟩, hledger⟩
    · simp [lbFreeFunc, hf, hdescs, Store.free?_of_some hi]
    · refine hbound.delete fun g loop' j hg hne hj => ?_
      -- the ledger has the copy of another instance apart from the one that is freed
      have hg' : (s.functions.delete f).get? g = some loop' := by
        rw [Store.get?_delete, if_neg hne, hg]
      obtain ⟨descs', hlive⟩ := (hledger.mem j).1
        (List.mem_append_left lost (Store.mem_collect hg' hj))
      rw [Store.get?_delete] at hlive ⊢
      split at hlive
      · cases hlive
      · next hji => exact if_neg hji

/-! ## Runs -/

/-- What is accepted is done, and only a bind loses a copy. -/
theorem LoopGadgetInv.step (h : LoopGadgetInv s lost freed) {e : LoopBindEvent}
    (hacc : s.accepts e = true) :
    ∃ s' out lost', loopGadgetHandle s e = some (s', out) ∧
      LoopGadgetInv s' lost' (freed ++ freedCopies out) ∧
      (lost' = [] ↔ lost = [] ∧ KeepsCopy s e) := by
  obtain ⟨b, hbound⟩ := h.bound
  have hnil : freed ++ freedCopies [] = freed := List.append_nil freed
  cases e with
  | alloc =>
    refine ⟨_, [], lost, rfl, ⟨h.fixed, ⟨b, ?_⟩, ?_⟩, (and_iff_left trivial).symm⟩
    · refine hbound.keeps ?_ fun g loop₁ _ _ hof => hof.stored _ loop₁.added
      intro g loop₁ hg hadded
      dsimp only at hg
      rw [Store.get?_create] at hg
      split at hg
      · obtain rfl := Option.some.inj hg
        cases hadded
      · exact hg
    · rw [hnil]
      dsimp only
      rw [Store.collect_create, Option.toList_none, List.append_nil]
      exact h.copies
  | add f o =>
    rw [LoopGadget.accepts, Bool.and_eq_true, Option.any_eq_true] at hacc
    obtain ⟨⟨loop, hf, -⟩, hoffers⟩ := hacc
    obtain ⟨s', out, lost', hadd, hout, hinv, hlost⟩ := h.add hf hoffers
    refine ⟨s', out, lost', hadd, ?_, hlost⟩
    rw [hout, List.append_nil]
    exact hinv
  | remove f =>
    obtain ⟨loop, hf, -⟩ := (Option.any_eq_true _ _).1 hacc
    refine ⟨_, [], lost, congrArg (Option.map _) hf, ⟨h.fixed, ⟨b, ?_⟩, ?_⟩,
      (and_iff_left trivial).symm⟩
    · exact hbound.update (.refl h.fixed) hf rfl
    · rw [hnil]
      have hcollect := Store.collect_update_of_eq hf LoopFunction.descs
        { loop with added := false } rfl
      exact h.copies.perm (hcollect.symm.append_right lost)
  | put f =>
    obtain ⟨loop, hf, -⟩ := (Option.any_eq_true _ _).1 hacc
    obtain ⟨s', out, hput, hinv⟩ := h.put hf
    exact ⟨s', out, lost, hput, hinv, (and_iff_left trivial).symm⟩
  | reset =>
    refine ⟨_, [], lost, rfl, ⟨h.fixed, ⟨b, ?_⟩, ?_⟩, (and_iff_left trivial).symm⟩
    · have hout : ∀ f loop, s.functions.get? f = some loop → ¬ loop.added = true := by
        intro f loop hf hadded
        obtain ⟨hlt, hcell⟩ := Store.cells_of_some hf
        have hall := List.all_eq_true.1 hacc _ (List.getElem_mem hlt)
        rw [hcell, Option.all_some, hadded] at hall
        cases hall
      exact hbound.keeps (fun _ _ hf _ => hf)
        fun f loop hf hadded _ => absurd hadded (hout f loop hf)
    · rw [hnil]
      exact h.copies

theorem loopGadgetStep_eq_some {e : LoopBindEvent} : loopGadgetStep s e = some (s', out) ↔
    s.accepts e = true ∧ loopGadgetHandle s e = some (s', out) := by
  unfold loopGadgetStep
  split
  · next hacc => simp [hacc]
  · next hacc => simp [hacc]

theorem loopGadgetInv_init : LoopGadgetInv loopGadgetInit [] [] := by
  refine ⟨loopStatics_fixed, ⟨fun _ => ⟨0, 0, ⟨0, 0⟩, ⟨0, 0⟩⟩, ?_, ?_⟩, .empty⟩
  · intro f loop hf
    cases hf
  · intro f g loop loop' hf
    cases hf

/-- The copies are lost exactly by the binds that meet one. -/
theorem loopGadgetRun_inv {t : List LoopBindEvent} (h : loopGadgetRun t = some (s, log)) :
    ∃ lost, LoopGadgetInv s lost (freedCopies log) ∧ (lost = [] ↔
      Along (fun p e => KeepsCopy p.1 e) (logged loopGadgetStep) (loopGadgetInit, []) t) := by
  refine run_invariant (P := fun t p => ∃ lost, LoopGadgetInv p.1 lost (freedCopies p.2) ∧
    (lost = [] ↔ Along (fun p e => KeepsCopy p.1 e) (logged loopGadgetStep)
      (loopGadgetInit, []) t)) ⟨[], loopGadgetInv_init, iff_of_true rfl trivial⟩ ?_ h
  rintro t ⟨s, log⟩ e ⟨s', log'⟩ hrun ⟨lost, hinv, hlost⟩ hlog
  obtain ⟨out, hstep, rfl⟩ := logged_eq_some.1 hlog
  obtain ⟨hacc, hhandle⟩ := loopGadgetStep_eq_some.1 hstep
  obtain ⟨s₁, out₁, lost', hhandle₁, hinv', hlost'⟩ := hinv.step hacc
  cases hhandle₁.symm.trans hhandle
  refine ⟨lost', ?_, ?_⟩
  · rw [freedCopies_append]
    exact hinv'
  · rw [hlost', hlost, along_append hrun]
    simp [Along]

def bindGives (interface string source sink : UCHAR) : LoopBindOutcomes :=
  { usbInterfaceId := .ok interface, usbStringId := .ok string, sourceEp := some ⟨source, 512⟩
    sinkEp := some ⟨sink, 512⟩, usbAssignDescriptors := .ok () }

/-- Three instances, of which the second finds no sink. -/
def sharedBinds : List LoopBindEvent :=
  [.alloc, .alloc, .alloc, .add 0 (bindGives 0 1 1 2),
    .add 1 { bindGives 1 2 3 4 with sinkEp := none }, .add 2 (bindGives 2 3 5 4)]

/-- **What becomes of the copies**: none is freed twice, and once all instances are gone every copy
has been freed, if and only if no instance that had one was given another. -/
theorem copies_freed_iff {t : List LoopBindEvent} (h : loopGadgetRun t = some (s, log)) :
    (∀ i, (freedCopies log).count i ≤ 1) ∧
    ((∀ f, s.functions.get? f = none) →
      ((∀ i < s.copies.next, (freedCopies log).count i = 1) ↔
        Along (fun p e => KeepsCopy p.1 e) (logged loopGadgetStep) (loopGadgetInit, []) t)) := by
  obtain ⟨lost, hinv, hlost⟩ := loopGadgetRun_inv h
  refine ⟨?_, ?_⟩
  · intro i
    rw [hinv.copies.freed i]
    split
    · exact Nat.le_refl 1
    · exact Nat.zero_le 1
  · intro hgone
    have hledger := hinv.copies
    rw [Store.collect_eq_nil hgone, List.nil_append] at hledger
    rw [← hlost]
    constructor
    · intro hcount
      refine List.eq_nil_iff_forall_not_mem.2 fun i hi => ?_
      obtain ⟨descs, hlive⟩ := (hledger.mem i).1 hi
      have hone := hcount i (Store.lt_next hlive)
      rw [hledger.freed.count_of_some hlive] at hone
      cases hone
    · rintro rfl i hi
      rw [hledger.count_freed, if_pos hi]

/-- An instance that is removed and put, and one that is added to the next gadget before. -/
def boundOnce : List LoopBindEvent := [.alloc, .add 0 (bindGives 0 1 1 2), .remove 0, .put 0]

def boundTwice : List LoopBindEvent :=
  [.alloc, .add 0 (bindGives 0 1 1 2), .remove 0, .reset, .add 0 (bindGives 0 1 1 2), .remove 0,
    .put 0]

theorem boundOnce_freed :
    (∃ s log, loopGadgetRun boundOnce = some (s, log) ∧
      ∀ i < s.copies.next, (freedCopies log).count i = 1) ∧
    ∃ s log, loopGadgetRun boundTwice = some (s, log) ∧ s.functions.get? 0 = none ∧
      ¬ ∀ i < s.copies.next, (freedCopies log).count i = 1 := by
  have hgone : ∀ f, (⟨[none]⟩ : Store LoopFunction).get? f = none := by
    intro f
    cases f <;> rfl
  constructor
  · obtain ⟨⟨s, log⟩, hrun, hfunctions⟩ : ∃ p, loopGadgetRun boundOnce = some p ∧
        p.1.functions = ⟨[none]⟩ := ⟨_, rfl, rfl⟩
    refine ⟨s, log, hrun, ((copies_freed_iff hrun).2 fun f => ?_).2 (by decide)⟩
    rw [hfunctions]
    exact hgone f
  · obtain ⟨⟨s, log⟩, hrun, hfunctions⟩ : ∃ p, loopGadgetRun boundTwice = some p ∧
        p.1.functions = ⟨[none]⟩ := ⟨_, rfl, rfl⟩
    have hall : ∀ f, s.functions.get? f = none := fun f => by
      rw [hfunctions]
      exact hgone f
    refine ⟨s, log, hrun, hall 0, fun hcount => ?_⟩
    exact absurd (((copies_freed_iff hrun).2 hall).1 hcount) (by decide)

end

end UdeSample
