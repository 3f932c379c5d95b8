import UdeSample.Gadget.One

/-!
# Binding the loopback function (`f_one.c`)

The descriptors of the function are static: every instance of it writes its numbers and endpoints
into the same ones, at each of the three speeds, and `loopback_bind` ends by making a copy of them
for the instance. A bind that fails leaves what it has written.

The composite framework is not part of the repository. It numbers the interfaces and the strings,
chooses the endpoints, and answers with errors; what it answers is an argument, and `accepts` says
what it never does: it gives out no number and no endpoint twice, and puts a function only after it
has removed it from its configuration. The gadget has one configuration, as that of `one.c`; the
framework starts over for a new gadget once no function is left in it.
-/

namespace UdeSample

open Lib

def enodev : Int := 19

/-! ## The descriptors -/

def usbDirOut : UCHAR := 0

def usbDirIn : UCHAR := 0x80

def usbEndpointXferBulk : UCHAR := 2

def usbClassVendorSpec : UCHAR := 0xff

/-- `usb_interface_descriptor`, without the fields that stay zero. -/
structure InterfaceDesc where
  bInterfaceNumber : UCHAR
  bNumEndpoints : UCHAR
  bInterfaceClass : UCHAR
  iInterface : UCHAR
deriving DecidableEq

structure EndpointDesc where
  bEndpointAddress : UCHAR
  bmAttributes : UCHAR
  wMaxPacketSize : USHORT
deriving DecidableEq

inductive DescriptorHeader where
  | interface (desc : InterfaceDesc)
  | endpoint (desc : EndpointDesc)
  /-- what goes with an endpoint at super speed; its fields are zero -/
  | ssEpComp
deriving DecidableEq

/-- The static descriptors of the function and the number of its string. -/
structure LoopStatics where
  loopbackIntf : InterfaceDesc
  fsLoopSourceDesc : EndpointDesc
  fsLoopSinkDesc : EndpointDesc
  hsLoopSourceDesc : EndpointDesc
  hsLoopSinkDesc : EndpointDesc
  ssLoopSourceDesc : EndpointDesc
  ssLoopSinkDesc : EndpointDesc
  stringsLoopbackId : UCHAR

def loopStatics : LoopStatics :=
  { loopbackIntf := ⟨0, 2, usbClassVendorSpec, 0⟩
    fsLoopSourceDesc := ⟨usbDirIn, usbEndpointXferBulk, 0⟩
    fsLoopSinkDesc := ⟨usbDirOut, usbEndpointXferBulk, 0⟩
    hsLoopSourceDesc := ⟨0, usbEndpointXferBulk, 512⟩
    hsLoopSinkDesc := ⟨0, usbEndpointXferBulk, 512⟩
    ssLoopSourceDesc := ⟨0, usbEndpointXferBulk, 1024⟩
    ssLoopSinkDesc := ⟨0, usbEndpointXferBulk, 1024⟩
    stringsLoopbackId := 0 }

def fsLoopbackDescs (s : LoopStatics) : List DescriptorHeader :=
  [.interface s.loopbackIntf, .endpoint s.fsLoopSinkDesc, .endpoint s.fsLoopSourceDesc]

def hsLoopbackDescs (s : LoopStatics) : List DescriptorHeader :=
  [.interface s.loopbackIntf, .endpoint s.hsLoopSourceDesc, .endpoint s.hsLoopSinkDesc]

def ssLoopbackDescs (s : LoopStatics) : List DescriptorHeader :=
  [.interface s.loopbackIntf, .endpoint s.ssLoopSourceDesc, .ssEpComp,
    .endpoint s.ssLoopSinkDesc, .ssEpComp]

/-- What a function has a copy of. -/
structure FunctionDescs where
  fsDescriptors : List DescriptorHeader
  hsDescriptors : List DescriptorHeader
  ssDescriptors : List DescriptorHeader
deriving DecidableEq

/-- `usb_assign_descriptors` -/
def LoopStatics.copy (s : LoopStatics) : FunctionDescs :=
  ⟨fsLoopbackDescs s, hsLoopbackDescs s, ssLoopbackDescs s⟩

/-! ## `loopback_bind` -/

structure GadgetEp where
  number : UCHAR
  maxpacketLimit : USHORT
deriving DecidableEq

/-- The packets of a bulk endpoint at full speed. -/
def GadgetEp.fullSpeedSize (ep : GadgetEp) : USHORT :=
  if 64 < ep.maxpacketLimit then 64 else ep.maxpacketLimit

/-- What `usb_ep_autoconfig` writes when it has chosen the endpoint. -/
def usbEpAutoconfig (ep : GadgetEp) (desc : EndpointDesc) : EndpointDesc :=
  { desc with
    bEndpointAddress := desc.bEndpointAddress &&& usbDirIn ||| ep.number
    wMaxPacketSize := ep.fullSpeedSize }

/-- `f_loopback`, as far as it concerns its descriptors. -/
structure LoopFunction where
  inEp : Option UCHAR
  outEp : Option UCHAR
  /-- the copy of the descriptors -/
  descs : Option Nat
  /-- it is in the configuration -/
  added : Bool

structure LoopGadget where
  statics : LoopStatics
  /-- `c->interface`, the function of every number given out -/
  interfaces : List (UCHAR × Nat)
  strings : List UCHAR
  /-- the addresses of the endpoints that are claimed -/
  claimed : List UCHAR
  functions : Store LoopFunction
  copies : Store FunctionDescs

def loopGadgetInit : LoopGadget :=
  { statics := loopStatics, interfaces := [], strings := [], claimed := [], functions := .empty
    copies := .empty }

/-- What the framework answers to `loopback_bind`. -/
structure LoopBindOutcomes where
  usbInterfaceId : Except Errno UCHAR
  usbStringId : Except Errno UCHAR
  sourceEp : Option GadgetEp
  sinkEp : Option GadgetEp
  usbAssignDescriptors : Except Errno Unit

def LoopGadget.withInterface (id : UCHAR) (f : Nat) (s : LoopGadget) : LoopGadget :=
  { s with
    interfaces := (id, f) :: s.interfaces, statics.loopbackIntf.bInterfaceNumber := id }

def LoopGadget.withString (id : UCHAR) (s : LoopGadget) : LoopGadget :=
  { s with
    strings := id :: s.strings, statics.stringsLoopbackId := id
    statics.loopbackIntf.iInterface := id }

def LoopGadget.withSource (ep : GadgetEp) (s : LoopGadget) : LoopGadget :=
  let desc := usbEpAutoconfig ep s.statics.fsLoopSourceDesc
  { s with claimed := desc.bEndpointAddress :: s.claimed, statics.fsLoopSourceDesc := desc }

def LoopGadget.withSink (ep : GadgetEp) (s : LoopGadget) : LoopGadget :=
  let desc := usbEpAutoconfig ep s.statics.fsLoopSinkDesc
  { s with claimed := desc.bEndpointAddress :: s.claimed, statics.fsLoopSinkDesc := desc }

/-- High and super speed use the addresses of full speed. -/
def LoopStatics.withSpeeds (s : LoopStatics) : LoopStatics :=
  { s with
    hsLoopSourceDesc.bEndpointAddress := s.fsLoopSourceDesc.bEndpointAddress
    hsLoopSinkDesc.bEndpointAddress := s.fsLoopSinkDesc.bEndpointAddress
    ssLoopSourceDesc.bEndpointAddress := s.fsLoopSourceDesc.bEndpointAddress
    ssLoopSinkDesc.bEndpointAddress := s.fsLoopSinkDesc.bEndpointAddress }

/-- What it returns, the function and the rest. An error of `usb_assign_descriptors` leaves no copy,
and a copy that the function had before is not looked at. -/
def loopbackBind (o : LoopBindOutcomes) (f : Nat) (loop : LoopFunction) (s : LoopGadget) :
    Int × LoopFunction × LoopGadget :=
  match o.usbInterfaceId with
  | .error e => (e.value, loop, s)
  | .ok id =>
    let s := s.withInterface id f
    match o.usbStringId with
    | .error e => (e.value, loop, s)
    | .ok id =>
      let s := s.withString id
      match o.sourceEp with
      | none => (-enodev, { loop with inEp := none }, s)
      | some source =>
        let s := s.withSource source
        let loop := { loop with inEp := some s.statics.fsLoopSourceDesc.bEndpointAddress }
        match o.sinkEp with
        | none => (-enodev, { loop with outEp := none }, s)
        | some sink =>
          let s := s.withSink sink
          let loop := { loop with outEp := some s.statics.fsLoopSinkDesc.bEndpointAddress }
          let s := { s with statics := s.statics.withSpeeds }
          match o.usbAssignDescriptors with
          | .error e => (e.value, { loop with descs := none }, s)
          | .ok () => (0, { loop with descs := some s.copies.next },
            { s with copies := s.copies.create s.statics.copy })

/-! ## The framework -/

inductive LoopBindRecord where
  | bindReturned (f : Nat) (status : Int)
  | freed (copy : Nat)
deriving DecidableEq

def usbAddFunction (o : LoopBindOutcomes) (f : Nat) (s : LoopGadget) :
    Option (LoopGadget × List LoopBindRecord) :=
  (s.functions.get? f).map fun loop =>
    let (status, loop, s) := loopbackBind o f loop s
    ({ s with functions := s.functions.update f { loop with added := status = 0 } },
      [.bindReturned f status])

/-- `lb_free_func`, with what it frees. -/
def lbFreeFunc (f : Nat) (s : LoopGadget) : Option (LoopGadget × List LoopBindRecord) :=
  (s.functions.get? f).bind fun loop =>
    let s := { s with functions := s.functions.delete f }
    match loop.descs with
    | none => some (s, [])
    | some copy => (s.copies.free? copy).map fun copies => ({ s with copies }, [.freed copy])

inductive LoopBindEvent where
  /-- `loopback_alloc` -/
  | alloc
  | add (f : Nat) (o : LoopBindOutcomes)
  /-- the function has no `unbind` that would be called -/
  | remove (f : Nat)
  | put (f : Nat)
  /-- a new gadget: numbers and endpoints are free again -/
  | reset

/-- Nothing is given out twice; endpoint numbers have four bits. -/
def LoopGadget.offers (s : LoopGadget) (o : LoopBindOutcomes) : Bool :=
  o.usbInterfaceId.toOption.all (fun id => id ∉ s.interfaces.map Prod.fst) ∧
    o.usbStringId.toOption.all (fun id => id ∉ s.strings) ∧
      o.sourceEp.all (fun ep => ep.number < 16 ∧ usbDirIn ||| ep.number ∉ s.claimed) ∧
        o.sinkEp.all (fun ep => ep.number < 16 ∧ usbDirOut ||| ep.number ∉ s.claimed)

def LoopGadget.accepts (s : LoopGadget) : LoopBindEvent → Bool
  | .alloc => true
  | .add f o => (s.functions.get? f).any (fun loop => !loop.added) && s.offers o
  | .remove f => (s.functions.get? f).any LoopFunction.added
  | .put f => (s.functions.get? f).any fun loop => !loop.added
  | .reset => s.functions.cells.all fun cell => cell.all fun loop => !loop.added

def loopGadgetHandle (s : LoopGadget) :
    LoopBindEvent → Option (LoopGadget × List LoopBindRecord)
  | .alloc => some ({ s with functions := s.functions.create ⟨none, none, none, false⟩ }, [])
  | .add f o => usbAddFunction o f s
  | .remove f => (s.functions.get? f).map fun loop =>
    ({ s with functions := s.functions.update f { loop with added := false } }, [])
  | .put f => lbFreeFunc f s
  | .reset => some ({ s with interfaces := [], strings := [], claimed := [] }, [])

def loopGadgetStep (s : LoopGadget) (e : LoopBindEvent) :
    Option (LoopGadget × List LoopBindRecord) :=
  if s.accepts e then loopGadgetHandle s e else none

def loopGadgetRun (t : List LoopBindEvent) : Option (LoopGadget × List LoopBindRecord) :=
  run (logged loopGadgetStep) (loopGadgetInit, []) t

end UdeSample
