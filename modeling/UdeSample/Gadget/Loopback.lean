import Mathlib.Logic.Function.Basic
import UdeSample.Lib.Run
import UdeSample.Lib.Store

/-!
# The loopback function of the gadget (`f_one.c`)

`alloc_requests` makes pairs of an OUT and an IN request that share one buffer and point to each
other, and queues the OUT request; `loopback_complete` queues the other request of the pair, or
frees both. Requests and buffers are handles of two stores. Using or freeing a dead handle, a null
pointer, or a request on the wrong endpoint ends in `none`, apart from which the handlers always
answer.

The USB stack is not part of the repository. A disabled endpoint refuses requests with `-ESHUTDOWN`,
a refused request stays with the caller, and `usb_ep_disable` returns when every request queued on
the endpoint is completed with `-ESHUTDOWN`; other completions may come in between. What the
allocators, `config_ep_by_speed`, `usb_ep_enable` and `usb_ep_queue` answer is an argument.
-/

namespace UdeSample

open Lib

def eshutdown : Int := 108

def enomem : Int := 12

/-- The two endpoints of the function. -/
inductive LoopEp where
  | inEp
  | outEp
deriving DecidableEq, Repr

def LoopEp.other : LoopEp → LoopEp
  | inEp => outEp
  | outEp => inEp

/-- `usb_request` with the endpoint it was allocated for. -/
structure UsbRequest where
  ep : LoopEp
  buf : Option Nat
  context : Option Nat
  length : Nat
  zero : Bool
deriving DecidableEq

structure LoopHeap where
  requests : Store UsbRequest
  buffers : Store Unit

/-- A pair made by `alloc_requests`, and what is freed. -/
inductive LoopRecord where
  | made (outReq inReq buf : Nat)
  | freedRequest (req : Nat)
  | freedBuffer (buf : Nat)
deriving DecidableEq

/-- How the two endpoints are being disabled: by `disable_loopback`, before `enable_loopback` or
not, or by the error path of `enable_loopback`. -/
inductive Teardown where
  | disableLoopback (reenable : Bool)
  | failedEnable
deriving DecidableEq

/-- Where the control callbacks `loopback_set_alt` and `loopback_disable` are. -/
inductive LoopControl where
  /-- returned; `enabled` after a successful `enable_loopback` -/
  | idle (enabled : Bool)
  /-- about to call `usb_ep_disable` -/
  | disable (ep : LoopEp) (k : Teardown)
  /-- inside `usb_ep_disable` -/
  | draining (ep : LoopEp) (k : Teardown)
  /-- about to call `enable_endpoint` -/
  | enable (ep : LoopEp)
  /-- at the head of the loop of `alloc_requests` -/
  | alloc (i : Nat)
deriving DecidableEq

structure LoopState where
  heap : LoopHeap
  queue : LoopEp → List Nat
  enabled : LoopEp → Bool
  control : LoopControl

/-- `f_loopback`: the number of pairs, and the length `alloc_ep_req` gives an OUT request of
`buflen` bytes (it may align it). -/
structure LoopConfig where
  qlen : Nat
  buflen : Nat
  usbEpAlign : Nat → Nat

def loopInit : LoopState :=
  { heap := ⟨.empty, .empty⟩, queue := fun _ => [], enabled := fun _ => false
    control := .idle false }

/-! ## Requests -/

def usbEpFreeRequest (ep : LoopEp) (req : Option Nat) (heap : LoopHeap) :
    Option (LoopHeap × List LoopRecord) :=
  req.bind fun req => (heap.requests.get? req).bind fun r =>
    if r.ep = ep then
      some ({ heap with requests := heap.requests.delete req }, [.freedRequest req])
    else none

def freeEpReq (ep : LoopEp) (req : Nat) (heap : LoopHeap) : Option (LoopHeap × List LoopRecord) :=
  (heap.requests.get? req).bind fun r => r.buf.bind fun buf =>
    (heap.buffers.free? buf).bind fun buffers =>
      (usbEpFreeRequest ep (some req) { heap with buffers }).map fun (heap, out) =>
        (heap, .freedBuffer buf :: out)

def usbEpQueue (ep : LoopEp) (req : Nat) (result : Int) (s : LoopState) :
    Option (Int × LoopState) :=
  (s.heap.requests.get? req).bind fun r =>
    if r.ep ≠ ep then none
    else if s.enabled ep = false then some (-eshutdown, s)
    else if result = 0 then
      some (0, { s with queue := Function.update s.queue ep (s.queue ep ++ [req]) })
    else some (result, s)

/-! ## `loopback_complete` -/

/-- The label `free_req`. -/
def freeReq (ep : LoopEp) (req : Nat) (s : LoopState) : Option (LoopState × List LoopRecord) :=
  (s.heap.requests.get? req).bind fun r =>
    (usbEpFreeRequest ep.other r.context s.heap).bind fun (heap, out) =>
      (freeEpReq ep req heap).map fun (heap, out') => ({ s with heap }, out ++ out')

/-- Queue the other request of the pair, or free both. -/
def requeue (ep : LoopEp) (req : Nat) (queueResult : Int) (s : LoopState) :
    Option (LoopState × List LoopRecord) :=
  (usbEpQueue ep req queueResult s).bind fun (status, s) =>
    if status = 0 then some (s, []) else freeReq ep req s

def loopbackComplete (ep : LoopEp) (req : Nat) (status : Int) (actual : Nat) (queueResult : Int)
    (s : LoopState) : Option (LoopState × List LoopRecord) :=
  (s.heap.requests.get? req).bind fun r =>
    if status = 0 then
      r.context.bind fun next =>
        match ep with
        | .outEp =>
          (s.heap.requests.get? next).bind fun inReq =>
            let inReq := { inReq with zero := decide (actual < r.length), length := actual }
            requeue .inEp next queueResult
              { s with heap.requests := s.heap.requests.update next inReq }
        | .inEp => requeue .outEp next queueResult s
    else freeReq ep req s

/-! ## `enable_loopback` and `disable_loopback` -/

structure LoopOutcomes where
  configEpBySpeed : Int
  usbEpEnable : Int
  allocIn : Bool
  allocOut : Bool
  queueResult : Int

/-- One iteration of the loop of `alloc_requests`, with its result. -/
def allocPair (cfg : LoopConfig) (o : LoopOutcomes) (s : LoopState) :
    Option ((Int × LoopState) × List LoopRecord) :=
  if o.allocIn then
    let inReq := s.heap.requests.next
    let requests := s.heap.requests.create ⟨.inEp, none, none, 0, false⟩
    if o.allocOut then
      let buf := s.heap.buffers.next
      let outReq := requests.next
      let length := cfg.usbEpAlign cfg.buflen
      let requests := requests.create ⟨.outEp, some buf, none, length, false⟩
      let requests := requests.update inReq ⟨.inEp, some buf, some outReq, 0, false⟩
      let requests := requests.update outReq ⟨.outEp, some buf, some inReq, length, false⟩
      (usbEpQueue .outEp outReq o.queueResult
        { s with heap := ⟨requests, s.heap.buffers.create ()⟩ }).bind fun (result, s) =>
          if result = 0 then some ((0, s), [.made outReq inReq buf])
          else
            -- `fail_out` and `fail_in`
            (freeEpReq .outEp outReq s.heap).bind fun (heap, out) =>
              (usbEpFreeRequest .inEp (some inReq) heap).map fun (heap, out') =>
                ((result, { s with heap }), .made outReq inReq buf :: (out ++ out'))
    else
      (usbEpFreeRequest .inEp (some inReq) { s.heap with requests }).map fun (heap, out) =>
        ((-enomem, { s with heap }), out)
  else some ((-enomem, s), [])

/-- What follows the disabling of an endpoint. -/
def Teardown.after : Teardown → LoopEp → LoopControl
  | disableLoopback reenable, .inEp => .disable .outEp (.disableLoopback reenable)
  | disableLoopback true, .outEp => .enable .inEp
  | disableLoopback false, .outEp => .idle false
  | failedEnable, .outEp => .disable .inEp .failedEnable
  | failedEnable, .inEp => .idle false

/-- The next step of the control callback. -/
def loopAdvance (cfg : LoopConfig) (o : LoopOutcomes) (s : LoopState) :
    Option (LoopState × List LoopRecord) :=
  match s.control with
  | .idle _ => none
  | .disable ep k =>
    some ({ s with enabled := Function.update s.enabled ep false, control := .draining ep k }, [])
  | .draining ep k => some ({ s with control := k.after ep }, [])
  | .enable ep =>
    if o.configEpBySpeed = 0 ∧ 0 ≤ o.usbEpEnable then
      let control := match ep with
        | .inEp => .enable .outEp
        | .outEp => .alloc 0
      some ({ s with enabled := Function.update s.enabled ep true, control }, [])
    else
      let control := match ep with
        | .inEp => .idle false
        | .outEp => .disable .inEp .failedEnable
      some ({ s with control }, [])
  | .alloc i =>
    if i < cfg.qlen then
      (allocPair cfg o s).map fun ((result, s), out) =>
        ({ s with control := if result = 0 then .alloc (i + 1) else .disable .outEp .failedEnable },
          out)
    else some ({ s with control := .idle true }, [])

/-! ## Runs -/

inductive LoopEvent where
  | setAlt
  | disable
  | advance (o : LoopOutcomes)
  | complete (ep : LoopEp) (i : Nat) (status : Int) (actual : Nat) (queueResult : Int)

/-- The event can happen: one control callback at a time, `usb_ep_disable` returns when its queue is
empty, and the completed request is queued, moved no more bytes than it has, and was shut down if
its endpoint is disabled. -/
def LoopState.accepts (s : LoopState) : LoopEvent → Bool
  | .setAlt | .disable =>
    match s.control with
    | .idle _ => true
    | .disable _ _ | .draining _ _ | .enable _ | .alloc _ => false
  | .advance _ =>
    match s.control with
    | .idle _ => false
    | .draining ep _ => (s.queue ep).isEmpty
    | .disable _ _ | .enable _ | .alloc _ => true
  | .complete ep i status actual _ =>
    match (s.queue ep)[i]? with
    | none => false
    | some req =>
      ((s.heap.requests.get? req).all fun r => decide (actual ≤ r.length)) &&
        (s.enabled ep || status == -eshutdown)

/-- What the function does at an event. -/
def loopHandle (cfg : LoopConfig) (s : LoopState) :
    LoopEvent → Option (LoopState × List LoopRecord)
  | .setAlt => some ({ s with control := .disable .inEp (.disableLoopback true) }, [])
  | .disable => some ({ s with control := .disable .inEp (.disableLoopback false) }, [])
  | .advance o => loopAdvance cfg o s
  | .complete ep i status actual queueResult =>
    (s.queue ep)[i]?.bind fun req =>
      loopbackComplete ep req status actual queueResult
        { s with queue := Function.update s.queue ep ((s.queue ep).eraseIdx i) }

def loopStep (cfg : LoopConfig) (s : LoopState) (e : LoopEvent) :
    Option (LoopState × List LoopRecord) :=
  if s.accepts e then loopHandle cfg s e else none

def loopRun (cfg : LoopConfig) (t : List LoopEvent) : Option (LoopState × List LoopRecord) :=
  run (logged (loopStep cfg)) (loopInit, []) t

end UdeSample
