import UdeSample.Gadget.Loopback
import UdeSample.Lib.Transfer

/-!
# The loopback function with the data (`f_one.c`)

The device controller moves the packets of the host into the buffer of the OUT request at the head
of its queue, and those of the IN request at the head of the other queue back to the host; it
completes a request when its transfer is over, which is where `loopback_complete` comes in. A packet
that finds no request is refused, so that the host tries again, and one that does not fit completes
the request with `-EOVERFLOW`. The other completions (a request dequeued, an endpoint shut down) and
the control callbacks are those of `loopStep`.

`EchoState.pending` is what the gadget owes the host: the packets of the IN transfers that have not
been sent, and those of the OUT transfer that is being filled.
-/

namespace UdeSample

open Lib

def eoverflow : Int := 75

/-- The function on endpoints of a packet size. -/
structure EchoConfig extends LoopConfig where
  maxpacket : Nat
  maxpacket_pos : 0 < maxpacket

/-- The function with what has been received into each buffer, and how far the controller is with
the request at the head of each queue. -/
structure EchoState (β : Type) where
  loop : LoopState
  memory : Nat → List β
  progress : LoopEp → Nat

inductive EchoRecord (β : Type) where
  | received (packet : List β)
  | returned (packet : List β)
  | refused (ep : LoopEp)
  | loop (r : LoopRecord)
deriving DecidableEq

inductive EchoEvent (β : Type) where
  | outPacket (packet : List β) (queueResult : Int)
  | inPacket (queueResult : Int)
  | loop (e : LoopEvent)

variable {β : Type}

def echoInit (memory : Nat → List β) : EchoState β := ⟨loopInit, memory, fun _ => 0⟩

/-! ## The controller -/

/-- The `i`-th request of a queue has been completed. -/
def EchoState.completed (s : EchoState β) (loop : LoopState) (ep : LoopEp) (i : Nat) :
    EchoState β :=
  { s with loop, progress := if i = 0 then Function.update s.progress ep 0 else s.progress }

/-- The request at the head of a queue is completed. -/
def EchoState.complete (cfg : EchoConfig) (s : EchoState β) (ep : LoopEp) (status : Int)
    (actual : Nat) (queueResult : Int) : Option (EchoState β × List (EchoRecord β)) :=
  (loopStep cfg.toLoopConfig s.loop (.complete ep 0 status actual queueResult)).map
    fun (loop, out) => (s.completed loop ep 0, out.map .loop)

/-- The request at the head of the queue of an enabled endpoint. -/
def EchoState.head? (s : EchoState β) (ep : LoopEp) : Option Nat :=
  if s.loop.enabled ep then (s.loop.queue ep).head? else none

/-- A packet of the host, into the OUT request `r` with the buffer `buf`. -/
def EchoState.fill (cfg : EchoConfig) (s : EchoState β) (r : UsbRequest) (buf : Nat)
    (packet : List β) (queueResult : Int) : Option (EchoState β × List (EchoRecord β)) :=
  let filled := s.progress .outEp
  let actual := filled + packet.length
  if r.length < actual then s.complete cfg .outEp (-eoverflow) filled queueResult
  else
    let memory := Function.update s.memory buf ((s.memory buf).take filled ++ packet)
    if fillDone cfg.maxpacket r.length filled packet then
      { s with memory }.complete cfg .outEp 0 actual queueResult
    else some ({ s with memory, progress := Function.update s.progress .outEp actual }, [])

/-- What is left to send of the IN request `r` with the buffer `buf`. -/
def EchoState.rest (s : EchoState β) (r : UsbRequest) (buf : Nat) : List β :=
  ((s.memory buf).take r.length).drop (s.progress .inEp)

/-- A packet to the host, from the IN request `r` with the buffer `buf`. -/
def EchoState.send (cfg : EchoConfig) (s : EchoState β) (r : UsbRequest) (buf : Nat)
    (queueResult : Int) : Option (EchoState β × List (EchoRecord β)) :=
  if sendDone cfg.maxpacket r.zero (s.rest r buf) then
    s.complete cfg .inEp 0 r.length queueResult
  else
    some ({ s with
      progress := Function.update s.progress .inEp (s.progress .inEp + cfg.maxpacket) }, [])

def echoStep (cfg : EchoConfig) (s : EchoState β) :
    EchoEvent β → Option (EchoState β × List (EchoRecord β))
  | .outPacket packet queueResult =>
    if cfg.maxpacket < packet.length then none
    else
      match s.head? .outEp with
      | none => some (s, [.refused .outEp])
      | some req =>
        (s.loop.heap.requests.get? req).bind fun r => r.buf.bind fun buf =>
          (s.fill cfg r buf packet queueResult).map fun (s', out) =>
            (s', .received packet :: out)
  | .inPacket queueResult =>
    match s.head? .inEp with
    | none => some (s, [.refused .inEp])
    | some req =>
      (s.loop.heap.requests.get? req).bind fun r => r.buf.bind fun buf =>
        (s.send cfg r buf queueResult).map fun (s', out) =>
          (s', .returned ((s.rest r buf).take cfg.maxpacket) :: out)
  | .loop (.complete ep i status actual queueResult) =>
    -- successful completions come with a packet
    if status = 0 then none
    else
      (loopStep cfg.toLoopConfig s.loop (.complete ep i status actual queueResult)).map
        fun (loop, out) => (s.completed loop ep i, out.map .loop)
  | .loop e =>
    (loopStep cfg.toLoopConfig s.loop e).map fun (loop, out) => ({ s with loop }, out.map .loop)

def echoRun (cfg : EchoConfig) (memory : Nat → List β) (t : List (EchoEvent β)) :
    Option (EchoState β × List (EchoRecord β)) :=
  run (logged (echoStep cfg)) (echoInit memory, []) t

/-! ## What the host sees -/

def received (log : List (EchoRecord β)) : List (List β) :=
  log.filterMap fun
    | .received packet => some packet
    | .returned _ | .refused _ | .loop _ => none

def returned (log : List (EchoRecord β)) : List (List β) :=
  log.filterMap fun
    | .returned packet => some packet
    | .received _ | .refused _ | .loop _ => none

def loopRecords (log : List (EchoRecord β)) : List LoopRecord :=
  log.filterMap fun
    | .loop r => some r
    | .received _ | .returned _ | .refused _ => none

/-- The packets of an IN request. -/
def EchoState.transfer (cfg : EchoConfig) (s : EchoState β) (sent req : Nat) : List (List β) :=
  match s.loop.heap.requests.get? req with
  | some ⟨_, some buf, _, length, zero⟩ =>
    transferPackets cfg.maxpacket zero (((s.memory buf).take length).drop sent)
  | some ⟨_, none, _, _, _⟩ | none => []

/-- The packets of the IN requests that have not been sent. -/
def EchoState.unsent (cfg : EchoConfig) (s : EchoState β) : List (List β) :=
  queuePackets (s.transfer cfg) (s.progress .inEp) (s.loop.queue .inEp)

/-- The packets received into the OUT request at the head of the queue. -/
def EchoState.filling (cfg : EchoConfig) (s : EchoState β) : List (List β) :=
  match (s.loop.queue .outEp).head?.bind s.loop.heap.requests.get? with
  | some ⟨_, some buf, _, _, _⟩ =>
    fullPackets cfg.maxpacket ((s.memory buf).take (s.progress .outEp))
  | some ⟨_, none, _, _, _⟩ | none => []

def EchoState.pending (cfg : EchoConfig) (s : EchoState β) : List (List β) :=
  s.unsent cfg ++ s.filling cfg

/-- The pairs that are queued. -/
def EchoState.pairs (s : EchoState β) : Nat :=
  (s.loop.queue .outEp).length + (s.loop.queue .inEp).length

end UdeSample
