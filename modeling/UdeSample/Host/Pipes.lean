import UdeSample.Host.BulkRwr
import UdeSample.Lib.Run
import Mathlib.Logic.Function.Basic

/-!
# The pipes of the host driver

`ResetDevice` (`ioctl.c`) stops all pipes, resets the port and starts the pipes again, under
`ResetDeviceWaitLock`. Reads and writes of applications are pending at the bulk pipes meanwhile
(`bulkrwr.c`), and going to D0 and leaving it starts and stops the interrupt pipe (`Device.c`).

The default queue is power managed and has no `EvtIoStop`: an I/O control comes in D0, and the
framework waits for it before it calls `OsrFxEvtDeviceD0Exit`. The queues of the reads and of the
writes are sequential, and the framework waits until the request of each is acknowledged or
completed. It starts the bulk pipes when it makes them, but not the interrupt pipe, which has a
continuous reader.
-/

namespace UdeSample

open Lib

variable {β : Type}

/-! ## State -/

inductive HostPipe where
  | interrupt
  | bulkRead
  | bulkWrite
deriving DecidableEq

/-- The I/O target of a pipe. -/
structure IoTarget (β : Type) where
  started : Bool
  /-- the request that was sent to it; the reads of the continuous reader are the framework's -/
  pending : Option (WdfRequest β)
  acknowledged : Bool

/-- What a call of `ResetDevice` does next. -/
inductive ResetPlace where
  | acquire
  | stopAllPipes (pipe : HostPipe)
  | resetPort
  | startAllPipes (pipe : HostPipe)
  | release (status : NTSTATUS)

structure ResetCall (β : Type) where
  request : WdfRequest β
  place : ResetPlace

inductive HostPower where
  | off
  | d0
  /-- `OsrFxEvtDeviceD0Entry` has failed, and the device is removed. -/
  | failed
deriving DecidableEq

structure HostPipes (β : Type) where
  targets : HostPipe → IoTarget β
  resetDeviceWaitLock : Bool
  resets : List (ResetCall β)
  power : HostPower

def hostPipesInit : HostPipes β :=
  { targets := fun pipe => ⟨pipe != .interrupt, none, false⟩
    resetDeviceWaitLock := false
    resets := []
    power := .off }

inductive PipeRecord (β : Type) where
  | dispatched (request : WdfRequest β)
  | completed (c : Completion β ULONG)
  /-- `ResetDeviceWaitLock`, by a `ResetDevice` that returns this status -/
  | released (status : NTSTATUS)

/-- What the framework answers: the result of the call, and how the pipe completes what is pending
when it is stopped. -/
structure PipeOutcome where
  result : NtResult Unit
  status : NTSTATUS
  length : Nat

/-! ## I/O targets -/

def HostPipes.setTarget (s : HostPipes β) (pipe : HostPipe) (target : IoTarget β) : HostPipes β :=
  { s with targets := Function.update s.targets pipe target }

/-- The pipe completes the request. -/
def HostPipes.completePending (s : HostPipes β) (pipe : HostPipe) (status : NTSTATUS)
    (length : Nat) : HostPipes β × List (PipeRecord β) :=
  match (s.targets pipe).pending with
  | none => (s, [])
  | some request =>
    (s.setTarget pipe { s.targets pipe with pending := none },
      [.completed (evtRequestCompletionRoutine
        (completeRequest .udecxUrb request status length))])

/-- `WdfIoTargetStop` with `WdfIoTargetCancelSentIo`, which returns when nothing is pending. -/
def HostPipes.stop (s : HostPipes β) (pipe : HostPipe) (o : PipeOutcome) :
    HostPipes β × List (PipeRecord β) :=
  let (s, out) := s.completePending pipe o.status o.length
  (s.setTarget pipe { s.targets pipe with started := false }, out)

/-- `WdfIoTargetStart`. -/
def HostPipes.start (s : HostPipes β) (pipe : HostPipe) : HostPipes β :=
  s.setTarget pipe { s.targets pipe with started := true }

/-! ## `ResetDevice` -/

/-- The order of `StopAllPipes` and `StartAllPipes`. -/
def HostPipe.next : HostPipe → Option HostPipe
  | .interrupt => some .bulkRead
  | .bulkRead => some .bulkWrite
  | .bulkWrite => none

/-- One call that `ResetDevice` makes; the result is where it is then, if it has not returned. -/
def resetDeviceNext (request : WdfRequest β) (o : PipeOutcome) (s : HostPipes β) :
    ResetPlace → Option (HostPipes β × Option ResetPlace × List (PipeRecord β))
  | .acquire =>
    match o.result with
    | .error e => some (s, none, [.completed (completeRequest .wdfRequest request e.status 0)])
    | .ok () =>
      if s.resetDeviceWaitLock then none
      else some ({ s with resetDeviceWaitLock := true }, some (.stopAllPipes .interrupt), [])
  | .stopAllPipes pipe =>
    let (s, out) := s.stop pipe o
    some (s, some (pipe.next.elim .resetPort .stopAllPipes), out)
  -- The status is traced and overwritten.
  | .resetPort => some (s, some (.startAllPipes .interrupt), [])
  | .startAllPipes pipe =>
    match o.result with
    | .error e => some (s, some (.release e.status), [])
    | .ok () =>
      some (s.start pipe, some (pipe.next.elim (.release statusSuccess) .startAllPipes), [])
  | .release status =>
    some ({ s with resetDeviceWaitLock := false }, none,
      [.released status, .completed (completeRequest .wdfRequest request status 0)])

/-! ## The other callbacks -/

/-- `OsrFxEvtIoRead` and `OsrFxEvtIoWrite` at their pipe. -/
def HostPipes.send (s : HostPipes β) (pipe : HostPipe) (request : WdfRequest β) :
    Except (Completion β ULONG) (WdfRequest β) → HostPipes β × List (PipeRecord β)
  | .error c => (s, [.dispatched request, .completed c])
  | .ok request' =>
    (s.setTarget pipe
      { s.targets pipe with pending := some request', acknowledged := false },
      [.dispatched request])

/-- `WDF_REQUEST_STOP_ACTION_FLAGS`. -/
structure StopFlags where
  suspend : Bool
  purge : Bool

def osrFxEvtIoStop (flags : StopFlags) (target : IoTarget β) : IoTarget β :=
  if flags.suspend then { target with acknowledged := true }
  -- With `purge` the request is cancelled, and the pipe completes it later.
  else target

def osrFxEvtDeviceD0Entry (o : NtResult Unit) (s : HostPipes β) : HostPipes β :=
  match o with
  -- Nothing can fail after the pipe is started, so there is nothing to stop.
  | .error _ => { s with power := .failed }
  | .ok () => { s.start .interrupt with power := .d0 }

def osrFxEvtDeviceD0Exit (o : PipeOutcome) (s : HostPipes β) :
    HostPipes β × List (PipeRecord β) :=
  let (s, out) := s.stop .interrupt o
  ({ s with power := .off }, out)

/-! ## Runs -/

inductive PipesEvent (β : Type) where
  | read (request : WdfRequest β) (o : NtResult Unit)
  | write (request : WdfRequest β) (o : NtResult Unit)
  | transferred (pipe : HostPipe) (status : NTSTATUS) (length : Nat)
  | ioStop (pipe : HostPipe) (flags : StopFlags)
  /-- `IOCTL_OSRUSBFX2_RESET_DEVICE` -/
  | resetDevice (request : WdfRequest β)
  | resetNext (i : Nat) (o : PipeOutcome)
  | d0Entry (o : NtResult Unit)
  | d0Exit (o : PipeOutcome)

/-- The framework does not wait for the request of the pipe. -/
def IoTarget.quiet (target : IoTarget β) : Bool := target.pending.isNone || target.acknowledged

def HostPipes.accepts (s : HostPipes β) : PipesEvent β → Bool
  | .read _ _ => s.power = .d0 ∧ (s.targets .bulkRead).pending.isNone
  | .write _ _ => s.power = .d0 ∧ (s.targets .bulkWrite).pending.isNone
  | .transferred pipe _ _ => (s.targets pipe).pending.isSome
  | .ioStop pipe _ => s.power = .d0 ∧ (s.targets pipe).pending.isSome
  | .resetDevice _ => s.power = .d0
  | .resetNext _ _ => true
  | .d0Entry _ => s.power = .off
  | .d0Exit _ => s.power = .d0 ∧ s.resets.isEmpty ∧ (s.targets .bulkRead).quiet ∧
    (s.targets .bulkWrite).quiet

def pipesHandle (s : HostPipes β) : PipesEvent β → Option (HostPipes β × List (PipeRecord β))
  | .read request o => some (s.send .bulkRead request (osrFxEvtIoRead request o))
  | .write request o => some (s.send .bulkWrite request (osrFxEvtIoWrite request o))
  | .transferred pipe status length => some (s.completePending pipe status length)
  | .ioStop pipe flags => some (s.setTarget pipe (osrFxEvtIoStop flags (s.targets pipe)), [])
  | .resetDevice request =>
    some ({ s with resets := s.resets ++ [⟨request, .acquire⟩] }, [.dispatched request])
  | .resetNext i o =>
    s.resets[i]?.bind fun c => (resetDeviceNext c.request o s c.place).map fun
      | (s, none, out) => ({ s with resets := s.resets.eraseIdx i }, out)
      | (s, some place, out) => ({ s with resets := s.resets.set i ⟨c.request, place⟩ }, out)
  | .d0Entry o => some (osrFxEvtDeviceD0Entry o s, [])
  | .d0Exit o => some (osrFxEvtDeviceD0Exit o s)

def pipesStep (s : HostPipes β) (e : PipesEvent β) : Option (HostPipes β × List (PipeRecord β)) :=
  if s.accepts e then pipesHandle s e else none

def pipesRun (t : List (PipesEvent β)) : Option (HostPipes β × List (PipeRecord β)) :=
  run (logged pipesStep) (hostPipesInit, []) t

end UdeSample
