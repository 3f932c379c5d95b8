import UdeSample.Device.Misc
import UdeSample.IntrState

/-!
# Endpoint handlers (`USBCom.c`)

The handlers of the four endpoint queues, the interrupt path from `Io_RaiseInterrupt` to the
interrupt URBs, and what the power callbacks do to the deferred URBs. A handler takes the state it
uses and returns it with the effects of the call.

Two sections of the interrupt path are given on their own, since other calls may step between them:
the look at the deferred queue or at the cached update, and what follows from it.
-/

namespace UdeSample

variable {β F : Type}

/-- What the framework answers during one call of a handler. -/
structure Outcomes where
  /-- retrieving the buffer, or the setup packet, of the request itself -/
  retrieve : NtResult Unit
  /-- whether the pool has room for the copy of a write -/
  alloc : Bool
  /-- retrieving the buffer of a parked request taken out of its queue -/
  retrieveParked : NtResult Unit
  forward : ForwardOutcome
  /-- what `transferBufferLength` holds in `BackChannelEvtWrite` when nothing was assigned to it -/
  unassignedLength : Nat

def outcomesOk : Outcomes :=
  ⟨.ok (), true, .ok (), ⟨false, ⟨statusCancelled, statusCancelled_failed⟩⟩, 0⟩

/-! ## Control endpoint -/

def ioEvtControlUrb (ioControlCode : ULONG) (request : WdfRequest β) (o : Outcomes) :
    List (Effect β F) :=
  if ioControlCode = ioctlInternalUsbSubmitUrb then
    match o.retrieve with
    | .error e => [.complete (completeRequest .udecxUrb request e.status 0)]
    | .ok () => [.complete (completeRequest .udecxUrb request statusSuccess 0)]
  else []

/-! ## Writes and reads of a mission channel

The bulk handlers and the back-channel handlers have these two parts in common. -/

/-- A parked read answered with the buffer of a write: its completion, and the status that is also
the one of the write. -/
def completeMatchingRead (api : CompletionApi) (matchingRead : WdfRequest β)
    (retrieved : NtResult (List β)) (transferBuffer : List β) : NTSTATUS × Completion β F :=
  match retrieved with
  | .error e => (e.status, completeRequest api matchingRead e.status 0)
  | .ok rbuffer =>
    let completeBytes := minLen rbuffer.length transferBuffer.length
    (statusSuccess,
      { request := matchingRead, api, status := statusSuccess, information := completeBytes
        data := .bytes (transferBuffer.take completeBytes) })

/-- A write from its retrieved buffer on: pushed, the matching read answered, and completed. -/
def pushAndComplete (api readApi : CompletionApi)
    (retrieveRead : WdfRequest β → NtResult (List β)) (alloc : Bool) (request : WdfRequest β)
    (transferBuffer : List β) (pQ : WRQueue β) : WRQueue β × List (Effect β F) :=
  match wrQueuePushWrite alloc transferBuffer pQ with
  | (_, some matchingRead, pQ) =>
    let (status, c) := completeMatchingRead readApi matchingRead (retrieveRead matchingRead)
      transferBuffer
    (pQ, [.complete c, .complete (completeRequest api request status transferBuffer.length)])
  | (status, none, pQ) =>
    (pQ, [.complete (completeRequest api request status transferBuffer.length)])

/-- A read from its retrieved buffer on: pulled, and completed if it is ready. -/
def pullAndComplete (api : CompletionApi) (forward : ForwardOutcome) (request : WdfRequest β)
    (transferBuffer : List β) (pQ : WRQueue β) : WRQueue β × List (Effect β F) :=
  let (answer, pQ) := wrQueuePullRead forward request (some transferBuffer) pQ
  if answer.readyToComplete then
    (pQ, [.complete { request, api, status := answer.status, information := answer.completedBytes
                      data := .bytes answer.copied }])
  else (pQ, [])

def ioEvtBulkOutUrb (ioControlCode : ULONG) (request : WdfRequest β) (o : Outcomes)
    (missionRequest : WRQueue β) : WRQueue β × List (Effect β F) :=
  if ioControlCode ≠ ioctlInternalUsbSubmitUrb then
    (missionRequest, [.complete (completeRequest .udecxUrb request statusInvalidParameter 0)])
  else
    match udecxUrbRetrieveBuffer request o.retrieve with
    | .error e => (missionRequest, [.complete (completeRequest .udecxUrb request e.status 0)])
    | .ok transferBuffer =>
      -- the matching read is a back-channel read, not a USB read
      pushAndComplete .udecxUrb .wdfRequest (wdfRequestRetrieveBuffer · 1 o.retrieveParked) o.alloc
        request transferBuffer missionRequest

/-- `IoEvtBulkInUrb`: the early exits complete nothing. -/
def ioEvtBulkInUrb (ioControlCode : ULONG) (request : WdfRequest β) (o : Outcomes)
    (missionCompletion : WRQueue β) : WRQueue β × List (Effect β F) :=
  if ioControlCode ≠ ioctlInternalUsbSubmitUrb then (missionCompletion, [])
  else
    match udecxUrbRetrieveBuffer request o.retrieve with
    | .error _ => (missionCompletion, [])
    | .ok transferBuffer =>
      pullAndComplete .udecxUrb o.forward request transferBuffer missionCompletion

/-! ## Interrupt endpoint -/

def intrStateMaxCachedUpdates : Nat := 100

/-- `IO_CONTEXT`, without the four endpoint queues, which the framework dispatches. -/
structure IoContext (β F : Type) where
  intrDeferredQueue : WdfQueue β
  bStopping : Bool
  intrState : DeviceIntrState intrStateMaxCachedUpdates F
deriving DecidableEq

/-- The context once `Io_CreateDeferredIntrQueue` has succeeded; deferred URBs are canceled by
`IoEvtCancelInterruptInUrb`. -/
def ioContextCreated [Zero F] : IoContext β F :=
  { intrDeferredQueue := wdfIoQueueCreated .udecxUrb, bStopping := false, intrState := .cleared }

def ioCompletePendingRequest (request : WdfRequest β) (latestStatus : F) (o : NtResult Unit) :
    Completion β F :=
  match udecxUrbRetrieveBuffer request o with
  | .error e => completeRequest .udecxUrb request e.status 0
  | .ok transferBuffer =>
    if transferBuffer.length ≠ sizeofDeviceIntrFlags then
      completeRequest .udecxUrb request statusInvalidBlockLength 0
    else
      { request, api := .udecxUrb, status := statusSuccess, information := transferBuffer.length
        data := .flags latestStatus }

/-- First section of a raise: take the next deferred URB, if there is one. -/
def ioTakeDeferred (io : IoContext β F) : Option (WdfRequest β × IoContext β F) :=
  (wdfIoQueueRetrieveNextRequest io.intrDeferredQueue).map fun (request, intrDeferredQueue) =>
    (request, { io with intrDeferredQueue })

/-- Second section of a raise that found no URB, holding the lock: cache the update. -/
def ioCacheUpdate (latestStatus : F) (io : IoContext β F) : IoContext β F :=
  { io with intrState := io.intrState.cache latestStatus }

/-- First section of an interrupt URB, holding the lock: take the cached update and clear it. -/
def ioTakeUpdate [Zero F] (io : IoContext β F) : Option F × IoContext β F :=
  (if io.intrState.numUnreadUpdates > 0 then some io.intrState.latestStatus else none,
    { io with intrState := .cleared })

/-- Second section of an interrupt URB that found no update: defer it. -/
def ioDeferUrb (forward : ForwardOutcome) (request : WdfRequest β) (io : IoContext β F) :
    IoContext β F × List (Effect β F) :=
  match wdfRequestForwardToIoQueue request io.intrDeferredQueue forward with
  | .ok intrDeferredQueue => ({ io with intrDeferredQueue }, [])
  | .error e => (io, [.complete (completeRequest .udecxUrb request e.status 0)])

/-- `Io_RaiseInterrupt`; the wake is signaled when no URB took the update. -/
def ioRaiseInterrupt (latestStatus : F) (o : Outcomes) (io : IoContext β F) :
    NTSTATUS × IoContext β F × List (Effect β F) :=
  match ioTakeDeferred io with
  | none => (statusSuccess, ioCacheUpdate latestStatus io, [.signalWake])
  | some (request, io) =>
    (statusSuccess, io,
      [.complete (ioCompletePendingRequest request latestStatus o.retrieveParked)])

/-- `IoEvtInterruptInUrb`; an unexpected control code completes nothing. -/
def ioEvtInterruptInUrb [Zero F] (ioControlCode : ULONG) (request : WdfRequest β) (o : Outcomes)
    (io : IoContext β F) : IoContext β F × List (Effect β F) :=
  if ioControlCode ≠ ioctlInternalUsbSubmitUrb then (io, [])
  else
    match ioTakeUpdate io with
    | (some latestStatus, io) =>
      (io, [.complete (ioCompletePendingRequest request latestStatus o.retrieve)])
    | (none, io) => ioDeferUrb o.forward request io

/-- `Io_DeviceSlept`: the deferred URBs go to the cancel callback, in order. -/
def ioDeviceSlept (io : IoContext β F) : IoContext β F × List (Effect β F) :=
  let (requests, intrDeferredQueue) := wdfIoQueuePurge io.intrDeferredQueue
  ({ io with intrDeferredQueue },
    requests.map fun request => .complete (io.intrDeferredQueue.canceled request))

def ioDeviceWokeUp (io : IoContext β F) : IoContext β F :=
  { io with intrDeferredQueue := wdfIoQueueStart io.intrDeferredQueue }

/-- `Io_StopDeferredProcessing`; the copy it makes of the context is the result. -/
def ioStopDeferredProcessing (io : IoContext β F) : IoContext β F × List (Effect β F) :=
  ioDeviceSlept { io with bStopping := true }

end UdeSample
