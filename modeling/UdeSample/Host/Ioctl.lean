import UdeSample.IntrState

/-!
# Interrupt messages in the host driver (`ioctl.c`, `interrupt.c`)

The host driver keeps the latest interrupt and a queue of waiting
`IOCTL_OSRUSBFX2_GET_INTERRUPT_MESSAGE` requests. An update from the continuous reader answers all
waiting requests, or is cached when nobody waits; a request takes the cached update, or waits.

As for the device, the calls on `InterruptMsgQueue` and the sections holding `InterruptStatus.sync`
are given on their own first, and then as the handlers compose them.
-/

namespace UdeSample

variable {β F : Type}

def maxCachedIntrUpdates : Nat := 100

/-- The interrupt part of `DEVICE_CONTEXT`. -/
structure HostContext (β F : Type) where
  interruptMsgQueue : WdfQueue β
  interruptStatus : DeviceIntrState maxCachedIntrUpdates F
deriving DecidableEq

/-- After `OsrFxEvtDeviceAdd`; the framework itself completes canceled requests. -/
def hostContextCreated [Zero F] : HostContext β F :=
  { interruptMsgQueue := wdfIoQueueCreated .wdfRequest, interruptStatus := .cleared }

def osrCompleteInterruptRequest (request : WdfRequest β) (readerStatus : NTSTATUS)
    (newDeviceFlags : F) (o : NtResult Unit) : Completion β F :=
  match wdfRequestRetrieveBuffer request sizeofDeviceIntrFlags o with
  | .error e => completeRequest .wdfRequest request e.status sizeofDeviceIntrFlags
  | .ok _ =>
    if ntSuccess readerStatus then
      { request, api := .wdfRequest, status := readerStatus, information := sizeofDeviceIntrFlags
        data := .flags newDeviceFlags }
    else completeRequest .wdfRequest request readerStatus 0

/-! ## `IOCTL_OSRUSBFX2_GET_INTERRUPT_MESSAGE` -/

/-- First section, holding the lock: take the cached update and clear it, if it is unread. -/
def osrTakeUpdate [Zero F] (host : HostContext β F) : Option F × HostContext β F :=
  if host.interruptStatus.numUnreadUpdates > 0 then
    (some host.interruptStatus.latestStatus, { host with interruptStatus := .cleared })
  else (none, host)

/-- Second section of a request that found no update: let it wait. -/
def osrDeferRequest (forward : ForwardOutcome) (request : WdfRequest β) (host : HostContext β F) :
    HostContext β F × List (Completion β F) :=
  match wdfRequestForwardToIoQueue request host.interruptMsgQueue forward with
  | .ok interruptMsgQueue => ({ host with interruptMsgQueue }, [])
  | .error e => (host, [completeRequest .wdfRequest request e.status 0])

/-- The request as `OsrFxEvtIoDeviceControl` handles it. -/
def osrGetInterruptMessage [Zero F] (request : WdfRequest β) (retrieve : NtResult Unit)
    (forward : ForwardOutcome) (host : HostContext β F) :
    HostContext β F × List (Completion β F) :=
  match osrTakeUpdate host with
  | (some newData, host) =>
    (host, [osrCompleteInterruptRequest request statusSuccess newData retrieve])
  | (none, host) => osrDeferRequest forward request host

/-! ## `OsrUsbIoctlGetInterruptMessage` -/

/-- First section: take the next waiting request, if there is one. -/
def osrTakeWaiter (host : HostContext β F) : Option (WdfRequest β × HostContext β F) :=
  (wdfIoQueueRetrieveNextRequest host.interruptMsgQueue).map fun (request, interruptMsgQueue) =>
    (request, { host with interruptMsgQueue })

/-- Second section, holding the lock; `waiter` says whether the first one took a request. -/
def osrUpdateStatus [Zero F] (waiter : Bool) (readerStatus : NTSTATUS) (newDeviceFlags : F)
    (interruptStatus : DeviceIntrState maxCachedIntrUpdates F) :
    DeviceIntrState maxCachedIntrUpdates F :=
  if ntSuccess readerStatus then
    if waiter then .cleared else interruptStatus.cache newDeviceFlags
  else if readerStatus ≠ statusCancelled then .cleared
  else interruptStatus

/-- The loop that empties the queue from the request on that was taken last. Its second `while`
tests for success right after the first one ended on a failure and does nothing. The bound is the
number of waiting requests. -/
def osrDrain (complete : WdfRequest β → Completion β F) :
    Nat → WdfRequest β → WdfQueue β → WdfQueue β × List (Completion β F)
  | 0, request, queue => (queue, [complete request])
  | n + 1, request, queue =>
    match wdfIoQueueRetrieveNextRequest queue with
    | none => (queue, [complete request])
    | some (next, queue) =>
      let (queue, completions) := osrDrain complete n next queue
      (queue, complete request :: completions)

/-- `OsrUsbIoctlGetInterruptMessage`; `retrieve` is what the framework answers for the buffer of
each waiting request. -/
def osrUsbIoctlGetInterruptMessage [Zero F] (readerStatus : NTSTATUS) (newDeviceFlags : F)
    (retrieve : WdfRequest β → NtResult Unit) (host : HostContext β F) :
    HostContext β F × List (Completion β F) :=
  match osrTakeWaiter host with
  | none =>
    ({ host with
        interruptStatus := osrUpdateStatus false readerStatus newDeviceFlags host.interruptStatus },
      [])
  | some (request, host) =>
    let (interruptMsgQueue, completions) :=
      osrDrain (fun r => osrCompleteInterruptRequest r readerStatus newDeviceFlags (retrieve r))
        host.interruptMsgQueue.requests.length request host.interruptMsgQueue
    ({ interruptMsgQueue
       interruptStatus := osrUpdateStatus true readerStatus newDeviceFlags host.interruptStatus },
      completions)

/-- `OsrFxEvtUsbInterruptPipeReadComplete`; a zero-length read is ignored. -/
def osrFxEvtUsbInterruptPipeReadComplete [Zero F] (numBytesTransferred : Nat) (newFlags : F)
    (retrieve : WdfRequest β → NtResult Unit) (host : HostContext β F) :
    HostContext β F × List (Completion β F) :=
  if numBytesTransferred = 0 then (host, [])
  else osrUsbIoctlGetInterruptMessage statusSuccess newFlags retrieve host

def osrFxEvtUsbInterruptReadersFailed [Zero F] (status : NTSTATUS)
    (retrieve : WdfRequest β → NtResult Unit) (host : HostContext β F) :
    HostContext β F × List (Completion β F) :=
  osrUsbIoctlGetInterruptMessage status 0 retrieve host

theorem osrDrain_eq (complete : WdfRequest β → Completion β F) (queue : WdfQueue β)
    (hd : queue.dispatching = true) (request : WdfRequest β) :
    osrDrain complete queue.requests.length request queue =
      ({ queue with requests := [] }, (request :: queue.requests).map complete) := by
  obtain ⟨rs, acc, dis, api⟩ := queue
  obtain rfl : dis = true := hd
  induction rs generalizing request with
  | nil => rfl
  | cons next rs ih =>
    simp only [List.length_cons, osrDrain, wdfIoQueueRetrieveNextRequest, if_true]
    rw [ih next]
    rfl

theorem osrUsbIoctlGetInterruptMessage_waiting [Zero F] {readerStatus : NTSTATUS} {v : F}
    {retrieve : WdfRequest β → NtResult Unit} {host : HostContext β F}
    (hd : host.interruptMsgQueue.dispatching = true)
    (hne : host.interruptMsgQueue.requests ≠ []) :
    osrUsbIoctlGetInterruptMessage readerStatus v retrieve host =
      ({ interruptMsgQueue := { host.interruptMsgQueue with requests := [] }
         interruptStatus := osrUpdateStatus true readerStatus v host.interruptStatus },
        host.interruptMsgQueue.requests.map fun r =>
          osrCompleteInterruptRequest r readerStatus v (retrieve r)) := by
  obtain ⟨⟨rs, acc, dis, api⟩, st⟩ := host
  obtain rfl : dis = true := hd
  obtain ⟨request, rs, rfl⟩ := List.exists_cons_of_ne_nil hne
  simp only [osrUsbIoctlGetInterruptMessage, osrTakeWaiter, wdfIoQueueRetrieveNextRequest, if_true,
    Option.map_some]
  have hdrain := osrDrain_eq
    (fun r => osrCompleteInterruptRequest r readerStatus v (retrieve r))
    ⟨rs, acc, true, api⟩ rfl request
  simp only at hdrain
  rw [hdrain]

theorem osrUsbIoctlGetInterruptMessage_idle [Zero F] {readerStatus : NTSTATUS} {v : F}
    {retrieve : WdfRequest β → NtResult Unit} {host : HostContext β F}
    (hnil : host.interruptMsgQueue.requests = []) :
    osrUsbIoctlGetInterruptMessage readerStatus v retrieve host =
      ({ host with
          interruptStatus := osrUpdateStatus false readerStatus v host.interruptStatus }, []) := by
  have htake : osrTakeWaiter host = none := by
    simp [osrTakeWaiter, wdfIoQueueRetrieveNextRequest, hnil]
  simp only [osrUsbIoctlGetInterruptMessage, htake]

end UdeSample
