import UdeSample.Device.USBCom

/-!
# Back channel (`BackChannel.c`)

The read, write and control handlers of the controller's default queue. Reads take missions from
`missionRequest`, writes put responses into `missionCompletion`, and the control code
`IOCTL_UDEFX2_GENERATE_INTERRUPT` raises an interrupt on the child device.
-/

namespace UdeSample

variable {β F : Type}

/-- `BackChannelEvtRead`: a failed retrieval completes nothing. -/
def backChannelEvtRead (request : WdfRequest β) (o : Outcomes) (missionRequest : WRQueue β) :
    WRQueue β × List (Effect β F) :=
  match wdfRequestRetrieveBuffer request 1 o.retrieve with
  | .error _ => (missionRequest, [])
  | .ok transferBuffer =>
    pullAndComplete .wdfRequest o.forward request transferBuffer missionRequest

def backChannelEvtWrite (request : WdfRequest β) (o : Outcomes) (missionCompletion : WRQueue β) :
    WRQueue β × List (Effect β F) :=
  match wdfRequestRetrieveBuffer request 1 o.retrieve with
  | .error e =>
    (missionCompletion,
      [.complete (completeRequest .wdfRequest request e.status o.unassignedLength)])
  | .ok transferBuffer =>
    -- the matching read is a USB read
    pushAndComplete .wdfRequest .udecxUrb (udecxUrbRetrieveBuffer · o.retrieveParked) o.alloc
      request transferBuffer missionCompletion

def ioctlIndexUdefx2c : ULONG := 0x900

def fileDeviceUdefx2c : ULONG := 65600

/-- `IOCTL_UDEFX2_GENERATE_INTERRUPT` (`METHOD_BUFFERED`, `FILE_READ_ACCESS`). -/
def ioctlUdefx2GenerateInterrupt : ULONG := ctlCode fileDeviceUdefx2c (ioctlIndexUdefx2c + 5) 0 1

/-- `BackChannelIoctl`: whether the code is handled, and what handling it does. `raiseInterrupt` is
`Io_RaiseInterrupt` on the child device (if that does not return, neither does this), `flagsOf`
reads the flag word out of the input buffer. -/
def backChannelIoctl {σ : Type} (flagsOf : List β → F)
    (raiseInterrupt : F → σ → Option ((NTSTATUS × List (Effect β F)) × σ)) (ioControlCode : ULONG)
    (request : WdfRequest β) (retrieve : NtResult Unit) (s : σ) :
    Option ((Bool × List (Effect β F)) × σ) :=
  if ioControlCode = ioctlUdefx2GenerateInterrupt then
    match wdfRequestRetrieveBuffer request sizeofDeviceIntrFlags retrieve with
    | .error e => some ((true, [.complete (completeRequest .wdfRequest request e.status 0)]), s)
    | .ok pflags =>
      if pflags.length = sizeofDeviceIntrFlags then
        (raiseInterrupt (flagsOf pflags) s).map fun ((status, effects), s) =>
          ((true, effects ++ [.complete (completeRequest .wdfRequest request status 0)]), s)
      else
        some ((true,
          [.complete (completeRequest .wdfRequest request statusInvalidParameter 0)]), s)
  else some ((false, []), s)

end UdeSample
