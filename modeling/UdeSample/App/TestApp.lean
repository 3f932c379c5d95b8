import UdeSample.System.Interrupts
import UdeSample.Device.BackChannel
import UdeSample.Host.BulkRwr
import UdeSample.Lib.CString

/-!
# `AutoBot` and `CommandTrip` (`testapp.c`)

One AutoBot on the back channel, and command trips one after another through the host driver, over
the device and the host driver of the other modules. The calls of the two programs are synchronous:
a program is in the phase of the call it is in, and a call returns when its request is completed.

Nothing in a mission, a response or an interrupt tells which trip it belongs to. To speak about
that, the characters of the model carry the number of their trip; the programs and the drivers copy
the numbers with the characters and never look at them.
-/

namespace UdeSample

open Lib

/-- A character, and the number of the trip it belongs to. -/
structure MissionByte where
  char : UInt8
  trip : Nat
deriving DecidableEq

def ofTrip (trip : Nat) (s : List UInt8) : List MissionByte := s.map fun char => ⟨char, trip⟩

def charsOf (bs : List MissionByte) : List UInt8 := bs.map MissionByte.char

@[simp] theorem charsOf_ofTrip (trip : Nat) (s : List UInt8) : charsOf (ofTrip trip s) = s := by
  simp [charsOf, ofTrip, Function.comp_def]

@[simp] theorem length_ofTrip (trip : Nat) (s : List UInt8) : (ofTrip trip s).length = s.length :=
  List.length_map _

/-- `char buffer[250]`. -/
abbrev TextBuffer := CharBuffer UInt8 249

def missionSucceeded : ULONG := 10

/-- What `strlen(s) + 1` characters of `s` are. -/
def sentString (s : List UInt8) : List UInt8 := cstring s ++ [0]

def Transfer.read {β F : Type} : Transfer β F → List β
  | .bytes bs => bs
  | .none | .flags _ => []

/-! ## `AutoBot` -/

/-- The text AutoBot appends to a mission. -/
def responseSuffix : List UInt8 :=
  ['_', 'r', 'e', 's', 'p', 'o', 'n', 's', 'e'].map fun c => UInt8.ofNat c.toNat

/-- The buffer after a mission was read into it; what the mission leaves of it is older. -/
def autoBotGot (buffer : TextBuffer) (bs : List UInt8) : TextBuffer := (buffer.read bs).terminate

def autoBotWorked (buffer : TextBuffer) : TextBuffer := (buffer.append responseSuffix).terminate

inductive AutoBotPhase where
  | idle
  | reading
  | working (trip : Nat)
  | writing (trip : Nat)
  | stored (trip : Nat)
deriving DecidableEq

structure AutoBot where
  buffer : TextBuffer
  phase : AutoBotPhase
  iteration : Nat

namespace AutoBot

/-- The trip whose mission was read and whose response is not written yet. -/
def mission (bot : AutoBot) : Option Nat :=
  match bot.phase with
  | .working trip | .writing trip => some trip
  | .idle | .reading | .stored _ => none

/-- `ReadFile`. -/
def readRequest (bot : AutoBot) : WdfRequest MissionByte :=
  { id := bot.iteration, source := .read, buffer := ofTrip 0 bot.buffer.chars }

/-- `WriteFile`, of the string in the buffer. -/
def writeRequest (bot : AutoBot) (trip : Nat) : WdfRequest MissionByte :=
  { id := bot.iteration, source := .write, buffer := ofTrip trip (sentString bot.buffer.chars) }

/-- `DeviceIoControl`, with the four bytes of `value`. -/
def notifyRequest (bot : AutoBot) (trip : Nat) : WdfRequest MissionByte :=
  { id := bot.iteration, source := .ioctl, buffer := ofTrip trip [10, 0, 0, 0] }

def next (bot : AutoBot) : AutoBot := { bot with phase := .idle, iteration := bot.iteration + 1 }

def returned (bot : AutoBot) (c : Completion MissionByte ULONG) : AutoBot :=
  match bot.phase with
  | .reading =>
    if c.request = bot.readRequest then
      if ntSuccess c.status then
        { bot with
          buffer := autoBotGot bot.buffer (charsOf c.data.read)
          phase := .working ((c.data.read.head?.map MissionByte.trip).getD 0) }
      else bot.next
    else bot
  | .writing trip =>
    if c.request = bot.writeRequest trip then
      if ntSuccess c.status then { bot with phase := .stored trip } else bot.next
    else bot
  | .idle | .working _ | .stored _ => bot

end AutoBot

/-! ## `CommandTrip` -/

/-- Where a trip is; `closed` is between two trips. -/
inductive TripPhase where
  | closed
  | writing
  | sent
  | waiting
  | notified
  | reading
deriving DecidableEq

structure CommandTrip where
  number : Nat
  commandStr : List UInt8
  buffer : TextBuffer
  phase : TripPhase

/-- What the last `ReadFile` of a trip has read. -/
structure TripResult where
  trip : Nat
  commandStr : List UInt8
  read : List MissionByte
deriving DecidableEq

namespace CommandTrip

/-- `WriteFile`. -/
def writeRequest (trip : CommandTrip) : WdfRequest MissionByte :=
  { id := trip.number, source := .bulkOut
    buffer := ofTrip trip.number (sentString trip.commandStr) }

/-- `DeviceIoControl`, with room for `value`. -/
def getRequest (trip : CommandTrip) : WdfRequest MissionByte :=
  { id := trip.number, source := .ioctl, buffer := ofTrip 0 [0, 0, 0, 0] }

/-- `ReadFile`. -/
def readRequest (trip : CommandTrip) : WdfRequest MissionByte :=
  { id := trip.number, source := .bulkIn, buffer := ofTrip 0 trip.buffer.chars }

def returned (trip : CommandTrip) (c : Completion MissionByte ULONG) :
    CommandTrip × List TripResult :=
  match trip.phase with
  | .writing =>
    if c.request = trip.writeRequest then
      ({ trip with phase := if ntSuccess c.status then .sent else .closed }, [])
    else (trip, [])
  | .reading =>
    if c.request = trip.readRequest then
      ({ trip with phase := .closed },
        if ntSuccess c.status then [⟨trip.number, trip.commandStr, c.data.read⟩] else [])
    else (trip, [])
  | .closed | .sent | .waiting | .notified => (trip, [])

def gotInterrupt (trip : CommandTrip) (c : Completion MissionByte ULONG) : CommandTrip :=
  if trip.phase = .waiting ∧ c.request = trip.getRequest then
    { trip with
      phase :=
        if ntSuccess c.status ∧ c.information = sizeofDeviceIntrFlags ∧
          c.data = .flags missionSucceeded then .notified else .closed }
  else trip

end CommandTrip

/-! ## The two programs over the drivers -/

/-- The drivers, the two programs, and what the trips have read. -/
structure TripSystem where
  interrupts : InterruptSystem MissionByte ULONG
  bot : AutoBot
  trip : CommandTrip
  results : List TripResult

/-- AutoBot before its first iteration, and no trip yet. -/
def tripInit (buffer : TextBuffer) : TripSystem :=
  { interrupts := interruptSystemInit, bot := ⟨buffer, .idle, 0⟩, trip := ⟨0, [], buffer, .closed⟩
    results := [] }

/-- An event: a call of a program, its failure before it reaches a driver, the cancellation of a
parked request, or an interrupt event that is not a request of an application. -/
inductive TripEvent where
  | writeFile (commandStr : List UInt8) (buffer : TextBuffer) (send : NtResult Unit) (o : Outcomes)
  | getInterruptMessage (forward : ForwardOutcome)
  | readFile (send : NtResult Unit) (o : Outcomes)
  | exit
  | botReadFile (o : Outcomes)
  | botWriteFile (o : Outcomes)
  | botNotify (retrieve : NtResult Unit) (o : Outcomes)
  | botContinue
  | cancel (ch : MissionChannel) (i : Nat)
  | interrupt (e : SystemEvent MissionByte ULONG)

namespace TripSystem

/-- A mission or response request was completed; the URBs of the trip pass through the host driver
on their way. -/
def returned (s : TripSystem) (c : Completion MissionByte ULONG) : TripSystem :=
  let (trip, results) := s.trip.returned (evtRequestCompletionRoutine c)
  { s with bot := s.bot.returned c, trip, results := s.results ++ results }

def missionEvent (s : TripSystem) (e : DeviceEvent MissionByte ULONG) : Option TripSystem :=
  (deviceStep s.interrupts.device e).map fun (device, effects) =>
    (completions effects).foldl returned
      { s with interrupts := { s.interrupts with device } }

/-- An event of the interrupt path; new answers go to the trip. -/
def interruptEvent (s : TripSystem) (e : SystemEvent MissionByte ULONG) : Option TripSystem :=
  (systemStep s.interrupts e).map fun interrupts =>
    { s with
      interrupts
      trip := (interrupts.answers.drop s.interrupts.answers.length).foldl
        CommandTrip.gotInterrupt s.trip }

/-- A bulk request of the trip, if the host driver sends it. -/
def sendUrb (s : TripSystem) (urb : Except (Completion MissionByte ULONG) (WdfRequest MissionByte))
    (o : Outcomes) : Option TripSystem :=
  match urb with
  | .error c => some (s.returned c)
  | .ok request => s.missionEvent (.dispatch request ioctlInternalUsbSubmitUrb o)

end TripSystem

def flagsOf (bs : List MissionByte) : ULONG :=
  bs.foldr (fun b acc => (acc <<< 8) ||| b.char.toBitVec.setWidth 32) 0

def tripStep (s : TripSystem) : TripEvent → Option TripSystem
  | .writeFile commandStr buffer send o =>
    if s.trip.phase = .closed then
      let trip := { number := s.trip.number + 1, commandStr, buffer, phase := .writing }
      { s with trip }.sendUrb (osrFxEvtIoWrite trip.writeRequest send) o
    else none
  | .getInterruptMessage forward =>
    if s.trip.phase = .sent then
      { s with trip := { s.trip with phase := .waiting } }.interruptEvent
        (.get s.trip.getRequest forward)
    else none
  | .readFile send o =>
    if s.trip.phase = .notified then
      { s with trip := { s.trip with phase := .reading } }.sendUrb
        (osrFxEvtIoRead s.trip.readRequest send) o
    else none
  | .exit =>
    if s.trip.phase = .sent ∨ s.trip.phase = .notified then
      some { s with trip := { s.trip with phase := .closed } }
    else none
  | .botReadFile o =>
    if s.bot.phase = .idle then
      { s with bot := { s.bot with phase := .reading } }.missionEvent
        (.dispatch s.bot.readRequest 0 o)
    else none
  | .botWriteFile o =>
    match s.bot.phase with
    | .working trip =>
      let bot := { s.bot with buffer := autoBotWorked s.bot.buffer, phase := .writing trip }
      { s with bot }.missionEvent (.dispatch (bot.writeRequest trip) 0 o)
    | _ => none
  | .botNotify retrieve o =>
    match s.bot.phase with
    | .stored trip =>
      (backChannelIoctl flagsOf
        (fun v io =>
          let (status, io, effects) := ioRaiseInterrupt v o io
          some ((status, effects), io))
        ioctlUdefx2GenerateInterrupt (s.bot.notifyRequest trip) retrieve
        s.interrupts.device.io).map fun ((_, effects), io) =>
          { s with
            interrupts := { s.interrupts with
              device := { s.interrupts.device with io }
              inFlight := s.interrupts.inFlight ++
                (completions effects).filter fun c => c.request.source = .interruptIn }
            bot := s.bot.next }
    | _ => none
  | .botContinue =>
    match s.bot.phase with
    | .working _ | .stored _ => some { s with bot := s.bot.next }
    | .idle | .reading | .writing _ => none
  | .cancel ch i => s.missionEvent (.cancel ch.manualQueue i)
  | .interrupt (.get _ _) => none
  | .interrupt e => s.interruptEvent e

def tripRun (buffer : TextBuffer) (t : List TripEvent) : Option TripSystem :=
  run tripStep (tripInit buffer) t

end UdeSample
