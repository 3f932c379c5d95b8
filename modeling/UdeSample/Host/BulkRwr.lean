import UdeSample.Wdf

/-!
# Bulk reads and writes in the host driver (`bulkrwr.c`)

A request of an application goes to the pipe with its own buffer, so request and URB are one here.
The completion routines hand on the status and the length of the URB.
-/

namespace UdeSample

variable {β F : Type}

def testBoardTransferBufferSize : Nat := 64 * 1024

/-- The body `OsrFxEvtIoRead` and `OsrFxEvtIoWrite` share: the URB to send to the pipe, or the
request completed with an error. `o` is what retrieving, formatting and sending answer. -/
def osrSendToPipe (request : WdfRequest β) (o : NtResult Unit) :
    Except (Completion β F) (WdfRequest β) :=
  if request.buffer.length > testBoardTransferBufferSize then
    .error (completeRequest .wdfRequest request statusInvalidParameter 0)
  else
    match o with
    | .error e => .error (completeRequest .wdfRequest request e.status 0)
    | .ok () => .ok request

/-- `OsrFxEvtIoRead`, on `BulkReadPipe`. -/
def osrFxEvtIoRead (request : WdfRequest β) (o : NtResult Unit) :
    Except (Completion β F) (WdfRequest β) :=
  osrSendToPipe request o

/-- `OsrFxEvtIoWrite`, on `BulkWritePipe`. -/
def osrFxEvtIoWrite (request : WdfRequest β) (o : NtResult Unit) :
    Except (Completion β F) (WdfRequest β) :=
  osrSendToPipe request o

/-- `EvtRequestReadCompletionRoutine`, `EvtRequestWriteCompletionRoutine`. -/
def evtRequestCompletionRoutine (urb : Completion β F) : Completion β F :=
  { urb with api := .wdfRequest }

theorem osrSendToPipe_cases (request : WdfRequest β) (o : NtResult Unit) :
    (osrSendToPipe request o : Except (Completion β F) (WdfRequest β)) = .ok request ∨
      ∃ status, ntSuccess status = false ∧
        (osrSendToPipe request o : Except (Completion β F) (WdfRequest β)) =
          .error (completeRequest .wdfRequest request status 0) := by
  unfold osrSendToPipe
  split
  · exact Or.inr ⟨_, rfl, rfl⟩
  · cases o with
    | error e => exact Or.inr ⟨_, e.failed, rfl⟩
    | ok => exact Or.inl rfl

end UdeSample
