import NestedRows.Front.Basic
import NestedRows.Query.Flight
import NestedRows.Query.Response
import NestedRows.Selection.Parser
/-!
# Requests

A request waits for a snapshot if none has been published yet. It loads the current one once,
compiles its selection against it, and runs to the end of its fetches.
-/

namespace NestedRows

/-- A request. -/
inductive Request where
  /-- No snapshot has been loaded yet. -/
  | waiting (selection : Selection)
  /-- The query is running; its answer goes under the name of the outermost field. -/
  | running (root : String) (flight : Flight)
  | answered (response : Response)

namespace Request

variable {σ : Type}

/-- The request after a look at its run. -/
def follow (root : String) : Except QueryError Flight → Request
  | .error e => answered (.ofError e)
  | .ok flight =>
    match flight.rows? with
    | some rows => answered (.ofRows root rows)
    | none => running root flight

/-- The next step of a request; none while it has to wait, and none once it is answered. -/
def step? (source : DeferredSource σ) (d : Dialect) (f : Front) (r : Request) (state : σ) :
    Option (Request × σ) :=
  match r with
  | waiting selection =>
    match f.current with
    | none => none
    | some snapshot =>
      match snapshot.prepare selection with
      | .error e => some (answered (.ofError e), state)
      | .ok q =>
        let (flight, state) := q.launch source d state
        some (follow selection.name flight, state)
  | running root flight =>
    if flight.canAdvance source state then
      let (flight, state) := flight.advance source d state
      some (follow root flight, state)
    else none
  | answered _ => none

def ofSelection (s : Selection) : Request := waiting s

/-- The request of a selection in its text form. -/
def ofText (t : String) : Request :=
  match Selection.parse? t with
  | some s => waiting s
  | none => answered (.ofError (.malformedSelection .unreadable))

def tickets : Request → List Ticket
  | running _ flight => flight.tickets
  | waiting _ | answered _ => []

def response? : Request → Option Response
  | answered r => some r
  | _ => none

end Request

end NestedRows
