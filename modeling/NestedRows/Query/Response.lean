import NestedRows.Query.Error
/-!
# Responses

What a client gets: the rows under the name of the outermost field, or no data and the error. The
list of errors is written only if there are any.
-/

namespace NestedRows

/-- An error as it is reported to clients. -/
structure ResponseError where
  message : String
  kind : String
  deriving DecidableEq

/-- The answer to one request. -/
structure Response where
  data : Option Json
  errors : List ResponseError := []

def ResponseError.of (e : QueryError) : ResponseError := ⟨e.message, e.kind⟩

namespace Response

/-- The answer of a request that found rows. -/
def ofRows (root : String) (rows : List Json) : Response := ⟨some (.obj [(root, .arr rows)]), []⟩

def ofError (e : QueryError) : Response := ⟨none, [.of e]⟩

def ofResult (root : String) : Except QueryError (List Json) → Response
  | .ok rows => ofRows root rows
  | .error e => ofError e

def isOk (r : Response) : Bool := r.errors.isEmpty

def rows? (r : Response) (root : String) : Option (List Json) := do
  let data ← r.data
  let rows ← data.field? root
  rows.items?

def errorToJson (e : ResponseError) : Json :=
  .obj [("message", .str e.message), ("kind", .str e.kind)]

def toJson (r : Response) : Json :=
  let data : List (String × Json) := [("data", r.data.getD .null)]
  .obj (if r.errors.isEmpty then data else data ++ [("errors", .arr (r.errors.map errorToJson))])

open Json.Document

def errorOfDocument? (depth : Nat) (d : Json.Document) : Option ResponseError := do
  let (_, fields) ← record? [("message", .required), ("kind", .required)] depth d
  match fields with
  | [some message, some kind] => return ⟨← message.text?, ← kind.text?⟩
  | _ => none

def ofDocument? (depth : Nat) (d : Json.Document) : Option Response := do
  let (depth, fields) ← record? [("data", .optional), ("errors", .defaulted)] depth d
  match fields with
  | [data, errors] =>
    let data ← match data with
      | none | some .null => pure none
      | some d => some (← d.value? depth)
    let errors ← match errors with
      | none => pure []
      | some d => list? errorOfDocument? depth d
    return ⟨data, errors⟩
  | _ => none

end Response

end NestedRows
