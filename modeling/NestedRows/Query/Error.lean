import NestedRows.Json.Reader
/-!
# Errors of one request

What can go wrong between a selection and its rows. An error belongs to the request, or to the one
refetch of a live query, that met it. A source that is short of connections is worth another try.
-/

namespace NestedRows

/-- What a database driver reports. -/
inductive DriverError where
  /-- No connection became free in time. -/
  | poolTimedOut
  /-- A column does not hold what was asked for. -/
  | columnDecode (column message : String)
  /-- The database sent something that makes no sense. -/
  | protocol (message : String)
  deriving DecidableEq

def DriverError.message : DriverError → String
  | poolTimedOut => "pool timed out while waiting for an open connection"
  | columnDecode column message =>
    "error occurred while decoding column \"" ++ column ++ "\": " ++ message
  | protocol message => "encountered unexpected or invalid data: " ++ message

/-- Why a selection cannot be answered whatever the tables are. -/
inductive Malformation where
  /-- The text is no selection. -/
  | unreadable
  /-- Nothing is selected of the rows that a field leads to. -/
  | needsFields (field object : String)
  /-- Something is selected below a scalar. -/
  | belowScalar (object field : String)
  /-- A reason given by somebody else. -/
  | other (reason : String)
  deriving DecidableEq

def Malformation.message : Malformation → String
  | unreadable => "the text is no selection"
  | needsFields field object =>
    "field '" ++ field ++ "' of type '" ++ object ++ "' needs a sub-selection"
  | belowScalar object field =>
    "scalar field '" ++ object ++ "." ++ field ++ "' cannot have a sub-selection"
  | other reason => reason

/-- Why a request fails. -/
inductive QueryError where
  /-- No table has the name of the outermost field. -/
  | unknownRoot (name : String)
  | unknownField (object field : String)
  | malformedSelection (reason : Malformation)
  | database (cause : DriverError)
  /-- No connection became free in time. -/
  | poolTimeout
  | decode (column message : String)
  deriving DecidableEq

namespace QueryError

def message : QueryError → String
  | unknownRoot name => "Unknown root field: " ++ name
  | unknownField object field => "Unknown field '" ++ field ++ "' on type '" ++ object ++ "'"
  | malformedSelection reason => "Malformed selection: " ++ reason.message
  | database cause => "Database error: " ++ cause.message
  | poolTimeout => "Timed out waiting for a pooled connection"
  | decode column message => "Failed to decode column '" ++ column ++ "': " ++ message

/-- The name of the error's kind, for clients. -/
def kind : QueryError → String
  | unknownRoot _ => "unknown_root"
  | unknownField _ _ => "unknown_field"
  | malformedSelection _ => "malformed_selection"
  | database _ => "database"
  | poolTimeout => "pool_timeout"
  | decode _ _ => "decode"

/-- Whether the source was short of connections, so that a later try may succeed. -/
def isExhaustion : QueryError → Bool
  | poolTimeout => true
  | database .poolTimedOut => true
  | _ => false

/-- What a driver's report means for the request. -/
def ofDriver : DriverError → QueryError
  | .poolTimedOut => poolTimeout
  | .columnDecode column message => decode column message
  | .protocol message => database (.protocol message)

end QueryError

end NestedRows
