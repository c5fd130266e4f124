import NestedRows.Query.Statement
/-!
# From flat rows to nested objects

A statement answers with flat rows. The rows of a lower statement are grouped by the value that they
match in, and an object is made of a row of the upper statement by looking up the groups of its own
keys. Values match if they have the same JSON text; null matches nothing.
-/

namespace NestedRows

/-- A row of a statement: values by the names of its columns. -/
abbrev Row := List (String × Json)

/-- The value of a column; a column may be missing. -/
def Row.get? (row : Row) (column : String) : Option Json := row.lookup column

abbrev Groups := SortedMap String (List Json)

/-- The key of a value: its text, and nothing for null. -/
def keyOf : Json → Option String
  | .null => none
  | v => some v.render

/-- The key of a row in a column; none if the column is null or missing. -/
def Row.key? (row : Row) (column : String) : Option String := (row.get? column).bind keyOf

/-- The values that do not repeat the key of an earlier one or of `seen`. Null has no key and is
left out. -/
def distinctValues (seen : List String) : List Json → List Json
  | [] => []
  | v :: rest =>
    match keyOf v with
    | none => distinctValues seen rest
    | some k =>
      if seen.contains k then distinctValues seen rest else v :: distinctValues (k :: seen) rest

/-- The distinct values of a column that can stand in a statement, in the order of the rows. -/
def distinctKeys (rows : List Row) (column : String) : List Sql.Literal :=
  (distinctValues [] (rows.filterMap (·.get? column))).filterMap Sql.Literal.ofJson?

/-- Adds an object to the group of its key. -/
def addToGroup (groups : Groups) : Option String × Json → Groups
  | (none, _) => groups
  | (some k, v) => groups.insert k ((groups.get? k).getD [] ++ [v])

/-- Groups objects by their keys, in order; what has no key is dropped. -/
def group (rows : List (Option String × Json)) : Groups := rows.foldl addToGroup ∅

mutual

/-- The field that a component makes of a row. `subs` holds the groups of the lower statements by
slot. -/
def Component.assemble (row : Row) (subs : List Groups) : Component → String × Json
  | .row field column => (field, (row.get? column).getD .null)
  | .one field presence children =>
    match row.get? presence with
    | none | some .null => (field, .null)
    | some _ => (field, .sortedObj (assembleFields row subs children))
  | .many field parentKey slot _ _ =>
    let items := do
      let k ← row.key? parentKey
      let groups ← subs[slot]?
      groups.get? k
    (field, .arr (items.getD []))

/-- The fields that the components make of a row, in order. -/
def assembleFields (row : Row) (subs : List Groups) : List Component → List (String × Json)
  | [] => []
  | c :: rest => c.assemble row subs :: assembleFields row subs rest

end

/-- The object that components make of a row. A field selected twice is there once. -/
def assemble (components : List Component) (row : Row) (subs : List Groups) : Json :=
  .sortedObj (assembleFields row subs components)

/-- The objects that a statement makes of its rows, each with the key that the statement above finds
it by. -/
def Statement.assembleAll (s : Statement) (rows : List Row) (subs : List Groups) :
    List (Option String × Json) :=
  rows.map fun row => (s.fetch.filter.bind fun c => row.key? c.name, assemble s.components row subs)

end NestedRows
