import NestedRows.Live.Event
/-!
# Messages of a broker

A broker delivers messages on topics. The payload of a change is a JSON envelope that names the kind
of change and the table once more; it has to agree with the topic it arrived on. A payload of blanks
marks a deleted row and carries no event.
-/

namespace NestedRows

/-- A message as a broker delivers it. -/
structure BrokerMessage where
  topic : String
  payload : Text.Units

namespace BrokerMessage

/-- The blanks that a payload without content may hold. -/
def isBlank : Option Char → Bool
  | some c => c = ' ' || c = '\t' || c = '\n' || c = '\x0c' || c = '\r'
  | none => false

open Json.Document in
/-- The source and table that an envelope names. -/
def originOfDocument? (depth : Nat) (d : Json.Document) : Option (String × TableId) := do
  let (_, fields) ← record? [("name", .required), ("schema", .required), ("table", .required)]
    depth d
  match fields with
  | [some name, some namespaceName, some table] =>
    return (← name.text?, ⟨← namespaceName.text?, ← table.text?⟩)
  | _ => none

open Json.Document in
def eventOfDocument? (depth : Nat) (d : Json.Document) : Option ChangeEvent := do
  let (depth, fields) ← record? [("op", .required), ("source", .required)] depth d
  match fields with
  | [some kind, some origin] =>
    let kind ← ChangeKind.ofDocument? depth kind
    let (source, table) ← originOfDocument? depth origin
    return { source, table, kind }
  | _ => none

/-- The event that a message carries, if it carries one. -/
def decode (m : BrokerMessage) : Except FeedError (Option ChangeEvent) := do
  let topic ← Topic.parse m.topic
  if m.payload.all isBlank then return none
  match (Json.Document.ofUnits? m.payload).bind (eventOfDocument? Json.maxDepth) with
  | none => throw .deserialization
  | some e =>
    if e.source ≠ topic.source ∨ e.table ≠ topic.table then
      throw (.invalidTopic ("payload for " ++ e.topic ++ " arrived on " ++ m.topic))
    else return some e

def envelope (e : ChangeEvent) : Json := .obj [
  ("op", e.kind.toJson),
  ("source", .obj [
    ("name", .str e.source),
    ("schema", .str e.table.namespaceName),
    ("table", .str e.table.table)])]

def payloadText (e : ChangeEvent) : String := (envelope e).render

def encode (e : ChangeEvent) : BrokerMessage := ⟨e.topic, Text.unitsOf (payloadText e)⟩

end BrokerMessage

end NestedRows
