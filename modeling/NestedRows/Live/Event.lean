import NestedRows.Json.Reader
import NestedRows.Text.Split
/-!
# Change events

An event says that rows of one table were changed. It is published under the topic
`source.namespace.table`, and a live query looks at the table in it.
-/

namespace NestedRows

/-- What happened to the rows of a table. -/
inductive ChangeKind where
  | create
  | update
  | delete
  /-- Existing rows were read for a snapshot. -/
  | read
  deriving DecidableEq

namespace ChangeKind

def toText : ChangeKind → String
  | create => "c"
  | update => "u"
  | delete => "d"
  | read => "r"

def ofText? : String → Option ChangeKind
  | "c" => some create
  | "u" => some update
  | "d" => some delete
  | "r" => some read
  | _ => none

def toJson (k : ChangeKind) : Json := .str k.toText

open Json.Document in
/-- The kind that a document holds: its letter, or an object with the letter as its one name and
null as its value. -/
def ofDocument? : Nat → Json.Document → Option ChangeKind
  | _, d@(string _) => do ofText? (← d.text?)
  | _ + 1, object [(name, null)] => do ofText? (String.ofList (← Json.text? name))
  | _, _ => none

end ChangeKind

/-- A table of a namespace. -/
structure TableId where
  namespaceName : String
  table : String
  deriving DecidableEq

namespace TableId

def toText (t : TableId) : String := t.namespaceName ++ "." ++ t.table

/-- Tables are ordered by namespace, and within a namespace by name. -/
instance : Ord TableId := ⟨compareLex (compareOn namespaceName) (compareOn table)⟩

instance : Std.TransOrd TableId :=
  inferInstanceAs (Std.TransCmp (compareLex (compareOn namespaceName) (compareOn table)))

end TableId

/-- A change of the rows of a table, as a source reports it. -/
structure ChangeEvent where
  source : String
  table : TableId
  kind : ChangeKind
  deriving DecidableEq

def topicName (source : String) (t : TableId) : String := source ++ "." ++ t.toText

namespace ChangeEvent

/-- The topic under which the event is published. -/
def topic (e : ChangeEvent) : String := topicName e.source e.table

def toText (e : ChangeEvent) : String := e.topic ++ " (" ++ e.kind.toText ++ ")"

end ChangeEvent

/-- Why no event can be read. -/
inductive FeedError where
  /-- The payload is no change envelope. -/
  | deserialization
  /-- The name of a topic is not made of three parts, or a payload is about another topic. -/
  | invalidTopic (reason : String)
  /-- The other end of the channel is gone. -/
  | channelClosed
  deriving DecidableEq

def FeedError.message : FeedError → String
  | deserialization => "deserialization error"
  | invalidTopic reason => "invalid topic: " ++ reason
  | channelClosed => "channel closed"

/-- A topic: the source and the table of its events. -/
structure Topic where
  source : String
  table : TableId
  deriving DecidableEq

namespace Topic

def toText (t : Topic) : String := topicName t.source t.table

/-- The topic with the given name: three parts, none of them empty. -/
def parse (s : String) : Except FeedError Topic :=
  match Text.splitAt '.' s.toList with
  | [source, namespaceName, table] =>
    if source.isEmpty || namespaceName.isEmpty || table.isEmpty then .error (.invalidTopic s)
    else .ok ⟨String.ofList source, String.ofList namespaceName, String.ofList table⟩
  | _ => .error (.invalidTopic s)

end Topic

end NestedRows
