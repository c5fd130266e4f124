import NestedRows.Front.Basic
import NestedRows.Selection.Parser
import NestedRows.Settings.Basic
import NestedRows.TypeGraph.Printer
import NestedRows.TypeGraph.Reachable
/-!
# Commands

What the program does when it is called: it reads the descriptions of tables from its input, and
shows the type graph, the tables that can be reached from one, or the statements that a selection
is compiled to.
-/

namespace NestedRows

/-- What is asked for. -/
inductive Command where
  /-- The type graph, or the names of what can be reached from a table. -/
  | schema (root : Option String)
  /-- The statements of a selection. -/
  | explain (selection : String)

/-- A command and the database that it is about. -/
structure Invocation where
  command : Command
  settings : DatabaseSettings := {}

def usage : String := "usage: nestedrows [--driver NAME] [--namespace NAME] COMMAND\n"
  ++ "  schema [--root TABLE]   show the type graph, or the tables reachable from TABLE\n"
  ++ "  explain SELECTION       show the statements for SELECTION\n"
  ++ "The descriptions of the tables are read from standard input, as a JSON array.\n"

/-- What the program shows. -/
structure Outcome where
  output : String := ""
  problem : String := ""
  succeeded : Bool := true

namespace Outcome

/-- The outcome of a call that went well. -/
def success (output : String) : Outcome := { output }

/-- The outcome of a call that went wrong. -/
def failure (problem : String) : Outcome := { problem := problem ++ "\n", succeeded := false }

end Outcome

namespace Invocation

def ofArguments? (settings : DatabaseSettings) : List String → Option Invocation
  | "--driver" :: name :: rest => ofArguments? { settings with driver := name } rest
  | "--namespace" :: name :: rest => ofArguments? { settings with namespaceName := some name } rest
  | ["schema"] => some ⟨.schema none, settings⟩
  | ["schema", "--root", table] => some ⟨.schema (some table), settings⟩
  | ["explain", selection] => some ⟨.explain selection, settings⟩
  | _ => none

def answer (d : Dialect) (snapshot : Snapshot) : Command → Outcome
  | .schema none => .success snapshot.graph.definitions
  | .schema (some root) =>
    match (snapshot.graph.reachableFrom root).toList with
    | [] => .failure ("Unknown table: " ++ root)
    | names => .success (String.join (names.map (· ++ "\n")))
  | .explain text =>
    match Selection.parse? text with
    | none => .failure ("Parse error: " ++ (QueryError.malformedSelection .unreadable).message)
    | some selection =>
      match snapshot.prepare selection with
      | .error e => .failure ("Compilation error: " ++ e.message)
      | .ok q => .success (String.join ((q.explain d).map (· ++ ";\n")))

/-- Runs a call on the descriptions of tables. -/
def run (i : Invocation) (input : String) : Outcome :=
  let read (depth : Nat) (document : Json.Document) :=
    Json.Document.list? Catalog.Table.ofDocument? depth document
  match i.settings.driver?, i.settings.resolvedNamespace, Json.readText read input with
  | .error e, _, _ | _, .error e, _ => .failure ("Configuration error: " ++ e.message)
  | _, _, none => .failure "Startup error: the input is no array of table descriptions"
  | .ok driver, .ok namespaceName, some tables =>
    let front : Front := { namespaceName }
    match (front.rebuild (.ofTables tables)).1 with
    | .error e => .failure ("Startup error: " ++ e.message)
    | .ok none => .failure "Startup error: nothing is published"
    | .ok (some snapshot) => answer driver.dialect snapshot i.command

/-- Runs a call with the given arguments and input. -/
def runArguments (arguments : List String) (input : String) : Outcome :=
  match ofArguments? {} arguments with
  | none => .failure usage
  | some i => i.run input

end Invocation

end NestedRows
