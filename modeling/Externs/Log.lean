import Externs.Json

/-!
# Log records

* `Log.Level`: how grave a record is;
* `Log.Record`: an event with its level and its fields, and `Log.Record.entries`, all of it by name;
* `Notice`: what the program has to report, and `Notice.record`, the record that reports it.
-/

namespace Externs

set_option autoImplicit false

/-- How grave a record is: a number by which levels are compared, and a name for it. -/
structure Log.Level where
  severity : Int
  name : String
  deriving DecidableEq

namespace Log.Level

/-! The levels with names of their own. -/

def debug : Level := ⟨10, "debug"⟩

def info : Level := ⟨20, "info"⟩

def warning : Level := ⟨30, "warning"⟩

def error : Level := ⟨40, "error"⟩

def critical : Level := ⟨50, "critical"⟩

end Log.Level

/-- An event to be logged. -/
structure Log.Record where
  level : Log.Level
  event : Text
  fields : Assoc Json

/-- The names of what every record has: fields under them are not shown. -/
def Log.Record.reservedNames : List Text := ["event", "level"]

/-- The event, the level and the fields of a record by name. -/
def Log.Record.entries (record : Log.Record) : Assoc Json :=
  [(Text.ofString "event", .str record.event), (Text.ofString "level", .str record.level.name)] ++
    record.fields.filter fun (name, _) => !reservedNames.contains name

/-- What the program has to report. -/
inductive Notice where
  /-- A value of a node is neither a part of its declaration nor a nested declaration. -/
  | droppedValue (path : Text) (typeName : String)
  /-- An entry of a bucket of members is no declaration. -/
  | droppedMember (path : Text) (typeName : String)
  /-- A declaration has a tag that names no kind. -/
  | skippedKind (kindTag name : Text)
  /-- A document with this many declarations is complete. -/
  | generated (declarations : Nat)
  /-- The document is in its file. -/
  | written (path : Text)
  deriving DecidableEq

/-- The record of a notice. -/
def Notice.record : Notice → Log.Record
  | .droppedValue path typeName =>
    ⟨.debug, "Dropped non-traversable value",
      [("path", .str path), ("value_type", .str typeName)]⟩
  | .droppedMember path typeName =>
    ⟨.debug, "Dropped non-traversable member",
      [("path", .str path), ("value_type", .str typeName)]⟩
  | .skippedKind kindTag name =>
    ⟨.debug, "Skipped unknown node kind", [("kind", .str kindTag), ("name", .str name)]⟩
  | .generated declarations =>
    ⟨.debug, "Externs generated", [("declarations", .int declarations)]⟩
  | .written path => ⟨.info, "Externs written", [("path", .str path)]⟩

end Externs
