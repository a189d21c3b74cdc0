import Externs.Command

/-!
# The command line

The outer layer of the command: it looks at the files and variables that a run may ask for, lets
`Command.run` decide, and carries out what it decided.
-/

namespace Externs.CommandLine

set_option autoImplicit false

/-- What an action gives, unless it fails. -/
def attempt {α : Type} (action : IO α) : IO (Option α) := do
  try
    return some (← action)
  catch _ => return none

/-- What stands at a path right now. A file is opened for more text at its end to see if it can be. -/
def entryAt (path : String) : IO (Option FileEntry) := do
  if (← attempt (IO.FS.realPath (path ++ "/."))).isSome then
    return some (.directory {})
  if (← attempt (IO.FS.realPath path)).isNone then
    return none
  let bytes ← attempt (IO.FS.readBinFile path)
  let opened ← attempt (IO.FS.withFile path .append fun _ => pure ())
  let access : Access := { read := bytes.isSome, write := opened.isSome }
  return some (.file access ((bytes.map ByteArray.toList).getD []))

/-- A path and all directories on the way to it. -/
def waypoints (path : Text) : List Text :=
  let steps := PathName.steps path
  (List.range steps.length).map fun i =>
    PathName.rootMark path ++ Text.joinWith [PathName.separator] (steps.take (i + 1))

/-- The files that arguments may speak of. -/
def filesFor (arguments : List Text) : IO FileTree := do
  let paths := match Argument.sort arguments with
    | .ok sorted => sorted.words ++ (Argument.lastValue? .output sorted.options).toList
    | .error _ => []
  let mut files : FileTree := ⟨[]⟩
  for path in paths.flatMap waypoints do
    if let some name := path.toString? then
      if let some entry ← entryAt name then
        files := files.add path entry
  return files

/-- The variables of the process. -/
def processVariables : IO Environment := do
  try
    return Environment.ofBlock (← IO.FS.readBinFile "/proc/self/environ").toList
  catch _ => return []

/-- Bytes for a stream. -/
def bytesOf (text : Text) : ByteArray := ⟨((Utf8.encode? text).getD []).toArray⟩

/-- A record as a line of text. -/
def recordLine (record : Log.Record) : Text :=
  let fields := record.fields.map fun (key, value) => key ++ Text.ofString "=" ++ value.token
  Text.joinWith " " (record.event :: fields) ++ "\n"

/-- What is said about a run that breaks down. -/
def breakdownLine : Breakdown → Text
  | .badPath _ => "a path holds a zero byte or a lone surrogate\n"
  | .badSettings faults =>
    "bad settings: " ++ Text.joinWith ", " (faults.map (·.name)) ++ "\n"
  | .undecodableSource => "the source is not UTF-8\n"
  | .oversizedInteger => "the source holds an integer of too many digits\n"
  | .formatting fault => "the code cannot be formatted: " ++ fault.reason ++ "\n"
  | .unencodableOutput => "the code holds a lone surrogate\n"
  | .unwritableOutput _ => "the output cannot be written\n"

end Externs.CommandLine

open Externs Externs.CommandLine in
def main (arguments : List String) : IO UInt32 := do
  let arguments := arguments.map Text.ofString
  let files ← filesFor arguments
  let stdout ← IO.getStdout
  let stderr ← IO.getStderr
  let surroundings : Surroundings :=
    { environment := ← processVariables
      files
      outputTerminal := ← stdout.isTty
      errorTerminal := ← stderr.isTty }
  let outcome := Command.run Document.boundedLayout surroundings arguments
  for notice in outcome.notices do
    stderr.write (bytesOf (Command.showSurrogates (recordLine notice.record)))
  if let .ok (some ⟨_, some output, _, _⟩) := Invocation.ofArguments files arguments then
    if let (some name, some bytes) := ((PathName.shown output).toString?, outcome.files.contentAt output) then
      if files.contentAt output != some bytes then
        IO.FS.writeBinFile name ⟨bytes.toArray⟩
  stdout.write (bytesOf outcome.stdout)
  stderr.write (bytesOf outcome.stderr)
  if let some breakdown := outcome.breakdown then
    stderr.write (bytesOf (Command.showSurrogates (breakdownLine breakdown)))
  return UInt32.ofNat outcome.exitCode
