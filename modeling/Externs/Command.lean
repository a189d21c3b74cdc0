import Externs.Command.Arguments
import Externs.Document
import Externs.Json.Reader
import Externs.Log.Routing
import Externs.Settings.Loading
import Externs.Text.ControlSequence

/-!
# The command

A run of the command takes arguments, an environment and files, and leaves an exit code, texts, log
records and files. The formatter that it uses is any function, and may fail.

* `Surroundings`: what a run finds;
* `Breakdown`: the faults that the command does not report itself;
* `Outcome`: what a run leaves;
* `Command.compile`: from a source file to code;
* `Command.deliver`: from code to standard output or a file;
* `Command.run`: a whole run.
-/

namespace Externs

set_option autoImplicit false

/-- What a run finds. -/
structure Surroundings where
  environment : Environment
  files : FileTree
  /-- Whether standard output is a terminal. -/
  outputTerminal : Bool := false
  /-- Whether standard error is a terminal. -/
  errorTerminal : Bool := false

/-- The faults that end a run without a report of its own. -/
inductive Breakdown where
  | badPath (problem : PathName.Problem)
  | badSettings (faults : List SettingFault)
  | undecodableSource
  | oversizedInteger
  | formatting (fault : Document.FormatFault)
  | unencodableOutput
  | unwritableOutput (problem : WriteProblem)

/-- What a run leaves. -/
structure Outcome where
  exitCode : Nat
  stdout : Text
  stderr : Text
  breakdown : Option Breakdown
  notices : List Notice
  files : FileTree

namespace Outcome

/-- A run that ends well. -/
def success (files : FileTree) (notices : List Notice) (stdout : Text) : Outcome :=
  ⟨0, stdout, [], none, notices, files⟩

/-- A run that ends with a report on standard error. -/
def reported (files : FileTree) (notices : List Notice) (exitCode : Nat) (stderr : Text) : Outcome :=
  ⟨exitCode, [], stderr, none, notices, files⟩

/-- A run that breaks down. -/
def broken (files : FileTree) (notices : List Notice) (breakdown : Breakdown) : Outcome :=
  ⟨1, [], [], some breakdown, notices, files⟩

end Outcome

namespace Command

/-- A text as a stream takes it. Control sequences are for terminals only. -/
def onStream (terminal : Bool) (t : Text) : Text := if terminal then t else t.withoutControls

/-- Standard error has no place for lone surrogates; they are shown as escapes. -/
def showSurrogates (t : Text) : Text :=
  t.flatMap fun p => match p with
    | .scalar c => [.scalar c]
    | .surrogate _ => "\\u" ++ Text.hexDigits 4 p.toNat

/-- A text as standard error shows it. -/
def onStandardError (terminal : Bool) (t : Text) : Text := showSurrogates (onStream terminal t)

/-- The line on standard error for a fault that the command reports. -/
def errorLine (terminal : Bool) (message : Text) : Text :=
  onStandardError terminal ("Error: " ++ message ++ "\n")

/-- The notices that pass the routing of the run. -/
def logged (debug : Bool) (notices : List Notice) : List Notice :=
  let router := Log.Router.initial.setUp debug
  notices.filter fun notice => !(router.takers notice.record.level).isEmpty

/-- Why no code comes from a source. -/
inductive SourceFault where
  | breakdown (breakdown : Breakdown)
  | notJson (fault : JsonFault) (text : Text)
  | malformed (error : Malformed)

/-- The text of a source file. -/
def sourceText (files : FileTree) (path : Text) : Option Text :=
  ((files.contentAt path).bind Utf8.decode?).map Text.unifyLineEnds

/-- The value in a source file. -/
def readSource (files : FileTree) (path : Text) : Except SourceFault Json :=
  match sourceText files path with
  | none => .error (.breakdown .undecodableSource)
  | some text =>
    match Json.parse text with
    | .ok value => .ok value
    | .error fault =>
      if fault.problem = .oversizedInteger then .error (.breakdown .oversizedInteger)
      else .error (.notJson fault text)

/-- The code of a source file, with the notices sent on the way. -/
def compile (format : Document.PartialFormatter) (files : FileTree) (path : Text) (settings : Settings) :
    List Notice × Except SourceFault Text :=
  match readSource files path with
  | .error fault => ([], .error fault)
  | .ok value =>
    let result := generate format settings value
    match result.outcome with
    | .ok (.ok code) => (result.notices, .ok code)
    | .ok (.error fault) => (result.notices, .error (.breakdown (.formatting fault)))
    | .error error => (result.notices, .error (.malformed error))

/-- Code on standard output ends with a line feed. -/
def withFinalLineFeed (code : Text) : Text :=
  if code.getLast? = some Text.lineFeed then code else code ++ [Text.lineFeed]

/-- Code as standard output shows it. -/
def onStandardOutput (terminal : Bool) (code : Text) : Text := onStream terminal (withFinalLineFeed code)

/-- Puts code where the call wants it. A file is emptied before its text is encoded. -/
def deliver (surroundings : Surroundings) (notices : List Notice) (output : Option Text) (code : Text) :
    Outcome :=
  let files := surroundings.files
  match output with
  | none =>
    let shown := onStandardOutput surroundings.outputTerminal code
    match Utf8.encode? shown with
    | some _ => .success files notices shown
    | none => .broken files notices .unencodableOutput
  | some path =>
    match files.placeToWrite path with
    | .error problem => .broken files notices (.unwritableOutput problem)
    | .ok place =>
      match Utf8.encode? code with
      | some bytes => .success (files.write place bytes) (notices ++ [.written (PathName.shown path)]) []
      | none => .broken (files.write place []) notices .unencodableOutput

/-- What the command reports of a fault of a source. -/
def report? (source : Text) : SourceFault → Option Text
  | .breakdown _ => none
  | .notJson fault text => some (PathName.shown source ++ " is not valid JSON: " ++ fault.message text)
  | .malformed error => some error.message

/-- The end of a run whose source gives no code. -/
def fail (surroundings : Surroundings) (notices : List Notice) (source : Text) (fault : SourceFault) :
    Outcome :=
  match fault with
  | .breakdown breakdown => .broken surroundings.files notices breakdown
  | fault =>
    let message := (report? source fault).getD []
    .reported surroundings.files notices 1 (errorLine surroundings.errorTerminal message)

/-- The settings of a run. Its variables have the usual stem, and there is no dotenv file. -/
def settingsOf (surroundings : Surroundings) (invocation : Invocation) : Except (List SettingFault) Settings :=
  Settings.load invocation.overrides surroundings.environment none none

/-- A run that a valid call starts. -/
def execute (format : Document.PartialFormatter) (surroundings : Surroundings) (invocation : Invocation) :
    Outcome :=
  match settingsOf surroundings invocation with
  | .error faults => .broken surroundings.files [] (.badSettings faults)
  | .ok settings =>
    let (notices, result) := compile format surroundings.files invocation.source settings
    let outcome := match result with
      | .error fault => fail surroundings notices invocation.source fault
      | .ok code => deliver surroundings notices invocation.output code
    { outcome with notices := logged invocation.debug outcome.notices }

/-- A run of the command. -/
def run (format : Document.PartialFormatter) (surroundings : Surroundings) (arguments : List Text) : Outcome :=
  match Invocation.ofArguments surroundings.files arguments with
  | .error (.usage error) =>
    .reported surroundings.files [] 2 (onStandardError surroundings.errorTerminal error.report)
  | .error (.badPath problem) => .broken surroundings.files [] (.badPath problem)
  | .ok none => .success surroundings.files [] Usage.help
  | .ok (some invocation) => execute format surroundings invocation

end Command

end Externs
