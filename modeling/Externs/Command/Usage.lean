import Externs.Command.FileTree
import Externs.Text.Quoted

/-!
# Usage of the command

* `FileParameter`, `FileFault`: the arguments that name files, and what is wrong with the files;
* `UsageError`: what is wrong with the arguments;
* `UsageError.report`: the text for standard error;
* `Usage.help`: the text of the help option.
-/

namespace Externs

set_option autoImplicit false

/-- The arguments of the command that name files. -/
inductive FileParameter where
  | source
  | output
  deriving DecidableEq

namespace FileParameter

/-- How an argument is called in a message. -/
def text : FileParameter → Text
  | .source => "'SOURCE'"
  | .output => "'-o' / '--output'"

/-- Whether the file must be there before the run. -/
def mustExist : FileParameter → Bool
  | .source => true
  | .output => false

/-- Whether the run writes the file. -/
def isWritten : FileParameter → Bool
  | .source => false
  | .output => true

end FileParameter

/-- What is wrong with a file. -/
inductive FileFault where
  | missing
  | isDirectory
  | unreadable
  | unwritable
  deriving DecidableEq

/-- The end of a message about a file. -/
def FileFault.text : FileFault → Text
  | .missing => "does not exist."
  | .isDirectory => "is a directory."
  | .unreadable => "is not readable."
  | .unwritable => "is not writable."

/-- What is wrong with the file that an argument names. A file that is there must be readable, even if it
is only written. -/
def FileTree.fault? (files : FileTree) (parameter : FileParameter) (path : Text) : Option FileFault :=
  match files.find path with
  | none => if parameter.mustExist then some .missing else none
  | some (.directory _) => some .isDirectory
  | some (.file access _) =>
    if !access.read then some .unreadable
    else if parameter.isWritten && !access.write then some .unwritable
    else none

/-- What is wrong with the arguments of the command. -/
inductive UsageError where
  /-- There is no such option, but there are others with similar names. -/
  | noSuchOption (name : Text) (similar : List Text)
  | needsValue (name : Text)
  | takesNoValue (name : Text)
  | missingSource
  | badFile (parameter : FileParameter) (path : Text) (fault : FileFault)
  | notInteger (value : Text)
  | extraArguments (first : Text) (others : List Text)

namespace Usage

/-- The line that shows how the command is called. -/
def synopsis : Text := "Usage: main [OPTIONS] SOURCE\n"

/-- The text of the help option. -/
def help : Text := synopsis ++ "
  Generate an externs file from a JSON declaration tree.

Options:
  -o, --output FILE           Write the externs file here (default: stdout).
  --strict / --no-strict      Emit the 'use strict' directive (default: on).
  --beautify / --no-beautify  Pretty-print the generated code (default: on).
  --indent-size INTEGER       Formatter indentation width (default: 2).
  --validate / --no-validate  Reject malformed declaration trees instead of
                              skipping bad nodes.
  --debug / --no-debug        Enable debug logging.
  -h, --help                  Show this message and exit.
"

end Usage

namespace UsageError

/-- The names that may have been meant. -/
def suggestion : List Text → Text
  | [] => []
  | [name] => " Did you mean " ++ name.quoted ++ "?"
  | names => " (Did you mean one of: " ++ Text.joinWith ", " (names.map Text.quoted) ++ "?)"

/-- What is wrong, in words. -/
def message : UsageError → Text
  | .noSuchOption name similar => "No such option " ++ name.quoted ++ "." ++ suggestion similar
  | .needsValue name => "Option " ++ name.quoted ++ " requires an argument."
  | .takesNoValue name => "Option " ++ name.quoted ++ " does not take a value."
  | .missingSource => "Missing argument 'SOURCE'."
  | .badFile parameter path fault =>
    "Invalid value for " ++ parameter.text ++ ": File " ++ (PathName.displayed path).quoted ++ " " ++ fault.text
  | .notInteger value =>
    "Invalid value for '--indent-size': " ++ value.quoted ++ " is not a valid integer."
  | .extraArguments first [] => "Got unexpected extra argument (" ++ first ++ ")"
  | .extraArguments first others =>
    "Got unexpected extra arguments (" ++ Text.joinWith " " (first :: others) ++ ")"

/-- Whether the report starts with how the command is called. An option whose value is missing or out
of place is reported alone. -/
def showsUsage : UsageError → Bool
  | .needsValue _ => false
  | .takesNoValue _ => false
  | _ => true

/-- The text for standard error. -/
def report (error : UsageError) : Text :=
  (if error.showsUsage then Usage.synopsis ++ "Try 'main --help' for help.\n\n" else []) ++
    "Error: " ++ error.message ++ "\n"

end UsageError

end Externs
