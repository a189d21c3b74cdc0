import Externs.Command.FileTree
import Externs.Command.Usage
import Externs.Number.Integer
import Externs.Settings
import Externs.Text.Similarity

/-!
# Arguments of the command

Arguments are first sorted into options and words, then the options are checked, and last the source.

* `Argument.Given`: an option as it was given;
* `Argument.Lexed`, `Argument.lex`: what one argument is;
* `Argument.sort`: options and words in order;
* `Refusal`: why a call is refused;
* `Invocation`: what a valid call asks for, or a call for help;
* `Invocation.ofArguments`: the call that arguments make.
-/

namespace Externs

set_option autoImplicit false

namespace Argument

/-- The options that are on or off. -/
inductive Flag where
  | strict
  | beautify
  | validate
  | debug
  deriving DecidableEq

/-- The options with a value. -/
inductive Slot where
  | output
  | indentSize
  deriving DecidableEq

/-- An option as it was given. -/
inductive Given where
  | flag (flag : Flag) (on : Bool)
  | slot (slot : Slot) (value : Text)
  | help
  deriving DecidableEq

/-- What an option means by its name: all of it, or a slot that waits for its value. -/
inductive Meaning where
  | complete (given : Given)
  | slot (slot : Slot)

/-- The options with long names. -/
def longNames : List (Text × Meaning) :=
  [("--output", .slot .output), ("--indent-size", .slot .indentSize),
    ("--strict", .complete (.flag .strict true)), ("--no-strict", .complete (.flag .strict false)),
    ("--beautify", .complete (.flag .beautify true)),
    ("--no-beautify", .complete (.flag .beautify false)),
    ("--validate", .complete (.flag .validate true)),
    ("--no-validate", .complete (.flag .validate false)),
    ("--debug", .complete (.flag .debug true)), ("--no-debug", .complete (.flag .debug false)),
    ("--help", .complete .help)]

/-- The long names that are most like a given one, in the order of a dictionary. -/
def similarNames (name : Text) : List Text :=
  (Text.mostSimilar 3 name (longNames.map Prod.fst)).mergeSort Text.precedes

/-- The options with short names. -/
def shortName? (letter : CodePoint) : Option Meaning :=
  if letter = .scalar 'o' then some (.slot .output)
  else if letter = .scalar 'h' then some (.complete .help)
  else none

/-- What one argument is. -/
inductive Lexed where
  /-- A word, which is no option. -/
  | word
  /-- The end of all options. -/
  | endOfOptions
  /-- Options that are complete. -/
  | options (given : List Given)
  /-- Complete options, and one more that takes the next argument as its value. -/
  | waiting (given : List Given) (name : Text) (slot : Slot)
  | bad (error : UsageError)

/-- A row of short options after a dash. The rest of the row is the value of an option that has one. -/
def lexShort (before : List Given) : Text → Lexed
  | [] => .options before
  | letter :: rest =>
    match shortName? letter with
    | none => .bad (.noSuchOption [.scalar '-', letter] [])
    | some (.complete given) => lexShort (before ++ [given]) rest
    | some (.slot slot) =>
      if rest.isEmpty then .waiting before [.scalar '-', letter] slot
      else .options (before ++ [.slot slot rest])

/-- A long option, possibly with its value after an equals sign. -/
def lexLong (name : Text) (value : Option Text) : Meaning → Lexed
  | .complete given =>
    match value with
    | none => .options [given]
    | some _ => .bad (.takesNoValue name)
  | .slot slot =>
    match value with
    | none => .waiting [] name slot
    | some value => .options [.slot slot value]

/-- What one argument is. A name that is no long option may still be a row of short ones, unless it
starts with two dashes. -/
def lex (argument : Text) : Lexed :=
  if argument = Text.ofString "--" then .endOfOptions
  else match argument with
    | .scalar '-' :: letter :: rest =>
      let name := argument.takeWhile (· != .scalar '=')
      let value := if name.length < argument.length then some (argument.drop (name.length + 1)) else none
      match Assoc.lookup name longNames with
      | some meaning => lexLong name value meaning
      | none =>
        if letter = .scalar '-' then .bad (.noSuchOption name (similarNames name)) else lexShort [] (letter :: rest)
    | _ => .word

/-- Options and words, each in order. -/
structure Sorted where
  options : List Given
  words : List Text

/-- The options and words of all arguments, or the first argument that is neither. -/
def sort : List Text → Except UsageError Sorted
  | [] => .ok ⟨[], []⟩
  | argument :: rest =>
    match lex argument with
    | .word => do
      let sorted ← sort rest
      return { sorted with words := argument :: sorted.words }
    | .endOfOptions => .ok ⟨[], rest⟩
    | .options given => do
      let sorted ← sort rest
      return { sorted with options := given ++ sorted.options }
    | .waiting given name slot =>
      match rest with
      | [] => .error (.needsValue name)
      | value :: rest => do
        let sorted ← sort rest
        return { sorted with options := given ++ [.slot slot value] ++ sorted.options }
    | .bad error => .error error

/-! ## Options -/

/-- The last value given for a slot. -/
def lastValue? (slot : Slot) (options : List Given) : Option Text :=
  options.reverse.findSome? fun given => match given with
    | .slot other value => if other = slot then some value else none
    | _ => none

/-- The last state given for a flag. -/
def lastState? (flag : Flag) (options : List Given) : Option Bool :=
  options.reverse.findSome? fun given => match given with
    | .flag other on => if other = flag then some on else none
    | _ => none

/-- The slots that were given, in the order in which they first came. -/
def slotsGiven (options : List Given) : List Slot :=
  (options.filterMap fun given => match given with
    | .slot slot _ => some slot
    | _ => none).eraseDups

end Argument

/-- Why a call is refused: an error of usage, or a text that cannot be a path. -/
inductive Refusal where
  | usage (error : UsageError)
  | badPath (problem : PathName.Problem)

namespace Argument

/-- Why the value of a slot is refused. -/
def slotRefusal? (files : FileTree) (options : List Given) (slot : Slot) : Option Refusal :=
  match slot, lastValue? slot options with
  | _, none => none
  | .output, some path =>
    match PathName.problem? path with
    | some problem => some (.badPath problem)
    | none => (files.fault? .output path).map fun fault => .usage (.badFile .output path fault)
  | .indentSize, some value =>
    if (Integer.ofOption? value).isNone then some (.usage (.notInteger value)) else none

end Argument

/-- What a call of the command asks for. -/
structure Invocation where
  source : Text
  output : Option Text
  overrides : Assoc Json
  debug : Bool

namespace Invocation

open Argument

/-- The settings that the options fix. -/
def overridesOf (options : List Given) : Assoc Json :=
  let flag (name : SettingName) (flag : Flag) : Assoc Json :=
    ((lastState? flag options).map fun on => (name.text, Json.bool on)).toList
  let indent := (lastValue? .indentSize options).bind Integer.ofOption?
  flag .strict .strict ++ flag .beautify .beautify ++
    (indent.map fun n => (SettingName.indentSize.text, Json.int n)).toList ++
    flag .validateInput .validate

/-- What is wrong with the words: the first must be a file to read, and there must be no other. -/
def wordsError? (files : FileTree) : List Text → Option UsageError
  | [] => some .missingSource
  | source :: others =>
    match files.fault? .source source, others with
    | some fault, _ => some (.badFile .source source fault)
    | none, [] => none
    | none, first :: others => some (.extraArguments first others)

/-- Why the words are refused. The first must be a path at all. -/
def wordsRefusal? (files : FileTree) (words : List Text) : Option Refusal :=
  match words.head?.bind PathName.problem? with
  | some problem => some (.badPath problem)
  | none => (wordsError? files words).map .usage

/-- Why options and words are refused: the values of options come first, then the words. -/
def refusal? (files : FileTree) (sorted : Sorted) : Option Refusal :=
  match (slotsGiven sorted.options).findSome? (slotRefusal? files sorted.options) with
  | some refusal => some refusal
  | none => wordsRefusal? files sorted.words

/-- The call that options and words make. -/
def ofSorted (sorted : Sorted) : Invocation where
  source := sorted.words.headD []
  output := lastValue? .output sorted.options
  overrides := overridesOf sorted.options
  debug := (lastState? .debug sorted.options).getD false

/-- The call that arguments make; `none` is a call for help. Help comes before any look at the values
of options and at the words. -/
def ofArguments (files : FileTree) (arguments : List Text) : Except Refusal (Option Invocation) :=
  match sort arguments with
  | .error error => .error (.usage error)
  | .ok sorted =>
    if sorted.options.contains .help then .ok none
    else match refusal? files sorted with
      | some refusal => .error refusal
      | none => .ok (some (ofSorted sorted))

end Invocation

end Externs
