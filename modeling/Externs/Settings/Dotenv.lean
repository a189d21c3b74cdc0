import Externs.Environment
import Externs.Text.Blank

/-!
# Dotenv files

A dotenv file binds variables, one on a line. A line that binds nothing is passed over.

* `Dotenv.Binding`: a variable, and its value if there is one;
* `Dotenv.bindings`: the bindings of a file as they are written;
* `Dotenv.expand`: a value with its references to variables replaced;
* `Dotenv.add`: the variables with one more binding;
* `Dotenv.read`: the variables of a file.
-/

namespace Externs.Dotenv

set_option autoImplicit false

/-! ## Lines -/

/-- A variable, and its value if it has one. -/
abbrev Binding := Text × Option Text

/-- The code points that end a line. -/
def isLineEnd (p : CodePoint) : Bool := p = .scalar '\n' || p = .scalar '\r'

/-- White space within a line. -/
def isInlineSpace (p : CodePoint) : Bool := p.isSpace && !isLineEnd p

/-- The word that may stand before a variable, with white space after it, is dropped. -/
def dropExport (t : Text) : Text :=
  let word : Text := "export"
  if word.isPrefixOf t && (t.drop word.length).head?.any isInlineSpace then
    (t.drop word.length).dropWhile isInlineSpace
  else t

/-! Each of the following reads from the start of a text and gives what it read and what follows it. A
failed reading gives the rest that could not be read. -/

/-- The name of a variable. A comment has none; a name may stand in single quotes. -/
def name (t : Text) : Except Text (Option Text × Text) :=
  match t with
  | .scalar '#' :: _ => .ok (none, t)
  | .scalar '\'' :: rest =>
    let name := rest.takeWhile (· != .scalar '\'')
    match rest.drop name.length with
    | _ :: after => if name.isEmpty then .error t else .ok (some name, after)
    | [] => .error t
  | _ =>
    let name := t.takeWhile fun p => p != .scalar '=' && p != .scalar '#' && !p.isSpace
    if name.isEmpty then .error t else .ok (some name, t.drop name.length)

/-- The length of a quoted value up to the first quote that no backslash takes along. A backslash takes
along whatever follows it. -/
def unescapedLength? (mark : CodePoint) : Text → Option Nat
  | .scalar '\\' :: _ :: rest => (unescapedLength? mark rest).map (· + 2)
  | p :: rest => if p = mark then some 0 else (unescapedLength? mark rest).map (· + 1)
  | [] => none

/-- The length of a quoted value. If a backslash stands before every quote, the last of them ends the
value. -/
def quotedLength? (mark : CodePoint) (t : Text) : Option Nat :=
  match unescapedLength? mark t with
  | some length => some length
  | none => (List.range t.length).reverse.find? fun i => t[i]? = some mark

/-- What a letter after a backslash stands for between double quotes. -/
def escapes : List (CodePoint × CodePoint) :=
  [(.scalar '\\', .scalar '\\'), (.scalar '\'', .scalar '\''), (.scalar '"', .scalar '"'),
    (.scalar 'a', .scalar '\x07'), (.scalar 'b', .scalar '\x08'), (.scalar 'f', .scalar '\x0c'),
    (.scalar 'n', .scalar '\n'), (.scalar 'r', .scalar '\r'), (.scalar 't', .scalar '\t'),
    (.scalar 'v', .scalar '\x0b')]

/-- The escapes between quotes of the given kind: single quotes know only the first two. -/
def escapesOf (mark : CodePoint) : List (CodePoint × CodePoint) :=
  if mark = .scalar '\'' then escapes.take 2 else escapes

/-- A quoted value with its escapes replaced. -/
def unescape (escapes : List (CodePoint × CodePoint)) : Text → Text
  | .scalar '\\' :: letter :: rest =>
    match escapes.lookup letter with
    | some p => p :: unescape escapes rest
    | none => .scalar '\\' :: unescape escapes (letter :: rest)
  | p :: rest => p :: unescape escapes rest
  | [] => []

/-- An unquoted value ends before white space that is followed by a number sign. `gap` is the white
space just passed. -/
def beforeComment (gap : Text) : Text → Text
  | [] => gap
  | p :: rest =>
    if p.isSpace then beforeComment (gap ++ [p]) rest
    else if p = .scalar '#' && !gap.isEmpty then []
    else gap ++ [p] ++ beforeComment [] rest

/-- A value in quotes of the given kind, which start the text. -/
def quotedValue (mark : CodePoint) (t : Text) : Except Text (Text × Text) :=
  let inner := t.drop 1
  match quotedLength? mark inner with
  | some length => .ok (unescape (escapesOf mark) (inner.take length), inner.drop (length + 1))
  | none => .error t

/-- The value after an equals sign. -/
def value (t : Text) : Except Text (Text × Text) :=
  match t with
  | .scalar '\'' :: _ => quotedValue (.scalar '\'') t
  | .scalar '"' :: _ => quotedValue (.scalar '"') t
  | _ =>
    let line := t.takeWhile (!isLineEnd ·)
    .ok ((beforeComment [] line).trimEnd CodePoint.isSpace, t.drop line.length)

/-- The rest of a line after a comment, if one starts here. -/
def dropComment (t : Text) : Text :=
  match t.dropWhile isInlineSpace with
  | .scalar '#' :: rest => rest.dropWhile (!isLineEnd ·)
  | _ => t

/-- What follows the end of the line. There must be nothing before it. -/
def lineEnd (t : Text) : Except Text (Unit × Text) :=
  match t.dropWhile isInlineSpace with
  | [] => .ok ((), [])
  | .scalar '\r' :: .scalar '\n' :: rest => .ok ((), rest)
  | p :: rest => if isLineEnd p then .ok ((), rest) else .error t

/-- Whether a comment comes next, with white space before it. -/
def startsComment (t : Text) : Bool :=
  t.head?.any isInlineSpace && (t.dropWhile isInlineSpace).head? = some (.scalar '#')

/-- The value of a variable, if an equals sign comes next. A comment in the place of the value leaves it
empty. -/
def assignment (t : Text) : Except Text (Option Text × Text) :=
  match t.dropWhile isInlineSpace with
  | .scalar '=' :: rest => do
    let (value, after) ← if startsComment rest then .ok ([], rest) else value (rest.dropWhile isInlineSpace)
    return (some value, after)
  | after => .ok (none, after)

/-- One binding, or none from an empty rest or a comment. -/
def binding (t : Text) : Except Text (Option Binding × Text) :=
  match t.dropWhile CodePoint.isSpace with
  | [] => .ok (none, [])
  | t => do
    let (name, t) ← name (dropExport t)
    let (value, t) ← assignment t
    let ((), t) ← lineEnd (dropComment t)
    return (name.map (·, value), t)

/-- What follows the line that is being read. -/
def nextLine (t : Text) : Text := (t.dropWhile (!isLineEnd ·)).drop 1

/-- The bindings of a file in order. A line that cannot be read gives none. -/
def bindings (t : Text) : List Binding :=
  if t.isEmpty then []
  else
    let (found, rest) := match binding t with
      | .ok (found, rest) => (found, rest)
      | .error rest => (none, nextLine rest)
    if rest.length < t.length then found.toList ++ bindings rest else found.toList
termination_by t.length

/-! ## References -/

/-- A reference to a variable at the start of a text, after its opening: the name, the text to stand
in for a missing variable, and the length of the reference. -/
def reference? (t : Text) : Option (Text × Text × Nat) :=
  let name := t.takeWhile fun p => p != .scalar '\x7d' && p != .scalar ':'
  match t.drop name.length with
  | .scalar '\x7d' :: _ => some (name, [], name.length + 1)
  | .scalar ':' :: .scalar '-' :: rest =>
    let default := rest.takeWhile (· != .scalar '\x7d')
    if default.length < rest.length then some (name, default, name.length + default.length + 3)
    else none
  | _ => none

/-- A value with its references replaced; `skip` code points belong to a reference already replaced. -/
def expandFrom (lookup : Text → Option Text) : Nat → Text → Text
  | _, [] => []
  | skip + 1, _ :: rest => expandFrom lookup skip rest
  | 0, .scalar '$' :: .scalar '\x7b' :: rest =>
    match reference? rest with
    | some (name, default, length) =>
      (lookup name).getD default ++ expandFrom lookup length rest
    | none => .scalar '$' :: expandFrom lookup 0 (.scalar '\x7b' :: rest)
  | 0, p :: rest => p :: expandFrom lookup 0 rest

/-- A value with its references replaced. -/
def expand (lookup : Text → Option Text) (value : Text) : Text := expandFrom lookup 0 value

/-- What a reference finds: a variable already known, or else one of the environment. A variable without a
value counts as empty. -/
def valueIn (environment : Environment) (known : Assoc (Option Text)) (name : Text) : Option Text :=
  match Assoc.lookup name known with
  | some value => some (value.getD [])
  | none => Assoc.lookup name environment

/-- The known variables with one more binding, in which references are replaced. -/
def add (environment : Environment) (known : Assoc (Option Text)) (binding : Binding) : Assoc (Option Text) :=
  Assoc.insert binding.1 (binding.2.map (expand (valueIn environment known))) known

/-- The variables that bindings make one after the other. -/
def resolve (environment : Environment) (bindings : List Binding) : Assoc (Option Text) :=
  bindings.foldl (add environment) []

/-- A file without the byte order mark at its start. -/
def dropOrderMark : Text → Text
  | p :: rest => if p = .ofNat 0xFEFF then rest else p :: rest
  | [] => []

/-- The variables of a dotenv file. -/
def read (environment : Environment) (file : Text) : Assoc (Option Text) :=
  resolve environment (bindings (dropOrderMark file).unifyLineEnds)

end Externs.Dotenv
