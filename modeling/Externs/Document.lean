import Externs.Document.Layout
import Externs.Node.Ingestion
import Externs.Node.Walk
import Externs.Settings

/-!
# Documents

A document is made from a tree in one walk. From then on its blocks and its head are fixed, whatever
happens to the tree or the settings; its code is fixed when it is first asked for.

* `Document`: a document with its tree and the values of its settings;
* `Document.ofTree`, `Document.ofJson`: the document of a tree, and of a value;
* `Document.render`: the plain text;
* `Document.codeBy`: the text after a formatter, if settings ask for formatting;
* `Document.tryCodeBy`: the same for a formatter that may fail;
* `Document.boundedLayout`: the formatter of this library;
* `generate`: from a value to code.
-/

namespace Externs

set_option autoImplicit false

/-- A document. `strict` and `blocks` are what the walk left behind; `current` are the settings of now,
to which any value may have been assigned; `kept` is the code, once it has been asked for. -/
structure Document where
  tree : Node
  policy : NullPolicy
  current : SettingName → Json
  strict : Bool
  blocks : List Text
  kept : Option Text

namespace Document

/-! ## Making -/

/-- The document of a tree. -/
def ofTree (policy : NullPolicy) (settings : Settings) (tree : Node) : Document where
  tree := tree
  policy := policy
  current := settings.values
  strict := settings.strict
  blocks := Visit.blocks (tree.visits policy)
  kept := none

/-- The notices sent while the document of a tree is made. -/
def noticesOfTree (policy : NullPolicy) (tree : Node) : List Notice :=
  let visits := tree.visits policy
  Visit.notices visits ++ [.generated (Visit.blocks visits).length]

/-- The document of a tree, with its notices. -/
def make (policy : NullPolicy) (settings : Settings) (tree : Node) : Ingestion Document :=
  ⟨noticesOfTree policy tree, .ok (ofTree policy settings tree)⟩

/-- The document of a value. -/
def ofJson (policy : NullPolicy) (settings : Settings) (value : Json) : Ingestion Document := do
  let tree ← Node.ingest settings.validateInput value
  make policy settings tree

/-! ## Text -/

/-- The lines that say what the file is. -/
def banner : Text := "/**\n * @fileoverview This is an externs file.\n * @externs\n */"

/-- The line that asks for strict mode. -/
def strictDirective : Text := "'use strict';"

/-- The head of a document. -/
def head (strict : Bool) : Text := if strict then banner ++ "\n" ++ strictDirective else banner

/-- A head and blocks with an empty line between each two of them. -/
def assemble (strict : Bool) (blocks : List Text) : Text :=
  Text.joinWith "\n\n" (head strict :: blocks) ++ "\n"

/-- The plain text of a document. -/
def render (document : Document) : Text := assemble document.strict document.blocks

/-- The indentation that a value asks for. A text that is no integer asks for none. -/
def indentation : Json → Nat
  | .bool value => value.toNat
  | .int n => n.toNat
  | .float x => x.floor
  | .str t => ((Integer.ofOption? t).getD 0).toNat
  | _ => 0

/-- How a text is formatted, by the value of the setting for indentation. -/
abbrev Formatter := Json → Text → Text

/-- The formatter that lays out comments and bodies. -/
def layout : Formatter := fun indent text => Layout.format (indentation indent) text

/-- Why a formatter gives no text, in its own words. -/
structure FormatFault where
  reason : Text
  deriving DecidableEq

/-- A formatter that may fail. -/
abbrev PartialFormatter := Json → Text → Except FormatFault Text

/-- The first number that no text has as many code points as. -/
def lengthBound : Nat := 0x8000000000000000

def notNumber : FormatFault := ⟨"the indentation is no number"⟩

def tooWide : FormatFault := ⟨"the indentation is too wide"⟩

/-- What is wrong with a value as an indentation. -/
def indentationFault? : Json → Option FormatFault
  | .null | .arr _ | .obj _ => some notNumber
  | .float (.infinite _) => some tooWide
  | value => if lengthBound ≤ indentation value then some tooWide else none

/-- The formatter that lays out comments and bodies, if there can be such an indentation. It fails whether
or not anything is to be indented. -/
def boundedLayout : PartialFormatter := fun indent text =>
  match indentationFault? indent with
  | some fault => .error fault
  | none => .ok (layout indent text)

/-- The text after the formatting that the values of settings ask for. -/
def finish (format : Formatter) (values : SettingName → Json) (text : Text) : Text :=
  if (values .beautify).truthy then format (values .indentSize) text else text

/-- The same for a formatter that may fail. -/
def tryFinish (format : PartialFormatter) (values : SettingName → Json) (text : Text) :
    Except FormatFault Text :=
  if (values .beautify).truthy then format (values .indentSize) text else .ok text

/-- The code of a document: what was kept, or else the text formatted by the settings of now. -/
def codeBy (format : Formatter) (document : Document) : Text :=
  document.kept.getD (finish format document.current document.render)

/-- The document with its code kept. -/
def keepCodeBy (format : Formatter) (document : Document) : Document :=
  { document with kept := some (document.codeBy format) }

/-- The code of a document by a formatter that may fail. What was kept is not formatted again. -/
def tryCodeBy (format : PartialFormatter) (document : Document) : Except FormatFault Text :=
  match document.kept with
  | some code => .ok code
  | none => tryFinish format document.current document.render

/-- A formatter that never fails gives the same code in both ways. -/
theorem tryCodeBy_total (format : Formatter) (document : Document) :
    document.tryCodeBy (fun indent text => .ok (format indent text)) = .ok (document.codeBy format) := by
  rw [tryCodeBy, codeBy]
  cases document.kept with
  | some code => rfl
  | none =>
    simp only [Option.getD_none, tryFinish, finish]
    split <;> rfl

/-! ## Changes -/

/-- Assigns a setting without checking the value. -/
def assignSetting (document : Document) (setting : SettingName) (value : Json) : Document :=
  { document with
    current := fun other => if other = setting then value else document.current other }

/-- Assigns an attribute of a node of the tree. -/
def assignNode (document : Document) (position : Node.Position) (part : Node.Attribute)
    (value : Json) : Document :=
  { document with tree := document.tree.assign position part value }

/-- The block of the node at a position, as it would be written now. -/
def emitAt (document : Document) (position : Node.Position) : Option Text :=
  (document.tree.at? position).bind (·.declaration.block document.policy)

end Document

/-- The code of a value, unless the formatter fails. -/
def generate (format : Document.PartialFormatter) (settings : Settings) (value : Json) :
    Ingestion (Except Document.FormatFault Text) := do
  let document ← Document.ofJson .nullable settings value
  return document.tryCodeBy format

end Externs
