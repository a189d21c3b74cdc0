import Externs.Document

/-!
# Sessions

A document is used after it was made: its text is read, and its settings and the nodes of its tree are
assigned to in between. Other documents may be made meanwhile, or turn out not to be possible.

* `Document.Operation`, `Document.Answer`: what is done with a document, and what comes of it;
* `Document.answer`, `Document.after`: the answer to an operation, and the document after it;
* `Document.run`, `Document.answers`: the same for operations one after the other.
-/

namespace Externs.Document

set_option autoImplicit false

/-- What is done with a document. -/
inductive Operation where
  | blocks
  | render
  | code
  | assignSetting (setting : SettingName) (value : Json)
  | assignNode (position : Node.Position) (part : Node.Attribute) (value : Json)
  /-- Writes the block of a node as it is now. -/
  | emit (position : Node.Position)
  /-- Tries to make another document. -/
  | build (policy : NullPolicy) (sources : Settings.Sources) (value : Json)

/-- What comes of an operation. -/
inductive Answer where
  | blocks (blocks : List Text)
  | text (text : Text)
  | done
  | block (block : Option Text)
  | refused (faults : List SettingFault)
  | malformed (error : Malformed)
  | built (declarations : Nat)

/-- What comes of an attempt to make a document. -/
def buildAnswer (policy : NullPolicy) (sources : Settings.Sources) (value : Json) : Answer :=
  match Settings.resolve sources with
  | .error faults => .refused faults
  | .ok settings =>
    match (ofJson policy settings value).outcome with
    | .error error => .malformed error
    | .ok other => .built other.blocks.length

/-- The answer of a document to an operation. -/
def answer (format : Formatter) (document : Document) : Operation → Answer
  | .blocks => .blocks document.blocks
  | .render => .text document.render
  | .code => .text (document.codeBy format)
  | .assignSetting _ _ | .assignNode _ _ _ => .done
  | .emit position => .block (document.emitAt position)
  | .build policy sources value => buildAnswer policy sources value

/-- The document after an operation. -/
def after (format : Formatter) (document : Document) : Operation → Document
  | .code => document.keepCodeBy format
  | .assignSetting setting value => document.assignSetting setting value
  | .assignNode position part value => document.assignNode position part value
  | .blocks | .render | .emit _ | .build _ _ _ => document

/-- The document after operations, one after the other. -/
def run (format : Formatter) (document : Document) (operations : List Operation) : Document :=
  operations.foldl (after format) document

/-- The answers to operations, one after the other. -/
def answers (format : Formatter) : Document → List Operation → List Answer
  | _, [] => []
  | document, operation :: rest =>
    document.answer format operation :: answers format (document.after format operation) rest

end Externs.Document
