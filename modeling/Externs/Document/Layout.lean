import Externs.Declaration.Block

/-!
# Formatted documents

A formatter for plain documents. It lines up comments and indents the bodies of enumerations, and leaves all
other lines of a document as they are. It is the one that the command line brings along; what is proved of
code and of runs holds for every other formatter too.

* `Layout.formatLines`: lines before and after formatting;
* `Layout.format`: a document before and after formatting.
-/

namespace Externs.Layout

set_option autoImplicit false

open Declaration

/-- A line of a body: indented, and without spaces at its end. -/
def indentLine (indent : Nat) (line : Text) : Text :=
  Text.trimEnd (· = .scalar ' ') (List.replicate indent (.scalar ' ') ++ line)

/-- Lines in order; `inBody` says whether the first of them stands in a body. -/
def formatLines (indent : Nat) : Bool → List Text → List Text
  | _, [] => []
  | true, line :: rest =>
    if line = bodyEnd then line :: formatLines indent false rest
    else indentLine indent line :: formatLines indent true rest
  | false, line :: rest =>
    (if line = commentEnd then [.scalar ' '] ++ line else line) ::
      formatLines indent (bodyStart.isSuffixOf line) rest

/-- The lines of a text, without the empty one after its last line feed. -/
def linesOf (code : Text) : List Text :=
  let lines := code.splitAt Text.lineFeed
  if lines.getLast? = some [] then lines.dropLast else lines

/-- The formatted document, without a line feed at its end. -/
def format (indent : Nat) (code : Text) : Text :=
  Text.joinWith [Text.lineFeed] (formatLines indent false (linesOf code))

end Externs.Layout
