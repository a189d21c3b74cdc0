import Externs.Declaration
import Externs.Descriptor.Rendering

/-!
# Blocks

A declaration is written as one block: a comment with its annotations, and a statement.

* `Declaration.statementBlock`: a block from its annotations and the right-hand side of its statement;
* `Declaration.withParameterComments`: the annotations of the parameters;
* `Declaration.classBlock` and the like: the block of each kind;
* `Declaration.block`: the block of a declaration of a known kind.
-/

namespace Externs

set_option autoImplicit false

/-! ## Annotations -/

/-- The annotation of a constructor. -/
def Declaration.constructorComment : Text := "@constructor"

/-- The annotation of a template parameter. -/
def Declaration.templateComment : Text := "@template T"

/-- An annotation with an argument in braces. -/
def Declaration.bracedComment (tag argument : Text) : Text := tag ++ " \x7b" ++ argument ++ "\x7d"

namespace Parameter

/-- The annotation of a parameter. A parameter without a type takes anything. -/
def comment (policy : NullPolicy) (p : Parameter) : Text :=
  Declaration.bracedComment "@param" (p.type.orWildcard.render policy p.optional) ++ " " ++ p.name

/-- Whether the type of a parameter names the template parameter. -/
def mentionsTemplate (p : Parameter) : Bool := p.type.orWildcard.plainText.mentionsTemplate

end Parameter

namespace Declaration

/-- The annotation of the declared type under a tag; none without a type. -/
def typeComments (policy : NullPolicy) (tag : Text) (d : Declaration) : List Text :=
  if d.type.isDeclared then [bracedComment tag (d.type.render policy d.isOptional)] else []

/-- The annotation of a part that may be missing. -/
def partComments (tag : Text) : Option Text → List Text
  | some argument => [bracedComment tag argument]
  | none => []

/-- The annotations so far, followed by those of the parameters. A parameter that names the template
parameter makes it one of a constructor or of a static declaration. -/
def withParameterComments (policy : NullPolicy) (d : Declaration) (comments : List Text) : List Text :=
  let template := d.parameters.any Parameter.mentionsTemplate &&
    (comments.contains constructorComment || d.isStatic)
  comments ++ d.parameters.map (Parameter.comment policy) ++
    (if template then [templateComment] else [])

/-! ## Blocks -/

/-- The line that ends a comment. -/
def commentEnd : Text := "*/"

/-- What the line before the members of an enumeration ends with. -/
def bodyStart : Text := " = \x7b"

/-- The line after the members of an enumeration. -/
def bodyEnd : Text := "\x7d;"

/-- The lines of a comment that holds the given annotations. -/
def commentLines (comments : List Text) : List Text :=
  [Text.ofString "/**"] ++ comments.map (Text.ofString " * " ++ ·) ++ [commentEnd]

/-- The block with the given annotations, whose statement has `value` after the name. -/
def statementBlock (d : Declaration) (comments : List Text) (value : Text) : Text :=
  Text.joinWith [Text.lineFeed] (commentLines comments ++ [d.nameToken ++ value ++ ";"])

/-- The names of the parameters. -/
def parameterList (d : Declaration) : Text := Text.joinWith ", " (d.parameters.map (·.name))

/-- The block with the given annotations, whose statement assigns a function. -/
def functionStatement (d : Declaration) (comments : List Text) : Text :=
  d.statementBlock comments (" = function(" ++ d.parameterList ++ ") \x7b\x7d")

/-- A module has no annotations. -/
def moduleBlock (d : Declaration) : Text := "var " ++ d.nameToken ++ " = \x7b\x7d;"

/-- A class is a constructor, possibly with a parent and an interface. -/
def classBlock (policy : NullPolicy) (d : Declaration) : Text :=
  d.functionStatement (d.withParameterComments policy
    ([constructorComment] ++ partComments "@extends" d.extended ++
      partComments "@implements" d.implemented))

/-- An interface is written like a class, under its own annotation. -/
def interfaceBlock (policy : NullPolicy) (d : Declaration) : Text :=
  d.functionStatement (d.withParameterComments policy ["@interface"])

/-- The type of a function is what it returns. -/
def functionBlock (policy : NullPolicy) (d : Declaration) : Text :=
  d.functionStatement (d.withParameterComments policy [] ++ d.typeComments policy "@return")

/-- A property has no value. -/
def propertyBlock (policy : NullPolicy) (d : Declaration) : Text :=
  d.statementBlock (d.typeComments policy "@type") []

/-- An object has an empty value. -/
def objectBlock (policy : NullPolicy) (d : Declaration) : Text :=
  d.statementBlock (d.typeComments policy "@type") " = \x7b\x7d"

/-- A line of an enumeration. -/
def enumLine (member : EnumMember) : Text := member.name ++ ": " ++ member.value.token

/-- The members of an enumeration stand on lines of their own. -/
def enumBlock (d : Declaration) : Text :=
  d.statementBlock ["@enum \x7bnumber\x7d"]
    (" = \x7b\n" ++ Text.joinWith ",\n" (d.enumMembers.map enumLine) ++ "\n\x7d")

/-- The block of a declaration of the given kind. -/
def blockOf (policy : NullPolicy) (d : Declaration) : Kind → Text
  | .moduleKind => d.moduleBlock
  | .classKind => d.classBlock policy
  | .interfaceKind => d.interfaceBlock policy
  | .functionKind | .methodKind => d.functionBlock policy
  | .propertyKind | .variableKind => d.propertyBlock policy
  | .objectKind => d.objectBlock policy
  | .enumKind => d.enumBlock

/-- The block of a declaration. A tag that names no kind gives none. -/
def block (policy : NullPolicy) (d : Declaration) : Option Text := d.kind?.map (d.blockOf policy)

end Declaration

end Externs
