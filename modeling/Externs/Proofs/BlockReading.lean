import Externs.Proofs.Decoding

/-!
# Reading a block back

A block is read line by line. The tag in front of an annotation says what the annotation is about, and the
statement gives the name and, for an enumeration, the members. As long as no text that a block is made of has
a line feed, and no name has one of the code points that end a name, nothing that was written is lost.

* `Declaration.Legible`: what a declaration must be like so that its block can be read;
* `Outline`, `Declaration.outline`: what the block of a declaration says;
* `Declaration.annotations`, `Declaration.blockOf_eq`: the two parts from which a block is made;
* `Block.arguments`: what the annotations with a tag say;
* `Block.read`: the outline that a block gives;
* `Declaration.read_blockOf`: it is the outline of the declaration;
* `Declaration.block_determines_declaration`: so blocks with the same text have the same outline.
-/

namespace Externs

set_option autoImplicit false

open Text

/-! ## Texts cut at their first mark -/

namespace Text

/-- What stands before the first mark, and all of the text if there is none. -/
def before (mark : CodePoint) (t : Text) : Text := t.takeWhile (· ≠ mark)

/-- The text from the first mark on. -/
def onward (mark : CodePoint) (t : Text) : Text := t.dropWhile (· ≠ mark)

section Cut

variable {mark : CodePoint} {front : Text} (h : mark ∉ front)
include h

theorem passes_of_not_mem : ∀ p ∈ front, decide (p ≠ mark) = true := by
  intro p hp
  rw [decide_eq_true_iff]
  rintro rfl
  exact h hp

theorem before_append (back : Text) : before mark (front ++ mark :: back) = front :=
  takeWhile_append_eq (passes_of_not_mem h) (by simp)

theorem onward_append (back : Text) : onward mark (front ++ mark :: back) = mark :: back := by
  rw [onward, List.dropWhile_append_of_pos (passes_of_not_mem h), List.dropWhile_cons_of_neg (by simp)]

theorem onward_of_not_mem : onward mark front = [] := by
  have hall := @List.dropWhile_append_of_pos _ _ _ [] (passes_of_not_mem h)
  simpa [onward] using hall

end Cut

def space : CodePoint := .scalar ' '

/-- The code points that end a name. -/
def nameMarks : Text := " =:,()[]\x7b\x7d"

/-- A name has none of the code points that end a name; it may be empty. -/
def isName (t : Text) : Bool := t.all fun p => !nameMarks.contains p

theorem not_mem_of_isName {t : Text} (h : t.isName = true) {p : CodePoint} (hp : p ∈ nameMarks) : p ∉ t := by
  intro hmem
  have hkept := List.all_eq_true.mp h p hmem
  simp [hp] at hkept

end Text

/-! ## Declarations that can be read -/

namespace Descriptor

mutual

/-- Whether no string in a type has a line feed. -/
def isUnbroken : Descriptor → Bool
  | .plain value => value.isUnbroken
  | .record fields => fieldsUnbroken fields

def fieldsUnbroken : List Field → Bool
  | [] => true
  | .mk name type _ :: rest => decide (OneLine name) && isUnbroken type && fieldsUnbroken rest

end

mutual

theorem oneLine_render (policy : NullPolicy) : (type : Descriptor) → type.isUnbroken = true →
    (optional : Bool) → OneLine (type.render policy optional)
  | .plain value, h, optional => oneLine_renderValue policy value h optional
  | .record fields, h, optional => by
    have hbefore : OneLine (Text.ofString "\x7b") := by decide
    have hafter : OneLine (Text.ofString "\x7d") := by decide
    have hfields := oneLine_joinWith (by decide : OneLine (Text.ofString ", ")) (oneLine_renderFields policy fields h)
    simp [render, renderRecord, oneLine_markValue, hbefore, hfields, hafter]

theorem oneLine_renderFields (policy : NullPolicy) : (fields : List Field) → fieldsUnbroken fields = true →
    ∀ t ∈ renderFields policy fields, OneLine t
  | [], _, t, ht => by simp [renderFields] at ht
  | .mk name type optional :: rest, h, t, ht => by
    simp only [fieldsUnbroken, Bool.and_eq_true, decide_eq_true_eq] at h
    obtain ⟨⟨hname, htype⟩, hrest⟩ := h
    rcases List.mem_cons.mp ht with rfl | hmem
    · exact oneLine_renderField hname (oneLine_render policy type htype optional)
    · exact oneLine_renderFields policy rest hrest t hmem

end

theorem oneLine_render_orWildcard (policy : NullPolicy) {type : Descriptor} (h : type.isUnbroken = true)
    (optional : Bool) : OneLine (type.orWildcard.render policy optional) := by
  rw [orWildcard]
  split
  · exact oneLine_render policy type h optional
  · exact oneLine_renderToken policy (by decide) optional

end Descriptor

namespace Declaration

/-- A declaration in which no string has a line feed, and no name a code point that ends it. -/
structure Legible (d : Declaration) : Prop where
  name : OneLine d.nameToken ∧ d.nameToken.isName = true
  parameters : ∀ p ∈ d.parameters, OneLine p.name ∧ p.name.isName = true ∧ p.type.isUnbroken = true
  type : d.type.isUnbroken = true
  extended : ∀ t ∈ d.extended, OneLine t
  implemented : ∀ t ∈ d.implemented, OneLine t
  members : ∀ member ∈ d.enumMembers,
    OneLine member.name ∧ member.name.isName = true ∧ member.value.isUnbroken = true

section Lines

variable {d : Declaration} (h : d.Legible)
include h

theorem Legible.oneLine_enumLine : ∀ member ∈ d.enumMembers, OneLine (enumLine member) := by
  intro member hmember
  obtain ⟨hname, _, hvalue⟩ := h.members member hmember
  have hcolon : OneLine (Text.ofString ": ") := by decide
  simp [enumLine, hname, hcolon, Json.oneLine_token hvalue]

theorem Legible.onLines (policy : NullPolicy) : d.OnLines policy := by
  refine ⟨h.name.1, ?_, Descriptor.oneLine_render policy _ h.type _, h.extended, h.implemented,
    h.oneLine_enumLine⟩
  intro p hp
  obtain ⟨hname, _, htype⟩ := h.parameters p hp
  exact ⟨hname, Descriptor.oneLine_render_orWildcard policy htype _⟩

end Lines

end Declaration

/-! ## Outlines -/

namespace Kind

/-- The kinds that are written as functions. -/
def isCallable : Kind → Bool
  | .classKind | .interfaceKind | .functionKind | .methodKind => true
  | _ => false

/-- The kinds whose own type is written. -/
def isTyped : Kind → Bool
  | .functionKind | .methodKind | .propertyKind | .variableKind | .objectKind => true
  | _ => false

/-- Methods are written as functions, and variables as properties. -/
def written : Kind → Kind
  | .methodKind => .functionKind
  | .variableKind => .propertyKind
  | kind => kind

end Kind

/-- What a block says: the kind as which its declaration is written, the name, the parameters with their
annotations, the annotation of the declared type, the parent and the interface of a class, and the members of
an enumeration with their values. What the kind does not write is left out. -/
structure Outline where
  kind : Kind
  name : Text
  parameters : List (Text × Text)
  type : Option Text
  extended : Option Text
  implemented : Option Text
  members : List (Text × Text)
  deriving DecidableEq

namespace Declaration

/-- The name and the annotation of each parameter; one without a type takes anything. -/
def parameterTexts (policy : NullPolicy) (d : Declaration) : List (Text × Text) :=
  d.parameters.map fun p => (p.name, p.type.orWildcard.render policy p.optional)

/-- The annotation of the declared type, if there is one. -/
def typeText? (policy : NullPolicy) (d : Declaration) : Option Text :=
  if d.type.isDeclared then some (d.type.render policy d.isOptional) else none

/-- The name and the value of each member. -/
def memberTexts (d : Declaration) : List (Text × Text) := d.enumMembers.map fun m => (m.name, m.value.token)

/-- What the block of a declaration of the given kind says. -/
def outline (policy : NullPolicy) (d : Declaration) (kind : Kind) : Outline where
  kind := kind.written
  name := d.nameToken
  parameters := if kind.isCallable then d.parameterTexts policy else []
  type := if kind.isTyped then d.typeText? policy else none
  extended := if kind = .classKind then d.extended else none
  implemented := if kind = .classKind then d.implemented else none
  members := if kind = .enumKind then d.memberTexts else []

end Declaration

/-! ## The annotations of each kind -/

/-- The first words of annotations. -/
inductive Tag where
  | constructs
  | interface
  | enumerates
  | parameter
  | returned
  | declared
  | parent
  | implemented
  | template
  deriving DecidableEq

namespace Tag

def text : Tag → Text
  | .constructs => "@constructor"
  | .interface => "@interface"
  | .enumerates => "@enum"
  | .parameter => "@param"
  | .returned => "@return"
  | .declared => "@type"
  | .parent => "@extends"
  | .implemented => "@implements"
  | .template => "@template"

theorem text_inj {first second : Tag} : first.text = second.text ↔ first = second := by
  cases first <;> cases second <;> decide

theorem space_not_mem_text (tag : Tag) : space ∉ tag.text := by
  cases tag <;> decide

end Tag

namespace Declaration

/-- The annotations in the block of a declaration of the given kind; a module has none. -/
def annotations (policy : NullPolicy) (d : Declaration) : Kind → List Text
  | .moduleKind => []
  | .classKind => d.withParameterComments policy ([constructorComment] ++
      partComments Tag.parent.text d.extended ++ partComments Tag.implemented.text d.implemented)
  | .interfaceKind => d.withParameterComments policy [Tag.interface.text]
  | .functionKind | .methodKind =>
    d.withParameterComments policy [] ++ d.typeComments policy Tag.returned.text
  | .propertyKind | .variableKind | .objectKind => d.typeComments policy Tag.declared.text
  | .enumKind => [bracedComment Tag.enumerates.text "number"]

/-- What follows the name in the statement of a declaration of the given kind. -/
def statementValue (d : Declaration) : Kind → Text
  | .classKind | .interfaceKind | .functionKind | .methodKind =>
      " = function(" ++ d.parameterList ++ ") \x7b\x7d"
  | .propertyKind | .variableKind => []
  | .moduleKind | .objectKind => " = \x7b\x7d"
  | .enumKind => " = \x7b\n" ++ Text.joinWith ",\n" (d.enumMembers.map enumLine) ++ "\n\x7d"

theorem blockOf_eq (policy : NullPolicy) (d : Declaration) {kind : Kind} (h : kind ≠ .moduleKind) :
    d.blockOf policy kind = d.statementBlock (d.annotations policy kind) (d.statementValue kind) := by
  cases kind with
  | moduleKind => exact absurd rfl h
  | _ => rfl

theorem OnLines.annotations {policy : NullPolicy} {d : Declaration} (h : d.OnLines policy) (kind : Kind) :
    ∀ comment ∈ d.annotations policy kind, OneLine comment := by
  have hfunction : ∀ comment ∈ d.withParameterComments policy [] ++ d.typeComments policy Tag.returned.text,
      OneLine comment := by
    intro comment hcomment
    rcases List.mem_append.mp hcomment with hparameter | htype
    · exact h.withParameterComments (by simp) comment hparameter
    · exact h.typeComments (by decide) comment htype
  cases kind with
  | moduleKind => simp [Declaration.annotations]
  | classKind => exact h.withParameterComments h.classComments
  | interfaceKind => exact h.withParameterComments (by decide)
  | functionKind | methodKind => exact hfunction
  | propertyKind | variableKind | objectKind => exact h.typeComments (by decide)
  | enumKind =>
    simpa [Declaration.annotations] using oneLine_bracedComment (by decide) (by decide)

end Declaration

/-! ## The reader -/

namespace Block

/-- The lines of a comment up to its end, each without the star in front. -/
def annotations (block : Text) : List Text :=
  ((block.splitAt lineFeed).tail.takeWhile (· ≠ Declaration.commentEnd)).map (·.drop 3)

/-- The lines after the comment. -/
def statement (block : Text) : List Text :=
  ((block.splitAt lineFeed).dropWhile (· ≠ Declaration.commentEnd)).tail

/-- The first word of an annotation. -/
def tagOf (note : Text) : Text := note.before space

/-- What stands after the first word of an annotation, the space and the brace. -/
def argumentOf (note : Text) : Text := (note.onward space).drop 2

/-- The arguments of the annotations with a tag, each with the brace at its end. -/
def arguments (tag : Tag) (annotations : List Text) : List Text :=
  (annotations.filter (tagOf · = tag.text)).map argumentOf

/-- A text cut at its last space: what comes after the space, and what comes before the brace in front of
it. -/
def cutName (argument : Text) : Text × Text :=
  ((Text.before space argument.reverse).reverse, ((Text.onward space argument.reverse).drop 2).reverse)

/-- The kind that shows in a statement alone: a function, an object or a property. -/
def statementKind (line : Text) : Kind :=
  match (line.onward space)[3]? with
  | some p => if p = .scalar 'f' then .functionKind else .objectKind
  | none => .propertyKind

/-- The kind as which a declaration is written. -/
def kindOf (annotations : List Text) (line : Text) : Kind :=
  if arguments .constructs annotations ≠ [] then .classKind
  else if arguments .interface annotations ≠ [] then .interfaceKind
  else if arguments .enumerates annotations ≠ [] then .enumKind
  else statementKind line

/-- The name at the start of a statement. -/
def nameOf (line : Text) : Text := if space ∈ line then line.before space else line.dropLast

/-- The lines of a body without the commas at their ends. -/
def bodyLines : List Text → List Text
  | [] => []
  | [last] => if last.isEmpty then [] else [last]
  | line :: rest => line.dropLast :: bodyLines rest

/-- The name and the value on a line of a body. -/
def member (line : Text) : Text × Text :=
  (line.before (.scalar ':'), (line.onward (.scalar ':')).drop 2)

/-- What annotations say together with the lines of a statement. -/
def outlineOf (annotations : List Text) (line : Text) (body : List Text) : Outline where
  kind := kindOf annotations line
  name := nameOf line
  parameters := (arguments .parameter annotations).map cutName
  type := (arguments .returned annotations ++ arguments .declared annotations).head?.map List.dropLast
  extended := (arguments .parent annotations).head?.map List.dropLast
  implemented := (arguments .implemented annotations).head?.map List.dropLast
  members := (bodyLines body.dropLast).map member

/-- What a block says. One without a comment is that of a module, and starts with the word for it. -/
def read (block : Text) : Outline :=
  match statement block with
  | [] =>
    { kind := .moduleKind, name := nameOf (block.drop 4), parameters := [], type := none, extended := none,
      implemented := none, members := [] }
  | line :: body => outlineOf (annotations block) line body

/-- The names that the annotations of the parameters end with. -/
def parameterNames (block : Text) : List Text := (read block).parameters.map Prod.fst

/-- What stands between the brackets of a statement that assigns a function. -/
def listed (block : Text) : Text :=
  let rest := (((statement block).headD []).onward (.scalar '(')).drop 1
  rest.take (rest.length - 5)

/-! ## The lines of a block -/

theorem starred_ne_commentEnd (comments : List Text) :
    ∀ line ∈ comments.map (Text.ofString " * " ++ ·), decide (line ≠ Declaration.commentEnd) = true := by
  intro line hline
  obtain ⟨comment, _, rfl⟩ := List.mem_map.mp hline
  have hstart : (Text.ofString " * " ++ comment).head? = some space := rfl
  rw [decide_eq_true_iff]
  intro heq
  rw [heq] at hstart
  exact absurd hstart (by decide)

section Lines

variable (d : Declaration) {comments : List Text} (h : ∀ comment ∈ comments, OneLine comment) (value : Text)
include h

theorem splitAt_lines : (d.statementBlock comments value).splitAt lineFeed =
    Text.ofString "/**" :: (comments.map (Text.ofString " * " ++ ·) ++
      Declaration.commentEnd :: (d.nameToken ++ value ++ Text.ofString ";").splitAt lineFeed) := by
  rw [d.splitAt_statementBlock h, Declaration.commentLines, List.append_assoc, List.append_assoc]
  rfl

theorem annotations_statementBlock : annotations (d.statementBlock comments value) = comments := by
  have hdrop : (fun line : Text => line.drop 3) ∘ (fun comment => Text.ofString " * " ++ comment) = id := rfl
  rw [annotations, splitAt_lines d h, List.tail_cons, List.takeWhile_append_of_pos (starred_ne_commentEnd comments),
    List.takeWhile_cons_of_neg (by simp), List.append_nil, List.map_map, hdrop, List.map_id]

theorem statement_statementBlock : statement (d.statementBlock comments value) =
    (d.nameToken ++ value ++ Text.ofString ";").splitAt lineFeed := by
  have hopen : Text.ofString "/**" ≠ Declaration.commentEnd := by decide
  rw [statement, splitAt_lines d h, List.dropWhile_cons_of_pos (by simpa using hopen),
    List.dropWhile_append_of_pos (starred_ne_commentEnd comments), List.dropWhile_cons_of_neg (by simp),
    List.tail_cons]

end Lines

/-! ## Annotations by their tags -/

/-- All of the annotations have the tag. -/
def AllTagged (tag : Tag) (annotations : List Text) : Prop := ∀ a ∈ annotations, tagOf a = tag.text

instance (tag : Tag) (annotations : List Text) : Decidable (AllTagged tag annotations) :=
  inferInstanceAs (Decidable (∀ a ∈ annotations, tagOf a = tag.text))

theorem arguments_append (tag : Tag) (first second : List Text) :
    arguments tag (first ++ second) = arguments tag first ++ arguments tag second := by
  simp [arguments]

theorem arguments_of_allTagged {own : Tag} {annotations : List Text} (h : AllTagged own annotations) (tag : Tag) :
    arguments tag annotations = if own = tag then annotations.map argumentOf else [] := by
  unfold arguments
  split
  · next heq =>
    subst heq
    have hkeep : annotations.filter (tagOf · = own.text) = annotations :=
      List.filter_eq_self.mpr fun a ha => decide_eq_true (h a ha)
    rw [hkeep]
  · next hne =>
    have hnone : annotations.filter (tagOf · = tag.text) = [] := by
      refine List.filter_eq_nil_iff.mpr fun a ha => ?_
      rw [h a ha, decide_eq_true_iff, Tag.text_inj]
      exact hne
    rw [hnone]
    rfl

section Braced

variable (tag : Tag) (argument rest : Text)

theorem bracedComment_append : Declaration.bracedComment tag.text argument ++ rest =
    tag.text ++ space :: (.scalar '\x7b' :: (argument ++ Text.ofString "\x7d" ++ rest)) := by
  have hbrace : Text.ofString " \x7b" = [space, .scalar '\x7b'] := by decide
  simp [Declaration.bracedComment, hbrace]

theorem tagOf_bracedComment : tagOf (Declaration.bracedComment tag.text argument ++ rest) = tag.text := by
  rw [bracedComment_append, tagOf, before_append tag.space_not_mem_text]

theorem argumentOf_bracedComment : argumentOf (Declaration.bracedComment tag.text argument ++ rest) =
    argument ++ Text.ofString "\x7d" ++ rest := by
  rw [bracedComment_append, argumentOf, onward_append tag.space_not_mem_text]
  rfl

theorem arguments_bracedComment (other : Tag) :
    arguments other [Declaration.bracedComment tag.text argument] =
      if tag = other then [argument ++ Text.ofString "\x7d"] else [] := by
  have htag := tagOf_bracedComment tag argument []
  have hargument := argumentOf_bracedComment tag argument []
  rw [List.append_nil] at htag hargument
  rw [List.append_nil] at hargument
  have hall : AllTagged tag [Declaration.bracedComment tag.text argument] := by simpa [AllTagged] using htag
  rw [arguments_of_allTagged hall, List.map_singleton, hargument]

end Braced

theorem cutName_append {name : Text} (h : space ∉ name) (type : Text) :
    cutName (type ++ Text.ofString "\x7d" ++ (Text.ofString " " ++ name)) = (name, type) := by
  have hreverse : (type ++ Text.ofString "\x7d" ++ (Text.ofString " " ++ name)).reverse =
      name.reverse ++ space :: (.scalar '\x7d' :: type.reverse) := by
    have hspace : Text.ofString " " = [space] := by decide
    have hbrace : Text.ofString "\x7d" = [.scalar '\x7d'] := by decide
    simp [hspace, hbrace]
  have hfree : space ∉ name.reverse := fun hmem => h (List.mem_reverse.mp hmem)
  rw [cutName, hreverse, before_append hfree, onward_append hfree]
  simp

/-- The argument of a part that may be missing, with the brace at its end. -/
def withBrace (part : Option Text) : List Text := part.toList.map (· ++ Text.ofString "\x7d")

theorem head?_withBrace (part : Option Text) : (withBrace part).head?.map List.dropLast = part := by
  cases part with
  | none => rfl
  | some argument => exact congrArg some List.dropLast_concat

/-- The argument of the annotation of a parameter: its type, the brace at the end, and its name. -/
def parameterArgument (policy : NullPolicy) (p : Parameter) : Text :=
  p.type.orWildcard.render policy p.optional ++ Text.ofString "\x7d" ++ (Text.ofString " " ++ p.name)

theorem arguments_partComments (own : Tag) (part : Option Text) (tag : Tag) :
    arguments tag (Declaration.partComments own.text part) =
      if own = tag then withBrace part else [] := by
  cases part with
  | none => exact (ite_self []).symm
  | some argument => exact arguments_bracedComment own argument tag

theorem arguments_typeComments (policy : NullPolicy) (d : Declaration) (own tag : Tag) :
    arguments tag (d.typeComments policy own.text) =
      if own = tag then withBrace (d.typeText? policy) else [] := by
  rw [← arguments_partComments, Declaration.typeComments, Declaration.typeText?]
  split <;> rfl

theorem arguments_parameterComments (policy : NullPolicy) (d : Declaration) (tag : Tag) :
    arguments tag (d.parameters.map (Parameter.comment policy)) =
      if Tag.parameter = tag then d.parameters.map (parameterArgument policy) else [] := by
  have hall : AllTagged .parameter (d.parameters.map (Parameter.comment policy)) := by
    intro a ha
    obtain ⟨p, _, rfl⟩ := List.mem_map.mp ha
    rw [Parameter.comment, List.append_assoc]
    exact tagOf_bracedComment .parameter _ _
  have hargument : argumentOf ∘ Parameter.comment policy = parameterArgument policy := by
    funext p
    rw [Function.comp_apply, Parameter.comment, List.append_assoc]
    exact argumentOf_bracedComment .parameter _ _
  rw [arguments_of_allTagged hall, List.map_map, hargument]

/-- The annotations of parameters add arguments of their own tag; the one of the template parameter has a tag
that is not read. -/
theorem arguments_withParameterComments (policy : NullPolicy) (d : Declaration) (comments : List Text) {tag : Tag}
    (h : tag ≠ .template) :
    arguments tag (d.withParameterComments policy comments) = arguments tag comments ++
      if Tag.parameter = tag then d.parameters.map (parameterArgument policy) else [] := by
  have htemplate (given : Bool) :
      arguments tag (if given then [Declaration.templateComment] else []) = [] := by
    have hall : AllTagged .template (if given then [Declaration.templateComment] else []) := by
      cases given <;> decide
    rw [arguments_of_allTagged hall, if_neg (Ne.symm h)]
  unfold Declaration.withParameterComments
  rw [arguments_append, arguments_append, htemplate, List.append_nil, arguments_parameterComments]

theorem arguments_constructorComment (tag : Tag) :
    arguments tag [Declaration.constructorComment] = if Tag.constructs = tag then [[]] else [] :=
  arguments_of_allTagged (by decide) tag

theorem arguments_interface (tag : Tag) :
    arguments tag [Tag.interface.text] = if Tag.interface = tag then [[]] else [] :=
  arguments_of_allTagged (by decide) tag

/-! ## Statements -/

theorem nameOf_append {name : Text} (h : space ∉ name) (rest : Text) : nameOf (name ++ space :: rest) = name := by
  rw [nameOf, if_pos (by simp), before_append h]

theorem nameOf_bare {name : Text} (h : space ∉ name) : nameOf (name ++ Text.ofString ";") = name := by
  have hend : space ∉ Text.ofString ";" := by decide
  rw [nameOf, if_neg (by simp [h, hend])]
  exact List.dropLast_concat

theorem statementKind_append {name : Text} (h : space ∉ name) (rest : Text) :
    statementKind (name ++ space :: rest) =
      match rest[2]? with
      | some p => if p = .scalar 'f' then .functionKind else .objectKind
      | none => .propertyKind := by
  rw [statementKind, onward_append h]
  rfl

theorem statementKind_bare {name : Text} (h : space ∉ name) :
    statementKind (name ++ Text.ofString ";") = .propertyKind := by
  have hend : space ∉ Text.ofString ";" := by decide
  rw [statementKind, onward_of_not_mem (by simp [h, hend])]
  rfl

theorem bodyLines_cons {line : Text} {rest : List Text} (h : rest ≠ []) :
    bodyLines (line :: rest) = line.dropLast :: bodyLines rest := by
  cases rest with
  | nil => exact absurd rfl h
  | cons next others => rfl

theorem bodyLines_body {members : List EnumMember}
    (h : ∀ member ∈ members, OneLine (Declaration.enumLine member)) :
    bodyLines ((Text.joinWith ",\n" (members.map Declaration.enumLine)).splitAt lineFeed) =
      members.map Declaration.enumLine := by
  induction members with
  | nil => rfl
  | cons member rest ih =>
    have hmember := h member List.mem_cons_self
    have hrest := ih fun m hm => h m (List.mem_cons_of_mem _ hm)
    cases rest with
    | nil =>
      have hlast : (Text.joinWith ",\n" ([member].map Declaration.enumLine)).splitAt lineFeed =
          [Declaration.enumLine member] := splitAt_of_not_mem hmember
      rw [hlast, bodyLines, if_neg (by simp [Declaration.enumLine_ne_nil])]
      rfl
    | cons next others =>
      rw [Declaration.splitAt_body_cons hmember, bodyLines_cons (splitAt_ne_nil _ _), List.dropLast_concat, hrest]
      rfl

theorem member_enumLine {m : EnumMember} (h : CodePoint.scalar ':' ∉ m.name) :
    member (Declaration.enumLine m) = (m.name, m.value.token) := by
  have hcolon : Text.ofString ": " = [.scalar ':', space] := by decide
  rw [member, Declaration.enumLine, hcolon, List.append_assoc, List.cons_append, before_append h, onward_append h]
  rfl

end Block

/-! ## What was written is read -/

namespace Declaration

open Block

section Parts

variable {policy : NullPolicy} {d : Declaration} (h : d.OnLines policy)
include h

theorem OnLines.splitAt_module : (d.blockOf policy .moduleKind).splitAt lineFeed = [d.moduleBlock] := by
  have hvar : OneLine (Text.ofString "var ") := by decide
  have hempty : OneLine (Text.ofString " = \x7b\x7d;") := by decide
  have hone : OneLine d.moduleBlock := by simp [moduleBlock, hvar, h.name, hempty]
  exact splitAt_of_not_mem hone

theorem annotations_blockOf (kind : Kind) :
    Block.annotations (d.blockOf policy kind) = d.annotations policy kind := by
  by_cases hmodule : kind = .moduleKind
  · subst hmodule
    rw [Block.annotations, h.splitAt_module]
    rfl
  · rw [blockOf_eq policy d hmodule, annotations_statementBlock d (h.annotations kind)]

/-- Without a comment no line ends it, and nothing stands after it. -/
theorem statement_module : statement (d.blockOf policy .moduleKind) = [] := by
  have hstart : d.moduleBlock.head? = some (.scalar 'v') := rfl
  have hpass : d.moduleBlock ≠ Declaration.commentEnd := by
    intro heq
    rw [heq] at hstart
    exact absurd hstart (by decide)
  rw [statement, h.splitAt_module, List.dropWhile_cons_of_pos (by simpa using hpass)]
  rfl

theorem statement_blockOf {kind : Kind} (hmodule : kind ≠ .moduleKind) :
    statement (d.blockOf policy kind) =
      (d.nameToken ++ d.statementValue kind ++ Text.ofString ";").splitAt lineFeed := by
  rw [blockOf_eq policy d hmodule, statement_statementBlock d (h.annotations kind)]

theorem read_of_statement {kind : Kind} {line : Text} {body : List Text}
    (hstatement : statement (d.blockOf policy kind) = line :: body) :
    read (d.blockOf policy kind) = outlineOf (d.annotations policy kind) line body := by
  rw [Block.read, hstatement, annotations_blockOf h]

end Parts

/-- The statement that assigns a function. -/
def functionLine (d : Declaration) : Text :=
  d.nameToken ++ space :: (Text.ofString "= function(" ++ d.parameterList ++ Text.ofString ") \x7b\x7d;")

theorem splitAt_function {policy : NullPolicy} {d : Declaration} (h : d.OnLines policy) {kind : Kind}
    (hkind : kind.isCallable = true) :
    (d.nameToken ++ d.statementValue kind ++ Text.ofString ";").splitAt lineFeed = [d.functionLine] := by
  have hvalue : d.statementValue kind =
      Text.ofString " = function(" ++ d.parameterList ++ Text.ofString ") \x7b\x7d" := by
    cases kind with
    | classKind | interfaceKind | functionKind | methodKind => rfl
    | _ => cases hkind
  have hline : d.nameToken ++ d.statementValue kind ++ Text.ofString ";" = d.functionLine := by
    have hfirst : Text.ofString " = function(" = space :: Text.ofString "= function(" := by decide
    have hlast : Text.ofString ") \x7b\x7d;" = Text.ofString ") \x7b\x7d" ++ Text.ofString ";" := by decide
    rw [hvalue, functionLine, hfirst, hlast]
    simp
  have hone : OneLine d.functionLine := by
    have hspace : space ≠ lineFeed := by decide
    have hstart : OneLine (Text.ofString "= function(") := by decide
    have hend : OneLine (Text.ofString ") \x7b\x7d;") := by decide
    simp [functionLine, h.name, hspace, hstart, h.parameterList, hend]
  rw [hline, splitAt_of_not_mem hone]

theorem ne_module_of_isCallable {kind : Kind} (h : kind.isCallable = true) : kind ≠ .moduleKind := by
  rintro rfl
  cases h

theorem statement_function {policy : NullPolicy} {d : Declaration} (h : d.OnLines policy) {kind : Kind}
    (hkind : kind.isCallable = true) : statement (d.blockOf policy kind) = [d.functionLine] := by
  rw [statement_blockOf h (ne_module_of_isCallable hkind), splitAt_function h hkind]

section Reading

variable {d : Declaration} (h : d.Legible) (policy : NullPolicy)
include h

theorem Legible.space_not_mem : space ∉ d.nameToken := not_mem_of_isName h.name.2 (by decide)

theorem Legible.map_cutName :
    d.parameters.map (cutName ∘ parameterArgument policy) = d.parameterTexts policy := by
  refine List.map_congr_left fun p hp => ?_
  exact cutName_append (not_mem_of_isName (h.parameters p hp).2.1 (by decide)) _

theorem Legible.map_member :
    (bodyLines ((Text.joinWith ",\n" (d.enumMembers.map enumLine)).splitAt lineFeed)).map member =
      d.memberTexts := by
  rw [bodyLines_body h.oneLine_enumLine, List.map_map, memberTexts]
  refine List.map_congr_left fun m hm => ?_
  exact member_enumLine (not_mem_of_isName (h.members m hm).2.1 (by decide))

theorem Legible.nameOf_functionLine : nameOf d.functionLine = d.nameToken := nameOf_append h.space_not_mem _

theorem Legible.statementKind_functionLine : statementKind d.functionLine = .functionKind :=
  statementKind_append h.space_not_mem _

theorem Legible.read_module : read (d.blockOf policy .moduleKind) = d.outline policy .moduleKind := by
  have hname : nameOf ((d.blockOf policy .moduleKind).drop 4) = d.nameToken := nameOf_append h.space_not_mem _
  rw [Block.read, statement_module (h.onLines policy)]
  simp [outline, hname, Kind.isCallable, Kind.isTyped, Kind.written]

theorem Legible.read_class : read (d.blockOf policy .classKind) = d.outline policy .classKind := by
  have harguments {tag : Tag} (htag : tag ≠ .template) : arguments tag (d.annotations policy .classKind) =
      (if Tag.constructs = tag then [[]] else []) ++ (if Tag.parent = tag then withBrace d.extended else []) ++
        (if Tag.implemented = tag then withBrace d.implemented else []) ++
          if Tag.parameter = tag then d.parameters.map (parameterArgument policy) else [] := by
    rw [annotations, arguments_withParameterComments policy d _ htag, arguments_append, arguments_append,
      arguments_constructorComment, arguments_partComments, arguments_partComments]
  rw [read_of_statement (h.onLines policy) (statement_function (h.onLines policy) rfl)]
  simp [outlineOf, outline, kindOf, harguments, h.nameOf_functionLine, h.map_cutName policy, head?_withBrace,
    Kind.isCallable, Kind.isTyped, Kind.written, bodyLines]

theorem Legible.read_interface :
    read (d.blockOf policy .interfaceKind) = d.outline policy .interfaceKind := by
  have harguments {tag : Tag} (htag : tag ≠ .template) : arguments tag (d.annotations policy .interfaceKind) =
      (if Tag.interface = tag then [[]] else []) ++
        if Tag.parameter = tag then d.parameters.map (parameterArgument policy) else [] := by
    rw [annotations, arguments_withParameterComments policy d _ htag, arguments_interface]
  rw [read_of_statement (h.onLines policy) (statement_function (h.onLines policy) rfl)]
  simp [outlineOf, outline, kindOf, harguments, h.nameOf_functionLine, h.map_cutName policy, Kind.isCallable,
    Kind.isTyped, Kind.written, bodyLines]

theorem Legible.read_functionKind :
    read (d.blockOf policy .functionKind) = d.outline policy .functionKind := by
  have harguments {tag : Tag} (htag : tag ≠ .template) : arguments tag (d.annotations policy .functionKind) =
      (if Tag.parameter = tag then d.parameters.map (parameterArgument policy) else []) ++
        if Tag.returned = tag then withBrace (d.typeText? policy) else [] := by
    rw [annotations, arguments_append, arguments_withParameterComments policy d _ htag, arguments_typeComments]
    rfl
  rw [read_of_statement (h.onLines policy) (statement_function (h.onLines policy) rfl)]
  simp [outlineOf, outline, kindOf, harguments, h.nameOf_functionLine, h.statementKind_functionLine,
    h.map_cutName policy, head?_withBrace, Kind.isCallable, Kind.isTyped, Kind.written, bodyLines]

theorem Legible.read_property : read (d.blockOf policy .propertyKind) = d.outline policy .propertyKind := by
  have hone : OneLine (d.nameToken ++ [] ++ Text.ofString ";") := by
    have hend : OneLine (Text.ofString ";") := by decide
    simp [h.name.1, hend]
  have hstatement : statement (d.blockOf policy .propertyKind) = [d.nameToken ++ [] ++ Text.ofString ";"] := by
    rw [statement_blockOf (h.onLines policy) (by decide)]
    exact splitAt_of_not_mem hone
  rw [read_of_statement (h.onLines policy) hstatement]
  simp [outlineOf, outline, kindOf, annotations, arguments_typeComments, nameOf_bare h.space_not_mem,
    statementKind_bare h.space_not_mem, head?_withBrace, Kind.isCallable, Kind.isTyped, Kind.written, bodyLines]

theorem Legible.read_object : read (d.blockOf policy .objectKind) = d.outline policy .objectKind := by
  have hone : OneLine (d.nameToken ++ space :: Text.ofString "= \x7b\x7d;") := by
    have hvalue : OneLine (space :: Text.ofString "= \x7b\x7d;") := by decide
    rw [oneLine_append]
    exact ⟨h.name.1, hvalue⟩
  have hstatement : statement (d.blockOf policy .objectKind) =
      [d.nameToken ++ space :: Text.ofString "= \x7b\x7d;"] := by
    rw [statement_blockOf (h.onLines policy) (by decide), List.append_assoc]
    exact splitAt_of_not_mem hone
  have hkind : statementKind (d.nameToken ++ space :: Text.ofString "= \x7b\x7d;") = .objectKind :=
    statementKind_append h.space_not_mem _
  rw [read_of_statement (h.onLines policy) hstatement]
  simp [outlineOf, outline, kindOf, annotations, arguments_typeComments, nameOf_append h.space_not_mem, hkind,
    head?_withBrace, Kind.isCallable, Kind.isTyped, Kind.written, bodyLines]

theorem Legible.read_enum : read (d.blockOf policy .enumKind) = d.outline policy .enumKind := by
  have hname : nameOf (d.nameToken ++ Declaration.bodyStart) = d.nameToken := nameOf_append h.space_not_mem _
  have hstatement := statement_blockOf (h.onLines policy) (by decide : Kind.enumKind ≠ .moduleKind)
  rw [read_of_statement (h.onLines policy) (hstatement.trans (splitAt_enumStatement h.name.1))]
  simp [outlineOf, outline, kindOf, annotations, arguments_bracedComment, hname, h.map_member, Kind.isCallable,
    Kind.isTyped, Kind.written]

/-- **A block is read back.** What it says is the outline of the declaration. -/
theorem read_blockOf (kind : Kind) : read (d.blockOf policy kind) = d.outline policy kind := by
  cases kind with
  | moduleKind => exact h.read_module policy
  | classKind => exact h.read_class policy
  | interfaceKind => exact h.read_interface policy
  | functionKind | methodKind => exact h.read_functionKind policy
  | propertyKind | variableKind => exact h.read_property policy
  | objectKind => exact h.read_object policy
  | enumKind => exact h.read_enum policy

theorem parameterNames_blockOf {kind : Kind} (hkind : kind.isCallable = true) :
    parameterNames (d.blockOf policy kind) = d.parameters.map (·.name) := by
  rw [parameterNames, read_blockOf h, outline, if_pos hkind, parameterTexts, List.map_map]
  rfl

theorem listed_blockOf {kind : Kind} (hkind : kind.isCallable = true) :
    listed (d.blockOf policy kind) = d.parameterList := by
  have hbracket : CodePoint.scalar '(' ∉ d.nameToken ++ Text.ofString " = function" := by
    have hvalue : CodePoint.scalar '(' ∉ Text.ofString " = function" := by decide
    simp [not_mem_of_isName h.name.2 (by decide : CodePoint.scalar '(' ∈ nameMarks), hvalue]
  have hline : d.functionLine = (d.nameToken ++ Text.ofString " = function") ++
      .scalar '(' :: (d.parameterList ++ Text.ofString ") \x7b\x7d;") := by
    have hstart : space :: Text.ofString "= function(" = Text.ofString " = function" ++ [.scalar '('] := by decide
    have hregroup : d.functionLine = d.nameToken ++
        ((space :: Text.ofString "= function(") ++ (d.parameterList ++ Text.ofString ") \x7b\x7d;")) := by
      simp [functionLine]
    rw [hregroup, hstart]
    simp
  have hlength : (d.parameterList ++ Text.ofString ") \x7b\x7d;").length - 5 = d.parameterList.length := by
    have hend : (Text.ofString ") \x7b\x7d;").length = 5 := by decide
    rw [List.length_append, hend, Nat.add_sub_cancel]
  rw [listed, statement_function (h.onLines policy) hkind, List.headD_cons, hline, onward_append hbracket,
    List.drop_one, List.tail_cons, hlength, List.take_left]

end Reading

/-- **A block determines its declaration.** Declarations with the same block are written as the same kind, and
have the same name and the same parts that the kind writes. In the block of a function the annotations of the
parameters name, in order, the parameters that the statement lists. -/
theorem block_determines_declaration (policy : NullPolicy) :
    (∀ (first second : Declaration) (kind kind' : Kind), first.Legible → second.Legible →
      first.kind? = some kind → second.kind? = some kind' → first.block policy = second.block policy →
      first.outline policy kind = second.outline policy kind') ∧
    ∀ (d : Declaration) (kind : Kind), d.Legible → d.kind? = some kind → kind.isCallable = true →
      ∃ text, d.block policy = some text ∧ parameterNames text = d.parameters.map (·.name) ∧
        listed text = Text.joinWith ", " (parameterNames text) := by
  have hblock {d : Declaration} {kind : Kind} (hkind : d.kind? = some kind) :
      d.block policy = some (d.blockOf policy kind) := by rw [block, hkind, Option.map_some]
  refine ⟨?_, ?_⟩
  · intro first second kind kind' hfirst hsecond hkind hkind' hsame
    rw [hblock hkind, hblock hkind'] at hsame
    rw [← read_blockOf hfirst, ← read_blockOf hsecond, Option.some.inj hsame]
  · intro d kind hlegible hkind hcallable
    have hnames := parameterNames_blockOf hlegible policy hcallable
    refine ⟨d.blockOf policy kind, hblock hkind, hnames, ?_⟩
    rw [listed_blockOf hlegible policy hcallable, hnames, parameterList]

/-- A function of two parameters, under one of the two tags that such a declaration may have. -/
def pairSample (tag : Text) : Declaration :=
  ofEntries [("kind", .str tag), ("qualifiedName", .str "f"), ("type", .str "T"),
    ("parameters", .arr [.obj [("name", .str "a"), ("type", .arr [.str "x y", .str "z"])],
      .obj [("name", .str "b"), ("isOptional", .bool true)]])]

theorem block_determines_declaration_pair :
    (pairSample "Method").outline .nullable .methodKind = (pairSample "Function").outline .nullable .functionKind ∧
      ∃ text, (pairSample "Method").block .nullable = some text ∧
        parameterNames text = [Text.ofString "a", Text.ofString "b"] ∧ listed text = Text.ofString "a, b" := by
  have hmethod : (pairSample "Method").Legible :=
    ⟨by decide, by decide, by decide, by decide, by decide, by decide⟩
  have hfunction : (pairSample "Function").Legible :=
    ⟨by decide, by decide, by decide, by decide, by decide, by decide⟩
  obtain ⟨hsame, hlisted⟩ := block_determines_declaration .nullable
  obtain ⟨text, htext, hnames, hlist⟩ := hlisted (pairSample "Method") .methodKind hmethod (by decide) rfl
  have htwo : parameterNames text = [Text.ofString "a", Text.ofString "b"] := hnames
  refine ⟨hsame _ _ _ _ hmethod hfunction (by decide) (by decide) rfl, text, htext, htwo, ?_⟩
  rw [hlist, htwo]
  decide

end Declaration

end Externs
