import Externs.Proofs.CheckedRuns
import Externs.Proofs.OneLine
import Externs.Proofs.ShownPaths
import Externs.Proofs.Walked

/-!
# Reading a document back

The plain text of a document is its head and its blocks with empty lines between them. A block may have
an empty line of its own, in the body of an enumeration without members; the end of the body follows it.
No block starts with such a line, so empty lines can be told apart, and head and blocks are read back.

* `Document.cutLines`: lines cut into pieces at the empty lines between blocks;
* `Document.decode`: the head and the blocks of a text;
* `Document.Closed`: lines that are not cut;
* `Document.IsPiece`, `Declaration.isPiece_blockOf`: a block is one piece;
* `Document.render_decodes`: a document is read back from its text.
-/

namespace Externs

set_option autoImplicit false

open Text

/-! ## Lines -/

namespace Text

theorem joinWith_cons_cons (separator part next : Text) (others : List Text) :
    joinWith separator (part :: next :: others) =
      part ++ separator ++ joinWith separator (next :: others) := rfl

theorem splitAt_append_cons (mark : CodePoint) (s t : Text) :
    splitAt mark (s ++ mark :: t) = splitAt mark s ++ splitAt mark t := by
  induction s with
  | nil => simp [splitAt]
  | cons p rest ih =>
    rw [List.cons_append]
    by_cases hp : p = mark
    · simp [splitAt, hp, ih]
    · cases hrest : splitAt mark rest with
      | nil => exact absurd hrest (splitAt_ne_nil mark rest)
      | cons piece pieces => simp [splitAt, hp, ih, hrest]

/-- All parts but the last are pieces as they are, if they are without the mark. -/
theorem splitAt_joinWith_concat {mark : CodePoint} {parts : List Text}
    (h : ∀ part ∈ parts, mark ∉ part) (last : Text) :
    splitAt mark (joinWith [mark] (parts ++ [last])) = parts ++ splitAt mark last := by
  induction parts with
  | nil => rfl
  | cons part rest ih =>
    have hpart := h part List.mem_cons_self
    have hrest := ih fun p hp => h p (List.mem_cons_of_mem _ hp)
    have hne : rest ++ [last] ≠ [] := by simp
    rw [List.cons_append, joinWith, List.append_assoc, List.singleton_append, splitAt_append hpart, hrest]
    · rfl
    · exact hne

end Text

namespace Document

/-! ## The decoder -/

/-- Lines cut at empty ones. An empty line before the end of a body belongs to the body. -/
def cutLines : List Text → List (List Text)
  | [] => [[]]
  | line :: rest =>
    if line.isEmpty && rest.head? != some Declaration.bodyEnd then [] :: cutLines rest
    else match cutLines rest with
      | [] => [[line]]
      | piece :: pieces => (line :: piece) :: pieces

/-- Whether a text is that of a strict document, and its blocks. -/
def decode (text : Text) : Bool × List Text :=
  let pieces := (cutLines (Text.splitAt lineFeed text.dropLast)).map (Text.joinWith [lineFeed])
  (pieces.head? == some (head true), pieces.tail)

/-! ## Lines that are not cut -/

/-- Every empty line stands right before the end of a body. -/
def Closed : List Text → Prop
  | [] => True
  | line :: rest => (line = [] → rest.head? = some Declaration.bodyEnd) ∧ Closed rest

theorem closed_of_ne_nil {lines : List Text} (h : ∀ line ∈ lines, line ≠ []) : Closed lines := by
  induction lines with
  | nil => trivial
  | cons line rest ih =>
    have hline := h line List.mem_cons_self
    exact ⟨fun hnil => absurd hnil hline, ih fun l hl => h l (List.mem_cons_of_mem _ hl)⟩

theorem Closed.append {first second : List Text} (h : Closed first) (h' : Closed second) :
    Closed (first ++ second) := by
  induction first with
  | nil => exact h'
  | cons line rest ih =>
    obtain ⟨hline, hrest⟩ := h
    refine ⟨fun hnil => ?_, ih hrest⟩
    have hhead := hline hnil
    simp [hhead]

theorem cutLines_of_closed {lines : List Text} (h : Closed lines) : cutLines lines = [lines] := by
  induction lines with
  | nil => rfl
  | cons line rest ih =>
    obtain ⟨hline, hrest⟩ := h
    have hkeep : (line.isEmpty && rest.head? != some Declaration.bodyEnd) = false := by
      cases line with
      | nil => simp [hline rfl]
      | cons p more => rfl
    simp [cutLines, hkeep, ih hrest]

/-- Closed lines are one piece, if an empty line follows that is not in a body. -/
theorem cutLines_append {lines : List Text} (h : Closed lines) {more : List Text}
    (hmore : more.head? ≠ some Declaration.bodyEnd) :
    cutLines (lines ++ [] :: more) = lines :: cutLines more := by
  induction lines with
  | nil => simp [cutLines, hmore]
  | cons line rest ih =>
    obtain ⟨hline, hrest⟩ := h
    have hkeep : (line.isEmpty && (rest ++ [] :: more).head? != some Declaration.bodyEnd) = false := by
      cases line with
      | nil => simp [hline rfl]
      | cons p others => rfl
    rw [List.cons_append, cutLines, hkeep, ih hrest]
    rfl

/-- A text whose lines make one piece, after an empty line too. -/
structure IsPiece (text : Text) : Prop where
  closed : Closed (text.splitAt lineFeed)
  start : (text.splitAt lineFeed).head? ≠ some Declaration.bodyEnd

theorem head?_splitAt_joinWith (text : Text) (rest : List Text) :
    ((Text.joinWith "\n\n" (text :: rest)).splitAt lineFeed).head? = (text.splitAt lineFeed).head? := by
  cases rest with
  | nil => rfl
  | cons next others =>
    have hfeeds : Text.ofString "\n\n" = [lineFeed, lineFeed] := by decide
    have hne := splitAt_ne_nil lineFeed text
    rw [joinWith_cons_cons, hfeeds, List.append_assoc, List.cons_append, splitAt_append_cons,
      List.head?_append_of_ne_nil _ hne]

/-- Texts with empty lines between them are cut apart again. -/
theorem cutLines_joinWith {text : Text} {rest : List Text} (htext : Closed (text.splitAt lineFeed))
    (hrest : ∀ other ∈ rest, IsPiece other) :
    cutLines ((Text.joinWith "\n\n" (text :: rest)).splitAt lineFeed) =
      (text :: rest).map (Text.splitAt lineFeed) := by
  induction rest generalizing text with
  | nil => exact cutLines_of_closed htext
  | cons next others ih =>
    have hnext := hrest next List.mem_cons_self
    have hcut := ih hnext.closed fun other hother => hrest other (List.mem_cons_of_mem _ hother)
    have hstart := hnext.start
    rw [← head?_splitAt_joinWith next others] at hstart
    have hfeeds : Text.ofString "\n\n" = [lineFeed, lineFeed] := by decide
    have hlines : (Text.joinWith "\n\n" (text :: next :: others)).splitAt lineFeed =
        text.splitAt lineFeed ++ [] :: (Text.joinWith "\n\n" (next :: others)).splitAt lineFeed := by
      rw [joinWith_cons_cons, hfeeds, List.append_assoc, List.cons_append, List.singleton_append,
        splitAt_append_cons, Text.splitAt.eq_2, if_pos rfl]
    rw [hlines, cutLines_append htext hstart, hcut]
    rfl

theorem closed_head (strict : Bool) : Closed ((head strict).splitAt lineFeed) := by
  apply closed_of_ne_nil
  cases strict <;> decide

theorem decode_assemble (strict : Bool) {blocks : List Text} (h : ∀ block ∈ blocks, IsPiece block) :
    decode (assemble strict blocks) = (strict, blocks) := by
  have hfeed : Text.ofString "\n" = [lineFeed] := by decide
  have hjoin : (Text.joinWith [lineFeed]) ∘ (Text.splitAt lineFeed) = id := by
    funext t
    exact joinWith_splitAt lineFeed t
  have hpieces := cutLines_joinWith (closed_head strict) h
  unfold decode assemble
  rw [hfeed, List.dropLast_concat, hpieces, List.map_map, hjoin, List.map_id]
  cases strict <;> rfl

end Document

/-! ## Blocks -/

namespace Declaration

open Document

theorem of_mem_commentLines {comments : List Text} (hcomments : ∀ comment ∈ comments, OneLine comment) :
    ∀ line ∈ commentLines comments, OneLine line ∧ line ≠ [] := by
  have hopen : OneLine (Text.ofString "/**") := by decide
  have hend : OneLine (Text.ofString "*/") := by decide
  have hstar : OneLine (Text.ofString " * ") := by decide
  intro line hline
  simp only [commentLines, List.mem_append, List.mem_singleton, List.mem_map] at hline
  rcases hline with (rfl | ⟨comment, hcomment, rfl⟩) | rfl
  · exact ⟨hopen, by decide⟩
  · have hne : Text.ofString " * " ≠ [] := by decide
    simp [hstar, hcomments comment hcomment, hne]
  · exact ⟨hend, by decide⟩

/-- The lines of a block: those of its comment, and then those of its statement. -/
theorem splitAt_statementBlock (d : Declaration) {comments : List Text}
    (hcomments : ∀ comment ∈ comments, OneLine comment) (value : Text) :
    (d.statementBlock comments value).splitAt lineFeed =
      commentLines comments ++ (d.nameToken ++ value ++ Text.ofString ";").splitAt lineFeed :=
  splitAt_joinWith_concat (fun line hline => (of_mem_commentLines hcomments line hline).1) _

/-- A statement after a comment is one piece, if its own lines are closed. -/
theorem isPiece_statementBlock (d : Declaration) {comments : List Text}
    (hcomments : ∀ comment ∈ comments, OneLine comment) {value : Text}
    (hstatement : Closed ((d.nameToken ++ value ++ Text.ofString ";").splitAt lineFeed)) :
    IsPiece (d.statementBlock comments value) := by
  have hlines := of_mem_commentLines hcomments
  have hsplit := splitAt_statementBlock d hcomments value
  refine ⟨?_, ?_⟩
  · rw [hsplit]
    exact (closed_of_ne_nil fun line hline => (hlines line hline).2).append hstatement
  · have hfirst : (commentLines comments).head? = some (Text.ofString "/**") := rfl
    have hne : Text.ofString "/**" ≠ Declaration.bodyEnd := by decide
    rw [hsplit, List.head?_append, hfirst]
    simpa using hne

theorem closed_statement {name value : Text} (hname : OneLine name) (hvalue : OneLine value) :
    Closed ((name ++ value ++ Text.ofString ";").splitAt lineFeed) := by
  have hend : OneLine (Text.ofString ";") := by decide
  have hone : OneLine (name ++ value ++ Text.ofString ";") := by simp [hname, hvalue, hend]
  have hne : Text.ofString ";" ≠ [] := by decide
  rw [splitAt_of_not_mem hone]
  exact closed_of_ne_nil fun line hline => by simp [List.mem_singleton.mp hline, hne]

theorem enumLine_ne_nil (member : EnumMember) : enumLine member ≠ [] := by
  have hcolon : Text.ofString ": " ≠ [] := by decide
  simp [enumLine, hcolon]

/-- Each line of a body but the last has a comma at its end. -/
theorem splitAt_body_cons {member : EnumMember} (h : OneLine (enumLine member)) (next : EnumMember)
    (others : List EnumMember) :
    (Text.joinWith ",\n" ((member :: next :: others).map enumLine)).splitAt lineFeed =
      (enumLine member ++ [CodePoint.scalar ',']) ::
        (Text.joinWith ",\n" ((next :: others).map enumLine)).splitAt lineFeed := by
  have hmark : Text.ofString ",\n" = [CodePoint.scalar ','] ++ [lineFeed] := by decide
  have hcomma : OneLine (enumLine member ++ [CodePoint.scalar ',']) := by
    have hne : CodePoint.scalar ',' ≠ lineFeed := by decide
    simp [h, hne]
  rw [List.map_cons, List.map_cons, joinWith_cons_cons, hmark, ← List.append_assoc,
    List.append_assoc, List.singleton_append, splitAt_append hcomma]

/-- The lines of a body are not empty, unless there are no members: then the body is one empty line. -/
theorem splitAt_body {members : List EnumMember} (h : ∀ member ∈ members, OneLine (enumLine member)) :
    members = [] ∨ ∀ line ∈ (Text.joinWith ",\n" (members.map enumLine)).splitAt lineFeed, line ≠ [] := by
  induction members with
  | nil => exact .inl rfl
  | cons member rest ih =>
    right
    have hmember := h member List.mem_cons_self
    have hrest := ih fun m hm => h m (List.mem_cons_of_mem _ hm)
    cases rest with
    | nil =>
      intro line hline
      have hlast : line ∈ (enumLine member).splitAt lineFeed := hline
      rw [splitAt_of_not_mem hmember] at hlast
      rw [List.mem_singleton.mp hlast]
      exact enumLine_ne_nil member
    | cons next others =>
      have hothers := hrest.resolve_left (List.cons_ne_nil _ _)
      intro line hline
      rw [splitAt_body_cons hmember] at hline
      rcases List.mem_cons.mp hline with rfl | hmem
      · simp
      · exact hothers line hmem

/-- The lines of an enumeration: the name with the start of the body, the body, and its end. -/
theorem splitAt_enumStatement {d : Declaration} (hname : OneLine d.nameToken) :
    (d.nameToken ++ (Text.ofString " = \x7b\n" ++
      Text.joinWith ",\n" (d.enumMembers.map enumLine) ++ Text.ofString "\n\x7d") ++
        Text.ofString ";").splitAt lineFeed =
      (d.nameToken ++ Declaration.bodyStart) ::
        ((Text.joinWith ",\n" (d.enumMembers.map enumLine)).splitAt lineFeed ++ [Declaration.bodyEnd]) := by
  have hstart : Text.ofString " = \x7b\n" = Declaration.bodyStart ++ [lineFeed] := by decide
  have hend : Text.ofString "\n\x7d" ++ Text.ofString ";" = lineFeed :: Declaration.bodyEnd := by decide
  have hfirst : OneLine (d.nameToken ++ Declaration.bodyStart) := by
    have hbody : OneLine Declaration.bodyStart := by decide
    simp [hname, hbody]
  have hlast : OneLine Declaration.bodyEnd := by decide
  have htext : d.nameToken ++ (Text.ofString " = \x7b\n" ++
      Text.joinWith ",\n" (d.enumMembers.map enumLine) ++ Text.ofString "\n\x7d") ++ Text.ofString ";" =
      (d.nameToken ++ Declaration.bodyStart) ++
        lineFeed :: (Text.joinWith ",\n" (d.enumMembers.map enumLine) ++ lineFeed :: Declaration.bodyEnd) := by
    rw [← hend, hstart]
    simp
  rw [htext, splitAt_append hfirst, splitAt_append_cons, splitAt_of_not_mem hlast]

theorem closed_enumStatement {d : Declaration} (hname : OneLine d.nameToken)
    (hmembers : ∀ member ∈ d.enumMembers, OneLine (enumLine member)) :
    Closed ((d.nameToken ++ (Text.ofString " = \x7b\n" ++
      Text.joinWith ",\n" (d.enumMembers.map enumLine) ++ Text.ofString "\n\x7d") ++
        Text.ofString ";").splitAt lineFeed) := by
  have hfirst_ne : d.nameToken ++ Declaration.bodyStart ≠ [] := by
    have hbody : Declaration.bodyStart ≠ [] := by decide
    simp [hbody]
  rw [splitAt_enumStatement hname]
  refine ⟨fun hnil => absurd hnil hfirst_ne, ?_⟩
  rcases splitAt_body hmembers with hnone | hsome
  · rw [hnone]
    exact ⟨fun _ => rfl, closed_of_ne_nil (by decide)⟩
  · refine closed_of_ne_nil fun line hline => ?_
    rcases List.mem_append.mp hline with hbody | hlast
    · exact hsome line hbody
    · rw [List.mem_singleton.mp hlast]
      decide

/-- **Every block is one piece**, if what it is made of has no line feeds. -/
theorem isPiece_blockOf {policy : NullPolicy} {d : Declaration} (h : d.OnLines policy) (kind : Kind) :
    IsPiece (d.blockOf policy kind) := by
  have hbraces : OneLine (Text.ofString " = \x7b\x7d") := by decide
  have hfunction {comments : List Text} (hcomments : ∀ comment ∈ comments, OneLine comment) :
      IsPiece (d.functionStatement comments) := by
    have hstart : OneLine (Text.ofString " = function(") := by decide
    have hend : OneLine (Text.ofString ") \x7b\x7d") := by decide
    exact isPiece_statementBlock d hcomments
      (closed_statement h.name (by simp [hstart, h.parameterList, hend]))
  have htyped : IsPiece (d.propertyBlock policy) :=
    isPiece_statementBlock d (h.typeComments (by decide)) (closed_statement h.name oneLine_nil)
  have hcallable : IsPiece (d.functionBlock policy) := by
    refine hfunction fun comment hcomment => ?_
    rcases List.mem_append.mp hcomment with hparameter | htype
    · exact h.withParameterComments (by simp) comment hparameter
    · exact h.typeComments (by decide) comment htype
  cases kind with
  | moduleKind =>
    have hvar : OneLine (Text.ofString "var ") := by decide
    have hempty : OneLine (Text.ofString " = \x7b\x7d;") := by decide
    have hone : OneLine d.moduleBlock := by simp [moduleBlock, hvar, h.name, hempty]
    have hstart : d.moduleBlock.head? = some (.scalar 'v') := rfl
    have hne : d.moduleBlock ≠ Declaration.bodyEnd := by
      intro heq
      rw [heq] at hstart
      exact absurd hstart (by decide)
    have hsplit := splitAt_of_not_mem hone
    refine ⟨?_, ?_⟩
    · change Closed (d.moduleBlock.splitAt lineFeed)
      rw [hsplit]
      refine closed_of_ne_nil fun line hline => ?_
      rw [List.mem_singleton.mp hline]
      exact List.cons_ne_nil _ _
    · change (d.moduleBlock.splitAt lineFeed).head? ≠ _
      rw [hsplit]
      simpa using hne
  | classKind => exact hfunction (h.withParameterComments h.classComments)
  | interfaceKind => exact hfunction (h.withParameterComments (by decide))
  | functionKind => exact hcallable
  | methodKind => exact hcallable
  | propertyKind => exact htyped
  | variableKind => exact htyped
  | objectKind =>
    exact isPiece_statementBlock d (h.typeComments (by decide)) (closed_statement h.name hbraces)
  | enumKind => exact isPiece_statementBlock d (by decide) (closed_enumStatement h.name h.members)

end Declaration

/-! ## Documents -/

/-- What is reached in a mapping without line feeds has none. -/
theorem Json.Reached.entriesUnbroken {root target : Assoc Json} {keys : List Text}
    (hreached : Json.Reached root keys target) (h : Json.entriesUnbroken root = true) :
    Json.entriesUnbroken target = true := by
  have hbelow {entries below : Assoc Json} {key : Text} (hentries : Json.entriesUnbroken entries = true)
      (hlook : Assoc.lookup key entries = some (.obj below)) : Json.entriesUnbroken below = true :=
    (Json.unbroken_of_mem hentries (Assoc.mem_of_lookup hlook)).2
  induction hreached with
  | root entries => exact h
  | child _ _ hlook _ ih => exact ih (hbelow h hlook)
  | short _ hbucket hlook _ ih => exact ih (hbelow (hbelow h hbucket) hlook)
  | long _ hbucket _ hlook _ ih => exact ih (hbelow (hbelow h hbucket) hlook)

namespace Document

theorem isPiece_of_mem_blocks (policy : NullPolicy) {root : Json.Mapping}
    (h : root.value.isUnbroken = true) {block : Text}
    (hblock : block ∈ Visit.blocks ((Node.ofEntries root.entries).visits policy)) : IsPiece block := by
  rw [Node.blocks_visits] at hblock
  obtain ⟨⟨kind, d⟩, hwritten, rfl⟩ := List.mem_map.mp hblock
  obtain ⟨stop, hstop, rfl⟩ := Json.exists_stop_of_mem_written root.distinct hwritten
  have hunbroken := (Json.reached_of_mem_stops root.distinct hstop).entriesUnbroken h
  exact Declaration.isPiece_blockOf (Declaration.onLines_ofEntries policy hunbroken) kind

theorem decode_render_ofTree (policy : NullPolicy) (settings : Settings) {root : Json.Mapping}
    (h : root.value.isUnbroken = true) {validate : Bool} {tree : Node}
    (htree : (Node.ingest validate root.value).outcome = .ok tree) :
    decode (ofTree policy settings tree).render =
      (settings.strict, (ofTree policy settings tree).blocks) := by
  obtain rfl := Node.eq_ofEntries_of_ingest htree
  exact decode_assemble settings.strict fun block hblock => isPiece_of_mem_blocks policy h hblock

/-- A document of a mapping in which no string has a line feed, made from the mapping or from its tree. -/
def IsUnbroken (document : Document) : Prop :=
  ∃ (policy : NullPolicy) (settings : Settings) (root : Json.Mapping) (validate : Bool) (tree : Node),
    root.value.isUnbroken = true ∧ (Node.ingest validate root.value).outcome = .ok tree ∧
      document = ofTree policy settings tree

/-- **A document is read back from its plain text.** One decoder gives the strict flag and the blocks, in
order, of every document of a mapping in which no string has a line feed. So two such documents with the
same text have the same blocks, and both are strict or neither is. -/
theorem render_decodes :
    (∀ (policy : NullPolicy) (settings : Settings) (root : Json.Mapping), root.value.isUnbroken = true →
      (settings.validateInput = true ∧
        ∃ error, (ofJson policy settings root.value).outcome = .error error) ∨
      ∃ document, (ofJson policy settings root.value).outcome = .ok document ∧
        document.IsUnbroken ∧ decode document.render = (settings.strict, document.blocks)) ∧
    (∀ document : Document, document.IsUnbroken →
      decode document.render = (document.strict, document.blocks)) ∧
    ∀ first second : Document, first.IsUnbroken → second.IsUnbroken → first.render = second.render →
      first.blocks = second.blocks ∧ first.strict = second.strict := by
  have hdecode (document : Document) (hdocument : document.IsUnbroken) :
      decode document.render = (document.strict, document.blocks) := by
    obtain ⟨policy, settings, root, validate, tree, hroot, htree, rfl⟩ := hdocument
    exact decode_render_ofTree policy settings hroot htree
  refine ⟨?_, hdecode, ?_⟩
  · intro policy settings root hroot
    cases houtcome : (Node.ingest settings.validateInput root.value).outcome with
    | error error =>
      refine .inl ⟨?_, error, ofJson_of_error policy settings houtcome⟩
      by_contra hfree
      rw [Bool.eq_false_of_not_eq_true hfree, Json.Mapping.value, Node.ingest_false_obj] at houtcome
      cases houtcome
    | ok tree =>
      exact .inr ⟨ofTree policy settings tree, ofJson_of_ok policy settings houtcome,
        ⟨policy, settings, root, _, tree, hroot, houtcome, rfl⟩,
        decode_render_ofTree policy settings hroot houtcome⟩
  · intro first second hfirst hsecond htext
    have hsame := hdecode first hfirst
    rw [htext, hdecode second hsecond] at hsame
    obtain ⟨hstrict, hblocks⟩ := Prod.mk.inj hsame
    exact ⟨hblocks.symm, hstrict.symm⟩

/-- An enumeration without members, with a declaration after it. -/
def emptyBodySample : Json.Mapping where
  entries := [("E", .obj [("kind", .str "Enum"), ("qualifiedName", .str "E"), ("members", .arr [])]),
    ("f", .obj [("kind", .str "Function"), ("qualifiedName", .str "f"),
      ("parameters", .arr [.obj [("name", .str "a")]])])]
  distinct := by decide

theorem render_decodes_emptyBody :
    emptyBodySample.value.isUnbroken = true ∧
      ∃ document, (ofJson .nullable {} emptyBodySample.value).outcome = .ok document ∧
        document.blocks.length = 2 ∧ decode document.render = (true, document.blocks) := by
  have hunbroken : emptyBodySample.value.isUnbroken = true := by decide
  refine ⟨hunbroken, ?_⟩
  obtain ⟨hvalidate, _⟩ | ⟨document, houtcome, _, hdecode⟩ :=
    render_decodes.1 .nullable {} emptyBodySample hunbroken
  · cases hvalidate
  · refine ⟨document, houtcome, ?_, hdecode⟩
    have hdocument := Except.ok.inj houtcome
    rw [← hdocument]
    rfl

end Document

end Externs
