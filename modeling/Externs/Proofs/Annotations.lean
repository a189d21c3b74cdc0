import Externs.Descriptor.Rendering
import Externs.Proofs.Cutting

/-!
# Annotations can be read in one way only

The annotation of a type that is made of plain tokens determines the type, and whether its place is
optional. A mark in front, the first code point after it and the sign at the end tell all shapes apart; what
stands between is cut by code points that no token has.

* `Text.isToken`: a text that stands for itself in an annotation;
* `Text.append_inj_of_isToken`: where a token ends;
* `Descriptor.isOfTokens`: a type that is made of tokens;
* `Descriptor.core`: an annotation without the mark in front of it;
* `Descriptor.render_append_inj`: an annotation at the start of a text is read in one way;
* `Descriptor.render_determines_type`: so it determines the type and the place.
-/

namespace Externs

set_option autoImplicit false

/-! ## Tokens -/

namespace Text

/-- The code points that have a meaning of their own in an annotation. -/
def annotationMarks : Text := " ?!()\x7b\x7d|=,:"

/-- A token is not empty, and no code point in it has a meaning of its own. -/
def isToken (t : Text) : Bool := !t.isEmpty && t.all fun p => !annotationMarks.contains p

/-- A text into which no token goes on: it is empty, or it starts with a code point that no token has. -/
def StartsApart (rest : Text) : Prop := ∀ p ∈ rest.head?, p ∈ annotationMarks

theorem startsApart_cons {p : CodePoint} (h : p ∈ annotationMarks) (rest : Text) : StartsApart (p :: rest) := by
  intro q hq
  obtain rfl : p = q := Option.some.inj hq
  exact h

theorem not_mem_of_isToken {t : Text} (h : t.isToken = true) {p : CodePoint} (hp : p ∈ t) :
    p ∉ annotationMarks := by
  have hall := List.all_eq_true.mp (Bool.and_eq_true_iff.mp h).2 p hp
  simpa using hall

theorem exists_cons_of_isToken {t : Text} (h : t.isToken = true) :
    ∃ p rest, t = p :: rest ∧ p ∉ annotationMarks := by
  cases t with
  | nil => cases h
  | cons p rest => exact ⟨p, rest, rfl, not_mem_of_isToken h List.mem_cons_self⟩

theorem append_ne_cons_of_isToken {t : Text} (h : t.isToken = true) {p : CodePoint} (hp : p ∈ annotationMarks)
    (after rest : Text) : t ++ after ≠ p :: rest := by
  obtain ⟨q, more, rfl, hq⟩ := exists_cons_of_isToken h
  intro heq
  exact hq ((List.cons.inj heq).1 ▸ hp)

theorem takeWhile_append_of_isToken {t rest : Text} (h : t.isToken = true) (hrest : StartsApart rest) :
    (t ++ rest).takeWhile (fun p => !annotationMarks.contains p) = t := by
  refine takeWhile_append_eq (List.all_eq_true.mp (Bool.and_eq_true_iff.mp h).2) fun p hp => ?_
  have hmark := hrest p hp
  simpa using hmark

/-- **Where a token ends** is seen from the text. -/
theorem append_inj_of_isToken {s t rest rest' : Text} (hs : s.isToken = true) (ht : t.isToken = true)
    (hrest : StartsApart rest) (hrest' : StartsApart rest') (h : s ++ rest = t ++ rest') :
    s = t ∧ rest = rest' := by
  have hfirst : s = t := by
    rw [← takeWhile_append_of_isToken hs hrest, h, takeWhile_append_of_isToken ht hrest']
  rw [hfirst] at h
  exact ⟨hfirst, List.append_cancel_left h⟩

/-! ## Rows of tokens -/

/-- Parts with a mark between them, the end of the row, and what comes after it. -/
def row (between close : CodePoint) (parts : List Text) (rest : Text) : Text :=
  joinWith [between] parts ++ close :: rest

/-- What comes after a part of a row. -/
def rowAfter (between close : CodePoint) (parts : List Text) (rest : Text) : Text :=
  match parts with
  | [] => close :: rest
  | _ => between :: row between close parts rest

theorem row_cons (between close : CodePoint) (part : Text) (parts : List Text) (rest : Text) :
    row between close (part :: parts) rest = part ++ rowAfter between close parts rest := by
  cases parts with
  | nil => rfl
  | cons next others => simp [row, rowAfter, joinWith]

theorem row_inj {between close : CodePoint} (hbetween : between ∈ annotationMarks)
    (hclose : close ∈ annotationMarks) (hne : between ≠ close) {parts others : List Text}
    (hparts : ∀ part ∈ parts, part.isToken = true) (hothers : ∀ part ∈ others, part.isToken = true)
    {rest rest' : Text} (h : row between close parts rest = row between close others rest') :
    parts = others ∧ rest = rest' := by
  have hapart (parts : List Text) (rest : Text) : StartsApart (rowAfter between close parts rest) := by
    cases parts with
    | nil => exact startsApart_cons hclose rest
    | cons => exact startsApart_cons hbetween _
  -- Each token ends where one of the two marks comes, and which of them it is tells whether the row goes on.
  induction parts generalizing others with
  | nil =>
    cases others with
    | nil => exact ⟨rfl, (List.cons.inj h).2⟩
    | cons other more =>
      rw [row_cons] at h
      exact absurd h.symm (append_ne_cons_of_isToken (hothers other List.mem_cons_self) hclose _ _)
  | cons part parts ih =>
    have hpart := hparts part List.mem_cons_self
    cases others with
    | nil =>
      rw [row_cons] at h
      exact absurd h (append_ne_cons_of_isToken hpart hclose _ _)
    | cons other others =>
      rw [row_cons, row_cons] at h
      obtain ⟨rfl, hafter⟩ := append_inj_of_isToken hpart (hothers other List.mem_cons_self)
        (hapart parts rest) (hapart others rest') h
      have hrow : row between close parts rest = row between close others rest' := by
        cases parts with
        | nil =>
          cases others with
          | nil => exact hafter
          | cons => exact absurd (List.cons.inj hafter).1.symm hne
        | cons =>
          cases others with
          | nil => exact absurd (List.cons.inj hafter).1 hne
          | cons => exact (List.cons.inj hafter).2
      obtain ⟨rfl, hrest⟩ := ih (fun p hp => hparts p (List.mem_cons_of_mem _ hp))
        (fun p hp => hothers p (List.mem_cons_of_mem _ hp)) hrow
      exact ⟨rfl, hrest⟩

end Text

/-! ## Types that are made of tokens -/

/-- A string that is a token. -/
def Json.isToken : Json → Bool
  | .str token => Text.isToken token
  | _ => false

namespace Descriptor

open Text

mutual

/-- A token, a union of tokens, or a structure whose names are tokens and whose fields have such types. -/
def isOfTokens : Descriptor → Bool
  | .plain (.arr items) => items.all Json.isToken
  | .plain value => value.isToken
  | .record fields => fieldsAreOfTokens fields

def fieldsAreOfTokens : List Field → Bool
  | [] => true
  | .mk name type _ :: rest => name.isToken && isOfTokens type && fieldsAreOfTokens rest

end

/-- The types that are made of tokens, by their shapes. -/
inductive Shape : Descriptor → Prop where
  | token {t : Text} (h : t.isToken = true) : Shape (.plain (.str t))
  | union {parts : List Text} (h : ∀ part ∈ parts, part.isToken = true) :
      Shape (.plain (.arr (parts.map Json.str)))
  | structural {fields : List Field} (h : fieldsAreOfTokens fields = true) : Shape (.record fields)

theorem exists_parts {items : List Json} (h : items.all Json.isToken = true) :
    ∃ parts : List Text, items = parts.map Json.str ∧ ∀ part ∈ parts, part.isToken = true := by
  induction items with
  | nil => exact ⟨[], rfl, by simp⟩
  | cons item rest ih =>
    obtain ⟨hitem, hrest⟩ := Bool.and_eq_true_iff.mp h
    obtain ⟨parts, rfl, hparts⟩ := ih hrest
    cases item with
    | str token => exact ⟨token :: parts, rfl, List.forall_mem_cons.mpr ⟨hitem, hparts⟩⟩
    | _ => cases hitem

theorem shape_of_isOfTokens {type : Descriptor} (h : type.isOfTokens = true) : Shape type := by
  cases type with
  | record fields => exact .structural h
  | plain value =>
    cases value with
    | str token => exact .token h
    | arr items =>
      obtain ⟨parts, rfl, hparts⟩ := exists_parts h
      exact .union hparts
    | _ => cases h

/-! ## Annotations without marks -/

/-- The annotation of a type without the mark in front of it. -/
def core (policy : NullPolicy) : Descriptor → Bool → Text
  | .plain (.arr items), optional => "(" ++ joinWith "|" (items.map Json.token) ++ ")" ++ optionalSign optional
  | .plain value, optional => value.token ++ optionalSign optional
  | .record fields, _ => "\x7b" ++ joinWith ", " (renderFields policy fields) ++ "\x7d"

/-- Whether the annotation of a type has no mark. -/
def isUnmarked : Descriptor → Bool → Bool
  | .plain value, optional => optional || NullPolicy.isUnmarked value
  | .record _, optional => optional

theorem render_eq_core (policy : NullPolicy) {type : Descriptor} (h : Shape type) (optional : Bool) :
    type.render policy optional =
      (if type.isUnmarked optional then [] else policy.mark) ++ type.core policy optional := by
  cases h with
  | token => simp [render, renderValue, renderToken, NullPolicy.markValue, core, isUnmarked]
  | union => simp [render, renderValue, renderUnion, NullPolicy.markValue, core, isUnmarked]
  | structural =>
    rw [render, renderRecord, List.append_assoc, List.append_assoc]
    cases optional <;> simp [NullPolicy.markValue, NullPolicy.isUnmarked, core, isUnmarked]

/-- An annotation without its mark starts with no mark: with a code point of a token, with a bracket or with
a brace. -/
theorem head?_core (policy : NullPolicy) {type : Descriptor} (h : Shape type) (optional : Bool) (rest : Text) :
    ∃ p more, type.core policy optional ++ rest = p :: more ∧ p ≠ .scalar '?' ∧ p ≠ .scalar '!' := by
  cases h with
  | token ht =>
    obtain ⟨p, more, rfl, hp⟩ := exists_cons_of_isToken ht
    refine ⟨p, _, rfl, ?_, ?_⟩
    · rintro rfl
      exact hp (by decide)
    · rintro rfl
      exact hp (by decide)
  | union => exact ⟨.scalar '(', _, rfl, by decide, by decide⟩
  | structural => exact ⟨.scalar '\x7b', _, rfl, by decide, by decide⟩

theorem mark_append_inj (policy : NullPolicy) {first second : Descriptor} (hfirst : Shape first)
    (hsecond : Shape second) {unmarked unmarked' optional optional' : Bool} {rest rest' : Text}
    (h : (if unmarked then [] else policy.mark) ++ (first.core policy optional ++ rest) =
      (if unmarked' then [] else policy.mark) ++ (second.core policy optional' ++ rest')) :
    unmarked = unmarked' ∧ first.core policy optional ++ rest = second.core policy optional' ++ rest' := by
  obtain ⟨p, more, hp, hask, hbang⟩ := head?_core policy hfirst optional rest
  obtain ⟨q, more', hq, hask', hbang'⟩ := head?_core policy hsecond optional' rest'
  rw [hp, hq] at h ⊢
  -- A mark on one side only would be the first code point of the other side.
  cases unmarked with
  | true =>
    cases unmarked' with
    | true => exact ⟨rfl, h⟩
    | false =>
      cases policy with
      | nullable => exact absurd (List.cons.inj h).1 hask
      | nonNull => exact absurd (List.cons.inj h).1 hbang
  | false =>
    cases unmarked' with
    | true =>
      cases policy with
      | nullable => exact absurd (List.cons.inj h).1.symm hask'
      | nonNull => exact absurd (List.cons.inj h).1.symm hbang'
    | false => exact ⟨rfl, List.append_cancel_left h⟩

/-! ## Annotations in a text -/

/-- What may follow an annotation: nothing, a further field, or the end of a structure. -/
def Follows (rest : Text) : Prop := ∀ p ∈ rest.head?, p = .scalar ',' ∨ p = .scalar '\x7d'

theorem startsApart_of_follows {rest : Text} (h : Follows rest) (optional : Bool) :
    StartsApart (optionalSign optional ++ rest) := by
  cases optional with
  | true => exact startsApart_cons (by decide) rest
  | false =>
    intro p hp
    rcases h p hp with rfl | rfl <;> decide

theorem optionalSign_append_inj {optional optional' : Bool} {rest rest' : Text} (hrest : Follows rest)
    (hrest' : Follows rest') (h : optionalSign optional ++ rest = optionalSign optional' ++ rest') :
    optional = optional' ∧ rest = rest' := by
  have hsign {after : Text} (hafter : Follows after) (more : Text) : after ≠ .scalar '=' :: more := by
    rintro rfl
    have hfirst := hafter (.scalar '=') rfl
    exact absurd hfirst (by decide)
  cases optional with
  | true =>
    cases optional' with
    | true => exact ⟨rfl, (List.cons.inj h).2⟩
    | false => exact absurd h.symm (hsign hrest' rest)
  | false =>
    cases optional' with
    | true => exact absurd h (hsign hrest rest')
    | false => exact ⟨rfl, h⟩

/-- The fields of a structure, its end, and what comes after it. -/
def fieldRow (policy : NullPolicy) (fields : List Field) (rest : Text) : Text :=
  joinWith ", " (renderFields policy fields) ++ .scalar '\x7d' :: rest

def fieldRowAfter (policy : NullPolicy) (fields : List Field) (rest : Text) : Text :=
  match fields with
  | [] => .scalar '\x7d' :: rest
  | _ => .scalar ',' :: .scalar ' ' :: fieldRow policy fields rest

theorem fieldRow_cons (policy : NullPolicy) (name : Text) (type : Descriptor) (optional : Bool)
    (fields : List Field) (rest : Text) :
    fieldRow policy (.mk name type optional :: fields) rest =
      name ++ (.scalar ':' :: .scalar ' ' ::
        (type.render policy optional ++ fieldRowAfter policy fields rest)) := by
  cases fields with
  | nil => simp [fieldRow, fieldRowAfter, renderFields, renderField, joinWith, Text.ofString]
  | cons next others =>
    obtain ⟨other, otherType, otherOptional⟩ := next
    simp [fieldRow, fieldRowAfter, renderFields, renderField, joinWith, Text.ofString]

theorem follows_fieldRowAfter (policy : NullPolicy) (fields : List Field) (rest : Text) :
    Follows (fieldRowAfter policy fields rest) := by
  intro p hp
  cases fields with
  | nil => exact .inr (Option.some.inj hp).symm
  | cons => exact .inl (Option.some.inj hp).symm

theorem fieldRow_of_fieldRowAfter (policy : NullPolicy) {fields others : List Field} {rest rest' : Text}
    (h : fieldRowAfter policy fields rest = fieldRowAfter policy others rest') :
    fieldRow policy fields rest = fieldRow policy others rest' := by
  cases fields with
  | nil =>
    cases others with
    | nil => exact h
    | cons => exact absurd (List.cons.inj h).1 (by decide)
  | cons =>
    cases others with
    | nil => exact absurd (List.cons.inj h).1 (by decide)
    | cons => exact (List.cons.inj (List.cons.inj h).2).2

theorem fieldRow_nil_ne (policy : NullPolicy) {name : Text} (hname : name.isToken = true) (type : Descriptor)
    (optional : Bool) (fields : List Field) (rest rest' : Text) :
    fieldRow policy [] rest ≠ fieldRow policy (.mk name type optional :: fields) rest' := by
  rw [fieldRow_cons]
  exact (append_ne_cons_of_isToken hname (by decide) _ rest).symm

theorem core_token (policy : NullPolicy) (t : Text) (optional : Bool) (rest : Text) :
    core policy (.plain (.str t)) optional ++ rest = t ++ (optionalSign optional ++ rest) :=
  List.append_assoc t (optionalSign optional) rest

theorem core_union (policy : NullPolicy) (parts : List Text) (optional : Bool) (rest : Text) :
    core policy (.plain (.arr (parts.map Json.str))) optional ++ rest =
      .scalar '(' :: row (.scalar '|') (.scalar ')') parts (optionalSign optional ++ rest) := by
  have htokens : (parts.map Json.str).map Json.token = parts := by
    rw [List.map_map]
    exact List.map_id parts
  rw [core, htokens, row]
  simp [Text.ofString]

theorem core_structural (policy : NullPolicy) (fields : List Field) (optional : Bool) (rest : Text) :
    core policy (.record fields) optional ++ rest = .scalar '\x7b' :: fieldRow policy fields rest := by
  simp [core, fieldRow, Text.ofString]

/-- An annotation without its mark is read in one way, if the fields of structures are. -/
theorem core_append_inj (policy : NullPolicy) {first second : Descriptor} (hfirst : Shape first)
    (hsecond : Shape second)
    (hfields : ∀ fields others rest rest', first = .record fields → second = .record others →
      fieldRow policy fields rest = fieldRow policy others rest' → fields = others ∧ rest = rest')
    {optional optional' : Bool} (hmark : first.isUnmarked optional = second.isUnmarked optional')
    {rest rest' : Text} (hrest : Follows rest) (hrest' : Follows rest')
    (h : first.core policy optional ++ rest = second.core policy optional' ++ rest') :
    first = second ∧ optional = optional' ∧ rest = rest' := by
  cases hfirst with
  | token ht =>
    rw [core_token] at h
    cases hsecond with
    | token ht' =>
      rw [core_token] at h
      obtain ⟨rfl, hsign⟩ := append_inj_of_isToken ht ht' (startsApart_of_follows hrest optional)
        (startsApart_of_follows hrest' optional') h
      exact ⟨rfl, optionalSign_append_inj hrest hrest' hsign⟩
    | union =>
      rw [core_union] at h
      exact absurd h (append_ne_cons_of_isToken ht (by decide) _ _)
    | structural =>
      rw [core_structural] at h
      exact absurd h (append_ne_cons_of_isToken ht (by decide) _ _)
  | union hparts =>
    rw [core_union] at h
    cases hsecond with
    | token ht =>
      rw [core_token] at h
      exact absurd h.symm (append_ne_cons_of_isToken ht (by decide) _ _)
    | union hparts' =>
      rw [core_union] at h
      obtain ⟨rfl, hsign⟩ := row_inj (by decide) (by decide) (by decide) hparts hparts' (List.cons.inj h).2
      exact ⟨rfl, optionalSign_append_inj hrest hrest' hsign⟩
    | structural =>
      rw [core_structural] at h
      exact absurd (List.cons.inj h).1 (by decide)
  | structural =>
    rw [core_structural] at h
    cases hsecond with
    | token ht =>
      rw [core_token] at h
      exact absurd h.symm (append_ne_cons_of_isToken ht (by decide) _ _)
    | union =>
      rw [core_union] at h
      exact absurd (List.cons.inj h).1 (by decide)
    | structural =>
      rw [core_structural] at h
      -- A structure has no sign at its end: that its place is optional is seen from the missing mark.
      obtain ⟨rfl, hafter⟩ := hfields _ _ _ _ rfl rfl (List.cons.inj h).2
      exact ⟨rfl, hmark, hafter⟩

theorem render_append_inj_of_fields (policy : NullPolicy) {first second : Descriptor}
    (hfirst : first.isOfTokens = true) (hsecond : second.isOfTokens = true)
    (hfields : ∀ fields others rest rest', first = .record fields → second = .record others →
      fieldRow policy fields rest = fieldRow policy others rest' → fields = others ∧ rest = rest')
    {optional optional' : Bool} {rest rest' : Text} (hrest : Follows rest) (hrest' : Follows rest')
    (h : first.render policy optional ++ rest = second.render policy optional' ++ rest') :
    first = second ∧ optional = optional' ∧ rest = rest' := by
  have hshape := shape_of_isOfTokens hfirst
  have hshape' := shape_of_isOfTokens hsecond
  rw [render_eq_core policy hshape, render_eq_core policy hshape', List.append_assoc, List.append_assoc] at h
  obtain ⟨hmark, hcore⟩ := mark_append_inj policy hshape hshape' h
  exact core_append_inj policy hshape hshape' hfields hmark hrest hrest' hcore

mutual

/-- **An annotation at the start of a text** is read in one way. -/
theorem render_append_inj (policy : NullPolicy) : (first second : Descriptor) →
    first.isOfTokens = true → second.isOfTokens = true → (optional optional' : Bool) → (rest rest' : Text) →
    Follows rest → Follows rest' →
    first.render policy optional ++ rest = second.render policy optional' ++ rest' →
    first = second ∧ optional = optional' ∧ rest = rest'
  | .plain _, _, hfirst, hsecond, _, _, _, _, hrest, hrest', h =>
    render_append_inj_of_fields policy hfirst hsecond (by intro _ _ _ _ hrecord; cases hrecord) hrest hrest' h
  | .record fields, _, hfirst, hsecond, _, _, _, _, hrest, hrest', h => by
    refine render_append_inj_of_fields policy hfirst hsecond ?_ hrest hrest' h
    rintro _ others after after' hfields rfl hrow
    cases hfields
    exact fieldRow_inj policy fields others hfirst hsecond after after' hrow

theorem fieldRow_inj (policy : NullPolicy) : (fields others : List Field) →
    fieldsAreOfTokens fields = true → fieldsAreOfTokens others = true → (rest rest' : Text) →
    fieldRow policy fields rest = fieldRow policy others rest' → fields = others ∧ rest = rest'
  | [], [], _, _, _, _, h => ⟨rfl, (List.cons.inj h).2⟩
  | [], .mk name type optional :: others, _, hothers, rest, rest', h => by
    simp only [fieldsAreOfTokens, Bool.and_eq_true] at hothers
    exact absurd h (fieldRow_nil_ne policy hothers.1.1 type optional others rest rest')
  | .mk name type optional :: fields, [], hfields, _, rest, rest', h => by
    simp only [fieldsAreOfTokens, Bool.and_eq_true] at hfields
    exact absurd h.symm (fieldRow_nil_ne policy hfields.1.1 type optional fields rest' rest)
  | .mk name type optional :: fields, .mk name' type' optional' :: others, hfields, hothers, rest, rest',
      h => by
    simp only [fieldsAreOfTokens, Bool.and_eq_true] at hfields hothers
    obtain ⟨⟨hname, htype⟩, hmore⟩ := hfields
    obtain ⟨⟨hname', htype'⟩, hmore'⟩ := hothers
    have hcolon (after : Text) : StartsApart (.scalar ':' :: after) := startsApart_cons (by decide) after
    -- A name, its annotation and the fields after it are read off one after the other.
    rw [fieldRow_cons, fieldRow_cons] at h
    obtain ⟨rfl, hafterName⟩ := append_inj_of_isToken hname hname' (hcolon _) (hcolon _) h
    have hannotated := (List.cons.inj (List.cons.inj hafterName).2).2
    obtain ⟨rfl, rfl, hafter⟩ := render_append_inj policy type type' htype htype' optional optional' _ _
      (follows_fieldRowAfter policy fields rest) (follows_fieldRowAfter policy others rest') hannotated
    obtain ⟨rfl, hrest⟩ := fieldRow_inj policy fields others hmore hmore' rest rest'
      (fieldRow_of_fieldRowAfter policy hafter)
    exact ⟨rfl, hrest⟩

end

/-- **Annotations lose nothing.** Under one null policy, types that are made of tokens and have the same
annotation are the same type, with the same fields in the same order at every depth, and stand in the same
kind of place. -/
theorem render_determines_type (policy : NullPolicy) (first second : Descriptor) (optional optional' : Bool)
    (hfirst : first.isOfTokens = true) (hsecond : second.isOfTokens = true)
    (h : first.render policy optional = second.render policy optional') :
    first = second ∧ optional = optional' := by
  have hnothing : Follows [] := by
    intro p hp
    cases hp
  have happend : first.render policy optional ++ [] = second.render policy optional' ++ [] := by rw [h]
  obtain ⟨htype, hplace, _⟩ := render_append_inj policy first second hfirst hsecond optional optional' [] []
    hnothing hnothing happend
  exact ⟨htype, hplace⟩

/-- Two ways to write one structure: fields of every shape, the last of them optional. -/
def briefStructure : Json :=
  .obj [("id", .str "number"), ("of", .arr [.str "Foo", .str "T"]),
    ("sub", .obj [("type", .obj [("x", .str "Foo")]), ("isOptional", .bool true)])]

def fullStructure : Json :=
  .obj [("id", .obj [("type", .str "number"), ("isOptional", .null)]),
    ("of", .obj [("type", .arr [.str "Foo", .str "T"])]),
    ("sub", .obj [("isOptional", .int 1), ("type", .obj [("x", .obj [("type", .str "Foo")])])])]

theorem render_determines_structure :
    (ofJson briefStructure).isOfTokens = true ∧ (ofJson fullStructure).isOfTokens = true ∧
      (ofJson briefStructure).render .nullable true =
        Text.ofString "\x7bid: number, of: ?(Foo|T), sub: \x7bx: ?Foo\x7d\x7d" ∧
      ofJson briefStructure = ofJson fullStructure := by
  refine ⟨by decide, by decide, by decide, ?_⟩
  exact (render_determines_type .nullable _ _ true true (by decide) (by decide) (by decide)).1

end Descriptor

end Externs
