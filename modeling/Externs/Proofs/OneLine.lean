import Externs.Declaration.Block
import Mathlib.Data.List.Basic

/-!
# Texts on one line

Values that are not strings are written without line feeds, and so are strings in quotes. So the lines of
a block can be told from one another, as long as no string that is written as it stands has a line feed.

* `Text.OneLine`: a text without a line feed;
* `Text.oneLine_quoted`, `Json.oneLine_literal`: literals stand on one line, whatever is in them;
* `Json.isUnbroken`: no string in a value has a line feed, keys included;
* `Descriptor.oneLine_render_ofJson`: the annotation of a type that comes from such a value;
* `Declaration.OnLines`: the parts of a declaration stand on one line each.
-/

namespace Externs

set_option autoImplicit false

open Text

namespace Text

/-- A text without a line feed. -/
def OneLine (t : Text) : Prop := lineFeed ∉ t

instance (t : Text) : Decidable (OneLine t) := inferInstanceAs (Decidable (lineFeed ∉ t))

@[simp]
theorem oneLine_nil : OneLine [] := List.not_mem_nil

@[simp]
theorem oneLine_cons (p : CodePoint) (t : Text) : OneLine (p :: t) ↔ p ≠ lineFeed ∧ OneLine t := by
  simp [OneLine, eq_comm]

@[simp]
theorem oneLine_append (s t : Text) : OneLine (s ++ t) ↔ OneLine s ∧ OneLine t := by
  simp [OneLine]

theorem oneLine_joinWith {separator : Text} (hseparator : OneLine separator) {parts : List Text}
    (h : ∀ part ∈ parts, OneLine part) : OneLine (joinWith separator parts) := by
  induction parts with
  | nil => exact oneLine_nil
  | cons part rest ih =>
    have hpart := h part List.mem_cons_self
    have hrest := ih fun p hp => h p (List.mem_cons_of_mem _ hp)
    cases rest with
    | nil => exact hpart
    | cons next others => simp [joinWith, hpart, hseparator, hrest]

theorem oneLine_map {α : Type} (f : α → CodePoint) (items : List α) (h : ∀ item, f item ≠ lineFeed) :
    OneLine (items.map f) := by
  intro hmem
  obtain ⟨item, _, hitem⟩ := List.mem_map.mp hmem
  exact h item hitem

end Text

/-! ## Numbers -/

theorem CodePoint.ofNat_ne_lineFeed {n : Nat} (h : 10 < n) : CodePoint.ofNat n ≠ lineFeed := by
  intro heq
  have hnumber : (CodePoint.ofNat n).toNat = 10 := by rw [heq]; rfl
  unfold CodePoint.ofNat at hnumber
  split at hnumber
  · simp only [CodePoint.toNat] at hnumber
    omega
  · next hsurrogate =>
    split at hnumber
    · next hsize =>
      have hvalid : n.isValidChar := by unfold Nat.isValidChar; omega
      have hsame : (Char.ofNat n).toNat = n := by
        rw [Char.ofNat, dif_pos hvalid]
        rfl
      rw [CodePoint.toNat, hsame] at hnumber
      omega
    · exact absurd hnumber (by decide)

theorem Text.oneLine_ofNat (n : Nat) : OneLine (Text.ofNat n) := by
  intro hmem
  obtain ⟨c, hc, heq⟩ := List.mem_map.mp hmem
  have hdigit := Nat.isDigit_of_mem_toDigits (by decide) (by decide) hc
  have hfeed : c = '\n' := CodePoint.scalar.inj heq
  rw [hfeed] at hdigit
  exact absurd hdigit (by decide)

theorem Text.oneLine_ofInt (n : Int) : OneLine (Text.ofInt n) := by
  cases n with
  | ofNat n => exact Text.oneLine_ofNat n
  | negSucc n =>
    have hminus : CodePoint.scalar '-' ≠ lineFeed := by decide
    simp [Text.ofInt, hminus, Text.oneLine_ofNat]

namespace NumberLayout

theorem oneLine_row (digits : List Nat) : OneLine (row digits) :=
  oneLine_map _ digits fun d => CodePoint.ofNat_ne_lineFeed (by simp)

theorem oneLine_plain (d : Decimal) : OneLine (plain d) := by
  have hzero : OneLine (Text.ofString "0.") := by decide
  have hpoint : OneLine (Text.ofString ".") := by decide
  unfold plain
  split
  · simp [hzero, oneLine_row]
  · simp only [oneLine_append, oneLine_row, hpoint, true_and]
    split <;> exact oneLine_row _

theorem oneLine_scientific (layout : NumberLayout) (d : Decimal) : OneLine (layout.scientific d) := by
  have hfraction : OneLine (if d.digits.length ≤ 1 then ([] : Text)
      else Text.ofString "." ++ row (d.digits.drop 1)) := by
    have hpoint : OneLine (Text.ofString ".") := by decide
    split
    · exact oneLine_nil
    · simp [hpoint, oneLine_row]
  have hsign : OneLine (if d.point - 1 < 0 then Text.ofString "-" else Text.ofString "+") := by
    split <;> decide
  have hexponent : OneLine (Text.ofString "e") := by decide
  simp only [scientific, oneLine_append]
  exact ⟨⟨⟨⟨⟨oneLine_row _, hfraction⟩, hexponent⟩, hsign⟩, oneLine_row _⟩, Text.oneLine_ofNat _⟩

theorem oneLine_write (layout : NumberLayout) (d : Decimal) : OneLine (layout.write d) := by
  unfold write
  split
  · exact oneLine_plain d
  · exact oneLine_scientific layout d

end NumberLayout

theorem Binary64.oneLine_text (x : Binary64) : OneLine x.text := by
  have hsign (negative : Bool) : OneLine (Binary64.sign negative) := by cases negative <;> decide
  cases x with
  | nan => decide
  | infinite negative =>
    have hword : OneLine (Text.ofString "inf") := by decide
    simp [Binary64.text, hsign, hword]
  | finite negative mantissa exponent =>
    cases mantissa with
    | zero =>
      have hzero : OneLine (Text.ofString "0.0") := by decide
      simp [Binary64.text, hsign, hzero]
    | succ m => simp [Binary64.text, hsign, NumberLayout.oneLine_write]

/-! ## Literals -/

theorem CodePoint.hexDigit_ne_lineFeed (n : Nat) : CodePoint.hexDigit n ≠ lineFeed := by
  unfold CodePoint.hexDigit
  split
  · exact CodePoint.ofNat_ne_lineFeed (by simp; omega)
  · exact CodePoint.ofNat_ne_lineFeed (by simp; omega)

theorem Text.oneLine_hexDigits (width n : Nat) : OneLine (Text.hexDigits width n) := by
  induction width generalizing n with
  | zero => exact oneLine_nil
  | succ width ih => simp [Text.hexDigits, ih, CodePoint.hexDigit_ne_lineFeed]

theorem CodePoint.oneLine_escaped {mark : CodePoint} (hmark : mark ≠ lineFeed) (p : CodePoint) :
    OneLine (CodePoint.escaped mark p) := by
  have hbackslash : CodePoint.scalar '\\' ≠ lineFeed := by decide
  have hstart (s : String) (hs : OneLine (Text.ofString s)) (width : Nat) :
      OneLine (Text.ofString s ++ Text.hexDigits width p.toNat) := by
    simp [hs, Text.oneLine_hexDigits]
  unfold CodePoint.escaped
  split
  · next h =>
    have hp : p ≠ lineFeed := by rcases h with rfl | rfl <;> assumption
    simp [hbackslash, hp]
  · split
    · decide
    · next hp =>
      have hne : p ≠ lineFeed := hp
      split
      · decide
      · split
        · decide
        · split
          · simp [hne]
          · split
            · exact hstart "\\x" (by decide) 2
            · split
              · exact hstart "\\u" (by decide) 4
              · exact hstart "\\U" (by decide) 8

/-- Between quotes a line feed is written as an escape. -/
theorem Text.oneLine_quoted (t : Text) : OneLine t.quoted := by
  have hmark : t.quoteMark ≠ lineFeed := by
    unfold Text.quoteMark
    split <;> decide
  have hbody : OneLine (t.flatMap (CodePoint.escaped t.quoteMark)) := by
    intro hmem
    obtain ⟨p, _, hp⟩ := List.mem_flatMap.mp hmem
    exact CodePoint.oneLine_escaped hmark p hp
  simp [Text.quoted, hmark, hbody]

namespace Json

mutual

/-- Literals stand on one line, whatever they hold. -/
theorem oneLine_literal : (value : Json) → OneLine value.literal
  | .null => by decide
  | .bool true => by decide
  | .bool false => by decide
  | .int value => Text.oneLine_ofInt value
  | .float value => value.oneLine_text
  | .str value => value.oneLine_quoted
  | .arr items => by
    have hbefore : OneLine (Text.ofString "[") := by decide
    have hafter : OneLine (Text.ofString "]") := by decide
    have hitems := oneLine_joinWith (by decide : OneLine (Text.ofString ", ")) (oneLine_literals items)
    simp [literal, hbefore, hafter, hitems]
  | .obj entries => by
    have hbefore : OneLine (Text.ofString "\x7b") := by decide
    have hafter : OneLine (Text.ofString "\x7d") := by decide
    have hentries := oneLine_joinWith (by decide : OneLine (Text.ofString ", ")) (oneLine_entryLiterals entries)
    simp [literal, hbefore, hafter, hentries]

theorem oneLine_literals : (items : List Json) → ∀ t ∈ literals items, OneLine t
  | [], t, h => by simp [literals] at h
  | item :: rest, t, h => by
    rcases List.mem_cons.mp h with rfl | hmem
    · exact oneLine_literal item
    · exact oneLine_literals rest t hmem

theorem oneLine_entryLiterals : (entries : List (Text × Json)) → ∀ t ∈ entryLiterals entries, OneLine t
  | [], t, h => by simp [entryLiterals] at h
  | (key, value) :: rest, t, h => by
    rcases List.mem_cons.mp h with rfl | hmem
    · have hcolon : OneLine (Text.ofString ": ") := by decide
      have hvalue := oneLine_literal value
      simp [key.oneLine_quoted, hcolon, hvalue]
    · exact oneLine_entryLiterals rest t hmem

end

/-! ## Values without line feeds -/

mutual

/-- Whether no string in a value, at any depth and keys included, has a line feed. -/
def isUnbroken : Json → Bool
  | .str value => decide (OneLine value)
  | .arr items => itemsUnbroken items
  | .obj entries => entriesUnbroken entries
  | _ => true

/-- The same for every item of an array. -/
def itemsUnbroken : List Json → Bool
  | [] => true
  | item :: rest => isUnbroken item && itemsUnbroken rest

/-- The same for every entry of an object. -/
def entriesUnbroken : List (Text × Json) → Bool
  | [] => true
  | (key, value) :: rest => decide (OneLine key) && isUnbroken value && entriesUnbroken rest

end

theorem isUnbroken_of_mem {items : List Json} (h : itemsUnbroken items = true) {item : Json}
    (hmem : item ∈ items) : item.isUnbroken = true := by
  induction items with
  | nil => cases hmem
  | cons first rest ih =>
    obtain ⟨hfirst, hrest⟩ := Bool.and_eq_true_iff.mp h
    rcases List.mem_cons.mp hmem with rfl | hmem
    · exact hfirst
    · exact ih hrest hmem

theorem unbroken_of_mem {entries : Assoc Json} (h : entriesUnbroken entries = true) {key : Text}
    {value : Json} (hmem : (key, value) ∈ entries) : OneLine key ∧ value.isUnbroken = true := by
  induction entries with
  | nil => cases hmem
  | cons first rest ih =>
    obtain ⟨k, v⟩ := first
    simp only [entriesUnbroken, Bool.and_eq_true, decide_eq_true_eq] at h
    rcases List.mem_cons.mp hmem with heq | hmem
    · obtain ⟨rfl, rfl⟩ := Prod.mk.inj heq
      exact h.1
    · exact ih h.2 hmem

theorem isUnbroken_field {entries : Assoc Json} (h : entriesUnbroken entries = true) (key : Text) :
    (field key entries).isUnbroken = true := by
  unfold field
  cases hlook : Assoc.lookup key entries with
  | none => rfl
  | some value => exact (unbroken_of_mem h (Assoc.mem_of_lookup hlook)).2

section Unbroken

variable {value : Json} (h : value.isUnbroken = true)
include h

theorem oneLine_wording : OneLine value.wording := by
  cases value with
  | str text => exact of_decide_eq_true h
  | _ => exact oneLine_literal _

theorem oneLine_token : OneLine value.token := by
  cases value with
  | null => decide
  | bool flag => cases flag <;> decide
  | _ => exact oneLine_wording h

theorem oneLine_presentText : ∀ t ∈ value.presentText, OneLine t := by
  unfold presentText
  split
  · rintro t ⟨⟩
    exact oneLine_wording h
  · rintro t ⟨⟩

theorem oneLine_nonNullText : OneLine (value.nonNullText.getD []) := by
  cases value with
  | null => exact oneLine_nil
  | _ => exact oneLine_wording h

end Unbroken

theorem oneLine_nameText {entries : Assoc Json} (h : entriesUnbroken entries = true) :
    OneLine (nameText entries) := by
  unfold nameText
  cases hlook : Assoc.lookup nameKey entries with
  | none => exact oneLine_nil
  | some value => exact oneLine_wording (unbroken_of_mem h (Assoc.mem_of_lookup hlook)).2

end Json

/-! ## Annotations -/

namespace Descriptor

mutual

/-- An ingested type has the annotation of the value that it came from. -/
theorem render_ofJson (policy : NullPolicy) : (value : Json) → (optional : Bool) →
    (ofJson value).render policy optional = renderValue policy value optional
  | .obj entries, optional => by
    rw [ofJson, render, renderFields_fieldsOf policy entries, renderValue]
  | .null, _ | .bool _, _ | .int _, _ | .float _, _ | .str _, _ | .arr _, _ => rfl

theorem renderFields_fieldsOf (policy : NullPolicy) : (entries : List (Text × Json)) →
    renderFields policy (fieldsOf entries) = renderEntries policy entries
  | [] => rfl
  | (name, value) :: rest => by
    have hrest := renderFields_fieldsOf policy rest
    cases value with
    | obj entries =>
      have htype := render_typeOf policy entries (Json.field Json.optionalKey entries).truthy
      simp only [fieldsOf, renderFields, renderEntries, htype, hrest]
    | _ => simp only [fieldsOf, renderFields, renderEntries, render, hrest]

theorem render_typeOf (policy : NullPolicy) : (entries : List (Text × Json)) → (optional : Bool) →
    (typeOf entries).render policy optional = renderType policy entries optional
  | [], _ => rfl
  | (key, value) :: rest, optional => by
    rw [typeOf, renderType]
    split
    · exact render_ofJson policy value optional
    · exact render_typeOf policy rest optional

end

theorem oneLine_markValue (policy : NullPolicy) (value : Json) (optional : Bool) :
    OneLine (policy.markValue value optional) := by
  unfold NullPolicy.markValue
  split
  · exact oneLine_nil
  · cases policy <;> decide

theorem oneLine_optionalSign (optional : Bool) : OneLine (optionalSign optional) := by
  cases optional <;> decide

theorem oneLine_renderToken (policy : NullPolicy) {value : Json} (h : value.isUnbroken = true)
    (optional : Bool) : OneLine (renderToken policy value optional) := by
  simp [renderToken, oneLine_markValue, Json.oneLine_token h, oneLine_optionalSign]

theorem oneLine_renderUnion (policy : NullPolicy) {items : List Json}
    (h : Json.itemsUnbroken items = true) (optional : Bool) :
    OneLine (renderUnion policy items optional) := by
  have hbefore : OneLine (Text.ofString "(") := by decide
  have hafter : OneLine (Text.ofString ")") := by decide
  have hitems : OneLine (Text.joinWith (Text.ofString "|") (items.map Json.token)) := by
    refine oneLine_joinWith (by decide) fun t ht => ?_
    obtain ⟨item, hmem, rfl⟩ := List.mem_map.mp ht
    exact Json.oneLine_token (Json.isUnbroken_of_mem h hmem)
  simp [renderUnion, oneLine_markValue, hbefore, hitems, hafter, oneLine_optionalSign]

theorem oneLine_renderField {name type : Text} (hname : OneLine name) (htype : OneLine type) :
    OneLine (renderField name type) := by
  have hcolon : OneLine (Text.ofString ": ") := by decide
  simp [renderField, hname, hcolon, htype]

mutual

theorem oneLine_renderValue (policy : NullPolicy) : (value : Json) → value.isUnbroken = true →
    (optional : Bool) → OneLine (renderValue policy value optional)
  | .obj entries, h, optional => by
    have hbefore : OneLine (Text.ofString "\x7b") := by decide
    have hafter : OneLine (Text.ofString "\x7d") := by decide
    have hfields := oneLine_joinWith (by decide : OneLine (Text.ofString ", "))
      (oneLine_renderEntries policy entries h)
    simp [renderValue, renderRecord, oneLine_markValue, hbefore, hfields, hafter]
  | .arr items, h, optional => oneLine_renderUnion policy h optional
  | .null, h, optional => oneLine_renderToken policy h optional
  | .bool _, h, optional => oneLine_renderToken policy h optional
  | .int _, h, optional => oneLine_renderToken policy h optional
  | .float _, h, optional => oneLine_renderToken policy h optional
  | .str _, h, optional => oneLine_renderToken policy h optional

theorem oneLine_renderEntries (policy : NullPolicy) : (entries : List (Text × Json)) →
    Json.entriesUnbroken entries = true → ∀ t ∈ renderEntries policy entries, OneLine t
  | [], _, t, ht => by simp [renderEntries] at ht
  | (name, value) :: rest, h, t, ht => by
    simp only [Json.entriesUnbroken, Bool.and_eq_true, decide_eq_true_eq] at h
    obtain ⟨⟨hname, hvalue⟩, hrest⟩ := h
    have htail := oneLine_renderEntries policy rest hrest
    cases value with
    | obj entries =>
      have htype := oneLine_renderType policy entries hvalue (Json.field Json.optionalKey entries).truthy
      rcases List.mem_cons.mp ht with rfl | hmem
      · exact oneLine_renderField hname htype
      · exact htail t hmem
    | arr items =>
      rcases List.mem_cons.mp ht with rfl | hmem
      · exact oneLine_renderField hname (oneLine_renderUnion policy hvalue false)
      · exact htail t hmem
    | _ =>
      rcases List.mem_cons.mp ht with rfl | hmem
      · exact oneLine_renderField hname (oneLine_renderToken policy hvalue false)
      · exact htail t hmem

theorem oneLine_renderType (policy : NullPolicy) : (entries : List (Text × Json)) →
    Json.entriesUnbroken entries = true → (optional : Bool) → OneLine (renderType policy entries optional)
  | [], _, optional => @oneLine_renderToken policy .null rfl optional
  | (key, value) :: rest, h, optional => by
    simp only [Json.entriesUnbroken, Bool.and_eq_true, decide_eq_true_eq] at h
    rw [renderType]
    split
    · exact oneLine_renderValue policy value h.1.2 optional
    · exact oneLine_renderType policy rest h.2 optional

end

theorem oneLine_render_ofJson (policy : NullPolicy) {value : Json} (h : value.isUnbroken = true)
    (optional : Bool) : OneLine ((ofJson value).render policy optional) := by
  rw [render_ofJson]
  exact oneLine_renderValue policy value h optional

end Descriptor

/-! ## Declarations -/

namespace Declaration

theorem oneLine_bracedComment {tag argument : Text} (htag : OneLine tag) (hargument : OneLine argument) :
    OneLine (bracedComment tag argument) := by
  have hbefore : OneLine (Text.ofString " \x7b") := by decide
  have hafter : OneLine (Text.ofString "\x7d") := by decide
  simp [bracedComment, htag, hbefore, hargument, hafter]

/-- What is written of a declaration has no line feeds of its own. -/
structure OnLines (policy : NullPolicy) (d : Declaration) : Prop where
  name : OneLine d.nameToken
  parameters : ∀ p ∈ d.parameters, OneLine p.name ∧ OneLine (p.type.orWildcard.render policy p.optional)
  type : OneLine (d.type.render policy d.isOptional)
  extended : ∀ t ∈ d.extended, OneLine t
  implemented : ∀ t ∈ d.implemented, OneLine t
  members : ∀ member ∈ d.enumMembers, OneLine (enumLine member)

/-- The objects that describe parts of a declaration are items of an array in it. -/
theorem entriesUnbroken_of_item {entries : Assoc Json} (h : Json.entriesUnbroken entries = true)
    {key : Text} {below : Assoc Json}
    (hmem : Json.obj below ∈ (Json.field key entries).items?.getD []) :
    Json.entriesUnbroken below = true := by
  have hfield := Json.isUnbroken_field h key
  cases hvalue : Json.field key entries with
  | arr items =>
    rw [hvalue] at hfield hmem
    exact Json.isUnbroken_of_mem hfield hmem
  | _ =>
    rw [hvalue] at hmem
    cases hmem

theorem onLines_ofEntries (policy : NullPolicy) {entries : Assoc Json}
    (h : Json.entriesUnbroken entries = true) : (ofEntries entries).OnLines policy := by
  have hfield (key : Text) := Json.isUnbroken_field h key
  refine ⟨Json.oneLine_nonNullText (hfield _), ?_, Descriptor.oneLine_render_ofJson policy (hfield _) _,
    Json.oneLine_presentText (hfield _), Json.oneLine_presentText (hfield _), ?_⟩
  · intro p hp
    obtain ⟨item, hitem, hof⟩ := List.mem_filterMap.mp hp
    cases item with
    | obj below =>
      have hbelow := entriesUnbroken_of_item h hitem
      obtain rfl := Option.some.inj hof
      refine ⟨Json.oneLine_nameText hbelow, ?_⟩
      unfold Descriptor.orWildcard
      split
      · exact Descriptor.oneLine_render_ofJson policy (Json.isUnbroken_field hbelow _) _
      · exact Descriptor.oneLine_renderToken policy (by decide) _
    | _ => cases hof
  · intro member hmember
    obtain ⟨item, hitem, hof⟩ := List.mem_filterMap.mp hmember
    cases item with
    | obj below =>
      have hbelow := entriesUnbroken_of_item h hitem
      obtain rfl := Option.some.inj hof
      have hcolon : OneLine (Text.ofString ": ") := by decide
      have hvalue := Json.oneLine_token (Json.isUnbroken_field hbelow Json.valueKey)
      simp [enumLine, Json.oneLine_nameText hbelow, hcolon, hvalue]
    | _ => cases hof

section Comments

variable {policy : NullPolicy} {d : Declaration} (h : d.OnLines policy)
include h

theorem OnLines.parameterList : OneLine d.parameterList := by
  refine oneLine_joinWith (by decide) fun t ht => ?_
  obtain ⟨p, hp, rfl⟩ := List.mem_map.mp ht
  exact (h.parameters p hp).1

theorem OnLines.typeComments {tag : Text} (htag : OneLine tag) :
    ∀ comment ∈ d.typeComments policy tag, OneLine comment := by
  unfold Declaration.typeComments
  split
  · intro comment hcomment
    rw [List.mem_singleton.mp hcomment]
    exact oneLine_bracedComment htag h.type
  · intro comment hcomment
    cases hcomment

theorem OnLines.withParameterComments {comments : List Text}
    (hcomments : ∀ comment ∈ comments, OneLine comment) :
    ∀ comment ∈ d.withParameterComments policy comments, OneLine comment := by
  intro comment hcomment
  simp only [Declaration.withParameterComments, List.mem_append, List.mem_map] at hcomment
  rcases hcomment with (hgiven | ⟨p, hp, rfl⟩) | htemplate
  · exact hcomments comment hgiven
  · have hspace : OneLine (Text.ofString " ") := by decide
    have hbraced := oneLine_bracedComment (by decide : OneLine (Text.ofString "@param")) (h.parameters p hp).2
    simp [Parameter.comment, hbraced, hspace, (h.parameters p hp).1]
  · split at htemplate
    · rw [List.mem_singleton.mp htemplate]
      decide
    · cases htemplate

theorem OnLines.classComments :
    ∀ comment ∈ [constructorComment] ++ partComments "@extends" d.extended ++
      partComments "@implements" d.implemented, OneLine comment := by
  have hpart {tag : Text} (htag : OneLine tag) {part : Option Text} (hpart : ∀ t ∈ part, OneLine t) :
      ∀ comment ∈ partComments tag part, OneLine comment := by
    cases part with
    | none => simp [partComments]
    | some argument => simpa [partComments] using oneLine_bracedComment htag (hpart argument rfl)
  intro comment hcomment
  simp only [List.mem_append, List.mem_singleton] at hcomment
  rcases hcomment with (rfl | hextends) | himplements
  · decide
  · exact hpart (by decide) h.extended comment hextends
  · exact hpart (by decide) h.implemented comment himplements

end Comments

end Declaration

end Externs
