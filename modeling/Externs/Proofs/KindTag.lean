import Externs.Declaration
import Mathlib.Data.List.Basic

/-!
# Kind tags

A tag is kept as text, whatever value it came as. The kind that is read off the text later on is the
kind of the value: only strings name a kind, and the text of any other value has a mark in it that no
kind has, or is one of a few words that are no kinds.

* `Text.hasMark`: a text with a code point that is no letter of ASCII;
* `Kind.ofText?_of_hasMark`: such a text names no kind;
* `Kind.ofText?_wording`: the text of a value that is no string names no kind;
* `Declaration.kind?_ofEntries`: a declaration has the kind that its tag names.
-/

namespace Externs

set_option autoImplicit false

/-! ## Texts with marks -/

/-- Whether a text holds anything but letters of ASCII. -/
def Text.hasMark (t : Text) : Bool := t.any fun p => !p.toAsciiLower.isBetween 'a' 'z'

@[simp]
theorem Text.hasMark_append (s t : Text) : Text.hasMark (s ++ t) = (Text.hasMark s || Text.hasMark t) :=
  List.any_append

theorem Kind.name_isBetween (kind : Kind) :
    (Text.ofString kind.name).all (CodePoint.isBetween 'a' 'z') = true := by
  cases kind <;> decide

theorem Kind.ofText?_of_hasMark {tag : Text} (h : tag.hasMark = true) : Kind.ofText? tag = none := by
  obtain ⟨p, hp, hmark⟩ := List.any_eq_true.mp h
  rw [Kind.ofText?, List.find?_eq_none]
  intro kind _ hname
  have hlower : Text.ofString kind.name = tag.toAsciiLower := of_decide_eq_true hname
  have hletters := List.all_eq_true.mp (Kind.name_isBetween kind)
  rw [hlower] at hletters
  have hletter := hletters p.toAsciiLower (List.mem_map.mpr ⟨p, hp, rfl⟩)
  rw [hletter] at hmark
  exact absurd hmark (by decide)

/-! ## Texts of numbers -/

theorem CodePoint.not_letter_of_isDigit (c : Char) (h : c.isDigit = true) :
    (CodePoint.scalar c).toAsciiLower.isBetween 'a' 'z' = false := by
  have hc : c.toNat ≤ '9'.toNat := by
    have hle := (Bool.and_eq_true_iff.mp h).2
    exact UInt32.le_iff_toNat_le.mp (of_decide_eq_true hle)
  have h9 : '9'.toNat = 57 := rfl
  have hA : 'A'.toNat = 65 := rfl
  have ha : 'a'.toNat = 97 := rfl
  have hcapital : ¬('A'.toNat ≤ c.toNat ∧ c.toNat ≤ 'Z'.toNat) := by omega
  have hsmall : ¬ 'a'.toNat ≤ c.toNat := by omega
  rw [CodePoint.toAsciiLower, if_neg hcapital, CodePoint.isBetween, decide_eq_false hsmall, Bool.false_and]

theorem Text.hasMark_ofNat (n : Nat) : Text.hasMark (Text.ofNat n) = true := by
  obtain ⟨c, hc⟩ := List.exists_mem_of_ne_nil _ (Nat.toDigits_ne_nil (n := n) (b := 10))
  have hdigit := Nat.isDigit_of_mem_toDigits (by decide) (by decide) hc
  refine List.any_eq_true.mpr ⟨.scalar c, List.mem_map.mpr ⟨c, hc, rfl⟩, ?_⟩
  rw [CodePoint.not_letter_of_isDigit c hdigit]
  rfl

theorem Text.hasMark_ofInt (n : Int) : Text.hasMark (Text.ofInt n) = true := by
  cases n with
  | ofNat n => exact Text.hasMark_ofNat n
  | negSucc n => rfl

/-- Every decimal is written with a point or with the digits of its exponent. -/
theorem NumberLayout.hasMark_write (layout : NumberLayout) (d : Decimal) :
    Text.hasMark (layout.write d) = true := by
  have hpoint : Text.hasMark (Text.ofString ".") = true := rfl
  have hzero : Text.hasMark (Text.ofString "0.") = true := rfl
  rw [NumberLayout.write]
  split
  · rw [NumberLayout.plain]
    split
    · simp [hzero]
    · simp [hpoint]
  · have hexponent := Text.hasMark_ofNat (d.point - 1).natAbs
    simp only [NumberLayout.scientific, Text.hasMark_append, hexponent, Bool.or_true]

theorem Binary64.hasMark_text_finite (negative : Bool) (mantissa : Nat) (exponent : Int) :
    Text.hasMark (Binary64.text (.finite negative mantissa exponent)) = true := by
  cases mantissa with
  | zero =>
    have hzero : Text.hasMark (Text.ofString "0.0") = true := rfl
    simp [Binary64.text, hzero]
  | succ m =>
    rw [Binary64.text, Text.hasMark_append, NumberLayout.hasMark_write, Bool.or_true]
    omega

/-! ## Tags -/

/-- Only `nan` and `inf` are numbers without a mark. -/
theorem Kind.ofText?_text (x : Binary64) : Kind.ofText? x.text = none := by
  cases x with
  | nan => decide
  | infinite negative => cases negative <;> decide
  | finite negative mantissa exponent =>
    exact Kind.ofText?_of_hasMark (Binary64.hasMark_text_finite negative mantissa exponent)

theorem Kind.ofText?_wording {tag : Json} (h : tag.text? = none) : Kind.ofText? tag.wording = none := by
  cases tag with
  | null => decide
  | bool value => cases value <;> decide
  | int value => exact Kind.ofText?_of_hasMark (Text.hasMark_ofInt value)
  | float value => exact Kind.ofText?_text value
  | str value => simp [Json.text?] at h
  | arr items =>
    have hopen : Text.hasMark (Text.ofString "[") = true := rfl
    exact Kind.ofText?_of_hasMark (by simp [Json.wording, Json.literal, hopen])
  | obj entries =>
    have hopen : Text.hasMark (Text.ofString "\x7b") = true := rfl
    exact Kind.ofText?_of_hasMark (by simp [Json.wording, Json.literal, hopen])

/-- The kind that the text of a present tag names is the kind that the tag names itself. -/
theorem Kind.bind_presentText (tag : Json) : tag.presentText.bind Kind.ofText? = Kind.ofJson? tag := by
  cases htext : tag.text? with
  | some value =>
    have hstr : tag = .str value := by cases tag <;> simp_all [Json.text?]
    subst hstr
    cases value with
    | nil => decide
    | cons p rest => rfl
  | none =>
    have hjson : Kind.ofJson? tag = none := by cases tag <;> simp_all [Json.text?, Kind.ofJson?]
    rw [hjson, Json.presentText]
    split
    · exact Kind.ofText?_wording htext
    · rfl

theorem Declaration.kind?_ofEntries (entries : Assoc Json) :
    (Declaration.ofEntries entries).kind? = Kind.ofJson? (Json.field Json.kindKey entries) :=
  Kind.bind_presentText (Json.field Json.kindKey entries)

end Externs
