import Externs.Text.CodePoint
import Mathlib.Data.List.Basic

/-!
# Cutting texts

Texts are cut at a mark, or where a class of code points ends.

* `Text.splitAt_joinWith`: parts that were joined with a mark are cut apart again;
* `Text.takeWhile_append_eq`: the front of a text is cut off where the class of its code points ends.
-/

namespace Externs.Text

set_option autoImplicit false

/-! ## At a mark -/

theorem splitAt_of_not_mem {mark : CodePoint} {part : Text} (h : mark ∉ part) :
    splitAt mark part = [part] := by
  induction part with
  | nil => rfl
  | cons p rest ih =>
    have hne : p ≠ mark := (List.ne_of_not_mem_cons h).symm
    rw [splitAt, if_neg hne, ih (List.not_mem_of_not_mem_cons h)]

theorem splitAt_append {mark : CodePoint} {part : Text} (h : mark ∉ part) (rest : Text) :
    splitAt mark (part ++ mark :: rest) = part :: splitAt mark rest := by
  induction part with
  | nil => rw [List.nil_append, splitAt, if_pos rfl]
  | cons p more ih =>
    have hne : p ≠ mark := (List.ne_of_not_mem_cons h).symm
    rw [List.cons_append, splitAt, if_neg hne, ih (List.not_mem_of_not_mem_cons h)]

/-- Parts that were joined with a mark that is in none of them are cut apart again. -/
theorem splitAt_joinWith {mark : CodePoint} {parts : List Text} (hne : parts ≠ [])
    (h : ∀ part ∈ parts, mark ∉ part) : splitAt mark (joinWith [mark] parts) = parts := by
  induction parts with
  | nil => exact absurd rfl hne
  | cons part rest ih =>
    have hpart := h part List.mem_cons_self
    cases rest with
    | nil => exact splitAt_of_not_mem hpart
    | cons next others =>
      have hrest := ih (List.cons_ne_nil _ _) fun p hp => h p (List.mem_cons_of_mem _ hp)
      rw [joinWith, List.append_assoc, List.singleton_append, splitAt_append hpart, hrest]
      exact List.cons_ne_nil _ _

theorem splitAt_replicate_append (mark : CodePoint) (count : Nat) (t : Text) :
    splitAt mark (List.replicate count mark ++ t) = List.replicate count [] ++ splitAt mark t := by
  induction count with
  | zero => rfl
  | succ count ih =>
    rw [List.replicate_succ, List.cons_append, splitAt, if_pos rfl, ih]
    rfl

theorem not_mem_of_mem_splitAt {mark : CodePoint} {t piece : Text} (h : piece ∈ splitAt mark t) :
    mark ∉ piece := by
  induction t generalizing piece with
  | nil =>
    rw [List.mem_singleton.mp h]
    exact List.not_mem_nil
  | cons p rest ih =>
    rw [splitAt] at h
    split at h
    · rcases List.mem_cons.mp h with rfl | hmem
      · exact List.not_mem_nil
      · exact ih hmem
    · next hp =>
      cases hsplit : splitAt mark rest with
      | nil => exact absurd hsplit (splitAt_ne_nil mark rest)
      | cons first pieces =>
        rw [hsplit] at h ih
        rcases List.mem_cons.mp h with rfl | hmem
        · exact List.not_mem_cons_of_ne_of_not_mem (Ne.symm hp) (ih List.mem_cons_self)
        · exact ih (List.mem_cons_of_mem _ hmem)

/-! ## Where a class ends -/

theorem takeWhile_append_eq {test : CodePoint → Bool} {front back : Text}
    (hfront : ∀ p ∈ front, test p = true) (hback : ∀ p ∈ back.head?, test p = false) :
    (front ++ back).takeWhile test = front := by
  rw [List.takeWhile_append_of_pos hfront]
  cases back with
  | nil => simp
  | cons p rest => simp [hback p rfl]

end Externs.Text
