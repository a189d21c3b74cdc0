import Externs.Proofs.Cutting
import Externs.Text.ControlSequence
import Mathlib.Data.List.Infix
import Mathlib.Data.List.TakeWhile

/-!
# What is left out with control sequences

A control sequence is an introducer, parameters, intermediates and a final code point. From left to right,
each of them that is met is left out, and what stands between them stays.

* `ControlSequence.IsBody`, `ControlSequence.IsSequence`: what control sequences are;
* `ControlSequence.Stripped`: a text and what is left of it;
* `Text.withoutControls_eq_iff`: this is what `Text.withoutControls` gives;
* `Text.withoutControls_eq_self_iff`: a text stays as it is just if there is no control sequence in it.
-/

namespace Externs

set_option autoImplicit false

namespace ControlSequence

/-- What follows the introducer of a control sequence. -/
def IsBody (body : Text) : Prop :=
  ∃ parameters intermediates final, body = parameters ++ (intermediates ++ [final]) ∧
    (∀ p ∈ parameters, isParameter p = true) ∧ (∀ p ∈ intermediates, isIntermediate p = true) ∧
    isFinal final = true

/-- A control sequence. -/
def IsSequence (sequence : Text) : Prop :=
  ∃ body, IsBody body ∧ sequence = .scalar '\x1b' :: .scalar '[' :: body

/-! ## The length of a sequence -/

theorem not_isBetween {low high low' high' : Char} (h : high.toNat < low'.toNat ∨ high'.toNat < low.toNat)
    {p : CodePoint} (hp : p.isBetween low high = true) : p.isBetween low' high' = false := by
  cases p with
  | scalar c =>
    simp only [CodePoint.isBetween, Bool.and_eq_true, decide_eq_true_eq, Bool.and_eq_false_iff,
      decide_eq_false_iff_not] at hp ⊢
    omega
  | surrogate index => rfl

theorem length?_append {body : Text} (h : IsBody body) (rest : Text) :
    length? (body ++ rest) = some body.length := by
  obtain ⟨parameters, intermediates, final, rfl, hparameters, hintermediates, hfinal⟩ := h
  -- The three classes are disjoint, so each part ends where the next one starts.
  have hfirst : ((parameters ++ (intermediates ++ final :: rest)).takeWhile isParameter) = parameters := by
    refine Text.takeWhile_append_eq hparameters fun p hp => ?_
    cases intermediates with
    | nil =>
      cases hp
      exact not_isBetween (by decide) hfinal
    | cons first more =>
      cases hp
      exact not_isBetween (by decide) (hintermediates _ List.mem_cons_self)
  have hsecond : ((intermediates ++ final :: rest).takeWhile isIntermediate) = intermediates := by
    refine Text.takeWhile_append_eq hintermediates fun p hp => ?_
    cases hp
    exact not_isBetween (by decide) hfinal
  have hsplit : parameters ++ (intermediates ++ [final]) ++ rest =
      parameters ++ (intermediates ++ final :: rest) := by simp
  rw [hsplit, length?]
  simp only [hfirst, List.drop_left, hsecond]
  rw [← List.drop_drop, List.drop_left, List.drop_left]
  simp [hfinal, Nat.add_assoc]

theorem exists_body_of_length? {t : Text} {length : Nat} (h : length? t = some length) :
    ∃ body rest, IsBody body ∧ t = body ++ rest := by
  obtain ⟨back, hback⟩ := List.takeWhile_prefix isParameter (l := t)
  have hparameters : ∀ p ∈ t.takeWhile isParameter, isParameter p = true := fun p => List.mem_takeWhile_imp
  rw [length?] at h
  generalize t.takeWhile isParameter = parameters at h hback hparameters
  subst hback
  obtain ⟨last, hlast⟩ := List.takeWhile_prefix isIntermediate (l := back)
  have hintermediates : ∀ p ∈ back.takeWhile isIntermediate, isIntermediate p = true :=
    fun p => List.mem_takeWhile_imp
  simp only [List.drop_left] at h
  generalize back.takeWhile isIntermediate = intermediates at h hlast hintermediates
  subst hlast
  rw [← List.drop_drop, List.drop_left, List.drop_left] at h
  cases last with
  | nil => simp at h
  | cons final rest =>
    by_cases hfinal : isFinal final = true
    · exact ⟨_, rest, ⟨parameters, intermediates, final, rfl, hparameters, hintermediates, hfinal⟩, by simp⟩
    · simp [hfinal] at h

/-! ## Code points of a sequence -/

theorem IsSequence.surrogate_not_mem {sequence : Text} (h : IsSequence sequence) (index : Fin 0x800) :
    CodePoint.surrogate index ∉ sequence := by
  obtain ⟨body, ⟨parameters, intermediates, final, rfl, hparameters, hintermediates, hfinal⟩, rfl⟩ := h
  intro hmem
  simp only [List.mem_cons, List.mem_append, reduceCtorEq, false_or, List.not_mem_nil, or_false] at hmem
  rcases hmem with hmem | hmem | rfl
  · cases hparameters _ hmem
  · cases hintermediates _ hmem
  · cases hfinal

theorem IsSequence.getLast?_ne_lineFeed {sequence : Text} (h : IsSequence sequence) :
    sequence.getLast? ≠ some Text.lineFeed := by
  obtain ⟨body, ⟨parameters, intermediates, final, rfl, _, _, hfinal⟩, rfl⟩ := h
  have hlast : (CodePoint.scalar '\x1b' :: .scalar '[' :: (parameters ++ (intermediates ++ [final]))).getLast? =
      some final := by
    rw [← List.append_assoc, ← List.cons_append, ← List.cons_append, List.getLast?_append]
    rfl
  rw [hlast]
  intro heq
  cases heq
  cases hfinal

/-! ## What is left -/

/-- A text and what is left of it without its control sequences. -/
inductive Stripped : Text → Text → Prop
  | done : Stripped [] []
  | pass {sequence rest left : Text} :
    IsSequence sequence → Stripped rest left → Stripped (sequence ++ rest) left
  | keep {p : CodePoint} {rest left : Text} :
    (∀ sequence, IsSequence sequence → ¬sequence <+: p :: rest) → Stripped rest left →
      Stripped (p :: rest) (p :: left)

end ControlSequence

namespace Text

open ControlSequence

theorem withoutControlsFrom_eq (skip : Nat) (t : Text) :
    withoutControlsFrom skip t = withoutControls (t.drop skip) := by
  induction t generalizing skip with
  | nil => simp [withoutControls, withoutControlsFrom]
  | cons p rest ih =>
    cases skip with
    | zero => rfl
    | succ skip =>
      rw [withoutControlsFrom, ih]
      rfl

theorem withoutControls_append_of_isSequence {sequence : Text} (h : IsSequence sequence) (rest : Text) :
    withoutControls (sequence ++ rest) = withoutControls rest := by
  obtain ⟨body, hbody, rfl⟩ := h
  rw [withoutControls, List.cons_append, List.cons_append, withoutControlsFrom, length?_append hbody]
  simp only [withoutControlsFrom_eq]
  rw [List.drop_succ_cons, List.drop_left]

theorem withoutControls_cons {p : CodePoint} {rest : Text}
    (h : ∀ sequence, IsSequence sequence → ¬sequence <+: p :: rest) :
    withoutControls (p :: rest) = p :: withoutControls rest := by
  rw [withoutControls]
  by_cases hstart : p = .scalar '\x1b' ∧ ∃ after, rest = .scalar '[' :: after
  · obtain ⟨rfl, after, rfl⟩ := hstart
    rw [withoutControlsFrom]
    cases hlength : length? after with
    | none => rfl
    | some length =>
      obtain ⟨body, others, hbody, rfl⟩ := exists_body_of_length? hlength
      exact absurd ⟨others, rfl⟩ (h _ ⟨body, hbody, rfl⟩)
  · rw [withoutControlsFrom]
    · rfl
    · rintro after rfl rfl
      exact hstart ⟨rfl, after, rfl⟩

theorem stripped_withoutControls (t : Text) : Stripped t (withoutControls t) := by
  -- A sequence that is left out shortens the text by more than its first code point.
  induction hlength : t.length using Nat.strong_induction_on generalizing t with
  | _ n ih =>
    by_cases hstart : ∃ sequence, IsSequence sequence ∧ sequence <+: t
    · obtain ⟨sequence, hsequence, rest, rfl⟩ := hstart
      have hshorter : rest.length < n := by
        obtain ⟨body, _, rfl⟩ := hsequence
        rw [← hlength, List.cons_append, List.length_cons, List.cons_append, List.length_cons,
          List.length_append]
        omega
      rw [withoutControls_append_of_isSequence hsequence]
      exact .pass hsequence (ih _ hshorter rest rfl)
    · have hnone : ∀ sequence, IsSequence sequence → ¬sequence <+: t :=
        fun sequence hsequence hstarts => hstart ⟨sequence, hsequence, hstarts⟩
      cases t with
      | nil => exact .done
      | cons p rest =>
        have hshorter : rest.length < n := by
          rw [← hlength, List.length_cons]
          omega
        rw [withoutControls_cons hnone]
        exact .keep hnone (ih _ hshorter rest rfl)

/-- **What is left of a text** when control sequences are left out one after the other. -/
theorem withoutControls_eq_iff (t left : Text) : withoutControls t = left ↔ Stripped t left := by
  constructor
  · rintro rfl
    exact stripped_withoutControls t
  · intro h
    induction h with
    | done => rfl
    | pass hsequence _ ih => rw [withoutControls_append_of_isSequence hsequence, ih]
    | keep hnone _ ih => rw [withoutControls_cons hnone, ih]

end Text

/-! ## What stays -/

namespace ControlSequence.Stripped

variable {t left : Text}

theorem surrogate_mem_iff (h : Stripped t left) (index : Fin 0x800) :
    CodePoint.surrogate index ∈ left ↔ CodePoint.surrogate index ∈ t := by
  induction h with
  | done => exact Iff.rfl
  | pass hsequence _ ih => simp [ih, hsequence.surrogate_not_mem index]
  | keep _ _ ih => simp [ih]

theorem append_lineFeed (h : Stripped t left) : Stripped (t ++ [Text.lineFeed]) (left ++ [Text.lineFeed]) := by
  -- A sequence that reached into the line feed would end with it.
  have hnot {t sequence : Text} (hsequence : IsSequence sequence)
      (hstarts : sequence <+: t ++ [Text.lineFeed]) : sequence <+: t := by
    rcases List.prefix_concat_iff.mp hstarts with rfl | hstarts
    · exact absurd List.getLast?_concat hsequence.getLast?_ne_lineFeed
    · exact hstarts
  induction h with
  | done =>
    refine .keep (fun sequence hsequence hstarts => ?_) .done
    have hnil := List.prefix_nil.mp (hnot (t := []) hsequence hstarts)
    obtain ⟨body, _, rfl⟩ := hsequence
    cases hnil
  | pass hsequence _ ih =>
    rw [List.append_assoc]
    exact .pass hsequence ih
  | keep hnone _ ih =>
    exact .keep (fun sequence hsequence hstarts => hnone sequence hsequence (hnot hsequence hstarts)) ih

theorem append_left {front : Text} (hfront : CodePoint.scalar '\x1b' ∉ front) (h : Stripped t left) :
    Stripped (front ++ t) (front ++ left) := by
  induction front with
  | nil => exact h
  | cons p rest ih =>
    refine .keep (fun sequence hsequence hstarts => ?_) (ih (List.not_mem_of_not_mem_cons hfront))
    obtain ⟨body, _, rfl⟩ := hsequence
    exact List.ne_of_not_mem_cons hfront (List.cons_prefix_cons.mp hstarts).1

theorem length_le (h : Stripped t left) : left.length ≤ t.length := by
  induction h with
  | done => exact Nat.le_refl _
  | pass _ _ ih =>
    rw [List.length_append]
    omega
  | keep _ _ ih => exact Nat.succ_le_succ ih

theorem length_lt {sequence : Text} (hsequence : IsSequence sequence) (hinner : sequence <:+: t)
    (h : Stripped t left) : left.length < t.length := by
  induction h with
  | done =>
    obtain ⟨body, _, rfl⟩ := hsequence
    cases List.infix_nil.mp hinner
  | pass hfirst hrest _ =>
    obtain ⟨body, _, rfl⟩ := hfirst
    have hle := hrest.length_le
    rw [List.length_append, List.length_cons]
    omega
  | keep hnone _ ih =>
    rcases List.infix_cons_iff.mp hinner with hstarts | hinner
    · exact absurd hstarts (hnone sequence hsequence)
    · exact Nat.succ_lt_succ (ih hinner)

theorem self (h : ∀ sequence, IsSequence sequence → ¬sequence <:+: t) : Stripped t t := by
  induction t with
  | nil => exact .done
  | cons p rest ih =>
    refine .keep (fun sequence hsequence hstarts => h sequence hsequence hstarts.isInfix) (ih ?_)
    exact fun sequence hsequence hinner => h sequence hsequence (hinner.trans (List.suffix_cons p rest).isInfix)

end ControlSequence.Stripped

namespace Text

open ControlSequence

theorem withoutControls_eq_self_iff (t : Text) :
    withoutControls t = t ↔ ∀ sequence, IsSequence sequence → ¬sequence <:+: t := by
  rw [withoutControls_eq_iff]
  constructor
  · intro h sequence hsequence hinner
    exact absurd (h.length_lt hsequence hinner) (Nat.lt_irrefl _)
  · exact Stripped.self

theorem surrogate_mem_withoutControls (t : Text) (index : Fin 0x800) :
    CodePoint.surrogate index ∈ withoutControls t ↔ CodePoint.surrogate index ∈ t :=
  (stripped_withoutControls t).surrogate_mem_iff index

theorem withoutControls_append_lineFeed (t : Text) :
    withoutControls (t ++ [lineFeed]) = withoutControls t ++ [lineFeed] :=
  (withoutControls_eq_iff _ _).mpr (stripped_withoutControls t).append_lineFeed

theorem withoutControls_append {front : Text} (h : CodePoint.scalar '\x1b' ∉ front) (t : Text) :
    withoutControls (front ++ t) = front ++ withoutControls t :=
  (withoutControls_eq_iff _ _).mpr ((stripped_withoutControls t).append_left h)

end Text

end Externs
