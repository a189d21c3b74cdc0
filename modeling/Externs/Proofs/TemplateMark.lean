import Externs.Proofs.BlockReading

/-!
# The template parameter

A constructor or a static function is a template if a type of one of its parameters names `T`. The name is
looked for in the text of the tokens, where it must be a word of its own.

* `Text.StandsAlone`: `T` is a word of its own at a position of a text;
* `Text.foundIn_templatePattern_iff`: the pattern is found just where `T` stands so;
* `Text.mentionsTemplate_iff`, `Text.mentionsTemplate_iff_mem_words`: the search finds it, by position and by
  words;
* `Text.mentionsTemplate_joinWith`: commas between texts neither make such a word nor hide one;
* `Declaration.UsesTemplate`: a declared type of a parameter has a token that names `T`;
* `Declaration.template_inferred_exactly`: when the annotation of the template parameter is written.
-/

namespace Externs

set_option autoImplicit false

open Text

/-! ## Words in texts -/

namespace Text

def templateMark : CodePoint := .scalar 'T'

/-- The template parameter stands at a position, with no other part of a word before or after it. -/
structure StandsAlone (t : Text) (i : Nat) : Prop where
  mark : t[i]? = some templateMark
  before : ∀ p, 0 < i → t[i - 1]? = some p → p.isWord = false
  after : ∀ p, t[i + 1]? = some p → p.isWord = false

/-- A text cut at all that is no part of a word. -/
def words (t : Text) : List Text := t.splitOnP fun p => !p.isWord

/-- What it takes to stand alone after `front` and before `rest`. -/
theorem standsAlone_append (front : Text) (p : CodePoint) (rest : Text) :
    StandsAlone (front ++ p :: rest) front.length ↔
      front.getLast?.any CodePoint.isWord = false ∧ p = templateMark ∧
        rest.head?.any CodePoint.isWord = false := by
  have hmark : (front ++ p :: rest)[front.length]? = some p := by simp
  have hafter : (front ++ p :: rest)[front.length + 1]? = rest.head? := by
    rw [List.getElem?_append_right (by omega), List.head?_eq_getElem?]
    simp
  have hbefore (h : 0 < front.length) : (front ++ p :: rest)[front.length - 1]? = front.getLast? := by
    rw [List.getElem?_append_left (by omega), List.getLast?_eq_getElem?]
  rw [Option.any_eq_false, Option.any_eq_false]
  constructor
  · intro h
    refine ⟨fun q hq => ?_, Option.some.inj (hmark.symm.trans h.mark), fun q hq => ?_⟩
    · have hlength : 0 < front.length := by
        cases front with
        | nil => cases hq
        | cons first others => exact Nat.succ_pos _
      exact h.before q hlength ((hbefore hlength).trans hq)
    · exact h.after q (hafter.trans hq)
  · rintro ⟨hfront, rfl, hrest⟩
    refine ⟨hmark, fun q hlength hq => ?_, fun q hq => ?_⟩
    · exact hfront q ((hbefore hlength).symm.trans hq)
    · exact hrest q (hafter.symm.trans hq)

theorem standsAlone_iff_append (t : Text) :
    (∃ i, StandsAlone t i) ↔ ∃ front rest, t = front ++ templateMark :: rest ∧
      front.getLast?.any CodePoint.isWord = false ∧ rest.head?.any CodePoint.isWord = false := by
  constructor
  · rintro ⟨i, halone⟩
    obtain ⟨hi, hmark⟩ := List.getElem?_eq_some_iff.mp halone.mark
    have hcut : t = t.take i ++ templateMark :: t.drop (i + 1) := by
      rw [← hmark, ← List.drop_eq_getElem_cons hi, List.take_append_drop]
    have hlength : (t.take i).length = i := List.length_take_of_le (Nat.le_of_lt hi)
    have hparts : StandsAlone (t.take i ++ templateMark :: t.drop (i + 1)) (t.take i).length := by
      rw [← hcut, hlength]
      exact halone
    obtain ⟨hfront, _, hrest⟩ := (standsAlone_append _ _ _).mp hparts
    exact ⟨t.take i, t.drop (i + 1), hcut, hfront, hrest⟩
  · rintro ⟨front, rest, rfl, hfront, hrest⟩
    exact ⟨front.length, (standsAlone_append _ _ _).mpr ⟨hfront, rfl, hrest⟩⟩

/-! ## The pattern -/

theorem matches_beforeWord_iff (front rest : Text) :
    (∃ before part, front = before ++ part ∧ beforeWord.Matches before part rest) ↔
      front.getLast?.any CodePoint.isWord = false := by
  constructor
  · rintro ⟨before, part, rfl, ⟨rfl, rfl⟩ | ⟨p, rfl, hp⟩⟩
    · rfl
    · simpa using hp
  · intro h
    cases hlast : front.getLast? with
    | none =>
      obtain rfl := List.getLast?_eq_none_iff.mp hlast
      exact ⟨[], [], rfl, .inl ⟨rfl, rfl⟩⟩
    | some p =>
      obtain ⟨before, rfl⟩ := List.getLast?_eq_some_iff.mp hlast
      exact ⟨before, [p], rfl, .inr ⟨p, rfl, by simpa using h⟩⟩

theorem matches_afterWord_iff (front rest : Text) :
    (∃ part after, rest = part ++ after ∧ afterWord.Matches front part after) ↔
      rest.head?.any CodePoint.isWord = false := by
  constructor
  · rintro ⟨part, after, rfl, ⟨rfl, rfl | rfl⟩ | ⟨p, rfl, hp⟩⟩
    · rfl
    · decide
    · simpa using hp
  · intro h
    cases rest with
    | nil => exact ⟨[], [], rfl, .inl ⟨rfl, .inl rfl⟩⟩
    | cons p after => exact ⟨[p], after, rfl, .inr ⟨p, rfl, by simpa using h⟩⟩

/-- **The pattern is found just where the template parameter stands alone.** -/
theorem foundIn_templatePattern_iff (t : Text) :
    templatePattern.FoundIn t ↔ ∃ i, StandsAlone t i := by
  rw [standsAlone_iff_append]
  constructor
  · rintro ⟨before, _, after, rfl, start, _, rfl, hstart, mark, finish, rfl, ⟨p, rfl, hp⟩, hfinish⟩
    obtain rfl : p = templateMark := of_decide_eq_true hp
    refine ⟨before ++ start, finish ++ after, by simp, ?_, ?_⟩
    · exact (matches_beforeWord_iff _ _).mp ⟨before, start, rfl, hstart⟩
    · exact (matches_afterWord_iff _ _).mp ⟨finish, after, rfl, hfinish⟩
  · rintro ⟨front, rest, rfl, hfront, hrest⟩
    obtain ⟨finish, after, rfl, hfinish⟩ := (matches_afterWord_iff (front ++ [templateMark]) _).mpr hrest
    obtain ⟨before, start, rfl, hstart⟩ :=
      (matches_beforeWord_iff _ (([templateMark] ++ finish) ++ after)).mpr hfront
    refine ⟨before, start ++ ([templateMark] ++ finish), after, by simp, start, _, rfl, hstart, ?_⟩
    exact ⟨[templateMark], finish, rfl, ⟨templateMark, rfl, rfl⟩, hfinish⟩

/-! ## The search -/

/-- The search over the rest of a text finds what stands alone after the part that was read. -/
theorem mentionsTemplateAfter_iff (front back : Text) :
    mentionsTemplateAfter (front.getLast?.any CodePoint.isWord) back = true ↔
      ∃ i, front.length ≤ i ∧ StandsAlone (front ++ back) i := by
  induction back generalizing front with
  | nil =>
    constructor
    · intro h
      cases h
    · rintro ⟨i, hi, halone⟩
      have hnone : (front ++ [])[i]? = none := List.getElem?_eq_none (by simpa using hi)
      rw [halone.mark] at hnone
      cases hnone
  | cons p rest ih =>
    have hlater := ih (front ++ [p])
    rw [List.getLast?_concat, List.append_assoc, List.length_append] at hlater
    have hstep : mentionsTemplateAfter (front.getLast?.any CodePoint.isWord) (p :: rest) = true ↔
        StandsAlone (front ++ p :: rest) front.length ∨
          ∃ i, front.length + 1 ≤ i ∧ StandsAlone (front ++ p :: rest) i := by
      rw [mentionsTemplateAfter, Bool.or_eq_true, standsAlone_append]
      exact or_congr (by simp [templateMark, and_assoc]) hlater
    rw [hstep]
    constructor
    · rintro (hhere | ⟨i, hi, halone⟩)
      · exact ⟨front.length, le_refl _, hhere⟩
      · exact ⟨i, by omega, halone⟩
    · rintro ⟨i, hi, halone⟩
      rcases Nat.eq_or_lt_of_le hi with rfl | hlt
      · exact .inl halone
      · exact .inr ⟨i, hlt, halone⟩

/-- **The search decides whether the template parameter stands alone somewhere.** -/
theorem mentionsTemplate_iff (t : Text) : t.mentionsTemplate = true ↔ ∃ i, StandsAlone t i := by
  have hall := mentionsTemplateAfter_iff [] t
  simpa [mentionsTemplate] using hall

theorem words_cons (p : CodePoint) (rest : Text) :
    words (p :: rest) = if p.isWord then (words rest).modifyHead (p :: ·) else [] :: words rest := by
  rw [words, List.splitOnP_cons_eq_if_modifyHead]
  cases hp : p.isWord <;> simp [words]

/-- The first word is empty just if the text does not start with a part of one. -/
theorem words_head_eq_nil {t first : Text} {others : List Text} (h : words t = first :: others) :
    first = [] ↔ t.head?.any CodePoint.isWord = false := by
  cases t with
  | nil =>
    obtain ⟨rfl, _⟩ := List.cons.inj h
    simp
  | cons p rest =>
    rw [words_cons] at h
    cases hp : p.isWord with
    | false =>
      rw [hp] at h
      obtain ⟨rfl, _⟩ := List.cons.inj h
      simp [hp]
    | true =>
      cases hrest : words rest with
      | nil => exact absurd hrest (List.splitOnP_ne_nil _ _)
      | cons word more =>
        rw [hp, hrest] at h
        obtain ⟨rfl, _⟩ := List.cons.inj h
        simp [hp]

/-- The search is for a word; in the middle of a word its rest does not count. -/
theorem mentionsTemplateAfter_iff_mem (inWord : Bool) (t : Text) :
    mentionsTemplateAfter inWord t = true ↔
      [templateMark] ∈ if inWord then (words t).tail else words t := by
  induction t generalizing inWord with
  | nil =>
    cases inWord <;> decide
  | cons p rest ih =>
    rw [mentionsTemplateAfter, Bool.or_eq_true, ih, words_cons]
    cases hp : p.isWord with
    | false =>
      have hne : p ≠ .scalar 'T' := by
        rintro rfl
        exact absurd hp (by decide)
      cases inWord <;> simp [hne]
    | true =>
      cases hrest : words rest with
      | nil => exact absurd hrest (List.splitOnP_ne_nil _ _)
      | cons first others =>
        have hword : [templateMark] = p :: first ↔
            p = templateMark ∧ rest.head?.any CodePoint.isWord = false := by
          rw [← words_head_eq_nil hrest]
          constructor
          · intro heq
            obtain ⟨rfl, rfl⟩ := List.cons.inj heq
            exact ⟨rfl, rfl⟩
          · rintro ⟨rfl, rfl⟩
            rfl
        cases inWord with
        | false =>
          change _ ↔ [templateMark] ∈ (p :: first) :: others
          rw [List.mem_cons, hword]
          simp [templateMark]
        | true => simp

theorem mentionsTemplate_iff_mem_words (t : Text) : t.mentionsTemplate = true ↔ [templateMark] ∈ words t :=
  mentionsTemplateAfter_iff_mem false t

/-- **Joining texts with commas neither makes the template parameter nor hides it.** -/
theorem mentionsTemplate_joinWith (parts : List Text) :
    (joinWith "," parts).mentionsTemplate = true ↔ ∃ part ∈ parts, part.mentionsTemplate = true := by
  induction parts with
  | nil => decide
  | cons part rest ih =>
    cases rest with
    | nil => simp [joinWith]
    | cons next others =>
      have hcut : words (joinWith "," (part :: next :: others)) =
          words part ++ words (joinWith "," (next :: others)) := by
        rw [joinWith_cons_cons, List.append_assoc]
        exact List.splitOnP_append_cons _ _ (by decide)
      rw [mentionsTemplate_iff_mem_words, hcut, List.mem_append, ← mentionsTemplate_iff_mem_words,
        ← mentionsTemplate_iff_mem_words, ih]
      exact (List.exists_mem_cons_iff (mentionsTemplate · = true) part (next :: others)).symm

end Text

/-! ## Types and declarations that name it -/

/-- A type has a token that names the template parameter: the type itself if it is neither a union nor a
structure, or a member of a union. Structures have none. -/
inductive Descriptor.NamesTemplate : Descriptor → Prop
  | token {value : Json} (hunion : value.items? = none) (hstructure : value.entries? = none) (i : Nat)
      (h : StandsAlone value.token i) : NamesTemplate (.plain value)
  | member {items : List Json} {item : Json} (hitem : item ∈ items) (i : Nat)
      (h : StandsAlone item.token i) : NamesTemplate (.plain (.arr items))

namespace Descriptor

theorem namesTemplate_token {value : Json} (hunion : value.items? = none) (hstructure : value.entries? = none) :
    NamesTemplate (.plain value) ↔ ∃ i, StandsAlone value.token i := by
  constructor
  · intro h
    cases h with
    | token _ _ i hi => exact ⟨i, hi⟩
    | member _ _ _ => cases hunion
  · rintro ⟨i, hi⟩
    exact .token hunion hstructure i hi

theorem namesTemplate_union (items : List Json) :
    NamesTemplate (.plain (.arr items)) ↔ ∃ item ∈ items, ∃ i, StandsAlone item.token i := by
  constructor
  · intro h
    cases h with
    | token hunion _ _ _ => cases hunion
    | member hitem i hi => exact ⟨_, hitem, i, hi⟩
  · rintro ⟨item, hitem, i, hi⟩
    exact .member hitem i hi

/-- **The search in the text of a type finds the tokens that name the template parameter.** -/
theorem mentionsTemplate_plainText (type : Descriptor) :
    type.plainText.mentionsTemplate = true ↔ type.NamesTemplate := by
  have hnone : Text.mentionsTemplate [] ≠ true := by decide
  have htoken (value : Json) (hunion : value.items? = none) (hstructure : value.entries? = none) :
      value.token.mentionsTemplate = true ↔ NamesTemplate (.plain value) := by
    rw [Text.mentionsTemplate_iff, namesTemplate_token hunion hstructure]
  cases type with
  | record fields => exact iff_of_false hnone (by rintro ⟨⟩)
  | plain value =>
    cases value with
    | arr items =>
      rw [namesTemplate_union]
      refine (Text.mentionsTemplate_joinWith (items.map Json.token)).trans ?_
      simp only [Text.mentionsTemplate_iff, List.mem_map, exists_exists_and_eq_and]
    | obj entries =>
      refine iff_of_false hnone ?_
      rintro ⟨_, hstructure⟩
      cases hstructure
    | null => exact htoken .null rfl rfl
    | bool b => exact htoken (.bool b) rfl rfl
    | int n => exact htoken (.int n) rfl rfl
    | float x => exact htoken (.float x) rfl rfl
    | str t => exact htoken (.str t) rfl rfl

end Descriptor

/-- Some parameter has a declared type that names the template parameter. -/
def Declaration.UsesTemplate (d : Declaration) : Prop :=
  ∃ p ∈ d.parameters, p.type.isDeclared = true ∧ p.type.NamesTemplate

theorem Parameter.mentionsTemplate_iff (p : Parameter) :
    p.mentionsTemplate = true ↔ p.type.isDeclared = true ∧ p.type.NamesTemplate := by
  rw [Parameter.mentionsTemplate, Descriptor.orWildcard]
  cases hdeclared : p.type.isDeclared with
  | false =>
    have hnone : Descriptor.wildcard.plainText.mentionsTemplate = false := by decide
    simp [hnone]
  | true => simp [Descriptor.mentionsTemplate_plainText]

namespace Declaration

section Comments

variable (policy : NullPolicy) (d : Declaration) (comments : List Text)

theorem template_iff : (d.parameters.any Parameter.mentionsTemplate &&
    (comments.contains constructorComment || d.isStatic)) = true ↔
      (constructorComment ∈ comments ∨ d.isStatic = true) ∧ d.UsesTemplate := by
  rw [Bool.and_eq_true, and_comm, Bool.or_eq_true, List.contains_iff_mem, List.any_eq_true]
  simp only [UsesTemplate, Parameter.mentionsTemplate_iff]

theorem withParameterComments_eq : d.withParameterComments policy comments =
    comments ++ d.parameters.map (Parameter.comment policy) ++
      if d.parameters.any Parameter.mentionsTemplate &&
        (comments.contains constructorComment || d.isStatic) then [templateComment] else [] := rfl

theorem withParameterComments_of_template
    (h : (constructorComment ∈ comments ∨ d.isStatic = true) ∧ d.UsesTemplate) :
    d.withParameterComments policy comments =
      comments ++ d.parameters.map (Parameter.comment policy) ++ [templateComment] := by
  rw [withParameterComments_eq, if_pos ((template_iff d comments).mpr h)]

theorem withParameterComments_of_not_template
    (h : ¬((constructorComment ∈ comments ∨ d.isStatic = true) ∧ d.UsesTemplate)) :
    d.withParameterComments policy comments = comments ++ d.parameters.map (Parameter.comment policy) := by
  rw [withParameterComments_eq, if_neg (h ∘ (template_iff d comments).mp), List.append_nil]

end Comments

/-! ## Annotations and blocks -/

open Block

theorem templateComment_not_mem {comments : List Text} (h : arguments .template comments = []) :
    templateComment ∉ comments := by
  intro hmem
  have htag : tagOf templateComment = Tag.template.text := by decide
  have hargument : argumentOf templateComment ∈ arguments .template comments :=
    List.mem_map_of_mem (List.mem_filter.mpr ⟨hmem, decide_eq_true htag⟩)
  rw [h] at hargument
  cases hargument

/-- The annotations of parameters add the one of the template parameter, or none that could be taken for it. -/
theorem mem_withParameterComments_iff (policy : NullPolicy) (d : Declaration) {comments : List Text}
    (h : arguments .template comments = []) :
    templateComment ∈ d.withParameterComments policy comments ↔
      (constructorComment ∈ comments ∨ d.isStatic = true) ∧ d.UsesTemplate := by
  have hbefore : templateComment ∉ comments ++ d.parameters.map (Parameter.comment policy) := by
    apply templateComment_not_mem
    simp [arguments_append, h, arguments_parameterComments]
  by_cases htemplate : (constructorComment ∈ comments ∨ d.isStatic = true) ∧ d.UsesTemplate
  · rw [withParameterComments_of_template policy d comments htemplate]
    simp [htemplate]
  · rw [withParameterComments_of_not_template policy d comments htemplate]
    simp [hbefore, htemplate]

theorem mem_annotations_iff (policy : NullPolicy) (d : Declaration) {kind : Kind}
    (hkind : kind.isCallable = true) :
    templateComment ∈ d.annotations policy kind ↔ (kind = .classKind ∨ d.isStatic = true) ∧ d.UsesTemplate := by
  have hfunction : templateComment ∈
      d.withParameterComments policy [] ++ d.typeComments policy Tag.returned.text ↔
        d.isStatic = true ∧ d.UsesTemplate := by
    have htype : templateComment ∉ d.typeComments policy Tag.returned.text :=
      templateComment_not_mem (by rw [arguments_typeComments]; rfl)
    rw [List.mem_append, mem_withParameterComments_iff policy d rfl]
    simp [htype]
  cases kind with
  | classKind =>
    have hnone : arguments .template ([constructorComment] ++ partComments Tag.parent.text d.extended ++
        partComments Tag.implemented.text d.implemented) = [] := by
      simp only [arguments_append, arguments_constructorComment, arguments_partComments]
      rfl
    rw [annotations, mem_withParameterComments_iff policy d hnone]
    simp
  | interfaceKind =>
    have hother : constructorComment ∉ [Tag.interface.text] := by decide
    rw [annotations, mem_withParameterComments_iff policy d (by decide)]
    simp [hother]
  | functionKind => simpa [annotations] using hfunction
  | methodKind => simpa [annotations] using hfunction
  | _ => cases hkind

/-- The line of the template parameter is that of an annotation, and never the statement. -/
theorem mem_lines_iff {policy : NullPolicy} {d : Declaration} (h : d.OnLines policy) {kind : Kind}
    (hkind : kind.isCallable = true) :
    Text.ofString " * @template T" ∈ (d.blockOf policy kind).splitAt lineFeed ↔
      templateComment ∈ d.annotations policy kind := by
  have hline : Text.ofString " * @template T" = Text.ofString " * " ++ templateComment := by decide
  have hopen : Text.ofString " * @template T" ≠ Text.ofString "/**" := by decide
  have hend : Text.ofString " * @template T" ≠ Declaration.commentEnd := by decide
  have hstatement : Text.ofString " * @template T" ≠ d.functionLine := by
    have hlast : d.functionLine.getLast? = some (.scalar ';') := by
      have hsemicolon : (Text.ofString ") \x7b\x7d;").getLast? = some (.scalar ';') := by decide
      simp [functionLine, List.getLast?_append, List.getLast?_cons, hsemicolon]
    intro heq
    rw [← heq] at hlast
    exact absurd hlast (by decide)
  rw [blockOf_eq policy d (ne_module_of_isCallable hkind), splitAt_lines d (h.annotations kind),
    splitAt_function h hkind]
  constructor
  · intro hmem
    simp only [List.mem_cons, List.mem_append, hopen, hend, hstatement, List.not_mem_nil, or_false,
      false_or] at hmem
    obtain ⟨comment, hcomment, heq⟩ := List.mem_map.mp hmem
    rw [hline] at heq
    rwa [List.append_cancel_left heq] at hcomment
  · intro hmem
    rw [hline]
    exact List.mem_cons_of_mem _ (List.mem_append_left _ (List.mem_map_of_mem hmem))

/-- **The template parameter is inferred exactly.** The annotations that are given stay, and one for each
parameter follows, in order. One of the template parameter comes last, just if a constructor or a static
declaration has a parameter with a declared type one of whose tokens has `T` as a word of its own. This is where
the pattern is found; such a word is one of those that a text is cut into, and commas between tokens neither make
one nor hide one. So the blocks of classes, and those of static interfaces, functions and methods, have the line of the template parameter just if
some parameter names it. -/
theorem template_inferred_exactly :
    (∀ t : Text, (t.mentionsTemplate = true ↔ ∃ i, t.StandsAlone i) ∧
      (templatePattern.FoundIn t ↔ ∃ i, t.StandsAlone i) ∧
      ((∃ i, t.StandsAlone i) ↔ [templateMark] ∈ t.words)) ∧
    (∀ parts : List Text,
      (∃ i, (Text.joinWith "," parts).StandsAlone i) ↔ ∃ part ∈ parts, ∃ i, part.StandsAlone i) ∧
    ∀ (policy : NullPolicy) (d : Declaration),
      (∀ comments : List Text,
        ((constructorComment ∈ comments ∨ d.isStatic = true) ∧ d.UsesTemplate →
          d.withParameterComments policy comments =
            comments ++ d.parameters.map (Parameter.comment policy) ++ [templateComment]) ∧
        (¬((constructorComment ∈ comments ∨ d.isStatic = true) ∧ d.UsesTemplate) →
          d.withParameterComments policy comments =
            comments ++ d.parameters.map (Parameter.comment policy))) ∧
      ∀ kind : Kind, kind.isCallable = true →
        d.blockOf policy kind = d.functionStatement (d.annotations policy kind) ∧
        (templateComment ∈ d.annotations policy kind ↔
          (kind = .classKind ∨ d.isStatic = true) ∧ d.UsesTemplate) ∧
        (d.OnLines policy →
          (Text.ofString " * @template T" ∈ (d.blockOf policy kind).splitAt lineFeed ↔
            (kind = .classKind ∨ d.isStatic = true) ∧ d.UsesTemplate)) := by
  refine ⟨fun t => ⟨mentionsTemplate_iff t, foundIn_templatePattern_iff t, ?_⟩, ?_, ?_⟩
  · rw [← mentionsTemplate_iff, mentionsTemplate_iff_mem_words]
  · intro parts
    simpa only [mentionsTemplate_iff] using mentionsTemplate_joinWith parts
  · intro policy d
    refine ⟨fun comments => ⟨withParameterComments_of_template policy d comments,
      withParameterComments_of_not_template policy d comments⟩, ?_⟩
    intro kind hkind
    refine ⟨?_, mem_annotations_iff policy d hkind, fun hlines => ?_⟩
    · cases kind with
      | classKind | interfaceKind | functionKind | methodKind => rfl
      | _ => cases hkind
    · rw [mem_lines_iff hlines hkind, mem_annotations_iff policy d hkind]

/-- A static function. The field of the first type is called `T`, which does not count; a member of the second
type has `T` as a word. -/
def staticSample : Declaration :=
  ofEntries [("kind", .str "Function"), ("qualifiedName", .str "f"), ("isStatic", .bool true),
    ("parameters", .arr [.obj [("name", .str "a"), ("type", .obj [("T", .str "T")])],
      .obj [("name", .str "b"), ("type", .arr [.str "TT", .str "Map<K,T>"])]])]

theorem template_inferred_static :
    staticSample.UsesTemplate ∧
      staticSample.withParameterComments .nullable [] =
        staticSample.parameters.map (Parameter.comment .nullable) ++ [templateComment] ∧
      Text.ofString " * @template T" ∈ (staticSample.blockOf .nullable .functionKind).splitAt lineFeed := by
  have huses : staticSample.UsesTemplate :=
    ⟨_, List.mem_cons_of_mem _ List.mem_cons_self, (Parameter.mentionsTemplate_iff _).mp (by decide)⟩
  have hlines : staticSample.OnLines .nullable := onLines_ofEntries .nullable (by decide)
  obtain ⟨hcomments, hblocks⟩ := template_inferred_exactly.2.2 .nullable staticSample
  obtain ⟨_, _, hline⟩ := hblocks .functionKind rfl
  exact ⟨huses, (hcomments []).1 ⟨.inr rfl, huses⟩, (hline hlines).mpr ⟨.inr rfl, huses⟩⟩

end Declaration

end Externs
