import Externs.Proofs.CheckedRuns
import Externs.Proofs.Walked

/-!
# What validation promises

A tree that was checked loses nothing on its way into a document. A node is checked for its name if some
key that leads to it is not empty, and it is written if the last key is not empty; a walk comes only to
nodes that were checked.

* `Json.wording_ne_nil`: a value that counts as present has a text;
* `Node.Stop.Sound`: a node that breaks no rule;
* `Node.Stop.isMet`: a node with a tag and a name;
* `Declaration.Faithful`: a declaration that has all that the entries of its node give;
* `Node.Stop.Sound.faithful`: a node that breaks no rule, met by a walk, has a faithful declaration;
* `Document.blocks_of_validated`: so each node that is met in a checked tree is written, and faithfully.
-/

namespace Externs

set_option autoImplicit false

/-! ## Texts of values -/

theorem Text.ne_nil_of_hasMark {t : Text} (h : t.hasMark = true) : t ≠ [] := by
  rintro rfl
  cases h

theorem Binary64.text_ne_nil (x : Binary64) : x.text ≠ [] := by
  cases x with
  | nan => decide
  | infinite negative => cases negative <;> decide
  | finite negative mantissa exponent =>
    exact Text.ne_nil_of_hasMark (Binary64.hasMark_text_finite negative mantissa exponent)

theorem Json.wording_ne_nil {value : Json} (h : value.truthy = true) : value.wording ≠ [] := by
  cases value with
  | null => cases h
  | bool value => cases value <;> decide
  | int value => exact Text.ne_nil_of_hasMark (Text.hasMark_ofInt value)
  | float value => exact Binary64.text_ne_nil value
  | str value =>
    intro hnil
    rw [Json.wording] at hnil
    rw [hnil] at h
    cases h
  | arr items => simp [Json.wording, Json.literal, Text.ofString]
  | obj entries => simp [Json.wording, Json.literal, Text.ofString]

namespace Node

open Json

/-! ## Nodes that break no rule -/

/-- The name under which a walk comes to a node: the last key that leads to it. The root has none. -/
def Stop.name (stop : Stop) : Text := stop.keys.getLastD []

/-- A node is met by a walk if it has a tag and a name. -/
def Stop.isMet (stop : Stop) : Bool := (field kindKey stop.entries).truthy && !stop.name.isEmpty

/-- A node that breaks no rule. -/
structure Stop.Sound (stop : Stop) : Prop where
  kind : (field kindKey stop.entries).truthy = true → kindOf stop.entries ≠ none
  name : kindOf stop.entries ≠ none → (∃ key ∈ stop.keys, key ≠ []) →
    ∃ text, field qualifiedNameKey stop.entries = .str text
  parameters : field parametersKey stop.entries = .null ∨
    ∃ items, field parametersKey stop.entries = .arr items ∧ ∀ item ∈ items, isNamed item = true
  members : kindOf stop.entries = some .enumKind → ∃ items, field membersKey stop.entries = .arr items

theorem parameterBreaches_eq_nil {parameters : Json} (h : parameterBreaches parameters = []) :
    parameters = .null ∨ ∃ items, parameters = .arr items ∧ ∀ item ∈ items, isNamed item = true := by
  cases parameters with
  | null => exact .inl rfl
  | arr items =>
    refine .inr ⟨items, rfl, ?_⟩
    intro item hmem
    obtain ⟨index, hindex⟩ := List.mem_iff_getElem?.mp hmem
    rw [parameterBreaches, List.map_eq_nil_iff, List.filter_eq_nil_iff] at h
    have hitem := h (item, index) (List.mem_zipIdx_iff_getElem?.mpr hindex)
    simpa using hitem
  | _ => cases h

theorem Stop.sound_of_breaches {stop : Stop} (h : breaches stop = []) : stop.Sound := by
  simp only [breaches, List.append_eq_nil_iff, ite_eq_right_iff, List.cons_ne_nil, imp_false] at h
  obtain ⟨⟨⟨hkind, hname⟩, hparameters⟩, hmembers⟩ := h
  refine ⟨?_, ?_, parameterBreaches_eq_nil hparameters, ?_⟩
  · intro htag hnone
    exact hkind ⟨htag, hnone⟩
  · intro hknown hkeys
    have htext : (field qualifiedNameKey stop.entries).text? ≠ none := by
      intro hnone
      exact hname ⟨hknown, hkeys, hnone⟩
    cases hvalue : field qualifiedNameKey stop.entries with
    | str text => exact ⟨text, rfl⟩
    | _ =>
      rw [hvalue] at htext
      exact absurd rfl htext
  · intro henum
    have hitems : (field membersKey stop.entries).items?.isNone ≠ true := by
      intro hnone
      exact hmembers ⟨henum, hnone⟩
    cases hvalue : field membersKey stop.entries with
    | arr items => exact ⟨items, rfl⟩
    | _ =>
      rw [hvalue] at hitems
      exact absurd rfl hitems

end Node

/-! ## Declarations that lose nothing -/

/-- A declaration has what the entries of its node give: its name is the string that stands there, its
parameters come one by one from the items of the list, each with a name, and the members of an
enumeration stand in a list. Without a list there are no parameters. -/
structure Declaration.Faithful (d : Declaration) (entries : Assoc Json) : Prop where
  name : ∃ text, Json.field Json.qualifiedNameKey entries = .str text ∧ d.qualifiedName = some text
  parameters : ∃ items,
    (Json.field Json.parametersKey entries = .arr items ∨
      Json.field Json.parametersKey entries = .null ∧ items = []) ∧
    List.Forall₂ (fun p item => Parameter.ofJson? item = some p ∧ p.name ≠ []) d.parameters items
  members : d.kind? = some .enumKind → ∃ items, Json.field Json.membersKey entries = .arr items

theorem Parameter.ofJson?_of_isNamed {item : Json} (h : Node.isNamed item = true) :
    ∃ p, Parameter.ofJson? item = some p ∧ p.name ≠ [] := by
  cases item with
  | obj entries =>
    have hname : (Json.field Json.nameKey entries).truthy = true := h
    refine ⟨_, rfl, ?_⟩
    cases hlook : Assoc.lookup Json.nameKey entries with
    | none =>
      rw [Json.field, hlook] at hname
      cases hname
    | some value =>
      rw [Json.field, hlook] at hname
      simp only [Json.nameText, hlook, Option.map_some, Option.getD_some]
      exact Json.wording_ne_nil hname
  | _ => cases h

theorem Parameter.forall₂_of_isNamed {items : List Json} (h : ∀ item ∈ items, Node.isNamed item = true) :
    List.Forall₂ (fun p item => Parameter.ofJson? item = some p ∧ p.name ≠ [])
      (items.filterMap Parameter.ofJson?) items := by
  induction items with
  | nil => exact .nil
  | cons item rest ih =>
    obtain ⟨p, hp, hname⟩ := Parameter.ofJson?_of_isNamed (h item List.mem_cons_self)
    rw [List.filterMap_cons_some hp]
    exact .cons ⟨hp, hname⟩ (ih fun other hmem => h other (List.mem_cons_of_mem _ hmem))

namespace Node

open Json

theorem Stop.exists_key_of_name {stop : Stop} (h : stop.name ≠ []) : ∃ key ∈ stop.keys, key ≠ [] := by
  refine ⟨stop.name, ?_, h⟩
  cases hkeys : stop.keys with
  | nil =>
    rw [Stop.name, hkeys] at h
    exact absurd rfl h
  | cons key rest =>
    rw [Stop.name, hkeys, List.getLastD_cons]
    exact List.getLastD_mem_cons

/-- A node that breaks no rule and is met has a faithful declaration: its last key is one of the keys
that make validation ask for a name. -/
theorem Stop.Sound.faithful {stop : Stop} (h : stop.Sound) (hmet : stop.isMet = true) :
    (Declaration.ofEntries stop.entries).Faithful stop.entries := by
  obtain ⟨htag, hname⟩ : (field kindKey stop.entries).truthy = true ∧ stop.name ≠ [] := by
    simpa [Stop.isMet] using hmet
  refine ⟨?_, ?_, ?_⟩
  · obtain ⟨text, htext⟩ := h.name (h.kind htag) (Stop.exists_key_of_name hname)
    refine ⟨text, htext, ?_⟩
    rw [Declaration.ofEntries, htext]
    rfl
  · rcases h.parameters with hnull | ⟨items, hitems, hnamed⟩
    · refine ⟨[], .inr ⟨hnull, rfl⟩, ?_⟩
      rw [Declaration.ofEntries, hnull]
      exact .nil
    · refine ⟨items, .inl hitems, ?_⟩
      rw [Declaration.ofEntries, hitems]
      exact Parameter.forall₂_of_isNamed hnamed
  · intro henum
    rw [Declaration.kind?_ofEntries] at henum
    exact h.members henum

/-! ## Walks over checked trees -/

/-- What a walk meets at a node. -/
def Stop.visit (policy : NullPolicy) (stop : Stop) : List Visit :=
  (Declaration.ofEntries stop.entries).visit policy stop.name

theorem Stop.visit_of_not_isMet (policy : NullPolicy) {stop : Stop} (h : stop.isMet = false) :
    stop.visit policy = [] := by
  rw [Stop.visit, Declaration.visit]
  rcases Bool.and_eq_false_iff.mp h with htag | hname
  · have hnone : (Declaration.ofEntries stop.entries).kindTag = none := by
      simp [Declaration.ofEntries, presentText, htag]
    rw [hnone]
  · have hempty : stop.name.isEmpty = true := by simpa using hname
    rw [hempty]
    cases (Declaration.ofEntries stop.entries).kindTag <;> rfl

/-- Of a node that breaks no rule, a tag names a kind, so the node is written. -/
theorem Stop.Sound.visit_of_isMet (policy : NullPolicy) {stop : Stop} (h : stop.Sound)
    (hmet : stop.isMet = true) :
    ∃ text, (Declaration.ofEntries stop.entries).block policy = some text ∧
      stop.visit policy = [.block text] := by
  obtain ⟨htag, hname⟩ : (field kindKey stop.entries).truthy = true ∧ stop.name.isEmpty = false := by
    simpa [Stop.isMet] using hmet
  obtain ⟨kind, hkind⟩ := Option.ne_none_iff_exists'.mp (h.kind htag)
  have hknown : (Declaration.ofEntries stop.entries).kind? = some kind :=
    (Declaration.kind?_ofEntries stop.entries).trans hkind
  refine ⟨_, by rw [Declaration.block, hknown, Option.map_some], ?_⟩
  rw [Stop.visit, Declaration.visit_ofEntries, met, hname, hkind]
  rfl

/-- A walk over nodes that break no rule writes each node that it meets, and skips none. -/
theorem visits_of_sound (policy : NullPolicy) {order : List Stop}
    (h : ∀ stop ∈ order, stop.isMet = true → stop.Sound) :
    Visit.notices (order.flatMap (Stop.visit policy)) = [] ∧
      (Visit.blocks (order.flatMap (Stop.visit policy))).map some =
        (order.filter Stop.isMet).map fun stop => (Declaration.ofEntries stop.entries).block policy := by
  induction order with
  | nil => exact ⟨rfl, rfl⟩
  | cons stop rest ih =>
    obtain ⟨hnotices, hblocks⟩ := ih fun other hmem => h other (List.mem_cons_of_mem _ hmem)
    rw [List.flatMap_cons]
    cases hmet : stop.isMet with
    | false =>
      rw [Stop.visit_of_not_isMet policy hmet, List.filter_cons_of_neg (by simp [hmet])]
      exact ⟨hnotices, hblocks⟩
    | true =>
      obtain ⟨text, htext, hvisit⟩ := (h stop List.mem_cons_self hmet).visit_of_isMet policy hmet
      rw [hvisit, List.filter_cons_of_pos hmet, List.map_cons, htext, ← hblocks]
      exact ⟨hnotices, rfl⟩

theorem mem_visited_of_isMet {root : Assoc Json} (h : Distinct root) {stop : Stop}
    (hstop : stop ∈ stops root) (hmet : stop.isMet = true) : stop ∈ visited [] root := by
  have htag : Assoc.hasKey kindKey stop.entries = true := by
    obtain ⟨htrue, _⟩ := Bool.and_eq_true_iff.mp hmet
    by_contra hnone
    have hlook : Assoc.lookup kindKey stop.entries = none := by simpa [Assoc.hasKey] using hnone
    rw [field, hlook] at htrue
    cases htrue
  exact mem_visited_of_reached h (reached_of_mem_stops h hstop) htag []

theorem visits_eq_flatMap_stops (policy : NullPolicy) {root : Assoc Json} (h : Distinct root) :
    (ofEntries root).visits policy = (stops root).flatMap (Stop.visit policy) := by
  rw [visits, walk_eq_flatMap, walked_ofEntries [] h, List.flatMap_map]
  rfl

end Node

/-! ## Documents of checked trees -/

namespace Document

/-- **What validation promises.** Let a mapping pass validation. The nodes that the walk over its tree
comes to are positions of the mapping, each once, with the declarations that stand there. Under either
policy none of them is skipped, and the blocks are those of the nodes with a tag and a name, one each, in
order. And each of these has the string under its name as its name, one named parameter for each item of
its list of parameters, in order, and, if it is an enumeration, a list of members. -/
theorem blocks_of_validated (root : Json.Mapping) (tree : Node)
    (h : (Node.ingest true root.value).outcome = .ok tree) :
    ∃ order : List Node.Stop,
      tree.walked [] = order.map (fun stop => (stop.name, Declaration.ofEntries stop.entries)) ∧
      (order.map Node.Stop.keys).Nodup ∧
      (∀ stop ∈ order, Json.Reached root.entries stop.keys stop.entries) ∧
      (∀ policy settings,
        (ofTree policy settings tree).blocks.map some =
          (order.filter Node.Stop.isMet).map
            (fun stop => (Declaration.ofEntries stop.entries).block policy) ∧
        noticesOfTree policy tree = [.generated (ofTree policy settings tree).blocks.length]) ∧
      ∀ stop ∈ order, stop.isMet = true →
        (Declaration.ofEntries stop.entries).Faithful stop.entries := by
  obtain ⟨hbreaches, rfl⟩ := (Node.ingest_true_eq_ok_iff root.entries tree).mp h
  have hsound : ∀ stop ∈ Json.stops root.entries, stop.isMet = true → stop.Sound := by
    intro stop hstop hmet
    exact Node.Stop.sound_of_breaches
      (hbreaches stop (Node.mem_visited_of_isMet root.distinct hstop hmet))
  refine ⟨Json.stops root.entries, Json.walked_ofEntries [] root.distinct,
    Json.nodup_stops root.distinct, fun stop => Json.reached_of_mem_stops root.distinct, ?_, ?_⟩
  · intro policy settings
    obtain ⟨hnotices, hblocks⟩ := Node.visits_of_sound policy hsound
    rw [← Node.visits_eq_flatMap_stops policy root.distinct] at hnotices hblocks
    refine ⟨hblocks, ?_⟩
    rw [noticesOfTree, hnotices]
    rfl
  · intro stop hstop hmet
    exact (hsound stop hstop hmet).faithful hmet

/-- A module with a function in it, which has a parameter, and an enumeration without members. -/
def checkedSample : Json.Mapping where
  entries := [("kind", .str "Module"), ("ns", .obj
    [("kind", .str "Module"), ("qualifiedName", .str "ns"),
      ("f", .obj [("kind", .str "Function"), ("qualifiedName", .str "ns.f"),
        ("parameters", .arr [.obj [("name", .str "a"), ("type", .str "number")]])]),
      ("E", .obj [("kind", .str "enum"), ("qualifiedName", .str "ns.E"), ("members", .arr [])])])]
  distinct := by decide

theorem blocks_of_checkedSample :
    ∃ tree, (Node.ingest true checkedSample.value).outcome = .ok tree ∧
      ∃ order : List Node.Stop,
        tree.walked [] = order.map (fun stop => (stop.name, Declaration.ofEntries stop.entries)) ∧
        (∀ policy settings,
          (ofTree policy settings tree).blocks.map some =
            (order.filter Node.Stop.isMet).map
              (fun stop => (Declaration.ofEntries stop.entries).block policy)) ∧
        ∀ stop ∈ order, stop.isMet = true →
          (Declaration.ofEntries stop.entries).Faithful stop.entries := by
  obtain ⟨order, hwalked, _, _, hblocks, hfaithful⟩ := blocks_of_validated checkedSample _ rfl
  exact ⟨_, rfl, order, hwalked, fun policy settings => (hblocks policy settings).1, hfaithful⟩

end Document

end Externs
