import Externs.Proofs.Pass

/-!
# What validation rejects

Validation visits the nodes of a mapping in pre-order and ends at the first one that breaks a rule.

* `Node.visited`: the nodes that are visited, in order;
* `Node.breaches`: the rules that a node breaks, in order;
* `Node.placeOf`: where an error says that a node stands;
* `Node.pathOf_eq`: a path is its keys with dots between them, less the empty ones in front;
* `Node.brokenRule?_eq_head?`: the check of a node finds the first of its breaches;
* `Node.ingest_error_iff_breach`: validation fails with the first breach of the first node that has one.
-/

namespace Externs.Node

set_option autoImplicit false

open Json

/-! ## Visits -/

/-- The nodes that are visited from a node on: the node itself, its nested declarations, the members in
its bucket under the short key, and those in its bucket under the long key. -/
def visited (keys : List Text) (entries : Assoc Json) : List Stop :=
  ⟨keys, entries⟩ ::
    ((nested entries).attach.flatMap (fun ⟨(key, below), _⟩ => visited (keys ++ [key]) below) ++
    (shortBucket entries).attach.flatMap (fun ⟨(name, below), _⟩ =>
      visited (keys ++ [bucketKey] ++ [name]) below) ++
    (longBucket entries).attach.flatMap (fun ⟨(name, below), _⟩ =>
      visited (keys ++ [membersKey] ++ [name]) below))
termination_by sizeOf entries
decreasing_by
  · next h => exact sizeOf_nested h
  · next h => exact sizeOf_shortBucket h
  · next h => exact sizeOf_longBucket h

/-- The nodes that are visited from several nodes on, each under its own key. -/
def visitedAll (keys : List Text) (objects : Assoc (Assoc Json)) : List Stop :=
  objects.flatMap fun (key, below) => visited (keys ++ [key]) below

theorem visited_eq (keys : List Text) (entries : Assoc Json) :
    visited keys entries = ⟨keys, entries⟩ ::
      (visitedAll keys (nested entries) ++
        visitedAll (keys ++ [bucketKey]) (shortBucket entries) ++
        visitedAll (keys ++ [membersKey]) (longBucket entries)) := by
  have hattach (keys : List Text) (objects : Assoc (Assoc Json)) :
      (objects.attach.flatMap fun ⟨(key, below), _⟩ => visited (keys ++ [key]) below) =
        visitedAll keys objects := by
    rw [visitedAll, List.flatMap_subtype (g := fun (key, below) => visited (keys ++ [key]) below)
      (fun _ _ => rfl), List.unattach_attach]
  rw [visited, hattach, hattach, hattach]

/-- The node at which a step is taken; a drop is taken at none. -/
def Step.stop? : Step → Option Stop
  | .node stop => some stop
  | _ => none

/-- Steps at the entries of an object visit the nodes among them. -/
theorem filterMap_flatMap_stepsAt (keys : List Text) (drop : List Text → String → Step)
    (hdrop : ∀ keys typeName, (drop keys typeName).stop? = none) (entries : Assoc Json)
    (h : ∀ key below, (key, Json.obj below) ∈ entries →
      (steps (keys ++ [key]) below).filterMap Step.stop? = visited (keys ++ [key]) below) :
    (entries.flatMap fun (key, value) =>
      stepsAt (steps (keys ++ [key])) (drop (keys ++ [key])) value).filterMap Step.stop? =
        visitedAll keys (objects entries) := by
  induction entries with
  | nil => rfl
  | cons entry rest ih =>
    obtain ⟨key, value⟩ := entry
    have hrest := ih fun k below hmem => h k below (List.mem_cons_of_mem _ hmem)
    rw [List.flatMap_cons, List.filterMap_append, hrest]
    cases value with
    | obj below =>
      have hbelow := h key below List.mem_cons_self
      simp [stepsAt, hbelow, visitedAll, objects, entries?]
    | _ => simp [stepsAt, hdrop, visitedAll, objects, entries?]

/-- The nodes among the steps of a pass are those that are visited. -/
theorem filterMap_steps (keys : List Text) (entries : Assoc Json) :
    (steps keys entries).filterMap Step.stop? = visited keys entries := by
  have hopen := filterMap_flatMap_stepsAt keys Step.value (fun _ _ => rfl) (openEntries entries)
    fun key below hmem => filterMap_steps (keys ++ [key]) below
  have hshort := filterMap_flatMap_stepsAt (keys ++ [bucketKey]) Step.member (fun _ _ => rfl)
    (shortEntries entries) fun name below hmem => filterMap_steps (keys ++ [bucketKey] ++ [name]) below
  have hlong := filterMap_flatMap_stepsAt (keys ++ [membersKey]) Step.member (fun _ _ => rfl)
    (longEntries entries) fun name below hmem => filterMap_steps (keys ++ [membersKey] ++ [name]) below
  have hnode : (Step.node ⟨keys, entries⟩).stop? = some ⟨keys, entries⟩ := rfl
  rw [objects_openEntries] at hopen
  rw [steps_eq, List.filterMap_cons_some hnode, List.filterMap_append, List.filterMap_append, openSteps,
    bucketSteps, bucketSteps, hopen, hshort, hlong, visited_eq, shortBucket,
    longBucket]
termination_by sizeOf entries
decreasing_by
  · exact sizeOf_of_mem (List.mem_of_mem_filter hmem)
  · exact Nat.lt_of_lt_of_le (sizeOf_of_mem hmem) (sizeOf_shortEntries entries)
  · exact Nat.lt_of_lt_of_le (sizeOf_of_mem hmem) (sizeOf_longEntries entries)

/-! ## Places -/

theorem foldl_pathTo (path : Text) (hpath : path.isEmpty = false) (keys : List Text) :
    keys.foldl pathTo path = Text.joinWith "." (path :: keys) := by
  induction keys generalizing path with
  | nil => rfl
  | cons key rest ih =>
    have hpathTo : pathTo path key = path ++ "." ++ key := by rw [pathTo, hpath]; rfl
    have hne : (path ++ Text.ofString "." ++ key).isEmpty = false := by simp [Text.ofString]
    rw [List.foldl_cons, hpathTo, ih _ hne]
    cases rest <;> simp [Text.joinWith]

/-- The path that keys make: the keys with dots between them. Empty keys leave no trace as long as
nothing but empty keys came before. -/
theorem pathOf_eq (keys : List Text) :
    pathOf keys = Text.joinWith "." (keys.dropWhile List.isEmpty) := by
  rw [pathOf]
  induction keys with
  | nil => rfl
  | cons key rest ih =>
    cases hkey : key.isEmpty with
    | true =>
      rw [List.dropWhile_cons_of_pos hkey, ← ih, List.foldl_cons, List.isEmpty_iff.mp hkey]
      rfl
    | false =>
      rw [List.dropWhile_cons_of_neg (by simp [hkey]), ← foldl_pathTo key hkey rest]
      rfl

theorem pathOf_isEmpty (keys : List Text) : (pathOf keys).isEmpty = keys.all List.isEmpty := by
  rw [pathOf_eq]
  induction keys with
  | nil => rfl
  | cons key rest ih =>
    cases hkey : key.isEmpty with
    | true => rw [List.dropWhile_cons_of_pos hkey, ih, List.all_cons, hkey, Bool.true_and]
    | false =>
      rw [List.dropWhile_cons_of_neg (by simp [hkey]), List.all_cons, hkey, Bool.false_and]
      cases rest with
      | nil => exact hkey
      | cons next others => simp [Text.joinWith, Text.ofString]

/-- Where an error says that a node stands. -/
def placeOf (keys : List Text) : Text :=
  if keys.all List.isEmpty then "<root>" else Text.joinWith "." (keys.dropWhile List.isEmpty)

theorem placeOf_eq (keys : List Text) :
    placeOf keys = if (pathOf keys).isEmpty then Text.ofString "<root>" else pathOf keys := by
  rw [placeOf, pathOf_isEmpty, pathOf_eq]

/-- If no key is empty, the place of a node is made of all keys that lead to it. -/
theorem placeOf_of_nonempty {keys : List Text} (h : ∀ key ∈ keys, key ≠ []) :
    placeOf keys = if keys = [] then Text.ofString "<root>" else Text.joinWith "." keys := by
  cases keys with
  | nil => rfl
  | cons key rest =>
    have hkey : key.isEmpty = false := by
      rw [List.isEmpty_eq_false_iff]
      exact h key List.mem_cons_self
    rw [placeOf, List.all_cons, hkey, List.dropWhile_cons_of_neg (by simp [hkey])]
    rfl

/-! ## Rules -/

/-- A parameter must be an object with a name that counts as present. -/
def isNamed (item : Json) : Bool := item.entries?.any fun entries => (field nameKey entries).truthy

/-- The rules that the parameters of a node break: they are a list, and each of them has a name. -/
def parameterBreaches : Json → List Malformed.Cause
  | .null => []
  | .arr items =>
    (items.zipIdx.filter fun (item, _) => !isNamed item).map fun (_, index) => .badParameter index
  | _ => [.parametersNotList]

/-- The rules that a node breaks, in order: its tag names a kind; with a kind it has a name, unless
nothing but empty keys leads to it; its parameters are in order; the members of an enumeration are a
list. -/
def breaches (stop : Stop) : List Malformed.Cause :=
  let tag := field kindKey stop.entries
  let kind := kindOf stop.entries
  (if tag.truthy ∧ kind = none then [.unknownKind tag] else []) ++
    (if kind ≠ none ∧ (∃ key ∈ stop.keys, key ≠ []) ∧
        (field qualifiedNameKey stop.entries).text? = none then [.missingName] else []) ++
    parameterBreaches (field parametersKey stop.entries) ++
    (if kind = some .enumKind ∧ (field membersKey stop.entries).items?.isNone then
      [.enumMembersNotList] else [])

theorem isNamed_eq (item : Json) : isNamed item = (item.get nameKey).truthy := by
  cases item <;> rfl

theorem head?_parameterBreaches (parameters : Json) :
    (parameterBreaches parameters).head? = brokenRule?.badParameters? parameters := by
  cases parameters with
  | arr items =>
    rw [parameterBreaches, brokenRule?.badParameters?, firstBadParameter?, List.head?_map,
      List.head?_filter, List.findIdx?_eq_fst_find?_zipIdx, Option.map_map]
    simp only [isNamed_eq]
    rfl
  | _ => rfl

/-- The check of a node finds the first rule that it breaks. -/
theorem brokenRule?_eq_head? (stop : Stop) :
    brokenRule? (pathOf stop.keys) stop.entries = (breaches stop).head? := by
  have hkeys : (!(pathOf stop.keys).isEmpty) = decide (∃ key ∈ stop.keys, key ≠ []) := by
    rw [pathOf_isEmpty, Bool.eq_iff_iff]
    simp
  have hkind : Kind.ofJson? (field kindKey stop.entries) = kindOf stop.entries := rfl
  rw [brokenRule?, breaches, hkeys, hkind, ← head?_parameterBreaches]
  simp only [List.head?_append, Bool.and_eq_true, decide_eq_true_eq, Option.isNone_iff_eq_none,
    Option.isSome_iff_ne_none, and_assoc]
  split
  · rfl
  · split
    · rfl
    · cases (parameterBreaches (field parametersKey stop.entries)).head? with
      | some cause => rfl
      | none =>
        dsimp only
        split <;> rfl

/-- The first rule that a node breaks, with the place of the node. -/
def firstBreach? (stop : Stop) : Option Malformed :=
  (breaches stop).head?.map (⟨·, some (placeOf stop.keys)⟩)

theorem fault?_node (stop : Stop) : (Step.node stop).fault? = firstBreach? stop := by
  rw [Step.fault?, check, brokenRule?_eq_head?, firstBreach?, placeOf_eq]
  cases (breaches stop).head? <;> rfl

theorem firstBreach?_eq_none_iff (stop : Stop) : firstBreach? stop = none ↔ breaches stop = [] := by
  rw [firstBreach?, Option.map_eq_none_iff, List.head?_eq_none_iff]

/-! ## Failures -/

/-- The first fault among the steps of a pass is the first breach among the nodes that are visited. -/
theorem findSome?_fault? (entries : Assoc Json) :
    (steps [] entries).findSome? Step.fault? = (visited [] entries).findSome? firstBreach? := by
  rw [← filterMap_steps, ← List.head?_filterMap, ← List.head?_filterMap, List.filterMap_filterMap]
  congr 2
  funext step
  cases step with
  | node stop => exact fault?_node stop
  | _ => rfl

theorem ingest_true_eq_error_iff (entries : Assoc Json) (error : Malformed) :
    (ingest true (.obj entries)).outcome = .error error ↔
      (visited [] entries).findSome? firstBreach? = some error := by
  rw [ingest_true_outcome, findSome?_fault?]
  cases (visited [] entries).findSome? firstBreach? <;> simp

/-- **What validation rejects.** Validation of a mapping fails if and only if a node that is visited
breaks a rule. The error is that of the first such node, and of the first rule that it breaks. It says
where the node stands: if no key on the way is empty, by all the keys that lead to it. -/
theorem ingest_error_iff_breach (root : Assoc Json) :
    ((∃ error, (ingest true (.obj root)).outcome = .error error) ↔
      ∃ stop ∈ visited [] root, breaches stop ≠ []) ∧
    (∀ error, (ingest true (.obj root)).outcome = .error error ↔
      ∃ before stop after cause, visited [] root = before ++ stop :: after ∧
        (∀ earlier ∈ before, breaches earlier = []) ∧ (breaches stop).head? = some cause ∧
        error = ⟨cause, some (placeOf stop.keys)⟩) ∧
    (∀ stop ∈ visited [] root, (∀ key ∈ stop.keys, key ≠ []) →
      placeOf stop.keys =
        if stop.keys = [] then Text.ofString "<root>" else Text.joinWith "." stop.keys) := by
  refine ⟨?_, ?_, fun stop _ => placeOf_of_nonempty⟩
  · have hsome : (∃ error, (ingest true (.obj root)).outcome = .error error) ↔
        (visited [] root).findSome? firstBreach? ≠ none := by
      simp only [ingest_true_eq_error_iff, Option.ne_none_iff_exists']
    rw [hsome, ne_eq, List.findSome?_eq_none_iff]
    simp only [firstBreach?_eq_none_iff, not_forall, exists_prop, ne_eq]
  · intro error
    rw [ingest_true_eq_error_iff, List.findSome?_eq_some_iff]
    constructor
    · rintro ⟨before, stop, after, hvisited, hstop, hbefore⟩
      obtain ⟨cause, hcause, herror⟩ := Option.map_eq_some_iff.mp hstop
      refine ⟨before, stop, after, cause, hvisited, ?_, hcause, herror.symm⟩
      intro earlier hmem
      exact (firstBreach?_eq_none_iff earlier).mp (hbefore earlier hmem)
    · rintro ⟨before, stop, after, cause, hvisited, hbefore, hcause, herror⟩
      refine ⟨before, stop, after, hvisited, ?_, ?_⟩
      · rw [firstBreach?, hcause, herror]
        rfl
      · intro earlier hmem
        exact (firstBreach?_eq_none_iff earlier).mpr (hbefore earlier hmem)

end Externs.Node
