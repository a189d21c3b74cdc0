import Externs.Proofs.Below

/-!
# The pass, step by step

Ingestion takes steps and builds a tree, and the two do not depend on each other. A step checks a node
or reports a value that is dropped. The steps are taken in the order of the pass until one of them
fails; the tree is the same whether its nodes are checked or not.

* `Node.Stop`: a node of the pass, with the keys that lead to it;
* `Node.Step`, `Node.steps`: the steps of a pass, in order;
* `Node.perform`: the steps, taken one after the other;
* `Node.ofEntries`: the tree of a mapping;
* `Node.ingest_obj`: ingestion performs the steps, and then gives the tree.
-/

namespace Externs.Node

set_option autoImplicit false

open Json

/-! ## Steps -/

/-- A node of the pass: the keys that lead to it from the root, those of buckets included, and the
entries that describe it. -/
structure Stop where
  keys : List Text
  entries : Assoc Json

/-- What the pass does in one step. -/
inductive Step where
  /-- It comes to a node, which may be checked. -/
  | node (stop : Stop)
  /-- It drops a value of a node. -/
  | value (keys : List Text) (typeName : String)
  /-- It drops an entry of a bucket. -/
  | member (keys : List Text) (typeName : String)

/-- The path that keys make. -/
def pathOf (keys : List Text) : Text := keys.foldl pathTo []

theorem pathTo_pathOf (keys : List Text) (key : Text) :
    pathTo (pathOf keys) key = pathOf (keys ++ [key]) := by
  rw [pathOf, pathOf, List.foldl_append]
  rfl

/-- The steps of the pass from a node on: the node itself, its open entries, its two buckets. -/
def steps (keys : List Text) (entries : Assoc Json) : List Step :=
  .node ⟨keys, entries⟩ ::
    ((openEntries entries).attach.flatMap (fun ⟨(key, value), _⟩ => match value with
      | .obj below => steps (keys ++ [key]) below
      | value => [.value (keys ++ [key]) value.typeName]) ++
    (shortEntries entries).attach.flatMap (fun ⟨(name, value), _⟩ => match value with
      | .obj below => steps (keys ++ [bucketKey] ++ [name]) below
      | value => [.member (keys ++ [bucketKey] ++ [name]) value.typeName]) ++
    (longEntries entries).attach.flatMap (fun ⟨(name, value), _⟩ => match value with
      | .obj below => steps (keys ++ [membersKey] ++ [name]) below
      | value => [.member (keys ++ [membersKey] ++ [name]) value.typeName]))
termination_by sizeOf entries
decreasing_by
  · next h => exact sizeOf_of_mem (List.mem_of_mem_filter h)
  · next h => exact Nat.lt_of_lt_of_le (sizeOf_of_mem h) (sizeOf_shortEntries entries)
  · next h => exact Nat.lt_of_lt_of_le (sizeOf_of_mem h) (sizeOf_longEntries entries)

/-- The steps at a value: those at the node that an object describes, or else a drop. -/
def stepsAt (onward : Assoc Json → List Step) (drop : String → Step) : Json → List Step
  | .obj below => onward below
  | value => [drop value.typeName]

/-- The steps at the open entries of a node. -/
def openSteps (keys : List Text) (entries : Assoc Json) : List Step :=
  entries.flatMap fun (key, value) => stepsAt (steps (keys ++ [key])) (.value (keys ++ [key])) value

/-- The steps at the entries of a bucket. -/
def bucketSteps (keys : List Text) (entries : Assoc Json) : List Step :=
  entries.flatMap fun (name, value) => stepsAt (steps (keys ++ [name])) (.member (keys ++ [name])) value

theorem steps_eq (keys : List Text) (entries : Assoc Json) :
    steps keys entries = .node ⟨keys, entries⟩ ::
      (openSteps keys (openEntries entries) ++
        bucketSteps (keys ++ [bucketKey]) (shortEntries entries) ++
        bucketSteps (keys ++ [membersKey]) (longEntries entries)) := by
  rw [steps, openSteps, bucketSteps, bucketSteps]
  refine congrArg (List.cons _) (congrArg₂ (· ++ ·) (congrArg₂ (· ++ ·) ?_ ?_) ?_)
  · rw [List.flatMap_subtype, List.unattach_attach]
    rintro ⟨key, value⟩ _
    cases value <;> rfl
  · rw [List.flatMap_subtype, List.unattach_attach]
    rintro ⟨name, value⟩ _
    cases value <;> rfl
  · rw [List.flatMap_subtype, List.unattach_attach]
    rintro ⟨name, value⟩ _
    cases value <;> rfl

/-- What one step does. -/
def Step.act (validate : Bool) : Step → Ingestion Unit
  | .node stop =>
    if validate then Ingestion.require (check (pathOf stop.keys) stop.entries) else pure ()
  | .value keys typeName => Ingestion.send (.droppedValue (pathOf keys) typeName)
  | .member keys typeName => Ingestion.send (.droppedMember (pathOf keys) typeName)

/-- Takes steps one after the other until one fails. -/
def perform (validate : Bool) (steps : List Step) : Ingestion Unit := steps.forM (Step.act validate)

theorem perform_cons (validate : Bool) (step : Step) (rest : List Step) :
    perform validate (step :: rest) = step.act validate >>= fun _ => perform validate rest :=
  List.forM_cons

theorem perform_append (validate : Bool) (first second : List Step) :
    perform validate (first ++ second) = perform validate first >>= fun _ => perform validate second :=
  List.forM_append

/-! ## Trees -/

/-- The tree of a mapping, without any checks. -/
def ofEntries (entries : Assoc Json) : Node :=
  { declaration := Declaration.ofEntries entries
    members := Assoc.merge
      ((shortBucket entries).attach.map fun ⟨(name, below), _⟩ => (name, ofEntries below))
      ((longBucket entries).attach.map fun ⟨(name, below), _⟩ => (name, ofEntries below))
    children := (nested entries).attach.map fun ⟨(key, below), _⟩ => (key, ofEntries below) }
termination_by sizeOf entries
decreasing_by
  · next h => exact sizeOf_shortBucket h
  · next h => exact sizeOf_longBucket h
  · next h => exact sizeOf_nested h

/-- Objects with their trees. -/
def treesOf (objects : Assoc (Assoc Json)) : Assoc Node :=
  objects.map fun (key, below) => (key, ofEntries below)

theorem ofEntries_eq (entries : Assoc Json) :
    ofEntries entries =
      { declaration := Declaration.ofEntries entries
        members := Assoc.merge (treesOf (shortBucket entries)) (treesOf (longBucket entries))
        children := treesOf (nested entries) } := by
  rw [ofEntries]
  have hattach (objects : Assoc (Assoc Json)) :
      (objects.attach.map fun ⟨(key, below), _⟩ => (key, ofEntries below)) = treesOf objects := by
    rw [treesOf, List.map_subtype (g := fun (key, below) => (key, ofEntries below)) (fun _ _ => rfl),
      List.unattach_attach]
  rw [hattach, hattach, hattach]

/-! ## Ingestion -/

/-- The pass over a mapping, wherever it stands: its steps, and then its tree. -/
def IngestsInSteps (validate : Bool) (entries : Assoc Json) : Prop :=
  ∀ keys, ingestAt validate (pathOf keys) (.obj entries) = do
    perform validate (steps keys entries)
    return ofEntries entries

theorem ingestChildren_eq (validate : Bool) (keys : List Text) (kind : Option Kind) (entries : Assoc Json)
    (h : ∀ key below, (key, Json.obj below) ∈ entries → IngestsInSteps validate below) :
    ingestChildren validate (pathOf keys) kind entries = (do
      let remaining := entries.filter fun (key, value) => !isStructural kind key value
      perform validate (openSteps keys remaining)
      return treesOf (objects remaining)) := by
  induction entries with
  | nil => rfl
  | cons entry rest ih =>
    obtain ⟨key, value⟩ := entry
    have hrest := ih fun k below hmem => h k below (List.mem_cons_of_mem _ hmem)
    cases hs : isStructural kind key value with
    | true => simp [ingestChildren, hs, hrest]
    | false =>
      cases value with
      | obj below =>
        have hbelow := h key below List.mem_cons_self (keys ++ [key])
        simp [ingestChildren, hs, hrest, entries?, pathTo_pathOf, hbelow, openSteps, stepsAt,
          perform_append, objects, treesOf]
      | _ =>
        simp [ingestChildren, hs, hrest, entries?, pathTo_pathOf, openSteps, stepsAt, perform_cons,
          Step.act, objects]

theorem ingestEntries_eq (validate : Bool) (keys : List Text) (entries : Assoc Json)
    (h : ∀ name below, (name, Json.obj below) ∈ entries → IngestsInSteps validate below) :
    ingestEntries validate (pathOf keys) entries = (do
      perform validate (bucketSteps keys entries)
      return treesOf (objects entries)) := by
  induction entries with
  | nil => rfl
  | cons entry rest ih =>
    obtain ⟨name, value⟩ := entry
    have hrest := ih fun n below hmem => h n below (List.mem_cons_of_mem _ hmem)
    cases value with
    | obj below =>
      have hbelow := h name below List.mem_cons_self (keys ++ [name])
      simp [ingestEntries, hrest, entries?, pathTo_pathOf, hbelow, bucketSteps, stepsAt, perform_append,
        objects, treesOf]
    | _ =>
      simp [ingestEntries, hrest, entries?, pathTo_pathOf, bucketSteps, stepsAt, perform_cons, Step.act,
        objects]

theorem ingestBucket_short (validate : Bool) (path : Text) (entries : Assoc Json) :
    ingestBucket validate path bucketKey (isShortBucket (kindOf entries)) entries =
      ingestEntries validate (pathTo path bucketKey) (shortEntries entries) := by
  rw [ingestBucket_eq, shortEntries, field, ownsMembers]
  cases Assoc.lookup bucketKey entries with
  | none => simp [entries?, ingestEntries]
  | some value =>
    cases value with
    | obj bucket =>
      cases hkind : (kindOf entries).any Kind.hasMembers <;>
        simp [isShortBucket, ingestMembers, ingestEntries, entries?, hkind]
    | _ => simp [isShortBucket, entries?, ingestEntries]

theorem ingestBucket_long (validate : Bool) (path : Text) (entries : Assoc Json) :
    ingestBucket validate path membersKey (isLongBucket (kindOf entries)) entries =
      ingestEntries validate (pathTo path membersKey) (longEntries entries) := by
  rw [ingestBucket_eq, longEntries, field, ownsMembers]
  cases Assoc.lookup membersKey entries with
  | none => simp [entries?, ingestEntries]
  | some value =>
    cases value with
    | obj bucket =>
      cases hkind : (kindOf entries).any Kind.hasMembers <;>
        cases hown : Assoc.hasKey kindKey bucket <;>
          simp [isLongBucket, ingestMembers, ingestEntries, entries?, hkind, hown]
    | _ => simp [isLongBucket, entries?, ingestEntries]

/-- The pass over a node is a check of the node, and then the pass over what lies below it. -/
theorem ingestAt_eq (validate : Bool) (keys : List Text) (entries : Assoc Json) :
    ingestAt validate (pathOf keys) (.obj entries) = (do
      Step.act validate (.node ⟨keys, entries⟩)
      let children ← ingestChildren validate (pathOf keys) (kindOf entries) entries
      let short ← ingestEntries validate (pathOf (keys ++ [bucketKey])) (shortEntries entries)
      let long ← ingestEntries validate (pathOf (keys ++ [membersKey])) (longEntries entries)
      return ⟨Declaration.ofEntries entries, Assoc.merge short long, children⟩) := by
  simp only [← pathTo_pathOf, ← ingestBucket_short, ← ingestBucket_long, ingestAt, Step.act]
  cases validate <;> rfl

/-- **The pass in steps.** Whatever the pass does at a node and below it, it does by its steps; if
none of them fails, it gives the tree. -/
theorem ingestAt_obj (validate : Bool) (keys : List Text) (entries : Assoc Json) :
    ingestAt validate (pathOf keys) (.obj entries) = (do
      perform validate (steps keys entries)
      return ofEntries entries) := by
  have hopen := ingestChildren_eq validate keys (kindOf entries) entries
    fun _ below _ => fun keys => ingestAt_obj validate keys below
  have hshort := ingestEntries_eq validate (keys ++ [bucketKey]) (shortEntries entries)
    fun _ below _ => fun keys => ingestAt_obj validate keys below
  have hlong := ingestEntries_eq validate (keys ++ [membersKey]) (longEntries entries)
    fun _ below _ => fun keys => ingestAt_obj validate keys below
  rw [ingestAt_eq, hopen, hshort, hlong, steps_eq, ofEntries_eq, ← objects_openEntries]
  simp only [perform_cons, perform_append, bind_assoc, pure_bind]
  rfl
termination_by sizeOf entries
decreasing_by
  · next h => exact sizeOf_of_mem h
  · next h => exact Nat.lt_of_lt_of_le (sizeOf_of_mem h) (sizeOf_shortEntries entries)
  · next h => exact Nat.lt_of_lt_of_le (sizeOf_of_mem h) (sizeOf_longEntries entries)

theorem ingest_obj (validate : Bool) (entries : Assoc Json) :
    ingest validate (.obj entries) = (do
      perform validate (steps [] entries)
      return ofEntries entries) :=
  ingestAt_obj validate [] entries

/-! ## Outcomes -/

/-- The notice that a step sends. -/
def Step.notice? : Step → Option Notice
  | .node _ => none
  | .value keys typeName => some (.droppedValue (pathOf keys) typeName)
  | .member keys typeName => some (.droppedMember (pathOf keys) typeName)

/-- What a step finds wrong, if nodes are checked. -/
def Step.fault? : Step → Option Malformed
  | .node stop => match check (pathOf stop.keys) stop.entries with
    | .error error => some error
    | .ok _ => none
  | _ => none

/-- Without checks no step fails. -/
theorem perform_false (steps : List Step) :
    perform false steps = ⟨steps.filterMap Step.notice?, .ok ()⟩ := by
  induction steps with
  | nil => rfl
  | cons step rest ih =>
    rw [perform_cons, ih]
    cases step <;> rfl

/-- With checks the first fault ends the pass, and only the notices before it are sent. -/
theorem perform_true (steps : List Step) :
    perform true steps =
      ⟨(steps.takeWhile fun step => step.fault?.isNone).filterMap Step.notice?,
        match steps.findSome? Step.fault? with
        | some error => .error error
        | none => .ok ()⟩ := by
  induction steps with
  | nil => rfl
  | cons step rest ih =>
    rw [perform_cons, ih]
    cases step with
    | node stop =>
      cases hcheck : check (pathOf stop.keys) stop.entries with
      | error error =>
        have hfault : (Step.node stop).fault? = some error := by simp [Step.fault?, hcheck]
        simp [Step.act, hfault, hcheck, Ingestion.require, bind, Ingestion.andThen]
      | ok _ =>
        have hfault : (Step.node stop).fault? = none := by simp [Step.fault?, hcheck]
        have hnotice : (Step.node stop).notice? = none := rfl
        simp [Step.act, hfault, hnotice, hcheck, Ingestion.require, bind, Ingestion.andThen]
    | value keys typeName => rfl
    | member keys typeName => rfl

theorem ingest_false_obj (entries : Assoc Json) :
    ingest false (.obj entries) =
      ⟨(steps [] entries).filterMap Step.notice?, .ok (ofEntries entries)⟩ := by
  rw [ingest_obj, perform_false, Ingestion.bind_of_ok rfl]
  simp [pure, Ingestion.done]

theorem ingest_true_outcome (entries : Assoc Json) :
    (ingest true (.obj entries)).outcome =
      match (steps [] entries).findSome? Step.fault? with
      | some error => .error error
      | none => .ok (ofEntries entries) := by
  rw [ingest_obj, perform_true]
  cases (steps [] entries).findSome? Step.fault? with
  | some error => rfl
  | none => rfl

end Externs.Node
