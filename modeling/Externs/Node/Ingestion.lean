import Externs.Log
import Externs.Malformed
import Externs.Node

/-!
# From values to trees

A tree is read off nested objects in one pass. Values that lead nowhere are reported and dropped. With
validation, a node that breaks a rule ends the pass.

* `Ingestion`: a result with the notices sent on the way;
* `Node.check`: the rules of validation for one node;
* `Node.isStructural`: the entries of a node that hold no nested declaration;
* `Node.ingest`: the tree of a value.
-/

namespace Externs

set_option autoImplicit false

/-- The outcome of a pass, with the notices sent before it ended, in order. -/
structure Ingestion (α : Type) where
  notices : List Notice
  outcome : Except Malformed α

namespace Ingestion

variable {α β : Type}

/-- A result without notices. -/
def done (value : α) : Ingestion α := ⟨[], .ok value⟩

/-- The second pass follows the first if that succeeds. -/
def andThen (first : Ingestion α) (second : α → Ingestion β) : Ingestion β :=
  match first.outcome with
  | .ok value => ⟨first.notices ++ (second value).notices, (second value).outcome⟩
  | .error error => ⟨first.notices, .error error⟩

instance : Monad Ingestion where
  pure := done
  bind := andThen

theorem bind_of_ok {first : Ingestion α} {value : α} (h : first.outcome = .ok value)
    (second : α → Ingestion β) :
    first >>= second = ⟨first.notices ++ (second value).notices, (second value).outcome⟩ := by
  change first.andThen second = _
  rw [andThen, h]

theorem bind_of_error {first : Ingestion α} {error : Malformed} (h : first.outcome = .error error)
    (second : α → Ingestion β) : first >>= second = ⟨first.notices, .error error⟩ := by
  change first.andThen second = _
  rw [andThen, h]

theorem andThen_done (pass : Ingestion α) : pass.andThen done = pass := by
  obtain ⟨notices, outcome⟩ := pass
  cases outcome with
  | ok value => simp [andThen, done]
  | error error => rfl

theorem andThen_assoc {γ : Type} (first : Ingestion α) (second : α → Ingestion β)
    (third : β → Ingestion γ) :
    (first.andThen second).andThen third = first.andThen fun value => (second value).andThen third := by
  cases h : first.outcome with
  | error error => simp [andThen, h]
  | ok value =>
    cases hnext : (second value).outcome with
    | error error => simp [andThen, h, hnext]
    | ok next => simp [andThen, h, hnext]

instance : LawfulMonad Ingestion :=
  LawfulMonad.mk' Ingestion andThen_done (fun _ _ => rfl) andThen_assoc

/-- Sends a notice. -/
def send (notice : Notice) : Ingestion Unit := ⟨[notice], .ok ()⟩

/-- A check, which sends no notices. -/
def require (check : Except Malformed Unit) : Ingestion Unit := ⟨[], check⟩

end Ingestion

namespace Node

/-- The path of an entry: the keys that lead to it, with dots between them. -/
def pathTo (path key : Text) : Text := if path.isEmpty then key else path ++ "." ++ key

/-! ## Rules -/

/-- The index of the first parameter that is no object or has no name. -/
def firstBadParameter? (items : List Json) : Option Nat :=
  items.findIdx? fun item => !(item.get Json.nameKey).truthy

/-- The first rule that the entries of a node break. The root needs no name. -/
def brokenRule? (path : Text) (entries : Assoc Json) : Option Malformed.Cause :=
  let tag := Json.field Json.kindKey entries
  let kind := Kind.ofJson? tag
  let parameters := Json.field Json.parametersKey entries
  if tag.truthy && kind.isNone then some (.unknownKind tag)
  else if kind.isSome && !path.isEmpty &&
      (Json.field Json.qualifiedNameKey entries).text?.isNone then some .missingName
  else match badParameters? parameters with
    | some cause => some cause
    | none =>
      if kind = some .enumKind && (Json.field Json.membersKey entries).items?.isNone then
        some .enumMembersNotList
      else none
where
  /-- What is wrong with the parameters of a node; null stands for none. -/
  badParameters? : Json → Option Malformed.Cause
    | .null => none
    | .arr items => (firstBadParameter? items).map .badParameter
    | _ => some .parametersNotList

/-- Fails with the first rule that the entries of a node break. -/
def check (path : Text) (entries : Assoc Json) : Except Malformed Unit :=
  match brokenRule? path entries with
  | some cause => .error ⟨cause, some (if path.isEmpty then "<root>" else path)⟩
  | none => .ok ()

/-! ## Buckets -/

/-- A bucket of members under the long key: an object without a kind of its own, in a class or an
interface. With a kind it is a declaration that happens to have that name. -/
def isLongBucket (kind : Option Kind) : Json → Bool
  | .obj entries => kind.any Kind.hasMembers && !Assoc.hasKey Json.kindKey entries
  | _ => false

/-- A bucket of members under the short key: any object in a class or an interface. -/
def isShortBucket (kind : Option Kind) : Json → Bool
  | .obj _ => kind.any Kind.hasMembers
  | _ => false

/-- The entries of a node that are parts of its declaration or hold its members. -/
def isStructural (kind : Option Kind) (key : Text) (value : Json) : Bool :=
  Json.reservedKeys.contains key ||
    (key = Json.membersKey && (value.items?.isSome || isLongBucket kind value))

/-! ## The pass -/

mutual

/-- The node that an object describes. A value of another type is a fault of the root, since nothing
else is ever asked of it. -/
def ingestAt (validate : Bool) (path : Text) : Json → Ingestion Node
  | .obj entries => do
    if validate then Ingestion.require (check path entries)
    let kind := Kind.ofJson? (Json.field Json.kindKey entries)
    let children ← ingestChildren validate path kind entries
    let short ← ingestBucket validate path Json.bucketKey (isShortBucket kind) entries
    let long ← ingestBucket validate path Json.membersKey (isLongBucket kind) entries
    return {
      declaration := Declaration.ofEntries entries
      members := Assoc.merge short long
      children }
  | value => ⟨[], .error ⟨.rootNotMapping value.typeName, none⟩⟩

/-- The nested declarations among the entries of a node, in order. -/
def ingestChildren (validate : Bool) (path : Text) (kind : Option Kind) :
    List (Text × Json) → Ingestion (List (Text × Node))
  | [] => return []
  | (key, value) :: rest =>
    if isStructural kind key value then ingestChildren validate path kind rest
    else if value.entries?.isSome then do
      let child ← ingestAt validate (pathTo path key) value
      let others ← ingestChildren validate path kind rest
      return (key, child) :: others
    else do
      Ingestion.send (.droppedValue (pathTo path key) value.typeName)
      ingestChildren validate path kind rest

/-- The members in the bucket under a key, if what stands there is a bucket. -/
def ingestBucket (validate : Bool) (path key : Text) (isBucket : Json → Bool) :
    List (Text × Json) → Ingestion (List (Text × Node))
  | [] => return []
  | (k, value) :: rest =>
    if k = key then
      if isBucket value then ingestMembers validate (pathTo path key) value else return []
    else ingestBucket validate path key isBucket rest

/-- The members in a bucket. -/
def ingestMembers (validate : Bool) (path : Text) : Json → Ingestion (List (Text × Node))
  | .obj entries => ingestEntries validate path entries
  | _ => return []

/-- The members among the entries of a bucket, in order. -/
def ingestEntries (validate : Bool) (path : Text) :
    List (Text × Json) → Ingestion (List (Text × Node))
  | [] => return []
  | (name, value) :: rest =>
    if value.entries?.isSome then do
      let member ← ingestAt validate (pathTo path name) value
      let others ← ingestEntries validate path rest
      return (name, member) :: others
    else do
      Ingestion.send (.droppedMember (pathTo path name) value.typeName)
      ingestEntries validate path rest

end

/-- What stands under the key of a bucket is all that matters for its members. -/
theorem ingestBucket_eq (validate : Bool) (path key : Text) (isBucket : Json → Bool)
    (entries : Assoc Json) :
    ingestBucket validate path key isBucket entries =
      match Assoc.lookup key entries with
      | some value =>
        if isBucket value then ingestMembers validate (pathTo path key) value else pure []
      | none => pure [] := by
  induction entries with
  | nil => simp [ingestBucket, Assoc.lookup]
  | cons entry rest ih =>
    obtain ⟨k, value⟩ := entry
    by_cases h : k = key
    · simp [ingestBucket, Assoc.lookup, h]
    · simp [ingestBucket, Assoc.lookup, h, ih]

/-- The tree of a value, which must be an object. -/
def ingest (validate : Bool) (value : Json) : Ingestion Node := ingestAt validate [] value

end Node

end Externs
