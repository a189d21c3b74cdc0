import Externs.Text.Utf8

/-!
# Files

The files that a run of the command can see and change, as a value.

* `PathName.steps`, `PathName.shown`: the steps of a written path, and how it is shown;
* `PathName.names`: the same steps as bytes, by which files are told apart;
* `PathName.problem?`: why a text cannot be a path;
* `Access`, `FileEntry`: what may be done with an entry, and the entry itself;
* `FileTree`: directories and files by their place;
* `FileTree.find`: what stands at a written path;
* `FileTree.placeToWrite`: where a file can be written, or the reason why it cannot be;
* `FileTree.write`: the files with one of them written.
-/

namespace Externs

set_option autoImplicit false

/-! ## Paths -/

/-- The name of a file or a directory. Names are bytes, whatever texts were written for them. -/
abbrev FileName := List UInt8

namespace PathName

/-- The mark between the steps of a path. -/
def separator : CodePoint := .scalar '/'

/-- The step that stays where it is. -/
def here : Text := "."

/-- The step to the directory above. -/
def up : Text := ".."

/-- The steps of a path that lead somewhere: empty ones and those that stay are left out. -/
def steps (path : Text) : List Text :=
  (path.splitAt separator).filter fun step => !step.isEmpty && step != here

/-- The separators in front of a path from the root. Two of them are kept, more count as one. -/
def rootMark (path : Text) : Text :=
  match (path.takeWhile (· = separator)).length with
  | 0 => []
  | 2 => [separator, separator]
  | _ => [separator]

/-- The path as it is shown: its steps with single separators between them. A path without steps is
the directory it starts from. -/
def shown (path : Text) : Text :=
  match rootMark path, steps path with
  | [], [] => here
  | mark, steps => mark ++ Text.joinWith [separator] steps

/-- Why a text cannot be a path at all. -/
inductive Problem where
  /-- A lone surrogate that stands for no byte. -/
  | unencodable
  /-- A zero byte, which would end the path. -/
  | zeroByte
  deriving DecidableEq

/-- What is wrong with a text as a path. -/
def problem? (path : Text) : Option Problem :=
  match Utf8.encodeEscaped? path with
  | none => some .unencodable
  | some bytes => if bytes.contains 0 then some .zeroByte else none

/-- The bytes of a path or of a step. What cannot be a path has none. -/
def bytes (path : Text) : List UInt8 := (Utf8.encodeEscaped? path).getD []

/-- The names to which the steps of a path lead. Two steps that are written differently may be one
name. -/
def names (path : Text) : List FileName := (steps path).map bytes

/-- The name of the step to the directory above. -/
def upName : FileName := bytes up

/-- How many bytes a path takes. -/
def size (path : Text) : Nat := (bytes path).length

/-- The greatest number of bytes of a name. -/
def nameLimit : Nat := 255

/-- The greatest number of bytes of a path. -/
def pathLimit : Nat := 4095

/-- A path in a message, where bytes that are not UTF-8 are replaced. -/
def displayed (path : Text) : Text := Utf8.decodeLoosely (bytes path)

/-- Whether a path can only be a directory: it ends in a separator, or in a step that stays. -/
def wantsDirectory (path : Text) : Bool :=
  match (path.splitAt separator).getLast? with
  | some last => last.isEmpty || last = here
  | none => false

/-- Whether the last step of a path stays where it is. Such a step, too, is looked up in a directory. -/
def endsHere (path : Text) : Bool := (path.splitAt separator).getLast? = some here

end PathName

/-! ## Trees of files -/

/-- A place in the tree of files: names from the root, or from the working directory. -/
structure FilePlace where
  rooted : Bool
  names : List FileName
  deriving DecidableEq

/-- What the command may do with an entry. -/
structure Access where
  read : Bool := true
  /-- Whether the file can be written to, or files made in the directory. -/
  write : Bool := true
  /-- Whether names can be looked up in the directory. -/
  search : Bool := true
  deriving DecidableEq

/-- What stands at a place. -/
inductive FileEntry where
  | directory (access : Access)
  | file (access : Access) (bytes : List UInt8)
  deriving DecidableEq

/-- Directories and files by their places. Directories on the way to an entry need no entry of their
own; everything may be done with those that have none. -/
structure FileTree where
  entries : List (FilePlace × FileEntry)

/-- Why a file cannot be written. -/
inductive WriteProblem where
  | isDirectory
  | missingDirectory
  | notDirectory
  | tooLong
  | denied
  deriving DecidableEq

namespace FileTree

/-- The place where a path starts. -/
def startOf (path : Text) : FilePlace := ⟨path.head? = some PathName.separator, []⟩

/-- The starting places and the directories above them always exist. -/
def isStart (place : FilePlace) : Bool := place.names.all (· = PathName.upName)

/-- What stands at a place. -/
def entryAt? (tree : FileTree) (place : FilePlace) : Option FileEntry :=
  match tree.entries.lookup place with
  | some entry => some entry
  | none =>
    let onTheWay := tree.entries.any fun (other, _) =>
      other.rooted = place.rooted && place.names.isPrefixOf other.names
    if isStart place || onTheWay then some (.directory {}) else none

/-- One step from a directory. Above the starting place, steps up are names like others; above the
root there is only the root. -/
def step (place : FilePlace) (name : FileName) : FilePlace :=
  if name = PathName.upName then
    if isStart place then if place.rooted then place else { place with names := place.names ++ [name] }
    else { place with names := place.names.dropLast }
  else { place with names := place.names ++ [name] }

/-- The place to which steps lead, each of them from a directory that exists and can be searched. -/
def follow (tree : FileTree) : FilePlace → List FileName → Except WriteProblem FilePlace
  | place, [] => .ok place
  | place, name :: rest =>
    match tree.entryAt? place with
    | some (.directory access) =>
      if !access.search then .error .denied
      else if PathName.nameLimit < name.length then .error .tooLong
      else follow tree (step place name) rest
    | some (.file _ _) => .error .notDirectory
    | none => .error .missingDirectory

/-- What stands at a written path. A path that is empty or too long leads nowhere. -/
def find (tree : FileTree) (path : Text) : Option FileEntry :=
  if path.isEmpty || PathName.pathLimit < PathName.size path then none
  else match tree.follow (startOf path) (PathName.names path) with
    | .error _ => none
    | .ok place =>
      match tree.entryAt? place with
      | some (.file access bytes) =>
        if PathName.wantsDirectory path then none else some (.file access bytes)
      | some (.directory access) =>
        if PathName.endsHere path && !access.search then none else some (.directory access)
      | none => none

/-- The tree with an entry set anew. -/
def set (tree : FileTree) (place : FilePlace) (entry : FileEntry) : FileTree :=
  ⟨(place, entry) :: tree.entries.filter fun (other, _) => other != place⟩

/-- The directory above a place. -/
def above (place : FilePlace) : FilePlace := { place with names := place.names.dropLast }

/-- Whether a file can be made in the directory at a place. -/
def canMakeIn (tree : FileTree) (place : FilePlace) : Bool :=
  match tree.entryAt? place with
  | some (.directory access) => access.write
  | _ => false

/-- The place where a file can be written: a file that may be written to stands there, or none does and
one can be made. -/
def placeToWrite (tree : FileTree) (path : Text) : Except WriteProblem FilePlace :=
  if PathName.pathLimit < PathName.size (PathName.shown path) then .error .tooLong
  else match tree.follow (startOf path) (PathName.names path) with
  | .error problem => .error problem
  | .ok place =>
    match tree.entryAt? place with
    | some (.directory _) => .error .isDirectory
    | some (.file access _) => if access.write then .ok place else .error .denied
    | none => if tree.canMakeIn (above place) then .ok place else .error .denied

/-- What may be done with the file at a place: a new one has no restrictions. -/
def accessAt (tree : FileTree) (place : FilePlace) : Access :=
  match tree.entryAt? place with
  | some (.file access _) => access
  | _ => {}

/-- The tree with the file at a place written. What may be done with it stays the same. -/
def write (tree : FileTree) (place : FilePlace) (bytes : List UInt8) : FileTree :=
  tree.set place (.file (tree.accessAt place) bytes)

/-- The bytes of the file at a path, if there is a file. -/
def contentAt (tree : FileTree) (path : Text) : Option (List UInt8) :=
  match tree.find path with
  | some (.file _ bytes) => some bytes
  | _ => none

/-- The tree with one more entry at a written path. -/
def add (tree : FileTree) (path : Text) (entry : FileEntry) : FileTree :=
  tree.set ((PathName.names path).foldl step (startOf path)) entry

end FileTree

end Externs
