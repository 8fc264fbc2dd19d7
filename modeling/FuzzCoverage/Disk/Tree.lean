import FuzzCoverage.Disk.Basic

/-! # Disks in memory

A tree is a disk whose files and folders are given.  Paths are relative to its root; `.` stays
where it is and `..` goes up, and whatever a path leads through has to be a folder.  Above the root
there are folders as well, but nothing in them is known. -/

namespace FuzzCoverage

inductive TreeNode where
  | file (bytes : ByteArray) (modified : Int)
  | folder

/-- The files and folders of a tree by the names that lead to them from its root. -/
structure Tree where
  nodes : List (List Text × TreeNode)

namespace Tree

def empty : Tree := ⟨[]⟩

/-- The names that lead to a place from the root; `..` takes back the name before it. -/
def namesOf (path : Text) : List Text :=
  (path.splitOn '/').foldl (fun names name =>
    if name = [] ∨ name = ['.'] then names
    else if name = ['.', '.'] then names.dropLast
    else names ++ [name]) []

/-- What stands at a place; the root is a folder, and so is every place that another one lies
    below. -/
def node? (t : Tree) (place : List Text) : Option TreeNode :=
  match t.nodes.lookup place with
  | some node => some node
  | none => if t.nodes.any fun (other, _) => place.isPrefixOf other then some .folder
      else if place.isEmpty then some .folder else none

def put (t : Tree) (path : Text) (node : TreeNode) : Tree :=
  let place := namesOf path
  ⟨t.nodes.filter (·.1 ≠ place) ++ [(place, node)]⟩

inductive Place where
  | below (names : List Text)
  | above
  deriving DecidableEq, Repr

/-- Where a path begins: an absolute one begins above the root. -/
def Place.start (path : Text) : Place := if path.head? = some '/' then .above else .below []

def Place.up : Place → Place
  | .below names => if names.isEmpty then .above else .below names.dropLast
  | .above => .above

def at? (t : Tree) : Place → Option TreeNode
  | .below names => t.node? names
  | .above => some .folder

def Place.down (place : Place) (name : Text) : Except DiskFault Place :=
  if longestName < byteLength name then .error .nameTooLong
  else match place with
    | .below names => .ok (.below (names ++ [name]))
    | .above => .error .notFound

def Place.step (place : Place) (name : Text) : Except DiskFault Place :=
  if name.isEmpty || name = ['.'] then .ok place
  else if name = ['.', '.'] then .ok place.up
  else place.down name

def follow (t : Tree) (place : Place) : List Text → Except DiskFault (Place × TreeNode)
  | [] =>
    match t.at? place with
    | some node => .ok (place, node)
    | none => .error .notFound
  | name :: rest =>
    match t.at? place with
    | none => .error .notFound
    | some (.file _ _) => .error .notFolder
    | some .folder =>
      match place.step name with
      | .error fault => .error fault
      | .ok next => t.follow next rest

def find (t : Tree) (path : Text) : Except DiskFault (Place × TreeNode) :=
  match pathFault? path with
  | some fault => .error fault
  | none => t.follow (.start path) (path.splitOn '/')

def entryOf? (t : Tree) (folder place : List Text) : Option DiskEntry :=
  if folder.isPrefixOf place then
    match place.drop folder.length with
    | [] => none
    | name :: _ =>
      match t.node? (folder ++ [name]) with
      | some (.file _ modified) => some ⟨name, true, modified⟩
      | _ => some ⟨name, false, 0⟩
  else none

def entries (t : Tree) : Place → List DiskEntry
  | .below folder => (t.nodes.filterMap fun (place, _) => t.entryOf? folder place).eraseDups
  | .above => []

def isFolder (t : Tree) (path : Text) : Bool :=
  match t.find path with
  | .ok (_, .folder) => true
  | _ => false

def list (t : Tree) (path : Text) : Except DiskFault (List DiskEntry) :=
  match t.find path with
  | .ok (place, .folder) => .ok (t.entries place)
  | .ok (_, .file _ _) => .error .notFolder
  | .error fault => .error fault

def read (t : Tree) (path : Text) : Except DiskFault Text :=
  match t.find path with
  | .ok (_, .folder) => .error .isFolder
  | .ok (_, .file bytes _) =>
    match String.fromUTF8? bytes with
    | some text => .ok text.toList
    | none => .error .notText
  | .error fault => .error fault

def disk (t : Tree) : Disk Id where
  isFolder path := pure (t.isFolder path)
  list path := pure (t.list path)
  read path := pure (t.read path)

end Tree

end FuzzCoverage
