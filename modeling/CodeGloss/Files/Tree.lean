import CodeGloss.Files.Path
import CodeGloss.Format.Table
import CodeGloss.Text.Utf8

/-!
# Files

The files that a program can see, as a value: what stands at each place of a tree
of folders. A way through the tree passes open folders only. A double dot goes back,
and a way that goes back beyond the start of the tree finds nothing there.

What cannot be read or written is told apart by cause: nothing is there, a file
stands where a folder is needed, or a folder where a file is. A name may also be too
long, or a folder closed to the program. Then it is not known what is there.
-/

namespace CodeGloss.Files

open Format Text

inductive Content where
  | bytes (content : List UInt8)
  | database (tables : Database)
  deriving Inhabited

inductive Node where
  | file (content : Content)
  | folder
  /-- A folder that the program may not look into. -/
  | locked
  deriving Inhabited

inductive Fault where
  | missing
  | notFolder
  | isFolder
  /-- No file has a name with a null character. -/
  | nullName
  | nameTooLong
  /-- The way leads into a folder that is locked. -/
  | forbidden
  deriving DecidableEq, Repr

/-- Whether the fault leaves open what stands at a path. With any other fault nothing does. -/
def Fault.hidesPath : Fault → Bool
  | nameTooLong | forbidden => true
  | missing | notFolder | isFolder | nullName => false

/-- A fault at a path. -/
structure AccessError where
  fault : Fault
  path : Path
  deriving DecidableEq, Repr

namespace AccessError

def reason : Fault → String
  | .missing => "[Errno 2] No such file or directory"
  | .notFolder => "[Errno 20] Not a directory"
  | .isFolder => "[Errno 21] Is a directory"
  | .nullName => "embedded null byte"
  | .nameTooLong => "[Errno 36] File name too long"
  | .forbidden => "[Errno 13] Permission denied"

def message (e : AccessError) : List Char :=
  match e.fault with
  | .nullName => (reason e.fault).toList
  | fault => (reason fault).toList ++ [':', ' '] ++ quoted e.path.text

end AccessError

/-- What stands at each place. A place is a path without dots. -/
structure Tree where
  nodes : List (Path × Node)
  deriving Inhabited

namespace Tree

/-- A place from which every way starts, or that lies behind such a place. -/
def isStart (place : Path) : Bool :=
  place.names.all (· == ['.', '.'])

def node? (tree : Tree) (place : Path) : Option Node :=
  if isStart place then some .folder else tree.nodes.lookup place

/-- The place that a name leads to. -/
def step (place : Path) (name : Name) : Path :=
  if name = ['.', '.'] then
    if isStart place then
      if place.root = [] then { place with names := place.names ++ [name] } else place
    else { place with names := place.names.dropLast }
  else { place with names := place.names ++ [name] }

/-- The most bytes that a name may have. -/
def nameLimit : Nat := 255

/-- The most bytes that the text of a path may have. -/
def pathLimit : Nat := 4095

/-- The place that a way leads to from `here`. -/
def walk (tree : Tree) (here : Path) : List Name → Except Fault Path
  | [] => .ok here
  | name :: rest =>
      match tree.node? here with
      | some .folder =>
          if nameLimit < (Utf8.encode name).length then .error .nameTooLong
          else walk tree (step here name) rest
      | some .locked => .error .forbidden
      | some (.file _) => .error .notFolder
      | none => .error .missing

def hasNull (path : Path) : Bool :=
  path.names.any (·.contains '\x00')

/-- The place of a path. -/
def locate (tree : Tree) (path : Path) : Except Fault Path :=
  if hasNull path then .error .nullName
  else if pathLimit < (Utf8.encode path.text).length then .error .nameTooLong
  else tree.walk { path with names := [] } path.names

/-- What stands at the end of a path. -/
def find (tree : Tree) (path : Path) : Except Fault Node := do
  let place ← tree.locate path
  match tree.node? place with
  | some node => .ok node
  | none => .error .missing

/-- Whether something stands at a path, if the program may know. -/
def exists? (tree : Tree) (path : Path) : Except AccessError Bool :=
  match tree.find path with
  | .ok _ => .ok true
  | .error fault => if fault.hidesPath then .error ⟨fault, path⟩ else .ok false

/-- The content of a file. -/
def open? (tree : Tree) (path : Path) : Except AccessError Content :=
  match tree.find path with
  | .ok (.file content) => .ok content
  | .ok .folder => .error ⟨.isFolder, path⟩
  | .ok .locked => .error ⟨.forbidden, path⟩
  | .error fault => .error ⟨fault, path⟩

/-- Put a node at a place. -/
def put (tree : Tree) (place : Path) (node : Node) : Tree :=
  ⟨(place, node) :: tree.nodes.filter fun (other, _) => other != place⟩

/-- Put a file at a place and folders on the way to it. -/
def putWithFolders (tree : Tree) (place : Path) (node : Node) : Tree :=
  let folders := (List.range place.names.length).map fun count =>
    { place with names := place.names.take count }
  let missing := folders.filter fun folder => (tree.node? folder).isNone
  (missing.foldl (fun tree folder => tree.put folder .folder) tree).put place node

/-- Write a file. The folder it goes to has to be there. -/
def write (tree : Tree) (path : Path) (content : List UInt8) : Except AccessError Tree :=
  match tree.locate path with
  | .error fault => .error ⟨fault, path⟩
  | .ok place =>
      match tree.node? place with
      | some .folder | some .locked => .error ⟨.isFolder, path⟩
      | some (.file _) | none => .ok (tree.put place (.file (.bytes content)))

/-- Take a file away. -/
def remove (tree : Tree) (path : Path) : Except AccessError Tree :=
  match tree.locate path with
  | .error fault => .error ⟨fault, path⟩
  | .ok place =>
      match tree.node? place with
      | some (.file _) => .ok ⟨tree.nodes.filter fun (other, _) => other != place⟩
      | some .folder | some .locked => .error ⟨.isFolder, path⟩
      | none => .error ⟨.missing, path⟩

/-- What is put at a place stands there. -/
@[simp]
theorem node?_put (tree : Tree) (place : Path) (node : Node) (inside : isStart place = false) :
    (tree.put place node).node? place = some node := by
  simp [node?, inside, put]

section Writing

variable {tree : Tree} {place : Path}

theorem lookup_filter_of_ne {nodes : List (Path × Node)} {other : Path}
    (apart : other ≠ place) :
    (nodes.filter fun (there, _) => there != place).lookup other = nodes.lookup other := by
  induction nodes with
  | nil => rfl
  | cons node nodes ih =>
      rcases node with ⟨there, node⟩
      by_cases same : there = place
      · subst same
        rw [List.filter_cons_of_neg (by simp), ih, List.lookup_cons, beq_false_of_ne apart]
      · rw [List.filter_cons_of_pos (by simpa using same), List.lookup_cons, List.lookup_cons, ih]

theorem node?_put_of_ne {node : Node} {other : Path} (apart : other ≠ place) :
    (tree.put place node).node? other = tree.node? other := by
  rw [node?, node?, put, List.lookup_cons, beq_false_of_ne apart]
  simp only [lookup_filter_of_ne apart]

/-- Nothing but a file stands at the place. -/
def IsFree (tree : Tree) (place : Path) : Prop :=
  ∀ node ∈ tree.node? place, ∃ content, node = .file content

/-- The path leads to a place that can be written to. -/
def IsWritable (tree : Tree) (path : Path) : Prop :=
  ∃ place, tree.locate path = .ok place ∧ tree.IsFree place

/-- Where no folder stands, a file makes no difference to the ways. -/
theorem walk_put {content : Content} (free : tree.IsFree place) (here : Path)
    (names : List Name) {there : Path} (walks : tree.walk here names = .ok there) :
    (tree.put place (.file content)).walk here names = .ok there := by
  induction names generalizing here with
  | nil => exact walks
  | cons name rest ih =>
      rw [walk] at walks ⊢
      split at walks
      · next isFolder =>
        have apart : here ≠ place := by
          rintro rfl
          obtain ⟨_, isFile⟩ := free _ isFolder
          contradiction
        rw [node?_put_of_ne apart, isFolder]
        dsimp only
        split at walks
        · contradiction
        · next fits =>
          rw [if_neg fits]
          exact ih _ walks
      · contradiction
      · contradiction
      · contradiction

/-- What was written to a file stands in it. -/
theorem exists_write {path : Path} (writable : IsWritable tree path) (content : List UInt8) :
    ∃ next, tree.write path content = .ok next ∧ next.open? path = .ok (.bytes content) := by
  obtain ⟨place, located, free⟩ := writable
  have stands : (tree.put place (.file (.bytes content))).node? place =
      some (.file (.bytes content)) := by
    apply node?_put
    rw [← Bool.not_eq_true]
    intro isStart
    obtain ⟨_, isFile⟩ := free .folder (if_pos isStart)
    contradiction
  refine ⟨tree.put place (.file (.bytes content)), ?_, ?_⟩
  · rw [write, located]
    dsimp only
    split
    · next isFolder =>
      obtain ⟨_, isFile⟩ := free _ isFolder
      contradiction
    · next isLocked =>
      obtain ⟨_, isFile⟩ := free _ isLocked
      contradiction
    · rfl
    · rfl
  · have relocated : (tree.put place (.file (.bytes content))).locate path = .ok place := by
      rw [locate] at located ⊢
      split at located
      · contradiction
      · split at located
        · contradiction
        · next named short =>
          rw [if_neg named, if_neg short]
          exact walk_put free _ _ located
    have found : (tree.put place (.file (.bytes content))).find path =
        .ok (.file (.bytes content)) := by
      rw [find, relocated]
      simp only [bind, Except.bind, stands]
    rw [open?, found]

/-- A file that can be opened is there. -/
theorem exists?_of_open? {path : Path} {content : Content}
    (opens : tree.open? path = .ok content) : tree.exists? path = .ok true := by
  rw [open?] at opens
  rw [exists?]
  cases found : tree.find path with
  | error fault =>
      rw [found] at opens
      contradiction
  | ok node => rfl

end Writing

end Tree

end CodeGloss.Files
