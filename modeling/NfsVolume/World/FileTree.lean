import NfsVolume.World.Errno
import NfsVolume.World.Path

/-!
A tree of files and directories with their permissions. A place in it is the list of names from
the working directory; paths are walked name by name, as the owner of every file.
-/
namespace NfsVolume

inductive Node where
  | file (mode : Nat) (content : List UInt8)
  | directory (mode : Nat)
  deriving DecidableEq, Repr

abbrev Place := List Text

structure FileTree where
  entries : List (Place × Node)
  deriving DecidableEq, Repr

namespace Node

def mode : Node → Nat
  | .file mode _ => mode
  | .directory mode => mode

def withMode (mode : Nat) : Node → Node
  | .file _ content => .file mode content
  | .directory _ => .directory mode

def isDirectory : Node → Bool
  | .directory _ => true
  | .file .. => false

/-- The bits of the mode for the owner. -/
def mayRead (n : Node) : Bool := n.mode / 256 % 2 = 1
def mayWrite (n : Node) : Bool := n.mode / 128 % 2 = 1
def maySearch (n : Node) : Bool := n.mode / 64 % 2 = 1

/-- The mode of a file after writing to it, which takes away that it runs as its owner, and as its
group if the group may run it. -/
def writtenMode (mode : Nat) : Nat :=
  mode &&& if mode &&& 0o10 = 0 then 0o3777 else 0o1777

/-- The bit of the mode that is handed down to directories made inside. -/
def groupBit (n : Node) : Nat := n.mode &&& 0o2000

end Node

namespace FileTree

/-- The directories above the working directory, and the top of all; they are empty otherwise. -/
def above : Place := [['.', '.']]
def top : Place := [['/']]

def plainMode : Nat := 0o755

/-- The working directory and those above it are always there. -/
def isFixed (p : Place) : Bool := p = [] || p = above || p = top

def find : List (Place × Node) → Place → Option Node
  | [], _ => none
  | (q, n) :: rest, p => if q = p then some n else find rest p

def get? (t : FileTree) (p : Place) : Option Node :=
  if isFixed p then some (.directory plainMode) else find t.entries p

def set : List (Place × Node) → Place → Node → List (Place × Node)
  | [], p, n => [(p, n)]
  | (q, old) :: rest, p, n => if q = p then (q, n) :: rest else (q, old) :: set rest p n

def put (t : FileTree) (p : Place) (n : Node) : FileTree := ⟨set t.entries p n⟩

def remove (t : FileTree) (p : Place) : FileTree := ⟨t.entries.filter fun e => e.1 ≠ p⟩

/-- The names in a directory with their nodes. -/
def children (t : FileTree) (p : Place) : List (Text × Node) :=
  t.entries.filterMap fun e =>
    match e.1.getLast? with
    | some name => if e.1.dropLast = p then some (name, e.2) else none
    | none => none

theorem find_set (entries : List (Place × Node)) (p q : Place) (n : Node) :
    find (set entries p n) q = if q = p then some n else find entries q := by
  induction entries with
  | nil => by_cases h : p = q <;> simp [set, find, h, eq_comm]
  | cons e rest ih =>
    by_cases hp : e.1 = p
    · by_cases hq : q = p
      · simp [set, find, hp, hq]
      · simp [set, find, hp, hq, Ne.symm hq]
    · by_cases hq : e.1 = q
      · subst hq; simp [set, find, hp]
      · simp [set, find, hp, hq, ih]

theorem find_filter (entries : List (Place × Node)) (p q : Place) :
    find (entries.filter fun e => e.1 ≠ p) q = if q = p then none else find entries q := by
  induction entries with
  | nil => simp [find]
  | cons e rest ih =>
    by_cases hp : e.1 = p
    · by_cases hq : q = p
      · subst hq; simp [hp] at ih ⊢; simpa using ih
      · have : e.1 ≠ q := fun h => hq (h ▸ hp)
        simp [hp, find] at ih ⊢
        simp [ih, hq, Ne.symm hq]
    · by_cases hq : e.1 = q
      · subst hq; simp [find, hp]
      · simp [find, hp, hq] at ih ⊢
        exact ih

theorem get?_put (t : FileTree) {p : Place} (h : isFixed p = false) (q : Place) (n : Node) :
    (t.put p n).get? q = if q = p then some n else t.get? q := by
  by_cases hq : isFixed q
  · have : q ≠ p := fun e => by simp [e, h] at hq
    simp [get?, hq, this]
  · simp [get?, hq, put, find_set]

theorem get?_remove (t : FileTree) {p : Place} (h : isFixed p = false) (q : Place) :
    (t.remove p).get? q = if q = p then none else t.get? q := by
  by_cases hq : isFixed q
  · have : q ≠ p := fun e => by simp [e, h] at hq
    simp [get?, hq, this]
  · simp only [get?, hq, remove]
    exact find_filter t.entries p q

/-- The place that `..` leads to. -/
def parent (p : Place) : Place :=
  if p = [] then above else if isFixed p then p else p.dropLast

/-- The place a step leads to, from a directory that may be searched. -/
def step (t : FileTree) (p : Place) (name : Text) : Except Errno Place :=
  match t.get? p with
  | none => .error Errno.noEntry
  | some node =>
    if !node.isDirectory then .error Errno.notDirectory
    else if !node.maySearch then .error Errno.accessDenied
    else if Path.maxNameLength < Path.size name then .error Errno.nameTooLong
    else if name = ['.'] then .ok p
    else if name = ['.', '.'] then .ok (parent p)
    else .ok (p ++ [name])

def walk (t : FileTree) (p : Place) : List Text → Except Errno Place
  | [] => .ok p
  | name :: rest =>
    match t.step p name with
    | .error errno => .error errno
    | .ok q => walk t q rest

def start (path : Text) : Place := if Path.isAbsolute path then top else []

/-- The place of a path, which may be empty of a node. -/
def locate (t : FileTree) (path : Text) : Except Errno Place :=
  if path.isEmpty then .error Errno.noEntry
  else if Path.maxLength < Path.size path then .error Errno.nameTooLong
  else t.walk (start path) (Path.parts path)

/-- The node of a path; one written with a slash at its end must be a directory. -/
def resolve (t : FileTree) (path : Text) : Except Errno (Place × Node) :=
  match t.locate path with
  | .error errno => .error errno
  | .ok p =>
    match t.get? p with
    | none => .error Errno.noEntry
    | some node =>
      if Path.endsInSlash path && !node.isDirectory then .error Errno.notDirectory
      else .ok (p, node)

/-- Whether entries of a directory may be made or removed; those above belong to others. -/
def mayChange (t : FileTree) (p : Place) : Bool :=
  p ≠ above && p ≠ top &&
    match t.get? p with
    | some node => node.isDirectory && node.mayWrite && node.maySearch
    | none => false

end FileTree
end NfsVolume
