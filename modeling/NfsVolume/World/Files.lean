import NfsVolume.Text.Newline
import NfsVolume.World.Basic

/-!
The operations on files and directories. Each either takes effect as a whole or fails with the
tree as it was, but for content that is written before it is synced, and for the removal of a
whole directory.
-/
namespace NfsVolume.Files

def refuse {α : Type} (errno : Errno) (path : Text) : Run α := throw (.os ⟨errno, some path⟩)

def setFiles (files : FileTree) : Run Unit := modify fun w => { w with files := files }

/-- No path holds a null character. -/
def checkPath (path : Text) : Run Unit :=
  if '\x00' ∈ path then throw (.value .nullInPath) else pure ()

def resolve (path : Text) : Run (Place × Node) := do
  checkPath path
  match (← get).files.resolve path with
  | .ok found => pure found
  | .error errno => refuse errno path

/-- Whether there is anything at a path, as far as can be seen. -/
def isPresent (path : Text) : Run Bool := do
  return '\x00' ∉ path && (((← get).files.resolve path).toOption).isSome

/-- As `isPresent`, but it fails where the system refuses to look. -/
def isPresentOrRefused (path : Text) : Run Bool := do
  if '\x00' ∈ path then return false
  match (← get).files.resolve path with
  | .ok _ => return true
  | .error errno =>
    if errno = Errno.noEntry || errno = Errno.notDirectory then return false
    else refuse errno path

def readOctets (path : Text) : Run (List UInt8) := do
  let (_, node) ← resolve path
  if !node.mayRead then refuse Errno.accessDenied path
  else
    match node with
    | .directory _ => refuse Errno.isDirectory path
    | .file _ content => pure content

def decode (octets : List UInt8) : Run Text :=
  match Text.Utf8.decode octets with
  | .ok text => pure text
  | .error e => throw (.undecodable e)

/-- The text of a file as it stands. -/
def readExact (path : Text) : Run Text := do decode (← readOctets path)

/-- The text of a file with its line ends unified. -/
def readText (path : Text) : Run Text := do return (← readExact path).unifyNewlines

/-- Text is written at the end of a file that exists, and synced. -/
def append (path content : Text) : Run Unit := do
  let (place, node) ← resolve path
  match node with
  | .directory _ => refuse Errno.isDirectory path
  | .file mode old =>
    if !node.mayWrite then refuse Errno.accessDenied path
    else
      let mode := if content.isEmpty then mode else Node.writtenMode mode
      setFiles ((← get).files.put place (.file mode (old ++ Text.Utf8.encode content)))
      Run.record (.appended path content)
      Run.meet .fsync

/-- Names for a temporary file beside a file. -/
def temporaryName (name : Text) (k : Nat) : Text :=
  let digits := Text.decimal k
  "." ++ name ++ "." ++ List.replicate (8 - digits.length) '0' ++ digits

/-- A place beside another one at which there is nothing yet. -/
def freePlace? (t : FileTree) (place : Place) : Option Place :=
  ((List.range (t.entries.length + 1)).map fun k =>
    place.dropLast ++ [temporaryName (place.getLastD []) k]).find? fun p =>
      !FileTree.isFixed p && (t.get? p).isNone

/-- The new content is written and synced beside the file, and put in its place by renaming. -/
def fillAndRename (temporary place : Place) (mode : Nat) (content : Text) : Run Unit := do
  setFiles ((← get).files.put temporary (.file 0o600 (Text.Utf8.encode content)))
  Run.meet .fsync
  Run.meet .chmod
  setFiles ((← get).files.put temporary (.file mode (Text.Utf8.encode content)))
  Run.meet .replace
  setFiles (((← get).files.remove temporary).put place (.file mode (Text.Utf8.encode content)))

/-- A file gets new content and keeps its mode. Until the new content is complete on the disk the
old one stays, and in any case nothing else remains. -/
def rewrite (path content : Text) : Run Unit := do
  let (place, node) ← resolve path
  Run.meet .mkstemp
  let files := (← get).files
  match freePlace? files place with
  | none => refuse Errno.fileExists path
  | some temporary =>
    let name := temporary.getLastD []
    if Path.maxNameLength < Path.size name then refuse Errno.nameTooLong name
    else if !files.mayChange place.dropLast then refuse Errno.accessDenied name
    else
      let done ← Run.outcome (fillAndRename temporary place node.mode content)
      setFiles ((← get).files.remove temporary)
      Run.ofExcept done

/-- New directories and files are not open to others for writing. -/
def withoutMask (mode : Nat) : Nat := mode &&& 0o7755

def makeDirectory (path : Text) (mode : Nat) : Run Unit := do
  checkPath path
  let files := (← get).files
  match files.locate path with
  | .error errno => refuse errno path
  | .ok place =>
    let last := (Path.parts path).getLast?
    if last = none || last = some ['.'] || last = some ['.', '.'] || (files.get? place).isSome then
      refuse Errno.fileExists path
    else
      match files.get? place.dropLast with
      | none => refuse Errno.noEntry path
      | some parent =>
        if !parent.isDirectory then refuse Errno.notDirectory path
        else if !files.mayChange place.dropLast then refuse Errno.accessDenied path
        else setFiles (files.put place (.directory (withoutMask mode ||| parent.groupBit)))

/-- The directory of a path and its last name, a slash at the end of the path apart. -/
def splitLast (path : Text) : Text × Text :=
  let cut := Path.split path
  if cut.2.isEmpty then Path.split cut.1 else cut

/-- A directory with the missing ones above it, of which there are no more than the fuel. Each of
them is a call of its own. -/
def makeDirectoriesUpTo : Nat → Text → Nat → Run Unit
  | 0, path, mode => do
    Run.meet .makedirs
    makeDirectory path mode
  | fuel + 1, path, mode => do
    Run.meet .makedirs
    let (head, name) := splitLast path
    if !head.isEmpty && !name.isEmpty && !(← isPresent head) then
      Run.onOsError (makeDirectoriesUpTo fuel head 0o777) fun e =>
        if e.errno = Errno.fileExists then pure () else throw (.os e)
      if name = ['.'] then return ()
    makeDirectory path mode

/-- A directory is made, and above it those that are missing. -/
def makeDirectories (path : Text) (mode : Nat) : Run Unit := do
  makeDirectoriesUpTo path.length path mode
  Run.record (.directoryMade path)

def changeMode (path : Text) (mode : Nat) : Run Unit := do
  Run.meet .chmod
  let (place, node) ← resolve path
  setFiles ((← get).files.put place (node.withMode mode))

/-- The largest group id, which stands for "no change" as minus one does. -/
def maxGroup : Int := 4294967295
def maxWord : Int := 9223372036854775807

/-- The call is made, whether or not it succeeds; owners are not part of the tree. -/
def changeGroup (path : Text) (gid : Int) : Run Unit := do
  Run.record (.chown path gid)
  Run.meet .chown
  if maxWord < gid then throw (.overflow .gidTooLarge)
  else if gid < -1 || maxGroup < gid then throw (.overflow .gidTooSmall)

/-- The directory at a place is removed if it is empty. -/
def removeEmpty (place : Place) (shown : Text) : Run Unit := do
  let files := (← get).files
  match files.get? place with
  | none => refuse Errno.noEntry shown
  | some node =>
    if !files.mayChange place.dropLast then refuse Errno.accessDenied shown
    else if !node.isDirectory then refuse Errno.notDirectory shown
    else if !(files.children place).isEmpty then refuse Errno.notEmpty shown
    else setFiles (files.remove place)

def removeDirectory (path : Text) : Run Unit := do
  Run.meet .rmdir
  checkPath path
  match (← get).files.locate path with
  | .error errno => refuse errno path
  | .ok place =>
    match (Path.parts path).getLast? with
    | none => refuse Errno.busy path
    | some last =>
      if last = ['.'] then refuse Errno.invalidArgument path
      else if last = ['.', '.'] then refuse Errno.notEmpty path
      else removeEmpty place path

mutual

/-- All that is in a directory is removed, up to a depth; errors show the name in the directory. -/
def removeContents : Nat → Place → Text → Run Unit
  | 0, _, _ => pure ()
  | depth + 1, place, shown => do
    let files := (← get).files
    match files.get? place with
    | none => refuse Errno.noEntry shown
    | some node =>
      if !node.mayRead then refuse Errno.accessDenied shown
      else if !node.isDirectory then refuse Errno.notDirectory shown
      else removeEach depth place (files.children place)

def removeEach : Nat → Place → List (Text × Node) → Run Unit
  | _, _, [] => pure ()
  | depth, place, (name, node) :: rest => do
    if node.isDirectory then
      removeContents depth (place ++ [name]) name
      Run.meet .rmdir
      removeEmpty (place ++ [name]) name
    else if !(← get).files.mayChange place then refuse Errno.accessDenied name
    else setFiles ((← get).files.remove (place ++ [name]))
    removeEach depth place rest

end

/-- A directory is removed with all that is in it, as far as that is possible. The path is walked
once more for the directory itself, and may be gone by then. -/
def removeTree (path : Text) : Run Unit := do
  Run.meet .rmtree
  let (place, _) ← resolve path
  removeContents ((← get).files.entries.length + 1) place path
  removeDirectory path

/-- The octets free for use in the file system that holds a path. -/
def freeOctets (path : Text) : Run Int := do
  Run.meet .statvfs
  let _ ← resolve path
  let w ← get
  return w.freeBlocks * w.blockSize

end NfsVolume.Files
