import NfsVolume.Text.Utf8

/-!
Paths as text: joining, splitting, and the form without empty and `.` parts.
-/
namespace NfsVolume.Path

def isAbsolute (path : Text) : Bool := path.head? = some '/'

/-- The parts between the slashes, empty ones left out. -/
def parts (path : Text) : List Text := (Text.splitOn '/' path).filter fun part => !part.isEmpty

def endsInSlash (path : Text) : Bool := path.getLast? = some '/'

/-- A name under a directory; an absolute name stands for itself. -/
def join (directory name : Text) : Text :=
  if isAbsolute name then name
  else if directory.isEmpty || endsInSlash directory then directory ++ name
  else directory ++ '/' :: name

/-- What stands before the last slash, with slashes at its end removed, and what stands behind. -/
def split (path : Text) : Text × Text :=
  let name := (path.reverse.takeWhile (· ≠ '/')).reverse
  let head := path.take (path.length - name.length)
  (if head.all (· = '/') then head else Text.dropEndWhile (· = '/') head, name)

/-- The leading slashes that count: two are kept as they are, any other number is one. -/
def anchor (path : Text) : Text :=
  match (path.takeWhile (· = '/')).length with
  | 0 => []
  | 2 => "//"
  | _ => "/"

/-- The path without repeated slashes and `.` parts; `.` if nothing is left. -/
def normal (path : Text) : Text :=
  let body := Text.join "/" ((parts path).filter (· ≠ ['.']))
  if (anchor path ++ body).isEmpty then "." else anchor path ++ body

/-- The longest path and the longest name that the system takes, in octets. -/
def maxLength : Nat := 4095
def maxNameLength : Nat := 255

def size (text : Text) : Nat := (Text.Utf8.encode text).length

end NfsVolume.Path
