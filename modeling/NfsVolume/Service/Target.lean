import NfsVolume.Failure.Basic
import NfsVolume.Service.Host
import NfsVolume.Text.Percent

/-!
The target of a request: a URL, of which scheme and host may be left out. The path is what counts,
from which the names `.` and `..` are removed before it is decoded; with slashes at its end it is
asked for once more without them.
-/
namespace NfsVolume.Service

structure Target where
  scheme : Text
  host : Text
  /-- The port, unless it is the one that the scheme has anyway. -/
  port : Option Int
  path : Text
  query : Text
  fragment : Text
  deriving DecidableEq, Repr

namespace Target

/-- What stands before a colon, if it can be a scheme; it may be empty. -/
def cutScheme (s : Text) : Text × Text :=
  match Text.cut? ':' s with
  | some ([], rest) => ([], rest)
  | some (c :: name, rest) =>
    if c.isAlpha && name.all fun d => d.isAlphanum || d = '+' || d = '.' || d = '-' then
      (c :: name, rest)
    else ([], s)
  | none => ([], s)

/-- The part between two slashes and the path, and the rest. -/
def cutAuthority : Text → Text × Text
  | '/' :: '/' :: rest =>
    let isInside (c : Char) : Bool := c ≠ '/' && c ≠ '?' && c ≠ '#'
    (rest.takeWhile isInside, rest.dropWhile isInside)
  | s => ([], s)

/-- Who asks, where, and at which port. -/
structure Authority where
  user : Text
  host : Text
  port : Text
  deriving DecidableEq, Repr

/-- Whether anything is said at all. -/
def Authority.isGiven (a : Authority) : Bool :=
  !a.user.isEmpty || !a.host.isEmpty || !a.port.isEmpty

def dropColon (s : Text) : Text := if s.head? = some ':' then s.drop 1 else s

/-- The host is in brackets, or ends before the colon of a port; a user may be named before it. -/
def Authority.of (text : Text) : Authority :=
  let place := (text.reverse.takeWhile (· ≠ '@')).reverse
  let inBrackets := (place.reverse.dropWhile (· ≠ ']')).reverse
  let host :=
    if place.head? = some '[' && !inBrackets.isEmpty then inBrackets
    else place.takeWhile (· ≠ ':')
  ⟨text.take (text.length - place.length - 1), host, dropColon (place.drop host.length)⟩

/-- The names of a path without `.`, and without `..` and the names that it takes back; the empty
name in front cannot be taken back. What is kept is given from its end. -/
def straighten : List Text → List Text → List Text
  | kept, [] => kept.reverse
  | kept, name :: rest =>
    if name = ['.'] then straighten kept rest
    else if name = ['.', '.'] then straighten (if kept = [[]] then kept else kept.drop 1) rest
    else straighten (name :: kept) rest

def straightPath (path : Text) : Text := Text.join "/" (straighten [] (Text.splitOn '/' path))

def isUnprintable (c : Char) : Bool := c.toNat < 0x20 || c.toNat = 0x7f

/-- The ports of schemes that have one. -/
def ports : List (Text × Int) :=
  [("ftp", 21), ("http", 80), ("https", 443), ("ws", 80), ("wss", 443)]

def readPort (scheme port : Text) : Except TargetProblem (Option Int) :=
  if port.isEmpty then .ok none
  else
    match Text.Integer.read port with
    | .ok n => .ok (if ports.lookup scheme = some n then none else some n)
    | .error _ => .error (.port port)

/-- A path on its own cannot look like a host or a scheme. -/
def checkPath (path : Text) : Except TargetProblem Unit :=
  if path.startsWith "//" then .error .twoSlashes
  else if path.startsWith ":" then .error .colon
  else .ok ()

/-- The parts of a target. -/
def parse (s : Text) : Except TargetProblem Target := do
  if TargetProblem.maxLength < s.length then throw .tooLong
  match Text.cutWhere? isUnprintable s with
  | some (before, c, _) => throw (.unprintable c before.length)
  | none => pure ()
  let (scheme, rest) := cutScheme s
  let (authority, rest) := cutAuthority rest
  let authority := Authority.of authority
  let host ← Host.read authority.host
  let port ← readPort scheme authority.port
  let path := rest.takeWhile fun c => c ≠ '?' && c ≠ '#'
  let query := ((rest.drop path.length).takeWhile (· ≠ '#')).drop 1
  let fragment := (rest.dropWhile (· ≠ '#')).drop 1
  let t : Target := ⟨scheme.map Char.toLower, host, port, path, query, fragment⟩
  if !scheme.isEmpty || authority.isGiven then return { t with path := straightPath path }
  checkPath path
  return t

def schemes : List Text := ["http", "https"]

/-- A target with a scheme and a host stands for itself. -/
def isAbsolute (t : Target) : Bool := !t.scheme.isEmpty && !t.host.isEmpty

/-- Characters that are escaped in a query, and in a path. -/
def queryEscapes : List Char := [' ', '"', '#', '<', '>']
def pathEscapes : List Char := queryEscapes ++ ['?', '`', '\x7b', '\x7d']

/-- Characters that are escaped when a whole URL is. -/
def urlEscapes : List Char :=
  ['\n', ' ', '"', '<', '>', '\\', '^', '`', '\x7b', '|', '\x7d']

def checkLength (escapes : List Char) (part : Text) (problem : TargetProblem) :
    Except TargetProblem Unit :=
  if TargetProblem.maxLength < (Text.Percent.escape escapes part).length then .error problem
  else .ok ()

/-- The host of the service. -/
def ownHost : Text := "testserver"

/-- A target without a scheme or a host is put together with the ones of the service. Slashes in
front of its path count as one, and its parts may not be too long then either. -/
def atService (t : Target) : Except TargetProblem Target := do
  let path := '/' :: t.path.dropWhile (· = '/')
  checkLength pathEscapes path .longPath
  checkLength queryEscapes t.query .longQuery
  return ⟨"http", ownHost, none, straightPath path, t.query, []⟩

/-- The whole target, which is only asked for by a scheme that is known. -/
def whole (t : Target) : Except Failure Target := do
  if !t.isAbsolute then return ← t.atService.mapError .target
  (Host.check t.host).mapError .target
  if !schemes.contains t.scheme then throw (.shape (.missing (Text.quoted t.scheme)))
  return t

def read (s : Text) : Except Failure Target := (parse s).mapError .target >>= whole

/-- The path that is asked for. It is decoded twice; what is no text then is no path. -/
def pathText? (t : Target) : Option Text :=
  (Text.Percent.decode? (if t.path.isEmpty then ['/'] else t.path)).bind Text.Percent.decode?

/-- The URL of another path at the same place. -/
def location (t : Target) (path : Text) : Text :=
  let port := t.port.elim [] fun n => ':' :: Text.integer n
  let query := if t.query.isEmpty then [] else '?' :: Text.Percent.escape queryEscapes t.query
  Text.Percent.escape urlEscapes (t.scheme ++ "://" ++ t.host ++ port ++ path ++ query)

/-- A target that is asked for at another path is read anew, and its fragment is carried over. -/
def checkMove (t : Target) (path : Text) : Except TargetProblem Unit := do
  let _ ← (parse (t.location path)).mapError .location
  match Text.cutWhere? isUnprintable (Text.Percent.decodeShowing t.fragment) with
  | some (before, c, _) => throw (.fragment c before.length)
  | none => pure ()

end Target
end NfsVolume.Service
