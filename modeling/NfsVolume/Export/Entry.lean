import NfsVolume.Text.Integer

/-!
Entries of export files: a line for the file server of the kernel, a block for ganesha. A block
carries an export id, and the ids in a file are found by the text before and behind them.
-/
namespace NfsVolume.Export

/-- The text before an id and the text behind it. -/
def idLabel : Text := "Export_Id = "
def idEnd : Char := ';'

def kernelLine (path : Text) : Text := "\n" ++ path ++ " *(rw,insecure,root_squash)\n"

def ganeshaBlock (id : Int) (path : Text) : Text :=
  "\nEXPORT\n\x7b\n" ++
    "\t" ++ idLabel ++ Text.integer id ++ ";\n" ++
    "\tPath = " ++ path ++ ";\n" ++
    "\tPseudo = " ++ path ++ ";\n" ++
    "\tAccess_Type = RW;\n" ++
    "\tSquash = root_id_squash;\n" ++
    "\tSecType = sys;\n" ++
    "\tFilesystem_id = " ++ Text.integer id ++ "." ++ Text.integer id ++ ";\n" ++
    "\tFSAL \x7b\n\t\tName = VFS;\n\t\x7d\n" ++
    "\x7d\n"

/-- The digits of the id with which a text begins, label and end included. -/
def idHere? (text : Text) : Option Text :=
  match Text.after? idLabel text with
  | none => none
  | some rest =>
    let digits := rest.takeWhile Char.isDigit
    if !digits.isEmpty && (rest.dropWhile Char.isDigit).head? = some idEnd then some digits else none

/-- The digits of all ids in a text, wherever they stand. -/
def idsIn : Text → List Text
  | [] => []
  | c :: rest =>
    match idHere? (c :: rest) with
    | some digits => digits :: idsIn rest
    | none => idsIn rest

def idValue (digits : Text) : Except Text.Integer.ReadError Nat :=
  if Text.Integer.maxDigits < digits.length then .error (.tooManyDigits digits.length)
  else .ok (Nat.ofDigitChars 10 digits 0)

/-- The greatest id in a list, or the given one if it is greater. -/
def greatest : Nat → List Text → Except Text.Integer.ReadError Nat
  | best, [] => .ok best
  | best, digits :: rest => do
    let id ← idValue digits
    greatest (max best id) rest

/-- The greatest id in a text, or zero if there is none. -/
def lastId (text : Text) : Except Text.Integer.ReadError Nat := greatest 0 (idsIn text)

end NfsVolume.Export
