import NfsVolume.Group.Range
import NfsVolume.World.Outside

/-!
Picking a group id: first one of the ranges, then an id in it, each at random.
-/
namespace NfsVolume.Group

/-- What is wrong with a draw from nothing, as far as the numbers it is about can be written. -/
def emptyDraw (first last : Int) : ValueProblem :=
  if [first, last + 1, last + 1 - first].any Text.Integer.tooLong then .unwritable
  else .emptyDraw first last

/-- A random number from `first` up to `last`. -/
def drawBetween (first last : Int) : Run Int :=
  if last < first then throw (.value (emptyDraw first last))
  else do return first + (← Outside.drawBelow (last - first + 1))

def pickGroup (ranges : List GroupRange) : Run Int :=
  match ranges with
  | [] => throw (.provisioning .noGroups)
  | first :: rest => do
    let index ← Outside.drawBelow (first :: rest).length
    let chosen := (first :: rest).getD index.toNat first
    drawBetween chosen.min chosen.max

end NfsVolume.Group
