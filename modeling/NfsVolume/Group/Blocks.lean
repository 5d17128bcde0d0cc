import NfsVolume.Group.Range

/-!
Blocks of group ids in one text, with commas between them: `start/size`, or `start-end`.
-/
namespace NfsVolume.Group

/-- The range of a block without blanks around it. -/
def rangeOfBlock (block : RawText) : Except Failure GroupRange :=
  match Text.cut? (.char '/') block, Text.cut? (.char '-') block with
  | some (startText, sizeText), _ => do
    let start ← integer startText
    let size ← integer sizeText
    if size < 1 then .error (.value (.emptyBlock block)) else .ok ⟨start, start + size - 1⟩
  | none, some (startText, endText) => do
    let start ← integer startText
    let stop ← integer endText
    if stop < start then .error (.value (.reversedBlock block)) else .ok ⟨start, stop⟩
  | none, none => .error (.value (.unknownBlock block))

/-- The ranges of the blocks in order, from pieces of which the blank ones count for nothing. -/
def rangesOfPieces : List RawText → Except Failure (List GroupRange)
  | [] => .ok []
  | piece :: rest =>
    if piece.strip.isEmpty then rangesOfPieces rest
    else do
      let range ← rangeOfBlock piece.strip
      return range :: (← rangesOfPieces rest)

def parseBlocks (text : RawText) : Except Failure (List GroupRange) :=
  rangesOfPieces (Text.splitOn (.char ',') text)

def parseBlocksValue (v : Json) : Except Failure (List GroupRange) :=
  match v with
  | .text s => parseBlocks s
  | _ => .error (.shape (.noOperation v.kind "split"))

end NfsVolume.Group
