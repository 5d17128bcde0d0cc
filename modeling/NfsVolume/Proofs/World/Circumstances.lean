import NfsVolume.World.Outside

/-! What the outside brings to a call: anything but the files and the count of the ledger, which
only calls change. -/
namespace NfsVolume

structure Circumstances where
  environment : List (Text × Text)
  faults : List Fault
  replies : List (Text × List Reply)
  commands : List (Text × List CommandResult)
  otherReply : Reply
  otherResult : CommandResult
  freeBlocks : Int
  blockSize : Int
  draws : List Int

/-- Circumstances without faults, in which the cluster does not reply and every command comes to
the same. -/
def Circumstances.answering (result : CommandResult) : Circumstances where
  environment := []
  faults := []
  replies := []
  commands := []
  otherReply := .timedOut
  otherResult := result
  freeBlocks := 1
  blockSize := 1
  draws := []

/-- What the next run of a program comes to. -/
def Circumstances.resultOf (c : Circumstances) (program : Text) : CommandResult :=
  ((Outside.take? program c.commands).1).getD c.otherResult

/-- A world with some files, in which nothing has happened yet. -/
def World.ofFiles (files : FileTree) : World where
  files := files
  environment := []
  settingsPath := ['s']
  faults := []
  replies := []
  commands := []
  otherReply := .timedOut
  otherResult := .finished 0 [] []
  freeBlocks := 1
  blockSize := 1
  draws := []
  lastExportId := 0
  events := []
  log := []

/-- The world in which the next call is made. -/
def World.meeting (w : World) (c : Circumstances) : World :=
  { w with
    environment := c.environment
    faults := c.faults
    replies := c.replies
    commands := c.commands
    otherReply := c.otherReply
    otherResult := c.otherResult
    freeBlocks := c.freeBlocks
    blockSize := c.blockSize
    draws := c.draws }

@[simp]
theorem World.meeting_files (w : World) (c : Circumstances) : (w.meeting c).files = w.files := rfl

@[simp]
theorem World.meeting_lastExportId (w : World) (c : Circumstances) :
    (w.meeting c).lastExportId = w.lastExportId := rfl

end NfsVolume
