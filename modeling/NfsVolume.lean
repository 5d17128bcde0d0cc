import NfsVolume.Cluster
import NfsVolume.CommandLine.Arguments
import NfsVolume.CommandLine.Basic
import NfsVolume.CommandLine.Level
import NfsVolume.Domain.Composed
import NfsVolume.Domain.Context
import NfsVolume.Domain.Direction
import NfsVolume.Domain.Label
import NfsVolume.Domain.Letter
import NfsVolume.Domain.Mark
import NfsVolume.Domain.Name
import NfsVolume.Domain.Punycode
import NfsVolume.Export.Backend
import NfsVolume.Export.Entry
import NfsVolume.Export.Ledger
import NfsVolume.Failure.Basic
import NfsVolume.Failure.Overflow
import NfsVolume.Failure.Provisioning
import NfsVolume.Failure.Settings
import NfsVolume.Failure.Shape
import NfsVolume.Failure.Target
import NfsVolume.Failure.Template
import NfsVolume.Failure.Value
import NfsVolume.Group.Annotation
import NfsVolume.Group.Blocks
import NfsVolume.Group.Pick
import NfsVolume.Group.Policy
import NfsVolume.Group.Range
import NfsVolume.Group.Resolve
import NfsVolume.Json.Access
import NfsVolume.Json.Basic
import NfsVolume.Json.Binary64
import NfsVolume.Json.Content
import NfsVolume.Json.Places
import NfsVolume.Json.Reader
import NfsVolume.Json.Writer
import NfsVolume.Main
import NfsVolume.Proofs.Cluster
import NfsVolume.Proofs.CommandLine
import NfsVolume.Proofs.CommandLine.Create
import NfsVolume.Proofs.Export.Append
import NfsVolume.Proofs.Export.Backend
import NfsVolume.Proofs.Export.Clear
import NfsVolume.Proofs.Export.Entry
import NfsVolume.Proofs.Export.History
import NfsVolume.Proofs.Export.Identity
import NfsVolume.Proofs.Export.Ledger
import NfsVolume.Proofs.Export.Recovery
import NfsVolume.Proofs.Export.Removal
import NfsVolume.Proofs.Export.Restart
import NfsVolume.Proofs.Export.Rewriting
import NfsVolume.Proofs.Export.Rollback
import NfsVolume.Proofs.Group
import NfsVolume.Proofs.Group.Annotation
import NfsVolume.Proofs.Group.Blocks
import NfsVolume.Proofs.Group.Entries
import NfsVolume.Proofs.Group.Imposed
import NfsVolume.Proofs.Group.Pick
import NfsVolume.Proofs.Group.PodFile
import NfsVolume.Proofs.Group.Resolve
import NfsVolume.Proofs.Group.Sources
import NfsVolume.Proofs.Json
import NfsVolume.Proofs.Lookup
import NfsVolume.Proofs.Provisioner
import NfsVolume.Proofs.Provisioner.Assigned
import NfsVolume.Proofs.Provisioner.Failure
import NfsVolume.Proofs.Provisioner.Forward
import NfsVolume.Proofs.Provisioner.Groups
import NfsVolume.Proofs.Provisioner.Ids
import NfsVolume.Proofs.Provisioner.Order
import NfsVolume.Proofs.Provisioner.Removal
import NfsVolume.Proofs.Provisioner.Result
import NfsVolume.Proofs.Provisioner.Runs
import NfsVolume.Proofs.Provisioner.Stray
import NfsVolume.Proofs.Server
import NfsVolume.Proofs.Server.Endpoints
import NfsVolume.Proofs.Server.Usable
import NfsVolume.Proofs.Service
import NfsVolume.Proofs.Service.Agreement
import NfsVolume.Proofs.Service.Answer
import NfsVolume.Proofs.Service.Body
import NfsVolume.Proofs.Service.Refusal
import NfsVolume.Proofs.Service.Session
import NfsVolume.Proofs.Settings.Ini
import NfsVolume.Proofs.Settings.Load
import NfsVolume.Proofs.Settings.Reference
import NfsVolume.Proofs.Text.Case
import NfsVolume.Proofs.Text.Integer
import NfsVolume.Proofs.Text.Lines
import NfsVolume.Proofs.Text.Numeral
import NfsVolume.Proofs.Text.Occurrence
import NfsVolume.Proofs.Text.Pages
import NfsVolume.Proofs.Text.Split
import NfsVolume.Proofs.Text.Strip
import NfsVolume.Proofs.Text.Utf8
import NfsVolume.Proofs.Volume.Allocation
import NfsVolume.Proofs.Volume.Capacity
import NfsVolume.Proofs.Volume.Directory
import NfsVolume.Proofs.Volume.Growth
import NfsVolume.Proofs.Volume.Manifest
import NfsVolume.Proofs.Volume.Name
import NfsVolume.Proofs.World.Circumstances
import NfsVolume.Proofs.World.Draws
import NfsVolume.Proofs.World.Events
import NfsVolume.Proofs.World.FileTree
import NfsVolume.Proofs.World.Files
import NfsVolume.Proofs.World.Frame
import NfsVolume.Proofs.World.Outside
import NfsVolume.Proofs.World.Path
import NfsVolume.Proofs.World.Raises
import NfsVolume.Proofs.World.Run
import NfsVolume.Provisioner
import NfsVolume.Server
import NfsVolume.Service.Basic
import NfsVolume.Service.Body
import NfsVolume.Service.Host
import NfsVolume.Service.Launch
import NfsVolume.Service.Number
import NfsVolume.Service.Options
import NfsVolume.Service.Target
import NfsVolume.Settings.Basic
import NfsVolume.Settings.Ini
import NfsVolume.Settings.Load
import NfsVolume.Settings.Pages
import NfsVolume.Settings.Reference
import NfsVolume.Text.Ascii
import NfsVolume.Text.Basic
import NfsVolume.Text.Blank
import NfsVolume.Text.Case
import NfsVolume.Text.Cased
import NfsVolume.Text.Digit
import NfsVolume.Text.Integer
import NfsVolume.Text.Newline
import NfsVolume.Text.Percent
import NfsVolume.Text.Printable
import NfsVolume.Text.Quoted
import NfsVolume.Text.Raw
import NfsVolume.Text.Replace
import NfsVolume.Text.Units
import NfsVolume.Text.Utf8
import NfsVolume.Text.Wide
import NfsVolume.Volume.Capacity
import NfsVolume.Volume.Directory
import NfsVolume.Volume.Manifest
import NfsVolume.Volume.Name
import NfsVolume.Volume.Request
import NfsVolume.World.Basic
import NfsVolume.World.Errno
import NfsVolume.World.FileTree
import NfsVolume.World.Files
import NfsVolume.World.Outside
import NfsVolume.World.Path
