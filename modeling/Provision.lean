import Provision.Archive.Bits
import Provision.Archive.Bzip2
import Provision.Archive.Checksum
import Provision.Archive.Deflate
import Provision.Archive.Extract
import Provision.Archive.Lzma
import Provision.Archive.Lzma.Coder
import Provision.Archive.Method
import Provision.Archive.PrefixCode
import Provision.Archive.Xz
import Provision.Archive.Zip
import Provision.Archive.Zip.Ending
import Provision.Archive.Zip.Extra
import Provision.Archive.Zstandard
import Provision.Archive.Zstandard.Entropy
import Provision.Archive.Zstandard.Literals
import Provision.Archive.Zstandard.Sequences
import Provision.Cli.Arguments
import Provision.Cli.Run
import Provision.Config.Basic
import Provision.Config.Load
import Provision.Console
import Provision.Constant
import Provision.Disk.Calls
import Provision.Disk.Image
import Provision.Disk.PathText
import Provision.Disk.Transfer
import Provision.Disk.Tree
import Provision.Disk.Walk
import Provision.Engine.Handling
import Provision.Engine.Run
import Provision.Engine.Session
import Provision.Fault
import Provision.FileName
import Provision.Forest
import Provision.Frame
import Provision.Handlers.Basic
import Provision.Handlers.Commands
import Provision.Handlers.Files
import Provision.Handlers.Profile
import Provision.Handlers.Transfers
import Provision.Json.Parser
import Provision.Json.Printer
import Provision.Json.Value
import Provision.Lock
import Provision.Machine.Basic
import Provision.Machine.Detect
import Provision.Machine.Process
import Provision.Machine.Temporary
import Provision.Main
import Provision.Mirror
import Provision.Placeholder
import Provision.Platform
import Provision.Program
import Provision.Proofs.Archive.Confinement
import Provision.Proofs.Cli.Documented
import Provision.Proofs.Cli.Released
import Provision.Proofs.Config.Clock
import Provision.Proofs.Config.Precedence
import Provision.Proofs.Disk.Draft
import Provision.Proofs.Disk.Ending
import Provision.Proofs.Disk.Growth
import Provision.Proofs.Disk.Moving
import Provision.Proofs.Disk.Region
import Provision.Proofs.Disk.Shape
import Provision.Proofs.Disk.Shelter
import Provision.Proofs.Disk.Spelling
import Provision.Proofs.Disk.Straight
import Provision.Proofs.Disk.Ways
import Provision.Proofs.Engine.Accounting
import Provision.Proofs.Engine.Acts
import Provision.Proofs.Engine.Balance
import Provision.Proofs.Engine.Cleanup
import Provision.Proofs.Engine.Course
import Provision.Proofs.Engine.Depth
import Provision.Proofs.Engine.Draining
import Provision.Proofs.Engine.Evaluation
import Provision.Proofs.Engine.Extraction
import Provision.Proofs.Engine.Flattening
import Provision.Proofs.Engine.Insertion
import Provision.Proofs.Engine.Layers
import Provision.Proofs.Engine.Ledger
import Provision.Proofs.Engine.Moment
import Provision.Proofs.Engine.Nesting
import Provision.Proofs.Engine.Pending
import Provision.Proofs.Engine.Propagation
import Provision.Proofs.Engine.Reporting
import Provision.Proofs.Engine.Scoping
import Provision.Proofs.Engine.Simulation
import Provision.Proofs.Forest.Levels
import Provision.Proofs.Handlers.Failing
import Provision.Proofs.Handlers.Issuing
import Provision.Proofs.Handlers.Quiet
import Provision.Proofs.Handlers.Reentry
import Provision.Proofs.Handlers.SoleOwner
import Provision.Proofs.Handlers.Standard
import Provision.Proofs.Handlers.Tenure
import Provision.Proofs.Handlers.Unpacking
import Provision.Proofs.Json.Printing
import Provision.Proofs.Json.Reading
import Provision.Proofs.Json.Spelling
import Provision.Proofs.Lock.Contest
import Provision.Proofs.Lock.Custody
import Provision.Proofs.Lock.Exclusion
import Provision.Proofs.Machine.Hushed
import Provision.Proofs.Machine.Later
import Provision.Proofs.Machine.Scratch
import Provision.Proofs.Machine.Scripts
import Provision.Proofs.Machine.Temporary
import Provision.Proofs.Machine.Work
import Provision.Proofs.Placeholder.Occurrence
import Provision.Proofs.Placeholder.Replacement
import Provision.Proofs.Placeholder.Substitution
import Provision.Proofs.Recipe.Revision
import Provision.Proofs.Text.Decoding
import Provision.Proofs.Text.Naming
import Provision.Proofs.Toml.Range
import Provision.Recipe.File
import Provision.Registry
import Provision.Report
import Provision.Shell.Arithmetic
import Provision.Shell.Assignment
import Provision.Shell.Braces
import Provision.Shell.Builtin.Control
import Provision.Shell.Builtin.Declaration
import Provision.Shell.Builtin.Input
import Provision.Shell.Builtin.Names
import Provision.Shell.Builtin.Options
import Provision.Shell.Builtin.Parameter
import Provision.Shell.Builtin.Place
import Provision.Shell.Builtin.Table
import Provision.Shell.Call
import Provision.Shell.Choice
import Provision.Shell.Condition
import Provision.Shell.Cursor
import Provision.Shell.Escape
import Provision.Shell.Executable
import Provision.Shell.Expansion
import Provision.Shell.Format
import Provision.Shell.Grammar
import Provision.Shell.Host
import Provision.Shell.Launch
import Provision.Shell.Paths
import Provision.Shell.Pattern
import Provision.Shell.Program
import Provision.Shell.Quoting
import Provision.Shell.Redirect
import Provision.Shell.Regex
import Provision.Shell.Run
import Provision.Shell.Script
import Provision.Shell.Splitting
import Provision.Shell.Start
import Provision.Shell.State
import Provision.Shell.Store
import Provision.Shell.Syntax
import Provision.Shell.Tool.Contents
import Provision.Shell.Tool.Environment
import Provision.Shell.Tool.Files
import Provision.Shell.Tool.Lines
import Provision.Shell.Tool.Names
import Provision.Shell.Tool.Options
import Provision.Shell.Traps
import Provision.Shell.Variable
import Provision.Shell.Word
import Provision.Software
import Provision.Step
import Provision.Text.Calendar
import Provision.Text.CodePage
import Provision.Text.Composition
import Provision.Text.Hidden
import Provision.Text.Numeral
import Provision.Text.Punycode
import Provision.Text.Quoted
import Provision.Text.Real
import Provision.Text.Table
import Provision.Text.Utf8
import Provision.Text.Word
import Provision.Toml.Parser
import Provision.Toml.Scalar
import Provision.Toml.Value
import Provision.Uuid
import Provision.Web.Domain
import Provision.Web.Domain.Direction
import Provision.Web.Domain.Joining
import Provision.Web.Domain.Mapping
import Provision.Web.Host
import Provision.Web.Network
import Provision.Web.Url
import Provision.Proofs.Forest.Closing
import Provision.Proofs.Handlers.Unread
import Provision.Proofs.Handlers.Downloading
import Provision.Proofs.Handlers.Placing
import Provision.Proofs.Disk.Copying
import Provision.Proofs.Placeholder.Raising
import Provision.Proofs.Software.Version
import Provision.Proofs.Disk.Replica
import Provision.Proofs.Web.Framing
import Provision.Proofs.Web.Addressing
