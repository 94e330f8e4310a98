import Stencil.Asset.Catalog
import Stencil.Asset.Failure
import Stencil.Asset.Locator
import Stencil.Asset.Pool
import Stencil.Awk.Basic
import Stencil.Awk.Reader
import Stencil.Awk.Run
import Stencil.Awk.Token
import Stencil.Awk.Value
import Stencil.Command.Failure
import Stencil.Command.Host
import Stencil.Command.Invocation
import Stencil.Command.Machine
import Stencil.Command.Options
import Stencil.Command.Run
import Stencil.Convert.Format
import Stencil.Convert.Office
import Stencil.Convert.Scripted
import Stencil.Files.Path
import Stencil.Files.Tree
import Stencil.Host.Address
import Stencil.Host.Direction
import Stencil.Host.Joining
import Stencil.Host.Mapping
import Stencil.Host.Name
import Stencil.Host.Punycode
import Stencil.Image.Drawing
import Stencil.Image.Format
import Stencil.Instances
import Stencil.Json.Basic
import Stencil.Json.Printer
import Stencil.Json.Reader
import Stencil.Main
import Stencil.Markup.Element
import Stencil.Markup.Escape
import Stencil.Number.Binary64
import Stencil.Number.Shortest
import Stencil.Package.ContentTypes
import Stencil.Package.Document
import Stencil.Package.PartName
import Stencil.Package.Relationships
import Stencil.Payload
import Stencil.Proofs.Asset.Pool
import Stencil.Proofs.Command.Rendering
import Stencil.Proofs.Command.Steps
import Stencil.Proofs.Files.Tree
import Stencil.Proofs.Image.Numbers
import Stencil.Proofs.Markup.Attribute
import Stencil.Proofs.Markup.Elements
import Stencil.Proofs.Markup.Escape
import Stencil.Proofs.Markup.Groups
import Stencil.Proofs.Markup.Nesting
import Stencil.Proofs.Markup.Seen
import Stencil.Proofs.Markup.Values
import Stencil.Proofs.Package.ContentTypes
import Stencil.Proofs.Package.Document
import Stencil.Proofs.Package.Edits
import Stencil.Proofs.Package.Extension
import Stencil.Proofs.Package.PartName
import Stencil.Proofs.Package.Reading
import Stencil.Proofs.Package.Relationships
import Stencil.Proofs.Package.Repack
import Stencil.Proofs.Package.Rooted
import Stencil.Proofs.Report.Account
import Stencil.Proofs.Report.Attributes
import Stencil.Proofs.Report.Course
import Stencil.Proofs.Report.DeclaredFormats
import Stencil.Proofs.Report.Draft
import Stencil.Proofs.Report.DrawingNumbers
import Stencil.Proofs.Report.Embedding
import Stencil.Proofs.Report.Filling
import Stencil.Proofs.Report.Finished
import Stencil.Proofs.Report.Frame
import Stencil.Proofs.Report.FreeNumbers
import Stencil.Proofs.Report.Influence
import Stencil.Proofs.Report.Insertion
import Stencil.Proofs.Report.Inspection
import Stencil.Proofs.Report.KeptRelationships
import Stencil.Proofs.Report.Linking
import Stencil.Proofs.Report.Lockstep
import Stencil.Proofs.Report.Nesting
import Stencil.Proofs.Report.Outages
import Stencil.Proofs.Report.Packing
import Stencil.Proofs.Report.Placement
import Stencil.Proofs.Report.Plan
import Stencil.Proofs.Report.RawTexts
import Stencil.Proofs.Report.Reasons
import Stencil.Proofs.Report.Retexting
import Stencil.Proofs.Report.SeenTags
import Stencil.Proofs.Report.Shapes
import Stencil.Proofs.Report.Spelling
import Stencil.Proofs.Report.Splice
import Stencil.Proofs.Report.Strict
import Stencil.Proofs.Scan.Braces
import Stencil.Proofs.Scan.Grammar
import Stencil.Proofs.Scan.Insertion
import Stencil.Proofs.Scan.Nesting
import Stencil.Proofs.Scan.Openers
import Stencil.Proofs.Scan.Order
import Stencil.Proofs.Scan.Partition
import Stencil.Proofs.Scan.Spans
import Stencil.Proofs.Scan.Spelling
import Stencil.Proofs.Scan.Splice
import Stencil.Proofs.Settings.Layers
import Stencil.Proofs.Tag.Display
import Stencil.Proofs.Text.Occurrences
import Stencil.Proofs.Text.Search
import Stencil.Proofs.Text.Split
import Stencil.Proofs.Text.Utf8
import Stencil.Proofs.Zip.Bounds
import Stencil.Proofs.Zip.Container
import Stencil.Proofs.Zip.EndRecord
import Stencil.Proofs.Zip.Entry
import Stencil.Proofs.Zip.ExtraField
import Stencil.Proofs.Zip.Field
import Stencil.Proofs.Zip.Names
import Stencil.Proofs.Zip.Record
import Stencil.Regex.Basic
import Stencil.Regex.CharacterSet
import Stencil.Regex.Reader
import Stencil.Report.Embedding
import Stencil.Report.Inspection
import Stencil.Report.Options
import Stencil.Report.Plan
import Stencil.Report.Render
import Stencil.Report.RenderError
import Stencil.Report.Warning
import Stencil.Scan
import Stencil.Settings.Basic
import Stencil.Settings.File
import Stencil.Settings.Layers
import Stencil.Shell.Arithmetic
import Stencil.Shell.Builtin
import Stencil.Shell.ByteText
import Stencil.Shell.Cursor
import Stencil.Shell.Expansion
import Stencil.Shell.Launch
import Stencil.Shell.Pattern
import Stencil.Shell.Process
import Stencil.Shell.Program
import Stencil.Shell.Reader
import Stencil.Shell.Redirect
import Stencil.Shell.Run
import Stencil.Shell.Script
import Stencil.Shell.State
import Stencil.Shell.Token
import Stencil.Tag
import Stencil.Text.Alphabetic
import Stencil.Text.Basic
import Stencil.Text.Classes
import Stencil.Text.CombiningClass
import Stencil.Text.Composition
import Stencil.Text.Mark
import Stencil.Text.Ranges
import Stencil.Text.Utf8
import Stencil.Utility.Basic
import Stencil.Utility.Catalog
import Stencil.Utility.Directive
import Stencil.Utility.Dump
import Stencil.Utility.Edit
import Stencil.Utility.Editor
import Stencil.Utility.Files
import Stencil.Utility.Find
import Stencil.Utility.Identity
import Stencil.Utility.Lines
import Stencil.Utility.Order
import Stencil.Utility.Output
import Stencil.Utility.Question
import Stencil.Utility.Real
import Stencil.Utility.Search
import Stencil.Yaml.Basic
import Stencil.Yaml.Character
import Stencil.Yaml.Document
import Stencil.Yaml.Event
import Stencil.Yaml.Printer
import Stencil.Yaml.Scalar
import Stencil.Yaml.Tag
import Stencil.Yaml.Token
import Stencil.Zip.Bits
import Stencil.Zip.Bzip2
import Stencil.Zip.Checksum
import Stencil.Zip.Code
import Stencil.Zip.Copy
import Stencil.Zip.Deflate
import Stencil.Zip.Digest
import Stencil.Zip.Directory
import Stencil.Zip.Draft
import Stencil.Zip.EndRecord
import Stencil.Zip.Entry
import Stencil.Zip.ExtraField
import Stencil.Zip.Field
import Stencil.Zip.Lzma
import Stencil.Zip.Record
import Stencil.Zip.Timestamp
import Stencil.Zip.Xz
import Stencil.Zip.Zstandard.Frame
import Stencil.Zip.Zstandard.Fse
import Stencil.Zip.Zstandard.Literals
import Stencil.Zip.Zstandard.Sequences
