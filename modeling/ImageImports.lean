import ImageImports.Batch
import ImageImports.Bytes
import ImageImports.Calendar
import ImageImports.Calendar.Instant
import ImageImports.Command.Request
import ImageImports.Command.Run
import ImageImports.Command.Words
import ImageImports.Console.Cells
import ImageImports.Console.Display
import ImageImports.Console.Flow
import ImageImports.Console.Literal
import ImageImports.Console.Markup
import ImageImports.Console.Picture
import ImageImports.Console.Rule
import ImageImports.Console.Screen
import ImageImports.Console.Style
import ImageImports.Console.Table
import ImageImports.Console.Tree
import ImageImports.Decimal.Binary
import ImageImports.Decimal.Fixed
import ImageImports.Decimal.Reading
import ImageImports.Decimal.Scientific
import ImageImports.Decimal.Shortest
import ImageImports.Digest.Block
import ImageImports.Digest.Md5
import ImageImports.Digest.Sha256
import ImageImports.Directory
import ImageImports.Files
import ImageImports.Files.Saving
import ImageImports.Finding
import ImageImports.Image
import ImageImports.Image.Diagnosis
import ImageImports.Image.Dissection
import ImageImports.Image.Header
import ImageImports.Image.Stored
import ImageImports.Import.Directory
import ImageImports.Import.Limits
import ImageImports.Import.Table
import ImageImports.Inspection
import ImageImports.Json
import ImageImports.Json.Display
import ImageImports.Json.Printer
import ImageImports.Json.Reader
import ImageImports.Log
import ImageImports.Log.Journal
import ImageImports.Log.Template
import ImageImports.Main
import ImageImports.PathName
import ImageImports.Pattern
import ImageImports.Pattern.Character
import ImageImports.Pattern.Matcher
import ImageImports.Pattern.Parser
import ImageImports.Pattern.Syntax
import ImageImports.Query
import ImageImports.Reader
import ImageImports.Report.Block
import ImageImports.Report.Record
import ImageImports.Report.Text
import ImageImports.Scan
import ImageImports.Schema
import ImageImports.Section
import ImageImports.Settings
import ImageImports.Settings.File
import ImageImports.Source
import ImageImports.Text
import ImageImports.Text.Quoted
import ImageImports.Text.Utf8
import ImageImports.Toml.Document
import ImageImports.Toml.Fault
import ImageImports.Toml.Parser
import ImageImports.Toml.Record
import ImageImports.Toml.Value
import ImageImports.Unicode.Case
import ImageImports.Unicode.CharacterName
import ImageImports.Unicode.CharacterName.Ancient
import ImageImports.Unicode.CharacterName.Eastern
import ImageImports.Unicode.CharacterName.Forms
import ImageImports.Unicode.CharacterName.Marks
import ImageImports.Unicode.CharacterName.Notation
import ImageImports.Unicode.CharacterName.Pictures
import ImageImports.Unicode.CharacterName.Shapes
import ImageImports.Unicode.CharacterName.Southern
import ImageImports.Unicode.CharacterName.Western
import ImageImports.Unicode.Name
import ImageImports.Unicode.Printable
import ImageImports.Unicode.Ranges
import ImageImports.Unicode.Width
import ImageImports.Unicode.Word
import ImageImports.Proofs.Import.Aborted
import ImageImports.Proofs.Import.Bounded
import ImageImports.Proofs.Import.Mapped
import ImageImports.Proofs.Import.Raised
import ImageImports.Proofs.Import.Rearranged
import ImageImports.Proofs.Log.Context
import ImageImports.Proofs.Command.Inquiry
import ImageImports.Proofs.Command.Options
import ImageImports.Proofs.Command.Record
import ImageImports.Proofs.Command.Run
import ImageImports.Proofs.Image.Accepted
import ImageImports.Proofs.Image.Chunks
import ImageImports.Proofs.Image.RoundTrip
import ImageImports.Proofs.Image.Appended
import ImageImports.Proofs.Image.Undeclared
import ImageImports.Proofs.Inspection.Isolation
import ImageImports.Proofs.Inspection.Kept
import ImageImports.Proofs.Inspection.Told
import ImageImports.Proofs.Import.Told
import ImageImports.Proofs.Json.Reading
import ImageImports.Proofs.Lines
import ImageImports.Proofs.Report.Layout
import ImageImports.Proofs.Report.Record
import ImageImports.Proofs.Section.Overlap
import ImageImports.Proofs.Source
import ImageImports.Proofs.Text
import ImageImports.Proofs.Wording
import ImageImports.Proofs.Import.Warned
import ImageImports.Proofs.Pattern.Repetition
import ImageImports.Proofs.Query.Search
import ImageImports.Proofs.Query.Unrestricted
import ImageImports.Proofs.Inspection.Diagnosed
import ImageImports.Proofs.Console.Absence
import ImageImports.Proofs.Image.Repeated
import ImageImports.Proofs.Import.Thunk
import ImageImports.Proofs.Report.Columns
import ImageImports.Proofs.Scan
