import PdfDisplay.CharMap
import PdfDisplay.CommandLine.Arguments
import PdfDisplay.CommandLine.Rows
import PdfDisplay.CommandLine.Session
import PdfDisplay.DisplayList
import PdfDisplay.Document.Basic
import PdfDisplay.Document.File
import PdfDisplay.Document.Pages
import PdfDisplay.Document.Value
import PdfDisplay.Encoding
import PdfDisplay.Entries
import PdfDisplay.Failure
import PdfDisplay.Filter
import PdfDisplay.Filter.Ascii85
import PdfDisplay.Flate.Bits
import PdfDisplay.Flate.Code
import PdfDisplay.Flate.Inflate
import PdfDisplay.Flate.Salvage
import PdfDisplay.Font.Basic
import PdfDisplay.Font.Cache
import PdfDisplay.Font.Program
import PdfDisplay.Font.Registry
import PdfDisplay.Font.Resolution
import PdfDisplay.Geometry
import PdfDisplay.GlyphName
import PdfDisplay.Graphics.Instruction
import PdfDisplay.Graphics.Layout
import PdfDisplay.Graphics.Machine
import PdfDisplay.Graphics.State
import PdfDisplay.Graphics.TextState
import PdfDisplay.Image.Basic
import PdfDisplay.Image.Jpeg
import PdfDisplay.Json.Basic
import PdfDisplay.Json.Form
import PdfDisplay.Json.Reader
import PdfDisplay.Json.Shape
import PdfDisplay.Main
import PdfDisplay.Number.Binary
import PdfDisplay.Number.Decimal
import PdfDisplay.Number.Digits
import PdfDisplay.Number.Word
import PdfDisplay.Object.Basic
import PdfDisplay.Object.Listing
import PdfDisplay.Object.Reader
import PdfDisplay.Options
import PdfDisplay.Page.Content
import PdfDisplay.Page.Rendering
import PdfDisplay.Page.Resources
import PdfDisplay.PageSelection
import PdfDisplay.Painting
import PdfDisplay.Path
import PdfDisplay.Proofs.CharMap.CodeSpaces
import PdfDisplay.Proofs.CharMap.Entries
import PdfDisplay.Proofs.CharMap.Lists
import PdfDisplay.Proofs.CharMap.Meaning
import PdfDisplay.Proofs.CharMap.Table
import PdfDisplay.Proofs.CharMap.Texts
import PdfDisplay.Proofs.CommandLine.Pages
import PdfDisplay.Proofs.CommandLine.Printing
import PdfDisplay.Proofs.Document.Contents
import PdfDisplay.Proofs.Document.RoundTrip
import PdfDisplay.Proofs.Encoding.Differences
import PdfDisplay.Proofs.Encoding.GlyphNames
import PdfDisplay.Proofs.Font.Accounts
import PdfDisplay.Proofs.Font.CodeLengths
import PdfDisplay.Proofs.Font.Codes
import PdfDisplay.Proofs.Font.Completeness
import PdfDisplay.Proofs.Font.DefaultWidths
import PdfDisplay.Proofs.Font.Indirection
import PdfDisplay.Proofs.Font.Registrations
import PdfDisplay.Proofs.Font.Relocation
import PdfDisplay.Proofs.Font.Simulation
import PdfDisplay.Proofs.Font.Texts
import PdfDisplay.Proofs.Font.WidthTables
import PdfDisplay.Proofs.Graphics.Asides
import PdfDisplay.Proofs.Graphics.Changes
import PdfDisplay.Proofs.Graphics.Constructions
import PdfDisplay.Proofs.Graphics.Drawing
import PdfDisplay.Proofs.Graphics.Erasing
import PdfDisplay.Proofs.Graphics.Growing
import PdfDisplay.Proofs.Graphics.Images
import PdfDisplay.Proofs.Graphics.Lockstep
import PdfDisplay.Proofs.Graphics.Operands
import PdfDisplay.Proofs.Graphics.Operators
import PdfDisplay.Proofs.Graphics.PaintedPaths
import PdfDisplay.Proofs.Graphics.Renumbering
import PdfDisplay.Proofs.Graphics.Reporting
import PdfDisplay.Proofs.Graphics.Saving
import PdfDisplay.Proofs.Graphics.Showing
import PdfDisplay.Proofs.Graphics.Simulation
import PdfDisplay.Proofs.Graphics.Splitting
import PdfDisplay.Proofs.Graphics.Trace
import PdfDisplay.Proofs.Image.Counting
import PdfDisplay.Proofs.Image.Decoded
import PdfDisplay.Proofs.Image.Lengths
import PdfDisplay.Proofs.Image.Pixels
import PdfDisplay.Proofs.Json.RoundTrip
import PdfDisplay.Proofs.Lists
import PdfDisplay.Proofs.Number.Exact
import PdfDisplay.Proofs.Object.Agreement
import PdfDisplay.Proofs.Object.Balance
import PdfDisplay.Proofs.Object.Damage
import PdfDisplay.Proofs.Object.Dictionaries
import PdfDisplay.Proofs.Object.Fragments
import PdfDisplay.Proofs.Object.Keys
import PdfDisplay.Proofs.Object.Nesting
import PdfDisplay.Proofs.Object.Reading
import PdfDisplay.Proofs.Page.Diagnostics
import PdfDisplay.Proofs.Page.Fonts
import PdfDisplay.Proofs.Page.Limits
import PdfDisplay.Proofs.Page.Preloading
import PdfDisplay.Proofs.Page.Resources
import PdfDisplay.Proofs.Page.Selection
import PdfDisplay.Proofs.Page.Simulation
import PdfDisplay.Proofs.Page.Texts
import PdfDisplay.Proofs.Path.Construction
import PdfDisplay.Proofs.Path.Subpaths
import PdfDisplay.Proofs.Store.Comparison
import PdfDisplay.Proofs.Store.Decoding
import PdfDisplay.Proofs.Store.Outcome
import PdfDisplay.Proofs.Store.Remembering
import PdfDisplay.Proofs.Store.Reports
import PdfDisplay.Proofs.Store.Simulation
import PdfDisplay.Proofs.Syntax.Appending
import PdfDisplay.Proofs.Syntax.Cutting
import PdfDisplay.Proofs.Syntax.Depth
import PdfDisplay.Proofs.Syntax.Framing
import PdfDisplay.Proofs.Syntax.Joining
import PdfDisplay.Proofs.Syntax.Progress
import PdfDisplay.Proofs.Syntax.RoundTrip
import PdfDisplay.Proofs.Syntax.Scanning
import PdfDisplay.Proofs.Syntax.Searching
import PdfDisplay.Proofs.Syntax.Spelling
import PdfDisplay.Proofs.Syntax.Steps
import PdfDisplay.Proofs.Syntax.Strings
import PdfDisplay.Proofs.Syntax.Stubs
import PdfDisplay.Proofs.Syntax.Suffix
import PdfDisplay.Proofs.Syntax.Writing
import PdfDisplay.Proofs.Termination
import PdfDisplay.Proofs.Text.Boundaries
import PdfDisplay.Proofs.Text.Utf8
import PdfDisplay.Raster
import PdfDisplay.Store.Basic
import PdfDisplay.Store.Memo
import PdfDisplay.Syntax.Byte
import PdfDisplay.Syntax.InlineImage
import PdfDisplay.Syntax.Lexeme
import PdfDisplay.Syntax.Operand
import PdfDisplay.Syntax.Operator
import PdfDisplay.Text.Blank
import PdfDisplay.Text.Hex
import PdfDisplay.Text.Normal
import PdfDisplay.Text.Normal.Canonical
import PdfDisplay.Text.Normal.Compatibility
import PdfDisplay.Text.Normal.Composition
import PdfDisplay.Text.Quoted
import PdfDisplay.Text.Utf16
import PdfDisplay.Text.Utf8
import PdfDisplay.Warning
import PdfDisplay.WidthTable
