import ParcelRecords.Appraiser.Page
import ParcelRecords.Binary64.Basic
import ParcelRecords.Binary64.Text
import ParcelRecords.CommandLine.Arguments
import ParcelRecords.CommandLine.Run
import ParcelRecords.Delimited.Basic
import ParcelRecords.Delimited.Reader
import ParcelRecords.Entry.Basic
import ParcelRecords.Entry.Problem
import ParcelRecords.Entry.Reader
import ParcelRecords.Entry.Shortfall
import ParcelRecords.Extraction.Basic
import ParcelRecords.Form.Control
import ParcelRecords.Json.Basic
import ParcelRecords.Json.Finite
import ParcelRecords.Json.Printer
import ParcelRecords.Json.Reader
import ParcelRecords.Json.Text
import ParcelRecords.Json.Writable
import ParcelRecords.Main
import ParcelRecords.Markup.Basic
import ParcelRecords.Markup.Event
import ParcelRecords.Markup.Focus
import ParcelRecords.Markup.Names
import ParcelRecords.Markup.Reference
import ParcelRecords.Markup.Tree
import ParcelRecords.OrderedMap
import ParcelRecords.Proofs.Appraiser.PropertySection
import ParcelRecords.Proofs.Appraiser.TaxSection
import ParcelRecords.Proofs.Binary64.Digits
import ParcelRecords.Proofs.Binary64.Nearest
import ParcelRecords.Proofs.CommandLine.Delivery
import ParcelRecords.Proofs.CommandLine.History
import ParcelRecords.Proofs.CommandLine.PageCommand
import ParcelRecords.Proofs.Delimited.RoundTrip
import ParcelRecords.Proofs.Delimited.Splitting
import ParcelRecords.Proofs.Entry.Alike
import ParcelRecords.Proofs.Entry.Refusal
import ParcelRecords.Proofs.Entry.Spelling
import ParcelRecords.Proofs.Extraction.Columns
import ParcelRecords.Proofs.Extraction.Composition
import ParcelRecords.Proofs.Extraction.Containment
import ParcelRecords.Proofs.Extraction.Precedence
import ParcelRecords.Proofs.Extraction.Remarks
import ParcelRecords.Proofs.Extraction.Run
import ParcelRecords.Proofs.Extraction.Spelling
import ParcelRecords.Proofs.Extraction.Values
import ParcelRecords.Proofs.Form.RadioGroups
import ParcelRecords.Proofs.Json.Number
import ParcelRecords.Proofs.Json.Regular
import ParcelRecords.Proofs.Json.RoundTrip
import ParcelRecords.Proofs.Json.Strings
import ParcelRecords.Proofs.Json.Writable
import ParcelRecords.Proofs.Markup.Ancestors
import ParcelRecords.Proofs.Markup.Order
import ParcelRecords.Proofs.OrderedMap.LastWrite
import ParcelRecords.Proofs.OrderedMap.Merge
import ParcelRecords.Proofs.Record.Flatten
import ParcelRecords.Proofs.Record.Leaves
import ParcelRecords.Proofs.Record.Lossless
import ParcelRecords.Proofs.Service.Agreement
import ParcelRecords.Proofs.Service.Answers
import ParcelRecords.Proofs.Service.History
import ParcelRecords.Proofs.Service.SameSheet
import ParcelRecords.Proofs.Service.Sending
import ParcelRecords.Proofs.Sheet.FileNames
import ParcelRecords.Proofs.Sheet.History
import ParcelRecords.Proofs.Sheet.Lines
import ParcelRecords.Proofs.Sheet.Pasting
import ParcelRecords.Proofs.Sheet.Writable
import ParcelRecords.Proofs.Site.Hosts
import ParcelRecords.Proofs.Site.Overlay
import ParcelRecords.Proofs.Site.Records
import ParcelRecords.Proofs.Site.Routing
import ParcelRecords.Proofs.Table.Agreement
import ParcelRecords.Proofs.Table.Completeness
import ParcelRecords.Proofs.Table.Deletion
import ParcelRecords.Proofs.Table.Filtering
import ParcelRecords.Proofs.Table.Labels
import ParcelRecords.Proofs.Table.Location
import ParcelRecords.Proofs.Table.Missing
import ParcelRecords.Proofs.Table.OwnRows
import ParcelRecords.Proofs.Table.Places
import ParcelRecords.Proofs.Table.Reads
import ParcelRecords.Proofs.Table.Texts
import ParcelRecords.Proofs.Table.Views
import ParcelRecords.Proofs.Text.AsciiCase
import ParcelRecords.Proofs.Text.Decimal
import ParcelRecords.Proofs.Text.Ends
import ParcelRecords.Proofs.Text.Lowercase
import ParcelRecords.Proofs.Text.NormalForm
import ParcelRecords.Proofs.Text.Pieces
import ParcelRecords.Proofs.Text.Words
import ParcelRecords.Proofs.Text.Writable
import ParcelRecords.Proofs.Workspace.Files
import ParcelRecords.Record.Basic
import ParcelRecords.Schema.Basic
import ParcelRecords.Selector.Attribute
import ParcelRecords.Selector.Basic
import ParcelRecords.Selector.Match
import ParcelRecords.Selector.Reader
import ParcelRecords.Selector.Standing
import ParcelRecords.Selector.Token
import ParcelRecords.Selector.Word
import ParcelRecords.Service.Basic
import ParcelRecords.Service.Request
import ParcelRecords.Service.Response
import ParcelRecords.Sheet.Basic
import ParcelRecords.Sheet.Folder
import ParcelRecords.Site.BuiltIn
import ParcelRecords.Site.Domain
import ParcelRecords.Site.Registry
import ParcelRecords.Table.Basic
import ParcelRecords.Table.Filter
import ParcelRecords.Table.Grid
import ParcelRecords.Table.Locator
import ParcelRecords.Table.Rows
import ParcelRecords.Text.Blank
import ParcelRecords.Text.CaseTable
import ParcelRecords.Text.CodePoint
import ParcelRecords.Text.Digit
import ParcelRecords.Text.Integer
import ParcelRecords.Text.Lower
import ParcelRecords.Text.Numeral
import ParcelRecords.Text.Printable
import ParcelRecords.Text.Quoted
import ParcelRecords.Text.Search
import ParcelRecords.Text.Upper
import ParcelRecords.Workspace.Basic
import ParcelRecords.Workspace.Path
