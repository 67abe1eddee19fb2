import TradeJournal.Number.Decimal
import TradeJournal.Number.Fixed
import TradeJournal.Number.Reading
import TradeJournal.Number.Shortest
import TradeJournal.Text.Blank
import TradeJournal.Text.Case
import TradeJournal.Text.Half
import TradeJournal.Text.Hex
import TradeJournal.Text.Letter
import TradeJournal.Text.Lines
import TradeJournal.Text.Quoted
import TradeJournal.Text.Utf8
import TradeJournal.Value
import TradeJournal.Tag
import TradeJournal.Json.Reader
import TradeJournal.Json.Writer
import TradeJournal.Query.Defect
import TradeJournal.Query.Parser
import TradeJournal.Query.Recognition
import TradeJournal.Query.Filter
import TradeJournal.Calendar.Reading
import TradeJournal.Journal
import TradeJournal.Hint
import TradeJournal.Search.Service
import TradeJournal.Report
import TradeJournal.Yaml.Node
import TradeJournal.Yaml.Document
import TradeJournal.Settings
import TradeJournal.Settings.Overlay
import TradeJournal.Path
import TradeJournal.Stamp
import TradeJournal.Host
import TradeJournal.Host.Memory
import TradeJournal.Log
import TradeJournal.Log.Use
import TradeJournal.Settings.File
import TradeJournal.Output
import TradeJournal.Command
import TradeJournal.Main
import TradeJournal.Proofs.Query.Grammar
import TradeJournal.Proofs.Query.Reading
import TradeJournal.Proofs.Query.Neighbours
import TradeJournal.Proofs.Query.Fit
import TradeJournal.Proofs.Search.Outcome
import TradeJournal.Proofs.Query.Scanning
import TradeJournal.Proofs.Query.Rendering
import TradeJournal.Proofs.Query.Meaning
import TradeJournal.Proofs.Search.Meaning
import TradeJournal.Proofs.Number.Order
import TradeJournal.Proofs.Value.Meaning
import TradeJournal.Proofs.Value.Object
import TradeJournal.Proofs.Search.History
import TradeJournal.Proofs.Search.Recency
import TradeJournal.Proofs.Search.Transparency
import TradeJournal.Proofs.Tag.Distinct
import TradeJournal.Proofs.TagIndex.Agreement
import TradeJournal.Proofs.Completion.Preservation
import TradeJournal.Proofs.Query.Composition
import TradeJournal.Proofs.Search.Capacity
import TradeJournal.Proofs.Search.Composition
import TradeJournal.Proofs.Trade.Loading
import TradeJournal.Proofs.TagIndex.Ranking
import TradeJournal.Proofs.TagIndex.Order
import TradeJournal.Proofs.Hint.Order
import TradeJournal.Proofs.Search.Order
import TradeJournal.Proofs.Query.References
import TradeJournal.Proofs.Search.References
import TradeJournal.Proofs.Search.Filter
import TradeJournal.Proofs.View.Alignment
import TradeJournal.Proofs.Json.Decoded
import TradeJournal.Proofs.Journal.Faults
import TradeJournal.Proofs.Settings.Acceptance
import TradeJournal.Proofs.Completion.Validity
import TradeJournal.Proofs.Completion.Ranking
import TradeJournal.Proofs.Search.Dates
import TradeJournal.Proofs.Completion.Placement
import TradeJournal.Proofs.Query.Phrase
import TradeJournal.Proofs.Query.Handmade
import TradeJournal.Proofs.Query.Parentheses
import TradeJournal.Proofs.Search.Positive
import TradeJournal.Proofs.Query.Fault
import TradeJournal.Proofs.Query.Defects
import TradeJournal.Proofs.Text.LetterCase
import TradeJournal.Proofs.Query.LetterCase
import TradeJournal.Proofs.Query.Layout
import TradeJournal.Proofs.Search.LetterCase
import TradeJournal.Proofs.Query.Recognition
import TradeJournal.Proofs.Tag.Check
import TradeJournal.Proofs.Hint.Best
import TradeJournal.Proofs.Number.Overflow
import TradeJournal.Proofs.Hint.Misuse
import TradeJournal.Proofs.Settings.Overlay
import TradeJournal.Proofs.Yaml.Mapping
import TradeJournal.Proofs.Host.Run
import TradeJournal.Proofs.Settings.Defaults
import TradeJournal.Proofs.Number.Digits
import TradeJournal.Proofs.Number.Exact
import TradeJournal.Proofs.Calendar.Numbering
import TradeJournal.Proofs.Calendar.Instant
import TradeJournal.Proofs.Calendar.Spelling
import TradeJournal.Proofs.Text.Bytes
import TradeJournal.Proofs.Json.RoundTrip
import TradeJournal.Proofs.Json.Encoding
import TradeJournal.Proofs.Host.Memory
import TradeJournal.Proofs.Log.Delivery
import TradeJournal.Proofs.View.Report
import TradeJournal.Proofs.Output.Report
import TradeJournal.Proofs.Log.Completeness
import TradeJournal.Proofs.Log.Use
import TradeJournal.Proofs.Query.Malformed
import TradeJournal.Proofs.Tag.Spelling
import TradeJournal.Proofs.Tag.Cleaning
import TradeJournal.Proofs.Command.Run
