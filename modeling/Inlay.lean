import Inlay.Analyzer.Basic
import Inlay.Analyzer.Remote
import Inlay.Analyzer.Session
import Inlay.Bridge.Basic
import Inlay.Bridge.Pending
import Inlay.Bridge.Session
import Inlay.Bridge.Wire
import Inlay.Catalog
import Inlay.CommandLine
import Inlay.Decimal.Fixed
import Inlay.Decimal.Scaled
import Inlay.Decimal.Shortest
import Inlay.Diagnostic
import Inlay.Document
import Inlay.Domain.Direction
import Inlay.Domain.Joining
import Inlay.Domain.Label
import Inlay.Domain.Mapping
import Inlay.Domain.MappingTable
import Inlay.Domain.Name
import Inlay.Domain.Punycode
import Inlay.Engine
import Inlay.Failure
import Inlay.Interpreter.Basic
import Inlay.Interpreter.Script
import Inlay.Interpreter.Tool
import Inlay.Json.Reader
import Inlay.Json.Value
import Inlay.Json.Writer
import Inlay.LineIndex
import Inlay.Literal
import Inlay.Location
import Inlay.Main
import Inlay.Marker.Basic
import Inlay.Marker.Scan
import Inlay.Occurrence
import Inlay.Position
import Inlay.Proofs.Bridge.Delivery
import Inlay.Proofs.Bridge.Generation
import Inlay.Proofs.Bridge.Loss
import Inlay.Proofs.Bridge.Pending
import Inlay.Proofs.Bridge.Registration
import Inlay.Proofs.Bridge.Step
import Inlay.Proofs.Server.Publication
import Inlay.Proofs.Symbol.Insertion
import Inlay.Proofs.Symbol.WellFormed
import Inlay.Region.Basic
import Inlay.Region.Mapping
import Inlay.Server.Basic
import Inlay.Server.Encoding
import Inlay.Server.Frame
import Inlay.Server.Message
import Inlay.Server.Method
import Inlay.Server.Shape
import Inlay.Settings
import Inlay.Symbol.Host
import Inlay.Symbol.Merge
import Inlay.Symbol.Node
import Inlay.Symbol.Outline
import Inlay.Text.Blank
import Inlay.Text.CodeTable
import Inlay.Text.Digits
import Inlay.Text.Letter
import Inlay.Text.Normal
import Inlay.Text.NormalTable
import Inlay.Text.Pieces
import Inlay.Text.Search
import Inlay.Text.Utf8
import Inlay.Token
import Inlay.Uri.Address
import Inlay.Uri.Basic
import Inlay.Uri.File
import Inlay.Uri.Path
import Inlay.Uri.Percent
import Inlay.WordSet
import Inlay.Proofs.Document
import Inlay.Proofs.Marker.Tags
import Inlay.Proofs.Symbol.Outline
import Inlay.Proofs.Marker.Written
import Inlay.Proofs.Symbol.RoundTrip
import Inlay.Proofs.Literal
import Inlay.Proofs.Symbol.Filing
import Inlay.Proofs.Symbol.Shelter
import Inlay.Proofs.Symbol.Region
import Inlay.Proofs.Engine
import Inlay.Proofs.Symbol.Conservation
import Inlay.Proofs.Symbol.Remerge
import Inlay.Proofs.Bridge.Spawn
import Inlay.Proofs.Bridge.Lifecycle
import Inlay.Proofs.Occurrence
import Inlay.Proofs.Rename
import Inlay.Proofs.Lexeme
import Inlay.Proofs.Symbol.Canonical
import Inlay.Proofs.Symbol.Absorption
import Inlay.Proofs.Symbol.Crossing
import Inlay.Proofs.Marker.Pairing
import Inlay.Proofs.Symbol.Accounting
import Inlay.Proofs.Symbol.TagSoup
import Inlay.Proofs.Marker.Spelling
import Inlay.Proofs.Detection
import Inlay.Proofs.LineIndex.Content
import Inlay.Proofs.Region.Mapping
import Inlay.Proofs.Diagnostic
import Inlay.Proofs.Cursor
import Inlay.Proofs.Occurrence.Greedy
import Inlay.Proofs.LineIndex.Partition
import Inlay.Proofs.Symbol.Declaration
import Inlay.Proofs.Json.Writer
import Inlay.Proofs.Json.Reader
import Inlay.Proofs.Bridge.Wire
import Inlay.Proofs.Location
import Inlay.Proofs.Bridge.Ending
import Inlay.Proofs.Bridge.Mailbox
import Inlay.Proofs.Analyzer
import Inlay.Proofs.Settings
import Inlay.Proofs.Text.ByteSearch
