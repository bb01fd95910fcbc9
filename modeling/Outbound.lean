import Outbound.Main
import Outbound.Proofs.Event.Residence
import Outbound.Proofs.Event.Trimming
import Outbound.Proofs.Event.Segments
import Outbound.Proofs.Route.LocalName
import Outbound.Proofs.Route.Sources
import Outbound.Proofs.Keyed
import Outbound.Proofs.Policy.Preset
import Outbound.Proofs.Policy.Roots
import Outbound.Proofs.Policy.Selection
import Outbound.Proofs.Policy.Transformation
import Outbound.Proofs.Policy.Routing
import Outbound.Proofs.Policy.Matching
import Outbound.Proofs.Delivery.History
import Outbound.Proofs.Delivery.Framing
import Outbound.Proofs.Settings.Naming
import Outbound.Proofs.Stream.Concatenation
import Outbound.Proofs.Stream.EmptyNames
import Outbound.Proofs.Json.Literal
import Outbound.Proofs.Json.Numeral
import Outbound.Proofs.Json.Canonical
import Outbound.Proofs.Json.Printable
import Outbound.Proofs.Json.RoundTrip
import Outbound.Proofs.Json.Local
import Outbound.Proofs.Json.TrailingReturn
import Outbound.Proofs.Stream.OutputLines
import Outbound.Proofs.Stream.Records
import Outbound.Proofs.Stream.Endings
import Outbound.Proofs.Event.Decomposition
import Outbound.Proofs.Settings.Overview
import Outbound.Proofs.Json.Source
import Outbound.Proofs.Json.RecordText
import Outbound.Proofs.Stream.EventText
import Outbound.Proofs.Settings.SettingsText
import Outbound.Proofs.Text.ByteOrder
import Outbound.Proofs.Json.Sequence
import Outbound.Proofs.Json.SourceReading
import Outbound.Proofs.Json.FieldPair
import Outbound.Proofs.Route.Priority
import Outbound.Proofs.Policy.Widening
import Outbound.Proofs.Policy.Default
import Outbound.Proofs.Policy.Faults
import Outbound.Proofs.Policy.Namespaces
import Outbound.Proofs.Event.Declarations
import Outbound.Proofs.Policy.Declared
import Outbound.Proofs.Settings.Table
import Outbound.Proofs.Destination
