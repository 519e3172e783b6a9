import LapTelemetry.Collector
import LapTelemetry.Spec.Season2021
import LapTelemetry.Spec.Arena
import LapTelemetry.Spec.Scopes
import LapTelemetry.Wire.Layout.Pack
import LapTelemetry.Wire.ByteSource
import LapTelemetry.Wire.Medium
import LapTelemetry.Datagram.Capture
import LapTelemetry.ReceiveLoop
import LapTelemetry.Datagram.Sample
import LapTelemetry.Yaml.Meaning
import LapTelemetry.Config.SocketAddress
import LapTelemetry.Config.Reader
import LapTelemetry.CommandLine
import LapTelemetry.Main
import LapTelemetry.Proofs.Wire.LayoutTree
import LapTelemetry.Proofs.Wire.Conformance
import LapTelemetry.Proofs.Wire.Slice
import LapTelemetry.Proofs.Wire.DecodeSize
import LapTelemetry.Proofs.Wire.Room
import LapTelemetry.Proofs.Wire.Repacking
import LapTelemetry.Proofs.Wire.PackNormalForm
import LapTelemetry.Proofs.Wire.Filling
import LapTelemetry.Proofs.Wire.FieldByField
import LapTelemetry.Proofs.Wire.OwnBytes
import LapTelemetry.Proofs.Wire.Placement
import LapTelemetry.Proofs.Spec.Grammar
import LapTelemetry.Proofs.Spec.Recognition
import LapTelemetry.Proofs.Spec.Walk
import LapTelemetry.Proofs.Spec.Compilation
import LapTelemetry.Proofs.Spec.Decision
import LapTelemetry.Proofs.Spec.WellFormed
import LapTelemetry.Proofs.Spec.Acceptance
import LapTelemetry.Proofs.Session.Refusal
import LapTelemetry.Proofs.Session.LapCourse
import LapTelemetry.Proofs.Session.WholeLap
import LapTelemetry.Proofs.Splits
import LapTelemetry.Proofs.Session.History
import LapTelemetry.Proofs.Session.SectorTimes
import LapTelemetry.Proofs.Session.Pairing
import LapTelemetry.Proofs.Session.Starts
import LapTelemetry.Proofs.Session.SinkIndependence
import LapTelemetry.Proofs.Session.Neighbours
import LapTelemetry.Proofs.Session.Writes
import LapTelemetry.Proofs.Session.LapPackets
import LapTelemetry.Proofs.Session.Redelivery
import LapTelemetry.Proofs.Session.LapHistory
import LapTelemetry.Proofs.Session.TyreReports
import LapTelemetry.Proofs.Collector.Stream
import LapTelemetry.Proofs.Collector.Accounts
import LapTelemetry.Proofs.ReceiveLoop.Script
import LapTelemetry.Proofs.ReceiveLoop.Publication
import LapTelemetry.Proofs.Datagram.HeaderFields
import LapTelemetry.Proofs.Datagram.Routing
import LapTelemetry.Proofs.Datagram.Verdict
import LapTelemetry.Proofs.Datagram.CarRecords
import LapTelemetry.Proofs.Datagram.Places
import LapTelemetry.Proofs.Datagram.Season
import LapTelemetry.Proofs.Datagram.CaptureFrames
import LapTelemetry.Proofs.Datagram.CaptureCuts
import LapTelemetry.Proofs.Datagram.CaptureSources
import LapTelemetry.Proofs.Spec.Blanking
import LapTelemetry.Proofs.Spec.Scanning
import LapTelemetry.Proofs.Spec.ReadingAlike
import LapTelemetry.Proofs.Spec.CompilingAlike
import LapTelemetry.Proofs.Spec.Spelling
import LapTelemetry.Proofs.Spec.MachineWords
import LapTelemetry.Proofs.Spec.Appending
import LapTelemetry.Proofs.Point.TagOrder
import LapTelemetry.Proofs.Point.LineReader
import LapTelemetry.Proofs.Point.LineItems
import LapTelemetry.Proofs.Point.LineNames
import LapTelemetry.Proofs.Point.LineRoundTrip
import LapTelemetry.Proofs.Point.JournalLines
import LapTelemetry.Proofs.Wire.DistinctNames
import LapTelemetry.Proofs.Session.TyreEntries
import LapTelemetry.Proofs.ReceiveLoop.Delays
import LapTelemetry.Proofs.Spec.SourceLines
import LapTelemetry.Proofs.Spec.Numbering
import LapTelemetry.Proofs.Spec.OpenScopes
import LapTelemetry.Proofs.Spec.Scopes
import LapTelemetry.Proofs.Spec.Arena
import LapTelemetry.Proofs.Point.Measurements
import LapTelemetry.Proofs.Wire.ScalarViews
import LapTelemetry.Proofs.Session.WeatherReports
import LapTelemetry.Proofs.Spec.FieldPrefix
import LapTelemetry.Proofs.Spec.TriviaFree
import LapTelemetry.Proofs.Spec.TokenPlaces
import LapTelemetry.Proofs.Spec.SnakeCase
import LapTelemetry.Proofs.Spec.InlineNames
import LapTelemetry.Proofs.Wire.Merging
import LapTelemetry.Proofs.Text.Numerals
import LapTelemetry.Proofs.Text.Letters
import LapTelemetry.Proofs.Session.LapTimes
