import DocMarkers.Text.WordCharacter
import DocMarkers.Document
import DocMarkers.Pattern
import DocMarkers.Extraction.KeyInfo
import DocMarkers.Extraction.Placeholder
import DocMarkers.Calendar.Timestamp
import DocMarkers.Reference.Lookup
import DocMarkers.Resolution.Run
import DocMarkers.Generation.Shared
import DocMarkers.Generation.Writer
import DocMarkers.Service
import DocMarkers.Settings.Environment
import DocMarkers.Api.Endpoint
import DocMarkers.Proofs.Resolution.Nesting
import DocMarkers.Proofs.Generation.Guard
import DocMarkers.Proofs.Generation.Coherence
import DocMarkers.Proofs.Generation.Exchange
import DocMarkers.Proofs.Generation.Progress
import DocMarkers.Proofs.Generation.Sequence
import DocMarkers.Proofs.Generation.Gathered
import DocMarkers.Proofs.Generation.Useless
import DocMarkers.Proofs.Service.Markers
import DocMarkers.Proofs.Service.Degradation
import DocMarkers.Resolution.Together
import DocMarkers.Proofs.Resolution.Together
import DocMarkers.Marker.Beginnings
import DocMarkers.Proofs.Lookup.Topic
import DocMarkers.Proofs.Lookup.Answer
import DocMarkers.Proofs.Lookup.Shape
import DocMarkers.Proofs.Lookup.Journal
import DocMarkers.Proofs.Lookup.History
import DocMarkers.Proofs.Lookup.Transparency
import DocMarkers.Resolution.Interleaved
import DocMarkers.Proofs.Resolution.Interleaved
import DocMarkers.Proofs.Scanning.Registration
import DocMarkers.Proofs.Resolution.Reports
import DocMarkers.Proofs.Resolution.ReportsTogether
import DocMarkers.Proofs.Resolution.Observation
import DocMarkers.Proofs.Resolution.Records
import DocMarkers.Proofs.Service.Records
import DocMarkers.Proofs.Resolution.Resumption
import DocMarkers.Proofs.Resolution.Escapes
import DocMarkers.Proofs.Resolution.Containment
import DocMarkers.Proofs.Resolution.Openings
import DocMarkers.Proofs.Resolution.Template
import DocMarkers.Proofs.Generation.Writing
import DocMarkers.Proofs.Extraction.Placeholder
import DocMarkers.Proofs.Resolution.Window
import DocMarkers.Proofs.Resolution.Percentile
import DocMarkers.Proofs.Extraction.KeyInfo
import DocMarkers.Proofs.Extraction.Year
import DocMarkers.Proofs.Scanning.Parameters
import DocMarkers.Proofs.Service.Frames
import DocMarkers.Proofs.Lookup.Fallback
import DocMarkers.Proofs.Resolution.Previews
import DocMarkers.Proofs.Scanning.Percent
import DocMarkers.Proofs.Lookup.Addresses
import DocMarkers.Proofs.Calendar.Timestamp
import DocMarkers.Proofs.Service.Updated
import DocMarkers.Proofs.Lookup.Spelling
import DocMarkers.Proofs.Lookup.Markup
