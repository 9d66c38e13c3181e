import AudioPlan.Main
import AudioPlan.Session
import AudioPlan.Proofs.Log.Success
import AudioPlan.Proofs.Plan.Positions
import AudioPlan.Proofs.Plan.Block
import AudioPlan.Proofs.Plan.Steps
import AudioPlan.Proofs.Text.Decimal
import AudioPlan.Proofs.Plan.Passthrough
import AudioPlan.Proofs.Arguments.Streams
import AudioPlan.Proofs.Text.Base64
import AudioPlan.Proofs.Text.Search
import AudioPlan.Proofs.Text.Utf8
import AudioPlan.Proofs.Json.Scalars
import AudioPlan.Proofs.Value.Entries
import AudioPlan.Proofs.Json.RoundTrip
import AudioPlan.Proofs.Rule.Checked
import AudioPlan.Proofs.Rule.Validation
import AudioPlan.Proofs.Marker.Tokens
import AudioPlan.Proofs.Rule.Document
import AudioPlan.Proofs.Text.Blank
import AudioPlan.Proofs.Marker.Decoding
import AudioPlan.Proofs.Outcome.Cases
import AudioPlan.Proofs.Marker.History
import AudioPlan.Proofs.Text.Digit
import AudioPlan.Proofs.Rule.Condition
import AudioPlan.Proofs.Text.Case
import AudioPlan.Proofs.Json.Decoded
import AudioPlan.Proofs.Binary64.Integers
import AudioPlan.Proofs.Rule.Fields
import AudioPlan.Proofs.Rule.Grammar
import AudioPlan.Proofs.Marker.Identity
import AudioPlan.Proofs.Rule.Canonical
import AudioPlan.Proofs.Regex.Compilation
import AudioPlan.Proofs.Track.Matching
import AudioPlan.Proofs.Track.Reading
import AudioPlan.Proofs.Plan.Composition
import AudioPlan.Proofs.Track.Report
import AudioPlan.Proofs.Marker.Rewriting
import AudioPlan.Proofs.Arguments.Mapped
import AudioPlan.Proofs.Rule.Agreement
import AudioPlan.Proofs.Rule.Respelling
import AudioPlan.Proofs.Outcome.Consistency
import AudioPlan.Proofs.Plan.Ceilings
import AudioPlan.Proofs.Rule.Problems
import AudioPlan.Proofs.Rule.Reordering
import AudioPlan.Proofs.Settings.Emptied
import AudioPlan.Proofs.Regex.Groups
import AudioPlan.Proofs.Text.Brace
import AudioPlan.Proofs.Title.Expansion
import AudioPlan.Proofs.Rule.Rounds
import AudioPlan.Proofs.Yaml.Scalar
import AudioPlan.Proofs.Yaml.Token
import AudioPlan.Proofs.Yaml.Node
import AudioPlan.Proofs.Yaml.Reader
import AudioPlan.Proofs.Rule.Loading
import AudioPlan.Proofs.Yaml.Ordinary
import AudioPlan.Proofs.Settings.Sources
import AudioPlan.Proofs.Settings.Precedence
import AudioPlan.Proofs.Binary64.Overflow
import AudioPlan.Proofs.Log.Failure
import AudioPlan.Proofs.Settings.Faults
import AudioPlan.Proofs.Track.Faults
import AudioPlan.Proofs.Title.Faults
import AudioPlan.Proofs.Outcome.Faults
import AudioPlan.Proofs.Arguments.Passed
import AudioPlan.Proofs.Plan.Shadowing
import AudioPlan.Proofs.Plan.Layout
import AudioPlan.Proofs.Plan.Titles
import AudioPlan.Proofs.Plan.Unmatched
import AudioPlan.Proofs.Title.Safety
import AudioPlan.Proofs.Title.Groups
import AudioPlan.Proofs.Marker.Surrounded
import AudioPlan.Proofs.Marker.Faults
import AudioPlan.Proofs.Arguments.Codecs
import AudioPlan.Proofs.Track.Streams
import AudioPlan.Proofs.Track.Disposition
import AudioPlan.Proofs.Track.Resolution
import AudioPlan.Proofs.Track.Tags
import AudioPlan.Proofs.Json.Line
import AudioPlan.Proofs.Calendar.Instant
import AudioPlan.Proofs.Log.Entry
