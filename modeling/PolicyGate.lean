import PolicyGate.Authorizer.Setup
import PolicyGate.Command.Run
import PolicyGate.Demo.Service
import PolicyGate.Main
import PolicyGate.Proofs.Source.Blocks
import PolicyGate.Proofs.Source.Spelling
import PolicyGate.Proofs.Source.Views
import PolicyGate.Proofs.Source.Layout
import PolicyGate.Proofs.Source.RoundTrip
import PolicyGate.Proofs.Source.Pieces
import PolicyGate.Proofs.Source.Renaming
import PolicyGate.Proofs.Policy.Formatting
import PolicyGate.Proofs.Data.StringMap
import PolicyGate.Proofs.Replay.History
import PolicyGate.Proofs.Message.Walk
import PolicyGate.Proofs.Message.Leaves
import PolicyGate.Proofs.Message.Values
import PolicyGate.Proofs.Message.Columns
import PolicyGate.Proofs.Message.Flattening
import PolicyGate.Proofs.Message.Warnings
import PolicyGate.Proofs.Message.Dropping
import PolicyGate.Proofs.Message.Agreement
import PolicyGate.Proofs.Message.Silence
import PolicyGate.Proofs.Message.Outcomes
import PolicyGate.Proofs.Message.Separation
import PolicyGate.Proofs.Demo.Entities
import PolicyGate.Proofs.Demo.Requests
import PolicyGate.Proofs.Source.Loops
import PolicyGate.Proofs.Source.Following
import PolicyGate.Proofs.Source.Places
import PolicyGate.Proofs.Source.Rescanning
import PolicyGate.Proofs.Source.Assignments
import PolicyGate.Proofs.Policy.Numbering
import PolicyGate.Proofs.Source.Occurrences
import PolicyGate.Proofs.Source.Grammar
import PolicyGate.Proofs.Source.Recognition
import PolicyGate.Proofs.Source.Acceptance
import PolicyGate.Proofs.Policy.Lowering
import PolicyGate.Proofs.Policy.Capture
import PolicyGate.Proofs.Policy.Sets
import PolicyGate.Proofs.Policy.Display
import PolicyGate.Proofs.Policy.Recompiling
import PolicyGate.Proofs.Authorizer.Mediation
import PolicyGate.Proofs.Authorizer.Nonces
import PolicyGate.Proofs.Demo.Answers
import PolicyGate.Proofs.Time.Shifting
import PolicyGate.Proofs.Replay.Purging
import PolicyGate.Proofs.Source.Respelling
import PolicyGate.Proofs.Policy.Respelling
import PolicyGate.Proofs.Source.Joining
import PolicyGate.Proofs.Policy.Renaming
import PolicyGate.Proofs.Policy.Joining
import PolicyGate.Proofs.Message.Reordering
import PolicyGate.Proofs.Policy.Comments
import PolicyGate.Proofs.Policy.Pointing
import PolicyGate.Proofs.Assertion.Payload
import PolicyGate.Proofs.Source.CanonicalNumbers
import PolicyGate.Proofs.Policy.Lowerable
import PolicyGate.Proofs.Source.Placement
import PolicyGate.Proofs.Replay.Log
import PolicyGate.Proofs.Text.Base64Url
import PolicyGate.Proofs.Authorizer.Credentials
import PolicyGate.Proofs.Fact.Reading
import PolicyGate.Proofs.Fact.Emission
import PolicyGate.Proofs.Policy.Dates
import PolicyGate.Proofs.Keys.Material
import PolicyGate.Proofs.Time.Lenient
import PolicyGate.Proofs.Data.Value
import PolicyGate.Proofs.Policy.Storage
import PolicyGate.Proofs.Settings.Startup
import PolicyGate.Proofs.Source.OneLine
import PolicyGate.Proofs.Policy.Outlines
import PolicyGate.Proofs.Source.Tiling
import PolicyGate.Proofs.Source.Origins
import PolicyGate.Proofs.Source.Indexed.Machine
import PolicyGate.Proofs.Source.Indexed.Lookahead
import PolicyGate.Proofs.Source.Indexed.Agreement
import PolicyGate.Proofs.Source.Indexed.Positions
