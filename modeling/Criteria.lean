import Criteria.Config.Writer
import Criteria.Evaluation.Custom
import Criteria.Json.Skim
import Criteria.Main
import Criteria.Node.Tree
import Criteria.Service.Http
import Criteria.Proofs.Number.Decimal
import Criteria.Proofs.Number.Digits
import Criteria.Proofs.Number.Shortest
import Criteria.Proofs.Number.Numeral
import Criteria.Proofs.Text.Length
import Criteria.Proofs.Text.StringLiteral
import Criteria.Proofs.Text.ByteOrder
import Criteria.Proofs.Text.Slice
import Criteria.Proofs.Token.Language
import Criteria.Proofs.Token.Pieces
import Criteria.Proofs.Token.Seam
import Criteria.Proofs.Token.Fault
import Criteria.Proofs.Token.Tiling
import Criteria.Proofs.Node.Grammar
import Criteria.Proofs.Token.Marks
import Criteria.Proofs.Node.Marks
import Criteria.Proofs.Node.Completion
import Criteria.Proofs.Node.Accounting
import Criteria.Proofs.Node.Run
import Criteria.Proofs.Node.Outcome
import Criteria.Proofs.Node.Acceptance
import Criteria.Proofs.Node.Reached
import Criteria.Proofs.Node.Prefix
import Criteria.Proofs.Node.Cutoff
import Criteria.Proofs.Evaluation.Calls
import Criteria.Proofs.Evaluation.Representation
import Criteria.Proofs.Number.Style
import Criteria.Proofs.Number.Integer
import Criteria.Proofs.Json.Writer
import Criteria.Proofs.Json.Canonical
import Criteria.Proofs.Json.Form
import Criteria.Proofs.Json.Inclusion
import Criteria.Proofs.Node.Data
import Criteria.Proofs.Json.Skim
import Criteria.Proofs.Evaluation.Context
import Criteria.Proofs.Evaluation.Plan
import Criteria.Proofs.Evaluation.PlanOutcome
import Criteria.Proofs.Evaluation.Reach
import Criteria.Proofs.Evaluation.Attribution
import Criteria.Proofs.Evaluation.Laziness
import Criteria.Proofs.Evaluation.Depth
import Criteria.Proofs.Evaluation.Data
import Criteria.Proofs.Evaluation.Footprint
import Criteria.Proofs.Evaluation.Bindings
import Criteria.Proofs.Evaluation.Provenance
import Criteria.Proofs.Json.NumberValue
import Criteria.Proofs.Evaluation.Bucket
import Criteria.Proofs.Evaluation.Comparison
import Criteria.Proofs.Evaluation.Lookup
import Criteria.Proofs.Evaluation.Nesting
import Criteria.Proofs.Evaluation.Alike
import Criteria.Proofs.Evaluation.ShortCircuit
import Criteria.Proofs.Evaluation.DeMorgan
import Criteria.Proofs.Evaluation.Congruence
import Criteria.Proofs.Evaluation.Renaming
import Criteria.Proofs.Evaluation.CutShort
import Criteria.Proofs.Evaluation.DepthLimit
import Criteria.Proofs.Evaluation.Occurrence
import Criteria.Proofs.Evaluation.Recording
import Criteria.Proofs.Node.Preorder
import Criteria.Proofs.Node.Label
import Criteria.Proofs.Node.Drawing
import Criteria.Proofs.Config.Exposure
import Criteria.Proofs.Config.Validation
import Criteria.Proofs.Service.Message
import Criteria.Proofs.Service.Batch
import Criteria.Proofs.Service.Http
import Criteria.Proofs.Service.CommandLine
