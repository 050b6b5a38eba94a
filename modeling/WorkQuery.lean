import WorkQuery.Item.Data
import WorkQuery.Main
import WorkQuery.Oracle.Completion
import WorkQuery.Oracle.Rehearsed
import WorkQuery.Turn.Run
import WorkQuery.Turn.World
import WorkQuery.Proofs.Query.Lexes
import WorkQuery.Proofs.Query.Written
import WorkQuery.Proofs.Outcome
import WorkQuery.Proofs.Query.Grammar
import WorkQuery.Proofs.Query.Balance
import WorkQuery.Proofs.Query.Operands
import WorkQuery.Proofs.Query.Acceptance
import WorkQuery.Proofs.Query.Meaning
import WorkQuery.Proofs.Query.Compiled
import WorkQuery.Proofs.Query.WellFormed
import WorkQuery.Proofs.Query.Row
import WorkQuery.Proofs.Query.FilterMeaning
import WorkQuery.Proofs.Query.Isolation
import WorkQuery.Proofs.Query.Containment
import WorkQuery.Proofs.Query.Independence
import WorkQuery.Proofs.Query.Shapes
import WorkQuery.Proofs.DateSpelling
import WorkQuery.Proofs.Query.Canonical
import WorkQuery.Proofs.Query.Standard
import WorkQuery.Proofs.Query.Reread
import WorkQuery.Proofs.Query.FixedPoint
import WorkQuery.Proofs.Query.OperandTypes
import WorkQuery.Proofs.Session.Slots
import WorkQuery.Proofs.Turn.Stages
import WorkQuery.Proofs.Turn.Trace
import WorkQuery.Proofs.Turn.Provenance
import WorkQuery.Proofs.Turn.Atomicity
import WorkQuery.Proofs.Turn.Reports
import WorkQuery.Proofs.Turn.Decisions
import WorkQuery.Proofs.Field.Registrations
import WorkQuery.Proofs.Field.FriendlyNames
import WorkQuery.Proofs.Intent.Decisions
import WorkQuery.Proofs.Data.Schema
import WorkQuery.Proofs.Filter.Decoding
import WorkQuery.Proofs.Intent.Replies
import WorkQuery.Proofs.Text.Matching
import WorkQuery.Proofs.Text.Runs
import WorkQuery.Proofs.Intent.Recognition
import WorkQuery.Proofs.Intent.Numbers
import WorkQuery.Proofs.Intent.Origins
import WorkQuery.Proofs.Intent.Compilable
import WorkQuery.Proofs.Data.JsonText
import WorkQuery.Proofs.PeriodSpelling
import WorkQuery.Proofs.Filter.RoundTrip
import WorkQuery.Proofs.Text.Blocks
import WorkQuery.Proofs.Intent.CueWords
import WorkQuery.Proofs.Intent.Parts
import WorkQuery.Proofs.Intent.QuotedPhrases
import WorkQuery.Proofs.Intent.CachedItems
import WorkQuery.Proofs.Query.Quoting
import WorkQuery.Proofs.Field.TypeNames
import WorkQuery.Proofs.Intent.Fences
import WorkQuery.Proofs.Data.Records
import WorkQuery.Proofs.Data.PlainData
import WorkQuery.Proofs.Analysis.Digests
import WorkQuery.Proofs.Analysis.Prompt
import WorkQuery.Proofs.Query.DateOperands
import WorkQuery.Proofs.Calendar.Quarters
