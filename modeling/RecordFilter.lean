import RecordFilter.Condition.Constant
import RecordFilter.Main
import RecordFilter.Query.Sum
import RecordFilter.Regex.Automaton
import RecordFilter.Regex.Encoding
import RecordFilter.Regex.Normal
import RecordFilter.Unicode.Age
import RecordFilter.Unicode.Break.Grapheme
import RecordFilter.Unicode.Break.Sentence
import RecordFilter.Unicode.CaseChange
import RecordFilter.Unicode.Property
import RecordFilter.Proofs.Cursor.Guard
import RecordFilter.Proofs.Parse.RoundTrip
import RecordFilter.Proofs.Evaluation.Settled
import RecordFilter.Proofs.Draft.Basic
import RecordFilter.Proofs.Draft.Reading
import RecordFilter.Proofs.Binding.Fill
import RecordFilter.Proofs.Binding.Places
import RecordFilter.Proofs.Binding.Substitution
import RecordFilter.Proofs.Binding.Canonical
import RecordFilter.Proofs.Evaluation.Failures
import RecordFilter.Proofs.Query.Conjunction
import RecordFilter.Proofs.Query.Aggregates
import RecordFilter.Proofs.Check
import RecordFilter.Proofs.Binding.Consumption
import RecordFilter.Proofs.Bracket.Basic
import RecordFilter.Proofs.Parse.Relocation
import RecordFilter.Proofs.Bracket.Balanced
import RecordFilter.Proofs.Bracket.Reading
import RecordFilter.Proofs.Bracket.Nesting
import RecordFilter.Proofs.Bracket.Matching
import RecordFilter.Proofs.Bracket.Structure
import RecordFilter.Proofs.Parse.Levels
import RecordFilter.Proofs.Parse.Limits
import RecordFilter.Proofs.Evaluation.Literal
import RecordFilter.Proofs.Token.Extent
import RecordFilter.Proofs.Token.Partition
import RecordFilter.Proofs.Cursor.Removal
import RecordFilter.Proofs.Regex.Matching
import RecordFilter.Proofs.Regex.Sequence
import RecordFilter.Proofs.Wildcard.Matching
import RecordFilter.Proofs.Wildcard.Source
import RecordFilter.Proofs.Evaluation.Reads
import RecordFilter.Proofs.Evaluation.Connectives
import RecordFilter.Proofs.Evaluation.Coherence
import RecordFilter.Proofs.Binding.Verdict
import RecordFilter.Proofs.Binding.Values
import RecordFilter.Proofs.Query.Orderings
import RecordFilter.Proofs.Token.Integer
import RecordFilter.Proofs.Bracket.Opened
import RecordFilter.Proofs.Json.Conversion
import RecordFilter.Proofs.Parse.Faults
import RecordFilter.Proofs.Parse.Invariant
