import LiveText.Command.Run
import LiveText.Engine.Draws
import LiveText.Main
import LiveText.Proofs.Template.Literal
import LiveText.Proofs.Engine.Filling
import LiveText.Proofs.Session.Cache
import LiveText.Proofs.Template.Substitution
import LiveText.Proofs.Binding.Tokens
import LiveText.Proofs.Session.Positional
import LiveText.Proofs.Session.Literal
import LiveText.Proofs.Session.SideBySide
import LiveText.Proofs.Session.Reads
import LiveText.Proofs.Formula.Limits
import LiveText.Proofs.Formula.Grammar
import LiveText.Proofs.Formula.Soundness
import LiveText.Proofs.Formula.Completeness
import LiveText.Proofs.Formula.Room
import LiveText.Proofs.Formula.Names
import LiveText.Proofs.Session.ParserCalls
import LiveText.Proofs.Binding.Operators
import LiveText.Proofs.Binding.References
import LiveText.Proofs.Binding.WellFormed
import LiveText.Proofs.Binding.OperatorForm
import LiveText.Proofs.Number.Digits
import LiveText.Proofs.Number.Shortest
import LiveText.Proofs.Number.Plain
import LiveText.Proofs.Number.Fixed
import LiveText.Proofs.Number.Rounding
import LiveText.Proofs.Number.Numeral
import LiveText.Proofs.Number.Reading
import LiveText.Proofs.Number.Display
import LiveText.Proofs.Value.Members
import LiveText.Proofs.Json.Scalars
import LiveText.Proofs.Json.Documents
import LiveText.Proofs.Json.Writing
import LiveText.Proofs.Value.Storage
import LiveText.Proofs.Value.Grouped
import LiveText.Proofs.Binding.Document
import LiveText.Proofs.Date.Civil
import LiveText.Proofs.Date.Texts
import LiveText.Proofs.Date.RoundTrip
import LiveText.Proofs.Date.Moments
import LiveText.Proofs.Value.Path
import LiveText.Proofs.Binding.Places
import LiveText.Proofs.Binding.FormulaForm
import LiveText.Proofs.Date.Brackets
import LiveText.Proofs.Date.Runs
import LiveText.Proofs.Date.SharedFields
import LiveText.Proofs.Date.Labels
import LiveText.Proofs.Date.DayWords
import LiveText.Proofs.Engine.Items
import LiveText.Proofs.Engine.Hexadecimal
import LiveText.Proofs.Number.Integers
import LiveText.Proofs.Formula.Radix
import LiveText.Proofs.Text.Places
import LiveText.Proofs.Formula.Yields
import LiveText.Proofs.Formula.Positions
import LiveText.Proofs.Formula.Watched
import LiveText.Proofs.Formula.Tower
import LiveText.Proofs.Formula.Tokenization
