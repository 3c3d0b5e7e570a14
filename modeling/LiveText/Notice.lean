import LiveText.Date.Instant
import LiveText.Formula.Error
import LiveText.Value.Path

/-!
# Notices

Reading and filling in a template has no failures. What cannot be honoured is left out or shown as
it is, and a notice says so. One notice is of another kind: filling in breaks off at a date that
leaves the range of instants, and all that it would have given counts for nothing.
-/

namespace LiveText

/-- How serious a notice is. -/
inductive Severity where
  | warning
  | error
deriving DecidableEq, Repr

/-- What was not honoured in a template. -/
inductive Notice where
  /-- There are more candidate tokens than are processed. -/
  | tooManyTokens (count limit : Nat)
  | argumentMissing (operator : String)
  | argumentRefused (operator argument : String)
  | unknownOperator (operator : String)
  /-- A formula over the named values of a script failed. -/
  | formulaFailed (value script : String) (error : FormulaError)
  | calendarMissing
  | documentRefused
  | pathRefused (error : PathError)
  /-- Filling in broke off at a date. -/
  | brokenOff (cause : OutOfRange)
deriving DecidableEq

namespace Notice

/-- How serious a notice is. -/
def severity : Notice → Severity
  | formulaFailed .. | brokenOff _ => .error
  | _ => .warning

/-- The text of a notice. -/
def message : Notice → String
  | tooManyTokens .. => "too many binding tokens, ignoring the rest"
  | argumentMissing _ => "operator requires a numeric argument"
  | argumentRefused .. => "non-numeric operator argument, operator dropped"
  | unknownOperator _ => "unknown binding operator"
  | formulaFailed .. => "formula evaluation failed"
  | calendarMissing => "momentDate without a calendar, value left unchanged"
  | documentRefused => "json operator: value is not valid JSON"
  | pathRefused _ => "json operator: bad path"
  | brokenOff _ => "date out of range, no text"

/-- Whether filling in broke off. -/
def breaksOff : Notice → Bool
  | brokenOff _ => true
  | _ => false

end Notice

end LiveText
