import LiveText.Formula.Error
import LiveText.Value.Path

/-!
# Failures

What can go wrong before a template is filled in: files, settings, states, paths and formulas. Every
failure has a code, a text and advice.
-/

namespace LiveText

/-- The cause of a failure. -/
inductive Failure where
  | fileUnreadable (path cause : String)
  | settingsRefused
  | offsetOutOfRange (minutes : Int)
  | jsonRefused
  /-- The states are a document of another kind than an object. -/
  | statesNotObject (found : String)
  | pathRefused (error : PathError)
  | formulaFailed (error : FormulaError)
deriving DecidableEq

namespace Failure

/-- The code of a failure. -/
def code : Failure → String
  | fileUnreadable .. => "BIND-001"
  | settingsRefused => "BIND-010"
  | offsetOutOfRange _ => "BIND-011"
  | jsonRefused => "BIND-020"
  | statesNotObject _ => "BIND-021"
  | pathRefused _ => "BIND-030"
  | formulaFailed _ => "BIND-040"

/-- The text of a failure without its code. -/
def reason : Failure → String
  | fileUnreadable path cause => "Failed to read '" ++ path ++ "': " ++ cause
  | settingsRefused => "Invalid engine config: not a TOML document of settings"
  | offsetOutOfRange minutes =>
    "UTC offset of " ++ String.ofList (Json.integerChars minutes) ++ " minutes is out of range"
  | jsonRefused => "Invalid JSON: not a JSON document"
  | statesNotObject found => "States must be a JSON object of id → value, got " ++ found
  | pathRefused error => error.message
  | formulaFailed error => "Formula error: " ++ error.message

/-- The text of a failure. -/
def message (f : Failure) : String := f.code ++ ": " ++ f.reason

/-- What to do about a failure. -/
def advice : Failure → String
  | fileUnreadable .. => "Check file path and permissions"
  | settingsRefused => "Check TOML syntax and field types (see EngineConfig)"
  | offsetOutOfRange _ =>
    "Use an offset between -1439 and 1439 minutes, or omit it for local time"
  | jsonRefused => "Ensure the file is valid JSON (try parsing with jq)"
  | statesNotObject _ => "Write states as \x7b\"state.id.val\": value, ...\x7d"
  | pathRefused _ => "Use simple paths like field.subfield or items[0].name"
  | formulaFailed _ => "Formulas accept arithmetic, comparisons, ?:, Math.* and string helpers"

end Failure

end LiveText
