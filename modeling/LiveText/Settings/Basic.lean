import LiveText.Date.Zone
import LiveText.Failure
import LiveText.Formula.Parser

/-!
# Settings

What an installation decides for all of its templates. Whatever is left out has a default.
-/

namespace LiveText

/-- The settings of an engine. -/
structure Settings where
  user : String := ""
  loginRequired : Bool := false
  /-- The number of the installation. -/
  instanceNumber : Nat := 0
  language : String := "en"
  /-- The pattern of dates that have none of their own. -/
  dateFormat : String := "DD.MM.YYYY"
  /-- The offset of dates from universal time; the host's zone if there is none. -/
  offsetMinutes : Option Int := none
  /-- The most tokens that are processed in a template. -/
  maxBindings : Nat := 50
  limits : FormulaLimits := {}
deriving DecidableEq, Repr

namespace Settings

/-- The zone of dates, on a given host. -/
def zone (s : Settings) (host : HostClock) : Except Failure Zone :=
  match s.offsetMinutes with
  | none => .ok (.host host)
  | some minutes =>
    match Zone.ofMinutes? minutes with
    | some zone => .ok zone
    | none => .error (.offsetOutOfRange minutes)

end Settings

end LiveText
