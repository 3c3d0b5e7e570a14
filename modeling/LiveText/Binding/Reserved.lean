/-!
# Reserved identifiers

Some names are answered from the surroundings of a template and never looked up among the states.
-/

namespace LiveText

/-- An identifier that is no state. -/
inductive Reserved where
  | username
  /-- Whether the user has to log in. -/
  | login
  /-- The number of the installation. -/
  | instanceNumber
  | language
  | widgetId
  | widgetName
  | view
deriving DecidableEq, Repr

namespace Reserved

/-- The reserved identifier that a reference with its channel means. -/
def ofState? : String → Option Reserved
  | "username.val" => some username
  | "login.val" => some login
  | "instance.val" => some instanceNumber
  | "language.val" => some language
  | "wid.val" => some widgetId
  | "wname.val" => some widgetName
  | "view.val" => some view
  | _ => none

end Reserved

end LiveText
