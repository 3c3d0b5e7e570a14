import LiveText.Date.Calendar
import LiveText.Value.Basic
import LiveText.Value.Members

/-!
# Requests

What a template is filled in for: a view and a widget, values that take precedence over the states,
and possibly a calendar of its own.
-/

namespace LiveText

/-- A widget. -/
structure Widget where
  template : String := ""
  data : Members Value := []
  style : Members Value := []

/-- What a template is filled in for. -/
structure Request where
  view : String := ""
  widgetId : String := ""
  widget : Option Widget := none
  /-- Data that take the place of the widget's own. -/
  widgetData : Option (Members Value) := none
  /-- Values that take precedence over the states. -/
  values : Members Value := []
  /-- The calendar that takes the place of the engine's. -/
  calendar : Option Calendar := none

namespace Request

/-- The data of the widget: those of the request, or else the widget's own. -/
def data? (r : Request) : Option (Members Value) :=
  match r.widgetData with
  | some data => some data
  | none => r.widget.map Widget.data

/-- The widget as formulas see it. -/
def snapshot (r : Request) : Value :=
  .object (Members.ofList
    [("wid", .string r.widgetId),
     ("tpl", .string ((r.widget.map Widget.template).getD "")),
     ("data", .object (r.data?.getD [])),
     ("style", .object ((r.widget.map Widget.style).getD []))])

end Request

end LiveText
