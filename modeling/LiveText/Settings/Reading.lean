import LiveText.Settings.Basic
import LiveText.Toml.Document

/-!
# Settings in TOML

A document of settings is a table; entries with other names are passed over, and a missing entry has
its default. The limits of formulas are a table as well, or their numbers in order.
-/

namespace LiveText

namespace Toml

/-- The text of a string. -/
def text? : Toml → Option String
  | string s => some s
  | _ => none

/-- The truth value of a boolean. -/
def flag? : Toml → Option Bool
  | boolean b => some b
  | _ => none

/-- The number of an integer that is not negative. -/
def count? : Toml → Option Nat
  | integer n => if n < 0 then none else some n.toNat
  | _ => none

/-- The number of an integer of at most 32 bits. -/
def small? : Toml → Option Int
  | integer n => if -0x80000000 ≤ n ∧ n < 0x80000000 then some n else none
  | _ => none

/-- What an entry holds, or a default if there is no entry; `none` if it holds something else. -/
def entryOr {α : Type} (entries : List (String × Toml)) (key : String) (default : α)
    (read : Toml → Option α) : Option α :=
  match entries.lookup key with
  | none => some default
  | some v => read v

/-- What an item holds, or a default if there is no item; `none` if it holds something else. -/
def itemOr {α : Type} (items : List Toml) (i : Nat) (default : α) (read : Toml → Option α) :
    Option α :=
  match items[i]? with
  | none => some default
  | some v => read v

end Toml

open Toml

/-- The limits of a table, or of numbers in order. -/
def FormulaLimits.ofToml? : Toml → Option FormulaLimits
  | .table entries => do
    let maxSteps ← entryOr entries "max_steps" ({} : FormulaLimits).maxSteps count?
    let maxDepth ← entryOr entries "max_depth" ({} : FormulaLimits).maxDepth count?
    return { maxSteps, maxDepth }
  | .array items => do
    let maxSteps ← itemOr items 0 ({} : FormulaLimits).maxSteps count?
    let maxDepth ← itemOr items 1 ({} : FormulaLimits).maxDepth count?
    return { maxSteps, maxDepth }
  | _ => none

namespace Settings

/-- The settings without any choice. -/
def default : Settings := {}

/-- The settings of a table. -/
def ofEntries? (entries : List (String × Toml)) : Option Settings := do
  let user ← entryOr entries "user" default.user text?
  let loginRequired ← entryOr entries "login_required" default.loginRequired flag?
  let instanceNumber ← entryOr entries "instance" default.instanceNumber count?
  let language ← entryOr entries "language" default.language text?
  let dateFormat ← entryOr entries "date_format" default.dateFormat text?
  let offsetMinutes ← entryOr entries "utc_offset_minutes" default.offsetMinutes fun v =>
    (small? v).map some
  let maxBindings ← entryOr entries "max_bindings" default.maxBindings count?
  let limits ← entryOr entries "formula" default.limits FormulaLimits.ofToml?
  return { user, loginRequired, instanceNumber, language, dateFormat, offsetMinutes, maxBindings,
           limits }

/-- The settings of a TOML document. -/
def read (text : String) : Except Failure Settings :=
  match (Toml.read text).bind ofEntries? with
  | some s => .ok s
  | none => .error .settingsRefused

end Settings

end LiveText
