import Mathlib.Data.Rat.Defs
import Mathlib.Data.String.Basic

/-!
# JSON values and text

The values that request bodies and JSON columns hold, and the few text
operations of the runtime that the control plane relies on.
-/

namespace GpuLink

/-- A JSON value.  Numbers are the finite ones, held exactly. -/
inductive Json where
  | null
  | bool (value : Bool)
  | number (value : Rat)
  | string (value : String)
  | array (items : List Json)
  | object (fields : List (String × Json))

namespace Json

/-- The value of a field, `none` standing for `undefined`. -/
def field? : Json → String → Option Json
  | object fields, name => (fields.find? (fun entry => entry.1 = name)).map (·.2)
  | _, _ => none

def isNull : Json → Bool
  | null => true
  | _ => false

def ofOption (value : Option String) : Json :=
  match value with
  | none => null
  | some text => string text

end Json

/-- Text that a validator has found to be non-empty. -/
abbrev NonEmptyString := { text : String // text ≠ "" }

end GpuLink
