/-
Untyped ECMAScript data, the `unknown` that comes out of a JSON column. A record is its own properties in order; a
property that is not there reads as `undefined`, and so does every property of a value that is no record. Where a list of
properties repeats a name the first one is read.

The readers answer `none` for a value of another type, as the `typeof` guards of a program do.
-/
import SeeMirai.Lib.InsertionMap

namespace SeeMirai

inductive JsValue where
  | undefined
  | null
  | bool (b : Bool)
  | number (n : ℚ)
  | string (s : String)
  | array (items : List JsValue)
  | object (properties : List (String × JsValue))

/-- `Record<string, unknown>` -/
abbrev JsonRecord := List (String × JsValue)

namespace JsValue

/-- `value?.[key]` -/
def prop : JsValue → String → JsValue
  | object properties, key => (assocGet properties key).getD undefined
  | _, _ => undefined

/-- `typeof value === "string" ? value : undefined` -/
def asString : JsValue → Option String
  | string s => some s
  | _ => none

/-- `typeof value === "boolean" ? value : undefined` -/
def asBoolean : JsValue → Option Bool
  | bool b => some b
  | _ => none

def isUndefined : JsValue → Bool
  | undefined => true
  | _ => false

/-- an object that is no array and has a property of its own -/
def isNonEmptyRecord : JsValue → Bool
  | object (_ :: _) => true
  | _ => false

/-- an optional text as a property value -/
def ofString : Option String → JsValue
  | some s => string s
  | none => undefined

def ofBoolean : Option Bool → JsValue
  | some b => bool b
  | none => undefined

theorem asString_eq_some {v : JsValue} {s : String} : v.asString = some s ↔ v = string s := by
  cases v <;> simp [asString]

theorem isNonEmptyRecord_iff {v : JsValue} :
    v.isNonEmptyRecord = true ↔ ∃ properties, v = object properties ∧ properties ≠ [] := by
  cases v with
  | object properties => cases properties <;> simp [isNonEmptyRecord]
  | _ => simp [isNonEmptyRecord]

end JsValue

end SeeMirai
