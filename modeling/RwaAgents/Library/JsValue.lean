import Mathlib.Algebra.Order.Field.Rat
import Mathlib.Data.Rat.Cast.Order
import RwaAgents.Library.OrderedMap

/-!
# JavaScript numbers and JSON values

The values a client of a JSON interface handles.  A number is a rational, an
infinity or not a number.  A JSON value is a tree, and an object is the list of
its own properties.  The first entry of a key counts.

`property` reads a property the way the language does: of `null` that throws, and
what is not an object has none of the properties asked for here.  `text` is the
conversion a template or `String` applies.  The decimal form of a number is the
one thing left open, as the parameter `numberText`.
-/

/-- A number.  `0` and `-0` are one value, since nothing here tells them apart. -/
inductive JsNumber
  | nan
  | infinity (negative : Bool)
  | finite (value : ℚ)
deriving DecidableEq, Repr

namespace JsNumber

def ofNat (n : ℕ) : JsNumber := .finite n

/-- `Number.isInteger`. -/
def isInteger : JsNumber → Bool
  | finite q => q.den = 1
  | _ => false

/-- `x < n`, which is false of what is not a number. -/
def below (x : JsNumber) (n : ℕ) : Bool :=
  match x with
  | nan => false
  | infinity negative => negative
  | finite q => q < n

/-- `x > n`. -/
def above (x : JsNumber) (n : ℕ) : Bool :=
  match x with
  | nan => false
  | infinity negative => !negative
  | finite q => q > n

end JsNumber

/-- A JSON value. -/
inductive JsonValue
  | null
  | bool (value : Bool)
  | number (value : JsNumber)
  | string (value : String)
  | array (elements : List JsonValue)
  | object (properties : List (String × JsonValue))
deriving Repr

namespace JsonValue

/-- The texts thrown where a value has the wrong type. -/
def nullProperty (key : String) : String :=
  s!"Cannot read properties of null (reading '{key}')"

def noPrimitive : String := "Cannot convert object to primitive value"

/-- The value of an own property, or `undefined`. -/
def own (key : String) : JsonValue → Option JsonValue
  | object properties => OrderedMap.lookupIn key properties
  | _ => none

/-- Read a property. -/
def property (key : String) : JsonValue → Except String (Option JsonValue)
  | null => .error (nullProperty key)
  | value => .ok (value.own key)

/-- `!value`, where `undefined` is `none`. -/
def falsy : Option JsonValue → Bool
  | none => true
  | some null => true
  | some (bool value) => !value
  | some (number value) => value = .nan ∨ value = .finite 0
  | some (string value) => value = ""
  | some (array _) => false
  | some (object _) => false

/-- `value === text` for a text. -/
def isText (text : String) : Option JsonValue → Bool
  | some (string value) => value = text
  | _ => false

/-- What a spread copies: own properties, elements or characters by their index. -/
def spread : JsonValue → List (String × JsonValue)
  | object properties => properties
  | array elements => elements.zipIdx.map fun e => (toString e.2, e.1)
  | string value => value.toList.zipIdx.map fun e => (toString e.2, string (String.singleton e.1))
  | _ => []

/-- `{ ...value, key: v, ... }`: later properties win. -/
def extend (value : JsonValue) (properties : List (String × JsonValue)) : JsonValue :=
  object (properties.foldl (fun es e => OrderedMap.setIn e.1 e.2 es) value.spread)

section Text

variable (numberText : JsNumber → String)

mutual

/-- `String(value)`.  An object with a `toString` of its own has no string form,
because no JSON value can be called. -/
def text : JsonValue → Except String String
  | null => .ok "null"
  | bool value => .ok (toString value)
  | number value => .ok (numberText value)
  | string value => .ok value
  | array elements => return ",".intercalate (← elementTexts elements)
  | object properties =>
      if (OrderedMap.lookupIn "toString" properties).isSome then .error noPrimitive
      else .ok "[object Object]"

/-- An array joins its elements, and `null` counts as empty. -/
def elementTexts : List JsonValue → Except String (List String)
  | [] => .ok []
  | null :: es => return "" :: (← elementTexts es)
  | e :: es => return (← text e) :: (← elementTexts es)

end

/-- `String(value)`, where `undefined` is `none`. -/
def textOf : Option JsonValue → Except String String
  | none => .ok "undefined"
  | some value => value.text numberText

end Text

theorem isText_iff {text : String} {value : Option JsonValue} :
    isText text value = true ↔ value = some (string text) := by
  cases value with
  | none => simp [isText]
  | some v => cases v <;> simp [isText]

/-- Only an object has a property to read. -/
theorem property_eq_some {value v : JsonValue} {key : String} :
    value.property key = .ok (some v) ↔ value.own key = some v := by
  cases value <;> simp [property, own]

@[simp] theorem own_object (properties : List (String × JsonValue)) (key : String) :
    (object properties).own key = OrderedMap.lookupIn key properties := rfl

/-- A spread copies the properties there are. -/
theorem lookupIn_spread {value v : JsonValue} {key : String} (h : value.own key = some v) :
    OrderedMap.lookupIn key value.spread = some v := by
  cases value with
  | object properties => exact h
  | null => cases h
  | bool b => cases h
  | number n => cases h
  | string text => cases h
  | array elements => cases h

theorem own_extend (value : JsonValue) (properties : List (String × JsonValue)) (key : String) :
    (value.extend properties).own key = OrderedMap.lookupIn key
      (properties.foldl (fun es e => OrderedMap.setIn e.1 e.2 es) value.spread) := rfl

end JsonValue
