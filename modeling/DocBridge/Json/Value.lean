import DocBridge.Decimal.Shortest

/-!
# JSON values

A JSON value with its object members in the order they were written. Numbers keep the
distinction a reader makes between an unsigned 64-bit integer, a negative 64-bit
integer and a double, because decoding a document reports which of the three it met.

`Json.canonical` turns every object into its sorted form with one member per key, the
last written one winning: that is the shape of a parsed value held in a sorted map.
-/

namespace DocBridge

/-- A JSON number as read: an integer that fits an unsigned 64-bit word, a negative
integer that fits a signed one, or otherwise a double. -/
inductive JsonNumber where
  | unsigned (n : Nat)
  | signed (n : Int)
  | float (f : Float)
  deriving Inhabited

/-- A JSON value; object members keep their written order. -/
inductive Json where
  | null
  | bool (b : Bool)
  | number (n : JsonNumber)
  | string (s : String)
  | array (items : List Json)
  | object (members : List (String × Json))
  deriving Inhabited

namespace Json

/-- An unsigned integer value. -/
def nat (n : Nat) : Json := .number (.unsigned n)

/-- An optional text, `null` when absent. -/
def optString : Option String → Json
  | some s => .string s
  | none => .null

/-- The value of the last member named `key`, if the value is an object. -/
def field? (j : Json) (key : String) : Option Json :=
  match j with
  | .object ms => (ms.reverse.find? (·.1 == key)).map (·.2)
  | _ => none

/-- Inserts a member into a list sorted by key, replacing a member of the same key. -/
def insertSorted (key : String) (v : Json) : List (String × Json) → List (String × Json)
  | [] => [(key, v)]
  | (k, w) :: rest =>
    if key < k then (key, v) :: (k, w) :: rest
    else if key == k then (key, v) :: rest
    else (k, w) :: insertSorted key v rest

mutual

/-- Every object sorted by key with one member per key, the last written one kept. -/
def canonical : Json → Json
  | .array items => .array (canonicalList items)
  | .object members => .object (canonicalMembers members [])
  | j => j

/-- `canonical` on each item. -/
def canonicalList : List Json → List Json
  | [] => []
  | j :: js => canonical j :: canonicalList js

/-- Sorted members, inserted one after another into `acc`. -/
def canonicalMembers : List (String × Json) → List (String × Json) → List (String × Json)
  | [], acc => acc
  | (k, v) :: rest, acc => canonicalMembers rest (insertSorted k (canonical v) acc)

end

end Json

end DocBridge
