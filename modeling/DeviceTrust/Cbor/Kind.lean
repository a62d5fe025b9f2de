/-!
# Wire types

The types of CBOR items, as strict field checks tell them apart and reports name them.
-/

set_option autoImplicit false

namespace DeviceTrust

/-- The type of an item. Booleans and null are simple values, not integers. -/
inductive Kind where
  | integer | byteString | textString | array | map | tag | float | simpleValue | undefined
  deriving DecidableEq, Repr

namespace Kind

def name : Kind → String
  | integer => "INTEGER" | byteString => "BYTE_STRING" | textString => "TEXT_STRING"
  | array => "ARRAY" | map => "MAP" | tag => "TAG" | float => "FLOAT"
  | simpleValue => "SIMPLE_VALUE" | undefined => "UNDEFINED"

def description : Kind → String
  | integer => "integer" | byteString => "byte string" | textString => "text string"
  | array => "array" | map => "map" | tag => "tag" | float => "float"
  | simpleValue => "simple value" | undefined => "undefined"

def all : List Kind :=
  [integer, byteString, textString, array, map, tag, float, simpleValue, undefined]

end Kind

end DeviceTrust
