import SealingProxy.Fields
/-! # JSON values

Numbers that are whole and fit 64 bits, signed or unsigned, stay whole; all others are doubles.
The members of an object keep their order. -/

namespace SealingProxy

inductive JsonNumber where
  | whole (n : Int) (inRange : -9223372036854775808 ≤ n ∧ n < 18446744073709551616)
  | double (x : Float)

inductive Json where
  | null
  | bool (b : Bool)
  | number (n : JsonNumber)
  | string (s : String)
  | array (items : List Json)
  | object (members : List (String × Json))

/-- The members of an object, such as the resource that describes a stored object. -/
abbrev Resource := Fields Json

namespace Json

def kind : Json → String
  | null => "null"
  | bool _ => "boolean"
  | number _ => "number"
  | string _ => "string"
  | array _ => "array"
  | object _ => "object"

def string? : Json → Option String
  | string s => some s
  | _ => none

def object? : Json → Option (Fields Json)
  | object f => some f
  | _ => none

/-- The value of a whole number that is not negative. -/
def natural? : Json → Option Nat
  | number (.whole n _) => if 0 ≤ n then some n.toNat else none
  | _ => none

end Json
end SealingProxy
