import SealingProxy.Fields
/-! # TOML values

Settings files are TOML documents. Of numbers with a fraction and of dates only the kind is kept,
since no setting has such a value. -/

namespace SealingProxy

/-- How a table came to be, which decides what may still be added to it. -/
inductive TableOrigin where
  /-- It has a header of its own, or is the document itself. -/
  | header
  /-- A header names a table in it. -/
  | implied
  /-- A dotted key names a member of it. -/
  | dotted
  /-- It is written in braces. -/
  | inline
  deriving DecidableEq, Repr

inductive Toml where
  | string (s : String)
  | integer (n : Int)
  | float
  | boolean (b : Bool)
  | date
  | array (items : List Toml)
  | table (origin : TableOrigin) (members : List (String × Toml))
  /-- Tables whose header stands in double brackets, the last one first. -/
  | tables (items : List (List (String × Toml)))

namespace Toml

def string? : Toml → Option String
  | string s => some s
  | _ => none

def boolean? : Toml → Option Bool
  | boolean b => some b
  | _ => none

def natural? : Toml → Option Nat
  | integer n => if 0 ≤ n then some n.toNat else none
  | _ => none

/-- The strings of an array that holds nothing else. -/
def strings? : Toml → Option (List String)
  | array items => items.mapM string?
  | _ => none

end Toml
end SealingProxy
