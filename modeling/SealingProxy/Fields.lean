/-! # Ordered fields

Fields are named values in the order in which the names first came. Giving a name a new value
keeps its place. Erasing fills the gap with the last field, so that no other field moves. -/

namespace SealingProxy

abbrev Fields (α : Type) := List (String × α)

namespace Fields

variable {α : Type}

def get? (f : Fields α) (name : String) : Option α :=
  (f.find? (·.1 == name)).map (·.2)

/-- Gives a name a value, at its place if it has one and else at the end. -/
def insert (f : Fields α) (name : String) (value : α) : Fields α :=
  match f.dropWhile (·.1 != name) with
  | [] => f ++ [(name, value)]
  | _ :: rest => f.takeWhile (·.1 != name) ++ (name, value) :: rest

/-- Takes a name out and moves the last field to its place. -/
def swapErase (f : Fields α) (name : String) : Fields α :=
  match f.dropWhile (·.1 != name) with
  | [] => f
  | _ :: rest =>
    match rest.getLast? with
    | none => f.takeWhile (·.1 != name)
    | some last => f.takeWhile (·.1 != name) ++ last :: rest.dropLast

end Fields
end SealingProxy
