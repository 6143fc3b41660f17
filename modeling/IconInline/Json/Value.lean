import IconInline.Number.Shortest

/-!
# JSON values

A value keeps the members of an object in ascending order of their names, each name once. Whole
numbers that fit into 64 bits stay whole; any other number is a binary floating point number.
-/

namespace IconInline

/-- A JSON number. -/
inductive JsonNumber where
  | whole (value : Int)
  | floating (value : Binary64)
  deriving DecidableEq, Repr

/-- A JSON value. -/
inductive Json where
  | null
  | bool (value : Bool)
  | number (value : JsonNumber)
  | string (value : String)
  | array (items : List Json)
  | object (members : List (String × Json))
  deriving Repr

namespace Json

/-- Puts a member at its place, in the stead of an earlier member of that name. -/
def insertMember {α : Type} (name : String) (value : α) : List (String × α) → List (String × α)
  | [] => [(name, value)]
  | (n, v) :: rest =>
    if name < n then (name, value) :: (n, v) :: rest
    else if name = n then (name, value) :: rest
    else (n, v) :: insertMember name value rest

/-- Members in ascending order of their names; of equal names the last one counts. -/
def sortMembers {α : Type} (members : List (String × α)) : List (String × α) :=
  members.foldl (fun sorted m => insertMember m.1 m.2 sorted) []

/-- The object with given members. -/
def ofMembers (members : List (String × Json)) : Json := .object (sortMembers members)

/-- The whole number `n`. -/
def ofNat (n : Nat) : Json := .number (.whole n)

/-- A text, or `null` in its absence. -/
def ofString? : Option String → Json
  | some s => .string s
  | none => .null

/-- The value of a member. -/
def member? (name : String) : Json → Option Json
  | .object members => members.lookup name
  | _ => none

end Json

end IconInline
