import IconInline.Json.Value

/-!
# Tables of TOML

Headers and dotted keys build tables piece by piece. A table may come into being by being
passed through on the way to another one; a header may then still open it, once. A table that a
dotted key makes can be extended by dotted keys only.
-/

namespace IconInline.Toml

/-- How a table came into being. -/
inductive Origin where
  /-- Opened by a header. -/
  | header
  /-- Passed through by a header. -/
  | passed
  /-- Made by a dotted key. -/
  | dotted
  deriving DecidableEq, Repr

/-- What stands under a key. -/
inductive Node where
  | value (v : Json)
  | table (origin : Origin) (entries : List (String × Node))
  /-- The tables of an array, the latest first. -/
  | tables (latest : List (String × Node)) (earlier : List (List (String × Node)))

/-- The entries of a table in their order. -/
abbrev Entries := List (String × Node)

/-- Puts something under a key, in the stead of what was there. -/
def Entries.put (key : String) (node : Node) : Entries → Entries
  | [] => [(key, node)]
  | (k, n) :: rest => if k = key then (key, node) :: rest else (k, n) :: Entries.put key node rest

/-- Changes the table that a header leads to, passing through tables and the latest tables of
arrays. -/
def Entries.within (change : Entries → Option Entries) : List String → Entries → Option Entries
  | [], entries => change entries
  | key :: path, entries =>
    match entries.lookup key with
    | none => do
      return entries.put key (.table .passed (← within change path []))
    | some (.value _) => none
    | some (.table origin inner) => do
      return entries.put key (.table origin (← within change path inner))
    | some (.tables latest earlier) => do
      return entries.put key (.tables (← within change path latest) earlier)

/-- Opens a table by a header. -/
def Entries.openTable (key : String) (entries : Entries) : Option Entries :=
  match entries.lookup key with
  | none => some (entries.put key (.table .header []))
  | some (.table .passed inner) => some (entries.put key (.table .header inner))
  | some _ => none

/-- Opens another table of an array by a header. -/
def Entries.openItem (key : String) (entries : Entries) : Option Entries :=
  match entries.lookup key with
  | none => some (entries.put key (.tables [] []))
  | some (.tables latest earlier) => some (entries.put key (.tables [] (latest :: earlier)))
  | some _ => none

/-- Puts a value under a new key. -/
def Entries.add (key : String) (v : Json) (entries : Entries) : Option Entries :=
  if (entries.lookup key).isSome then none else some (entries.put key (.value v))

/-- Puts a value under a dotted key. The table right above the value must have been made by
dotted keys, and no table on the way may have been opened by a header. -/
def Entries.addDotted (v : Json) (last : String) : (path : List String) → (fits : Bool) →
    Entries → Option Entries
  | [], fits, entries => if fits then entries.add last v else none
  | key :: path, _, entries =>
    match entries.lookup key with
    | none => do
      return entries.put key (.table .dotted (← addDotted v last path true []))
    | some (.value _) => none
    | some (.table .header _) => none
    | some (.table origin inner) => do
      return entries.put key (.table origin (← addDotted v last path (origin == .dotted) inner))
    | some (.tables latest earlier) => do
      return entries.put key (.tables (← addDotted v last path false latest) earlier)

mutual

/-- The value of what stands under a key. -/
def Node.toJson : Node → Json
  | .value v => v
  | .table _ entries => .ofMembers (membersOf entries)
  | .tables latest earlier => .array (itemsOf earlier [.ofMembers (membersOf latest)])

/-- The members of an object with given entries. -/
def membersOf : List (String × Node) → List (String × Json)
  | [] => []
  | (key, node) :: rest => (key, node.toJson) :: membersOf rest

/-- The items of an array of tables, given the latest first, before those that are known. -/
def itemsOf : List (List (String × Node)) → List Json → List Json
  | [], known => known
  | entries :: rest, known => itemsOf rest (.ofMembers (membersOf entries) :: known)

end

/-- The value of a table. -/
def Entries.toJson (entries : Entries) : Json := .ofMembers (membersOf entries)

end IconInline.Toml
