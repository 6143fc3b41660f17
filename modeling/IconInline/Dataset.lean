import IconInline.Failure
import IconInline.Files.Path
import IconInline.Icon.Json

/-!
# Datasets

The file of a dataset package holds a JSON object of exported bindings, and a binding maps
identifiers to icons. Reading one binding looks at no other.
-/

namespace IconInline

/-- One exported binding of a dataset package. -/
structure DatasetRef where
  package : String := "@fortawesome/free-solid-svg-icons"
  binding : String := "fas"
  deriving DecidableEq, Repr

/-- The text of a key. -/
def DatasetRef.display (key : DatasetRef) : String := key.package ++ "#" ++ key.binding

namespace IconSet

/-- The icons that the members of an object stand for. -/
def ofMembers : List (String × Json) → Except Json.Cause IconSet
  | [] => .ok []
  | (identifier, v) :: rest => do
    let icon ← Icon.ofJson v
    let more ← ofMembers rest
    return (identifier, icon) :: more

/-- The icons that a value stands for. -/
def ofJson : Json → Except Json.Cause IconSet
  | .object members => ofMembers members
  | v => .error (.wrongType v.found "a map")

/-- The value that stands for icons. -/
def toJson (icons : IconSet) : Json := .ofMembers (icons.map fun e => (e.1, e.2.toJson))

end IconSet

namespace Dataset

/-- The file of a package below a directory. Empty segments of the package's name and steps
upwards are left out, so the file lies below the directory. An extension that the last segment
seems to have is part of the name, and `json` goes behind it. -/
def file (directory : Path) (package : String) : Path :=
  let segments := (Text.splitOn '/' package.toList).filter (fun s => s != [] && s != ['.', '.'])
  let path := segments.foldl Path.push directory
  let json := "json".toList
  path.setExtension
    (match path.extension? with
    | some extension => extension ++ '.' :: json
    | none => json)

/-- Reads a text that must be an object. -/
def exports (content : String) : Except Json.Fault (List (String × Json)) :=
  Json.Reader.onText (do
    match ← Json.Reader.peekPart with
    | some '\x7b' =>
      match ← Json.Reader.value (← Json.Reader.fuel) Json.Reader.depthLimit with
      | .object members => return members
      | v => Json.Reader.fail (.wrongType v.found "a map")
    | _ => Json.Decoder.mismatch "a map") content

/-- The icons of the binding that a key names, from the content of its package's file. -/
def read (content : String) (key : DatasetRef) : Except Failure IconSet :=
  match exports content with
  | .error fault => .error (.dataset key.package ("Invalid JSON: " ++ fault.message content))
  | .ok members =>
    match members.lookup key.binding with
    | none => .error (.dataset key.package ("export '" ++ key.binding ++ "' not found"))
    | some v =>
      match IconSet.ofJson v with
      | .ok icons => .ok icons
      | .error cause =>
        .error (.dataset key.package
          ("export '" ++ key.binding ++ "' is not an icon pack: " ++ cause.message))

end Dataset

end IconInline
