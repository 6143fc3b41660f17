import IconInline.Icon
import IconInline.Json.Decoder

/-!
# Icons in datasets

A dataset writes an icon as an object whose member `icon` is the list of width, height,
ligatures, glyph and path, and whose other members are optional texts. The path is a text or a
list of texts. Members of other names mean nothing.
-/

namespace IconInline

open Json (Decoder Cause)
open Json.Decoder (RecordField)

namespace Drawing

/-- An outline that a value stands for. -/
def ofJson (v : Json) : Except Cause Drawing :=
  match v with
  | .string path => .ok (.single path)
  | .array items =>
    match items.mapM (Decoder.readValue .string) with
    | .ok paths => .ok (.layered paths)
    | .error _ => .error (.noVariant "PathData")
  | _ => .error (.noVariant "PathData")

/-- The value that stands for an outline. -/
def toJson : Drawing → Json
  | single path => .string path
  | layered paths => .array (paths.map .string)

/-- Reads an outline. In a text the whole value is read before it is judged. -/
def decoder : Decoder Drawing where
  ofText depth := do
    match ofJson (← Json.Reader.value (← Json.Reader.fuel) depth) with
    | .ok path => return path
    | .error cause => Json.Reader.failUnplaced cause
  ofValue _ := ofJson

end Drawing

namespace Icon

/-- A field of an icon's list, which must not be missing. -/
def listed {α : Type} (d : Decoder α) (set : α → Icon → Icon) : RecordField Icon :=
  ⟨"", d.map set, false, false⟩

/-- An optional member of an icon. -/
def optional (name : String) (set : Option String → Icon → Icon) : RecordField Icon :=
  ⟨name, (Decoder.option .string).map set, true, true⟩

/-- The icon before any of its members has been read. -/
def blank : Icon := .plain 0 0 ""

/-- Reads the list of size, ligatures, glyph and path. -/
def bodyDecoder : Decoder (Icon → Icon) where
  ofText _ := Decoder.mismatch "tuple struct IconData"
  ofValue rules v :=
    match v with
    | .array items => do
      let body ← Decoder.listedValues rules "tuple struct IconData with 5 elements" items.length
        [listed .word32 fun w icon => { icon with width := w },
          listed .word32 fun h icon => { icon with height := h },
          listed (.list .string) fun ls icon => { icon with ligatures := ls },
          listed .string fun g icon => { icon with glyph := g },
          listed Drawing.decoder fun p icon => { icon with path := p }] 0 items blank
      return fun icon =>
        { icon with
          width := body.width, height := body.height, ligatures := body.ligatures
          glyph := body.glyph, path := body.path }
    | v => .error (.wrongType v.found "tuple struct IconData")

/-- Reads an icon. -/
def decoder : Decoder Icon :=
  .record "struct IconDefinition" blank
    [optional "prefix" fun s icon => { icon with family := s },
      optional "iconName" fun s icon => { icon with name := s },
      ⟨"icon", bodyDecoder, false, false⟩,
      optional "viewBox" fun s icon => { icon with viewBox := s },
      optional "fill" fun s icon => { icon with fill := s },
      optional "strokeWidth" fun s icon => { icon with strokeWidth := s },
      optional "fillRule" fun s icon => { icon with fillRule := s }]

/-- The icon that a value stands for. -/
def ofJson (v : Json) : Except Cause Icon := decoder.readValue v

/-- The value that stands for an icon, without the members that it does not have. -/
def toJson (icon : Icon) : Json :=
  let present (name : String) (value : Option String) : List (String × Json) :=
    (value.map fun s => (name, Json.string s)).toList
  .ofMembers <|
    present "prefix" icon.family ++ present "iconName" icon.name
      ++ [("icon", .array [.ofNat icon.width.toNat, .ofNat icon.height.toNat,
          .array (icon.ligatures.map .string), .string icon.glyph, icon.path.toJson])]
      ++ present "viewBox" icon.viewBox ++ present "fill" icon.fill
      ++ present "strokeWidth" icon.strokeWidth ++ present "fillRule" icon.fillRule

end Icon

end IconInline
