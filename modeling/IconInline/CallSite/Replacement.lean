import IconInline.CallSite.Argument
import IconInline.CallSite.Segment
import IconInline.Failure
import IconInline.Finding
import IconInline.Icon.Literal

/-!
# Replacing calls by literals

Each call of a text is examined from front to back. If its argument names an icon that can be
resolved, the call becomes the icon's literal; any other call stays as it is. Every examined
call leaves one finding.
-/

namespace IconInline.CallSite

/-- The outcome of replacing the calls of a text. -/
structure Replacement where
  text : List Char := []
  replaced : List String := []
  findings : List Finding := []
  deriving DecidableEq, Repr

namespace Replacement

/-- Puts text before an outcome. -/
def keep (source : List Char) (out : Replacement) : Replacement :=
  { out with text := source ++ out.text }

/-- Puts an examined call before an outcome. -/
def examined (source : List Char) (identifier : String) (found : Option IconCode)
    (out : Replacement) : Replacement :=
  match found with
  | some icon =>
    { text := icon.literal.toList ++ out.text
      replaced := identifier :: out.replaced
      findings := .replaced identifier icon.literal :: out.findings }
  | none =>
    { out with
      text := source ++ out.text
      findings := .unknownIcon identifier :: out.findings }

end Replacement

/-- Replaces the calls among segments in their order. An empty identifier is never looked up. -/
def replaceSegments {m : Type → Type} [Monad m] (resolve : String → m (Option IconCode)) :
    List Segment → m Replacement
  | [] => pure {}
  | .plain source :: rest => do
    let out ← replaceSegments resolve rest
    return out.keep source
  | .call source argument :: rest => do
    let identifier := String.ofList (namedIcon argument)
    let found ← if identifier.isEmpty then pure none else resolve identifier
    let out ← replaceSegments resolve rest
    return out.examined source identifier found

namespace Callee

/-- The function with a name, which must not be empty. -/
def ofName (name : String) (scan : ArgumentExtent) : Except Failure Callee :=
  if h : name.toList ≠ [] then .ok ⟨name.toList, scan, h⟩
  else .error (.config "extractor name cannot be empty")

/-- Replaces the calls of a text, looking icons up by `resolve`. -/
def replaceM {m : Type → Type} [Monad m] (callee : Callee) (text : String)
    (resolve : String → m (Option IconCode)) : m Replacement :=
  replaceSegments resolve (callee.segments text.toList)

/-- Replaces the calls of a text by a fixed look-up. -/
def replace (callee : Callee) (text : String) (resolve : String → Option IconCode) :
    Replacement :=
  Id.run (callee.replaceM text (fun identifier => pure (resolve identifier)))

end Callee

end IconInline.CallSite
