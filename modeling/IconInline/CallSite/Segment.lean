import IconInline.CallSite.Closing
import IconInline.Text.Blank
import IconInline.Text.ExtractorName

/-!
# The calls of a text

A text is cut into segments: calls of one function, and the characters between them. The
sources of the segments, joined, are the text. Two scans find the calls.

* The balanced scan takes a call at every free-standing occurrence of the name that is
  followed by `(` and closed by its matching `)`; it then goes on behind that parenthesis. An
  occurrence that is no such call is passed over whole.
* The non-whitespace scan takes the first `name(` of a run of characters without blanks, up to
  the last `)` of the run, provided that something stands in between.
-/

namespace IconInline.CallSite

/-- How the argument of a call is delimited. -/
inductive ArgumentExtent where
  | balanced
  | unbroken
  deriving DecidableEq, Repr

/-- A function whose calls are looked for. -/
structure Callee where
  name : List Char
  scan : ArgumentExtent
  name_ne : name ≠ []

/-- A piece of a text. -/
inductive Segment where
  | plain (source : List Char)
  | call (source argument : List Char)
  deriving DecidableEq, Repr

/-- The characters that a segment covers. -/
def Segment.source : Segment → List Char
  | plain source => source
  | call source _ => source

/-- A name after this character would be part of a longer name or a property. -/
def continuesName (c : Char) : Bool := c == '.' || Text.isExtractorChar c

/-- A name may begin after what stands before it. -/
def atBoundary (previous : Option Char) : Bool := !previous.any continuesName

/-- The position, in the text after a name, of the parenthesis that closes the call. -/
def closingAfter? (previous : Option Char) (after : List Char) : Option Nat :=
  if atBoundary previous ∧ after.head? = some '(' then closing? (after.map Sign.ofChar) else none

namespace Callee

/-- The segments that the balanced scan finds in the rest of a text. -/
def balancedFrom (callee : Callee) (previous : Option Char) (cs : List Char) : List Segment :=
  match cs with
  | [] => []
  | c :: rest =>
    if callee.name.isPrefixOf (c :: rest) then
      let after := (c :: rest).drop callee.name.length
      match closingAfter? previous after with
      | some n =>
        .call (callee.name ++ after.take (n + 1)) ((after.take n).drop 1)
          :: callee.balancedFrom (some ')') (after.drop (n + 1))
      | none => .plain callee.name :: callee.balancedFrom callee.name.getLast? after
    else .plain [c] :: callee.balancedFrom (some c) rest
termination_by cs.length
decreasing_by
  all_goals
    have := List.length_pos_iff.mpr callee.name_ne
    simp only [List.length_drop, List.length_cons]
    omega

/-- The length of the argument that the non-whitespace scan finds behind `name(`: up to the
last closing parenthesis before a blank, but not empty. -/
def runArgument? (after : List Char) : Option Nat :=
  let run := after.takeWhile (!Text.isBlank ·)
  let tail := run.reverse.dropWhile (· != ')')
  if tail.length ≤ 1 then none else some (tail.length - 1)

/-- The segments that the non-whitespace scan finds in a text. -/
def runsFrom (callee : Callee) (cs : List Char) : List Segment :=
  match cs with
  | [] => []
  | c :: rest =>
    let head := callee.name ++ ['(']
    if head.isPrefixOf (c :: rest) then
      let after := (c :: rest).drop head.length
      match runArgument? after with
      | some n =>
        .call (head ++ after.take (n + 1)) (after.take n) :: callee.runsFrom (after.drop (n + 1))
      | none => .plain [c] :: callee.runsFrom rest
    else .plain [c] :: callee.runsFrom rest
termination_by cs.length
decreasing_by
  all_goals
    simp only [List.length_drop, List.length_cons]
    omega

/-- The segments of a text. -/
def segments (callee : Callee) (cs : List Char) : List Segment :=
  match callee.scan with
  | .balanced => callee.balancedFrom none cs
  | .unbroken => callee.runsFrom cs

end Callee

end IconInline.CallSite
