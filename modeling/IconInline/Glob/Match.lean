import IconInline.Failure
import IconInline.Files.Path
import IconInline.Glob.Reader

/-!
# Matching paths

A part of a pattern takes some bytes off the front of a path and leaves a rest; `rests` lists
the rests that are possible. A pattern matches a path if it can take all of it. A path that ends
in a dot has neither a name nor an extension, so patterns that are judged by these never match
it.
-/

namespace IconInline.Glob

/-- The bytes of a character. -/
def charBytes (c : Char) : List UInt8 := String.utf8EncodeChar c

/-- The ranges of bytes that a range of characters stands for: characters beyond one byte
count as bytes of their own, and only the bytes next to the hyphen span a range. -/
def byteRanges (low high : Char) : List (UInt8 × UInt8) :=
  let single (b : UInt8) := (b, b)
  if low = high then (charBytes low).map single
  else
    let ls := charBytes low
    let hs := charBytes high
    ls.dropLast.map single ++ [(ls.getLastD 0, hs.headD 0)] ++ hs.tail.map single

/-- Is a byte in one of some ranges? -/
def inRanges (ranges : List (Char × Char)) (b : UInt8) : Bool :=
  ranges.any fun (low, high) => (byteRanges low high).any fun (l, h) => l ≤ b && b ≤ h

/-- The byte of a slash. -/
def slash : UInt8 := 0x2f

/-- A text and all that may remain behind some of its bytes. -/
def suffixes : List UInt8 → List (List UInt8)
  | [] => [[]]
  | b :: rest => (b :: rest) :: suffixes rest

/-- What may remain behind a slash somewhere in a text. -/
def afterSlashes : List UInt8 → List (List UInt8)
  | [] => []
  | b :: rest => if b = slash then rest :: afterSlashes rest else afterSlashes rest

/-- A list of rests of one text, each of them once. -/
def distinct (rests : List (List UInt8)) : List (List UInt8) :=
  rests.foldr (fun r kept => if kept.any (·.length == r.length) then kept else r :: kept) []

mutual

/-- Is there nothing in a pattern but groups of which nothing is left? -/
def isVoid : List Part → Bool
  | [] => true
  | .choice branches :: more => areVoid branches && isVoid more
  | _ => false

/-- Are all branches of a group void? -/
def areVoid : List (List Part) → Bool
  | [] => true
  | branch :: more => isVoid branch && areVoid more

end

mutual

/-- What may remain of a text behind a part. -/
def Part.rests (text : List UInt8) : Part → List (List UInt8)
  | .literal c =>
    let bytes := charBytes c
    if bytes.isPrefixOf text then [text.drop bytes.length] else []
  | .anyByte =>
    match text with
    | [] => []
    | _ :: rest => [rest]
  | .anyBytes => suffixes text
  | .leadingDirs => text :: afterSlashes text
  | .trailingDirs =>
    match text with
    | b :: rest => if b = slash then suffixes rest else []
    | [] => []
  | .innerDirs =>
    match text with
    | b :: rest => if b = slash then rest :: afterSlashes rest else []
    | [] => []
  | .class negated ranges =>
    match text with
    | b :: rest => if inRanges ranges b != negated then [rest] else []
    | [] => []
  | .choice branches =>
    match choiceRests text branches with
    | none => [text]
    | some rests => distinct rests

/-- What may remain of a text behind one of several branches, unless all of them are void. A
void branch does not count beside others. -/
def choiceRests (text : List UInt8) : List (List Part) → Option (List (List UInt8))
  | [] => none
  | branch :: more =>
    if isVoid branch then choiceRests text more
    else some (seqRests [text] branch ++ (choiceRests text more).getD [])

/-- What may remain of one of some texts behind a sequence of parts. -/
def seqRests (texts : List (List UInt8)) : List Part → List (List UInt8)
  | [] => texts
  | part :: more => seqRests (distinct (texts.flatMap fun text => part.rests text)) more

end

/-- Do the parts of a pattern take a whole text? -/
def takesAll (parts : List Part) (text : List UInt8) : Bool :=
  match parts with
  | [.leadingDirs] => true
  | _ => (seqRests [text] parts).contains []

/-- The character of a literal part. -/
def Part.char? : Part → Option Char
  | .literal c => some c
  | _ => none

/-- Are all parts literal? -/
def isText (parts : List Part) : Bool := parts.all fun p => p.char?.isSome

/-- Is a pattern, of which nothing or `**/` came before, judged by the end of the whole path? -/
def endsFreely : List Part → Bool
  | .anyBytes :: more => isText more && 2 ≤ more.length
  | _ => false

/-- Is a pattern that ends in a dot judged by the whole path, rather than by the name or the
extension in it? -/
def judgesWhole : List Part → Bool
  | .leadingDirs :: more =>
    if isText more then more.any (·.char? == some '/') else endsFreely more
  | parts => isText parts || endsFreely parts

/-- Is a pattern one that no path matches because such a path would end in a dot? -/
def endsInVain (parts : List Part) : Bool :=
  (parts.getLast?.bind Part.char?) == some '.' && !judgesWhole parts

/-- Does a pattern match a path? -/
def isMatch (parts : List Part) (path : Path) : Bool :=
  !endsInVain parts && takesAll parts (path.chars.flatMap charBytes)

end IconInline.Glob

namespace IconInline

/-- The paths that match one of some patterns. -/
structure PathFilter where
  patterns : List (List Glob.Part)
  deriving Repr

namespace PathFilter

/-- The filter for some patterns. The first pattern that is none is reported. -/
def ofPatterns : List String → Except Failure PathFilter
  | [] => .ok ⟨[]⟩
  | pattern :: more =>
    match Glob.parts pattern.toList with
    | .error fault =>
      .error (.pattern pattern ("error parsing glob '" ++ pattern ++ "': " ++ fault.message))
    | .ok parts => (ofPatterns more).map fun filter => ⟨parts :: filter.patterns⟩

/-- Does a path match one of the patterns? -/
def admits (filter : PathFilter) (path : Path) : Bool :=
  filter.patterns.any fun parts => Glob.isMatch parts path

end PathFilter

end IconInline
