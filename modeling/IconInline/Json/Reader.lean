import IconInline.Json.Fault
import IconInline.Text.ByteSize
import IconInline.Text.Hex

/-!
# Reading JSON text

A reader consumes the rest of a text and counts the bytes consumed. `value` reads a JSON value,
`skipValue` only checks that one is there, which is how members that nobody asks for are read:
it accepts escaped surrogates, numbers of any size and any depth of nesting.
-/

namespace IconInline.Json

/-- The unread rest of a text and the number of bytes before it. -/
structure Cursor where
  rest : List Char
  offset : Nat
  deriving DecidableEq, Repr

/-- A computation that consumes text and may refuse it. -/
abbrev Reader := EStateM Fault Cursor

namespace Reader

/-- Refuses at the place up to which the text has been read. -/
def fail {α : Type} (cause : Cause) : Reader α := do
  throw ⟨cause, some (← get).offset⟩

/-- Refuses the next byte; at the end of the text there is none to count. -/
def failNext {α : Type} (cause : Cause) : Reader α := do
  let c ← get
  throw ⟨cause, some (if c.rest.isEmpty then c.offset else c.offset + 1)⟩

/-- Refuses without a place; the enclosing value supplies it. -/
def failUnplaced {α : Type} (cause : Cause) : Reader α := throw ⟨cause, none⟩

/-- Supplies the present place to a fault that has none. -/
def placed {α : Type} (r : Reader α) : Reader α := fun c =>
  match r c with
  | .error ⟨cause, none⟩ c' => .error ⟨cause, some c'.offset⟩ c'
  | result => result

/-- Runs `after` whatever the outcome of `r`; a fault of `r` goes before one of `after`. -/
def thenAlways {α : Type} (r : Reader α) (after : Reader Unit) : Reader α := fun c =>
  match r c with
  | .ok a c' =>
    match after c' with
    | .ok () c'' => .ok a c''
    | .error e c'' => .error e c''
  | .error e c' =>
    match after c' with
    | .ok () c'' => .error e c''
    | .error _ c'' => .error e c''

/-- The next character. -/
def peek : Reader (Option Char) := return (← get).rest.head?

/-- Consumes the next character. -/
def skip : Reader Unit := modify fun c =>
  match c.rest with
  | [] => c
  | x :: rest => ⟨rest, c.offset + x.utf8Size⟩

/-- The amount of text left, a bound on the steps that a reader can take. -/
def fuel : Reader Nat := return (← get).rest.length + 1

/-- Consumes the characters that satisfy `p` and returns them. -/
def takeWhile (p : Char → Bool) : Reader (List Char) := do
  let c ← get
  let taken := c.rest.takeWhile p
  set (⟨c.rest.drop taken.length, c.offset + Text.byteSize taken⟩ : Cursor)
  return taken

/-- May stand between the parts of a value. -/
def isGap (c : Char) : Bool := c == ' ' || c == '\n' || c == '\t' || c == '\r'

/-- The next character behind any gap. -/
def peekPart : Reader (Option Char) := do
  let _ ← takeWhile isGap
  peek

/-- Reads the rest of a word whose first letter has been recognised. -/
def wordRest : List Char → Reader Unit
  | [] => pure ()
  | expected :: more => do
    match ← peek with
    | none => fail .endInValue
    | some c =>
      if c = expected then
        skip
        wordRest more
      else failNext .wordExpected

/-- Reads a word whose first letter stands next. -/
def word (letters : String) : Reader Unit := do
  skip
  wordRest (letters.toList.drop 1)

/-! ## Numbers -/

/-- The greatest number of 64 bits. -/
def maxWord : Nat := twoTo 64 - 1

/-- Appends digits to a number as long as it fits into 64 bits; returns it with the digits that
are left over. -/
def appendDigits : Nat → List Char → Nat × List Char
  | n, [] => (n, [])
  | n, d :: rest =>
    let n' := n * 10 + (d.toNat - 48)
    if maxWord < n' then (n, d :: rest) else appendDigits n' rest

/-- The number with a sign, a significand and a decimal exponent. -/
def scaled (positive : Bool) (significand : Nat) (exponent : Int) : Reader JsonNumber :=
  match Binary64.ofDecimal? significand exponent with
  | some x => return .floating (if positive then x else x.negate)
  | none => fail .numberTooLarge

/-- The greatest decimal exponent that is counted. -/
def maxExponent : Nat := twoTo 31 - 1

/-- Reads the digits of an exponent up to the one that makes it too large, which is consumed;
tells whether there is such a digit. -/
def exponentDigits : (fuel exponent : Nat) → Reader (Nat × Bool)
  | 0, n => return (n, false)
  | fuel + 1, n => do
    match ← peek with
    | none => return (n, false)
    | some c =>
      if c.isDigit then
        skip
        let n' := n * 10 + (c.toNat - 48)
        if maxExponent < n' then return (n, true) else exponentDigits fuel n'
      else return (n, false)

/-- Reads an exponent, whose mark stands next. -/
def exponent (positive : Bool) (significand : Nat) (start : Int) : Reader JsonNumber := do
  skip
  let up ←
    match ← peek with
    | some '+' => skip; pure true
    | some '-' => skip; pure false
    | _ => pure true
  match ← peek with
  | none => fail .endInValue
  | some c =>
    if !c.isDigit then failNext .badNumber
    else
      skip
      let (e, tooLarge) ← exponentDigits (← fuel) (c.toNat - 48)
      if tooLarge then
        if significand ≠ 0 ∧ up then fail .numberTooLarge
        else
          let _ ← takeWhile Char.isDigit
          return .floating (.zero (!positive))
      else scaled positive significand (if up then start + e else start - e)

/-- Reads an exponent if one follows. -/
def exponent? (positive : Bool) (significand : Nat) (start : Int) : Reader JsonNumber := do
  match ← peek with
  | some 'e' | some 'E' => exponent positive significand start
  | _ => scaled positive significand start

/-- Reads the digits behind a point, which stands next. -/
def decimals (positive : Bool) (significand : Nat) (start : Int) : Reader JsonNumber := do
  skip
  let digits ← takeWhile Char.isDigit
  if digits.isEmpty then
    match ← peek with
    | none => failNext .endInValue
    | some _ => failNext .badNumber
  else
    let (n, dropped) := appendDigits significand digits
    exponent? positive n (start - (digits.length - dropped.length : Nat))

/-- A whole number, unless it is too small for 64 bits or a negative zero. -/
def wholeNumber (positive : Bool) (n : Nat) : JsonNumber :=
  if positive then .whole n
  else if n = 0 then .floating (.zero true)
  else if n ≤ twoTo 63 then .whole (-(n : Int))
  else .floating (Binary64.ofNat n).negate

/-- Reads a number behind its sign. -/
def number (positive : Bool) : Reader JsonNumber := do
  match ← peek with
  | none => fail .endInValue
  | some c =>
    if !c.isDigit then failNext .badNumber
    else
      skip
      let digits ← if c = '0' then pure [] else takeWhile Char.isDigit
      if c = '0' ∧ (← peek).any Char.isDigit then failNext .badNumber
      let (n, dropped) := appendDigits (c.toNat - 48) digits
      match ← peek with
      | some '.' => decimals positive n dropped.length
      | some 'e' | some 'E' => exponent positive n dropped.length
      | _ =>
        if dropped.isEmpty then return wholeNumber positive n
        else scaled positive n dropped.length

/-- Reads a number. -/
def signedNumber : Reader JsonNumber := do
  if (← peek) = some '-' then
    skip
    number false
  else number true

/-! ## Strings -/

/-- Reads four hexadecimal digits. Four bytes are consumed, whatever they are. -/
def fourHexDigits : Reader Nat := do
  let c ← get
  let bytes := Text.byteSize c.rest
  if bytes < 4 then throw ⟨.endInString, some (c.offset + bytes)⟩
  match Text.hexDigits? 4 0 c.rest with
  | some (n, rest) =>
    set (⟨rest, c.offset + 4⟩ : Cursor)
    return n
  | none => throw ⟨.badEscape, some (c.offset + 4)⟩

/-- Reads an expected character inside a string. -/
def pairSign (expected : Char) : Reader Unit := do
  match ← peek with
  | none => fail .endInString
  | some c => if c = expected then skip else failNext .halfSurrogate

/-- Reads what follows `\u`: one code unit, or two that form a pair. -/
def unicodeEscape : Reader Char := do
  let high ← fourHexDigits
  if 0xdc00 ≤ high ∧ high ≤ 0xdfff then fail .loneSurrogate
  else if high < 0xd800 ∨ 0xdbff < high then return Char.ofNat high
  else
    pairSign '\\'
    pairSign 'u'
    let low ← fourHexDigits
    if low < 0xdc00 ∨ 0xdfff < low then fail .loneSurrogate
    else return Char.ofNat ((high - 0xd800) * 0x400 + (low - 0xdc00) + 0x10000)

/-- The character that a letter behind a backslash stands for. -/
def plainEscape? : Char → Option Char
  | '"' => some '"'
  | '\\' => some '\\'
  | '/' => some '/'
  | 'b' => some '\x08'
  | 'f' => some '\x0c'
  | 'n' => some '\n'
  | 'r' => some '\r'
  | 't' => some '\t'
  | _ => none

/-- Reads what follows a backslash. -/
def escape : Reader Char := do
  match ← peek with
  | none => fail .endInString
  | some 'u' =>
    skip
    unicodeEscape
  | some c =>
    match plainEscape? c with
    | some x =>
      skip
      return x
    | none => failNext .badEscape

/-- Reads the characters of a string up to its closing quote. -/
def stringRest : (fuel : Nat) → (read : List Char) → Reader String
  | 0, _ => fail .endInString
  | fuel + 1, read => do
    match ← peek with
    | none => fail .endInString
    | some '"' =>
      skip
      return String.ofList read.reverse
    | some '\\' =>
      skip
      let c ← escape
      stringRest fuel (c :: read)
    | some c =>
      if c.val < 0x20 then failNext .controlCharacter
      else
        skip
        stringRest fuel (c :: read)

/-- Reads a string, whose opening quote stands next. -/
def string : Reader String := do
  skip
  stringRest (← fuel) []

/-! ## Values -/

/-- Reads a literal word or a number or a string; `none` if a list, an object or nothing of the
kind follows. -/
def scalar? (next : Char) : Reader (Option Json) := do
  match next with
  | 'n' => word "null"; return some .null
  | 't' => word "true"; return some (.bool true)
  | 'f' => word "false"; return some (.bool false)
  | '"' => return some (.string (← string))
  | c =>
    if c = '-' ∨ c.isDigit then return some (.number (← signedNumber)) else return none

/-- Is there one more item in a list of which the opening bracket, or an item, was read? -/
def moreItems (first : Bool) : Reader Bool := do
  match ← peekPart with
  | none => failNext .endInList
  | some ']' => return false
  | some c =>
    if first then return true
    else if c = ',' then
      skip
      match ← peekPart with
      | none => failNext .endInValue
      | some ']' => failNext .trailingComma
      | some _ => return true
    else failNext .listEndExpected

/-- Is there one more member in an object of which the opening brace, or a member, was read? -/
def moreMembers (first : Bool) : Reader Bool := do
  match ← peekPart with
  | none => failNext .endInObject
  | some '\x7d' => return false
  | some c =>
    if first then
      if c = '"' then return true else failNext .keyExpected
    else if c = ',' then
      skip
      match ← peekPart with
      | none => failNext .endInValue
      | some '"' => return true
      | some '\x7d' => failNext .trailingComma
      | some _ => failNext .keyExpected
    else failNext .objectEndExpected

/-- Reads the end of a list. -/
def listEnd : Reader Unit := do
  match ← peekPart with
  | none => failNext .endInList
  | some ']' => skip
  | some ',' =>
    skip
    if (← peekPart) = some ']' then failNext .trailingComma else failNext .trailingCharacters
  | some _ => failNext .trailingCharacters

/-- Reads the end of an object. -/
def objectEnd : Reader Unit := do
  match ← peekPart with
  | none => failNext .endInObject
  | some '\x7d' => skip
  | some ',' => failNext .trailingComma
  | some _ => failNext .trailingCharacters

/-- Reads the colon between name and value of a member. -/
def colon : Reader Unit := do
  match ← peekPart with
  | none => failNext .endInObject
  | some ':' => skip
  | some _ => failNext .colonExpected

/-- Reads the items of a list. -/
def items {α : Type} (item : Reader α) : (fuel : Nat) → (first : Bool) → Reader (List α)
  | 0, _ => fail .endInList
  | fuel + 1, first => do
    if ← moreItems first then
      let a ← item
      let more ← items item fuel false
      return a :: more
    else return []

/-- Reads the members of an object; the reader of a value is given the member's name. -/
def members {α : Type} (item : String → Reader α) :
    (fuel : Nat) → (first : Bool) → Reader (List α)
  | 0, _ => fail .endInObject
  | fuel + 1, first => do
    if ← moreMembers first then
      let name ← string
      let a ← item name
      let more ← members item fuel false
      return a :: more
    else return []

/-- The number of brackets that may be open at a time, plus one. -/
def depthLimit : Nat := 128

/-- Enters a bracket if the depth allows it. -/
def enter (depth : Nat) : Reader Unit := do
  if depth ≤ 1 then failNext .tooDeep
  skip

/-- Reads a value below at most `depth - 1` further brackets. -/
def value : (fuel depth : Nat) → Reader Json
  | 0, _ => fail .endInValue
  | fuel + 1, depth => do
    match ← peekPart with
    | none => failNext .endInValue
    | some '[' =>
      enter depth
      let found ← items (value fuel (depth - 1)) (← Reader.fuel) true
      listEnd
      return .array found
    | some '\x7b' =>
      enter depth
      let found ← members (fun name => do
        colon
        let v ← value fuel (depth - 1)
        return (name, v)) (← Reader.fuel) true
      objectEnd
      return ofMembers found
    | some c =>
      match ← scalar? c with
      | some v => return v
      | none => failNext .valueExpected

/-! ## Values that nobody asks for -/

/-- Passes over the digits of a number behind its sign. -/
def skipNumber : Reader Unit := do
  match ← peek with
  | none => fail .badNumber
  | some c =>
    if !c.isDigit then failNext .badNumber
    else
      skip
      if c = '0' then
        if (← peek).any Char.isDigit then failNext .badNumber
      else
        let _ ← takeWhile Char.isDigit
      if (← peek) = some '.' then
        skip
        if (← takeWhile Char.isDigit).isEmpty then failNext .badNumber
      let mark ← peek
      if mark = some 'e' ∨ mark = some 'E' then
        skip
        let sign ← peek
        if sign = some '+' ∨ sign = some '-' then skip
        match ← peek with
        | none => fail .badNumber
        | some d =>
          if d.isDigit then
            let _ ← takeWhile Char.isDigit
          else failNext .badNumber

/-- Passes over what follows a backslash. -/
def skipEscape : Reader Unit := do
  match ← peek with
  | none => fail .endInString
  | some 'u' =>
    skip
    let _ ← fourHexDigits
  | some c => if (plainEscape? c).isSome then skip else failNext .badEscape

/-- Passes over a string up to its closing quote. -/
def skipStringRest : (fuel : Nat) → Reader Unit
  | 0 => fail .endInString
  | fuel + 1 => do
    match ← peek with
    | none => fail .endInString
    | some '"' => skip
    | some '\\' =>
      skip
      skipEscape
      skipStringRest fuel
    | some c =>
      if c.val < 0x20 then fail .controlCharacter
      else
        skip
        skipStringRest fuel

/-- Passes over a string. -/
def skipString : Reader Unit := do
  skip
  skipStringRest (← fuel)

/-- Passes over items, each read by `item`, up to a closing bracket that stands alone. -/
def skipItems (close : Char) (atEnd notEnd : Cause) (item : Reader Unit) :
    (fuel : Nat) → Reader Unit
  | 0 => fail atEnd
  | fuel + 1 => do
    item
    match ← peekPart with
    | none => failNext atEnd
    | some c =>
      if c = ',' then
        skip
        skipItems close atEnd notEnd item fuel
      else if c = close then skip
      else failNext notEnd

/-- Passes over a value. -/
def skipValue : (fuel : Nat) → Reader Unit
  | 0 => fail .endInValue
  | fuel + 1 => do
    match ← peekPart with
    | none => failNext .endInValue
    | some 'n' => word "null"
    | some 't' => word "true"
    | some 'f' => word "false"
    | some '"' => skipString
    | some '[' =>
      skip
      match ← peekPart with
      | none => failNext .endInList
      | some ']' => skip
      | some _ =>
        skipItems ']' .endInList .listEndExpected (skipValue fuel) (← Reader.fuel)
    | some '\x7b' =>
      skip
      match ← peekPart with
      | none => failNext .endInObject
      | some '\x7d' => skip
      | some _ =>
        skipItems '\x7d' .endInObject .objectEndExpected (do
          match ← peekPart with
          | none => failNext .endInObject
          | some '"' => skipString
          | some _ => failNext .keyExpected
          colon
          skipValue fuel) (← Reader.fuel)
    | some '-' =>
      skip
      skipNumber
    | some c => if c.isDigit then skipNumber else failNext .valueExpected

/-- Reads nothing but a gap up to the end of the text. -/
def finish : Reader Unit := do
  match ← peekPart with
  | none => pure ()
  | some _ => failNext .trailingCharacters

/-- Runs a reader on a whole text. -/
def onText {α : Type} (r : Reader α) (text : String) : Except Fault α :=
  match (do let a ← r; finish; return a : Reader α) ⟨text.toList, 0⟩ with
  | .ok a _ => .ok a
  | .error e _ => .error e

end Reader

/-- Reads a whole text as a JSON value. -/
def ofText (text : String) : Except Fault Json :=
  Reader.onText (do Reader.value (← Reader.fuel) Reader.depthLimit) text

end IconInline.Json
