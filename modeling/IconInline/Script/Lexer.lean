import IconInline.Script.Escape
import IconInline.Script.Gap
import IconInline.Script.Token
import IconInline.Text.ByteSize
import IconInline.Text.NameChar

/-!
# Cutting a text into tokens

`Source.next` reads one token from the rest of a text. The grammar decides how a token begins
in four places: a slash may begin a regular expression, a closing brace may continue a
template, a `>` may be followed by more of an operator, and the text of a markup element obeys
rules of its own. Each has its own reader here.
-/

namespace IconInline.Script

/-- The unread rest of a text and the number of bytes before it. -/
structure Source where
  rest : List Char
  offset : Nat
  deriving DecidableEq, Repr

/-- A lexeme: what was read from the rest of a text and what is left. -/
structure Lexeme where
  kind : Kind
  size : Nat
  rest : List Char
  text : List Char := []
  escaped : Bool := false
  faulty : Bool := false
  deriving DecidableEq, Repr

/-- A lexeme that ends the module. -/
def Lexeme.broken (rest : List Char) : Lexeme := ⟨.invalid, 0, rest, [], false, true⟩

namespace Lexer

/-! ## Names -/

/-- Reads a name character by character; escapes are replaced by what they stand for. The
result is the name and the rest. -/
def nameWithEscapes? : (fuel : Nat) → (start : Bool) → List Char → Option (List Char × List Char)
  | 0, _, cs => some ([], cs)
  | fuel + 1, start, cs =>
    match cs with
    | '\\' :: 'u' :: rest =>
      match codeEscape? rest with
      | some (.code n, rest) =>
        let c := Char.ofNat n
        if isScalar n && (if start then Text.isNameStart c else Text.isNamePart c) then
          (nameWithEscapes? fuel false rest).map fun (name, rest) => (c :: name, rest)
        else none
      | _ => none
    | '\\' :: _ => none
    | c :: rest =>
      if (if start then Text.isNameStart c else Text.isNamePart c) then
        (nameWithEscapes? fuel false rest).map fun (name, rest) => (c :: name, rest)
      else some ([], cs)
    | [] => some ([], [])

/-- Reads a name: the name, its size in bytes, the rest, and whether it has an escape. -/
def name? (cs : List Char) : Option (List Char × Nat × List Char × Bool) :=
  let plain := cs.takeWhile Text.isNamePart
  let rest := cs.drop plain.length
  if rest.head? = some '\\' then
    match nameWithEscapes? (cs.length + 1) true cs with
    | some (name, rest') =>
      if name.isEmpty then none
      else some (name, Text.byteSize (cs.take (cs.length - rest'.length)), rest', true)
    | none => none
  else some (plain, Text.byteSize plain, rest, false)

/-- A name or a word. -/
def word (cs : List Char) : Lexeme :=
  match name? cs with
  | none => .broken cs
  | some (name, size, rest, escaped) =>
    let kind := match Word.ofText? (String.ofList name) with
      | some w => .word w
      | none => .name
    { kind, size, rest, text := name, escaped }

/-- A private name, behind its `#`. -/
def privateName (cs : List Char) : Lexeme :=
  if cs.head?.any (fun c => Text.isNameStart c || c == '\\') then
    match name? cs with
    | none => .broken cs
    | some (name, size, rest, escaped) =>
      { kind := .privateName, size := size + 1, rest, text := name, escaped }
  else .broken cs

/-! ## Numbers -/

/-- Reads digits with single underscores between them: what was read, the rest, and whether
every underscore stands between two digits. -/
def digits (p : Char → Bool) : (afterDigit : Bool) → List Char → Nat × List Char × Bool
  | afterDigit, [] => (0, [], afterDigit)
  | afterDigit, c :: rest =>
    if p c then
      let (n, rest, ok) := digits p true rest
      (n + 1, rest, ok)
    else if c = '_' then
      let (n, rest, ok) := digits p false rest
      (n + 1, rest, ok && afterDigit)
    else (0, c :: rest, afterDigit)

/-- A number of `size` bytes, behind which neither a digit nor a name may follow. -/
def numberLexeme (size : Nat) (ok : Bool) (rest : List Char) : Lexeme :=
  if rest.head?.any (fun c => Text.isNameStart c || c.isDigit || c == '\\') then .broken rest
  else { kind := .number, size, rest, faulty := !ok }

/-- A number of which `size` bytes were read: the mark of a big number may follow. -/
def numberEnd (size : Nat) (ok mayBeBig : Bool) (rest : List Char) : Lexeme :=
  match rest with
  | 'n' :: more => if mayBeBig then numberLexeme (size + 1) ok more else numberLexeme size ok rest
  | _ => numberLexeme size ok rest

/-- A number in another base, of which the two characters of its mark were read. -/
def based (p : Char → Bool) (rest : List Char) : Lexeme :=
  if rest.head?.any p then
    let (n, rest, ok) := digits p false rest
    numberEnd (n + 2) ok true rest
  else .broken rest

/-- Reads the digits of an exponent of which `size` bytes were read; there has to be one. -/
def exponentDigits? (size : Nat) (cs : List Char) : Option (Nat × List Char × Bool) :=
  if cs.head?.any Char.isDigit then
    let (n, rest, ok) := digits Char.isDigit false cs
    some (n + size, rest, ok)
  else none

/-- Reads an exponent behind its letter. -/
def exponentRest? (cs : List Char) : Option (Nat × List Char × Bool) :=
  match cs with
  | '+' :: rest | '-' :: rest => exponentDigits? 2 rest
  | _ => exponentDigits? 1 cs

/-- Reads an exponent if one follows. -/
def exponent? (cs : List Char) : Option (Nat × List Char × Bool) :=
  match cs with
  | 'e' :: rest | 'E' :: rest => exponentRest? rest
  | _ => some (0, cs, true)

/-- The rest of a decimal number behind `size` bytes of digits: an exponent may follow. -/
def exponentEnd (size : Nat) (ok : Bool) (cs : List Char) : Lexeme :=
  match exponent? cs with
  | some (m, rest, good) => numberEnd (size + m) (ok && good) false rest
  | none => .broken cs

/-- The rest of a decimal number of which `size` bytes up to its point were read. -/
def fraction (size : Nat) (ok : Bool) (cs : List Char) : Lexeme :=
  if cs.head?.any Char.isDigit then
    let (n, rest, fine) := digits Char.isDigit false cs
    exponentEnd (size + n) (ok && fine) rest
  else exponentEnd size ok cs

/-- The rest of a decimal number of which `size` bytes of its whole part were read. -/
def afterWhole (size : Nat) (ok mayBeBig : Bool) (cs : List Char) : Lexeme :=
  match cs with
  | '.' :: rest => fraction (size + 1) ok rest
  | _ =>
    if cs.head?.any (fun c => c == 'e' || c == 'E') then exponentEnd size ok cs
    else numberEnd size ok mayBeBig cs

/-- A number that begins with a zero and goes on with digits: octal, or decimal once a digit is
an eight or a nine. -/
def leadingZero (cs : List Char) : Lexeme :=
  let octal := cs.takeWhile isOctal
  let rest := cs.drop octal.length
  if rest.head?.any Char.isDigit then
    let more := rest.takeWhile Char.isDigit
    afterWhole (1 + octal.length + more.length) true false (rest.drop more.length)
  else numberEnd (1 + octal.length) true false rest

/-- A number that begins with a zero and goes on with a character `c`. -/
def zeroNumber (c : Char) (rest : List Char) : Lexeme :=
  match c with
  | 'b' | 'B' => based (fun c => c == '0' || c == '1') rest
  | 'o' | 'O' => based isOctal rest
  | 'x' | 'X' => based (fun c => (Text.hexDigit? c).isSome) rest
  | _ =>
    if c.isDigit then leadingZero (c :: rest)
    else if c = 'e' ∨ c = 'E' then
      -- the end of such a number is not checked
      match exponentRest? rest with
      | some (m, rest, good) => { kind := .number, size := m + 1, rest, faulty := !good }
      | none => .broken rest
    else afterWhole 1 true true (c :: rest)

/-- A number that begins with a digit. -/
def number (cs : List Char) : Lexeme :=
  match cs with
  | '0' :: c :: rest => zeroNumber c rest
  | _ =>
    let (n, rest, ok) := digits Char.isDigit false cs
    afterWhole n ok true rest

/-! ## Strings, templates and regular expressions -/

/-- Cuts a string behind its opening quote `q` at its closing one: what stands between them and
the rest. -/
def stringBody? (q : Char) : List Char → Option (List Char × List Char)
  | [] => none
  | '\\' :: '\r' :: '\n' :: rest =>
    (stringBody? q rest).map fun (b, r) => ('\\' :: '\r' :: '\n' :: b, r)
  | '\\' :: c :: rest => (stringBody? q rest).map fun (b, r) => ('\\' :: c :: b, r)
  | c :: rest =>
    if c = q then some ([], rest)
    else if c = '\n' ∨ c = '\r' then none
    else (stringBody? q rest).map fun (b, r) => (c :: b, r)

/-- A string whose opening quote `q` was read. -/
def string (q : Char) (cs : List Char) : Lexeme :=
  match stringBody? q cs with
  | none => .broken cs
  | some (body, rest) =>
    let size := Text.byteSize body + 2
    if body.contains '\\' then
      match unescape? true (body.length + 1) body with
      | some text => { kind := .string, size, rest, text, escaped := true }
      | none => { kind := .string, size, rest, escaped := true, faulty := true }
    else { kind := .string, size, rest, text := body }

/-- Cuts a template at its next substitution or at its end: what stands before, the rest, and
whether a substitution follows. -/
def templateBody? : List Char → Option (List Char × List Char × Bool)
  | [] => none
  | '`' :: rest => some ([], rest, false)
  | '$' :: '\x7b' :: rest => some ([], rest, true)
  | '\\' :: c :: rest => (templateBody? rest).map fun (b, r) => ('\\' :: c :: b, r)
  | c :: rest => (templateBody? rest).map fun (b, r) => (c :: b, r)

/-- A piece of a template whose first character was read. An ill-formed escape is only marked,
since a tagged template may hold one. -/
def templatePiece (whole head : Kind) (cs : List Char) : Lexeme :=
  match templateBody? cs with
  | none => .broken cs
  | some (body, rest, more) =>
    let valid := (unescape? false (body.length + 1) body).isSome
    { kind := if more then head else whole
      size := Text.byteSize body + (if more then 3 else 2)
      rest
      escaped := !valid }

/-- Cuts a regular expression at its closing slash: what stands before and the rest. -/
def regexBody? : (inClass : Bool) → List Char → Option (List Char × List Char)
  | _, [] => none
  | inClass, '\\' :: c :: rest =>
    if isLineEnd c then none
    else (regexBody? inClass rest).map fun (b, r) => ('\\' :: c :: b, r)
  | inClass, c :: rest =>
    if isLineEnd c then none
    else if c = '/' ∧ !inClass then some ([], rest)
    else
      let inClass := if c = '[' then true else if c = ']' then false else inClass
      (regexBody? inClass rest).map fun (b, r) => (c :: b, r)

/-- Are the flags of a regular expression: known ones, each once. -/
def validFlags (flags : List Char) : Bool :=
  flags.all ("dgimsuvy".toList.contains ·) && flags.Nodup

/-- A regular expression whose opening slash was read. -/
def regex (cs : List Char) : Lexeme :=
  match regexBody? false cs with
  | none => .broken cs
  | some (body, rest) =>
    let flags := rest.takeWhile Text.isNamePart
    { kind := .regex
      size := Text.byteSize body + 2 + Text.byteSize flags
      rest := rest.drop flags.length
      faulty := !validFlags flags }

/-! ## Punctuators -/

/-- The punctuator whose spelling begins a text. -/
def spelledPunct (cs : List Char) : Lexeme :=
  match Punct.spellings.find? (fun s => s.1.isPrefixOf cs) with
  | none => .broken cs
  | some (spelling, p) => { kind := p, size := spelling.length, rest := cs.drop spelling.length }

/-- The punctuator at the front of a text; the point of a number belongs to none. -/
def punct (cs : List Char) : Lexeme :=
  match cs with
  | '?' :: '.' :: c :: rest =>
    if c.isDigit then { kind := Punct.question, size := 1, rest := '.' :: c :: rest }
    else spelledPunct cs
  | _ => spelledPunct cs

/-- The token at the front of a text. -/
def lexeme (cs : List Char) : Lexeme :=
  match cs with
  | [] => ⟨.eof, 0, [], [], false, false⟩
  | '\'' :: rest => string '\'' rest
  | '"' :: rest => string '"' rest
  | '`' :: rest => templatePiece .template .templateHead rest
  | '#' :: rest => privateName rest
  | '.' :: c :: rest => if c.isDigit then fraction 1 true (c :: rest) else punct cs
  | c :: _ =>
    if Text.isNameStart c ∨ c = '\\' then word cs
    else if c.isDigit then number cs
    else punct cs

/-- The first line of a module that begins with `#!`. -/
def hashbang (cs : List Char) : Lexeme :=
  let line := cs.takeWhile (!isLineEnd ·)
  { kind := .hashbang, size := Text.byteSize line, rest := cs.drop line.length }

/-- The token at the front of a text in a markup element: a string has no escapes. -/
def lexemeInTag (cs : List Char) : Lexeme :=
  match cs with
  | q :: rest =>
    if q = '\'' ∨ q = '"' then
      let body := rest.takeWhile (· != q)
      let after := rest.drop body.length
      if after.isEmpty then .broken []
      else { kind := .string, size := Text.byteSize body + 2, rest := after.drop 1, text := body }
    else lexeme cs
  | [] => lexeme []

/-- The token at the front of a text between two tags of a markup element: text up to a brace or
a tag, or that brace or tag. -/
def lexemeOfChild (cs : List Char) : Lexeme :=
  match cs with
  | [] => lexeme []
  | c :: rest =>
    if c = '\x7b' then { kind := Punct.openBrace, size := 1, rest }
    else if c = '<' then { kind := Punct.less, size := 1, rest }
    else
      let text := cs.takeWhile (fun c => c != '\x7b' && c != '<')
      { kind := .markupText, size := Text.byteSize text, rest := cs.drop text.length }

end Lexer

namespace Source

/-- The token of a lexeme that begins where the source stands. -/
def take (s : Source) (newline : Bool) (l : Lexeme) : Token × Source :=
  ({ kind := l.kind, start := s.offset, stop := s.offset + l.size, newline
     escaped := l.escaped, faulty := l.faulty, text := l.text },
    ⟨l.rest, s.offset + l.size⟩)

/-- The token that `read` finds behind a gap; `first` if no token has been read. -/
def behindGap (s : Source) (first : Bool) (read : List Char → Lexeme) : Token × Source :=
  let gap := scanGap .between first 0 s.rest
  (⟨gap.rest, s.offset + gap.size⟩ : Source).take gap.newline
    (if gap.unclosed then .broken [] else read gap.rest)

/-- The next token; `first` if no token has been read. A module may begin with a line behind
`#!`. -/
def next (s : Source) (first : Bool) : Token × Source :=
  if s.offset = 0 ∧ ['#', '!'].isPrefixOf s.rest then s.take first (Lexer.hashbang s.rest)
  else s.behindGap first Lexer.lexeme

/-- The token behind a gap in a markup element. -/
def nextInTag (s : Source) : Token × Source := s.behindGap false Lexer.lexemeInTag

/-- The token between two tags of a markup element. -/
def nextChild (s : Source) : Token × Source := s.take false (Lexer.lexemeOfChild s.rest)

end Source

end IconInline.Script
