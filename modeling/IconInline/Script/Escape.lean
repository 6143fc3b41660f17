import IconInline.Text.Hex

/-!
# Escapes in strings, templates and names

A backslash begins an escape. What it means depends on where it stands: strings admit octal
numbers, templates do not, and names admit code points only.
-/

namespace IconInline.Script

open Text (hexDigit? hexDigits?)

/-- The code point written up to a closing brace, and the text behind the brace. At least one
digit has to stand there. -/
def bracedCode? : (seen : Bool) → (value : Nat) → List Char → Option (Nat × List Char)
  | seen, value, '\x7d' :: rest => if seen then some (value, rest) else none
  | _, value, c :: rest =>
    (hexDigit? c).bind fun d =>
      let value := value * 16 + d
      if 0x10ffff < value then none else bracedCode? true value rest
  | _, _, [] => none

/-- Code units that an escape behind `\u` stands for: a code point, or a pair of surrogates
that does not fit together. -/
inductive Units where
  | code (n : Nat)
  | unpaired (high low : Nat)
  deriving DecidableEq, Repr

/-- Reads what follows `\u`. -/
def codeEscape? (cs : List Char) : Option (Units × List Char) :=
  match cs with
  | '\x7b' :: rest => (bracedCode? false 0 rest).map fun r => (.code r.1, r.2)
  | _ =>
    (hexDigits? 4 0 cs).bind fun (high, rest) =>
      match rest with
      | '\\' :: 'u' :: more =>
        if 0xd800 ≤ high ∧ high ≤ 0xdbff then
          (hexDigits? 4 0 more).map fun (low, rest) =>
            if 0xdc00 ≤ low ∧ low ≤ 0xdfff then
              (.code ((high - 0xd800) * 0x400 + (low - 0xdc00) + 0x10000), rest)
            else (.unpaired high low, rest)
        else some (.code high, rest)
      | _ => some (.code high, rest)

/-- Is the code point of a character. -/
def isScalar (n : Nat) : Bool := n < 0xd800 || (0xdfff < n && n ≤ 0x10ffff)

/-- A code point as text; half of a pair is written out. -/
def codeText (n : Nat) : List Char :=
  if isScalar n then [Char.ofNat n] else '\\' :: 'u' :: Nat.toDigits 16 n

/-- Code units as text. -/
def Units.text : Units → List Char
  | code n => codeText n
  | unpaired high low => codeText high ++ codeText low

/-- Is an octal digit. -/
def isOctal (c : Char) : Bool := '0' ≤ c && c ≤ '7'

/-- The character with an octal number. -/
def octalChar (digits : List Char) : Char :=
  Char.ofNat (digits.foldl (fun n d => n * 8 + (d.toNat - 48)) 0)

/-- The octal digits of an escape that begins with the digit `c`, and the rest. -/
def octalDigits (c : Char) (rest : List Char) : List Char × List Char :=
  let more := (rest.take (if c ≤ '3' then 2 else 1)).takeWhile isOctal
  (c :: more, rest.drop more.length)

/-- Reads what follows a backslash in a string (`octal`) or a template: the text that it stands
for and the rest, unless it is ill-formed. -/
def stringEscape? (octal : Bool) : List Char → Option (List Char × List Char)
  | [] => none
  | '\r' :: '\n' :: rest => some ([], rest)
  | 'n' :: rest => some (['\n'], rest)
  | 't' :: rest => some (['\t'], rest)
  | 'r' :: rest => some (['\r'], rest)
  | 'b' :: rest => some (['\x08'], rest)
  | 'v' :: rest => some (['\x0b'], rest)
  | 'f' :: rest => some (['\x0c'], rest)
  | 'x' :: rest => (hexDigits? 2 0 rest).map fun r => ([Char.ofNat r.1], r.2)
  | 'u' :: rest => (codeEscape? rest).map fun r => (r.1.text, r.2)
  | c :: rest =>
    if c.val == '\n'.val || c == '\r' || c == '\u2028' || c == '\u2029' then some ([], rest)
    else if c.isDigit then
      if c = '0' ∧ !(rest.head?.any Char.isDigit) then some (['\x00'], rest)
      else if !octal then none
      else if isOctal c then
        let (digits, rest) := octalDigits c rest
        some ([octalChar digits], rest)
      else some ([c], rest)
    else some ([c], rest)

/-- The text that the characters between quotes stand for, unless an escape is ill-formed. At
most `fuel` characters and escapes are read. -/
def unescape? (octal : Bool) : (fuel : Nat) → List Char → Option (List Char)
  | _, [] => some []
  | 0, _ :: _ => none
  | fuel + 1, '\\' :: rest => do
    let (text, rest) ← stringEscape? octal rest
    let more ← unescape? octal fuel rest
    return text ++ more
  | fuel + 1, c :: rest => (unescape? octal fuel rest).map (c :: ·)

end IconInline.Script
