import IconInline.Json.Value
import IconInline.Text.Hex

/-!
# Words of TOML

Numbers, dates and truth values are written as one word of letters, digits and a few marks.
Underscores may stand between two digits, whole numbers have 64 bits, and dates are checked
against the calendar.
-/

namespace IconInline.Toml

/-- A character of a word. -/
def isWordChar (c : Char) : Bool :=
  c.isAlphanum || c == '+' || c == '-' || c == '_' || c == '.' || c == ':'

/-! ## Digits -/

/-- A text without an underscore at its front, if a digit follows that. -/
def dropUnderscore (isDigit : Char → Bool) (cs : List Char) : List Char :=
  match cs with
  | '_' :: d :: _ => if isDigit d then cs.tail else cs
  | _ => cs

/-- The digits at the front of a text without the underscores between them, and the rest. -/
def digitsFrom (isDigit : Char → Bool) : (bound : Nat) → List Char → List Char × List Char
  | bound + 1, c :: rest =>
    if isDigit c then
      let (ds, after) := digitsFrom isDigit bound (dropUnderscore isDigit rest)
      (c :: ds, after)
    else ([], c :: rest)
  | _, cs => ([], cs)

/-- The digits at the front of a text, of which there has to be one, and the rest. -/
def digits? (isDigit : Char → Bool) (cs : List Char) : Option (List Char × List Char) :=
  match digitsFrom isDigit cs.length cs with
  | ([], _) => none
  | found => some found

/-- The digits of a whole number, which begin with a zero only for zero itself. -/
def wholeDigits? : List Char → Option (List Char × List Char)
  | '0' :: rest => some (['0'], rest)
  | cs => digits? Char.isDigit cs

/-- The number that digits write in a base. -/
def valueOf (base : Nat) (digits : List Char) : Nat :=
  digits.foldl (fun n d => n * base + (Text.hexDigit? d).getD 0) 0

/-! ## Numbers -/

/-- A whole number that fits into 64 bits. -/
def whole? (negative : Bool) (n : Nat) : Option Json :=
  let i : Int := if negative then -n else n
  if -(twoTo 63 : Int) ≤ i ∧ i < twoTo 63 then some (.number (.whole i)) else none

/-- A whole number in a base, written behind its mark. -/
def based? (base : Nat) (isDigit : Char → Bool) (cs : List Char) : Option Json :=
  match digits? isDigit cs with
  | some (ds, []) => whole? false (valueOf base ds)
  | _ => none

/-- A sign at the front of a text, and the rest. -/
def sign : List Char → Bool × List Char
  | '-' :: rest => (true, rest)
  | '+' :: rest => (false, rest)
  | cs => (false, cs)

/-- The exponent behind a number, or zero without one. -/
def exponent? : List Char → Option Int
  | [] => some 0
  | c :: rest =>
    let (negative, ds) := sign rest
    if c != 'e' && c != 'E' then none
    else
      match digits? Char.isDigit ds with
      | some (ds, []) => some (if negative then -valueOf 10 ds else valueOf 10 ds)
      | _ => none

/-- A number with a fraction or an exponent, behind the digits of its whole part. A positive
number beyond all others is refused, a negative one counts as zero. -/
def floating? (negative : Bool) (whole rest : List Char) : Option Json := do
  let (fraction, rest) ←
    match rest with
    | '.' :: cs => digits? Char.isDigit cs
    | _ => some ([], rest)
  let exponent ← exponent? rest
  match Binary64.ofDecimal? (valueOf 10 (whole ++ fraction)) (exponent - fraction.length) with
  | some x => return .number (.floating (if negative then x.negate else x))
  | none => if negative then return .number (.floating (.zero true)) else none

/-- A number in decimal digits. An infinity, or what is no number, counts as zero. -/
def decimal? (cs : List Char) : Option Json :=
  let (negative, cs) := sign cs
  if cs = ['i', 'n', 'f'] ∨ cs = ['n', 'a', 'n'] then some (.number (.floating (.zero negative)))
  else
    match wholeDigits? cs with
    | none => none
    | some (ds, []) => whole? negative (valueOf 10 ds)
    | some (ds, rest) => floating? negative ds rest

/-- The number that a word writes. -/
def number? : List Char → Option Json
  | '0' :: 'x' :: cs => based? 16 (fun c => (Text.hexDigit? c).isSome) cs
  | '0' :: 'o' :: cs => based? 8 (fun c => '0' ≤ c && c ≤ '7') cs
  | '0' :: 'b' :: cs => based? 2 (fun c => c == '0' || c == '1') cs
  | cs => decimal? cs

/-! ## Dates -/

/-- The number that the first `n` characters write in decimal digits, and the rest. -/
def fixedDigits? (n : Nat) (cs : List Char) : Option (Nat × List Char) :=
  let ds := cs.take n
  if ds.length = n ∧ ds.all Char.isDigit then some (valueOf 10 ds, cs.drop n) else none

/-- A number of two digits between two limits, and the rest. -/
def limited? (low high : Nat) (cs : List Char) : Option (Nat × List Char) :=
  (fixedDigits? 2 cs).filter fun (n, _) => low ≤ n && n ≤ high

/-- The rest of a text behind a mark at its front. -/
def behind? (mark : Char) : List Char → Option (List Char)
  | c :: rest => if c = mark then some rest else none
  | [] => none

/-- The number of days in a month. -/
def daysIn (year month : Nat) : Nat :=
  if month = 2 then
    if year % 4 = 0 ∧ (year % 100 ≠ 0 ∨ year % 400 = 0) then 29 else 28
  else if month = 4 ∨ month = 6 ∨ month = 9 ∨ month = 11 then 30
  else 31

/-- The rest of a text behind a day of the calendar. -/
def behindDay? (cs : List Char) : Option (List Char) := do
  let (year, cs) ← fixedDigits? 4 cs
  let (month, cs) ← limited? 1 12 (← behind? '-' cs)
  let (_, cs) ← limited? 1 (daysIn year month) (← behind? '-' cs)
  return cs

/-- The rest of a text behind a time of the day, up to a leap second. -/
def behindTime? (cs : List Char) : Option (List Char) := do
  let (_, cs) ← limited? 0 23 cs
  let (_, cs) ← limited? 0 59 (← behind? ':' cs)
  let (_, cs) ← limited? 0 60 (← behind? ':' cs)
  match cs with
  | '.' :: c :: rest => if c.isDigit then return rest.dropWhile Char.isDigit else none
  | '.' :: [] => none
  | _ => return cs

/-- Is a text an offset from universal time, or empty? -/
def isOffset (cs : List Char) : Bool :=
  match cs with
  | [] | ['Z'] | ['z'] => true
  | c :: rest =>
    let ends? := do
      let (_, cs) ← limited? 0 23 rest
      let (_, cs) ← limited? 0 59 (← behind? ':' cs)
      return cs.isEmpty
    (c == '+' || c == '-') && ends? == some true

/-- Is a text a time of the day and, perhaps, an offset? -/
def isTimeWithOffset (cs : List Char) : Bool :=
  match behindTime? cs with
  | some rest => isOffset rest
  | none => false

/-- Is a word a date, a time or both? -/
def isDate (word : List Char) : Bool :=
  match behindDay? word with
  | some [] => true
  | some (c :: rest) => (c == 'T' || c == 't') && isTimeWithOffset rest
  | none => behindTime? word == some []

/-- A date is read as an object that has its text as the only member, of this name. -/
def dateMember : String := "$__toml_private_datetime"

/-- The value that stands for a date. -/
def date (word : List Char) : Json := .object [(dateMember, .string (String.ofList word))]

/-! ## Words -/

/-- The value that a word stands for. -/
def word? (word : List Char) : Option Json :=
  if word = ['t', 'r', 'u', 'e'] then some (.bool true)
  else if word = ['f', 'a', 'l', 's', 'e'] then some (.bool false)
  else if isDate word then some (date word)
  else number? word

end IconInline.Toml
