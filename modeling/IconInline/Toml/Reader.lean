import IconInline.Toml.Table
import IconInline.Toml.Word

/-!
# Reading TOML

A text is a sequence of lines: key-value pairs, headers of tables and comments. `ofText?` gives
the value of a text as an object, unless the text is ill-formed.
-/

namespace IconInline.Toml

/-- A computation that consumes text and may refuse it. -/
abbrev Reader := StateT (List Char) Option

namespace Reader

/-- Refuses the text. -/
def fail {α : Type} : Reader α := fun _ => none

/-- The next character, which stays. -/
def peek : Reader (Option Char) := return (← get).head?

/-- Consumes a text if it stands next. -/
def accept (expected : List Char) : Reader Bool := do
  let cs ← get
  if expected.isPrefixOf cs then
    set (cs.drop expected.length)
    return true
  else return false

/-- Consumes a text, which has to stand next. -/
def require (expected : List Char) : Reader Unit := do
  unless ← accept expected do fail

/-- Consumes the characters at the front that satisfy `p`. -/
def takeWhile (p : Char → Bool) : Reader (List Char) := do
  let cs ← get
  set (cs.dropWhile p)
  return cs.takeWhile p

/-- Consumes blanks of a line. -/
def blanks : Reader Unit := do
  let _ ← takeWhile (fun c => c == ' ' || c == '\t')

/-- Consumes the end of a line if it stands next. -/
def newline : Reader Bool := do
  if ← accept ['\n'] then return true else accept ['\r', '\n']

/-- May a character stand in a comment or, unescaped, in a string? -/
def isPlain (c : Char) : Bool := c == '\t' || (0x20 ≤ c.toNat && c.toNat != 0x7f)

/-- Consumes a comment if one stands next. -/
def comment : Reader Unit := do
  if ← accept ['#'] then
    let _ ← takeWhile isPlain

/-- Consumes blanks and a comment up to the end of a line or of the text. -/
def restOfLine : Reader Unit := do
  blanks
  comment
  unless ← newline do
    if (← peek).isSome then fail

/-- Consumes blanks, comments and ends of lines. -/
def gap : (bound : Nat) → Reader Unit
  | 0 => pure ()
  | bound + 1 => do
    blanks
    comment
    if ← newline then gap bound

/-- A number that bounds what can still be read. -/
def bound : Reader Nat := return (← get).length + 1

/-! ## Strings -/

/-- Reads the code point that `n` hexadecimal digits write. -/
def codePoint (n : Nat) : Reader Char := do
  match Text.hexDigits? n 0 (← get) with
  | some (code, rest) =>
    if h : code.isValidChar then
      set rest
      return Char.ofNatAux code h
    else fail
  | none => fail

/-- Reads what follows a backslash. -/
def escape : Reader Char := do
  match ← get with
  | c :: rest =>
    set rest
    match c with
    | '"' => return '"'
    | '\\' => return '\\'
    | 'b' => return '\x08'
    | 'f' => return '\x0c'
    | 'n' => return '\n'
    | 'r' => return '\r'
    | 't' => return '\t'
    | 'u' => codePoint 4
    | 'U' => codePoint 8
    | _ => fail
  | [] => fail

/-- Reads a string on one line behind its opening quote. -/
def lineString (quote : Char) : (bound : Nat) → Reader (List Char)
  | 0 => fail
  | bound + 1 => do
    match ← get with
    | [] => fail
    | c :: rest =>
      set rest
      if c = quote then return []
      else if c = '\\' ∧ quote = '"' then
        let x ← escape
        return x :: (← lineString quote bound)
      else if isPlain c then return c :: (← lineString quote bound)
      else fail

/-- Consumes blanks and ends of lines behind a backslash at the end of a line. -/
def continuation : (bound : Nat) → Reader Unit
  | 0 => pure ()
  | bound + 1 => do
    blanks
    if ← newline then continuation bound

/-- Does a line end here, after blanks? -/
def endsLine (cs : List Char) : Bool :=
  match cs.dropWhile (fun c => c == ' ' || c == '\t') with
  | '\n' :: _ => true
  | '\r' :: '\n' :: _ => true
  | _ => false

/-- Reads a string of several lines up to its three closing quotes. Up to two quotes right
before them belong to the string. -/
def linesString (quote : Char) : (bound : Nat) → Reader (List Char)
  | 0 => fail
  | bound + 1 => do
    let cs ← get
    let quotes := (cs.takeWhile (· == quote)).length
    if 3 ≤ quotes then
      let kept := min (quotes - 3) 2
      set (cs.drop (kept + 3))
      return List.replicate kept quote
    else if ← newline then return '\n' :: (← linesString quote bound)
    else
      match cs with
      | [] => fail
      | c :: rest =>
        set rest
        if c = '\\' ∧ quote = '"' then
          if endsLine rest then
            continuation bound
            linesString quote bound
          else
            let x ← escape
            return x :: (← linesString quote bound)
        else if isPlain c then return c :: (← linesString quote bound)
        else fail

/-- Reads a string between quotes of a kind, which may span lines if it has three of them. -/
def string (quote : Char) : Reader String := do
  let most ← bound
  if ← accept [quote, quote, quote] then
    let _ ← newline
    return String.ofList (← linesString quote most)
  else
    require [quote]
    return String.ofList (← lineString quote most)

/-! ## Keys -/

/-- May a character stand in a key without quotes? -/
def isBare (c : Char) : Bool := c.isAlphanum || c == '-' || c == '_'

/-- Reads one part of a key. -/
def simpleKey : Reader String := do
  let most ← bound
  if ← accept ['"'] then return String.ofList (← lineString '"' most)
  else if ← accept ['\''] then return String.ofList (← lineString '\'' most)
  else
    match ← takeWhile isBare with
    | [] => fail
    | name => return String.ofList name

/-- Keys have fewer parts, and brackets nest less deep. -/
def depthLimit : Nat := 80

/-- Reads the parts of a key with dots between them, fewer than `bound`. -/
def keyParts : (bound : Nat) → Reader (List String)
  | 0 => fail
  | bound + 1 => do
    blanks
    let part ← simpleKey
    blanks
    if ← accept ['.'] then return part :: (← keyParts bound) else return [part]

/-- Reads a key: the parts before its last one, and that. -/
def key : Reader (List String × String) := do
  let parts ← keyParts (depthLimit - 1)
  return (parts.dropLast, parts.getLastD "")

/-! ## Values -/

/-- Reads a word. A time may follow a day behind one blank. -/
def word : Reader Json := do
  let first ← takeWhile isWordChar
  let rest ← get
  let time := (rest.drop 1).takeWhile isWordChar
  if behindDay? first = some [] ∧ rest.head? = some ' ' ∧ isTimeWithOffset time then
    set ((rest.drop 1).dropWhile isWordChar)
    return date (first ++ ' ' :: time)
  else
    match word? first with
    | some v => return v
    | none => fail

/-- Reads the items of an array up to its closing bracket. -/
def items (item : Reader Json) : (bound : Nat) → Reader (List Json)
  | 0 => fail
  | n + 1 => do
    gap (← bound)
    if ← accept [']'] then return []
    let v ← item
    gap (← bound)
    if ← accept [','] then return v :: (← items item n)
    else
      require [']']
      return [v]

/-- Reads the pairs of an inline table into a table, up to the closing brace. -/
def pairs (item : Reader Json) : (bound : Nat) → Entries → Reader Entries
  | 0, _ => fail
  | n + 1, entries => do
    let (path, last) ← key
    require ['=']
    blanks
    let v ← item
    blanks
    match entries.addDotted v last path true with
    | none => fail
    | some entries =>
      if ← accept [','] then pairs item n entries
      else
        require ['\x7d']
        return entries

/-- Reads a value without brackets. -/
def scalar : Reader Json := do
  match ← peek with
  | some '"' => return .string (← string '"')
  | some '\'' => return .string (← string '\'')
  | _ => word

/-- Reads a value in which brackets nest at most `depth` deep. -/
def value : (depth : Nat) → Reader Json
  | 0 => scalar
  | depth + 1 => do
    if ← accept ['['] then return .array (← items (value depth) (← bound))
    else if ← accept ['\x7b'] then
      blanks
      if ← accept ['\x7d'] then return .object []
      return (← pairs (value depth) (← bound) []).toJson
    else scalar

/-! ## Lines -/

/-- How far a text has been read: the tables, and the path of the latest header. -/
structure Document where
  entries : Entries := []
  path : List String := []

/-- Accepts a change of the tables that may be refused. -/
def changed (path : List String) : Option Entries → Reader Document
  | some entries => return ⟨entries, path⟩
  | none => fail

/-- Reads a header and opens what it names. -/
def header (doc : Document) : Reader Document := do
  let isItem ← accept ['[', '[']
  unless isItem do require ['[']
  let (path, last) ← key
  require (if isItem then [']', ']'] else [']'])
  restOfLine
  let opened := if isItem then Entries.openItem last else Entries.openTable last
  changed (path ++ [last]) (doc.entries.within opened path)

/-- Reads a key-value pair into the table of the latest header. -/
def pair (doc : Document) : Reader Document := do
  let (path, last) ← key
  require ['=']
  blanks
  let v ← value (depthLimit - 1)
  restOfLine
  changed doc.path (doc.entries.within (Entries.addDotted v last path true) doc.path)

/-- Reads the lines of a text, at most `bound` many. -/
def lines : (bound : Nat) → Document → Reader Document
  | 0, doc => return doc
  | n + 1, doc => do
    blanks
    match ← peek with
    | none => return doc
    | some '[' => lines n (← header doc)
    | some c =>
      if c = '#' ∨ c = '\n' ∨ c = '\r' then
        restOfLine
        lines n doc
      else lines n (← pair doc)

end Reader

/-- The value of a text, unless the text is ill-formed. A byte order mark at the front means
nothing. -/
def ofText? (text : String) : Option Json :=
  let cs := text.toList
  let cs := if cs.head? = some '\ufeff' then cs.tail else cs
  match (Reader.lines (cs.length + 1) {}).run cs with
  | some (doc, _) => some doc.entries.toJson
  | none => none

end IconInline.Toml
