import IconInline.Script.Word

/-!
# Tokens of the script language

A token is a kind, the place where it stands, and what the grammar asks about its spelling.
-/

namespace IconInline.Script

/-- A punctuator. -/
inductive Punct where
  | openBrace | closeBrace | openParen | closeParen | openBracket | closeBracket | dot
  | ellipsis | semicolon | comma | less | greater | lessEqual | greaterEqual | equal | notEqual
  | same | notSame | plus | minus | star | power | slash | percent | increment | decrement
  | shiftLeft | shiftRight | shiftRightZero | ampersand | bar | caret | bang | tilde | both
  | either | nullish | question | optional | colon | assign | assignPlus | assignMinus
  | assignStar | assignPower | assignSlash | assignPercent | assignShiftLeft | assignShiftRight
  | assignShiftRightZero | assignAmpersand | assignBar | assignCaret | assignBoth
  | assignEither | assignNullish | arrow | at
  deriving DecidableEq, Repr

/-- The punctuators with their spellings, each before those that begin it. Those that begin
with `>` are put together by the grammar. -/
def Punct.spellings : List (List Char × Punct) :=
  [(['.', '.', '.'], .ellipsis), (['=', '=', '='], .same), (['!', '=', '='], .notSame),
    (['*', '*', '='], .assignPower), (['<', '<', '='], .assignShiftLeft),
    (['&', '&', '='], .assignBoth), (['|', '|', '='], .assignEither),
    (['?', '?', '='], .assignNullish), (['<', '='], .lessEqual), (['=', '='], .equal),
    (['!', '='], .notEqual), (['*', '*'], .power), (['+', '+'], .increment),
    (['-', '-'], .decrement), (['<', '<'], .shiftLeft), (['&', '&'], .both),
    (['|', '|'], .either), (['?', '?'], .nullish), (['?', '.'], .optional),
    (['+', '='], .assignPlus), (['-', '='], .assignMinus), (['*', '='], .assignStar),
    (['%', '='], .assignPercent), (['/', '='], .assignSlash), (['&', '='], .assignAmpersand),
    (['|', '='], .assignBar), (['^', '='], .assignCaret), (['=', '>'], .arrow),
    (['\x7b'], .openBrace),
    (['\x7d'], .closeBrace), (['('], .openParen), ([')'], .closeParen), (['['], .openBracket),
    ([']'], .closeBracket), (['.'], .dot), ([';'], .semicolon), ([','], .comma),
    (['<'], .less), (['>'], .greater), (['+'], .plus), (['-'], .minus), (['*'], .star),
    (['%'], .percent), (['/'], .slash), (['&'], .ampersand), (['|'], .bar), (['^'], .caret),
    (['!'], .bang), (['~'], .tilde), (['?'], .question), ([':'], .colon),
    (['='], .assign), (['@'], .at)]

/-- The kinds of tokens. -/
inductive Kind where
  | eof
  | invalid
  | hashbang
  | name
  | word (w : Word)
  | privateName
  | number
  | string
  | regex
  /-- A template without substitutions. -/
  | template
  /-- The part of a template before its first substitution. -/
  | templateHead
  /-- The part of a template between two substitutions. -/
  | templateMiddle
  /-- The part of a template after its last substitution. -/
  | templateTail
  /-- Text between the tags of a markup element. -/
  | markupText
  | punct (p : Punct)
  deriving DecidableEq, Repr

instance : Coe Word Kind := ⟨.word⟩

instance : Coe Punct Kind := ⟨.punct⟩

/-- A token. Its place is given in bytes; `text` is the name that it spells, or the value of a
string. -/
structure Token where
  kind : Kind
  start : Nat
  stop : Nat
  /-- A line ends between this token and the one before. -/
  newline : Bool
  /-- Some character of it is written as an escape; in a template, as an ill-formed one. -/
  escaped : Bool := false
  /-- It is ill-formed in a way that does not end the module. -/
  faulty : Bool := false
  text : List Char := []
  deriving DecidableEq, Repr

end IconInline.Script
