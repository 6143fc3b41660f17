import IconInline.Proofs.ClosingScan
import IconInline.Proofs.LiteralValues

/-!
# Literals in the grammar of strings

What stands between single quotes is read by the productions of strict code, as a sequence of UTF-16
code units. The literal of an encoded icon is a string literal by these, no other string literal
begins where it does, and its value is the text of the icon. To the scan for closing parentheses it
is one quoted piece.
-/

namespace IconInline.Proofs
open Text CallSite Literal Script

/-- The code units of a code point in UTF-16. -/
def codeUnits (n : Nat) : List Nat :=
  if n < 0x10000 then [n]
  else [0xd800 + (n - 0x10000) / 0x400, 0xdc00 + (n - 0x10000) % 0x400]

def utf16 (cs : List Char) : List Nat := cs.flatMap fun c => codeUnits c.toNat

/-- What one of the characters `' " \ b f n r t v` stands for behind a backslash. -/
def singleEscape? : Char → Option Nat
  | '\'' => some 0x27
  | '"' => some 0x22
  | '\\' => some 0x5c
  | 'b' => some 0x08
  | 'f' => some 0x0c
  | 'n' => some 0x0a
  | 'r' => some 0x0d
  | 't' => some 0x09
  | 'v' => some 0x0b
  | _ => none

def EndsLine (c : Char) : Prop := c = '\n' ∨ c = '\r' ∨ c = '\u2028' ∨ c = '\u2029'

/-- The characters between single quotes, and the code units that they stand for. Line and paragraph
separators may stand there as they are, line feeds and carriage returns only behind a backslash. -/
inductive SingleQuoted : List Char → List Nat → Prop where
  | nil : SingleQuoted [] []
  | source {c : Char} {cs : List Char} {units : List Nat}
    (plain : c ≠ '\'' ∧ c ≠ '\\' ∧ c ≠ '\n' ∧ c ≠ '\r') (rest : SingleQuoted cs units) :
    SingleQuoted (c :: cs) (codeUnits c.toNat ++ units)
  | single {c : Char} {unit : Nat} {cs : List Char} {units : List Nat}
    (escapes : singleEscape? c = some unit) (rest : SingleQuoted cs units) :
    SingleQuoted ('\\' :: c :: cs) (unit :: units)
  | nonEscape {c : Char} {cs : List Char} {units : List Nat} (other : singleEscape? c = none)
    (plain : c.isDigit = false ∧ c ≠ 'x' ∧ c ≠ 'u' ∧ ¬EndsLine c) (rest : SingleQuoted cs units) :
    SingleQuoted ('\\' :: c :: cs) (codeUnits c.toNat ++ units)
  | null {cs : List Char} {units : List Nat} (ahead : ∀ c, cs.head? = some c → c.isDigit = false)
    (rest : SingleQuoted cs units) : SingleQuoted ('\\' :: '0' :: cs) (0 :: units)
  | hex {unit : Nat} {cs more : List Char} {units : List Nat}
    (digits : hexDigits? 2 0 more = some (unit, cs)) (rest : SingleQuoted cs units) :
    SingleQuoted ('\\' :: 'x' :: more) (unit :: units)
  | unicode {unit : Nat} {cs more : List Char} {units : List Nat}
    (digits : hexDigits? 4 0 more = some (unit, cs)) (rest : SingleQuoted cs units) :
    SingleQuoted ('\\' :: 'u' :: more) (unit :: units)
  | codePoint {n : Nat} {cs more : List Char} {units : List Nat}
    (digits : bracedCode? false 0 more = some (n, cs)) (rest : SingleQuoted cs units) :
    SingleQuoted ('\\' :: 'u' :: '\x7b' :: more) (codeUnits n ++ units)
  | continuation {c : Char} {cs : List Char} {units : List Nat} (ends : EndsLine c)
    (rest : SingleQuoted cs units) : SingleQuoted ('\\' :: c :: cs) units
  | continuationPair {cs : List Char} {units : List Nat} (rest : SingleQuoted cs units) :
    SingleQuoted ('\\' :: '\r' :: '\n' :: cs) units

/-- A text is a string literal in single quotes, from its first character to its last, and has this
value. -/
def IsStringLiteral (literal : List Char) (value : List Nat) : Prop :=
  ∃ body, literal = '\'' :: (body ++ ['\'']) ∧ SingleQuoted body value

section Grammar

variable {c : Char} {cs body tail rest : List Char} {units : List Nat}

@[simp] lemma utf16_nil : utf16 [] = [] := rfl

@[simp] lemma utf16_cons (c : Char) (cs : List Char) :
    utf16 (c :: cs) = codeUnits c.toNat ++ utf16 cs := rfl

lemma toList_literal (icon : IconCode) :
    icon.literal.toList = '\'' :: (icon.text.toList.flatMap escape ++ ['\'']) := by
  rw [IconCode.literal, String.toList_ofList, quote, List.cons_append]

lemma escape_eq_or_single (c : Char) :
    escape c = [c] ∧ (c ≠ '\'' ∧ c ≠ '\\' ∧ c ≠ '\n' ∧ c ≠ '\r') ∨
      ∃ d unit, escape c = ['\\', d] ∧ singleEscape? d = some unit ∧
        codeUnits c.toNat = [unit] := by
  unfold escape
  split
  · exact Or.inr ⟨'\'', _, rfl, rfl, rfl⟩
  · exact Or.inr ⟨'\\', _, rfl, rfl, rfl⟩
  · exact Or.inr ⟨'n', _, rfl, rfl, rfl⟩
  · exact Or.inr ⟨'r', _, rfl, rfl, rfl⟩
  · next hquote hslash hfeed hreturn => exact Or.inl ⟨rfl, hquote, hslash, hfeed, hreturn⟩

lemma singleQuoted_flatMap_escape (cs : List Char) :
    SingleQuoted (cs.flatMap escape) (utf16 cs) := by
  induction cs with
  | nil => exact SingleQuoted.nil
  | cons c cs ih =>
    rw [List.flatMap_cons, utf16_cons]
    rcases escape_eq_or_single c with ⟨hsame, hplain⟩ | ⟨d, unit, hescape, hsingle, hunits⟩
    · rw [hsame]
      exact SingleQuoted.source hplain ih
    · rw [hescape, hunits]
      exact SingleQuoted.single hsingle ih

/-- Behind a backslash that begins a single escape no other production applies. -/
lemma SingleQuoted.of_single {d : Char} {unit : Nat} (hsingle : singleEscape? d = some unit)
    (h : SingleQuoted body units) (heq : body ++ tail = '\\' :: d :: rest)
    (htail : tail.head? = some '\'') :
    ∃ cs more, body = '\\' :: d :: cs ∧ units = unit :: more ∧ SingleQuoted cs more := by
  cases h with
  | nil =>
    rw [List.nil_append] at heq
    rw [heq] at htail
    cases htail
  | source plain rest =>
    obtain ⟨rfl, -⟩ := List.cons_eq_cons.mp heq
    exact absurd rfl plain.2.1
  | single escapes rest =>
    obtain ⟨rfl, -⟩ := List.cons_eq_cons.mp (List.cons_eq_cons.mp heq).2
    rw [hsingle] at escapes
    cases escapes
    exact ⟨_, _, rfl, rfl, rest⟩
  | nonEscape other =>
    obtain ⟨rfl, -⟩ := List.cons_eq_cons.mp (List.cons_eq_cons.mp heq).2
    rw [hsingle] at other
    cases other
  | null =>
    obtain ⟨rfl, -⟩ := List.cons_eq_cons.mp (List.cons_eq_cons.mp heq).2
    cases hsingle
  | hex =>
    obtain ⟨rfl, -⟩ := List.cons_eq_cons.mp (List.cons_eq_cons.mp heq).2
    cases hsingle
  | unicode =>
    obtain ⟨rfl, -⟩ := List.cons_eq_cons.mp (List.cons_eq_cons.mp heq).2
    cases hsingle
  | codePoint =>
    obtain ⟨rfl, -⟩ := List.cons_eq_cons.mp (List.cons_eq_cons.mp heq).2
    cases hsingle
  | continuation ends =>
    obtain ⟨rfl, -⟩ := List.cons_eq_cons.mp (List.cons_eq_cons.mp heq).2
    rcases ends with rfl | rfl | rfl | rfl <;> cases hsingle
  | continuationPair =>
    obtain ⟨rfl, -⟩ := List.cons_eq_cons.mp (List.cons_eq_cons.mp heq).2
    cases hsingle

/-- A quoted text that ends where an escaped one does is that text. -/
lemma SingleQuoted.eq_flatMap_escape (h : SingleQuoted body units)
    (heq : body ++ '\'' :: tail = cs.flatMap escape ++ '\'' :: rest) :
    body = cs.flatMap escape ∧ units = utf16 cs := by
  induction cs generalizing body units with
  | nil =>
    rw [List.flatMap_nil, List.nil_append] at heq
    cases h with
    | nil => exact ⟨rfl, rfl⟩
    | source plain rest =>
      obtain ⟨rfl, -⟩ := List.cons_eq_cons.mp heq
      exact absurd rfl plain.1
    | _ => cases heq
  | cons c cs ih =>
    rw [List.flatMap_cons, List.append_assoc] at heq
    rw [List.flatMap_cons, utf16_cons]
    rcases escape_eq_or_single c with ⟨hsame, hplain⟩ | ⟨d, unit, hescape, hsingle, hunits⟩
    · rw [hsame, List.singleton_append] at heq
      cases h with
      | nil =>
        obtain ⟨rfl, -⟩ := List.cons_eq_cons.mp heq
        exact absurd rfl hplain.1
      | source plain rest =>
        obtain ⟨rfl, htail⟩ := List.cons_eq_cons.mp heq
        obtain ⟨rfl, rfl⟩ := ih rest htail
        rw [hsame]
        exact ⟨rfl, rfl⟩
      | _ =>
        obtain ⟨rfl, -⟩ := List.cons_eq_cons.mp heq
        exact absurd rfl hplain.2.1
    · rw [hescape] at heq ⊢
      obtain ⟨inner, more, rfl, rfl, hinner⟩ := h.of_single hsingle heq rfl
      simp only [List.cons_append, List.nil_append, List.cons.injEq, true_and] at heq
      obtain ⟨rfl, rfl⟩ := ih hinner heq
      rw [hunits]
      exact ⟨rfl, rfl⟩

lemma IsStringLiteral.eq_literal {front : List Char} {value : List Nat} {icon : IconCode}
    (h : IsStringLiteral front value) (hfront : front <+: icon.literal.toList ++ rest) :
    front = icon.literal.toList ∧ value = utf16 icon.text.toList := by
  obtain ⟨body, rfl, hbody⟩ := h
  obtain ⟨tail, htail⟩ := hfront
  rw [toList_literal] at htail ⊢
  simp only [List.cons_append, List.append_assoc, List.nil_append, List.cons.injEq,
    true_and] at htail
  obtain ⟨rfl, rfl⟩ := hbody.eq_flatMap_escape htail
  exact ⟨rfl, rfl⟩

lemma not_mem_literal (icon : IconCode) :
    '\n' ∉ icon.literal.toList ∧ '\r' ∉ icon.literal.toList := by
  have hescape : ∀ c, '\n' ∉ escape c ∧ '\r' ∉ escape c := by
    intro c
    unfold escape
    split
    · decide
    · decide
    · decide
    · decide
    · next hfeed hreturn =>
      rw [List.mem_singleton, List.mem_singleton]
      exact ⟨Ne.symm hfeed, Ne.symm hreturn⟩
  rw [toList_literal]
  simp only [List.mem_cons, List.mem_append, List.mem_flatMap, not_or, not_exists, not_and]
  exact ⟨⟨by decide, fun c _ => (hescape c).1, by decide⟩,
    ⟨by decide, fun c _ => (hescape c).2, by decide⟩⟩

end Grammar

/-! ## The closing scan on a literal -/

section Scan

variable {as bs : List Sign} {brackets : Nat}

/-- Inside a piece in single quotes, at some number of open brackets. -/
def quotedAt (brackets : Nat) (escaped : Bool) : Depth := ⟨brackets, some .single, escaped⟩

/-- The scan passes over signs inside a quoted piece and is not at its end anywhere among them. -/
def PassesQuoted (brackets : Nat) (signs : List Sign) : Prop :=
  scanned (quotedAt brackets false) signs = some (quotedAt brackets false) ∧
    ∀ n, ∃ escaped, scanned (quotedAt brackets false) (signs.take n) =
      some (quotedAt brackets escaped)

lemma PassesQuoted.append (ha : PassesQuoted brackets as) (hb : PassesQuoted brackets bs) :
    PassesQuoted brackets (as ++ bs) := by
  constructor
  · rw [scanned_append, ha.1]
    exact hb.1
  · intro n
    rw [List.take_append, scanned_append]
    by_cases hn : n ≤ as.length
    · obtain ⟨escaped, h⟩ := ha.2 n
      rw [h, Nat.sub_eq_zero_of_le hn]
      exact ⟨escaped, rfl⟩
    · rw [List.take_of_length_le (by omega), ha.1]
      exact hb.2 (n - as.length)

lemma passesQuoted_nil : PassesQuoted brackets [] := by
  refine ⟨rfl, ?_⟩
  intro n
  rw [List.take_nil]
  exact ⟨false, rfl⟩

lemma passesQuoted_singleton {s : Sign} (hquote : s ≠ .quote .single) (hslash : s ≠ .backslash) :
    PassesQuoted brackets [s] := by
  have hstep : scanned (quotedAt brackets false) [s] = some (quotedAt brackets false) := by
    simp [scanned, quotedAt, Depth.step, hquote, hslash]
  refine ⟨hstep, ?_⟩
  intro n
  cases n with
  | zero => exact ⟨false, rfl⟩
  | succ n =>
    rw [List.take_succ_cons, List.take_nil]
    exact ⟨false, hstep⟩

lemma passesQuoted_escaped (s : Sign) : PassesQuoted brackets [.backslash, s] := by
  refine ⟨rfl, ?_⟩
  intro n
  match n with
  | 0 => exact ⟨false, rfl⟩
  | 1 => exact ⟨true, rfl⟩
  | n + 2 => exact ⟨false, by simp [scanned, quotedAt, Depth.step]⟩

lemma passesQuoted_others (n : Nat) : PassesQuoted brackets (List.replicate n .other) := by
  induction n with
  | zero => exact passesQuoted_nil
  | succ n ih =>
    rw [List.replicate_succ, ← List.singleton_append]
    exact (passesQuoted_singleton (s := .other) nofun nofun).append ih

lemma ofChar_ne {c : Char} (hquote : c ≠ '\'') (hslash : c ≠ '\\') :
    Sign.ofChar c ≠ .quote .single ∧ Sign.ofChar c ≠ .backslash := by
  have hcode : c.toNat ≠ 0x27 ∧ c.toNat ≠ 0x5c :=
    ⟨fun h => hquote (Char.toNat_inj.mp h), fun h => hslash (Char.toNat_inj.mp h)⟩
  unfold Sign.ofChar Sign.ofNat
  grind

lemma ascii_of_singleEscape? {c : Char} {unit : Nat} (h : singleEscape? c = some unit) :
    c.toNat ≤ 0x7f := by
  unfold singleEscape? at h
  split at h
  case h_10 => cases h
  all_goals decide

lemma passesQuoted_escape (c : Char) :
    PassesQuoted brackets ((utf8 (escape c)).map Sign.ofByte) := by
  rcases escape_eq_or_single c with ⟨hsame, hquote, hslash, -⟩ | ⟨d, unit, hescape, hsingle, -⟩
  · rw [hsame, utf8_cons, utf8_nil, List.append_nil]
    by_cases hascii : c.toNat ≤ 0x7f
    · rw [signs_of_ascii hascii]
      obtain ⟨hne, hne'⟩ := ofChar_ne hquote hslash
      exact passesQuoted_singleton hne hne'
    · rw [signs_of_not_ascii hascii]
      exact passesQuoted_others _
  · rw [hescape, utf8_cons, utf8_cons, utf8_nil, List.append_nil, List.map_append,
      signs_of_ascii (by decide), signs_of_ascii (ascii_of_singleEscape? hsingle)]
    exact passesQuoted_escaped _

lemma passesQuoted_flatMap_escape (cs : List Char) :
    PassesQuoted brackets ((utf8 (cs.flatMap escape)).map Sign.ofByte) := by
  induction cs with
  | nil => exact passesQuoted_nil
  | cons c cs ih =>
    rw [List.flatMap_cons, utf8_append, List.map_append]
    exact (passesQuoted_escape c).append ih

lemma signs_literal (icon : IconCode) :
    (utf8 icon.literal.toList).map Sign.ofByte = .quote .single ::
      ((utf8 (icon.text.toList.flatMap escape)).map Sign.ofByte ++ [.quote .single]) := by
  rw [toList_literal, utf8_cons, utf8_append, List.map_append, List.map_append,
    signs_of_ascii (by decide)]
  rfl

/-- A quoted piece, seen from in front of its first quote. -/
lemma PassesQuoted.quoted {signs : List Sign} (h : PassesQuoted brackets signs) :
    let quoted := Sign.quote .single :: (signs ++ [.quote .single])
    scanned ⟨brackets, none, false⟩ quoted = some ⟨brackets, none, false⟩ ∧
      ∀ n, 0 < n → n < quoted.length → ∃ escaped,
        scanned ⟨brackets, none, false⟩ (quoted.take n) =
          some ⟨brackets, some .single, escaped⟩ := by
  intro quoted
  have hbegins : ∀ rest, scanned ⟨brackets, none, false⟩ (Sign.quote .single :: rest) =
      scanned (quotedAt brackets false) rest := fun _ => rfl
  constructor
  · rw [hbegins, scanned_append, h.1]
    rfl
  · intro n hpos hlt
    obtain ⟨n, rfl⟩ := Nat.exists_eq_add_one_of_ne_zero (Nat.ne_of_gt hpos)
    rw [List.length_cons, List.length_append, List.length_singleton] at hlt
    rw [List.take_succ_cons, hbegins, List.take_append_of_le_length (by omega)]
    exact h.2 n

end Scan

/-- The literal of an encoded icon is a string literal of which the value is the text of the icon.
Whatever follows it, nothing else at its place is a string literal. It holds no line feed and no
carriage return, and no other icon has it. To the closing scan, at any depth, it is one quoted
piece: the quote opens at the first byte and closes at the last, and the depth is as before. -/
theorem literal_denotes_icon (icon : IconCode) :
    let literal := icon.literal.toList
    let signs := (utf8 literal).map Sign.ofByte
    IsStringLiteral literal (utf16 icon.text.toList) ∧
      (∀ rest front value, front <+: literal ++ rest → IsStringLiteral front value →
        front = literal ∧ value = utf16 icon.text.toList) ∧
      '\n' ∉ literal ∧ '\r' ∉ literal ∧
      (∀ other : IconCode, other.literal = icon.literal → other = icon) ∧
      ∀ brackets,
        (∀ n, 0 < n → n < signs.length → ∃ escaped,
          scanned ⟨brackets, none, false⟩ (signs.take n) =
            some ⟨brackets, some .single, escaped⟩) ∧
        scanned ⟨brackets, none, false⟩ signs = some ⟨brackets, none, false⟩ ∧
        ∀ more, closingFrom ⟨brackets, none, false⟩ (signs ++ more) =
          (closingFrom ⟨brackets, none, false⟩ more).map (· + signs.length) := by
  intro literal signs
  obtain ⟨hfeed, hreturn⟩ := not_mem_literal icon
  refine ⟨⟨_, toList_literal icon, singleQuoted_flatMap_escape _⟩, ?_, hfeed, hreturn, ?_, ?_⟩
  · intro rest front value hfront hliteral
    exact hliteral.eq_literal hfront
  · intro other hsame
    have htext : other.text = icon.text := by
      have hother := literal_evaluatesTo other
      rw [hsame] at hother
      exact hother.unique (literal_evaluatesTo icon)
    cases other
    cases icon
    exact congrArg IconCode.mk htext
  · intro brackets
    have hsigns : signs = _ := signs_literal icon
    have hpasses : PassesQuoted brackets _ := passesQuoted_flatMap_escape icon.text.toList
    obtain ⟨hwhole, hinside⟩ := hpasses.quoted
    rw [← hsigns] at hwhole hinside
    exact ⟨hinside, hwhole, closingFrom_append_of_scanned hwhole⟩

example : (IconCode.mk "SVG;([';\\';\\").literal = "'SVG;([\\';\\\\\\';\\\\'" := by decide

end IconInline.Proofs
