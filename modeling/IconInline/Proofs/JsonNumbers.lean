import IconInline.Proofs.ReaderSteps

/-!
# Numbers in JSON text

A number has a sign, digits without a leading zero, and possibly decimals and a power of ten. It
goes on as long as it can. What number is meant follows from these parts: a whole number that fits
into 64 bits is that number, and any other one is rounded.
-/

namespace IconInline.Proofs
open Json Json.Reader

/-- The number that digits write behind digits of the value `n`. -/
def decimalValue (n : Nat) (digits : List Char) : Nat :=
  digits.foldl (fun n d => n * 10 + (d.toNat - 48)) n

/-- A sign and a fraction in decimal form, rounded. -/
def roundedNumber? (positive : Bool) (significand : Nat) (exponent : Int) : Option JsonNumber :=
  (Binary64.ofDecimal? significand exponent).map fun x =>
    .floating (if positive then x else x.negate)

/-- The number with a power of ten, which consists of a sign and digits. -/
def poweredNumber? (positive : Bool) (significand : Nat) (exponent : Int) :
    Option (Bool × List Char) → Option JsonNumber
  | none => roundedNumber? positive significand exponent
  | some (up, digits) =>
    if maxExponent < decimalValue 0 digits then
      if significand ≠ 0 ∧ up then none else some (.floating (.zero (!positive)))
    else
      roundedNumber? positive significand
        (if up then exponent + decimalValue 0 digits else exponent - decimalValue 0 digits)

/-- The number of given parts. Digits that do not fit into 64 bits are dropped; each of those in
front of the point counts as a power of ten. -/
def numberValue? (positive : Bool) (whole : Nat × List Char) (decimals : List Char)
    (power : Option (Bool × List Char)) : Option JsonNumber :=
  if decimals.isEmpty ∧ power = none ∧ whole.2.isEmpty then some (wholeNumber positive whole.1)
  else
    let (significand, dropped) := appendDigits whole.1 decimals
    poweredNumber? positive significand
      (whole.2.length - (decimals.length - dropped.length : Nat)) power

/-- Decimals behind a point, if there are any. -/
inductive WritesDecimals : List Char → List Char → List Char → Prop
  | none {cs : List Char} (h : cs.head? ≠ some '.') : WritesDecimals cs [] cs
  | some {cs : List Char} (h : cs.takeWhile Char.isDigit ≠ []) :
      WritesDecimals ('.' :: cs) (cs.takeWhile Char.isDigit) (cs.dropWhile Char.isDigit)

/-- The sign of a power; it may be missing. -/
inductive WritesSign : List Char → Bool → List Char → Prop
  | plus (cs : List Char) : WritesSign ('+' :: cs) true cs
  | minus (cs : List Char) : WritesSign ('-' :: cs) false cs
  | none {cs : List Char} (hplus : cs.head? ≠ some '+') (hminus : cs.head? ≠ some '-') :
      WritesSign cs true cs

/-- A power of ten, if there is one. -/
inductive WritesPower : List Char → Option (Bool × List Char) → List Char → Prop
  | none {cs : List Char} (hsmall : cs.head? ≠ some 'e') (hlarge : cs.head? ≠ some 'E') :
      WritesPower cs none cs
  | some {mark : Char} {cs digits : List Char} {up : Bool} (hmark : mark = 'e' ∨ mark = 'E')
      (hsign : WritesSign cs up digits) (hdigits : digits.takeWhile Char.isDigit ≠ []) :
      WritesPower (mark :: cs) (some (up, digits.takeWhile Char.isDigit))
        (digits.dropWhile Char.isDigit)

/-- A number behind its sign. -/
inductive WritesUnsigned (positive : Bool) : List Char → JsonNumber → List Char → Prop
  | parts {cs decimals after rest : List Char} {power : Option (Bool × List Char)} {n : JsonNumber}
      (hdigits : cs.takeWhile Char.isDigit ≠ [])
      (hzero : cs.head? = some '0' → cs.takeWhile Char.isDigit = ['0'])
      (hdecimals : WritesDecimals (cs.dropWhile Char.isDigit) decimals after)
      (hpower : WritesPower after power rest)
      (hvalue : numberValue? positive (appendDigits 0 (cs.takeWhile Char.isDigit)) decimals power =
        some n) :
      WritesUnsigned positive cs n rest

/-- A number. -/
inductive WritesNumber : List Char → JsonNumber → List Char → Prop
  | minus {cs rest : List Char} {n : JsonNumber} (h : WritesUnsigned false cs n rest) :
      WritesNumber ('-' :: cs) n rest
  | plain {cs rest : List Char} {n : JsonNumber} (hsign : cs.head? ≠ some '-')
      (h : WritesUnsigned true cs n rest) : WritesNumber cs n rest

section Reading

variable {cs rest : List Char} {o significand : Nat} {n : JsonNumber} {positive : Bool}
  {start : Int}

lemma reads_scaled : Reads (scaled positive significand start) ⟨cs, o⟩ n rest ↔
    roundedNumber? positive significand start = some n ∧ cs = rest := by
  unfold scaled roundedNumber?
  cases Binary64.ofDecimal? significand start <;> simp

lemma decimalValue_mono (digits : List Char) (e : Nat) : e ≤ decimalValue e digits := by
  induction digits generalizing e with
  | nil => exact le_rfl
  | cons d digits ih =>
    calc e ≤ e * 10 + (d.toNat - 48) := by omega
      _ ≤ decimalValue e (d :: digits) := ih _

lemma exponentDigits_of_digit {c : Char} (hc : c.isDigit = true) (fuel e : Nat) :
    exponentDigits (fuel + 1) e ⟨c :: cs, o⟩ =
      if maxExponent < e * 10 + (c.toNat - 48) then
        .ok (e, true) ⟨cs, o + c.utf8Size⟩
      else exponentDigits fuel (e * 10 + (c.toNat - 48)) ⟨cs, o + c.utf8Size⟩ := by
  change (if c.isDigit then _ else _ : Reader (Nat × Bool)) ⟨c :: cs, o⟩ = _
  rw [if_pos hc]
  change (if maxExponent < _ then _ else _ : Reader (Nat × Bool)) ⟨cs, o + c.utf8Size⟩ = _
  split <;> rfl

/-- The digits of an exponent are read up to the one that makes it too large. -/
lemma exponentDigits_eq {fuel e : Nat} (hfuel : cs.length < fuel) (he : e ≤ maxExponent) :
    ∃ m tooLarge mid o', exponentDigits fuel e ⟨cs, o⟩ = .ok (m, tooLarge) ⟨mid, o'⟩ ∧
      mid.dropWhile Char.isDigit = cs.dropWhile Char.isDigit ∧
      (tooLarge = true ↔ maxExponent < decimalValue e (cs.takeWhile Char.isDigit)) ∧
      (tooLarge = false → m = decimalValue e (cs.takeWhile Char.isDigit) ∧
        mid = cs.dropWhile Char.isDigit) := by
  induction fuel generalizing cs o e with
  | zero => omega
  | succ fuel ih =>
    cases cs with
    | nil =>
      refine ⟨e, false, [], o, rfl, rfl, ?_, fun _ => ⟨rfl, rfl⟩⟩
      simpa [decimalValue] using he
    | cons c cs =>
      rw [List.length_cons] at hfuel
      cases hc : c.isDigit with
      | false =>
        refine ⟨e, false, c :: cs, o, ?_, rfl, ?_, fun _ => ?_⟩
        · change (if c.isDigit then _ else _ : Reader (Nat × Bool)) ⟨c :: cs, o⟩ = _
          rw [hc]
          rfl
        · simpa [hc, decimalValue] using he
        · simp [hc, decimalValue]
      | true =>
        rw [exponentDigits_of_digit hc]
        have htake : decimalValue e ((c :: cs).takeWhile Char.isDigit) =
            decimalValue (e * 10 + (c.toNat - 48)) (cs.takeWhile Char.isDigit) := by
          rw [List.takeWhile_cons_of_pos hc]
          rfl
        rw [htake, List.dropWhile_cons_of_pos hc]
        by_cases hlarge : maxExponent < e * 10 + (c.toNat - 48)
        · rw [if_pos hlarge]
          have hle := decimalValue_mono (cs.takeWhile Char.isDigit) (e * 10 + (c.toNat - 48))
          exact ⟨_, true, cs, _, rfl, rfl, iff_of_true rfl (by omega), by simp⟩
        · rw [if_neg hlarge]
          exact ih (by omega) (by omega)

lemma digit_le_nine {c : Char} (hc : c.isDigit = true) : c.toNat - 48 ≤ 9 := by
  have h := hc
  simp only [Char.isDigit, ge_iff_le, Bool.and_eq_true, decide_eq_true_eq] at h
  have hle : c.toNat ≤ 57 := UInt32.le_iff_toNat_le.mp h.2
  omega

/-- Reads a power of ten behind its sign. -/
def unsignedPower (positive : Bool) (significand : Nat) (start : Int) (up : Bool) :
    Reader JsonNumber := do
  match ← peek with
  | none => fail .endInValue
  | some c =>
    if !c.isDigit then failNext .badNumber
    else
      skip
      let (e, tooLarge) ← exponentDigits (← fuel) (c.toNat - 48)
      if tooLarge then
        if significand ≠ 0 ∧ up then fail .numberTooLarge
        else
          let _ ← takeWhile Char.isDigit
          return .floating (.zero (!positive))
      else scaled positive significand (if up then start + e else start - e)

lemma exponent_eq : exponent positive significand start = (do
    skip
    match ← peek with
    | some '+' =>
      skip
      unsignedPower positive significand start true
    | some '-' =>
      skip
      unsignedPower positive significand start false
    | _ => unsignedPower positive significand start true) := rfl

lemma reads_unsignedPower (up : Bool) :
    Reads (unsignedPower positive significand start up) ⟨cs, o⟩ n rest ↔
      cs.takeWhile Char.isDigit ≠ [] ∧
        poweredNumber? positive significand start (some (up, cs.takeWhile Char.isDigit)) = some n ∧
          cs.dropWhile Char.isDigit = rest := by
  unfold unsignedPower
  rw [reads_peek_bind]
  cases cs with
  | nil => simp
  | cons c cs =>
    cases hc : c.isDigit with
    | false => simp [hc]
    | true =>
      obtain ⟨m, tooLarge, mid, o', hread, hrest, hlarge, hexact⟩ :=
        exponentDigits_eq (o := o + c.utf8Size) (Nat.lt_succ_self cs.length)
          ((digit_le_nine hc).trans (by decide : 9 ≤ maxExponent))
      have hvalue : decimalValue 0 ((c :: cs).takeWhile Char.isDigit) =
          decimalValue (c.toNat - 48) (cs.takeWhile Char.isDigit) := by
        rw [List.takeWhile_cons_of_pos hc]
        simp [decimalValue]
      have hne : (c :: cs).takeWhile Char.isDigit ≠ [] := by simp [hc]
      rw [List.dropWhile_cons_of_pos hc, poweredNumber?, hvalue, ← hrest]
      simp only [List.head?_cons, hc, Bool.not_true, Bool.false_eq_true, if_false, reads_skip_bind,
        reads_fuel_bind, hne, ne_eq, not_false_eq_true, true_and]
      rw [reads_bind_of_eq hread]
      cases tooLarge with
      | true =>
        -- The reader stopped among the digits; the rest of them is still to be passed over.
        rw [if_pos (hlarge.mp rfl), if_pos rfl]
        by_cases hfits : significand ≠ 0 ∧ up = true
        · simp [hfits]
        · simp only [hfits, if_false, reads_takeWhile_bind, reads_pure, Option.some.injEq]
      | false =>
        have hlt : ¬ maxExponent < decimalValue (c.toNat - 48) (cs.takeWhile Char.isDigit) :=
          fun hlt => Bool.false_ne_true (hlarge.mpr hlt)
        obtain ⟨rfl, rfl⟩ := hexact rfl
        rw [if_neg hlt, hrest]
        exact reads_scaled

lemma writesSign_plus_iff {up : Bool} : WritesSign ('+' :: cs) up rest ↔ up = true ∧ cs = rest := by
  constructor
  · rintro (_ | _ | ⟨hplus, -⟩)
    · exact ⟨rfl, rfl⟩
    · exact absurd rfl hplus
  · rintro ⟨rfl, rfl⟩
    exact .plus cs

lemma writesSign_minus_iff {up : Bool} :
    WritesSign ('-' :: cs) up rest ↔ up = false ∧ cs = rest := by
  constructor
  · rintro (_ | _ | ⟨-, hminus⟩)
    · exact ⟨rfl, rfl⟩
    · exact absurd rfl hminus
  · rintro ⟨rfl, rfl⟩
    exact .minus cs

lemma writesSign_iff_of_none (hplus : cs.head? ≠ some '+') (hminus : cs.head? ≠ some '-')
    {up : Bool} : WritesSign cs up rest ↔ up = true ∧ cs = rest := by
  constructor
  · rintro (_ | _ | _)
    · exact absurd rfl hplus
    · exact absurd rfl hminus
    · exact ⟨rfl, rfl⟩
  · rintro ⟨rfl, rfl⟩
    exact .none hplus hminus

lemma reads_exponent {mark : Char} :
    Reads (exponent positive significand start) ⟨mark :: cs, o⟩ n rest ↔
      ∃ up digits, WritesSign cs up digits ∧ digits.takeWhile Char.isDigit ≠ [] ∧
        poweredNumber? positive significand start (some (up, digits.takeWhile Char.isDigit)) =
          some n ∧ digits.dropWhile Char.isDigit = rest := by
  rw [exponent_eq, reads_skip_bind, reads_peek_bind]
  by_cases hplus : cs.head? = some '+'
  · obtain ⟨cs, rfl⟩ := List.head?_eq_some_iff.mp hplus
    simp only [List.head?_cons, reads_skip_bind, reads_unsignedPower, writesSign_plus_iff,
      and_assoc, exists_and_left, exists_eq_left, exists_eq_left']
  by_cases hminus : cs.head? = some '-'
  · obtain ⟨cs, rfl⟩ := List.head?_eq_some_iff.mp hminus
    simp only [List.head?_cons, reads_skip_bind, reads_unsignedPower, writesSign_minus_iff,
      and_assoc, exists_and_left, exists_eq_left, exists_eq_left']
  · split
    · next h => exact absurd h hplus
    · next h => exact absurd h hminus
    · simp only [reads_unsignedPower, writesSign_iff_of_none hplus hminus, and_assoc,
        exists_and_left, exists_eq_left, exists_eq_left']

lemma reads_exponent_of_mark {mark : Char} (hmark : mark = 'e' ∨ mark = 'E') :
    Reads (exponent positive significand start) ⟨mark :: cs, o⟩ n rest ↔
      ∃ power, WritesPower (mark :: cs) power rest ∧
        poweredNumber? positive significand start power = some n := by
  rw [reads_exponent]
  constructor
  · rintro ⟨up, digits, hsign, hdigits, hvalue, rfl⟩
    exact ⟨_, .some hmark hsign hdigits, hvalue⟩
  · rintro ⟨_, ⟨hsmall, hlarge⟩ | ⟨-, hsign, hdigits⟩, hvalue⟩
    · rcases hmark with rfl | rfl
      · exact absurd rfl hsmall
      · exact absurd rfl hlarge
    · exact ⟨_, _, hsign, hdigits, hvalue, rfl⟩

lemma writesPower_of_no_mark (hsmall : cs.head? ≠ some 'e') (hlarge : cs.head? ≠ some 'E')
    {power : Option (Bool × List Char)} : WritesPower cs power rest ↔ power = none ∧ cs = rest := by
  constructor
  · rintro (_ | ⟨rfl | rfl, -, -⟩)
    · exact ⟨rfl, rfl⟩
    · exact absurd rfl hsmall
    · exact absurd rfl hlarge
  · rintro ⟨rfl, rfl⟩
    exact .none hsmall hlarge

lemma reads_exponent? : Reads (exponent? positive significand start) ⟨cs, o⟩ n rest ↔
    ∃ power, WritesPower cs power rest ∧
      poweredNumber? positive significand start power = some n := by
  unfold exponent?
  rw [reads_peek_bind]
  split
  · next h =>
    obtain ⟨cs, rfl⟩ := List.head?_eq_some_iff.mp h
    exact reads_exponent_of_mark (.inl rfl)
  · next h =>
    obtain ⟨cs, rfl⟩ := List.head?_eq_some_iff.mp h
    exact reads_exponent_of_mark (.inr rfl)
  · next hsmall hlarge =>
    rw [reads_scaled]
    simp only [writesPower_of_no_mark hsmall hlarge]
    constructor
    · rintro ⟨hvalue, rfl⟩
      exact ⟨none, ⟨rfl, rfl⟩, hvalue⟩
    · rintro ⟨_, ⟨rfl, rfl⟩, hvalue⟩
      exact ⟨hvalue, rfl⟩

lemma reads_decimals : Reads (decimals positive significand start) ⟨'.' :: cs, o⟩ n rest ↔
    cs.takeWhile Char.isDigit ≠ [] ∧ ∃ power,
      WritesPower (cs.dropWhile Char.isDigit) power rest ∧
        poweredNumber? positive (appendDigits significand (cs.takeWhile Char.isDigit)).1
          (start - ((cs.takeWhile Char.isDigit).length -
            (appendDigits significand (cs.takeWhile Char.isDigit)).2.length : Nat)) power =
          some n := by
  unfold decimals
  rw [reads_skip_bind, reads_takeWhile_bind]
  by_cases hdigits : cs.takeWhile Char.isDigit = []
  · rw [hdigits]
    simp only [List.isEmpty_nil, if_true, reads_peek_bind, ne_eq, not_true_eq_false, false_and,
      iff_false]
    split <;> simp
  · rw [if_neg (by simpa using hdigits), reads_exponent?]
    simp [hdigits]

/-- Reads a number behind its digits in front of the point. -/
def fraction (positive : Bool) (whole : Nat × List Char) : Reader JsonNumber := do
  match ← peek with
  | some '.' => decimals positive whole.1 whole.2.length
  | some 'e' | some 'E' => exponent positive whole.1 whole.2.length
  | _ =>
    if whole.2.isEmpty then return wholeNumber positive whole.1
    else scaled positive whole.1 whole.2.length

lemma number_eq : Reader.number positive = (do
    match ← peek with
    | none => fail .endInValue
    | some c =>
      if !c.isDigit then failNext .badNumber
      else
        skip
        let digits ← if c = '0' then pure [] else takeWhile Char.isDigit
        if c = '0' ∧ (← peek).any Char.isDigit then failNext .badNumber
        fraction positive (appendDigits (c.toNat - 48) digits)) := rfl

lemma writesDecimals_of_no_point (hpoint : cs.head? ≠ some '.') {decimals : List Char} :
    WritesDecimals cs decimals rest ↔ decimals = [] ∧ cs = rest := by
  constructor
  · rintro (_ | _)
    · exact ⟨rfl, rfl⟩
    · exact absurd rfl hpoint
  · rintro ⟨rfl, rfl⟩
    exact .none hpoint

lemma numberValue?_nil {whole : Nat × List Char} {power : Option (Bool × List Char)}
    (h : power ≠ none ∨ whole.2.isEmpty = false) :
    numberValue? positive whole [] power =
      poweredNumber? positive whole.1 whole.2.length power := by
  have hcond : ¬ (([] : List Char).isEmpty = true ∧ power = none ∧ whole.2.isEmpty = true) := by
    rintro ⟨-, hpower, hempty⟩
    rcases h with h | h
    · exact h hpower
    · exact Bool.false_ne_true (h.symm.trans hempty)
  rw [numberValue?, if_neg hcond]
  simp [appendDigits]

lemma numberValue?_of_ne_nil {whole : Nat × List Char} {decimals : List Char} (h : decimals ≠ [])
    (power : Option (Bool × List Char)) :
    numberValue? positive whole decimals power =
      poweredNumber? positive (appendDigits whole.1 decimals).1
        (whole.2.length - (decimals.length - (appendDigits whole.1 decimals).2.length : Nat))
        power := by
  rw [numberValue?, if_neg (by simp [h])]

lemma exists_decimals_of_no_point (hpoint : cs.head? ≠ some '.') {whole : Nat × List Char} :
    (∃ decimals after power, WritesDecimals cs decimals after ∧ WritesPower after power rest ∧
      numberValue? positive whole decimals power = some n) ↔
        ∃ power, WritesPower cs power rest ∧ numberValue? positive whole [] power = some n := by
  simp only [writesDecimals_of_no_point hpoint]
  constructor
  · rintro ⟨_, _, power, ⟨rfl, rfl⟩, hpower, hvalue⟩
    exact ⟨power, hpower, hvalue⟩
  · rintro ⟨power, hpower, hvalue⟩
    exact ⟨[], cs, power, ⟨rfl, rfl⟩, hpower, hvalue⟩

lemma reads_exponent_of_digits {mark : Char} (hmark : mark = 'e' ∨ mark = 'E')
    {whole : Nat × List Char} :
    Reads (exponent positive whole.1 whole.2.length) ⟨mark :: cs, o⟩ n rest ↔
      ∃ decimals after power, WritesDecimals (mark :: cs) decimals after ∧
        WritesPower after power rest ∧ numberValue? positive whole decimals power = some n := by
  have hpoint : (mark :: cs).head? ≠ some '.' := by
    rcases hmark with rfl | rfl <;> simp
  rw [reads_exponent_of_mark hmark, exists_decimals_of_no_point hpoint]
  refine exists_congr fun power => and_congr_right fun hpower => ?_
  have hne : power ≠ none := by
    rintro rfl
    obtain ⟨hsmall, hlarge⟩ := hpower
    rcases hmark with rfl | rfl
    · exact hsmall rfl
    · exact hlarge rfl
  rw [numberValue?_nil (.inl hne)]

lemma reads_fraction {whole : Nat × List Char} :
    Reads (fraction positive whole) ⟨cs, o⟩ n rest ↔
      ∃ decimals after power, WritesDecimals cs decimals after ∧ WritesPower after power rest ∧
        numberValue? positive whole decimals power = some n := by
  unfold fraction
  rw [reads_peek_bind]
  split
  · next h =>
    obtain ⟨cs, rfl⟩ := List.head?_eq_some_iff.mp h
    rw [reads_decimals]
    constructor
    · rintro ⟨hdigits, power, hpower, hvalue⟩
      exact ⟨_, _, power, .some hdigits, hpower,
        (numberValue?_of_ne_nil hdigits power).trans hvalue⟩
    · rintro ⟨_, _, power, ⟨hpoint⟩ | ⟨hdigits⟩, hpower, hvalue⟩
      · exact absurd rfl hpoint
      · exact ⟨hdigits, power, hpower, (numberValue?_of_ne_nil hdigits power).symm.trans hvalue⟩
  · next h =>
    obtain ⟨cs, rfl⟩ := List.head?_eq_some_iff.mp h
    exact reads_exponent_of_digits (.inl rfl)
  · next h =>
    obtain ⟨cs, rfl⟩ := List.head?_eq_some_iff.mp h
    exact reads_exponent_of_digits (.inr rfl)
  · next hpoint hsmall hlarge =>
    rw [exists_decimals_of_no_point hpoint]
    simp only [writesPower_of_no_mark hsmall hlarge]
    cases hempty : whole.2.isEmpty with
    | true =>
      have hvalue : numberValue? positive whole [] none = some (wholeNumber positive whole.1) := by
        simp [numberValue?, hempty]
      simp [hvalue, and_comm]
    | false =>
      have hvalue : numberValue? positive whole [] none =
          poweredNumber? positive whole.1 whole.2.length none := numberValue?_nil (.inr hempty)
      simp [hvalue, reads_scaled, poweredNumber?, and_comm]

lemma appendDigits_cons_of_digit {c : Char} (hc : c.isDigit = true) (digits : List Char) :
    appendDigits 0 (c :: digits) = appendDigits (c.toNat - 48) digits := by
  have hle : ¬ maxWord < c.toNat - 48 := by
    have hdigit := digit_le_nine hc
    have hword : 9 ≤ maxWord := by decide
    omega
  rw [appendDigits]
  simp only [Nat.zero_mul, Nat.zero_add, hle, if_false]

lemma writesUnsigned_cons {c : Char} (hc : c.isDigit = true) :
    WritesUnsigned positive (c :: cs) n rest ↔
      (c = '0' → cs.takeWhile Char.isDigit = []) ∧ ∃ decimals after power,
        WritesDecimals (cs.dropWhile Char.isDigit) decimals after ∧ WritesPower after power rest ∧
          numberValue? positive (appendDigits (c.toNat - 48) (cs.takeWhile Char.isDigit)) decimals
            power = some n := by
  have htake : (c :: cs).takeWhile Char.isDigit = c :: cs.takeWhile Char.isDigit :=
    List.takeWhile_cons_of_pos hc
  have hdrop : (c :: cs).dropWhile Char.isDigit = cs.dropWhile Char.isDigit :=
    List.dropWhile_cons_of_pos hc
  rw [← appendDigits_cons_of_digit hc]
  constructor
  · rintro ⟨-, hzero, hdecimals, hpower, hvalue⟩
    rw [htake] at hzero hvalue
    rw [hdrop] at hdecimals
    refine ⟨fun hc0 => ?_, _, _, _, hdecimals, hpower, hvalue⟩
    simpa using (List.cons.inj (hzero (by rw [hc0]; rfl))).2
  · rintro ⟨hzero, _, _, _, hdecimals, hpower, hvalue⟩
    rw [← hdrop] at hdecimals
    rw [← htake] at hvalue
    refine .parts (by simp [htake]) (fun hc0 => ?_) hdecimals hpower hvalue
    have hc0 : c = '0' := Option.some.inj hc0
    rw [htake, hzero hc0, hc0]

lemma reads_number : Reads (Reader.number positive) ⟨cs, o⟩ n rest ↔
    WritesUnsigned positive cs n rest := by
  rw [number_eq, reads_peek_bind]
  cases cs with
  | nil =>
    refine iff_of_false (by simp) ?_
    rintro ⟨hdigits, -⟩
    exact hdigits rfl
  | cons c cs =>
    cases hc : c.isDigit with
    | false =>
      refine iff_of_false (by simp [hc]) ?_
      rintro ⟨hdigits, -⟩
      simp [hc] at hdigits
    | true =>
      simp only [List.head?_cons, hc, Bool.not_true, Bool.false_eq_true, if_false, reads_skip_bind,
        writesUnsigned_cons hc]
      by_cases hzero : c = '0'
      · rw [if_pos hzero, reads_pure_bind, reads_peek_bind]
        cases cs with
        | nil => simp [hzero, reads_fraction]
        | cons d cs =>
          cases hd : d.isDigit with
          | false => simp [hzero, hd, reads_fraction]
          | true => simp [hzero, hd]
      · rw [if_neg hzero, reads_takeWhile_bind, reads_peek_bind]
        simp only [hzero, false_and, if_false, false_implies, true_and]
        exact reads_fraction

lemma reads_signedNumber : Reads signedNumber ⟨cs, o⟩ n rest ↔ WritesNumber cs n rest := by
  unfold signedNumber
  rw [reads_peek_bind]
  by_cases hsign : cs.head? = some '-'
  · obtain ⟨cs, rfl⟩ := List.head?_eq_some_iff.mp hsign
    simp only [List.head?_cons, if_true, reads_skip_bind, reads_number]
    constructor
    · exact .minus
    · rintro (⟨h⟩ | ⟨hsign, -⟩)
      · exact h
      · exact absurd rfl hsign
  · rw [if_neg hsign, reads_number]
    constructor
    · exact .plain hsign
    · rintro (⟨h⟩ | ⟨-, h⟩)
      · exact absurd rfl hsign
      · exact h

lemma length_dropWhile_lt (h : cs.takeWhile Char.isDigit ≠ []) :
    (cs.dropWhile Char.isDigit).length < cs.length := by
  have hsplit := congrArg List.length
    (List.takeWhile_append_dropWhile (p := Char.isDigit) (l := cs))
  have hpos := List.length_pos_iff.mpr h
  rw [List.length_append] at hsplit
  omega

lemma WritesDecimals.length_le {decimals : List Char} (h : WritesDecimals cs decimals rest) :
    rest.length ≤ cs.length := by
  cases h with
  | none => exact le_rfl
  | some h => exact (length_dropWhile_lt h).le.trans (Nat.le_succ _)

lemma WritesSign.length_le {up : Bool} (h : WritesSign cs up rest) : rest.length ≤ cs.length := by
  cases h <;> simp

lemma WritesPower.length_le {power : Option (Bool × List Char)} (h : WritesPower cs power rest) :
    rest.length ≤ cs.length := by
  cases h with
  | none => exact le_rfl
  | some _ hsign hdigits =>
    exact ((length_dropWhile_lt hdigits).le.trans hsign.length_le).trans (Nat.le_succ _)

lemma WritesUnsigned.length_lt (h : WritesUnsigned positive cs n rest) :
    rest.length < cs.length := by
  obtain ⟨hdigits, -, hdecimals, hpower, -⟩ := h
  exact (hpower.length_le.trans hdecimals.length_le).trans_lt (length_dropWhile_lt hdigits)

lemma WritesNumber.length_lt (h : WritesNumber cs n rest) : rest.length < cs.length := by
  cases h with
  | minus h => exact Nat.lt_succ_of_lt h.length_lt
  | plain _ h => exact h.length_lt

end Reading

end IconInline.Proofs
