import IconInline.Dataset
import IconInline.Proofs.JsonNumbers
import IconInline.Proofs.JsonStrings
import IconInline.Proofs.SortedMembers

/-!
# JSON text

The grammar of JSON text says which value stands at the beginning of a text and what is left of
it. Brackets may be open up to a given depth. The reader of values returns just the values of the
grammar, and the reader of a dataset's exports the members of an object that fills the text.
-/

namespace IconInline.Proofs
open Json Json.Reader

/-- A word, a string or a number. -/
inductive WritesScalar : List Char → Json → List Char → Prop
  | null (rest : List Char) : WritesScalar ('n' :: 'u' :: 'l' :: 'l' :: rest) .null rest
  | yes (rest : List Char) : WritesScalar ('t' :: 'r' :: 'u' :: 'e' :: rest) (.bool true) rest
  | no (rest : List Char) :
      WritesScalar ('f' :: 'a' :: 'l' :: 's' :: 'e' :: rest) (.bool false) rest
  | string {cs xs rest : List Char} (h : WritesChars cs xs rest) :
      WritesScalar ('"' :: cs) (.string (String.ofList xs)) rest
  | number {cs rest : List Char} {n : JsonNumber} (h : WritesNumber cs n rest) :
      WritesScalar cs (.number n) rest

/-- The elements of a bracket that `close` closes, each but the first behind a comma. An element
at the beginning of a text is described by `element`. -/
inductive WritesList {α : Type} (close : Char) (element : List Char → α → List Char → Prop) :
    Bool → List Char → List α → List Char → Prop
  | close {first : Bool} {cs rest : List Char} (h : pastGap cs = close :: rest) :
      WritesList close element first cs [] rest
  | first {cs mid rest : List Char} {a : α} {as : List α} (ha : element cs a mid)
      (more : WritesList close element false mid as rest) :
      WritesList close element true cs (a :: as) rest
  | next {cs after mid rest : List Char} {a : α} {as : List α} (hcomma : pastGap cs = ',' :: after)
      (ha : element after a mid) (more : WritesList close element false mid as rest) :
      WritesList close element false cs (a :: as) rest

/-- A member: its name, a colon and its value. -/
inductive WritesMember (value : List Char → Json → List Char → Prop) :
    List Char → String × Json → List Char → Prop
  | mk {cs name xs after body rest : List Char} {v : Json} (hquote : pastGap cs = '"' :: name)
      (hname : WritesChars name xs after) (hcolon : pastGap after = ':' :: body)
      (hvalue : value body v rest) : WritesMember value cs (String.ofList xs, v) rest

/-- The value at the beginning of a text, behind any gap, with at most `depth` open brackets. Of
the members of an object, the last one of a name counts. -/
def WritesValue : (depth : Nat) → List Char → Json → List Char → Prop
  | 0, cs, v, rest => WritesScalar (pastGap cs) v rest
  | depth + 1, cs, v, rest =>
    WritesScalar (pastGap cs) v rest ∨
      (∃ after items, pastGap cs = '[' :: after ∧ v = .array items ∧
        WritesList ']' (WritesValue depth) true after items rest) ∨
      ∃ after members, pastGap cs = '\x7b' :: after ∧ v = ofMembers members ∧
        WritesList '\x7d' (WritesMember (WritesValue depth)) true after members rest

/-- The text is an object with the given members, as they stand in it. -/
def IsObjectText (content : String) (members : List (String × Json)) : Prop :=
  ∃ after rest, pastGap content.toList = '\x7b' :: after ∧
    WritesList '\x7d' (WritesMember (WritesValue (depthLimit - 2))) true after members rest ∧
    pastGap rest = []

section Scalars

variable {cs rest : List Char} {o : Nat} {v : Json}

lemma reads_wordRest {letters : List Char} {u : Unit} :
    Reads (wordRest letters) ⟨cs, o⟩ u rest ↔ cs = letters ++ rest := by
  induction letters generalizing cs o with
  | nil => simp [wordRest]
  | cons l letters ih =>
    rw [wordRest, reads_peek_bind]
    cases cs with
    | nil => simp
    | cons c cs =>
      by_cases hc : c = l
      · simp only [List.head?_cons, hc, if_true, reads_skip_bind, ih, List.cons_append,
          List.cons.injEq, true_and]
      · simp [hc]

lemma reads_word {α : Type} {c : Char} {letters : String} {a b : α} :
    Reads (do word letters; return a) ⟨c :: cs, o⟩ b rest ↔
      cs = letters.toList.drop 1 ++ rest ∧ a = b := by
  unfold word
  rw [bind_assoc, reads_skip_bind,
    reads_bind_iff (fun _ _ => reads_wordRest) fun _ _ _ _ => reads_pure]
  constructor
  · rintro ⟨_, _, hcs, ha, rfl⟩
    exact ⟨hcs, ha⟩
  · rintro ⟨hcs, ha⟩
    exact ⟨(), _, hcs, ha, rfl⟩

/-- What a scalar begins with tells which kind it is. -/
lemma writesScalar_cons_iff {c : Char} : WritesScalar (c :: cs) v rest ↔
    (c = 'n' ∧ cs = "null".toList.drop 1 ++ rest ∧ .null = v) ∨
      (c = 't' ∧ cs = "true".toList.drop 1 ++ rest ∧ .bool true = v) ∨
      (c = 'f' ∧ cs = "false".toList.drop 1 ++ rest ∧ .bool false = v) ∨
      (c = '"' ∧ ∃ xs, WritesChars cs xs rest ∧ .string (String.ofList xs) = v) ∨
      ∃ n, WritesNumber (c :: cs) n rest ∧ .number n = v := by
  constructor
  · intro h
    cases h with
    | null => simp
    | yes => simp
    | no => simp
    | string hxs => exact .inr (.inr (.inr (.inl ⟨rfl, _, hxs, rfl⟩)))
    | number hn => exact .inr (.inr (.inr (.inr ⟨_, hn, rfl⟩)))
  · rintro (⟨rfl, rfl, rfl⟩ | ⟨rfl, rfl, rfl⟩ | ⟨rfl, rfl, rfl⟩ | ⟨rfl, xs, hxs, rfl⟩ |
      ⟨n, hn, rfl⟩)
    · exact .null rest
    · exact .yes rest
    · exact .no rest
    · exact .string hxs
    · exact .number hn

lemma not_writesNumber {c : Char} {n : JsonNumber} (hsign : c ≠ '-') (hdigit : c.isDigit = false) :
    ¬ WritesNumber (c :: cs) n rest := by
  rintro (_ | ⟨-, hdigits, -⟩)
  · exact hsign rfl
  · exact hdigits (List.takeWhile_cons_of_neg (by simp [hdigit]))

lemma reads_stringScalar : Reads (do return some (.string (← Reader.string))) ⟨'"' :: cs, o⟩
    (some v) rest ↔ ∃ xs, WritesChars cs xs rest ∧ .string (String.ofList xs) = v := by
  rw [reads_bind_iff (fun _ _ => reads_string) fun _ _ _ _ => reads_pure]
  constructor
  · rintro ⟨_, _, ⟨xs, hxs, rfl⟩, hv, rfl⟩
    exact ⟨xs, hxs, Option.some.inj hv⟩
  · rintro ⟨xs, hxs, rfl⟩
    exact ⟨_, _, ⟨xs, hxs, rfl⟩, rfl, rfl⟩

lemma reads_numberScalar : Reads (do return some (.number (← signedNumber))) ⟨cs, o⟩
    (some v) rest ↔ ∃ n, WritesNumber cs n rest ∧ .number n = v := by
  rw [reads_bind_iff (fun _ _ => reads_signedNumber) fun _ _ _ _ => reads_pure]
  constructor
  · rintro ⟨n, _, hn, hv, rfl⟩
    exact ⟨n, hn, Option.some.inj hv⟩
  · rintro ⟨n, hn, rfl⟩
    exact ⟨n, _, hn, rfl, rfl⟩

lemma reads_scalar? {c : Char} :
    Reads (scalar? c) ⟨c :: cs, o⟩ (some v) rest ↔ WritesScalar (c :: cs) v rest := by
  rw [writesScalar_cons_iff]
  unfold scalar?
  split
  · rw [reads_word]
    simp [not_writesNumber]
  · rw [reads_word]
    simp [not_writesNumber]
  · rw [reads_word]
    simp [not_writesNumber]
  · rw [reads_stringScalar]
    simp [not_writesNumber]
  · next hn ht hf hquote =>
    simp only [eq_false hn, eq_false ht, eq_false hf, eq_false hquote, false_and, false_or]
    split
    · exact reads_numberScalar
    · next hc =>
      obtain ⟨hsign, hdigit⟩ := not_or.mp hc
      simp [not_writesNumber hsign (by simpa using hdigit)]

lemma reads_scalar {c : Char} : Reads (do
      match ← scalar? c with
      | some v => return v
      | none => failNext .valueExpected) ⟨c :: cs, o⟩ v rest ↔
    WritesScalar (c :: cs) v rest := by
  rw [← reads_scalar? (o := o), reads_bind]
  constructor
  · rintro ⟨w, mid, o', hread, h⟩
    cases w with
    | none => simp at h
    | some w =>
      obtain ⟨rfl, rfl⟩ := reads_pure.mp h
      exact ⟨o', hread⟩
  · rintro ⟨o', hread⟩
    exact ⟨some v, rest, o', hread, reads_pure.mpr ⟨rfl, rfl⟩⟩

end Scalars

section Lists

variable {α β : Type} {close : Char} {begins : Char → Prop}
  {element : List Char → α → List Char → Prop} {cs mid rest : List Char} {o fuel : Nat}
  {first more : Bool} {b : β}

/-- What a bracket may hold: an element may stand behind a gap, tells by its first character that
it is one, and is not empty. -/
structure IsElement (begins : Char → Prop) (element : List Char → α → List Char → Prop) : Prop where
  behindGap (cs : List Char) (a : α) (rest : List Char) :
    element (pastGap cs) a rest ↔ element cs a rest
  begins {cs : List Char} {a : α} {rest : List Char} (h : element cs a rest) :
    ∃ c after, pastGap cs = c :: after ∧ begins c
  shorter {cs : List Char} {a : α} {rest : List Char} (h : element cs a rest) :
    rest.length < cs.length

/-- Does a bracket go on with one more element, and with which text? -/
inductive GoesOn (close : Char) (begins : Char → Prop) :
    (first : Bool) → List Char → (more : Bool) → List Char → Prop
  | stop {first : Bool} {cs after : List Char} (h : pastGap cs = close :: after) :
      GoesOn close begins first cs false (close :: after)
  | first {cs after : List Char} {c : Char} (h : pastGap cs = c :: after) (hc : begins c) :
      GoesOn close begins true cs true (c :: after)
  | next {cs behind after : List Char} {c : Char} (hcomma : pastGap cs = ',' :: behind)
      (h : pastGap behind = c :: after) (hc : begins c) :
      GoesOn close begins false cs true (c :: after)

lemma goesOn_iff {c : Char} {after : List Char} (hcs : pastGap cs = c :: after) :
    GoesOn close begins first cs more mid ↔
      (c = close ∧ more = false ∧ c :: after = mid) ∨
      (first = true ∧ begins c ∧ more = true ∧ c :: after = mid) ∨
      (first = false ∧ c = ',' ∧ more = true ∧
        ∃ d behind, pastGap after = d :: behind ∧ begins d ∧ d :: behind = mid) := by
  constructor
  · rintro (h | ⟨h, hc⟩ | ⟨hcomma, h, hc⟩)
    · obtain ⟨rfl, rfl⟩ := List.cons.inj (hcs.symm.trans h)
      exact .inl ⟨rfl, rfl, rfl⟩
    · obtain ⟨rfl, rfl⟩ := List.cons.inj (hcs.symm.trans h)
      exact .inr (.inl ⟨rfl, hc, rfl, rfl⟩)
    · obtain ⟨rfl, rfl⟩ := List.cons.inj (hcs.symm.trans hcomma)
      exact .inr (.inr ⟨rfl, rfl, rfl, _, _, h, hc, rfl⟩)
  · rintro (⟨rfl, rfl, rfl⟩ | ⟨rfl, hc, rfl, rfl⟩ | ⟨rfl, rfl, rfl, d, behind, h, hd, rfl⟩)
    · exact .stop hcs
    · exact .first hcs hc
    · exact .next hcs h hd

lemma GoesOn.length_le (h : GoesOn close begins first cs more mid) : mid.length ≤ cs.length := by
  cases h with
  | stop h => exact h ▸ length_pastGap cs
  | first h => exact h ▸ length_pastGap cs
  | next hcomma h =>
    have hbehind := length_lt_of_pastGap hcomma
    have hle := h ▸ length_pastGap _
    omega

lemma not_goesOn_nil (hcs : pastGap cs = []) : ¬ GoesOn close begins first cs more mid := by
  rintro (h | ⟨h, -⟩ | ⟨h, -, -⟩) <;> simp [hcs] at h

lemma reads_moreItems : Reads (moreItems first) ⟨cs, o⟩ more mid ↔
    GoesOn ']' (· ≠ ']') first cs more mid := by
  unfold moreItems
  rw [reads_peekPart_bind]
  cases hcs : pastGap cs with
  | nil => exact iff_of_false (by simp) (not_goesOn_nil hcs)
  | cons c after =>
    rw [goesOn_iff hcs]
    by_cases hclose : c = ']'
    · simp [hclose, eq_comm]
    cases first with
    | true => simp [hclose, eq_comm]
    | false =>
      by_cases hcomma : c = ','
      · cases hafter : pastGap after with
        | nil => simp [hcomma, hafter]
        | cons d behind =>
          by_cases hd : d = ']'
          · simp [hcomma, hafter, hd]
          · simp [hcomma, hafter, hd, eq_comm]
      · simp [hclose, hcomma]

lemma reads_moreMembers : Reads (moreMembers first) ⟨cs, o⟩ more mid ↔
    GoesOn '\x7d' (· = '"') first cs more mid := by
  unfold moreMembers
  rw [reads_peekPart_bind]
  cases hcs : pastGap cs with
  | nil => exact iff_of_false (by simp) (not_goesOn_nil hcs)
  | cons c after =>
    rw [goesOn_iff hcs]
    by_cases hclose : c = '\x7d'
    · simp [hclose, eq_comm]
    cases first with
    | true =>
      by_cases hquote : c = '"'
      · simp [hquote, eq_comm]
      · simp [hclose, hquote]
    | false =>
      by_cases hcomma : c = ','
      · cases hafter : pastGap after with
        | nil => simp [hcomma, hafter]
        | cons d behind =>
          by_cases hd : d = '"'
          · simp [hcomma, hafter, hd, eq_comm]
          · simp only [hcomma, List.head?_cons]
            by_cases hbrace : d = '\x7d'
            · simp [hafter, hbrace]
            · simp [hafter, hd]
      · simp [hclose, hcomma]

/-- Elements as they are read one by one are the elements as they stand in the text. -/
lemma exists_goesOn_iff (helement : IsElement begins element) (g : List α → β) :
    (∃ more mid, GoesOn close begins first cs more mid ∧
      if more then ∃ a after, element mid a after ∧
        ∃ as, WritesList close element false after as rest ∧ g (a :: as) = b
      else g [] = b ∧ mid = close :: rest) ↔
      ∃ as, WritesList close element first cs as rest ∧ g as = b := by
  constructor
  · rintro ⟨_, _, hcs | ⟨hcs, hc⟩ | ⟨hcomma, hcs, hc⟩, h⟩
    · obtain ⟨hb, hrest⟩ := h
      obtain rfl := (List.cons.inj hrest).2
      exact ⟨[], .close hcs, hb⟩
    · obtain ⟨a, after, ha, as, has, hb⟩ := h
      rw [← hcs, helement.behindGap] at ha
      exact ⟨a :: as, .first ha has, hb⟩
    · obtain ⟨a, after, ha, as, has, hb⟩ := h
      rw [← hcs, helement.behindGap] at ha
      exact ⟨a :: as, .next hcomma ha has, hb⟩
  · rintro ⟨_, hcs | ⟨ha, has⟩ | ⟨hcomma, ha, has⟩, hb⟩
    · exact ⟨false, _, .stop hcs, hb, rfl⟩
    · obtain ⟨c, after, hcs, hc⟩ := helement.begins ha
      rw [← helement.behindGap, hcs] at ha
      exact ⟨true, _, .first hcs hc, _, _, ha, _, has, hb⟩
    · obtain ⟨c, after, hcs, hc⟩ := helement.begins ha
      rw [← helement.behindGap, hcs] at ha
      exact ⟨true, _, .next hcomma hcs hc, _, _, ha, _, has, hb⟩

lemma reads_listEnd {a : β} {after : List Char} :
    Reads (do listEnd; return a) ⟨']' :: after, o⟩ b rest ↔ a = b ∧ after = rest := by
  unfold listEnd
  rw [bind_assoc, reads_peekPart_bind, pastGap_cons rfl]
  simp only [List.head?_cons, reads_skip_bind, reads_pure]

lemma reads_items {item : Reader α} (bound : Nat) (helement : IsElement (· ≠ ']') element)
    (hitem : ∀ {cs o a rest}, cs.length < bound →
      (Reads item ⟨cs, o⟩ a rest ↔ element cs a rest))
    (hbound : cs.length < bound) (hfuel : cs.length < fuel) (g : List α → β) :
    Reads (do
        let as ← items item fuel first
        listEnd
        return g as) ⟨cs, o⟩ b rest ↔
      ∃ as, WritesList ']' element first cs as rest ∧ g as = b := by
  induction fuel generalizing cs o first g with
  | zero => omega
  | succ fuel ih =>
    rw [items, bind_assoc, ← exists_goesOn_iff helement]
    refine reads_bind_iff (fun _ _ => reads_moreItems) fun more mid o hmid => ?_
    cases more with
    | false =>
      obtain ⟨after, rfl⟩ : ∃ after, mid = ']' :: after := by
        cases hmid with
        | stop => exact ⟨_, rfl⟩
      simp only [Bool.false_eq_true, if_false, reads_pure_bind, reads_listEnd, List.cons.injEq,
        true_and]
    | true =>
      have hlength : mid.length ≤ cs.length := hmid.length_le
      simp only [if_true, bind_assoc, pure_bind]
      refine reads_bind_iff (fun _ _ => hitem (by omega)) fun a after o ha => ?_
      have hshorter := helement.shorter ha
      exact ih (by omega) (by omega) (fun as => g (a :: as))

lemma reads_objectEnd {a : β} {after : List Char} :
    Reads (do objectEnd; return a) ⟨'\x7d' :: after, o⟩ b rest ↔ a = b ∧ after = rest := by
  unfold objectEnd
  rw [bind_assoc, reads_peekPart_bind, pastGap_cons rfl]
  simp only [List.head?_cons, reads_skip_bind, reads_pure]

lemma reads_members {item : String → Reader α} (bound : Nat)
    (helement : IsElement (· = '"') element)
    (hitem : ∀ {cs o a rest}, ('"' :: cs).length < bound →
      (Reads (Reader.string >>= item) ⟨'"' :: cs, o⟩ a rest ↔ element ('"' :: cs) a rest))
    (hbound : cs.length < bound) (hfuel : cs.length < fuel) (g : List α → β) :
    Reads (do
        let as ← members item fuel first
        objectEnd
        return g as) ⟨cs, o⟩ b rest ↔
      ∃ as, WritesList '\x7d' element first cs as rest ∧ g as = b := by
  induction fuel generalizing cs o first g with
  | zero => omega
  | succ fuel ih =>
    rw [members, bind_assoc, ← exists_goesOn_iff helement]
    refine reads_bind_iff (fun _ _ => reads_moreMembers) fun more mid o hmid => ?_
    cases more with
    | false =>
      obtain ⟨after, rfl⟩ : ∃ after, mid = '\x7d' :: after := by
        cases hmid with
        | stop => exact ⟨_, rfl⟩
      simp only [Bool.false_eq_true, if_false, reads_pure_bind, reads_objectEnd, List.cons.injEq,
        true_and]
    | true =>
      have hlength : mid.length ≤ cs.length := hmid.length_le
      obtain ⟨after, rfl⟩ : ∃ after, mid = '"' :: after := by
        cases hmid with
        | first h hc => exact ⟨_, by rw [hc]⟩
        | next hcomma h hc => exact ⟨_, by rw [hc]⟩
      simp only [if_true, bind_assoc, pure_bind]
      rw [← bind_assoc]
      refine reads_bind_iff (fun _ _ => hitem (by omega)) fun a after o ha => ?_
      have hshorter := helement.shorter ha
      exact ih (by omega) (by omega) (fun as => g (a :: as))

end Lists

section Values

variable {value : List Char → Json → List Char → Prop} {cs rest : List Char} {o fuel depth : Nat}
  {v : Json} {m : String × Json}

lemma reads_colon {α : Type} {f : Unit → Reader α} {a : α} :
    Reads (colon >>= f) ⟨cs, o⟩ a rest ↔ ∃ body, pastGap cs = ':' :: body ∧
      Reads (f ()) ⟨body, o + Text.byteSize (cs.takeWhile isGap) + ':'.utf8Size⟩ a rest := by
  unfold colon
  rw [bind_assoc, reads_peekPart_bind]
  cases hcs : pastGap cs with
  | nil => simp
  | cons c body =>
    by_cases hc : c = ':'
    · subst hc
      simp
    · simp [hc]

lemma reads_member {item : Reader Json}
    (hitem : ∀ {body o v rest}, body.length < cs.length →
      (Reads item ⟨body, o⟩ v rest ↔ value body v rest)) :
    Reads (do
        let name ← Reader.string
        colon
        let v ← item
        return (name, v)) ⟨'"' :: cs, o⟩ m rest ↔
      WritesMember value ('"' :: cs) m rest := by
  have hbody : ∀ {name after o}, after.length < cs.length →
      (Reads (do colon; let v ← item; return (name, v)) ⟨after, o⟩ m rest ↔
        ∃ body v, pastGap after = ':' :: body ∧ value body v rest ∧ (name, v) = m) := by
    intro name after o hafter
    rw [reads_colon]
    refine exists_congr fun body => ?_
    rw [exists_and_left]
    refine and_congr_right fun hcolon => ?_
    have hshorter := length_lt_of_pastGap hcolon
    rw [reads_bind_iff (fun _ _ => hitem (by omega)) fun _ _ _ _ => reads_pure]
    constructor
    · rintro ⟨v, _, hv, hm, rfl⟩
      exact ⟨v, hv, hm⟩
    · rintro ⟨v, hv, hm⟩
      exact ⟨v, _, hv, hm, rfl⟩
  rw [reads_bind_iff (fun _ _ => reads_string) fun name after o hname => hbody ?_]
  · constructor
    · rintro ⟨_, after, ⟨xs, hxs, rfl⟩, body, v, hcolon, hv, rfl⟩
      exact .mk (pastGap_cons rfl) hxs hcolon hv
    · rintro ⟨hquote, hname, hcolon, hv⟩
      rw [pastGap_cons rfl] at hquote
      obtain rfl := (List.cons.inj hquote).2
      exact ⟨_, _, ⟨_, hname, rfl⟩, _, _, hcolon, hv, rfl⟩
  · obtain ⟨xs, hxs, -⟩ := hname
    exact hxs.length_lt

lemma isElement_member (hvalue : IsElement (· ≠ ']') value) :
    IsElement (· = '"') (WritesMember value) where
  behindGap cs m rest := by
    constructor
    · rintro ⟨hquote, hname, hcolon, hv⟩
      exact .mk (pastGap_pastGap cs ▸ hquote) hname hcolon hv
    · rintro ⟨hquote, hname, hcolon, hv⟩
      exact .mk ((pastGap_pastGap cs).symm ▸ hquote) hname hcolon hv
  begins h := by
    obtain ⟨hquote, -⟩ := h
    exact ⟨_, _, hquote, rfl⟩
  shorter h := by
    obtain ⟨hquote, hname, hcolon, hv⟩ := h
    have hfirst := length_lt_of_pastGap hquote
    have hsecond := hname.length_lt
    have hthird := length_lt_of_pastGap hcolon
    have hfourth := hvalue.shorter hv
    omega

lemma WritesScalar.begins (h : WritesScalar cs v rest) :
    ∃ c after, cs = c :: after ∧ c ≠ '[' ∧ c ≠ '\x7b' ∧ c ≠ ']' := by
  cases h with
  | number hn =>
    cases cs with
    | nil => exact absurd hn.length_lt (Nat.not_lt_zero _)
    | cons c after =>
      have hnot : ∀ {d : Char}, d ≠ '-' → d.isDigit = false → c ≠ d := by
        rintro _ hsign hdigit rfl
        exact not_writesNumber hsign hdigit hn
      exact ⟨c, after, rfl, hnot (by decide) rfl, hnot (by decide) rfl, hnot (by decide) rfl⟩
  | _ => exact ⟨_, _, rfl, by decide, by decide, by decide⟩

lemma WritesScalar.length_lt (h : WritesScalar cs v rest) : rest.length < cs.length := by
  cases h with
  | string hxs => exact Nat.lt_succ_of_lt hxs.length_lt
  | number hn => exact hn.length_lt
  | _ => simp only [List.length_cons]; omega

lemma WritesList.length_lt {α : Type} {close : Char} {begins : Char → Prop}
    {element : List Char → α → List Char → Prop} (helement : IsElement begins element)
    {first : Bool} {as : List α} (h : WritesList close element first cs as rest) :
    rest.length < cs.length := by
  induction h with
  | close h => exact length_lt_of_pastGap h
  | first ha _ ih => exact ih.trans (helement.shorter ha)
  | next hcomma ha _ ih =>
    exact (ih.trans (helement.shorter ha)).trans (length_lt_of_pastGap hcomma)

lemma isElement_writesValue (depth : Nat) : IsElement (· ≠ ']') (WritesValue depth) := by
  induction depth with
  | zero =>
    refine ⟨fun cs v rest => ?_, fun h => ?_, fun h => ?_⟩
    · rw [WritesValue, WritesValue, pastGap_pastGap]
    · obtain ⟨c, after, hcs, -, -, hc⟩ := WritesScalar.begins h
      exact ⟨c, after, hcs, hc⟩
    · exact (WritesScalar.length_lt h).trans_le (length_pastGap _)
  | succ depth ih =>
    refine ⟨fun cs v rest => ?_, fun h => ?_, fun h => ?_⟩
    · rw [WritesValue, WritesValue, pastGap_pastGap]
    · rcases h with h | ⟨after, items, hcs, -, -⟩ | ⟨after, members, hcs, -, -⟩
      · obtain ⟨c, after, hcs, -, -, hc⟩ := h.begins
        exact ⟨c, after, hcs, hc⟩
      · exact ⟨_, _, hcs, by decide⟩
      · exact ⟨_, _, hcs, by decide⟩
    · rcases h with h | ⟨after, items, hcs, -, h⟩ | ⟨after, members, hcs, -, h⟩
      · exact h.length_lt.trans_le (length_pastGap _)
      · exact (h.length_lt ih).trans (length_lt_of_pastGap hcs)
      · exact (h.length_lt (isElement_member ih)).trans (length_lt_of_pastGap hcs)

lemma reads_enter_bind {α : Type} {f : Unit → Reader α} {a : α} {c : Char} :
    Reads (enter depth >>= f) ⟨c :: cs, o⟩ a rest ↔
      1 < depth ∧ Reads (f ()) ⟨cs, o + c.utf8Size⟩ a rest := by
  unfold enter
  by_cases h : depth ≤ 1
  · have hdeep : ¬ 1 < depth := by omega
    simp [h, hdeep, bind_assoc]
  · have hfits : 1 < depth := by omega
    simp [h, hfits]

lemma reads_value_of_scalar (hlist : ∀ after, pastGap cs ≠ '[' :: after)
    (hobject : ∀ after, pastGap cs ≠ '\x7b' :: after) :
    Reads (Reader.value (fuel + 1) (depth + 1)) ⟨cs, o⟩ v rest ↔ WritesValue depth cs v rest := by
  have hscalar : WritesValue depth cs v rest ↔ WritesScalar (pastGap cs) v rest := by
    cases depth with
    | zero => rfl
    | succ depth => simp [WritesValue, hlist, hobject]
  rw [hscalar, Reader.value, reads_peekPart_bind]
  cases hcs : pastGap cs with
  | nil =>
    refine iff_of_false (by simp) fun h => ?_
    obtain ⟨c, after, hnil, -⟩ := h.begins
    cases hnil
  | cons c after =>
    rw [← reads_scalar, List.head?_cons]
    split
    · contradiction
    · next h => exact absurd (Option.some.inj h ▸ hcs) (hlist after)
    · next h => exact absurd (Option.some.inj h ▸ hcs) (hobject after)
    · next h =>
      obtain rfl := Option.some.inj h
      rfl

lemma reads_value_of_list {after : List Char} (hcs : pastGap cs = '[' :: after) :
    Reads (Reader.value (fuel + 1) (depth + 1)) ⟨cs, o⟩ v rest ↔ 0 < depth ∧
      Reads (do
          let found ← items (Reader.value fuel depth) (after.length + 1) true
          listEnd
          return .array found)
        ⟨after, o + Text.byteSize (cs.takeWhile isGap) + '['.utf8Size⟩ v rest := by
  rw [Reader.value, reads_peekPart_bind, hcs]
  simp only [List.head?_cons]
  rw [reads_enter_bind, reads_fuel_bind]
  simp

lemma reads_value_of_object {after : List Char} (hcs : pastGap cs = '\x7b' :: after) :
    Reads (Reader.value (fuel + 1) (depth + 1)) ⟨cs, o⟩ v rest ↔ 0 < depth ∧
      Reads (do
          let found ← members (fun name => do
            colon
            let v ← Reader.value fuel depth
            return (name, v)) (after.length + 1) true
          objectEnd
          return ofMembers found)
        ⟨after, o + Text.byteSize (cs.takeWhile isGap) + '\x7b'.utf8Size⟩ v rest := by
  rw [Reader.value, reads_peekPart_bind, hcs]
  simp only [List.head?_cons]
  rw [reads_enter_bind, reads_fuel_bind]
  simp

lemma not_writesScalar {c : Char} {after : List Char} (hcs : pastGap cs = c :: after)
    (hbracket : c = '[' ∨ c = '\x7b') : ¬ WritesScalar (pastGap cs) v rest := by
  intro h
  obtain ⟨d, behind, hd, hlist, hobject, -⟩ := h.begins
  obtain rfl := (List.cons.inj (hcs.symm.trans hd)).1
  exact hbracket.elim hlist hobject

lemma writesValue_of_list {after : List Char} (hcs : pastGap cs = '[' :: after) :
    WritesValue (depth + 1) cs v rest ↔
      ∃ items, WritesList ']' (WritesValue depth) true after items rest ∧ .array items = v := by
  have hscalar : ¬ WritesScalar (pastGap cs) v rest := not_writesScalar hcs (.inl rfl)
  simp only [WritesValue, hscalar, false_or]
  simp [hcs, and_comm, eq_comm]

lemma writesValue_of_object {after : List Char} (hcs : pastGap cs = '\x7b' :: after) :
    WritesValue (depth + 1) cs v rest ↔
      ∃ members, WritesList '\x7d' (WritesMember (WritesValue depth)) true after members rest ∧
        ofMembers members = v := by
  have hscalar : ¬ WritesScalar (pastGap cs) v rest := not_writesScalar hcs (.inr rfl)
  simp only [WritesValue, hscalar, false_or]
  simp [hcs, and_comm, eq_comm]

/-- Just the values of the grammar are read. -/
theorem reads_value (hfuel : cs.length < fuel) :
    Reads (Reader.value fuel (depth + 1)) ⟨cs, o⟩ v rest ↔ WritesValue depth cs v rest := by
  -- The fuel is only used up by nesting, and every bracket takes one off both fuel and depth.
  induction depth generalizing fuel cs o v rest with
  | zero =>
    obtain ⟨fuel, rfl⟩ := Nat.exists_eq_succ_of_ne_zero (Nat.ne_zero_of_lt hfuel)
    by_cases hlist : ∃ after, pastGap cs = '[' :: after
    · obtain ⟨after, hcs⟩ := hlist
      rw [reads_value_of_list hcs]
      exact iff_of_false (by simp) (not_writesScalar hcs (.inl rfl))
    by_cases hobject : ∃ after, pastGap cs = '\x7b' :: after
    · obtain ⟨after, hcs⟩ := hobject
      rw [reads_value_of_object hcs]
      exact iff_of_false (by simp) (not_writesScalar hcs (.inr rfl))
    · exact reads_value_of_scalar (not_exists.mp hlist) (not_exists.mp hobject)
  | succ depth ih =>
    obtain ⟨fuel, rfl⟩ := Nat.exists_eq_succ_of_ne_zero (Nat.ne_zero_of_lt hfuel)
    have helement := isElement_writesValue depth
    by_cases hlist : ∃ after, pastGap cs = '[' :: after
    · obtain ⟨after, hcs⟩ := hlist
      have hafter := length_lt_of_pastGap hcs
      rw [reads_value_of_list hcs, writesValue_of_list hcs]
      simp only [Nat.zero_lt_succ, true_and]
      exact reads_items fuel helement ih (by omega) (Nat.lt_succ_self _) Json.array
    by_cases hobject : ∃ after, pastGap cs = '\x7b' :: after
    · obtain ⟨after, hcs⟩ := hobject
      have hafter := length_lt_of_pastGap hcs
      rw [reads_value_of_object hcs, writesValue_of_object hcs]
      simp only [Nat.zero_lt_succ, true_and]
      refine reads_members fuel (isElement_member helement) (fun hlength => ?_) (by omega)
        (Nat.lt_succ_self _) ofMembers
      rw [List.length_cons] at hlength
      exact reads_member fun hbody => ih (by omega)
    · exact reads_value_of_scalar (not_exists.mp hlist) (not_exists.mp hobject)

end Values

section Texts

variable {α : Type} {a b : α} {cs rest : List Char} {o : Nat}

lemma reads_finish : Reads (do finish; return a) ⟨cs, o⟩ b rest ↔
    pastGap cs = [] ∧ a = b ∧ rest = [] := by
  unfold finish
  rw [bind_assoc, reads_peekPart_bind]
  cases hcs : pastGap cs with
  | nil => simp [eq_comm]
  | cons c after => simp only [List.head?_cons, not_reads_failNext_bind, reduceCtorEq, false_and]

/-- A reader returns something on a whole text if it leaves nothing but a gap. -/
lemma onText_eq_ok {r : Reader α} {text : String} :
    onText r text = .ok a ↔ ∃ rest, Reads r ⟨text.toList, 0⟩ a rest ∧ pastGap rest = [] := by
  have hrun : onText r text = .ok a ↔
      ∃ rest, Reads (do let a ← r; finish; return a) ⟨text.toList, 0⟩ a rest := by
    unfold onText Reads
    split
    · next a' c hok =>
      rw [hok]
      obtain ⟨cs, o⟩ := c
      simp
    · next e c herror =>
      rw [herror]
      simp
  rw [hrun]
  constructor
  · rintro ⟨rest, h⟩
    obtain ⟨a', mid, o, hread, h⟩ := reads_bind.mp h
    obtain ⟨hrest, rfl, -⟩ := reads_finish.mp h
    exact ⟨mid, ⟨o, hread⟩, hrest⟩
  · rintro ⟨rest, ⟨o, hread⟩, hrest⟩
    exact ⟨[], reads_bind.mpr ⟨a, rest, o, hread, reads_finish.mpr ⟨hrest, rfl, rfl⟩⟩⟩

lemma not_reads_mismatch {expected : String} :
    ¬ Reads (Decoder.mismatch expected) ⟨cs, o⟩ a rest := by
  unfold Decoder.mismatch
  rw [reads_peekPart_bind]
  split
  · simp
  · simp
  · simp
  · rw [reads_bind]
    rintro ⟨v, mid, o, -, h⟩
    cases v <;> simp at h

/-- Reads the members of a value that must be an object. -/
def objectMembers : Reader (List (String × Json)) := do
  match ← peekPart with
  | some '\x7b' =>
    match ← Reader.value (← fuel) depthLimit with
    | .object members => return members
    | v => fail (.wrongType v.found "a map")
  | _ => Decoder.mismatch "a map"

lemma exports_eq (content : String) : Dataset.exports content = onText objectMembers content := rfl

lemma reads_objectMembers {members : List (String × Json)} :
    Reads objectMembers ⟨cs, o⟩ members rest ↔ ∃ after written, pastGap cs = '\x7b' :: after ∧
      WritesList '\x7d' (WritesMember (WritesValue (depthLimit - 2))) true after written rest ∧
        sortMembers written = members := by
  unfold objectMembers
  rw [reads_peekPart_bind]
  split
  · next hhead =>
    obtain ⟨after, hcs⟩ := List.head?_eq_some_iff.mp hhead
    have hobject : pastGap (pastGap cs) = '\x7b' :: after := (pastGap_pastGap cs).trans hcs
    have hvalue : ∀ v mid, Reads (Reader.value ((pastGap cs).length + 1) depthLimit)
        ⟨pastGap cs, o + Text.byteSize (cs.takeWhile isGap)⟩ v mid ↔
          ∃ written, WritesList '\x7d' (WritesMember (WritesValue (depthLimit - 2))) true after
            written mid ∧ ofMembers written = v := fun v mid =>
      (reads_value (Nat.lt_succ_self _)).trans (writesValue_of_object hobject)
    rw [reads_fuel_bind,
      reads_bind_iff (Q := fun v mid => v = .object members ∧ mid = rest) hvalue]
    · constructor
      · rintro ⟨_, _, ⟨written, hwritten, rfl⟩, hv, rfl⟩
        exact ⟨after, written, hcs, hwritten, Json.object.inj hv⟩
      · rintro ⟨after', written, hcs', hwritten, rfl⟩
        obtain rfl := (List.cons.inj (hcs.symm.trans hcs')).2
        exact ⟨_, _, ⟨written, hwritten, rfl⟩, rfl, rfl⟩
    · intro v mid o _
      cases v <;> simp
  · next hhead =>
    refine iff_of_false not_reads_mismatch ?_
    rintro ⟨after, written, hcs, -⟩
    exact hhead (by rw [hcs]; rfl)

/-- The exports of a dataset are the sorted members of the object that its text is. -/
theorem exports_eq_ok_iff {content : String} {members : List (String × Json)} :
    Dataset.exports content = .ok members ↔
      ∃ written, IsObjectText content written ∧ sortMembers written = members := by
  rw [exports_eq, onText_eq_ok]
  simp only [reads_objectMembers]
  constructor
  · rintro ⟨rest, ⟨after, written, hcs, hwritten, hsort⟩, hrest⟩
    exact ⟨written, ⟨after, rest, hcs, hwritten, hrest⟩, hsort⟩
  · rintro ⟨written, ⟨after, rest, hcs, hwritten, hrest⟩, hsort⟩
    exact ⟨rest, ⟨after, written, hcs, hwritten, hsort⟩, hrest⟩

end Texts

end IconInline.Proofs
