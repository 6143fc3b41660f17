import IconInline.Proofs.ClosingScan
import IconInline.Proofs.Deletion

/-!
# Balanced calls

What stands between the parentheses of a call is a sequence of items: bytes without a meaning,
quoted pieces, and bracketed sequences of items. Over such a sequence the scan comes back to the
depth it started from, and over no other text. So the scan closes a call at a byte just if the
bytes up to it are a parenthesis, items and a parenthesis.
-/

namespace IconInline.Proofs
open Text CallSite

/-! ## The grammar of calls -/

def IsQuote (b : UInt8) : Prop := b = 0x27 ∨ b = 0x22 ∨ b = 0x60

def IsOpening (b : UInt8) : Prop := b = 0x28 ∨ b = 0x5b ∨ b = 0x7b

def IsClosing (b : UInt8) : Prop := b = 0x29 ∨ b = 0x5d ∨ b = 0x7d

/-- What may stand between two quotes. A backslash hides the byte behind it. -/
inductive InQuotes (q : UInt8) : List UInt8 → Prop where
  | nil : InQuotes q []
  | plain {b : UInt8} {rest : List UInt8} (not_quote : b ≠ q) (not_backslash : b ≠ 0x5c)
    (more : InQuotes q rest) : InQuotes q (b :: rest)
  | hidden {b : UInt8} {rest : List UInt8} (more : InQuotes q rest) :
    InQuotes q (0x5c :: b :: rest)

/-- What may stand between the parentheses of a call. The brackets around items need not be of one
kind, the quotes around a piece are. -/
inductive Items : List UInt8 → Prop where
  | nil : Items []
  | plain {b : UInt8} {rest : List UInt8} (not_quote : ¬IsQuote b) (not_opening : ¬IsOpening b)
    (not_closing : ¬IsClosing b) (more : Items rest) : Items (b :: rest)
  | quoted {q : UInt8} {body rest : List UInt8} (quote : IsQuote q) (inside : InQuotes q body)
    (more : Items rest) : Items (q :: (body ++ q :: rest))
  | bracketed {o c : UInt8} {inner rest : List UInt8} (opens : IsOpening o) (inside : Items inner)
    (closes : IsClosing c) (more : Items rest) : Items (o :: (inner ++ c :: rest))

def IsBalancedCall (piece : List UInt8) : Prop :=
  ∃ items, Items items ∧ piece = 0x28 :: (items ++ [0x29])

/-- The bytes from one offset to another are a balanced call. -/
def BalancedCallAt (bytes : List UInt8) (opening close : Nat) : Prop :=
  close < bytes.length ∧ IsBalancedCall ((bytes.take (close + 1)).drop opening)

/-- The offset of the parenthesis that the scan matches with the one at an offset. -/
def closingIn? (bytes : List UInt8) (opening : Nat) : Option Nat :=
  (closing? ((bytes.drop opening).map Sign.ofByte)).map (opening + ·)

/-! ## Signs -/

section Signs

variable {b q : UInt8} {mark : QuoteMark}

lemma ofByte_eq_backslash_iff : Sign.ofByte b = .backslash ↔ b = 0x5c := by
  rw [← UInt8.toNat_inj]
  unfold Sign.ofByte Sign.ofNat
  grind

lemma ofByte_eq_round_iff : Sign.ofByte b = .closing true ↔ b = 0x29 := by
  rw [← UInt8.toNat_inj]
  unfold Sign.ofByte Sign.ofNat
  grind

lemma ofByte_eq_opening_iff : Sign.ofByte b = .opening ↔ IsOpening b := by
  simp only [IsOpening, ← UInt8.toNat_inj]
  unfold Sign.ofByte Sign.ofNat
  grind

lemma isClosing_iff : IsClosing b ↔ ∃ round, Sign.ofByte b = .closing round := by
  constructor
  · rintro (rfl | rfl | rfl)
    · exact ⟨true, rfl⟩
    · exact ⟨false, rfl⟩
    · exact ⟨false, rfl⟩
  · rintro ⟨round, h⟩
    simp only [IsClosing, ← UInt8.toNat_inj]
    unfold Sign.ofByte Sign.ofNat at h
    grind

lemma isQuote_iff : IsQuote b ↔ ∃ mark, Sign.ofByte b = .quote mark := by
  constructor
  · rintro (rfl | rfl | rfl)
    · exact ⟨.single, rfl⟩
    · exact ⟨.double, rfl⟩
    · exact ⟨.back, rfl⟩
  · rintro ⟨mark, h⟩
    simp only [IsQuote, ← UInt8.toNat_inj]
    unfold Sign.ofByte Sign.ofNat at h
    grind

lemma ofByte_eq_mark_iff (hq : Sign.ofByte q = .quote mark) :
    Sign.ofByte b = .quote mark ↔ b = q := by
  rw [← UInt8.toNat_inj]
  unfold Sign.ofByte Sign.ofNat at hq ⊢
  grind

end Signs

/-! ## The scan over items -/

section Quoted

variable {n : Nat} {mark : QuoteMark} {q : UInt8} {bytes body : List UInt8} {d : Depth}

lemma step_in_quotes {s : Sign} (hquote : s ≠ .quote mark) (hbackslash : s ≠ .backslash) :
    (⟨n, some mark, false⟩ : Depth).step s = .onward ⟨n, some mark, false⟩ := by
  simp [Depth.step, hquote, hbackslash]

lemma step_at_quote :
    (⟨n, some mark, false⟩ : Depth).step (.quote mark) = .onward ⟨n, none, false⟩ := by
  simp [Depth.step]

lemma InQuotes.scanned (h : InQuotes q body) (hq : Sign.ofByte q = .quote mark) :
    scanned ⟨n, some mark, false⟩ (body.map Sign.ofByte) = some ⟨n, some mark, false⟩ := by
  induction h with
  | nil => rfl
  | plain not_quote not_backslash more ih =>
    have hne := mt (ofByte_eq_mark_iff hq).mp not_quote
    have hne' := mt ofByte_eq_backslash_iff.mp not_backslash
    rw [List.map_cons, Proofs.scanned, step_in_quotes hne hne']
    exact ih
  | hidden more ih =>
    rw [List.map_cons, List.map_cons, ofByte_eq_backslash_iff.mpr rfl]
    exact ih

/-- A scan that leaves a quoted piece has passed its quote. If the piece is entered behind a
backslash, this backslash hides the first byte. -/
lemma exists_quote_of_scanned {escaped : Bool} (hq : Sign.ofByte q = .quote mark)
    (h : scanned ⟨n, some mark, escaped⟩ (bytes.map Sign.ofByte) = some d) (hd : d.quote = none) :
    ∃ body rest, bytes = body ++ q :: rest ∧
      InQuotes q ((if escaped then [0x5c] else []) ++ body) ∧
      scanned ⟨n, none, false⟩ (rest.map Sign.ofByte) = some d := by
  induction bytes generalizing escaped with
  | nil =>
    cases h
    cases hd
  | cons b bytes ih =>
    rw [List.map_cons, scanned] at h
    cases escaped with
    | true =>
      obtain ⟨body, rest, rfl, hbody, hrest⟩ := ih h
      exact ⟨b :: body, rest, rfl, .hidden hbody, hrest⟩
    | false =>
      by_cases hbackslash : b = 0x5c
      · rw [ofByte_eq_backslash_iff.mpr hbackslash] at h
        obtain ⟨body, rest, rfl, hbody, hrest⟩ := ih h
        exact ⟨b :: body, rest, rfl, by rwa [hbackslash], hrest⟩
      · by_cases hquote : b = q
        · rw [hquote, hq, step_at_quote] at h
          exact ⟨[], bytes, by rw [hquote]; rfl, .nil, h⟩
        · have hne := mt (ofByte_eq_mark_iff hq).mp hquote
          have hne' := mt ofByte_eq_backslash_iff.mp hbackslash
          rw [step_in_quotes hne hne'] at h
          obtain ⟨body, rest, rfl, hbody, hrest⟩ := ih h
          exact ⟨b :: body, rest, rfl, .plain hquote hbackslash hbody, hrest⟩

end Quoted

section Bracketed

variable {m : Nat} {bytes rest : List UInt8} {d : Depth}

lemma Items.scanned (h : Items bytes) (m : Nat) :
    scanned ⟨m + 1, none, false⟩ (bytes.map Sign.ofByte) = some ⟨m + 1, none, false⟩ := by
  induction h generalizing m with
  | nil => rfl
  | @plain b rest not_quote not_opening not_closing more ih =>
    rw [isQuote_iff] at not_quote
    rw [← ofByte_eq_opening_iff] at not_opening
    rw [isClosing_iff] at not_closing
    rw [List.map_cons, Proofs.scanned]
    cases hsign : Sign.ofByte b with
    | quote mark => exact absurd ⟨mark, hsign⟩ not_quote
    | opening => exact absurd hsign not_opening
    | closing round => exact absurd ⟨round, hsign⟩ not_closing
    | backslash => exact ih m
    | other => exact ih m
  | quoted quote inside more ih =>
    obtain ⟨mark, hmark⟩ := isQuote_iff.mp quote
    rw [List.map_cons, List.map_append, List.map_cons, hmark, Proofs.scanned]
    have hentered : (⟨m + 1, none, false⟩ : Depth).step (.quote mark) =
        .onward ⟨m + 1, some mark, false⟩ := rfl
    rw [hentered]
    dsimp only
    rw [scanned_append, inside.scanned hmark, Option.bind_some, Proofs.scanned, step_at_quote]
    exact ih m
  | bracketed opens inside closes more ih_inside ih =>
    obtain ⟨round, hclosing⟩ := isClosing_iff.mp closes
    rw [List.map_cons, List.map_append, List.map_cons, hclosing,
      ofByte_eq_opening_iff.mpr opens, Proofs.scanned]
    have hentered : (⟨m + 1, none, false⟩ : Depth).step .opening =
        .onward ⟨m + 1 + 1, none, false⟩ := rfl
    rw [hentered]
    dsimp only
    rw [scanned_append, ih_inside (m + 1), Option.bind_some]
    exact ih m

/-- What brings the scan back to one bracket from `m` more: items and a closing bracket for each of
these, and items in the end. -/
def Closes : Nat → List UInt8 → Prop
  | 0, bytes => Items bytes
  | m + 1, bytes =>
    ∃ inner c rest, Items inner ∧ IsClosing c ∧ bytes = inner ++ c :: rest ∧ Closes m rest

/-- What may stand in front of items may stand in front of what closes brackets. -/
lemma Closes.prepend {front : List UInt8} (hfront : ∀ items, Items items → Items (front ++ items))
    (h : Closes m bytes) : Closes m (front ++ bytes) := by
  cases m with
  | zero => exact hfront bytes h
  | succ m =>
    obtain ⟨inner, c, rest, hinner, hc, rfl, hrest⟩ := h
    exact ⟨front ++ inner, c, rest, hfront inner hinner, hc, (List.append_assoc _ _ _).symm, hrest⟩

lemma Closes.open {o : UInt8} (ho : IsOpening o) (h : Closes (m + 1) bytes) :
    Closes m (o :: bytes) := by
  obtain ⟨inner, c, rest, hinner, hc, rfl, hrest⟩ := h
  have hfront : ∀ items, Items items → Items ((o :: (inner ++ [c])) ++ items) := by
    intro items hitems
    rw [List.cons_append, List.append_assoc]
    exact .bracketed ho hinner hc hitems
  have hclosed := hrest.prepend hfront
  rwa [List.cons_append, List.append_assoc] at hclosed

/-- A scan that ends outside quotes and with one bracket open has closed all others. -/
lemma closes_of_scanned
    (h : scanned ⟨m + 1, none, false⟩ (bytes.map Sign.ofByte) = some d)
    (hquote : d.quote = none) (hbrackets : d.brackets = 1) : Closes m bytes := by
  -- A quoted piece is passed over as a whole, so the induction is on the size of what is left.
  induction hsize : bytes.length using Nat.strongRecOn generalizing bytes m with
  | ind size ih =>
    cases bytes with
    | nil =>
      cases h
      obtain rfl : m = 0 := Nat.succ.inj hbrackets
      exact Items.nil
    | cons b rest =>
      have hshorter : rest.length < size := by
        rw [← hsize]
        exact Nat.lt_succ_self _
      rw [List.map_cons, scanned] at h
      cases hsign : Sign.ofByte b with
      | quote mark =>
        rw [hsign] at h
        obtain ⟨body, more, rfl, hbody, hmore⟩ := exists_quote_of_scanned hsign h hquote
        rw [List.length_append, List.length_cons] at hshorter
        have hcloses := ih more.length (by omega) hmore rfl
        have hfront : ∀ items, Items items → Items ((b :: (body ++ [b])) ++ items) := by
          intro items hitems
          rw [List.cons_append, List.append_assoc]
          exact .quoted (isQuote_iff.mpr ⟨mark, hsign⟩) hbody hitems
        have hclosed := hcloses.prepend hfront
        rwa [List.cons_append, List.append_assoc] at hclosed
      | opening =>
        rw [hsign] at h
        exact (ih rest.length hshorter h rfl).open (ofByte_eq_opening_iff.mp hsign)
      | closing round =>
        rw [hsign] at h
        cases m with
        | zero => cases round <;> cases h
        | succ m =>
          exact ⟨[], b, rest, .nil, isClosing_iff.mpr ⟨round, hsign⟩, rfl,
            ih rest.length hshorter h rfl⟩
      | backslash | other =>
        rw [hsign] at h
        have hplain : ∀ items, Items items → Items ([b] ++ items) := by
          intro items hitems
          refine .plain ?_ ?_ ?_ hitems
          · simp [isQuote_iff, hsign]
          · simp [← ofByte_eq_opening_iff, hsign]
          · simp [isClosing_iff, hsign]
        exact (ih rest.length hshorter h rfl).prepend hplain

end Bracketed

/-! ## Where a call closes -/

section Calls

variable {front after text : List Char} {bytes behind : List UInt8} {n close : Nat} {d d' : Depth}

lemma closingFrom_inside_iff :
    closingFrom ⟨1, none, false⟩ (behind.map Sign.ofByte) = some n ↔
      ∃ items rest, behind = items ++ 0x29 :: rest ∧ Items items ∧ items.length = n := by
  rw [closingFrom_eq_some_iff]
  constructor
  · rintro ⟨front, rest, d, hsigns, rfl, hscanned, hquote, hbrackets⟩
    obtain ⟨items, tail, rfl, rfl, htail⟩ := List.map_eq_append_iff.mp hsigns
    obtain ⟨b, more, rfl, hround, rfl⟩ := List.map_eq_cons_iff.mp htail
    obtain rfl := ofByte_eq_round_iff.mp hround
    exact ⟨items, more, rfl, closes_of_scanned hscanned hquote hbrackets, (List.length_map _).symm⟩
  · rintro ⟨items, rest, rfl, hitems, rfl⟩
    refine ⟨items.map Sign.ofByte, rest.map Sign.ofByte, ⟨1, none, false⟩, ?_, List.length_map _,
      hitems.scanned 0, rfl, rfl⟩
    rw [List.map_append, List.map_cons, ofByte_eq_round_iff.mpr rfl]

lemma closingIn?_cons (before behind : List UInt8) :
    closingIn? (before ++ 0x28 :: behind) before.length =
      (closingFrom ⟨1, none, false⟩ (behind.map Sign.ofByte)).map (before.length + 1 + ·) := by
  have hentered : (⟨0, none, false⟩ : Depth).step .opening = .onward ⟨1, none, false⟩ := rfl
  rw [closingIn?, List.drop_left, List.map_cons, closing?, closingFrom,
    ofByte_eq_opening_iff.mpr (Or.inl rfl), hentered]
  dsimp only
  rw [Option.map_map]
  congr 1
  funext k
  simp only [Function.comp_apply]
  omega

lemma balancedCallAt_iff (before behind : List UInt8) (close : Nat) :
    BalancedCallAt (before ++ 0x28 :: behind) before.length close ↔
      ∃ items rest, behind = items ++ 0x29 :: rest ∧ Items items ∧
        before.length + 1 + items.length = close := by
  constructor
  · rintro ⟨hlt, items, hitems, hpiece⟩
    rw [List.drop_take, List.drop_left] at hpiece
    obtain ⟨k, hk⟩ : ∃ k, close + 1 - before.length = k + 1 := by
      refine Nat.exists_eq_succ_of_ne_zero ?_
      intro hzero
      rw [hzero] at hpiece
      cases hpiece
    rw [hk, List.take_succ_cons, List.cons_inj_right] at hpiece
    have hbehind := List.take_append_drop k behind
    rw [hpiece, List.append_assoc] at hbehind
    have hlength := congrArg List.length hpiece
    rw [List.length_take, List.length_append, List.length_singleton] at hlength
    rw [List.length_append, List.length_cons] at hlt
    exact ⟨items, behind.drop k, hbehind.symm, hitems, by omega⟩
  · rintro ⟨items, rest, rfl, hitems, rfl⟩
    refine ⟨?_, items, hitems, ?_⟩
    · simp only [List.length_append, List.length_cons]
      omega
    · have hsize : before.length + 1 + items.length + 1 - before.length =
          (0x28 :: (items ++ [0x29] : List UInt8)).length := by
        simp only [List.length_append, List.length_cons, List.length_nil]
        omega
      have hsplit : (0x28 :: (items ++ 0x29 :: rest) : List UInt8) =
          0x28 :: (items ++ [0x29]) ++ rest := by simp
      rw [List.drop_take, List.drop_left, hsize, hsplit, List.take_left]

lemma step_brackets_pos {s : Sign} (hd : 0 < d.brackets) (h : d.step s = .onward d') :
    0 < d'.brackets := by
  obtain ⟨brackets, quote, escaped⟩ := d
  unfold Depth.step at h
  grind

lemma scanned_brackets_pos {signs : List Sign} (hd : 0 < d.brackets)
    (h : scanned d signs = some d') : 0 < d'.brackets := by
  induction signs generalizing d with
  | nil =>
    cases h
    exact hd
  | cons s rest ih =>
    rw [scanned] at h
    cases hstep : d.step s with
    | onward d₁ =>
      rw [hstep] at h
      exact ih (step_brackets_pos hd hstep) h
    | closed =>
      rw [hstep] at h
      cases h
    | mismatched =>
      rw [hstep] at h
      cases h

/-- An ASCII byte of a text is a character of its own. -/
lemma isBoundary_of_ascii {offset : Nat} {b : UInt8} (hb : b.toNat ≤ 0x7f)
    (h : (utf8 text)[offset]? = some b) : IsBoundary text offset := by
  induction text generalizing offset with
  | nil => cases h
  | cons c rest ih =>
    rw [utf8_cons] at h
    by_cases hoffset : offset < (String.utf8EncodeChar c).length
    · rw [List.getElem?_append_left hoffset] at h
      by_cases hascii : c.toNat ≤ 0x7f
      · rw [String.length_utf8EncodeChar, utf8Size_of_ascii hascii] at hoffset
        exact ⟨[], c :: rest, rfl, by rw [byteSize_nil]; omega⟩
      · have hlarge := lt_of_mem_utf8EncodeChar hascii b (List.mem_of_getElem? h)
        omega
    · rw [List.getElem?_append_right (by omega)] at h
      obtain ⟨before, after, rfl, hsize⟩ := ih h
      rw [String.length_utf8EncodeChar] at hsize hoffset
      exact ⟨c :: before, after, rfl, by rw [byteSize_cons, hsize]; omega⟩

lemma getElem?_of_closingIn? {opening : Nat} (h : closingIn? bytes opening = some close) :
    bytes[close]? = some 0x29 := by
  obtain ⟨k, hk, rfl⟩ := Option.map_eq_some_iff.mp h
  have hsign := getElem?_of_closingFrom hk
  rw [List.getElem?_map, List.getElem?_drop, Option.map_eq_some_iff] at hsign
  obtain ⟨b, hb, hround⟩ := hsign
  rw [hb, ofByte_eq_round_iff.mp hround]

lemma drop_eq_of_getElem? {opening : Nat} {b : UInt8} (h : bytes[opening]? = some b) :
    bytes.drop opening = b :: bytes.drop (opening + 1) := by
  obtain ⟨hlt, hget⟩ := List.getElem?_eq_some_iff.mp h
  rw [← hget, List.drop_eq_getElem_cons hlt]

lemma closingIn?_eq_some_iff {opening : Nat} (hopening : bytes[opening]? = some 0x28) :
    closingIn? bytes opening = some close ↔ BalancedCallAt bytes opening close := by
  have hbytes : bytes = bytes.take opening ++ 0x28 :: bytes.drop (opening + 1) := by
    rw [← drop_eq_of_getElem? hopening, List.take_append_drop]
  have hlength : (bytes.take opening).length = opening := by
    obtain ⟨hlt, -⟩ := List.getElem?_eq_some_iff.mp hopening
    exact List.length_take_of_le (Nat.le_of_lt hlt)
  have hcons := closingIn?_cons (bytes.take opening) (bytes.drop (opening + 1))
  have hbalanced := balancedCallAt_iff (bytes.take opening) (bytes.drop (opening + 1)) close
  rw [← hbytes, hlength] at hcons hbalanced
  rw [hcons, hbalanced, Option.map_eq_some_iff]
  simp only [closingFrom_inside_iff]
  constructor
  · rintro ⟨n, ⟨items, rest, hrest, hitems, rfl⟩, hclose⟩
    exact ⟨items, rest, hrest, hitems, hclose⟩
  · rintro ⟨items, rest, hrest, hitems, hclose⟩
    exact ⟨items.length, ⟨items, rest, hrest, hitems, rfl⟩, hclose⟩

/-- Wherever the scan comes to a closing bracket outside quotes, a bracket is open. -/
lemma brackets_pos_of_scanned {opening : Nat} {passed rest : List UInt8} {b : UInt8}
    (hopening : bytes[opening]? = some 0x28) (hdrop : bytes.drop opening = passed ++ b :: rest)
    (hscanned : scanned ⟨0, none, false⟩ (passed.map Sign.ofByte) = some d)
    (hclosing : IsClosing b) : 0 < d.brackets := by
  rw [drop_eq_of_getElem? hopening] at hdrop
  cases passed with
  | nil =>
    obtain ⟨rfl, -⟩ := List.cons_eq_cons.mp hdrop
    simp [IsClosing] at hclosing
  | cons first passed =>
    rw [List.cons_append] at hdrop
    obtain ⟨rfl, -⟩ := List.cons_eq_cons.mp hdrop
    exact scanned_brackets_pos (d := ⟨1, none, false⟩) Nat.one_pos hscanned

end Calls

/-- From a parenthesis at an offset the scan finds the offset up to which the bytes are a balanced
call, if there is one; there is one at most. It never meets a closing bracket with no bracket open.
In the bytes of a text both offsets lie between characters, and the scan of the characters from the
parenthesis stops at the same place. -/
theorem closingIn?_balanced {bytes : List UInt8} {opening : Nat}
    (hopening : bytes[opening]? = some 0x28) :
    (∀ close, closingIn? bytes opening = some close ↔ BalancedCallAt bytes opening close) ∧
      (closingIn? bytes opening = none ↔ ∀ close, ¬BalancedCallAt bytes opening close) ∧
      (∀ close close', BalancedCallAt bytes opening close → BalancedCallAt bytes opening close' →
        close = close') ∧
      (∀ passed b rest d, bytes.drop opening = passed ++ b :: rest →
        scanned ⟨0, none, false⟩ (passed.map Sign.ofByte) = some d → IsClosing b →
        0 < d.brackets) ∧
      ∀ text, utf8 text = bytes →
        (∀ close, closingIn? bytes opening = some close → IsBoundary text close) ∧
        ∃ before after, text = before ++ after ∧ byteSize before = opening ∧
          closingIn? bytes opening = (closing? (after.map Sign.ofChar)).map
            (fun n => byteSize before + byteSize (after.take n)) := by
  refine ⟨fun close => closingIn?_eq_some_iff hopening, ?_, ?_, ?_, ?_⟩
  · rw [Option.eq_none_iff_forall_ne_some]
    exact forall_congr' fun close => not_congr (closingIn?_eq_some_iff hopening)
  · intro close close' hclose hclose'
    rw [← closingIn?_eq_some_iff hopening] at hclose hclose'
    exact Option.some_inj.mp (hclose.symm.trans hclose')
  · intro passed b rest d hdrop hscanned hclosing
    exact brackets_pos_of_scanned hopening hdrop hscanned hclosing
  · rintro text rfl
    constructor
    · intro close hclose
      exact isBoundary_of_ascii (by decide) (getElem?_of_closingIn? hclose)
    · obtain ⟨before, after, rfl, rfl⟩ := isBoundary_of_ascii (by decide) hopening
      exact ⟨before, after, rfl, rfl, closingAt?_eq before after⟩

/-- The argument holds a bracket in quotes, a quote behind a backslash, and brackets of two kinds
around items; the parenthesis behind it is not read. -/
theorem closingIn?_balanced_mixed :
    let bytes := utf8 "icon(')\\'' + é[a\x7d))".toList
    bytes[4]? = some 0x28 ∧
      (∀ close, closingIn? bytes 4 = some close ↔ BalancedCallAt bytes 4 close) ∧
      (closingIn? bytes 4 = none ↔ ∀ close, ¬BalancedCallAt bytes 4 close) ∧
      (∀ close close', BalancedCallAt bytes 4 close → BalancedCallAt bytes 4 close' →
        close = close') ∧
      (∀ passed b rest d, bytes.drop 4 = passed ++ b :: rest →
        scanned ⟨0, none, false⟩ (passed.map Sign.ofByte) = some d → IsClosing b →
        0 < d.brackets) ∧
      ∀ text, utf8 text = bytes →
        (∀ close, closingIn? bytes 4 = some close → IsBoundary text close) ∧
        ∃ before after, text = before ++ after ∧ byteSize before = 4 ∧
          closingIn? bytes 4 = (closing? (after.map Sign.ofChar)).map
            (fun n => byteSize before + byteSize (after.take n)) := by
  intro bytes
  have hopening : bytes[4]? = some 0x28 := by decide
  exact ⟨hopening, closingIn?_balanced hopening⟩

example : closingIn? (utf8 "icon(')\\'' + é[a\x7d))".toList) 4 = some 18 := by decide

end IconInline.Proofs
