import IconInline.Script.Gap
import IconInline.Text.ByteSize

/-!
# Gaps with more text behind them

A gap is the same whatever follows if something stands behind it that begins no comment. A text that
is a gap as a whole may be passed over before the rest of the gap is.
-/

namespace IconInline.Script

/-- Is a text passed over as a whole, so that a token may begin behind it? -/
def isGap : GapMode → List Char → Bool
  | .between, [] => true
  | .line, [] | .block, [] => false
  | .between, '/' :: '/' :: rest => isGap .line rest
  | .between, '/' :: '*' :: rest => isGap .block rest
  | .between, c :: rest => (isLineEnd c || isSpace c) && isGap .between rest
  | .line, c :: rest => isGap (if isLineEnd c then .between else .line) rest
  | .block, '*' :: '/' :: rest => isGap .between rest
  | .block, _ :: rest => isGap .block rest

theorem scanGap_add (before : Bool) (passed : Nat) (mode : GapMode) (newline : Bool) (size : Nat)
    (cs : List Char) :
    scanGap mode (before || newline) (passed + size) cs =
      { scanGap mode newline size cs with
        size := passed + (scanGap mode newline size cs).size
        newline := before || (scanGap mode newline size cs).newline } := by
  fun_induction scanGap mode newline size cs with
  | case1 | case2 | case3 => simp [scanGap]
  | case4 newline size rest ih | case5 newline size rest ih | case11 newline size rest ih =>
    rw [scanGap, Nat.add_assoc, ih]
  | case6 newline size c rest hline hblock hend ih =>
    rw [scanGap, if_pos hend, Nat.add_assoc, ← ih, Bool.or_true]
    · exact hline
    · exact hblock
  | case7 newline size c rest hline hblock hend hspace ih =>
    rw [scanGap, if_neg hend, if_pos hspace, Nat.add_assoc, ← ih]
    · exact hline
    · exact hblock
  | case8 newline size c rest hline hblock hend hspace =>
    rw [scanGap, if_neg hend, if_neg hspace]
    · exact hline
    · exact hblock
  | case9 newline size c rest hend ih =>
    rw [scanGap, if_pos hend, Nat.add_assoc, ← ih, Bool.or_true]
  | case10 newline size c rest hend ih =>
    rw [scanGap, if_neg hend, Nat.add_assoc, ← ih]
  | case12 newline size c rest hclose ih =>
    rw [scanGap, Nat.add_assoc, ← ih, Bool.or_assoc]
    exact hclose

theorem ne_slash_of_isLineEnd {c : Char} (h : isLineEnd c = true) : c ≠ '/' := by
  rintro rfl
  exact absurd h (by decide)

theorem ne_slash_of_isSpace {c : Char} (h : isSpace c = true) : c ≠ '/' := by
  rintro rfl
  exact absurd h (by decide)

/-- A gap with something behind it that begins no comment stays the same. -/
theorem scanGap_append {mode : GapMode} {newline : Bool} {size : Nat} {cs : List Char}
    (hne : (scanGap mode newline size cs).rest ≠ [])
    (hslash : (scanGap mode newline size cs).rest ≠ ['/']) (more : List Char) :
    scanGap mode newline size (cs ++ more) =
      { scanGap mode newline size cs with
        rest := (scanGap mode newline size cs).rest ++ more } := by
  fun_induction scanGap mode newline size cs with
  | case1 | case2 | case3 => simp at hne
  | case4 newline size rest ih | case5 newline size rest ih | case11 newline size rest ih =>
    exact ih hne hslash
  | case6 newline size c rest hline hblock hend ih =>
    have hc := ne_slash_of_isLineEnd hend
    rw [List.cons_append, scanGap, if_pos hend]
    · exact ih hne hslash
    · exact fun _ h _ => hc h
    · exact fun _ h _ => hc h
  | case7 newline size c rest hline hblock hend hspace ih =>
    have hc := ne_slash_of_isSpace hspace
    rw [List.cons_append, scanGap, if_neg hend, if_pos hspace]
    · exact ih hne hslash
    · exact fun _ h _ => hc h
    · exact fun _ h _ => hc h
  | case8 newline size c rest hline hblock hend hspace =>
    cases rest with
    | nil =>
      have hc : c ≠ '/' := by simpa using hslash
      rw [List.cons_append, scanGap, if_neg hend, if_neg hspace]
      · exact fun _ h _ => hc h
      · exact fun _ h _ => hc h
    | cons d rest =>
      rw [List.cons_append, List.cons_append, scanGap, if_neg hend, if_neg hspace]
      · rintro _ h ⟨⟩
        exact hline _ h rfl
      · rintro _ h ⟨⟩
        exact hblock _ h rfl
  | case9 newline size c rest hend ih =>
    rw [List.cons_append, scanGap, if_pos hend]
    exact ih hne hslash
  | case10 newline size c rest hend ih =>
    rw [List.cons_append, scanGap, if_neg hend]
    exact ih hne hslash
  | case12 newline size c rest hclose ih =>
    cases rest with
    | nil => simp [scanGap] at hne
    | cons d rest =>
      rw [List.cons_append, List.cons_append, scanGap]
      · exact ih hne hslash
      · rintro _ h ⟨⟩
        exact hclose _ h rfl

/-- The scan goes on behind a text that is a gap as a whole. -/
theorem scanGap_of_isGap {mode : GapMode} {cs : List Char} (h : isGap mode cs = true)
    (newline : Bool) (size : Nat) (more : List Char) :
    scanGap mode newline size (cs ++ more) =
      scanGap .between (scanGap mode newline size cs).newline
        (scanGap mode newline size cs).size more := by
  fun_induction scanGap mode newline size cs with
  | case1 | case3 => simp [isGap] at h
  | case2 => rfl
  | case4 newline size rest ih | case5 newline size rest ih | case11 newline size rest ih =>
    exact ih h
  | case6 newline size c rest hline hblock hend ih =>
    have hc := ne_slash_of_isLineEnd hend
    rw [isGap, hend, Bool.true_or, Bool.true_and] at h
    · rw [List.cons_append, scanGap, if_pos hend]
      · exact ih h
      · exact fun _ h _ => hc h
      · exact fun _ h _ => hc h
    · exact hline
    · exact hblock
  | case7 newline size c rest hline hblock hend hspace ih =>
    have hc := ne_slash_of_isSpace hspace
    rw [isGap, hspace, Bool.or_true, Bool.true_and] at h
    · rw [List.cons_append, scanGap, if_neg hend, if_pos hspace]
      · exact ih h
      · exact fun _ h _ => hc h
      · exact fun _ h _ => hc h
    · exact hline
    · exact hblock
  | case8 newline size c rest hline hblock hend hspace =>
    rw [isGap] at h
    · simp [hend, hspace] at h
    · exact hline
    · exact hblock
  | case9 newline size c rest hend ih =>
    rw [isGap, if_pos hend] at h
    rw [List.cons_append, scanGap, if_pos hend]
    exact ih h
  | case10 newline size c rest hend ih =>
    rw [isGap, if_neg hend] at h
    rw [List.cons_append, scanGap, if_neg hend]
    exact ih h
  | case12 newline size c rest hclose ih =>
    rw [isGap] at h
    · cases rest with
      | nil => simp [isGap] at h
      | cons d rest =>
        rw [List.cons_append, List.cons_append, scanGap]
        · exact ih h
        · rintro _ hstar ⟨⟩
          exact hclose _ hstar rfl
    · exact hclose

/-- Every character that a scan passes counts. -/
theorem scanGap_size (mode : GapMode) (newline : Bool) (size : Nat) (cs : List Char) :
    (scanGap mode newline size cs).size + Text.byteSize (scanGap mode newline size cs).rest =
      size + Text.byteSize cs := by
  fun_induction scanGap mode newline size cs with
  | case1 | case2 | case3 | case8 => rfl
  | case4 newline size rest ih | case5 newline size rest ih | case11 newline size rest ih =>
    rw [ih]
    change size + 2 + Text.byteSize rest = size + (1 + (1 + Text.byteSize rest))
    omega
  | case6 newline size c rest _ _ _ ih | case7 newline size c rest _ _ _ _ ih
  | case9 newline size c rest _ ih | case10 newline size c rest _ ih
  | case12 newline size c rest _ ih =>
    rw [ih]
    exact Nat.add_assoc ..

theorem rest_of_isGap {cs : List Char} (h : isGap .between cs = true) (newline : Bool) :
    (scanGap .between newline 0 cs).rest = [] := by
  have hgap := scanGap_of_isGap h newline 0 []
  rw [List.append_nil] at hgap
  rw [hgap, scanGap]

end IconInline.Script
