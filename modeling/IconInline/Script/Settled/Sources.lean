import IconInline.Script.Settled.Gaps
import IconInline.Script.Settled.Tokens

/-!
# Sources with more text behind them

What was read of a source stays the same when the source goes on, if the token is settled. A gap at
the end of a source is passed over in either way, at once or together with what follows it.
-/

namespace IconInline.Script

namespace Source

/-- The same source with more text behind it. -/
def append (s : Source) (more : List Char) : Source := { s with rest := s.rest ++ more }

@[simp] theorem append_nil (s : Source) : s.append [] = s := by
  rw [append, List.append_nil]

theorem take_append (s : Source) (newline : Bool) (l : Lexeme) (more : List Char) :
    (s.append more).take newline (l.append more) =
      ((s.take newline l).1, (s.take newline l).2.append more) := rfl

/-- Is what was read of a source the same whatever stands behind it? -/
def isSettled (r : Token × Source) : Bool := r.1.kind.isSettled r.1.escaped r.2.rest

theorem behindGap_append {read : List Char → Lexeme} {s : Source} {first : Bool}
    (hread : ∀ cs, (read cs).isSettled = true → ∀ more, read (cs ++ more) = (read cs).append more)
    (hnil : (read []).isSettled = false) (hslash : (read ['/']).isSettled = false)
    (h : isSettled (s.behindGap first read) = true) (more : List Char) :
    (s.append more).behindGap first read =
      ((s.behindGap first read).1, (s.behindGap first read).2.append more) := by
  rw [behindGap] at h ⊢
  rw [behindGap]
  split at h
  · cases h
  · next hclosed =>
    have hrest : (read (scanGap .between first 0 s.rest).rest).isSettled = true := h
    have hne : (scanGap .between first 0 s.rest).rest ≠ [] := by
      intro heq
      rw [heq, hnil] at hrest
      cases hrest
    have hneSlash : (scanGap .between first 0 s.rest).rest ≠ ['/'] := by
      intro heq
      rw [heq, hslash] at hrest
      cases hrest
    have hgap : scanGap .between first 0 (s.append more).rest = _ :=
      scanGap_append hne hneSlash more
    rw [hgap]
    dsimp only
    rw [if_neg hclosed, if_neg hclosed, hread _ hrest]
    rfl

theorem next_append {s : Source} {first : Bool} (h : isSettled (s.next first) = true)
    (more : List Char) :
    (s.append more).next first = ((s.next first).1, (s.next first).2.append more) := by
  rw [next] at h ⊢
  rw [next]
  split at h
  · next hbang =>
    have hmore : (s.append more).offset = 0 ∧ ['#', '!'].isPrefixOf (s.append more).rest := by
      refine ⟨hbang.1, ?_⟩
      rw [List.isPrefixOf_iff_prefix] at hbang ⊢
      exact hbang.2.trans (List.prefix_append ..)
    rw [if_pos hmore, if_pos hbang]
    have happend : Lexer.hashbang (s.append more).rest = _ := Lexer.hashbang_append h more
    rw [happend]
    rfl
  · next hbang =>
    have hmore : ¬((s.append more).offset = 0 ∧ ['#', '!'].isPrefixOf (s.append more).rest) := by
      rintro ⟨hoffset, hbegins⟩
      obtain ⟨tail, htail⟩ := List.isPrefixOf_iff_prefix.mp hbegins
      obtain ⟨rest, offset⟩ := s
      cases rest with
      | nil => cases h
      | cons c rest =>
        cases rest with
        | nil =>
          cases htail
          cases h
        | cons d rest =>
          cases htail
          exact hbang ⟨hoffset, rfl⟩
    rw [if_neg hmore, if_neg hbang]
    exact behindGap_append (fun _ => Lexer.lexeme_append) rfl (by decide) h more

theorem behindGap_of_isGap {gap : List Char} (h : isGap .between gap = true) (newline : Bool)
    (read : List Char → Lexeme) (more : List Char) (offset : Nat) :
    behindGap ⟨gap ++ more, offset⟩ newline read =
      behindGap ⟨more, offset + (scanGap .between newline 0 gap).size⟩
        (scanGap .between newline 0 gap).newline read := by
  have hscan := scanGap_of_isGap h newline 0 more
  have hadd := scanGap_add false (scanGap .between newline 0 gap).size .between
    (scanGap .between newline 0 gap).newline 0 more
  rw [Bool.false_or, Nat.add_zero] at hadd
  rw [hadd] at hscan
  rw [behindGap, behindGap, hscan, ← Nat.add_assoc, Bool.false_or]

/-- A gap may be passed over before the token behind it is read. -/
theorem next_of_isGap {gap : List Char} (h : isGap .between gap = true) (newline : Bool)
    (more : List Char) (offset : Nat) :
    next ⟨gap ++ more, offset⟩ newline =
      next ⟨more, offset + (scanGap .between newline 0 gap).size⟩
        (scanGap .between newline 0 gap).newline := by
  cases gap with
  | nil => rfl
  | cons c rest =>
    have hsize : 0 < (scanGap .between newline 0 (c :: rest)).size := by
      have hall := scanGap_size .between newline 0 (c :: rest)
      have hc : 0 < c.utf8Size := Char.utf8Size_pos c
      rw [rest_of_isGap h] at hall
      change _ + 0 = 0 + (c.utf8Size + Text.byteSize rest) at hall
      omega
    have hleft : ¬(offset = 0 ∧ ['#', '!'].isPrefixOf (c :: rest ++ more)) := by
      rintro ⟨-, hbegins⟩
      obtain ⟨tail, htail⟩ := List.isPrefixOf_iff_prefix.mp hbegins
      have hc : '#' = c := (List.cons.inj htail).1
      subst hc
      cases h
    rw [next, if_neg hleft, next, if_neg (by simp only; omega), behindGap_of_isGap h]

end Source

end IconInline.Script
