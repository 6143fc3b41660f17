import IconInline.Script.Settled.Sources

/-!
# Reading around omissions

A text may be read although parts of it are left out. What is kept is read part by part: a token
counts only if it is settled in its own part, and the token behind an omission is known, but nothing
further until the reading goes on there. All that is read then is the same in the text in which the
kept parts follow each other directly. A whole text is read as its only part.
-/

namespace IconInline.Script

/-- A part of a text that is kept, and what is left out before it. -/
structure Part where
  omitted : List Char
  kept : List Char
  deriving DecidableEq, Repr

/-- The text of some parts in which nothing is left out is only what is kept of them. -/
def keptText (parts : List Part) : List Char := parts.flatMap (·.kept)

/-- A text that has been read up to some token. -/
structure Reading where
  token : Token
  ahead : Source
  /-- The parts behind the one that is being read. -/
  later : List Part := []
  /-- What is left out before the present token, if anything is. -/
  omitted : Option (List Char) := none
  deriving DecidableEq, Repr

namespace Reading

/-- The reading of a whole text up to its next token; `newline` if a line has ended before it. -/
def ofWhole (newline : Bool) (s : Source) : Reading where
  token := (s.next newline).1
  ahead := (s.next newline).2

/-- The same reading of the text in which the kept parts follow each other directly. -/
def joined (r : Reading) : Reading where
  token := r.token
  ahead := r.ahead.append (keptText r.later)

/-- Does what was read of a part count, with these parts behind it? -/
def counts (later : List Part) (read : Token × Source) : Bool :=
  later.isEmpty || Source.isSettled read

/-- The reading with a part before the present token of which all that is kept is a gap. -/
def behind (part : Part) (r : Reading) : Reading :=
  { r with omitted := some (part.omitted ++ (r.omitted.map (part.kept ++ ·)).getD []) }

/-- Reads on up to the next token, in whatever part it stands. -/
def next? (newline : Bool) (s : Source) : (later : List Part) → Option Reading
  | [] => some (ofWhole newline s)
  | part :: more =>
    if isGap .between s.rest then
      let gap := scanGap .between newline 0 s.rest
      (next? gap.newline ⟨part.kept, s.offset + gap.size⟩ more).map (behind part)
    else if Source.isSettled (s.next newline) then
      some { ofWhole newline s with later := part :: more }
    else none

/-- The token that is `n` places behind the next one. -/
def peek? (later : List Part) : (n : Nat) → Source → Option Token
  | 0, s => if counts later (s.next false) then some (s.next false).1 else none
  | n + 1, s => if counts later (s.next false) then peek? later n (s.next false).2 else none

/-- Reads the present token and the text behind it in another way. -/
def reread? (change : Token → Source → Token × Source) (r : Reading) : Option Reading :=
  let read := change r.token r.ahead
  if r.omitted.isNone && (r.later.isEmpty || (Source.isSettled read && read.2.rest != [])) then
    some { r with token := read.1, ahead := read.2 }
  else none

/-! ## What is kept -/

section Joined

variable {newline : Bool} {s : Source} {part : Part} {more later : List Part} {r r' : Reading}

@[simp] theorem keptText_nil : keptText [] = [] := rfl

theorem keptText_cons (part : Part) (more : List Part) :
    keptText (part :: more) = part.kept ++ keptText more := rfl

theorem joined_ofWhole (newline : Bool) (s : Source) :
    (ofWhole newline s).joined = ofWhole newline s :=
  congrArg (Reading.mk _ · [] none) (Source.append_nil _)

theorem joined_settled (h : Source.isSettled (s.next newline) = true) :
    { ofWhole newline s with later }.joined = ofWhole newline (s.append (keptText later)) := by
  rw [joined, ofWhole, ofWhole, Source.next_append h]

theorem ofWhole_of_isGap (h : isGap .between s.rest = true) (text : List Char) :
    ofWhole newline (s.append text) =
      ofWhole (scanGap .between newline 0 s.rest).newline
        ⟨text, s.offset + (scanGap .between newline 0 s.rest).size⟩ := by
  have hnext : (s.append text).next newline = _ := Source.next_of_isGap h newline text s.offset
  rw [ofWhole, ofWhole, hnext]

theorem joined_next? (h : next? newline s later = some r) :
    r.joined = ofWhole newline (s.append (keptText later)) := by
  induction later generalizing newline s r with
  | nil =>
    cases h
    rw [joined_ofWhole, keptText_nil, Source.append_nil]
  | cons part more ih =>
    rw [next?] at h
    split at h
    · next hgap =>
      obtain ⟨r', hr', rfl⟩ := Option.map_eq_some_iff.mp h
      rw [ofWhole_of_isGap hgap]
      exact ih hr'
    · split at h
      · next hsettled =>
        cases h
        exact joined_settled hsettled
      · cases h

theorem counts_nil (read : Token × Source) : counts [] read = true := rfl

theorem append_of_counts (h : counts later (s.next newline) = true) :
    (s.append (keptText later)).next newline =
      ((s.next newline).1, (s.next newline).2.append (keptText later)) := by
  cases later with
  | nil => rw [keptText_nil, Source.append_nil, Source.append_nil]
  | cons part more => exact Source.next_append h _

theorem peek?_append {n : Nat} {t : Token} (h : peek? later n s = some t) :
    peek? [] n (s.append (keptText later)) = some t := by
  induction n generalizing s with
  | zero =>
    rw [peek?] at h
    split at h
    · next hcounts =>
      rw [peek?, if_pos (counts_nil _), append_of_counts hcounts]
      exact h
    · cases h
  | succ n ih =>
    rw [peek?] at h
    split at h
    · next hcounts =>
      rw [peek?, if_pos (counts_nil _), append_of_counts hcounts]
      exact ih h
    · cases h

/-- A change of what has been read keeps to what it reads, if that is settled. -/
def IsLocal (change : Token → Source → Token × Source) : Prop :=
  ∀ t s, Source.isSettled (change t s) = true → (change t s).2.rest ≠ [] → ∀ more,
    change t (s.append more) = ((change t s).1, (change t s).2.append more)

theorem joined_reread? {change : Token → Source → Token × Source} (hlocal : IsLocal change)
    (h : reread? change r = some r') : reread? change r.joined = some r'.joined := by
  rw [reread?] at h
  split at h
  · next hcounts =>
    cases h
    rw [Bool.and_eq_true, Bool.or_eq_true, List.isEmpty_iff, Bool.and_eq_true,
      bne_iff_ne] at hcounts
    have happend : change r.token (r.ahead.append (keptText r.later)) =
        ((change r.token r.ahead).1, (change r.token r.ahead).2.append (keptText r.later)) := by
      rcases hcounts.2 with hlater | ⟨hsettled, hne⟩
      · rw [hlater, keptText_nil, Source.append_nil, Source.append_nil]
      · exact hlocal _ _ hsettled hne _
    rw [reread?, joined, joined, happend]
    rfl
  · cases h

end Joined

end Reading

end IconInline.Script
