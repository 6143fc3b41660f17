import IconInline.Proofs.GreedyReplacement
import Mathlib.Data.List.TakeWhile

/-!
# Runs of characters without blanks

The unbroken scan never looks across a blank, so it reads a text run by run. In a run it finds one
call or none: from the first occurrence of the name with its parenthesis to the last closing
parenthesis of the run.
-/

namespace IconInline.Proofs
open Text Source CallSite

/-- A maximal run of characters that are no blanks, between two parts of a text. -/
structure IsRun (text before run after : List Char) : Prop where
  text_eq : text = before ++ run ++ after
  nonempty : run ≠ []
  unbroken : ∀ c ∈ run, isBlank c = false
  starts : ∀ c, before.getLast? = some c → isBlank c = true
  ends : ∀ c, after.head? = some c → isBlank c = true

/-- A run has an argument, of at least one character, between the parenthesis of its first `name(`
and its last closing parenthesis. -/
structure Delimits (name run front argument back : List Char) : Prop where
  run_eq : run = front ++ name ++ '(' :: (argument ++ ')' :: back)
  first : ∀ before after, run = before ++ name ++ '(' :: after → front.length ≤ before.length
  last : ')' ∉ back
  nonempty : argument ≠ []

def singles (cs : List Char) : List Segment := cs.map fun c => .plain [c]

@[simp] lemma singles_cons (c : Char) (cs : List Char) :
    singles (c :: cs) = .plain [c] :: singles cs := rfl

/-- A text is built from its end by blanks and maximal runs. -/
@[elab_as_elim]
theorem runs_induction {motive : List Char → Prop} (nil : motive [])
    (blank : ∀ c rest, isBlank c = true → motive rest → motive (c :: rest))
    (run : ∀ run rest, run ≠ [] → (∀ c ∈ run, isBlank c = false) →
      (∀ c, rest.head? = some c → isBlank c = true) → motive rest → motive (run ++ rest))
    (cs : List Char) : motive cs := by
  induction hlength : cs.length using Nat.strongRecOn generalizing cs with
  | _ length ih =>
    subst hlength
    cases cs with
    | nil => exact nil
    | cons c cs =>
      by_cases hblank : isBlank c = true
      · exact blank c cs hblank (ih cs.length (by simp) cs rfl)
      · have hsplit := List.takeWhile_append_dropWhile (p := (!isBlank ·)) (l := c :: cs)
        have hfirst : (c :: cs).takeWhile (!isBlank ·) ≠ [] := by simp [hblank]
        have hlater := congrArg List.length hsplit
        have hpos := List.length_pos_iff.mpr hfirst
        rw [List.length_append] at hlater
        rw [← hsplit]
        apply run _ _ hfirst
        · intro d hd
          simpa using List.mem_takeWhile_imp hd
        · intro d hd
          simpa [hd] using List.head?_dropWhile_not (!isBlank ·) (c :: cs)
        · exact ih _ (by omega) _ rfl

section Blanks

lemma isExtractorChar_eq_false_of_isBlank {c : Char} (h : isBlank c = true) :
    isExtractorChar c = false := by
  have hcodes : ∀ n ∈ [0x09, 0x0a, 0x0b, 0x0c, 0x0d, 0x20, 0x85, 0xa0, 0x1680, 0x2000, 0x2001,
      0x2002, 0x2003, 0x2004, 0x2005, 0x2006, 0x2007, 0x2008, 0x2009, 0x200a, 0x2028, 0x2029,
      0x202f, 0x205f, 0x3000], isExtractorChar (Char.ofNat n) = false := by
    decide +kernel
  have hcode := hcodes c.toNat (by
    simp only [isBlank, Bool.or_eq_true, Bool.and_eq_true, decide_eq_true_eq, beq_iff_eq] at h
    simp only [List.mem_cons, List.not_mem_nil, or_false]
    omega)
  rwa [Char.ofNat_toNat] at hcode

/-- The characters of a name and its parenthesis are no blanks. -/
lemma isBlank_eq_false_of_mem_head {name : String} (h : isExtractorName name = true) :
    ∀ c ∈ name.toList ++ ['('], isBlank c = false := by
  intro c hc
  rw [List.mem_append, List.mem_singleton] at hc
  rcases hc with hname | rfl
  · by_contra hblank
    rw [Bool.not_eq_false] at hblank
    have hchar := isExtractorChar_eq_false_of_isBlank hblank
    have hcontinues := continuesName_of_isExtractorName h c hname
    rw [continuesName, hchar, Bool.or_false, beq_iff_eq] at hcontinues
    subst hcontinues
    exact absurd hblank (by decide)
  · decide

end Blanks

section Argument

variable {argument back after rest : List Char} {n : Nat}

/-- What follows a blank is not looked at for the end of an argument. -/
lemma runArgument?_append (hends : ∀ c, rest.head? = some c → isBlank c = true) :
    Callee.runArgument? (after ++ rest) = Callee.runArgument? after := by
  have hrest : rest.takeWhile (!isBlank ·) = [] := by
    cases rest with
    | nil => rfl
    | cons c rest => simp [hends c rfl]
  have hrun : (after ++ rest).takeWhile (!isBlank ·) = after.takeWhile (!isBlank ·) := by
    rw [List.takeWhile_append, hrest, List.append_nil]
    split
    · next hall => exact ((List.takeWhile_prefix _).eq_of_length hall).symm
    · rfl
  rw [Callee.runArgument?, Callee.runArgument?, hrun]

lemma exists_last_round (h : ')' ∈ after) :
    ∃ argument back, after = argument ++ ')' :: back ∧ ')' ∉ back := by
  obtain ⟨back, argument, hreverse, hback⟩ := List.eq_append_cons_of_mem (List.mem_reverse.mpr h)
  refine ⟨argument.reverse, back.reverse, ?_, by simpa using hback⟩
  have hsplit := congrArg List.reverse hreverse
  simpa using hsplit

lemma runArgument?_of_last (hunbroken : ∀ c ∈ argument ++ ')' :: back, isBlank c = false)
    (hback : ')' ∉ back) :
    Callee.runArgument? (argument ++ ')' :: back) =
      if argument = [] then none else some argument.length := by
  have hrun : (argument ++ ')' :: back).takeWhile (!isBlank ·) = argument ++ ')' :: back := by
    rw [List.takeWhile_eq_self_iff]
    intro c hc
    simp [hunbroken c hc]
  have hskipped : ∀ c ∈ back.reverse, (c != ')') = true := by
    intro c hc
    rw [bne_iff_ne]
    rintro rfl
    exact hback (List.mem_reverse.mp hc)
  have htail : (argument ++ ')' :: back).reverse.dropWhile (· != ')') =
      ')' :: argument.reverse := by
    rw [List.reverse_append, List.reverse_cons, List.append_assoc,
      List.dropWhile_append_of_pos hskipped]
    simp
  rw [Callee.runArgument?, hrun, htail]
  by_cases hempty : argument = []
  · simp [hempty]
  · have hpos := List.length_pos_iff.mpr hempty
    simp only [List.length_cons, List.length_reverse, hempty, if_false]
    rw [if_neg (by omega), Nat.add_sub_cancel]

lemma runArgument?_of_no_round (hround : ')' ∉ after) : Callee.runArgument? after = none := by
  have htail : (after.takeWhile (!isBlank ·)).reverse.dropWhile (· != ')') = [] := by
    rw [List.dropWhile_eq_nil_iff]
    intro c hc
    rw [bne_iff_ne]
    rintro rfl
    exact hround ((List.takeWhile_subset _) (List.mem_reverse.mp hc))
  rw [Callee.runArgument?, htail]
  rfl

lemma succ_le_length_run (h : Callee.runArgument? after = some n) :
    n + 1 ≤ (after.takeWhile (!isBlank ·)).length := by
  rw [Callee.runArgument?] at h
  split at h
  · cases h
  · have htail := (List.dropWhile_suffix (· != ')')
      (l := (after.takeWhile (!isBlank ·)).reverse)).length_le
    rw [List.length_reverse] at htail
    cases h
    omega

lemma length_of_runArgument? (h : Callee.runArgument? after = some n) : n + 1 ≤ after.length :=
  (succ_le_length_run h).trans (List.takeWhile_prefix _).length_le

/-- An argument ends where its run does, at the latest. -/
lemma isBlank_eq_false_of_runArgument? (h : Callee.runArgument? after = some n) :
    ∀ c ∈ after.take n, isBlank c = false := by
  intro c hc
  have hrun : after.take n <+: after.takeWhile (!isBlank ·) := by
    refine List.prefix_of_prefix_length_le (List.take_prefix n after) (List.takeWhile_prefix _) ?_
    have hle := succ_le_length_run h
    rw [List.length_take]
    omega
  simpa using List.mem_takeWhile_imp (hrun.subset hc)

/-- In a run the argument is what stands before the last closing parenthesis. -/
lemma runArgument?_eq_some_iff (hunbroken : ∀ c ∈ after, isBlank c = false) :
    Callee.runArgument? after = some n ↔
      ∃ argument back, after = argument ++ ')' :: back ∧ ')' ∉ back ∧ argument ≠ [] ∧
        argument.length = n := by
  constructor
  · intro h
    by_cases hround : ')' ∈ after
    · obtain ⟨argument, back, rfl, hback⟩ := exists_last_round hround
      rw [runArgument?_of_last hunbroken hback] at h
      split at h
      · cases h
      · next hempty => exact ⟨argument, back, rfl, hback, hempty, Option.some_inj.mp h⟩
    · rw [runArgument?_of_no_round hround] at h
      cases h
  · rintro ⟨argument, back, rfl, hback, hempty, rfl⟩
    rw [runArgument?_of_last hunbroken hback, if_neg hempty]

end Argument

section Scan

variable {callee : Callee} {as bs run front argument back : List Char} {c : Char} {n : Nat}

/-- The unbroken scan finds no call at the front of a text. -/
def NoCallAt (callee : Callee) (cs : List Char) : Prop :=
  ∀ after, cs = callee.name ++ '(' :: after → Callee.runArgument? after = none

lemma drop_head (callee : Callee) (after : List Char) :
    (callee.name ++ '(' :: after).drop (callee.name ++ ['(']).length = after := by
  have hsplit : callee.name ++ '(' :: after = callee.name ++ ['('] ++ after := by simp
  rw [hsplit, List.drop_left]

lemma exists_of_head_isPrefixOf {cs : List Char}
    (h : (callee.name ++ ['(']).isPrefixOf cs = true) :
    ∃ after, cs = callee.name ++ '(' :: after := by
  obtain ⟨after, hafter⟩ := List.isPrefixOf_iff_prefix.mp h
  exact ⟨after, by simpa using hafter.symm⟩

lemma runsFrom_cons (h : NoCallAt callee (c :: as)) :
    callee.runsFrom (c :: as) = .plain [c] :: callee.runsFrom as := by
  rw [Callee.runsFrom]
  split
  · next hprefix =>
    obtain ⟨after, hafter⟩ := exists_of_head_isPrefixOf hprefix
    dsimp only
    rw [hafter, drop_head, h after hafter]
  · rfl

lemma runsFrom_call {after : List Char} (h : Callee.runArgument? after = some n) :
    callee.runsFrom (callee.name ++ '(' :: after) =
      .call (callee.name ++ '(' :: after.take (n + 1)) (after.take n)
        :: callee.runsFrom (after.drop (n + 1)) := by
  obtain ⟨c, rest, hcons⟩ : ∃ c rest, callee.name ++ '(' :: after = c :: rest :=
    List.exists_cons_of_ne_nil (by simp)
  have hprefix : (callee.name ++ ['(']).isPrefixOf (c :: rest) = true := by
    rw [List.isPrefixOf_iff_prefix, ← hcons]
    exact ⟨after, by simp⟩
  rw [hcons, Callee.runsFrom]
  dsimp only
  rw [if_pos hprefix, ← hcons, drop_head, h]
  simp

/-- Where no call begins, the scan goes on character by character. -/
lemma runsFrom_skip
    (hnone : ∀ cs more, as = cs ++ more → more ≠ [] → NoCallAt callee (more ++ bs)) :
    callee.runsFrom (as ++ bs) = singles as ++ callee.runsFrom bs := by
  induction as with
  | nil => rfl
  | cons c as ih =>
    have hfirst : NoCallAt callee (c :: (as ++ bs)) :=
      hnone [] (c :: as) rfl (List.cons_ne_nil c as)
    have hlater := ih fun cs more hsplit => hnone (c :: cs) more (by rw [hsplit, List.cons_append])
    rw [List.cons_append, runsFrom_cons hfirst, hlater]
    rfl

/-- A name with its parenthesis does not reach across a blank. -/
lemma head_prefix_of_append (hhead : ∀ c ∈ callee.name ++ ['('], isBlank c = false)
    (hends : ∀ c, bs.head? = some c → isBlank c = true)
    (h : callee.name ++ ['('] <+: as ++ bs) : callee.name ++ ['('] <+: as := by
  rcases List.prefix_or_prefix_of_prefix h (List.prefix_append as bs) with hshort | ⟨more, hmore⟩
  · exact hshort
  · cases more with
    | nil => exact ⟨[], by simpa using hmore.symm⟩
    | cons c more =>
      rw [← hmore, List.prefix_append_right_inj] at h
      obtain ⟨rest, hrest⟩ := h
      have hblank := hends c (by rw [← hrest]; rfl)
      have hmem : c ∈ callee.name ++ ['('] := by
        rw [← hmore]
        simp
      rw [hhead c hmem] at hblank
      cases hblank

/-- The scan is cut in two in front of a blank. -/
lemma runsFrom_append (hhead : ∀ c ∈ callee.name ++ ['('], isBlank c = false)
    (hends : ∀ c, bs.head? = some c → isBlank c = true) :
    callee.runsFrom (as ++ bs) = callee.runsFrom as ++ callee.runsFrom bs := by
  induction hlength : as.length using Nat.strongRecOn generalizing as with
  | _ length ih =>
    subst hlength
    by_cases hcall : ∃ after n, as = callee.name ++ '(' :: after ∧
        Callee.runArgument? after = some n
    · obtain ⟨after, n, rfl, hargument⟩ := hcall
      have hargument' : Callee.runArgument? (after ++ bs) = some n := by
        rw [runArgument?_append hends, hargument]
      have hlength := length_of_runArgument? hargument
      have hlater := ih (after.drop (n + 1)).length (by simp; omega) rfl
      rw [List.append_assoc, List.cons_append, runsFrom_call hargument', runsFrom_call hargument,
        List.take_append_of_le_length hlength, List.take_append_of_le_length (by omega),
        List.drop_append_of_le_length hlength, hlater]
      rfl
    · cases as with
      | nil =>
        rw [Callee.runsFrom]
        rfl
      | cons c as =>
        have hnone : NoCallAt callee (c :: as) := by
          intro after hafter
          by_contra hsome
          obtain ⟨n, hn⟩ := Option.ne_none_iff_exists'.mp hsome
          exact hcall ⟨after, n, hafter, hn⟩
        have hnone' : NoCallAt callee (c :: (as ++ bs)) := by
          intro after hafter
          obtain ⟨rest, hrest⟩ : callee.name ++ ['('] <+: c :: as := by
            apply head_prefix_of_append hhead hends
            exact ⟨after, by rw [List.cons_append, hafter]; simp⟩
          have hafter' : after = rest ++ bs := by
            rw [← List.cons_append, ← hrest] at hafter
            simpa using hafter.symm
          rw [hafter', runArgument?_append hends]
          exact hnone rest (by rw [← hrest]; simp)
        have hlater := ih as.length (by simp) rfl
        rw [List.cons_append, runsFrom_cons hnone, runsFrom_cons hnone', hlater]
        rfl

lemma runsFrom_blank (hhead : ∀ c ∈ callee.name ++ ['('], isBlank c = false)
    (hblank : isBlank c = true) : callee.runsFrom (c :: as) = .plain [c] :: callee.runsFrom as := by
  apply runsFrom_cons
  intro after hafter
  obtain ⟨d, rest, hname⟩ := List.exists_cons_of_ne_nil callee.name_ne
  rw [hname, List.cons_append, List.cons_eq_cons] at hafter
  have hfirst := hhead d (by simp [hname])
  rw [← hafter.1, hblank] at hfirst
  cases hfirst

/-- The scan is cut in two behind a blank. -/
lemma runsFrom_append_of_blank (hhead : ∀ c ∈ callee.name ++ ['('], isBlank c = false)
    (hstarts : ∀ c, as.getLast? = some c → isBlank c = true) :
    callee.runsFrom (as ++ bs) = callee.runsFrom as ++ callee.runsFrom bs := by
  rcases List.eq_nil_or_concat as with rfl | ⟨as, c, rfl⟩
  · rw [Callee.runsFrom]
    rfl
  · have hblank := hstarts c (by simp)
    have hcut (rest : List Char) : callee.runsFrom (as ++ c :: rest) =
        callee.runsFrom as ++ .plain [c] :: callee.runsFrom rest := by
      have hends : ∀ d, (c :: rest).head? = some d → isBlank d = true := by
        rintro d ⟨rfl⟩
        exact hblank
      rw [runsFrom_append hhead hends, runsFrom_blank hhead hblank]
    rw [List.concat_eq_append, List.append_assoc, List.singleton_append, hcut, hcut,
      Callee.runsFrom]
    simp

/-- An occurrence of the name that has an argument is the first one, or the first one has. -/
lemma exists_delimits {name before : List Char} (hback : ')' ∉ back) (hargument : argument ≠ [])
    (hrun : run = before ++ name ++ '(' :: (argument ++ ')' :: back)) :
    ∃ front argument, Delimits name run front argument back := by
  induction hlength : before.length using Nat.strongRecOn generalizing before argument with
  | _ length ih =>
    by_cases hfirst : ∀ other after, run = other ++ name ++ '(' :: after →
        before.length ≤ other.length
    · exact ⟨before, argument, hrun, hfirst, hback, hargument⟩
    · push Not at hfirst
      obtain ⟨other, after, hother, hlt⟩ := hfirst
      -- The earlier occurrence ends before the last closing parenthesis, with something in between.
      have hearly : other ++ name ++ ['('] <+: run := ⟨after, by rw [hother]; simp⟩
      have hlate : before ++ name ++ '(' :: argument <+: run := ⟨')' :: back, by rw [hrun]; simp⟩
      have hprefix : other ++ name ++ ['('] <+: before ++ name ++ '(' :: argument := by
        apply List.prefix_of_prefix_length_le hearly hlate
        simp only [List.length_append, List.length_cons, List.length_nil]
        omega
      obtain ⟨between, hbetween⟩ := hprefix
      have hne : between ≠ [] := by
        rintro rfl
        have hsame := congrArg List.length hbetween
        have hpos := List.length_pos_iff.mpr hargument
        simp at hsame
        omega
      apply ih other.length (by omega) hne _ rfl
      rw [hrun]
      have hjoin := congrArg (· ++ ')' :: back) hbetween
      simpa using hjoin.symm

lemma runsFrom_of_not_delimits (hunbroken : ∀ c ∈ run, isBlank c = false)
    (hnone : ∀ front argument back, ¬Delimits callee.name run front argument back) :
    callee.runsFrom run = singles run := by
  have hskip : callee.runsFrom (run ++ []) = singles run ++ callee.runsFrom [] := by
    apply runsFrom_skip
    intro cs more hsplit _ after hafter
    by_contra hsome
    obtain ⟨n, hn⟩ := Option.ne_none_iff_exists'.mp hsome
    rw [List.append_nil] at hafter
    rw [hafter] at hsplit
    have hrest : ∀ c ∈ after, isBlank c = false := fun c hc => hunbroken c (by simp [hsplit, hc])
    obtain ⟨argument, back, rfl, hback, hargument, -⟩ := (runArgument?_eq_some_iff hrest).mp hn
    have hrun : run = cs ++ callee.name ++ '(' :: (argument ++ ')' :: back) := by
      rw [hsplit, List.append_assoc]
    obtain ⟨front, argument, hdelimits⟩ := exists_delimits hback hargument hrun
    exact hnone front argument back hdelimits
  rw [List.append_nil] at hskip
  rw [hskip, Callee.runsFrom, List.append_nil]

lemma runsFrom_of_no_round (hround : ')' ∉ as) : callee.runsFrom as = singles as := by
  have hskip : callee.runsFrom (as ++ []) = singles as ++ callee.runsFrom [] := by
    apply runsFrom_skip
    intro cs more hsplit _ after hafter
    apply runArgument?_of_no_round
    intro hmem
    rw [List.append_nil] at hafter
    exact hround (by simp [hsplit, hafter, hmem])
  rw [List.append_nil] at hskip
  rw [hskip, Callee.runsFrom, List.append_nil]

lemma runsFrom_of_delimits (hunbroken : ∀ c ∈ run, isBlank c = false)
    (h : Delimits callee.name run front argument back) :
    callee.runsFrom run = singles front ++
      .call (callee.name ++ '(' :: (argument ++ [')'])) argument :: singles back := by
  have hrun := h.run_eq
  have hfront : callee.runsFrom run = singles front ++
      callee.runsFrom (callee.name ++ '(' :: (argument ++ ')' :: back)) := by
    rw [hrun, List.append_assoc]
    apply runsFrom_skip
    intro cs more hsplit hmore after hafter
    -- A call here would begin in front of the first occurrence.
    have hcall : run = cs ++ callee.name ++ '(' :: after := by
      rw [hrun, hsplit, List.append_assoc cs callee.name, ← hafter]
      simp
    have hfirst := h.first cs after hcall
    have hpos := List.length_pos_iff.mpr hmore
    rw [hsplit, List.length_append] at hfirst
    omega
  have hrest : ∀ c ∈ argument ++ ')' :: back, isBlank c = false := by
    intro c hc
    apply hunbroken
    rw [hrun]
    exact List.mem_append_right _ (List.mem_cons_of_mem _ hc)
  have hargument : Callee.runArgument? (argument ++ ')' :: back) = some argument.length :=
    (runArgument?_eq_some_iff hrest).mpr ⟨argument, back, rfl, h.last, h.nonempty, rfl⟩
  have htake : (argument ++ ')' :: back).take (argument.length + 1) = argument ++ [')'] := by
    rw [List.take_length_add_append]
    rfl
  rw [hfront, runsFrom_call hargument, htake, List.take_left, ← List.drop_drop, List.drop_left]
  simp [runsFrom_of_no_round h.last]

end Scan

end IconInline.Proofs
