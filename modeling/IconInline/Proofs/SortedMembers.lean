import IconInline.Json.Value
import Mathlib.Data.List.Induction
import Mathlib.Data.List.Nodup
import Mathlib.Tactic.Common

/-!
# Sorted members

An object keeps its members in ascending order of their names, and of equal names the last one
counts. A member is therefore found in an object just if it is the last of its name among the
members as they were written.
-/

namespace IconInline.Proofs
open Json

variable {α β : Type} {name other : String} {v : α} {members : List (String × α)}

/-- Members in ascending order of their names, each name once. -/
def Ascending (members : List (String × α)) : Prop :=
  members.Pairwise fun a b => a.1 < b.1

/-- The last member of a name. -/
def IsLastMember (name : String) (v : α) (members : List (String × α)) : Prop :=
  ∃ before after, members = before ++ (name, v) :: after ∧ ∀ m ∈ after, m.1 ≠ name

lemma lookup_cons_ite (m : String × α) (rest : List (String × α)) :
    (m :: rest).lookup name = if name = m.1 then some m.2 else rest.lookup name := by
  rw [List.lookup_cons]
  by_cases h : name = m.1
  · simp [h]
  · simp only [beq_eq_false_iff_ne.mpr h, h, if_false]

lemma mem_insertMember {m : String × α} (h : m ∈ insertMember name v members) :
    m = (name, v) ∨ m ∈ members := by
  fun_induction insertMember name v members with
  | case1 => simpa using h
  | case2 n w rest hlt => simpa using h
  | case3 w rest hlt =>
    rcases List.mem_cons.mp h with rfl | hm
    · exact .inl rfl
    · exact .inr (List.mem_cons_of_mem _ hm)
  | case4 n w rest hlt hne ih =>
    rcases List.mem_cons.mp h with rfl | hm
    · exact .inr List.mem_cons_self
    · exact (ih hm).imp_right (List.mem_cons_of_mem _)

lemma Ascending.insertMember (h : Ascending members) :
    Ascending (insertMember name v members) := by
  fun_induction Json.insertMember name v members with
  | case1 => exact List.pairwise_singleton _ _
  | case2 n w rest hlt =>
    refine List.Pairwise.cons (fun m hm => ?_) h
    rcases List.mem_cons.mp hm with rfl | hm
    · exact hlt
    · exact String.lt_trans hlt (List.rel_of_pairwise_cons h hm)
  | case3 w rest hlt =>
    exact List.Pairwise.cons (fun m hm => List.rel_of_pairwise_cons h hm) h.of_cons
  | case4 n w rest hlt hne ih =>
    refine List.Pairwise.cons (fun m hm => ?_) (ih h.of_cons)
    rcases mem_insertMember hm with rfl | hm
    · have hle : n ≤ name := String.not_lt.mp hlt
      exact Std.lt_of_le_of_ne hle (Ne.symm hne)
    · exact List.rel_of_pairwise_cons h hm

lemma lookup_insertMember : (insertMember name v members).lookup other =
    if other = name then some v else members.lookup other := by
  fun_induction insertMember name v members with
  | case1 => exact lookup_cons_ite _ _
  | case2 n w rest hlt => exact lookup_cons_ite _ _
  | case3 w rest hlt =>
    rw [lookup_cons_ite, lookup_cons_ite]
    by_cases h : other = name <;> simp [h]
  | case4 n w rest hlt hne ih =>
    rw [lookup_cons_ite, lookup_cons_ite, ih]
    by_cases hn : other = n
    · subst hn
      simp [Ne.symm hne]
    · simp [hn]

lemma sortMembers_concat (m : String × α) :
    sortMembers (members ++ [m]) = insertMember m.1 m.2 (sortMembers members) := by
  rw [sortMembers, List.foldl_append]
  rfl

lemma ascending_sortMembers (members : List (String × α)) : Ascending (sortMembers members) := by
  induction members using List.reverseRecOn with
  | nil => exact List.Pairwise.nil
  | append_singleton members m ih =>
    rw [sortMembers_concat]
    exact ih.insertMember

lemma lookup_sortMembers (members : List (String × α)) (name : String) :
    (sortMembers members).lookup name = members.reverse.lookup name := by
  induction members using List.reverseRecOn with
  | nil => rfl
  | append_singleton members m ih =>
    rw [sortMembers_concat, lookup_insertMember, List.reverse_concat, lookup_cons_ite, ih]

lemma lookup_sortMembers_eq_some :
    (sortMembers members).lookup name = some v ↔ IsLastMember name v members := by
  rw [lookup_sortMembers, List.lookup_eq_some_iff]
  constructor
  · rintro ⟨before, after, hsplit, hfree⟩
    refine ⟨after.reverse, before.reverse, ?_, fun m hm heq => ?_⟩
    · rw [← List.reverse_reverse members, hsplit]
      simp
    · simpa [heq] using hfree m (List.mem_reverse.mp hm)
  · rintro ⟨before, after, rfl, hfree⟩
    refine ⟨after.reverse, before.reverse, by simp, fun m hm => ?_⟩
    simpa using (hfree m (List.mem_reverse.mp hm)).symm

lemma ascending_iff_keys : Ascending members ↔ (members.map Prod.fst).Pairwise (· < ·) :=
  List.pairwise_map.symm

lemma Ascending.nodup_keys (h : Ascending members) : (members.map Prod.fst).Nodup := by
  refine (ascending_iff_keys.mp h).imp fun hlt heq => ?_
  exact String.lt_irrefl _ (heq ▸ hlt)

lemma lookup_eq_some_of_mem (h : (members.map Prod.fst).Nodup) {m : String × α} (hm : m ∈ members) :
    members.lookup m.1 = some m.2 := by
  obtain ⟨before, after, rfl⟩ := List.append_of_mem hm
  rw [List.lookup_eq_some_iff]
  refine ⟨before, after, rfl, fun p hp => ?_⟩
  rw [List.map_append, List.map_cons, List.nodup_middle, List.nodup_cons] at h
  have hne : p.1 ≠ m.1 := fun heq =>
    h.1 (List.mem_append_left _ (List.mem_map.mpr ⟨p, hp, heq⟩))
  simpa using hne.symm

lemma lookup_eq_some_iff_mem (h : (members.map Prod.fst).Nodup) :
    members.lookup name = some v ↔ (name, v) ∈ members := by
  refine ⟨fun hv => ?_, fun hm => lookup_eq_some_of_mem h hm⟩
  obtain ⟨before, after, rfl, -⟩ := List.lookup_eq_some_iff.mp hv
  simp

/-- Two ascending lists of members are equal if the same members are found in them. -/
lemma Ascending.ext {ms ns : List (String × α)} (hm : Ascending ms) (hn : Ascending ns)
    (h : ∀ name, ms.lookup name = ns.lookup name) : ms = ns := by
  have hmem : ∀ m, m ∈ ms ↔ m ∈ ns := by
    rintro ⟨name, v⟩
    rw [← lookup_eq_some_iff_mem hm.nodup_keys, ← lookup_eq_some_iff_mem hn.nodup_keys, h]
  have hperm : ms.Perm ns :=
    (List.perm_ext_iff_of_nodup (List.Nodup.of_map _ hm.nodup_keys)
      (List.Nodup.of_map _ hn.nodup_keys)).mpr hmem
  exact hperm.eq_of_pairwise (fun a b _ _ hab hba => absurd hba (String.lt_asymm hab)) hm hn

lemma Ascending.sortMembers_eq (h : Ascending members) : sortMembers members = members := by
  refine (ascending_sortMembers members).ext h fun name => ?_
  rw [lookup_sortMembers]
  refine Option.ext fun v => ?_
  have hreverse : (members.reverse.map Prod.fst).Nodup := by
    rw [List.map_reverse]
    exact List.nodup_reverse.mpr h.nodup_keys
  rw [lookup_eq_some_iff_mem hreverse, lookup_eq_some_iff_mem h.nodup_keys, List.mem_reverse]

lemma lookup_map (f : α → β) (members : List (String × α)) (name : String) :
    (members.map fun m => (m.1, f m.2)).lookup name = (members.lookup name).map f := by
  induction members with
  | nil => rfl
  | cons m members ih =>
    rw [List.map_cons, lookup_cons_ite, lookup_cons_ite, ih]
    split <;> rfl

end IconInline.Proofs
