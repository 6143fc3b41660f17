import IconInline.Dataset.Cache
import Mathlib.Tactic.Common

/-!
# The cells of a cache

A cache has one cell for each key. So what a key's cell holds is what is found for the key, making
a cell changes nothing that is found, and filling a cell changes it for its key only.
-/

namespace IconInline.Proofs

/-- Each key has one cell at most. -/
def Distinct (cache : Cache) : Prop := (cache.entries.map Prod.fst).Nodup

/-- The cell of a key stands at a place. -/
def CellAt (cache : Cache) (place : Nat) (key : DatasetRef) : Prop :=
  (cache.entries[place]?).map Prod.fst = some key

section Cells

variable {cache : Cache} {place other : Nat} {key : DatasetRef}

lemma CellAt.mem_keys (h : CellAt cache place key) : key ∈ cache.entries.map Prod.fst := by
  obtain ⟨entry, hentry, rfl⟩ := Option.map_eq_some_iff.mp h
  exact List.mem_map_of_mem (List.mem_of_getElem? hentry)

lemma CellAt.key_eq {k : DatasetRef} (h : CellAt cache place key) (hk : CellAt cache place k) :
    key = k :=
  Option.some_inj.mp (h.symm.trans hk)

lemma CellAt.place_eq (hdistinct : Distinct cache) (h : CellAt cache place key)
    (hother : CellAt cache other key) : place = other := by
  rw [CellAt, ← List.getElem?_map] at h hother
  have hlt : place < (cache.entries.map Prod.fst).length :=
    (List.getElem?_eq_some_iff.mp h).1
  exact (List.getElem?_inj hlt hdistinct).mp (h.trans hother.symm)

lemma find?_eq_content? (hdistinct : Distinct cache) (h : CellAt cache place key) :
    cache.find? key = cache.content? place := by
  obtain ⟨entries⟩ := cache
  rw [Cache.find?, Cache.content?]
  induction entries generalizing place with
  | nil => cases h
  | cons entry rest ih =>
    obtain ⟨first, content⟩ := entry
    obtain ⟨hnot, hdistinct'⟩ := List.nodup_cons.mp hdistinct
    cases place with
    | zero =>
      obtain rfl : first = key := Option.some_inj.mp h
      simp
    | succ place =>
      have hrest : CellAt ⟨rest⟩ place key := h
      have hne : key ≠ first := fun heq => hnot (heq ▸ hrest.mem_keys)
      rw [List.lookup_cons, beq_eq_false_iff_ne.mpr hne, List.getElem?_cons_succ]
      exact ih hdistinct' hrest

lemma find?_eq_some_iff (hdistinct : Distinct cache) {icons : IconSet} :
    cache.find? key = some icons ↔ (key, some icons) ∈ cache.entries := by
  constructor
  · intro h
    rw [Cache.find?, Option.join_eq_some_iff] at h
    obtain ⟨before, after, heq, -⟩ := List.lookup_eq_some_iff.mp h
    simp [heq]
  · intro h
    obtain ⟨place, hplace⟩ := List.mem_iff_getElem?.mp h
    have hcell : CellAt cache place key := by rw [CellAt, hplace]; rfl
    rw [find?_eq_content? hdistinct hcell, Cache.content?, hplace]
    rfl

/-- The keys that are found, each once, are as many as the size says. -/
lemma exists_keys_size (hdistinct : Distinct cache) :
    ∃ keys : List DatasetRef, keys.Nodup ∧ (∀ key, key ∈ keys ↔ (cache.find? key).isSome) ∧
      cache.size = keys.length := by
  refine ⟨(cache.entries.filter (·.2.isSome)).map Prod.fst, ?_, ?_, ?_⟩
  · exact hdistinct.sublist (List.filter_sublist.map Prod.fst)
  · intro key
    rw [Option.isSome_iff_exists]
    simp only [find?_eq_some_iff hdistinct, List.mem_map, List.mem_filter, Prod.exists,
      exists_and_right, exists_eq_right, Option.isSome_iff_exists]
    constructor
    · rintro ⟨content, hmem, icons, rfl⟩
      exact ⟨icons, hmem⟩
    · rintro ⟨icons, hmem⟩
      exact ⟨some icons, hmem, icons, rfl⟩
  · rw [List.length_map, Cache.size, List.countP_eq_length_filter]

end Cells

/-! ## Making and filling cells -/

section Changes

variable {cache : Cache} {place other : Nat} {key : DatasetRef}

/-- Giving a key its cell changes nothing but that a new key has an empty one. -/
lemma cell_spec (hdistinct : Distinct cache) (key : DatasetRef) :
    Distinct (cache.cell key).2 ∧ CellAt (cache.cell key).2 (cache.cell key).1 key ∧
      (∀ other k, CellAt cache other k → CellAt (cache.cell key).2 other k) ∧
      ∀ k, (cache.cell key).2.find? k = cache.find? k := by
  rw [Cache.cell]
  cases hplace : cache.entries.findIdx? (·.1 == key) with
  | some place =>
    obtain ⟨hlt, hkey, -⟩ := List.findIdx?_eq_some_iff_getElem.mp hplace
    refine ⟨hdistinct, ?_, fun _ _ h => h, fun _ => rfl⟩
    rw [CellAt, List.getElem?_eq_getElem hlt]
    exact congrArg some (eq_of_beq hkey)
  | none =>
    have hnew : ∀ entry ∈ cache.entries, entry.1 ≠ key := by
      simpa using List.findIdx?_eq_none_iff.mp hplace
    refine ⟨?_, ?_, ?_, ?_⟩
    · rw [Distinct, List.map_append]
      refine List.nodup_append.mpr ⟨hdistinct, by simp, ?_⟩
      simpa using hnew
    · simp [CellAt]
    · intro other k h
      obtain ⟨entry, hentry, hk⟩ := Option.map_eq_some_iff.mp h
      rw [CellAt, List.getElem?_append_left (List.getElem?_eq_some_iff.mp hentry).1, hentry]
      exact congrArg some hk
    · intro k
      rw [Cache.find?, Cache.find?, List.lookup_append]
      cases cache.entries.lookup k with
      | some content => rfl
      | none =>
        rw [Option.none_or, List.lookup_cons]
        split
        · rfl
        · rfl

lemma keys_fill (icons : IconSet) :
    (cache.fill place icons).entries.map Prod.fst = cache.entries.map Prod.fst := by
  refine List.ext_getElem? ?_
  intro j
  rw [Cache.fill, List.getElem?_map, List.getElem?_map, List.getElem?_modify]
  cases cache.entries[j]? with
  | none => rfl
  | some entry =>
    by_cases h : place = j
    · simp [h]
    · simp [h]

lemma Distinct.fill (h : Distinct cache) (icons : IconSet) :
    Distinct (cache.fill place icons) := by
  rw [Distinct, keys_fill]
  exact h

lemma cellAt_fill_iff (icons : IconSet) :
    CellAt (cache.fill place icons) other key ↔ CellAt cache other key := by
  rw [CellAt, CellAt, ← List.getElem?_map, ← List.getElem?_map, keys_fill]

/-- Filling the cell of a key changes what is found for this key only. -/
lemma find?_fill (hdistinct : Distinct cache) (h : CellAt cache place key) (icons : IconSet)
    (k : DatasetRef) :
    (cache.fill place icons).find? k = if k = key then some icons else cache.find? k := by
  obtain ⟨entries⟩ := cache
  rw [Cache.fill, Cache.find?, Cache.find?]
  induction entries generalizing place with
  | nil => cases h
  | cons entry rest ih =>
    obtain ⟨first, content⟩ := entry
    obtain ⟨hnot, hdistinct'⟩ := List.nodup_cons.mp hdistinct
    cases place with
    | zero =>
      obtain rfl : first = key := Option.some_inj.mp h
      rw [List.modify_zero_cons, List.lookup_cons, List.lookup_cons]
      by_cases hk : k = first
      · simp [hk]
      · rw [beq_eq_false_iff_ne.mpr hk, if_neg hk]
    | succ place =>
      have hrest : CellAt ⟨rest⟩ place key := h
      have hne : first ≠ key := fun heq => hnot (heq ▸ hrest.mem_keys)
      rw [List.modify_succ_cons, List.lookup_cons, List.lookup_cons]
      by_cases hk : k = first
      · subst hk
        simp [hne]
      · rw [beq_eq_false_iff_ne.mpr hk]
        exact ih hdistinct' hrest

end Changes

end IconInline.Proofs
