import IconInline.Json.Decoder
import IconInline.Proofs.SortedMembers

/-!
# Fields of a record

A record is read by changing it field by field. A part of it that one field sets and all others
keep is therefore what that field's value stands for, wherever the field stands, and the part is
kept from the start where the field is absent.
-/

namespace IconInline.Proofs
open Json Decoder

variable {σ α β : Type} {rules : ValueRules} {field : RecordField σ} {get : σ → β}
  {R : Json → β → Prop}

lemma bind_eq_ok {ε : Type} {x : Except ε α} {f : α → Except ε β} {b : β} :
    (x >>= f) = .ok b ↔ ∃ a, x = .ok a ∧ f a = .ok b := by
  cases x <;> simp [bind, Except.bind]

/-- Whatever the field reads, the part is then what the value stands for. -/
def Sets (rules : ValueRules) (field : RecordField σ) (get : σ → β) (R : Json → β → Prop) : Prop :=
  ∀ v change, field.change.ofValue rules v = .ok change → ∀ r, R v (get (change r))

/-- Whatever the field reads, the part is as before. -/
def Leaves (rules : ValueRules) (get : σ → β) (field : RecordField σ) : Prop :=
  ∀ v change, field.change.ofValue rules v = .ok change → ∀ r, get (change r) = get r

/-- The field accepts the value. -/
def Accepts (rules : ValueRules) (field : RecordField σ) (v : Json) : Prop :=
  ∃ change, field.change.ofValue rules v = .ok change

lemma map_ofValue_eq_ok {d : Decoder α} {f : α → β} {v : Json} {b : β} :
    (d.map f).ofValue rules v = .ok b ↔ ∃ a, d.ofValue rules v = .ok a ∧ f a = b := by
  rw [Decoder.map, bind_eq_ok]
  simp [pure, Except.pure]

section Named

variable {before after : List (RecordField σ)} {members : List (String × Json)} {r r' : σ}

/-- In an object, a part is what the value of its field's name stands for. -/
lemma namedValues_get (hnames : ((before ++ field :: after).map (·.name)).Nodup)
    (hsets : Sets rules field get R) (hleaves : ∀ f ∈ before ++ after, Leaves rules get f)
    (hkeys : (members.map Prod.fst).Nodup)
    (h : namedValues rules (before ++ field :: after) members r = .ok r') :
    (∀ v, members.lookup field.name = some v → R v (get r')) ∧
      (members.lookup field.name = none → get r' = get r) := by
  induction members generalizing r with
  | nil =>
    rw [namedValues] at h
    cases h
    simp
  | cons m rest ih =>
    obtain ⟨name, v⟩ := m
    obtain ⟨hfresh, hkeys⟩ := List.nodup_cons.mp hkeys
    rw [namedValues] at h
    rw [lookup_cons_ite]
    split at h
    · next hunknown =>
      have hne : field.name ≠ name := by
        intro heq
        have := List.find?_eq_none.mp hunknown field (by simp)
        simp [heq] at this
      simpa [hne] using ih hkeys h
    · next f hf =>
      obtain ⟨change, hchange, h⟩ := bind_eq_ok.mp h
      have hmem : f ∈ before ++ field :: after := List.mem_of_find?_eq_some hf
      have hname : f.name = name := by simpa using List.find?_some hf
      by_cases heq : field.name = name
      · have hsame : f = field :=
          List.inj_on_of_nodup_map hnames hmem (by simp) (hname.trans heq.symm)
        subst hsame
        have hgone : rest.lookup f.name = none := by
          rw [List.lookup_eq_none_iff]
          intro p hp
          have : p.1 ≠ name := fun hn => hfresh (List.mem_map.mpr ⟨p, hp, hn⟩)
          simpa [hname] using this.symm
        have hset : R v (get r') := (ih hkeys h).2 hgone ▸ hsets v change hchange r
        simpa [heq] using hset
      · have hother : f ∈ before ++ after := by
          have : f ≠ field := fun hf => heq (hf ▸ hname)
          simpa [this] using hmem
        have hleft : get (change r) = get r := hleaves f hother v change hchange r
        simpa [heq, hleft] using ih hkeys h

/-- An object is read if every member of a known name is accepted. -/
lemma namedValues_isOk {fields : List (RecordField σ)}
    (h : ∀ m ∈ members, ∀ f ∈ fields, f.name = m.1 → Accepts rules f m.2) (r : σ) :
    ∃ r', namedValues rules fields members r = .ok r' := by
  induction members generalizing r with
  | nil => exact ⟨r, rfl⟩
  | cons m rest ih =>
    obtain ⟨name, v⟩ := m
    have hrest := ih fun m hm => h m (List.mem_cons_of_mem _ hm)
    rw [namedValues]
    split
    · exact hrest r
    · next f hf =>
      have hname : f.name = name := by simpa using List.find?_some hf
      obtain ⟨change, hchange⟩ :=
        h (name, v) List.mem_cons_self f (List.mem_of_find?_eq_some hf) hname
      obtain ⟨r', hr'⟩ := hrest (change r)
      exact ⟨r', bind_eq_ok.mpr ⟨change, hchange, hr'⟩⟩

lemma record_object_eq_ok {title : String} {empty : σ} {fields : List (RecordField σ)} :
    (Decoder.record title empty fields).ofValue rules (.object members) = .ok r ↔
      namedValues rules fields members empty = .ok r ∧
        ∀ f ∈ fields, f.inObject = false → members.lookup f.name ≠ none := by
  have hany : ∀ name, members.any (·.1 == name) = false ↔ members.lookup name = none := by
    intro name
    rw [List.lookup_eq_none_iff, List.any_eq_false]
    refine forall₂_congr fun m _ => ?_
    rw [beq_iff_eq, bne_iff_ne, ne_comm]
  simp only [Decoder.record]
  split
  · next hread => simp [hread]
  · next result hread =>
    split
    · next f hf =>
      have hlacks := List.find?_some hf
      simp only [Bool.and_eq_true, Bool.not_eq_true', hany] at hlacks
      simp only [reduceCtorEq, false_iff, not_and]
      intro _ hall
      exact hall f (List.mem_of_find?_eq_some hf) hlacks.1 hlacks.2
    · next hf =>
      have hall : ∀ f ∈ fields, f.inObject = false → members.lookup f.name ≠ none := by
        intro f hmem hin hgone
        have := List.find?_eq_none.mp hf f hmem
        simp [hin, (hany f.name).mpr hgone] at this
      simpa [hread] using fun _ => hall

end Named

section Listed

variable {before after : List (RecordField σ)} {items : List Json} {expected : String}
  {length i : Nat} {r r' : σ}

lemma listedValues_leaves {fields : List (RecordField σ)}
    (hleaves : ∀ f ∈ fields, Leaves rules get f)
    (h : listedValues rules expected length fields i items r = .ok r') : get r' = get r := by
  fun_induction listedValues rules expected length fields i items r with
  | case1 =>
    cases h
    rfl
  | case2 =>
    cases h
    rfl
  | case3 => cases h
  | case4 field rest i record hlist ih =>
    exact ih (fun f hf => hleaves f (List.mem_cons_of_mem _ hf)) h
  | case5 => cases h
  | case6 field rest i v more record ih =>
    obtain ⟨change, hchange, h⟩ := bind_eq_ok.mp h
    rw [ih change (fun f hf => hleaves f (List.mem_cons_of_mem _ hf)) h]
    exact hleaves field List.mem_cons_self v change hchange record

/-- In a list, a part is what the value at its field's place stands for. -/
lemma listedValues_get (hsets : Sets rules field get R)
    (hleaves : ∀ f ∈ before ++ after, Leaves rules get f)
    (h : listedValues rules expected length (before ++ field :: after) i items r = .ok r') :
    (∀ v, items[before.length]? = some v → R v (get r')) ∧
      (items[before.length]? = none → get r' = get r) := by
  induction before generalizing i items r with
  | nil =>
    cases items with
    | nil =>
      refine ⟨by simp, fun _ => ?_⟩
      rw [List.nil_append, listedValues] at h
      split at h
      · exact listedValues_leaves hleaves h
      · cases h
    | cons v more =>
      rw [List.nil_append, listedValues] at h
      obtain ⟨change, hchange, h⟩ := bind_eq_ok.mp h
      have hset : R v (get r') := listedValues_leaves hleaves h ▸ hsets v change hchange r
      simpa using hset
  | cons f before ih =>
    have hrest : ∀ g ∈ before ++ after, Leaves rules get g := fun g hg =>
      hleaves g (List.mem_cons_of_mem _ hg)
    cases items with
    | nil =>
      rw [List.cons_append, listedValues] at h
      split at h
      · simpa using ih hrest h
      · cases h
    | cons v more =>
      rw [List.cons_append, listedValues] at h
      obtain ⟨change, hchange, h⟩ := bind_eq_ok.mp h
      have hleft : get (change r) = get r := hleaves f List.mem_cons_self v change hchange r
      simpa [hleft] using ih hrest h

/-- A list is read just if it is not too long, its items are accepted and no field that it lacks
must be there. -/
lemma listedValues_isOk_iff {fields : List (RecordField σ)} (hrules : rules.longLists = false) :
    (∃ r', listedValues rules expected length fields i items r = .ok r') ↔
      items.length ≤ fields.length ∧
      (∀ p ∈ fields.zip items, Accepts rules p.1 p.2) ∧
      ∀ f ∈ fields.drop items.length, f.inList = true := by
  fun_induction listedValues rules expected length fields i items r with
  | case1 => simp
  | case2 _ _ _ _ hlong => simp [hrules] at hlong
  | case3 => simp
  | case4 field rest i record hlist ih => simpa [hlist] using ih
  | case5 field rest i record hlist => simp [hlist]
  | case6 field rest i v more record ih =>
    constructor
    · rintro ⟨r', h⟩
      obtain ⟨change, hchange, h⟩ := bind_eq_ok.mp h
      obtain ⟨hlength, hitems, hlast⟩ := (ih change).mp ⟨r', h⟩
      refine ⟨by simpa using hlength, ?_, by simpa using hlast⟩
      simpa [Accepts, hchange] using hitems
    · rintro ⟨hlength, hitems, hlast⟩
      obtain ⟨change, hchange⟩ := hitems (field, v) (by simp)
      obtain ⟨r', h⟩ := (ih change).mpr ⟨by simpa using hlength,
        fun p hp => hitems p (by simp [hp]), by simpa using hlast⟩
      exact ⟨r', bind_eq_ok.mpr ⟨change, hchange, h⟩⟩

lemma record_array {title : String} {empty : σ} {fields : List (RecordField σ)} :
    (Decoder.record title empty fields).ofValue rules (.array items) =
      listedValues rules (title ++ " with " ++ toString fields.length ++ " elements") items.length
        fields 0 items empty := rfl

end Listed

end IconInline.Proofs
