import IconInline.Dataset
import IconInline.Proofs.RecordFields

/-!
# The forms of an icon

An icon is written as an object, whose members may stand in any order and beside others, or as
the list of its fields. Its optional texts are left out, `null` or texts, and its path is a text
or a list of texts. These are all forms there are: what is of no form is refused.
-/

namespace IconInline.Proofs
open Json hiding listed
open Decoder Icon

/-- A path or a list of paths. -/
inductive IsDrawing : Json → Drawing → Prop
  | single (path : String) : IsDrawing (.string path) (.single path)
  | layered (paths : List String) : IsDrawing (.array (paths.map .string)) (.layered paths)

/-- A text that may be left out or `null`. -/
inductive IsOptional : Option Json → Option String → Prop
  | absent : IsOptional none none
  | null : IsOptional (some .null) none
  | text (s : String) : IsOptional (some (.string s)) (some s)

/-- The list of width, height, ligatures, glyph and path. -/
inductive IsBody : Json → UInt32 × UInt32 × List String × String × Drawing → Prop
  | list (width height : UInt32) (ligatures : List String) (glyph : String) {v : Json}
      {path : Drawing} (hpath : IsDrawing v path) :
      IsBody (.array [.ofNat width.toNat, .ofNat height.toNat, .array (ligatures.map .string),
        .string glyph, v]) (width, height, ligatures, glyph, path)

/-- The part of an icon that its list of width, height, ligatures, glyph and path holds. -/
def bodyOf (icon : Icon) : UInt32 × UInt32 × List String × String × Drawing :=
  (icon.width, icon.height, icon.ligatures, icon.glyph, icon.path)

/-- The icon whose fields have given values. A field has a name in an object and a place in a
list. -/
structure HasFields (value : String → Nat → Option Json) (icon : Icon) : Prop where
  family : IsOptional (value "prefix" 0) icon.family
  name : IsOptional (value "iconName" 1) icon.name
  body : ∃ v, value "icon" 2 = some v ∧ IsBody v (bodyOf icon)
  viewBox : IsOptional (value "viewBox" 3) icon.viewBox
  fill : IsOptional (value "fill" 4) icon.fill
  strokeWidth : IsOptional (value "strokeWidth" 5) icon.strokeWidth
  fillRule : IsOptional (value "fillRule" 6) icon.fillRule

/-- A value that is written for an icon. -/
inductive IsIcon : Json → Icon → Prop
  | named {members : List (String × Json)} {icon : Icon}
      (fields : HasFields (fun name _ => members.lookup name) icon) : IsIcon (.object members) icon
  | listed {items : List Json} {icon : Icon} (hlength : items.length ≤ 7)
      (fields : HasFields (fun _ i => items[i]?) icon) : IsIcon (.array items) icon

section Leaves

lemma string_ofValue_eq_ok {rules : ValueRules} {v : Json} {s : String} :
    Decoder.string.ofValue rules v = .ok s ↔ v = .string s := by
  cases v <;> simp [Decoder.string, leaf]

lemma mapM_string_eq_ok {rules : ValueRules} {items : List Json} {texts : List String} :
    items.mapM (Decoder.string.ofValue rules) = .ok texts ↔ items = texts.map .string := by
  induction items generalizing texts with
  | nil => cases texts <;> simp [pure, Except.pure]
  | cons v items ih =>
    rw [List.mapM_cons]
    constructor
    · intro h
      obtain ⟨s, hs, h⟩ := bind_eq_ok.mp h
      obtain ⟨more, hmore, h⟩ := bind_eq_ok.mp h
      cases h
      rw [List.map_cons, string_ofValue_eq_ok.mp hs, ih.mp hmore]
    · intro h
      cases texts with
      | nil => cases h
      | cons s texts =>
        obtain ⟨rfl, hitems⟩ := List.cons.inj h
        exact bind_eq_ok.mpr ⟨s, rfl, bind_eq_ok.mpr ⟨texts, ih.mpr hitems, rfl⟩⟩

lemma lt_twoTo_32 {n : Int} (h : 0 ≤ n) : n < twoTo 32 ↔ n.toNat < 4294967296 := by
  have htwo : twoTo 32 = 4294967296 := rfl
  rw [htwo]
  omega

lemma word32_ofValue_eq_ok {rules : ValueRules} {v : Json} {w : UInt32} :
    Decoder.word32.ofValue rules v = .ok w ↔ v = .ofNat w.toNat := by
  constructor
  · intro h
    simp only [Decoder.word32, leaf] at h
    split at h
    · next n =>
      split at h
      · next hn =>
        cases h
        have hlt := (lt_twoTo_32 hn.1).mp hn.2
        have hword : n.toNat.toUInt32.toNat = n.toNat := Nat.mod_eq_of_lt hlt
        rw [Json.ofNat, hword, Int.toNat_of_nonneg hn.1]
      · cases h
    · cases h
  · rintro rfl
    have hlt : ((w.toNat : Nat) : Int) < twoTo 32 :=
      (lt_twoTo_32 (Int.natCast_nonneg _)).mpr w.toNat_lt
    simp [Decoder.word32, leaf, Json.ofNat, hlt]

lemma drawing_ofJson_eq_ok {v : Json} {path : Drawing} :
    Drawing.ofJson v = .ok path ↔ IsDrawing v path := by
  constructor
  · intro h
    cases v with
    | string s =>
      cases h
      exact .single s
    | array items =>
      simp only [Drawing.ofJson] at h
      split at h
      · next paths hpaths =>
        cases h
        rw [mapM_string_eq_ok.mp hpaths]
        exact .layered paths
      · cases h
    | _ => cases h
  · intro h
    cases h with
    | single s => rfl
    | layered paths =>
      have hpaths : (paths.map Json.string).mapM (readValue .string) = .ok paths :=
        mapM_string_eq_ok.mpr rfl
      simp [Drawing.ofJson, hpaths]

lemma option_ofValue_eq_ok {rules : ValueRules} {v : Json} {text : Option String} :
    (Decoder.option .string).ofValue rules v = .ok text ↔ IsOptional (some v) text := by
  constructor
  · intro h
    cases v with
    | null =>
      cases h
      exact .null
    | string s =>
      cases h
      exact .text s
    | _ => cases h
  · intro h
    cases h <;> rfl

lemma list_ofValue_eq_ok {rules : ValueRules} {v : Json} {texts : List String} :
    (Decoder.list .string).ofValue rules v = .ok texts ↔ v = .array (texts.map .string) := by
  cases v with
  | array items => exact mapM_string_eq_ok.trans (by rw [Json.array.injEq])
  | _ => simp [Decoder.list]

end Leaves

section Body

variable {rules : ValueRules} {expected : String} {length i : Nat} {items : List Json}
  {icon icon' : Icon} {α : Type}

lemma listedValues_listed {d : Decoder α} {set : α → Icon → Icon} {rest : List (RecordField Icon)} :
    listedValues rules expected length (listed d set :: rest) i items icon = .ok icon' ↔
      ∃ v more a, items = v :: more ∧ d.ofValue rules v = .ok a ∧
        listedValues rules expected length rest (i + 1) more (set a icon) = .ok icon' := by
  cases items with
  | nil => simp [listedValues, listed]
  | cons v more =>
    rw [listedValues, bind_eq_ok]
    simp only [listed, map_ofValue_eq_ok]
    constructor
    · rintro ⟨_, ⟨a, ha, rfl⟩, h⟩
      exact ⟨v, more, a, rfl, ha, h⟩
    · rintro ⟨_, _, a, heq, ha, h⟩
      cases heq
      exact ⟨_, ⟨a, ha, rfl⟩, h⟩

lemma listedValues_nil (hrules : rules.longLists = false) :
    listedValues rules expected length [] i items icon = .ok icon' ↔ items = [] ∧ icon = icon' := by
  cases items <;> simp [listedValues, hrules]

/-- The icon with another list of width, height, ligatures, glyph and path. -/
def withBody (body : UInt32 × UInt32 × List String × String × Drawing) (icon : Icon) : Icon :=
  { icon with
    width := body.1, height := body.2.1, ligatures := body.2.2.1
    glyph := body.2.2.2.1, path := body.2.2.2.2 }

lemma bodyDecoder_ofValue_eq_ok (hrules : rules.longLists = false) {v : Json}
    {change : Icon → Icon} :
    bodyDecoder.ofValue rules v = .ok change ↔ ∃ body, IsBody v body ∧ withBody body = change := by
  constructor
  · intro h
    cases v with
    | array items =>
      obtain ⟨icon, hicon, h⟩ := bind_eq_ok.mp h
      cases h
      simp only [listedValues_listed, listedValues_nil hrules] at hicon
      obtain ⟨_, _, w, rfl, hw, _, _, height, rfl, hheight, _, _, ls, rfl,
        hls, _, _, g, rfl, hg, _, _, p, rfl, hp, rfl, rfl⟩ := hicon
      rw [word32_ofValue_eq_ok.mp hw, word32_ofValue_eq_ok.mp hheight,
        list_ofValue_eq_ok.mp hls, string_ofValue_eq_ok.mp hg]
      exact ⟨(w, height, ls, g, p), .list w height ls g (drawing_ofJson_eq_ok.mp hp), rfl⟩
    | _ => cases h
  · rintro ⟨body, ⟨w, h, ls, g, hpath⟩, rfl⟩
    refine bind_eq_ok.mpr ⟨withBody (w, h, ls, g, _) blank, ?_, rfl⟩
    simp only [listedValues_listed, listedValues_nil hrules]
    exact ⟨_, _, w, rfl, word32_ofValue_eq_ok.mpr rfl, _, _, h, rfl, word32_ofValue_eq_ok.mpr rfl,
      _, _, ls, rfl, list_ofValue_eq_ok.mpr rfl, _, _, g, rfl, string_ofValue_eq_ok.mpr rfl,
      _, _, _, rfl, drawing_ofJson_eq_ok.mpr hpath, rfl, rfl⟩

end Body

section Fields

variable {α β : Type} {name : String} {set : Option String → Icon → Icon} {get : Icon → β}
  {value : String → Nat → Option Json} {icon icon' : Icon}

/-- The field of the list of width, height, ligatures, glyph and path. -/
def bodyField : RecordField Icon := ⟨"icon", bodyDecoder, false, false⟩

/-- The fields of an icon in their order. -/
def iconFields : List (RecordField Icon) :=
  [optional "prefix" fun s icon => { icon with family := s },
    optional "iconName" fun s icon => { icon with name := s },
    bodyField,
    optional "viewBox" fun s icon => { icon with viewBox := s },
    optional "fill" fun s icon => { icon with fill := s },
    optional "strokeWidth" fun s icon => { icon with strokeWidth := s },
    optional "fillRule" fun s icon => { icon with fillRule := s }]

lemma decoder_eq : Icon.decoder = .record "struct IconDefinition" blank iconFields := rfl

lemma optional_ofValue_eq_ok {v : Json} {change : Icon → Icon} :
    (Icon.optional name set).change.ofValue .json v = .ok change ↔
      ∃ text, IsOptional (some v) text ∧ set text = change := by
  simp only [Icon.optional, map_ofValue_eq_ok, option_ofValue_eq_ok]

lemma sets_optional {get : Icon → Option String} (h : ∀ s icon, get (set s icon) = s) :
    Sets .json (Icon.optional name set) get fun v s => IsOptional (some v) s := by
  intro v change hchange icon
  obtain ⟨text, htext, rfl⟩ := optional_ofValue_eq_ok.mp hchange
  rwa [h]

lemma leaves_optional_iff : Leaves .json get (Icon.optional name set) ↔
    ∀ s icon, get (set s icon) = get icon := by
  constructor
  · intro h s icon
    have hform : ∃ v, IsOptional (some v) s := by
      cases s with
      | none => exact ⟨_, .null⟩
      | some s => exact ⟨_, .text s⟩
    obtain ⟨v, hv⟩ := hform
    exact h v _ (optional_ofValue_eq_ok.mpr ⟨s, hv, rfl⟩) icon
  · intro h v change hchange icon
    obtain ⟨text, -, rfl⟩ := optional_ofValue_eq_ok.mp hchange
    exact h text icon

lemma sets_body : Sets .json bodyField bodyOf IsBody := by
  intro v change hchange icon
  obtain ⟨body, hbody, rfl⟩ := (bodyDecoder_ofValue_eq_ok rfl).mp hchange
  exact hbody

lemma isDrawing_toJson (path : Drawing) : IsDrawing path.toJson path := by
  cases path with
  | single path => exact .single path
  | layered paths => exact .layered paths

lemma leaves_body_iff : Leaves .json get bodyField ↔
    ∀ body icon, get (withBody body icon) = get icon := by
  constructor
  · rintro h ⟨w, height, ls, g, path⟩ icon
    have hbody := IsBody.list w height ls g (isDrawing_toJson path)
    exact h _ _ ((bodyDecoder_ofValue_eq_ok rfl).mpr ⟨_, hbody, rfl⟩) icon
  · intro h v change hchange icon
    obtain ⟨body, -, rfl⟩ := (bodyDecoder_ofValue_eq_ok rfl).mp hchange
    exact h body icon

/-- Every part of the icon that only one field sets is what the value of that field stands for,
and as in the blank icon without such a value. -/
structure IsSetBy (value : String → Nat → Option Json) (icon : Icon) : Prop where
  part {β : Type} {field : RecordField Icon} {get : Icon → β} {R : Json → β → Prop}
    (hsets : Sets .json field get R) (before after : List (RecordField Icon))
    (hfields : iconFields = before ++ field :: after)
    (hleaves : ∀ f ∈ before ++ after, Leaves .json get f) :
    (∀ v, value field.name before.length = some v → R v (get icon)) ∧
      (value field.name before.length = none → get icon = get blank)

lemma IsSetBy.isOptional {get : Icon → Option String} (h : IsSetBy value icon)
    (hset : ∀ s icon, get (set s icon) = s) (before after : List (RecordField Icon))
    (hfields : iconFields = before ++ Icon.optional name set :: after)
    (hleaves : ∀ f ∈ before ++ after, Leaves .json get f) (hblank : get blank = none) :
    IsOptional (value name before.length) (get icon) := by
  obtain ⟨hsome, hnone⟩ := h.part (sets_optional hset) before after hfields hleaves
  change (∀ v, value name before.length = some v → IsOptional (some v) (get icon)) at hsome
  cases hvalue : value name before.length with
  | none =>
    rw [hnone hvalue, hblank]
    exact .absent
  | some v => exact hsome v hvalue

lemma IsSetBy.hasFields (h : IsSetBy value icon) (hbody : value "icon" 2 ≠ none) :
    HasFields value icon where
  family := h.isOptional (fun _ _ => rfl) [] _ rfl
    (by simp [leaves_optional_iff, leaves_body_iff, withBody]) rfl
  name := h.isOptional (fun _ _ => rfl) (iconFields.take 1) _ rfl
    (by simp [iconFields, leaves_optional_iff, leaves_body_iff, withBody]) rfl
  body := by
    obtain ⟨v, hv⟩ := Option.ne_none_iff_exists'.mp hbody
    refine ⟨v, hv, ?_⟩
    refine (h.part sets_body (iconFields.take 2) _ rfl ?_).1 v hv
    simp [iconFields, leaves_optional_iff, bodyOf]
  viewBox := h.isOptional (fun _ _ => rfl) (iconFields.take 3) _ rfl
    (by simp [iconFields, leaves_optional_iff, leaves_body_iff, withBody]) rfl
  fill := h.isOptional (fun _ _ => rfl) (iconFields.take 4) _ rfl
    (by simp [iconFields, leaves_optional_iff, leaves_body_iff, withBody]) rfl
  strokeWidth := h.isOptional (fun _ _ => rfl) (iconFields.take 5) _ rfl
    (by simp [iconFields, leaves_optional_iff, leaves_body_iff, withBody]) rfl
  fillRule := h.isOptional (fun _ _ => rfl) (iconFields.take 6) _ rfl
    (by simp [iconFields, leaves_optional_iff, leaves_body_iff, withBody]) rfl

/-- Every value of a field is accepted if the values are those of an icon. -/
lemma HasFields.accepts (h : HasFields value icon) {field : RecordField Icon} {i : Nat}
    (hfield : iconFields[i]? = some field) {v : Json} (hv : value field.name i = some v) :
    Accepts .json field v := by
  have htext : ∀ {name : String} {i : Nat} {set : Option String → Icon → Icon}
      {text : Option String}, IsOptional (value name i) text →
        ∀ v, value name i = some v → Accepts .json (Icon.optional name set) v := by
    intro name i set text hform v hv
    exact ⟨_, optional_ofValue_eq_ok.mpr ⟨text, hv ▸ hform, rfl⟩⟩
  have hbody : ∀ v, value "icon" 2 = some v → Accepts .json bodyField v := by
    intro v hv
    obtain ⟨w, hw, hform⟩ := h.body
    obtain rfl : w = v := Option.some.inj (hw.symm.trans hv)
    exact ⟨_, (bodyDecoder_ofValue_eq_ok rfl).mpr ⟨_, hform, rfl⟩⟩
  have hall : ∀ p ∈ iconFields.zipIdx, ∀ v, value p.1.name p.2 = some v → Accepts .json p.1 v := by
    simp only [iconFields, List.zipIdx_cons, List.zipIdx_nil, List.forall_mem_cons]
    exact ⟨htext h.family, htext h.name, hbody, htext h.viewBox, htext h.fill, htext h.strokeWidth,
      htext h.fillRule, by simp⟩
  exact hall (field, i) (List.mk_mem_zipIdx_iff_getElem?.mpr hfield) v hv

lemma IsOptional.unique {o : Option Json} {s t : Option String} (hs : IsOptional o s)
    (ht : IsOptional o t) : s = t := by
  cases hs <;> cases ht <;> rfl

lemma IsDrawing.unique {v : Json} {p q : Drawing} (hp : IsDrawing v p) (hq : IsDrawing v q) :
    p = q :=
  Except.ok.inj ((drawing_ofJson_eq_ok.mpr hp).symm.trans (drawing_ofJson_eq_ok.mpr hq))

lemma IsBody.unique {v : Json} {a b : UInt32 × UInt32 × List String × String × Drawing}
    (ha : IsBody v a) (hb : IsBody v b) : a = b := by
  have hread : bodyDecoder.ofValue .json v = .ok (withBody a) :=
    (bodyDecoder_ofValue_eq_ok rfl).mpr ⟨a, ha, rfl⟩
  have hread' : bodyDecoder.ofValue .json v = .ok (withBody b) :=
    (bodyDecoder_ofValue_eq_ok rfl).mpr ⟨b, hb, rfl⟩
  have hchange : withBody a = withBody b := Except.ok.inj (hread.symm.trans hread')
  exact congrArg (fun change => bodyOf (change blank)) hchange

lemma HasFields.unique (h : HasFields value icon) (h' : HasFields value icon') : icon = icon' := by
  obtain ⟨v, hv, hbody⟩ := h.body
  obtain ⟨w, hw, hbody'⟩ := h'.body
  obtain rfl : v = w := Option.some.inj (hv.symm.trans hw)
  have hsame := hbody.unique hbody'
  simp only [bodyOf, Prod.mk.injEq] at hsame
  obtain ⟨hwidth, hheight, hligatures, hglyph, hpath⟩ := hsame
  have hfamily := h.family.unique h'.family
  have hname := h.name.unique h'.name
  have hviewBox := h.viewBox.unique h'.viewBox
  have hfill := h.fill.unique h'.fill
  have hstrokeWidth := h.strokeWidth.unique h'.strokeWidth
  have hfillRule := h.fillRule.unique h'.fillRule
  cases icon
  cases icon'
  simp_all

lemma names_iconFields : (iconFields.map (·.name)).Nodup := by
  decide

section Object

variable {members : List (String × Json)}

lemma ofJson_object_eq_ok : Icon.ofJson (.object members) = .ok icon ↔
    namedValues .json iconFields members blank = .ok icon ∧ members.lookup "icon" ≠ none := by
  rw [Icon.ofJson, readValue, decoder_eq, record_object_eq_ok]
  simp [iconFields, Icon.optional, bodyField]

lemma isSetBy_of_namedValues (hkeys : (members.map Prod.fst).Nodup)
    (h : namedValues .json iconFields members blank = .ok icon) :
    IsSetBy (fun name _ => members.lookup name) icon where
  part hsets before after hfields hleaves := by
    have hnames := names_iconFields
    rw [hfields] at h hnames
    exact namedValues_get hnames hsets hleaves hkeys h

lemma HasFields.exists_namedValues (hkeys : (members.map Prod.fst).Nodup)
    (h : HasFields (fun name _ => members.lookup name) icon) :
    ∃ icon', namedValues .json iconFields members blank = .ok icon' := by
  refine namedValues_isOk (fun m hm f hf hname => ?_) blank
  obtain ⟨i, hi⟩ := List.getElem?_of_mem hf
  exact h.accepts hi (hname ▸ lookup_eq_some_of_mem hkeys hm)

lemma ofJson_object_eq_ok_iff (hkeys : (members.map Prod.fst).Nodup) :
    Icon.ofJson (.object members) = .ok icon ↔
      HasFields (fun name _ => members.lookup name) icon := by
  rw [ofJson_object_eq_ok]
  constructor
  · rintro ⟨h, hbody⟩
    exact (isSetBy_of_namedValues hkeys h).hasFields hbody
  · intro h
    obtain ⟨v, hv, -⟩ := h.body
    have hbody : members.lookup "icon" ≠ none := by simp [hv]
    obtain ⟨icon', hicon'⟩ := h.exists_namedValues hkeys
    have hsame := ((isSetBy_of_namedValues hkeys hicon').hasFields hbody).unique h
    exact ⟨hsame ▸ hicon', hbody⟩

end Object

section Array

variable {items : List Json} {expected : String} {length : Nat}

lemma isSetBy_of_listedValues
    (h : listedValues .json expected length iconFields 0 items blank = .ok icon) :
    IsSetBy (fun _ i => items[i]?) icon where
  part hsets before after hfields hleaves := by
    rw [hfields] at h
    exact listedValues_get hsets hleaves h

lemma exists_listedValues_iff :
    (∃ icon, listedValues .json expected length iconFields 0 items blank = .ok icon) ↔
      items.length ≤ 7 ∧ (∀ p ∈ iconFields.zip items, Accepts .json p.1 p.2) ∧
        items[2]? ≠ none := by
  rw [listedValues_isOk_iff rfl]
  refine and_congr Iff.rfl (and_congr Iff.rfl ?_)
  match items with
  | [] | [_] | [_, _] => simp [iconFields, bodyField]
  | _ :: _ :: _ :: more =>
    have hlast : ∀ f ∈ iconFields.drop 3, f.inList = true := by
      simp [iconFields, Icon.optional]
    refine iff_of_true (fun f hf => hlast f ?_) (by simp)
    have hdrop : iconFields.drop (more.length + 3) = (iconFields.drop 3).drop more.length := by
      rw [List.drop_drop, Nat.add_comm]
    exact List.mem_of_mem_drop (hdrop ▸ hf)

lemma ofJson_array_eq_ok_iff : Icon.ofJson (.array items) = .ok icon ↔
    items.length ≤ 7 ∧ HasFields (fun _ i => items[i]?) icon := by
  rw [Icon.ofJson, readValue, decoder_eq, record_array]
  constructor
  · intro h
    obtain ⟨hlength, -, hbody⟩ := exists_listedValues_iff.mp ⟨icon, h⟩
    exact ⟨hlength, (isSetBy_of_listedValues h).hasFields hbody⟩
  · rintro ⟨hlength, h⟩
    obtain ⟨v, hv, -⟩ := h.body
    have hbody : items[2]? ≠ none := by simp [hv]
    have haccepts : ∀ p ∈ iconFields.zip items, Accepts .json p.1 p.2 := by
      intro p hp
      obtain ⟨i, hi⟩ := List.getElem?_of_mem hp
      obtain ⟨hfield, hitem⟩ := List.getElem?_zip_eq_some.mp hi
      exact h.accepts hfield hitem
    obtain ⟨icon', hicon'⟩ := exists_listedValues_iff.mpr ⟨hlength, haccepts, hbody⟩
    have hsame := ((isSetBy_of_listedValues hicon').hasFields hbody).unique h
    exact hsame ▸ hicon'

end Array

end Fields

/-- Just the forms of an icon are read as the icon. -/
theorem icon_ofJson_eq_ok_iff {v : Json} {icon : Icon}
    (hkeys : ∀ members, v = .object members → Ascending members) :
    Icon.ofJson v = .ok icon ↔ IsIcon v icon := by
  constructor
  · intro h
    cases v with
    | object members => exact .named ((ofJson_object_eq_ok_iff (hkeys members rfl).nodup_keys).mp h)
    | array items =>
      obtain ⟨hlength, hfields⟩ := ofJson_array_eq_ok_iff.mp h
      exact .listed hlength hfields
    | _ => cases h
  · rintro (hfields | ⟨hlength, hfields⟩)
    · exact (ofJson_object_eq_ok_iff (hkeys _ rfl).nodup_keys).mpr hfields
    · exact ofJson_array_eq_ok_iff.mpr ⟨hlength, hfields⟩

section Printed

lemma isOptional_map (text : Option String) : IsOptional (text.map .string) text := by
  cases text with
  | none => exact .absent
  | some s => exact .text s

lemma lookup_present (name other : String) (text : Option String) :
    (text.map fun s => (name, Json.string s)).toList.reverse.lookup other =
      if other = name then text.map .string else none := by
  cases text with
  | none => simp
  | some s => exact lookup_cons_ite _ _

lemma isBody_toJson (icon : Icon) :
    IsBody (.array [.ofNat icon.width.toNat, .ofNat icon.height.toNat,
      .array (icon.ligatures.map .string), .string icon.glyph, icon.path.toJson]) (bodyOf icon) :=
  .list icon.width icon.height icon.ligatures icon.glyph (isDrawing_toJson icon.path)

/-- An icon is written in one of its forms. -/
theorem isIcon_toJson (icon : Icon) : IsIcon icon.toJson icon := by
  have hbody := isBody_toJson icon
  refine .named ⟨?_, ?_, ?_, ?_, ?_, ?_, ?_⟩
  all_goals
    simp only [lookup_sortMembers, List.reverse_append, List.lookup_append, lookup_present,
      List.reverse_singleton, lookup_cons_ite, List.lookup_nil]
  · simpa using isOptional_map icon.family
  · simpa using isOptional_map icon.name
  · simpa using hbody
  · simpa using isOptional_map icon.viewBox
  · simpa using isOptional_map icon.fill
  · simpa using isOptional_map icon.strokeWidth
  · simpa using isOptional_map icon.fillRule

end Printed

end IconInline.Proofs
