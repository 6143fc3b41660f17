import IconInline.Icon.Code
import Mathlib.Tactic.Common

/-!
# Encoded icons and their fields

Writing and reading the encoded form are inverse to each other up to the separators that
writing leaves out. Reading accepts a text exactly if it consists of the tag and five fields
without separators, and every text that it accepts is what its own fields are written as.
-/

namespace IconInline.Proofs
open Text IconCode

/-- A text without its separators. -/
def withoutSeparators (field : String) : String :=
  String.ofList (field.toList.filter (· != ';'))

lemma withoutSeparators_eq_self {field : String} (h : ';' ∉ field.toList) :
    withoutSeparators field = field := by
  have hkept : field.toList.filter (· != ';') = field.toList := by
    rw [List.filter_eq_self]
    rintro c hc
    exact bne_iff_ne.mpr (ne_of_mem_of_not_mem hc h)
  rw [withoutSeparators, hkept, String.ofList_toList]

lemma map_withoutSeparators_eq_self {fields : List String}
    (h : ∀ field ∈ fields, ';' ∉ field.toList) : fields.map withoutSeparators = fields := by
  calc fields.map withoutSeparators
      = fields.map id :=
        List.map_congr_left (fun field hfield => withoutSeparators_eq_self (h field hfield))
    _ = fields := List.map_id _

/-- What an encoded icon owes to the fields that it was made from. -/
structure Encodes (icon : IconCode) (fields : IconAttributes) : Prop where
  separators : icon.text.toList.count ';' = 5
  reads : ofText? icon.text = some icon
  decodes : icon.fields.toList = fields.toList.map withoutSeparators
  exact_of_plain : (∀ field ∈ fields.toList, ';' ∉ field.toList) → icon.fields = fields

/-- A text that consists of pieces without separators, joined by separators. -/
structure JoinedFrom (pieces : List String) (text : String) : Prop where
  plain : ∀ piece ∈ pieces, ';' ∉ piece.toList
  joined : text = ";".intercalate pieces

lemma toList_inj_map {a b : List String} (h : a.map String.toList = b.map String.toList) :
    a = b :=
  List.map_inj_right (fun _ _ => String.toList_inj.mp) |>.mp h

/-- The parts of a text are the only pieces that it is joined from. -/
lemma parts_eq_iff {text : String} {pieces : List String} (hne : pieces ≠ []) :
    parts text = pieces ↔ JoinedFrom pieces text := by
  have hparts : (parts text).map String.toList = text.toList.splitOn ';' := by
    rw [parts, splitOn_eq_listSplitOn, List.map_map]
    exact List.map_id'' (fun _ => String.toList_ofList) _
  constructor
  · rintro rfl
    constructor
    · intro piece hpiece
      have hmem := List.mem_map_of_mem (f := String.toList) hpiece
      rw [hparts] at hmem
      exact not_mem_of_mem_splitOn hmem
    · apply String.toList_inj.mp
      rw [String.toList_intercalate, hparts]
      exact (List.intercalate_splitOn ';').symm
  · rintro ⟨hplain, rfl⟩
    apply toList_inj_map
    rw [hparts, String.toList_intercalate]
    apply List.splitOn_intercalate
    · intro l hl
      obtain ⟨piece, hpiece, rfl⟩ := List.mem_map.mp hl
      exact hplain piece hpiece
    · simpa using hne

lemma withoutSeparators_plain (field : String) : ';' ∉ (withoutSeparators field).toList := by
  simp [withoutSeparators]

/-- Written fields are joined from the tag and the fields without their separators. -/
lemma parts_ofFields (fields : IconAttributes) :
    parts (ofFields fields).text = tag :: fields.toList.map withoutSeparators := by
  rw [parts_eq_iff (List.cons_ne_nil _ _)]
  constructor
  · intro piece hpiece
    rcases List.mem_cons.mp hpiece with rfl | hfield
    · decide
    · obtain ⟨field, _, rfl⟩ := List.mem_map.mp hfield
      exact withoutSeparators_plain field
  · apply String.toList_inj.mp
    simp [ofFields, tag, IconAttributes.toList, withoutSeparators, written, separator]

lemma parts_ne_nil (text : String) : parts text ≠ [] := by
  rw [parts, splitOn_eq_listSplitOn]
  simp

lemma eq_of_parts_eq {a b : String} (h : parts a = parts b) : a = b := by
  have ha := (parts_eq_iff (parts_ne_nil a)).mp rfl
  have hb := (parts_eq_iff (parts_ne_nil b)).mp rfl
  rw [ha.joined, hb.joined, h]

lemma fields_toList {icon : IconCode} (h : (parts icon.text).length = 6) :
    icon.fields.toList = (parts icon.text).tail := by
  unfold IconCode.fields
  match hparts : parts icon.text, h with
  | [_, _, _, _, _, _], _ => rfl

lemma attributes_toList_inj {a b : IconAttributes} (h : a.toList = b.toList) : a = b := by
  cases a
  cases b
  simpa [IconAttributes.toList] using h

lemma ofText?_eq_some_iff {text : String} {icon : IconCode} :
    ofText? text = some icon ↔
      icon.text = text ∧ (parts text).length = partCount ∧ (parts text).head? = some tag := by
  simp only [ofText?]
  constructor
  · intro h
    split at h
    · next hparts =>
      cases h
      exact ⟨rfl, hparts⟩
    · cases h
  · rintro ⟨rfl, hparts⟩
    rw [if_pos hparts]

lemma length_splitOn (sep : Char) (cs : List Char) :
    (cs.splitOn sep).length = cs.count sep + 1 := by
  induction cs with
  | nil => rfl
  | cons c rest ih =>
    rw [List.splitOn_cons_eq_if_modifyHead, List.count_cons]
    split
    · rw [List.length_cons, ih]
    · rw [List.length_modifyHead, ih, Nat.add_zero]

lemma length_parts (text : String) : (parts text).length = text.toList.count ';' + 1 := by
  rw [parts, List.length_map, splitOn_eq_listSplitOn]
  exact length_splitOn ';' text.toList

lemma encodes_ofFields (fields : IconAttributes) : Encodes (ofFields fields) fields := by
  have hparts := parts_ofFields fields
  have hlength : (parts (ofFields fields).text).length = 6 := by
    rw [hparts]
    rfl
  have hdecodes : (ofFields fields).fields.toList = fields.toList.map withoutSeparators := by
    rw [fields_toList hlength, hparts, List.tail_cons]
  constructor
  · have hcount := length_parts (ofFields fields).text
    omega
  · exact ofText?_eq_some_iff.mpr ⟨rfl, hlength, by rw [hparts, List.head?_cons]⟩
  · exact hdecodes
  · intro hplain
    apply attributes_toList_inj
    rw [hdecodes]
    exact map_withoutSeparators_eq_self hplain

lemma ofText?_isSome_iff (text : String) :
    (ofText? text).isSome ↔
      ∃ pieces, pieces.length = 6 ∧ pieces.head? = some "SVG" ∧ JoinedFrom pieces text := by
  rw [Option.isSome_iff_exists]
  constructor
  · rintro ⟨icon, h⟩
    obtain ⟨-, hlength, hhead⟩ := ofText?_eq_some_iff.mp h
    exact ⟨parts text, hlength, hhead, (parts_eq_iff (parts_ne_nil text)).mp rfl⟩
  · rintro ⟨pieces, hlength, hhead, hjoined⟩
    have hne : pieces ≠ [] := by
      rintro rfl
      cases hlength
    rw [← (parts_eq_iff hne).mpr hjoined] at hlength hhead
    exact ⟨⟨text⟩, ofText?_eq_some_iff.mpr ⟨rfl, hlength, hhead⟩⟩

/-- Writing the fields of an icon that was read gives back the text that was read. -/
lemma ofFields_fields {text : String} {icon : IconCode} (h : ofText? text = some icon) :
    ofFields icon.fields = icon := by
  obtain ⟨rfl, hlength, hhead⟩ := ofText?_eq_some_iff.mp h
  have hplain := ((parts_eq_iff (parts_ne_nil icon.text)).mp rfl).plain
  have hparts : parts (ofFields icon.fields).text = parts icon.text := by
    rw [parts_ofFields, fields_toList hlength]
    obtain ⟨first, more, hcons⟩ := List.exists_cons_of_ne_nil (parts_ne_nil icon.text)
    rw [hcons, List.head?_cons, Option.some_inj] at hhead
    rw [hcons] at hplain ⊢
    rw [List.tail_cons, hhead]
    congr 1
    refine map_withoutSeparators_eq_self ?_
    intro piece hpiece
    exact hplain piece (List.mem_cons_of_mem _ hpiece)
  have htext := eq_of_parts_eq hparts
  cases hwritten : ofFields icon.fields
  cases icon
  simpa [hwritten] using htext

/-- The encoded form is a bijection between fields without separators and the texts that are
read. Whatever the fields are, under any strategy, five separators are written, what is written
is read, and the fields come back without the separators inside them. Reading accepts just the
texts that are joined from the tag and five plain pieces, and writes each of them back as it
was. -/
theorem encoded_form_bijective :
    (∀ fields, Encodes (ofFields fields) fields) ∧
    (∀ (strategy : Strategy) (icon : Icon), Encodes (strategy.encode icon) (strategy.fields icon)) ∧
    ∀ text,
      ((ofText? text).isSome ↔
        ∃ pieces, pieces.length = 6 ∧ pieces.head? = some "SVG" ∧ JoinedFrom pieces text) ∧
      ∀ icon, ofText? text = some icon → icon.text = text ∧ ofFields icon.fields = icon := by
  refine ⟨encodes_ofFields, ?_, ?_⟩
  · intro strategy icon
    exact encodes_ofFields (strategy.fields icon)
  · intro text
    refine ⟨ofText?_isSome_iff text, ?_⟩
    intro icon h
    exact ⟨(ofText?_eq_some_iff.mp h).1, ofFields_fields h⟩

example : (IconCode.ofFields { fill := "red;blue" }).text = "SVG;;;redblue;;" := by decide

end IconInline.Proofs
