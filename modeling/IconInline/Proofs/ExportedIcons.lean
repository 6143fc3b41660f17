import IconInline.Proofs.IconForms
import IconInline.Proofs.JsonTexts
import Mathlib.Data.List.Forall2

/-!
# The icons of an export

A dataset is read for one of its exports. Of the members with the name of this export the last one
counts; it must be an object, and each of its values must be written for an icon. What other
members the dataset has makes no difference.
-/

namespace IconInline.Proofs
open Json

/-- An object that is written for icons: it has just their identifiers as names, each with a value
that is written for its icon. -/
def IsIconSet (v : Json) (icons : IconSet) : Prop :=
  ∃ members, v = .object members ∧
    ∀ identifier, Option.Rel IsIcon (members.lookup identifier) (icons.find? identifier)

lemma IsIcon.unique {v : Json} {icon icon' : Icon} (h : IsIcon v icon) (h' : IsIcon v icon') :
    icon = icon' := by
  cases h with
  | named h =>
    cases h' with
    | named h' => exact h.unique h'
  | listed _ h =>
    cases h' with
    | listed _ h' => exact h.unique h'

section Equality

mutual

/-- Are two values equal? -/
def sameValue : Json → Json → Bool
  | .null, .null => true
  | .bool a, .bool b => a == b
  | .number a, .number b => a == b
  | .string a, .string b => a == b
  | .array as, .array bs => sameItems as bs
  | .object ms, .object ns => sameMembers ms ns
  | _, _ => false

/-- Are the items of two lists equal? -/
def sameItems : List Json → List Json → Bool
  | [], [] => true
  | a :: as, b :: bs => sameValue a b && sameItems as bs
  | _, _ => false

/-- Are the members of two objects equal? -/
def sameMembers : List (String × Json) → List (String × Json) → Bool
  | [], [] => true
  | (m, v) :: ms, (n, w) :: ns => m == n && sameValue v w && sameMembers ms ns
  | _, _ => false

end

mutual

theorem sameValue_iff : ∀ v w, sameValue v w = true ↔ v = w
  | .null, w => by cases w <;> simp [sameValue]
  | .bool a, w => by cases w <;> simp [sameValue]
  | .number a, w => by cases w <;> simp [sameValue]
  | .string a, w => by cases w <;> simp [sameValue]
  | .array as, w => by cases w <;> simp [sameValue, sameItems_iff as]
  | .object ms, w => by cases w <;> simp [sameValue, sameMembers_iff ms]

theorem sameItems_iff : ∀ as bs, sameItems as bs = true ↔ as = bs
  | [], bs => by cases bs <;> simp [sameItems]
  | a :: as, bs => by cases bs <;> simp [sameItems, sameValue_iff a, sameItems_iff as]

theorem sameMembers_iff : ∀ ms ns, sameMembers ms ns = true ↔ ms = ns
  | [], ns => by cases ns <;> simp [sameMembers]
  | (m, v) :: ms, ns => by
    cases ns <;> simp [sameMembers, sameValue_iff v, sameMembers_iff ms, Prod.ext_iff]

end

instance : DecidableEq Json := fun v w => decidable_of_iff _ (sameValue_iff v w)

end Equality

section Written

variable {depth : Nat} {cs rest : List Char} {v : Json} {members : List (String × Json)}

lemma not_writesScalar_object : ¬ WritesScalar cs (.object members) rest := by
  rintro ⟨⟩

/-- An object keeps the members that are written for it in order. -/
lemma WritesValue.exists_written (h : WritesValue depth cs (.object members) rest) :
    ∃ inner after written,
      WritesList '\x7d' (WritesMember (WritesValue inner)) true after written rest ∧
        sortMembers written = members := by
  cases depth with
  | zero => exact absurd h not_writesScalar_object
  | succ depth =>
    rcases h with h | ⟨_, _, -, h, -⟩ | ⟨after, written, -, h, hwritten⟩
    · exact absurd h not_writesScalar_object
    · cases h
    · exact ⟨depth, after, written, hwritten, (Json.object.inj h).symm⟩

lemma WritesValue.ascending (h : WritesValue depth cs (.object members) rest) :
    Ascending members := by
  obtain ⟨_, _, written, -, rfl⟩ := h.exists_written
  exact ascending_sortMembers written

lemma WritesList.exists_element {α : Type} {close : Char}
    {element : List Char → α → List Char → Prop} {first : Bool} {as : List α}
    (h : WritesList close element first cs as rest) {a : α} (ha : a ∈ as) :
    ∃ cs rest, element cs a rest := by
  induction h with
  | close => cases ha
  | first hb _ ih | next _ hb _ ih =>
    rcases List.mem_cons.mp ha with rfl | ha
    · exact ⟨_, _, hb⟩
    · exact ih ha

lemma exists_writesValue_of_mem {value : List Char → Json → List Char → Prop} {close : Char}
    {first : Bool} (h : WritesList close (WritesMember value) first cs members rest)
    {m : String × Json} (hm : m ∈ members) : ∃ cs rest, value cs m.2 rest := by
  obtain ⟨_, _, ⟨-, -, -, hv⟩⟩ := h.exists_element hm
  exact ⟨_, _, hv⟩

lemma mem_of_mem_sortMembers {m : String × Json} (h : m ∈ sortMembers members) : m ∈ members := by
  have hlast := lookup_sortMembers_eq_some.mp
    (lookup_eq_some_of_mem (ascending_sortMembers members).nodup_keys h)
  obtain ⟨before, after, rfl, -⟩ := hlast
  simp

/-- Every member of an object keeps its own members in order. -/
lemma WritesValue.ascending_of_mem (h : WritesValue depth cs (.object members) rest)
    {m : String × Json} (hm : m ∈ members) {ms : List (String × Json)} (hms : m.2 = .object ms) :
    Ascending ms := by
  obtain ⟨_, _, written, hwritten, rfl⟩ := h.exists_written
  obtain ⟨_, _, hv⟩ := exists_writesValue_of_mem hwritten (mem_of_mem_sortMembers hm)
  exact (hms ▸ hv).ascending

end Written

section Read

variable {members : List (String × Json)} {icons : IconSet}

/-- A member becomes the icon that its value is written for, under its name. -/
def IsIconUnder (m : String × Json) (e : String × Icon) : Prop := m.1 = e.1 ∧ IsIcon m.2 e.2

lemma ofMembers_eq_ok_iff (hordered : ∀ m ∈ members, ∀ ms, m.2 = .object ms → Ascending ms) :
    IconSet.ofMembers members = .ok icons ↔ List.Forall₂ IsIconUnder members icons := by
  induction members generalizing icons with
  | nil =>
    rw [IconSet.ofMembers, List.forall₂_nil_left_iff]
    simp [eq_comm]
  | cons m members ih =>
    obtain ⟨name, v⟩ := m
    have hicon : ∀ {icon}, Icon.ofJson v = .ok icon ↔ IsIcon v icon :=
      icon_ofJson_eq_ok_iff (hordered (name, v) List.mem_cons_self)
    have hrest : ∀ {more}, IconSet.ofMembers members = .ok more ↔
        List.Forall₂ IsIconUnder members more :=
      ih fun m hm => hordered m (List.mem_cons_of_mem _ hm)
    rw [IconSet.ofMembers, bind_eq_ok]
    constructor
    · rintro ⟨icon, h, hread⟩
      obtain ⟨more, hmore, hicons⟩ := bind_eq_ok.mp hread
      obtain rfl := Except.ok.inj hicons
      exact .cons ⟨rfl, hicon.mp h⟩ (hrest.mp hmore)
    · rintro (_ | ⟨⟨hname, h⟩, hmore⟩)
      obtain rfl := hname
      exact ⟨_, hicon.mpr h, bind_eq_ok.mpr ⟨_, hrest.mpr hmore, rfl⟩⟩

lemma exists_forall₂_iff : (∃ icons, List.Forall₂ IsIconUnder members icons) ↔
    ∀ m ∈ members, ∃ icon, IsIcon m.2 icon := by
  induction members with
  | nil => simp
  | cons m members ih =>
    rw [List.forall_mem_cons, ← ih]
    constructor
    · rintro ⟨_, _ | ⟨⟨-, h⟩, hmore⟩⟩
      exact ⟨⟨_, h⟩, ⟨_, hmore⟩⟩
    · rintro ⟨⟨icon, h⟩, ⟨more, hmore⟩⟩
      exact ⟨(m.1, icon) :: more, .cons ⟨rfl, h⟩ hmore⟩

lemma keys_eq (h : List.Forall₂ IsIconUnder members icons) :
    members.map Prod.fst = icons.map Prod.fst := by
  induction h with
  | nil => rfl
  | cons hm _ ih => rw [List.map_cons, List.map_cons, hm.1, ih]

lemma Ascending.of_forall₂ (hmembers : Ascending members)
    (h : List.Forall₂ IsIconUnder members icons) : Ascending icons := by
  rw [ascending_iff_keys, ← keys_eq h]
  exact ascending_iff_keys.mp hmembers

lemma rel_unique {o : Option Json} {icon icon' : Option Icon} (h : Option.Rel IsIcon o icon)
    (h' : Option.Rel IsIcon o icon') : icon = icon' := by
  cases h with
  | none =>
    cases h'
    rfl
  | some h =>
    cases h' with
    | some h' => rw [h.unique h']

lemma rel_lookup (h : List.Forall₂ IsIconUnder members icons) (identifier : String) :
    Option.Rel IsIcon (members.lookup identifier) (icons.find? identifier) := by
  rw [IconSet.find?]
  induction h with
  | nil => exact .none
  | @cons m e _ _ hm _ ih =>
    rw [lookup_cons_ite, lookup_cons_ite, hm.1]
    by_cases hid : identifier = e.1
    · simpa [hid] using Option.Rel.some hm.2
    · simpa [hid] using ih

/-- What the value of the named export is read as, or why it is refused. -/
def readExport (key : DatasetRef) : Option Json → Except Failure IconSet
  | none => .error (.dataset key.package ("export '" ++ key.binding ++ "' not found"))
  | some v =>
    match IconSet.ofJson v with
    | .ok icons => .ok icons
    | .error cause =>
      .error (.dataset key.package
        ("export '" ++ key.binding ++ "' is not an icon pack: " ++ cause.message))

lemma read_eq {content : String} {written : List (String × Json)} (h : IsObjectText content written)
    (key : DatasetRef) :
    Dataset.read content key = readExport key ((sortMembers written).lookup key.binding) := by
  have hexports : Dataset.exports content = .ok (sortMembers written) :=
    exports_eq_ok_iff.mpr ⟨written, h, rfl⟩
  rw [Dataset.read, hexports]
  rfl

/-- The last member of a name keeps its members in order, and so do these. -/
lemma ascending_of_last {content name : String} {written : List (String × Json)}
    (h : IsObjectText content written) (hlast : IsLastMember name (.object members) written) :
    Ascending members ∧ ∀ m ∈ members, ∀ ms, m.2 = .object ms → Ascending ms := by
  obtain ⟨after, rest, -, hwritten, -⟩ := h
  obtain ⟨before, behind, rfl, -⟩ := hlast
  obtain ⟨cs, rest, hv⟩ := exists_writesValue_of_mem hwritten
    (List.mem_append_right before List.mem_cons_self)
  exact ⟨hv.ascending, fun m hm ms hms => hv.ascending_of_mem hm hms⟩

lemma iconSet_ofJson_eq_ok_iff {v : Json} :
    IconSet.ofJson v = .ok icons ↔ ∃ members, v = .object members ∧
      IconSet.ofMembers members = .ok icons := by
  cases v <;> simp [IconSet.ofJson]

/-- An export is read as icons just if its last member is an object of them. -/
lemma read_eq_ok_iff {content : String} {written : List (String × Json)}
    (h : IsObjectText content written) {key : DatasetRef} :
    Dataset.read content key = .ok icons ↔ ∃ members,
      IsLastMember key.binding (.object members) written ∧
        List.Forall₂ IsIconUnder members icons := by
  have hread : Dataset.read content key = .ok icons ↔ ∃ members,
      (sortMembers written).lookup key.binding = some (.object members) ∧
        IconSet.ofMembers members = .ok icons := by
    rw [read_eq h]
    cases (sortMembers written).lookup key.binding with
    | none => simp [readExport]
    | some v =>
      have hjudged : readExport key (some v) = .ok icons ↔ IconSet.ofJson v = .ok icons := by
        rw [readExport]
        split <;> simp_all
      rw [hjudged, iconSet_ofJson_eq_ok_iff]
      simp only [Option.some.injEq]
  rw [hread]
  refine exists_congr fun members => ?_
  rw [lookup_sortMembers_eq_some]
  exact and_congr_right fun hlast => ofMembers_eq_ok_iff (ascending_of_last h hlast).2

/-- Icons that an object is written for are what its members become. -/
lemma IsIconSet.forall₂ (hmembers : Ascending members) (hicons : Ascending icons)
    (h : ∀ identifier, Option.Rel IsIcon (members.lookup identifier) (icons.find? identifier)) :
    List.Forall₂ IsIconUnder members icons := by
  have hall : ∀ m ∈ members, ∃ icon, IsIcon m.2 icon := by
    intro m hm
    have hrel := h m.1
    rw [lookup_eq_some_of_mem hmembers.nodup_keys hm] at hrel
    cases hfound : icons.find? m.1 with
    | none => simp [hfound] at hrel
    | some icon =>
      rw [hfound] at hrel
      cases hrel with
      | some hicon => exact ⟨icon, hicon⟩
  obtain ⟨icons', hicons'⟩ := exists_forall₂_iff.mpr hall
  have hascending : Ascending icons' := hmembers.of_forall₂ hicons'
  -- Both are in order and agree on every name, so they are one list.
  have hsame : icons' = icons :=
    hascending.ext hicons fun identifier =>
      rel_unique (rel_lookup hicons' identifier) (h identifier)
  exact hsame ▸ hicons'

/-- Icons are written as an object of theirs. -/
lemma isIconSet_toJson (h : Ascending icons) : IsIconSet (IconSet.toJson icons) icons := by
  have hwritten : Ascending (icons.map fun e => (e.1, e.2.toJson)) := by
    rw [ascending_iff_keys, List.map_map]
    exact ascending_iff_keys.mp h
  refine ⟨_, rfl, fun identifier => ?_⟩
  rw [hwritten.sortMembers_eq, lookup_map, IconSet.find?]
  cases icons.lookup identifier with
  | none => exact .none
  | some icon => exact .some (isIcon_toJson icon)

end Read

/-- The last member of its name decides what an export holds, whatever stands beside it. It is read
as icons just if it is an object whose values are all written for icons, and each icon then comes
from its own value. -/
theorem read_last_export (content : String) (key : DatasetRef) :
    ((∃ members, Dataset.exports content = .ok members) ↔
      ∃ written, IsObjectText content written) ∧
    ∀ written, IsObjectText content written →
      (∀ v icons, IsLastMember key.binding v written → Ascending icons → IsIconSet v icons →
        Dataset.read content key = .ok icons) ∧
      (∀ icons, Ascending icons → IsLastMember key.binding (IconSet.toJson icons) written →
        Dataset.read content key = .ok icons) ∧
      (∀ other otherWritten, IsObjectText other otherWritten →
        (∀ v, IsLastMember key.binding v written ↔ IsLastMember key.binding v otherWritten) →
          Dataset.read content key = Dataset.read other key) ∧
      ((∃ icons, Dataset.read content key = .ok icons) ↔
        ∃ members, IsLastMember key.binding (.object members) written ∧
          ∀ m ∈ members, ∃ icon, IsIcon m.2 icon) ∧
      ∀ icons, Dataset.read content key = .ok icons → Ascending icons ∧
        ∃ members, IsLastMember key.binding (.object members) written ∧
          icons.map Prod.fst = members.map Prod.fst ∧
          ∀ identifier, Option.Rel IsIcon (members.lookup identifier) (icons.find? identifier) := by
  have haccepted : (∃ members, Dataset.exports content = .ok members) ↔
      ∃ written, IsObjectText content written := by
    simp only [exports_eq_ok_iff]
    rw [exists_comm]
    simp
  refine ⟨haccepted, fun written h => ?_⟩
  have hwhole : ∀ v icons, IsLastMember key.binding v written → Ascending icons →
      IsIconSet v icons → Dataset.read content key = .ok icons := by
    rintro v icons hlast hicons ⟨members, rfl, hrel⟩
    have hmembers := (ascending_of_last h hlast).1
    exact (read_eq_ok_iff h).mpr ⟨members, hlast, IsIconSet.forall₂ hmembers hicons hrel⟩
  refine ⟨hwhole, fun icons hicons hlast => ?_, ?_, ?_, ?_⟩
  · exact hwhole _ icons hlast hicons (isIconSet_toJson hicons)
  · intro other otherWritten hother hsame
    have hlookup : (sortMembers written).lookup key.binding =
        (sortMembers otherWritten).lookup key.binding := by
      refine Option.ext fun v => ?_
      rw [lookup_sortMembers_eq_some, lookup_sortMembers_eq_some, hsame v]
    rw [read_eq h, read_eq hother, hlookup]
  · simp only [read_eq_ok_iff h, ← exists_forall₂_iff]
    rw [exists_comm]
    simp
  · intro icons hread
    obtain ⟨members, hlast, hicons⟩ := (read_eq_ok_iff h).mp hread
    have hmembers := (ascending_of_last h hlast).1
    exact ⟨hmembers.of_forall₂ hicons, members, hlast, (keys_eq hicons).symm, rel_lookup hicons⟩

/-- An export that stands twice beside another one, with an icon some of whose members are left
out, `null` or unknown; and the same export alone. -/
theorem read_last_export_twice :
    let text := "\x7b\"fas\": 7, \"fab\": [null], \"fas\": \x7b\"at\": \x7b
      \"icon\": [512, 448, [], \"\", [\"M0\", \"M1\"]], \"fill\": null, \"tags\": \x7b\x7d\x7d\x7d\x7d"
    let other := "\x7b\"fas\":\x7b\"at\":\x7b\"tags\":\x7b\x7d,\"fill\":null,
      \"icon\":[512,448,[],\"\",[\"M0\",\"M1\"]]\x7d\x7d\x7d"
    let icon : Icon := { Icon.plain 512 448 "" with path := .layered ["M0", "M1"] }
    let members := [("fill", .null), ("icon", .array [.ofNat 512, .ofNat 448, .array [], .string "",
      .array [.string "M0", .string "M1"]]), ("tags", .object [])]
    let v := Json.object [("at", .object members)]
    let icons : IconSet := [("at", icon)]
    let key : DatasetRef := ⟨"icons", "fas"⟩
    ∃ written otherWritten, IsObjectText text written ∧ IsObjectText other otherWritten ∧
      IsLastMember key.binding v written ∧ Ascending icons ∧ IsIconSet v icons ∧
      (∀ w, IsLastMember key.binding w written ↔ IsLastMember key.binding w otherWritten) ∧
      Dataset.read text key = .ok icons ∧ Dataset.read text key = Dataset.read other key := by
  intro text other icon members v icons key
  have htext : Dataset.exports text = .ok [("fab", .array [.null]), ("fas", v)] := by
    decide +kernel
  have hother : Dataset.exports other = .ok [("fas", v)] := by
    decide +kernel
  obtain ⟨written, hwritten, hsort⟩ := exports_eq_ok_iff.mp htext
  obtain ⟨otherWritten, hotherWritten, hotherSort⟩ := exports_eq_ok_iff.mp hother
  have hlast : IsLastMember key.binding v written :=
    lookup_sortMembers_eq_some.mp (by rw [hsort]; decide +kernel)
  have hsame : ∀ w, IsLastMember key.binding w written ↔
      IsLastMember key.binding w otherWritten := by
    intro w
    rw [← lookup_sortMembers_eq_some, ← lookup_sortMembers_eq_some, hsort, hotherSort]
    rfl
  have hicons : Ascending icons := List.pairwise_singleton _ _
  have hmembers : Ascending members := by
    unfold Ascending
    decide +kernel
  have hicon : IsIcon (.object members) icon :=
    (icon_ofJson_eq_ok_iff (by rintro _ ⟨⟩; exact hmembers)).mp (by decide +kernel)
  have hset : IsIconSet v icons := ⟨_, rfl, rel_lookup (.cons ⟨rfl, hicon⟩ .nil)⟩
  have hread := (read_last_export text key).2 written hwritten
  exact ⟨written, otherWritten, hwritten, hotherWritten, hlast, hicons, hset, hsame,
    hread.1 v icons hlast hicons hset, hread.2.2.1 other otherWritten hotherWritten hsame⟩

end IconInline.Proofs
