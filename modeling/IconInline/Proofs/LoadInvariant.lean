import IconInline.Dataset.Requests
import IconInline.Proofs.CacheCells

/-!
# What the steps of requests preserve

The invariant behind shared loads counts, for each key, the loads in flight and the filled cell
together: there is never more than one. Each kind of step keeps it, and keeps the books of the
loads that have begun, ended and brought a dataset.
-/

namespace IconInline.Proofs
open Dataset

section Counts

/-- The datasets that loads for a key have brought, in their order. -/
def brought (key : DatasetRef) (events : List Event) : List IconSet :=
  events.filterMap fun
    | .loaded _ named icons => if named = key then some icons else none
    | _ => none

/-- What can happen to a load besides success. -/
inductive LoadMark where
  | start
  | failure
  | abort
  deriving DecidableEq

def loadMark? : Event → Option (LoadMark × DatasetRef)
  | .started _ key => some (.start, key)
  | .failed _ key _ => some (.failure, key)
  | .aborted _ key => some (.abort, key)
  | _ => none

/-- How often this has happened to loads for a key. -/
def tally (mark : LoadMark) (key : DatasetRef) (events : List Event) : Nat :=
  events.countP fun event => loadMark? event = some (mark, key)

def loads (key : DatasetRef) (request : Request) : Bool := request.isLoading && request.key == key

/-- An event that asks for nothing to be loaded. -/
def isQuery : Event → Bool
  | .looked _ _ | .counted _ => true
  | _ => false

/-- The number of loads for a key that are in flight. -/
def inFlight (t : Traffic) (key : DatasetRef) : Nat := t.requests.countP (loads key)

/-- One if the cell of a key is filled, else zero. -/
def filled (cache : Cache) (key : DatasetRef) : Nat := (cache.find? key).toList.length

end Counts

/-- Holds between the events of a run and what they lead to. -/
structure Consistent (events : List Event) (t : Traffic) : Prop where
  distinct : Distinct t.cache
  cellAt : ∀ r ∈ t.requests, CellAt t.cache r.place r.key
  flight_le : ∀ key, inFlight t key + filled t.cache key ≤ 1
  balance : ∀ key, tally .start key events =
    tally .failure key events + tally .abort key events + inFlight t key + filled t.cache key
  brought_eq : ∀ key, brought key events = (t.cache.find? key).toList
  ok_found : ∀ r ∈ t.requests, ∀ icons, r.stage = .answered (.ok icons) →
    t.cache.find? r.key = some icons
  error_failed : ∀ i r e, t.requests[i]? = some r → r.stage = .answered (.error e) →
    .failed i r.key e ∈ events

section Steps

variable {events : List Event} {t t' : Traffic} {event : Event} {i : Nat} {request : Request}
  {stage : Stage} {key : DatasetRef}

@[simp] lemma brought_append (more : List Event) :
    brought key (events ++ more) = brought key events ++ brought key more :=
  List.filterMap_append

@[simp] lemma tally_append (mark : LoadMark) (more : List Event) :
    tally mark key (events ++ more) = tally mark key events + tally mark key more :=
  List.countP_append

lemma isLoading_iff {r : Request} : r.isLoading = true ↔ r.stage = .loading := by
  rw [Request.isLoading]
  split
  · next h => simp [h]
  · next h => simpa using h

lemma loads_eq_false (r : Request) (h : r.stage ≠ .loading) : loads key r = false := by
  rw [loads, Bool.and_eq_false_iff, ← Bool.not_eq_true, isLoading_iff]
  exact Or.inl h

lemma loads_of_loading (r : Request) (h : r.stage = .loading) :
    loads key r = (r.key == key) := by
  rw [loads, isLoading_iff.mpr h, Bool.true_and]

lemma mem_advance {r : Request} (h : r ∈ (t.advance i request stage).requests) :
    r ∈ t.requests ∨ r = { request with stage } :=
  List.mem_or_eq_of_mem_set h

lemma getElem?_advance {j : Nat} {r : Request}
    (h : (t.advance i request stage).requests[j]? = some r) :
    t.requests[j]? = some r ∨ j = i ∧ r = { request with stage } := by
  rw [Traffic.advance, List.getElem?_set] at h
  split at h
  · next hij =>
    split at h
    · exact Or.inr ⟨hij.symm, (Option.some_inj.mp h).symm⟩
    · cases h
  · exact Or.inl h

@[simp] lemma advance_cache : (t.advance i request stage).cache = t.cache := rfl

lemma inFlight_advance (hfound : t.requests[i]? = some request) (stage : Stage)
    (key : DatasetRef) :
    inFlight (t.advance i request stage) key + (loads key request).toNat =
      inFlight t key + (loads key { request with stage }).toNat := by
  obtain ⟨hlt, rfl⟩ := List.getElem?_eq_some_iff.mp hfound
  have hle : (if loads key t.requests[i] then 1 else 0) ≤ t.requests.countP (loads key) :=
    List.boole_getElem_le_countP hlt
  rw [inFlight, inFlight, Traffic.advance, List.countP_set hlt]
  have hboole : ∀ b : Bool, (if b = true then 1 else 0) = b.toNat := by decide
  rw [hboole] at hle ⊢
  rw [hboole]
  omega

/-- What a step leaves as it is when the cache finds the same and no load succeeds. -/
lemma Consistent.of_quiet (h : Consistent events t) (hmark : loadMark? event = none)
    (hbrought : ∀ key, brought key [event] = []) : Consistent (events ++ [event]) t := by
  refine ⟨h.distinct, h.cellAt, h.flight_le, ?_, ?_, h.ok_found, ?_⟩
  · intro key
    have hzero : ∀ mark, tally mark key [event] = 0 := by
      intro mark
      simp [tally, hmark]
    rw [tally_append, tally_append, tally_append, hzero, hzero, hzero]
    exact h.balance key
  · intro key
    rw [brought_append, hbrought, List.append_nil]
    exact h.brought_eq key
  · intro i r e hr hstage
    exact List.mem_append_left _ (h.error_failed i r e hr hstage)

/-- One request comes to another stage, and the cache stays as it is. -/
lemma Consistent.advance (h : Consistent events t) (hfound : t.requests[i]? = some request)
    (hflight : ∀ key, inFlight (t.advance i request stage) key + filled t.cache key ≤ 1)
    (hbalance : ∀ key, tally .start key [event] + (loads key request).toNat =
      tally .failure key [event] + tally .abort key [event] +
        (loads key { request with stage }).toNat)
    (hbrought : ∀ key, brought key [event] = [])
    (hok : ∀ icons, stage = .answered (.ok icons) → t.cache.find? request.key = some icons)
    (herror : ∀ e, stage = .answered (.error e) → event = .failed i request.key e) :
    Consistent (events ++ [event]) (t.advance i request stage) := by
  refine ⟨h.distinct, ?_, hflight, ?_, ?_, ?_, ?_⟩
  · intro r hr
    rcases mem_advance hr with hr | rfl
    · exact h.cellAt r hr
    · exact h.cellAt request (List.mem_of_getElem? hfound)
  · intro key
    have hold := h.balance key
    have hnew := hbalance key
    have hcount := inFlight_advance hfound stage key
    rw [tally_append, tally_append, tally_append, advance_cache]
    omega
  · intro key
    rw [brought_append, hbrought, List.append_nil]
    exact h.brought_eq key
  · intro r hr icons hstage
    rcases mem_advance hr with hr | rfl
    · exact h.ok_found r hr icons hstage
    · exact hok icons hstage
  · intro j r e hr hstage
    rcases getElem?_advance hr with hr | ⟨rfl, rfl⟩
    · exact List.mem_append_left _ (h.error_failed j r e hr hstage)
    · rw [herror e hstage]
      exact List.mem_append_right _ List.mem_cons_self

lemma Consistent.flight_le_of_not_loading (h : Consistent events t)
    (hfound : t.requests[i]? = some request) (hstage : stage ≠ .loading) (key : DatasetRef) :
    inFlight (t.advance i request stage) key + filled t.cache key ≤ 1 := by
  have hcount := inFlight_advance hfound stage key
  have hle := h.flight_le key
  rw [loads_eq_false { request with stage } hstage, Bool.toNat_false] at hcount
  omega

lemma Consistent.find?_eq_content? (h : Consistent events t)
    (hfound : t.requests[i]? = some request) :
    t.cache.find? request.key = t.cache.content? request.place :=
  Proofs.find?_eq_content? h.distinct (h.cellAt request (List.mem_of_getElem? hfound))

/-- No load for a key is in flight if none is for the key's cell. -/
lemma Consistent.inFlight_eq_zero (h : Consistent events t)
    (hfound : t.requests[i]? = some request)
    (hfree : ∀ other ∈ t.requests, other.place = request.place → other.isLoading = false) :
    inFlight t request.key = 0 := by
  refine List.countP_eq_zero.mpr ?_
  intro other hother hloads
  rw [loads, Bool.and_eq_true] at hloads
  obtain ⟨hloading, hkey⟩ := hloads
  have hcell : CellAt t.cache other.place request.key := eq_of_beq hkey ▸ h.cellAt other hother
  have hplace := hcell.place_eq h.distinct (h.cellAt request (List.mem_of_getElem? hfound))
  rw [hfree other hother hplace] at hloading
  cases hloading

/-- A load begins where the cell is empty and nobody loads it. -/
lemma Consistent.start (h : Consistent events t) (hfound : t.requests[i]? = some request)
    (hwaiting : request.stage = .waiting) (hempty : t.cache.content? request.place = none)
    (hfree : ∀ other ∈ t.requests, other.place = request.place → other.isLoading = false) :
    Consistent (events ++ [.started i request.key]) (t.advance i request .loading) := by
  have hnot : ∀ key, loads key request = false := fun key =>
    loads_eq_false request (by rw [hwaiting]; exact nofun)
  refine h.advance hfound ?_ ?_ (fun _ => rfl) nofun nofun
  · intro key
    have hcount := inFlight_advance hfound .loading key
    rw [hnot, Bool.toNat_false, loads_of_loading { request with stage := .loading } rfl] at hcount
    by_cases hkey : request.key = key
    · subst hkey
      have hzero := h.inFlight_eq_zero hfound hfree
      have hnone := (h.find?_eq_content? hfound).trans hempty
      rw [filled, hnone]
      simp only [beq_self_eq_true, Bool.toNat_true] at hcount
      simp only [Option.toList_none, List.length_nil]
      omega
    · have hle := h.flight_le key
      simp only [beq_eq_false_iff_ne.mpr hkey, Bool.toNat_false] at hcount
      omega
  · intro key
    rw [hnot, loads_of_loading { request with stage := .loading } rfl]
    by_cases hkey : request.key = key
    · simp [tally, loadMark?, hkey]
    · simp [tally, loadMark?, hkey, beq_eq_false_iff_ne.mpr hkey]

/-- A load that ends without success moves from those in flight to those that ended so. -/
lemma balance_of_stop (hloading : request.stage = .loading) (hstage : stage ≠ .loading)
    (mark : LoadMark) (hmark : mark ≠ .start)
    (hevent : loadMark? event = some (mark, request.key)) (key : DatasetRef) :
    tally .start key [event] + (loads key request).toNat =
      tally .failure key [event] + tally .abort key [event] +
        (loads key { request with stage }).toNat := by
  rw [loads_of_loading request hloading, loads_eq_false { request with stage } hstage]
  by_cases hkey : request.key = key
  · cases mark with
    | start => exact absurd rfl hmark
    | failure => simp [tally, hevent, hkey]
    | abort => simp [tally, hevent, hkey]
  · simp [tally, hevent, hkey, beq_eq_false_iff_ne.mpr hkey]

lemma balance_of_idle (hold : request.stage ≠ .loading) (hstage : stage ≠ .loading)
    (hmark : loadMark? event = none) (key : DatasetRef) :
    tally .start key [event] + (loads key request).toNat =
      tally .failure key [event] + tally .abort key [event] +
        (loads key { request with stage }).toNat := by
  rw [loads_eq_false request hold, loads_eq_false { request with stage } hstage]
  simp [tally, hmark]

/-- The request that loads leaves no room for the cell to be filled. -/
lemma Consistent.find?_of_loading (h : Consistent events t)
    (hfound : t.requests[i]? = some request) (hloading : request.stage = .loading) :
    t.cache.find? request.key = none := by
  have hle := h.flight_le request.key
  have hone : 0 < inFlight t request.key := by
    refine List.countP_pos_iff.mpr ⟨request, List.mem_of_getElem? hfound, ?_⟩
    rw [loads_of_loading request hloading, beq_self_eq_true]
  cases hfilled : t.cache.find? request.key with
  | none => rfl
  | some old =>
    rw [filled, hfilled, Option.toList_some, List.length_singleton] at hle
    omega

lemma Consistent.load (h : Consistent events t) (icons : IconSet)
    (hfound : t.requests[i]? = some request) (hloading : request.stage = .loading) :
    Consistent (events ++ [.loaded i request.key icons])
      ((t.keep request icons).advance i request (.answered (.ok icons))) := by
  have hcell := h.cellAt request (List.mem_of_getElem? hfound)
  have hempty := h.find?_of_loading hfound hloading
  have hfind : ∀ k, (t.keep request icons).cache.find? k =
      if k = request.key then some icons else t.cache.find? k :=
    find?_fill h.distinct hcell icons
  have hcount : ∀ key, inFlight ((t.keep request icons).advance i request (.answered (.ok icons)))
      key + (request.key == key).toNat = inFlight t key := by
    intro key
    rw [← loads_of_loading request hloading]
    exact inFlight_advance (t := t.keep request icons) hfound (.answered (.ok icons)) key
  have hfilled : ∀ key, filled (t.keep request icons).cache key =
      filled t.cache key + (request.key == key).toNat := by
    intro key
    rw [filled, filled, hfind]
    by_cases hkey : key = request.key
    · simp [hkey, hempty]
    · simp [hkey, beq_eq_false_iff_ne.mpr (Ne.symm hkey)]
  refine ⟨h.distinct.fill icons, ?_, ?_, ?_, ?_, ?_, ?_⟩
  · intro r hr
    rw [advance_cache, Traffic.keep, cellAt_fill_iff]
    rcases mem_advance hr with hr | rfl
    · exact h.cellAt r hr
    · exact hcell
  · intro key
    have hle := h.flight_le key
    have hold := hcount key
    have hnew := hfilled key
    rw [advance_cache]
    omega
  · intro key
    have hbalance := h.balance key
    have hold := hcount key
    have hnew := hfilled key
    have hzero : ∀ mark, tally mark key [.loaded i request.key icons] = 0 := fun _ => rfl
    rw [tally_append, tally_append, tally_append, hzero, hzero, hzero, advance_cache]
    omega
  · intro key
    rw [brought_append, h.brought_eq, advance_cache, hfind]
    by_cases hkey : key = request.key
    · simp [brought, hkey, hempty]
    · simp [brought, hkey, Ne.symm hkey]
  · intro r hr old hstage
    rw [advance_cache, hfind]
    rcases mem_advance hr with hr | rfl
    · have hsome := h.ok_found r hr old hstage
      have hother : r.key ≠ request.key := by
        intro heq
        rw [heq, hempty] at hsome
        cases hsome
      rw [if_neg hother, hsome]
    · cases hstage
      rw [if_pos rfl]
  · intro j r e hr hstage
    rcases getElem?_advance hr with hr | ⟨-, rfl⟩
    · exact List.mem_append_left _ (h.error_failed j r e hr hstage)
    · cases hstage

lemma Consistent.ask (h : Consistent events t) (key : DatasetRef) :
    Consistent (events ++ [.asked t.requests.length key]) (t.ask key) := by
  obtain ⟨hdistinct, hcell, hkept, hfind⟩ := cell_spec h.distinct key
  have hfilled : ∀ k, filled (t.ask key).cache k = filled t.cache k := fun k =>
    congrArg (fun found => found.toList.length) (hfind k)
  have hflight : ∀ k, inFlight (t.ask key) k = inFlight t k := by
    intro k
    rw [inFlight, Traffic.ask, List.countP_append]
    rfl
  have hmem : ∀ r ∈ (t.ask key).requests, r ∈ t.requests ∨
      r = ⟨key, (t.cache.cell key).1, .waiting⟩ := by
    simp [Traffic.ask]
  refine ⟨hdistinct, ?_, ?_, ?_, ?_, ?_, ?_⟩
  · intro r hr
    rcases hmem r hr with hr | rfl
    · exact hkept _ _ (h.cellAt r hr)
    · exact hcell
  · intro k
    rw [hflight, hfilled]
    exact h.flight_le k
  · intro k
    rw [hflight, hfilled, tally_append, tally_append, tally_append]
    exact h.balance k
  · intro k
    rw [brought_append]
    exact (List.append_nil _).trans ((h.brought_eq k).trans (congrArg Option.toList (hfind k)).symm)
  · intro r hr icons hstage
    rcases hmem r hr with hr | rfl
    · exact (hfind r.key).trans (h.ok_found r hr icons hstage)
    · cases hstage
  · intro i r e hr hstage
    rw [Traffic.ask, List.getElem?_append] at hr
    split at hr
    · exact List.mem_append_left _ (h.error_failed i r e hr hstage)
    · obtain rfl := List.mem_singleton.mp (List.mem_of_getElem? hr)
      cases hstage

/-- Every step keeps a run and its outcome consistent. -/
lemma Consistent.step (h : Consistent events t) (hstep : Step t event t') :
    Consistent (events ++ [event]) t' := by
  cases hstep with
  | ask key => exact h.ask key
  | start hfound hwaiting hempty hfree => exact h.start hfound hwaiting hempty hfree
  | load icons hfound hloading => exact h.load icons hfound hloading
  | fail failure hfound hloading =>
    refine h.advance hfound (h.flight_le_of_not_loading hfound nofun)
      (balance_of_stop hloading nofun .failure nofun rfl) (fun _ => rfl) nofun ?_
    rintro e ⟨⟩
    rfl
  | abort hfound hloading =>
    exact h.advance hfound (h.flight_le_of_not_loading hfound nofun)
      (balance_of_stop hloading nofun .abort nofun rfl) (fun _ => rfl) nofun nofun
  | serve hfound hwaiting hfilled =>
    refine h.advance hfound (h.flight_le_of_not_loading hfound nofun)
      (balance_of_idle (by rw [hwaiting]; exact nofun) nofun rfl) (fun _ => rfl) ?_ nofun
    rintro icons ⟨⟩
    exact (h.find?_eq_content? hfound).trans hfilled
  | withdraw hfound hwaiting =>
    exact h.advance hfound (h.flight_le_of_not_loading hfound nofun)
      (balance_of_idle (by rw [hwaiting]; exact nofun) nofun rfl) (fun _ => rfl) nofun nofun
  | look key => exact h.of_quiet rfl (fun _ => rfl)
  | count => exact h.of_quiet rfl (fun _ => rfl)

end Steps

end IconInline.Proofs
