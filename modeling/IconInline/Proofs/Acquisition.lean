import IconInline.Inliner.Transform
import IconInline.Proofs.CacheCells

/-!
# Acquiring datasets

The surroundings are any state that loads, log and journal act upon, so a load may answer
differently every time. Fetching datasets only adds to a cache, and only what a load brought: an
entry whose dataset is known or is brought gets what the cache holds from then on, and any other
entry gets the failure of its own load.
-/

namespace IconInline.Proofs

section Loads

variable {σ : Type} {host : Host (StateM σ)} {cache cache' cache'' : Cache} {key : DatasetRef}

/-- In some state of the surroundings a load has this outcome. -/
def Answers (host : Host (StateM σ)) (key : DatasetRef) (outcome : Except Failure IconSet) : Prop :=
  ∃ world, ((host.load key).run world).1 = outcome

/-- What fetching datasets makes of a cache. -/
structure Grows (host : Host (StateM σ)) (cache cache' : Cache) : Prop where
  distinct : Distinct cache'
  kept : ∀ key icons, cache.find? key = some icons → cache'.find? key = some icons
  brought : ∀ key icons, cache'.find? key = some icons →
    cache.find? key = some icons ∨ Answers host key (.ok icons)

/-- What an entry got of its dataset, between a cache and a later one. -/
def Obtained (host : Host (StateM σ)) (cache cache' : Cache) : Acquired → Prop
  | (entry, .ok icons) => cache'.find? entry.dataset = some icons
  | (entry, .error e) =>
    cache.find? entry.dataset = none ∧ Answers host entry.dataset (.error e)

lemma Grows.refl (h : Distinct cache) : Grows host cache cache :=
  ⟨h, fun _ _ hfound => hfound, fun _ _ hfound => Or.inl hfound⟩

lemma Grows.trans (h : Grows host cache cache') (h' : Grows host cache' cache'') :
    Grows host cache cache'' := by
  refine ⟨h'.distinct, fun key icons hfound => h'.kept key icons (h.kept key icons hfound), ?_⟩
  intro key icons hfound
  rcases h'.brought key icons hfound with hbefore | hloaded
  · exact h.brought key icons hbefore
  · exact Or.inr hloaded

lemma Grows.find?_eq_none (h : Grows host cache cache') (hnone : cache'.find? key = none) :
    cache.find? key = none := by
  cases hfound : cache.find? key with
  | none => rfl
  | some icons =>
    rw [h.kept key icons hfound] at hnone
    cases hnone

lemma grows_cell (h : Distinct cache) (key : DatasetRef) :
    Grows host cache (cache.cell key).2 := by
  obtain ⟨hdistinct, -, -, hfind⟩ := cell_spec h key
  refine ⟨hdistinct, ?_, ?_⟩
  · intro k icons hfound
    rw [hfind, hfound]
  · intro k icons hfound
    rw [hfind] at hfound
    exact Or.inl hfound

lemma grows_fill {icons : IconSet} (h : Distinct cache)
    (hnone : cache.find? key = none) (hload : Answers host key (.ok icons)) :
    Grows host cache ((cache.cell key).2.fill (cache.cell key).1 icons) := by
  obtain ⟨hdistinct, hcell, -, hfind⟩ := cell_spec h key
  refine ⟨hdistinct.fill icons, ?_, ?_⟩
  · intro k found hfound
    have hne : k ≠ key := by
      rintro rfl
      rw [hnone] at hfound
      cases hfound
    rw [find?_fill hdistinct hcell, if_neg hne, hfind, hfound]
  · intro k found hfound
    rw [find?_fill hdistinct hcell] at hfound
    split at hfound
    · next hk =>
      cases hfound
      exact Or.inr (hk ▸ hload)
    · rw [hfind] at hfound
      exact Or.inl hfound

/-- What acts on the surroundings alone leaves the cache as it is. -/
lemma run_lift_cache {α : Type} (x : StateM σ α) (cache : Cache) (world : σ) :
    ((x : StateT Cache (StateM σ) α).run cache).run world =
      (((x.run world).1, cache), (x.run world).2) := rfl

/-- The surroundings in which a load begins: it is announced in the log. -/
def announced (host : Host (StateM σ)) (key : DatasetRef) (world : σ) : σ :=
  ((host.log ⟨.info, "Loading icon dataset " ++ key.display⟩).run world).2

lemma fetch_of_content {icons : IconSet}
    (h : (cache.cell key).2.content? (cache.cell key).1 = some icons) (world : σ) :
    ((Cache.fetch host key).run cache).run world = ((.ok icons, (cache.cell key).2), world) := by
  rw [Cache.fetch]
  simp only [StateT.run_bind, StateT.run_get, pure_bind, StateT.run_set, h]
  rfl

/-- A load that brought a dataset fills the cell that is waiting for it. -/
def settle (cache : Cache) (place : Nat) :
    Except Failure IconSet × σ → (Except Failure IconSet × Cache) × σ
  | (.ok icons, after) => ((.ok icons, cache.fill place icons), after)
  | (.error e, after) => ((.error e, cache), after)

lemma fetch_of_empty (h : (cache.cell key).2.content? (cache.cell key).1 = none) (world : σ) :
    ((Cache.fetch host key).run cache).run world =
      settle (cache.cell key).2 (cache.cell key).1
        ((host.load key).run (announced host key world)) := by
  rw [Cache.fetch]
  simp only [StateT.run_bind, StateT.run_get, pure_bind, StateT.run_set, h]
  dsimp only [bind]
  rw [run_lift_cache, run_lift_cache]
  dsimp only
  rw [← announced]
  rcases (host.load key).run (announced host key world) with ⟨outcome, after⟩
  cases outcome with
  | ok icons => rfl
  | error e => rfl

variable (host) in
/-- A fetch hands out what the cache holds afterwards, or the failure of its load. -/
lemma fetch_spec (hdistinct : Distinct cache) (entry : Entry) (world : σ) :
    let result := (((Cache.fetch host entry.dataset).run cache).run world).1
    Grows host cache result.2 ∧ Obtained host cache result.2 (entry, result.1) := by
  obtain ⟨hdistinct', hcell, -, hfind⟩ := cell_spec hdistinct entry.dataset
  have hheld := (hfind entry.dataset).symm.trans (find?_eq_content? hdistinct' hcell)
  dsimp only
  cases hcontent : (cache.cell entry.dataset).2.content? (cache.cell entry.dataset).1 with
  | some icons =>
    rw [fetch_of_content hcontent]
    refine ⟨grows_cell hdistinct entry.dataset, ?_⟩
    rw [Obtained, hfind, hheld, hcontent]
  | none =>
    have hnone : cache.find? entry.dataset = none := hheld.trans hcontent
    rw [fetch_of_empty hcontent]
    rcases hload : (host.load entry.dataset).run (announced host entry.dataset world) with
      ⟨outcome, after⟩
    have hanswers : Answers host entry.dataset outcome := ⟨_, congrArg Prod.fst hload⟩
    cases outcome with
    | ok icons =>
      refine ⟨grows_fill hdistinct hnone hanswers, ?_⟩
      rw [settle, Obtained, find?_fill hdistinct' hcell, if_pos rfl]
    | error e => exact ⟨grows_cell hdistinct entry.dataset, hnone, hanswers⟩

lemma Obtained.widen {before after : Cache} {a : Acquired} (hbefore : Grows host before cache)
    (hafter : Grows host cache' after) (h : Obtained host cache cache' a) :
    Obtained host before after a := by
  obtain ⟨entry, outcome⟩ := a
  cases outcome with
  | ok icons => exact hafter.kept entry.dataset icons h
  | error e => exact ⟨hbefore.find?_eq_none h.1, h.2⟩

variable (host) in
lemma acquire_cons (id : String) (entry : Entry) (rest : List Entry) (cache : Cache) (world : σ) :
    ∃ world', ((Inliner.acquire host id (entry :: rest)).run cache).run world =
      let first := (((Cache.fetch host entry.dataset).run cache).run world).1
      let more := ((Inliner.acquire host id rest).run first.2).run world'
      (((entry, first.1) :: more.1.1, more.1.2), more.2) := by
  rw [Inliner.acquire]
  simp only [StateT.run_bind]
  rcases ((Cache.fetch host entry.dataset).run cache).run world with ⟨⟨outcome, cache'⟩, world'⟩
  cases outcome with
  | ok icons => exact ⟨world', rfl⟩
  | error e => exact ⟨_, rfl⟩

variable (host) in
/-- Every entry obtains its dataset or fails to, whatever the loads of the others do. -/
lemma acquire_spec (id : String) (entries : List Entry) (hdistinct : Distinct cache) (world : σ) :
    let result := (((Inliner.acquire host id entries).run cache).run world).1
    result.1.map Prod.fst = entries ∧ Grows host cache result.2 ∧
      ∀ a ∈ result.1, Obtained host cache result.2 a := by
  induction entries generalizing cache world with
  | nil => exact ⟨rfl, Grows.refl hdistinct, nofun⟩
  | cons entry rest ih =>
    obtain ⟨world', hcons⟩ := acquire_cons host id entry rest cache world
    obtain ⟨hfirst, hobtained⟩ := fetch_spec host hdistinct entry world
    obtain ⟨hentries, hgrows, hrest⟩ := ih hfirst.distinct world'
    rw [hcons]
    refine ⟨?_, hfirst.trans hgrows, ?_⟩
    · rw [List.map_cons, hentries]
    · intro a ha
      rcases List.mem_cons.mp ha with rfl | ha
      · exact hobtained.widen (Grows.refl hdistinct) hgrows
      · exact (hrest a ha).widen hfirst (Grows.refl hgrows.distinct)

end Loads

end IconInline.Proofs
