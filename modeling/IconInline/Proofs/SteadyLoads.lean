import IconInline.Inliner.Transform
import IconInline.Proofs.Acquisition

/-!
# Loads that bring the same every time

Where a load has the same outcome every time, a cache can only ever hold what loads bring. On any
such cache a request for a dataset is answered as by a load of its own, and a transform comes to the
same report. Surroundings are calm as long as loads in them bring this content; whatever else they
are may change.
-/

namespace IconInline.Proofs

/-! ## Actions in calm surroundings -/

section Actions

variable {σ α β : Type} {calm : σ → Prop}

/-- In calm surroundings an action has an outcome of this kind, and it leaves them calm. -/
def Keeps (calm : σ → Prop) (x : StateM σ α) (outcome : α → Prop) : Prop :=
  ∀ world, calm world → outcome (x.run world).1 ∧ calm (x.run world).2

lemma Keeps.pure {outcome : α → Prop} {a : α} (h : outcome a) :
    Keeps calm (Pure.pure a) outcome :=
  fun _ hcalm => ⟨h, hcalm⟩

lemma Keeps.mono {x : StateM σ α} {outcome wider : α → Prop} (h : Keeps calm x outcome)
    (hwider : ∀ a, outcome a → wider a) : Keeps calm x wider :=
  fun world hcalm => ⟨hwider _ (h world hcalm).1, (h world hcalm).2⟩

lemma Keeps.bind {x : StateM σ α} {f : α → StateM σ β} {between : α → Prop}
    {outcome : β → Prop} (h : Keeps calm x between)
    (hf : ∀ a, between a → Keeps calm (f a) outcome) : Keeps calm (x >>= f) outcome := by
  intro world hcalm
  obtain ⟨hbetween, hthen⟩ := h world hcalm
  exact hf _ hbetween _ hthen

lemma Keeps.bind_lift {x : StateM σ α} {f : α → ExceptT Failure (StateM σ) β}
    {between : α → Prop} {outcome : Except Failure β → Prop} (h : Keeps calm x between)
    (hf : ∀ a, between a → Keeps calm (f a).run outcome) :
    Keeps calm ((x : ExceptT Failure (StateM σ) α) >>= f).run outcome := by
  intro world hcalm
  obtain ⟨hbetween, hthen⟩ := h world hcalm
  exact hf _ hbetween _ hthen

lemma run_bind_ok {x : ExceptT Failure (StateM σ) α} {f : α → ExceptT Failure (StateM σ) β} {a : α}
    {world world' : σ} (h : x.run.run world = (.ok a, world')) :
    (x >>= f).run.run world = (f a).run.run world' := by
  rw [ExceptT.run_bind, StateT.run_bind, h]
  rfl

lemma exists_of_run_bind {x : ExceptT Failure (StateM σ) α} {f : α → ExceptT Failure (StateM σ) β}
    {b : β} {world after : σ} (h : (x >>= f).run.run world = (.ok b, after)) :
    ∃ a between, x.run.run world = (.ok a, between) ∧
      (f a).run.run between = (.ok b, after) := by
  rcases hx : x.run.run world with ⟨outcome, between⟩
  cases outcome with
  | ok a => exact ⟨a, between, rfl, (run_bind_ok hx).symm.trans h⟩
  | error e =>
    rw [ExceptT.run_bind, StateT.run_bind, hx] at h
    cases h

/-- In calm surroundings an action fails or has a result of this kind, and it leaves them calm. -/
def Yields (calm : σ → Prop) (x : ExceptT Failure (StateM σ) α) (result : α → Prop) : Prop :=
  Keeps calm x.run fun outcome => ∀ a, outcome = .ok a → result a

lemma Yields.pure {result : α → Prop} {a : α} (h : result a) :
    Yields calm (Pure.pure a) result := by
  refine Keeps.pure ?_
  rintro _ ⟨⟩
  exact h

lemma Yields.throw {result : α → Prop} (e : Failure) :
    Yields calm (MonadExcept.throw e) result :=
  Keeps.pure nofun

lemma Yields.bind {x : ExceptT Failure (StateM σ) α} {f : α → ExceptT Failure (StateM σ) β}
    {between : α → Prop} {result : β → Prop} (h : Yields calm x between)
    (hf : ∀ a, between a → Yields calm (f a) result) : Yields calm (x >>= f) result := by
  rw [Yields, ExceptT.run_bind]
  refine Keeps.bind h ?_
  intro outcome hbetween
  cases outcome with
  | ok a => exact hf a (hbetween a rfl)
  | error e => exact Keeps.pure nofun

lemma Yields.mono {x : ExceptT Failure (StateM σ) α} {result wider : α → Prop}
    (h : Yields calm x result) (hwider : ∀ a, result a → wider a) : Yields calm x wider :=
  Keeps.mono h fun _ houtcome a ha => hwider a (houtcome a ha)

lemma Yields.of_run {x : ExceptT Failure (StateM σ) α} {result : α → Prop} {a : α}
    {world after : σ} (h : Yields calm x result) (hcalm : calm world)
    (hrun : x.run.run world = (.ok a, after)) : result a ∧ calm after := by
  obtain ⟨hresult, hafter⟩ := h world hcalm
  rw [hrun] at hresult hafter
  exact ⟨hresult a rfl, hafter⟩

lemma Keeps.yields {x : StateM σ α} {result : α → Prop} (h : Keeps calm x result) :
    Yields calm (x : ExceptT Failure (StateM σ) α) result :=
  h.bind_lift fun _ ha => Yields.pure ha

lemma Yields.of_except (outcome : Except Failure α) :
    Yields calm (outcome : ExceptT Failure (StateM σ) α) (outcome = .ok ·) :=
  Keeps.pure fun _ h => h

end Actions

/-! ## Caches that hold the content -/

/-- Loads have the same outcome every time, and neither they nor the log disturb surroundings. -/
structure Steady {σ : Type} (host : Host (StateM σ)) (content : DatasetRef → Except Failure IconSet)
    (calm : σ → Prop) : Prop where
  load : ∀ key, Keeps calm (host.load key) (· = content key)
  log : ∀ record, Keeps calm (host.log record) fun _ => True

/-- A cache holds nothing but the content. -/
structure Faithful (content : DatasetRef → Except Failure IconSet) (cache : Cache) : Prop where
  distinct : Distinct cache
  found : ∀ key icons, cache.find? key = some icons → content key = .ok icons

/-- From any faithful cache, in calm surroundings, an action has an outcome of this kind, and it
leaves the cache faithful and the surroundings calm. -/
def Ensures {σ α : Type} (content : DatasetRef → Except Failure IconSet) (calm : σ → Prop)
    (x : StateT Cache (StateM σ) α) (outcome : α → Prop) : Prop :=
  ∀ cache, Faithful content cache →
    Keeps calm (x.run cache) fun result => outcome result.1 ∧ Faithful content result.2

section Caches

variable {σ α β : Type} {content : DatasetRef → Except Failure IconSet} {calm : σ → Prop}
  {host : Host (StateM σ)} {cache : Cache} {key : DatasetRef}

lemma faithful_empty : Faithful content {} := ⟨List.nodup_nil, nofun⟩

lemma Faithful.cell (h : Faithful content cache) (key : DatasetRef) :
    Faithful content (cache.cell key).2 := by
  obtain ⟨hdistinct, -, -, hfind⟩ := cell_spec h.distinct key
  refine ⟨hdistinct, ?_⟩
  intro k icons hfound
  rw [hfind] at hfound
  exact h.found k icons hfound

lemma Faithful.fill {place : Nat} {icons : IconSet} (h : Faithful content cache)
    (hcell : CellAt cache place key) (hicons : content key = .ok icons) :
    Faithful content (cache.fill place icons) := by
  refine ⟨h.distinct.fill icons, ?_⟩
  intro k found hfound
  rw [find?_fill h.distinct hcell] at hfound
  split at hfound
  · next hk =>
    cases hfound
    rw [hk, hicons]
  · exact h.found k found hfound

lemma Ensures.pure {outcome : α → Prop} {a : α} (h : outcome a) :
    Ensures content calm (Pure.pure a) outcome :=
  fun _ hcache => Keeps.pure ⟨h, hcache⟩

lemma Ensures.mono {x : StateT Cache (StateM σ) α} {outcome wider : α → Prop}
    (h : Ensures content calm x outcome) (hwider : ∀ a, outcome a → wider a) :
    Ensures content calm x wider :=
  fun cache hcache => (h cache hcache).mono fun _ hresult => ⟨hwider _ hresult.1, hresult.2⟩

lemma Ensures.bind {x : StateT Cache (StateM σ) α} {f : α → StateT Cache (StateM σ) β}
    {between : α → Prop} {outcome : β → Prop} (h : Ensures content calm x between)
    (hf : ∀ a, between a → Ensures content calm (f a) outcome) :
    Ensures content calm (x >>= f) outcome := by
  intro cache hcache
  rw [StateT.run_bind]
  refine (h cache hcache).bind ?_
  rintro ⟨a, cache'⟩ ⟨hbetween, hcache'⟩
  exact hf a hbetween cache' hcache'

lemma Ensures.forM {f : β → StateT Cache (StateM σ) Unit} {items : List β}
    (h : ∀ b, Ensures content calm (f b) fun _ => True) :
    Ensures content calm (items.forM f) fun _ => True := by
  induction items with
  | nil => exact Ensures.pure trivial
  | cons b rest ih => exact (h b).bind fun _ _ => ih

lemma Keeps.lift {x : StateM σ α} {outcome : α → Prop} (h : Keeps calm x outcome) :
    Ensures content calm (x : StateT Cache (StateM σ) α) outcome := by
  intro cache hcache world hcalm
  obtain ⟨houtcome, hthen⟩ := h world hcalm
  rw [run_lift_cache]
  exact ⟨⟨houtcome, hcache⟩, hthen⟩

/-! ## Fetching and transforming -/

variable (h : Steady host content calm)
include h

/-- A fetch is answered with the content, from the cache or by a load. -/
lemma Steady.fetch (key : DatasetRef) :
    Ensures content calm (Cache.fetch host key) (· = content key) := by
  intro cache hcache world hcalm
  obtain ⟨hdistinct, hcell, -, hfind⟩ := cell_spec hcache.distinct key
  have hheld := (hfind key).symm.trans (find?_eq_content? hdistinct hcell)
  cases hcontent : (cache.cell key).2.content? (cache.cell key).1 with
  | some icons =>
    -- What a cell holds was brought by an earlier load, and loads have not changed since.
    have hicons := hcache.found key icons (hheld.trans hcontent)
    rw [fetch_of_content hcontent]
    exact ⟨⟨hicons.symm, hcache.cell key⟩, hcalm⟩
  | none =>
    have hannounced : calm (announced host key world) := (h.log _ world hcalm).2
    obtain ⟨houtcome, hafter⟩ := h.load key _ hannounced
    rw [fetch_of_empty hcontent]
    rcases hload : (host.load key).run (announced host key world) with ⟨outcome, after⟩
    rw [hload] at houtcome hafter
    cases outcome with
    | ok icons => exact ⟨⟨houtcome, (hcache.cell key).fill hcell houtcome.symm⟩, hafter⟩
    | error e => exact ⟨⟨houtcome, hcache.cell key⟩, hafter⟩

lemma Steady.loadAll (keys : List DatasetRef) :
    Ensures content calm (Cache.loadAll host keys)
      fun outcome => outcome = .ok () ↔ ∀ key ∈ keys, ∃ icons, content key = .ok icons := by
  induction keys with
  | nil => exact Ensures.pure (by simp)
  | cons key rest ih =>
    rw [Cache.loadAll]
    refine (h.fetch key).bind ?_
    rintro outcome rfl
    cases hkey : content key with
    | ok icons => exact ih.mono fun outcome houtcome => by simp [houtcome, hkey]
    | error e => exact Ensures.pure (by simp [hkey])

/-- A preload of all datasets succeeds just if each of them can be loaded. -/
lemma Steady.preload (e : Inliner) :
    Ensures content calm (e.preload host) fun outcome => e.filter.isSome →
      (outcome = .ok () ↔ ∀ entry ∈ e.entries, ∃ icons, content entry.dataset = .ok icons) := by
  rw [Inliner.preload]
  split
  · next hnone =>
    refine Ensures.pure ?_
    intro hsome
    rw [Option.isNone_iff_eq_none.mp hnone] at hsome
    cases hsome
  · refine (h.loadAll e.datasets).mono ?_
    intro outcome houtcome _
    rw [houtcome]
    simp [Inliner.datasets]

lemma Steady.acquire (id : String) (entries : List Entry) :
    Ensures content calm (Inliner.acquire host id entries)
      (· = entries.map fun entry => (entry, content entry.dataset)) := by
  induction entries with
  | nil => exact Ensures.pure rfl
  | cons entry rest ih =>
    rw [Inliner.acquire]
    refine (h.fetch entry.dataset).bind ?_
    rintro outcome rfl
    have hwarn : ∀ record, Ensures content calm (host.log record : StateT Cache (StateM σ) Unit)
        fun _ => True := fun record => (h.log record).lift
    have hmore : Ensures content calm
        (do return (entry, content entry.dataset) :: (← Inliner.acquire host id rest))
        (· = (entry :: rest).map fun entry => (entry, content entry.dataset)) := by
      refine ih.bind ?_
      rintro acquired rfl
      exact Ensures.pure rfl
    cases hentry : content entry.dataset with
    | ok icons =>
      rw [hentry] at hmore
      exact hmore
    | error e =>
      rw [hentry] at hmore
      exact (hwarn _).bind fun _ _ => hmore

omit h in
/-- The report on a module, if it is admitted, where the datasets are the content. -/
def reportOn (content : DatasetRef → Except Failure IconSet) (e : Inliner) (id code : String) :
    Option Report :=
  if e.admits id then
    some (e.report id code (e.entries.map fun entry => (entry, content entry.dataset))).1
  else none

/-- A transform comes to the report on the content, unless the journal fails. -/
lemma Steady.transform {e : Inliner} {written : Except Failure Unit → Prop}
    (hrecord : ∀ report, Keeps calm (e.record host report) written) (id code : String) :
    Ensures content calm (e.transform host id code) fun outcome =>
      outcome = .ok (reportOn content e id code) ∨
        ∃ failure, written (.error failure) ∧ outcome = .error failure := by
  rw [Inliner.transform]
  cases hadmits : e.admits id with
  | false => exact Ensures.pure (Or.inl (by simp [reportOn, hadmits]))
  | true =>
    refine (h.acquire id e.entries).bind ?_
    rintro acquired rfl
    rcases hreport : e.report id code
      (e.entries.map fun entry => (entry, content entry.dataset)) with ⟨report, records⟩
    have hlone : reportOn content e id code = some report := by simp [reportOn, hadmits, hreport]
    have hlog : Ensures content calm
        (records.forM fun record => (host.log record : StateT Cache (StateM σ) Unit))
        fun _ => True := Ensures.forM fun record => (h.log record).lift
    refine hlog.bind fun _ _ => (hrecord report).lift.bind ?_
    intro outcome houtcome
    cases outcome with
    | ok _ => exact Ensures.pure (Or.inl (by rw [hlone]))
    | error failure => exact Ensures.pure (Or.inr ⟨failure, houtcome, rfl⟩)

/-- Without a journal nothing else than the content decides on the outcome. -/
lemma Steady.transform_of_no_journal {e : Inliner} (hjournal : e.options.journal = none)
    (id code : String) :
    Ensures content calm (e.transform host id code) (· = .ok (reportOn content e id code)) := by
  have hrecord : ∀ report, Keeps calm (e.record host report) (· = .ok ()) := by
    intro report
    rw [Inliner.record, hjournal]
    exact Keeps.pure rfl
  refine (h.transform hrecord id code).mono ?_
  rintro outcome (houtcome | ⟨failure, hfailure, -⟩)
  · exact houtcome
  · cases hfailure

end Caches

end IconInline.Proofs
