import IconInline.Proofs.LoadInvariant

/-!
# One load for each key

However the steps of requests interleave, no two loads for a key are ever in flight together, and
none begins once one has succeeded. So all requests for a key that are answered with a dataset get
the one that was loaded for it, and a request is told of no failure but its own.
-/

namespace IconInline.Proofs
open Dataset

section Runs

variable {events before after : List Event} {t : Traffic} {event : Event}

lemma Consistent.of_run (h : Run events t) : Consistent events t := by
  induction h with
  | start =>
    exact ⟨List.nodup_nil, nofun, fun _ => Nat.zero_le 1, fun _ => rfl, fun _ => rfl, nofun, nofun⟩
  | snoc _ hstep ih => exact ih.step hstep

lemma exists_run_of_append (h : Run (before ++ after) t) : ∃ t', Run before t' := by
  generalize hevents : before ++ after = events at h
  induction h generalizing after with
  | start =>
    obtain ⟨rfl, -⟩ := List.append_eq_nil_iff.mp hevents
    exact ⟨_, Run.start⟩
  | @snoc events _ t' event hrun hstep ih =>
    rcases List.eq_nil_or_concat after with rfl | ⟨init, last, rfl⟩
    · rw [List.append_nil] at hevents
      exact ⟨t', hevents ▸ hrun.snoc hstep⟩
    · rw [List.concat_eq_append, ← List.append_assoc] at hevents
      exact ih (List.append_inj' hevents rfl).1

/-- Each event of a run is a step from where the events before it lead. -/
lemma exists_step_of_run (h : Run (before ++ event :: after) t) :
    ∃ s s', Run before s ∧ Step s event s' := by
  rw [List.append_cons] at h
  obtain ⟨s', hrun⟩ := exists_run_of_append h
  generalize hevents : before ++ [event] = events at hrun
  cases hrun with
  | start => simp at hevents
  | snoc hbefore hstep =>
    obtain ⟨rfl, heq⟩ := List.append_inj' hevents rfl
    cases heq
    exact ⟨_, _, hbefore, hstep⟩

end Runs

/-- What holds of requests after some events, in whatever order their steps came. -/
structure SharesLoads (events : List Event) (t : Traffic) : Prop where
  one_in_flight : ∀ key, inFlight t key ≤ 1
  not_started_after : ∀ before after i key icons, events = before ++ .loaded i key icons :: after →
    ∀ j, .started j key ∉ after
  brought_of_ok : ∀ r ∈ t.requests, ∀ icons, r.stage = .answered (.ok icons) →
    brought r.key events = [icons]
  failed_of_error : ∀ i r e, t.requests[i]? = some r → r.stage = .answered (.error e) →
    .failed i r.key e ∈ events
  started_eq : ∀ key, tally .start key events =
    tally .failure key events + tally .abort key events + inFlight t key + filled t.cache key
  found_iff : ∀ key icons, t.cache.find? key = some icons ↔ (key, some icons) ∈ t.cache.entries
  looked_eq : ∀ before after key found, events = before ++ .looked key found :: after →
    found.toList = brought key before
  counted_eq : ∀ before after size, events = before ++ .counted size :: after →
    ∃ keys : List DatasetRef, keys.Nodup ∧ (∀ key, key ∈ keys ↔ brought key before ≠ []) ∧
      size = keys.length
  /-- Looking and counting make no difference to anything else. -/
  run_without_queries : Run (events.filter fun event => !isQuery event) t

section Sharing

variable {events : List Event} {t : Traffic}

lemma not_started_after {before after : List Event} {i : Nat} {key : DatasetRef} {icons : IconSet}
    (h : Run (before ++ .loaded i key icons :: after) t) (j : Nat) : .started j key ∉ after := by
  intro hstarted
  obtain ⟨between, rest, rfl⟩ := List.append_of_mem hstarted
  rw [← List.cons_append, ← List.append_assoc] at h
  obtain ⟨s, s', hrun, hstep⟩ := exists_step_of_run h
  have hconsistent := Consistent.of_run hrun
  have hbrought := hconsistent.brought_eq key
  cases hstep with
  | start hfound hwaiting hempty hfree =>
    rw [hconsistent.find?_eq_content? hfound, hempty] at hbrought
    simp [brought] at hbrought

lemma eq_of_isQuery {t' : Traffic} {event : Event} (hstep : Step t event t')
    (hquery : isQuery event = true) : t' = t := by
  cases hstep with
  | look | count => rfl
  | ask | start | load | fail | abort | serve | withdraw => cases hquery

lemma run_filter_queries (h : Run events t) :
    Run (events.filter fun event => !isQuery event) t := by
  induction h with
  | start => exact Run.start
  | @snoc events s s' event _ hstep ih =>
    rw [List.filter_append]
    by_cases hquery : isQuery event = true
    · rw [eq_of_isQuery hstep hquery]
      simpa [hquery] using ih
    · simpa [hquery] using ih.snoc hstep

/-- Whatever the order of the steps, loads are shared. -/
theorem sharesLoads_of_run (h : Run events t) : SharesLoads events t := by
  have hconsistent := Consistent.of_run h
  refine ⟨?_, ?_, ?_, hconsistent.error_failed, hconsistent.balance,
    fun key icons => find?_eq_some_iff hconsistent.distinct, ?_, ?_, run_filter_queries h⟩
  · intro key
    have hle := hconsistent.flight_le key
    omega
  · rintro before after i key icons rfl
    exact not_started_after h
  · intro r hr icons hstage
    rw [hconsistent.brought_eq, hconsistent.ok_found r hr icons hstage]
    rfl
  · rintro before after key found rfl
    obtain ⟨s, s', hrun, hstep⟩ := exists_step_of_run h
    cases hstep
    exact ((Consistent.of_run hrun).brought_eq key).symm
  · rintro before after size rfl
    obtain ⟨s, s', hrun, hstep⟩ := exists_step_of_run h
    cases hstep
    obtain ⟨keys, hnodup, hmem, hsize⟩ := exists_keys_size (Consistent.of_run hrun).distinct
    refine ⟨keys, hnodup, ?_, hsize⟩
    intro key
    rw [hmem, (Consistent.of_run hrun).brought_eq key]
    cases s.cache.find? key with
    | none => simp
    | some icons => simp

end Sharing

/-- A failed load that another request repeats, next to a load for another key that is given up. -/
def retried : List Event :=
  let solid : DatasetRef := ⟨"icons", "solid"⟩
  let brands : DatasetRef := ⟨"icons", "brands"⟩
  [.asked 0 solid, .asked 1 solid, .asked 2 brands, .started 0 solid, .started 2 brands,
    .failed 0 solid (.dataset "icons" "gone"), .looked solid none, .started 1 solid,
    .asked 3 solid, .aborted 2 brands, .loaded 1 solid [], .served 3 solid [],
    .looked solid (some []), .counted 1]

theorem sharesLoads_retried : ∃ t, Run retried t ∧ SharesLoads retried t := by
  have hasked := ((Run.start.snoc (Step.ask ⟨"icons", "solid"⟩)).snoc
    (Step.ask ⟨"icons", "solid"⟩)).snoc (Step.ask ⟨"icons", "brands"⟩)
  have hstarted := (hasked.snoc (Step.start (i := 0) rfl rfl rfl (by decide))).snoc
    (Step.start (i := 2) rfl rfl rfl (by decide))
  have hfailed := (hstarted.snoc (Step.fail (i := 0) (.dataset "icons" "gone") rfl rfl)).snoc
    (Step.look ⟨"icons", "solid"⟩)
  have hretried := (hfailed.snoc (Step.start (i := 1) rfl rfl rfl (by decide))).snoc
    (Step.ask ⟨"icons", "solid"⟩)
  have hloaded := (hretried.snoc (Step.abort (i := 2) rfl rfl)).snoc
    (Step.load (i := 1) [] rfl rfl)
  have hserved := hloaded.snoc (Step.serve (i := 3) rfl rfl rfl)
  have hrun := (hserved.snoc (Step.look ⟨"icons", "solid"⟩)).snoc Step.count
  exact ⟨_, hrun, sharesLoads_of_run hrun⟩

/-! ## A fetch as a request -/

section Fetch

variable {events : List Event} {t : Traffic}

lemma run_fetch (host : Host Id) (cache : Cache) (key : DatasetRef) :
    (Cache.fetch host key).run cache =
      match (cache.cell key).2.content? (cache.cell key).1 with
      | some icons => (.ok icons, (cache.cell key).2)
      | none =>
        match host.load key with
        | .ok icons => (.ok icons, (cache.cell key).2.fill (cache.cell key).1 icons)
        | .error e => (.error e, (cache.cell key).2) := by
  rw [Cache.fetch]
  simp only [StateT.run_bind, StateT.run_get, pure_bind, StateT.run_set]
  cases (cache.cell key).2.content? (cache.cell key).1 with
  | some icons => rfl
  | none =>
    cases host.load key with
    | ok icons => rfl
    | error e => rfl

/-- A fetch at a time when no load for its key is in flight is a request that takes all of its
steps in a row. -/
theorem exists_run_fetch (h : Run events t) (host : Host Id) {key : DatasetRef}
    (hidle : inFlight t key = 0) :
    ∃ more t', Run (events ++ more) t' ∧ t'.cache = ((Cache.fetch host key).run t.cache).2 ∧
      t'.requests = t.requests ++
        [⟨key, (t.cache.cell key).1, .answered ((Cache.fetch host key).run t.cache).1⟩] := by
  have hask := h.snoc (Step.ask key)
  have hcells := (Consistent.of_run hask).cellAt
  -- The new request stays the last one, whatever its stage.
  have hset : ∀ request stage, (t.requests ++ [request]).set t.requests.length stage =
      t.requests ++ [stage] := by simp
  have hfound : ∀ request : Request, (t.requests ++ [request])[t.requests.length]? =
      some request := by simp
  rw [run_fetch]
  cases hcontent : (t.cache.cell key).2.content? (t.cache.cell key).1 with
  | some icons =>
    have hserve := hask.snoc (Step.serve (hfound _) rfl hcontent)
    rw [List.append_assoc] at hserve
    exact ⟨_, _, hserve, rfl, hset _ _⟩
  | none =>
    have hfree : ∀ other ∈ (t.ask key).requests, other.place = (t.cache.cell key).1 →
        other.isLoading = false := by
      intro other hother hplace
      rcases List.mem_append.mp hother with hold | hnew
      · have hcell := hcells other hother
        rw [hplace] at hcell
        have hkey : other.key = key :=
          hcell.key_eq (hcells _ (List.mem_append_right _ List.mem_cons_self))
        have hloads := List.countP_eq_zero.mp hidle other hold
        rw [loads, hkey, beq_self_eq_true, Bool.and_true] at hloads
        simpa using hloads
      · obtain rfl := List.mem_singleton.mp hnew
        rfl
    have hstart := hask.snoc (Step.start (hfound _) rfl hcontent hfree)
    have hfound' : ((t.ask key).advance t.requests.length
        ⟨key, (t.cache.cell key).1, .waiting⟩ .loading).requests[t.requests.length]? =
        some ⟨key, (t.cache.cell key).1, .loading⟩ := by
      rw [Traffic.advance, Traffic.ask, hset]
      exact hfound _
    cases hload : host.load key with
    | ok icons =>
      have hloaded := hstart.snoc (Step.load icons hfound' rfl)
      rw [List.append_assoc, List.append_assoc] at hloaded
      exact ⟨_, _, hloaded, rfl, by
        rw [Traffic.advance, Traffic.keep, Traffic.advance, Traffic.ask, hset, hset]⟩
    | error e =>
      have hfailed := hstart.snoc (Step.fail e hfound' rfl)
      rw [List.append_assoc, List.append_assoc] at hfailed
      exact ⟨_, _, hfailed, rfl, by
        rw [Traffic.advance, Traffic.advance, Traffic.ask, hset, hset]⟩

end Fetch

end IconInline.Proofs
