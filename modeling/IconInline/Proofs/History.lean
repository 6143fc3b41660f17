import IconInline.Proofs.Embedding
import IconInline.Proofs.SteadyLoads

/-!
# Transforms after a history

Inliners may share a cache. Whatever they have done with it before, a transform comes to the same
report as on an empty cache, if loads bring the same every time and no journal is kept: all that a
history leaves behind is content that a load would bring as well.
-/

namespace IconInline.Proofs

/-- What can be done with a shared cache. -/
inductive Deed where
  | preload (e : Inliner)
  | transform (e : Inliner) (id code : String)
  | fetch (key : DatasetRef)

variable {m : Type → Type} [Monad m]

/-- Does something with a shared cache, whether it succeeds or fails. -/
def Deed.act (host : Host m) : Deed → StateT Cache m Unit
  | .preload e => do let _ ← e.preload host
  | .transform e id code => do let _ ← e.transform host id code
  | .fetch key => do let _ ← Cache.fetch host key

/-- Does one thing after the other. -/
def history (host : Host m) (deeds : List Deed) : StateT Cache m Unit :=
  deeds.forM fun deed => deed.act host

/-- What an action with a cache comes to. -/
def answer {σ α : Type} (x : StateT Cache (StateM σ) α) (cache : Cache) (world : σ) : α :=
  ((x.run cache).run world).1.1

section Histories

variable {σ α β : Type} {content : DatasetRef → Except Failure IconSet} {calm : σ → Prop}
  {host : Host (StateM σ)}

lemma Ensures.mapM {f : β → StateT Cache (StateM σ) α} {g : β → α} {items : List β}
    (h : ∀ b, Ensures content calm (f b) (· = g b)) :
    Ensures content calm (items.mapM f) (· = items.map g) := by
  induction items with
  | nil => exact Ensures.pure rfl
  | cons b rest ih =>
    rw [List.mapM_cons]
    refine (h b).bind ?_
    rintro a rfl
    refine ih.bind ?_
    rintro more rfl
    exact Ensures.pure rfl

lemma Steady.act (h : Steady host content calm)
    (happend : ∀ file text, Keeps calm (host.append file text) fun _ => True) (deed : Deed) :
    Ensures content calm (deed.act host) fun _ => True := by
  cases deed with
  | preload e => exact (h.preload e).bind fun _ _ => Ensures.pure trivial
  | transform e id code =>
    have hrecord : ∀ report, Keeps calm (e.record host report) fun _ => True := by
      intro report
      rw [Inliner.record]
      cases e.options.journal with
      | none => exact Keeps.pure trivial
      | some file => exact happend file _
    exact (h.transform hrecord id code).bind fun _ _ => Ensures.pure trivial
  | fetch key => exact (h.fetch key).bind fun _ _ => Ensures.pure trivial

end Histories

/-- After any history on a shared cache, a transform by an inliner without a journal has the outcome
that it has on an empty cache. So it does not matter whether its datasets were preloaded, and in
whatever order modules are transformed, each has the outcome that it has alone. -/
theorem transform_after_history {σ : Type} {host : Host (StateM σ)}
    {content : DatasetRef → Except Failure IconSet} {calm : σ → Prop}
    (hsteady : Steady host content calm)
    (happend : ∀ file text, Keeps calm (host.append file text) fun _ => True)
    {e : Inliner} (hjournal : e.options.journal = none) (deeds : List Deed) {start fresh : σ}
    (hstart : calm start) (hfresh : calm fresh) :
    let after := ((history host deeds).run {}).run start
    (∀ id code, answer (e.transform host id code) {} fresh = .ok (reportOn content e id code)) ∧
    (∀ id code, answer (e.transform host id code) after.1.2 after.2 =
      answer (e.transform host id code) {} fresh) ∧
    (∀ id code, answer (do let _ ← e.preload host; e.transform host id code) after.1.2 after.2 =
      answer (e.transform host id code) {} fresh) ∧
    ∀ modules : List (String × String),
      answer (modules.mapM fun module => e.transform host module.1 module.2) after.1.2 after.2 =
        modules.map fun module => answer (e.transform host module.1 module.2) {} fresh := by
  have hhistory : Ensures content calm (history host deeds) fun _ => True :=
    Ensures.forM (hsteady.act happend)
  obtain ⟨⟨-, hcache⟩, hcalm⟩ := hhistory {} faithful_empty start hstart
  have htransform := hsteady.transform_of_no_journal hjournal
  have hlone : ∀ id code, answer (e.transform host id code) {} fresh =
      .ok (reportOn content e id code) := fun id code =>
    (htransform id code {} faithful_empty fresh hfresh).1.1
  simp only [hlone]
  refine ⟨fun _ _ => trivial, ?_, ?_, ?_⟩
  · intro id code
    exact (htransform id code _ hcache _ hcalm).1.1
  · intro id code
    have hwarm := (hsteady.preload e).bind fun _ _ => htransform id code
    exact (hwarm _ hcache _ hcalm).1.1
  · intro modules
    have hall : Ensures content calm
        (modules.mapM fun module => e.transform host module.1 module.2)
        (· = modules.map fun module => .ok (reportOn content e module.1 module.2)) :=
      Ensures.mapM fun module => htransform module.1 module.2
    exact (hall _ hcache _ hcalm).1.1

/-- What the host that counts its loads brings. -/
def countedContent (key : DatasetRef) : Except Failure IconSet :=
  if key.package = "solid" then .ok [("faAt", .plain 1 1 "M0 0")]
  else .error (.dataset key.package "not found")

/-- The preload fails at its second dataset, the transform at its journal. -/
def countedDeeds : List Deed :=
  [.preload journalingInliner, .transform journalingInliner "/other.js" "icon(faAt)",
    .fetch ⟨"gone", "far"⟩]

theorem transform_after_history_counted :
    Steady countingHost countedContent (fun _ => True) ∧
      (∀ file text, Keeps (fun _ => True) (countingHost.append file text) fun _ => True) ∧
      let e : Inliner := { journalingInliner with options := {} }
      let after := ((history countingHost countedDeeds).run {}).run 0
      after.2 = 4 ∧
      answer (e.transform countingHost "/icons.js" "icon(faAt)") after.1.2 after.2 =
        answer (e.transform countingHost "/icons.js" "icon(faAt)") {} 7 := by
  have hsteady : Steady countingHost countedContent (fun _ => True) :=
    ⟨fun key world _ => ⟨rfl, trivial⟩, fun record world _ => ⟨trivial, trivial⟩⟩
  have happend : ∀ file text,
      Keeps (fun _ => True) (countingHost.append file text) fun _ => True :=
    fun _ _ _ _ => ⟨trivial, trivial⟩
  exact ⟨hsteady, happend, by decide +kernel, (transform_after_history hsteady happend
    (e := { journalingInliner with options := {} }) rfl countedDeeds trivial trivial).2.1 _ _⟩

end IconInline.Proofs
