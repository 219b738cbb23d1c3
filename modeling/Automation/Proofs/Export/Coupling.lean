import Automation.Proofs.Export.Supplying

/-!
# Two exports side by side

`Couples m p m' p' done failed` says how two parts of exports end together: both with answers of which
`done` holds, or both with errors of which `failed` holds. The rules are those of `Ensures`, for pairs.
A `Coupling` says of two settings what a pair of exports keeps and what its ends have in common; it has
to be shown for one unit alone, once the units that it needs have libraries. `Coupling.run` concludes
that two runs with these settings end alike, however deep the exports on demand are nested.
-/

namespace Automation.Export

open Library Source

variable {World Draft World' Draft' Committed α α' β β' : Type}

/-! ## Parts of two exports -/

/-- How two parts of exports end together: with answers of which `done` holds, or with errors of which
`failed` holds. -/
def Couples (m : ExportM World Draft Committed α) (p : Progress World Draft Committed)
    (m' : ExportM World' Draft' Committed α') (p' : Progress World' Draft' Committed)
    (done : α → Progress World Draft Committed → α' → Progress World' Draft' Committed → Prop)
    (failed : ExportError → Progress World Draft Committed → ExportError →
      Progress World' Draft' Committed → Prop) : Prop :=
  match m.run p, m'.run p' with
  | .ok a q, .ok a' q' => done a q a' q'
  | .error e q, .error e' q' => failed e q e' q'
  | _, _ => False

section Parts

variable {p : Progress World Draft Committed} {p' : Progress World' Draft' Committed}
  {done : α → Progress World Draft Committed → α' → Progress World' Draft' Committed → Prop}
  {failed : ExportError → Progress World Draft Committed → ExportError →
    Progress World' Draft' Committed → Prop}
  {m : ExportM World Draft Committed α} {m' : ExportM World' Draft' Committed α'}

theorem couples_pure {a : α} {a' : α'} (h : done a p a' p') :
    Couples (pure a) p (pure a') p' done failed := h

theorem couples_get
    {done : Progress World Draft Committed → Progress World Draft Committed →
      Progress World' Draft' Committed → Progress World' Draft' Committed → Prop}
    (h : done p p p' p') :
    Couples (get : ExportM World Draft Committed _) p (get : ExportM World' Draft' Committed _) p' done
      failed := h

/-- The rule of sequences, side by side. -/
theorem Couples.bind {f : α → ExportM World Draft Committed β}
    {f' : α' → ExportM World' Draft' Committed β'}
    {between : α → Progress World Draft Committed → α' → Progress World' Draft' Committed → Prop}
    {done : β → Progress World Draft Committed → β' → Progress World' Draft' Committed → Prop}
    (h : Couples m p m' p' between failed)
    (hf : ∀ a q a' q', between a q a' q' → Couples (f a) q (f' a') q' done failed) :
    Couples (m >>= f) p (m' >>= f') p' done failed := by
  unfold Couples at h ⊢
  rw [EStateM.run_bind, EStateM.run_bind]
  rcases hr : m.run p with ⟨a, q⟩ | ⟨e, q⟩ <;> rcases hr' : m'.run p' with ⟨a', q'⟩ | ⟨e', q'⟩ <;>
    rw [hr, hr'] at h
  · exact hf a q a' q' h
  · exact h.elim
  · exact h.elim
  · exact h

/-- The rule of consequence, side by side. -/
theorem Couples.imp
    {done' : α → Progress World Draft Committed → α' → Progress World' Draft' Committed → Prop}
    {failed' : ExportError → Progress World Draft Committed → ExportError →
      Progress World' Draft' Committed → Prop}
    (h : Couples m p m' p' done failed) (hd : ∀ a q a' q', done a q a' q' → done' a q a' q')
    (hf : ∀ e q e' q', failed e q e' q' → failed' e q e' q') : Couples m p m' p' done' failed' := by
  unfold Couples at h ⊢
  rcases hr : m.run p with ⟨a, q⟩ | ⟨e, q⟩ <;> rcases hr' : m'.run p' with ⟨a', q'⟩ | ⟨e', q'⟩ <;>
    rw [hr, hr'] at h
  · exact hd a q a' q' h
  · exact h.elim
  · exact h.elim
  · exact hf e q e' q' h

/-- What each part ensures by itself holds beside what both have in common. -/
theorem Couples.and {own : α → Progress World Draft Committed → Prop}
    {own' : α' → Progress World' Draft' Committed → Prop}
    {lost : ExportError → Progress World Draft Committed → Prop}
    {lost' : ExportError → Progress World' Draft' Committed → Prop}
    (h : Couples m p m' p' done failed) (hm : Ensures m p own lost) (hm' : Ensures m' p' own' lost') :
    Couples m p m' p' (fun a q a' q' => done a q a' q' ∧ own a q ∧ own' a' q')
      fun e q e' q' => failed e q e' q' ∧ lost e q ∧ lost' e' q' := by
  unfold Couples at h ⊢
  unfold Ensures at hm hm'
  rcases hr : m.run p with ⟨a, q⟩ | ⟨e, q⟩ <;> rcases hr' : m'.run p' with ⟨a', q'⟩ | ⟨e', q'⟩ <;>
    rw [hr, hr'] at h <;> rw [hr] at hm <;> rw [hr'] at hm'
  · exact ⟨h, hm, hm'⟩
  · exact h.elim
  · exact h.elim
  · exact ⟨h, hm, hm'⟩

/-- Parts whose ends agree end together, with equal answers or equal errors. -/
theorem couples_iff_agrees
    {R : Progress World Draft Committed → Progress World' Draft' Committed → Prop}
    {m : ExportM World Draft Committed α} {m' : ExportM World' Draft' Committed α} :
    Couples m p m' p' (fun a q a' q' => a = a' ∧ R q q') (fun e q e' q' => e = e' ∧ R q q') ↔
      Agrees R (m.run p) (m'.run p') := by
  unfold Agrees Couples
  rcases m.run p with ⟨a, q⟩ | ⟨e, q⟩ <;> rcases m'.run p' with ⟨a', q'⟩ | ⟨e', q'⟩ <;> exact Iff.rfl

/-- Parts in step end together, with equal answers or equal errors. -/
theorem InStep.couples {R : Progress World Draft Committed → Progress World' Draft' Committed → Prop}
    {m : ExportM World Draft Committed α} {m' : ExportM World' Draft' Committed α}
    (h : InStep R m m') (hp : R p p') :
    Couples m p m' p' (fun a q a' q' => a = a' ∧ R q q') fun e q e' q' => e = e' ∧ R q q' :=
  couples_iff_agrees.mpr (h p p' hp)

end Parts

/-! ## Libraries of two exports -/

/-- How two exports of units end together: with libraries of which `done` holds, or with failures of
which `failed` holds. -/
def Meets (o : UnitOutcome World Committed) (o' : UnitOutcome World' Committed)
    (done : ExportedLibrary Committed → Session World Committed → ExportedLibrary Committed →
      Session World' Committed → Prop)
    (failed : Failure → Session World Committed → Failure → Session World' Committed → Prop) : Prop :=
  match o, o' with
  | (.ok l, s), (.ok l', s') => done l s l' s'
  | (.error f, s), (.error f', s') => failed f s f' s'
  | _, _ => False

section OnDemand

variable {b : Builder World Draft Committed} {b' : Builder World' Draft' Committed}
  {available : List Reflection}
  {exportUnit : (unit : Reflection) → unit ∈ available → Session World Committed → Draft →
    UnitOutcome World Committed}
  {exportUnit' : (unit : Reflection) → unit ∈ available → Session World' Committed → Draft' →
    UnitOutcome World' Committed}
  {I : Progress World Draft Committed → Progress World' Draft' Committed → Prop}
  {failed : ExportError → Progress World Draft Committed → ExportError →
    Progress World' Draft' Committed → Prop}

theorem couples_exportNeeded (type : ExternalType)
    (covers : ∀ {q q'}, I q q' → ∀ name, q.session.covers name = q'.session.covers name)
    (nested : ∀ q q' name unit hm, I q q' → unit.identity.name = name →
      Meets (exportUnit unit hm (q.begin b) (b.newLibrary q.session.world q.draft).2)
        (exportUnit' unit hm (q'.begin b') (b'.newLibrary q'.session.world q'.draft).2)
        (fun l s l' s' => I (q.generate name s l) (q'.generate name s' l'))
        fun f s f' s' => failed (.dependency name f.error f.diagnostics) { q with session := s }
          (.dependency name f'.error f'.diagnostics) { q' with session := s' })
    {p : Progress World Draft Committed} {p' : Progress World' Draft' Committed} (h : I p p') :
    Couples (exportNeeded b available exportUnit type) p
      (exportNeeded b' available exportUnit' type) p' (fun _ q _ q' => I q q') failed := by
  refine Couples.bind (couples_get ⟨⟨rfl, rfl⟩, rfl, rfl⟩ : Couples _ _ _ _
    (fun a q a' q' => (a = p ∧ q = p) ∧ a' = p' ∧ q' = p') _) ?_
  rintro _ _ _ _ ⟨⟨rfl, rfl⟩, rfl, rfl⟩
  have hcovers := covers h type.unit
  unfold Session.covers at hcovers
  dsimp only
  rw [hcovers]
  split
  · exact couples_pure h
  · split
    · exact couples_pure h
    · next unit hfind =>
      have hname : unit.identity.name = type.unit := by simpa using List.find?_some hfind
      have hmeets := nested _ _ type.unit unit (List.mem_of_find?_eq_some hfind) h hname
      unfold Progress.begin at hmeets
      generalize exportUnit unit _ _ _ = o at hmeets ⊢
      generalize exportUnit' unit _ _ _ = o' at hmeets ⊢
      rcases o with ⟨f | l, s⟩ <;> rcases o' with ⟨f' | l', s'⟩
      · exact hmeets
      · exact hmeets.elim
      · exact hmeets.elim
      · exact hmeets

/-- The rule of exports on demand, side by side: an invariant that each of them keeps holds at the
end. -/
theorem couples_exportUncovered {settings settings' : Settings} {needs : Needs}
    (hsettings : settings.generateReferences = settings'.generateReferences)
    (references : ∀ {q q'}, I q q' → q.session.references = q'.session.references)
    (covers : ∀ {q q'}, I q q' → ∀ name, q.session.covers name = q'.session.covers name)
    (nested : ∀ q q' name unit hm, I q q' → unit.identity.name = name →
      Meets (exportUnit unit hm (q.begin b) (b.newLibrary q.session.world q.draft).2)
        (exportUnit' unit hm (q'.begin b') (b'.newLibrary q'.session.world q'.draft).2)
        (fun l s l' s' => I (q.generate name s l) (q'.generate name s' l'))
        fun f s f' s' => failed (.dependency name f.error f.diagnostics) { q with session := s }
          (.dependency name f'.error f'.diagnostics) { q' with session := s' })
    {p : Progress World Draft Committed} {p' : Progress World' Draft' Committed} (h : I p p') :
    Couples (exportUncovered b settings needs available exportUnit) p
      (exportUncovered b' settings' needs available exportUnit') p' (fun _ q _ q' => I q q')
      failed := by
  have hall : ∀ types {p p'}, I p p' → Couples (exportAllNeeded b available exportUnit types) p
      (exportAllNeeded b' available exportUnit' types) p' (fun _ q _ q' => I q q') failed := by
    intro types
    induction types with
    | nil => exact fun hp => couples_pure hp
    | cons type later ih =>
      exact fun hp => (couples_exportNeeded type covers nested hp).bind fun _ _ _ _ hq => ih hq
  unfold exportUncovered
  rw [hsettings]
  split
  · refine Couples.bind (couples_get ⟨⟨rfl, rfl⟩, rfl, rfl⟩ : Couples _ _ _ _
      (fun a q a' q' => (a = p ∧ q = p) ∧ a' = p' ∧ q' = p') _) ?_
    rintro _ _ _ _ ⟨⟨rfl, rfl⟩, rfl, rfl⟩
    dsimp only
    rw [references h]
    exact hall _ h
  · exact couples_pure h

end OnDemand

/-! ## One unit from the others -/

/-- What a pair of exports keeps, and what its ends have in common. The exports go by settings that are
related, and the units that are exported on demand are those of the list. -/
structure Coupling (b : Builder World Draft Committed) (b' : Builder World' Draft' Committed)
    (resolver : Resolver) (units : List Reflection) where
  settings : Settings → Settings → Prop
  session : Session World Committed → Session World' Committed → Prop
  draft : Draft → Draft' → Prop
  queue : Diagnostic.Queue → Diagnostic.Queue → Prop
  failure : Failure → Failure → Prop
  /-- What the libraries of a unit have in common, given the libraries that they refer to. -/
  library : Reflection → Settings → Settings → List ReferencedLibrary → ExportedLibrary Committed →
    ExportedLibrary Committed → Prop
  /-- The units whose exports have this in common. -/
  covered : Reflection → Prop
  forDependency : ∀ {σ σ'}, settings σ σ' → settings σ.forDependency σ'.forDependency
  generateReferences : ∀ {σ σ'}, settings σ σ' → σ.generateReferences = σ'.generateReferences
  units_covered : ∀ unit ∈ units, covered unit
  references : ∀ {s s'}, session s s' → s.references = s'.references
  covers : ∀ {s s'}, session s s' → ∀ name, s.covers name = s'.covers name
  begun : ∀ {s s' d d'}, session s s' → draft d d' →
    session { s with world := (b.newLibrary s.world d).1 }
        { s' with world := (b'.newLibrary s'.world d').1 } ∧
      draft (b.newLibrary s.world d).2 (b'.newLibrary s'.world d').2
  start : ∀ {σ σ'}, settings σ σ' →
    queue (Diagnostic.Queue.empty σ.diagnostics) (Diagnostic.Queue.empty σ'.diagnostics)
  failed : ∀ {q q'} e, queue q q' → failure (Export.failure q e) (Export.failure q' e)
  dependency : ∀ {q q' f f'} name, failure f f' → queue q q' →
    failure (Export.failure q (.dependency name f.error f.diagnostics))
      (Export.failure q' (.dependency name f'.error f'.diagnostics))
  /-- A library that was made on demand is recorded and noted. -/
  generated : ∀ {σ σ' s s' q q' l l'}, settings σ σ' → ∀ unit ∈ units, session s s' → queue q q' →
    library unit σ.forDependency σ'.forDependency s.references l l' →
    session (s.generate l) (s'.generate l') ∧
      queue (q.raise (dependencyExported unit.identity.name l.attributes.name))
        (q'.raise (dependencyExported unit.identity.name l'.attributes.name))
  /-- Once the units that it needs have libraries, a unit gets libraries with this in common. -/
  own : ∀ {σ σ' unit classified} {p : Progress World Draft Committed}
    {p' : Progress World' Draft' Committed}, settings σ σ' → covered unit →
    classify unit unit.ids = .ok classified → session p.session p'.session → draft p.draft p'.draft →
    queue p.queue p'.queue →
    Meets
      (finish b unit.identity (σ.attributes unit.identity)
        ((buildReferring b resolver σ unit classified).run p))
      (finish b' unit.identity (σ'.attributes unit.identity)
        ((buildReferring b' resolver σ' unit classified).run p'))
      (fun l s l' s' => library unit σ σ' s.references l l' ∧ session s s')
      fun f s f' s' => failure f f' ∧ session s s'

namespace Coupling

variable {b : Builder World Draft Committed} {b' : Builder World' Draft' Committed}
  {resolver : Resolver} {units : List Reflection}

/-- The progress of two exports is related. -/
structure Kept (c : Coupling b b' resolver units) (p : Progress World Draft Committed)
    (p' : Progress World' Draft' Committed) : Prop where
  session : c.session p.session p'.session
  draft : c.draft p.draft p'.draft
  queue : c.queue p.queue p'.queue

/-- The ends of two exports of a unit have in common what they should. -/
def Ends (c : Coupling b b' resolver units) (σ σ' : Settings) (unit : Reflection)
    (o : UnitOutcome World Committed) (o' : UnitOutcome World' Committed) : Prop :=
  Meets o o' (fun l s l' s' => c.library unit σ σ' s.references l l' ∧ c.session s s')
    fun f s f' s' => c.failure f f' ∧ c.session s s'

variable (c : Coupling b b' resolver units) {σ σ' : Settings} {available : List Reflection}

/-- Two exports of the needed units end alike, if those of each of them do. -/
theorem exportUncovered (hσ : c.settings σ σ') (havailable : available ⊆ units) (needs : Needs)
    {exportUnit : (unit : Reflection) → unit ∈ available → Session World Committed → Draft →
      UnitOutcome World Committed}
    {exportUnit' : (unit : Reflection) → unit ∈ available → Session World' Committed → Draft' →
      UnitOutcome World' Committed}
    (nested : ∀ unit hm s s' d d', c.session s s' → c.draft d d' →
      c.Ends σ.forDependency σ'.forDependency unit (exportUnit unit hm s d)
        (exportUnit' unit hm s' d'))
    {p : Progress World Draft Committed} {p' : Progress World' Draft' Committed} (hp : c.Kept p p') :
    Couples (exportUncovered b σ needs available exportUnit) p
      (exportUncovered b' σ' needs available exportUnit') p' (fun _ q _ q' => c.Kept q q')
      fun e q e' q' => c.failure (Export.failure q.queue e) (Export.failure q'.queue e') ∧
        c.session q.session q'.session := by
  refine couples_exportUncovered (c.generateReferences hσ) (fun hq => c.references hq.session)
    (fun hq => c.covers hq.session) ?_ hp
  rintro q q' name unit hm ⟨hsession, hdraft, hqueue⟩ rfl
  obtain ⟨hbegun, hnew⟩ := c.begun hsession hdraft
  have hends := nested unit hm (q.begin b) (q'.begin b') _ _ hbegun hnew
  generalize exportUnit unit hm (q.begin b) _ = o at hends ⊢
  generalize exportUnit' unit hm (q'.begin b') _ = o' at hends ⊢
  rcases o with ⟨f | l, s⟩ <;> rcases o' with ⟨f' | l', s'⟩
  · exact ⟨c.dependency _ hends.1 hqueue, hends.2⟩
  · exact hends.elim
  · exact hends.elim
  · obtain ⟨hlibrary, hs⟩ := hends
    obtain ⟨hs, hqueue⟩ := c.generated hσ unit (havailable hm) hs hqueue hlibrary
    exact ⟨hs, hdraft, hqueue⟩

/-- **Two exports of a unit end alike.** -/
theorem exportUnit (hσ : c.settings σ σ') (havailable : available ⊆ units) {unit : Reflection}
    (hunit : c.covered unit) {s : Session World Committed} {s' : Session World' Committed} {d : Draft}
    {d' : Draft'} (hs : c.session s s') (hd : c.draft d d') :
    c.Ends σ σ' unit (Export.exportUnit b resolver σ available unit s d)
      (Export.exportUnit b' resolver σ' available unit s' d') := by
  induction available using available_induction generalizing σ σ' unit s s' d d' with
  | step available ih =>
    rw [Export.exportUnit, Export.exportUnit, build_eq, build_eq]
    cases hclassified : classify unit unit.ids with
    | error e => exact ⟨c.failed e (c.start hσ), hs⟩
    | ok classified =>
      have huncovered := @exportUncovered _ _ _ _ _ b b' resolver units c σ σ' available hσ havailable
        (Needs.scan classified)
        (fun needed _ => Export.exportUnit b resolver σ.forDependency (without available needed) needed)
        (fun needed _ =>
          Export.exportUnit b' resolver σ'.forDependency (without available needed) needed)
        (fun needed hm _ _ _ _ hs hd => ih needed hm (c.forDependency hσ)
          (without_subset havailable needed) (c.units_covered needed (havailable hm)) hs hd)
        (.start σ s d) (.start σ' s' d') ⟨hs, hd, c.start hσ⟩
      change c.Ends σ σ' unit
        (finish b _ _ ((Export.exportUncovered b _ _ _ _ >>= fun _ => _).run (.start σ s d)))
        (finish b' _ _ ((Export.exportUncovered b' _ _ _ _ >>= fun _ => _).run (.start σ' s' d')))
      rw [EStateM.run_bind, EStateM.run_bind]
      unfold Couples at huncovered
      rcases hr : (Export.exportUncovered b σ (Needs.scan classified) available _).run
          (.start σ s d) with ⟨_, q⟩ | ⟨e, q⟩ <;>
        rcases hr' : (Export.exportUncovered b' σ' (Needs.scan classified) available _).run
            (.start σ' s' d') with ⟨_, q'⟩ | ⟨e', q'⟩ <;>
          rw [hr, hr'] at huncovered
      · exact c.own hσ hunit hclassified huncovered.session huncovered.draft huncovered.queue
      · exact huncovered.elim
      · exact huncovered.elim
      · exact huncovered

/-- What the outputs of two runs have in common: their main libraries, and the sessions that hold the
ones made on demand. -/
def OutputsMeet (job : Job) (σ σ' : Settings) :
    Except Failure (Output Committed) × Session World Committed →
      Except Failure (Output Committed) × Session World' Committed → Prop
  | (.ok out, s), (.ok out', s') =>
    c.library job.unit σ σ' s.references out.main out'.main ∧ c.session s s' ∧
      out.dependencies = s.generated ∧ out'.dependencies = s'.generated
  | (.error f, s), (.error f', s') => c.failure f f' ∧ c.session s s'
  | _, _ => False

/-- **Two runs of a job end alike.** -/
theorem run {job : Job} (c : Coupling b b' job.resolver job.dependencies) (hσ : c.settings σ σ')
    (hunit : c.covered job.unit) {world : World} {world' : World'} {d : Draft} {d' : Draft'}
    (hs : c.session { world := world, references := σ.references }
      { world := world', references := σ'.references }) (hd : c.draft d d') :
    c.OutputsMeet job σ σ' (({ job with settings := σ } : Job).run b world d)
      (({ job with settings := σ' } : Job).run b' world' d') := by
  have havailable : without job.dependencies job.unit ⊆ job.dependencies :=
    without_subset (List.Subset.refl _) _
  have hends := c.exportUnit hσ havailable hunit hs hd
  unfold Job.run
  dsimp only
  generalize Export.exportUnit b _ _ _ _ _ _ = o at hends ⊢
  generalize Export.exportUnit b' _ _ _ _ _ _ = o' at hends ⊢
  rcases o with ⟨f | l, s⟩ <;> rcases o' with ⟨f' | l', s'⟩
  · exact hends
  · exact hends.elim
  · exact hends.elim
  · exact ⟨hends.1, hends.2, rfl, rfl⟩

end Coupling

end Automation.Export
