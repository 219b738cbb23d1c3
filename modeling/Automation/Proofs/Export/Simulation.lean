import Automation.Proofs.Export.Ensures
import Automation.Proofs.Library.Journal

/-!
# Two builders in step

An export looks at its builder only through the answers that it gets. `KeepsUp` says of two builders
that a relation between the progress of their exports is kept by requests; then it is kept by scripts
and by `placeTypes`, as far as it is kept by what they say. `KeepsUpIn` is about the requests of some
phases only. `AnswerAlike` says of two builders, and of
a relation between what they remember, that they answer alike and stay related, and `Simulation` says
the same of what they commit. `Simulation.run` concludes that a job ends alike with both, however
deep the exports on demand are nested. With one builder on both sides the relation is an invariant.
-/

namespace Automation.Export

open Library Source

variable {World Draft World' Draft' Committed α β : Type}

/-- Two ends of a part of an export agree, and the progress made is related. -/
def Agrees (R : Progress World Draft Committed → Progress World' Draft' Committed → Prop) :
    EStateM.Result ExportError (Progress World Draft Committed) α →
      EStateM.Result ExportError (Progress World' Draft' Committed) α → Prop
  | .ok a p, .ok a' p' => a = a' ∧ R p p'
  | .error e p, .error e' p' => e = e' ∧ R p p'
  | _, _ => False

/-- Two parts of exports agree whenever they start related. -/
def InStep (R : Progress World Draft Committed → Progress World' Draft' Committed → Prop)
    (m : ExportM World Draft Committed α) (m' : ExportM World' Draft' Committed α) : Prop :=
  ∀ p p', R p p' → Agrees R (m.run p) (m'.run p')

/-- The ends of two exports of a unit agree. The sessions are related once the libraries, if there
are any, are recorded. -/
def Ends (S : Session World Committed → Session World' Committed → Prop) :
    UnitOutcome World Committed → UnitOutcome World' Committed → Prop
  | (.ok l, s), (.ok l', s') => l = l' ∧ S (s.generate l) (s'.generate l)
  | (.error f, s), (.error f', s') => f = f' ∧ S s s'
  | _, _ => False

/-- Two builders answer alike and stay related: `S` relates what the libraries of a run share, and
`D` relates drafts. -/
structure AnswerAlike (b : Builder World Draft Committed) (b' : Builder World' Draft' Committed)
    (S : Session World Committed → Session World' Committed → Prop)
    (D : Draft → Draft' → Prop) : Prop where
  references : ∀ {s s'}, S s s' → s.references = s'.references
  generated : ∀ {s s'}, S s s' → s.generated = s'.generated
  asked : ∀ {s s'} q, S s s' →
    S { s with questions := s.questions ++ [q] } { s' with questions := s'.questions ++ [q] }
  answered : ∀ {s s' d d'} {kind : ReplyKind} (r : Request kind), S s s' → D d d' →
    (b.answer r s.world d).1 = (b'.answer r s'.world d').1 ∧
      S { s with world := (b.answer r s.world d).2.1 }
        { s' with world := (b'.answer r s'.world d').2.1 } ∧
      D (b.answer r s.world d).2.2 (b'.answer r s'.world d').2.2
  begun : ∀ {s s' d d'}, S s s' → D d d' →
    S { s with world := (b.newLibrary s.world d).1 }
        { s' with world := (b'.newLibrary s'.world d').1 } ∧
      D (b.newLibrary s.world d).2 (b'.newLibrary s'.world d').2

/-- Two builders answer alike, commit alike and stay related. -/
structure Simulation (b : Builder World Draft Committed) (b' : Builder World' Draft' Committed)
    (S : Session World Committed → Session World' Committed → Prop)
    (D : Draft → Draft' → Prop) : Prop extends AnswerAlike b b' S D where
  committed : ∀ {s s' d d'}, S s s' → D d d' → ∀ unit attributes exported queue,
    Ends S
      (finish b unit attributes (.ok exported { session := s, draft := d, queue := queue }))
      (finish b' unit attributes (.ok exported { session := s', draft := d', queue := queue }))

/-- The progress of two exports is related. -/
structure Related (S : Session World Committed → Session World' Committed → Prop)
    (D : Draft → Draft' → Prop) (p : Progress World Draft Committed)
    (p' : Progress World' Draft' Committed) : Prop where
  session : S p.session p'.session
  draft : D p.draft p'.draft
  queue : p.queue = p'.queue

section Parts

variable {R : Progress World Draft Committed → Progress World' Draft' Committed → Prop}

theorem InStep.bind {m : ExportM World Draft Committed α} {m' : ExportM World' Draft' Committed α}
    {f : α → ExportM World Draft Committed β} {f' : α → ExportM World' Draft' Committed β}
    (hm : InStep R m m') (hf : ∀ a, InStep R (f a) (f' a)) : InStep R (m >>= f) (m' >>= f') := by
  intro p p' hp
  have h := hm p p' hp
  rw [EStateM.run_bind, EStateM.run_bind]
  rcases hr : m.run p with ⟨a, q⟩ | ⟨e, q⟩ <;> rcases hr' : m'.run p' with ⟨a', q'⟩ | ⟨e', q'⟩ <;>
    rw [hr, hr'] at h
  · obtain ⟨rfl, hq⟩ := h
    exact hf a q q' hq
  · exact h.elim
  · exact h.elim
  · exact h

theorem inStep_pure (a : α) :
    InStep R (pure a : ExportM World Draft Committed α) (pure a : ExportM World' Draft' Committed α) :=
  fun _ _ hp => ⟨rfl, hp⟩

theorem inStep_throw (e : ExportError) :
    InStep R (throw e : ExportM World Draft Committed α)
      (throw e : ExportM World' Draft' Committed α) :=
  fun _ _ hp => ⟨rfl, hp⟩

theorem inStep_ofExcept (x : Except ExportError α) :
    InStep R (MonadExcept.ofExcept x : ExportM World Draft Committed α)
      (MonadExcept.ofExcept x : ExportM World' Draft' Committed α) := by
  cases x with
  | ok a => exact inStep_pure a
  | error e => exact inStep_throw e

/-- A look at the progress: what is done next agrees for all related progress. -/
theorem inStep_get {f : Progress World Draft Committed → ExportM World Draft Committed β}
    {f' : Progress World' Draft' Committed → ExportM World' Draft' Committed β}
    (hf : ∀ p p', R p p' → InStep R (f p) (f' p')) : InStep R (get >>= f) (get >>= f') :=
  fun p p' hp => hf p p' hp p p' hp

theorem inStep_checkIdentity (guid : Guid) (references : List ReferencedLibrary) :
    InStep R (checkIdentity guid references : ExportM World Draft Committed Unit)
      (checkIdentity guid references : ExportM World' Draft' Committed Unit) := by
  unfold checkIdentity
  split
  · exact inStep_throw _
  · exact inStep_pure _

end Parts

/-! ## Requests and scripts -/

section Requests

/-- The part of `placeTypes` that comes after the attributes of the library. -/
def placeNamed (b : Builder World Draft Committed) (version : Version)
    (references : List ReferencedLibrary) (named : List NamedType) (needs : Needs) :
    ExportM World Draft Committed (List Placed × ReferenceTable) := do
  let placed ← createTypes b version [] named
  let standard ← importStandard b needs.standard
  let refs ← importTypes b references [] (ownReferences placed standard) needs.external
  return (placed, refs)

theorem placeTypes_eq (b : Builder World Draft Committed) (resolver : Resolver)
    (attributes : Attributes) (references : List ReferencedLibrary) (classified : List Classified)
    (needs : Needs) : placeTypes b resolver attributes references classified needs =
      perform b (nameTypes resolver classified).2 >>= fun _ =>
        request b (libraryContext attributes.name) (.setAttributes attributes) >>= fun _ =>
          placeNamed b attributes.version references (nameTypes resolver classified).1 needs := rfl

/-- Requests of some phases keep the relation, and are answered alike. -/
def KeepsUpIn (phases : List Phase) (b : Builder World Draft Committed)
    (b' : Builder World' Draft' Committed)
    (R : Progress World Draft Committed → Progress World' Draft' Committed → Prop) : Prop :=
  ∀ (kind : ReplyKind) (r : Request kind), r.phase ∈ phases → ∀ p p', R p p' →
    (b.answer r p.session.world p.draft).1 = (b'.answer r p'.session.world p'.draft).1 ∧
      R (p.asked (b.answer r p.session.world p.draft).2.1 (b.answer r p.session.world p.draft).2.2)
        (p'.asked (b'.answer r p'.session.world p'.draft).2.1
          (b'.answer r p'.session.world p'.draft).2.2)

/-- Requests keep the relation, and are answered alike. -/
def KeepsUp (b : Builder World Draft Committed) (b' : Builder World' Draft' Committed)
    (R : Progress World Draft Committed → Progress World' Draft' Committed → Prop) : Prop :=
  ∀ (kind : ReplyKind) (r : Request kind) p p', R p p' →
    (b.answer r p.session.world p.draft).1 = (b'.answer r p'.session.world p'.draft).1 ∧
      R (p.asked (b.answer r p.session.world p.draft).2.1 (b.answer r p.session.world p.draft).2.2)
        (p'.asked (b'.answer r p'.session.world p'.draft).2.1
          (b'.answer r p'.session.world p'.draft).2.2)

/-- Remarks of the steps keep the relation. -/
def KeptBy (R : Progress World Draft Committed → Progress World' Draft' Committed → Prop)
    (steps : List Step) : Prop :=
  ∀ r, Step.remark r ∈ steps → ∀ p p', R p p' → R (p.note r) (p'.note r)

variable {b : Builder World Draft Committed} {b' : Builder World' Draft' Committed}
  {R : Progress World Draft Committed → Progress World' Draft' Committed → Prop}

/-- Two requests that are answered alike. -/
theorem agrees_request (context : String) {kind : ReplyKind} {r r' : Request kind}
    {p : Progress World Draft Committed} {p' : Progress World' Draft' Committed}
    (h : (b.answer r p.session.world p.draft).1 = (b'.answer r' p'.session.world p'.draft).1 ∧
      R (p.asked (b.answer r p.session.world p.draft).2.1 (b.answer r p.session.world p.draft).2.2)
        (p'.asked (b'.answer r' p'.session.world p'.draft).2.1
          (b'.answer r' p'.session.world p'.draft).2.2)) :
    Agrees R ((request b context r).run p) ((request b' context r').run p') := by
  obtain ⟨hsame, hkept⟩ := h
  rcases ha : b.answer r p.session.world p.draft with ⟨outcome, world, draft⟩
  rcases ha' : b'.answer r' p'.session.world p'.draft with ⟨outcome', world', draft'⟩
  rw [ha, ha'] at hsame hkept
  cases hsame
  cases outcome with
  | ok answer =>
    rw [request_run_ok ha, request_run_ok ha']
    exact ⟨rfl, hkept⟩
  | error error =>
    rw [request_run_error ha, request_run_error ha']
    exact ⟨rfl, hkept⟩

/-- Two requests that are answered alike whenever they are made. -/
theorem inStep_request (context : String) {kind : ReplyKind} {r r' : Request kind}
    (h : ∀ p p', R p p' →
      (b.answer r p.session.world p.draft).1 = (b'.answer r' p'.session.world p'.draft).1 ∧
        R (p.asked (b.answer r p.session.world p.draft).2.1 (b.answer r p.session.world p.draft).2.2)
          (p'.asked (b'.answer r' p'.session.world p'.draft).2.1
            (b'.answer r' p'.session.world p'.draft).2.2)) :
    InStep R (request b context r) (request b' context r') := fun p p' hp =>
  agrees_request context (h p p' hp)

namespace KeepsUpIn

variable {phases : List Phase}

theorem request (h : KeepsUpIn phases b b' R) (context : String) {kind : ReplyKind}
    {r : Request kind} (hr : r.phase ∈ phases) :
    InStep R (request b context r) (request b' context r) := inStep_request context (h kind r hr)

theorem perform (h : KeepsUpIn phases b b' R) {steps : List Step} (hsteps : KeptBy R steps)
    (hphases : ∀ context (r : Request .done), Step.request context r ∈ steps → r.phase ∈ phases) :
    InStep R (perform b steps) (perform b' steps) := by
  induction steps with
  | nil => exact inStep_pure _
  | cons step later ih =>
    have hlater := ih (fun r hr => hsteps r (List.mem_cons_of_mem _ hr))
      fun context r hr => hphases context r (List.mem_cons_of_mem _ hr)
    cases step with
    | remark r =>
      refine InStep.bind (fun p p' hp => ?_) fun _ => hlater
      exact ⟨rfl, hsteps r List.mem_cons_self p p' hp⟩
    | request context r =>
      exact (h.request context (hphases context r List.mem_cons_self)).bind fun _ => hlater
    | abort e => exact inStep_throw e

theorem createType (h : KeepsUpIn phases b b' R) (hphase : .creation ∈ phases) (version : Version)
    (uses : GuidUses) (place : Placeholder) :
    InStep R (createType b version uses place) (createType b' version uses place) := by
  unfold Export.createType
  split
  · exact inStep_throw _
  · refine (h.request _ (by exact hphase)).bind fun handle =>
      (h.request _ (by exact hphase)).bind fun _ => (h.request _ (by exact hphase)).bind fun _ =>
        (h.request _ (by exact hphase)).bind fun _ => ?_
    split
    · exact (h.request _ (by exact hphase)).bind fun _ => inStep_pure _
    · exact inStep_pure _

theorem createClassInterface (h : KeepsUpIn phases b b' R) (hphase : .creation ∈ phases)
    (version : Version) (uses : GuidUses) (n : NamedType) :
    InStep R (createClassInterface b version uses n) (createClassInterface b' version uses n) := by
  unfold Export.createClassInterface
  split
  · exact (h.createType hphase _ _ _).bind fun _ => inStep_pure _
  · exact inStep_pure _

theorem createTypes (h : KeepsUpIn phases b b' R) (hphase : .creation ∈ phases) (version : Version)
    (uses : GuidUses) (named : List NamedType) :
    InStep R (createTypes b version uses named) (createTypes b' version uses named) := by
  induction named generalizing uses with
  | nil => exact inStep_pure _
  | cons n later ih =>
    exact (h.createClassInterface hphase _ _ _).bind fun _ => (h.createType hphase _ _ _).bind fun _ =>
      (ih _).bind fun _ => inStep_pure _

theorem importStandard (h : KeepsUpIn phases b b' R) (hphase : .imports ∈ phases) (isNeeded : Bool) :
    InStep R (importStandard b isNeeded) (importStandard b' isNeeded) := by
  unfold Export.importStandard
  split
  · exact (h.request _ (by exact hphase)).bind fun _ => inStep_pure _
  · exact inStep_pure _

theorem importTypes (h : KeepsUpIn phases b b' R) (hphase : .imports ∈ phases)
    (references : List ReferencedLibrary) (imported : List (Nat × ImportId)) (refs : ReferenceTable)
    (types : List ExternalType) :
    InStep R (importTypes b references imported refs types)
      (importTypes b' references imported refs types) := by
  induction types generalizing imported refs with
  | nil => exact inStep_pure _
  | cons type later ih =>
    unfold Export.importTypes
    split
    · exact ih _ _
    · split
      · exact ih _ _
      · split
        · exact ih _ _
        · exact (h.request _ (by exact hphase)).bind fun _ => ih _ _

/-- Everything but the names and the attributes of a library. -/
theorem placeNamed (h : KeepsUpIn phases b b' R) (hcreation : .creation ∈ phases)
    (himports : .imports ∈ phases) (version : Version) (references : List ReferencedLibrary)
    (named : List NamedType) (needs : Needs) :
    InStep R (placeNamed b version references named needs)
      (placeNamed b' version references named needs) :=
  (h.createTypes hcreation _ _ _).bind fun _ => (h.importStandard himports _).bind fun _ =>
    (h.importTypes himports _ _ _ _).bind fun _ => inStep_pure _

end KeepsUpIn

namespace KeepsUp

theorem inPhases (h : KeepsUp b b' R) (phases : List Phase) : KeepsUpIn phases b b' R :=
  fun kind r _ => h kind r

theorem request (h : KeepsUp b b' R) (context : String) {kind : ReplyKind} (r : Request kind) :
    InStep R (request b context r) (request b' context r) := inStep_request context (h kind r)

theorem perform (h : KeepsUp b b' R) {steps : List Step} (hsteps : KeptBy R steps) :
    InStep R (perform b steps) (perform b' steps) := by
  refine (h.inPhases [.attributes, .creation, .imports, .inheritance, .members, .layout]).perform
    hsteps fun _ r _ => ?_
  cases r.phase <;> simp

theorem placeTypes (h : KeepsUp b b' R) (resolver : Resolver) (attributes : Attributes)
    (references : List ReferencedLibrary) (classified : List Classified) (needs : Needs)
    (hnaming : KeptBy R (nameTypes resolver classified).2) :
    InStep R (placeTypes b resolver attributes references classified needs)
      (placeTypes b' resolver attributes references classified needs) :=
  (h.perform hnaming).bind fun _ => (h.request _ _).bind fun _ =>
    (h.inPhases [.creation, .imports]).placeNamed List.mem_cons_self
      (List.mem_cons_of_mem _ List.mem_cons_self) _ _ _ _

end KeepsUp

end Requests

/-! ## Builders that answer alike -/

section Builders

variable {b : Builder World Draft Committed} {b' : Builder World' Draft' Committed}
  {S : Session World Committed → Session World' Committed → Prop} {D : Draft → Draft' → Prop}

namespace AnswerAlike

theorem keepsUp (h : AnswerAlike b b' S D) : KeepsUp b b' (Related S D) := fun _ r _ _ hp =>
  have hanswered := h.answered r hp.session hp.draft
  ⟨hanswered.1, hanswered.2.1, hanswered.2.2, hp.queue⟩

theorem keptBy (h : AnswerAlike b b' S D) (steps : List Step) : KeptBy (Related S D) steps := by
  intro r _ p p' hp
  cases r with
  | asked q => exact ⟨h.asked q hp.session, hp.draft, hp.queue⟩
  | raised d => exact ⟨hp.session, hp.draft, congrArg (·.raise d) hp.queue⟩

/-! ### Exports on demand -/

section Nested

variable {available : List Reflection}
  {exportUnit : (unit : Reflection) → unit ∈ available → Session World Committed → Draft →
    UnitOutcome World Committed}
  {exportUnit' : (unit : Reflection) → unit ∈ available → Session World' Committed → Draft' →
    UnitOutcome World' Committed}

theorem exportNeeded (h : AnswerAlike b b' S D)
    (nested : ∀ unit hm s s' d d', S s s' → D d d' →
      Ends S (exportUnit unit hm s d) (exportUnit' unit hm s' d')) (type : ExternalType) :
    InStep (Related S D) (exportNeeded b available exportUnit type)
      (exportNeeded b' available exportUnit' type) := by
  unfold Export.exportNeeded
  refine inStep_get fun p p' hp => ?_
  rcases p' with ⟨⟨world', questions', references', generated'⟩, draft', queue'⟩
  obtain rfl : p.session.references = references' := h.references hp.session
  obtain rfl : p.session.generated = generated' := h.generated hp.session
  obtain rfl : p.queue = queue' := hp.queue
  dsimp only
  split
  · exact inStep_pure _
  · split
    · exact inStep_pure _
    · next unit hfind =>
      obtain ⟨hbegin, hdraft⟩ := h.begun hp.session hp.draft
      have hends := nested unit (List.mem_of_find?_eq_some hfind) _ _ _ _ hbegin hdraft
      generalize exportUnit unit _ _ _ = o at hends ⊢
      generalize exportUnit' unit _ _ _ = o' at hends ⊢
      rcases o with ⟨f | l, s⟩ <;> rcases o' with ⟨f' | l', s'⟩
      · obtain ⟨rfl, hs⟩ := hends
        exact fun _ _ _ => ⟨rfl, hs, hp.draft, rfl⟩
      · exact hends.elim
      · exact hends.elim
      · obtain ⟨rfl, hs⟩ := hends
        exact fun _ _ _ => ⟨rfl, hs, hp.draft, rfl⟩

theorem exportAllNeeded (h : AnswerAlike b b' S D)
    (nested : ∀ unit hm s s' d d', S s s' → D d d' →
      Ends S (exportUnit unit hm s d) (exportUnit' unit hm s' d')) (types : List ExternalType) :
    InStep (Related S D) (exportAllNeeded b available exportUnit types)
      (exportAllNeeded b' available exportUnit' types) := by
  induction types with
  | nil => exact inStep_pure _
  | cons type later ih => exact (h.exportNeeded nested type).bind fun _ => ih

theorem exportUncovered (h : AnswerAlike b b' S D) (settings : Settings) (needs : Needs)
    (nested : ∀ unit hm s s' d d', S s s' → D d d' →
      Ends S (exportUnit unit hm s d) (exportUnit' unit hm s' d')) :
    InStep (Related S D) (exportUncovered b settings needs available exportUnit)
      (exportUncovered b' settings needs available exportUnit') := by
  unfold Export.exportUncovered
  split
  · refine inStep_get fun p p' hp => ?_
    rw [h.references hp.session]
    exact h.exportAllNeeded nested _
  · exact inStep_pure _

theorem build (h : AnswerAlike b b' S D) (resolver : Resolver) (settings : Settings)
    (unit : Reflection)
    (uncovered : ∀ needs, InStep (Related S D)
      (Export.exportUncovered b settings needs available exportUnit)
      (Export.exportUncovered b' settings needs available exportUnit')) :
    InStep (Related S D) (build b resolver settings unit available exportUnit)
      (build b' resolver settings unit available exportUnit') := by
  refine (inStep_ofExcept _).bind fun _ => (uncovered _).bind fun _ =>
    inStep_get fun p p' hp => ?_
  rw [h.references hp.session]
  exact (inStep_checkIdentity _ _).bind fun _ =>
    (h.keepsUp.placeTypes _ _ _ _ _ (h.keptBy _)).bind fun _ =>
      (h.keepsUp.perform (h.keptBy _)).bind fun _ => inStep_pure _

end Nested

end AnswerAlike

/-! ## Units and jobs -/

namespace Simulation

/-- Exports of a unit end alike with both builders, whatever is exported on demand on the way. -/
theorem exportUnit (h : Simulation b b' S D) (resolver : Resolver) (settings : Settings)
    (available : List Reflection) (unit : Reflection) {s : Session World Committed}
    {s' : Session World' Committed} {d : Draft} {d' : Draft'} (hs : S s s') (hd : D d d') :
    Ends S (exportUnit b resolver settings available unit s d)
      (exportUnit b' resolver settings available unit s' d') := by
  induction available using available_induction generalizing settings unit s s' d d' with
  | step available ih =>
    rw [Export.exportUnit, Export.exportUnit]
    have nested : ∀ needed (_ : needed ∈ available) s s' d d', S s s' → D d d' →
        Ends S
          (Export.exportUnit b resolver settings.forDependency (without available needed) needed s d)
          (Export.exportUnit b' resolver settings.forDependency (without available needed) needed
            s' d') :=
      fun needed hm s s' d d' hs hd =>
        ih needed hm settings.forDependency needed hs hd
    have hbuild := h.build resolver settings unit (h.exportUncovered settings · nested)
      { session := s, draft := d, queue := Diagnostic.Queue.empty settings.diagnostics }
      { session := s', draft := d', queue := Diagnostic.Queue.empty settings.diagnostics }
      ⟨hs, hd, rfl⟩
    unfold Agrees at hbuild
    split at hbuild
    · next exported p exported' p' hr hr' =>
      obtain ⟨rfl, hp⟩ := hbuild
      rw [hr, hr']
      rcases p with ⟨s, d, queue⟩
      rcases p' with ⟨s', d', queue'⟩
      obtain ⟨hs, hd, rfl⟩ := hp
      exact h.committed hs hd _ _ _ _
    · next e p e' p' hr hr' =>
      obtain ⟨rfl, hp⟩ := hbuild
      rw [hr, hr']
      exact ⟨by rw [hp.queue], hp.session⟩
    · exact hbuild.elim

/-- **A job ends alike with two builders that stay related.** -/
theorem run (h : Simulation b b' S D) (job : Job) {world : World} {world' : World'} {d : Draft}
    {d' : Draft'}
    (hs : S { world := world, references := job.settings.references }
      { world := world', references := job.settings.references }) (hd : D d d') :
    (job.run b world d).1 = (job.run b' world' d').1 := by
  have hends := h.exportUnit job.resolver job.settings (without job.dependencies job.unit) job.unit
    hs hd
  unfold Job.run
  generalize Export.exportUnit b _ _ _ _ _ _ = o at hends ⊢
  generalize Export.exportUnit b' _ _ _ _ _ _ = o' at hends ⊢
  rcases o with ⟨f | l, s⟩ <;> rcases o' with ⟨f' | l', s'⟩
  · obtain ⟨rfl, -⟩ := hends
    rfl
  · exact hends.elim
  · exact hends.elim
  · obtain ⟨rfl, hs⟩ := hends
    have hgenerated : s.generated = s'.generated := List.append_cancel_right (h.generated hs)
    simp only [Except.map, hgenerated]

end Simulation

end Builders

end Automation.Export
