import Automation.Export.Exporter

/-!
# What a part of an export ensures

`Ensures m p done failed` says how `m` ends when it starts with the progress `p`: `done` holds of
its answer and of the progress afterwards, and `failed` of its error. The rules follow the ways in
which an export is put together: `Ensures.bind` for sequences, `ensures_request` for what a builder
is asked, and `ensures_exportNeeded` for exports on demand. `available_induction` is the induction
along these.
-/

namespace Automation.Export

open Library Source

variable {World Draft Committed α β : Type}

/-- How a part of an export ends: with an answer of which `done` holds, or with an error of which
`failed` holds. -/
def Ensures (m : ExportM World Draft Committed α) (p : Progress World Draft Committed)
    (done : α → Progress World Draft Committed → Prop)
    (failed : ExportError → Progress World Draft Committed → Prop) : Prop :=
  match m.run p with
  | .ok a q => done a q
  | .error error q => failed error q

variable {p : Progress World Draft Committed}
  {done : α → Progress World Draft Committed → Prop}
  {failed : ExportError → Progress World Draft Committed → Prop}

theorem ensures_pure {a : α} (h : done a p) : Ensures (pure a) p done failed := h

theorem ensures_throw {error : ExportError} (h : failed error p) :
    Ensures (throw error : ExportM World Draft Committed α) p done failed := h

theorem ensures_get {done : Progress World Draft Committed → Progress World Draft Committed → Prop}
    (h : done p p) : Ensures (get : ExportM World Draft Committed _) p done failed := h

theorem ensures_set {q : Progress World Draft Committed}
    {done : PUnit → Progress World Draft Committed → Prop} (h : done ⟨⟩ q) :
    Ensures (set q : ExportM World Draft Committed PUnit) p done failed := h

theorem ensures_modify {f : Progress World Draft Committed → Progress World Draft Committed}
    {done : PUnit → Progress World Draft Committed → Prop} (h : done ⟨⟩ (f p)) :
    Ensures (modify f : ExportM World Draft Committed PUnit) p done failed := h

/-- The rule of sequences: what holds between the parts is enough for the second part. -/
theorem Ensures.bind {m : ExportM World Draft Committed α} {f : α → ExportM World Draft Committed β}
    {between : α → Progress World Draft Committed → Prop}
    {done : β → Progress World Draft Committed → Prop}
    (h : Ensures m p between failed)
    (hf : ∀ a q, between a q → Ensures (f a) q done failed) : Ensures (m >>= f) p done failed := by
  unfold Ensures at h ⊢
  rw [EStateM.run_bind]
  cases hm : m.run p with
  | ok a q =>
    rw [hm] at h
    exact hf a q h
  | error error q =>
    rw [hm] at h
    exact h

/-- The rule of consequence. -/
theorem Ensures.imp {m : ExportM World Draft Committed α}
    {done' : α → Progress World Draft Committed → Prop}
    {failed' : ExportError → Progress World Draft Committed → Prop} (h : Ensures m p done failed)
    (hd : ∀ a q, done a q → done' a q) (hf : ∀ e q, failed e q → failed' e q) :
    Ensures m p done' failed' := by
  unfold Ensures at h ⊢
  cases hm : m.run p with
  | ok a q =>
    rw [hm] at h
    exact hd a q h
  | error e q =>
    rw [hm] at h
    exact hf e q h

/-- Two facts about one part are one fact. -/
theorem Ensures.and {m : ExportM World Draft Committed α}
    {done' : α → Progress World Draft Committed → Prop}
    {failed' : ExportError → Progress World Draft Committed → Prop} (h : Ensures m p done failed)
    (h' : Ensures m p done' failed') :
    Ensures m p (fun a q => done a q ∧ done' a q) fun e q => failed e q ∧ failed' e q := by
  unfold Ensures at h h' ⊢
  cases hm : m.run p with
  | ok a q =>
    rw [hm] at h h'
    exact ⟨h, h'⟩
  | error e q =>
    rw [hm] at h h'
    exact ⟨h, h'⟩

theorem Ensures.of_ok {m : ExportM World Draft Committed α} (h : Ensures m p done failed) {a : α}
    {q : Progress World Draft Committed} (hm : m.run p = .ok a q) : done a q := by
  unfold Ensures at h
  rwa [hm] at h

theorem Ensures.of_error {m : ExportM World Draft Committed α} (h : Ensures m p done failed)
    {e : ExportError} {q : Progress World Draft Committed} (hm : m.run p = .error e q) :
    failed e q := by
  unfold Ensures at h
  rwa [hm] at h

theorem ensures_ofExcept {x : Except ExportError α} (ok : ∀ a, x = .ok a → done a p)
    (error : ∀ e, x = .error e → failed e p) :
    Ensures (MonadExcept.ofExcept x : ExportM World Draft Committed α) p done failed := by
  cases x with
  | ok a => exact ok a rfl
  | error e => exact error e rfl

theorem ensures_remark {r : Remark} {done : Unit → Progress World Draft Committed → Prop}
    (h : done () (p.note r)) : Ensures (remark r) p done failed := h

/-! ## Requests and scripts -/

/-- The progress after a builder was asked. -/
def Progress.asked (p : Progress World Draft Committed) (world : World) (draft : Draft) :
    Progress World Draft Committed :=
  { p with session := { p.session with world := world }, draft := draft }

theorem request_run_ok {b : Builder World Draft Committed} {context : String} {kind : ReplyKind}
    {r : Request kind} {answer : kind.Answer} {world : World} {draft : Draft}
    (h : b.answer r p.session.world p.draft = (.ok answer, world, draft)) :
    (request b context r).run p = .ok answer (p.asked world draft) := by
  simp only [request, EStateM.run, h, Progress.asked]

theorem request_run_error {b : Builder World Draft Committed} {context : String} {kind : ReplyKind}
    {r : Request kind} {error : BuildError} {world : World} {draft : Draft}
    (h : b.answer r p.session.world p.draft = (.error error, world, draft)) :
    (request b context r).run p = .error (.build context error) (p.asked world draft) := by
  simp only [request, EStateM.run, h, Progress.asked]

/-- The rule of requests: an accepted one goes on, a rejected one is the error of the export. -/
theorem ensures_request {b : Builder World Draft Committed} {context : String} {kind : ReplyKind}
    {r : Request kind} {done : kind.Answer → Progress World Draft Committed → Prop}
    (accepted : ∀ answer world draft, b.answer r p.session.world p.draft = (.ok answer, world, draft) →
      done answer (p.asked world draft))
    (rejected : ∀ error world draft,
      b.answer r p.session.world p.draft = (.error error, world, draft) →
      failed (.build context error) (p.asked world draft)) :
    Ensures (request b context r) p done failed := by
  unfold Ensures
  rcases h : b.answer r p.session.world p.draft with ⟨outcome, world, draft⟩
  cases outcome with
  | ok answer =>
    rw [request_run_ok h]
    exact accepted answer world draft h
  | error error =>
    rw [request_run_error h]
    exact rejected error world draft h

theorem perform_append (b : Builder World Draft Committed) (first second : List Step) :
    perform b (first ++ second) = perform b first >>= fun _ => perform b second := by
  induction first with
  | nil => rfl
  | cons step later ih =>
    cases step with
    | remark r => simp only [List.cons_append, perform, ih, bind_assoc]
    | request context r => simp only [List.cons_append, perform, ih, bind_assoc]
    | abort e => rfl

/-! ## Exports on demand -/

/-- The session with a further library that was made on demand. -/
def Session.generate (s : Session World Committed) (l : ExportedLibrary Committed) :
    Session World Committed :=
  { s with references := s.references ++ [l.reference], generated := s.generated ++ [l] }

/-- Whether a library of the session comes from the unit. -/
def Session.covers (s : Session World Committed) (unit : String) : Bool :=
  s.generated.any (fun l => l.unit == unit) || s.references.any fun l => l.unit == unit

theorem covers_generate (s : Session World Committed) (l : ExportedLibrary Committed)
    (name : String) : (s.generate l).covers name = (s.covers name || l.unit == name) := by
  have hreference : l.reference.unit = l.unit := rfl
  simp only [Session.generate, Session.covers, List.any_append, List.any_cons, List.any_nil,
    Bool.or_false, hreference]
  cases s.generated.any (fun l => l.unit == name) <;> cases l.unit == name <;> simp

/-- The session in which a library is begun beside the one of the progress. -/
def Progress.begin (p : Progress World Draft Committed) (b : Builder World Draft Committed) :
    Session World Committed :=
  { p.session with world := (b.newLibrary p.session.world p.draft).1 }

/-- The progress after the library of a unit was made on demand, which left the session `s`. -/
def Progress.generate (p : Progress World Draft Committed) (unit : String)
    (s : Session World Committed) (l : ExportedLibrary Committed) :
    Progress World Draft Committed :=
  { p with
    session := s.generate l
    queue := p.queue.raise (dependencyExported unit l.attributes.name) }

/-- The rule of exports on demand: nothing happens if the unit has a library or is not available;
else it is exported, and its failure is one of the export that needs it. -/
theorem ensures_exportNeeded {b : Builder World Draft Committed} {available : List Reflection}
    {exportUnit : (unit : Reflection) → unit ∈ available → Session World Committed → Draft →
      UnitOutcome World Committed}
    {type : ExternalType} {done : Unit → Progress World Draft Committed → Prop}
    (skipped : p.session.covers type.unit = true ∨
      (∀ unit ∈ available, unit.identity.name ≠ type.unit) → done () p)
    (failure : ∀ unit hm f s, p.session.covers type.unit = false → unit.identity.name = type.unit →
      exportUnit unit hm (p.begin b) (b.newLibrary p.session.world p.draft).2 = (.error f, s) →
      failed (.dependency type.unit f.error f.diagnostics) { p with session := s })
    (success : ∀ unit hm l s, p.session.covers type.unit = false → unit.identity.name = type.unit →
      exportUnit unit hm (p.begin b) (b.newLibrary p.session.world p.draft).2 = (.ok l, s) →
      done () (p.generate type.unit s l)) :
    Ensures (exportNeeded b available exportUnit type) p done failed := by
  refine Ensures.bind (ensures_get ?_) fun _ _ h => h
  dsimp only
  split
  · next hcovered => exact ensures_pure (skipped (.inl hcovered))
  · next hcovered =>
    split
    · next hfind => exact ensures_pure (skipped (.inr fun unit hm => by
        simpa using List.find?_eq_none.mp hfind unit hm))
    · next unit hfind =>
      have hm : unit ∈ available := List.mem_of_find?_eq_some hfind
      have hname : unit.identity.name = type.unit := by
        simpa using List.find?_some hfind
      have hcovers : p.session.covers type.unit = false := by
        simpa [Session.covers] using hcovered
      rcases hn : exportUnit unit hm (p.begin b) (b.newLibrary p.session.world p.draft).2
        with ⟨outcome, s⟩
      unfold Progress.begin at hn
      rw [hn]
      refine Ensures.bind (ensures_set ?_) fun _ _ h => h
      cases outcome with
      | error f => exact ensures_throw (failure unit hm f s hcovers hname hn)
      | ok l =>
        exact Ensures.bind (ensures_remark (ensures_modify (success unit hm l s hcovers hname hn)))
          fun _ _ h => h

/-- The rule of exports on demand in turn: an invariant that each of them keeps holds at the end. -/
theorem ensures_exportUncovered {b : Builder World Draft Committed} {settings : Settings}
    {needs : Needs} {available : List Reflection}
    {exportUnit : (unit : Reflection) → unit ∈ available → Session World Committed → Draft →
      UnitOutcome World Committed}
    {I : Progress World Draft Committed → Prop}
    (failure : ∀ q name unit hm f s, q.session.covers name = false → unit.identity.name = name →
      I q → exportUnit unit hm (q.begin b) (b.newLibrary q.session.world q.draft).2 = (.error f, s) →
      failed (.dependency name f.error f.diagnostics) { q with session := s })
    (success : ∀ q name unit hm l s, q.session.covers name = false → unit.identity.name = name →
      I q → exportUnit unit hm (q.begin b) (b.newLibrary q.session.world q.draft).2 = (.ok l, s) →
      I (q.generate name s l))
    (h : I p) :
    Ensures (exportUncovered b settings needs available exportUnit) p (fun _ => I) failed := by
  unfold exportUncovered
  split
  · refine Ensures.bind (ensures_get ?_) fun _ _ h => h
    dsimp only
    generalize needs.external.filter _ = types
    induction types generalizing p with
    | nil => exact h
    | cons type later ih =>
      refine Ensures.bind (ensures_exportNeeded (fun _ => h) (fun unit hm f s hcovers hname hf => ?_)
        fun unit hm l s hcovers hname hl => ?_) fun _ q hq => ih hq
      · exact failure p type.unit unit hm f s hcovers hname h hf
      · exact success p type.unit unit hm l s hcovers hname h hl
  · exact h

/-! ### Fewer and fewer units -/

theorem without_subset {available units : List Reflection} (h : available ⊆ units)
    (unit : Reflection) : without available unit ⊆ units :=
  fun _ hother => h (List.filter_sublist.subset hother)

theorem name_ne_of_mem_without {available : List Reflection} {unit other : Reflection}
    (h : other ∈ without available unit) : other.identity.name ≠ unit.identity.name := by
  simpa using (List.mem_filter.mp h).2

/-- The units that are available on demand get fewer from export to export: what holds of some if it
holds of those that are still available to each export among them holds of any. -/
theorem available_induction {motive : List Reflection → Prop}
    (step : ∀ available, (∀ needed ∈ available, motive (without available needed)) →
      motive available)
    (available : List Reflection) : motive available := by
  induction hn : available.length using Nat.strongRecOn generalizing available with
  | ind n ih => exact step available fun _ hm => ih _ (hn ▸ length_without_lt hm) _ rfl

end Automation.Export
