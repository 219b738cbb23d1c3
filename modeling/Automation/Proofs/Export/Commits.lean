import Automation.Proofs.Export.Simulation
import Automation.Proofs.Library.Watching

/-!
# What a run commits

A run writes out the libraries that it makes on demand before it is done with the library that needs
them. So a failed run may leave libraries behind: `committed_of_failed` says that they are those
that were made on demand, in order, and `watchedRun_committed` that every run leaves these
and, if it succeeds, its main library.
-/

namespace Automation.Export

open Library Source

variable {World Draft Committed : Type}

/-! ## Accounts -/

/-- The session without what was seen of its builder. -/
def Session.unwatched (s : Session (Watch World Draft Committed) Committed) :
    Session World Committed :=
  { world := s.world.world, questions := s.questions, references := s.references
    generated := s.generated }

@[simp] theorem Session.unwatched_generated
    (s : Session (Watch World Draft Committed) Committed) :
    s.unwatched.generated = s.generated :=
  rfl

/-- A session in which the watched builder has committed the libraries made on demand, and no
others. -/
structure Accounted (s : Session (Watch World Draft Committed) Committed)
    (s' : Session World Committed) : Prop where
  unwatched : s.unwatched = s'
  committed : s.world.committed = s.generated.map (·.library)

/-- A watched builder answers as the builder does, and commits nothing but libraries that are
recorded. -/
theorem simulation_watched (b : Builder World Draft Committed) :
    Simulation b.watched b Accounted Eq where
  references h := by rw [← h.unwatched]; rfl
  generated h := by rw [← h.unwatched]; rfl
  asked q h := by
    obtain ⟨rfl, hc⟩ := h
    exact ⟨rfl, hc⟩
  answered r h hd := by
    obtain ⟨rfl, hc⟩ := h
    obtain rfl := hd
    exact ⟨rfl, ⟨rfl, hc⟩, rfl⟩
  begun h hd := by
    obtain ⟨rfl, hc⟩ := h
    obtain rfl := hd
    exact ⟨⟨rfl, hc⟩, rfl⟩
  committed {s s' d d'} h hd unit attributes exported queue := by
    obtain ⟨rfl, hc⟩ := h
    obtain rfl := hd
    rcases hb : b.commit s.world.world d with ⟨outcome, world⟩
    simp only [finish, Builder.watched, Session.unwatched, hb]
    cases outcome with
    | ok library =>
      refine ⟨rfl, rfl, ?_⟩
      simp only [Session.generate, List.map_append, hc]
      rfl
    | error e =>
      refine ⟨rfl, rfl, ?_⟩
      simpa using hc

/-! ## Runs -/

section Runs

variable (job : Job) (b : Builder World Draft Committed) (world : World) (draft : Draft)

/-- The run of a job with its builder watched from the start. -/
def Job.watchedRun :
    Except Failure (Output Committed) × Session (Watch World Draft Committed) Committed :=
  job.run b.watched { world := world } draft

/-- A watched run ends as the run does. -/
theorem watchedRun_outcome : (job.watchedRun b world draft).1 = (job.run b world draft).1 :=
  (simulation_watched b).run job ⟨rfl, rfl⟩ rfl

theorem Session.generate_inj {s s' : Session World Committed} {l : ExportedLibrary Committed}
    (h : s.generate l = s'.generate l) : s = s' := by
  rcases s with ⟨world, questions, references, generated⟩
  rcases s' with ⟨world', questions', references', generated'⟩
  simpa [Session.generate] using h

/-- What a run leaves behind: the libraries that it made on demand and, unless it fails, its main
library. -/
theorem watchedRun_committed :
    (job.watchedRun b world draft).2.unwatched = (job.run b world draft).2 ∧
      (job.watchedRun b world draft).2.world.committed =
        (job.run b world draft).2.generated.map (·.library) ++
          (job.run b world draft).1.toOption.toList.map (·.main.library) := by
  have hs : Accounted
      { world := ({ world := world } : Watch World Draft Committed)
        references := job.settings.references }
      { world := world, references := job.settings.references } := ⟨rfl, rfl⟩
  have hends := (simulation_watched b).exportUnit job.resolver job.settings
    (without job.dependencies job.unit) job.unit hs (rfl : draft = draft)
  unfold Job.watchedRun Job.run
  generalize exportUnit b.watched _ _ _ _ _ _ = o at hends ⊢
  generalize exportUnit b _ _ _ _ _ _ = o' at hends ⊢
  rcases o with ⟨f | l, s⟩ <;> rcases o' with ⟨f' | l', s'⟩
  · obtain ⟨-, rfl, hc⟩ := hends
    exact ⟨rfl, by simpa [Except.map, Except.toOption] using hc⟩
  · exact hends.elim
  · exact hends.elim
  · obtain ⟨rfl, hl, hc⟩ := hends
    obtain rfl : s.unwatched = s' := Session.generate_inj hl
    refine ⟨rfl, ?_⟩
    simpa [Session.generate, Except.map, Except.toOption] using hc

/-- Nothing is made on demand unless that is asked for. -/
theorem generated_of_error (resolver : Resolver) {settings : Settings} (available : List Reflection)
    (unit : Reflection) (s : Session World Committed)
    (hgenerate : settings.generateReferences = false)
    (h : (exportUnit b resolver settings available unit s draft).1.isOk = false) :
    (exportUnit b resolver settings available unit s draft).2.generated = s.generated := by
  have halike : AnswerAlike b b (fun t t' => t = t' ∧ t.generated = s.generated) Eq :=
    { references := fun h => by rw [h.1]
      generated := fun h => by rw [h.1]
      asked := fun q h => ⟨by rw [h.1], h.2⟩
      answered := fun r h hd => by rw [h.1, hd]; exact ⟨rfl, ⟨rfl, h.1 ▸ h.2⟩, rfl⟩
      begun := fun h hd => by rw [h.1, hd]; exact ⟨⟨rfl, h.1 ▸ h.2⟩, rfl⟩ }
  rw [exportUnit] at h ⊢
  generalize (fun (needed : Reflection) (_ : needed ∈ available) =>
    exportUnit b resolver settings.forDependency (without available needed) needed) = nested at h ⊢
  have huncovered : ∀ needs, InStep (Related (fun t t' => t = t' ∧ t.generated = s.generated) Eq)
      (exportUncovered b settings needs available nested)
      (exportUncovered b settings needs available nested) := by
    intro needs
    unfold exportUncovered
    rw [hgenerate]
    exact inStep_pure _
  have hbuild := halike.build resolver settings unit huncovered
    { session := s, draft := draft, queue := Diagnostic.Queue.empty settings.diagnostics }
    { session := s, draft := draft, queue := Diagnostic.Queue.empty settings.diagnostics }
    ⟨⟨rfl, rfl⟩, rfl, rfl⟩
  rcases hr : (build b resolver settings unit available nested).run
    { session := s, draft := draft, queue := Diagnostic.Queue.empty settings.diagnostics }
    with ⟨exported, p⟩ | ⟨e, p⟩
  all_goals
    rw [hr] at hbuild h
    obtain ⟨-, ⟨-, hp⟩, -, -⟩ := hbuild
  · rcases hc : b.commit p.session.world p.draft with ⟨e | library, world⟩
    · simpa only [finish, hc] using hp
    · simp [finish, hc, Except.isOk, Except.toBool] at h
  · exact hp

/-- **A failed run has committed what it made on demand, and nothing else.** So it commits nothing
exactly if nothing was made on demand before it failed, and in particular if nothing is to be. -/
theorem committed_of_failed (hfailed : (job.run b world draft).1.isOk = false) :
    (job.watchedRun b world draft).2.world.committed =
        (job.run b world draft).2.generated.map (·.library) ∧
      ((job.watchedRun b world draft).2.world.committed = [] ↔
        (job.run b world draft).2.generated = []) ∧
      (job.settings.generateReferences = false →
        (job.watchedRun b world draft).2.world.committed = []) := by
  have hleft : (job.watchedRun b world draft).2.world.committed =
      (job.run b world draft).2.generated.map (·.library) := by
    rw [(watchedRun_committed job b world draft).2]
    cases hr : (job.run b world draft).1 with
    | ok out => simp [hr, Except.isOk, Except.toBool] at hfailed
    | error f => simp [Except.toOption]
  refine ⟨hleft, by rw [hleft, List.map_eq_nil_iff], fun hgenerate => ?_⟩
  rw [hleft, List.map_eq_nil_iff]
  have h := generated_of_error b draft job.resolver (without job.dependencies job.unit) job.unit
    { world := world, references := job.settings.references } hgenerate
  unfold Job.run at hfailed ⊢
  generalize exportUnit b _ _ _ _ _ _ = o at h hfailed ⊢
  rcases o with ⟨f | l, s⟩
  · exact h rfl
  · simp [Except.map, Except.isOk, Except.toBool] at hfailed

end Runs

/-! ## A library left behind -/

/-- A unit whose two records have one identifier, and of which the first has a field of a record of
another unit. That unit is exported before the identifiers are compared. -/
def sharedIdentifiers : Job where
  unit := SourceUnit.reflection
    { identity := { name := "P", version := { major := 1 }, guid := some (Guid.ofBytes [9]) }
      types :=
        [{ space := "N", name := "R", guid := some (Guid.ofBytes [1])
           body := .record [{ name := "x", type := .external ⟨"D", "M", "E", .record⟩ }] },
         { space := "N", name := "S", guid := some (Guid.ofBytes [1]), body := .record [] }] }
  settings := { generateReferences := true }
  dependencies :=
    [SourceUnit.reflection
      { identity := { name := "D", version := { major := 1 }, guid := some (Guid.ofBytes [8]) }
        types := [{ space := "M", name := "E", guid := some (Guid.ofBytes [2]), body := .record [] }] }]

/-- The run fails and has committed the library that it made on demand. -/
theorem sharedIdentifiers_commits :
    (sharedIdentifiers.run Library.Draft.builder () {}).1.isOk = false ∧
      (sharedIdentifiers.watchedRun Library.Draft.builder () {}).2.world.committed.map (·.attributes.name) =
        ["D"] := by
  constructor <;> decide +kernel

/-- What the run leaves behind is what it made on demand. -/
theorem sharedIdentifiers_left :
    (sharedIdentifiers.run Library.Draft.builder () {}).1.isOk = false ∧
      (sharedIdentifiers.watchedRun Library.Draft.builder () {}).2.world.committed =
          (sharedIdentifiers.run Library.Draft.builder () {}).2.generated.map (·.library) ∧
        ((sharedIdentifiers.watchedRun Library.Draft.builder () {}).2.world.committed = [] ↔
          (sharedIdentifiers.run Library.Draft.builder () {}).2.generated = []) ∧
        (sharedIdentifiers.settings.generateReferences = false →
          (sharedIdentifiers.watchedRun Library.Draft.builder () {}).2.world.committed = []) :=
  have hfailed : (sharedIdentifiers.run Library.Draft.builder () {}).1.isOk = false := by
    decide +kernel
  ⟨hfailed, committed_of_failed sharedIdentifiers Library.Draft.builder () {} hfailed⟩

end Automation.Export
