import Automation.Proofs.Export.Reasons
import Automation.Proofs.Export.Supplying

/-!
# What a failure reports

A failed run hands over its diagnostics with the error as the last one. The queue that the error
goes through may refuse what is raised, so it has to be shown that it never refuses the error: all
that an export says before it is mild, and an error repeats nothing mild
(`Queue.diagnostics_raise_of_isCalm`). `reported_run` concludes for runs with any builder that every
failure, however deeply nested, reports its error once and at the end, and that libraries that are
written out come without errors.
-/

namespace Automation

namespace Diagnostic

/-! ## Calm queues -/

/-- What an export survives: no error, with a code that ends no export. -/
def Survivable (d : Diagnostic) : Prop := d.isError = false ∧ d.code.isFatal = false

/-- Everything in the queue is survivable. -/
def Queue.IsCalm (q : Queue) : Prop := ∀ d ∈ q.diagnostics, d.Survivable

theorem Queue.isCalm_empty (policy : Policy) : (Queue.empty policy).IsCalm :=
  fun _ h => (List.not_mem_nil h).elim

theorem Queue.IsCalm.raise {q : Queue} (h : q.IsCalm) {d : Diagnostic} (hd : d.Survivable) :
    (q.raise d).IsCalm := by
  intro e he
  rcases (Queue.mem_of_mem_addAll he : _ ∨ e ∈ [d]) with he | he
  · exact h e he
  · exact List.mem_singleton.mp he ▸ hd

/-- **A calm queue accepts an error**: the limit is on warnings, and nothing queued has its code. -/
theorem Queue.diagnostics_raise_of_isCalm {q : Queue} (h : q.IsCalm) {d : Diagnostic}
    (herror : d.isError) (hfatal : d.code.isFatal = true) :
    (q.raise d).diagnostics = q.diagnostics ++ [d] := by
  have hnew : ¬q.isRepetition d := by
    intro hknown
    obtain ⟨-, e, he, hkey⟩ := Queue.isRepetition_iff.mp hknown
    have hcode : e.code = d.code := congrArg Prod.fst hkey
    rw [← hcode, (h e he).2] at hfatal
    exact Bool.noConfusion hfatal
  rw [Queue.raise, Queue.add_of_not_isRepetition (q.not_overLimit_of_isError herror) hnew]
  rfl

end Diagnostic

namespace Export

open Library Source Diagnostic

variable {World Draft Committed : Type}

/-! ## Complete reports -/

/-- The failures of units that are needed, from the outside in. -/
def ExportError.causes : ExportError → List Failure
  | .dependency _ cause diagnostics => ⟨cause, diagnostics⟩ :: cause.causes
  | .load _ | .missingType _ | .duplicateLibrary _ _ | .duplicateType _ _ _ | .build _ _
  | .internal _ => []

theorem ExportError.isFatal_code (e : ExportError) : e.code.isFatal = true := by
  induction e with
  | dependency unit cause diagnostics ih => exact ih
  | load | missingType | duplicateLibrary | duplicateType | build | internal => rfl

theorem ExportError.code_root (e : ExportError) : e.root.code = e.code := by
  induction e with
  | dependency unit cause diagnostics ih => exact ih
  | load | missingType | duplicateLibrary | duplicateType | build | internal => rfl

/-- The innermost error has no causes. -/
theorem ExportError.causes_root (e : ExportError) : e.root.causes = [] := by
  induction e with
  | dependency unit cause diagnostics ih => exact ih
  | load | missingType | duplicateLibrary | duplicateType | build | internal => rfl

/-- **A failure with a complete report**: its error is the last diagnostic and the only error, with
the code of the failure, which is that of the innermost error. -/
structure Failure.IsComplete (f : Failure) : Prop where
  last : f.diagnostics.getLast? = some f.error.diagnostic
  only : f.diagnostics.filter (·.isError) = [f.error.diagnostic]
  code : f.error.diagnostic.code = f.error.code
  innermost : f.error.code = f.error.root.code

theorem isComplete_failure {queue : Queue} (h : queue.IsCalm) (e : ExportError) :
    (failure queue e).IsComplete := by
  have hdiagnostics : (failure queue e).diagnostics = queue.diagnostics ++ [e.diagnostic] :=
    Queue.diagnostics_raise_of_isCalm h rfl e.isFatal_code
  have hcalm : queue.diagnostics.filter (·.isError) = [] :=
    List.filter_eq_nil_iff.mpr fun d hd => by simp [(h d hd).1]
  refine ⟨?_, ?_, rfl, e.code_root.symm⟩
  · rw [hdiagnostics, List.getLast?_concat]
    rfl
  · rw [hdiagnostics, List.filter_append, hcalm]
    rfl

/-- The failure and those of the units that are needed are completely reported. -/
def Failure.IsReported (f : Failure) : Prop := ∀ g ∈ f :: f.error.causes, g.IsComplete

/-- Nothing said about the library is an error. -/
def ExportedLibrary.IsCalm (l : ExportedLibrary Committed) : Prop :=
  ∀ d ∈ l.diagnostics, d.severity ≠ .error

/-! ## What is said is survivable -/

theorem survivable_of_isMild {codes : List Code} (hcodes : ∀ c ∈ codes, c.isFatal = false)
    {d : Diagnostic} (h : IsMild codes d) : d.Survivable := ⟨h.2, hcodes _ h.1⟩

theorem survivable_nameTypes {resolver : Resolver} {classified : List Classified} {d : Diagnostic}
    (h : Step.remark (.raised d) ∈ (nameTypes resolver classified).2) : d.Survivable :=
  survivable_of_isMild (by decide) (@allOf_nameTypes .attributes resolver classified _ h)

theorem survivable_contents {s : Setting} {placed : List Placed} {d : Diagnostic}
    (h : Step.remark (.raised d) ∈ (contents s placed).2) : d.Survivable := by
  rw [contents_eq, passes_eq, List.mem_append, List.mem_append] at h
  rcases h with (h | h) | h
  · have hinheritance : AllOf .inheritance inheritanceCodes
      (placed.flatMap (inheritanceSteps s.scope)) := allOf_flatMap fun p _ => allOf_inheritance _ p
    exact survivable_of_isMild (by decide) (hinheritance _ h)
  · exact survivable_of_isMild (by decide) (allOf_memberPasses s placed _ h)
  · obtain ⟨t, -, hlayout⟩ := List.mem_map.mp h
    exact Step.noConfusion hlayout

/-! ## Units -/

/-- So far nothing was said of the library that is not survivable, and nothing that is an error of
those that were made on demand. -/
structure Progress.IsCalm (p : Progress World Draft Committed) : Prop where
  queue : p.queue.IsCalm
  generated : ∀ l ∈ p.session.generated, l.IsCalm

variable (b : Builder World Draft Committed) {p : Progress World Draft Committed}

/-- What goes into a library by itself is said calmly, and its failure has no causes. -/
theorem ensures_buildReferring_isCalm (resolver : Resolver) (settings : Settings)
    {unit : Reflection} {classified : List Classified}
    (hclassify : classify unit unit.ids = .ok classified) (hp : p.IsCalm) :
    Ensures (buildReferring b resolver settings unit classified) p (fun _ q => q.IsCalm)
      fun e q => q.queue.IsCalm ∧ e.causes = [] := by
  have hkeepsUp : KeepsUp b b fun q q' => q = q' ∧ q.IsCalm := by
    rintro kind r q _ ⟨rfl, hq⟩
    exact ⟨rfl, rfl, hq.queue, hq.generated⟩
  have hkeptBy : ∀ steps : List Step, (∀ d, Step.remark (.raised d) ∈ steps → d.Survivable) →
      KeptBy (fun q q' : Progress World Draft Committed => q = q' ∧ q.IsCalm) steps := by
    rintro steps hsteps r hr q _ ⟨rfl, hq⟩
    cases r with
    | asked question => exact ⟨rfl, hq.queue, hq.generated⟩
    | raised d => exact ⟨rfl, hq.queue.raise (hsteps d hr), hq.generated⟩
  have hcalm : InStep (fun q q' : Progress World Draft Committed => q = q' ∧ q.IsCalm)
      (buildReferring b resolver settings unit classified)
      (buildReferring b resolver settings unit classified) := by
    refine hkeepsUp.buildReferring ?_ rfl rfl (hkeptBy _ fun _ => survivable_nameTypes)
      fun _ _ => hkeptBy _ fun _ => survivable_contents
    rintro q _ ⟨rfl, -⟩
    rfl
  have hunit : unit ∈ [unit] := List.mem_cons_self
  refine ((hcalm.ensures hp).and (ensures_buildReferring_reason b hunit hclassify)).imp
    (fun _ _ h => h.1) fun e _ h => ⟨h.1.queue, ?_⟩
  rw [← h.2.root_eq, e.causes_root]

/-- What is known of the export of a unit: a failure is completely reported, and else nothing said of
the libraries so far is an error. -/
def UnitReported : UnitOutcome World Committed → Prop
  | (.ok l, s) => l.IsCalm ∧ ∀ l' ∈ s.generated, l'.IsCalm
  | (.error f, _) => f.IsReported

/-- A unit is built calmly, and the failures of units that it needs are completely reported, if all
units that it may need are. -/
theorem ensures_build_isCalm (resolver : Resolver) (settings : Settings) (unit : Reflection)
    {available : List Reflection}
    {nested : (needed : Reflection) → needed ∈ available → Session World Committed → Draft →
      UnitOutcome World Committed}
    (hnested : ∀ (q : Progress World Draft Committed) (_ : q.IsCalm) needed (hm : needed ∈ available),
      UnitReported (nested needed hm (q.begin b) (b.newLibrary q.session.world q.draft).2))
    (hp : p.IsCalm) :
    Ensures (build b resolver settings unit available nested) p (fun _ q => q.IsCalm)
      fun e q => q.queue.IsCalm ∧ ∀ g ∈ e.causes, g.IsComplete := by
  rw [build_eq]
  refine Ensures.bind (ensures_ofExcept (fun _ h => ⟨h, hp⟩) fun e he => ?_ : Ensures _ p
    (fun classified q => classify unit unit.ids = .ok classified ∧ q.IsCalm) _) ?_
  · obtain ⟨id, -, -, rfl⟩ := missing_of_classify he
    exact ⟨hp.queue, fun _ h => (List.not_mem_nil h).elim⟩
  rintro classified q ⟨hclassify, hq⟩
  refine Ensures.bind (ensures_exportUncovered ?_ ?_ hq : Ensures _ q (fun _ r => r.IsCalm) _)
    fun _ r hr => ?_
  · intro r name needed hm f s _ _ hr hf
    exact ⟨hr.queue, (hf ▸ hnested r hr needed hm : UnitReported (.error f, s))⟩
  · intro r name needed hm l s _ _ hr hl
    have hl : UnitReported (.ok l, s) := hl ▸ hnested r hr needed hm
    exact ⟨hr.queue.raise ⟨rfl, rfl⟩,
      List.forall_mem_append.mpr ⟨hl.2, List.forall_mem_singleton.mpr hl.1⟩⟩
  exact (ensures_buildReferring_isCalm b resolver settings hclassify hr).imp
    (fun _ _ h => h) fun e _ h => ⟨h.1, by simp [h.2]⟩

/-- **The export of a unit is completely reported**, whatever is exported on demand on the way. -/
theorem unitReported_exportUnit (resolver : Resolver) (settings : Settings)
    (available : List Reflection) (unit : Reflection) {s : Session World Committed} (d : Draft)
    (hs : ∀ l ∈ s.generated, l.IsCalm) :
    UnitReported (exportUnit b resolver settings available unit s d) := by
  induction available using available_induction generalizing settings unit s d with
  | step available ih =>
    have hstart : (⟨s, d, .empty settings.diagnostics⟩ : Progress World Draft Committed).IsCalm :=
      ⟨Queue.isCalm_empty _, hs⟩
    have hbuild : Ensures (build b resolver settings unit available fun needed _ =>
        exportUnit b resolver settings.forDependency (without available needed) needed) _ _ _ :=
      ensures_build_isCalm b resolver settings unit (fun q hq needed hm =>
        ih needed hm settings.forDependency needed _ hq.generated) hstart
    rw [exportUnit]
    cases hresult : (build b resolver settings unit available _).run _ with
    | error e r =>
      obtain ⟨hqueue, hcauses⟩ := hbuild.of_error hresult
      exact List.forall_mem_cons.mpr ⟨isComplete_failure hqueue e, hcauses⟩
    | ok exported r =>
      have hr := hbuild.of_ok hresult
      rcases hcommit : b.commit r.session.world r.draft with ⟨error | l, world⟩
      · simp only [finish, hcommit]
        exact List.forall_mem_singleton.mpr (isComplete_failure hr.queue _)
      · simp only [finish, hcommit]
        refine ⟨fun e he hsevere => ?_, hr.generated⟩
        have hmild := (hr.queue e he).1
        simp [isError, hsevere] at hmild

/-! ## Runs -/

/-- **Failures are completely reported.** Whatever the builder answers and whatever the settings
refuse to report, a run that fails has its error as the last of the diagnostics and the only error
among them, and so have the failures of units that are needed; and none of the libraries that a run
writes out comes with an error. -/
theorem reported_run (job : Job) (world : World) (draft : Draft) :
    (∀ f, (job.run b world draft).1 = .error f → ∀ g ∈ f :: f.error.causes, g.IsComplete) ∧
      ∀ out, (job.run b world draft).1 = .ok out →
        ∀ l ∈ out.main :: out.dependencies, ∀ d ∈ l.diagnostics, d.severity ≠ .error := by
  have hreported := unitReported_exportUnit b job.resolver job.settings
    (without job.dependencies job.unit) job.unit draft
    (s := { world := world, references := job.settings.references })
    fun _ h => (List.not_mem_nil h).elim
  unfold Job.run
  rcases hrun : exportUnit b job.resolver job.settings (without job.dependencies job.unit) job.unit
    { world := world, references := job.settings.references } draft with ⟨f | l, s⟩
  · rw [hrun] at hreported
    refine ⟨fun g hg => ?_, fun out hout => Except.noConfusion rfl rfl (heq_of_eq hout)⟩
    exact Except.error.inj hg ▸ hreported
  · rw [hrun] at hreported
    refine ⟨fun g hg => Except.noConfusion rfl rfl (heq_of_eq hg), fun out hout => ?_⟩
    rw [← Except.ok.inj hout]
    exact List.forall_mem_cons.mpr hreported

/-- A unit with a record that has fields of a type of another unit and of a type that is nowhere. The
other unit has two records, with one identifier or with two. Few warnings are kept. -/
def convoy (isTwin : Bool) : Job where
  unit := SourceUnit.reflection
    { identity := { name := "Convoy", version := { major := 1 }, guid := some (Guid.ofBytes [9]) }
      types :=
        [{ space := "N", name := "Ship", guid := some (Guid.ofBytes [1])
           body := .record
             [{ name := "cargo", type := .external ⟨"Cargo", "M", "Crate", .record⟩ },
              { name := "captain", type := .external ⟨"Crew", "M", "Captain", .record⟩ }] }] }
  settings := { generateReferences := true, diagnostics := { warningLimit := 1 } }
  dependencies :=
    [SourceUnit.reflection
      { identity := { name := "Cargo", version := { major := 1 }, guid := some (Guid.ofBytes [8]) }
        types :=
          [{ space := "M", name := "Crate", guid := some (Guid.ofBytes [2]), body := .record [] },
           { space := "M", name := "Barrel"
             guid := some (Guid.ofBytes [if isTwin then 2 else 3]), body := .record [] }] }]

/-- With one identifier the run fails, and so does the export of the unit that is needed; with two it
succeeds. -/
theorem convoy_reported :
    (∃ f cause, (convoy true).toMemory = .error f ∧ f.error.causes = [cause] ∧ f.IsComplete ∧
      cause.IsComplete) ∧
    ∃ out, (convoy false).toMemory = .ok out ∧ out.main.diagnostics.length = 2 ∧
      ∀ l ∈ out.main :: out.dependencies, ∀ d ∈ l.diagnostics, d.severity ≠ .error := by
  constructor
  · have hview : (convoy true).error?.map (·.causes.length) = some 1 := by decide +kernel
    obtain ⟨e, he, hcauses⟩ := Option.map_eq_some_iff.mp hview
    obtain ⟨f, hf, rfl⟩ := Job.exists_failure he
    obtain ⟨cause, hcause⟩ := List.length_eq_one_iff.mp hcauses
    have hcomplete := (reported_run Draft.builder (convoy true) () {}).1 f hf
    rw [hcause, List.forall_mem_cons, List.forall_mem_singleton] at hcomplete
    exact ⟨f, cause, hf, hcause, hcomplete⟩
  · obtain ⟨out, hout, hlength⟩ : ∃ out, (convoy false).toMemory = .ok out ∧
        out.main.diagnostics.length = 2 := Job.exists_output (by decide +kernel)
    exact ⟨out, hout, hlength, (reported_run Draft.builder (convoy false) () {}).2 out hout⟩

end Export

end Automation
