import Automation.Proofs.Export.Coupling
import Mathlib.Data.List.Forall2

/-!
# Diagnostics are only reported

What an export makes does not depend on which diagnostics its queues keep, and a queue that refuses
some keeps a part of what one keeps that refuses none. `unlimitedCoupling` couples the runs of a job
under a policy and under the one that refuses nothing. Two policies are compared by way of that one, in
`bare_run_under`.
-/

namespace Automation

namespace Diagnostic

/-- The first queue holds a part of what the second one holds, and the second one refuses nothing. -/
structure Queue.Within (q q' : Queue) : Prop where
  unlimited : q'.policy = .unlimited
  diagnostics : q.diagnostics.Sublist q'.diagnostics

theorem Queue.Within.empty (policy : Policy) :
    (Queue.empty policy).Within (Queue.empty .unlimited) :=
  ⟨rfl, List.Sublist.refl _⟩

/-- Without limits, every diagnostic is queued. -/
theorem Queue.diagnostics_raise_unlimited {q : Queue} (h : q.policy = .unlimited)
    (d : Diagnostic) : (q.raise d).diagnostics = q.diagnostics ++ [d] := by
  have hlimit : ¬q.overLimit d := by simp [Queue.overLimit, h, Policy.unlimited]
  have hnew : ¬q.isRepetition d := by simp [Queue.isRepetition, h, Policy.unlimited]
  rw [Queue.raise, Queue.add_of_not_isRepetition hlimit hnew]
  rfl

/-- Without limits, all diagnostics are queued. -/
theorem Queue.diagnostics_addAll_unlimited {q : Queue} (h : q.policy = .unlimited)
    (ds : List Diagnostic) : (q.addAll ds).diagnostics = q.diagnostics ++ ds := by
  induction ds generalizing q with
  | nil => exact (List.append_nil _).symm
  | cons d later ih =>
    calc ((q.raise d).addAll later).diagnostics = (q.raise d).diagnostics ++ later :=
          ih ((q.policy_raise d).trans h)
      _ = q.diagnostics ++ d :: later := by
          rw [diagnostics_raise_unlimited h, List.append_assoc, List.singleton_append]

/-- A diagnostic is queued at the end or not at all. -/
theorem Queue.sublist_raise (q : Queue) (d : Diagnostic) :
    (q.raise d).diagnostics.Sublist (q.diagnostics ++ [d]) := by
  rcases q.raise_cases d with h | h | h <;> rw [h]
  · exact List.sublist_append_left _ _
  · exact List.sublist_append_left _ _
  · exact List.Sublist.refl _

theorem Queue.Within.raise {q q' : Queue} (h : q.Within q') (d : Diagnostic) :
    (q.raise d).Within (q'.raise d) where
  unlimited := (q'.policy_raise d).trans h.unlimited
  diagnostics := by
    rw [diagnostics_raise_unlimited h.unlimited]
    exact (q.sublist_raise d).trans (h.diagnostics.append (List.Sublist.refl _))

end Diagnostic

namespace Export

open Library Source

variable {World Draft Committed : Type}

/-! ## Without diagnostics -/

/-- The error without the diagnostics nested in it. -/
def ExportError.bare : ExportError → ExportError
  | dependency unit cause _ => dependency unit cause.bare []
  | error => error

/-- The diagnostics nested in an error: those of the unit that is needed, and so on inwards. -/
def ExportError.nested : ExportError → List (List Diagnostic)
  | dependency _ cause diagnostics => diagnostics :: cause.nested
  | _ => []

theorem ExportError.message_bare (e : ExportError) : e.bare.message = e.message := by
  induction e with
  | dependency unit cause diagnostics ih => unfold bare message; rw [ih]
  | load | missingType | duplicateLibrary | duplicateType | build | internal => rfl

theorem ExportError.code_bare (e : ExportError) : e.bare.code = e.code := by
  induction e with
  | dependency unit cause diagnostics ih => exact ih
  | load | missingType | duplicateLibrary | duplicateType | build | internal => rfl

/-- An error is reported without what is nested in it. -/
theorem ExportError.diagnostic_bare (e : ExportError) : e.bare.diagnostic = e.diagnostic := by
  have hsubject : e.bare.subject? = e.subject? := by cases e <;> rfl
  simp only [diagnostic, message_bare, code_bare, hsubject]

/-- The library without its diagnostics. -/
def ExportedLibrary.bare (l : ExportedLibrary Committed) : ExportedLibrary Committed :=
  { l with diagnostics := [] }

/-- The output without diagnostics. -/
def Output.bare (out : Output Committed) : Output Committed where
  main := out.main.bare
  dependencies := out.dependencies.map ExportedLibrary.bare

/-- The outcome without diagnostics. -/
def bareOutcome : Except Failure (Output Committed) → Except ExportError (Output Committed)
  | .ok out => .ok out.bare
  | .error f => .error f.error.bare

/-! ## Fewer diagnostics -/

/-- The libraries are the same, and the diagnostics of the first are some of the second, in order. -/
structure ExportedLibrary.Within (l l' : ExportedLibrary Committed) : Prop where
  bare : l.bare = l'.bare
  diagnostics : l.diagnostics.Sublist l'.diagnostics

theorem ExportedLibrary.Within.reference {l l' : ExportedLibrary Committed} (h : l.Within l') :
    l.reference = l'.reference :=
  calc l.reference
    _ = l.bare.reference := rfl
    _ = l'.bare.reference := by rw [h.bare]
    _ = l'.reference := rfl

theorem ExportedLibrary.Within.attributes {l l' : ExportedLibrary Committed} (h : l.Within l') :
    l.attributes = l'.attributes := (ExportedLibrary.mk.inj h.bare).2.2.1

/-- The errors are the same, and the diagnostics nested in the first are some of those in the second. -/
structure ExportError.Within (e e' : ExportError) : Prop where
  bare : e.bare = e'.bare
  nested : List.Forall₂ List.Sublist e.nested e'.nested

theorem ExportError.Within.refl (e : ExportError) : e.Within e :=
  ⟨rfl, List.forall₂_same.mpr fun _ _ => List.Sublist.refl _⟩

theorem ExportError.Within.diagnostic {e e' : ExportError} (h : e.Within e') :
    e.diagnostic = e'.diagnostic := by
  rw [← e.diagnostic_bare, h.bare, e'.diagnostic_bare]

/-- The failures have the same error, and the diagnostics of the first are some of the second. -/
structure Failure.Within (f f' : Failure) : Prop where
  error : f.error.Within f'.error
  diagnostics : f.diagnostics.Sublist f'.diagnostics

theorem failure_within {q q' : Diagnostic.Queue} {e e' : ExportError} (hq : q.Within q')
    (he : e.Within e') : (failure q e).Within (failure q' e') where
  error := he
  diagnostics := by
    unfold failure
    rw [he.diagnostic]
    exact (hq.raise _).diagnostics

/-- The diagnostics of the first outcome are some of those of the second, which has the same libraries
or the same error. -/
def OutcomeWithin : Except Failure (Output Committed) → Except Failure (Output Committed) → Prop
  | .ok out, .ok out' =>
    out.main.Within out'.main ∧
      List.Forall₂ ExportedLibrary.Within out.dependencies out'.dependencies
  | .error f, .error f' => f.Within f'
  | _, _ => False

theorem map_bare_congr {ls ls' : List (ExportedLibrary Committed)}
    (h : List.Forall₂ ExportedLibrary.Within ls ls') :
    ls.map ExportedLibrary.bare = ls'.map ExportedLibrary.bare := by
  rw [← List.forall₂_eq_eq_eq, List.forall₂_map_left_iff, List.forall₂_map_right_iff]
  exact h.imp fun _ _ h => h.bare

theorem OutcomeWithin.bareOutcome {o o' : Except Failure (Output Committed)}
    (h : OutcomeWithin o o') : bareOutcome o = bareOutcome o' := by
  cases o <;> cases o'
  · exact congrArg Except.error h.error.bare
  · exact h.elim
  · exact h.elim
  · obtain ⟨hmain, hdependencies⟩ := h
    simp only [Export.bareOutcome, Output.bare, hmain.bare, map_bare_congr hdependencies]

/-! ## Runs under two policies -/

/-- The sessions are the same, but for diagnostics of the libraries that were made on demand. -/
structure Session.Within (s s' : Session World Committed) : Prop where
  world : s.world = s'.world
  questions : s.questions = s'.questions
  references : s.references = s'.references
  generated : List.Forall₂ ExportedLibrary.Within s.generated s'.generated

theorem Session.Within.covers {s s' : Session World Committed} (h : s.Within s') (name : String) :
    s.covers name = s'.covers name := by
  have hgenerated : ∀ s : Session World Committed, (s.generated.any fun l => l.unit == name) =
      (s.generated.map ExportedLibrary.bare).any fun l => l.unit == name := by
    intro s
    rw [List.any_map]
    rfl
  unfold Session.covers
  rw [hgenerated s, hgenerated s', map_bare_congr h.generated, h.references]

/-- The progress of two exports is the same, but for diagnostics. -/
structure Progress.Within (p p' : Progress World Draft Committed) : Prop where
  session : p.session.Within p'.session
  draft : p.draft = p'.draft
  queue : p.queue.Within p'.queue

variable (b : Builder World Draft Committed)

theorem keepsUp_within : KeepsUp b b Progress.Within := by
  rintro kind r p p' ⟨⟨hworld, hquestions, hreferences, hgenerated⟩, hdraft, hqueue⟩
  rw [hworld, hdraft]
  exact ⟨rfl, ⟨rfl, hquestions, hreferences, hgenerated⟩, rfl, hqueue⟩

theorem keptBy_within (steps : List Step) :
    KeptBy (Progress.Within : Progress World Draft Committed → _ → Prop) steps := by
  rintro r - p p' ⟨⟨hworld, hquestions, hreferences, hgenerated⟩, hdraft, hqueue⟩
  cases r with
  | asked question =>
    exact ⟨⟨hworld, congrArg (· ++ [question]) hquestions, hreferences, hgenerated⟩, hdraft, hqueue⟩
  | raised d => exact ⟨⟨hworld, hquestions, hreferences, hgenerated⟩, hdraft, hqueue.raise d⟩

/-- What one of two exports commits, the other does. -/
theorem meets_finish_within {unit : UnitIdentity} {attributes : Attributes}
    {o o' : EStateM.Result ExportError (Progress World Draft Committed) (List ExportedType)}
    (h : Agrees Progress.Within o o') :
    Meets (finish b unit attributes o) (finish b unit attributes o')
      (fun l s l' s' => l.Within l' ∧ s.Within s') fun f s f' s' => f.Within f' ∧ s.Within s' := by
  rcases o with ⟨exported, p⟩ | ⟨e, p⟩ <;> rcases o' with ⟨exported', p'⟩ | ⟨e', p'⟩
  · obtain ⟨rfl, ⟨hworld, hquestions, hreferences, hgenerated⟩, hdraft, hqueue⟩ := h
    simp only [finish, hworld, hdraft]
    rcases (b.commit p'.session.world p'.draft).1 with error | library
    · exact ⟨failure_within hqueue (.refl _), rfl, hquestions, hreferences, hgenerated⟩
    · exact ⟨⟨rfl, hqueue.diagnostics⟩, rfl, hquestions, hreferences, hgenerated⟩
  · exact h.elim
  · exact h.elim
  · obtain ⟨rfl, hsession, -, hqueue⟩ := h
    exact ⟨failure_within hqueue (.refl _), hsession⟩

/-- The settings with a queue that refuses nothing. -/
def Settings.unlimited (s : Settings) : Settings := { s with diagnostics := .unlimited }

/-- A run, beside the one that keeps all diagnostics. -/
def unlimitedCoupling (resolver : Resolver) (units : List Reflection) :
    Coupling b b resolver units where
  settings σ σ' := σ' = σ.unlimited
  session := Session.Within
  draft := Eq
  queue := Diagnostic.Queue.Within
  failure := Failure.Within
  library _ _ _ _ l l' := l.Within l'
  covered _ := True
  forDependency hσ := hσ ▸ rfl
  generateReferences hσ := hσ ▸ rfl
  units_covered _ _ := trivial
  references hs := hs.references
  covers hs := hs.covers
  begun := by
    rintro s s' d d' ⟨hworld, hquestions, hreferences, hgenerated⟩ rfl
    exact ⟨⟨congrArg (fun world => (b.newLibrary world d).1) hworld, hquestions, hreferences,
      hgenerated⟩, congrArg (fun world => (b.newLibrary world d).2) hworld⟩
  start hσ := hσ ▸ .empty _
  failed e hq := failure_within hq (.refl e)
  dependency name hf hq :=
    failure_within hq ⟨congrArg (ExportError.dependency name · []) hf.error.bare,
      .cons hf.diagnostics hf.error.nested⟩
  generated := by
    rintro σ σ' s s' q q' l l' - unit - ⟨hworld, hquestions, hreferences, hgenerated⟩ hq hl
    rw [hl.attributes]
    refine ⟨⟨hworld, hquestions, ?_, List.rel_append hgenerated (.cons hl .nil)⟩, hq.raise _⟩
    exact congrArg₂ (fun references reference => references ++ [reference]) hreferences hl.reference
  own := by
    rintro σ _ unit classified p p' rfl - - hs hd hq
    have hbuild : InStep Progress.Within (buildReferring b resolver σ unit classified)
        (buildReferring b resolver σ.unlimited unit classified) :=
      (keepsUp_within b).buildReferring (fun _ _ hp => hp.session.references) rfl rfl
        (keptBy_within _) fun _ _ => keptBy_within _
    exact meets_finish_within b (hbuild p p' ⟨hs, hd, hq⟩)

/-- The job under a policy for its diagnostics. -/
def Job.under (job : Job) (policy : Diagnostic.Policy) : Job :=
  { job with settings := { job.settings with diagnostics := policy } }

variable (job : Job) (world : World) (draft : Draft)

/-- **Nothing is reported that is not reported without limits**, in that order, and nothing else
differs. -/
theorem run_under_within (policy : Diagnostic.Policy) :
    OutcomeWithin ((job.under policy).run b world draft).1 ((job.under .unlimited).run b world draft).1 ∧
      ((job.under policy).run b world draft).2.Within
        ((job.under .unlimited).run b world draft).2 := by
  have hsession : (Session.Within : Session World Committed → Session World Committed → Prop)
      { world := world, references := (job.under policy).settings.references }
      { world := world, references := (job.under .unlimited).settings.references } :=
    ⟨rfl, rfl, rfl, .nil⟩
  have hsettings : (unlimitedCoupling b job.resolver job.dependencies).settings
      (job.under policy).settings (job.under .unlimited).settings := rfl
  have hrun := Coupling.run _ hsettings trivial hsession (rfl : draft = draft)
  change Coupling.OutputsMeet _ _ _ _ ((job.under policy).run b world draft)
    ((job.under .unlimited).run b world draft) at hrun
  rcases h : (job.under policy).run b world draft with ⟨f | out, s⟩ <;>
    rcases h' : (job.under .unlimited).run b world draft with ⟨f' | out', s'⟩ <;> rw [h, h'] at hrun
  · exact hrun
  · exact hrun.elim
  · exact hrun.elim
  · obtain ⟨hmain, hsession, hdependencies, hdependencies'⟩ := hrun
    refine ⟨⟨hmain, ?_⟩, hsession⟩
    rw [hdependencies, hdependencies']
    exact hsession.generated

/-- **Diagnostics never influence an export.** Under any two policies it makes the same libraries or
fails with the same error, and under each it reports some of what it reports without limits, in that
order. -/
theorem run_policies (policy policy' : Diagnostic.Policy) :
    bareOutcome ((job.under policy).run b world draft).1 =
        bareOutcome ((job.under policy').run b world draft).1 ∧
      OutcomeWithin ((job.under policy).run b world draft).1
        ((job.under .unlimited).run b world draft).1 :=
  ⟨(run_under_within b job world draft policy).1.bareOutcome.trans
      (run_under_within b job world draft policy').1.bareOutcome.symm,
    (run_under_within b job world draft policy).1⟩

end Export

end Automation
