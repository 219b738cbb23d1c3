import Automation.Proofs.Export.Simulation

/-!
# What an export says

The diagnostics of a library are those that its steps raise (`said`), in order: requests say nothing.
`Queue.mem_addAll` tells which of them are kept.
-/

namespace Automation

namespace Diagnostic

/-! ## Queues -/

theorem Queue.addAll_append (q : Queue) (first second : List Diagnostic) :
    q.addAll (first ++ second) = (q.addAll first).addAll second := List.foldl_append

theorem Queue.policy_raise (q : Queue) (d : Diagnostic) : (q.raise d).policy = q.policy := by
  rcases q.raise_cases d with h | h | h <;> rw [h]
  rfl

theorem Queue.policy_addAll (q : Queue) (ds : List Diagnostic) :
    (q.addAll ds).policy = q.policy := by
  induction ds generalizing q with
  | nil => rfl
  | cons d later ih => exact (ih _).trans (q.policy_raise d)

/-- Nothing is queued but what was raised. -/
theorem Queue.mem_of_mem_addAll {q : Queue} {ds : List Diagnostic} {d : Diagnostic}
    (h : d ∈ (q.addAll ds).diagnostics) : d ∈ q.diagnostics ∨ d ∈ ds := by
  induction ds generalizing q with
  | nil => exact .inl h
  | cons e later ih =>
    rcases ih h with h | h
    · rcases q.raise_cases e with heq | heq | heq <;> rw [heq] at h
      · exact .inl h
      · exact .inl h
      · rcases List.mem_append.mp h with h | h
        · exact .inl h
        · exact .inr (List.mem_singleton.mp h ▸ List.mem_cons_self)
    · exact .inr (List.mem_cons_of_mem _ h)

/-- What is queued stays. -/
theorem Queue.subset_raise (q : Queue) (d : Diagnostic) :
    q.diagnostics ⊆ (q.raise d).diagnostics := by
  rcases q.raise_cases d with h | h | h <;> rw [h]
  · exact List.Subset.refl _
  · exact List.Subset.refl _
  · exact List.subset_append_left _ _

theorem Queue.subset_addAll (q : Queue) (ds : List Diagnostic) :
    q.diagnostics ⊆ (q.addAll ds).diagnostics := by
  induction ds generalizing q with
  | nil => exact List.Subset.refl _
  | cons d later ih => exact List.Subset.trans (q.subset_raise d) (ih _)

/-- Without a limit, what is raised is queued, or repeats what is. -/
theorem Queue.exists_mem_raise {q : Queue} (hlimit : q.policy.warningLimit = 0) (d : Diagnostic) :
    ∃ e ∈ (q.raise d).diagnostics, e.key = d.key := by
  have hover : ¬q.overLimit d := by simp [Queue.overLimit, hlimit]
  unfold Queue.raise
  by_cases hknown : q.isRepetition d
  · rw [Queue.add_of_isRepetition hover hknown]
    exact (Queue.isRepetition_iff.mp hknown).2
  · rw [Queue.add_of_not_isRepetition hover hknown]
    exact ⟨d, List.mem_append_right _ List.mem_cons_self, rfl⟩

/-- Without a limit, everything that is raised is queued, or repeats what is. -/
theorem Queue.exists_mem_addAll {q : Queue} (hlimit : q.policy.warningLimit = 0)
    {ds : List Diagnostic} {d : Diagnostic} (h : d ∈ ds) :
    ∃ e ∈ (q.addAll ds).diagnostics, e.key = d.key := by
  induction ds generalizing q with
  | nil => exact (List.not_mem_nil h).elim
  | cons first later ih =>
    rcases List.mem_cons.mp h with rfl | h
    · obtain ⟨e, he, hsame⟩ := Queue.exists_mem_raise hlimit d
      exact ⟨e, (q.raise d).subset_addAll later he, hsame⟩
    · exact ih ((congrArg _ (q.policy_raise first)).trans hlimit) h

end Diagnostic

namespace Export

open Library Source

variable {World Draft Committed α : Type}

/-! ## Steps -/

/-- The diagnostics that steps raise, in order. -/
def said (steps : List Step) : List Diagnostic :=
  steps.filterMap fun
    | .remark (.raised d) => some d
    | .remark (.asked _) | .request _ _ | .abort _ => none

theorem mem_said {steps : List Step} {d : Diagnostic} :
    d ∈ said steps ↔ Step.remark (.raised d) ∈ steps := by
  unfold said
  rw [List.mem_filterMap]
  constructor
  · rintro ⟨step, hstep, hsaid⟩
    rcases step with ⟨question | d'⟩ | _ | _
    · exact Option.noConfusion rfl (heq_of_eq hsaid)
    · exact Option.some.inj hsaid ▸ hstep
    · exact Option.noConfusion rfl (heq_of_eq hsaid)
    · exact Option.noConfusion rfl (heq_of_eq hsaid)
  · exact fun h => ⟨_, h, rfl⟩

variable (b : Builder World Draft Committed) {p : Progress World Draft Committed}

/-- Requests say nothing. -/
theorem keepsUp_queue (queue : Diagnostic.Queue) :
    KeepsUp b b fun p p' => p = p' ∧ p.queue = queue := by
  rintro kind r p _ ⟨rfl, hqueue⟩
  exact ⟨rfl, rfl, hqueue⟩

/-- A part that keeps an invariant ends with it. -/
theorem InStep.ensures {I : Progress World Draft Committed → Prop}
    {m : ExportM World Draft Committed α} (h : InStep (fun p p' => p = p' ∧ I p) m m) (hp : I p) :
    Ensures m p (fun _ => I) (fun _ => I) := by
  have h := h p p ⟨rfl, hp⟩
  unfold Agrees at h
  unfold Ensures
  rcases hr : m.run p with ⟨a, q⟩ | ⟨e, q⟩ <;> rw [hr] at h
  · exact h.2.2
  · exact h.2.2

/-- A script says what its steps raise. -/
theorem ensures_perform_said (steps : List Step) :
    Ensures (perform b steps) p (fun _ q => q.queue = p.queue.addAll (said steps))
      fun _ _ => True := by
  induction steps generalizing p with
  | nil => exact ensures_pure rfl
  | cons step later ih =>
    cases step with
    | remark r =>
      refine Ensures.bind (ensures_remark ?_ : Ensures _ p (fun _ q => q = p.note r) _) ?_
      · rfl
      rintro _ _ rfl
      refine ih.imp (fun _ q hq => hq.trans ?_) fun _ _ h => h
      cases r <;> rfl
    | request context r =>
      refine Ensures.bind (((keepsUp_queue b p.queue).request context r).ensures rfl |>.imp
        (fun _ _ h => h) fun _ _ _ => trivial) fun _ q hq => ?_
      refine ih.imp (fun _ _ h => ?_) fun _ _ h => h
      rw [h, hq]
      rfl
    | abort e => exact ensures_throw trivial

/-- What is said while types get their places is about their names. -/
theorem ensures_placeTypes_said (resolver : Resolver) (attributes : Attributes)
    (references : List ReferencedLibrary) (classified : List Classified) (needs : Needs) :
    Ensures (placeTypes b resolver attributes references classified needs) p
      (fun _ q => q.queue = p.queue.addAll (said (nameTypes resolver classified).2))
      fun _ _ => True := by
  unfold placeTypes
  refine Ensures.bind (ensures_perform_said b _) fun _ q hq => ?_
  have hquiet := keepsUp_queue b q.queue
  refine Ensures.imp (InStep.ensures (hquiet.request _ _ |>.bind fun _ =>
    (hquiet.inPhases [.creation, .imports]).placeNamed List.mem_cons_self
      (List.mem_cons_of_mem _ List.mem_cons_self) _ _ _ _) rfl)
    (fun _ r hr => hr.trans hq) fun _ _ _ => trivial

/-- The diagnostics say of units that they were exported on demand. -/
def AreNotes (notes : List Diagnostic) : Prop := ∀ d ∈ notes, d.code = .dependencyExported

/-- What is said about exports on demand are notes. -/
theorem ensures_exportUncovered_said {settings : Settings} {needs : Needs}
    {available : List Reflection}
    {exportUnit : (unit : Reflection) → unit ∈ available → Session World Committed → Draft →
      UnitOutcome World Committed} :
    Ensures (exportUncovered b settings needs available exportUnit) p
      (fun _ q => ∃ notes, AreNotes notes ∧ q.queue = p.queue.addAll notes) fun _ _ => True := by
  refine ensures_exportUncovered (fun _ _ _ _ _ _ _ _ _ _ => trivial) ?_
    ⟨[], fun _ h => (List.not_mem_nil h).elim, rfl⟩
  rintro q name needed hm l s - - ⟨notes, hnotes, hqueue⟩ -
  refine ⟨notes ++ [dependencyExported name l.attributes.name],
    List.forall_mem_append.mpr ⟨hnotes, List.forall_mem_singleton.mpr rfl⟩, ?_⟩
  rw [Diagnostic.Queue.addAll_append, ← hqueue]
  rfl

end Export

end Automation
