import Automation.Proofs.Export.Faults
import Automation.Proofs.Export.Libraries

/-!
# Why a run fails

A run over source units fails because an identifier is used twice, or because a layout is rejected.
The latter happens exactly if a base chain crosses a cut in one of the libraries:
`fails_of_duplicates_iff`. Each export on demand leaves the session as the next one needs it, with
libraries that can be told apart (`judged_exportUnit`).
-/

namespace Automation.Export

open Library Source

/-! ## Causes -/

/-- The error that stopped an export, be it one on demand. -/
def ExportError.root : ExportError → ExportError
  | .dependency _ cause _ => cause.root
  | error => error

theorem root_of_isDuplicate {e : ExportError} (h : e.IsDuplicate) : e.root = e := by
  cases e <;> first | rfl | exact h.elim

/-! ## Libraries told apart -/

/-- Types of an exported library have default interfaces in that library. -/
theorem defaultInterface_lt {Committed : Type} (l : ExportedLibrary Committed) :
    ∀ t ∈ l.reference.types, ∀ i ∈ t.defaultInterface, i < l.reference.types.length := by
  intro t ht i hi
  obtain ⟨exported, -, rfl⟩ := List.mem_map.mp ht
  obtain ⟨handle, -, hfind⟩ := Option.bind_eq_some_iff.mp hi
  obtain ⟨hlt, -⟩ := List.findIdx?_eq_some_iff_getElem.mp hfind
  change i < (l.exported.map _).length
  rwa [List.length_map]

theorem Trusted.append {references : List ReferencedLibrary} (h : Trusted references)
    {l : ReferencedLibrary} (hidentity : identityError? l.guid references = none)
    (hdefaults : ∀ t ∈ l.types, ∀ i ∈ t.defaultInterface, i < l.types.length) :
    Trusted (references ++ [l]) := by
  unfold identityError? at hidentity
  split at hidentity
  · exact nomatch hidentity
  · next hstandard =>
    rw [Option.map_eq_none_iff, List.find?_eq_none] at hidentity
    refine ⟨?_, ?_, ?_⟩
    · rw [List.map_append, List.nodup_append]
      refine ⟨h.guids, List.pairwise_singleton _ _, fun guid hguid other hother => ?_⟩
      obtain ⟨l', hl', rfl⟩ := List.mem_map.mp hguid
      obtain rfl : other = l.guid := by simpa using hother
      exact fun hsame => hidentity l' hl' (beq_iff_eq.mpr hsame)
    · intro l' hl'
      rcases List.mem_append.mp hl' with hl' | hl'
      · exact h.standard l' hl'
      · exact List.mem_singleton.mp hl' ▸ hstandard
    · intro l' hl'
      rcases List.mem_append.mp hl' with hl' | hl'
      · exact h.defaults l' hl'
      · exact List.mem_singleton.mp hl' ▸ hdefaults

/-! ## One unit -/

/-- The unit is the view of a source unit of limited size. -/
def IsModerate (unit : Reflection) : Prop :=
  ∃ u : SourceUnit, unit = u.reflection ∧ u.size < 2 ^ 28

/-- The types are those of the library of one of the units. -/
def DrawnFrom (units : List Reflection) (types : List TypeInfo) : Prop :=
  ∃ unit ∈ units, ∃ resolver settings references classified placed refs d₀ d,
    Built unit resolver settings references classified placed refs d₀ d ∧ types = d.infos

/-- Only libraries of the units were laid out. -/
def Drawn (units : List Reflection) (s : Session (Watch Unit Draft Library) Library) : Prop :=
  ∀ d ∈ s.world.drafts, DrawnFrom units d.infos

/-- No base chain crosses a cut in any library that was laid out. -/
def Uncrossed (s : Session (Watch Unit Draft Library) Library) : Prop :=
  ∀ d ∈ s.world.drafts, ¬Crosses d.infos

/-- What holds between exports, as long as none has failed. -/
structure Clean (units : List Reflection) (s : Session (Watch Unit Draft Library) Library) :
    Prop where
  trusted : Trusted s.references
  drawn : Drawn units s
  uncrossed : Uncrossed s

/-- The error has a reason that shows in the session: an identifier that is used twice, or a layout
that is rejected where a cut is crossed. -/
structure Founded (units : List Reflection) (e : ExportError)
    (s : Session (Watch Unit Draft Library) Library) : Prop where
  drawn : Drawn units s
  reason : e.root.IsDuplicate ∧ Uncrossed s ∨
    (∃ context error, e.root = .build context error) ∧ ¬Uncrossed s

/-- What holds after an export: a session with a further library, or an error for a reason. -/
def Judged (units : List Reflection) : UnitOutcome (Watch Unit Draft Library) Library → Prop
  | (.ok l, s) => Clean units (s.generate l)
  | (.error f, s) => Founded units f.error s

variable {units : List Reflection} {resolver : Resolver} {settings : Settings}
  {q r : MemoryProgress}

theorem Clean.uncrossed_append (h : Clean units q.session) {drafts : List Draft}
    (hlogs : Logs q r drafts) : Uncrossed r.session ↔ ∀ d ∈ drafts, ¬Crosses d.infos := by
  unfold Uncrossed
  rw [hlogs.drafts, List.forall_mem_append]
  exact and_iff_right h.uncrossed

theorem Clean.drawn_append (h : Clean units q.session) {drafts : List Draft} (hlogs : Logs q r drafts)
    (hdrawn : ∀ d ∈ drafts, DrawnFrom units d.infos) : Drawn units r.session := by
  unfold Drawn
  rw [hlogs.drafts, List.forall_mem_append]
  exact ⟨h.drawn, hdrawn⟩

/-- A library that came to be crosses no cut. -/
theorem judged_of_succeeded {u : SourceUnit} (hu : u.reflection ∈ units) (hsize : u.size < 2 ^ 28)
    (hclean : Clean units q.session) {exported : List ExportedType}
    (h : Succeeded u.reflection resolver settings exported q r) :
    Judged units (finish watchedMemory u.reflection.identity
      (settings.attributes u.reflection.identity) (.ok exported r)) := by
  obtain ⟨l, s, _, _, _, hfinish, hexported, hreferences, -, hdrafts⟩ := finish_of_succeeded h
  obtain ⟨hidentity, -, classified, placed, refs, d₀, d, drafts, hbuilt, hnone, -, -, -, hlogs, -,
    hsame, -⟩ := h
  have hdrawn : Drawn units r.session := hclean.drawn_append hlogs fun d' hd' =>
    ⟨_, hu, _, _, _, _, _, _, _, _, hbuilt, (hsame d' hd').infos⟩
  have huncrossed : Uncrossed r.session := (hclean.uncrossed_append hlogs).mpr fun d' hd' => by
    rw [(hsame d' hd').infos]
    exact (hbuilt.faultless_iff hclean.trusted hsize).mp hnone
  rw [hfinish]
  refine ⟨?_, fun d hd => hdrawn d (hdrafts ▸ hd), fun d hd => huncrossed d (hdrafts ▸ hd)⟩
  change Trusted (s.references ++ [l.reference])
  rw [hreferences]
  refine hclean.trusted.append ?_ (defaultInterface_lt l)
  change identityError? l.attributes.guid _ = none
  rw [hexported.identity]
  exact hidentity

/-- A library whose layout is rejected crosses a cut. -/
theorem founded_of_misshaped {u : SourceUnit} (hu : u.reflection ∈ units) (hsize : u.size < 2 ^ 28)
    (hclean : Clean units q.session) (h : Misshaped u.reflection resolver settings q r)
    {context : String} {error : BuildError} : Founded units (.build context error) r.session := by
  obtain ⟨classified, placed, refs, d₀, d, drafts, hbuilt, hfault, hlogs, hsome, hsame⟩ := h
  refine ⟨hclean.drawn_append hlogs fun d' hd' =>
    ⟨_, hu, _, _, _, _, _, _, _, _, hbuilt, (hsame d' hd').infos⟩, .inr ⟨⟨context, error, rfl⟩, ?_⟩⟩
  rw [hclean.uncrossed_append hlogs]
  intro hnone
  obtain ⟨d', later, rfl⟩ := List.exists_cons_of_ne_nil hsome
  refine hfault ((hbuilt.faultless_iff hclean.trusted hsize).mpr ?_)
  rw [← (hsame d' List.mem_cons_self).infos]
  exact hnone d' List.mem_cons_self

/-- **The export of a unit** fails for a duplicate identifier or for a cut that is crossed. -/
theorem judged_exportUnit (hunits : ∀ unit ∈ units, IsModerate unit) (resolver : Resolver)
    (settings : Settings) {available : List Reflection} (havailable : available ⊆ units)
    {unit : Reflection} (hunit : unit ∈ units)
    {s : Session (Watch Unit Draft Library) Library} (hclean : Clean units s) :
    Judged units (exportUnit watchedMemory resolver settings available unit s {}) := by
  induction available using available_induction generalizing settings unit s with
  | step available ih =>
    obtain ⟨u, rfl, hsize⟩ := hunits unit hunit
    have hnested : ∀ (q : MemoryProgress) needed (hm : needed ∈ available) o, Clean units q.session →
        exportUnit watchedMemory resolver settings.forDependency (without available needed) needed
          (q.begin watchedMemory) (watchedMemory.newLibrary q.session.world q.draft).2 = o →
        Judged units o := by
      rintro q needed hm _ hq rfl
      exact ih needed hm settings.forDependency (without_subset havailable needed)
        (havailable hm) ⟨hq.trusted, hq.drawn, hq.uncrossed⟩
    have hneeded : ∀ needs, Ensures
        (exportUncovered watchedMemory settings needs available fun needed _ =>
          exportUnit watchedMemory resolver settings.forDependency (without available needed) needed)
        { session := s, draft := {}, queue := Diagnostic.Queue.empty settings.diagnostics }
        (fun _ q => q.draft = {} ∧ Clean units q.session)
        (fun e q => Founded units e q.session) := by
      intro needs
      refine ensures_exportUncovered ?_ ?_ ⟨rfl, hclean⟩
      · rintro q name needed hm f s' - - ⟨-, hq⟩ hf
        obtain ⟨hdrawn, hreason⟩ := hnested q needed hm _ hq hf
        exact ⟨hdrawn, hreason⟩
      · rintro q name needed hm l s' - - ⟨hdraft, hq⟩ hl
        exact ⟨hdraft, hnested q needed hm _ hq hl⟩
    have hbuild := ensures_build False resolver u.reflection rfl hneeded
      (fun _ e he => by
        obtain ⟨classified, hok⟩ := exists_classify_reflection u
        exact Except.noConfusion rfl rfl (heq_of_eq (hok.symm.trans he)))
      (fun _ classified hok => nameable_nameTypes resolver hok)
      fun _ classified hok q hq placed refs d₀ hprepared =>
        hprepared.fillable hok hq.trusted hsize rfl
    rw [exportUnit]
    cases hresult : (build watchedMemory resolver settings u.reflection available _).run _ with
    | ok exported r =>
      obtain ⟨q, hq, hsucceeded⟩ := hbuild.of_ok hresult
      exact judged_of_succeeded hunit hsize hq hsucceeded
    | error e r =>
      change Founded units e r.session
      rcases hbuild.of_error hresult with
        hfailed | hbad | ⟨q, hq, ⟨hduplicate, hquiet⟩ | ⟨⟨context, error, rfl⟩, hmisshaped⟩⟩
      · exact hfailed
      · exact hbad.elim
      · refine ⟨hq.drawn_append hquiet.logs fun _ hd => (List.not_mem_nil hd).elim, .inl ⟨?_, ?_⟩⟩
        · rwa [root_of_isDuplicate hduplicate]
        · exact (hq.uncrossed_append hquiet.logs).mpr fun _ hd => (List.not_mem_nil hd).elim
      · exact founded_of_misshaped hunit hsize hq hmisshaped

/-! ## Runs -/

/-- The drafts of a job, as they were whenever a type was to be laid out in memory. -/
def Job.drafts (job : Job) : List Draft :=
  (job.watchedRun Library.Draft.builder () {}).2.world.drafts

/-- A run over units of limited size ends without a crossed cut, or with an error for a reason. -/
theorem judged_run {job : Job} (hreferences : job.settings.references = [])
    (hunits : ∀ unit ∈ job.unit :: job.dependencies, IsModerate unit) :
    (∀ d ∈ job.drafts, DrawnFrom (job.unit :: job.dependencies) d.infos) ∧
      match job.toMemory with
      | .ok _ => ∀ d ∈ job.drafts, ¬Crosses d.infos
      | .error f => f.error.root.IsDuplicate ∧ (∀ d ∈ job.drafts, ¬Crosses d.infos) ∨
        (∃ context error, f.error.root = .build context error) ∧
          ¬∀ d ∈ job.drafts, ¬Crosses d.infos := by
  have hclean : Clean (job.unit :: job.dependencies)
      { world := { world := () }, references := job.settings.references } := by
    rw [hreferences]
    exact ⟨⟨.nil, fun _ hl => (nomatch hl), fun _ hl => (nomatch hl)⟩, fun _ hd => (nomatch hd),
      fun _ hd => (nomatch hd)⟩
  have havailable : without job.dependencies job.unit ⊆ job.unit :: job.dependencies := fun _ hu =>
    List.mem_cons_of_mem _ (List.mem_of_mem_filter hu)
  have hjudged := judged_exportUnit hunits job.resolver job.settings havailable List.mem_cons_self
    hclean
  have hwatched : job.toMemory = (job.watchedRun Library.Draft.builder () {}).1 :=
    (watchedRun_outcome job Library.Draft.builder () {}).symm
  rw [hwatched]
  unfold Job.drafts Job.watchedRun Job.run
  rcases hrun : exportUnit Library.Draft.builder.watched job.resolver job.settings
    (without job.dependencies job.unit) job.unit
    { world := { world := () }, references := job.settings.references } {} with ⟨f | l, s⟩
  · rw [show exportUnit watchedMemory _ _ _ _ _ _ = _ from hrun] at hjudged
    exact ⟨hjudged.drawn, hjudged.reason⟩
  · rw [show exportUnit watchedMemory _ _ _ _ _ _ = _ from hrun] at hjudged
    exact ⟨hjudged.drawn, hjudged.uncrossed⟩

/-- The job of exporting a source unit, with others at hand. -/
def Job.ofUnits (u : SourceUnit) (others : List SourceUnit) (settings : Settings)
    (resolver : Resolver) : Job where
  unit := u.reflection
  settings := settings
  resolver := resolver
  dependencies := others.map SourceUnit.reflection

theorem isModerate_of_size {u : SourceUnit} {others : List SourceUnit}
    (hsize : ((u :: others).map SourceUnit.size).sum < 2 ^ 28) :
    ∀ unit ∈ u.reflection :: others.map SourceUnit.reflection, IsModerate unit := by
  rw [← List.map_cons]
  intro unit hunit
  obtain ⟨v, hv, rfl⟩ := List.mem_map.mp hunit
  have hle := List.single_le_sum (fun _ _ => Nat.zero_le _) _
    (List.mem_map_of_mem (f := SourceUnit.size) hv)
  exact ⟨v, rfl, hle.trans_lt hsize⟩

/-- **A run over source units fails for two reasons**: an identifier is used twice, or a layout is
rejected. The latter happens exactly if a base chain crosses a cut in a library that was laid
out. -/
theorem fails_of_duplicates_iff (u : SourceUnit) (others : List SourceUnit) {settings : Settings}
    (resolver : Resolver) (hreferences : settings.references = [])
    (hsize : ((u :: others).map SourceUnit.size).sum < 2 ^ 28) :
    (∀ f, (Job.ofUnits u others settings resolver).toMemory = .error f →
      f.error.root.IsDuplicate ∨ ∃ context error, f.error.root = .build context error) ∧
    ((∀ f, (Job.ofUnits u others settings resolver).toMemory = .error f →
        f.error.root.IsDuplicate) ↔
      ∀ d ∈ (Job.ofUnits u others settings resolver).drafts, ¬Crosses d.infos) := by
  obtain ⟨-, hjudged⟩ := @judged_run (Job.ofUnits u others settings resolver) hreferences
    (isModerate_of_size hsize)
  cases hrun : (Job.ofUnits u others settings resolver).toMemory with
  | ok out =>
    rw [hrun] at hjudged
    exact ⟨fun _ h => (nomatch h), iff_of_true (fun _ h => (nomatch h)) hjudged⟩
  | error f =>
    rw [hrun] at hjudged
    rcases hjudged with ⟨hduplicate, huncrossed⟩ | ⟨⟨context, error, hroot⟩, hcrossed⟩
    · refine ⟨fun g hg => ?_, iff_of_true (fun g hg => ?_) huncrossed⟩
      · exact .inl (Except.error.inj hg ▸ hduplicate)
      · exact Except.error.inj hg ▸ hduplicate
    · refine ⟨fun g hg => .inr ⟨context, error, Except.error.inj hg ▸ hroot⟩,
        iff_of_false (fun hall => ?_) hcrossed⟩
      have hduplicate := hall f rfl
      rw [hroot] at hduplicate
      exact hduplicate

/-- Where bases form no cycle, only identifiers that are used twice stop a run. -/
theorem isDuplicate_of_isAcyclic {u : SourceUnit} {others : List SourceUnit} {settings : Settings}
    {resolver : Resolver} (hreferences : settings.references = [])
    (hsize : ((u :: others).map SourceUnit.size).sum < 2 ^ 28)
    (hacyclic : ∀ v ∈ u :: others, v.IsAcyclic) {f : Failure}
    (h : (Job.ofUnits u others settings resolver).toMemory = .error f) :
    f.error.root.IsDuplicate := by
  obtain ⟨hdrawn, hjudged⟩ := @judged_run (Job.ofUnits u others settings resolver) hreferences
    (isModerate_of_size hsize)
  rw [h] at hjudged
  rcases hjudged with ⟨hduplicate, -⟩ | ⟨-, hcrossed⟩
  · exact hduplicate
  · refine (hcrossed fun d hd => ?_).elim
    obtain ⟨unit, hunit, _, _, _, _, _, _, _, _, hbuilt, hinfos⟩ := hdrawn d hd
    have hviews : unit ∈ (u :: others).map SourceUnit.reflection := by
      rw [List.map_cons]
      exact hunit
    obtain ⟨v, hv, rfl⟩ := List.mem_map.mp hviews
    rw [hinfos]
    exact hbuilt.not_crosses (hacyclic v hv)

/-! ## A cut that is crossed -/

/-- A unit with two interfaces that derive from each other. -/
def knot : SourceUnit where
  identity := { name := "P", version := { major := 1 }, guid := some (Guid.ofBytes [9]) }
  types :=
    [{ space := "N", name := "A", guid := some (Guid.ofBytes [1])
       body := .interface none, interfaces := [.named 1]
       members := [Member.method "F" (.scalar .i32)] },
     { space := "N", name := "B", guid := some (Guid.ofBytes [2])
       body := .interface none, interfaces := [.named 0]
       members := [Member.method "G" (.scalar .i32)] }]

/-- The error of a job whose libraries are kept in memory. -/
def Job.error? (job : Job) : Option ExportError :=
  match job.toMemory with
  | .ok _ => none
  | .error f => some f.error

theorem Job.exists_failure {job : Job} {e : ExportError} (h : job.error? = some e) :
    ∃ f, job.toMemory = .error f ∧ f.error = e := by
  unfold Job.error? at h
  split at h
  · exact Option.noConfusion rfl (heq_of_eq h)
  · next f hf => exact ⟨f, hf, Option.some.inj h⟩

/-- The interface that is filled first starts below the slots of its base. -/
theorem knot_toMemory : ∃ f, (Job.ofUnits knot [] {} Resolver.keep).toMemory = .error f ∧
    f.error = .build "layout of `B`" (.offsetTooLow "B" 0 56 64) :=
  Job.exists_failure (by decide +kernel)

/-- The unit is accepted, and its export fails although no identifier is used twice. -/
theorem knot_rejected : SourceUnit.load knot.identity knot.types = .ok knot ∧
    ([knot].map SourceUnit.size).sum < 2 ^ 28 ∧
    ¬∀ f, (Job.ofUnits knot [] {} Resolver.keep).toMemory = .error f → f.error.root.IsDuplicate := by
  have hload : SourceUnit.firstFault? knot.types.length [] knot.types = none := by decide +kernel
  obtain ⟨f, hfails, herror⟩ := knot_toMemory
  refine ⟨?_, by decide, fun hall => ?_⟩
  · unfold SourceUnit.load
    rw [hload]
  · have hduplicate := hall f hfails
    rw [herror] at hduplicate
    exact hduplicate

/-- In the library of the unit a base chain crosses a cut. -/
theorem knot_crosses : ({} : Settings).references = [] ∧
    ([knot].map SourceUnit.size).sum < 2 ^ 28 ∧
    ∃ d ∈ (Job.ofUnits knot [] {} Resolver.keep).drafts, Crosses d.infos := by
  have hsize : ([knot].map SourceUnit.size).sum < 2 ^ 28 := by decide
  refine ⟨rfl, hsize, ?_⟩
  by_contra hnone
  obtain ⟨f, hfails, herror⟩ := knot_toMemory
  obtain ⟨-, hiff⟩ := @fails_of_duplicates_iff knot [] {} Resolver.keep rfl hsize
  have hduplicate := hiff.mpr (fun d hd hcrosses => hnone ⟨d, hd, hcrosses⟩) f hfails
  rw [herror] at hduplicate
  exact hduplicate

end Automation.Export
