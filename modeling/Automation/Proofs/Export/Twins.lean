import Automation.Proofs.Export.Abreast

/-!
# The libraries of two targets

A job is run for two targets: with another width of pointers, or another choice about status codes. Then
both runs end with libraries that look alike one by one, or both fail (`twins_run`). What the libraries
are in detail can be read off each of them, since it is known what they were exported from.
-/

namespace Automation.Export

open Library Source

/-- Two libraries were exported from a unit for two targets, and look alike. -/
structure Twins (unit : Reflection) (resolver : Resolver) (settings settings' : Settings)
    (references : List ReferencedLibrary) (l l' : ExportedLibrary Library) : Prop where
  exported : l'.exported = l.exported
  diagnostics : l'.diagnostics = l.diagnostics
  library : l.library.Like l'.library
  own : ∃ placed refs d, ExportedFrom unit resolver settings references placed refs d l
  own' : ∃ placed refs d, ExportedFrom unit resolver settings' references placed refs d l'

namespace Twins

variable {unit : Reflection} {resolver : Resolver} {settings : Settings} {width : PointerWidth}
  {dual : Bool} {references : List ReferencedLibrary} {l l' : ExportedLibrary Library}
  (h : Twins unit resolver settings (settings.retarget width dual) references l l')

include h

theorem unitName : l.unit = unit.identity.name ∧ l'.unit = unit.identity.name := by
  obtain ⟨_, _, _, hown⟩ := h.own
  obtain ⟨_, _, _, hown'⟩ := h.own'
  exact ⟨hown.unitName, hown'.unitName⟩

/-- The attributes differ in the width of pointers. -/
theorem attributes : l.attributes = settings.attributes unit.identity ∧
    l'.attributes = { l.attributes with pointerWidth := width } := by
  obtain ⟨_, _, _, hown⟩ := h.own
  obtain ⟨_, _, _, hown'⟩ := h.own'
  rw [hown.identity, hown'.identity]
  exact ⟨rfl, rfl⟩

/-- Units that refer to the libraries cannot tell them apart. -/
theorem reference : l'.reference = l.reference := by
  have htypes : l'.referencedType = l.referencedType := by
    funext t
    unfold ExportedLibrary.referencedType
    rw [h.exported]
  unfold ExportedLibrary.reference
  rw [h.unitName.1, h.unitName.2, h.attributes.2, h.exported, htypes]

end Twins

/-! ## Libraries made on demand -/

/-- The libraries of two runs that were made on demand look alike, one by one. -/
def TwinsInTurn (units : List Reflection) (resolver : Resolver) (settings settings' : Settings)
    (before : List ReferencedLibrary) (libraries libraries' : List (ExportedLibrary Library)) : Prop :=
  libraries'.length = libraries.length ∧
    ∀ k l l', libraries[k]? = some l → libraries'[k]? = some l' → ∃ unit ∈ units,
      Twins unit resolver settings settings' (before ++ (libraries.take k).map (·.reference)) l l'

section InTurn

variable {units : List Reflection} {resolver : Resolver} {settings : Settings} {width : PointerWidth}
  {dual : Bool} {before : List ReferencedLibrary} {libraries libraries' : List (ExportedLibrary Library)}

theorem TwinsInTurn.map_unit
    (h : TwinsInTurn units resolver settings (settings.retarget width dual) before libraries libraries') :
    libraries'.map (·.unit) = libraries.map (·.unit) := by
  refine List.ext_getElem (by rw [List.length_map, List.length_map, h.1]) fun k hk hk' => ?_
  rw [List.length_map] at hk hk'
  obtain ⟨unit, -, htwins⟩ := h.2 k _ _ (List.getElem?_eq_getElem hk') (List.getElem?_eq_getElem hk)
  rw [List.getElem_map, List.getElem_map, htwins.unitName.1, htwins.unitName.2]

theorem TwinsInTurn.append
    (h : TwinsInTurn units resolver settings (settings.retarget width dual) before libraries libraries')
    {unit : Reflection} (hunit : unit ∈ units) {l l' : ExportedLibrary Library}
    (hl : Twins unit resolver settings (settings.retarget width dual)
      (before ++ libraries.map (·.reference)) l l') :
    TwinsInTurn units resolver settings (settings.retarget width dual) before (libraries ++ [l])
      (libraries' ++ [l']) := by
  refine ⟨by simp [h.1], fun k x x' hx hx' => ?_⟩
  rcases Nat.lt_or_ge k libraries.length with hlt | hge
  · rw [List.getElem?_append_left hlt] at hx
    rw [List.getElem?_append_left (h.1 ▸ hlt)] at hx'
    rw [List.take_append_of_le_length (Nat.le_of_lt hlt)]
    exact h.2 k x x' hx hx'
  · rw [List.getElem?_append_right hge, List.getElem?_singleton] at hx
    rw [List.getElem?_append_right (h.1 ▸ hge), List.getElem?_singleton, h.1] at hx'
    split at hx
    · next hk =>
      rw [if_pos hk] at hx'
      obtain rfl := Option.some.inj hx
      obtain rfl := Option.some.inj hx'
      have hlength : k = libraries.length := by omega
      rw [hlength, List.take_left]
      exact ⟨unit, hunit, hl⟩
    · exact Option.noConfusion rfl (heq_of_eq hx)

end InTurn

/-! ## Two runs -/

/-- The job for another target. -/
def Job.retarget (job : Job) (width : PointerWidth) (dual : Bool) : Job :=
  { job with settings := job.settings.retarget width dual }

section Runs

variable (job : Job) (width : PointerWidth) (dual : Bool)

/-- What the sessions of two runs have in common, apart from the libraries that they refer to. -/
def GeneratedTwins (references : List ReferencedLibrary)
    (libraries libraries' : List (ExportedLibrary Library)) : Prop :=
  references = job.settings.references ++ libraries.map (·.reference) ∧
    TwinsInTurn job.dependencies job.resolver job.settings.forDependency
      (job.settings.forDependency.retarget width dual) job.settings.references libraries libraries'

/-- The queues of two runs are the same, and hold what was said about exports on demand. -/
def SameNotes (q q' : Diagnostic.Queue) : Prop :=
  q = q' ∧ ∃ notes, AreNotes notes ∧
    q = (Diagnostic.Queue.empty job.settings.diagnostics).addAll notes

/-- Two libraries that came to be from one unit, with drafts that look alike, are written out and look
alike. -/
theorem exists_twins {unit : Reflection} {resolver : Resolver} {settings : Settings}
    {exported : List ExportedType} {a a' : Attributes} {p p' r r' : MemoryProgress}
    (h : Succeeded unit resolver settings exported p r)
    (h' : Succeeded unit resolver (settings.retarget width dual) exported p' r')
    (hreferences : p.session.references = p'.session.references)
    (hdraft : r.draft.Like a a' r'.draft) (hqueue : r.queue = r'.queue) :
    ∃ l s l' s', finish watchedMemory unit.identity (settings.attributes unit.identity)
        (.ok exported r) = (.ok l, s) ∧
      finish watchedMemory unit.identity ((settings.retarget width dual).attributes unit.identity)
        (.ok exported r') = (.ok l', s') ∧
      Twins unit resolver settings (settings.retarget width dual) p.session.references l l' ∧
      (s.references = p.session.references ∧ s.generated = p.session.generated) ∧
      s'.references = p'.session.references ∧ s'.generated = p'.session.generated := by
  obtain ⟨l, s, placed, refs, d, hfinish, hown, hkept, hgenerated, -⟩ := finish_of_succeeded h
  obtain ⟨l', s', placed', refs', d', hfinish', hown', hkept', hgenerated', -⟩ :=
    finish_of_succeeded h'
  obtain ⟨_, hresult, hcommit, -, -, -, hdiagnostics⟩ := finish_eq_ok.mp hfinish
  obtain ⟨_, hresult', hcommit', -, -, -, hdiagnostics'⟩ := finish_eq_ok.mp hfinish'
  obtain ⟨hexported, rfl⟩ := EStateM.Result.ok.inj hresult
  obtain ⟨hexported', rfl⟩ := EStateM.Result.ok.inj hresult'
  have hlibrary : r.draft.commit = .ok l.library := (congrArg Prod.fst hcommit :)
  have hlibrary' : r'.draft.commit = .ok l'.library := (congrArg Prod.fst hcommit' :)
  have hlike := hdraft.commit
  rw [hlibrary, hlibrary'] at hlike
  refine ⟨l, s, l', s', hfinish, hfinish', ⟨hexported'.symm.trans hexported, ?_, hlike.2.2,
    ⟨placed, refs, d, hown⟩, placed', refs', d', ?_⟩, ⟨hkept, hgenerated⟩, hkept', hgenerated'⟩
  · rw [hdiagnostics, hdiagnostics', hqueue]
  · rw [hreferences]
    exact hown'

/-- Two exports of a unit end with libraries that look alike, or both fail. -/
theorem meets_twins {settings : Settings} (hsettings : settings.forDependency = job.settings.forDependency)
    {unit : Reflection} {classified : List Classified}
    (hclassify : classify unit unit.ids = .ok classified)
    (hexact : IsExact job.settings.pointerWidth width unit) {p p' : MemoryProgress}
    (hs : SameReach (GeneratedTwins job width dual) p.session p'.session)
    (hd : AreFresh p.draft p'.draft) (hq : SameNotes job p.queue p'.queue) :
    Meets
      (finish watchedMemory unit.identity (settings.attributes unit.identity)
        ((buildReferring watchedMemory job.resolver settings unit classified).run p))
      (finish watchedMemory unit.identity ((settings.retarget width dual).attributes unit.identity)
        ((buildReferring watchedMemory job.resolver (settings.retarget width dual) unit classified).run
          p'))
      (fun l s l' s' => Twins unit job.resolver settings (settings.retarget width dual) s.references
        l l' ∧ SameReach (GeneratedTwins job width dual) s s')
      fun f s f' s' => (job.settings.pointerWidth = width → f = f') ∧
        SameReach (GeneratedTwins job width dual) s s' := by
  have hwidth : settings.pointerWidth = job.settings.pointerWidth :=
    (congrArg Settings.pointerWidth hsettings :)
  have hpolicy : settings.diagnostics = job.settings.diagnostics :=
    (congrArg Settings.diagnostics hsettings :)
  obtain ⟨hqueue, hnotes⟩ := hq
  have hnotes' := hqueue ▸ hnotes
  rw [← hpolicy] at hnotes hnotes'
  rw [← hwidth] at hexact ⊢
  have hcouples := (couples_buildReferring job.resolver settings width dual hclassify hexact
    ⟨hs, hd, hqueue⟩).and
      (ensures_referring True job.resolver unit hclassify hd.1 hnotes (fun hbad => (hbad trivial).elim)
        fun hbad => (hbad trivial).elim)
      (@ensures_referring True _ job.resolver unit (settings.retarget width dual) _ hclassify hd.2
        hnotes' (fun hbad => (hbad trivial).elim) fun hbad => (hbad trivial).elim)
  unfold Couples at hcouples
  rcases hr : (buildReferring watchedMemory job.resolver settings unit classified).run p with
      ⟨exported, r⟩ | ⟨e, r⟩ <;>
    rcases hr' : (buildReferring watchedMemory job.resolver (settings.retarget width dual) unit
        classified).run p' with ⟨exported', r'⟩ | ⟨e', r'⟩ <;>
      rw [hr, hr'] at hcouples
  · obtain ⟨⟨rfl, habreast⟩, hsucceeded, hsucceeded'⟩ := hcouples
    obtain ⟨l, s, l', s', hfinish, hfinish', htwins, hkept, hkept'⟩ := exists_twins width dual
      hsucceeded hsucceeded' hs.references habreast.draft habreast.queue
    rw [hfinish, hfinish']
    refine ⟨?_, ?_, ?_⟩
    · rw [hkept.1]
      exact htwins
    · rw [hkept.1, hkept'.1, hs.references]
    · rw [hkept.1, hkept.2, hkept'.2]
      exact hs.generated
  · exact hcouples.elim
  · exact hcouples.elim
  · obtain ⟨⟨herror, hsession, hq⟩, -⟩ := hcouples
    exact ⟨fun hsame => by rw [hq, herror hsame], hsession⟩

/-- Two runs of a job for two targets. -/
def twinCoupling
    (hexact : ∀ unit ∈ job.dependencies, IsExact job.settings.pointerWidth width unit) :
    Coupling watchedMemory watchedMemory job.resolver job.dependencies where
  settings σ σ' := σ' = σ.retarget width dual ∧ σ.forDependency = job.settings.forDependency
  session := SameReach (GeneratedTwins job width dual)
  draft := AreFresh
  queue := SameNotes job
  failure f f' := job.settings.pointerWidth = width → f = f'
  library unit σ σ' references l l' := Twins unit job.resolver σ σ' references l l'
  covered unit := IsExact job.settings.pointerWidth width unit
  forDependency hσ := ⟨hσ.1 ▸ rfl, hσ.2⟩
  generateReferences hσ := hσ.1 ▸ rfl
  units_covered := hexact
  references hs := hs.references
  covers := by
    rintro s s' ⟨hreferences, -, hgenerated⟩ name
    have hany : ∀ libraries : List (ExportedLibrary Library),
        (libraries.any fun l => l.unit == name) =
          (libraries.map (·.unit)).any fun unit => unit == name := fun libraries => by
      rw [List.any_map]
      rfl
    unfold Session.covers
    rw [hreferences, hany, hany, hgenerated.map_unit]
  begun := by
    rintro s s' d d' ⟨hreferences, hgenerated⟩ -
    exact ⟨⟨hreferences, hgenerated⟩, rfl, rfl⟩
  start := by
    rintro σ _ ⟨rfl, hσ⟩
    have hpolicy : σ.diagnostics = job.settings.diagnostics :=
      (congrArg Settings.diagnostics hσ :)
    exact ⟨rfl, [], fun _ h => (nomatch h), congrArg _ hpolicy⟩
  failed e hq _ := by rw [hq.1]
  dependency name hf hq hsame := by rw [hq.1, hf hsame]
  generated := by
    rintro σ _ s s' q _ l l' ⟨rfl, hσ⟩ unit hunit ⟨hreferences, hbefore, hgenerated⟩ ⟨rfl, notes,
      hnotes, hqueue⟩ hl
    have hl : Twins unit job.resolver σ.forDependency (σ.forDependency.retarget width dual)
        s.references l l' := hl
    have hattributes : l'.attributes.name = l.attributes.name := by rw [hl.attributes.2]
    rw [hσ, hbefore] at hl
    refine ⟨⟨?_, ?_, hgenerated.append hunit hl⟩, by rw [hattributes],
      notes ++ [dependencyExported unit.identity.name l.attributes.name],
      List.forall_mem_append.mpr ⟨hnotes, List.forall_mem_singleton.mpr rfl⟩, ?_⟩
    · change s.references ++ [l.reference] = s'.references ++ [l'.reference]
      rw [hreferences, hl.reference]
    · change s.references ++ [l.reference] = _ ++ (s.generated ++ [l]).map _
      rw [hbefore, List.map_append, List.append_assoc]
      rfl
    · rw [Diagnostic.Queue.addAll_append, ← hqueue]
      rfl
  own := by
    rintro σ _ unit classified p p' ⟨rfl, hσ⟩ hunit hclassify hs hd hq
    exact meets_twins job width dual hσ hclassify hunit hs hd hq

end Runs

/-- What two outputs of a job have in common, library by library: `P` holds of the unit, the settings
for it, the libraries that types resolved against, and the two libraries. -/
def Output.Pairs (out out' : Output Library) (job : Job)
    (P : Reflection → Settings → List ReferencedLibrary → ExportedLibrary Library →
      ExportedLibrary Library → Prop) : Prop :=
  P job.unit job.settings (job.settings.references ++ out.dependencies.map (·.reference)) out.main
      out'.main ∧
    out'.dependencies.length = out.dependencies.length ∧
    ∀ (k : Nat) (l l' : ExportedLibrary Library), out.dependencies[k]? = some l →
      out'.dependencies[k]? = some l' → ∃ unit ∈ job.dependencies, l.unit = unit.identity.name ∧
        P unit job.settings.forDependency
          (job.settings.references ++ (out.dependencies.take k).map (·.reference)) l l'

/-- Two runs end alike: both with outputs of which `P` holds library by library, given the job of the
first one, or both with failures of which `Q` holds. -/
def EndAlike (job : Job)
    (P : Reflection → Settings → List ReferencedLibrary → ExportedLibrary Library →
      ExportedLibrary Library → Prop) (Q : Failure → Failure → Prop) :
    Except Failure (Output Library) → Except Failure (Output Library) → Prop
  | .ok out, .ok out' => out.Pairs out' job P
  | .error f, .error f' => Q f f'
  | _, _ => False

theorem EndAlike.imp {job : Job}
    {P P' : Reflection → Settings → List ReferencedLibrary → ExportedLibrary Library →
      ExportedLibrary Library → Prop} {Q Q' : Failure → Failure → Prop}
    {x x' : Except Failure (Output Library)} (h : EndAlike job P Q x x')
    (hP : ∀ unit settings references l l', settings.forDependency = job.settings.forDependency →
      P unit settings references l l' → P' unit settings references l l')
    (hQ : ∀ f f', Q f f' → Q' f f') : EndAlike job P' Q' x x' := by
  cases x with
  | error f =>
    cases x' with
    | error f' => exact hQ f f' h
    | ok out' => exact h
  | ok out =>
    cases x' with
    | error f' => exact h
    | ok out' =>
      obtain ⟨hmain, hlength, hdependencies⟩ := h
      refine ⟨hP _ _ _ _ _ rfl hmain, hlength, fun k l l' hl hl' => ?_⟩
      obtain ⟨unit, hunit, hname, hpair⟩ := hdependencies k l l' hl hl'
      exact ⟨unit, hunit, hname, hP _ _ _ _ _ rfl hpair⟩

/-- **Runs for two targets end alike**: both with libraries that look alike one by one, or both with
failures, which are the same if pointers have the same width. -/
theorem twins_run {job : Job} (width : PointerWidth) (dual : Bool)
    (hexact : ∀ unit ∈ job.unit :: job.dependencies, IsExact job.settings.pointerWidth width unit) :
    EndAlike job
      (fun unit settings references l l' =>
        Twins unit job.resolver settings (settings.retarget width dual) references l l')
      (fun f f' => job.settings.pointerWidth = width → f = f') job.toMemory
      (job.retarget width dual).toMemory := by
  obtain ⟨hunit, hunits⟩ := List.forall_mem_cons.mp hexact
  have hsettings : (twinCoupling job width dual hunits).settings job.settings
      (job.settings.retarget width dual) := ⟨rfl, rfl⟩
  have hsession : SameReach (GeneratedTwins job width dual)
      { world := { world := () }, references := job.settings.references }
      { world := { world := () }, references := job.settings.references } :=
    ⟨rfl, (List.append_nil _).symm, rfl, fun k l l' hl => Option.noConfusion rfl (heq_of_eq hl)⟩
  have hrun := Coupling.run _ hsettings hunit hsession (⟨rfl, rfl⟩ : AreFresh {} {})
  have hwatched := watchedRun_outcome job Draft.builder () {}
  have hwatched' := watchedRun_outcome (job.retarget width dual) Draft.builder () {}
  unfold Job.toMemory
  rw [← hwatched, ← hwatched']
  change Coupling.OutputsMeet _ _ _ _ (job.watchedRun Draft.builder () {})
    ((job.retarget width dual).watchedRun Draft.builder () {}) at hrun
  rcases h : job.watchedRun Draft.builder () {} with ⟨f | out, s⟩ <;>
    rcases h' : (job.retarget width dual).watchedRun Draft.builder () {} with ⟨f' | out', s'⟩ <;>
      rw [h, h'] at hrun
  · exact hrun.1
  · exact hrun.elim
  · exact hrun.elim
  · obtain ⟨hmain, ⟨-, hreferences, hlength, hpairs⟩, hdependencies, hdependencies'⟩ := hrun
    refine ⟨?_, by rw [hdependencies, hdependencies', hlength], fun k l l' hl hl' => ?_⟩
    · rw [hdependencies, ← hreferences]
      exact hmain
    · rw [hdependencies] at hl ⊢
      rw [hdependencies'] at hl'
      obtain ⟨unit, hunit, htwins⟩ := hpairs k l l' hl hl'
      exact ⟨unit, hunit, htwins.unitName.1, htwins⟩

end Automation.Export
