import Automation.Proofs.Export.Commits
import Automation.Proofs.Export.Inheriting

/-!
# The libraries of a run

`exists_exportedFrom` says of every library that a successful run writes out, be it the main one or
one made on demand, what it was made from: `ExportedFrom`. This is where facts about committed
libraries start.
-/

namespace Automation.Export

open Library Source

/-- The library was exported from the unit: `placed` are its types and `d` is the draft in which
nothing was wrong with any of them. -/
structure ExportedFrom (unit : Reflection) (resolver : Resolver) (settings : Settings)
    (references : List ReferencedLibrary) (placed : List Placed) (refs : ReferenceTable) (d : Draft)
    (l : ExportedLibrary Library) : Prop where
  built : ∃ classified d₀, Built unit resolver settings references classified placed refs d₀ d
  faultless : Faultless d (handlesOf placed)
  types : l.library.types = d.infos
  imports : l.library.imports = d.imports
  attributes : l.library.attributes = settings.attributes unit.identity
  identity : l.attributes = settings.attributes unit.identity
  exported : l.exported = placed.flatMap (·.exported
    (withDefaults (settingOf unit resolver settings refs).scope placed))
  unitName : l.unit = unit.identity.name
  /-- The library cannot be taken for one that it refers to. -/
  distinct : identityError? l.attributes.guid references = none
  /-- The diagnostics are what is said about exports on demand, about names and about the contents. -/
  said : ∃ notes classified, AreNotes notes ∧ classify unit unit.ids = .ok classified ∧
    l.diagnostics = ((((Diagnostic.Queue.empty settings.diagnostics).addAll notes).addAll
      (said (nameTypes resolver classified).2)).addAll
        (said (contents (settingOf unit resolver settings refs) placed).2)).diagnostics

/-- A draft with attributes all of whose types are laid out is committed. -/
theorem commit_of_finished {placed : List Placed} {d d' : Draft} {attributes : Attributes}
    (hattributes : d.attributes = some attributes)
    (hhandles : handlesOf placed = handlesFrom 0 d.types.length)
    (hfinished : Finished d d' (handlesOf placed)) (hsame : d.SameTypes d') :
    d'.commit = .ok { attributes := attributes, types := d.infos, imports := d.imports } := by
  have hall : d'.types.find? (fun t => !t.laidOut) = none := by
    rw [List.find?_eq_none]
    intro u hu hopen
    obtain ⟨i, hi⟩ := List.mem_iff_getElem?.mp hu
    obtain ⟨hnot, hbefore⟩ := hfinished i u hi (by simpa using hopen)
    refine hnot ?_
    rw [hhandles]
    refine List.mem_map_of_mem (List.mem_range'_1.mpr ⟨Nat.zero_le i, ?_⟩)
    rw [Nat.zero_add]
    exact (List.getElem?_eq_some_iff.mp hbefore).1
  unfold Draft.commit
  rw [hsame.attributes, hattributes, hall, hsame.infos, hsame.imports]

/-- A library that came to be is written out. -/
theorem finish_of_succeeded {unit : Reflection} {resolver : Resolver} {settings : Settings}
    {exported : List ExportedType} {q r : MemoryProgress}
    (h : Succeeded unit resolver settings exported q r) :
    ∃ l s placed refs d, finish watchedMemory unit.identity (settings.attributes unit.identity)
        (.ok exported r) = (.ok l, s) ∧
      ExportedFrom unit resolver settings q.session.references placed refs d l ∧
      s.references = q.session.references ∧ s.generated = q.session.generated ∧
      s.world.drafts = r.session.world.drafts := by
  obtain ⟨hidentity, ⟨notes, hnotes, hqueue⟩, classified, placed, refs, d₀, d, drafts, hbuilt, hnone,
    hfinished, hsame, rfl, hlogs, -, -, hsaid⟩ := h
  rw [hqueue] at hsaid
  have hcommit := commit_of_finished hbuilt.attributes hbuilt.handles hfinished hsame
  let library : Library :=
    { attributes := settings.attributes unit.identity, types := d.infos, imports := d.imports }
  refine ⟨{ library := library, unit := unit.identity.name
            attributes := settings.attributes unit.identity, exported := _
            diagnostics := r.queue.diagnostics },
    { r.session with world := { r.session.world with
        committed := r.session.world.committed ++ [library] } },
    placed, refs, d, ?_, ⟨⟨classified, d₀, hbuilt⟩, hnone, rfl, rfl, rfl, rfl, rfl, rfl, hidentity,
      notes, classified, hnotes, hbuilt.classify, congrArg (·.diagnostics) hsaid⟩, hlogs.references,
    hlogs.generated, rfl⟩
  simp only [finish, watchedMemory, Builder.watched, Draft.builder, hcommit]
  rfl

/-! ## All libraries of a run -/

/-- The library was exported from a unit of the list, in a run with the settings. -/
def ExportedIn (units : List Reflection) (resolver : Resolver) (settings : Settings)
    (l : ExportedLibrary Library) : Prop :=
  ∃ unit ∈ units, ∃ own references placed refs d, own.forDependency = settings.forDependency ∧
    ExportedFrom unit resolver own references placed refs d l

/-- The library was exported from a unit of the list after the libraries `before`: it refers to these
and to the ones of the settings, and none of them comes from its unit. -/
def MadeAfter (units : List Reflection) (resolver : Resolver) (settings : Settings)
    (before : List (ExportedLibrary Library)) (l : ExportedLibrary Library) : Prop :=
  l.unit ∉ before.map (·.unit) ∧ ∃ unit ∈ units, ∃ placed refs d,
    ExportedFrom unit resolver settings (settings.references ++ before.map (·.reference)) placed
      refs d l

/-- The libraries were exported from units of the list, one after the other. -/
def MadeInTurn (units : List Reflection) (resolver : Resolver) (settings : Settings)
    (libraries : List (ExportedLibrary Library)) : Prop :=
  ∀ k l, libraries[k]? = some l → MadeAfter units resolver settings (libraries.take k) l

variable {units : List Reflection} {resolver : Resolver} {settings : Settings}

theorem MadeInTurn.append {libraries : List (ExportedLibrary Library)} {l : ExportedLibrary Library}
    (h : MadeInTurn units resolver settings libraries)
    (hl : MadeAfter units resolver settings libraries l) :
    MadeInTurn units resolver settings (libraries ++ [l]) := by
  intro k l' hl'
  rcases Nat.lt_or_ge k libraries.length with hlt | hge
  · rw [List.getElem?_append_left hlt] at hl'
    rw [List.take_append_of_le_length (Nat.le_of_lt hlt)]
    exact h k l' hl'
  · rw [List.getElem?_append_right hge, List.getElem?_singleton] at hl'
    split at hl'
    · next hk =>
      obtain rfl := Option.some.inj hl'
      have hlength : k = libraries.length := by omega
      rwa [hlength, List.take_left]
    · exact Option.noConfusion rfl (heq_of_eq hl')

theorem MadeAfter.mono {units' : List Reflection} {before : List (ExportedLibrary Library)}
    {l : ExportedLibrary Library} (h : MadeAfter units resolver settings before l)
    (hunits : units ⊆ units') : MadeAfter units' resolver settings before l := by
  obtain ⟨hname, unit, hunit, hexported⟩ := h
  exact ⟨hname, unit, hunits hunit, hexported⟩

/-- A session in which libraries were made in turn, and in which types resolve against these and
against those of the settings. -/
structure InTurn (units : List Reflection) (resolver : Resolver) (settings : Settings)
    (s : Session (Watch Unit Draft Library) Library) : Prop where
  references : s.references = settings.references ++ s.generated.map (·.reference)
  made : MadeInTurn units resolver settings.forDependency s.generated

/-- The names of the units that were exported on demand. -/
def Session.unitNames {World Committed : Type} (s : Session World Committed) : List String :=
  s.generated.map (·.unit)

theorem MadeAfter.unit_eq {unit : Reflection} {before : List (ExportedLibrary Library)}
    {l : ExportedLibrary Library} (h : MadeAfter [unit] resolver settings before l) :
    l.unit = unit.identity.name := by
  obtain ⟨-, unit', hunit', placed, refs, d, hexported⟩ := h
  rw [hexported.unitName, List.mem_singleton.mp hunit']

/-- A library that is made on demand comes after those that it needs. -/
theorem InTurn.generate {s : Session (Watch Unit Draft Library) Library} {needed : Reflection}
    {l : ExportedLibrary Library} (h : InTurn units resolver settings.forDependency s)
    (hneeded : needed ∈ units)
    (hl : MadeAfter [needed] resolver settings.forDependency s.generated l) :
    InTurn units resolver settings (s.generate l) where
  references := by
    change s.references ++ [l.reference] =
      settings.references ++ (s.generated ++ [l]).map (·.reference)
    rw [h.references, List.map_append, List.append_assoc]
    rfl
  made := h.made.append (hl.mono fun _ hu => List.mem_singleton.mp hu ▸ hneeded)

/-- The library of a unit comes after those that were made on demand for it. -/
theorem InTurn.finish {unit : Reflection} {exported : List ExportedType} {q r : MemoryProgress}
    (h : InTurn units resolver settings q.session)
    (hname : unit.identity.name ∉ q.session.unitNames)
    (hsucceeded : Succeeded unit resolver settings exported q r)
    {l : ExportedLibrary Library} {s : Session (Watch Unit Draft Library) Library}
    (hl : Export.finish watchedMemory unit.identity (settings.attributes unit.identity)
      (.ok exported r) = (.ok l, s)) :
    InTurn units resolver settings s ∧ MadeAfter [unit] resolver settings s.generated l ∧
      s.unitNames = q.session.unitNames := by
  obtain ⟨l', s', placed, refs, d, hfinish, hexported, hreferences, hgenerated, -⟩ :=
    finish_of_succeeded hsucceeded
  rw [hfinish] at hl
  obtain ⟨hlibrary, rfl⟩ := Prod.mk.inj hl
  obtain rfl := Except.ok.inj hlibrary
  have hnames : s'.unitNames = q.session.unitNames := congrArg (List.map _) hgenerated
  refine ⟨⟨?_, hgenerated ▸ h.made⟩,
    ⟨?_, unit, List.mem_singleton_self _, placed, refs, d, ?_⟩, hnames⟩
  · rw [hreferences, hgenerated, h.references]
  · rwa [hexported.unitName, ← Session.unitNames, hnames]
  · rw [hgenerated, ← h.references]
    exact hexported

/-- Exports on demand make libraries in turn if each of them does. -/
theorem ensures_exportUncovered_inTurn {available : List Reflection} (havailable : available ⊆ units)
    {exportUnit : (unit : Reflection) → unit ∈ available → Session (Watch Unit Draft Library) Library →
      Draft → UnitOutcome (Watch Unit Draft Library) Library}
    (hnested : ∀ needed (hm : needed ∈ available) {s s' l}, needed.identity.name ∉ s.unitNames →
      InTurn units resolver settings.forDependency s → exportUnit needed hm s {} = (.ok l, s') →
      InTurn units resolver settings.forDependency s' ∧
        MadeAfter [needed] resolver settings.forDependency s'.generated l ∧
        ∀ name ∈ s'.unitNames, name ∈ s.unitNames ∨
          ∃ other ∈ without available needed, other.identity.name = name)
    {p : MemoryProgress} (hfresh : p.draft = {}) (hp : InTurn units resolver settings p.session)
    (needs : Needs) :
    Ensures (exportUncovered watchedMemory settings needs available exportUnit) p
      (fun _ q => q.draft = {} ∧ InTurn units resolver settings q.session ∧
        ∀ name ∈ q.session.unitNames, name ∈ p.session.unitNames ∨
          ∃ other ∈ available, other.identity.name = name)
      (fun _ _ => True) := by
  refine ensures_exportUncovered (fun _ _ _ _ _ _ _ _ _ _ => trivial) ?_
    ⟨hfresh, hp, fun _ h => .inl h⟩
  rintro q name needed hm l s' hcovers rfl ⟨hdraft, hq, hnames⟩ hl
  have huncovered : needed.identity.name ∉ q.session.unitNames := by
    intro hmem
    obtain ⟨l, hl, hunit⟩ := List.mem_map.mp hmem
    have hnone := (Bool.or_eq_false_iff.mp hcovers).1
    exact List.any_eq_false.mp hnone l hl (beq_iff_eq.mpr hunit)
  have hbegun : InTurn units resolver settings.forDependency (q.begin watchedMemory) :=
    ⟨hq.references, hq.made⟩
  obtain ⟨hs', hafter, hnames'⟩ := hnested needed hm huncovered hbegun hl
  refine ⟨hdraft, hs'.generate (havailable hm) hafter, fun name hmem => ?_⟩
  change name ∈ (s'.generated ++ [l]).map (·.unit) at hmem
  rw [List.map_append] at hmem
  rcases List.mem_append.mp hmem with hmem | hmem
  · rcases hnames' name hmem with hmem | ⟨other, hother, hsame⟩
    · exact hnames name hmem
    · exact .inr ⟨other, List.mem_of_mem_filter hother, hsame⟩
  · exact .inr ⟨needed, hm, hafter.unit_eq ▸ (List.mem_singleton.mp hmem).symm⟩

/-- **The libraries that an export makes on demand are made in turn**, and its own after them. -/
theorem madeAfter_exportUnit {available : List Reflection} (havailable : available ⊆ units)
    {unit : Reflection} (hother : ∀ other ∈ available, other.identity.name ≠ unit.identity.name)
    {s s' : Session (Watch Unit Draft Library) Library} (hname : unit.identity.name ∉ s.unitNames)
    (hs : InTurn units resolver settings s) {l : ExportedLibrary Library}
    (h : exportUnit watchedMemory resolver settings available unit s {} = (.ok l, s')) :
    InTurn units resolver settings s' ∧ MadeAfter [unit] resolver settings s'.generated l ∧
      ∀ name ∈ s'.unitNames, name ∈ s.unitNames ∨ ∃ other ∈ available, other.identity.name = name := by
  induction available using available_induction generalizing settings unit s s' l with
  | step available ih =>
    let p : MemoryProgress :=
      { session := s, draft := {}, queue := Diagnostic.Queue.empty settings.diagnostics }
    have hneeded := @ensures_exportUncovered_inTurn _ _ settings _ havailable
      (fun needed _ =>
        exportUnit watchedMemory resolver settings.forDependency (without available needed) needed)
      (fun needed hm _ _ _ hname hs hl => ih needed hm (without_subset havailable needed)
        (fun _ => name_ne_of_mem_without) hname hs hl) p rfl hs
    have hbuild := ensures_build True resolver unit rfl hneeded
      (fun hbad => (hbad trivial).elim) (fun hbad => (hbad trivial).elim)
      fun hbad => (hbad trivial).elim
    rw [exportUnit] at h
    generalize hr : (build watchedMemory resolver settings unit available _).run _ = result at h
    cases result with
    | error e r => exact Except.noConfusion rfl rfl (heq_of_eq (Prod.mk.inj h).1)
    | ok exported r =>
      obtain ⟨q, ⟨hq, hnames⟩, hsucceeded⟩ := hbuild.of_ok hr
      have hown : unit.identity.name ∉ q.session.unitNames := by
        intro hmem
        rcases hnames _ hmem with hmem | ⟨other, hmem, hsame⟩
        · exact hname hmem
        · exact hother other hmem hsame
      obtain ⟨hs', hl, hsame⟩ := hq.finish hown hsucceeded h
      exact ⟨hs', hl, hsame ▸ hnames⟩

/-- A run of which something is seen is successful. -/
theorem Job.exists_output {job : Job} {α : Type} {view : Output Library → α} {a : α}
    (h : job.toMemory.toOption.map view = some a) :
    ∃ out, job.toMemory = .ok out ∧ view out = a := by
  cases hrun : job.toMemory with
  | error f =>
    rw [hrun] at h
    exact Option.noConfusion rfl (heq_of_eq h)
  | ok out =>
    rw [hrun] at h
    exact ⟨out, rfl, Option.some.inj h⟩

/-- **The libraries of a successful run** were made one after the other: those on demand from the
available units, and the main one from the unit of the job. -/
theorem madeInTurn_run {job : Job} {out : Output Library} (h : job.toMemory = .ok out) :
    MadeInTurn job.dependencies job.resolver job.settings.forDependency out.dependencies ∧
      MadeAfter [job.unit] job.resolver job.settings out.dependencies out.main := by
  have hwatched : (job.watchedRun Draft.builder () {}).1 = .ok out :=
    (watchedRun_outcome job Draft.builder () {}).trans h
  unfold Job.watchedRun Job.run at hwatched
  rcases hrun : exportUnit Draft.builder.watched job.resolver job.settings
    (without job.dependencies job.unit) job.unit
      { world := { world := () }, references := job.settings.references } {} with ⟨outcome, s⟩
  rw [hrun] at hwatched
  cases outcome with
  | error f => exact Except.noConfusion rfl rfl (heq_of_eq hwatched)
  | ok l =>
    obtain rfl := Except.ok.inj hwatched
    obtain ⟨hs, hmain, -⟩ := madeAfter_exportUnit (without_subset (List.Subset.refl _) _)
      (fun _ => name_ne_of_mem_without) List.not_mem_nil
      ⟨(List.append_nil _).symm, fun k l hl => Option.noConfusion rfl (heq_of_eq hl)⟩ hrun
    exact ⟨hs.made, hmain⟩

/-- **Every library of a successful run was exported from one of its units.** -/
theorem exists_exportedFrom {job : Job} {out : Output Library} (h : job.toMemory = .ok out) :
    ∀ l ∈ out.main :: out.dependencies,
      ExportedIn (job.unit :: job.dependencies) job.resolver job.settings l := by
  obtain ⟨hdependencies, -, unit, hunit, placed, refs, d, hmain⟩ := madeInTurn_run h
  obtain rfl := List.mem_singleton.mp hunit
  refine List.forall_mem_cons.mpr ⟨⟨_, List.mem_cons_self, _, _, placed, refs, d, rfl, hmain⟩,
    fun l hl => ?_⟩
  obtain ⟨k, hk⟩ := List.mem_iff_getElem?.mp hl
  obtain ⟨-, unit, hunit, placed, refs, d, hexported⟩ := hdependencies k l hk
  exact ⟨unit, List.mem_cons_of_mem _ hunit, job.settings.forDependency, _, placed, refs, d, rfl,
    hexported⟩

/-- The property holds of the library of the unit and of every library that was made on demand: of the
unit, the settings, the libraries that types resolved against, and the library. -/
def Output.Forall (out : Output Library) (job : Job)
    (P : Reflection → Settings → List ReferencedLibrary → ExportedLibrary Library → Prop) : Prop :=
  P job.unit job.settings (job.settings.references ++ out.dependencies.map (·.reference)) out.main ∧
    ∀ (k : Nat) (l : ExportedLibrary Library), out.dependencies[k]? = some l →
      ∃ unit ∈ job.dependencies, l.unit = unit.identity.name ∧
        P unit job.settings.forDependency
          (job.settings.references ++ (out.dependencies.take k).map (·.reference)) l

/-- What holds of every library that is exported holds of all libraries of a successful run. -/
theorem forall_run {job : Job} {out : Output Library} (h : job.toMemory = .ok out)
    {P : Reflection → Settings → List ReferencedLibrary → ExportedLibrary Library → Prop}
    (hP : ∀ {unit settings placed refs d l} (before : List (ExportedLibrary Library)),
      before ⊆ out.dependencies →
      ExportedFrom unit job.resolver settings
        (job.settings.references ++ before.map (·.reference)) placed refs d l →
          P unit settings (job.settings.references ++ before.map (·.reference)) l) :
    out.Forall job P := by
  obtain ⟨hdependencies, -, unit, hunit, placed, refs, d, hmain⟩ := madeInTurn_run h
  obtain rfl := List.mem_singleton.mp hunit
  refine ⟨hP out.dependencies (fun l hl => hl) hmain, fun k l hl => ?_⟩
  obtain ⟨-, unit, hunit, placed, refs, d, hexported⟩ := hdependencies k l hl
  exact ⟨unit, hunit, hexported.unitName,
    hP (out.dependencies.take k) (fun l hl => List.mem_of_mem_take hl) hexported⟩

/-! ## The types of a library -/

namespace ExportedFrom

variable {unit : Reflection} {resolver : Resolver} {settings : Settings}
  {references : List ReferencedLibrary} {placed : List Placed} {refs : ReferenceTable} {d : Draft}
  {l : ExportedLibrary Library}

/-- Every type of the library is what its pass has made of it. -/
theorem content (h : ExportedFrom unit resolver settings references placed refs d l) {i : Nat}
    {t : TypeInfo} (ht : l.library.types[i]? = some t) :
    Content (settings.attributes unit.identity).version (settingOf unit resolver settings refs)
      placed ⟨i⟩ t := by
  obtain ⟨classified, d₀, hbuilt⟩ := h.built
  rw [h.types] at ht
  exact (hbuilt.content ht).1

/-- Nothing is wrong with an interface of the library. -/
theorem interfaceFault? (h : ExportedFrom unit resolver settings references placed refs d l) {i : Nat}
    {t : TypeInfo} (ht : l.library.types[i]? = some t) (hkind : t.kind.isInterface = true) :
    Layout.interfaceFault? t ((baseChain l.library.types i).flatMap (idsAt l.library.types))
      l.library.attributes.pointerWidth.bytes = none := by
  obtain ⟨classified, d₀, hbuilt⟩ := h.built
  rw [h.types] at ht
  have hopen := (hbuilt.content ht).2
  have hlt : i < d.types.length := (List.getElem?_eq_some_iff.mp hopen).1
  have hnone := h.faultless ⟨i⟩ (hbuilt.mem_handles hlt) t hopen
  have hslot : d.slot = l.library.attributes.pointerWidth.bytes := by
    rw [hbuilt.slot, h.attributes]
    rfl
  unfold Draft.layoutFault? at hnone
  split at hnone
  · exact Option.noConfusion rfl (heq_of_eq hnone)
  · rwa [hslot, inheritedIds_eq, ← h.types] at hnone

end ExportedFrom

end Automation.Export
