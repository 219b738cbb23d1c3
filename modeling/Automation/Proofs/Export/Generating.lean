import Automation.Proofs.Export.Libraries
import Automation.Proofs.Export.Protocol

/-!
# Exports on demand

However the available units refer to each other, a run begins no library twice
(`libraries_exportUnit`), and the libraries of a successful run can be told apart and import only
what was written out before them: `wellOrdered_run`.
-/

namespace Automation.Export

open Library Source

/-! ## How many libraries are made -/

section Count

variable {World Draft Committed : Type}

/-- The names of the units that can still be exported on demand. -/
def Session.openNames (s : Session World Committed) (available : List Reflection) : Finset String :=
  (available.map (·.identity.name)).toFinset.filter fun name => s.covers name = false

theorem mem_openNames {s : Session World Committed} {available : List Reflection} {name : String} :
    name ∈ s.openNames available ↔
      (∃ unit ∈ available, unit.identity.name = name) ∧ s.covers name = false := by
  simp [Session.openNames]

/-- The name of a unit that is exported is no longer open while that is done. -/
theorem card_openNames_without {s : Session World Committed} {available : List Reflection}
    {unit : Reflection} (hunit : unit ∈ available) (hcovers : s.covers unit.identity.name = false) :
    (s.openNames (without available unit)).card + 1 ≤ (s.openNames available).card := by
  apply Finset.card_lt_card
  refine Finset.ssubset_iff_subset_ne.mpr ⟨fun name hname => ?_, fun hsame => ?_⟩
  · obtain ⟨⟨other, hother, rfl⟩, hopen⟩ := mem_openNames.mp hname
    exact mem_openNames.mpr ⟨⟨other, List.mem_of_mem_filter hother, rfl⟩, hopen⟩
  · have hmem : unit.identity.name ∈ s.openNames available :=
      mem_openNames.mpr ⟨⟨unit, hunit, rfl⟩, hcovers⟩
    rw [← hsame] at hmem
    obtain ⟨⟨other, hother, hname⟩, -⟩ := mem_openNames.mp hmem
    simp [without, hname] at hother

/-- It is not open afterwards either, as it has a library then. -/
theorem openNames_generate_subset {s : Session World Committed} {available : List Reflection}
    {unit : Reflection} {l : ExportedLibrary Committed} (hl : l.unit = unit.identity.name) :
    (s.generate l).openNames available ⊆ s.openNames (without available unit) := by
  intro name hname
  obtain ⟨⟨other, hother, rfl⟩, hopen⟩ := mem_openNames.mp hname
  rw [covers_generate, Bool.or_eq_false_iff] at hopen
  refine mem_openNames.mpr ⟨⟨other, List.mem_filter.mpr ⟨hother, ?_⟩, rfl⟩, hopen.1⟩
  have hne := hopen.2
  rw [hl, beq_eq_false_iff_ne] at hne
  simpa using hne.symm

/-- An export makes at most one library for every name that is open, beside its own. -/
def Bounded (available : List Reflection) (unit : Reflection)
    (s : Session (Journal World) Committed) : UnitOutcome (Journal World) Committed → Prop
  | (.ok l, s') => l.unit = unit.identity.name ∧
      s'.world.libraries + (s'.openNames available).card ≤
        s.world.libraries + (s.openNames available).card
  | (.error _, s') => s'.world.libraries ≤ s.world.libraries + (s.openNames available).card

theorem Bounded.le {available : List Reflection} {unit : Reflection}
    {s : Session (Journal World) Committed} {o : UnitOutcome (Journal World) Committed}
    (h : Bounded available unit s o) :
    o.2.world.libraries ≤ s.world.libraries + (s.openNames available).card := by
  rcases o with ⟨f | l, s'⟩
  · exact h
  · exact (Nat.le_add_right _ _).trans h.2

theorem openNames_congr {s s' : Session World Committed} (hgenerated : s'.generated = s.generated)
    (hreferences : s'.references = s.references) (available : List Reflection) :
    s'.openNames available = s.openNames available := by
  simp [Session.openNames, Session.covers, hgenerated, hreferences]

/-- Exports on demand make at most one library for every name that is open, if each of them does. -/
theorem ensures_exportUncovered_bounded (b : Builder World Draft Committed) {settings : Settings}
    {available : List Reflection}
    {exportUnit : (unit : Reflection) → unit ∈ available → Session (Journal World) Committed →
      Nat × Draft → UnitOutcome (Journal World) Committed}
    (hnested : ∀ needed (hm : needed ∈ available) s draft,
      Bounded (without available needed) needed s (exportUnit needed hm s draft))
    (s : Session (Journal World) Committed) (draft : Nat × Draft) (queue : Diagnostic.Queue)
    (needs : Needs) :
    Ensures (exportUncovered b.journaled settings needs available exportUnit)
      { session := s, draft := draft, queue := queue }
      (fun _ q => q.session.world.libraries + (q.session.openNames available).card ≤
        s.world.libraries + (s.openNames available).card)
      (fun _ q => q.session.world.libraries ≤
        s.world.libraries + (s.openNames available).card) := by
  refine ensures_exportUncovered ?_ ?_ (Nat.le_refl _)
  all_goals
    rintro q _ needed hm outcome s' hcovers rfl hq houtcome
    have hbounded := hnested needed hm (q.begin b.journaled)
      (b.journaled.newLibrary q.session.world q.draft).2
    have hopen := card_openNames_without hm hcovers
    have hbegun : (q.begin b.journaled).world.libraries = q.session.world.libraries + 1 := rfl
    have hsame : (q.begin b.journaled).openNames (without available needed) =
        q.session.openNames (without available needed) := rfl
    rw [houtcome] at hbounded
    simp only [Bounded, hbegun, hsame] at hbounded
  · simp only
    omega
  · obtain ⟨hname, hle⟩ := hbounded
    have hsubset : (s'.generate outcome).openNames available ⊆
        s'.openNames (without available needed) := openNames_generate_subset hname
    have hcard := Finset.card_le_card hsubset
    have hlibraries : (q.generate needed.identity.name s' outcome).session =
        s'.generate outcome := rfl
    simp only [hlibraries]
    have hworld : (s'.generate outcome).world.libraries = s'.world.libraries := rfl
    omega

/-- **No unit is exported twice**, however the units refer to each other. -/
theorem libraries_exportUnit (b : Builder World Draft Committed) (resolver : Resolver)
    (settings : Settings) (available : List Reflection) (unit : Reflection)
    (s : Session (Journal World) Committed) (draft : Nat × Draft) :
    Bounded available unit s (exportUnit b.journaled resolver settings available unit s draft) := by
  induction available using available_induction generalizing settings unit s draft with
  | step available ih =>
    have hbuild := ensures_build_journaled resolver settings unit
      (ensures_exportUncovered_bounded b (fun needed hm => ih needed hm settings.forDependency needed)
        s draft (Diagnostic.Queue.empty settings.diagnostics))
    rw [exportUnit]
    rcases hr : (build b.journaled resolver settings unit available _).run _ with
      ⟨exported, r⟩ | ⟨e, r⟩
    · obtain ⟨q, calls, hq, hadds, -, -⟩ := hbuild.of_ok hr
      obtain ⟨outcome, -, hname, hcommit⟩ :=
        finish_journaled b unit.identity (settings.attributes unit.identity) exported r
      have hall := hadds.trans hcommit
      have hopen := openNames_congr hall.generated hall.references available
      have hlibraries := hall.libraries
      rcases hf : finish b.journaled unit.identity (settings.attributes unit.identity)
        (.ok exported r) with ⟨error | l, s'⟩
      all_goals
        rw [hf] at hopen hlibraries hname
        simp only at hopen hlibraries
      · simp only [Bounded]
        omega
      · refine ⟨hname l rfl, ?_⟩
        rw [hopen, hlibraries]
        exact hq
    · change r.session.world.libraries ≤ _
      rcases hbuild.of_error hr with hfailed | rfl | ⟨q, calls, hq, hadds, -, -⟩
      · exact hfailed
      · exact Nat.le_add_right _ _
      · rw [hadds.libraries]
        omega

end Count

/-! ## How the libraries refer to each other -/

/-- A reference of a library has a target: a type of the library itself, or one in its import
table. -/
def HasTarget (l : Library) : TypeRef → Prop
  | .own handle => handle.index < l.types.length
  | .imported library index =>
    ∃ imported, l.imports[library.index]? = some imported ∧ index < imported.typeNames.length

namespace ExportedFrom

variable {unit : Reflection} {resolver : Resolver} {settings : Settings}
  {references : List ReferencedLibrary} {placed : List Placed} {refs : ReferenceTable} {d : Draft}
  {l : ExportedLibrary Library}

/-- Only the standard library and referenced ones are imported. -/
theorem known (h : ExportedFrom unit resolver settings references placed refs d l) :
    ∀ i ∈ l.library.imports, i = Standard.library ∨ ∃ r ∈ references, i = r.toImport := by
  obtain ⟨classified, d₀, hbuilt⟩ := h.built
  rw [h.imports, hbuilt.written.imports]
  exact hbuilt.prepared.known

/-- The layouts have checked every reference. -/
theorem hasTarget (h : ExportedFrom unit resolver settings references placed refs d l) :
    ∀ t ∈ l.library.types, ∀ ref ∈ t.refs, HasTarget l.library ref := by
  obtain ⟨classified, d₀, hbuilt⟩ := h.built
  intro t ht ref href
  rw [h.types] at ht
  obtain ⟨i, hi⟩ := List.mem_iff_getElem?.mp ht
  have hopen := (hbuilt.content hi).2
  have hlt : i < d.types.length := (List.getElem?_eq_some_iff.mp hopen).1
  have hnone := h.faultless ⟨i⟩ (hbuilt.mem_handles hlt) t hopen
  have hresolves : d.resolves ref = true := by
    unfold Draft.layoutFault? at hnone
    split at hnone
    · exact Option.noConfusion rfl (heq_of_eq hnone)
    · next hall => simpa using List.any_eq_false.mp (Bool.eq_false_iff.mpr hall) ref href
  cases ref with
  | own handle =>
    change handle.index < l.library.types.length
    rw [h.types, Draft.length_infos]
    exact Draft.resolves_own.mp hresolves
  | imported library index =>
    obtain ⟨imported, himported, hindex⟩ := Draft.resolves_imported.mp hresolves
    exact ⟨imported, h.imports ▸ himported, hindex⟩

/-- The library can be told apart from the standard library and from those it may refer to. -/
theorem guid_ne (h : ExportedFrom unit resolver settings references placed refs d l) :
    l.library.attributes.guid ≠ Standard.guid ∧
      ∀ r ∈ references, r.guid ≠ l.library.attributes.guid := by
  have hdistinct := h.distinct
  rw [h.identity, ← h.attributes] at hdistinct
  unfold identityError? at hdistinct
  split at hdistinct
  · exact Option.noConfusion rfl (heq_of_eq hdistinct)
  · next hstandard =>
    rw [Option.map_eq_none_iff, List.find?_eq_none] at hdistinct
    exact ⟨hstandard, fun r hr hsame => hdistinct r hr (beq_iff_eq.mpr hsame)⟩

end ExportedFrom

/-- What a library may refer to, and what it can be told apart from: the libraries before it. -/
structure Follows (before : List (ExportedLibrary Library)) (l : ExportedLibrary Library) : Prop where
  unit : l.unit ∉ before.map (·.unit)
  guid : l.library.attributes.guid ∉ before.map (·.library.attributes.guid)
  standard : l.library.attributes.guid ≠ Standard.guid
  imports : ∀ i ∈ l.library.imports, i ≠ Standard.library →
    ∃ earlier ∈ before, i = earlier.reference.toImport
  targets : ∀ t ∈ l.library.types, ∀ ref ∈ t.refs, HasTarget l.library ref

variable {units : List Reflection} {resolver : Resolver} {settings : Settings}

theorem MadeAfter.follows {before : List (ExportedLibrary Library)} {l : ExportedLibrary Library}
    (h : MadeAfter units resolver settings before l) (hreferences : settings.references = [])
    (hbefore : ∀ earlier ∈ before, earlier.reference.guid = earlier.library.attributes.guid) :
    Follows before l := by
  obtain ⟨hunit, unit, -, placed, refs, d, hexported⟩ := h
  rw [hreferences, List.nil_append] at hexported
  obtain ⟨hstandard, hguid⟩ := hexported.guid_ne
  refine ⟨hunit, fun hmem => ?_, hstandard, fun i hi hne => ?_, hexported.hasTarget⟩
  · obtain ⟨earlier, hearlier, hsame⟩ := List.mem_map.mp hmem
    exact hguid _ (List.mem_map_of_mem hearlier) ((hbefore earlier hearlier).trans hsame)
  · rcases hexported.known i hi with hi | ⟨r, hr, hi⟩
    · exact absurd hi hne
    · obtain ⟨earlier, hearlier, rfl⟩ := List.mem_map.mp hr
      exact ⟨earlier, hearlier, hi⟩

theorem MadeAfter.guid_reference {before : List (ExportedLibrary Library)}
    {l : ExportedLibrary Library} (h : MadeAfter units resolver settings before l) :
    l.reference.guid = l.library.attributes.guid := by
  obtain ⟨-, unit, -, placed, refs, d, hexported⟩ := h
  rw [hexported.attributes, ← hexported.identity]
  rfl

/-- Elements are different if none is among those before it. -/
theorem nodup_map_of_take {α β : Type} {items : List α} (f : α → β)
    (h : ∀ k a, items[k]? = some a → f a ∉ (items.take k).map f) : (items.map f).Nodup := by
  rw [List.Nodup, List.pairwise_iff_getElem]
  intro i j hi hj hij hsame
  rw [List.length_map] at hi hj
  rw [List.getElem_map, List.getElem_map] at hsame
  apply h j items[j] (List.getElem?_eq_getElem hj)
  rw [← hsame]
  exact List.mem_map_of_mem (List.mem_take_iff_getElem.mpr ⟨i, by omega, rfl⟩)

/-- The libraries of a run can be told apart, and each imports only the standard library and those
that were written out before it. An entry for a dependency is that library alone. -/
structure WellOrdered (out : Output Library) : Prop where
  units : (out.main.unit :: out.dependencies.map (·.unit)).Nodup
  guids : ((out.main :: out.dependencies).map (·.library.attributes.guid)).Nodup
  standard : ∀ l ∈ out.main :: out.dependencies, l.library.attributes.guid ≠ Standard.guid
  imports : ∀ (k : Nat) (l : ExportedLibrary Library), out.dependencies[k]? = some l →
    ∀ i ∈ l.library.imports, i ≠ Standard.library → ∃ (j : Nat) (earlier : ExportedLibrary Library),
      j < k ∧ out.dependencies[j]? = some earlier ∧ i = earlier.reference.toImport
  mainImports : ∀ i ∈ out.main.library.imports, i ≠ Standard.library →
    ∃ l ∈ out.dependencies, i = l.reference.toImport
  targets : ∀ l ∈ out.main :: out.dependencies, ∀ t ∈ l.library.types, ∀ ref ∈ t.refs,
    HasTarget l.library ref

/-- **Exports on demand come to an end in good order.** Whatever the builder is, a run makes at most
one library for every name of an available unit, beside the one that it is about. Without
libraries to refer to from the start, the libraries of a successful run can be told apart, import
only what was written out before them, and have targets for all their references. -/
theorem wellOrdered_run (job : Job) (hreferences : job.settings.references = []) :
    (∀ {World Draft Committed : Type} (b : Builder World Draft Committed) (world : World)
        (draft : Draft), (job.journaledRun b world draft).2.world.libraries ≤
          1 + (job.dependencies.map (·.identity.name)).toFinset.card) ∧
      ∀ out, job.toMemory = .ok out →
        out.main.unit = job.unit.identity.name ∧ WellOrdered out := by
  refine ⟨@fun World Draft Committed b world draft => ?_, fun out h => ?_⟩
  · have hbounded := (libraries_exportUnit b job.resolver job.settings
      (without job.dependencies job.unit) job.unit
      { world := { world := world }, references := job.settings.references } (0, draft)).le
    let first : Session (Journal World) Committed :=
      { world := { world := world }, references := job.settings.references }
    have hcard : (first.openNames (without job.dependencies job.unit)).card ≤
        (job.dependencies.map (·.identity.name)).toFinset.card := by
      apply Finset.card_le_card
      intro name hname
      obtain ⟨⟨unit, hunit, rfl⟩, -⟩ := mem_openNames.mp hname
      exact List.mem_toFinset.mpr (List.mem_map_of_mem (List.mem_of_mem_filter hunit))
    exact hbounded.trans (Nat.add_le_add_left hcard 1)
  · obtain ⟨hdependencies, hmain⟩ := madeInTurn_run h
    have hguids : ∀ l ∈ out.dependencies, l.reference.guid = l.library.attributes.guid := by
      intro l hl
      obtain ⟨k, hk⟩ := List.mem_iff_getElem?.mp hl
      exact (hdependencies k l hk).guid_reference
    have hfollows : ∀ k l, out.dependencies[k]? = some l → Follows (out.dependencies.take k) l :=
      fun k l hl => (hdependencies k l hl).follows hreferences fun earlier hearlier =>
        hguids earlier (List.mem_of_mem_take hearlier)
    have hlast : Follows out.dependencies out.main := hmain.follows hreferences hguids
    have hall : ∀ l ∈ out.dependencies, ∃ before, Follows before l := fun l hl => by
      obtain ⟨k, hk⟩ := List.mem_iff_getElem?.mp hl
      exact ⟨_, hfollows k l hk⟩
    refine ⟨?_, ?_, ?_, ?_, ?_, hlast.imports, ?_⟩
    · obtain ⟨-, unit, hunit, placed, refs, d, hexported⟩ := hmain
      rw [hexported.unitName, List.mem_singleton.mp hunit]
    · exact List.nodup_cons.mpr ⟨hlast.unit, nodup_map_of_take _ fun k l hl => (hfollows k l hl).unit⟩
    · exact List.nodup_cons.mpr ⟨hlast.guid, nodup_map_of_take _ fun k l hl => (hfollows k l hl).guid⟩
    · refine List.forall_mem_cons.mpr ⟨hlast.standard, fun l hl => ?_⟩
      obtain ⟨before, h⟩ := hall l hl
      exact h.standard
    · intro k l hl i hi hne
      obtain ⟨earlier, hearlier, hi⟩ := (hfollows k l hl).imports i hi hne
      obtain ⟨j, hj, rfl⟩ := List.mem_take_iff_getElem.mp hearlier
      exact ⟨j, _, by omega, List.getElem?_eq_getElem (by omega), hi⟩
    · refine List.forall_mem_cons.mpr ⟨hlast.targets, fun l hl => ?_⟩
      obtain ⟨before, h⟩ := hall l hl
      exact h.targets

/-- A unit that needs a second one, which needs a third. The second one refers back to the first, and
the third to the second. -/
def ledger : Job where
  unit := SourceUnit.reflection
    { identity := { name := "Ledger", version := { major := 1 }, guid := some (Guid.ofBytes [9]) }
      types :=
        [{ space := "N", name := "Entry", guid := some (Guid.ofBytes [1])
           body := .record [{ name := "amount", type := .external ⟨"Money", "M", "Amount", .record⟩ }] }] }
  settings := { generateReferences := true }
  dependencies :=
    [SourceUnit.reflection
      { identity := { name := "Money", version := { major := 1 }, guid := some (Guid.ofBytes [8]) }
        types :=
          [{ space := "M", name := "Amount", guid := some (Guid.ofBytes [2])
             body := .record
               [{ name := "entry", type := .external ⟨"Ledger", "N", "Entry", .record⟩ },
                { name := "unit", type := .external ⟨"Coins", "C", "Coin", .record⟩ }] }] },
     SourceUnit.reflection
      { identity := { name := "Coins", version := { major := 1 }, guid := some (Guid.ofBytes [7]) }
        types :=
          [{ space := "C", name := "Coin", guid := some (Guid.ofBytes [3])
             body := .record
               [{ name := "value", type := .scalar .i32 },
                { name := "worth", type := .external ⟨"Money", "M", "Amount", .record⟩ }] }] }]

/-- Its libraries are written out in good order, the third unit first. -/
theorem ledger_wellOrdered : ∃ out, ledger.toMemory = .ok out ∧
    out.dependencies.map (·.unit) = ["Coins", "Money"] ∧ WellOrdered out := by
  have hview : ledger.toMemory.toOption.map (fun out => out.dependencies.map (·.unit)) =
      some ["Coins", "Money"] := by
    decide +kernel
  cases h : ledger.toMemory with
  | error e =>
    rw [h] at hview
    exact Option.noConfusion rfl (heq_of_eq hview)
  | ok out =>
    rw [h] at hview
    exact ⟨out, rfl, Option.some.inj hview, ((wellOrdered_run ledger rfl).2 out h).2⟩

end Automation.Export
