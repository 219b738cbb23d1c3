import Automation.Proofs.Export.DerivedGuids
import Automation.Proofs.Export.HandingOver
import Automation.Proofs.Export.Supplying

/-!
# Lookups by qualified names

A library finds its types by their qualified names, and so does the reference that it gives to other
units. The entries of a library are those of the exported types of its unit, in order (`Enters`), so a
lookup gives the first of the types with a qualified name. In a unit that is loaded that is the type
itself, unless an earlier one shares the name: `looksUp_run`.
-/

namespace Automation

namespace Source.SourceUnit

open Export (target?)

variable {identity : UnitIdentity} {types : List TypeDecl} {u : SourceUnit}

/-- The type of the unit is one of those that are exported. -/
def Exports (u : SourceUnit) (id : TypeId) (t : TypeDecl) : Prop :=
  u.types[id]? = some t ∧ (target? t).isSome

theorem Exports.unique {id : TypeId} {t t' : TypeDecl} (h : u.Exports id t) (h' : u.Exports id t') :
    t = t' := Option.some.inj (h.1.symm.trans h'.1)

/-- Of the exported types with a qualified name this is the first. -/
def IsFirst (u : SourceUnit) (qualified : String) (id : TypeId) : Prop :=
  (∃ t, u.Exports id t ∧ t.qualified = qualified) ∧
    ∀ earlier < id, ∀ t, u.Exports earlier t → t.qualified ≠ qualified

/-- A type of a unit that is loaded is the first with its qualified name unless it shares that name
with an earlier one. -/
theorem isFirst_iff (h : load identity types = .ok u) {id : TypeId} {t : TypeDecl}
    (ht : u.Exports id t) :
    u.IsFirst t.qualified id ↔
      ∀ earlier < id, ∀ t', u.Exports earlier t' → ¬t'.SharesName t := by
  have hequal : ∀ earlier < id, ∀ t', u.Exports earlier t' →
      (t'.qualified = t.qualified ↔ t'.SharesName t) := by
    intro earlier hlt t' ht'
    obtain ⟨hid, hget⟩ := List.getElem?_eq_some_iff.mp ht.1
    obtain ⟨hearlier, hget'⟩ := List.getElem?_eq_some_iff.mp ht'.1
    have hne := List.pairwise_iff_getElem.mp (pairwise_of_load h) earlier id hearlier hid hlt
    rw [hget, hget'] at hne
    exact TypeDecl.qualified_eq_iff.trans (or_iff_right hne)
  refine ⟨fun hfirst earlier hlt t' ht' => ?_, fun hnone => ⟨⟨t, ht, rfl⟩, ?_⟩⟩
  · exact mt (hequal earlier hlt t' ht').mpr (hfirst.2 earlier hlt t' ht')
  · exact fun earlier hlt t' ht' => mt (hequal earlier hlt t' ht').mp (hnone earlier hlt t' ht')

end Source.SourceUnit

namespace Export

open Library Source

variable {World Draft Committed : Type}

/-! ## Entries -/

/-- The ids of the types that are sorted out are those of the exported types. -/
theorem map_id_classified {unit : Reflection} {ids : List TypeId} {classified : List Classified}
    (h : classify unit ids = .ok classified) :
    classified.map (·.id) = ids.filter fun id => ((unit.type? id).bind target?).isSome := by
  induction ids generalizing classified with
  | nil =>
    obtain rfl := Except.ok.inj h
    rfl
  | cons id later ih =>
    unfold classify at h
    split at h
    · exact Except.noConfusion rfl rfl (heq_of_eq h)
    · next decl hdecl =>
      split at h
      · exact Except.noConfusion rfl rfl (heq_of_eq h)
      · next rest hrest =>
        split at h
        · next target htarget =>
          obtain rfl := Except.ok.inj h
          rw [List.map_cons, ih hrest, List.filter_cons_of_pos (by simp [hdecl, htarget])]
        · next hnone =>
          obtain rfl := Except.ok.inj h
          rw [ih hrest, List.filter_cons_of_neg (by simp [hdecl, hnone])]

/-- The entries are those of the exported types of the unit, in order, and perhaps others without a
source. -/
structure Enters (u : SourceUnit) (entries : List ExportedType) : Prop where
  complete : ∀ id t, u.Exports id t → ∃ e ∈ entries, e.id = some id
  ascending : entries.Pairwise fun e e' =>
    ∀ id, e.id = some id → ∀ id', e'.id = some id' → id < id'
  source : ∀ e ∈ entries, ∀ qualified,
    e.source = some qualified ↔ ∃ id t, e.id = some id ∧ u.Exports id t ∧ t.qualified = qualified

theorem filterMap_id_exported (p : Placed) (refs : ReferenceTable) :
    (p.exported refs).filterMap (·.id) = [p.type.id] := by
  simp [Placed.exported, List.filterMap_map]

/-- The entries of types in their places. -/
theorem enters_placed {u : SourceUnit} {placed : List Placed}
    (h : classify u.reflection u.reflection.ids = .ok (placed.map (·.type))) (refs : ReferenceTable) :
    Enters u (placed.flatMap (·.exported refs)) where
  complete id t ht := by
    have hid : id ∈ (placed.map (·.type)).map (·.id) := by
      rw [map_id_classified h]
      refine List.mem_filter.mpr ⟨List.mem_range.mpr (List.getElem?_eq_some_iff.mp ht.1).1, ?_⟩
      rw [type?_reflection, ht.1]
      exact ht.2
    obtain ⟨c, hc, rfl⟩ := List.mem_map.mp hid
    obtain ⟨p, hp, rfl⟩ := List.mem_map.mp hc
    refine ⟨_, List.mem_flatMap.mpr ⟨p, hp, List.mem_append_right _ (List.mem_singleton_self _)⟩, rfl⟩
  ascending := by
    have hids : (placed.flatMap (·.exported refs)).filterMap (·.id) =
        (placed.map (·.type)).map (·.id) := by
      rw [List.filterMap_flatMap, List.map_map, List.map_eq_flatMap]
      exact List.flatMap_congr fun p _ => filterMap_id_exported p refs
    have hascending := (List.pairwise_lt_range (n := u.types.length)).sublist (sublist_of_classify h)
    rw [← hids, List.pairwise_filterMap] at hascending
    exact hascending
  source e he qualified := by
    obtain ⟨p, hp, he⟩ := List.mem_flatMap.mp he
    obtain ⟨hdecl, htarget⟩ := classify_type? h _ (List.mem_map_of_mem hp)
    have hexports : u.Exports p.type.id p.type.decl := ⟨hdecl, by rw [htarget]; rfl⟩
    rcases List.mem_append.mp he with he | he
    · obtain ⟨c, -, rfl⟩ := List.mem_map.mp he
      exact iff_of_false (fun hsource => nomatch hsource) fun ⟨_, _, hid, _⟩ => nomatch hid
    · obtain rfl := List.mem_singleton.mp he
      constructor
      · intro hsource
        exact ⟨p.type.id, p.type.decl, rfl, hexports, Option.some.inj hsource⟩
      · rintro ⟨id, t, hid, ht, rfl⟩
        obtain rfl := Option.some.inj hid
        rw [hexports.unique ht]

variable {l : ExportedLibrary Committed} {u : SourceUnit}

/-- The entry that is found is there, and no entry before it has the qualified name. -/
theorem ExportedLibrary.exists_of_find? {qualified : String} {e : ExportedType} (hfind : l.find? qualified = some e) :
    e.source = some qualified ∧ ∃ before after, l.exported = before ++ e :: after ∧
      ∀ other ∈ before, other.source ≠ some qualified := by
  obtain ⟨hsource, before, after, hexported, hbefore⟩ := List.find?_eq_some_iff_append.mp hfind
  exact ⟨beq_iff_eq.mp hsource, before, after, hexported, fun other hother => by
    simpa using hbefore other hother⟩

/-- The lookups by a qualified name give the entry of the type with the id, and the index of that
entry. -/
def ExportedLibrary.Finds (l : ExportedLibrary Committed) (qualified : String) (id : TypeId) : Prop :=
  ∃ index e, l.exported[index]? = some e ∧ e.id = some id ∧ l.find? qualified = some e ∧
    l.reference.find? qualified = some (index, l.referencedType e)

namespace Enters

theorem exports (h : Enters u l.exported) {e : ExportedType} (he : e ∈ l.exported)
    {qualified : String} (hsource : e.source = some qualified) {id : TypeId} (hid : e.id = some id) :
    ∃ t, u.Exports id t ∧ t.qualified = qualified := by
  obtain ⟨id', t, hid', ht, hname⟩ := (h.source e he qualified).mp hsource
  obtain rfl := Option.some.inj (hid'.symm.trans hid)
  exact ⟨t, ht, hname⟩

/-- Entries further behind are those of later types. -/
theorem lt_of_mem_after (h : Enters u l.exported) {before after : List ExportedType}
    {e e' : ExportedType} (hexported : l.exported = before ++ e :: after) (he' : e' ∈ after)
    {id id' : TypeId} (hid : e.id = some id) (hid' : e'.id = some id') : id < id' := by
  have hascending := h.ascending
  rw [hexported] at hascending
  exact List.rel_of_pairwise_cons (List.pairwise_append.mp hascending).2.1 he' id hid id' hid'

theorem source_eq (h : Enters u l.exported) {e : ExportedType} (he : e ∈ l.exported) {id : TypeId}
    (hid : e.id = some id) {t : TypeDecl} (ht : u.Exports id t) : e.source = some t.qualified :=
  (h.source e he t.qualified).mpr ⟨id, t, hid, ht, rfl⟩

/-- What is found is the entry of the first type: an earlier one would have been found before it. -/
theorem isFirst_of_finds (h : Enters u l.exported) {qualified : String} {id : TypeId}
    (hfinds : l.Finds qualified id) : u.IsFirst qualified id := by
  obtain ⟨index, e, -, hid, hfind, -⟩ := hfinds
  obtain ⟨hsource, before, after, hexported, hbefore⟩ := ExportedLibrary.exists_of_find? hfind
  refine ⟨h.exports (List.mem_of_find?_eq_some hfind) hsource hid, ?_⟩
  rintro earlier hlt t ht rfl
  obtain ⟨e', he', hid'⟩ := h.complete earlier t ht
  have hsource' := h.source_eq he' hid' ht
  rw [hexported] at he'
  rcases List.mem_append.mp he' with he' | he'
  · exact hbefore e' he' hsource'
  · rcases List.mem_cons.mp he' with rfl | he'
    · exact absurd (Option.some.inj (hid'.symm.trans hid)) (Nat.ne_of_lt hlt)
    · exact absurd (h.lt_of_mem_after hexported he' hid hid') (Nat.lt_asymm hlt)

/-- The entry of the first type is found: no entry before it has the qualified name. -/
theorem finds_of_isFirst (h : Enters u l.exported) {qualified : String} {id : TypeId}
    (hfirst : u.IsFirst qualified id) : l.Finds qualified id := by
  obtain ⟨⟨t, ht, rfl⟩, hearlier⟩ := hfirst
  obtain ⟨e, he, hid⟩ := h.complete id t ht
  have hsource := h.source_eq he hid ht
  obtain ⟨e₀, hfind⟩ : ∃ e₀, l.find? t.qualified = some e₀ :=
    Option.isSome_iff_exists.mp (List.find?_isSome.mpr ⟨e, he, beq_iff_eq.mpr hsource⟩)
  obtain ⟨hsource₀, before, after, hexported, hbefore⟩ := ExportedLibrary.exists_of_find? hfind
  obtain ⟨id₀, t₀, hid₀, ht₀, hname₀⟩ :=
    (h.source e₀ (List.mem_of_find?_eq_some hfind) t.qualified).mp hsource₀
  have hsame : e = e₀ := by
    rw [hexported] at he
    rcases List.mem_append.mp he with he | he
    · exact absurd hsource (hbefore e he)
    · rcases List.mem_cons.mp he with hsame | he
      · exact hsame
      · exact absurd hname₀ (hearlier id₀ (h.lt_of_mem_after hexported he hid₀ hid) t₀ ht₀)
  subst hsame
  obtain ⟨index, hindex, hreference⟩ := ExportedLibrary.find?_reference hfind
  exact ⟨index, e, hindex, hid, hfind, hreference⟩

/-- **The lookups give the first type** with the qualified name. -/
theorem finds_iff (h : Enters u l.exported) {qualified : String} {id : TypeId} :
    l.Finds qualified id ↔ u.IsFirst qualified id :=
  ⟨h.isFirst_of_finds, h.finds_of_isFirst⟩

/-- An exported type has one entry. -/
theorem existsUnique (h : Enters u l.exported) {id : TypeId} {t : TypeDecl} (ht : u.Exports id t) :
    ∃! place : Nat × ExportedType, l.exported[place.1]? = some place.2 ∧ place.2.id = some id := by
  obtain ⟨e, he, hid⟩ := h.complete id t ht
  obtain ⟨index, hindex⟩ := List.mem_iff_getElem?.mp he
  refine ⟨(index, e), ⟨hindex, hid⟩, ?_⟩
  rintro ⟨other, e'⟩ ⟨hother, hid'⟩
  change l.exported[other]? = some e' at hother
  obtain ⟨hlt, rfl⟩ := List.getElem?_eq_some_iff.mp hindex
  obtain ⟨hlt', rfl⟩ := List.getElem?_eq_some_iff.mp hother
  have hascending := List.pairwise_iff_getElem.mp h.ascending
  rcases Nat.lt_trichotomy other index with hlt'' | rfl | hlt''
  · exact absurd (hascending other index hlt' hlt hlt'' id hid' id hid) (Nat.lt_irrefl id)
  · rfl
  · exact absurd (hascending index other hlt hlt' hlt'' id hid id hid') (Nat.lt_irrefl id)

end Enters

/-! ## Runs -/

section Runs

variable (b : Builder World Draft Committed) {p : Progress World Draft Committed}
  {resolver : Resolver} {settings : Settings} {unit : Reflection} {units : List Reflection}

/-- The entries are those of the exported types of the unit in their places. -/
def ArePlaced (unit : Reflection) (entries : List ExportedType) : Prop :=
  ∃ (placed : List Placed) (refs : ReferenceTable),
    classify unit unit.ids = .ok (placed.map (·.type)) ∧ entries = placed.flatMap (·.exported refs)

theorem ensures_buildReferring_placed {classified : List Classified}
    (hclassify : classify unit unit.ids = .ok classified) :
    Ensures (buildReferring b resolver settings unit classified) p
      (fun entries _ => ArePlaced unit entries) fun _ _ => True := by
  unfold buildReferring
  refine Ensures.bind (ensures_get trivial : Ensures _ p (fun _ _ => True) _) fun p' _ _ => ?_
  refine Ensures.bind (?_ : Ensures _ _ (fun _ _ => True) _) fun _ q₁ _ => ?_
  · unfold checkIdentity
    split
    · exact ensures_throw trivial
    · exact ensures_pure trivial
  refine Ensures.bind ((ensures_placeTypes_inPlace b).imp (fun _ _ h => h) fun _ _ _ => trivial) ?_
  rintro ⟨placed, refs⟩ q₂ hplaced
  refine Ensures.bind ((ensures_perform_aborted b _).imp (fun _ _ h => h) fun _ _ _ => trivial)
    fun _ _ _ => ensures_pure ⟨placed, _, ?_, rfl⟩
  rw [hclassify, hplaced.map_type]

/-- The library is that of the unit, with the entries of its exported types. -/
def IsPlaced (unit : Reflection) (l : ExportedLibrary Committed) : Prop :=
  l.unit = unit.identity.name ∧ ArePlaced unit l.exported

/-- The libraries that were made on demand are those of some of the units. -/
def Session.IsPlaced (units : List Reflection) (s : Session World Committed) : Prop :=
  ∀ l ∈ s.generated, ∃ unit ∈ units, Export.IsPlaced unit l

/-- What is known of an outcome: the entries of the library, and of those that were made on demand. -/
def OutcomePlaced (units : List Reflection) (unit : Reflection) : UnitOutcome World Committed → Prop
  | (.ok l, s) => IsPlaced unit l ∧ s.IsPlaced units
  | (.error _, _) => True

/-- A unit is built with the entries of its exported types, if all units that it may need are. -/
theorem ensures_build_placed {available : List Reflection} (havailable : available ⊆ units)
    {nested : (needed : Reflection) → needed ∈ available → Session World Committed → Draft →
      UnitOutcome World Committed}
    (hnested : ∀ (s : Session World Committed) (d : Draft) (_ : s.IsPlaced units) needed
      (hm : needed ∈ available), OutcomePlaced units needed (nested needed hm s d))
    (hp : p.session.IsPlaced units) :
    Ensures (build b resolver settings unit available nested) p
      (fun entries q => ArePlaced unit entries ∧ q.session.IsPlaced units) fun _ _ => True := by
  rw [build_eq]
  refine Ensures.bind (ensures_ofExcept (fun _ h => ⟨h, hp⟩) fun _ _ => trivial : Ensures _ p
    (fun classified q => classify unit unit.ids = .ok classified ∧ q.session.IsPlaced units) _) ?_
  rintro classified q ⟨hclassify, hq⟩
  refine Ensures.bind (ensures_exportUncovered (fun _ _ _ _ _ _ _ _ _ _ => trivial) ?_ hq :
    Ensures _ q (fun _ r => r.session.IsPlaced units) _) fun _ r hr => ?_
  · intro r name needed hm l s _ _ hr hl
    have hplaced : OutcomePlaced units needed (.ok l, s) := hl ▸ hnested (r.begin b) _ hr needed hm
    exact List.forall_mem_append.mpr ⟨hplaced.2,
      List.forall_mem_singleton.mpr ⟨needed, havailable hm, hplaced.1⟩⟩
  · refine ((ensures_buildReferring_placed b hclassify).and
      (ensures_buildReferring b resolver settings unit classified)).imp
        (fun entries r' h => ⟨h.1, ?_⟩) fun _ _ _ => trivial
    unfold Session.IsPlaced
    rw [h.2.2]
    exact hr

/-- **The entries of all libraries of a run are those of the exported types of their units.** -/
theorem outcomePlaced_exportUnit {available : List Reflection} (havailable : available ⊆ units)
    {s : Session World Committed} (d : Draft) (hs : s.IsPlaced units) :
    OutcomePlaced units unit (exportUnit b resolver settings available unit s d) := by
  induction available using available_induction generalizing settings unit s d with
  | step available ih =>
    have hbuild : ∀ p : Progress World Draft Committed, p.session.IsPlaced units →
        Ensures (build b resolver settings unit available fun needed _ =>
          exportUnit b resolver settings.forDependency (without available needed) needed) p
        (fun entries q => ArePlaced unit entries ∧ q.session.IsPlaced units) fun _ _ => True := by
      intro p hp
      refine ensures_build_placed b havailable (fun s d hs needed hm => ?_) hp
      exact ih needed hm (without_subset havailable needed) d hs
    rw [exportUnit]
    cases hresult : (build b resolver settings unit available _).run _ with
    | error e r => trivial
    | ok entries r =>
      have hr := (hbuild _ hs).of_ok hresult
      rcases hcommit : b.commit r.session.world r.draft with ⟨error | l, world⟩
      · simp only [finish, hcommit]
        trivial
      · simp only [finish, hcommit]
        exact ⟨⟨rfl, hr.1⟩, hr.2⟩

theorem isPlaced_run (job : Job) (world : World) (draft : Draft) {out : Output Committed}
    (hout : (job.run b world draft).1 = .ok out) : IsPlaced job.unit out.main ∧
      ∀ l ∈ out.dependencies, ∃ unit ∈ job.dependencies, IsPlaced unit l := by
  have havailable : without job.dependencies job.unit ⊆ job.dependencies :=
    without_subset (List.Subset.refl _) _
  have hplaced : OutcomePlaced job.dependencies job.unit
      (exportUnit b job.resolver job.settings (without job.dependencies job.unit) job.unit
        { world := world, references := job.settings.references } draft) :=
    outcomePlaced_exportUnit b havailable draft fun _ h => (List.not_mem_nil h).elim
  unfold Job.run at hout
  rcases hrun : exportUnit b job.resolver job.settings (without job.dependencies job.unit) job.unit
    { world := world, references := job.settings.references } draft with ⟨f | l, s⟩
  · rw [hrun] at hout
    exact Except.noConfusion rfl rfl (heq_of_eq hout)
  · rw [hrun] at hout hplaced
    rw [← Except.ok.inj hout]
    exact hplaced

/-- Each exported type of the unit has one entry in the library, and lookups by a qualified name give
that of the first type with the name. -/
structure LooksUp (u : SourceUnit) (l : ExportedLibrary Committed) : Prop where
  entry : ∀ id t, u.Exports id t →
    ∃! place : Nat × ExportedType, l.exported[place.1]? = some place.2 ∧ place.2.id = some id
  first : ∀ qualified id, l.Finds qualified id ↔ u.IsFirst qualified id
  /-- A type is found by its qualified name unless it shares that name with an earlier one. -/
  found : ∀ id t, u.Exports id t → (l.Finds t.qualified id ↔
    ∀ earlier < id, ∀ t', u.Exports earlier t' → ¬t'.SharesName t)

theorem looksUp_of_isPlaced {u : SourceUnit} {l : ExportedLibrary Committed}
    (hload : SourceUnit.load u.identity u.types = .ok u) (h : IsPlaced u.reflection l) :
    LooksUp u l := by
  obtain ⟨-, placed, refs, hclassify, hexported⟩ := h
  have henters : Enters u l.exported := hexported ▸ enters_placed hclassify refs
  exact ⟨fun _ _ ht => henters.existsUnique ht, fun _ _ => henters.finds_iff,
    fun _ _ ht => henters.finds_iff.trans (SourceUnit.isFirst_iff hload ht)⟩

/-- **What qualified names tell apart.** The types of a unit that is loaded have different qualified
names unless two of them cut one name at different dots; and of exported types that do, all lookups by
that name give the first, in the library of the unit and in those made on demand, whatever the builder
answers. -/
theorem looksUp_run (world : World) (draft : Draft) {u : SourceUnit} {others : List SourceUnit}
    (hload : ∀ v ∈ u :: others, SourceUnit.load v.identity v.types = .ok v) (settings : Settings)
    (resolver : Resolver) :
    (∀ v ∈ u :: others, (v.types.map (·.qualified)).Nodup ↔
      v.types.Pairwise fun t t' => ¬t.SharesName t') ∧
    ∀ out, ((Job.ofUnits u others settings resolver).run b world draft).1 = .ok out →
      LooksUp u out.main ∧
        ∀ l ∈ out.dependencies, ∃ v ∈ others, l.unit = v.identity.name ∧ LooksUp v l := by
  refine ⟨fun v hv => SourceUnit.nodup_qualified_iff (hload v hv), fun out hout => ?_⟩
  obtain ⟨hmain, hdependencies⟩ := isPlaced_run b _ world draft hout
  refine ⟨looksUp_of_isPlaced (hload u List.mem_cons_self) hmain, fun l hl => ?_⟩
  obtain ⟨unit, hunit, hplaced⟩ := hdependencies l hl
  obtain ⟨v, hv, rfl⟩ := List.mem_map.mp hunit
  exact ⟨v, hv, hplaced.1, looksUp_of_isPlaced (hload v (List.mem_cons_of_mem u hv)) hplaced⟩

end Runs

/-- A unit with a class, from whose members an interface is made, and a record behind it. -/
def marina : SourceUnit where
  identity := { name := "Marina", version := { major := 1 }, guid := some (Guid.ofBytes [9]) }
  types :=
    [{ space := "Sea", name := "Pilot", guid := some (Guid.ofBytes [1])
       body := .objectClass { classInterface := .autoDual }
       members := [Member.method "Board" (.scalar .i32)] },
     { space := "Sea", name := "Buoy", guid := some (Guid.ofBytes [2]), body := .record [] }]

/-- The record is the third type of the library. -/
theorem marina_looksUp : SourceUnit.load marina.identity marina.types = .ok marina ∧
    ∃ out, (Job.ofUnits marina [] {} Resolver.keep).toMemory = .ok out ∧
      (out.main.reference.find? "Sea.Buoy").map (·.1) = some 2 ∧ out.main.Finds "Sea.Buoy" 1 := by
  have hload : SourceUnit.load marina.identity marina.types = .ok marina := by
    have hfault : SourceUnit.firstFault? marina.types.length [] marina.types = none := by
      decide +kernel
    unfold SourceUnit.load
    rw [hfault]
  have hdots : ∀ t ∈ marina.types, '.' ∉ t.name.toList := by decide +kernel
  obtain ⟨out, hout, hindex⟩ : ∃ out, (Job.ofUnits marina [] {} Resolver.keep).toMemory = .ok out ∧
      (out.main.reference.find? "Sea.Buoy").map (·.1) = some 2 :=
    Job.exists_output (by decide +kernel)
  have hlooksUp := ((looksUp_run Library.Draft.builder () {} (List.forall_mem_singleton.mpr hload) {}
    Resolver.keep).2 out hout).1
  have hbuoy : marina.Exports 1 marina.types[1] := ⟨rfl, by decide +kernel⟩
  refine ⟨hload, out, hout, hindex, (hlooksUp.found 1 _ hbuoy).mpr fun earlier _ t ht => ?_⟩
  exact TypeDecl.not_sharesName (hdots t (List.mem_of_getElem? ht.1)) (by decide +kernel)

/-- A unit whose types have one qualified name, cut at different dots, and identifiers of their own. -/
def cloven : SourceUnit where
  identity := { name := "P", version := { major := 1 }, guid := some (Guid.ofBytes [9]) }
  types :=
    [{ space := "A.B", name := "C", guid := some (Guid.ofBytes [1]), body := .record [] },
     { space := "A", name := "B.C", guid := some (Guid.ofBytes [2]), body := .record [] }]

/-- The unit is accepted and exported, and all lookups give the first of its types. -/
theorem cloven_conflated : SourceUnit.load cloven.identity cloven.types = .ok cloven ∧
    cloven.types.map (·.qualified) = ["A.B.C", "A.B.C"] ∧
    ∃ out, (Job.ofUnits cloven [] {} Resolver.keep).toMemory = .ok out ∧
      out.main.exported.map (·.id) = [some 0, some 1] ∧
      (out.main.find? "A.B.C").bind (·.id) = some 0 ∧
      (out.main.reference.find? "A.B.C").map (·.1) = some 0 := by
  have hload : SourceUnit.firstFault? cloven.types.length [] cloven.types = none := by decide +kernel
  obtain ⟨out, hout, hview⟩ : ∃ out, (Job.ofUnits cloven [] {} Resolver.keep).toMemory = .ok out ∧
      (out.main.exported.map (·.id), (out.main.find? "A.B.C").bind (·.id),
        (out.main.reference.find? "A.B.C").map (·.1)) = ([some 0, some 1], some 0, some 0) :=
    Job.exists_output (by decide +kernel)
  obtain ⟨hids, hview⟩ := Prod.mk.inj hview
  refine ⟨?_, by decide +kernel, out, hout, hids, Prod.mk.inj hview⟩
  unfold SourceUnit.load
  rw [hload]

end Export

end Automation
