import Automation.Proofs.Export.Tables
import Automation.Proofs.Export.Units

/-!
# What the layout finds

In the library of a source unit, the layout finds a fault in a type exactly if the base chain of the
type crosses a cut: `Built.layoutFault?_eq_none`. References have targets (`Built.refs_resolve`),
classes have one default interface, and tables are as the layout wants them as long as both count the
same slots.
-/

namespace Automation.Export

open Library Source

/-! ## References of a type -/

theorem mem_refs {t : TypeInfo} {ref : TypeRef} (h : ref ∈ t.refs) :
    (∃ e ∈ t.implemented, e.ref = ref) ∨ (∃ f ∈ t.functions, ref ∈ f.desc.refs) ∨
      ∃ v ∈ t.vars, ∃ element, v.desc.content = .field element ∧ ref ∈ element.type.ref? := by
  unfold TypeInfo.refs at h
  rcases List.mem_append.mp h with h | h
  · rcases List.mem_append.mp h with h | h
    · exact .inl (List.mem_map.mp h)
    · exact .inr (.inl (List.mem_flatMap.mp h))
  · obtain ⟨v, hv, href⟩ := List.mem_filterMap.mp h
    split at href
    · next element hcontent => exact .inr (.inr ⟨v, hv, element, hcontent, href⟩)
    · exact nomatch href

/-- Constants refer to nothing. -/
theorem constantVariables_ne_field (constants : List (EnumConstant × Option String)) :
    ∀ v ∈ constantVariables constants, ∀ element, v.desc.content ≠ .field element := by
  induction constants with
  | nil => exact fun _ hv => (nomatch hv)
  | cons constant later ih =>
    rcases constant with ⟨c, name | name⟩
    · exact ih
    · exact List.forall_mem_cons.mpr ⟨fun element h => VariableContent.noConfusion h, ih⟩

theorem length_memberFunctions_le (y : Synthesis) (owner : TypeDecl) :
    (memberFunctions y owner).length ≤ owner.members.length :=
  (List.length_filterMap_le _ _).trans (List.length_filter_le _ _)

namespace Built

variable {u : SourceUnit} {resolver : Resolver} {settings : Settings}
  {references : List ReferencedLibrary} {classified : List Classified} {placed : List Placed}
  {refs : ReferenceTable} {d₀ d : Draft} {i : Nat} {t : TypeInfo}

theorem resolves (h : Built u.reflection resolver settings references classified placed refs d₀ d)
    (ref : TypeRef) : d.resolves ref = d₀.resolves ref := by
  cases ref with
  | own handle => simp only [Draft.resolves, h.written.length]
  | imported library index => simp only [Draft.resolves, h.written.imports]

/-- **References in a library have targets.** -/
theorem refs_resolve (h : Built u.reflection resolver settings references classified placed refs d₀ d)
    (htrusted : Trusted references) (ht : d.infos[i]? = some t) :
    ∀ ref ∈ t.refs, d.resolves ref = true := by
  have hderivable : ∀ p ∈ placed, Derivable (settingOf u.reflection resolver settings refs).scope d₀ p :=
    fun p hp => h.prepared.derivable htrusted rfl hp
  have htable : (withDefaults (settingOf u.reflection resolver settings refs).scope placed).Resolves
      d₀ := by
    refine ReferenceTable.Resolves.withDefaults (h.prepared.resolves htrusted) fun p hp c hc => ?_
    exact h.prepared.resolves_handle hp (Placed.interface_mem hc)
  intro ref href
  rw [h.resolves]
  have hcontent := (h.content ht).1
  generalize (⟨i⟩ : Handle) = k at hcontent
  cases hcontent with
  | @interface f hfill =>
    obtain ⟨hp, binding, base, htarget, hmade⟩ := mem_filling hfill
    rcases mem_refs href with ⟨e, he, rfl⟩ | ⟨g, hg, href⟩ | ⟨v, hv, -⟩
    · exact (hderivable f.1 hp).2.1 e he
    · obtain ⟨s, hs, rfl⟩ := List.mem_map.mp hg
      rw [hmade] at hs
      exact functionRefs_resolve (by exact htable) hs ref href
    · exact nomatch hv
  | @classInterface p c hp hc =>
    rcases mem_refs href with ⟨e, he, rfl⟩ | ⟨g, hg, href⟩ | ⟨v, hv, -⟩
    · exact (hderivable p hp).2.2 c hc e he
    · obtain ⟨s, hs, rfl⟩ := List.mem_map.mp hg
      exact functionRefs_resolve (by exact htable) hs ref href
    · exact nomatch hv
  | @coClass p hp hkind =>
    rcases mem_refs href with ⟨e, he, rfl⟩ | ⟨g, hg, -⟩ | ⟨v, hv, -⟩
    · exact (hderivable p hp).2.1 e he
    · exact nomatch hg
    · exact nomatch hv
  | @record p hp htarget =>
    rcases mem_refs href with ⟨e, he, rfl⟩ | ⟨g, hg, -⟩ | ⟨v, hv, element, hfield, href⟩
    · exact (hderivable p hp).2.1 e he
    · exact nomatch hg
    · obtain ⟨element', hfield', hresolves⟩ := fieldRefs_resolve (by exact htable) _ _ _ v hv
      obtain rfl := VariableContent.field.inj (hfield.symm.trans hfield')
      exact hresolves ref href
  | @enumeration p hp htarget =>
    rcases mem_refs href with ⟨e, he, rfl⟩ | ⟨g, hg, -⟩ | ⟨v, hv, element, hfield, -⟩
    · exact (hderivable p hp).2.1 e he
    · exact nomatch hg
    · exact (constantVariables_ne_field _ v hv element hfield).elim

/-! ## Classes -/

/-- A class has one default interface. -/
theorem classFault?_eq_none
    (h : Built u.reflection resolver settings references classified placed refs d₀ d)
    (htrusted : Trusted references) (ht : d.infos[i]? = some t) (hkind : t.kind = .coClass) :
    Layout.classFault? t = none := by
  obtain ⟨p, hp, hclass, rfl⟩ := (h.content ht).1.exists_class hkind
  obtain ⟨creatable, binding, htarget⟩ := Target.eq_coClass hclass
  have hderivable : Derivable (settingOf u.reflection resolver settings refs).scope d₀ p :=
    h.prepared.derivable htrusted rfl hp
  obtain ⟨c, hc⟩ := Option.isSome_iff_exists.mp (classImplements_isSome
    (hderivable.1 (by rw [htarget]; rfl)) p.type.decl (p.classInterface.map (·.handle)))
  have himplemented : p.implemented (settingOf u.reflection resolver settings refs).scope =
      c.entries := by
    unfold Placed.implemented Placed.implements
    rw [htarget, hc]
    rfl
  unfold Layout.classFault?
  change (if (p.implemented _).countP _ = 1 then none else _) = none
  rw [himplemented, if_pos (countP_isDefault_entries hc)]

/-! ## Few functions -/

theorem slotsAt_content
    (h : Built u.reflection resolver settings references classified placed refs d₀ d) {k : Handle}
    (hcontent : Content (settings.attributes u.reflection.identity).version
      (settingOf u.reflection resolver settings refs) placed k t) :
    slotsAt d.infos k.index = t.functions.length := by
  unfold slotsAt
  rw [h.info_of_content hcontent]

/-- A type and the interface made from it have no more functions than the type has members. -/
theorem sum_slotsAt_handles_le
    (h : Built u.reflection resolver settings references classified placed refs d₀ d) {p : Placed}
    (hp : p ∈ placed) :
    (p.handles.map fun k => slotsAt d.infos k.index).sum ≤ p.type.decl.members.length := by
  have hfunctions : ∀ y base, (interfaceFunctions y p.type.decl base).functions.length ≤
      p.type.decl.members.length := fun y base => by
    rw [length_functions]
    exact length_memberFunctions_le y _
  -- Either the type has functions or the interface made from it.
  have hmade : ∀ c ∈ p.classInterface, slotsAt d.infos c.handle.index ≤ p.type.decl.members.length := by
    intro c hc
    rw [h.slotsAt_content (.classInterface hp hc)]
    change ((interfaceFunctions _ _ _).functions.map _).length ≤ _
    rw [List.length_map]
    exact hfunctions _ _
  have hown : slotsAt d.infos p.handle.index ≤ p.type.decl.members.length ∧
      (p.classInterface.isSome → slotsAt d.infos p.handle.index = 0) := by
    cases htarget : p.type.target with
    | interface binding =>
      obtain ⟨made, hfill⟩ := exists_mem_filling
        (s := (settingOf u.reflection resolver settings refs).withDefaults placed) hp
          (by rw [htarget]; rfl)
      obtain ⟨-, binding', base, -, hmade⟩ := mem_filling hfill
      refine ⟨?_, fun hsome => ?_⟩
      · rw [h.slotsAt_content (.interface hfill)]
        change (made.functions.map _).length ≤ _
        rw [List.length_map, show made = _ from hmade]
        exact hfunctions _ _
      · obtain ⟨c, hc⟩ := Option.isSome_iff_exists.mp hsome
        obtain ⟨creatable, hclass⟩ := h.prepared.standing.classed p hp c hc
        rw [htarget] at hclass
        exact Target.noConfusion hclass
    | coClass creatable binding =>
      have hnone := h.slotsAt_content (.coClass hp (by rw [htarget]; rfl))
      exact ⟨hnone.trans_le (Nat.zero_le _), fun _ => hnone⟩
    | enumeration =>
      have hnone := h.slotsAt_content (.enumeration hp htarget)
      exact ⟨hnone.trans_le (Nat.zero_le _), fun _ => hnone⟩
    | record =>
      have hnone := h.slotsAt_content (.record hp htarget)
      exact ⟨hnone.trans_le (Nat.zero_le _), fun _ => hnone⟩
  unfold Placed.handles Placed.slots
  cases hc : p.classInterface with
  | none => simpa using hown.1
  | some c =>
    have hnone := hown.2 (by rw [hc]; rfl)
    simpa [hnone] using hmade c hc

theorem sum_functions_le
    (h : Built u.reflection resolver settings references classified placed refs d₀ d) :
    (d.infos.map (·.functions.length)).sum ≤ u.size := by
  have hsum : (d.infos.map (·.functions.length)).sum =
      (placed.map fun p => (p.handles.map fun k => slotsAt d.infos k.index).sum).sum := by
    rw [← map_slotsAt_range, ← h.map_index_handlesOf, List.map_map]
    unfold handlesOf
    rw [List.map_flatMap, List.flatMap_def, List.sum_flatten, List.map_map]
    rfl
  have htypes : placed.map (·.type) = classified := by
    rw [← (named_apart resolver (nodup_classified h.classify)).2.1]
    exact PlacedAs.map_type h.prepared.named
  have hmembers : (placed.map fun p => p.type.decl.members.length).sum ≤ u.size := by
    have hcount : (classified.map fun c => c.decl.members.length).sum ≤
        (u.types.map fun t => t.members.length).sum :=
      sum_classified_le h.classify fun t => t.members.length
    rw [← htypes, List.map_map] at hcount
    refine hcount.trans (List.sum_le_sum fun t _ => ?_)
    omega
  rw [hsum]
  exact (List.sum_le_sum fun p hp => h.sum_slotsAt_handles_le hp).trans hmembers

/-! ## Faults -/

/-- **The layout finds a fault in a type** exactly if its base chain crosses a cut. -/
theorem layoutFault?_eq_none
    (h : Built u.reflection resolver settings references classified placed refs d₀ d)
    (htrusted : Trusted references) (hsize : u.size < 2 ^ 28) (ht : d.infos[i]? = some t) :
    d.layoutFault? ⟨i⟩ t = none ↔ ¬CrossesAt d.infos i := by
  have hfew : (d.infos.map (·.functions.length)).sum < 2 ^ 28 := h.sum_functions_le.trans_lt hsize
  have hrefs : (t.refs.any fun ref => !d.resolves ref) = false := by
    rw [List.any_eq_false]
    intro ref href
    rw [h.refs_resolve htrusted ht ref href]
    exact Bool.false_ne_true
  unfold Draft.layoutFault?
  rw [hrefs, if_neg Bool.false_ne_true]
  by_cases hkind : t.kind.isInterface = true
  · rw [if_pos hkind, h.slot, inheritedIds_eq]
    exact (h.tabledAt ht hkind).interfaceFault?_eq_none hfew
  · have hcrosses : ¬CrossesAt d.infos i := by
      rintro ⟨hpos, -⟩
      unfold slotsAt at hpos
      rw [ht] at hpos
      exact hkind (h.isInterface_of_functions ht (List.ne_nil_of_length_pos hpos))
    rw [if_neg hkind]
    refine iff_of_true ?_ hcrosses
    split
    · next hclass => exact h.classFault?_eq_none htrusted ht hclass
    · rfl

/-- **Nothing is wrong with the types of a library** unless base chains cross a cut. -/
theorem faultless_iff (h : Built u.reflection resolver settings references classified placed refs d₀ d)
    (htrusted : Trusted references) (hsize : u.size < 2 ^ 28) :
    Faultless d (handlesOf placed) ↔ ¬Crosses d.infos := by
  constructor
  · rintro hnone ⟨i, hcrosses⟩
    have hlt : i < d.infos.length := by
      by_contra hge
      have hpos := hcrosses.1
      unfold slotsAt at hpos
      rw [List.getElem?_eq_none (Nat.le_of_not_lt hge)] at hpos
      exact Nat.lt_irrefl 0 hpos
    have ht : d.infos[i]? = some d.infos[i] := List.getElem?_eq_getElem hlt
    have hmem : (⟨i⟩ : Handle) ∈ handlesOf placed := h.mem_handles (Draft.length_infos ▸ hlt)
    exact (h.layoutFault?_eq_none htrusted hsize ht).mp (hnone _ hmem _ (h.content ht).2) hcrosses
  · rintro hcrosses ⟨i⟩ - t hopen
    have ht : d.infos[i]? = some t := by
      unfold Draft.infos
      rw [List.getElem?_map, hopen]
      rfl
    exact (h.layoutFault?_eq_none htrusted hsize ht).mpr fun hat => hcrosses ⟨i, hat⟩

/-! ## Bases without cycles -/

/-- No chain crosses a cut in the library of a unit whose bases form no cycle. -/
theorem not_crosses (h : Built u.reflection resolver settings references classified placed refs d₀ d)
    (hacyclic : u.IsAcyclic) : ¬Crosses d.infos := by
  obtain ⟨rank, hrank⟩ := hacyclic
  -- A place of the library has the rank of the type that it belongs to.
  let rankAt (i : Nat) : Nat :=
    ((placed.find? fun p => p.handle.index == i).map fun p => rank p.type.id).getD 0
  have hrankAt : ∀ p ∈ placed, rankAt p.handle.index = rank p.type.id := by
    intro p hp
    have hfound : placed.find? (fun q => q.handle.index == p.handle.index) = some p := by
      obtain ⟨q, hq⟩ : ∃ q, placed.find? (fun q => q.handle.index == p.handle.index) = some q := by
        rw [← Option.isSome_iff_exists, List.find?_isSome]
        exact ⟨p, hp, beq_self_eq_true _⟩
      have hhandle : q.handle = p.handle := by
        have hindex : q.handle.index = p.handle.index := by simpa using List.find?_some hq
        cases hqh : q.handle
        cases hph : p.handle
        simpa [hqh, hph] using hindex
      rw [hq, h.prepared.apart.own_inj (List.mem_of_find?_eq_some hq) hp hhandle]
    simp only [rankAt, hfound, Option.map_some, Option.getD_some]
  refine not_crosses_of_rank rankAt fun x b hbase => ?_
  have hx : x ∈ interfacesOf placed := by
    by_contra hnot
    exact nomatch (h.ownBase?_eq_none hnot).symm.trans hbase
  obtain ⟨p, hp, hinterface, rfl⟩ := mem_interfacesOf.mp hx
  have hmem : p ∈ fillOrder
      (withDefaults (settingOf u.reflection resolver settings refs).scope placed) placed :=
    mem_fillOrder.mpr ⟨hp, hinterface⟩
  rcases hpbase : p.base? (withDefaults (settingOf u.reflection resolver settings refs).scope placed)
    with - | ⟨⟨id, handle⟩ | ref⟩
  · have hnone := h.based.other p hmem (by rw [hpbase]; exact fun _ _ h => (nomatch h))
    exact nomatch hnone.symm.trans hbase
  · obtain ⟨hown, q, hq, rfl, rfl⟩ := h.based.own p hmem id handle hpbase
    obtain rfl : q.handle.index = b := Option.some.inj (hown.symm.trans hbase)
    rw [hrankAt p hp, hrankAt q (mem_fillOrder.mp hq).1]
    rcases base?_eq_some hpbase with ⟨id, ref, binding, hsame, hhead, -⟩ | ⟨_, _, hsame, -⟩
    · obtain ⟨rfl, -⟩ := BaseInterface.own.inj hsame
      exact hrank _ _ _ (h.type?_placed hp).1 hhead
    · exact BaseInterface.noConfusion hsame
  · have hnone := h.based.other p hmem (by
      rw [hpbase]
      exact fun _ _ h => BaseInterface.noConfusion (Option.some.inj h))
    exact nomatch hnone.symm.trans hbase

end Built

end Automation.Export
