import Automation.Proofs.Export.Building
import Automation.Proofs.Export.Passing

/-!
# What the types of a library inherit

For a library that is written in full, `Built.lineage` says what its interfaces inherit: what the
types of their lineages have, where the lineages follow the order of filling.
-/

namespace Automation.Export

open Library Source

theorem classify_type? {unit : Reflection} {ids : List TypeId} {classified : List Classified}
    (h : classify unit ids = .ok classified) :
    ∀ c ∈ classified, unit.type? c.id = some c.decl ∧ target? c.decl = some c.target := by
  induction ids generalizing classified with
  | nil =>
    obtain rfl := Except.ok.inj h
    exact fun _ hc => nomatch hc
  | cons id later ih =>
    unfold classify at h
    split at h
    · exact Except.noConfusion rfl rfl (heq_of_eq h)
    · next decl hdecl =>
      split at h
      · exact Except.noConfusion rfl rfl (heq_of_eq h)
      · next rest hrest =>
        split at h
        · next target htarget =>
          obtain rfl := Except.ok.inj h
          exact List.forall_mem_cons.mpr ⟨⟨hdecl, htarget⟩, ih hrest⟩
        · obtain rfl := Except.ok.inj h
          exact ih hrest

/-- Every listed type that becomes something is classified. -/
theorem mem_classify {unit : Reflection} {ids : List TypeId} {classified : List Classified}
    (h : classify unit ids = .ok classified) {id : TypeId} (hid : id ∈ ids) {decl : TypeDecl}
    (hdecl : unit.type? id = some decl) {target : Target} (htarget : target? decl = some target) :
    { id := id, decl := decl, target := target } ∈ classified := by
  induction ids generalizing classified with
  | nil => exact (List.not_mem_nil hid).elim
  | cons first later ih =>
    unfold classify at h
    split at h
    · exact Except.noConfusion rfl rfl (heq_of_eq h)
    · next other hother =>
      split at h
      · exact Except.noConfusion rfl rfl (heq_of_eq h)
      · next rest hrest =>
        rcases List.mem_cons.mp hid with rfl | hid
        · obtain rfl := Option.some.inj (hdecl.symm.trans hother)
          rw [htarget] at h
          obtain rfl := Except.ok.inj h
          exact List.mem_cons_self
        · have hmem := ih hrest hid
          split at h
          · obtain rfl := Except.ok.inj h
            exact List.mem_cons_of_mem _ hmem
          · obtain rfl := Except.ok.inj h
            exact hmem

namespace Built

variable {unit : Reflection} {resolver : Resolver} {settings : Settings}
  {references : List ReferencedLibrary} {classified : List Classified} {placed : List Placed}
  {refs : ReferenceTable} {d₀ d : Draft}

theorem attributes (h : Built unit resolver settings references classified placed refs d₀ d) :
    d.attributes = some (settings.attributes unit.identity) := by
  rw [h.written.attributes, h.prepared.attributes]

theorem handles (h : Built unit resolver settings references classified placed refs d₀ d) :
    handlesOf placed = handlesFrom 0 d.types.length := by
  rw [h.written.length]
  exact h.prepared.standing.handles

theorem slot (h : Built unit resolver settings references classified placed refs d₀ d) :
    d.slot = settings.pointerWidth.bytes := by
  unfold Draft.slot
  rw [h.attributes]
  rfl

/-- A placed type is one of the unit. -/
theorem type?_placed (h : Built unit resolver settings references classified placed refs d₀ d)
    {p : Placed} (hp : p ∈ placed) :
    unit.type? p.type.id = some p.type.decl ∧ target? p.type.decl = some p.type.target := by
  obtain ⟨n, hn, hplaced⟩ := PlacedAs.forall_mem h.prepared.named p hp
  rw [hplaced.type]
  exact classify_type? h.classify _ (type_mem_nameRegistered hn)

theorem mem_handles (h : Built unit resolver settings references classified placed refs d₀ d) {i : Nat}
    (hlt : i < d.types.length) : (⟨i⟩ : Handle) ∈ handlesOf placed := by
  rw [h.handles]
  exact List.mem_map_of_mem (List.mem_range'_1.mpr ⟨Nat.zero_le i, by omega⟩)

/-- Every type of the library is what its pass has made of it. -/
theorem content (h : Built unit resolver settings references classified placed refs d₀ d) {i : Nat}
    {t : TypeInfo} (ht : d.infos[i]? = some t) :
    Content (settings.attributes unit.identity).version (settingOf unit resolver settings refs)
      placed ⟨i⟩ t ∧ d.IsOpen ⟨i⟩ t := by
  have hlt : i < d.types.length := by
    have := (List.getElem?_eq_some_iff.mp ht).1
    rwa [Draft.length_infos] at this
  obtain ⟨info, hcontent⟩ := exists_content (settings.attributes unit.identity).version
    (settingOf unit resolver settings refs) (h.mem_handles hlt)
  have hopen := h.written.types hcontent
  unfold Draft.infos at ht
  rw [List.getElem?_map, hopen] at ht
  obtain rfl : info = t := Option.some.inj ht
  exact ⟨hcontent, hopen⟩

/-- Placed types with one id are the same: they have one identifier. -/
theorem id_inj (h : Built unit resolver settings references classified placed refs d₀ d) {p q : Placed}
    (hp : p ∈ placed) (hq : q ∈ placed) (hid : p.type.id = q.type.id) : p = q := by
  have hdecl : p.type.decl = q.type.decl := by
    have hp' := (h.type?_placed hp).1
    rw [hid, (h.type?_placed hq).1] at hp'
    exact (Option.some.inj hp').symm
  have hguid : ∀ r : Placed, (typePlaceholder r.type r.name).guid ∈ r.slots.map (·.2.guid) := by
    intro r
    simp [Placed.slots]
  refine eq_of_mem_flatMap h.prepared.guids hp hq (hguid p) ?_
  have hsame : (typePlaceholder p.type p.name).guid = (typePlaceholder q.type q.name).guid := by
    unfold typePlaceholder
    rw [hdecl]
  rw [hsame]
  exact hguid q

/-! ## Bases -/

theorem info_of_content (h : Built unit resolver settings references classified placed refs d₀ d)
    {k : Handle} {t : TypeInfo} (hcontent : Content (settings.attributes unit.identity).version
      (settingOf unit resolver settings refs) placed k t) : d.infos[k.index]? = some t := by
  unfold Draft.infos
  rw [List.getElem?_map, h.written.types hcontent]
  rfl

theorem info_of_filling (h : Built unit resolver settings references classified placed refs d₀ d)
    {f : Placed × InterfaceFunctions}
    (hf : f ∈ filling ((settingOf unit resolver settings refs).withDefaults placed) placed) :
    d.infos[f.1.handle.index]? = some (f.1.filled (settings.attributes unit.identity).version
      (settingOf unit resolver settings refs).scope f.2) :=
  h.info_of_content (.interface hf)

/-- The base of an interface in the library is the one that it derives from. -/
theorem ownBase? (h : Built unit resolver settings references classified placed refs d₀ d)
    {f : Placed × InterfaceFunctions}
    (hf : f ∈ filling ((settingOf unit resolver settings refs).withDefaults placed) placed) :
    Library.ownBase? d.infos f.1.handle.index =
      match f.1.base? refs with
      | some (.own _ handle) => some handle.index
      | _ => none := by
  obtain ⟨-, binding, base, htarget, -⟩ := mem_filling hf
  have hkind : f.1.type.target.typeKind.isInterface = true := by
    rw [Target.isInterface_typeKind, htarget]
    rfl
  have himplemented : f.1.implemented (settingOf unit resolver settings refs).scope =
      (f.1.base? refs).toList.map fun base => ⟨base.ref, Flags.none⟩ := by
    unfold Placed.implemented
    rw [htarget]
    rfl
  unfold Library.ownBase?
  rw [h.info_of_filling hf, Option.bind_some]
  have hbase : (f.1.filled (settings.attributes unit.identity).version
      (settingOf unit resolver settings refs).scope f.2).base? =
        (f.1.base? refs).map BaseInterface.ref := by
    unfold TypeInfo.base?
    rw [Placed.kind_filled, if_pos hkind]
    change (f.1.implemented (settingOf unit resolver settings refs).scope).head?.map _ = _
    rw [himplemented]
    cases f.1.base? refs <;> rfl
  rw [hbase]
  rcases hcase : f.1.base? refs with - | ⟨⟨id, handle⟩ | ref⟩
  · rfl
  · rfl
  · rcases base?_eq_some hcase with ⟨id, own, binding, hown, -⟩ | ⟨id, index, hstandard, -⟩
    · exact BaseInterface.noConfusion hown
    · obtain rfl := BaseInterface.standard.inj hstandard
      rfl

/-- The interfaces of a library in the order of filling have their bases among them. -/
theorem based (h : Built unit resolver settings references classified placed refs d₀ d) :
    Based d.infos (withDefaults (settingOf unit resolver settings refs).scope placed)
      (fillOrder (withDefaults (settingOf unit resolver settings refs).scope placed) placed) where
  own p hp id handle hbase := by
    rw [base?_withDefaults] at hbase
    obtain ⟨hmem, hinterface⟩ := mem_fillOrder.mp hp
    obtain ⟨made, hmade⟩ := exists_mem_filling
      (s := (settingOf unit resolver settings refs).withDefaults placed) hmem hinterface
    have hbase' : p.base? refs = some (.own id handle) := hbase
    refine ⟨?_, ?_⟩
    · rw [h.ownBase? hmade]
      simp only [hbase']
    · rcases base?_eq_some hbase' with ⟨id', ref, binding, hown, -, href, htarget⟩ | ⟨_, _, hstandard, -⟩
      · obtain ⟨rfl, rfl⟩ := BaseInterface.own.inj hown
        have href' : (ownReferences placed none).own? id = some ref := by
          unfold ReferenceTable.own? at href ⊢
          rw [← h.prepared.own]
          exact href
        obtain ⟨q, hq, hid, rfl⟩ := own?_ownReferences href'
        exact ⟨q, mem_fillOrder.mpr ⟨hq, by rw [show q.type.target = _ from htarget]; rfl⟩, hid, rfl⟩
      · exact BaseInterface.noConfusion hstandard
  other p hp hnone := by
    obtain ⟨hmem, hinterface⟩ := mem_fillOrder.mp hp
    obtain ⟨made, hmade⟩ := exists_mem_filling
      (s := (settingOf unit resolver settings refs).withDefaults placed) hmem hinterface
    rw [h.ownBase? hmade]
    rw [base?_withDefaults] at hnone
    have hnone' : ∀ id handle, p.base? refs ≠ some (.own id handle) := hnone
    rcases hbase : p.base? refs with - | ⟨⟨id, handle⟩ | ref⟩
    · rfl
    · exact (hnone' id handle hbase).elim
    · rfl

/-- The places of the interfaces of a library, in the order of filling. -/
def order (unit : Reflection) (resolver : Resolver) (settings : Settings) (placed : List Placed)
    (refs : ReferenceTable) : List Nat :=
  placesOf (fillOrder (withDefaults (settingOf unit resolver settings refs).scope placed) placed)

/-- **What an interface of a library inherits**: the ids and slots of the types of its lineage. -/
theorem lineage (h : Built unit resolver settings references classified placed refs d₀ d) :
    ∀ f ∈ filling ((settingOf unit resolver settings refs).withDefaults placed) placed,
      ∃ binding base bases, f.1.type.target = .interface binding ∧
        f.2 = interfaceFunctions
          (((settingOf unit resolver settings refs).withDefaults placed).synthesis binding)
          f.1.type.decl base ∧
        Lineage d.infos (order unit resolver settings placed refs) f.1.handle.index bases ∧
        Carries d.infos base bases := by
  refine fills_lineage (List.nil_append _).symm (nodup_fillOrder _ h.prepared.apart) ?_ h.based
    (fun p hp => (mem_fillOrder.mp hp).2) (fun f hf => ?_)
    ⟨fun _ hp => (List.not_mem_nil hp).elim, fun _ _ hlookup => nomatch hlookup⟩
  · -- Types with one id are the same, and none is filled twice.
    have hhandles := nodup_fillOrder
      (withDefaults (settingOf unit resolver settings refs).scope placed) h.prepared.apart
    refine List.pairwise_map.mpr ((List.pairwise_map.mp hhandles).imp_of_mem ?_)
    intro p q hp hq hne hid
    exact hne (by rw [h.id_inj (mem_fillOrder.mp hp).1 (mem_fillOrder.mp hq).1 hid])
  · unfold idsAt
    rw [h.info_of_filling hf]
    simp [Placed.filled, SynthesizedFunction.written, Function.comp_def]

end Built

end Automation.Export
