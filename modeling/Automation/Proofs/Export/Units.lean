import Automation.Proofs.Export.Implementing
import Automation.Proofs.Export.Inheriting
import Automation.Proofs.Export.Names

/-!
# What a source unit brings along

The view of a source unit lists types that it has, and not too many of them, so nothing stands in the
way of its library before the layout: its types are found and named (`exists_classify`,
`nameable_nameTypes`), and the passes have what they need (`Prepared.fillable`).
-/

namespace Automation

namespace Source

/-- The number of types, members, fields and constants of a unit. -/
def SourceUnit.size (u : SourceUnit) : Nat :=
  (u.types.map fun t => 1 + t.members.length + t.fields.length + t.constants.length).sum

/-- The types of the unit declare bases that form no cycle: they can be ranked. -/
def SourceUnit.IsAcyclic (u : SourceUnit) : Prop :=
  ∃ rank : TypeId → Nat, ∀ (id : TypeId) (t : TypeDecl) (base : TypeId), u.types[id]? = some t →
    t.interfaces.head? = some (.named base) → rank base < rank id

end Source

namespace Export

open Library Source

/-! ## The types of a unit -/

/-- All items are found by their indices. -/
theorem flatMap_getElem? {α β : Type} (items : List α) (f : α → List β) :
    ((List.range items.length).flatMap fun i => items[i]?.toList.flatMap f) = items.flatMap f := by
  induction items with
  | nil => rfl
  | cons a later ih =>
    rw [List.length_cons, List.range_succ_eq_map, List.flatMap_cons, List.flatMap_cons,
      List.flatMap_map]
    simpa using ih

theorem exists_classify {unit : Reflection} {ids : List TypeId}
    (h : ∀ id ∈ ids, (unit.type? id).isSome) : ∃ classified, classify unit ids = .ok classified := by
  induction ids with
  | nil => exact ⟨[], rfl⟩
  | cons id later ih =>
    obtain ⟨hid, hlater⟩ := List.forall_mem_cons.mp h
    obtain ⟨decl, hdecl⟩ := Option.isSome_iff_exists.mp hid
    obtain ⟨rest, hrest⟩ := ih hlater
    unfold classify
    rw [hdecl, hrest]
    dsimp only
    split
    · exact ⟨_, rfl⟩
    · exact ⟨_, rfl⟩

theorem sublist_of_classify {unit : Reflection} {ids : List TypeId} {classified : List Classified}
    (h : classify unit ids = .ok classified) : (classified.map (·.id)).Sublist ids := by
  induction ids generalizing classified with
  | nil =>
    obtain rfl := Except.ok.inj h
    exact .slnil
  | cons id later ih =>
    unfold classify at h
    split at h
    · exact Except.noConfusion rfl rfl (heq_of_eq h)
    · split at h
      · exact Except.noConfusion rfl rfl (heq_of_eq h)
      · next rest hrest =>
        split at h
        · obtain rfl := Except.ok.inj h
          exact (ih hrest).cons_cons id
        · obtain rfl := Except.ok.inj h
          exact (ih hrest).cons id

variable {u : SourceUnit} {classified : List Classified}

theorem type?_reflection (u : SourceUnit) (id : TypeId) : u.reflection.type? id = u.types[id]? := rfl

theorem exists_classify_reflection (u : SourceUnit) :
    ∃ classified, classify u.reflection u.reflection.ids = .ok classified := by
  refine exists_classify fun id hid => ?_
  rw [type?_reflection, List.getElem?_eq_getElem (List.mem_range.mp hid)]
  rfl

theorem nodup_classified (h : classify u.reflection u.reflection.ids = .ok classified) :
    (classified.map (·.id)).Nodup :=
  List.nodup_range.sublist (sublist_of_classify h)

/-- What is counted in the exported types is no more than in all types of the unit. -/
theorem sum_classified_le (h : classify u.reflection u.reflection.ids = .ok classified)
    (count : TypeDecl → Nat) :
    (classified.map fun c => count c.decl).sum ≤ (u.types.map count).sum := by
  have hdecl := classify_type? h
  have hclassified : (classified.map fun c => count c.decl) =
      (classified.map (·.id)).map fun id => ((u.types[id]?).map count).getD 0 := by
    rw [List.map_map]
    refine List.map_congr_left fun c hc => ?_
    have hc := (hdecl c hc).1
    rw [type?_reflection] at hc
    simp [hc]
  have hall : (List.range u.types.length).map (fun id => ((u.types[id]?).map count).getD 0) =
      u.types.map count := by
    refine List.ext_getElem (by simp) fun i hi hi' => ?_
    rw [List.length_map] at hi'
    simp [hi']
  rw [hclassified, ← hall]
  exact ((sublist_of_classify h).map _).sum_le_sum fun _ _ => Nat.zero_le _

/-! ## Names -/

theorem constantKeys_sublist (constants : List EnumConstant) (names : List (Option String)) :
    (constantKeys (constants.zip names)).Sublist (keysOf names) := by
  unfold constantKeys keysOf
  refine List.Sublist.map _ ?_
  induction constants generalizing names with
  | nil => exact List.nil_sublist _
  | cons c later ih =>
    cases names with
    | nil => exact List.nil_sublist _
    | cons name names =>
      cases name with
      | none => simpa using ih names
      | some name => simpa using (ih names).cons_cons name

/-- The keys of the places that a named type asks for. -/
def NamedType.placeKeys (n : NamedType) : List String :=
  n.places.map fun place => Text.nameKey place.name

/-- The keys of the constants of a named type. -/
def NamedType.ownConstantKeys (n : NamedType) : List String :=
  constantKeys (n.type.decl.constants.zip n.constants)

theorem placeKeys_append_sublist (n : NamedType) :
    (n.placeKeys ++ n.ownConstantKeys).Sublist n.keys := by
  have hinterface : (n.interfacePlaces.map fun place => Text.nameKey place.name).Sublist
      (keysOf [n.classInterface]) := by
    unfold NamedType.interfacePlaces
    split
    · next _ name _ hname =>
      rw [hname]
      exact .refl _
    · exact List.nil_sublist _
  have hkeys : n.keys = keysOf [n.classInterface] ++ (Text.nameKey n.name :: keysOf n.constants) := by
    unfold NamedType.keys
    rw [← List.singleton_append, keysOf_append]
    rfl
  rw [hkeys, NamedType.placeKeys, NamedType.places, List.map_append, List.append_assoc]
  exact hinterface.append ((constantKeys_sublist _ _).cons_cons _)

/-- **Types and constants get names that a builder accepts.** -/
theorem nodup_placeKeys (resolver : Resolver)
    (h : classify u.reflection u.reflection.ids = .ok classified) :
    ((nameTypes resolver classified).1.flatMap NamedType.placeKeys ++
      (nameTypes resolver classified).1.flatMap NamedType.ownConstantKeys).Nodup := by
  obtain ⟨-, -, hnodup⟩ := named_apart resolver (nodup_classified h)
  rw [(List.flatMap_append_perm _ _ _).nodup_iff]
  exact hnodup.sublist (List.Sublist.flatMap_right _ fun n _ => placeKeys_append_sublist n)

theorem nameable_nameTypes (resolver : Resolver)
    (h : classify u.reflection u.reflection.ids = .ok classified) :
    (∀ e, Step.abort e ∉ (nameTypes resolver classified).2) ∧
      (((nameTypes resolver classified).1.flatMap NamedType.places).map
        fun place => Text.nameKey place.name).Nodup := by
  refine ⟨(named_apart resolver (nodup_classified h)).1, ?_⟩
  rw [List.map_flatMap]
  exact (nodup_placeKeys resolver h).of_append_left

/-! ## What the passes need -/

namespace Prepared

variable {resolver : Resolver} {attributes : Attributes} {references : List ReferencedLibrary}
  {placed : List Placed} {refs : ReferenceTable} {d : Draft}

theorem type_mem (h : Prepared resolver attributes references classified (Needs.scan classified)
    placed refs d) {p : Placed} (hp : p ∈ placed) : p.type ∈ classified := by
  obtain ⟨n, hn, hplaced⟩ := PlacedAs.forall_mem h.named p hp
  rw [hplaced.type]
  exact type_mem_nameRegistered hn

theorem resolves_handle {needs : Needs} (h : Prepared resolver attributes references classified needs
    placed refs d) {p : Placed} (hp : p ∈ placed) {handle : Handle} (hhandle : handle ∈ p.handles) :
    d.resolves (.own handle) = true := by
  have hmem : handle ∈ placed.flatMap Placed.handles := List.mem_flatMap.mpr ⟨p, hp, hhandle⟩
  rw [h.standing.handles] at hmem
  obtain ⟨i, hi, rfl⟩ := List.mem_map.mp hmem
  have hlt := (List.mem_range'_1.mp hi).2
  exact Draft.resolves_own.mpr (by simpa using hlt)

/-- What types derive from and implement has a target. -/
theorem derivable (h : Prepared resolver attributes references classified (Needs.scan classified)
    placed refs d) (htrusted : Trusted references) {scope : Scope} (hscope : scope.refs = refs)
    {p : Placed} (hp : p ∈ placed) : Derivable scope d p := by
  have hresolves : scope.refs.Resolves d := hscope ▸ h.resolves htrusted
  have hinterface : ∀ c ∈ p.classInterface, d.resolves (.own c.handle) = true := fun c hc =>
    h.resolves_handle hp (Placed.interface_mem hc)
  refine ⟨fun hneeds => ?_, fun e he => ?_, fun c hc e he => ?_⟩
  · have hscan : (Needs.scan classified).standard = true := by
      unfold Needs.scan
      dsimp only
      rw [List.any_eq_true.mpr ⟨p.type, h.type_mem hp, hneeds⟩, Bool.true_or]
    rw [hscope, h.standard, hscan]
    rfl
  · unfold Placed.implemented at he
    split at he
    · obtain ⟨base, hbase, rfl⟩ := List.mem_map.mp he
      obtain ⟨binding, -, hbase⟩ := Option.bind_eq_some_iff.mp (Option.mem_toList.mp hbase)
      exact interfaceBase?_resolves hresolves hbase
    · cases hc : (p.implements scope).1 with
      | none =>
        rw [hc] at he
        exact nomatch he
      | some c =>
        rw [hc] at he
        refine ((available_entries hc).2 e he).resolves hresolves fun handle hhandle => ?_
        obtain ⟨i, hi, rfl⟩ := Option.map_eq_some_iff.mp hhandle
        exact hinterface i hi
    · exact nomatch he
    · exact nomatch he
  · obtain ⟨ref, href, rfl⟩ := List.mem_map.mp he
    exact hresolves.standard? (standardBase_lt c.binding) (Option.mem_toList.mp href)

theorem flatMap_constantKeys {named : List NamedType} (h : List.Forall₂ PlacedAs named placed) :
    (placed.flatMap fun p => constantKeys (p.type.decl.constants.zip p.constants)) =
      named.flatMap NamedType.ownConstantKeys := by
  induction h with
  | nil => rfl
  | cons hplaced _ ih =>
    rw [List.flatMap_cons, List.flatMap_cons, ih, hplaced.type, hplaced.constants]
    rfl

/-- **The passes have what they need**, if the referenced libraries can be told apart and the unit
is not too large. -/
theorem fillable (h : Prepared resolver attributes references classified (Needs.scan classified)
    placed refs d) (hclassify : classify u.reflection u.reflection.ids = .ok classified)
    (htrusted : Trusted references) (hsize : u.size < 2 ^ 28) {s : Setting}
    (hrefs : s.scope.refs = refs) : Fillable s placed d := by
  have hnodup := nodup_placeKeys resolver hclassify
  obtain ⟨-, hconstants, hapart⟩ := List.nodup_append.mp hnodup
  have hkeys := flatMap_constantKeys h.named
  refine ⟨fun p hp => h.derivable htrusted hrefs hp, fun p hp => ?_, hkeys ▸ hconstants,
    fun p hp key hkey hmem => ?_⟩
  · obtain ⟨hdecl, -⟩ := classify_type? hclassify _ (h.type_mem hp)
    have hmem : p.type.decl ∈ u.types := List.mem_of_getElem? hdecl
    have hle := List.single_le_sum (fun _ _ => Nat.zero_le _) _ (List.mem_map_of_mem
      (f := fun t : TypeDecl => 1 + t.members.length + t.fields.length + t.constants.length) hmem)
    have hlimit : fieldLimit = 2 ^ 30 := rfl
    change _ ≤ u.size at hle
    omega
  · obtain ⟨place, hplace, rfl⟩ := (h.names key).mp hmem
    refine hapart (Text.nameKey place.name) ?_ _ ?_ rfl
    · rw [PlacedAs.flatMap_places h.named] at hplace
      obtain ⟨n, hn, hplace⟩ := List.mem_flatMap.mp hplace
      exact List.mem_flatMap.mpr ⟨n, hn, List.mem_map_of_mem hplace⟩
    · rw [← hkeys]
      exact List.mem_flatMap.mpr ⟨p, hp, hkey⟩

end Prepared

end Export

end Automation
