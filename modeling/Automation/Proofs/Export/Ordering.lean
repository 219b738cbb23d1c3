import Automation.Proofs.Export.Inheriting
import Automation.Proofs.Library.Crossings

/-!
# The order of filling and the order of a library

Interfaces are filled in an order that looks only at them. Among all types of the library the order
is the same (`Built.filter_baseOrder`), so what an interface inherits is what the types of its
lineage in the library have: `Built.lineage_baseOrder`.
-/

namespace Automation.Library

/-! ## Positions in a part of a list -/

theorem before_filter {order : List Nat} {p : Nat → Bool} {a b : Nat} (ha : p a = true)
    (hb : p b = true) : Before (order.filter p) a b ↔ Before order a b := by
  unfold Before
  induction order with
  | nil => rfl
  | cons c later ih =>
    cases hc : p c with
    | true =>
      rw [List.filter_cons_of_pos hc, List.idxOf_cons, List.idxOf_cons, List.idxOf_cons,
        List.idxOf_cons]
      cases c == a <;> cases c == b <;> simp [ih]
    | false =>
      have hne : ∀ x, p x = true → (c == x) = false := fun x hx =>
        beq_false_of_ne fun hsame => Bool.false_ne_true (hc ▸ hsame ▸ hx)
      rw [List.filter_cons_of_neg (by rw [hc]; exact Bool.false_ne_true), List.idxOf_cons,
        List.idxOf_cons, hne a ha, hne b hb, ih]
      simp

/-- The elements of a part of a list are found in the list in the same order. -/
theorem filter_mem_of_sublist {l part : List Nat} (h : part.Sublist l) (hnodup : l.Nodup) :
    l.filter (fun a => decide (a ∈ part)) = part := by
  induction h with
  | slnil => rfl
  | @cons part l a hsub ih =>
    obtain ⟨hnot, hnodup⟩ := List.nodup_cons.mp hnodup
    have ha : a ∉ part := fun hmem => hnot (hsub.subset hmem)
    rw [List.filter_cons_of_neg (by simpa using ha), ih hnodup]
  | @cons_cons part l a hsub ih =>
    obtain ⟨hnot, hnodup⟩ := List.nodup_cons.mp hnodup
    rw [List.filter_cons_of_pos (by simp)]
    refine congrArg (a :: ·) ?_
    refine Eq.trans (List.filter_congr fun b hb => ?_) (ih hnodup)
    have hne : b ≠ a := fun hsame => hnot (hsame ▸ hb)
    simp [hne]

end Automation.Library

namespace Automation.Export

open Library Source

variable {placed : List Placed}

/-! ## The interfaces of the unit -/

/-- The places in the library of the interfaces of the unit, in the order of the unit. -/
def interfacesOf (placed : List Placed) : List Nat :=
  placesOf (placed.filter (·.type.target.isInterface))

/-- The place in the library of the type at a place of the unit. -/
def placeOf (placed : List Placed) (a : Nat) : Nat := (placed[a]?.map (·.handle.index)).getD 0

/-- There is an interface at the place of the unit. -/
def HasInterface (placed : List Placed) (a : Nat) : Prop :=
  ∃ p, placed[a]? = some p ∧ p.type.target.isInterface = true

theorem map_getElem?_range {α : Type} (l : List α) :
    (List.range l.length).map (fun a => l[a]?) = l.map some :=
  List.ext_getElem (by simp) fun i hi hi' => by simp

theorem map_placeOf_interfacePlaces (placed : List Placed) (refs : ReferenceTable) :
    (interfacePlaces (placed.map fun p => p.link refs)).map (placeOf placed) =
      interfacesOf placed := by
  have hlink : ∀ a : Nat, (((placed.map fun p => p.link refs)[a]?).map Link.isInterface).getD false =
      (placed[a]?.map fun p : Placed => p.type.target.isInterface).getD false := by
    intro a
    rw [List.getElem?_map, Option.map_map]
    rfl
  have hfilter := List.filter_map (l := List.range placed.length) (f := fun a => placed[a]?)
    (p := fun p : Option Placed => (p.map (·.type.target.isInterface)).getD false)
  rw [map_getElem?_range, List.filter_map] at hfilter
  have hmap := congrArg (List.map fun p : Option Placed => (p.map (·.handle.index)).getD 0) hfilter
  rw [List.map_map, List.map_map] at hmap
  unfold interfacePlaces interfacesOf placesOf
  simp only [hlink, List.length_map]
  exact hmap.symm

theorem placesOf_fillOrder (refs : ReferenceTable) (placed : List Placed) :
    placesOf (fillOrder refs placed) =
      (baseFirst (placed.map fun p => p.link refs)).map (placeOf placed) := by
  have hplaces : ∀ a ∈ baseFirst (placed.map fun p => p.link refs), ∃ p, placed[a]? = some p := by
    intro a ha
    obtain ⟨p, hp, -⟩ := mem_interfacePlaces.mp (mem_baseFirst.mp ha)
    exact ⟨p, hp⟩
  unfold placesOf fillOrder
  generalize baseFirst (placed.map fun p => p.link refs) = order at hplaces ⊢
  induction order with
  | nil => rfl
  | cons a later ih =>
    obtain ⟨⟨p, hp⟩, hlater⟩ := List.forall_mem_cons.mp hplaces
    rw [List.filterMap_cons_some hp, List.map_cons, List.map_cons, ih hlater, placeOf, hp]
    rfl

theorem mem_interfacesOf {b : Nat} : b ∈ interfacesOf placed ↔
    ∃ p ∈ placed, p.type.target.isInterface = true ∧ p.handle.index = b := by
  unfold interfacesOf placesOf
  simp [and_assoc]

theorem HasInterface.placeOf_mem {a : Nat} (h : HasInterface placed a) :
    placeOf placed a ∈ interfacesOf placed := by
  obtain ⟨p, hp, hinterface⟩ := h
  refine mem_interfacesOf.mpr ⟨p, List.mem_of_getElem? hp, hinterface, ?_⟩
  unfold placeOf
  rw [hp]
  rfl

theorem base?_of_kind {t : TypeInfo} (h : t.kind.isInterface = false) : t.base? = none := by
  unfold TypeInfo.base?
  rw [h]
  rfl

namespace Built

variable {unit : Reflection} {resolver : Resolver} {settings : Settings}
  {references : List ReferencedLibrary} {classified : List Classified} {refs : ReferenceTable}
  {d₀ d : Draft}

/-- The types of a library stand in the order of the unit. -/
theorem map_index_handlesOf (h : Built unit resolver settings references classified placed refs d₀ d) :
    (handlesOf placed).map Handle.index = List.range d.infos.length := by
  rw [h.handles, handlesFrom, List.map_map, Draft.length_infos, List.range_eq_range']
  exact List.map_id _

theorem interfacesOf_sublist (h : Built unit resolver settings references classified placed refs d₀ d) :
    (interfacesOf placed).Sublist (List.range d.infos.length) := by
  have hhandles : (placed.map (·.handle)).Sublist (handlesOf placed) := by
    unfold handlesOf
    rw [List.map_eq_flatMap]
    exact List.Sublist.flatMap_right _ fun p _ => List.singleton_sublist.mpr p.handle_mem
  rw [← h.map_index_handlesOf]
  refine List.Sublist.trans ?_ (hhandles.map _)
  unfold interfacesOf placesOf
  rw [List.map_map]
  exact List.filter_sublist.map _

theorem placeOf_inj (h : Built unit resolver settings references classified placed refs d₀ d)
    {a b : Nat} (ha : HasInterface placed a) (hb : HasInterface placed b)
    (hsame : placeOf placed a = placeOf placed b) : a = b := by
  obtain ⟨p, hp, -⟩ := ha
  obtain ⟨q, hq, -⟩ := hb
  unfold placeOf at hsame
  rw [hp, hq] at hsame
  have hhandle : p.handle = q.handle := by
    cases hph : p.handle
    cases hqh : q.handle
    simpa [hph, hqh] using hsame
  obtain ⟨hlt, rfl⟩ := List.getElem?_eq_some_iff.mp hp
  obtain ⟨hlt', rfl⟩ := List.getElem?_eq_some_iff.mp hq
  have hnodup := h.prepared.apart.nodup
  have hget := @List.Nodup.getElem_inj_iff _ _ hnodup a (by simpa using hlt) b (by simpa using hlt')
  exact hget.mp (by simpa using hhandle)

/-- Only interfaces of the unit have bases in the library. -/
theorem ownBase?_eq_none (h : Built unit resolver settings references classified placed refs d₀ d)
    {b : Nat} (hb : b ∉ interfacesOf placed) : Library.ownBase? d.infos b = none := by
  cases ht : d.infos[b]? with
  | none =>
    unfold Library.ownBase?
    rw [ht]
    rfl
  | some t =>
    have hbase : t.base? = none ∨ ∃ id index, t.base? = some (.imported id index) := by
      cases hkind : t.kind.isInterface with
      | false => exact .inl (base?_of_kind hkind)
      | true =>
        rcases (h.content ht).1.interface_cases hkind with
          ⟨f, hf, hk, rfl⟩ | ⟨p, hp, c, hc, hk, rfl⟩
        · obtain ⟨hp, binding, base, htarget, -⟩ := mem_filling hf
          refine (hb (mem_interfacesOf.mpr ⟨f.1, hp, by rw [htarget]; rfl, ?_⟩)).elim
          exact congrArg Handle.index hk.symm
        · unfold TypeInfo.base?
          rw [if_pos hkind]
          change ((c.implemented _).head?.map (·.ref)) = none ∨
            ∃ id index, (c.implemented _).head?.map (·.ref) = some (.imported id index)
          unfold ClassInterface.implemented ReferenceTable.standard?
          cases (settingOf unit resolver settings refs).scope.refs.standard with
          | none => exact .inl rfl
          | some id => exact .inr ⟨id, _, rfl⟩
    unfold Library.ownBase?
    rw [ht, Option.bind_some]
    rcases hbase with hbase | ⟨id, index, hbase⟩ <;> rw [hbase]

/-- The types of a library as far as the order of filling goes. -/
def links (unit : Reflection) (resolver : Resolver) (settings : Settings) (placed : List Placed)
    (refs : ReferenceTable) : List Link :=
  placed.map fun p => p.link (withDefaults (settingOf unit resolver settings refs).scope placed)

/-- The order of filling follows the bases of the library. -/
theorem link_placeOf (h : Built unit resolver settings references classified placed refs d₀ d)
    {a : Nat} (ha : HasInterface placed a) :
    (∀ b, nextBase (links unit resolver settings placed refs) a = some b →
      HasInterface placed b) ∧
    Library.ownBase? d.infos (placeOf placed a) =
      (nextBase (links unit resolver settings placed refs) a).map (placeOf placed) := by
  obtain ⟨p, hp, hinterface⟩ := ha
  have hbased := h.based
  unfold links
  generalize withDefaults (settingOf unit resolver settings refs).scope placed = table at *
  have hmem : p ∈ fillOrder table placed :=
    mem_fillOrder.mpr ⟨List.mem_of_getElem? hp, hinterface⟩
  have hplace : placeOf placed a = p.handle.index := by
    unfold placeOf
    rw [hp]
    rfl
  have hnext : nextBase (placed.map fun p => p.link table) a =
      ((p.base? table).bind BaseInterface.id?).bind fun id =>
        placed.findIdx? fun q => q.type.id == id := by
    unfold nextBase
    rw [List.getElem?_map, hp]
    simp only [List.findIdx?_map]
    rfl
  rw [hnext, hplace]
  by_cases hown : ∃ id handle, p.base? table = some (.own id handle)
  · obtain ⟨id, handle, hbase⟩ := hown
    obtain ⟨hbase', q, hq, hid, rfl⟩ := hbased.own p hmem id handle hbase
    obtain ⟨hqmem, hqinterface⟩ := mem_fillOrder.mp hq
    obtain ⟨j, hj⟩ : ∃ j, placed.findIdx? (fun q => q.type.id == id) = some j := by
      rw [← Option.isSome_iff_exists, List.findIdx?_isSome, List.any_eq_true]
      exact ⟨q, hqmem, beq_iff_eq.mpr hid⟩
    obtain ⟨hlt, hfound, -⟩ := List.findIdx?_eq_some_iff_getElem.mp hj
    have hsame : placed[j] = q :=
      h.id_inj (List.getElem_mem hlt) hqmem ((beq_iff_eq.mp hfound).trans hid.symm)
    have hget : placed[j]? = some q := by rw [List.getElem?_eq_getElem hlt, hsame]
    rw [hbase, hbase', Option.bind_some, BaseInterface.id?, Option.bind_some, hj, Option.map_some]
    refine ⟨?_, ?_⟩
    · rintro b ⟨rfl⟩
      exact ⟨q, hget, hqinterface⟩
    · unfold placeOf
      rw [hget]
      rfl
  · have hnone : (p.base? table).bind BaseInterface.id? = none := by
      rcases hbase : p.base? table with - | ⟨⟨id, handle⟩ | ref⟩
      · rfl
      · exact (hown ⟨id, handle, hbase⟩).elim
      · rfl
    rw [hnone, hbased.other p hmem fun id handle hbase => hown ⟨id, handle, hbase⟩]
    exact ⟨fun b hb => Option.noConfusion rfl (heq_of_eq hb), rfl⟩

/-- **The order of filling is the order of the library**, as far as interfaces go. -/
theorem filter_baseOrder (h : Built unit resolver settings references classified placed refs d₀ d) :
    (baseOrder d.infos).filter (fun b => decide (b ∈ interfacesOf placed)) =
      order unit resolver settings placed refs := by
  have hplaces : (interfacePlaces (links unit resolver settings placed refs)).map (placeOf placed) =
      interfacesOf placed := map_placeOf_interfacePlaces placed _
  have hinterface : ∀ a, a ∈ interfacePlaces (links unit resolver settings placed refs) ↔
      HasInterface placed a := fun a => mem_interfacePlaces
  have hstarts : baseFirst (links unit resolver settings placed refs) =
      walks (nextBase (links unit resolver settings placed refs))
        (interfacePlaces (links unit resolver settings placed refs))
        (interfacePlaces (links unit resolver settings placed refs)) := by
    unfold baseFirst
    rw [← walks_filter_starts nodup_interfacePlaces fun a ha => (List.mem_filter.mp ha).2]
    rfl
  have horder : order unit resolver settings placed refs =
      (baseFirst (links unit resolver settings placed refs)).map (placeOf placed) :=
    placesOf_fillOrder _ placed
  rw [horder, hstarts]
  refine filter_walks (fun a b => h.placeOf_inj) (fun a b ha => (h.link_placeOf ha).1 b)
    (fun a ha => (h.link_placeOf ha).2) (fun a ha => decide_eq_true ha.placeOf_mem)
    (fun b _ hb => h.ownBase?_eq_none (of_decide_eq_false hb)) nodup_interfacePlaces
    List.nodup_range (fun a ha => (hinterface a).mp ha) (fun a ha => ?_)
    (fun a ha => (hinterface a).mp ha) ?_
  · exact iff_of_true (h.interfacesOf_sublist.subset ha.placeOf_mem) ((hinterface a).mpr ha)
  · rw [hplaces]
    exact filter_mem_of_sublist h.interfacesOf_sublist List.nodup_range

/-- What an interface inherits is what the types of its lineage in the library have. -/
theorem lineage_baseOrder (h : Built unit resolver settings references classified placed refs d₀ d)
    {t : Nat} {bases : List Nat}
    (hlineage : Lineage d.infos (order unit resolver settings placed refs) t bases)
    (ht : t ∈ interfacesOf placed) : Lineage d.infos (baseOrder d.infos) t bases := by
  refine hlineage.congr (P := (· ∈ interfacesOf placed)) (fun x b hx hbase => ?_) ht
  have hb : b ∈ interfacesOf placed := by
    obtain ⟨p, hp, hinterface, rfl⟩ := mem_interfacesOf.mp hx
    obtain ⟨a, ha⟩ := List.mem_iff_getElem?.mp hp
    obtain ⟨hnext, hown⟩ := h.link_placeOf ⟨p, ha, hinterface⟩
    have hplace : placeOf placed a = p.handle.index := by
      unfold placeOf
      rw [ha]
      rfl
    rw [hplace, hbase] at hown
    obtain ⟨c, hc, rfl⟩ := Option.map_eq_some_iff.mp hown.symm
    exact (hnext c hc).placeOf_mem
  rw [← h.filter_baseOrder]
  exact ⟨hb, before_filter (decide_eq_true hb) (decide_eq_true hx)⟩

end Built

end Automation.Export
