import Automation.Proofs.Export.Libraries

/-!
# Members that make functions

The functions of an interface are made from the members of a declaration, in order (`MadeFrom`). Those
that share an id are made from accessors of one property (`makers_of_memid`).
-/

namespace Automation.Export

open Library Source

/-- The functions are what the members of a declaration make, in order: each up to its id, its slot
and the name that tells it apart. -/
def MadeFrom (y : Synthesis) (owner : TypeDecl) (members : List Member)
    (functions : List FunctionInfo) : Prop :=
  List.Forall₂ (fun m f => ∃ s memid offset name, (synthesize y owner m).1 = some s ∧
    f = (s.placed memid offset name).written) members functions

/-- The members of a declaration that make functions. -/
def makers (y : Synthesis) (owner : TypeDecl) : List Member :=
  (owner.members.filter Member.isExportable).filter fun m => (synthesize y owner m).1.isSome

variable {y : Synthesis} {owner : TypeDecl} {base : Inherited}

variable (y owner) in
theorem forall₂_makers : List.Forall₂ (fun m s => (synthesize y owner m).1 = some s)
    (makers y owner) (memberFunctions y owner) := by
  unfold makers memberFunctions
  generalize owner.members.filter Member.isExportable = members
  induction members with
  | nil => exact .nil
  | cons m later ih =>
    cases hm : (synthesize y owner m).1 with
    | none => simpa [List.filter_cons, List.filterMap_cons, hm] using ih
    | some s =>
      simp only [List.filter_cons, List.filterMap_cons, hm, Option.isSome_some, if_true]
      exact .cons hm ih

theorem madeFrom_functions : MadeFrom y owner (makers y owner)
    ((interfaceFunctions y owner base).functions.map (·.written)) := by
  have hmakers := forall₂_makers y owner
  refine List.forall₂_iff_get.mpr ⟨?_, fun i hi hi' => ?_⟩
  · rw [List.length_map, length_functions, hmakers.length_eq]
  · rw [List.length_map] at hi'
    obtain ⟨s, place, memid, name, hs, -, -, hf⟩ :=
      getElem?_functions (List.getElem?_eq_getElem hi')
    obtain ⟨hlt, rfl⟩ := List.getElem?_eq_some_iff.mp hs
    have hmade := (List.forall₂_iff_get.mp hmakers).2 i hi hlt
    refine ⟨_, memid, (memberTable y base).offset i, name, hmade, ?_⟩
    rw [List.get_eq_getElem, List.getElem_map, hf]
    rfl

theorem exists_maker {i : Nat} {s : SynthesizedFunction}
    (h : (memberFunctions y owner)[i]? = some s) :
    ∃ m, (makers y owner)[i]? = some m ∧ (synthesize y owner m).1 = some s := by
  have hmakers := forall₂_makers y owner
  obtain ⟨hlt, rfl⟩ := List.getElem?_eq_some_iff.mp h
  have hlt' : i < (makers y owner).length := hmakers.length_eq ▸ hlt
  exact ⟨(makers y owner)[i], List.getElem?_eq_getElem hlt',
    (List.forall₂_iff_get.mp hmakers).2 i hlt' hlt⟩

/-- The members are accessors of one property, whatever the case of its name. -/
def ShareProperty (m m' : Member) : Prop :=
  ∃ property property', m.property? = some property ∧ m'.property? = some property' ∧
    Text.nameKey property = Text.nameKey property'

theorem ShareProperty.symm {m m' : Member} (h : ShareProperty m m') : ShareProperty m' m := by
  obtain ⟨property, property', hm, hm', hkey⟩ := h
  exact ⟨property', property, hm', hm, hkey.symm⟩

/-- Functions with one id are made by accessors of one property. -/
theorem makers_of_memid {i j : Nat} {f g : SynthesizedFunction} (hij : i ≠ j)
    (hf : (interfaceFunctions y owner base).functions[i]? = some f)
    (hg : (interfaceFunctions y owner base).functions[j]? = some g)
    (hmemid : f.desc.memid = g.desc.memid) :
    f.desc.invoke ≠ g.desc.invoke ∧ ∃ m m', (makers y owner)[i]? = some m ∧
      (makers y owner)[j]? = some m' ∧ ShareProperty m m' := by
  wlog hlt : i < j generalizing i j f g
  · obtain ⟨hinvoke, m', m, hm', hm, hshare⟩ :=
      this hij.symm hg hf hmemid.symm (by omega)
    exact ⟨hinvoke.symm, m, m', hm, hm', hshare.symm⟩
  obtain ⟨hsome, hsame, hinvoke⟩ := memid_shared hlt hf hg hmemid
  obtain ⟨s, _, _, _, hs, -, -, rfl⟩ := getElem?_functions hf
  obtain ⟨t, _, _, _, ht, -, -, rfl⟩ := getElem?_functions hg
  obtain ⟨m, hm, hmade⟩ := exists_maker hs
  obtain ⟨m', hm', hmade'⟩ := exists_maker ht
  have hproperty : s.property = m.property?.map Text.nameKey := property_of_synthesize hmade
  have hproperty' : t.property = m'.property?.map Text.nameKey := property_of_synthesize hmade'
  change s.property.isSome at hsome
  change s.property = t.property at hsame
  rw [hproperty, Option.isSome_map] at hsome
  obtain ⟨p, hp⟩ := Option.isSome_iff_exists.mp hsome
  rw [hproperty, hproperty', hp, Option.map_some] at hsame
  obtain ⟨p', hp', hkey⟩ := Option.map_eq_some_iff.mp hsame.symm
  exact ⟨hinvoke, m, m', hm, hm', p, p', hp, hp', hkey.symm⟩

end Automation.Export
