import Automation.Proofs.Library.Draft

/-!
# What a layout finds

When a type is laid out whose functions all have ids, nothing is filled in: `Draft.layOut_eq` says
that the type is checked and marked. What is wrong with it (`Draft.layoutFault?`) depends on the
types of the library alone, not on which of them are laid out already. For an interface, the checks
come down to ids that are apart (`repeatedId?_eq_none`) and to offsets that ascend from a least one
(`offsetFault?_eq_none`).
-/

namespace Automation.Library

namespace Layout

/-! ## Ids -/

theorem numberFrom_eq {taken : List MemberId} {functions : List FunctionInfo}
    (h : ∀ f ∈ functions, f.desc.memid ≠ MemberId.none) : numberFrom taken functions = functions := by
  induction functions with
  | nil => rfl
  | cons f later ih =>
    unfold numberFrom
    rw [if_neg (h f List.mem_cons_self), ih fun g hg => h g (List.mem_cons_of_mem _ hg)]

/-- Functions that have ids are not numbered. -/
theorem number_eq {inherited : List MemberId} {functions : List FunctionInfo}
    (h : ∀ f ∈ functions, f.desc.memid ≠ MemberId.none) : number inherited functions = functions :=
  numberFrom_eq h

/-- No id is inherited, or used twice where it may not be. -/
theorem repeatedId?_eq_none {inherited : List MemberId} {earlier later : List FunctionDesc} :
    repeatedId? inherited earlier later = none ↔
      (∀ f ∈ later, f.memid ∉ inherited) ∧
        (∀ e ∈ earlier, ∀ f ∈ later, clashes f e = false) ∧
        later.Pairwise fun e f => clashes f e = false := by
  induction later generalizing earlier with
  | nil => simp [repeatedId?]
  | cons f later ih =>
    unfold repeatedId?
    rw [List.forall_mem_cons, List.pairwise_cons]
    split
    · next hrepeated =>
      refine iff_of_false (Option.some_ne_none _) ?_
      rintro ⟨⟨hinherited, -⟩, hearlier, -⟩
      rcases Bool.or_eq_true_iff.mp hrepeated with hmem | hany
      · exact hinherited (by simpa using hmem)
      · obtain ⟨e, he, hclash⟩ := List.any_eq_true.mp hany
        rw [hearlier e he f List.mem_cons_self] at hclash
        exact Bool.noConfusion hclash
    · next hnew =>
      obtain ⟨hinherited, hearlier⟩ := Bool.or_eq_false_iff.mp (Bool.eq_false_iff.mpr hnew)
      rw [List.any_eq_false] at hearlier
      rw [ih]
      simp only [List.mem_append, List.mem_cons, List.not_mem_nil, or_false]
      constructor
      · rintro ⟨hlater, hboth, hpairwise⟩
        refine ⟨⟨by simpa using hinherited, hlater⟩, fun e he g hg => ?_,
          fun g hg => hboth f (.inr rfl) g hg, hpairwise⟩
        rcases hg with rfl | hg
        · simpa using hearlier e he
        · exact hboth e (.inl he) g hg
      · rintro ⟨⟨-, hlater⟩, hboth, hfirst, hpairwise⟩
        refine ⟨hlater, fun e he g hg => ?_, hpairwise⟩
        rcases he with he | rfl
        · exact hboth e he g (.inr hg)
        · exact hfirst g hg

/-! ## Offsets -/

/-- Offsets that nothing is wrong with lie above the least one. -/
theorem least_le_of_offsetFault? {type : String} {slot least index : Nat} {previous : Option Nat}
    {functions : List FunctionDesc}
    (h : offsetFault? type slot least index previous functions = none) :
    ∀ f ∈ functions, least ≤ f.offset := by
  induction functions generalizing index previous with
  | nil => simp
  | cons f later ih =>
    unfold offsetFault? at h
    split at h
    · exact Option.noConfusion rfl (heq_of_eq h)
    · next hleast =>
      split at h
      · exact Option.noConfusion rfl (heq_of_eq h)
      · refine List.forall_mem_cons.mpr ⟨?_, ih h⟩
        omega

/-- Offsets that nothing is wrong with are whole slots. -/
theorem dvd_of_offsetFault? {type : String} {slot least index : Nat} {previous : Option Nat}
    {functions : List FunctionDesc}
    (h : offsetFault? type slot least index previous functions = none) :
    ∀ f ∈ functions, slot ∣ f.offset := by
  induction functions generalizing index previous with
  | nil => simp
  | cons f later ih =>
    unfold offsetFault? at h
    split at h
    · exact Option.noConfusion rfl (heq_of_eq h)
    · split at h
      · exact Option.noConfusion rfl (heq_of_eq h)
      · next hslots =>
        refine List.forall_mem_cons.mpr ⟨Nat.dvd_of_mod_eq_zero ?_, ih h⟩
        simp only [Bool.or_eq_true, not_or, bne_iff_ne, ne_eq, Decidable.not_not] at hslots
        exact hslots.2

/-- Nothing is wrong with offsets that go up slot by slot from the least one. -/
theorem offsetFault?_eq_none {type : String} {slot least index : Nat} {previous : Option Nat}
    {functions : List FunctionDesc} (first : Nat) (hslot : 0 < slot)
    (hleast : least ≤ first * slot)
    (hprevious : ∀ p ∈ previous, p < first * slot)
    (hoffsets : ∀ j f, functions[j]? = some f → f.offset = (first + j) * slot) :
    offsetFault? type slot least index previous functions = none := by
  induction functions generalizing index previous first with
  | nil => rfl
  | cons f later ih =>
    have hf : f.offset = first * slot := hoffsets 0 f rfl
    have hnext : first * slot < (first + 1) * slot := Nat.mul_lt_mul_of_pos_right (by omega) hslot
    unfold offsetFault?
    have hascends : (previous.any (fun p => decide (f.offset ≤ p)) || f.offset % slot != 0) = false := by
      rw [hf, Nat.mul_mod_left]
      cases previous with
      | none => rfl
      | some p => simpa using hprevious p rfl
    rw [if_neg (by omega), hascends]
    refine ih (first + 1) (by omega) ?_ fun j g hg => ?_
    · rintro p ⟨rfl⟩
      omega
    · rw [hoffsets (j + 1) g hg, Nat.add_assoc, Nat.add_comm 1 j]

theorem interfaceFault?_eq_none {type : TypeInfo} {inherited : List MemberId} {slot : Nat} :
    interfaceFault? type inherited slot = none ↔
      repeatedId? inherited [] (type.functions.map (·.desc)) = none ∧
        offsetFault? type.name slot ((reservedSlots type.kind type.flags + inherited.length) * slot) 0
          none (type.functions.map (·.desc)) = none := by
  unfold interfaceFault?
  dsimp only
  split
  · next memid hmemid => simp [hmemid]
  · next hnone => simp [hnone]

end Layout

namespace Draft

/-! ## One type -/

/-- The drafts have the same types, whichever of them are laid out. -/
structure SameTypes (d d' : Draft) : Prop where
  infos : d'.infos = d.infos
  imports : d'.imports = d.imports
  attributes : d'.attributes = d.attributes

/-- What is wrong with a type whose functions all have ids. -/
def layoutFault? (d : Draft) (h : Handle) (info : TypeInfo) : Option BuildError :=
  if info.refs.any fun ref => !d.resolves ref then some (.danglingReference info.name)
  else if info.kind.isInterface then Layout.interfaceFault? info (d.inheritedIds h) d.slot
  else if info.kind = .coClass then Layout.classFault? info
  else none

variable {d d' : Draft} {h : Handle} {info : TypeInfo}

theorem length_infos : d.infos.length = d.types.length := List.length_map _

theorem SameTypes.refl (d : Draft) : SameTypes d d := ⟨rfl, rfl, rfl⟩

theorem SameTypes.trans {d'' : Draft} (hs : SameTypes d d') (hs' : SameTypes d' d'') :
    SameTypes d d'' :=
  ⟨hs'.infos.trans hs.infos, hs'.imports.trans hs.imports, hs'.attributes.trans hs.attributes⟩

theorem SameTypes.resolves (hs : SameTypes d d') (ref : TypeRef) :
    d'.resolves ref = d.resolves ref := by
  have hlength : d'.types.length = d.types.length := by
    have hinfos := congrArg List.length hs.infos
    rwa [length_infos, length_infos] at hinfos
  cases ref <;> simp [Draft.resolves, hlength, hs.imports]

/-- What is wrong with a type does not depend on which types are laid out. -/
theorem SameTypes.layoutFault? (hs : SameTypes d d') (h : Handle) (info : TypeInfo) :
    d'.layoutFault? h info = d.layoutFault? h info := by
  simp only [Draft.layoutFault?, hs.resolves, inheritedIds, hs.infos, slot, hs.attributes]

theorem sameTypes_finish (d : Draft) (h : Handle) : SameTypes d (d.finish h) := by
  refine ⟨?_, rfl, rfl⟩
  unfold infos finish
  refine List.ext_getElem? fun i => ?_
  rw [List.getElem?_map, List.getElem?_map, List.getElem?_modify]
  by_cases hi : h.index = i <;> simp [hi, Function.comp_def]

/-- **The layout of a type** whose functions all have ids: it is checked, and marked if nothing is
wrong with it. -/
theorem layOut_eq (ho : d.IsOpen h info)
    (hids : ∀ f ∈ info.functions, f.desc.memid ≠ MemberId.none) :
    d.layOut h = match d.layoutFault? h info with
      | some error => (.error error, d)
      | none => (.ok (), d.finish h) := by
  have hnumbered : { info with functions := Layout.number (d.inheritedIds h) info.functions } =
      info := by
    rw [Layout.number_eq hids]
  unfold layOut layoutFault?
  rw [ho.unfinished_eq]
  dsimp only
  by_cases hrefs : (info.refs.any fun ref => !d.resolves ref) = true
  · rw [if_pos hrefs, if_pos hrefs]
  · rw [if_neg hrefs, if_neg hrefs]
    by_cases hinterface : info.kind.isInterface = true
    · cases hfault : Layout.interfaceFault? info (d.inheritedIds h) d.slot <;>
        simp only [if_pos hinterface, hnumbered, ho.setInfo_self, hfault]
    · rw [if_neg hinterface, if_neg hinterface]
      by_cases hclass : info.kind = .coClass
      · cases Layout.classFault? info <;> simp only [if_pos hclass]
      · rw [if_neg hclass, if_neg hclass]

end Draft

end Automation.Library
