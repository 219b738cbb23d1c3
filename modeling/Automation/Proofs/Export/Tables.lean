import Automation.Proofs.Export.Ordering

/-!
# The tables of interfaces

The functions of every interface of a library fill one table, after the slots that it reserves and
those of its lineage: `Built.exists_tabledAt`. The layout counts slots along the whole base chain, and
so it finds a fault exactly if the base chain has more of them (`TabledAt.interfaceFault?_eq_none`).
-/

namespace Automation.Export

open Library Source

/-! ## One interface -/

/-- Markers have no say in how many slots are reserved. -/
theorem reservedSlots_markers (binding : Binding) (m : Markers) :
    reservedSlots binding.typeKind (markerFlags m ||| binding.flags) =
      reservedSlots binding.typeKind binding.flags := by
  rcases m with ⟨hidden, restricted, notVisible⟩
  cases notVisible <;> cases binding <;> cases hidden <;> cases restricted <;> decide

/-- Offsets are exact as long as there are few functions. -/
theorem VirtualTable.offset_of_lt {t : VirtualTable} {index : Nat} (hreserved : t.reserved ≤ 7)
    (hslot : t.slotSize ≤ 8) (hfew : t.inherited + index < 2 ^ 28) :
    t.offset index = (t.reserved + t.inherited + index) * t.slotSize := by
  have hmul : (t.reserved + t.inherited + index) * t.slotSize ≤
      (t.reserved + t.inherited + index) * 8 := Nat.mul_le_mul_left _ hslot
  have hmax : maxUnsigned = 4294967295 := rfl
  unfold VirtualTable.offset saturate firstSlot
  rw [Nat.min_eq_left (show index ≤ maxUnsigned by omega),
    Nat.min_eq_left (show t.reserved + t.inherited + index ≤ maxUnsigned by omega)]
  exact Nat.min_eq_left (by omega)

theorem reservedSlots_le (kind : TypeKind) (flags : TypeFlags) : reservedSlots kind flags ≤ 7 := by
  unfold reservedSlots dispatchSlots unknownSlots
  split <;> omega

theorem bytes_le (width : PointerWidth) : 0 < width.bytes ∧ width.bytes ≤ 8 := by
  cases width <;> decide

/-- The functions of a type are those of one table, where `base` is what the type inherits. -/
structure Tabled (t : TypeInfo) (y : Synthesis) (owner : TypeDecl) (base : Inherited) : Prop where
  functions : t.functions = (interfaceFunctions y owner base).functions.map (·.written)
  reserved : (memberTable y base).reserved = reservedSlots t.kind t.flags

/-- The functions of an interface come with a table. -/
theorem tabled_filled {version : Version} {scope : Scope} {s : Setting} {p : Placed} {binding : Binding}
    (htarget : p.type.target = .interface binding) (base : Inherited) :
    Tabled (p.filled version scope (interfaceFunctions (s.synthesis binding) p.type.decl base))
      (s.synthesis binding) p.type.decl base where
  functions := rfl
  reserved := by
    change reservedSlots binding.typeKind binding.flags =
      reservedSlots p.type.target.typeKind (typeFlags p.type.decl p.type.target)
    rw [htarget]
    exact (reservedSlots_markers binding _).symm

theorem tabled_filledInterface {version : Version} {scope : Scope} {s : Setting} (p : Placed)
    (c : ClassInterface) :
    Tabled (p.filledInterface version scope s c) (s.synthesis c.binding) p.type.decl {} where
  functions := rfl
  reserved := (reservedSlots_markers c.binding _).symm

/-- The offsets of a table whose inherited slots are known. -/
theorem Tabled.offset {t : TypeInfo} {y : Synthesis} {owner : TypeDecl} {base : Inherited}
    (h : Tabled t y owner base) {j : Nat} {f : FunctionInfo} (hf : t.functions[j]? = some f)
    (hfew : base.slots + t.functions.length ≤ 2 ^ 28) :
    f.desc.offset =
      (reservedSlots t.kind t.flags + base.slots + j) * y.settings.pointerWidth.bytes := by
  have hj : j < t.functions.length := (List.getElem?_eq_some_iff.mp hf).1
  rw [h.functions, List.getElem?_map] at hf
  obtain ⟨s, hs, rfl⟩ := Option.map_eq_some_iff.mp hf
  have hoffset : s.desc.offset = (memberTable y base).offset j := offset_of_getElem? hs
  change s.desc.offset = _
  rw [hoffset, VirtualTable.offset_of_lt (reservedSlots_le _ _) (bytes_le _).2, h.reserved]
  · rfl
  · change base.slots + j < 2 ^ 28
    omega

/-! ## Ids and offsets -/

theorem mayShareId_of_ne {a b : InvokeKind} (ha : a ≠ .function) (hb : b ≠ .function) (hne : a ≠ b) :
    a.mayShareId b = true := by
  cases a <;> cases b <;> first | rfl | contradiction

/-- The accessors of a property are not invoked as functions. -/
theorem invoke_ne_function {y : Synthesis} {owner : TypeDecl} {base : Inherited}
    {f : SynthesizedFunction} (hf : f ∈ (interfaceFunctions y owner base).functions)
    (hproperty : f.property.isSome) : f.desc.invoke ≠ .function := by
  obtain ⟨j, hj⟩ := List.mem_iff_getElem?.mp hf
  obtain ⟨s, place, memid, name, hs, -, -, rfl⟩ := getElem?_functions hj
  obtain ⟨m, -, -, hm⟩ := mem_memberFunctions.mp (List.mem_of_getElem? hs)
  have hsame := property_of_synthesize hm
  obtain ⟨invoke, signature, hinvoke, -, rfl⟩ := synthesize_eq_some.mp hm
  change (Option.map Text.nameKey m.property?).isSome at hproperty
  rw [Option.isSome_map] at hproperty
  change invoke ≠ .function
  rintro rfl
  unfold invokeKind? at hinvoke
  unfold Member.property? at hproperty
  split at hinvoke
  · next hrole =>
    rw [hrole] at hproperty
    exact Bool.noConfusion hproperty
  · exact nomatch hinvoke
  · split at hinvoke
    · split at hinvoke <;> exact nomatch hinvoke
    · exact nomatch hinvoke
  · exact nomatch hinvoke

theorem clashes_eq_false {y : Synthesis} {owner : TypeDecl} {base : Inherited} {i j : Nat}
    {f g : SynthesizedFunction} (hij : i < j)
    (hf : (interfaceFunctions y owner base).functions[i]? = some f)
    (hg : (interfaceFunctions y owner base).functions[j]? = some g) :
    Layout.clashes g.desc f.desc = false := by
  unfold Layout.clashes
  by_cases hmemid : f.desc.memid = g.desc.memid
  · obtain ⟨hsome, hsame, hinvoke⟩ := memid_shared hij hf hg hmemid
    rw [mayShareId_of_ne (invoke_ne_function (List.mem_of_getElem? hf) hsome)
      (invoke_ne_function (List.mem_of_getElem? hg) (hsame ▸ hsome)) hinvoke, Bool.not_true,
      Bool.and_false]
  · rw [beq_false_of_ne hmemid, Bool.false_and]

/-- No id repeats in a table, and none is inherited. -/
theorem Tabled.repeatedId?_eq_none {t : TypeInfo} {y : Synthesis} {owner : TypeDecl}
    {base : Inherited} (h : Tabled t y owner base) {inherited : List MemberId}
    (hinherited : ∀ id, id ∈ inherited → id ∈ base.ids) :
    Layout.repeatedId? inherited [] (t.functions.map (·.desc)) = none := by
  rw [Layout.repeatedId?_eq_none, h.functions]
  refine ⟨fun desc hdesc hmem => ?_, fun _ he => (nomatch he), ?_⟩
  · rw [List.map_map] at hdesc
    obtain ⟨f, hf, rfl⟩ := List.mem_map.mp hdesc
    exact (memid_fresh hf).1 (hinherited _ hmem)
  · rw [List.map_map, List.pairwise_map]
    refine List.pairwise_iff_getElem.mpr fun i j hi hj hij => ?_
    exact clashes_eq_false hij (List.getElem?_eq_getElem hi) (List.getElem?_eq_getElem hj)

/-! ## Tables in a library -/

/-- The functions of the type at a place fill a table, and it inherits what the types of its lineage
have. -/
structure TabledAt (types : List TypeInfo) (width : PointerWidth) (i : Nat) (t : TypeInfo) :
    Prop where
  type : types[i]? = some t
  table : ∃ y owner base bases, Tabled t y owner base ∧ y.settings.pointerWidth = width ∧
    Lineage types (baseOrder types) i bases ∧ Carries types base bases

namespace TabledAt

variable {types : List TypeInfo} {width : PointerWidth} {i : Nat} {t : TypeInfo}

theorem slotsAt (h : TabledAt types width i t) : slotsAt types i = t.functions.length := by
  unfold Library.slotsAt
  rw [h.type]

/-- A type and its base chain have no more functions than the library. -/
theorem length_add_inheritedSlots_le (h : TabledAt types width i t) :
    t.functions.length + inheritedSlots types i ≤ (types.map (·.functions.length)).sum := by
  have hlength : ∀ b ∈ i :: baseChain types i, b < types.length :=
    List.forall_mem_cons.mpr
      ⟨(List.getElem?_eq_some_iff.mp h.type).1, fun b hb => (mem_baseChain hb).2⟩
  have hsum := sum_slotsAt_le nodup_cons_baseChain hlength
  rwa [List.map_cons, List.sum_cons, h.slotsAt] at hsum

/-- **Slots are counted alike** unless the base chain crosses a cut: then the layout counts more. -/
theorem interfaceFault?_eq_none (h : TabledAt types width i t)
    (hfew : (types.map (·.functions.length)).sum < 2 ^ 28) :
    Layout.interfaceFault? t ((baseChain types i).flatMap (idsAt types)) width.bytes = none ↔
      ¬CrossesAt types i := by
  obtain ⟨y, owner, base, bases, htabled, rfl, hlineage, hcarries⟩ := h.table
  have hcount := h.length_add_inheritedSlots_le
  obtain ⟨rest, hrest⟩ := hlineage.isPrefix fun b hb =>
    List.mem_range.mp (mem_of_mem_walks List.nodup_range hb)
  have hslots : base.slots + (rest.map (Library.slotsAt types)).sum = inheritedSlots types i := by
    unfold inheritedSlots
    rw [← hrest, List.map_append, List.sum_append, hcarries.slots]
  rw [crossesAt_iff_lt hlineage, h.slotsAt, ← hcarries.slots, Layout.interfaceFault?_eq_none,
    length_flatMap_idsAt]
  change _ ∧ Layout.offsetFault? _ _ ((_ + inheritedSlots types i) * _) _ _ _ = none ↔ _
  constructor
  · rintro ⟨-, hoffsets⟩ ⟨hpos, hlt⟩
    -- The first function lies too low.
    have hfirst : t.functions[0]? = some t.functions[0] := List.getElem?_eq_getElem hpos
    have hle := Layout.least_le_of_offsetFault? hoffsets t.functions[0].desc
      (List.mem_map_of_mem (List.getElem_mem hpos))
    rw [htabled.offset hfirst (by omega), Nat.add_zero] at hle
    have hall := Nat.le_of_mul_le_mul_right hle (bytes_le _).1
    omega
  · intro hnone
    by_cases hpos : 0 < t.functions.length
    · have hsame : base.slots = inheritedSlots types i := by omega
      have hempty : rest.flatMap (idsAt types) = [] := by
        rw [← List.length_eq_zero_iff, length_flatMap_idsAt]
        omega
      refine ⟨htabled.repeatedId?_eq_none fun id hid => ?_, ?_⟩
      · rw [← hrest, List.flatMap_append, hempty, List.append_nil] at hid
        exact (hcarries.ids id).mpr hid
      · refine Layout.offsetFault?_eq_none (reservedSlots t.kind t.flags + base.slots)
          (bytes_le _).1 (by rw [hsame]) (fun p hp => (nomatch hp)) fun j f hf => ?_
        rw [List.getElem?_map] at hf
        obtain ⟨g, hg, rfl⟩ := Option.map_eq_some_iff.mp hf
        exact htabled.offset hg (by omega)
    · obtain hnil : t.functions = [] := List.length_eq_zero_iff.mp (by omega)
      rw [hnil]
      exact ⟨rfl, rfl⟩

/-- **The offsets of a table** in which the layout finds no fault. -/
theorem offset (h : TabledAt types width i t)
    (hfew : (types.map (·.functions.length)).sum < 2 ^ 28) (hcrosses : ¬CrossesAt types i) {j : Nat}
    {f : FunctionInfo} (hf : t.functions[j]? = some f) :
    f.desc.offset =
      (reservedSlots t.kind t.flags + inheritedSlots types i + j) * width.bytes := by
  obtain ⟨y, owner, base, bases, htabled, rfl, hlineage, hcarries⟩ := h.table
  have hcount := h.length_add_inheritedSlots_le
  have hj : j < t.functions.length := (List.getElem?_eq_some_iff.mp hf).1
  have hle : base.slots ≤ inheritedSlots types i := by
    obtain ⟨rest, hrest⟩ := hlineage.isPrefix fun b hb =>
      List.mem_range.mp (mem_of_mem_walks List.nodup_range hb)
    unfold inheritedSlots
    rw [← hrest, List.map_append, List.sum_append, hcarries.slots]
    exact Nat.le_add_right _ _
  rw [crossesAt_iff_lt hlineage, h.slotsAt, ← hcarries.slots] at hcrosses
  have hsame : base.slots = inheritedSlots types i := by omega
  rw [htabled.offset hf (by omega), hsame]

end TabledAt

/-! ## Tables of a library -/

namespace Built

variable {unit : Reflection} {resolver : Resolver} {settings : Settings}
  {references : List ReferencedLibrary} {classified : List Classified} {placed : List Placed}
  {refs : ReferenceTable} {d₀ d : Draft} {i : Nat} {t : TypeInfo}

/-- **Every interface of a library has its functions in a table.** -/
theorem tabledAt (h : Built unit resolver settings references classified placed refs d₀ d)
    (ht : d.infos[i]? = some t) (hkind : t.kind.isInterface = true) :
    TabledAt d.infos settings.pointerWidth i t := by
  refine ⟨ht, ?_⟩
  rcases (h.content ht).1.interface_cases hkind with
    ⟨f, hfill, hi, rfl⟩ | ⟨p, hp, c, hc, hi, rfl⟩
  · obtain ⟨binding, base, bases, htarget, hmade, hlineage, hcarries⟩ := h.lineage f hfill
    obtain rfl : i = f.1.handle.index := congrArg Handle.index hi
    refine ⟨_, f.1.type.decl, base, bases, hmade ▸ tabled_filled htarget base, rfl, ?_, hcarries⟩
    refine h.lineage_baseOrder hlineage (mem_interfacesOf.mpr ⟨f.1, (mem_filling hfill).1, ?_, rfl⟩)
    rw [htarget]
    rfl
  · refine ⟨_, _, {}, [], tabled_filledInterface p c, rfl, .last fun b hb => ?_, carries_nil _⟩
    have hnot : i ∉ interfacesOf placed := fun hmem => by
      obtain ⟨q, hq, -, hindex⟩ := mem_interfacesOf.mp hmem
      exact h.prepared.apart.interface_ne hp hq hc (hi.symm.trans (congrArg Handle.mk hindex.symm))
    rw [h.ownBase?_eq_none hnot] at hb
    exact nomatch hb

/-- Only interfaces have functions. -/
theorem isInterface_of_functions (h : Built unit resolver settings references classified placed refs d₀ d)
    (ht : d.infos[i]? = some t) (hfunctions : t.functions ≠ []) : t.kind.isInterface = true := by
  have hcontent := (h.content ht).1
  generalize (⟨i⟩ : Handle) = k at hcontent
  cases hcontent with
  | @interface f hfill =>
    obtain ⟨-, binding, -, htarget, -⟩ := mem_filling hfill
    rw [Placed.kind_filled, htarget]
    exact binding.isInterface_typeKind
  | @classInterface p c hp hc => exact c.binding.isInterface_typeKind
  | coClass hp hkind => exact (hfunctions rfl).elim
  | record hp htarget => exact (hfunctions rfl).elim
  | enumeration hp htarget => exact (hfunctions rfl).elim

end Built

end Automation.Export
