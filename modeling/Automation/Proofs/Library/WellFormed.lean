import Automation.Library.Standard
import Automation.Proofs.Library.Layout
import Mathlib.Data.List.Nodup
import Mathlib.Data.List.Perm.Subperm
import Mathlib.Logic.Relation

/-!
# Committed libraries are well formed

A draft takes any requests in any order. `Draft.Step` says what changes there can be: a request that
is accepted makes one or two of them, and one that is rejected makes none, or leaves ids behind in
an open type (`Draft.reaches_answer`). Every change keeps a draft sound (`Draft.Sound.step`), so a
draft is sound after any requests (`Draft.sound_after`). A sound draft with every type laid out is
a well-formed library: `Draft.wellFormed_of_commit`.
-/

namespace Automation

namespace Library

/-! ## Well-formed libraries -/

/-- The names that the constants of an enum have been given. -/
def TypeInfo.constantNames (t : TypeInfo) : List String :=
  if t.kind = .enumeration then (t.vars.map (·.name)).filter (· ≠ "") else []

/-- The names that a type defines in its library: its own and those of its constants. -/
def TypeInfo.definedNames (t : TypeInfo) : List String := t.name :: t.constantNames

/-- The type with an id for each function that has none. -/
def TypeInfo.numbered (t : TypeInfo) (inherited : List MemberId) : TypeInfo :=
  { t with functions := Layout.number inherited t.functions }

/-- The type is laid out: a class marks one interface as its default, and in an interface offsets
ascend, every function has an id, and those that share one are accessors of different kinds. -/
structure TypeInfo.IsLaidOut (t : TypeInfo) : Prop where
  default : t.kind = .coClass → t.implemented.countP ImplementedType.isDefault = 1
  offsets : t.kind.isInterface → t.functions.Pairwise fun e f => e.desc.offset < f.desc.offset
  ids : t.kind.isInterface → ∀ f ∈ t.functions, f.desc.memid ≠ MemberId.none
  accessors : t.kind.isInterface → t.functions.Pairwise fun e f => e.desc.memid = f.desc.memid →
    e.desc.invoke ≠ .function ∧ f.desc.invoke ≠ .function ∧ e.desc.invoke ≠ f.desc.invoke

end Library

/-- The library is well formed. -/
structure Library.WellFormed (l : Library) : Prop where
  /-- Types and enum constants have different names, whatever the case. -/
  names : ((l.types.flatMap TypeInfo.definedNames).map Text.nameKey).Nodup
  /-- Every type is found by its name. -/
  find? : ∀ i t, l.types[i]? = some t → l.find? t.name = some ⟨i⟩
  /-- Every reference of a type has a target. -/
  refs : ∀ t ∈ l.types, ∀ ref ∈ t.refs, (l.refName? ref).isSome
  types : ∀ t ∈ l.types, t.IsLaidOut

namespace Library

theorem sublist_definedNames (types : List TypeInfo) :
    (types.map (·.name)).Sublist (types.flatMap TypeInfo.definedNames) := by
  induction types with
  | nil => exact List.Sublist.slnil
  | cons t rest ih => exact (ih.trans (List.sublist_append_right _ _)).cons_cons t.name

/-- Types with different names are found by them. -/
theorem find?_eq_of_nodup {l : Library}
    (h : ((l.types.flatMap TypeInfo.definedNames).map Text.nameKey).Nodup) {i : Nat} {t : TypeInfo}
    (hi : l.types[i]? = some t) : l.find? t.name = some ⟨i⟩ := by
  have hnames : ((l.types.map (·.name)).map Text.nameKey).Nodup :=
    h.sublist ((sublist_definedNames l.types).map Text.nameKey)
  obtain ⟨hlt, rfl⟩ := List.getElem?_eq_some_iff.mp hi
  have hfind : (l.types.findIdx? fun u => Text.nameKey u.name == Text.nameKey l.types[i].name) =
      some i := by
    refine List.findIdx?_eq_some_iff_getElem.mpr ⟨hlt, by simp, fun j hj hkey => ?_⟩
    have hj' : j < l.types.length := Nat.lt_trans hj hlt
    have hne := List.pairwise_iff_getElem.mp hnames j i (by simpa using hj') (by simpa using hlt) hj
    exact hne (by simpa using hkey)
  unfold Library.find?
  rw [hfind]
  rfl

namespace Layout

theorem refs_numberFrom (taken : List MemberId) (functions : List FunctionInfo) :
    (numberFrom taken functions).map (fun f => (f.desc.params, f.desc.ret)) =
      functions.map fun f => (f.desc.params, f.desc.ret) := by
  induction functions generalizing taken with
  | nil => rfl
  | cons f later ih =>
    unfold numberFrom
    split <;> simp [ih]

theorem numberFrom_memid_ne {taken : List MemberId} {functions : List FunctionInfo} :
    ∀ f ∈ numberFrom taken functions, f.desc.memid ≠ MemberId.none := by
  induction functions generalizing taken with
  | nil => simp [numberFrom]
  | cons f later ih =>
    unfold numberFrom
    split
    · refine List.forall_mem_cons.mpr ⟨fun hnone => ?_, ih⟩
      have hnonneg : (0 : Int) ≤ freeMemberId taken := Int.natCast_nonneg _
      rw [show freeMemberId taken = -1 from hnone] at hnonneg
      exact absurd hnonneg (by decide)
    · next hid => exact List.forall_mem_cons.mpr ⟨hid, ih⟩

/-- Offsets that nothing is wrong with ascend. -/
theorem pairwise_of_offsetFault? {type : String} {slot least index : Nat} {previous : Option Nat}
    {functions : List FunctionDesc}
    (h : offsetFault? type slot least index previous functions = none) :
    (∀ p ∈ previous, ∀ f ∈ functions, p < f.offset) ∧
      functions.Pairwise fun e f => e.offset < f.offset := by
  induction functions generalizing index previous with
  | nil => simp
  | cons f later ih =>
    unfold offsetFault? at h
    split at h
    · exact Option.noConfusion rfl (heq_of_eq h)
    · split at h
      · exact Option.noConfusion rfl (heq_of_eq h)
      · next hascends =>
        obtain ⟨hnext, hlater⟩ := ih h
        have hnext' := hnext f.offset rfl
        refine ⟨fun p hp => ?_, List.pairwise_cons.mpr ⟨hnext', hlater⟩⟩
        have hlt : p < f.offset := by
          obtain rfl := Option.mem_def.mp hp
          simp only [Option.any_some, Bool.or_eq_true, decide_eq_true_eq, not_or] at hascends
          omega
        exact List.forall_mem_cons.mpr ⟨hlt, fun g hg => Nat.lt_trans hlt (hnext' g hg)⟩

/-- An interface whose numbered functions nothing is wrong with is laid out. -/
theorem isLaidOut_numbered {t : TypeInfo} {inherited : List MemberId} {slot : Nat}
    (hkind : t.kind.isInterface)
    (h : interfaceFault? (t.numbered inherited) inherited slot = none) :
    (t.numbered inherited).IsLaidOut := by
  obtain ⟨hrepeated, hoffsets⟩ := interfaceFault?_eq_none.mp h
  refine ⟨fun hclass => ?_, fun _ => ?_, fun _ => numberFrom_memid_ne, fun _ => ?_⟩
  · rw [show t.kind = .coClass from hclass] at hkind
    exact Bool.noConfusion hkind
  · have hascend := (pairwise_of_offsetFault? hoffsets).2
    rwa [List.pairwise_map] at hascend
  · refine (List.pairwise_map.mp (repeatedId?_eq_none.mp hrepeated).2.2).imp fun {e f} hclash hid => ?_
    simpa [clashes, hid, InvokeKind.mayShareId, and_assoc] using hclash

/-- A class with one default is laid out, as is a type that has neither functions nor defaults. -/
theorem isLaidOut_of_not_interface {t : TypeInfo} (hkind : ¬t.kind.isInterface)
    (hdefault : t.kind = .coClass → classFault? t = none) : t.IsLaidOut := by
  refine ⟨fun hclass => ?_, fun h => absurd h hkind, fun h => absurd h hkind,
    fun h => absurd h hkind⟩
  have hcount := hdefault hclass
  unfold classFault? at hcount
  dsimp only at hcount
  split at hcount
  · next hone => exact hone
  · exact Option.noConfusion rfl (heq_of_eq hcount)

end Layout

namespace Draft

/-! ## What changes there can be -/

/-- One change of a draft. -/
inductive Step (d : Draft) : Draft → Prop where
  | described (attributes : Option Attributes) : Step d { d with attributes := attributes }
  | imported (library : ImportedLibrary) : Step d { d with imports := d.imports ++ [library] }
  | created (name : String) (kind : TypeKind) (fresh : Text.nameKey name ∉ d.names) :
    Step d { d with
      names := Text.nameKey name :: d.names
      types := d.types ++ [{ info := { name := name, kind := kind } }] }
  /-- An open type is changed and defines no further name. -/
  | edited {h : Handle} {t t' : TypeInfo} (isOpen : d.IsOpen h t)
    (names : t'.definedNames.Subperm t.definedNames) : Step d (d.setInfo h t')
  /-- An open type defines a name that is taken for it. -/
  | named {h : Handle} {t t' : TypeInfo} {name : String} (isOpen : d.IsOpen h t)
    (fresh : Text.nameKey name ∉ d.names) (names : t'.definedNames.Subperm (name :: t.definedNames)) :
    Step d { d.setInfo h t' with names := Text.nameKey name :: d.names }
  | finished {h : Handle} {t : TypeInfo} (isOpen : d.IsOpen h t)
    (refs : ∀ ref ∈ t.refs, d.resolves ref) (laidOut : t.IsLaidOut) : Step d (d.finish h)

/-- The draft becomes another by some changes. -/
def Reaches : Draft → Draft → Prop := Relation.ReflTransGen Step

/-- The names that the types of a draft define. -/
def definedNames (d : Draft) : List String := d.infos.flatMap TypeInfo.definedNames

/-- The draft is sound: every name that is defined has been taken once, and every type that is
marked as laid out is laid out. -/
structure Sound (d : Draft) : Prop where
  nodup : d.names.Nodup
  taken : (d.definedNames.map Text.nameKey).Subperm d.names
  refs : ∀ u ∈ d.types, u.laidOut → ∀ ref ∈ u.info.refs, d.resolves ref
  types : ∀ u ∈ d.types, u.laidOut → u.info.IsLaidOut

variable {d d' : Draft} {h : Handle} {t t' : TypeInfo}

theorem Step.reaches (hs : d.Step d') : d.Reaches d' := .single hs

theorem Reaches.refl (d : Draft) : d.Reaches d := Relation.ReflTransGen.refl

theorem Reaches.trans {d'' : Draft} (h : d.Reaches d') (h' : d'.Reaches d'') : d.Reaches d'' :=
  Relation.ReflTransGen.trans h h'

/-! ## Changes keep a draft sound -/

theorem subperm_map {l l' : List String} (f : String → String) (h : l.Subperm l') :
    (l.map f).Subperm (l'.map f) := by
  obtain ⟨m, hperm, hsub⟩ := h
  exact ⟨m.map f, hperm.map f, hsub.map f⟩

theorem IsOpen.exists_infos (ho : d.IsOpen h t) : ∃ before after,
    d.infos = before ++ t :: after ∧ ∀ t', (d.setInfo h t').infos = before ++ t' :: after := by
  obtain ⟨hlt, htype⟩ := List.getElem?_eq_some_iff.mp ho
  refine ⟨(d.types.take h.index).map (·.info), (d.types.drop (h.index + 1)).map (·.info), ?_,
    fun t' => ?_⟩
  · have hsplit : d.types = d.types.take h.index ++ { info := t } :: d.types.drop (h.index + 1) := by
      rw [← htype, List.getElem_cons_drop, List.take_append_drop]
    unfold infos
    conv_lhs => rw [hsplit]
    simp
  · unfold infos Draft.setInfo
    rw [List.modify_eq_take_cons_drop hlt]
    simp

/-- What an open type defines further, the draft does. -/
theorem IsOpen.definedNames_setInfo (ho : d.IsOpen h t) (more : List String)
    (hnames : t'.definedNames.Subperm (more ++ t.definedNames)) :
    (d.setInfo h t').definedNames.Subperm (more ++ d.definedNames) := by
  obtain ⟨before, after, hinfos, hset⟩ := ho.exists_infos
  unfold definedNames
  rw [hinfos, hset]
  simp only [List.flatMap_append, List.flatMap_cons]
  have hmiddle := (List.subperm_append_left (before.flatMap TypeInfo.definedNames)).mpr
    ((List.subperm_append_right (after.flatMap TypeInfo.definedNames)).mpr hnames)
  refine hmiddle.trans (List.Perm.subperm ?_)
  rw [List.append_assoc]
  exact List.perm_append_comm_assoc ..

/-- A type that is laid out is not the one that is changed. -/
theorem IsOpen.mem_of_mem_setInfo (ho : d.IsOpen h t) {u : DraftType}
    (hu : u ∈ (d.setInfo h t').types) (hlaidOut : u.laidOut) : u ∈ d.types := by
  obtain ⟨i, hi⟩ := List.mem_iff_getElem?.mp hu
  by_cases hh : h.index = i
  · subst hh
    rw [ho.setInfo t'] at hi
    obtain rfl := Option.some.inj hi
    exact Bool.noConfusion hlaidOut
  · rw [getElem?_setInfo_ne hh] at hi
    exact List.mem_of_getElem? hi

theorem IsOpen.mem_finish (ho : d.IsOpen h t) {u : DraftType} (hu : u ∈ (d.finish h).types) :
    u ∈ d.types ∨ u.info = t := by
  obtain ⟨i, hi⟩ := List.mem_iff_getElem?.mp hu
  unfold finish at hi
  rw [List.getElem?_modify] at hi
  by_cases hh : h.index = i
  · subst hh
    rw [ho] at hi
    obtain rfl := Option.some.inj hi
    exact .inr (by simp)
  · simp only [hh, if_false] at hi
    exact .inl (List.mem_of_getElem? (by simpa using hi))

/-- What has a target keeps it. -/
theorem Step.resolves (hs : d.Step d') {ref : TypeRef} (href : d.resolves ref) : d'.resolves ref := by
  cases hs with
  | described => exact href
  | imported library =>
    cases ref with
    | own k => exact href
    | imported place index =>
      obtain ⟨l, hl, hindex⟩ := resolves_imported.mp href
      exact resolves_imported.mpr ⟨l, List.getElem?_append_left
        (List.getElem?_eq_some_iff.mp hl).1 ▸ hl, hindex⟩
  | created name kind fresh =>
    cases ref with
    | own k =>
      have hlt := resolves_own.mp href
      refine resolves_own.mpr ?_
      simpa using Nat.lt_succ_of_lt hlt
    | imported place index => exact href
  | edited isOpen names => rwa [resolves_setInfo]
  | named isOpen fresh names => exact (resolves_setInfo ref).trans href
  | finished isOpen refs laidOut => rwa [(sameTypes_finish d _).resolves]

/-- Every type that is laid out after a change was so before, or is laid out now. -/
theorem Step.laidOut (hs : d.Step d') {u : DraftType} (hu : u ∈ d'.types) (hlaidOut : u.laidOut) :
    u ∈ d.types ∨ u.info.IsLaidOut ∧ ∀ ref ∈ u.info.refs, d.resolves ref := by
  cases hs with
  | described => exact .inl hu
  | imported library => exact .inl hu
  | created name kind fresh =>
    rcases List.mem_append.mp hu with hu | hu
    · exact .inl hu
    · obtain rfl := List.mem_singleton.mp hu
      exact Bool.noConfusion hlaidOut
  | edited isOpen names => exact .inl (isOpen.mem_of_mem_setInfo hu hlaidOut)
  | named isOpen fresh names => exact .inl (isOpen.mem_of_mem_setInfo hu hlaidOut)
  | finished isOpen refs laidOut =>
    rcases isOpen.mem_finish hu with hu | hinfo
    · exact .inl hu
    · exact .inr ⟨hinfo ▸ laidOut, hinfo ▸ refs⟩

/-- **One change keeps a draft sound.** -/
theorem Sound.step (hd : d.Sound) (hs : d.Step d') : d'.Sound := by
  have hlaidOut : ∀ u ∈ d'.types, u.laidOut →
      u.info.IsLaidOut ∧ ∀ ref ∈ u.info.refs, d.resolves ref := fun u hu hl =>
    (hs.laidOut hu hl).elim (fun hu => ⟨hd.types u hu hl, hd.refs u hu hl⟩) id
  refine ⟨?nodup, ?taken, fun u hu hl ref href => hs.resolves ((hlaidOut u hu hl).2 ref href),
    fun u hu hl => (hlaidOut u hu hl).1⟩
  case nodup =>
    cases hs with
    | described | imported | edited | finished => exact hd.nodup
    | created name kind fresh => exact List.nodup_cons.mpr ⟨fresh, hd.nodup⟩
    | named isOpen fresh names => exact List.nodup_cons.mpr ⟨fresh, hd.nodup⟩
  case taken =>
    cases hs with
    | described | imported => exact hd.taken
    | created name kind fresh =>
      have hmore : definedNames { d with
          names := Text.nameKey name :: d.names
          types := d.types ++ [{ info := { name := name, kind := kind } }] } =
            d.definedNames ++ [name] := by
        simp [definedNames, infos, TypeInfo.definedNames, TypeInfo.constantNames]
      rw [hmore, List.map_append]
      exact (List.perm_append_singleton ..).subperm.trans ((List.subperm_cons _).mpr hd.taken)
    | edited isOpen names =>
      have hnames := isOpen.definedNames_setInfo [] names
      exact (subperm_map Text.nameKey hnames).trans hd.taken
    | @named h t t' name isOpen fresh names =>
      have hnames := isOpen.definedNames_setInfo [name] names
      exact (subperm_map Text.nameKey hnames).trans ((List.subperm_cons _).mpr hd.taken)
    | finished isOpen refs laidOut =>
      unfold definedNames
      rw [(sameTypes_finish d _).infos]
      exact hd.taken

/-- **Any changes keep a draft sound.** -/
theorem Sound.reaches (hd : d.Sound) (h : d.Reaches d') : d'.Sound := by
  induction h with
  | refl => exact hd
  | tail _ hs ih => exact ih.step hs

theorem sound_empty : Sound {} :=
  ⟨List.nodup_nil, List.Subperm.refl _, by simp, by simp⟩

/-! ## Requests make changes -/

theorem isOpen_of_unfinished (hu : d.unfinished h = .ok t) : d.IsOpen h t := by
  unfold unfinished at hu
  split at hu
  · next u htype =>
    obtain ⟨info, laidOut⟩ := u
    cases laidOut with
    | true => exact Except.noConfusion rfl rfl (heq_of_eq hu)
    | false =>
      obtain rfl := Except.ok.inj hu
      exact htype
  · exact Except.noConfusion rfl rfl (heq_of_eq hu)

/-- What was accepted of an open type, and what it became. -/
theorem exists_of_change {f : TypeInfo → Except BuildError TypeInfo} (hf : d.change h f = .ok d') :
    ∃ t t', d.IsOpen h t ∧ f t = .ok t' ∧ d' = d.setInfo h t' := by
  unfold Draft.change at hf
  obtain ⟨t, ht, hf⟩ := exists_of_bind hf
  obtain ⟨t', ht', hf⟩ := exists_of_bind hf
  exact ⟨t, t', isOpen_of_unfinished ht, ht', (Except.ok.inj hf).symm⟩

theorem reaches_change {f : TypeInfo → Except BuildError TypeInfo}
    (hf : ∀ t t', f t = .ok t' → t'.definedNames.Subperm t.definedNames)
    (hchange : d.change h f = .ok d') : d.Reaches d' := by
  obtain ⟨t, t', ho, ht, rfl⟩ := exists_of_change hchange
  exact (Step.edited ho (hf t t' ht)).reaches

theorem reaches_settleDone {outcome : Except BuildError Draft}
    (h : ∀ d', outcome = .ok d' → d.Reaches d') : d.Reaches (d.settleDone outcome).2 := by
  cases outcome with
  | error error => exact .refl d
  | ok d' => exact h d' rfl

/-- A change that no type refuses, and that is not about names. -/
theorem reaches_describe {f : TypeInfo → TypeInfo} (hf : ∀ t, (f t).definedNames = t.definedNames) :
    d.Reaches (d.settleDone (d.change h fun t => .ok (f t))).2 := by
  refine reaches_settleDone fun d' hd => reaches_change (fun t t' ht => ?_) hd
  obtain rfl := Except.ok.inj ht
  rw [hf]

/-- A name that was accepted was free, and is taken now. -/
theorem exists_of_claim {name : String} (hd : d.claim name = .ok d') :
    Text.nameKey name ∉ d.names ∧ d' = { d with names := Text.nameKey name :: d.names } := by
  unfold claim at hd
  dsimp only at hd
  split at hd
  · exact Except.noConfusion rfl rfl (heq_of_eq hd)
  · next hfree => exact ⟨by simpa using hfree, (Except.ok.inj hd).symm⟩

theorem exists_of_insertAt {α : Type} {type : String} {items items' : List α} {index : Nat}
    {item : α} (h : insertAt type items index item = .ok items') :
    index ≤ items.length ∧ items' = items.insertIdx index item := by
  unfold insertAt at h
  split at h
  · next hi => exact ⟨hi, (Except.ok.inj h).symm⟩
  · exact Except.noConfusion rfl rfl (heq_of_eq h)

theorem exists_of_modifyAt {α : Type} {type : String} {items items' : List α} {index : Nat}
    {f : α → Except BuildError α} (h : modifyAt type items index f = .ok items') :
    ∃ (hi : index < items.length) (b : α),
      f items[index] = .ok b ∧ items' = items.set index b := by
  unfold modifyAt at h
  split at h
  · next item hitem =>
    obtain ⟨hi, rfl⟩ := List.getElem?_eq_some_iff.mp hitem
    obtain ⟨b, hb, hset⟩ := exists_of_bind h
    exact ⟨hi, b, hb, (Except.ok.inj hset).symm⟩
  · exact Except.noConfusion rfl rfl (heq_of_eq h)

/-- The variables of a type define its names, and only those of an enum do. -/
theorem definedNames_vars {vars : List VariableInfo} (more : List String)
    (hvars : t.kind = .enumeration → ((vars.map (·.name)).filter (· ≠ "")).Subperm
      (more ++ (t.vars.map (·.name)).filter (· ≠ ""))) :
    ({ t with vars := vars } : TypeInfo).definedNames.Subperm (more ++ t.definedNames) := by
  unfold TypeInfo.definedNames TypeInfo.constantNames
  refine List.Subperm.trans ?_ List.perm_middle.symm.subperm
  refine (List.subperm_cons t.name).mpr ?_
  by_cases hkind : t.kind = .enumeration
  · simpa only [if_pos hkind] using hvars hkind
  · simp only [if_neg hkind]
    exact (List.nil_sublist _).subperm

/-- A variable is without a name at first. -/
theorem definedNames_insertIdx {index : Nat} (desc : VariableDesc) (hi : index ≤ t.vars.length) :
    ({ t with vars := t.vars.insertIdx index { desc := desc } } : TypeInfo).definedNames.Subperm
      t.definedNames := by
  refine definedNames_vars [] fun _ => List.Perm.subperm ?_
  exact ((List.perm_insertIdx _ _ hi).map _).filter _

/-- A variable that gets another name may define that name. -/
theorem definedNames_set {index : Nat} (hi : index < t.vars.length) (v : VariableInfo) :
    ({ t with vars := t.vars.set index v } : TypeInfo).definedNames.Subperm
      (v.name :: t.definedNames) := by
  refine definedNames_vars [v.name] fun _ => ?_
  have hnames : ((t.vars.set index v).map (·.name)).Subperm (v.name :: t.vars.map (·.name)) := by
    refine ((List.set_perm_cons_eraseIdx hi v).map _).subperm.trans ?_
    exact (((List.eraseIdx_sublist t.vars index).map _).cons_cons _).subperm
  refine (hnames.filter _).trans (List.Sublist.subperm ?_)
  rw [List.filter_cons]
  split
  · exact List.Sublist.refl _
  · exact List.sublist_cons_self _ _

theorem map_name_set {vars : List VariableInfo} {index : Nat} (hi : index < vars.length)
    {v : VariableInfo} (hname : v.name = vars[index].name) :
    (vars.set index v).map (·.name) = vars.map (·.name) := by
  refine List.ext_getElem (by simp) fun i _ _ => ?_
  rw [List.getElem_map, List.getElem_map, List.getElem_set]
  split
  · next heq => simp only [hname, heq]
  · rfl

/-- A variable that keeps its name defines nothing further. -/
theorem definedNames_set_self {index : Nat} (hi : index < t.vars.length) {v : VariableInfo}
    (hname : v.name = t.vars[index].name) :
    ({ t with vars := t.vars.set index v } : TypeInfo).definedNames.Subperm t.definedNames := by
  refine definedNames_vars [] fun _ => ?_
  rw [map_name_set hi hname]
  exact .refl _

theorem reaches_addImplemented {index : Nat} {ref : TypeRef} {flags : ImplementedFlags}
    (hd : d.addImplemented h index ref flags = .ok d') : d.Reaches d' := by
  unfold addImplemented at hd
  obtain ⟨owner, -, hd⟩ := exists_of_bind hd
  split at hd
  · obtain ⟨_, hthrow, -⟩ := exists_of_bind hd
    exact Except.noConfusion rfl rfl (heq_of_eq hthrow)
  · refine reaches_change (fun t t' ht => ?_) hd
    split at ht
    · obtain ⟨implemented, -, hinfo⟩ := exists_of_bind ht
      obtain rfl := Except.ok.inj hinfo
      exact .refl _
    · exact Except.noConfusion rfl rfl (heq_of_eq ht)

theorem reaches_addFunction {index : Nat} {desc : FunctionDesc}
    (hd : d.addFunction h index desc = .ok d') : d.Reaches d' := by
  refine reaches_change (fun t t' ht => ?_) hd
  split at ht
  · obtain ⟨_, hthrow, -⟩ := exists_of_bind ht
    exact Except.noConfusion rfl rfl (heq_of_eq hthrow)
  · obtain ⟨functions, -, hinfo⟩ := exists_of_bind ht
    obtain rfl := Except.ok.inj hinfo
    exact .refl _

theorem reaches_addVariable {index : Nat} {desc : VariableDesc}
    (hd : d.addVariable h index desc = .ok d') : d.Reaches d' := by
  refine reaches_change (fun t t' ht => ?_) hd
  split at ht
  · obtain ⟨_, hthrow, -⟩ := exists_of_bind ht
    exact Except.noConfusion rfl rfl (heq_of_eq hthrow)
  · obtain ⟨vars, hinsert, hinfo⟩ := exists_of_bind ht
    obtain rfl := Except.ok.inj hinfo
    obtain ⟨hi, rfl⟩ := exists_of_insertAt hinsert
    exact definedNames_insertIdx desc hi

/-- A change of the functions of a type defines no name. -/
theorem reaches_changeFunctions {g : TypeInfo → Except BuildError (List FunctionInfo)}
    (hd : (d.change h fun t => do return { t with functions := ← g t }) = .ok d') :
    d.Reaches d' := by
  refine reaches_change (fun t t' ht => ?_) hd
  obtain ⟨functions, -, hinfo⟩ := exists_of_bind ht
  obtain rfl := Except.ok.inj hinfo
  exact .refl _

theorem reaches_setVariableDoc {index : Nat} {doc : String}
    (hd : d.setVariableDoc h index doc = .ok d') : d.Reaches d' := by
  refine reaches_change (fun t t' ht => ?_) hd
  obtain ⟨vars, hmodify, hinfo⟩ := exists_of_bind ht
  obtain rfl := Except.ok.inj hinfo
  obtain ⟨hi, v, hv, rfl⟩ := exists_of_modifyAt hmodify
  obtain rfl := Except.ok.inj hv
  exact definedNames_set_self hi rfl

/-- A variable is named: the name is taken if the variable is the constant of an enum. -/
theorem reaches_setVariableName {index : Nat} {name : String}
    (hd : d.setVariableName h index name = .ok d') : d.Reaches d' := by
  unfold setVariableName at hd
  obtain ⟨renamed, hchange, hd⟩ := exists_of_bind hd
  obtain ⟨owner, howner, hd⟩ := exists_of_bind hd
  obtain ⟨t, t', ho, ht, rfl⟩ := exists_of_change hchange
  obtain rfl := Except.ok.inj (ho.info_eq.symm.trans howner)
  obtain ⟨vars, hmodify, hinfo⟩ := exists_of_bind ht
  obtain rfl := Except.ok.inj hinfo
  obtain ⟨hi, v, hv, rfl⟩ := exists_of_modifyAt hmodify
  obtain rfl := Except.ok.inj hv
  split at hd
  · next henum =>
    obtain ⟨hfree, rfl⟩ := exists_of_claim hd
    exact (Step.named ho hfree (definedNames_set hi _)).reaches
  · next henum =>
    obtain rfl := Except.ok.inj hd
    exact (Step.edited ho (definedNames_vars [] fun hkind => absurd hkind henum)).reaches

theorem reaches_createType (name : String) (kind : TypeKind) :
    d.Reaches (d.answer (.createType name kind)).2 := by
  by_cases hfree : Text.nameKey name ∈ d.names
  · rw [answer_createType_error kind hfree]
    exact .refl d
  · rw [answer_createType kind hfree]
    exact (Step.created name kind hfree).reaches

theorem reaches_addImport (library : ImportedLibrary) : d.Reaches (d.addImport library).1 := by
  unfold addImport
  split
  · exact .refl d
  · exact (Step.imported library).reaches

theorem refs_numbered (inherited : List MemberId) : (t.numbered inherited).refs = t.refs := by
  have hfunctions : ∀ functions : List FunctionInfo,
      functions.flatMap (fun f => (f.desc.params ++ [f.desc.ret]).filterMap (·.type.ref?)) =
        (functions.map fun f => (f.desc.params, f.desc.ret)).flatMap fun f =>
          (f.1 ++ [f.2]).filterMap (·.type.ref?) := fun functions => by
    rw [List.flatMap_map]
  unfold TypeInfo.refs TypeInfo.numbered
  rw [hfunctions, hfunctions, Layout.number, Layout.refs_numberFrom]

/-- What the layout of a type can come to. -/
inductive LayOutOutcome (d : Draft) (h : Handle) : Except BuildError Unit × Draft → Prop where
  /-- The type is missing, laid out already, refers to something missing, or has not one default. -/
  | refused (error : BuildError)
    (noIds : ∀ t, d.IsOpen h t → (∀ ref ∈ t.refs, d.resolves ref) → ¬t.kind.isInterface) :
    LayOutOutcome d h (.error error, d)
  /-- Something is wrong with the functions. They keep the ids that they were given. -/
  | faulty {t : TypeInfo} (isOpen : d.IsOpen h t) (refs : ∀ ref ∈ t.refs, d.resolves ref)
    (isInterface : t.kind.isInterface) (error : BuildError) :
    LayOutOutcome d h (.error error, d.setInfo h (t.numbered (d.inheritedIds h)))
  | interface {t : TypeInfo} (isOpen : d.IsOpen h t) (refs : ∀ ref ∈ t.refs, d.resolves ref)
    (isInterface : t.kind.isInterface)
    (faultless : Layout.interfaceFault? (t.numbered (d.inheritedIds h)) (d.inheritedIds h) d.slot =
      none) :
    LayOutOutcome d h (.ok (), (d.setInfo h (t.numbered (d.inheritedIds h))).finish h)
  | other {t : TypeInfo} (isOpen : d.IsOpen h t) (refs : ∀ ref ∈ t.refs, d.resolves ref)
    (isOther : ¬t.kind.isInterface)
    (faultless : t.kind = .coClass → Layout.classFault? t = none) :
    LayOutOutcome d h (.ok (), d.finish h)

theorem IsOpen.unique (ho : d.IsOpen h t) (ho' : d.IsOpen h t') : t = t' :=
  congrArg DraftType.info (Option.some.inj (ho.symm.trans ho'))

theorem layOutOutcome (d : Draft) (h : Handle) : LayOutOutcome d h (d.layOut h) := by
  unfold layOut
  split
  · next error hunfinished =>
    refine .refused error fun t ho => ?_
    rw [ho.unfinished_eq] at hunfinished
    exact Except.noConfusion rfl rfl (heq_of_eq hunfinished)
  · next t hinfo =>
    have ho := isOpen_of_unfinished hinfo
    split
    · next hmissing =>
      refine .refused _ fun t' ho' hrefs => ?_
      obtain rfl := ho.unique ho'
      obtain ⟨ref, hmem, hno⟩ := List.any_eq_true.mp hmissing
      rw [hrefs ref hmem] at hno
      exact Bool.noConfusion hno
    · next hrefs =>
      have hrefs : ∀ ref ∈ t.refs, d.resolves ref := by simpa using hrefs
      split
      · next hkind =>
        dsimp only
        split
        · exact .faulty ho hrefs hkind _
        · next hfault => exact .interface ho hrefs hkind hfault
      · next hkind =>
        split
        · split
          · refine .refused _ fun t' ho' _ => ?_
            rwa [← ho.unique ho']
          · next hfault => exact .other ho hrefs hkind fun _ => hfault
        · next hclass => exact .other ho hrefs hkind fun h => absurd h hclass

/-- A type is laid out, or it keeps the ids that its functions were given. -/
theorem reaches_layOut : d.Reaches (d.layOut h).2 := by
  have hnumbered : ∀ {t}, d.IsOpen h t → d.Step (d.setInfo h (t.numbered (d.inheritedIds h))) :=
    fun ho => Step.edited ho (.refl _)
  have hcases := layOutOutcome d h
  generalize d.layOut h = result at hcases ⊢
  cases hcases with
  | refused => exact .refl d
  | faulty isOpen => exact (hnumbered isOpen).reaches
  | interface isOpen refs isInterface faultless =>
    refine (hnumbered isOpen).reaches.trans (Step.finished (isOpen.setInfo _) ?_ ?_).reaches
    · rw [refs_numbered]
      exact fun ref href => (resolves_setInfo ref).trans (refs ref href)
    · exact Layout.isLaidOut_numbered isInterface faultless
  | other isOpen refs isOther faultless =>
    exact (Step.finished isOpen refs
      (Layout.isLaidOut_of_not_interface isOther faultless)).reaches

/-- **What a request does to a draft**, accepted or rejected. -/
theorem reaches_answer {kind : ReplyKind} (request : Request kind) :
    d.Reaches (d.answer request).2 := by
  cases request with
  | setAttributes attributes => exact (Step.described (some attributes)).reaches
  | createType name kind => exact reaches_createType name kind
  | setGuid type guid => exact reaches_describe fun t => rfl
  | setVersion type version => exact reaches_describe fun t => rfl
  | setFlags type flags => exact reaches_describe fun t => rfl
  | setDoc type doc => exact reaches_describe fun t => rfl
  | addImplemented type index ref flags =>
    exact reaches_settleDone fun d' hd => reaches_addImplemented hd
  | addFunction type index desc => exact reaches_settleDone fun d' hd => reaches_addFunction hd
  | addVariable type index desc => exact reaches_settleDone fun d' hd => reaches_addVariable hd
  | setFunctionNames type index names =>
    exact reaches_settleDone fun d' hd => reaches_changeFunctions hd
  | setVariableName type index name =>
    exact reaches_settleDone fun d' hd => reaches_setVariableName hd
  | setFunctionDoc type index doc =>
    exact reaches_settleDone fun d' hd => reaches_changeFunctions hd
  | setVariableDoc type index doc =>
    exact reaches_settleDone fun d' hd => reaches_setVariableDoc hd
  | addImport library => exact reaches_addImport library
  | layOut type => exact reaches_layOut

/-! ## Sequences of requests -/

/-- The draft after some requests, whatever they are answered with. -/
def after (d : Draft) (requests : List (Sigma Request)) : Draft :=
  requests.foldl (fun d request => (d.answer request.2).2) d

theorem reaches_after (d : Draft) (requests : List (Sigma Request)) :
    d.Reaches (d.after requests) := by
  induction requests generalizing d with
  | nil => exact .refl d
  | cons request later ih => exact (reaches_answer request.2).trans (ih _)

/-- **A draft is sound after any requests.** -/
theorem sound_after (requests : List (Sigma Request)) : (after {} requests).Sound :=
  sound_empty.reaches (reaches_after {} requests)

theorem exists_of_commit {l : Library} (hl : d.commit = .ok l) :
    (∀ u ∈ d.types, u.laidOut) ∧ l.types = d.infos ∧ l.imports = d.imports := by
  unfold commit at hl
  split at hl
  · exact Except.noConfusion rfl rfl (heq_of_eq hl)
  · split at hl
    · exact Except.noConfusion rfl rfl (heq_of_eq hl)
    · next hnone =>
      obtain rfl := Except.ok.inj hl
      refine ⟨fun u hu => ?_, rfl, rfl⟩
      simpa using List.find?_eq_none.mp hnone u hu

/-- What has a target in the draft has a name in the library. -/
theorem isSome_refName? {l : Library} (htypes : l.types = d.infos) (himports : l.imports = d.imports)
    {ref : TypeRef} (href : d.resolves ref) : (l.refName? ref).isSome := by
  cases ref with
  | own k =>
    have hlt : k.index < l.types.length := by
      rw [htypes, length_infos]
      exact resolves_own.mp href
    simp [Library.refName?, Library.type?, hlt]
  | imported place index =>
    obtain ⟨imported, himported, hindex⟩ := resolves_imported.mp href
    simp [Library.refName?, himports, himported, hindex]

/-- A sound draft commits to a well-formed library. -/
theorem Sound.wellFormed (hd : d.Sound) {l : Library} (hl : d.commit = .ok l) : l.WellFormed := by
  obtain ⟨hlaidOut, htypes, himports⟩ := exists_of_commit hl
  have hnames : ((l.types.flatMap TypeInfo.definedNames).map Text.nameKey).Nodup := by
    obtain ⟨names, hperm, hsub⟩ := hd.taken
    rw [htypes]
    exact hperm.nodup_iff.mp (hd.nodup.sublist hsub)
  have hmem : ∀ t ∈ l.types, ∃ u ∈ d.types, u.info = t := by
    rw [htypes]
    exact fun t ht => List.mem_map.mp ht
  refine ⟨hnames, fun i t hi => find?_eq_of_nodup hnames hi, fun t ht ref href => ?_,
    fun t ht => ?_⟩
  · obtain ⟨u, hu, rfl⟩ := hmem t ht
    exact isSome_refName? htypes himports (hd.refs u hu (hlaidOut u hu) ref href)
  · obtain ⟨u, hu, rfl⟩ := hmem t ht
    exact hd.types u hu (hlaidOut u hu)

/-- **Committed libraries are well formed**, whatever has been asked and however it was answered. -/
theorem wellFormed_of_commit {requests : List (Sigma Request)} {l : Library}
    (hl : (after {} requests).commit = .ok l) : l.WellFormed :=
  (sound_after requests).wellFormed hl

/-- Requests of all sorts. Taken names, a type that is laid out already, a class without a default
and a target that is missing are rejected. -/
def jumble : List (Sigma Request) :=
  [⟨_, .createType "Shape" .interface⟩,
    ⟨_, .createType "SHAPE" .record⟩,
    ⟨_, .createType "Color" .enumeration⟩,
    ⟨_, .addVariable ⟨1⟩ 0 { memid := 1, content := .constant (.i4 1) }⟩,
    ⟨_, .setVariableName ⟨1⟩ 0 "color"⟩,
    ⟨_, .setVariableName ⟨1⟩ 0 "Red"⟩,
    ⟨_, .addImplemented ⟨0⟩ 0 (.imported ⟨0⟩ 0) .none⟩,
    ⟨_, .addImport Standard.library⟩,
    ⟨_, .addImplemented ⟨0⟩ 0 (.imported ⟨0⟩ 0) .none⟩,
    ⟨_, .addFunction ⟨0⟩ 0
      { memid := MemberId.none, invoke := .function, kind := .pureVirtual, params := [],
        ret := { type := .pointer (.userDefined (.own ⟨0⟩)) }, offset := 24 }⟩,
    ⟨_, .layOut ⟨0⟩⟩,
    ⟨_, .setDoc ⟨0⟩ "Too late."⟩,
    ⟨_, .createType "Circle" .coClass⟩,
    ⟨_, .layOut ⟨2⟩⟩,
    ⟨_, .addImplemented ⟨2⟩ 0 (.own ⟨0⟩) ImplementedFlags.default⟩,
    ⟨_, .layOut ⟨2⟩⟩,
    ⟨_, .layOut ⟨1⟩⟩,
    ⟨_, .setAttributes
      { name := "Shapes", guid := .nil, version := {}, locale := 0, doc := none,
        pointerWidth := .bits64 }⟩]

theorem jumble_wellFormed : ∃ l, (after {} jumble).commit = .ok l ∧
    l.types.map (·.name) = ["Shape", "Color", "Circle"] ∧ l.WellFormed := by
  have hview : (after {} jumble).commit.toOption.map (fun l => l.types.map (·.name)) =
      some ["Shape", "Color", "Circle"] := by
    decide +kernel
  cases hl : (after {} jumble).commit with
  | error error =>
    rw [hl] at hview
    exact Option.noConfusion rfl (heq_of_eq hview)
  | ok l =>
    rw [hl] at hview
    exact ⟨l, rfl, Option.some.inj hview, wellFormed_of_commit hl⟩

end Draft

end Library

end Automation
