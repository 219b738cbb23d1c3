import Automation.Proofs.Export.Implementing
import Automation.Proofs.Export.Libraries
import Automation.Proofs.Export.Names

/-!
# Where the types of a library are described

Type expressions are described in a scope that the export of a library builds up as it goes. All of it
can be read off the library afterwards: `ExportedLibrary.scope` does so, and `ExportedFrom.alike_scope`
says that expressions are described in it as they were.
-/

namespace Automation.Export

open Library Source

/-! ## Described alike -/

/-- The scopes answer alike for the types of the unit and for the listed types of other units. -/
structure Alike (types : List ExternalType) (s s' : Scope) : Prop where
  type? : s'.type? = s.type?
  width : s'.width = s.width
  own? : ∀ id, s'.refs.own? id = s.refs.own? id
  external? : ∀ type ∈ types, s'.refs.external? type = s.refs.external? type
  standard : s'.refs.standard = s.refs.standard

namespace Alike

variable {types : List ExternalType} {s s' : Scope} (h : Alike types s s')

include h

theorem describeBuiltin (builtin : Builtin) (form : Option NativeForm) :
    s'.describeBuiltin builtin form = s.describeBuiltin builtin form := by
  simp only [Scope.describeBuiltin, ReferenceTable.standard?, h.standard]

theorem describeNamed (id : TypeId) (form : Option NativeForm) :
    s'.describeNamed id form = s.describeNamed id form := by
  simp only [Scope.describeNamed, Scope.ownObject?, h.type?, h.width, h.own?]

theorem describeExternal {type : ExternalType} (htype : type ∈ types) (form : Option NativeForm) :
    s'.describeExternal type form = s.describeExternal type form := by
  simp only [Scope.describeExternal, Scope.externalObject?, h.width, h.external? type htype]

theorem describeValue {e : TypeExpr} (he : ∀ type ∈ e.external?, type ∈ types)
    (marshal : Option MarshalOverride) (position : Position) :
    s'.describeValue e marshal position = s.describeValue e marshal position := by
  induction e generalizing marshal position with
  | array element ih => simp only [Scope.describeValue, ih he]
  | pointer target ih => simp only [Scope.describeValue, ih he]
  | scalar scalar => simp only [Scope.describeValue, h.width]
  | builtin builtin => simp only [Scope.describeValue, h.describeBuiltin]
  | named id => simp only [Scope.describeValue, h.describeNamed]
  | external type => simp only [Scope.describeValue, h.describeExternal (he type rfl)]
  | void | text | textBuffer | object | generic name => simp only [Scope.describeValue]

theorem describe {e : TypeExpr} (he : ∀ type ∈ e.external?, type ∈ types)
    (marshal : Option MarshalOverride) (position : Position) :
    s'.describe e marshal position = s.describe e marshal position := by
  simp only [Scope.describe, h.describeValue he]

end Alike

/-- The types of other units in the signature of a member are listed. -/
def Lists (types : List ExternalType) (m : Member) : Prop :=
  ∀ e ∈ m.ret :: m.params.map (·.type), ∀ type ∈ e.external?, type ∈ types

theorem isObjectRef_congr {s s' : Scope} (h : s'.type? = s.type?) (e : TypeExpr) :
    s'.isObjectRef e = s.isObjectRef e := by
  unfold Scope.isObjectRef
  rw [h]

theorem invokeKind?_congr {s s' : Scope} (h : s'.type? = s.type?) (m : Member) :
    invokeKind? s' m = invokeKind? s m := by
  simp only [invokeKind?, isObjectRef_congr h]

namespace Alike

variable {types : List ExternalType} {s s' : Scope}

theorem describeParameters (h : Alike types s s') {params : List Parameter}
    (hparams : ∀ p ∈ params, ∀ type ∈ p.type.external?, type ∈ types) :
    Export.describeParameters s' params = Export.describeParameters s params := by
  induction params with
  | nil => rfl
  | cons p later ih =>
    obtain ⟨hp, hlater⟩ := List.forall_mem_cons.mp hparams
    simp only [Export.describeParameters, describeParameter, h.describe hp, ih hlater]

theorem describeSignature (h : Alike types s s') {m : Member} (hm : Lists types m) :
    Export.describeSignature s' m = Export.describeSignature s m := by
  obtain ⟨hret, hparams⟩ := List.forall_mem_cons.mp hm
  rw [List.forall_mem_map] at hparams
  simp only [Export.describeSignature, h.describeParameters hparams, h.describe hret]

end Alike

/-- The function of a member, if it has one, is put together from its signature. -/
theorem fst_synthesize (y : Synthesis) (owner : TypeDecl) (m : Member) : (synthesize y owner m).1 =
    (invokeKind? y.scope m).bind fun invoke =>
      (describeSignature y.scope m).toOption.map (assemble y owner m invoke) := by
  unfold synthesize
  cases invokeKind? y.scope m with
  | none => rfl
  | some invoke =>
    dsimp only
    cases describeSignature y.scope m <;> rfl

theorem namedParameters_subset (m : Member) : namedParameters m ⊆ m.params := by
  unfold namedParameters
  split
  · exact List.dropLast_subset _
  · exact List.Subset.refl _

theorem takeWhile_congr {α : Type} {p q : α → Bool} {items : List α} (h : ∀ a ∈ items, p a = q a) :
    items.takeWhile p = items.takeWhile q := by
  induction items with
  | nil => rfl
  | cons a later ih =>
    obtain ⟨ha, hlater⟩ := List.forall_mem_cons.mp h
    rw [List.takeWhile_cons, List.takeWhile_cons, ha, ih hlater]

/-- A member asks for the same names in scopes that answer alike. -/
theorem Alike.memberQuestions {types : List ExternalType} {s s' : Scope} (h : Alike types s s')
    (owner : TypeDecl) {m : Member} (hm : Lists types m) :
    Export.memberQuestions s' owner m = Export.memberQuestions s owner m := by
  unfold Export.memberQuestions
  rw [takeWhile_congr fun p hp => ?_]
  have htype : p.type ∈ m.ret :: m.params.map (·.type) :=
    List.mem_cons_of_mem _ (List.mem_map_of_mem (namedParameters_subset m hp))
  rw [describeParameter, describeParameter, h.describe (hm _ htype)]

/-- A member makes the same function in scopes that answer alike, and the same is said about it. -/
theorem Alike.synthesize {types : List ExternalType} {y : Synthesis} {s' : Scope}
    (h : Alike types y.scope s') (owner : TypeDecl) {m : Member} (hm : Lists types m) :
    Export.synthesize { y with scope := s' } owner m = Export.synthesize y owner m := by
  unfold Export.synthesize
  dsimp only
  rw [invokeKind?_congr h.type?, h.describeSignature hm, h.memberQuestions owner hm]
  rfl

/-! ## The scope of a library -/

/-- The entry of an exported type of a unit: classes have their default interfaces. -/
def ExportedLibrary.localRef? (l : ExportedLibrary Library) (unit : Reflection) (t : ExportedType) :
    Option (TypeId × LocalRef) :=
  t.id.bind fun id => ((unit.type? id).bind target?).map fun target =>
    (id, { handle := t.handle, target := target
           default := (l.library.type? t.handle).bind TypeInfo.defaultInterface? })

/-- The types of other units in the signatures of the exported types. -/
def ExportedLibrary.externalTypes (l : ExportedLibrary Library) (unit : Reflection) :
    List ExternalType :=
  (l.exported.filterMap fun t => t.id.bind unit.type?).flatMap fun decl =>
    (signatureTypes decl).filterMap TypeExpr.external?

/-- The scope in which the types of a library were described, for a library that imports the standard
one. -/
def ExportedLibrary.scope (l : ExportedLibrary Library) (unit : Reflection)
    (references : List ReferencedLibrary) : Scope where
  type? := unit.type?
  width := l.library.attributes.pointerWidth
  refs :=
    { own := l.exported.filterMap (l.localRef? unit)
      external := (l.externalTypes unit).filterMap fun type =>
        (imported? references l.library.imports type).map fun ref =>
          ((type.unit, type.qualified), ref)
      standard := some ⟨0⟩ }

/-- The scope with another place for the standard library. -/
def Scope.withStandard (s : Scope) (standard : Option ImportId) : Scope :=
  { s with refs := { s.refs with standard := standard } }

/-- Where the standard library is matters only to expressions that use it. -/
theorem Scope.describeValue_withStandard {s : Scope} (standard : Option ImportId) {e : TypeExpr}
    (he : usesStandard e = false) (marshal : Option MarshalOverride) (position : Position) :
    (s.withStandard standard).describeValue e marshal position =
      s.describeValue e marshal position := by
  induction e generalizing marshal position with
  | array element ih => simp only [Scope.describeValue, ih he]
  | pointer target ih => simp only [Scope.describeValue, ih he]
  | builtin builtin =>
    cases builtin with
    | guid => exact Bool.noConfusion he
    | color => exact Bool.noConfusion he
    | dateTime | decimal =>
      unfold Scope.describeValue Scope.describeBuiltin
      rcases marshal with _ | ⟨form, _, _⟩
      · rfl
      · cases form <;> rfl
  | _ => rfl

/-- Entries that have one value for a key give this value. -/
theorem lookup_filterMap {α β κ : Type} [BEq κ] [LawfulBEq κ] {items : List α} {key : α → κ}
    {f : α → Option β} {k : κ} {value : Option β} (hf : ∀ a ∈ items, key a = k → f a = value)
    (hk : value = none ∨ ∃ a ∈ items, key a = k) :
    (items.filterMap fun a => (f a).map fun b => (key a, b)).lookup k = value := by
  induction items with
  | nil =>
    rcases hk with rfl | ⟨a, ha, -⟩
    · rfl
    · exact (List.not_mem_nil ha).elim
  | cons first later ih =>
    obtain ⟨hfirst, hlater⟩ := List.forall_mem_cons.mp hf
    rw [List.filterMap_cons]
    by_cases hkey : key first = k
    · rw [hfirst hkey]
      cases value with
      | none => exact ih hlater (.inl rfl)
      | some b => simp [hkey]
    · have hrest := ih hlater (hk.imp_right fun hk => by
        obtain ⟨a, ha, hsame⟩ := hk
        exact ⟨a, (List.mem_cons.mp ha).resolve_left fun h => hkey (h ▸ hsame), hsame⟩)
      cases f first with
      | none => exact hrest
      | some b => simpa [List.lookup_cons, beq_false_of_ne (Ne.symm hkey)] using hrest

theorem lookup_map {α β κ : Type} [BEq κ] [LawfulBEq κ] {items : List α} {key : α → κ} {f : α → β}
    {k : κ} {value : Option β} (hf : ∀ a ∈ items, key a = k → some (f a) = value)
    (hk : value = none ∨ ∃ a ∈ items, key a = k) :
    (items.map fun a => (key a, f a)).lookup k = value := by
  have h := lookup_filterMap hf hk
  rwa [← List.filterMap_eq_map]

/-! ## Default interfaces -/

variable {placed : List Placed} {scope : Scope}

/-- A class has its default interface in the reference table. -/
theorem own?_withDefaults {p : Placed} (hp : p ∈ placed)
    (hsame : ∀ q ∈ placed, q.type.id = p.type.id → q = p) {ref : LocalRef}
    (href : scope.refs.own? p.type.id = some ref) (hnone : ref.default = none) :
    (withDefaults scope placed).own? p.type.id = some { ref with default := p.default? scope } := by
  unfold withDefaults
  generalize scope.refs = refs at href
  -- The default is set where the fold comes to the type, and was set already or is none after that.
  have hset : p ∈ placed ∨ ref.default = p.default? scope := .inl hp
  replace hnone : ref.default = none ∨ ref.default = p.default? scope := .inl hnone
  clear hp
  induction placed generalizing refs ref with
  | nil =>
    rcases hset with hmem | hset
    · exact (List.not_mem_nil hmem).elim
    · rw [List.foldl_nil, href, ← hset]
  | cons q later ih =>
    obtain ⟨hq, hlater⟩ := List.forall_mem_cons.mp hsame
    rw [List.foldl_cons]
    by_cases hid : q.type.id = p.type.id
    · obtain rfl := hq hid
      cases hdefault : q.default? scope with
      | none =>
        rw [hdefault] at hnone hset
        have hnone' : ref.default = none := hnone.elim id id
        have hrest := ih hlater refs href (.inr (hnone'.trans hdefault.symm)) (.inl hnone')
        rwa [hdefault] at hrest
      | some default =>
        have hown : (refs.setDefault q.type.id default).own? q.type.id =
            some { ref with default := some default } := by
          rw [own?_setDefault, href, Option.map_some, if_pos rfl]
        have hrest := ih hlater _ hown (.inr hdefault.symm) (.inr hdefault.symm)
        rwa [hdefault] at hrest
    · have hset' : p ∈ later ∨ ref.default = p.default? scope :=
        hset.imp_left fun hmem => (List.mem_cons.mp hmem).resolve_left fun h => hid (h ▸ rfl)
      refine ih hlater _ ?_ hset' hnone
      cases q.default? scope with
      | none => exact href
      | some default => rw [own?_setDefault, href, Option.map_some, if_neg (Ne.symm hid)]

/-- The default interface of a placed type can be read off what it implements. -/
theorem Placed.find?_isDefault (p : Placed) :
    ((p.implemented scope).find? ImplementedType.isDefault).map (·.ref) = p.default? scope := by
  unfold Placed.implemented Placed.default?
  cases p.type.target with
  | interface binding =>
    have hflags : ∀ ref, ImplementedType.isDefault ⟨ref, Flags.none⟩ = false := fun _ => by
      unfold ImplementedType.isDefault
      dsimp only
      decide
    dsimp only
    cases p.base? scope.refs with
    | none => rfl
    | some base => simp [hflags]
  | coClass creatable binding =>
    dsimp only
    cases h : (p.implements scope).1 with
    | none => rfl
    | some c => exact defaultInterface_entries h
  | enumeration => rfl
  | record => rfl

/-! ## Read off the library -/

/-- Every exported type of the unit has its place. -/
theorem Prepared.map_type {resolver : Resolver} {attributes : Attributes}
    {references : List ReferencedLibrary} {classified : List Classified} {needs : Needs}
    {refs : ReferenceTable} {d : Draft}
    (h : Prepared resolver attributes references classified needs placed refs d) :
    placed.map (·.type) = classified :=
  (PlacedAs.map_type h.named).trans (map_type_nameTypes resolver classified)

namespace ExportedFrom

variable {unit : Reflection} {resolver : Resolver} {settings : Settings}
  {references : List ReferencedLibrary} {refs : ReferenceTable} {d : Draft}
  {l : ExportedLibrary Library}

/-- What a placed type implements is in the library. -/
theorem type?_placed (h : ExportedFrom unit resolver settings references placed refs d l) {p : Placed}
    (hp : p ∈ placed) : ∃ info, l.library.type? p.handle = some info ∧
      info.implemented = p.implemented (settingOf unit resolver settings refs).scope := by
  obtain ⟨classified, d₀, hbuilt⟩ := h.built
  have hinfo : ∀ info, Content (settings.attributes unit.identity).version
      (settingOf unit resolver settings refs) placed p.handle info →
        l.library.type? p.handle = some info := fun info hcontent => by
    unfold Library.type?
    rw [h.types]
    exact hbuilt.info_of_content hcontent
  cases htarget : p.type.target with
  | interface binding =>
    obtain ⟨made, hmade⟩ := exists_mem_filling
      (s := (settingOf unit resolver settings refs).withDefaults placed) hp (by rw [htarget]; rfl)
    exact ⟨_, hinfo _ (.interface hmade), rfl⟩
  | coClass creatable binding => exact ⟨_, hinfo _ (.coClass hp (by rw [htarget]; rfl)), rfl⟩
  | enumeration => exact ⟨_, hinfo _ (.enumeration hp htarget), rfl⟩
  | record => exact ⟨_, hinfo _ (.record hp htarget), rfl⟩

/-- The entries of the types of the unit, as they are read off the library. -/
theorem own_scope (h : ExportedFrom unit resolver settings references placed refs d l) :
    (l.scope unit references).refs.own = placed.map fun p => (p.type.id,
      { handle := p.handle, target := p.type.target
        default := p.default? (settingOf unit resolver settings refs).scope }) := by
  obtain ⟨classified, d₀, hbuilt⟩ := h.built
  change l.exported.filterMap (l.localRef? unit) = _
  rw [h.exported, List.filterMap_flatMap, List.map_eq_flatMap]
  refine List.flatMap_congr fun p hp => ?_
  obtain ⟨hdecl, htarget⟩ := hbuilt.type?_placed hp
  obtain ⟨info, hinfo, himplemented⟩ := h.type?_placed hp
  have hdefault : info.defaultInterface? =
      p.default? (settingOf unit resolver settings refs).scope := by
    unfold TypeInfo.defaultInterface?
    rw [himplemented, p.find?_isDefault]
  cases hclass : p.classInterface <;>
    simp [Placed.exported, hclass, ExportedLibrary.localRef?, hdecl, htarget, hinfo, hdefault]

/-- A placed type has its entry, a class with its default interface. -/
theorem own?_placed (h : ExportedFrom unit resolver settings references placed refs d l) {p : Placed}
    (hp : p ∈ placed) : (l.scope unit references).refs.own? p.type.id =
      some { handle := p.handle, target := p.type.target
             default := p.default? (settingOf unit resolver settings refs).scope } := by
  obtain ⟨classified, d₀, hbuilt⟩ := h.built
  unfold ReferenceTable.own?
  rw [h.own_scope]
  refine lookup_map (fun q hq hid => ?_) (.inr ⟨p, hp, rfl⟩)
  rw [hbuilt.id_inj hq hp hid]

/-- A type of the unit is found under its id. -/
theorem own?_scope (h : ExportedFrom unit resolver settings references placed refs d l) (id : TypeId) :
    (l.scope unit references).refs.own? id =
      ((settingOf unit resolver settings refs).withDefaults placed).scope.refs.own? id := by
  have hplaced := fun p (hp : p ∈ placed) => h.own?_placed hp
  have hscope := h.own_scope
  obtain ⟨classified, d₀, hbuilt⟩ := h.built
  change _ = (withDefaults (settingOf unit resolver settings refs).scope placed).own? id
  have hown : refs.own = placed.reverse.map fun p =>
      (p.type.id, { handle := p.handle, target := p.type.target }) := by
    rw [hbuilt.prepared.own, ownReferences_eq, List.map_reverse]
    rfl
  by_cases hid : ∃ p ∈ placed, p.type.id = id
  · obtain ⟨p, hp, rfl⟩ := hid
    have hsame : ∀ q ∈ placed, q.type.id = p.type.id → q = p := fun q hq => hbuilt.id_inj hq hp
    have hentry : (settingOf unit resolver settings refs).scope.refs.own? p.type.id =
        some { handle := p.handle, target := p.type.target } := by
      change refs.own.lookup p.type.id = _
      rw [hown]
      refine lookup_map (fun q hq hid => ?_) (.inr ⟨p, List.mem_reverse.mpr hp, rfl⟩)
      rw [hsame q (List.mem_reverse.mp hq) hid]
    rw [hplaced p hp]
    exact (own?_withDefaults hp hsame hentry rfl).symm
  · have hnone : ∀ p ∈ placed, p.type.id ≠ id := fun p hp hsame => hid ⟨p, hp, hsame⟩
    have habsent : (l.scope unit references).refs.own? id = none := by
      unfold ReferenceTable.own?
      rw [hscope]
      exact lookup_map (fun p hp hsame => absurd hsame (hnone p hp)) (.inl rfl)
    have hentry : (settingOf unit resolver settings refs).scope.refs.own? id = none := by
      change refs.own.lookup id = _
      rw [hown]
      refine lookup_map (fun p hp hsame => ?_) (.inl rfl)
      exact absurd hsame (hnone p (List.mem_reverse.mp hp))
    have hsame := (upToDefaults_withDefaults
      (settingOf unit resolver settings refs).scope placed).own id
    rw [hentry, Option.map_none, Option.map_eq_none_iff] at hsame
    exact habsent.trans hsame.symm

/-- The exported types of the unit are the placed ones. -/
theorem decls_eq (h : ExportedFrom unit resolver settings references placed refs d l) :
    l.exported.filterMap (fun t => t.id.bind unit.type?) = placed.map (·.type.decl) := by
  obtain ⟨classified, d₀, hbuilt⟩ := h.built
  rw [h.exported, List.filterMap_flatMap, List.map_eq_flatMap]
  refine List.flatMap_congr fun p hp => ?_
  cases hclass : p.classInterface <;>
    simp [Placed.exported, hclass, (hbuilt.type?_placed hp).1]

/-- A type of another unit in the signature of a placed type is mentioned. -/
theorem mem_externalTypes_of_signature
    (h : ExportedFrom unit resolver settings references placed refs d l) {p : Placed} (hp : p ∈ placed)
    {e : TypeExpr} (he : e ∈ signatureTypes p.type.decl) {type : ExternalType}
    (htype : type ∈ e.external?) : type ∈ l.externalTypes unit := by
  unfold ExportedLibrary.externalTypes
  rw [h.decls_eq]
  exact List.mem_flatMap.mpr ⟨_, List.mem_map_of_mem hp, List.mem_filterMap.mpr ⟨e, he, htype⟩⟩

/-- The types of other units in signatures are what is needed of them. -/
theorem mem_externalTypes_iff (h : ExportedFrom unit resolver settings references placed refs d l)
    {type : ExternalType} : type ∈ l.externalTypes unit ↔
      type ∈ (Needs.scan (placed.map (·.type))).external := by
  unfold ExportedLibrary.externalTypes
  rw [h.decls_eq, ← List.filterMap_flatMap]
  simp [Needs.scan, List.flatMap_map]

/-- The reference table finds the types of other units in the import table of the library. -/
theorem finds (h : ExportedFrom unit resolver settings references placed refs d l) :
    refs.Finds references l.library.imports (Needs.scan (placed.map (·.type))).external := by
  have himports := h.imports
  obtain ⟨classified, d₀, hbuilt⟩ := h.built
  rw [hbuilt.prepared.map_type, himports, hbuilt.written.imports]
  exact hbuilt.prepared.finds

/-- What the unit needs imported, from its exported types. -/
theorem needs_eq (h : ExportedFrom unit resolver settings references placed refs d l) :
    refs.standard = (if (Needs.scan (placed.map (·.type))).standard then some ⟨0⟩ else none) ∧
      ∀ type ∈ l.externalTypes unit,
        (withDefaults (settingOf unit resolver settings refs).scope placed).external? type =
          imported? references l.library.imports type := by
  refine ⟨?_, fun type htype => ?_⟩
  · obtain ⟨classified, d₀, hbuilt⟩ := h.built
    rw [hbuilt.prepared.map_type]
    exact hbuilt.prepared.standard
  · rw [external?_withDefaults]
    exact h.finds.external?_eq (h.mem_externalTypes_iff.mp htype)

/-- The scope of a library can be read off it, up to whether the standard library is imported. -/
theorem alike_withStandard (h : ExportedFrom unit resolver settings references placed refs d l) :
    Alike (l.externalTypes unit) ((settingOf unit resolver settings refs).withDefaults placed).scope
      ((l.scope unit references).withStandard refs.standard) := by
  obtain ⟨-, hneeds⟩ := h.needs_eq
  refine ⟨rfl, ?_, h.own?_scope, fun type htype => ?_, ?_⟩
  · change l.library.attributes.pointerWidth = settings.pointerWidth
    rw [h.attributes]
    rfl
  · -- The table was filled from the imports of the library, which are those of the draft.
    refine Eq.trans (lookup_filterMap (fun type' _ hkey => ?_) (.inr ⟨type, htype, rfl⟩))
      (hneeds type htype).symm
    obtain ⟨hunit, hqualified⟩ := Prod.mk.inj hkey
    exact imported?_congr hunit hqualified
  · exact (upToDefaults_withDefaults
      (settingOf unit resolver settings refs).scope placed).standard.symm

/-- **The scope of a library can be read off it.** -/
theorem alike_scope (h : ExportedFrom unit resolver settings references placed refs d l)
    (hneeds : ∃ p ∈ placed, p.type.target.needsStandard = true) :
    Alike (l.externalTypes unit) ((settingOf unit resolver settings refs).withDefaults placed).scope
      (l.scope unit references) := by
  obtain ⟨hstandard, -⟩ := h.needs_eq
  have hscan : (Needs.scan (placed.map (·.type))).standard = true := by
    obtain ⟨p, hp, hneeds⟩ := hneeds
    simp only [Needs.scan, Bool.or_eq_true, List.any_eq_true]
    exact .inl ⟨p.type, List.mem_map_of_mem hp, hneeds⟩
  rw [hscan] at hstandard
  have halike := h.alike_withStandard
  rwa [hstandard] at halike

/-- **Every expression of an exported type is described in the scope of the library as it was.** -/
theorem describeValue_scope (h : ExportedFrom unit resolver settings references placed refs d l)
    {p : Placed} (hp : p ∈ placed) {e : TypeExpr} (he : e ∈ signatureTypes p.type.decl)
    (marshal : Option MarshalOverride) (position : Position) :
    (l.scope unit references).describeValue e marshal position =
      ((settingOf unit resolver settings refs).withDefaults placed).scope.describeValue e marshal
        position := by
  obtain ⟨hstandard, -⟩ := h.needs_eq
  rw [← h.alike_withStandard.describeValue fun _ => h.mem_externalTypes_of_signature hp he]
  cases hscan : (Needs.scan (placed.map (·.type))).standard with
  | true =>
    rw [hscan] at hstandard
    rw [hstandard]
    rfl
  | false =>
    refine (Scope.describeValue_withStandard _ ?_ marshal position).symm
    simp only [Needs.scan, Bool.or_eq_false_iff, List.any_eq_false] at hscan
    refine Bool.eq_false_iff.mpr (hscan.2 e (List.mem_flatMap.mpr ⟨p.type, ?_, he⟩))
    exact List.mem_map_of_mem hp

theorem describe_scope (h : ExportedFrom unit resolver settings references placed refs d l)
    {p : Placed} (hp : p ∈ placed) {e : TypeExpr} (he : e ∈ signatureTypes p.type.decl)
    (marshal : Option MarshalOverride) (position : Position) :
    (l.scope unit references).describe e marshal position =
      ((settingOf unit resolver settings refs).withDefaults placed).scope.describe e marshal
        position := by
  unfold Scope.describe
  rw [h.describeValue_scope hp he]

end ExportedFrom

end Automation.Export
