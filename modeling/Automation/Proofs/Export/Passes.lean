import Automation.Proofs.Export.Placing
import Automation.Proofs.Export.References
import Automation.Proofs.Walk
import Mathlib.Data.List.Flatten
import Mathlib.Data.List.Perm.Subperm

/-!
# The passes over a library

Between the creation of the types and their layout, an export passes over them five times: what they
implement, the functions of interfaces, those of the interfaces made from classes, the fields of
records and the constants of enums. `reaches_passes` says what the types are afterwards: `Written`.
Every pass edits types of one sort only, so what one pass writes stands after the others.
-/

namespace Automation.Export

open Library Source

/-! ## The interfaces in the order of filling -/

/-- The interfaces in the given order with their functions, given what those before them pass on. -/
def fills (s : Setting) (passedOn : List (TypeId × Inherited)) :
    List Placed → List (Placed × InterfaceFunctions)
  | [] => []
  | p :: later =>
    match p.type.target.binding? with
    | some binding =>
      let made := p.interfaceFunctions s binding passedOn
      (p, made) :: fills s ((p.type.id, made.inherited) :: passedOn) later
    | none => fills s passedOn later

/-- The interfaces, bases before what derives from them. -/
def fillOrder (refs : ReferenceTable) (placed : List Placed) : List Placed :=
  (baseFirst (placed.map fun p => p.link refs)).filterMap (placed[·]?)

/-- The interfaces of a library with their functions, in the order of filling. -/
def filling (s : Setting) (placed : List Placed) : List (Placed × InterfaceFunctions) :=
  fills s [] (fillOrder s.scope.refs placed)

variable {s : Setting} {placed order : List Placed} {passedOn : List (TypeId × Inherited)}
  {refs : ReferenceTable}

theorem fillInterfaces_eq : fillInterfaces s passedOn order =
    (fills s passedOn order).flatMap fun f => interfaceSteps f.1.name f.1.handle f.2 := by
  induction order generalizing passedOn with
  | nil => rfl
  | cons p later ih =>
    unfold fillInterfaces fills
    cases p.type.target.binding? with
    | none => exact ih
    | some binding => rw [List.flatMap_cons, ← ih]

theorem interfacesSteps_eq : interfacesSteps s placed =
    (filling s placed).flatMap fun f => interfaceSteps f.1.name f.1.handle f.2 := fillInterfaces_eq

theorem mem_fills {f : Placed × InterfaceFunctions} (h : f ∈ fills s passedOn order) :
    f.1 ∈ order ∧ ∃ binding base, f.1.type.target = .interface binding ∧
      f.2 = interfaceFunctions (s.synthesis binding) f.1.type.decl base := by
  induction order generalizing passedOn with
  | nil => simp [fills] at h
  | cons p later ih =>
    unfold fills at h
    cases htarget : p.type.target.binding? with
    | none =>
      rw [htarget] at h
      exact (ih h).imp_left (List.mem_cons_of_mem p)
    | some binding =>
      rw [htarget] at h
      rcases List.mem_cons.mp h with rfl | h
      · refine ⟨List.mem_cons_self, binding, _, ?_, rfl⟩
        cases ht : p.type.target <;> simp_all [Target.binding?]
      · exact (ih h).imp_left (List.mem_cons_of_mem p)

theorem map_fst_fills : (fills s passedOn order).map (·.1) =
    order.filter (·.type.target.isInterface) := by
  induction order generalizing passedOn with
  | nil => rfl
  | cons p later ih =>
    unfold fills
    cases htarget : p.type.target.binding? with
    | none => simpa [Target.isInterface, htarget] using ih
    | some binding => simpa [Target.isInterface, htarget] using ih

theorem mem_interfacePlaces_iff {links : List Link} {place : Nat} :
    place ∈ interfacePlaces links ↔ ∃ p, links[place]? = some p ∧ p.isInterface = true := by
  unfold interfacePlaces
  rw [List.mem_filter, List.mem_range]
  constructor
  · rintro ⟨hlt, hinterface⟩
    exact ⟨links[place], List.getElem?_eq_getElem hlt, by simpa [hlt] using hinterface⟩
  · rintro ⟨p, hp, hinterface⟩
    exact ⟨(List.getElem?_eq_some_iff.mp hp).1, by simpa [hp] using hinterface⟩

theorem mem_interfacePlaces {place : Nat} :
    place ∈ interfacePlaces (placed.map fun p => p.link refs) ↔
      ∃ p, placed[place]? = some p ∧ p.type.target.isInterface = true := by
  have hlink : ∀ p : Placed, (p.link refs).isInterface = p.type.target.isInterface := fun _ => rfl
  rw [mem_interfacePlaces_iff, List.getElem?_map]
  simp [hlink]

theorem nodup_interfacePlaces {links : List Link} : (interfacePlaces links).Nodup :=
  List.nodup_range.filter _

theorem nodup_baseFirst {links : List Link} : (baseFirst links).Nodup :=
  nodup_walks nodup_interfacePlaces

/-- The order of filling leaves out no interface. -/
theorem mem_baseFirst {links : List Link} {place : Nat} :
    place ∈ baseFirst links ↔ place ∈ interfacePlaces links := by
  constructor
  · exact mem_of_mem_walks nodup_interfacePlaces
  · intro h
    refine mem_walks nodup_interfacePlaces ?_ h
    exact (List.mem_filter.mp h).1

theorem baseFirst_subperm (links : List Link) :
    (baseFirst links).Subperm (List.range links.length) :=
  List.subperm_of_subset nodup_baseFirst fun _ hplace =>
    (List.mem_filter.mp (mem_baseFirst.mp hplace)).1

theorem mem_fillOrder {p : Placed} :
    p ∈ fillOrder refs placed ↔ p ∈ placed ∧ p.type.target.isInterface = true := by
  unfold fillOrder
  rw [List.mem_filterMap]
  constructor
  · rintro ⟨place, hplace, hp⟩
    obtain ⟨q, hq, hinterface⟩ := mem_interfacePlaces.mp (mem_baseFirst.mp hplace)
    obtain rfl : p = q := Option.some.inj (hp.symm.trans hq)
    exact ⟨List.mem_of_getElem? hp, hinterface⟩
  · rintro ⟨hp, hinterface⟩
    obtain ⟨place, hplace⟩ := List.mem_iff_getElem?.mp hp
    exact ⟨place, mem_baseFirst.mpr (mem_interfacePlaces.mpr ⟨p, hplace, hinterface⟩), hplace⟩

/-- Every interface is filled. -/
theorem exists_mem_filling {p : Placed} (hp : p ∈ placed)
    (hinterface : p.type.target.isInterface = true) : ∃ made, (p, made) ∈ filling s placed := by
  have hmem : p ∈ (filling s placed).map (·.1) := by
    unfold filling
    rw [map_fst_fills, List.mem_filter, mem_fillOrder]
    exact ⟨⟨hp, hinterface⟩, hinterface⟩
  obtain ⟨⟨q, made⟩, hfill, rfl⟩ := List.mem_map.mp hmem
  exact ⟨made, hfill⟩

theorem mem_filling {f : Placed × InterfaceFunctions} (h : f ∈ filling s placed) :
    f.1 ∈ placed ∧ ∃ binding base, f.1.type.target = .interface binding ∧
      f.2 = interfaceFunctions (s.synthesis binding) f.1.type.decl base := by
  obtain ⟨hmem, binding, base, htarget, hmade⟩ := mem_fills h
  exact ⟨(mem_fillOrder.mp hmem).1, binding, base, htarget, hmade⟩

/-! ## Places of their own -/

/-- The handles of a placed type: that of the interface made from its members, and its own. -/
def Placed.handles (p : Placed) : List Handle := p.slots.map (·.1)

/-- No two places are the same. -/
def Apart (placed : List Placed) : Prop := (placed.flatMap Placed.handles).Nodup

theorem Placed.handle_mem (p : Placed) : p.handle ∈ p.handles := by
  simp [Placed.handles, Placed.slots]

theorem Placed.interface_mem {p : Placed} {c : ClassInterface} (hc : c ∈ p.classInterface) :
    c.handle ∈ p.handles := by
  rw [Option.mem_def] at hc
  simp [Placed.handles, Placed.slots, hc]

/-- Items that have an element in common are the same if no element is listed twice. -/
theorem eq_of_mem_flatMap {α β : Type} {items : List α} {f : α → List β}
    (h : (items.flatMap f).Nodup) {a b : α} (ha : a ∈ items) (hb : b ∈ items) {x : β}
    (hxa : x ∈ f a) (hxb : x ∈ f b) : a = b := by
  by_contra hne
  have hsymm : Std.Symm (Function.onFun List.Disjoint f) :=
    ⟨fun _ _ hdisjoint _ ha hb => hdisjoint hb ha⟩
  exact (List.nodup_flatMap.mp h).2.forall ha hb hne hxa hxb

theorem Apart.own_inj {p q : Placed} (h : Apart placed) (hp : p ∈ placed) (hq : q ∈ placed)
    (hsame : p.handle = q.handle) : p = q :=
  eq_of_mem_flatMap h hp hq p.handle_mem (hsame ▸ q.handle_mem)

theorem Apart.interface_ne {p q : Placed} (h : Apart placed) (hp : p ∈ placed) (hq : q ∈ placed)
    {c : ClassInterface} (hc : c ∈ p.classInterface) : c.handle ≠ q.handle := by
  intro hsame
  obtain rfl := eq_of_mem_flatMap h hp hq (Placed.interface_mem hc) (hsame ▸ q.handle_mem)
  have hnodup := (List.nodup_flatMap.mp h).1 p hp
  rw [Option.mem_def] at hc
  simp [Placed.handles, Placed.slots, hc, hsame] at hnodup

theorem Apart.nodup (h : Apart placed) : (placed.map (·.handle)).Nodup := by
  refine List.pairwise_map.mpr ((List.nodup_flatMap.mp h).2.imp ?_)
  intro p q hdisjoint hsame
  exact hdisjoint p.handle_mem (hsame ▸ q.handle_mem)

variable (refs) in
theorem nodup_fillOrder (h : Apart placed) : ((fillOrder refs placed).map (·.handle)).Nodup := by
  have hfilter : (fillOrder refs placed).map (·.handle) =
      (baseFirst (placed.map fun p => p.link refs)).filterMap
        fun place => (placed.map (·.handle))[place]? := by
    unfold fillOrder
    rw [List.map_filterMap]
    simp
  rw [hfilter]
  refine List.Nodup.filterMap (fun i j k hi hj => ?_) nodup_baseFirst
  obtain ⟨hlt, hget⟩ := List.getElem?_eq_some_iff.mp hi
  obtain ⟨hlt', hget'⟩ := List.getElem?_eq_some_iff.mp hj
  exact h.nodup.getElem_inj_iff.mp (hget.trans hget'.symm)

/-! ## What is written -/

/-- The setting in which the classes have their default interfaces. -/
def Setting.withDefaults (s : Setting) (placed : List Placed) : Setting :=
  { s with scope := { s.scope with refs := Export.withDefaults s.scope placed } }

/-- A placed interface with its functions. -/
def Placed.filled (version : Version) (scope : Scope) (p : Placed) (made : InterfaceFunctions) :
    TypeInfo :=
  { p.derived version scope with functions := made.functions.map (·.written) }

/-- The interface made from a placed class, with its functions. -/
def Placed.filledInterface (version : Version) (scope : Scope) (s : Setting) (p : Placed)
    (c : ClassInterface) : TypeInfo :=
  { p.derivedInterface version scope c with
    functions := (Export.interfaceFunctions (s.synthesis c.binding) p.type.decl {}).functions.map
      (·.written) }

/-- A placed record with its fields. -/
def Placed.filledRecord (version : Version) (scope : Scope) (s : Setting) (p : Placed) : TypeInfo :=
  { p.derived version scope with
    vars := fieldVariables s p.type.decl 0 (p.type.decl.fields.filter (·.isPublic)) }

/-- A placed enum with its constants. -/
def Placed.filledEnum (version : Version) (scope : Scope) (p : Placed) : TypeInfo :=
  { p.derived version scope with
    vars := constantVariables (p.type.decl.constants.zip p.constants) }

@[simp] theorem Placed.kind_filled (version : Version) (scope : Scope) (p : Placed)
    (made : InterfaceFunctions) : (p.filled version scope made).kind = p.type.target.typeKind := rfl

@[simp] theorem Placed.kind_filledInterface (version : Version) (scope : Scope) (s : Setting)
    (p : Placed) (c : ClassInterface) :
    (p.filledInterface version scope s c).kind = c.binding.typeKind := rfl

@[simp] theorem Placed.kind_filledRecord (version : Version) (scope : Scope) (s : Setting)
    (p : Placed) : (p.filledRecord version scope s).kind = p.type.target.typeKind := rfl

@[simp] theorem Placed.kind_filledEnum (version : Version) (scope : Scope) (p : Placed) :
    (p.filledEnum version scope).kind = p.type.target.typeKind := rfl

/-- The types of a library before the passes: each is as it was created. -/
structure Standing (version : Version) (placed : List Placed) (d : Draft) : Prop where
  handles : placed.flatMap Placed.handles = handlesFrom 0 d.types.length
  created : ∀ p ∈ placed, ∀ slot ∈ p.slots, d.IsOpen slot.1 (slot.2.info version)
  classed : ∀ p ∈ placed, p.IsClassed

/-- What a type of a library is after the passes. -/
inductive Content (version : Version) (s : Setting) (placed : List Placed) :
    Handle → TypeInfo → Prop where
  | interface {f : Placed × InterfaceFunctions} :
    f ∈ filling (s.withDefaults placed) placed →
    Content version s placed f.1.handle (f.1.filled version s.scope f.2)
  | classInterface {p : Placed} {c : ClassInterface} : p ∈ placed → c ∈ p.classInterface →
    Content version s placed c.handle (p.filledInterface version s.scope (s.withDefaults placed) c)
  | coClass {p : Placed} : p ∈ placed → p.type.target.typeKind = .coClass →
    Content version s placed p.handle (p.derived version s.scope)
  | record {p : Placed} : p ∈ placed → p.type.target = .record →
    Content version s placed p.handle (p.filledRecord version s.scope (s.withDefaults placed))
  | enumeration {p : Placed} : p ∈ placed → p.type.target = .enumeration →
    Content version s placed p.handle (p.filledEnum version s.scope)

/-- The interfaces of a library are placed ones, and those made from placed classes. -/
theorem Content.interface_cases {k : Handle} {t : TypeInfo} (h : Content version s placed k t)
    (hkind : t.kind.isInterface = true) :
    (∃ f ∈ filling (s.withDefaults placed) placed, k = f.1.handle ∧
        t = f.1.filled version s.scope f.2) ∨
      ∃ p ∈ placed, ∃ c ∈ p.classInterface, k = c.handle ∧
        t = p.filledInterface version s.scope (s.withDefaults placed) c := by
  cases h with
  | interface hfill => exact .inl ⟨_, hfill, rfl, rfl⟩
  | classInterface hp hc => exact .inr ⟨_, hp, _, hc, rfl, rfl⟩
  | coClass hp hclass =>
    rw [Placed.kind_derived, hclass] at hkind
    exact Bool.noConfusion hkind
  | record hp htarget =>
    rw [Placed.kind_filledRecord, htarget] at hkind
    exact Bool.noConfusion hkind
  | enumeration hp htarget =>
    rw [Placed.kind_filledEnum, htarget] at hkind
    exact Bool.noConfusion hkind

/-- The classes of a library are placed ones. -/
theorem Content.exists_class {k : Handle} {t : TypeInfo} (h : Content version s placed k t)
    (hkind : t.kind = .coClass) :
    ∃ p ∈ placed, p.type.target.typeKind = .coClass ∧ t = p.derived version s.scope := by
  have hinterface : t.kind.isInterface ≠ true := by
    rw [hkind]
    exact Bool.false_ne_true
  cases h with
  | interface hfill =>
    obtain ⟨-, binding, -, htarget, -⟩ := mem_filling hfill
    refine (hinterface ?_).elim
    rw [Placed.kind_filled, htarget]
    exact binding.isInterface_typeKind
  | classInterface hp hc =>
    refine (hinterface ?_).elim
    rw [Placed.kind_filledInterface]
    exact Binding.isInterface_typeKind _
  | coClass hp hclass => exact ⟨_, hp, hclass, rfl⟩
  | record hp htarget =>
    rw [Placed.kind_filledRecord, htarget] at hkind
    exact TypeKind.noConfusion hkind
  | enumeration hp htarget =>
    rw [Placed.kind_filledEnum, htarget] at hkind
    exact TypeKind.noConfusion hkind

/-- The types of a library after the passes over the draft `d`. -/
structure Written (version : Version) (s : Setting) (placed : List Placed) (d d' : Draft) :
    Prop where
  types : ∀ {k info}, Content version s placed k info → d'.IsOpen k info
  length : d'.types.length = d.types.length
  imports : d'.imports = d.imports
  attributes : d'.attributes = d.attributes

/-- Every place has its content. -/
theorem exists_content (version : Version) (s : Setting) {placed : List Placed} {k : Handle}
    (hk : k ∈ placed.flatMap Placed.handles) : ∃ info, Content version s placed k info := by
  obtain ⟨p, hp, hk⟩ := List.mem_flatMap.mp hk
  unfold Placed.handles Placed.slots at hk
  rw [List.map_append, List.map_map] at hk
  rcases List.mem_append.mp hk with hk | hk
  · obtain ⟨c, hc, rfl⟩ := List.mem_map.mp hk
    exact ⟨_, .classInterface hp (Option.mem_toList.mp hc)⟩
  · obtain rfl := List.mem_singleton.mp hk
    cases htarget : p.type.target with
    | interface binding =>
      obtain ⟨made, hmade⟩ := exists_mem_filling (s := s.withDefaults placed) hp
        (by rw [htarget]; rfl)
      exact ⟨_, .interface hmade⟩
    | coClass creatable binding => exact ⟨_, .coClass hp (by rw [htarget]; rfl)⟩
    | record => exact ⟨_, .record hp htarget⟩
    | enumeration => exact ⟨_, .enumeration hp htarget⟩

/-- What the passes need of a library in order to come to their end. -/
structure Fillable (s : Setting) (placed : List Placed) (d : Draft) : Prop where
  derivable : ∀ p ∈ placed, Derivable s.scope d p
  fields : ∀ p ∈ placed, p.type.decl.fields.length ≤ fieldLimit
  constants : (placed.flatMap fun p => constantKeys (p.type.decl.constants.zip p.constants)).Nodup
  names : ∀ p ∈ placed, ∀ key ∈ constantKeys (p.type.decl.constants.zip p.constants),
    key ∉ d.names

/-- The passes over a library. -/
def passes (s : Setting) (placed : List Placed) : List Step :=
  placed.flatMap (inheritanceSteps s.scope)
    ++ interfacesSteps (s.withDefaults placed) placed
    ++ placed.flatMap (classInterfaceSteps (s.withDefaults placed))
    ++ placed.flatMap (recordSteps (s.withDefaults placed))
    ++ placed.flatMap enumSteps

/-! ## One pass after the other -/

variable {bad : Prop} {version : Version} {d d' : Draft}

/-- The edit of an interface in the second pass. -/
def interfaceEdit (version : Version) (scope : Scope) (f : Placed × InterfaceFunctions) : Edit :=
  ⟨f.1.handle, f.1.derived version scope, f.1.filled version scope f.2, []⟩

/-- The edits of a class in the third pass. -/
def classInterfaceEdits (version : Version) (scope : Scope) (s : Setting) (p : Placed) : List Edit :=
  p.classInterface.toList.map fun c =>
    ⟨c.handle, p.derivedInterface version scope c, p.filledInterface version scope s c, []⟩

/-- The edits of a record in the fourth pass. -/
def recordEdits (version : Version) (scope : Scope) (s : Setting) (p : Placed) : List Edit :=
  match p.type.target with
  | .record => [⟨p.handle, p.derived version scope, p.filledRecord version scope s, []⟩]
  | _ => []

/-- The edits of an enum in the last pass. -/
def enumEdits (version : Version) (scope : Scope) (p : Placed) : List Edit :=
  match p.type.target with
  | .enumeration =>
    [⟨p.handle, p.derived version scope, p.filledEnum version scope,
      constantKeys (p.type.decl.constants.zip p.constants)⟩]
  | _ => []

theorem mem_recordEdits {scope : Scope} {filled : Setting} {e : Edit} :
    e ∈ placed.flatMap (recordEdits version scope filled) ↔
      ∃ p ∈ placed, p.type.target = .record ∧
        e = ⟨p.handle, p.derived version scope, p.filledRecord version scope filled, []⟩ := by
  rw [List.mem_flatMap]
  refine exists_congr fun p => and_congr_right fun _ => ?_
  unfold recordEdits
  split
  · next htarget => simp [htarget]
  · next hother => simpa using fun htarget => (hother htarget).elim

theorem mem_enumEdits {scope : Scope} {e : Edit} :
    e ∈ placed.flatMap (enumEdits version scope) ↔
      ∃ p ∈ placed, p.type.target = .enumeration ∧
        e = ⟨p.handle, p.derived version scope, p.filledEnum version scope,
          constantKeys (p.type.decl.constants.zip p.constants)⟩ := by
  rw [List.mem_flatMap]
  refine exists_congr fun p => and_congr_right fun _ => ?_
  unfold enumEdits
  split
  · next htarget => simp [htarget]
  · next hother => simpa using fun htarget => (hother htarget).elim

/-! Only the last pass claims names. -/

theorem claims_inheritances {scope : Scope} :
    ∀ e ∈ placed.flatMap (inheritanceEdits version scope), e.claims = [] := by
  intro e he
  obtain ⟨p, -, he⟩ := List.mem_flatMap.mp he
  rcases List.mem_append.mp he with he | he
  · obtain ⟨c, -, rfl⟩ := List.mem_map.mp he
    rfl
  · rw [List.mem_singleton.mp he]

theorem claims_interfaces {scope : Scope} {filled : List (Placed × InterfaceFunctions)} :
    ∀ e ∈ filled.map (interfaceEdit version scope), e.claims = [] := by
  intro e he
  obtain ⟨f, -, rfl⟩ := List.mem_map.mp he
  rfl

theorem claims_classInterfaces {scope : Scope} {filled : Setting} :
    ∀ e ∈ placed.flatMap (classInterfaceEdits version scope filled), e.claims = [] := by
  intro e he
  obtain ⟨p, -, he⟩ := List.mem_flatMap.mp he
  obtain ⟨c, -, rfl⟩ := List.mem_map.mp he
  rfl

theorem claims_records {scope : Scope} {filled : Setting} :
    ∀ e ∈ placed.flatMap (recordEdits version scope filled), e.claims = [] := by
  intro e he
  obtain ⟨p, -, -, rfl⟩ := mem_recordEdits.mp he
  rfl

theorem plays_inheritances (h : Standing version placed d) (hapart : Apart placed)
    (hgood : ¬bad → Fillable s placed d) :
    Plays bad (placed.flatMap (inheritanceEdits version s.scope))
      (placed.flatMap (inheritanceSteps s.scope)) d := by
  have hhandles : ∀ p, (inheritanceEdits version s.scope p).map (·.handle) = p.handles := by
    intro p
    simp [inheritanceEdits, Placed.handles, Placed.slots, Function.comp_def]
  refine plays_flatMap (fun p hp d' hresolves hawaits _ => ?_) ?_ ?_ fun _ => ?_
  · refine plays_inheritance (h.classed p hp) hawaits ?_ fun hbad => ?_
    · rw [hhandles]
      exact (List.nodup_flatMap.mp hapart).1 p hp
    · obtain ⟨hstandard, hown, hmade⟩ := (hgood hbad).derivable p hp
      refine ⟨hstandard, fun e he => ?_, fun c hc e he => ?_⟩
      · rw [hresolves]
        exact hown e he
      · rw [hresolves]
        exact hmade c hc e he
  · rw [List.map_flatMap]
    simp only [hhandles]
    exact hapart
  · intro e he
    obtain ⟨p, hp, he⟩ := List.mem_flatMap.mp he
    rcases List.mem_append.mp he with he | he
    · obtain ⟨c, hc, rfl⟩ := List.mem_map.mp he
      refine h.created p hp (c.handle, classPlaceholder p.type c.name c.binding) ?_
      exact List.mem_append_left _ (List.mem_map_of_mem hc)
    · obtain rfl := List.mem_singleton.mp he
      exact h.created p hp (p.handle, typePlaceholder p.type p.name)
        (List.mem_append_right _ List.mem_cons_self)
  · exact claimable_of_none claims_inheritances

variable (version) in
theorem plays_interfaces (hapart : Apart placed)
    (hawaits : Awaits d ((filling (s.withDefaults placed) placed).map
      (interfaceEdit version s.scope))) :
    Plays bad ((filling (s.withDefaults placed) placed).map (interfaceEdit version s.scope))
      (interfacesSteps (s.withDefaults placed) placed) d := by
  have hedits : (filling (s.withDefaults placed) placed).map (interfaceEdit version s.scope) =
      (filling (s.withDefaults placed) placed).flatMap fun f => [interfaceEdit version s.scope f] :=
    List.map_eq_flatMap
  rw [hedits] at hawaits ⊢
  rw [interfacesSteps_eq]
  refine plays_flatMap (fun f hf d' _ hawaits _ => ?_) ?_ hawaits fun _ => ?_
  · obtain ⟨hp, binding, base, htarget, hmade⟩ := mem_filling hf
    have hopen : d'.IsOpen f.1.handle (f.1.derived version s.scope) :=
      hawaits _ List.mem_cons_self
    refine plays_interfaceSteps hopen ?_ rfl f.1.name fun g hg => ?_
    · rw [Placed.kind_derived, htarget]
      exact binding.isInterface_typeKind
    · rw [hmade] at hg
      exact length_names hg
  · rw [← hedits, List.map_map]
    have hfst : (Edit.handle ∘ interfaceEdit version s.scope) =
        (fun p : Placed => p.handle) ∘ fun f : Placed × InterfaceFunctions => f.1 := rfl
    rw [hfst, ← List.map_map]
    unfold filling
    rw [map_fst_fills]
    exact (nodup_fillOrder _ hapart).sublist (List.filter_sublist.map _)
  · rw [← hedits]
    exact claimable_of_none claims_interfaces

variable (version) in
theorem plays_classInterfaces (hapart : Apart placed) {filled : Setting}
    (hawaits : Awaits d (placed.flatMap (classInterfaceEdits version s.scope filled))) :
    Plays bad (placed.flatMap (classInterfaceEdits version s.scope filled))
      (placed.flatMap (classInterfaceSteps filled)) d := by
  refine plays_flatMap (fun p hp d' _ hawaits _ => ?_) ?_ hawaits fun _ => ?_
  · unfold classInterfaceEdits classInterfaceSteps at *
    cases hc : p.classInterface with
    | none => exact plays_nil
    | some c =>
      rw [hc] at hawaits
      have hopen : d'.IsOpen c.handle (p.derivedInterface version s.scope c) :=
        hawaits _ List.mem_cons_self
      refine plays_interfaceSteps hopen ?_ rfl c.name fun g hg => length_names hg
      rw [Placed.kind_derivedInterface]
      exact c.binding.isInterface_typeKind
  · rw [List.map_flatMap]
    refine hapart.sublist (List.Sublist.flatMap_right _ fun p _ => ?_)
    simp [classInterfaceEdits, Placed.handles, Placed.slots, Function.comp_def]
  · exact claimable_of_none claims_classInterfaces

variable (version) in
theorem plays_records (hapart : Apart placed) {filled : Setting}
    (hawaits : Awaits d (placed.flatMap (recordEdits version s.scope filled)))
    (hgood : ¬bad → ∀ p ∈ placed, p.type.decl.fields.length ≤ fieldLimit) :
    Plays bad (placed.flatMap (recordEdits version s.scope filled))
      (placed.flatMap (recordSteps filled)) d := by
  refine plays_flatMap (fun p hp d' _ hawaits _ => ?_) ?_ hawaits fun _ => ?_
  · unfold recordEdits at hawaits ⊢
    cases htarget : p.type.target with
    | record =>
      rw [htarget] at hawaits
      have hopen : d'.IsOpen p.handle (p.derived version s.scope) := hawaits _ List.mem_cons_self
      have hkind : (p.derived version s.scope).kind = p.type.target.typeKind := rfl
      rw [htarget] at hkind
      exact plays_recordSteps htarget hopen hkind rfl fun hbad => hgood hbad p hp
    | _ =>
      have hnone : recordSteps filled p = [] := by simp [recordSteps, htarget]
      rw [hnone]
      exact plays_nil
  · rw [List.map_flatMap]
    refine hapart.sublist (List.Sublist.flatMap_right _ fun p _ => ?_)
    unfold recordEdits
    split
    · exact List.singleton_sublist.mpr p.handle_mem
    · exact List.nil_sublist _
  · exact claimable_of_none claims_records

variable (version) in
theorem plays_enums (hapart : Apart placed)
    (hawaits : Awaits d (placed.flatMap (enumEdits version s.scope)))
    (hgood : ¬bad → Claimable d (placed.flatMap (enumEdits version s.scope))) :
    Plays bad (placed.flatMap (enumEdits version s.scope)) (placed.flatMap enumSteps) d := by
  refine plays_flatMap (fun p hp d' _ hawaits hclaims => ?_) ?_ hawaits hgood
  · unfold enumEdits at hawaits hclaims ⊢
    cases htarget : p.type.target with
    | enumeration =>
      rw [htarget] at hawaits hclaims
      have hopen : d'.IsOpen p.handle (p.derived version s.scope) := hawaits _ List.mem_cons_self
      have hkind : (p.derived version s.scope).kind = p.type.target.typeKind := rfl
      rw [htarget] at hkind
      refine plays_enumSteps htarget hopen hkind rfl fun hbad => ?_
      simpa [Claimable, claimsOf] using hclaims hbad
    | _ =>
      have hnone : enumSteps p = [] := by simp [enumSteps, htarget]
      rw [hnone]
      exact plays_nil
  · rw [List.map_flatMap]
    refine hapart.sublist (List.Sublist.flatMap_right _ fun p _ => ?_)
    unfold enumEdits
    split
    · exact List.singleton_sublist.mpr p.handle_mem
    · exact List.nil_sublist _

/-! ## What one pass writes stands after the others -/

/-- The edits are about types that become something of one sort. -/
def OfSort (placed : List Placed) (sort : Target → Prop) (edits : List Edit) : Prop :=
  ∀ e ∈ edits, ∃ p ∈ placed, sort p.type.target ∧ e.handle = p.handle

theorem OfSort.frame {sort : Target → Prop} {edits : List Edit} (h : OfSort placed sort edits)
    (hapart : Apart placed) {p : Placed} (hp : p ∈ placed) (hsort : ¬sort p.type.target) :
    p.handle ∉ edits.map (·.handle) := by
  intro hmem
  obtain ⟨e, he, hsame⟩ := List.mem_map.mp hmem
  obtain ⟨q, hq, hqsort, hhandle⟩ := h e he
  obtain rfl := hapart.own_inj hq hp (hhandle.symm.trans hsame)
  exact hsort hqsort

theorem OfSort.frameInterface {sort : Target → Prop} {edits : List Edit}
    (h : OfSort placed sort edits) (hapart : Apart placed) {p : Placed} (hp : p ∈ placed)
    {c : ClassInterface} (hc : c ∈ p.classInterface) : c.handle ∉ edits.map (·.handle) := by
  intro hmem
  obtain ⟨e, he, hsame⟩ := List.mem_map.mp hmem
  obtain ⟨q, hq, -, hhandle⟩ := h e he
  exact hapart.interface_ne hp hq hc (hsame.symm.trans hhandle)

theorem ofSort_interfaces : OfSort placed (fun t => t.isInterface = true)
    ((filling (s.withDefaults placed) placed).map (interfaceEdit version s.scope)) := by
  intro e he
  obtain ⟨f, hf, rfl⟩ := List.mem_map.mp he
  obtain ⟨hp, binding, base, htarget, -⟩ := mem_filling hf
  exact ⟨f.1, hp, by rw [htarget]; rfl, rfl⟩

theorem ofSort_records {filled : Setting} : OfSort placed (· = .record)
    (placed.flatMap (recordEdits version s.scope filled)) := by
  intro e he
  obtain ⟨p, hp, htarget, rfl⟩ := mem_recordEdits.mp he
  exact ⟨p, hp, htarget, rfl⟩

theorem ofSort_enums : OfSort placed (· = .enumeration)
    (placed.flatMap (enumEdits version s.scope)) := by
  intro e he
  obtain ⟨p, hp, htarget, rfl⟩ := mem_enumEdits.mp he
  exact ⟨p, hp, htarget, rfl⟩

theorem frame_classInterfaces {filled : Setting} (hapart : Apart placed) {p : Placed}
    (hp : p ∈ placed) :
    p.handle ∉ (placed.flatMap (classInterfaceEdits version s.scope filled)).map (·.handle) := by
  intro hmem
  obtain ⟨e, he, hsame⟩ := List.mem_map.mp hmem
  obtain ⟨q, hq, he⟩ := List.mem_flatMap.mp he
  obtain ⟨c, hc, rfl⟩ := List.mem_map.mp he
  exact hapart.interface_ne hq hp (Option.mem_toList.mp hc) hsame

theorem mem_inheritanceEdits_own {scope : Scope} {p : Placed} (hp : p ∈ placed) :
    ⟨p.handle, p.created version, p.derived version scope, []⟩ ∈
      placed.flatMap (inheritanceEdits version scope) :=
  List.mem_flatMap.mpr ⟨p, hp, List.mem_append_right _ List.mem_cons_self⟩

theorem mem_inheritanceEdits_made {scope : Scope} {p : Placed} (hp : p ∈ placed)
    {c : ClassInterface} (hc : c ∈ p.classInterface) :
    ⟨c.handle, p.createdInterface version c, p.derivedInterface version scope c, []⟩ ∈
      placed.flatMap (inheritanceEdits version scope) := by
  refine List.mem_flatMap.mpr ⟨p, hp, List.mem_append_left _ ?_⟩
  exact List.mem_map.mpr ⟨c, Option.mem_toList.mpr hc, rfl⟩

theorem mem_classInterfaceEdits {scope : Scope} {filled : Setting} {p : Placed} (hp : p ∈ placed)
    {c : ClassInterface} (hc : c ∈ p.classInterface) :
    ⟨c.handle, p.derivedInterface version scope c, p.filledInterface version scope filled c, []⟩ ∈
      placed.flatMap (classInterfaceEdits version scope filled) :=
  List.mem_flatMap.mpr ⟨p, hp, List.mem_map.mpr ⟨c, Option.mem_toList.mpr hc, rfl⟩⟩

theorem Target.eq_coClass {t : Target} (h : t.typeKind = .coClass) :
    ∃ creatable binding, t = .coClass creatable binding := by
  cases t with
  | coClass creatable binding => exact ⟨creatable, binding, rfl⟩
  | interface binding => cases binding <;> exact TypeKind.noConfusion h
  | enumeration => exact TypeKind.noConfusion h
  | record => exact TypeKind.noConfusion h

/-- No pass before the last claims a name. -/
theorem Fillable.claimable (h : Fillable s placed d) (hnames : ∀ key, key ∈ d'.names ↔ key ∈ d.names) :
    Claimable d' (placed.flatMap (enumEdits version s.scope)) := by
  have hclaims : claimsOf (placed.flatMap (enumEdits version s.scope)) =
      placed.flatMap fun p => claimsOf (enumEdits version s.scope p) := by
    unfold claimsOf
    rw [List.flatMap_assoc]
  have hsub : ∀ p, (claimsOf (enumEdits version s.scope p)).Sublist
      (constantKeys (p.type.decl.constants.zip p.constants)) := by
    intro p
    unfold enumEdits
    split
    · simp [claimsOf]
    · exact List.nil_sublist _
  unfold Claimable
  rw [hclaims]
  refine ⟨h.constants.sublist (List.Sublist.flatMap_right _ fun p _ => hsub p), ?_⟩
  intro key hkey hmem
  obtain ⟨p, hp, hkey⟩ := List.mem_flatMap.mp hkey
  exact h.names p hp key ((hsub p).subset hkey) ((hnames key).mp hmem)

theorem Applied.names_iff {edits : List Edit} (h : Applied edits d d')
    (hnone : ∀ e ∈ edits, e.claims = []) (key : String) : key ∈ d'.names ↔ key ∈ d.names := by
  rw [h.names]
  constructor
  · rintro (hold | ⟨e, he, hclaim⟩)
    · exact hold
    · rw [hnone e he] at hclaim
      exact nomatch hclaim
  · exact .inl

section Passed

variable {d₁ d₂ d₃ d₄ d₅ : Draft}

/-- The passes over interfaces leave the other types as they were. -/
theorem isOpen_derived (hapart : Apart placed)
    (h₁ : Applied (placed.flatMap (inheritanceEdits version s.scope)) d d₁)
    (h₂ : Applied ((filling (s.withDefaults placed) placed).map (interfaceEdit version s.scope)) d₁ d₂)
    (h₃ : Applied (placed.flatMap (classInterfaceEdits version s.scope (s.withDefaults placed))) d₂ d₃)
    {p : Placed} (hp : p ∈ placed) (hsort : ¬p.type.target.isInterface = true) :
    d₃.IsOpen p.handle (p.derived version s.scope) :=
  h₃.isOpen (frame_classInterfaces hapart hp)
    (h₂.isOpen (ofSort_interfaces.frame hapart hp hsort) (h₁.after _ (mem_inheritanceEdits_own hp)))

/-- What a pass has written stays: the later passes are about types of other sorts. -/
theorem Content.isOpen (hapart : Apart placed)
    (h₁ : Applied (placed.flatMap (inheritanceEdits version s.scope)) d d₁)
    (h₂ : Applied ((filling (s.withDefaults placed) placed).map (interfaceEdit version s.scope)) d₁ d₂)
    (h₃ : Applied (placed.flatMap (classInterfaceEdits version s.scope (s.withDefaults placed))) d₂ d₃)
    (h₄ : Applied (placed.flatMap (recordEdits version s.scope (s.withDefaults placed))) d₃ d₄)
    (h₅ : Applied (placed.flatMap (enumEdits version s.scope)) d₄ d₅) {k : Handle} {info : TypeInfo}
    (h : Content version s placed k info) : d₅.IsOpen k info := by
  cases h with
  | @interface f hf =>
    obtain ⟨hp, binding, -, htarget, -⟩ := mem_filling hf
    have hother : f.1.type.target ≠ .record ∧ f.1.type.target ≠ .enumeration := by
      rw [htarget]
      exact ⟨Target.noConfusion, Target.noConfusion⟩
    refine h₅.isOpen (ofSort_enums.frame hapart hp hother.2) ?_
    refine h₄.isOpen (ofSort_records.frame hapart hp hother.1) ?_
    exact h₃.isOpen (frame_classInterfaces hapart hp) (h₂.after _ (List.mem_map_of_mem hf))
  | classInterface hp hc =>
    refine h₅.isOpen (ofSort_enums.frameInterface hapart hp hc) ?_
    exact h₄.isOpen (ofSort_records.frameInterface hapart hp hc)
      (h₃.after _ (mem_classInterfaceEdits hp hc))
  | @coClass p hp hkind =>
    obtain ⟨creatable, binding, htarget⟩ := Target.eq_coClass hkind
    have hother : p.type.target ≠ .record ∧ p.type.target ≠ .enumeration := by
      rw [htarget]
      exact ⟨Target.noConfusion, Target.noConfusion⟩
    refine h₅.isOpen (ofSort_enums.frame hapart hp hother.2) ?_
    refine h₄.isOpen (ofSort_records.frame hapart hp hother.1) ?_
    exact isOpen_derived hapart h₁ h₂ h₃ hp (by rw [htarget]; exact Bool.false_ne_true)
  | record hp htarget =>
    refine h₅.isOpen (ofSort_enums.frame hapart hp
      (by rw [htarget]; exact Target.noConfusion)) ?_
    exact h₄.after _ (mem_recordEdits.mpr ⟨_, hp, htarget, rfl⟩)
  | enumeration hp htarget => exact h₅.after _ (mem_enumEdits.mpr ⟨_, hp, htarget, rfl⟩)

end Passed

/-- **The passes over a library**: they come to their end, unless something is bad, and then every
type is what its pass has made of it. -/
theorem reaches_passes (h : Standing version placed d) (hapart : Apart placed)
    (hgood : ¬bad → Fillable s placed d) :
    Reaches bad (Written version s placed d) (passes s placed) d := by
  unfold passes
  rw [List.append_assoc, List.append_assoc, List.append_assoc]
  refine Reaches.append (plays_inheritances h hapart hgood) fun d₁ h₁ => ?_
  refine Reaches.append (plays_interfaces (s := s) version hapart fun e he => ?_)
    fun d₂ h₂ => ?_
  · obtain ⟨f, hf, rfl⟩ := List.mem_map.mp he
    exact h₁.after _ (mem_inheritanceEdits_own (mem_filling hf).1)
  refine Reaches.append (plays_classInterfaces (s := s) version hapart fun e he => ?_)
    fun d₃ h₃ => ?_
  · obtain ⟨p, hp, he⟩ := List.mem_flatMap.mp he
    obtain ⟨c, hc, rfl⟩ := List.mem_map.mp he
    have hc := Option.mem_toList.mp hc
    exact h₂.isOpen (ofSort_interfaces.frameInterface hapart hp hc)
      (h₁.after _ (mem_inheritanceEdits_made hp hc))
  refine Reaches.append (plays_records (s := s) version hapart (fun e he => ?_)
    fun hbad => (hgood hbad).fields) fun d₄ h₄ => ?_
  · obtain ⟨p, hp, htarget, rfl⟩ := mem_recordEdits.mp he
    exact isOpen_derived hapart h₁ h₂ h₃ hp (by rw [htarget]; exact Bool.false_ne_true)
  refine (plays_enums (s := s) version hapart (fun e he => ?_)
    fun hbad => (hgood hbad).claimable fun key => ?_).imp fun d₅ h₅ => ?_
  · obtain ⟨p, hp, htarget, rfl⟩ := mem_enumEdits.mp he
    exact h₄.isOpen (ofSort_records.frame hapart hp (by rw [htarget]; exact Target.noConfusion))
      (isOpen_derived hapart h₁ h₂ h₃ hp (by rw [htarget]; exact Bool.false_ne_true))
  · rw [h₄.names_iff claims_records, h₃.names_iff claims_classInterfaces,
      h₂.names_iff claims_interfaces, h₁.names_iff claims_inheritances]
  exact {
    types := Content.isOpen hapart h₁ h₂ h₃ h₄ h₅
    length := by rw [h₅.length, h₄.length, h₃.length, h₂.length, h₁.length]
    imports := by rw [h₅.imports, h₄.imports, h₃.imports, h₂.imports, h₁.imports]
    attributes := by
      rw [h₅.attributes, h₄.attributes, h₃.attributes, h₂.attributes, h₁.attributes] }

end Automation.Export
