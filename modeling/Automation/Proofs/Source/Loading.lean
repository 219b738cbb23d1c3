import Automation.Source.SourceUnit
import Mathlib.Data.List.Basic

/-!
# Units that can be loaded

A list of types can be loaded if it is closed (`IsClosed`): names are apart, enums sit on integers, and
whatever is referred to is there. The unit then finds its types by their names. Otherwise the first type
that has a fault is reported (`FirstFault`), and of its faults the gravest: `load_answers`.
-/

namespace Automation.Source

/-! ## What a declaration refers to -/

/-- The expression refers to a type of the same unit, at whatever depth. -/
inductive TypeExpr.RefersTo (id : TypeId) : TypeExpr → Prop where
  | named : RefersTo id (.named id)
  | array {element : TypeExpr} (h : RefersTo id element) : RefersTo id (.array element)
  | pointer {target : TypeExpr} (h : RefersTo id target) : RefersTo id (.pointer target)

theorem TypeExpr.mem_localRefs_iff {e : TypeExpr} {id : TypeId} :
    id ∈ e.localRefs ↔ e.RefersTo id := by
  induction e with
  | named other =>
    refine List.mem_singleton.trans ⟨?_, fun | .named => rfl⟩
    rintro rfl
    exact .named
  | array element ih => exact ih.trans ⟨.array, fun | .array h => h⟩
  | pointer target ih => exact ih.trans ⟨.pointer, fun | .pointer h => h⟩
  | _ => exact iff_of_false (List.not_mem_nil) fun h => nomatch h

namespace TypeDecl

/-- The expression stands somewhere in the declaration. -/
inductive Contains (t : TypeDecl) : TypeExpr → Prop where
  | implemented {e : TypeExpr} (h : e ∈ t.interfaces) : Contains t e
  | base {e : TypeExpr} (h : t.base = some e) : Contains t e
  | defaultInterface {info : ClassInfo} {e : TypeExpr} (hbody : t.body = .objectClass info)
    (h : info.defaultInterface = some e) : Contains t e
  | source {info : ClassInfo} {e : TypeExpr} (hbody : t.body = .objectClass info)
    (h : e ∈ info.sources) : Contains t e
  | field {fields : List Field} {f : Field} (hbody : t.body = .record fields) (h : f ∈ fields) :
    Contains t f.type
  | result {m : Member} (h : m ∈ t.members) : Contains t m.ret
  | parameter {m : Member} {p : Parameter} (hm : m ∈ t.members) (hp : p ∈ m.params) :
    Contains t p.type

/-- The declaration refers to a type of the same unit. -/
def RefersTo (t : TypeDecl) (id : TypeId) : Prop := ∃ e, t.Contains e ∧ e.RefersTo id

variable {t : TypeDecl}

theorem defaultInterface_eq_some_iff {e : TypeExpr} : t.classInfo.defaultInterface = some e ↔
    ∃ info, t.body = .objectClass info ∧ info.defaultInterface = some e := by
  unfold classInfo
  cases t.body <;> simp

theorem mem_sources_iff {e : TypeExpr} : e ∈ t.classInfo.sources ↔
    ∃ info, t.body = .objectClass info ∧ e ∈ info.sources := by
  unfold classInfo
  cases t.body <;> simp

theorem mem_fields_iff {f : Field} : f ∈ t.fields ↔
    ∃ fields, t.body = .record fields ∧ f ∈ fields := by
  unfold fields
  cases t.body <;> simp

/-- The expressions that are looked at are all that stand in the declaration. -/
theorem mem_expressions_iff {e : TypeExpr} : e ∈ t.expressions ↔ t.Contains e := by
  simp only [expressions, List.mem_append, Option.mem_toList, List.mem_map, List.mem_flatMap,
    List.mem_cons, defaultInterface_eq_some_iff, mem_sources_iff, mem_fields_iff]
  constructor
  · rintro (((((h | h) | ⟨info, hbody, h⟩) | ⟨info, hbody, h⟩) | ⟨f, ⟨fields, hbody, hf⟩, rfl⟩) |
      ⟨m, hm, rfl | ⟨p, hp, rfl⟩⟩)
    · exact .implemented h
    · exact .base h
    · exact .defaultInterface hbody h
    · exact .source hbody h
    · exact .field hbody hf
    · exact .result hm
    · exact .parameter hm hp
  · intro h
    cases h with
    | implemented h => exact .inl (.inl (.inl (.inl (.inl h))))
    | base h => exact .inl (.inl (.inl (.inl (.inr h))))
    | defaultInterface hbody h => exact .inl (.inl (.inl (.inr ⟨_, hbody, h⟩)))
    | source hbody h => exact .inl (.inl (.inr ⟨_, hbody, h⟩))
    | field hbody h => exact .inl (.inr ⟨_, ⟨_, hbody, h⟩, rfl⟩)
    | result h => exact .inr ⟨_, h, .inl rfl⟩
    | parameter hm hp => exact .inr ⟨_, hm, .inr ⟨_, hp, rfl⟩⟩

theorem mem_localRefs_iff {id : TypeId} : id ∈ t.localRefs ↔ t.RefersTo id := by
  unfold localRefs RefersTo
  rw [List.mem_flatMap]
  exact exists_congr fun e => and_congr mem_expressions_iff TypeExpr.mem_localRefs_iff

/-- If the type is an enum, it sits on one of the integers of fixed width. -/
def SitsOnInteger (t : TypeDecl) : Prop :=
  ∀ underlying constants, t.body = .enumeration underlying constants →
    underlying ∈ [Scalar.i8, .u8, .i16, .u16, .i32, .u32, .i64, .u64]

theorem isInvalidEnum_iff : t.isInvalidEnum = true ↔ ¬t.SitsOnInteger := by
  unfold isInvalidEnum SitsOnInteger
  split
  · next underlying constants hbody => cases underlying <;> simp [hbody, Scalar.isInteger]
  · next hbody => exact iff_of_false Bool.false_ne_true fun h => h fun u c hu => (hbody u c hu).elim

end TypeDecl

namespace SourceUnit

/-! ## Faults -/

/-- The list of types is closed. -/
structure IsClosed (types : List TypeDecl) : Prop where
  /-- No two types have the same name in the same namespace. -/
  apart : types.Pairwise fun t t' => (t.space, t.name) ≠ (t'.space, t'.name)
  integers : ∀ t ∈ types, t.SitsOnInteger
  /-- What is referred to is there. -/
  inside : ∀ t ∈ types, ∀ id, t.RefersTo id → id < types.length

/-- An earlier type has the same name in the same namespace. -/
def IsRepeated (earlier : List TypeDecl) (t : TypeDecl) : Prop :=
  ∃ e ∈ earlier, e.space = t.space ∧ e.name = t.name

/-- The gravest fault of a type that follows the types `earlier` in a unit of `count` types: that its
name is repeated, then that it sits on no integer, then the first of its references to what is not
there. -/
inductive Fault (count : Nat) (earlier : List TypeDecl) (t : TypeDecl) : LoadError → Prop where
  | duplicate (h : IsRepeated earlier t) : Fault count earlier t (.duplicateType t.qualified)
  | invalidEnum (hname : ¬IsRepeated earlier t) (h : ¬t.SitsOnInteger) :
    Fault count earlier t (.invalidEnum t.qualified)
  | missing {before after : List TypeId} {id : TypeId} (hname : ¬IsRepeated earlier t)
    (hinteger : t.SitsOnInteger) (hrefs : t.localRefs = before ++ id :: after)
    (hbefore : ∀ other ∈ before, other < count) (h : count ≤ id) :
    Fault count earlier t (.missingType t.qualified id)

/-- The first type of the list that has a fault has this one. -/
def FirstFault (types : List TypeDecl) (error : LoadError) : Prop :=
  ∃ earlier t later, types = earlier ++ t :: later ∧ Fault types.length earlier t error ∧
    ∀ before t' after, earlier = before ++ t' :: after →
      ∀ other, ¬Fault types.length before t' other

variable {count : Nat} {earlier types : List TypeDecl} {t : TypeDecl} {error : LoadError}

theorem isRepeated_iff : (earlier.any fun e => e.space == t.space && e.name == t.name) = true ↔
    IsRepeated earlier t := by
  simp only [List.any_eq_true, Bool.and_eq_true, beq_iff_eq, IsRepeated]

/-- The fault that is found is the gravest one. -/
theorem fault_of_fault? (h : fault? count earlier t = some error) : Fault count earlier t error := by
  unfold fault? at h
  split at h
  · next hname =>
    obtain rfl := Option.some.inj h
    exact .duplicate (isRepeated_iff.mp hname)
  · next hname =>
    rw [isRepeated_iff] at hname
    split at h
    · next hinvalid =>
      obtain rfl := Option.some.inj h
      exact .invalidEnum hname (TypeDecl.isInvalidEnum_iff.mp hinvalid)
    · next hvalid =>
      obtain ⟨id, hid, rfl⟩ := Option.map_eq_some_iff.mp h
      rw [TypeDecl.isInvalidEnum_iff, not_not] at hvalid
      obtain ⟨hrange, before, after, hrefs, hbefore⟩ := List.find?_eq_some_iff_append.mp hid
      simp only [decide_eq_true_eq, Bool.not_eq_true', decide_eq_false_iff_not, Nat.not_le]
        at hrange hbefore
      exact .missing hname hvalid hrefs hbefore hrange

theorem fault?_eq_none_iff : fault? count earlier t = none ↔
    ¬IsRepeated earlier t ∧ t.SitsOnInteger ∧ ∀ id, t.RefersTo id → id < count := by
  unfold fault?
  split
  · next hname => exact iff_of_false (nofun) fun h => h.1 (isRepeated_iff.mp hname)
  · next hname =>
    rw [isRepeated_iff] at hname
    rw [and_iff_right hname]
    split
    · next hinvalid =>
      exact iff_of_false (nofun) fun h => TypeDecl.isInvalidEnum_iff.mp hinvalid h.1
    · next hvalid =>
      rw [TypeDecl.isInvalidEnum_iff, not_not] at hvalid
      rw [and_iff_right hvalid, Option.map_eq_none_iff, List.find?_eq_none]
      simp only [TypeDecl.mem_localRefs_iff, decide_eq_true_eq, Nat.not_le]

theorem not_fault_of_fault? (h : fault? count earlier t = none) : ¬Fault count earlier t error := by
  obtain ⟨hname, hinteger, hrange⟩ := fault?_eq_none_iff.mp h
  intro hfault
  cases hfault with
  | duplicate h => exact hname h
  | invalidEnum _ h => exact h hinteger
  | missing _ _ hrefs _ h =>
    have href := TypeDecl.mem_localRefs_iff.mp (hrefs ▸ List.mem_append_right _ List.mem_cons_self)
    exact Nat.not_le.mpr (hrange _ href) h

/-! ## Loading -/

theorem firstFault?_cons {later : List TypeDecl} : firstFault? count earlier (t :: later) =
    (fault? count earlier t).or (firstFault? count (earlier ++ [t]) later) := by
  rw [firstFault?, Option.orElse_eq_orElse, Option.orElse_eq_or]

theorem firstFault?_eq_none_iff : firstFault? count earlier types = none ↔
    (∀ t ∈ types, ¬IsRepeated earlier t) ∧
      types.Pairwise (fun t t' => (t.space, t.name) ≠ (t'.space, t'.name)) ∧
      (∀ t ∈ types, t.SitsOnInteger) ∧ ∀ t ∈ types, ∀ id, t.RefersTo id → id < count := by
  induction types generalizing earlier with
  | nil => simp [firstFault?]
  | cons t later ih =>
    have hrepeated : (∀ t' ∈ later, ¬IsRepeated (earlier ++ [t]) t') ↔
        (∀ t' ∈ later, ¬IsRepeated earlier t') ∧
          ∀ t' ∈ later, (t.space, t.name) ≠ (t'.space, t'.name) := by
      rw [← forall₂_and]
      refine forall₂_congr fun t' _ => ?_
      simp only [IsRepeated, List.mem_append, List.mem_singleton, or_and_right, exists_or,
        exists_eq_left, not_or, ne_eq, Prod.mk.injEq]
    rw [firstFault?_cons, Option.or_eq_none_iff, fault?_eq_none_iff, ih, hrepeated,
      List.pairwise_cons]
    simp only [List.forall_mem_cons]
    tauto

/-- The fault that is found is that of the first type that has one. -/
theorem exists_of_firstFault? (h : firstFault? count earlier types = some error) :
    ∃ before t after, types = before ++ t :: after ∧ Fault count (earlier ++ before) t error ∧
      ∀ before' t' after', before = before' ++ t' :: after' →
        ∀ other, ¬Fault count (earlier ++ before') t' other := by
  induction types generalizing earlier with
  | nil => exact nomatch h
  | cons t later ih =>
    rw [firstFault?_cons, Option.or_eq_some_iff] at h
    rcases h with h | ⟨hnone, h⟩
    · exact ⟨[], t, later, rfl, by simpa using fault_of_fault? h, by simp⟩
    · obtain ⟨before, t₁, after, rfl, hfault, hbefore⟩ := ih h
      refine ⟨t :: before, t₁, after, rfl, by simpa using hfault, ?_⟩
      intro before' t' after' hsplit other
      cases before' with
      | nil =>
        obtain ⟨rfl, -⟩ := List.cons.inj hsplit
        simpa using not_fault_of_fault? hnone
      | cons first before' =>
        obtain ⟨rfl, hrest⟩ := List.cons.inj hsplit
        simpa using hbefore before' t' after' hrest other

theorem load_eq_ok_iff {identity : UnitIdentity} {u : SourceUnit} :
    load identity types = .ok u ↔ IsClosed types ∧ u = ⟨identity, types⟩ := by
  have hclosed : firstFault? types.length [] types = none ↔ IsClosed types := by
    rw [firstFault?_eq_none_iff]
    constructor
    · rintro ⟨-, hapart, hintegers, hinside⟩
      exact ⟨hapart, hintegers, hinside⟩
    · intro h
      exact ⟨fun _ _ ⟨_, he, _⟩ => (List.not_mem_nil he).elim, h.apart, h.integers, h.inside⟩
  rw [← hclosed]
  unfold load
  cases firstFault? types.length [] types with
  | none => simp [eq_comm]
  | some error => simp

theorem firstFault_of_load {identity : UnitIdentity} (h : load identity types = .error error) :
    FirstFault types error := by
  unfold load at h
  split at h
  · next found hfound =>
    obtain rfl := Except.error.inj h
    obtain ⟨before, t, after, hsplit, hfault, hbefore⟩ := exists_of_firstFault? hfound
    exact ⟨before, t, after, hsplit, by simpa using hfault, by simpa using hbefore⟩
  · exact nomatch h

/-- Types that are apart are found by their names. -/
theorem find?_eq_some_iff {u : SourceUnit} (h : IsClosed u.types) {space name : String} {id : TypeId} :
    u.find? space name = some id ↔
      ∃ t, u.types[id]? = some t ∧ t.space = space ∧ t.name = name := by
  unfold find?
  rw [List.findIdx?_eq_some_iff_getElem]
  simp only [Bool.and_eq_true, beq_iff_eq, List.getElem?_eq_some_iff]
  constructor
  · rintro ⟨hid, ⟨hspace, hname⟩, -⟩
    exact ⟨u.types[id], ⟨hid, rfl⟩, hspace, hname⟩
  · rintro ⟨_, ⟨hid, rfl⟩, hspace, hname⟩
    refine ⟨hid, ⟨hspace, hname⟩, ?_⟩
    rintro j hj ⟨hspace', hname'⟩
    have hne := List.pairwise_iff_getElem.mp h.apart j id (Nat.lt_trans hj hid) hid hj
    exact hne (Prod.ext (hspace'.trans hspace.symm) (hname'.trans hname.symm))

/-- What loading answers: a unit that finds its types by their names and whose data can be loaded again,
or the gravest fault of the first type that has one. -/
def Answers (identity : UnitIdentity) (types : List TypeDecl) : Except LoadError SourceUnit → Prop
  | .ok u => u.identity = identity ∧ u.types = types ∧
      (∀ space name id, u.find? space name = some id ↔
        ∃ t, types[id]? = some t ∧ t.space = space ∧ t.name = name) ∧
      load u.identity u.types = .ok u
  | .error error => FirstFault types error

/-- Exactly the closed lists of types can be loaded. -/
theorem load_answers (identity : UnitIdentity) (types : List TypeDecl) :
    ((∃ u, load identity types = .ok u) ↔ IsClosed types) ∧
      Answers identity types (load identity types) := by
  constructor
  · simp only [load_eq_ok_iff, exists_and_left, exists_eq, and_true]
  · cases hload : load identity types with
    | ok u =>
      obtain ⟨hclosed, rfl⟩ := load_eq_ok_iff.mp hload
      exact ⟨rfl, rfl, fun _ _ _ => find?_eq_some_iff hclosed, hload⟩
    | error error => exact firstFault_of_load hload

end SourceUnit

end Automation.Source
