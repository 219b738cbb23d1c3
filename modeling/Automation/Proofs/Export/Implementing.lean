import Automation.Proofs.Export.Describing

/-!
# What classes and interfaces implement

A class implements what it has for incoming interfaces, each once, and the outgoing ones that it declares
(`classImplements_eq`). It marks exactly one of them as its default (`countP_isDefault_entries`). What
classes and interfaces refer to is in the reference table, also once the classes have their defaults
(`ReferenceTable.Resolves.withDefaults`).
-/

namespace Automation.Export

open Library Source

/-! ## Lists without repetitions -/

section Lists

variable {α : Type} [BEq α] {l firsts : List α} {a : α}

/-- The elements of a list without repetitions, in the order in which they first occur. -/
structure FirstOccurrences (l firsts : List α) : Prop where
  mem_iff : ∀ a, a ∈ firsts ↔ a ∈ l
  ordered : firsts.Pairwise fun a b => l.idxOf a < l.idxOf b

theorem FirstOccurrences.nodup (h : FirstOccurrences l firsts) : firsts.Nodup :=
  h.ordered.imp fun hlt heq => absurd (heq ▸ hlt) (Nat.lt_irrefl _)

variable [LawfulBEq α]

/-- What follows a list does not change where its elements first occur. -/
theorem FirstOccurrences.ordered_append (h : FirstOccurrences l firsts) (later : List α) :
    firsts.Pairwise fun a b => (l ++ later).idxOf a < (l ++ later).idxOf b :=
  h.ordered.imp_of_mem fun ha hb hlt => by
    rwa [List.idxOf_append_of_mem ((h.mem_iff _).mp ha),
      List.idxOf_append_of_mem ((h.mem_iff _).mp hb)]

theorem FirstOccurrences.concat_of_mem (h : FirstOccurrences l firsts) (ha : a ∈ l) :
    FirstOccurrences (l ++ [a]) firsts where
  mem_iff b := by
    rw [h.mem_iff, List.mem_append, List.mem_singleton]
    exact ⟨.inl, fun hb => hb.elim id fun heq => heq ▸ ha⟩
  ordered := h.ordered_append [a]

theorem FirstOccurrences.concat_of_notMem (h : FirstOccurrences l firsts) (ha : a ∉ l) :
    FirstOccurrences (l ++ [a]) (firsts ++ [a]) where
  mem_iff b := by rw [List.mem_append, List.mem_append, h.mem_iff]
  ordered := by
    refine List.pairwise_append.mpr ⟨h.ordered_append [a], List.pairwise_singleton _ _, ?_⟩
    intro b hb c hc
    have hb := (h.mem_iff b).mp hb
    rw [List.mem_singleton.mp hc, List.idxOf_append_of_mem hb, List.idxOf_append_of_notMem ha]
    exact Nat.lt_add_right _ (List.idxOf_lt_length_of_mem hb)

theorem firstOccurrences_eraseDups (l : List α) : FirstOccurrences l l.eraseDups := by
  induction l using List.reverseRecOn with
  | nil => exact ⟨fun a => Iff.rfl, .nil⟩
  | append_singleton l a ih =>
    rw [List.eraseDups_append]
    by_cases ha : a ∈ l
    · simpa [List.removeAll, ha] using ih.concat_of_mem ha
    · simpa [List.removeAll, List.eraseDups_cons, ha] using ih.concat_of_notMem ha

theorem nodup_eraseDups (l : List α) : l.eraseDups.Nodup :=
  (firstOccurrences_eraseDups l).nodup

end Lists

/-! ## What expressions stand for -/

section Expressions

variable {s : Scope} {type : TypeExpr} {ref : TypeRef}

/-- The expression stands for an interface: one of the unit, or one of another library. -/
inductive StandsFor (s : Scope) : TypeExpr → TypeRef → Prop
  | own {id : TypeId} {ref : LocalRef} (hown : s.refs.own? id = some ref)
      (hkind : ref.target.isInterface = true) : StandsFor s (.named id) (.own ref.handle)
  | external {type : ExternalType} {ref : ExternalRef} (hexternal : s.refs.external? type = some ref)
      (hkind : ref.kind = .interface) : StandsFor s (.external type) ref.ref

/-- The expression stands for what is never exported: a generic type, or a type of the unit that is
hidden or generic. -/
inductive NeverExported (s : Scope) : TypeExpr → Prop
  | generic (name : String) : NeverExported s (.generic name)
  | hidden {id : TypeId} {t : TypeDecl} (ht : s.type? id = some t)
      (hhidden : t.isVisible = false ∨ t.isGeneric = true) : NeverExported s (.named id)

/-- The name that a warning gives to what an expression should stand for. -/
def missingName (s : Scope) : TypeExpr → String
  | .named id => match s.type? id with
    | some t => t.qualified
    | none => (TypeExpr.named id).spelling
  | .external type => type.qualified
  | type => type.spelling

theorem StandsFor.ref? (h : StandsFor s type ref) : (implemented s type).ref? = some ref := by
  cases h with
  | own hown hkind => simp [implemented, Implemented.ref?, hown, hkind]
  | external hexternal hkind => simp [implemented, Implemented.ref?, hexternal, hkind]

/-- A type of the unit without an interface is passed over if it is never exported. -/
theorem implemented_named {id : TypeId} (hnone : ∀ ref, ¬StandsFor s (.named id) ref) :
    NeverExported s (.named id) ∧ implemented s (.named id) = .unexported ∨
      ¬NeverExported s (.named id) ∧
        implemented s (.named id) = .missing (missingName s (.named id)) := by
  have habsent : implemented s (.named id) = match s.type? id with
      | some t => if !t.isVisible || t.isGeneric then .unexported else .missing t.qualified
      | none => .missing (TypeExpr.named id).spelling := by
    unfold implemented
    dsimp only
    cases hown : s.refs.own? id with
    | none => rfl
    | some r => exact if_neg fun hkind => hnone _ (.own hown hkind)
  rw [habsent, missingName]
  cases ht : s.type? id with
  | none =>
    refine .inr ⟨fun h => ?_, rfl⟩
    cases h with
    | hidden ht' => exact nomatch ht.symm.trans ht'
  | some t =>
    by_cases hhidden : t.isVisible = false ∨ t.isGeneric = true
    · exact .inl ⟨.hidden ht hhidden, if_pos (by simpa using hhidden)⟩
    · refine .inr ⟨fun h => ?_, if_neg (by simpa using hhidden)⟩
      cases h with
      | hidden ht' hhidden' =>
        obtain rfl := Option.some.inj (ht.symm.trans ht')
        exact hhidden hhidden'

/-- What stands for no interface is never exported, or it is missing. -/
theorem implemented_of_not_standsFor (hnone : ∀ ref, ¬StandsFor s type ref) :
    NeverExported s type ∧ implemented s type = .unexported ∨
      ¬NeverExported s type ∧ implemented s type = .missing (missingName s type) := by
  cases type with
  | named id => exact implemented_named hnone
  | generic name => exact .inl ⟨.generic name, rfl⟩
  | external type =>
    refine .inr ⟨nofun, ?_⟩
    unfold implemented
    dsimp only
    cases hexternal : s.refs.external? type with
    | none => rfl
    | some r => exact if_neg fun hkind => hnone _ (.external hexternal hkind)
  | _ => exact .inr ⟨nofun, rfl⟩

theorem standsFor_iff : StandsFor s type ref ↔ (implemented s type).ref? = some ref := by
  refine ⟨StandsFor.ref?, fun href => ?_⟩
  by_contra hno
  have hnone (other : TypeRef) (hother : StandsFor s type other) : False :=
    hno (Option.some.inj (href.symm.trans hother.ref?) ▸ hother)
  rcases implemented_of_not_standsFor hnone with ⟨-, h⟩ | ⟨-, h⟩ <;> rw [h] at href <;>
    exact nomatch href

end Expressions

/-! ## Classes -/

variable {d : Draft} {s : Scope} {t : TypeDecl} {classInterface : Option Handle}

/-- The interfaces that expressions stand for. -/
def foundRefs (s : Scope) (types : List TypeExpr) : List TypeRef :=
  types.filterMap fun type => (implemented s type).ref?

theorem mem_foundRefs {types : List TypeExpr} {ref : TypeRef} :
    ref ∈ foundRefs s types ↔ ∃ type ∈ types, StandsFor s type ref := by
  simp only [foundRefs, List.mem_filterMap, standsFor_iff]

/-- The declared default interface of a class, if it is found. -/
def declaredDefault? (s : Scope) (t : TypeDecl) : Option TypeRef :=
  t.classInfo.defaultInterface.bind fun type => (implemented s type).ref?

/-- The warning that the declared default interface is not found. -/
def defaultWarnings (s : Scope) (t : TypeDecl) : List Diagnostic :=
  if (declaredDefault? s t).isSome then []
  else t.classInfo.defaultInterface.toList.map fun type => unresolvedDefault t.qualified type.spelling

/-- What a class has for incoming interfaces: the interface made from its members, what it declares to
implement, and its declared default. -/
def choices (s : Scope) (t : TypeDecl) (classInterface : Option Handle) : List TypeRef :=
  (classInterface.map TypeRef.own).toList ++ foundRefs s t.interfaces
    ++ (declaredDefault? s t).toList

/-- The choices of a class, or a reference in place of them if there are none. -/
def choicesOr (ref : TypeRef) (s : Scope) (t : TypeDecl) (classInterface : Option Handle) :
    List TypeRef :=
  if (choices s t classInterface).isEmpty then [ref] else choices s t classInterface

/-- The choice that has precedence as the default of a class: the declared one, or the interface made
from its members, or the first one that it declares to implement. -/
def firstChoice? (s : Scope) (t : TypeDecl) (classInterface : Option Handle) : Option TypeRef :=
  declaredDefault? s t <|> classInterface.map TypeRef.own <|> (foundRefs s t.interfaces).head?

/-- What a class implements if it has the default. -/
def ClassImplements.ofDefault (s : Scope) (t : TypeDecl) (classInterface : Option Handle)
    (default : TypeRef) : ClassImplements where
  entries := (choicesOr default s t classInterface).eraseDups.map (incoming default)
    ++ outgoing (foundRefs s t.classInfo.sources)
  default := default

theorem head?_eraseDups (refs : List TypeRef) : refs.eraseDups.head? = refs.head? := by
  cases refs with
  | nil => rfl
  | cons first later => rw [List.eraseDups_cons]; rfl

theorem firstChoice?_or (standard : Option TypeRef) :
    (declaredDefault? s t <|> classInterface.map TypeRef.own <|>
      (choices s t classInterface).eraseDups.head? <|> standard) =
        (firstChoice? s t classInterface <|> standard) := by
  unfold firstChoice? choices
  rw [head?_eraseDups]
  cases declaredDefault? s t <;> cases classInterface <;> cases foundRefs s t.interfaces <;> rfl

theorem eraseDups_choicesOr (ref : TypeRef) :
    (choicesOr ref s t classInterface).eraseDups =
      if (choices s t classInterface).eraseDups.isEmpty then [ref]
        else (choices s t classInterface).eraseDups := by
  unfold choicesOr
  cases choices s t classInterface with
  | nil => rfl
  | cons first later =>
    rw [List.eraseDups_cons]
    exact List.eraseDups_cons

theorem defaultWarnings_eq :
    defaultWarnings s t = match t.classInfo.defaultInterface, declaredDefault? s t with
      | some type, none => [unresolvedDefault t.qualified type.spelling]
      | _, _ => [] := by
  unfold defaultWarnings declaredDefault?
  cases t.classInfo.defaultInterface with
  | none => rfl
  | some type => cases hfound : (implemented s type).ref? <;> simp [hfound]

variable (s t classInterface) in
/-- What a class implements, in terms of its choices. -/
theorem classImplements_eq : classImplements s t classInterface =
    let said := skippedInterfaces t.qualified (t.interfaces.map (implemented s)) ++ defaultWarnings s t
    match firstChoice? s t classInterface <|> s.refs.standard? Standard.unknownIndex with
    | none => (none, said)
    | some default => (some (.ofDefault s t classInterface default),
        said ++ skippedInterfaces t.qualified (t.classInfo.sources.map (implemented s))) := by
  have hfound (types : List TypeExpr) :
      (types.map (implemented s)).filterMap Implemented.ref? = foundRefs s types := List.filterMap_map
  rw [defaultWarnings_eq, ← firstChoice?_or]
  simp only [ClassImplements.ofDefault, eraseDups_choicesOr]
  unfold classImplements
  dsimp only
  rw [hfound, hfound]
  rfl

theorem classImplements_eq_some {c : ClassImplements}
    (h : (classImplements s t classInterface).1 = some c) :
    (firstChoice? s t classInterface <|> s.refs.standard? Standard.unknownIndex) = some c.default ∧
      c = .ofDefault s t classInterface c.default := by
  rw [classImplements_eq] at h
  dsimp only at h
  split at h
  · exact nomatch h
  · next default hdefault =>
    obtain rfl := Option.some.inj h
    exact ⟨hdefault, rfl⟩

/-- The default is a choice of the class, or there are none. -/
theorem firstChoice?_cases {standard : Option TypeRef} {default : TypeRef}
    (h : (firstChoice? s t classInterface <|> standard) = some default) :
    default ∈ choices s t classInterface ∨
      choices s t classInterface = [] ∧ standard = some default := by
  unfold firstChoice? at h
  unfold choices
  cases hdeclared : declaredDefault? s t <;> cases hmade : classInterface <;>
    cases hfound : foundRefs s t.interfaces <;> simp_all

theorem mem_choicesOr_iff {standard : Option TypeRef} {default ref : TypeRef}
    (h : (firstChoice? s t classInterface <|> standard) = some default) :
    ref ∈ choicesOr default s t classInterface ↔ ref ∈ choices s t classInterface ∨
      choices s t classInterface = [] ∧ standard = some ref := by
  unfold choicesOr
  rcases firstChoice?_cases h with hmem | ⟨hnone, rfl⟩
  · have hsome := List.ne_nil_of_mem hmem
    rw [if_neg (by simpa using hsome)]
    exact (or_iff_left fun hnone => hsome hnone.1).symm
  · rw [hnone]
    simp [eq_comm]

theorem mem_choicesOr {standard : Option TypeRef} {default : TypeRef}
    (h : (firstChoice? s t classInterface <|> standard) = some default) :
    default ∈ choicesOr default s t classInterface :=
  (mem_choicesOr_iff h).mpr (firstChoice?_cases h)

/-- What a class may implement: the interface made from its members, what its declaration stands
for, and the identity contract. -/
def Available (s : Scope) (classInterface : Option Handle) (ref : TypeRef) : Prop :=
  (∃ handle ∈ classInterface, ref = .own handle) ∨ (∃ type, (implemented s type).ref? = some ref) ∨
    s.refs.standard? Standard.unknownIndex = some ref

theorem available_found {types : List TypeExpr} {ref : TypeRef} (h : ref ∈ foundRefs s types) :
    Available s classInterface ref := by
  obtain ⟨type, -, hstands⟩ := mem_foundRefs.mp h
  exact .inr (.inl ⟨type, standsFor_iff.mp hstands⟩)

theorem available_choice {ref : TypeRef} (h : ref ∈ choices s t classInterface) :
    Available s classInterface ref := by
  unfold choices at h
  rw [List.mem_append, List.mem_append, Option.mem_toList, Option.mem_toList] at h
  rcases h with (hmade | hfound) | hdeclared
  · obtain ⟨handle, hhandle, rfl⟩ := Option.map_eq_some_iff.mp hmade
    exact .inl ⟨handle, hhandle, rfl⟩
  · exact available_found hfound
  · obtain ⟨type, -, href⟩ := Option.bind_eq_some_iff.mp hdeclared
    exact .inr (.inl ⟨type, href⟩)

theorem map_ref_incoming (default : TypeRef) (refs : List TypeRef) :
    (refs.map (incoming default)).map (·.ref) = refs := by
  rw [List.map_map]
  exact List.map_id refs

theorem map_ref_outgoing (refs : List TypeRef) : (outgoing refs).map (·.ref) = refs := by
  cases refs with
  | nil => rfl
  | cons first others =>
    unfold outgoing
    rw [List.map_cons, List.map_map]
    exact congrArg _ (List.map_id others)

/-- The references of a class: its choices, and its outgoing interfaces. -/
theorem map_ref_entries {c : ClassImplements}
    (h : (classImplements s t classInterface).1 = some c) : c.entries.map (·.ref) =
      (choicesOr c.default s t classInterface).eraseDups ++ foundRefs s t.classInfo.sources := by
  rw [(classImplements_eq_some h).2, ClassImplements.ofDefault, List.map_append, map_ref_incoming,
    map_ref_outgoing]

/-- An incoming interface is marked if it is the default. -/
theorem isDefault_incoming (default ref : TypeRef) :
    (incoming default ref).isDefault = (ref == default) := by
  unfold incoming ImplementedType.isDefault
  dsimp only
  cases ref == default <;> decide

/-- Exactly one of the incoming interfaces is marked. -/
theorem countP_isDefault_incoming {refs : List TypeRef} (hnodup : refs.Nodup) {default : TypeRef}
    (hmem : default ∈ refs) :
    (refs.map (incoming default)).countP ImplementedType.isDefault = 1 := by
  have hmarked : ImplementedType.isDefault ∘ incoming default = fun ref => ref == default :=
    funext fun ref => isDefault_incoming default ref
  rw [List.countP_map, hmarked]
  exact List.count_eq_one_of_mem hnodup hmem

theorem isDefault_eq_false {ref : TypeRef} {flags : ImplementedFlags}
    (h : flags.has ImplementedFlags.source = true) :
    ¬ImplementedType.isDefault ⟨ref, flags⟩ = true := by
  unfold ImplementedType.isDefault
  rw [h, Bool.not_true, Bool.and_false]
  exact Bool.false_ne_true

theorem countP_isDefault_outgoing (refs : List TypeRef) :
    (outgoing refs).countP ImplementedType.isDefault = 0 := by
  rw [List.countP_eq_zero]
  intro e he
  cases refs with
  | nil => exact nomatch he
  | cons first others =>
    rcases List.mem_cons.mp he with rfl | he
    · exact isDefault_eq_false (by decide)
    · obtain ⟨ref, -, rfl⟩ := List.mem_map.mp he
      exact isDefault_eq_false (by decide)

/-- **A class has one default interface.** -/
theorem countP_isDefault_entries {c : ClassImplements}
    (h : (classImplements s t classInterface).1 = some c) :
    c.entries.countP ImplementedType.isDefault = 1 := by
  obtain ⟨hchoice, hc⟩ := classImplements_eq_some h
  rw [hc, ClassImplements.ofDefault, List.countP_append, countP_isDefault_outgoing,
    countP_isDefault_incoming (nodup_eraseDups _) (List.mem_eraseDups.mpr (mem_choicesOr hchoice))]

/-- The default interface is the one that is marked. -/
theorem defaultInterface_entries {c : ClassImplements}
    (h : (classImplements s t classInterface).1 = some c) :
    (c.entries.find? ImplementedType.isDefault).map (·.ref) = some c.default := by
  have hpos : 0 < c.entries.countP ImplementedType.isDefault := by
    rw [countP_isDefault_entries h]
    exact Nat.one_pos
  obtain ⟨e, he⟩ := Option.isSome_iff_exists.mp
    (List.find?_isSome.mpr (List.countP_pos_iff.mp hpos))
  have hmem := List.mem_of_find?_eq_some he
  have hmarked := List.find?_some he
  rw [(classImplements_eq_some h).2, ClassImplements.ofDefault, List.mem_append] at hmem
  rw [he, Option.map_some]
  rcases hmem with hmem | hmem
  · obtain ⟨ref, -, rfl⟩ := List.mem_map.mp hmem
    rw [isDefault_incoming] at hmarked
    rw [← beq_iff_eq.mp hmarked]
    rfl
  · exact absurd hmarked (List.countP_eq_zero.mp (countP_isDefault_outgoing _) e hmem)

theorem available_entries {c : ClassImplements}
    (h : (classImplements s t classInterface).1 = some c) :
    Available s classInterface c.default ∧ ∀ e ∈ c.entries, Available s classInterface e.ref := by
  have hchoice := (classImplements_eq_some h).1
  have havailable : ∀ ref ∈ choicesOr c.default s t classInterface,
      Available s classInterface ref := by
    intro ref href
    rcases (mem_choicesOr_iff hchoice).mp href with hmem | ⟨-, hstandard⟩
    · exact available_choice hmem
    · exact .inr (.inr hstandard)
  refine ⟨havailable _ (mem_choicesOr hchoice), fun e he => ?_⟩
  have href : e.ref ∈ c.entries.map (·.ref) := List.mem_map_of_mem he
  rw [map_ref_entries h, List.mem_append, List.mem_eraseDups] at href
  exact href.elim (havailable _) available_found

/-! ## Targets -/

theorem implemented_resolves (h : s.refs.Resolves d) {type : TypeExpr} {ref : TypeRef}
    (href : (implemented s type).ref? = some ref) : d.resolves ref = true := by
  cases standsFor_iff.mpr href with
  | own hown => exact (h.own? hown).1
  | external hexternal => exact (h.external? hexternal).1

theorem Available.resolves (h : s.refs.Resolves d) {ref : TypeRef}
    (havailable : Available s classInterface ref)
    (hinterface : ∀ handle ∈ classInterface, d.resolves (.own handle) = true) :
    d.resolves ref = true := by
  rcases havailable with ⟨handle, hhandle, rfl⟩ | ⟨type, href⟩ | href
  · exact hinterface handle hhandle
  · exact implemented_resolves h href
  · exact h.standard? (by decide) href

theorem standardBase_lt (binding : Binding) :
    binding.standardBase < Standard.library.typeNames.length := by
  cases binding <;> decide

theorem interfaceBase?_resolves {refs : ReferenceTable} (h : refs.Resolves d) {owner : TypeDecl}
    {binding : Binding} {base : BaseInterface} (hbase : interfaceBase? refs owner binding = some base) :
    d.resolves base.ref = true := by
  unfold interfaceBase? at hbase
  dsimp only at hbase
  rw [Option.orElse_eq_orElse, Option.orElse_eq_or, Option.or_eq_some_iff] at hbase
  rcases hbase with hown | ⟨-, hstandard⟩
  · split at hown
    · split at hown
      · next ref href =>
        split at hown
        · obtain rfl := Option.some.inj hown
          exact (h.own? href).1
        · exact nomatch hown
      · exact nomatch hown
    · exact nomatch hown
  · obtain ⟨ref, href, rfl⟩ := Option.map_eq_some_iff.mp hstandard
    exact h.standard? (standardBase_lt binding) href

/-! ## Default interfaces -/

theorem ReferenceTable.Resolves.setDefault {refs : ReferenceTable} (h : refs.Resolves d) (id : TypeId)
    {default : TypeRef} (hdefault : d.resolves default = true) :
    (refs.setDefault id default).Resolves d where
  standard := h.standard
  own := by
    rintro ⟨key, ref⟩ he
    obtain ⟨⟨key', ref'⟩, he', heq⟩ := List.mem_map.mp he
    dsimp only at heq
    split at heq
    · obtain ⟨-, rfl⟩ := Prod.mk.inj heq
      refine ⟨(h.own _ he').1, ?_⟩
      rintro _ ⟨rfl⟩
      exact hdefault
    · obtain ⟨-, rfl⟩ := Prod.mk.inj heq
      exact h.own (key', _) he'
  external := h.external

/-- The default interfaces of classes have targets. -/
theorem ReferenceTable.Resolves.withDefaults {scope : Scope} (h : scope.refs.Resolves d)
    {placed : List Placed}
    (hinterfaces : ∀ p ∈ placed, ∀ c ∈ p.classInterface, d.resolves (.own c.handle) = true) :
    (withDefaults scope placed).Resolves d := by
  have hdefault : ∀ p ∈ placed, ∀ default ∈ p.default? scope, d.resolves default = true := by
    intro p hp default hdefault
    unfold Placed.default? at hdefault
    split at hdefault
    · obtain ⟨c, hc, rfl⟩ := Option.map_eq_some_iff.mp hdefault
      refine (available_entries hc).1.resolves h fun handle hhandle => ?_
      obtain ⟨i, hi, rfl⟩ := Option.map_eq_some_iff.mp hhandle
      exact hinterfaces p hp i hi
    · exact nomatch hdefault
    · exact nomatch hdefault
    · exact nomatch hdefault
  unfold Export.withDefaults
  generalize scope.refs = refs at h
  clear hinterfaces
  induction placed generalizing refs with
  | nil => exact h
  | cons p later ih =>
    obtain ⟨hfirst, hlater⟩ := List.forall_mem_cons.mp hdefault
    rw [List.foldl_cons]
    refine ih hlater _ ?_
    cases hp : p.default? scope with
    | none => exact h
    | some default => exact h.setDefault p.type.id (hfirst default hp)

end Automation.Export
