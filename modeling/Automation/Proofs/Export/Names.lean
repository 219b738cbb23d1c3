import Automation.Export.NamedType
import Automation.Proofs.FirstFree
import Automation.Proofs.NameKeys
import Mathlib.Data.List.Perm.Basic

/-!
# The names of a library are apart

Types register their names first (`Sound`), and class interfaces and constants reserve theirs
afterwards (`Reserves`). `named_apart` says that all of them differ, whatever the case, and that no
type is left without a name.
-/

namespace Automation.Export

open Source

namespace NameRegistry

/-! ## Names in use -/

/-- The names in use, as they are compared. -/
def keys (r : NameRegistry) : List String := r.uses.map (·.1)

variable {r r' r'' : NameRegistry}

theorem isTaken_iff {name : String} : r.isTaken name = true ↔ Text.nameKey name ∈ r.keys := by
  unfold isTaken keys
  rw [List.lookup_isSome_iff, List.mem_map]
  refine exists_congr fun use => and_congr_right fun _ => ?_
  rw [beq_iff_eq, eq_comm]

/-- A name that is looked for is free. -/
theorem nameKey_freeName (r : NameRegistry) (wanted : String) :
    Text.nameKey (r.freeName wanted) ∉ r.keys := by
  unfold freeName
  dsimp only
  have hfree := @not_taken_firstFree (fun n => r.isTaken (Text.numbered wanted n))
    (r.uses.length + 1) 1 _ (fun n => Text.nameKey (Text.numbered wanted n)) r.keys
    (fun n _ htaken => isTaken_iff.mp htaken)
    (fun m n hm hn hkey => Text.nameKey_numbered_inj wanted hm hn hkey)
    (by rw [keys, List.length_map]; omega)
  exact fun hmem => Bool.eq_false_iff.mp hfree (isTaken_iff.mpr hmem)

/-! ## Types -/

/-- The names of types are in use, and different types have different ones. -/
structure Sound (r : NameRegistry) : Prop where
  taken : ∀ {id : TypeId} {name : String}, r.typeName? id = some name → Text.nameKey name ∈ r.keys
  apart : ∀ {id id' : TypeId} {name name' : String}, r.typeName? id = some name →
    r.typeName? id' = some name' → Text.nameKey name = Text.nameKey name' → id = id'

/-- Types that have a name keep one. -/
def Keeps (r r' : NameRegistry) : Prop :=
  ∀ id, (r.typeName? id).isSome → (r'.typeName? id).isSome

theorem sound_empty : Sound {} := ⟨fun h => (nomatch h), fun h => (nomatch h)⟩

theorem Sound.record (h : Sound r) (name : String) (use : NameUse) : Sound (r.record name use) :=
  ⟨fun hname => List.mem_cons_of_mem _ (h.taken hname), h.apart⟩

/-- A type gets a name that is not in use. -/
theorem Sound.assign (h : Sound r) {id : TypeId} {name : String} (hnew : Text.nameKey name ∉ r.keys)
    (hkeys : r'.keys = Text.nameKey name :: r.keys)
    (hassigned : r'.assigned = (id, name) :: r.assigned) :
    Sound r' ∧ Keeps r r' ∧ (r'.typeName? id).isSome := by
  have hname : ∀ other, r'.typeName? other = if other = id then some name else r.typeName? other := by
    intro other
    unfold typeName?
    rw [hassigned, List.lookup_cons]
    by_cases hother : other = id
    · simp [hother]
    · rw [if_neg hother, beq_false_of_ne hother]
  refine ⟨⟨fun {other} n hn => ?_, fun {a b} n n' ha hb hkey => ?_⟩, fun other hother => ?_, ?_⟩
  · rw [hname] at hn
    rw [hkeys]
    split at hn
    · obtain rfl := Option.some.inj hn
      exact List.mem_cons_self
    · exact List.mem_cons_of_mem _ (h.taken hn)
  · rw [hname] at ha hb
    split at ha <;> split at hb
    · next ha' hb' => rw [ha', hb']
    · obtain rfl := Option.some.inj ha
      exact (hnew (hkey ▸ h.taken hb)).elim
    · obtain rfl := Option.some.inj hb
      exact (hnew (hkey ▸ h.taken ha)).elim
    · exact h.apart ha hb hkey
  · rw [hname]
    split
    · rfl
    · exact hother
  · rw [hname, if_pos rfl]
    rfl

theorem Sound.rename (h : Sound r) (c : Candidate) :
    Sound (r.rename c).1 ∧ Keeps r (r.rename c).1 ∧ ((r.rename c).1.typeName? c.id).isSome :=
  h.assign (r.nameKey_freeName c.prefixed) rfl rfl

theorem Keeps.trans (h : Keeps r r') (h' : Keeps r' r'') : Keeps r r'' := fun id hid =>
  h' id (h id hid)

/-- A further type gets a name, and no two types get the same one. -/
theorem Sound.addType (h : Sound r) (c : Candidate) :
    Sound (r.addType c).1 ∧ Keeps r (r.addType c).1 ∧ ((r.addType c).1.typeName? c.id).isSome := by
  unfold NameRegistry.addType
  split
  · next hnone =>
    refine h.assign (fun hmem => ?_) rfl rfl
    have htaken := isTaken_iff.mpr hmem
    unfold isTaken at htaken
    rw [hnone] at htaken
    exact Bool.noConfusion htaken
  · next holder _ =>
    obtain ⟨hfirst, hkeeps, -⟩ := (h.record c.name .contested).rename holder
    obtain ⟨hsecond, hkeeps', hsome⟩ := hfirst.rename c
    exact ⟨hsecond, Keeps.trans hkeeps hkeeps', hsome⟩
  · exact h.rename c
  · exact h.rename c

/-! ## What goes with the types -/

/-- The names with these keys were reserved: they are apart, and none was in use. -/
structure Reserves (r r' : NameRegistry) (reserved : List String) : Prop where
  nodup : reserved.Nodup
  fresh : ∀ key ∈ reserved, key ∉ r.keys
  keys : ∀ key, key ∈ r'.keys ↔ key ∈ reserved ∨ key ∈ r.keys
  assigned : r'.assigned = r.assigned

theorem reserves_nil (r : NameRegistry) : Reserves r r [] :=
  ⟨.nil, fun _ h => (nomatch h), fun _ => by simp, rfl⟩

theorem Reserves.append {reserved reserved' : List String} (h : Reserves r r' reserved)
    (h' : Reserves r' r'' reserved') : Reserves r r'' (reserved ++ reserved') where
  nodup := List.nodup_append.mpr ⟨h.nodup, h'.nodup, fun key hkey key' hkey' hsame =>
    h'.fresh key' hkey' ((h.keys key').mpr (.inl (hsame ▸ hkey)))⟩
  fresh key hkey := by
    rcases List.mem_append.mp hkey with hkey | hkey
    · exact h.fresh key hkey
    · exact fun hmem => h'.fresh key hkey ((h.keys key).mpr (.inr hmem))
  keys key := by
    rw [h'.keys, h.keys, List.mem_append, or_left_comm, or_assoc]
  assigned := h'.assigned.trans h.assigned

theorem reserves_reserve (r : NameRegistry) (subject wanted : String) (code : Diagnostic.Code) :
    Reserves r (r.reserve subject wanted code).2.1
      [Text.nameKey (r.reserve subject wanted code).1] where
  nodup := List.pairwise_singleton _ _
  fresh key hkey := by
    rw [List.mem_singleton.mp hkey]
    exact r.nameKey_freeName wanted
  keys key := by
    rw [List.mem_singleton]
    exact List.mem_cons
  assigned := rfl

end NameRegistry

open NameRegistry

/-- The keys of names, as far as there are any. -/
def keysOf (names : List (Option String)) : List String := (names.filterMap id).map Text.nameKey

theorem reserves_constants (resolver : Resolver) (owner : TypeDecl) (enumName : String)
    (r : NameRegistry) (constants : List EnumConstant) :
    Reserves r (reserveConstants resolver owner enumName r constants).2.1
      (keysOf (reserveConstants resolver owner enumName r constants).1) := by
  induction constants generalizing r with
  | nil => exact reserves_nil r
  | cons c later ih =>
    unfold reserveConstants
    split
    · exact (reserves_reserve r _ _ _).append (ih _)
    · exact ih r

theorem reserves_classInterface (r : NameRegistry) (c : Classified) (name : String) :
    Reserves r (reserveClassInterface r c name).2.1
      (keysOf [(reserveClassInterface r c name).1]) := by
  unfold reserveClassInterface
  split
  · exact reserves_reserve r c.decl.qualified ("_" ++ name) .typeRenamed
  · exact reserves_nil r

theorem reserves_nameConstants (resolver : Resolver) (r : NameRegistry) (t : TypeDecl) :
    Reserves r (nameConstants resolver r t).2.1 (keysOf (nameConstants resolver r t).1) := by
  unfold nameConstants
  split
  · exact reserves_constants _ _ _ r _
  · exact reserves_nil r

/-! ## All names -/

theorem sound_registerTypes (resolver : Resolver) {r : NameRegistry} (h : Sound r)
    (classified : List Classified) :
    Sound (registerTypes resolver r classified).1 ∧
      Keeps r (registerTypes resolver r classified).1 ∧
      ∀ c ∈ classified, ((registerTypes resolver r classified).1.typeName? c.id).isSome := by
  induction classified generalizing r with
  | nil => exact ⟨h, fun _ hid => hid, fun _ hc => (nomatch hc)⟩
  | cons c later ih =>
    obtain ⟨hsound, hkeeps, hsome⟩ := h.addType (c.candidate resolver)
    obtain ⟨hsound', hkeeps', hlater⟩ := ih hsound
    exact ⟨hsound', hkeeps.trans hkeeps', List.forall_mem_cons.mpr ⟨hkeeps' _ hsome, hlater⟩⟩

theorem keysOf_append (names names' : List (Option String)) :
    keysOf (names ++ names') = keysOf names ++ keysOf names' := by
  unfold keysOf
  rw [List.filterMap_append, List.map_append]

/-- The names of what goes with a type. -/
def NamedType.extras (n : NamedType) : List (Option String) := n.classInterface :: n.constants

/-- All names that a type brings along, as they are compared. -/
def NamedType.keys (n : NamedType) : List String :=
  keysOf (n.classInterface :: some n.name :: n.constants)

/-- Types that have registered get their names, and what goes with them gets others. -/
theorem reserves_nameRegistered (resolver : Resolver) {r : NameRegistry}
    {classified : List Classified} (h : ∀ c ∈ classified, (r.typeName? c.id).isSome) :
    (∀ e, Step.abort e ∉ (nameRegistered resolver r classified).2) ∧
      (nameRegistered resolver r classified).1.map (·.type) = classified ∧
      (∀ n ∈ (nameRegistered resolver r classified).1, r.typeName? n.type.id = some n.name) ∧
      ∃ r', Reserves r r'
        (keysOf ((nameRegistered resolver r classified).1.flatMap NamedType.extras)) := by
  induction classified generalizing r with
  | nil => exact ⟨fun _ h => (nomatch h), rfl, fun _ h => (nomatch h), r, reserves_nil r⟩
  | cons c later ih =>
    obtain ⟨⟨name, hname⟩, hlater⟩ :=
      (List.forall_mem_cons.mp h).imp Option.isSome_iff_exists.mp id
    have hinterface := reserves_classInterface r c name
    have hconstants := reserves_nameConstants resolver (reserveClassInterface r c name).2.1 c.decl
    have hassigned := (hinterface.append hconstants).assigned
    have hnames : ∀ other, (nameConstants resolver (reserveClassInterface r c name).2.1
        c.decl).2.1.typeName? other = r.typeName? other := fun other => by
      unfold typeName?
      rw [hassigned]
    obtain ⟨habort, htypes, hnamed, r', hreserves⟩ := ih fun c' hc' => by
      rw [hnames]
      exact hlater c' hc'
    unfold nameRegistered
    simp only [hname]
    refine ⟨fun e he => ?_, ?_, List.forall_mem_cons.mpr ⟨hname, fun n hn => ?_⟩, r', ?_⟩
    · rcases List.mem_append.mp he with he | he
      · obtain ⟨remark, -, hstep⟩ := List.mem_map.mp he
        exact Step.noConfusion hstep
      · exact habort e he
    · rw [List.map_cons, htypes]
    · rw [← hnames]
      exact hnamed n hn
    · rw [List.flatMap_cons, keysOf_append]
      have hkeys : keysOf (NamedType.extras ⟨c, name, (reserveClassInterface r c name).1,
          (nameConstants resolver (reserveClassInterface r c name).2.1 c.decl).1⟩) =
            keysOf [(reserveClassInterface r c name).1] ++
              keysOf (nameConstants resolver (reserveClassInterface r c name).2.1 c.decl).1 :=
        keysOf_append [_] _
      rw [hkeys]
      exact (hinterface.append hconstants).append hreserves

theorem keys_perm (n : NamedType) :
    n.keys.Perm ([Text.nameKey n.name] ++ keysOf n.extras) := by
  unfold NamedType.keys NamedType.extras
  cases n.classInterface with
  | none => exact .refl _
  | some name => exact .swap _ _ _

theorem flatMap_keys_perm (named : List NamedType) :
    (named.flatMap NamedType.keys).Perm
      (named.map (fun n => Text.nameKey n.name) ++ keysOf (named.flatMap NamedType.extras)) := by
  have hextras : keysOf (named.flatMap NamedType.extras) =
      named.flatMap fun n => keysOf n.extras := by
    unfold keysOf
    rw [List.filterMap_flatMap, List.map_flatMap]
  rw [hextras, List.map_eq_flatMap]
  exact (List.Perm.flatMap_left _ fun n _ => keys_perm n).trans
    (List.flatMap_append_perm named _ _).symm

/-- No type is left without a name. -/
theorem map_type_nameTypes (resolver : Resolver) (classified : List Classified) :
    (nameTypes resolver classified).1.map (·.type) = classified := by
  obtain ⟨-, -, hsome⟩ := sound_registerTypes resolver sound_empty classified
  exact (reserves_nameRegistered resolver hsome).2.1

/-- Naming is not stopped, as every type has registered. -/
theorem abort_notMem_nameTypes (resolver : Resolver) (classified : List Classified)
    (e : ExportError) : Step.abort e ∉ (nameTypes resolver classified).2 := by
  obtain ⟨-, -, hsome⟩ := sound_registerTypes resolver sound_empty classified
  intro he
  rcases List.mem_append.mp he with he | he
  · obtain ⟨remark, -, hstep⟩ := List.mem_map.mp he
    exact Step.noConfusion hstep
  · exact (reserves_nameRegistered resolver hsome).1 e he

/-- **The names of a library are apart**, those of types, of class interfaces and of constants. No
type is left without a name. -/
theorem named_apart (resolver : Resolver) {classified : List Classified}
    (hids : (classified.map (·.id)).Nodup) :
    (∀ e, Step.abort e ∉ (nameTypes resolver classified).2) ∧
      (nameTypes resolver classified).1.map (·.type) = classified ∧
      ((nameTypes resolver classified).1.flatMap NamedType.keys).Nodup := by
  obtain ⟨hsound, -, hsome⟩ := sound_registerTypes resolver sound_empty classified
  obtain ⟨-, htypes, hnamed, r', hreserves⟩ := reserves_nameRegistered resolver hsome
  refine ⟨abort_notMem_nameTypes resolver classified, htypes, ?_⟩
  unfold nameTypes
  dsimp only
  generalize (nameRegistered resolver (registerTypes resolver {} classified).1 classified).1 =
    named at *
  rw [(flatMap_keys_perm named).nodup_iff]
  refine List.nodup_append.mpr ⟨?_, hreserves.nodup, fun key hkey key' hkey' hsame => ?_⟩
  · rw [← htypes, List.map_map] at hids
    refine List.pairwise_map.mpr ((List.pairwise_map.mp hids).imp_of_mem ?_)
    intro n n' hn hn' hne hkey
    exact hne (hsound.apart (hnamed n hn) (hnamed n' hn') hkey)
  · obtain ⟨n, hn, rfl⟩ := List.mem_map.mp hkey
    exact hreserves.fresh _ hkey' (hsame ▸ hsound.taken (hnamed n hn))

end Automation.Export
