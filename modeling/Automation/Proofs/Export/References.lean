import Automation.Export.Exporter

/-!
# Where references find their targets

The entries that a reference table has for the types of the unit are those of the placed types
(`own?_ownReferences`). The classes get their default interfaces later, and nothing else changes:
what the types derive from stays the same (`base?_withDefaults`).
-/

namespace Automation.Export

open Library Source

/-! ## Lists of entries -/

theorem mem_of_lookup {α β : Type} [BEq α] [LawfulBEq α] {entries : List (α × β)} {key : α} {value : β}
    (h : entries.lookup key = some value) : (key, value) ∈ entries := by
  induction entries with
  | nil => simp at h
  | cons entry later ih =>
    rcases entry with ⟨other, v⟩
    by_cases hkey : key = other
    · subst hkey
      obtain rfl : v = value := by simpa using h
      exact List.mem_cons_self
    · rw [List.lookup_cons, beq_false_of_ne hkey] at h
      exact List.mem_cons_of_mem _ (ih h)

theorem lookup_map_snd {α β γ : Type} [BEq α] [LawfulBEq α] (entries : List (α × β)) (f : α → β → γ)
    (key : α) :
    (entries.map fun entry => (entry.1, f entry.1 entry.2)).lookup key =
      (entries.lookup key).map (f key) := by
  induction entries with
  | nil => rfl
  | cons entry later ih =>
    rcases entry with ⟨other, v⟩
    rw [List.map_cons, List.lookup_cons, List.lookup_cons, ih]
    by_cases hkey : key = other
    · subst hkey
      simp
    · simp [beq_false_of_ne hkey]

/-! ## The types of the unit -/

variable {placed : List Placed} {standard : Option ImportId} {scope : Scope}

/-- The entry of a placed type. -/
def Placed.entry (p : Placed) : TypeId × LocalRef :=
  (p.type.id, { handle := p.handle, target := p.type.target })

theorem ownReferences_eq : ownReferences placed standard =
    { own := (placed.map Placed.entry).reverse, standard := standard } := by
  have hfold : ∀ (later : List Placed) (refs : ReferenceTable),
      later.foldl (fun refs p => refs.insertOwn p.type.id
        { handle := p.handle, target := p.type.target }) refs =
        { refs with own := (later.map Placed.entry).reverse ++ refs.own } := by
    intro later
    induction later with
    | nil => intro refs; rfl
    | cons p later ih =>
      intro refs
      rw [List.foldl_cons, ih]
      simp [ReferenceTable.insertOwn, Placed.entry]
  unfold ownReferences
  rw [hfold, List.append_nil]

/-- **What a type of the unit stands for is a placed type.** -/
theorem own?_ownReferences {id : TypeId} {ref : LocalRef}
    (h : (ownReferences placed standard).own? id = some ref) :
    ∃ p ∈ placed, p.type.id = id ∧ ref = { handle := p.handle, target := p.type.target } := by
  unfold ReferenceTable.own? at h
  rw [ownReferences_eq] at h
  obtain ⟨p, hp, hentry⟩ := List.mem_map.mp (List.mem_reverse.mp (mem_of_lookup h))
  obtain ⟨hid, href⟩ := Prod.mk.inj hentry
  exact ⟨p, hp, hid, href.symm⟩

/-! ## Default interfaces -/

theorem own?_setDefault (refs : ReferenceTable) (id key : TypeId) (default : TypeRef) :
    (refs.setDefault id default).own? key =
      (refs.own? key).map fun ref =>
        if key = id then { ref with default := some default } else ref := by
  refine Eq.trans (congrArg (List.lookup key) (List.map_congr_left fun entry _ => ?_))
    (lookup_map_snd refs.own
      (fun k ref => if k = id then { ref with default := some default } else ref) key)
  rcases entry with ⟨k, ref⟩
  by_cases hk : k = id <;> simp [hk]

/-- The tables are equal up to default interfaces. -/
structure UpToDefaults (refs refs' : ReferenceTable) : Prop where
  standard : refs'.standard = refs.standard
  external : refs'.external = refs.external
  own : ∀ id, (refs'.own? id).map (fun ref => (ref.handle, ref.target)) =
    (refs.own? id).map fun ref => (ref.handle, ref.target)

theorem UpToDefaults.trans {refs refs' refs'' : ReferenceTable} (h : UpToDefaults refs refs')
    (h' : UpToDefaults refs' refs'') : UpToDefaults refs refs'' where
  standard := h'.standard.trans h.standard
  external := h'.external.trans h.external
  own id := (h'.own id).trans (h.own id)

theorem upToDefaults_setDefault (refs : ReferenceTable) (id : TypeId) (default : TypeRef) :
    UpToDefaults refs (refs.setDefault id default) where
  standard := rfl
  external := rfl
  own key := by
    rw [own?_setDefault, Option.map_map]
    refine Option.map_congr fun ref _ => ?_
    by_cases hkey : key = id <;> simp [hkey]

theorem upToDefaults_withDefaults (scope : Scope) (placed : List Placed) :
    UpToDefaults scope.refs (withDefaults scope placed) := by
  unfold withDefaults
  generalize hrefs : scope.refs = refs
  clear hrefs
  induction placed generalizing refs with
  | nil => exact ⟨rfl, rfl, fun _ => rfl⟩
  | cons p later ih =>
    rw [List.foldl_cons]
    cases p.default? scope with
    | none => exact ih refs
    | some default => exact (upToDefaults_setDefault refs p.type.id default).trans (ih _)

/-- Default interfaces do not matter to the types of other units. -/
theorem external?_withDefaults (scope : Scope) (placed : List Placed) (type : ExternalType) :
    (withDefaults scope placed).external? type = scope.refs.external? type :=
  congrArg (List.lookup _) (upToDefaults_withDefaults scope placed).external

/-- Default interfaces do not matter to the standard library. -/
theorem standard?_withDefaults (scope : Scope) (placed : List Placed) (index : Nat) :
    (withDefaults scope placed).standard? index = scope.refs.standard? index :=
  congrArg (Option.map _) (upToDefaults_withDefaults scope placed).standard

theorem UpToDefaults.own?_eq_some {refs refs' : ReferenceTable} (h : UpToDefaults refs refs')
    {id : TypeId} {ref : LocalRef} (href : refs'.own? id = some ref) :
    ∃ ref', refs.own? id = some ref' ∧ ref.handle = ref'.handle ∧ ref.target = ref'.target := by
  have hown := h.own id
  rw [href] at hown
  cases hr : refs.own? id with
  | none =>
    rw [hr] at hown
    exact Option.noConfusion rfl (heq_of_eq hown)
  | some ref' =>
    rw [hr] at hown
    obtain ⟨hhandle, htarget⟩ := Prod.mk.inj (Option.some.inj hown)
    exact ⟨ref', rfl, hhandle, htarget⟩

theorem UpToDefaults.own?_eq_none {refs refs' : ReferenceTable} (h : UpToDefaults refs refs')
    {id : TypeId} (href : refs'.own? id = none) : refs.own? id = none := by
  have hown := h.own id
  rw [href] at hown
  exact Option.map_eq_none_iff.mp hown.symm

theorem UpToDefaults.interfaceBase? {refs refs' : ReferenceTable} (h : UpToDefaults refs refs')
    (owner : TypeDecl) (binding : Binding) :
    interfaceBase? refs' owner binding = interfaceBase? refs owner binding := by
  unfold Export.interfaceBase? ReferenceTable.standard?
  rw [h.standard]
  dsimp only
  split
  · next id _ =>
    cases href : refs'.own? id with
    | none => rw [h.own?_eq_none href]
    | some ref =>
      obtain ⟨ref', href', hhandle, htarget⟩ := h.own?_eq_some href
      simp only [href', hhandle, htarget]
  · rfl

/-- What a placed type derives from does not depend on default interfaces. -/
theorem base?_withDefaults (p : Placed) :
    p.base? (withDefaults scope placed) = p.base? scope.refs := by
  unfold Placed.base?
  cases p.type.target.binding? with
  | none => rfl
  | some binding =>
    exact (upToDefaults_withDefaults scope placed).interfaceBase? p.type.decl binding

/-- A placed type derives from an interface of the unit, the first that it declares, or from an
imported contract. -/
theorem base?_eq_some {refs : ReferenceTable} {p : Placed} {base : BaseInterface}
    (h : p.base? refs = some base) :
    (∃ id ref binding, base = .own id ref.handle ∧ p.type.decl.interfaces.head? = some (.named id) ∧
      refs.own? id = some ref ∧ ref.target = .interface binding) ∨
      ∃ id index, base = .standard (.imported id index) ∧ refs.standard = some id := by
  obtain ⟨binding, -, hbase⟩ := Option.bind_eq_some_iff.mp h
  unfold interfaceBase? at hbase
  dsimp only at hbase
  rw [Option.orElse_eq_orElse, Option.orElse_eq_or, Option.or_eq_some_iff] at hbase
  rcases hbase with hown | ⟨-, hstandard⟩
  · split at hown
    · next id hhead =>
      split at hown
      · next ref href =>
        split at hown
        · next htarget =>
          exact .inl ⟨id, ref, binding, (Option.some.inj hown).symm, hhead, href, htarget⟩
        · exact nomatch hown
      · exact nomatch hown
    · exact nomatch hown
  · obtain ⟨ref, href, rfl⟩ := Option.map_eq_some_iff.mp hstandard
    obtain ⟨id, hid, rfl⟩ := Option.map_eq_some_iff.mp href
    exact .inr ⟨id, binding.standardBase, rfl, hid⟩

end Automation.Export
