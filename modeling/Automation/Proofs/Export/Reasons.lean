import Automation.Proofs.Export.Rejections

/-!
# What stops a run

Whatever the builder answers, a run is stopped for one of a few reasons: `reason_run` lists them.
Types that get their places get identifiers that differ, and the imports cover what the scan has found
(`ensures_placeTypes_inPlace`), so the passes that follow miss neither a place nor the standard library.
-/

namespace Automation.Export

open Library Source

variable {World Draft Committed : Type} (b : Builder World Draft Committed)
  {p : Progress World Draft Committed}

/-! ## Requests and scripts -/

/-- The builder rejected a request. -/
def ExportError.IsRejection (e : ExportError) : Prop := ∃ context cause, e = .build context cause

theorem ensures_request_rejected (context : String) {kind : ReplyKind} (r : Request kind) :
    Ensures (request b context r) p (fun _ _ => True) fun e _ => e.IsRejection :=
  ensures_request (fun _ _ _ _ => trivial) fun error _ _ _ => ⟨context, error, rfl⟩

/-- A script ends where it says so, or where the builder rejects a request. -/
theorem ensures_perform_aborted (steps : List Step) :
    Ensures (perform b steps) p (fun _ _ => True)
      fun e _ => e.IsRejection ∨ Step.abort e ∈ steps := by
  induction steps generalizing p with
  | nil => exact ensures_pure trivial
  | cons step later ih =>
    have hlater : ∀ q : Progress World Draft Committed, Ensures (perform b later) q (fun _ _ => True)
        fun e _ => e.IsRejection ∨ Step.abort e ∈ step :: later := fun q =>
      ih.imp (fun _ _ h => h) fun _ _ h => h.imp_right (List.mem_cons_of_mem _)
    cases step with
    | remark r =>
      exact Ensures.bind (ensures_remark trivial : Ensures _ p (fun _ _ => True) _)
        fun _ q _ => hlater q
    | request context r =>
      exact Ensures.bind ((ensures_request_rejected b context r).imp (fun _ _ h => h)
        fun _ _ => .inl) fun _ q _ => hlater q
    | abort e => exact ensures_throw (.inr List.mem_cons_self)

/-! ## Identifiers -/

/-- The identifiers in use once further ones are taken. -/
def taken (guids : List Guid) (uses : GuidUses) : List Guid := guids.reverse ++ uses.map (·.1)

theorem taken_append (first second : List Guid) (uses : GuidUses) :
    taken (first ++ second) uses = second.reverse ++ taken first uses := by
  unfold taken
  rw [List.reverse_append, List.append_assoc]

/-- Identifiers are taken one after another. -/
theorem taken_taken {first : List Guid} {uses uses' : GuidUses}
    (h : uses'.map (·.1) = taken first uses) (second : List Guid) :
    taken second uses' = taken (first ++ second) uses := by
  rw [taken_append, ← h]
  rfl

theorem nodup_taken_nil {guids : List Guid} : (taken guids []).Nodup ↔ guids.Nodup := by
  rw [taken, List.map_nil, List.append_nil, List.nodup_reverse]

/-- Why types do not get their places: the builder rejects a request, or identifiers that were to be
taken are not all different. -/
def Unplaced (guids : List Guid) (uses : GuidUses) (e : ExportError) : Prop :=
  e.IsRejection ∨
    (∃ guid first second, e = .duplicateType guid first second) ∧ ¬(taken guids uses).Nodup

theorem Unplaced.append {first : List Guid} {uses : GuidUses} {e : ExportError}
    (h : Unplaced first uses e) (second : List Guid) : Unplaced (first ++ second) uses e := by
  refine h.imp_right fun ⟨hduplicate, hnodup⟩ => ⟨hduplicate, fun hall => hnodup ?_⟩
  rw [taken_append] at hall
  exact hall.of_append_right

/-- The identifiers that a named type takes. -/
def NamedType.guids (n : NamedType) : List Guid := n.places.map (·.guid)

theorem ensures_createType_taken (version : Version) {uses : GuidUses} (place : Placeholder)
    (huses : (uses.map (·.1)).Nodup) :
    Ensures (createType b version uses place) p
      (fun a _ => a.2.map (·.1) = taken [place.guid] uses ∧ (taken [place.guid] uses).Nodup)
      fun e _ => Unplaced [place.guid] uses e := by
  have hrequest : ∀ (q : Progress World Draft Committed) {kind : ReplyKind} (r : Request kind),
      Ensures (request b (typeContext place.name) r) q (fun _ _ => True)
        fun e _ => Unplaced [place.guid] uses e := fun q _ r =>
    (ensures_request_rejected b _ r).imp (fun _ _ h => h) fun _ _ => .inl
  unfold createType
  split
  · next first hfirst =>
    refine ensures_throw (.inr ⟨⟨_, _, _, rfl⟩, fun hnodup => ?_⟩)
    exact (List.nodup_cons.mp hnodup).1 (List.mem_map_of_mem (mem_of_lookup hfirst))
  · next hunused =>
    have hnodup : (taken [place.guid] uses).Nodup := by
      refine List.nodup_cons.mpr ⟨fun hmem => ?_, huses⟩
      obtain ⟨use, huse, hsame⟩ := List.mem_map.mp hmem
      have := List.lookup_eq_none_iff.mp hunused use huse
      simp [hsame] at this
    refine Ensures.bind (hrequest _ _) fun handle q₁ _ => ?_
    refine Ensures.bind (hrequest _ _) fun _ q₂ _ => ?_
    refine Ensures.bind (hrequest _ _) fun _ q₃ _ => ?_
    refine Ensures.bind (hrequest _ _) fun _ q₄ _ => ?_
    split
    · exact Ensures.bind (hrequest _ _) fun _ _ _ => ensures_pure ⟨rfl, hnodup⟩
    · exact ensures_pure ⟨rfl, hnodup⟩

/-- The interface made from the members of a class gets its place, if there is one. -/
theorem ensures_createClassInterface_taken (version : Version) {uses : GuidUses} (n : NamedType)
    (huses : (uses.map (·.1)).Nodup) :
    Ensures (createClassInterface b version uses n) p
      (fun a _ =>
        (a.1.toList.map fun c => classPlaceholder n.type c.name c.binding) = n.interfacePlaces ∧
          (∀ c ∈ a.1, n.type.target.classInterface? = some c.binding) ∧
          a.2.map (·.1) = taken (n.interfacePlaces.map (·.guid)) uses ∧
          (taken (n.interfacePlaces.map (·.guid)) uses).Nodup)
      fun e _ => Unplaced (n.interfacePlaces.map (·.guid)) uses e := by
  unfold createClassInterface
  split
  · next binding name htarget hname =>
    have hplaces : n.interfacePlaces = [classPlaceholder n.type name binding] := by
      simp [NamedType.interfacePlaces, htarget, hname]
    rw [hplaces]
    refine (ensures_createType_taken b version _ huses).bind ?_
    rintro ⟨handle, uses'⟩ q ⟨htaken, hnodup⟩
    exact ensures_pure ⟨rfl, by simpa using htarget, htaken, hnodup⟩
  · next hneither =>
    have hnone : n.interfacePlaces = [] := by
      unfold NamedType.interfacePlaces
      split
      · next binding name htarget hname => exact (hneither binding name htarget hname).elim
      · rfl
    rw [hnone]
    exact ensures_pure ⟨rfl, by simp, rfl, huses⟩

/-- **Types get their places if their identifiers differ**, and only then. -/
theorem ensures_createTypes_taken (version : Version) {uses : GuidUses} (named : List NamedType)
    (huses : (uses.map (·.1)).Nodup) :
    Ensures (createTypes b version uses named) p
      (fun placed _ => List.Forall₂ PlacedAs named placed ∧
        (taken (named.flatMap NamedType.guids) uses).Nodup)
      fun e _ => Unplaced (named.flatMap NamedType.guids) uses e := by
  induction named generalizing p uses with
  | nil => exact ensures_pure ⟨.nil, huses⟩
  | cons n later ih =>
    have hguids : (n :: later).flatMap NamedType.guids = n.interfacePlaces.map (·.guid) ++
        ([(typePlaceholder n.type n.name).guid] ++ later.flatMap NamedType.guids) := by
      simp [NamedType.guids, NamedType.places]
    rw [hguids]
    unfold createTypes
    refine Ensures.bind ((ensures_createClassInterface_taken b version n huses).imp
      (fun _ _ h => h) fun _ _ h => h.append _) ?_
    rintro ⟨classInterface, uses₁⟩ q₁ ⟨hplaces, hbinding, htaken₁, hnodup₁⟩
    rw [← htaken₁] at hnodup₁
    simp only [Unplaced, ← taken_taken htaken₁]
    refine Ensures.bind ((ensures_createType_taken b version _ hnodup₁).imp
      (fun _ _ h => h) fun _ _ h => h.append _) ?_
    rintro ⟨handle, uses₂⟩ q₂ ⟨htaken₂, hnodup₂⟩
    rw [← htaken₂] at hnodup₂
    simp only [← taken_taken htaken₂]
    refine Ensures.bind (ih hnodup₂) ?_
    rintro placed q₃ ⟨hplaced, hnodup₃⟩
    exact ensures_pure ⟨.cons (n.placedAs handle hplaces hbinding) hplaced, hnodup₃⟩

/-! ## Imports -/

/-- The table has those of the listed types of other units that a referenced library covers. -/
structure ReferenceTable.Covers (t : ReferenceTable) (references : List ReferencedLibrary)
    (types : List ExternalType) : Prop where
  covered : ∀ type, (t.external? type).isSome → (lookup? references type).isSome
  found : ∀ type ∈ types, (lookup? references type).isSome → (t.external? type).isSome

variable {references : List ReferencedLibrary} {resolver : Resolver} {attributes : Attributes}
  {classified : List Classified} {needs : Needs}

theorem ReferenceTable.Covers.insertExternal {t : ReferenceTable} {types : List ExternalType}
    (h : t.Covers references types) {type : ExternalType} (ref : ExternalRef)
    (hlookup : (lookup? references type).isSome) :
    (t.insertExternal type ref).Covers references (type :: types) where
  covered type' href := by
    rw [external?_insertExternal] at href
    split at href
    · next hkey =>
      obtain ⟨hunit, hqualified⟩ := Prod.mk.inj hkey
      rwa [lookup?_congr hunit hqualified]
    · exact h.covered type' href
  found type' hmem hsome := by
    rw [external?_insertExternal]
    split
    · rfl
    · next hkey =>
      rcases List.mem_cons.mp hmem with rfl | hmem
      · exact absurd rfl hkey
      · exact h.found type' hmem hsome

/-- The table gets what the referenced libraries cover. -/
theorem ensures_importTypes_covers (imported : List (Nat × ImportId)) (refs : ReferenceTable)
    (types before : List ExternalType) (hrefs : refs.Covers references before) :
    Ensures (importTypes b references imported refs types) p
      (fun t _ => t.Covers references (types ++ before) ∧ t.standard = refs.standard)
      fun e _ => e.IsRejection := by
  induction types generalizing p imported refs before with
  | nil => exact ensures_pure ⟨hrefs, rfl⟩
  | cons type later ih =>
    have hlater : ∀ {t : ReferenceTable}, t.Covers references (later ++ type :: before) →
        t.Covers references (type :: later ++ before) := fun h =>
      ⟨h.covered, fun t ht => h.found t (List.perm_middle.mem_iff.mpr ht)⟩
    unfold importTypes
    split
    · next hlookup =>
      refine (ih imported refs (type :: before) ⟨hrefs.covered, ?_⟩).imp
        (fun _ _ h => ⟨hlater h.1, h.2⟩) fun _ _ h => h
      refine List.forall_mem_cons.mpr ⟨fun hsome => ?_, hrefs.found⟩
      rw [hlookup] at hsome
      exact Bool.noConfusion hsome
    · next place index found hlookup =>
      obtain ⟨l, hl, -⟩ := lookup?_eq_some hlookup
      have hinsert : ∀ ref, (refs.insertExternal type ref).Covers references (type :: before) :=
        fun ref => hrefs.insertExternal ref (by rw [hlookup]; rfl)
      split
      · exact (ih imported _ (type :: before) (hinsert _)).imp
          (fun _ _ h => ⟨hlater h.1, h.2⟩) fun _ _ h => h
      · rw [hl]
        refine Ensures.bind (ensures_request_rejected b _ _) fun id q _ => ?_
        exact (ih _ _ (type :: before) (hinsert _)).imp
          (fun _ _ h => ⟨hlater h.1, h.2⟩) fun _ _ h => h

theorem ensures_importStandard_isSome (isNeeded : Bool) :
    Ensures (importStandard b isNeeded) p (fun standard _ => standard.isSome = isNeeded)
      fun e _ => e.IsRejection := by
  unfold importStandard
  split
  · next hneeded =>
    exact Ensures.bind (ensures_request_rejected b _ _) fun _ _ _ => ensures_pure hneeded.symm
  · next hneeded => exact ensures_pure (Bool.eq_false_iff.mpr hneeded).symm

/-! ## Places -/

/-- What is known of the types in their places, whatever the builder answered. -/
structure InPlace (resolver : Resolver) (references : List ReferencedLibrary)
    (classified : List Classified) (needs : Needs) (placed : List Placed) (refs : ReferenceTable) :
    Prop where
  named : List.Forall₂ PlacedAs (nameTypes resolver classified).1 placed
  guids : ((nameTypes resolver classified).1.flatMap NamedType.guids).Nodup
  standard : refs.standard.isSome = needs.standard
  covers : refs.Covers references needs.external

/-- **Types in their places**: their identifiers differ, and the imports are those that are
needed. -/
theorem ensures_placeTypes_inPlace :
    Ensures (placeTypes b resolver attributes references classified needs) p
      (fun a _ => InPlace resolver references classified needs a.1 a.2)
      fun e _ => Unplaced ((nameTypes resolver classified).1.flatMap NamedType.guids) [] e := by
  unfold placeTypes
  refine Ensures.bind ((ensures_perform_aborted b _).imp (fun _ _ h => h) fun e _ h =>
    .inl (h.resolve_right (abort_notMem_nameTypes resolver classified e))) fun _ q₁ _ => ?_
  refine Ensures.bind ((ensures_request_rejected b _ _).imp (fun _ _ h => h) fun _ _ => .inl)
    fun _ q₂ _ => ?_
  refine Ensures.bind (ensures_createTypes_taken b _ _ .nil) fun placed q₃ ⟨hplaced, hnodup⟩ => ?_
  refine Ensures.bind ((ensures_importStandard_isSome b _).imp (fun _ _ h => h) fun _ _ => .inl)
    fun standard q₄ hstandard => ?_
  have hown : (ownReferences placed standard).Covers references [] := by
    rw [ownReferences_eq]
    exact ⟨fun _ h => Bool.noConfusion h, fun _ h => (List.not_mem_nil h).elim⟩
  refine Ensures.bind ((ensures_importTypes_covers b _ _ _ [] hown).imp (fun _ _ h => h)
    fun _ _ => .inl) fun refs q₅ ⟨hcovers, hsame⟩ => ?_
  refine ensures_pure ⟨hplaced, nodup_taken_nil.mp hnodup, ?_, by simpa using hcovers⟩
  · rw [hsame, ownReferences_eq]
    exact hstandard

namespace InPlace

variable {placed : List Placed} {refs : ReferenceTable}

theorem map_type (h : InPlace resolver references classified needs placed refs) :
    placed.map (·.type) = classified :=
  (PlacedAs.map_type h.named).trans (map_type_nameTypes resolver classified)

theorem type_mem (h : InPlace resolver references classified needs placed refs) {t : Placed}
    (ht : t ∈ placed) : t.type ∈ classified := h.map_type ▸ List.mem_map_of_mem ht

theorem isClassed (h : InPlace resolver references classified needs placed refs) {t : Placed}
    (ht : t ∈ placed) : t.IsClassed := by
  obtain ⟨n, -, hplaced⟩ := PlacedAs.forall_mem h.named t ht
  exact hplaced.classed

/-- The standard library is imported for the types that fall back on it. -/
theorem standard_of_needsStandard
    (h : InPlace resolver references classified (Needs.scan classified) placed refs) {t : Placed}
    (ht : t ∈ placed) (hneeds : t.type.target.needsStandard = true) : refs.standard.isSome := by
  rw [h.standard]
  unfold Needs.scan
  dsimp only
  rw [List.any_eq_true.mpr ⟨t.type, h.type_mem ht, hneeds⟩, Bool.true_or]

end InPlace

/-! ## Contents -/

/-- Steps end, if they do, with an error that has the property. -/
def AbortWith (P : ExportError → Prop) (steps : List Step) : Prop :=
  ∀ e, Step.abort e ∈ steps → P e

section AbortWith

variable {P : ExportError → Prop} {first second : List Step}

theorem abortWith_nil : AbortWith P [] := fun _ h => (List.not_mem_nil h).elim

theorem AbortWith.append (h : AbortWith P first) (h' : AbortWith P second) :
    AbortWith P (first ++ second) := fun e he =>
  (List.mem_append.mp he).elim (h e) (h' e)

theorem AbortWith.cons {step : Step} (hstep : ∀ e, step = .abort e → P e)
    (h : AbortWith P second) : AbortWith P (step :: second) := fun e he =>
  (List.mem_cons.mp he).elim (fun hsame => hstep e hsame.symm) (h e)

theorem abortWith_flatMap {α : Type} {items : List α} {steps : α → List Step}
    (h : ∀ a ∈ items, AbortWith P (steps a)) : AbortWith P (items.flatMap steps) := fun e he => by
  obtain ⟨a, ha, he⟩ := List.mem_flatMap.mp he
  exact h a ha e he

theorem abortWith_map {α : Type} {items : List α} {step : α → Step}
    (h : ∀ a e, step a ≠ .abort e) : AbortWith P (items.map step) := fun e he => by
  obtain ⟨a, -, he⟩ := List.mem_map.mp he
  exact (h a e he).elim

theorem abortWith_interfaceSteps (name : String) (handle : Handle) (made : InterfaceFunctions) :
    AbortWith P (interfaceSteps name handle made) := by
  refine (abortWith_map fun _ _ => Step.noConfusion).append (abortWith_flatMap fun f _ => ?_)
  refine AbortWith.append (.cons (fun _ => Step.noConfusion) (.cons (fun _ => Step.noConfusion)
    abortWith_nil)) (abortWith_map fun _ _ => Step.noConfusion)

theorem abortWith_interfacesSteps (s : Setting) (placed : List Placed) :
    AbortWith P (interfacesSteps s placed) := by
  rw [interfacesSteps_eq]
  exact abortWith_flatMap fun f _ => abortWith_interfaceSteps _ _ _

theorem abortWith_classInterfaceSteps (s : Setting) (t : Placed) :
    AbortWith P (classInterfaceSteps s t) := by
  unfold classInterfaceSteps
  split
  · exact abortWith_interfaceSteps _ _ _
  · exact abortWith_nil

theorem abortWith_variableSteps (type : String) (handle : Handle) (index : Nat)
    (desc : VariableDesc) (name : String) (doc : Option String) :
    AbortWith P (variableSteps type handle index desc name doc) :=
  AbortWith.append (.cons (fun _ => Step.noConfusion) (.cons (fun _ => Step.noConfusion)
    abortWith_nil)) (abortWith_map fun _ _ => Step.noConfusion)

theorem abortWith_enumSteps (t : Placed) : AbortWith P (enumSteps t) := by
  unfold enumSteps
  split
  · generalize t.type.decl.constants.zip t.constants = constants
    generalize (0 : Nat) = index
    induction constants generalizing index with
    | nil => exact abortWith_nil
    | cons constant later ih =>
      rcases constant with ⟨c, name | name⟩
      · exact .cons (fun _ => Step.noConfusion) (ih _)
      · exact (abortWith_variableSteps _ _ _ _ _ _).append (ih _)
  · exact abortWith_nil

end AbortWith

/-- The error that a record has more fields than there are ids. -/
def ExportError.IsTooManyFields (e : ExportError) : Prop :=
  ∃ name : String, e = .internal s!"`{name}` has too many fields"

/-- Filling a record ends early only if there are too many fields. -/
theorem abortWith_recordSteps (s : Setting) (t : Placed) :
    AbortWith ExportError.IsTooManyFields (recordSteps s t) := by
  unfold recordSteps
  split
  · generalize t.type.decl.fields.filter (·.isPublic) = fields
    generalize (0 : Nat) = index
    induction fields generalizing index with
    | nil => exact abortWith_nil
    | cons f later ih =>
      unfold fieldsSteps
      split
      · refine AbortWith.append (AbortWith.append ?_ ?_) (ih _)
        · exact abortWith_map fun _ _ => Step.noConfusion
        · split
          · exact .cons (fun e he => ⟨t.name, (Step.abort.inj he).symm⟩) abortWith_nil
          · exact .cons (fun _ => Step.noConfusion) (abortWith_variableSteps _ _ _ _ _ _)
      · exact .cons (fun _ => Step.noConfusion) (ih _)
  · exact abortWith_nil

/-- With the standard library, nothing stops a type from saying what it derives from or implements. -/
theorem abortWith_inheritanceSteps {P : ExportError → Prop} {scope : Scope} {t : Placed}
    (hstandard : t.type.target.needsStandard = true → scope.refs.standard.isSome) :
    AbortWith P (inheritanceSteps scope t) := by
  unfold inheritanceSteps
  split
  · next binding htarget =>
    have hbase : (t.base? scope.refs).isSome := by
      unfold Placed.base?
      rw [htarget]
      exact base?_isSome (hstandard (by rw [htarget]; rfl)) _ _
    split
    · exact .cons (fun _ => Step.noConfusion) abortWith_nil
    · next hnone =>
      rw [hnone] at hbase
      exact Bool.noConfusion hbase
  · next htarget =>
    obtain ⟨id, hid⟩ := Option.isSome_iff_exists.mp (hstandard (by rw [htarget]; rfl))
    dsimp only
    refine AbortWith.append (AbortWith.append (abortWith_flatMap fun c _ => ?_)
      (abortWith_map fun _ _ => Step.noConfusion)) ?_
    · unfold classInterfaceBase ReferenceTable.standard?
      rw [hid]
      exact .cons (fun _ => Step.noConfusion) abortWith_nil
    · obtain ⟨c, hc⟩ : ∃ c, (t.implements scope).1 = some c := Option.isSome_iff_exists.mp
        (classImplements_isSome (by rw [hid]; rfl) _ _)
      rw [hc]
      exact abortWith_map fun _ _ => Step.noConfusion
  · exact abortWith_nil
  · exact abortWith_nil

/-- **Filling a library ends early only for a record with too many fields**: the standard library is
never missed. -/
theorem InPlace.abortWith_contents {placed : List Placed} {refs : ReferenceTable}
    (h : InPlace resolver references classified (Needs.scan classified) placed refs) {s : Setting}
    (hrefs : s.scope.refs = refs) :
    AbortWith ExportError.IsTooManyFields (contents s placed).2 := by
  have hinheritance : AbortWith ExportError.IsTooManyFields
      (placed.flatMap (inheritanceSteps s.scope)) := abortWith_flatMap fun t ht =>
    abortWith_inheritanceSteps fun hneeds => hrefs ▸ h.standard_of_needsStandard ht hneeds
  refine AbortWith.append (AbortWith.append (AbortWith.append (AbortWith.append (AbortWith.append
    hinheritance ?_) ?_) ?_) ?_) ?_
  · exact abortWith_interfacesSteps _ _
  · exact abortWith_flatMap fun t _ => abortWith_classInterfaceSteps _ t
  · exact abortWith_flatMap fun t _ => abortWith_recordSteps _ t
  · exact abortWith_flatMap fun t _ => abortWith_enumSteps t
  · exact abortWith_map fun _ _ => Step.noConfusion

/-! ## Runs -/

/-- What can stop a run over the units, whatever the builder answers. -/
inductive Reason (resolver : Resolver) (units : List Reflection) : ExportError → Prop
  | missingType {unit : Reflection} {id : TypeId} (hunit : unit ∈ units) (hid : id ∈ unit.ids)
      (hnone : unit.type? id = none) : Reason resolver units (.missingType id)
  | duplicateLibrary (guid : Guid) (other : String) :
      Reason resolver units (.duplicateLibrary guid other)
  /-- Identifiers of one unit are not all different. -/
  | duplicateType {unit : Reflection} {classified : List Classified} (hunit : unit ∈ units)
      (hclassify : classify unit unit.ids = .ok classified)
      (hguids : ¬((nameTypes resolver classified).1.flatMap NamedType.guids).Nodup)
      (guid : Guid) (first second : String) :
      Reason resolver units (.duplicateType guid first second)
  | rejection (context : String) (cause : BuildError) : Reason resolver units (.build context cause)
  | tooManyFields {e : ExportError} (h : e.IsTooManyFields) : Reason resolver units e

variable {units : List Reflection} {unit : Reflection} {settings : Settings}

theorem Reason.of_isRejection {e : ExportError} (h : e.IsRejection) : Reason resolver units e := by
  obtain ⟨context, cause, rfl⟩ := h
  exact .rejection context cause

/-- A reason is not that a unit that is needed cannot be exported. -/
theorem Reason.root_eq {e : ExportError} (h : Reason resolver units e) : e.root = e := by
  cases h with
  | tooManyFields h =>
    obtain ⟨name, rfl⟩ := h
    rfl
  | missingType | duplicateLibrary | duplicateType | rejection => rfl

theorem missing_of_classify {ids : List TypeId} {e : ExportError}
    (h : classify unit ids = .error e) : ∃ id ∈ ids, unit.type? id = none ∧ e = .missingType id := by
  induction ids with
  | nil => exact Except.noConfusion rfl rfl (heq_of_eq h)
  | cons id later ih =>
    unfold classify at h
    split at h
    · next hnone => exact ⟨id, List.mem_cons_self, hnone, (Except.error.inj h).symm⟩
    · split at h
      · next hlater =>
        obtain ⟨id', hid', hnone, rfl⟩ := ih (hlater.trans h)
        exact ⟨id', List.mem_cons_of_mem _ hid', hnone, rfl⟩
      · split at h <;> exact Except.noConfusion rfl rfl (heq_of_eq h)

/-- A library by itself is stopped for a reason, and else its identifiers differ. -/
theorem ensures_buildReferring_reason (hunit : unit ∈ units)
    (hclassify : classify unit unit.ids = .ok classified) :
    Ensures (buildReferring b resolver settings unit classified) p
      (fun _ _ => ((nameTypes resolver classified).1.flatMap NamedType.guids).Nodup)
      fun e _ => Reason resolver units e := by
  unfold buildReferring
  refine Ensures.bind (ensures_get trivial : Ensures _ p (fun _ _ => True) _) fun p' _ _ => ?_
  refine Ensures.bind (?_ : Ensures _ _ (fun _ _ => True) _) fun _ q₁ _ => ?_
  · unfold checkIdentity
    split
    · next error herror =>
      refine ensures_throw ?_
      unfold identityError? at herror
      split at herror
      · obtain rfl := Option.some.inj herror
        exact .duplicateLibrary _ _
      · obtain ⟨l, -, rfl⟩ := Option.map_eq_some_iff.mp herror
        exact .duplicateLibrary _ _
    · exact ensures_pure trivial
  refine Ensures.bind ((ensures_placeTypes_inPlace b).imp (fun _ _ h => h) ?_) ?_
  · rintro e - (hrejection | ⟨⟨guid, first, second, rfl⟩, hguids⟩)
    · exact .of_isRejection hrejection
    · rw [nodup_taken_nil] at hguids
      exact .duplicateType hunit hclassify hguids guid first second
  rintro ⟨placed, refs⟩ q₂ hplaced
  refine Ensures.bind ((ensures_perform_aborted b _).imp (fun _ _ h => h) ?_)
    fun _ _ _ => ensures_pure hplaced.guids
  rintro e - (hrejection | habort)
  · exact .of_isRejection hrejection
  · obtain ⟨name, rfl⟩ := hplaced.abortWith_contents rfl e habort
    exact .tooManyFields ⟨name, rfl⟩

/-- What is known of an outcome: the reason for a failure, and else that identifiers differ. -/
def Reasoned (resolver : Resolver) (units : List Reflection) (unit : Reflection) :
    UnitOutcome World Committed → Prop
  | (.ok _, _) => ∀ classified, classify unit unit.ids = .ok classified →
      ((nameTypes resolver classified).1.flatMap NamedType.guids).Nodup
  | (.error f, _) => Reason resolver units f.error.root

theorem reasoned_exportUnit {available : List Reflection} (havailable : available ⊆ units)
    (hunit : unit ∈ units) (s : Session World Committed) (d : Draft) :
    Reasoned resolver units unit (exportUnit b resolver settings available unit s d) := by
  induction available using available_induction generalizing settings unit s d with
  | step available ih =>
    have hnested : ∀ (q : Progress World Draft Committed) needed (hm : needed ∈ available) o,
        exportUnit b resolver settings.forDependency (without available needed) needed (q.begin b)
          (b.newLibrary q.session.world q.draft).2 = o → Reasoned resolver units needed o := by
      rintro q needed hm _ rfl
      exact ih needed hm (without_subset havailable needed) (havailable hm) _ _
    have hbuild : ∀ p : Progress World Draft Committed,
        Ensures (build b resolver settings unit available fun needed _ =>
          exportUnit b resolver settings.forDependency (without available needed) needed) p
        (fun _ _ => ∀ classified, classify unit unit.ids = .ok classified →
          ((nameTypes resolver classified).1.flatMap NamedType.guids).Nodup)
        fun e _ => Reason resolver units e.root := by
      intro p
      rw [build_eq]
      refine Ensures.bind (ensures_ofExcept (fun _ h => h) fun e he => ?_ : Ensures _ p
        (fun classified _ => classify unit unit.ids = .ok classified) _) fun classified q hc => ?_
      · obtain ⟨id, hid, hnone, rfl⟩ := missing_of_classify he
        exact .missingType hunit hid hnone
      refine Ensures.bind (ensures_exportUncovered ?_ (fun _ _ _ _ _ _ _ _ _ _ => trivial) trivial :
        Ensures _ q (fun _ _ => True) _) fun _ r _ => ?_
      · -- The root of a failure on demand is that of the failure itself.
        intro r name needed hm f s' _ _ _ hf
        exact hnested r needed hm _ hf
      refine (ensures_buildReferring_reason b hunit hc).imp (fun _ _ h classified' hc' => ?_)
        fun _ _ h => h.root_eq.symm ▸ h
      rwa [Except.ok.inj (hc'.symm.trans hc)]
    rw [exportUnit]
    cases hresult : (build b resolver settings unit available _).run _ with
    | error e r => exact (hbuild _).of_error hresult
    | ok exported r =>
      have hguids := (hbuild _).of_ok hresult
      rcases hcommit : b.commit r.session.world r.draft with ⟨error | l, world⟩
      · simp only [finish, hcommit]
        exact .rejection _ _
      · simp only [finish, hcommit]
        exact hguids

/-- **A run is stopped for a reason**, whatever the builder answers, be it by its own unit or by one
that it needs; and if it is not, the identifiers of its own unit are all different. -/
theorem reason_run (job : Job) (world : World) (draft : Draft) :
    (∀ f, (job.run b world draft).1 = .error f →
      Reason job.resolver (job.unit :: job.dependencies) f.error.root) ∧
    ∀ out, (job.run b world draft).1 = .ok out → ∀ classified,
      classify job.unit job.unit.ids = .ok classified →
        ((nameTypes job.resolver classified).1.flatMap NamedType.guids).Nodup := by
  have havailable : without job.dependencies job.unit ⊆ job.unit :: job.dependencies :=
    fun _ hu => List.mem_cons_of_mem _ (List.mem_of_mem_filter hu)
  have hreasoned : Reasoned job.resolver (job.unit :: job.dependencies) job.unit
      (exportUnit b job.resolver job.settings (without job.dependencies job.unit) job.unit
        { world := world, references := job.settings.references } draft) :=
    reasoned_exportUnit b havailable List.mem_cons_self _ _
  unfold Job.run
  rcases hrun : exportUnit b job.resolver job.settings (without job.dependencies job.unit) job.unit
    { world := world, references := job.settings.references } draft with ⟨f | l, s⟩
  · rw [hrun] at hreasoned
    refine ⟨fun g hg => ?_, fun out hout => Except.noConfusion rfl rfl (heq_of_eq hout)⟩
    exact Except.error.inj hg ▸ hreasoned
  · rw [hrun] at hreasoned
    exact ⟨fun g hg => Except.noConfusion rfl rfl (heq_of_eq hg), fun _ _ => hreasoned⟩

end Automation.Export
