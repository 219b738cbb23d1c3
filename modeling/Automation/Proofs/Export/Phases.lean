import Automation.Proofs.Export.Passes
import Automation.Proofs.Library.Journal

/-!
# What the passes ask and say

The requests of a pass over a library belong to one phase, and what the pass says is no error and has
one of a few codes: `AllOf` states this of a list of steps. `allOf_inheritance`, `allOf_interface`,
`allOf_record` and `allOf_enum` go through the passes.
-/

namespace Automation.Export

open Library Source Diagnostic

/-- The diagnostic is no error, and has one of the codes. -/
def IsMild (codes : List Code) (d : Diagnostic) : Prop := d.code ∈ codes ∧ d.isError = false

/-- The step belongs to a phase: so does what it asks, and what it says is no error and has one of the
codes. -/
def Step.IsOf (phase : Phase) (codes : List Code) : Step → Prop
  | .request _ r => r.phase = phase
  | .remark (.raised d) => IsMild codes d
  | .remark (.asked _) | .abort _ => True

/-- All steps belong to a phase. -/
def AllOf (phase : Phase) (codes : List Code) (steps : List Step) : Prop :=
  ∀ step ∈ steps, step.IsOf phase codes

variable {phase : Phase} {codes : List Code} {steps first second : List Step}

theorem allOf_nil : AllOf phase codes [] := fun _ h => (List.not_mem_nil h).elim

theorem AllOf.cons {step : Step} (h : step.IsOf phase codes) (h' : AllOf phase codes steps) :
    AllOf phase codes (step :: steps) := List.forall_mem_cons.mpr ⟨h, h'⟩

theorem AllOf.append (h : AllOf phase codes first) (h' : AllOf phase codes second) :
    AllOf phase codes (first ++ second) := List.forall_mem_append.mpr ⟨h, h'⟩

theorem allOf_map {α : Type} {items : List α} {step : α → Step}
    (h : ∀ a ∈ items, (step a).IsOf phase codes) : AllOf phase codes (items.map step) :=
  List.forall_mem_map.mpr h

theorem allOf_flatMap {α : Type} {items : List α} {steps : α → List Step}
    (h : ∀ a ∈ items, AllOf phase codes (steps a)) : AllOf phase codes (items.flatMap steps) :=
  fun step hstep => by
    obtain ⟨a, ha, hstep⟩ := List.mem_flatMap.mp hstep
    exact h a ha step hstep

theorem AllOf.mono {codes' : List Code} (h : AllOf phase codes steps) (hcodes : codes ⊆ codes') :
    AllOf phase codes' steps := fun step hstep => by
  have hstep := h step hstep
  cases step with
  | remark r =>
    cases r with
    | asked question => trivial
    | raised d => exact hstep.imp_left fun h => hcodes h
  | request context r => exact hstep
  | abort error => trivial

/-! ## Naming -/

/-- What is said about the names of a library. -/
def namingCodes : List Code := [.typeRenamed, .constantRenamed]

/-- What is said about names is no error and has one of their codes. -/
def Remark.IsNaming : Remark → Prop
  | .asked _ => True
  | .raised d => IsMild namingCodes d

theorem forall_isNaming_raised {notes : List Diagnostic} (h : ∀ d ∈ notes, IsMild namingCodes d) :
    ∀ r ∈ notes.map Remark.raised, r.IsNaming := List.forall_mem_map.mpr h

theorem isNaming_addType (registry : NameRegistry) (c : Candidate) :
    ∀ d ∈ (registry.addType c).2, IsMild namingCodes d := by
  have hrename : ∀ (registry : NameRegistry) c, IsMild namingCodes (registry.rename c).2 :=
    fun _ _ => ⟨List.mem_cons_self, rfl⟩
  unfold NameRegistry.addType
  split
  · exact fun _ h => (List.not_mem_nil h).elim
  · exact List.forall_mem_cons.mpr ⟨hrename _ _, List.forall_mem_singleton.mpr (hrename _ _)⟩
  · exact List.forall_mem_singleton.mpr (hrename _ _)
  · exact List.forall_mem_singleton.mpr (hrename _ _)

theorem isNaming_reserve (registry : NameRegistry) (subject wanted : String) {code : Code}
    (hcode : code ∈ namingCodes) :
    ∀ d ∈ (registry.reserve subject wanted code).2.2, IsMild namingCodes d := by
  unfold NameRegistry.reserve
  dsimp only
  split
  · exact fun _ h => (List.not_mem_nil h).elim
  · exact List.forall_mem_singleton.mpr ⟨hcode, rfl⟩

theorem isNaming_registerTypes (resolver : Resolver) (registry : NameRegistry)
    (classified : List Classified) :
    ∀ r ∈ (registerTypes resolver registry classified).2, r.IsNaming := by
  induction classified generalizing registry with
  | nil => exact fun _ h => (List.not_mem_nil h).elim
  | cons c later ih =>
    refine List.forall_mem_cons.mpr ⟨trivial, List.forall_mem_append.mpr ⟨?_, ih _⟩⟩
    exact forall_isNaming_raised (isNaming_addType _ _)

theorem isNaming_reserveConstants (resolver : Resolver) (owner : TypeDecl) (enumName : String)
    (registry : NameRegistry) (constants : List EnumConstant) :
    ∀ r ∈ (reserveConstants resolver owner enumName registry constants).2.2, r.IsNaming := by
  induction constants generalizing registry with
  | nil => exact fun _ h => (List.not_mem_nil h).elim
  | cons c later ih =>
    unfold reserveConstants
    split
    · refine List.forall_mem_cons.mpr ⟨trivial, List.forall_mem_append.mpr ⟨?_, ih _⟩⟩
      exact forall_isNaming_raised (isNaming_reserve _ _ _ (by decide))
    · exact ih _

theorem allOf_nameRegistered (resolver : Resolver) (registry : NameRegistry)
    (classified : List Classified) :
    AllOf phase namingCodes (nameRegistered resolver registry classified).2 := by
  induction classified generalizing registry with
  | nil => exact allOf_nil
  | cons c later ih =>
    unfold nameRegistered
    split
    · exact .cons trivial allOf_nil
    · refine AllOf.append (allOf_map fun r hr => ?_) (ih _)
      have hnaming : r.IsNaming := by
        rcases List.mem_append.mp hr with hr | hr
        · unfold reserveClassInterface at hr
          split at hr
          · exact forall_isNaming_raised (isNaming_reserve _ _ _ (by decide)) r hr
          · exact (List.not_mem_nil hr).elim
        · unfold nameConstants at hr
          split at hr
          · rcases List.mem_cons.mp hr with rfl | hr
            · trivial
            · exact isNaming_reserveConstants _ _ _ _ _ r hr
          · exact (List.not_mem_nil hr).elim
      cases r with
      | asked question => trivial
      | raised d => exact hnaming

/-- Names are not asked of the builder. -/
theorem allOf_nameTypes (resolver : Resolver) (classified : List Classified) :
    AllOf phase namingCodes (nameTypes resolver classified).2 := by
  refine AllOf.append (allOf_map fun r hr => ?_) (allOf_nameRegistered _ _ _)
  have hnaming := isNaming_registerTypes resolver {} classified r hr
  cases r with
  | asked question => trivial
  | raised d => exact hnaming

/-! ## Inheritance -/

/-- What is said about what types implement. -/
def inheritanceCodes : List Code := [.interfaceSkipped, .defaultUnresolved]

theorem isMild_skippedInterfaces (subject : String) (interfaces : List Implemented) :
    ∀ d ∈ skippedInterfaces subject interfaces, IsMild inheritanceCodes d := by
  intro d hd
  obtain ⟨i, -, hi⟩ := List.mem_filterMap.mp hd
  cases i with
  | found ref => exact Option.noConfusion rfl (heq_of_eq hi)
  | unexported => exact Option.noConfusion rfl (heq_of_eq hi)
  | missing name =>
    obtain rfl := Option.some.inj hi
    exact ⟨List.mem_cons_self, rfl⟩

theorem isMild_classImplements (s : Scope) (t : TypeDecl) (classInterface : Option Handle) :
    ∀ d ∈ (classImplements s t classInterface).2, IsMild inheritanceCodes d := by
  have hunresolved : ∀ spelling,
      IsMild inheritanceCodes (unresolvedDefault t.qualified spelling) :=
    fun _ => ⟨List.mem_cons_of_mem _ List.mem_cons_self, rfl⟩
  have hskipped := isMild_skippedInterfaces t.qualified
  unfold classImplements
  dsimp only
  split <;> simp only [List.forall_mem_append]
  · refine ⟨hskipped _, ?_⟩
    split
    · exact List.forall_mem_singleton.mpr (hunresolved _)
    · exact fun _ h => (List.not_mem_nil h).elim
  · refine ⟨⟨hskipped _, ?_⟩, hskipped _⟩
    split
    · exact List.forall_mem_singleton.mpr (hunresolved _)
    · exact fun _ h => (List.not_mem_nil h).elim

theorem allOf_inheritance (scope : Scope) (p : Placed) :
    AllOf .inheritance inheritanceCodes (inheritanceSteps scope p) := by
  unfold inheritanceSteps
  split
  · split
    · exact .cons rfl allOf_nil
    · exact .cons trivial allOf_nil
  · dsimp only
    refine AllOf.append (AllOf.append (allOf_flatMap fun c _ => ?_) (allOf_map ?_)) ?_
    · unfold classInterfaceBase
      split
      · exact .cons rfl allOf_nil
      · exact .cons trivial allOf_nil
    · exact isMild_classImplements _ _ _
    · split
      · exact allOf_map fun _ _ => rfl
      · exact .cons trivial allOf_nil
  · exact allOf_nil
  · exact allOf_nil

/-! ## Members -/

/-- What is said about types that are described with a loss. -/
def degradedCodes : List Code := [.referenceDegraded, .enumDegraded]

/-- What is said about the members of an interface. -/
def functionCodes : List Code := .memberExcluded :: .idReassigned :: degradedCodes

/-- What is said about the fields of a record. -/
def fieldCodes : List Code := .fieldExcluded :: degradedCodes

/-- What is said about the constants of an enum. -/
def constantCodes : List Code := [.constantExcluded]

theorem isMild_degraded (subject : String) (d : Degradation) :
    IsMild degradedCodes (degraded subject d) := by
  cases d with
  | genericObject name => exact ⟨List.mem_cons_self, rfl⟩
  | enumAsInteger name => exact ⟨List.mem_cons_of_mem _ List.mem_cons_self, rfl⟩

theorem allOf_synthesize (y : Synthesis) (owner : TypeDecl) (m : Member) :
    AllOf phase (.memberExcluded :: degradedCodes) ((synthesize y owner m).2.map Step.remark) := by
  refine allOf_map fun r hr => ?_
  unfold synthesize at hr
  split at hr
  · exact (List.not_mem_nil hr).elim
  · dsimp only at hr
    split at hr
    all_goals rcases List.mem_append.mp hr with hr | hr
    · obtain ⟨question, -, rfl⟩ := List.mem_map.mp hr
      trivial
    · obtain rfl := List.mem_singleton.mp hr
      exact ⟨List.mem_cons_self, rfl⟩
    · obtain ⟨question, -, rfl⟩ := List.mem_map.mp hr
      trivial
    · obtain ⟨d, -, rfl⟩ := List.mem_map.mp hr
      exact (isMild_degraded _ d).imp_left (List.mem_cons_of_mem _)

theorem allOf_remarks_interfaceFunctions (y : Synthesis) (owner : TypeDecl) (base : Inherited) :
    AllOf phase functionCodes ((interfaceFunctions y owner base).remarks.map Step.remark) := by
  refine allOf_map fun r hr => ?_
  rcases List.mem_append.mp hr with hr | hr
  · obtain ⟨_, hmade, hr⟩ := List.mem_flatMap.mp hr
    obtain ⟨m, -, rfl⟩ := List.mem_map.mp hmade
    have hcodes : Code.memberExcluded :: degradedCodes ⊆ functionCodes := by decide
    exact (allOf_synthesize y owner m).mono hcodes _ (List.mem_map_of_mem hr)
  · obtain ⟨moved, -, rfl⟩ := List.mem_map.mp hr
    exact ⟨List.mem_cons_of_mem _ List.mem_cons_self, rfl⟩

theorem allOf_interface (name : String) (handle : Handle) (y : Synthesis) (owner : TypeDecl)
    (base : Inherited) :
    AllOf .members functionCodes (interfaceSteps name handle (interfaceFunctions y owner base)) := by
  refine (allOf_remarks_interfaceFunctions y owner base).append (allOf_flatMap fun f _ => ?_)
  exact AllOf.append (.cons rfl (.cons rfl allOf_nil)) (allOf_map fun _ _ => rfl)

theorem allOf_interfaces (s : Setting) (placed : List Placed) :
    AllOf .members functionCodes (interfacesSteps s placed) := by
  rw [interfacesSteps_eq]
  refine allOf_flatMap fun f hf => ?_
  obtain ⟨-, binding, base, -, hmade⟩ := mem_filling hf
  rw [hmade]
  exact allOf_interface _ _ _ _ _

theorem allOf_classInterface (s : Setting) (p : Placed) :
    AllOf .members functionCodes (classInterfaceSteps s p) := by
  unfold classInterfaceSteps
  split
  · exact allOf_interface _ _ _ _ _
  · exact allOf_nil

theorem allOf_variable (type : String) (handle : Handle) (index : Nat) (desc : VariableDesc)
    (name : String) (doc : Option String) :
    AllOf .members codes (variableSteps type handle index desc name doc) :=
  AllOf.append (.cons rfl (.cons rfl allOf_nil)) (allOf_map fun _ _ => rfl)

theorem allOf_fields (s : Setting) (p : Placed) (index : Nat) (fields : List Field) :
    AllOf .members fieldCodes (fieldsSteps s p index fields) := by
  induction fields generalizing index with
  | nil => exact allOf_nil
  | cons f later ih =>
    unfold fieldsSteps
    split
    · refine AllOf.append (AllOf.append (allOf_map fun d _ => ?_) ?_) (ih _)
      · exact (isMild_degraded _ d).imp_left (List.mem_cons_of_mem _)
      · split
        · exact .cons trivial allOf_nil
        · exact .cons trivial (allOf_variable _ _ _ _ _ _)
    · exact .cons ⟨List.mem_cons_self, rfl⟩ (ih _)

theorem allOf_record (s : Setting) (p : Placed) : AllOf .members fieldCodes (recordSteps s p) := by
  unfold recordSteps
  split
  · exact allOf_fields _ _ _ _
  · exact allOf_nil

theorem allOf_constants (p : Placed) (index : Nat)
    (constants : List (EnumConstant × Option String)) :
    AllOf .members constantCodes (constantsSteps p index constants) := by
  induction constants generalizing index with
  | nil => exact allOf_nil
  | cons constant later ih =>
    rcases constant with ⟨c, name | name⟩
    · exact .cons ⟨List.mem_cons_self, rfl⟩ (ih _)
    · exact (allOf_variable _ _ _ _ _ _).append (ih _)

theorem allOf_enum (p : Placed) : AllOf .members constantCodes (enumSteps p) := by
  unfold enumSteps
  split
  · exact allOf_constants _ _ _
  · exact allOf_nil

/-! ## The whole -/

/-- The passes that give types their members. -/
def memberPasses (s : Setting) (placed : List Placed) : List Step :=
  interfacesSteps (s.withDefaults placed) placed
    ++ placed.flatMap (classInterfaceSteps (s.withDefaults placed))
    ++ placed.flatMap (recordSteps (s.withDefaults placed))
    ++ placed.flatMap enumSteps

theorem passes_eq (s : Setting) (placed : List Placed) :
    passes s placed = placed.flatMap (inheritanceSteps s.scope) ++ memberPasses s placed := by
  simp only [passes, memberPasses, List.append_assoc]

/-- What is said about members. -/
def memberCodes : List Code := functionCodes ++ fieldCodes ++ constantCodes

theorem allOf_memberPasses (s : Setting) (placed : List Placed) :
    AllOf .members memberCodes (memberPasses s placed) := by
  have hfunctions : functionCodes ⊆ memberCodes := by decide
  have hfields : fieldCodes ⊆ memberCodes := by decide
  have hconstants : constantCodes ⊆ memberCodes := by decide
  refine AllOf.append (AllOf.append (AllOf.append ?_ ?_) ?_) ?_
  · exact (allOf_interfaces _ _).mono hfunctions
  · exact allOf_flatMap fun p _ => (allOf_classInterface _ p).mono hfunctions
  · exact allOf_flatMap fun p _ => (allOf_record _ p).mono hfields
  · exact allOf_flatMap fun p _ => (allOf_enum p).mono hconstants

end Automation.Export
