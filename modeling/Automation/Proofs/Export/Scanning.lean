import Automation.Proofs.Export.Reasons
import Automation.Proofs.Export.Scoping

/-!
# What the scan covers

The imports of a library are settled before anything is described: `Needs.scan` reads them off the
declarations. What the passes look up later is found as if every type of another unit had been tried,
and the standard library is there wherever it is asked for (`Covered`), whatever the builder answers:
`covered_placeTypes`. That the passes look at nothing else is part of it.
-/

namespace Automation.Export

open Library Source

/-! ## What the passes look up -/

/-- The type expressions in the signatures of the exportable members. -/
def memberTypes (t : TypeDecl) : List TypeExpr :=
  (t.members.filter Member.isExportable).flatMap fun m => m.ret :: m.params.map (·.type)

/-- What the first pass looks up to say what a type derives from or implements. An interface derives
from the first interface that it declares. -/
def Placed.inheritanceTypes (p : Placed) : List TypeExpr :=
  match p.type.target with
  | .interface _ => p.type.decl.interfaces.head?.toList
  | .coClass _ _ => p.type.decl.interfaces ++ p.type.decl.classInfo.defaultInterface.toList
      ++ p.type.decl.classInfo.sources
  | .enumeration | .record => []

/-- What the later passes describe: the signatures of an interface, be it one made from a class, and
the public fields of a record. -/
def Placed.describedTypes (p : Placed) : List TypeExpr :=
  match p.type.target with
  | .interface _ => memberTypes p.type.decl
  | .coClass _ _ => if p.classInterface.isSome then memberTypes p.type.decl else []
  | .record => (p.type.decl.fields.filter (·.isPublic)).map (·.type)
  | .enumeration => []

/-- The type expressions that the passes look up for a placed type. -/
def Placed.consulted (p : Placed) : List TypeExpr := p.inheritanceTypes ++ p.describedTypes

/-- The scan reads every expression that the passes look up. -/
theorem Placed.consulted_subset (p : Placed) : p.consulted ⊆ signatureTypes p.type.decl := by
  have hhead : p.type.decl.interfaces.head?.toList ⊆ p.type.decl.interfaces := fun e he =>
    List.mem_of_mem_head? (Option.mem_toList.mp he)
  have hmembers : memberTypes p.type.decl ⊆ signatureTypes p.type.decl :=
    List.subset_append_right _ _
  intro e he
  rcases List.mem_append.mp he with he | he
  · unfold Placed.inheritanceTypes at he
    split at he
    · simp [signatureTypes, hhead he]
    · simp only [List.mem_append] at he
      simp only [signatureTypes, List.mem_append]
      tauto
    · exact (List.not_mem_nil he).elim
    · exact (List.not_mem_nil he).elim
  · unfold Placed.describedTypes at he
    split at he
    · exact hmembers he
    · split at he
      · exact hmembers he
      · exact (List.not_mem_nil he).elim
    · simp only [signatureTypes, List.mem_append]
      exact .inl (.inr he)
    · exact (List.not_mem_nil he).elim

/-! ## The standard library -/

/-- The outcome is not that something cannot be resolved. -/
def Resolved (outcome : Except DescribeError Described) : Prop :=
  ∀ name, outcome ≠ .error (.unresolved name)

theorem resolved_ok (described : Described) : Resolved (.ok described) := fun _ h => nomatch h

theorem Resolved.bind {outcome : Except DescribeError Described}
    {f : Described → Except DescribeError Described} (h : Resolved outcome)
    (hf : ∀ described, Resolved (f described)) : Resolved (outcome >>= f) := by
  cases outcome with
  | error e => exact h
  | ok described => exact hf described

theorem resolved_describeArray (element : TypeExpr) (marshal : Option MarshalOverride)
    (position : Position) (described : Described) :
    Resolved (describeArray element marshal position described) := by
  intro name h
  unfold describeArray at h
  dsimp only at h
  repeat' split at h
  all_goals simp at h

theorem resolved_describeBuiltin {s : Scope} (hstandard : s.refs.standard.isSome)
    (builtin : Builtin) (form : Option NativeForm) : Resolved (s.describeBuiltin builtin form) := by
  obtain ⟨id, hid⟩ := Option.isSome_iff_exists.mp hstandard
  intro name h
  unfold Scope.describeBuiltin ReferenceTable.standard? at h
  rw [hid] at h
  dsimp only at h
  split at h <;> exact nomatch h

/-- With the standard library, what uses it is resolved. -/
theorem resolved_describeValue {s : Scope} (hstandard : s.refs.standard.isSome) {e : TypeExpr}
    (he : usesStandard e = true) (marshal : Option MarshalOverride) (position : Position) :
    Resolved (s.describeValue e marshal position) := by
  induction e generalizing marshal position with
  | array element ih =>
    unfold Scope.describeValue
    split
    · exact fun _ h => DescribeError.noConfusion (Except.error.inj h)
    · exact (ih he _ _).bind fun _ => resolved_describeArray _ _ _ _
  | pointer target ih =>
    unfold Scope.describeValue
    split
    · exact fun _ h => DescribeError.noConfusion (Except.error.inj h)
    · split
      · exact resolved_ok _
      · exact (ih he _ _).bind fun _ => resolved_ok _
  | builtin builtin => exact resolved_describeBuiltin hstandard _ _
  | _ => exact Bool.noConfusion he

theorem resolved_describe {s : Scope} (hstandard : s.refs.standard.isSome) {e : TypeExpr}
    (he : usesStandard e = true) (marshal : Option MarshalOverride) (position : Position) :
    Resolved (s.describe e marshal position) := by
  refine (resolved_describeValue hstandard he marshal position).bind fun described => ?_
  split <;> exact resolved_ok _

/-! ## Other entries for types of other units -/

/-- The scope with other entries for types of other units. -/
def Scope.withExternal (s : Scope) (entries : List ((String × String) × ExternalRef)) : Scope :=
  { s with refs := { s.refs with external := entries } }

/-- The setting with other entries for types of other units. -/
def Setting.withExternal (s : Setting) (entries : List ((String × String) × ExternalRef)) :
    Setting := { s with scope := s.scope.withExternal entries }

section Entries

variable {s : Setting} {scope : Scope} {entries : List ((String × String) × ExternalRef)}
  {p : Placed} {placed : List Placed} {types : List ExternalType}

/-- The entries are the same for the types of other units in the expressions. -/
def SameEntries (scope : Scope) (entries : List ((String × String) × ExternalRef))
    (expressions : List TypeExpr) : Prop :=
  ∀ e ∈ expressions, ∀ type ∈ e.external?,
    (scope.withExternal entries).refs.external? type = scope.refs.external? type

theorem implemented_withExternal {e : TypeExpr} (h : SameEntries scope entries [e]) :
    implemented (scope.withExternal entries) e = implemented scope e := by
  cases e with
  | external type =>
    unfold implemented
    dsimp only
    rw [h _ List.mem_cons_self type rfl]
  | _ => rfl

theorem implements_withExternal {creatable : Bool} {binding : Option Binding}
    (htarget : p.type.target = .coClass creatable binding)
    (h : SameEntries scope entries p.inheritanceTypes) :
    p.implements (scope.withExternal entries) = p.implements scope := by
  have himplemented : ∀ e ∈ p.inheritanceTypes,
      implemented (scope.withExternal entries) e = implemented scope e := fun e he =>
    implemented_withExternal (List.forall_mem_singleton.mpr (h e he))
  unfold Placed.inheritanceTypes at himplemented
  rw [htarget, List.forall_mem_append, List.forall_mem_append] at himplemented
  obtain ⟨⟨hinterfaces, hdefault⟩, hsources⟩ := himplemented
  have hexplicit : (p.type.decl.classInfo.defaultInterface.bind fun type =>
      (implemented (scope.withExternal entries) type).ref?) =
        p.type.decl.classInfo.defaultInterface.bind fun type => (implemented scope type).ref? := by
    cases hd : p.type.decl.classInfo.defaultInterface with
    | none => rfl
    | some type =>
      rw [hd] at hdefault
      rw [Option.bind_some, Option.bind_some, hdefault type List.mem_cons_self]
  unfold Placed.implements classImplements
  rw [List.map_congr_left hinterfaces, List.map_congr_left hsources, hexplicit]
  rfl

theorem default?_withExternal (h : SameEntries scope entries p.inheritanceTypes) :
    p.default? (scope.withExternal entries) = p.default? scope := by
  unfold Placed.default?
  split
  · next htarget => rw [implements_withExternal htarget h]
  · rfl
  · rfl
  · rfl

theorem inheritanceSteps_withExternal (h : SameEntries scope entries p.inheritanceTypes) :
    inheritanceSteps (scope.withExternal entries) p = inheritanceSteps scope p := by
  unfold inheritanceSteps
  split
  · rfl
  · next htarget =>
    rw [implements_withExternal htarget h]
    rfl
  · rfl
  · rfl

theorem withDefaults_withExternal
    (h : ∀ p ∈ placed, SameEntries scope entries p.inheritanceTypes) :
    withDefaults (scope.withExternal entries) placed =
      { withDefaults scope placed with external := entries } := by
  change List.foldl _ { scope.refs with external := entries } placed = _
  unfold withDefaults
  generalize hrefs : scope.refs = refs
  clear hrefs
  induction placed generalizing refs with
  | nil => rfl
  | cons p later ih =>
    obtain ⟨hp, hlater⟩ := List.forall_mem_cons.mp h
    rw [List.foldl_cons, List.foldl_cons, default?_withExternal hp]
    cases p.default? scope with
    | none => exact ih hlater refs
    | some default => exact ih hlater (refs.setDefault p.type.id default)

/-- What is described stays the same. -/
theorem alike_withExternal (h : ∀ type ∈ types,
    (scope.withExternal entries).refs.external? type = scope.refs.external? type) :
    Alike types scope (scope.withExternal entries) := ⟨rfl, rfl, fun _ => rfl, h, rfl⟩

theorem interfaceFunctions_withExternal {y : Synthesis} {owner : TypeDecl}
    (h : SameEntries y.scope entries (memberTypes owner)) (base : Inherited) :
    interfaceFunctions { y with scope := y.scope.withExternal entries } owner base =
      interfaceFunctions y owner base := by
  have hmade : (owner.members.filter Member.isExportable).map
      (synthesize { y with scope := y.scope.withExternal entries } owner) =
        (owner.members.filter Member.isExportable).map (synthesize y owner) := by
    refine List.map_congr_left fun m hm => ?_
    have hsame : ∀ e ∈ m.ret :: m.params.map (·.type), ∀ type ∈ e.external?,
        (y.scope.withExternal entries).refs.external? type = y.scope.refs.external? type :=
      fun e he => h e (List.mem_flatMap.mpr ⟨m, hm, he⟩)
    have halike : Alike ((m.ret :: m.params.map (·.type)).filterMap TypeExpr.external?) y.scope
        (y.scope.withExternal entries) := alike_withExternal fun type htype => by
      obtain ⟨e, he, htype⟩ := List.mem_filterMap.mp htype
      exact hsame e he type htype
    exact halike.synthesize owner fun e he type htype => List.mem_filterMap.mpr ⟨e, he, htype⟩
  unfold interfaceFunctions
  rw [hmade]

theorem fillInterfaces_withExternal {passedOn : List (TypeId × Inherited)} {order : List Placed}
    (h : ∀ p ∈ order, SameEntries s.scope entries p.describedTypes) :
    fillInterfaces (s.withExternal entries) passedOn order = fillInterfaces s passedOn order := by
  induction order generalizing passedOn with
  | nil => rfl
  | cons p later ih =>
    obtain ⟨hp, hlater⟩ := List.forall_mem_cons.mp h
    unfold fillInterfaces
    cases htarget : p.type.target with
    | interface binding =>
      unfold Placed.describedTypes at hp
      rw [htarget] at hp
      have hmade : p.interfaceFunctions (s.withExternal entries) binding passedOn =
          p.interfaceFunctions s binding passedOn :=
        interfaceFunctions_withExternal (y := s.synthesis binding) hp _
      dsimp only [Target.binding?]
      rw [hmade, ih hlater]
    | _ => exact ih hlater

theorem classInterfaceSteps_withExternal (hclassed : p.IsClassed)
    (h : SameEntries s.scope entries p.describedTypes) :
    classInterfaceSteps (s.withExternal entries) p = classInterfaceSteps s p := by
  unfold classInterfaceSteps
  split
  · next c hc =>
    obtain ⟨creatable, htarget⟩ := hclassed c hc
    unfold Placed.describedTypes at h
    rw [htarget, hc] at h
    exact congrArg _ (interfaceFunctions_withExternal (y := s.synthesis c.binding) h {})
  · rfl

theorem fieldsSteps_withExternal {index : Nat} {fields : List Field}
    (h : SameEntries s.scope entries (fields.map (·.type))) :
    fieldsSteps (s.withExternal entries) p index fields = fieldsSteps s p index fields := by
  induction fields generalizing index with
  | nil => rfl
  | cons f later ih =>
    obtain ⟨hf, hlater⟩ := List.forall_mem_cons.mp h
    have halike : Alike f.type.external?.toList s.scope (s.scope.withExternal entries) :=
      alike_withExternal fun type htype => hf type (Option.mem_toList.mp htype)
    have hdescribe : (s.withExternal entries).scope.describe f.type f.marshal fieldPosition =
        s.scope.describe f.type f.marshal fieldPosition :=
      halike.describe (fun _ => Option.mem_toList.mpr) _ _
    unfold fieldsSteps
    rw [hdescribe]
    split
    · rw [ih hlater]
      rfl
    · rw [ih hlater]

theorem recordSteps_withExternal (h : SameEntries s.scope entries p.describedTypes) :
    recordSteps (s.withExternal entries) p = recordSteps s p := by
  unfold recordSteps
  split
  · next htarget =>
    unfold Placed.describedTypes at h
    rw [htarget] at h
    exact fieldsSteps_withExternal h
  · rfl

/-- **The passes look up nothing but the consulted expressions**: any table with the same entries for
these makes the same library. -/
theorem contents_withExternal (hclassed : ∀ p ∈ placed, p.IsClassed)
    (h : ∀ p ∈ placed, SameEntries s.scope entries p.consulted) :
    contents (s.withExternal entries) placed = contents s placed := by
  have hinheritance : ∀ p ∈ placed, SameEntries s.scope entries p.inheritanceTypes :=
    fun p hp e he => h p hp e (List.mem_append_left _ he)
  have hrefs := withDefaults_withExternal hinheritance
  have hsetting : (s.withExternal entries).withDefaults placed =
      (s.withDefaults placed).withExternal entries := by
    unfold Setting.withDefaults
    change (⟨{ s.scope with refs := withDefaults (s.scope.withExternal entries) placed }, _, _⟩ :
      Setting) = _
    rw [hrefs]
    rfl
  have hdescribed : ∀ p ∈ placed,
      SameEntries (s.withDefaults placed).scope entries p.describedTypes := by
    intro p hp e he type htype
    have hsame := h p hp e (List.mem_append_right _ he) type htype
    exact hsame.trans (external?_withDefaults s.scope placed type).symm
  have hexported : placed.flatMap (·.exported (withDefaults (s.scope.withExternal entries) placed)) =
      placed.flatMap (·.exported (withDefaults s.scope placed)) := by
    rw [hrefs]
    rfl
  have hpasses : passes (s.withExternal entries) placed = passes s placed := by
    have hinterfaces : interfacesSteps ((s.withDefaults placed).withExternal entries) placed =
        interfacesSteps (s.withDefaults placed) placed :=
      fillInterfaces_withExternal fun p hp => by
        obtain ⟨place, -, hplace⟩ := List.mem_filterMap.mp hp
        exact hdescribed p (List.mem_of_getElem? hplace)
    have hderived : placed.flatMap (inheritanceSteps (s.withExternal entries).scope) =
        placed.flatMap (inheritanceSteps s.scope) :=
      List.flatMap_congr fun p hp => inheritanceSteps_withExternal (hinheritance p hp)
    have hclasses : placed.flatMap
        (classInterfaceSteps ((s.withDefaults placed).withExternal entries)) =
          placed.flatMap (classInterfaceSteps (s.withDefaults placed)) :=
      List.flatMap_congr fun p hp =>
        classInterfaceSteps_withExternal (hclassed p hp) (hdescribed p hp)
    have hrecords : placed.flatMap (recordSteps ((s.withDefaults placed).withExternal entries)) =
        placed.flatMap (recordSteps (s.withDefaults placed)) :=
      List.flatMap_congr fun p hp => recordSteps_withExternal (hdescribed p hp)
    unfold passes
    rw [hsetting, hderived, hinterfaces, hclasses, hrecords]
  refine Prod.ext hexported ?_
  rw [contents_eq, contents_eq, hpasses]
  exact congrArg (fun exported => passes s placed ++ exported.map layoutStep) hexported

end Entries

/-! ## What the scan covers -/

/-- The imports cover what the passes look up for the placed types. -/
structure Covered (references : List ReferencedLibrary) (s : Setting) (placed : List Placed) :
    Prop where
  /-- A type of another unit is found exactly if a referenced library covers it, before and after
  classes get their default interfaces. -/
  external : ∀ p ∈ placed, ∀ e ∈ p.consulted, ∀ type ∈ e.external?,
    (s.scope.refs.external? type).isSome = (lookup? references type).isSome ∧
      ((s.withDefaults placed).scope.refs.external? type).isSome = (lookup? references type).isSome
  /-- Identifiers and colours find the standard library, so they are resolved. -/
  standard : ∀ p ∈ placed, ∀ e ∈ p.consulted, usesStandard e = true →
    s.scope.refs.standard.isSome ∧ ∀ marshal position,
      Resolved ((s.withDefaults placed).scope.describe e marshal position)
  /-- The standard library is not missed by a type that derives from it. -/
  present : ∀ name, Step.abort (standardAbsent name) ∉ (contents s placed).2
  /-- Nothing else is looked up. -/
  complete : ∀ entries, (∀ p ∈ placed, SameEntries s.scope entries p.consulted) →
    contents (s.withExternal entries) placed = contents s placed

theorem not_isTooManyFields (name : String) : ¬(standardAbsent name).IsTooManyFields := by
  rintro ⟨record, h⟩
  have hlast := congrArg (fun text : String => text.toList.getLast?) (ExportError.internal.inj h)
  simp [toString, String.toList_append, List.getLast?_cons, List.getLast?_append] at hlast

variable {World Draft Committed : Type} {resolver : Resolver} {references : List ReferencedLibrary}
  {classified : List Classified} {placed : List Placed} {refs : ReferenceTable} {s : Setting}

namespace InPlace

theorem consulted_subset
    (h : InPlace resolver references classified (Needs.scan classified) placed refs) {p : Placed}
    (hp : p ∈ placed) {e : TypeExpr} (he : e ∈ p.consulted) :
    e ∈ classified.flatMap fun c => signatureTypes c.decl :=
  List.mem_flatMap.mpr ⟨p.type, h.type_mem hp, p.consulted_subset he⟩

/-- The table has a consulted type of another unit exactly if a referenced library covers it. -/
theorem isSome_external?
    (h : InPlace resolver references classified (Needs.scan classified) placed refs) {p : Placed}
    (hp : p ∈ placed) {e : TypeExpr} (he : e ∈ p.consulted) {type : ExternalType}
    (htype : type ∈ e.external?) :
    (refs.external? type).isSome = (lookup? references type).isSome := by
  have hneeded : type ∈ (Needs.scan classified).external :=
    List.mem_eraseDups.mpr (List.mem_filterMap.mpr ⟨e, h.consulted_subset hp he, htype⟩)
  exact Bool.eq_iff_iff.mpr ⟨h.covers.covered type, h.covers.found type hneeded⟩

theorem standard_of_usesStandard
    (h : InPlace resolver references classified (Needs.scan classified) placed refs) {p : Placed}
    (hp : p ∈ placed) {e : TypeExpr} (he : e ∈ p.consulted) (huses : usesStandard e = true) :
    refs.standard.isSome := by
  rw [h.standard]
  exact Bool.or_eq_true_iff.mpr (.inr (List.any_eq_true.mpr ⟨e, h.consulted_subset hp he, huses⟩))

/-- **The imports that the scan asks for cover the passes.** -/
theorem covered (h : InPlace resolver references classified (Needs.scan classified) placed refs)
    (hrefs : s.scope.refs = refs) : Covered references s placed where
  external p hp e he type htype := by
    have hsome := h.isSome_external? hp he htype
    have hdefaults : (s.withDefaults placed).scope.refs.external? type = refs.external? type :=
      hrefs ▸ external?_withDefaults s.scope placed type
    exact ⟨hrefs ▸ hsome, hdefaults ▸ hsome⟩
  standard p hp e he huses := by
    have hstandard := h.standard_of_usesStandard hp he huses
    refine ⟨hrefs ▸ hstandard, resolved_describe ?_ huses⟩
    change (withDefaults s.scope placed).standard.isSome
    rw [(upToDefaults_withDefaults s.scope placed).standard, hrefs]
    exact hstandard
  present name habort := not_isTooManyFields name (h.abortWith_contents hrefs _ habort)
  complete entries hsame := contents_withExternal (fun p hp => h.isClassed hp) hsame

end InPlace

/-- **The scan covers everything that is looked up**, whatever the builder answers: once types have
their places and the imports their entries, the passes find each type of another unit that a referenced
library covers, and the standard library. So no run ends because that is missing. -/
theorem covered_placeTypes (b : Builder World Draft Committed) :
    (∀ (resolver : Resolver) (attributes : Attributes) (references : List ReferencedLibrary)
        (classified : List Classified) (p q : Progress World Draft Committed) (placed : List Placed)
        (refs : ReferenceTable),
      (placeTypes b resolver attributes references classified (Needs.scan classified)).run p =
        .ok (placed, refs) q →
      ∀ (unit : Reflection) (settings : Settings),
        Covered references (settingOf unit resolver settings refs) placed) ∧
    ∀ (job : Job) (world : World) (draft : Draft) (f : Failure),
      (job.run b world draft).1 = .error f → ∀ name, f.error.root ≠ standardAbsent name := by
  refine ⟨fun resolver attributes references classified p q placed refs hrun unit settings => ?_,
    fun job world draft f hf name hroot => ?_⟩
  · exact ((ensures_placeTypes_inPlace b).of_ok hrun).covered rfl
  · have hreason := (reason_run b job world draft).1 f hf
    rw [hroot] at hreason
    cases hreason with
    | tooManyFields h => exact not_isTooManyFields name h

/-- A unit that looks up identifiers, colours and two types of another unit. -/
def studio : SourceUnit where
  identity := { name := "Studio", version := { major := 1 }, guid := some (Guid.ofBytes [9]) }
  types :=
    [{ space := "N", name := "Sketch", guid := some (Guid.ofBytes [1])
       body := .record
         [{ name := "id", type := .builtin .guid },
          { name := "style", type := .array (.external ⟨"A", "M", "Style", .enumeration .i32⟩) },
          { name := "paper", type := .external ⟨"A", "M", "Paper", .enumeration .i32⟩ }] },
     { space := "N", name := "ICanvas", guid := some (Guid.ofBytes [2]), body := .interface none
       members := [Member.method "Fill" (.pointer (.builtin .color))] }]

/-- A library that covers one of the two. -/
def styles : ReferencedLibrary where
  unit := "A"
  name := "LA"
  guid := Guid.ofBytes [7]
  version := { major := 1 }
  types := [{ name := "Style", kind := .enumeration, source := some "M.Style" }]

/-- The exported types of the unit. -/
def studioTypes : List Classified :=
  ((classify studio.reflection studio.reflection.ids).toOption).getD []

/-- The places of the types of the unit, and where their references find their targets. -/
def studioPlaces :
    EStateM.Result ExportError (Progress Unit Library.Draft Library)
      (List Placed × ReferenceTable) :=
  (placeTypes Library.Draft.builder Resolver.keep (({} : Settings).attributes studio.identity) [styles]
    studioTypes (Needs.scan studioTypes)).run
      { session := { world := (), references := [styles] }, draft := {}
        queue := Diagnostic.Queue.empty {} }

/-- The passes find the standard library and the type that is covered, and not the other one. -/
theorem studio_covered : ∃ placed refs q, studioPlaces = .ok (placed, refs) q ∧
    placed.map (·.name) = ["Sketch", "ICanvas"] ∧ refs.standard.isSome ∧
    (refs.external? ⟨"A", "M", "Style", .enumeration .i32⟩).isSome = true ∧
    (refs.external? ⟨"A", "M", "Paper", .enumeration .i32⟩).isSome = false ∧
    Covered [styles] (settingOf studio.reflection Resolver.keep {} refs) placed := by
  have hplaces : (match studioPlaces with
      | .ok (placed, refs) _ => decide (placed.map (·.name) = ["Sketch", "ICanvas"] ∧
          refs.standard.isSome ∧
          (refs.external? ⟨"A", "M", "Style", .enumeration .i32⟩).isSome = true ∧
          (refs.external? ⟨"A", "M", "Paper", .enumeration .i32⟩).isSome = false)
      | .error _ _ => false) = true := by
    decide +kernel
  cases hrun : studioPlaces with
  | error e q =>
    rw [hrun] at hplaces
    exact Bool.noConfusion hplaces
  | ok a q =>
    obtain ⟨placed, refs⟩ := a
    rw [hrun] at hplaces
    obtain ⟨hnames, hstandard, hstyle, hpaper⟩ := of_decide_eq_true hplaces
    exact ⟨placed, refs, q, rfl, hnames, hstandard, hstyle, hpaper,
      (covered_placeTypes Library.Draft.builder).1 _ _ _ _ _ q placed refs hrun studio.reflection {}⟩

end Automation.Export
