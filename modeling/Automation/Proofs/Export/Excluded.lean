import Automation.Export.Exporter

/-!
# What is left out in silence

An export says nothing of members that cannot be exported, of fields that are not public and of what
generic and invisible types hold. `Reflection.relevant` is the view of a unit without all that. Every
part of an export makes the same of both views, from the scan for imports to the last step of the
script, so `run_unit_congr` concludes that units of one relevant view are exported alike.
-/

namespace Automation

namespace Source

/-! ## What is relevant -/

/-- Whether an export looks at the member: constructors decide whether a class can be created. -/
def Member.isRelevant (m : Member) : Bool := m.isExportable || m.role == .creator

/-- The body with its public fields only. -/
def TypeBody.shown : TypeBody → TypeBody
  | .record fields => .record (fields.filter (·.isPublic))
  | body => body

/-- The body without fields and constants. -/
def TypeBody.bare : TypeBody → TypeBody
  | .record _ => .record []
  | .enumeration underlying _ => .enumeration underlying []
  | body => body

/-- The declaration without the members and fields that are left out of its type. -/
def TypeDecl.shown (t : TypeDecl) : TypeDecl :=
  { t with body := t.body.shown, members := t.members.filter Member.isRelevant }

/-- The declaration without what it holds. -/
def TypeDecl.bare (t : TypeDecl) : TypeDecl := { t with body := t.body.bare, members := [] }

/-- The declaration without all that is left out in silence: of a type that is generic or not visible
nothing is exported. -/
def TypeDecl.relevant (t : TypeDecl) : TypeDecl :=
  if t.isGeneric || !t.isVisible then t.bare else t.shown

/-- The view of the unit without all that is left out in silence. -/
def Reflection.relevant (u : Reflection) : Reflection :=
  { u with type? := fun id => (u.type? id).map TypeDecl.relevant }

/-- Two views have the same identity and ids, and their types differ at most in what is left out in
silence. -/
structure Reflection.SameRelevant (u v : Reflection) : Prop where
  identity : u.identity = v.identity
  ids : u.ids = v.ids
  types : ∀ id, (u.type? id).map TypeDecl.relevant = (v.type? id).map TypeDecl.relevant

theorem Reflection.SameRelevant.relevant {u v : Reflection} (h : u.SameRelevant v) :
    u.relevant = v.relevant := by
  obtain ⟨identity, ids, types⟩ := u
  obtain ⟨rfl, rfl, htypes⟩ := h
  exact congrArg (Reflection.mk _ _) (funext htypes)

/-- Units in memory are compared type by type. -/
theorem SourceUnit.sameRelevant {u v : SourceUnit} (identity : u.identity = v.identity)
    (types : u.types.map TypeDecl.relevant = v.types.map TypeDecl.relevant) :
    u.reflection.SameRelevant v.reflection where
  identity := identity
  ids := by
    have hlength : u.types.length = v.types.length := by simpa using congrArg List.length types
    simp only [reflection, Reflection.ofTypes, hlength]
  types id := by
    simp only [reflection, Reflection.ofTypes, ← List.getElem?_map, types]

namespace TypeDecl

theorem isRelevant_of_isExportable {m : Member} (h : m.isExportable = true) :
    m.isRelevant = true := by
  simp [Member.isRelevant, h]

theorem filter_isExportable_shown (t : TypeDecl) :
    t.shown.members.filter Member.isExportable = t.members.filter Member.isExportable := by
  simp only [shown, List.filter_filter]
  exact List.filter_congr fun m _ => by
    cases h : m.isExportable <;> simp [isRelevant_of_isExportable, h]

theorem hasDefaultCreator_shown (t : TypeDecl) : t.shown.hasDefaultCreator = t.hasDefaultCreator := by
  simp only [hasDefaultCreator, shown, List.any_filter]
  congr 1
  funext m
  cases h : m.role == Role.creator <;> simp [Member.isRelevant, h]

theorem filter_isPublic_shown (t : TypeDecl) :
    t.shown.fields.filter (·.isPublic) = t.fields.filter (·.isPublic) := by
  unfold fields shown
  cases t.body <;> simp [TypeBody.shown]

theorem classInfo_shown (t : TypeDecl) : t.shown.classInfo = t.classInfo := by
  unfold classInfo shown
  cases t.body <;> rfl

theorem constants_shown (t : TypeDecl) : t.shown.constants = t.constants := by
  unfold constants shown
  cases t.body <;> rfl

theorem body_relevant (t : TypeDecl) :
    t.relevant.body = t.body.bare ∨ t.relevant.body = t.body.shown := by
  unfold relevant
  split
  · exact .inl rfl
  · exact .inr rfl

theorem isObject_relevant (t : TypeDecl) : t.relevant.isObject = t.isObject := by
  unfold isObject
  rcases t.body_relevant with hbody | hbody <;> rw [hbody] <;> cases t.body <;> rfl

theorem isGeneric_relevant (t : TypeDecl) : t.relevant.isGeneric = t.isGeneric := by
  unfold relevant
  split <;> rfl

theorem isVisible_relevant (t : TypeDecl) : t.relevant.isVisible = t.isVisible := by
  unfold relevant
  split <;> rfl

theorem qualified_relevant (t : TypeDecl) : t.relevant.qualified = t.qualified := by
  unfold relevant
  split <;> rfl

end TypeDecl

end Source

namespace Export

open Library Source

/-! ## The exported types -/

/-- The type without the members and fields that are left out of it. -/
def Classified.shown (c : Classified) : Classified := { c with decl := c.decl.shown }

/-- The named type without the members and fields that are left out of it. -/
def NamedType.shown (n : NamedType) : NamedType := { n with type := n.type.shown }

/-- The placed type without the members and fields that are left out of it. -/
def Placed.shown (p : Placed) : Placed := { p with type := p.type.shown }

theorem target?_relevant (t : TypeDecl) : target? t.relevant = target? t := by
  unfold target?
  rw [t.isGeneric_relevant, t.isVisible_relevant]
  split
  · rfl
  · next h =>
    have hshown : t.relevant = t.shown := by rw [TypeDecl.relevant, if_neg h]
    rw [hshown, t.hasDefaultCreator_shown]
    unfold TypeDecl.shown
    cases t.body <;> rfl

theorem relevant_of_target? {t : TypeDecl} {target : Target} (h : target? t = some target) :
    t.relevant = t.shown := by
  unfold target? at h
  split at h
  · cases h
  · next hnot => rw [TypeDecl.relevant, if_neg hnot]

/-- The same types are exported. -/
theorem classify_relevant (unit : Reflection) (ids : List TypeId) :
    classify unit.relevant ids = (classify unit ids).map (List.map Classified.shown) := by
  induction ids with
  | nil => rfl
  | cons id later ih =>
    have htype : unit.relevant.type? id = (unit.type? id).map TypeDecl.relevant := rfl
    unfold classify
    rw [htype, ih]
    cases hdecl : unit.type? id with
    | none => rfl
    | some decl =>
      cases hlater : classify unit later with
      | error e => rfl
      | ok rest =>
        dsimp only [Option.map_some, Except.map]
        rw [target?_relevant]
        cases htarget : target? decl with
        | none => rfl
        | some target => simp [Classified.shown, relevant_of_target? htarget]

/-! ## Imports and names -/

theorem signatureTypes_shown (t : TypeDecl) : signatureTypes t.shown = signatureTypes t := by
  unfold signatureTypes
  rw [t.classInfo_shown, t.filter_isPublic_shown, t.filter_isExportable_shown]
  rfl

/-- The same types of other units are needed. -/
theorem scan_shown (classified : List Classified) :
    Needs.scan (classified.map Classified.shown) = Needs.scan classified := by
  have hexpressions : (classified.map Classified.shown).flatMap (fun c => signatureTypes c.decl) =
      classified.flatMap fun c => signatureTypes c.decl := by
    simp only [List.flatMap_map, Classified.shown, signatureTypes_shown]
  simp only [Needs.scan, hexpressions, List.any_map]
  rfl

theorem registerTypes_shown (resolver : Resolver) (registry : NameRegistry)
    (classified : List Classified) :
    registerTypes resolver registry (classified.map Classified.shown) =
      registerTypes resolver registry classified := by
  induction classified generalizing registry with
  | nil => rfl
  | cons c later ih =>
    simp only [List.map_cons, registerTypes, ih]
    rfl

theorem reserveConstants_shown (resolver : Resolver) (owner : TypeDecl) (enumName : String)
    (registry : NameRegistry) (constants : List EnumConstant) :
    reserveConstants resolver owner.shown enumName registry constants =
      reserveConstants resolver owner enumName registry constants := by
  induction constants generalizing registry with
  | nil => rfl
  | cons c later ih =>
    simp only [reserveConstants, ih]
    rfl

theorem nameConstants_shown (resolver : Resolver) (registry : NameRegistry) (t : TypeDecl) :
    nameConstants resolver registry t.shown = nameConstants resolver registry t := by
  unfold nameConstants
  simp only [reserveConstants_shown]
  unfold TypeDecl.shown
  cases t.body <;> rfl

theorem nameRegistered_shown (resolver : Resolver) (registry : NameRegistry)
    (classified : List Classified) :
    nameRegistered resolver registry (classified.map Classified.shown) =
      ((nameRegistered resolver registry classified).1.map NamedType.shown,
        (nameRegistered resolver registry classified).2) := by
  induction classified generalizing registry with
  | nil => rfl
  | cons c later ih =>
    have hid : c.shown.id = c.id := rfl
    simp only [List.map_cons, nameRegistered, hid]
    cases registry.typeName? c.id with
    | none => rfl
    | some name =>
      have hclass : reserveClassInterface registry c.shown name =
        reserveClassInterface registry c name := rfl
      have hconstants : ∀ registry, nameConstants resolver registry c.shown.decl =
        nameConstants resolver registry c.decl := fun _ => nameConstants_shown _ _ _
      simp only [hclass, hconstants, ih]
      rfl

/-- The types get the same names. -/
theorem nameTypes_shown (resolver : Resolver) (classified : List Classified) :
    nameTypes resolver (classified.map Classified.shown) =
      ((nameTypes resolver classified).1.map NamedType.shown, (nameTypes resolver classified).2) := by
  simp only [nameTypes, registerTypes_shown, nameRegistered_shown]

/-! ## Places -/

section Places

variable {World Draft Committed : Type} (b : Builder World Draft Committed)

theorem createTypes_shown (version : Version) (uses : GuidUses) (named : List NamedType) :
    createTypes b version uses (named.map NamedType.shown) =
      List.map Placed.shown <$> createTypes b version uses named := by
  induction named generalizing uses with
  | nil => rfl
  | cons n later ih =>
    have hclass : createClassInterface b version uses n.shown =
      createClassInterface b version uses n := rfl
    have hplace : typePlaceholder n.shown.type n.shown.name = typePlaceholder n.type n.name := rfl
    simp only [List.map_cons, createTypes, hclass, hplace, ih, map_bind, bind_map_left, map_pure]
    rfl

theorem ownReferences_shown (placed : List Placed) (standard : Option ImportId) :
    ownReferences (placed.map Placed.shown) standard = ownReferences placed standard := by
  simp only [ownReferences, List.foldl_map]
  rfl

/-- The types get the same places. -/
theorem placeTypes_shown (resolver : Resolver) (attributes : Attributes)
    (references : List ReferencedLibrary) (classified : List Classified) (needs : Needs) :
    placeTypes b resolver attributes references (classified.map Classified.shown) needs =
      (fun placed => (placed.1.map Placed.shown, placed.2)) <$>
        placeTypes b resolver attributes references classified needs := by
  simp only [placeTypes, nameTypes_shown, createTypes_shown, map_bind, bind_map_left,
    ownReferences_shown, map_pure]

end Places

/-! ## Descriptors -/

/-- The scope that sees of each type what is relevant. -/
def Scope.relevant (s : Scope) : Scope :=
  { s with type? := fun id => (s.type? id).map TypeDecl.relevant }

namespace Scope

variable (s : Scope)

theorem describeNamed_relevant (id : TypeId) (form : Option NativeForm) :
    s.relevant.describeNamed id form = s.describeNamed id form := by
  have htype : s.relevant.type? id = (s.type? id).map TypeDecl.relevant := rfl
  have hobject : s.relevant.ownObject? id = s.ownObject? id := rfl
  unfold describeNamed
  rw [htype, hobject]
  cases s.type? id with
  | none => rfl
  | some t =>
    simp only [Option.map_some, t.qualified_relevant]
    rcases t.body_relevant with hbody | hbody <;> rw [hbody] <;> cases t.body <;> rfl

theorem describeValue_relevant (e : TypeExpr) (marshal : Option MarshalOverride)
    (position : Position) :
    s.relevant.describeValue e marshal position = s.describeValue e marshal position := by
  induction e generalizing marshal position with
  | array element ih => simp only [describeValue, ih]
  | pointer target ih => simp only [describeValue, ih]
  | named id => simp only [describeValue, describeNamed_relevant]
  | void | scalar | text | textBuffer | object | builtin | external | generic => rfl

/-- Expressions are described alike. -/
theorem describe_relevant : s.relevant.describe = s.describe := by
  funext e marshal position
  simp only [describe, describeValue_relevant]

theorem isObjectRef_relevant : s.relevant.isObjectRef = s.isObjectRef := by
  funext e
  cases e with
  | named id =>
    change ((s.type? id).map TypeDecl.relevant).any TypeDecl.isObject = _
    rw [Option.any_map]
    congr 1
    exact funext TypeDecl.isObject_relevant
  | _ => rfl

end Scope

/-! ## Contents -/

/-- The setting whose scope sees of each type what is relevant. -/
def Setting.relevant (s : Setting) : Setting := { s with scope := s.scope.relevant }

theorem implemented_relevant (s : Scope) : implemented s.relevant = implemented s := by
  funext e
  cases e with
  | named id =>
    have htype : s.relevant.type? id = (s.type? id).map TypeDecl.relevant := rfl
    have hrefs : s.relevant.refs = s.refs := rfl
    unfold implemented
    dsimp only
    rw [htype, hrefs]
    cases s.type? id with
    | none => rfl
    | some t =>
      simp only [Option.map_some, t.isVisible_relevant, t.isGeneric_relevant, t.qualified_relevant]
  | _ => rfl

theorem implements_shown (s : Scope) (p : Placed) : p.shown.implements s.relevant = p.implements s := by
  have hclass : p.shown.type.decl.classInfo = p.type.decl.classInfo := p.type.decl.classInfo_shown
  unfold Placed.implements classImplements
  rw [implemented_relevant, hclass]
  rfl

theorem inheritanceSteps_shown (s : Scope) (p : Placed) :
    inheritanceSteps s.relevant p.shown = inheritanceSteps s p := by
  unfold inheritanceSteps
  rw [implements_shown]
  rfl

theorem withDefaults_shown (s : Scope) (placed : List Placed) :
    withDefaults s.relevant (placed.map Placed.shown) = withDefaults s placed := by
  have hdefault : ∀ p : Placed, p.shown.default? s.relevant = p.default? s := by
    intro p
    unfold Placed.default?
    rw [implements_shown]
    rfl
  simp only [withDefaults, List.foldl_map, hdefault]
  rfl

/-- A member of a type makes the same function. -/
theorem synthesize_relevant (s : Setting) (binding : Binding) (owner : TypeDecl) (m : Member) :
    synthesize (s.relevant.synthesis binding) owner.shown m =
      synthesize (s.synthesis binding) owner m := by
  have hparameter : describeParameter s.scope.relevant = describeParameter s.scope := by
    funext p
    simp only [describeParameter, Scope.describe_relevant]
  have hparameters : describeParameters s.scope.relevant = describeParameters s.scope := by
    funext params
    induction params with
    | nil => rfl
    | cons p later ih => simp only [describeParameters, hparameter, ih]
  have hsignature : describeSignature s.scope.relevant m = describeSignature s.scope m := by
    simp only [describeSignature, hparameters, Scope.describe_relevant]
  have hinvoke : invokeKind? s.scope.relevant m = invokeKind? s.scope m := by
    simp only [invokeKind?, Scope.isObjectRef_relevant]
  have hquestions : memberQuestions s.scope.relevant owner.shown m =
      memberQuestions s.scope owner m := by
    simp only [memberQuestions, hparameter]
    rfl
  have hscope : (s.relevant.synthesis binding).scope = s.scope.relevant := rfl
  have hscope' : (s.synthesis binding).scope = s.scope := rfl
  unfold synthesize
  rw [hscope, hscope', hinvoke, hquestions, hsignature]
  rfl

/-- A type makes the same functions. -/
theorem interfaceFunctions_shown (s : Setting) (binding : Binding) (owner : TypeDecl)
    (base : Inherited) :
    interfaceFunctions (s.relevant.synthesis binding) owner.shown base =
      interfaceFunctions (s.synthesis binding) owner base := by
  have hmade : synthesize (s.relevant.synthesis binding) owner.shown =
      synthesize (s.synthesis binding) owner := funext (synthesize_relevant s binding owner)
  unfold interfaceFunctions
  rw [hmade, owner.filter_isExportable_shown]
  rfl

theorem fillInterfaces_shown (s : Setting) (passedOn : List (TypeId × Inherited))
    (placed : List Placed) :
    fillInterfaces s.relevant passedOn (placed.map Placed.shown) = fillInterfaces s passedOn placed := by
  induction placed generalizing passedOn with
  | nil => rfl
  | cons p later ih =>
    have hfunctions : ∀ binding, p.shown.interfaceFunctions s.relevant binding passedOn =
      p.interfaceFunctions s binding passedOn := fun binding =>
        interfaceFunctions_shown s binding p.type.decl _
    have htarget : p.shown.type.target = p.type.target := rfl
    simp only [List.map_cons, fillInterfaces, htarget, hfunctions, ih]
    rfl

theorem interfacesSteps_shown (s : Setting) (placed : List Placed) :
    interfacesSteps s.relevant (placed.map Placed.shown) = interfacesSteps s placed := by
  have hlinks : (placed.map Placed.shown).map (fun p => p.link s.relevant.scope.refs) =
      placed.map fun p => p.link s.scope.refs := by
    rw [List.map_map]
    rfl
  have hfill := fillInterfaces_shown s []
    ((baseFirst (placed.map fun p => p.link s.scope.refs)).filterMap (placed[·]?))
  rw [List.map_filterMap] at hfill
  unfold interfacesSteps
  rw [hlinks, ← hfill]
  simp only [List.getElem?_map]

theorem classInterfaceSteps_shown (s : Setting) (p : Placed) :
    classInterfaceSteps s.relevant p.shown = classInterfaceSteps s p := by
  have hclass : p.shown.classInterface = p.classInterface := rfl
  unfold classInterfaceSteps
  rw [hclass]
  cases p.classInterface with
  | none => rfl
  | some c =>
    exact congrArg (interfaceSteps c.name c.handle)
      (interfaceFunctions_shown s c.binding p.type.decl {})

theorem fieldsSteps_shown (s : Setting) (p : Placed) (index : Nat) (fields : List Field) :
    fieldsSteps s.relevant p.shown index fields = fieldsSteps s p index fields := by
  have hscope : s.relevant.scope = s.scope.relevant := rfl
  induction fields generalizing index with
  | nil => rfl
  | cons f later ih =>
    simp only [fieldsSteps, hscope, Scope.describe_relevant, ih]
    rfl

theorem recordSteps_shown (s : Setting) (p : Placed) :
    recordSteps s.relevant p.shown = recordSteps s p := by
  have hfields : p.shown.type.decl.fields.filter (·.isPublic) =
    p.type.decl.fields.filter (·.isPublic) := p.type.decl.filter_isPublic_shown
  unfold recordSteps
  rw [hfields, fieldsSteps_shown]
  rfl

theorem constantsSteps_shown (p : Placed) (index : Nat)
    (constants : List (EnumConstant × Option String)) :
    constantsSteps p.shown index constants = constantsSteps p index constants := by
  induction constants generalizing index with
  | nil => rfl
  | cons first later ih =>
    obtain ⟨c, _ | name⟩ := first <;> simp only [constantsSteps, ih] <;> rfl

theorem enumSteps_shown (p : Placed) : enumSteps p.shown = enumSteps p := by
  have hconstants : p.shown.type.decl.constants = p.type.decl.constants :=
    p.type.decl.constants_shown
  unfold enumSteps
  rw [hconstants, constantsSteps_shown]
  rfl

/-- **The same goes into the types.** -/
theorem contents_shown (s : Setting) (placed : List Placed) :
    contents s.relevant (placed.map Placed.shown) = contents s placed := by
  have hscope : s.relevant.scope = s.scope.relevant := rfl
  have hfilled : ∀ refs : ReferenceTable,
      ({ s.relevant with scope := { s.scope.relevant with refs := refs } } : Setting) =
        ({ s with scope := { s.scope with refs := refs } } : Setting).relevant := fun _ => rfl
  have hexported : ∀ refs, (placed.map Placed.shown).flatMap (fun p => p.exported refs) =
      placed.flatMap fun p => p.exported refs := by
    intro refs
    rw [List.flatMap_map]
    rfl
  simp only [contents, hscope, withDefaults_shown, hfilled, hexported, List.flatMap_map,
    inheritanceSteps_shown, interfacesSteps_shown, classInterfaceSteps_shown, recordSteps_shown,
    enumSteps_shown]

/-! ## Exports -/

section Exports

variable {World Draft Committed : Type} (b : Builder World Draft Committed)

theorem build_relevant (resolver : Resolver) (settings : Settings) (unit : Reflection)
    (available : List Reflection)
    (exportUnit : (unit : Reflection) → unit ∈ available → Session World Committed → Draft →
      UnitOutcome World Committed) :
    build b resolver settings unit.relevant available exportUnit =
      build b resolver settings unit available exportUnit := by
  have hidentity : unit.relevant.identity = unit.identity := rfl
  have hids : unit.relevant.ids = unit.ids := rfl
  have hsetting : ∀ refs, ({
      scope := { type? := unit.relevant.type?, refs := refs, width := settings.pointerWidth }
      resolver := resolver, settings := settings } : Setting) = ({
      scope := { type? := unit.type?, refs := refs, width := settings.pointerWidth }
      resolver := resolver, settings := settings } : Setting).relevant := fun _ => rfl
  unfold build
  rw [hidentity, hids, classify_relevant]
  cases hclassified : classify unit unit.ids with
  | error e =>
    -- Neither continuation is run, so the two are not compared.
    have hthrow : ∀ {α β : Type} (f : α → ExportM World Draft Committed β),
        MonadExcept.ofExcept (.error e) >>= f = throw e := fun _ => rfl
    rw [Except.map, hthrow, hthrow]
  | ok classified =>
    simp only [MonadExcept.ofExcept, Except.map, pure_bind, scan_shown, placeTypes_shown, bind_map_left,
      hsetting, contents_shown]

/-- **A unit is exported as its relevant view is.** -/
theorem exportUnit_relevant (resolver : Resolver) (settings : Settings) (available : List Reflection)
    (unit : Reflection) (session : Session World Committed) (draft : Draft) :
    exportUnit b resolver settings available unit.relevant session draft =
      exportUnit b resolver settings available unit session draft := by
  have hidentity : unit.relevant.identity = unit.identity := rfl
  rw [exportUnit, exportUnit, hidentity, build_relevant]

end Exports

/-- **What is left out in silence is inert**: jobs whose units differ in nothing else have one outcome,
failures included, and leave the builder the same. -/
theorem run_unit_congr {World Draft Committed : Type} (b : Builder World Draft Committed) (job : Job)
    {unit : Reflection} (h : job.unit.SameRelevant unit) (world : World) (draft : Draft) :
    ({ job with unit := unit } : Job).run b world draft = job.run b world draft := by
  have hidentity : unit.identity = job.unit.identity := h.identity.symm
  have hexport : ∀ available (session : Session World Committed),
      exportUnit b job.resolver job.settings available unit session draft =
        exportUnit b job.resolver job.settings available job.unit session draft := by
    intro available session
    rw [← exportUnit_relevant, ← h.relevant, exportUnit_relevant]
  simp only [Job.run, hexport, without, hidentity]

/-- A unit with a static member, a hidden one that refers to another unit, a private field and an enum
that is not visible. -/
def vault : SourceUnit where
  identity := { name := "Vault", version := { major := 1 } }
  types := [
    { space := "N", name := "Safe", body := .interface none
      members := [Member.method "Open" (.scalar .i32),
        { Member.method "Forge" .void with isStatic := true },
        { Member.method "Peek" (.external ⟨"Optics", "M", "Lens", .interface⟩) with
          markers := { notVisible := true } }] },
    { space := "N", name := "Coin"
      body := .record [{ name := "Value", type := .scalar .i32 },
        { name := "Weight", type := .scalar .f64, isPublic := false }] },
    { space := "N", name := "Code", body := .enumeration .i32 [{ name := "Red", value := 1 }]
      isPublic := false }]

/-- The unit without all that. -/
def plainVault : SourceUnit where
  identity := { name := "Vault", version := { major := 1 } }
  types := [
    { space := "N", name := "Safe", body := .interface none
      members := [Member.method "Open" (.scalar .i32)] },
    { space := "N", name := "Coin", body := .record [{ name := "Value", type := .scalar .i32 }] },
    { space := "N", name := "Code", body := .enumeration .i32 [], isPublic := false }]

/-- The unit that only the hidden member refers to. -/
def optics : SourceUnit where
  identity := { name := "Optics", version := { major := 1 } }
  types := [{ space := "M", name := "Lens", body := .interface none }]

/-- The export of the first unit, with the other one on demand. -/
def vaultJob : Job where
  unit := vault.reflection
  settings := { generateReferences := true }
  dependencies := [optics.reflection]

theorem vaultJob_run : vaultJob.unit.SameRelevant plainVault.reflection ∧
    ({ vaultJob with unit := plainVault.reflection } : Job).run Draft.builder () {} =
      vaultJob.run Draft.builder () {} :=
  have hsame : vaultJob.unit.SameRelevant plainVault.reflection :=
    SourceUnit.sameRelevant rfl (by decide)
  ⟨hsame, run_unit_congr Draft.builder vaultJob hsame () {}⟩

end Export

end Automation
