import Automation.Proofs.Export.Makers
import Automation.Proofs.Export.Scoping
import Automation.Proofs.Export.Units

/-!
# Members accounted for

Every member of an exported interface, or of a class that gets an interface, is accounted for in a
library: it is a function in its place, it is said to be left out, or it is nothing that is exported.
`accounted_run` says so of all libraries of a successful run.
-/

namespace Automation.Export

open Library Source Diagnostic

/-! ## Members with a description -/

/-- Whether all parameters and the return type of a member can be described. -/
def Scope.describes (s : Scope) (m : Member) : Bool :=
  (m.params.all fun p => (describeParameter s p).toBool) &&
    (s.describe m.ret m.retMarshal returnPosition).toBool

theorem toBool_describeParameters (s : Scope) (params : List Parameter) :
    (describeParameters s params).toBool =
      params.all fun p => (describeParameter s p).toBool := by
  induction params with
  | nil => rfl
  | cons p later ih =>
    rw [List.all_cons, ← ih]
    rw [describeParameters]
    cases describeParameter s p with
    | error e => rfl
    | ok described => cases describeParameters s later <;> rfl

theorem toBool_describeSignature (s : Scope) (m : Member) :
    (describeSignature s m).toBool = s.describes m := by
  unfold Scope.describes describeSignature
  rw [← toBool_describeParameters]
  cases describeParameters s m.params with
  | error e => rfl
  | ok params => cases s.describe m.ret m.retMarshal returnPosition <;> rfl

theorem invokeKind?_isSome {s : Scope} {m : Member} (h : m.isExportable = true) :
    (invokeKind? s m).isSome := by
  unfold Member.isExportable at h
  unfold invokeKind?
  cases hrole : m.role with
  | method => rfl
  | getter property => rfl
  | setter property =>
    dsimp only
    cases m.params.getLast? <;> rfl
  | creator => simp [hrole] at h

/-- **An exportable member makes a function exactly if it can be described.** -/
theorem isSome_synthesize {m : Member} (h : m.isExportable = true) (y : Synthesis)
    (owner : TypeDecl) : (synthesize y owner m).1.isSome = y.scope.describes m := by
  obtain ⟨invoke, hinvoke⟩ := Option.isSome_iff_exists.mp (invokeKind?_isSome (s := y.scope) h)
  rw [fst_synthesize, hinvoke, ← toBool_describeSignature]
  cases describeSignature y.scope m <;> rfl

theorem makers_eq (y : Synthesis) (owner : TypeDecl) :
    makers y owner = owner.members.filter fun m => m.isExportable && y.scope.describes m := by
  unfold makers
  rw [List.filter_filter]
  refine List.filter_congr fun m _ => ?_
  cases h : m.isExportable with
  | false => simp
  | true => simp [isSome_synthesize h]

/-! ## Members that are left out -/

variable {y : Synthesis} {owner : TypeDecl} {base : Inherited}

/-- The member is exportable and left out, and the diagnostic says why. -/
def LeftOut (s : Scope) (owner : TypeDecl) (m : Member) (d : Diagnostic) : Prop :=
  m.isExportable = true ∧ ∃ part error, describeSignature s m = .error (part, error) ∧
    d = excludedMember (memberSubject owner m) part error

/-- Something was lost in the signature of the member, and the diagnostic says so. -/
def Degrades (s : Scope) (owner : TypeDecl) (m : Member) (d : Diagnostic) : Prop :=
  m.isExportable = true ∧ ∃ signature, describeSignature s m = .ok signature ∧
    ∃ loss ∈ signature.degradations, d = degraded (memberSubject owner m) loss

/-- What is said about the functions of an interface: that a member is left out, that something was
lost in a signature, or that an identity did not get its id. -/
theorem raised_cases {d : Diagnostic}
    (h : Remark.raised d ∈ (interfaceFunctions y owner base).remarks) :
    (∃ m ∈ owner.members, LeftOut y.scope owner m d) ∨
      (∃ m ∈ owner.members, Degrades y.scope owner m d) ∨ d.code = .idReassigned := by
  rcases List.mem_append.mp h with h | h
  · obtain ⟨made, hmade, h⟩ := List.mem_flatMap.mp h
    obtain ⟨m, hm, rfl⟩ := List.mem_map.mp hmade
    obtain ⟨hm, hexportable⟩ := List.mem_filter.mp hm
    obtain ⟨invoke, hinvoke⟩ := Option.isSome_iff_exists.mp
      (invokeKind?_isSome (s := y.scope) hexportable)
    unfold synthesize at h
    rw [hinvoke] at h
    cases hsignature : describeSignature y.scope m with
    | error e =>
      rcases e with ⟨part, error⟩
      rw [hsignature] at h
      rcases List.mem_append.mp h with h | h
      · obtain ⟨question, -, hasked⟩ := List.mem_map.mp h
        exact Remark.noConfusion hasked
      · refine .inl ⟨m, hm, hexportable, part, error, hsignature, ?_⟩
        exact Remark.raised.inj (List.mem_singleton.mp h)
    | ok signature =>
      rw [hsignature] at h
      rcases List.mem_append.mp h with h | h
      · obtain ⟨question, -, hasked⟩ := List.mem_map.mp h
        exact Remark.noConfusion hasked
      · obtain ⟨loss, hloss, hraised⟩ := List.mem_map.mp h
        refine .inr (.inl ⟨m, hm, hexportable, signature, hsignature, loss, hloss, ?_⟩)
        exact (Remark.raised.inj hraised).symm
  · obtain ⟨moved, -, hraised⟩ := List.mem_map.mp h
    rw [← Remark.raised.inj hraised]
    exact .inr (.inr rfl)

/-- What is said about members that are left out is said about these. -/
theorem exists_leftOut {d : Diagnostic}
    (h : Remark.raised d ∈ (interfaceFunctions y owner base).remarks)
    (hcode : d.code = .memberExcluded) : ∃ m ∈ owner.members, LeftOut y.scope owner m d := by
  rcases raised_cases h with hleftOut | ⟨m, -, -, signature, -, loss, -, rfl⟩ | hmoved
  · exact hleftOut
  · have hdegraded := (isMild_degraded (memberSubject owner m) loss).1
    rw [hcode] at hdegraded
    exact absurd hdegraded (by decide)
  · exact Diagnostic.Code.noConfusion (hmoved.symm.trans hcode)

/-- An exportable member that cannot be described is said to be left out. -/
theorem raised_excludedMember {m : Member} (hm : m ∈ owner.members) (h : m.isExportable = true)
    (hdescribes : y.scope.describes m = false) :
    ∃ d, Remark.raised d ∈ (interfaceFunctions y owner base).remarks ∧
      d.code = .memberExcluded ∧ d.subject = some (memberSubject owner m) := by
  obtain ⟨invoke, hinvoke⟩ := Option.isSome_iff_exists.mp (invokeKind?_isSome (s := y.scope) h)
  rw [← toBool_describeSignature] at hdescribes
  cases hsignature : describeSignature y.scope m with
  | ok signature =>
    rw [hsignature] at hdescribes
    exact Bool.noConfusion hdescribes
  | error e =>
    rcases e with ⟨part, error⟩
    refine ⟨excludedMember (memberSubject owner m) part error, List.mem_append_left _ ?_, rfl, rfl⟩
    refine List.mem_flatMap.mpr ⟨_, List.mem_map_of_mem (List.mem_filter.mpr ⟨hm, h⟩), ?_⟩
    unfold synthesize
    rw [hinvoke, hsignature]
    exact List.mem_append_right _ List.mem_cons_self

/-- What is lost in the signature of an exportable member is said about it. -/
theorem raised_of_degrades {m : Member} (hm : m ∈ owner.members) {d : Diagnostic}
    (h : Degrades y.scope owner m d) : Remark.raised d ∈ (interfaceFunctions y owner base).remarks := by
  obtain ⟨hexportable, signature, hsignature, loss, hloss, rfl⟩ := h
  obtain ⟨invoke, hinvoke⟩ :=
    Option.isSome_iff_exists.mp (invokeKind?_isSome (s := y.scope) hexportable)
  refine List.mem_append_left _ (List.mem_flatMap.mpr ⟨_, List.mem_map_of_mem
    (List.mem_filter.mpr ⟨hm, hexportable⟩), ?_⟩)
  unfold synthesize
  rw [hinvoke, hsignature]
  exact List.mem_append_right _ (List.mem_map.mpr ⟨loss, hloss, rfl⟩)

/-! ## Interfaces that are filled -/

/-- The functions of the interface at a handle are made from the members of a placed type. It is the
type itself, or was made from it as a class. -/
inductive IsFilled (s : Setting) (placed : List Placed) (p : Placed) :
    Handle → Binding → Inherited → Prop where
  | interface {binding : Binding} {base : Inherited} :
    (p, interfaceFunctions (s.synthesis binding) p.type.decl base) ∈ filling s placed →
    p.type.target = .interface binding → IsFilled s placed p p.handle binding base
  | classInterface {c : ClassInterface} : p ∈ placed → c ∈ p.classInterface →
    IsFilled s placed p c.handle c.binding {}

variable {s : Setting} {placed : List Placed} {p : Placed} {k : Handle} {binding : Binding}

theorem IsFilled.mem (h : IsFilled s placed p k binding base) : p ∈ placed := by
  cases h with
  | interface hfill htarget => exact (mem_filling hfill).1
  | classInterface hp hc => exact hp

theorem isFilled_of_mem_filling {f : Placed × InterfaceFunctions} (h : f ∈ filling s placed) :
    ∃ binding base, IsFilled s placed f.1 f.1.handle binding base ∧
      f.2 = interfaceFunctions (s.synthesis binding) f.1.type.decl base := by
  obtain ⟨-, binding, base, htarget, hmade⟩ := mem_filling h
  refine ⟨binding, base, .interface ?_ htarget, hmade⟩
  rw [← hmade]
  exact h

/-- Every interface is filled. -/
theorem isFilled_of_interface (hp : p ∈ placed) (htarget : p.type.target = .interface binding) :
    ∃ base, IsFilled s placed p p.handle binding base := by
  obtain ⟨made, hfill⟩ := exists_mem_filling (s := s) hp (by rw [htarget]; rfl)
  obtain ⟨-, binding', base, htarget', hmade⟩ := mem_filling hfill
  obtain rfl := Target.interface.inj (htarget.symm.trans htarget')
  refine ⟨base, .interface ?_ htarget⟩
  rw [← show made = _ from hmade]
  exact hfill

theorem remark_mem_interfaceSteps {r : Remark} {name : String} {made : InterfaceFunctions} :
    Step.remark r ∈ interfaceSteps name k made ↔ r ∈ made.remarks := by
  unfold interfaceSteps functionSteps
  simp

/-- What is said about the contents of a library is said about what a type derives from, where an
interface is filled, about the fields of a record or about the constants of an enum. -/
theorem said_cases {d : Diagnostic} (h : d ∈ said (contents s placed).2) :
    d.code ∈ inheritanceCodes ∨
      (∃ p k binding base, IsFilled (s.withDefaults placed) placed p k binding base ∧
        Remark.raised d ∈ (interfaceFunctions ((s.withDefaults placed).synthesis binding) p.type.decl
          base).remarks) ∨
      (∃ p ∈ placed, Step.remark (.raised d) ∈ recordSteps (s.withDefaults placed) p) ∨
      d.code ∈ constantCodes := by
  have hinheritance : AllOf .inheritance inheritanceCodes (placed.flatMap (inheritanceSteps s.scope)) :=
    allOf_flatMap fun p _ => allOf_inheritance _ p
  have henums : AllOf .members constantCodes (placed.flatMap enumSteps) :=
    allOf_flatMap fun p _ => allOf_enum p
  rw [mem_said, contents_eq, passes] at h
  simp only [List.mem_append] at h
  rcases h with ((((h | h) | h) | h) | h) | h
  · exact .inl (hinheritance _ h).1
  · rw [interfacesSteps_eq] at h
    obtain ⟨f, hfill, h⟩ := List.mem_flatMap.mp h
    obtain ⟨binding, base, hfilled, hmade⟩ := isFilled_of_mem_filling hfill
    rw [hmade] at h
    exact .inr (.inl ⟨f.1, _, binding, base, hfilled, remark_mem_interfaceSteps.mp h⟩)
  · obtain ⟨p, hp, h⟩ := List.mem_flatMap.mp h
    unfold classInterfaceSteps at h
    split at h
    · next c hc =>
      exact .inr (.inl ⟨p, _, _, {}, .classInterface hp hc, remark_mem_interfaceSteps.mp h⟩)
    · exact (List.not_mem_nil h).elim
  · exact .inr (.inr (.inl (List.mem_flatMap.mp h)))
  · exact .inr (.inr (.inr (henums _ h).1))
  · obtain ⟨t, -, hlayout⟩ := List.mem_map.mp h
    exact Step.noConfusion hlayout

/-- What is said about members that are left out is said where an interface is filled. -/
theorem exists_isFilled {d : Diagnostic} (h : d ∈ said (contents s placed).2)
    (hcode : d.code = .memberExcluded) :
    ∃ p k binding base, IsFilled (s.withDefaults placed) placed p k binding base ∧
      Remark.raised d ∈ (interfaceFunctions ((s.withDefaults placed).synthesis binding) p.type.decl
        base).remarks := by
  rcases said_cases h with hother | hfilled | ⟨p, -, hrecord⟩ | hother
  · rw [hcode] at hother
    exact absurd hother (by decide)
  · exact hfilled
  · have hother : d.code ∈ fieldCodes := (allOf_record _ p _ hrecord).1
    rw [hcode] at hother
    exact absurd hother (by decide)
  · rw [hcode] at hother
    exact absurd hother (by decide)

/-- What is said where an interface is filled is said about the library. -/
theorem IsFilled.said (h : IsFilled (s.withDefaults placed) placed p k binding base) {d : Diagnostic}
    (hd : Remark.raised d ∈ (interfaceFunctions ((s.withDefaults placed).synthesis binding)
      p.type.decl base).remarks) : d ∈ said (contents s placed).2 := by
  rw [mem_said, contents_eq, passes]
  simp only [List.mem_append]
  refine .inl (.inl (.inl ?_))
  cases h with
  | interface hfill htarget =>
    refine .inl (.inr ?_)
    rw [interfacesSteps_eq]
    exact List.mem_flatMap.mpr ⟨_, hfill, remark_mem_interfaceSteps.mpr hd⟩
  | @classInterface c hp hc =>
    refine .inr (List.mem_flatMap.mpr ⟨p, hp, ?_⟩)
    unfold classInterfaceSteps
    rw [Option.mem_def.mp hc]
    exact remark_mem_interfaceSteps.mpr hd

/-- The steps for the fields of a record are steps for the library. -/
theorem record_mem_contents (hp : p ∈ placed) {step : Step}
    (h : step ∈ recordSteps (s.withDefaults placed) p) : step ∈ (contents s placed).2 := by
  rw [contents_eq, passes]
  simp only [List.mem_append]
  exact .inl (.inl (.inr (List.mem_flatMap.mpr ⟨p, hp, h⟩)))

/-- The steps for the constants of an enum are steps for the library. -/
theorem enum_mem_contents (hp : p ∈ placed) {step : Step} (h : step ∈ enumSteps p) :
    step ∈ (contents s placed).2 := by
  rw [contents_eq, passes]
  simp only [List.mem_append]
  exact .inl (.inr (List.mem_flatMap.mpr ⟨p, hp, h⟩))

/-! ## Libraries -/

/-- What became of a type of the unit. -/
def ExportedLibrary.info? (l : ExportedLibrary Library) (id : TypeId) : Option TypeInfo :=
  (l.exported.find? fun t => t.id == some id).bind fun t => l.library.type? t.handle

/-- The interface made from the members of a class, which stands right before the class. -/
def ExportedLibrary.classInterfaceInfo? (l : ExportedLibrary Library) (id : TypeId) :
    Option TypeInfo :=
  (l.exported.findIdx? fun t => t.id == some id).bind fun place =>
    (l.exported[place - 1]?.filter fun t => t.id.isNone).bind fun t => l.library.type? t.handle

/-- What the functions of an interface of a library are made with. -/
def ExportedLibrary.synthesis (l : ExportedLibrary Library) (unit : Reflection) (resolver : Resolver)
    (settings : Settings) (references : List ReferencedLibrary) (binding : Binding) : Synthesis where
  scope := l.scope unit references
  resolver := resolver
  settings := settings
  binding := binding

/-- The members of a declaration are accounted for: the functions are what those make that can be
described, in order, and of each of the others it is said that it is left out. -/
structure Tallied (y : Synthesis) (owner : TypeDecl) (diagnostics : List Diagnostic)
    (functions : List FunctionInfo) : Prop where
  functions : MadeFrom y owner
    (owner.members.filter fun m => m.isExportable && y.scope.describes m) functions
  leftOut : ∀ m ∈ owner.members, m.isExportable = true → y.scope.describes m = false →
    ∃ d ∈ diagnostics, d.code = .memberExcluded ∧ d.subject = some (memberSubject owner m)

theorem MadeFrom.congr {y y' : Synthesis} {members : List Member} {functions : List FunctionInfo}
    (h : MadeFrom y owner members functions)
    (hsame : ∀ m ∈ members, (synthesize y' owner m).1 = (synthesize y owner m).1) :
    MadeFrom y' owner members functions := by
  unfold MadeFrom at *
  induction h with
  | nil => exact .nil
  | cons hmade _ ih =>
    obtain ⟨hfirst, hlater⟩ := List.forall_mem_cons.mp hsame
    refine .cons ?_ (ih hlater)
    rwa [hfirst]

theorem Alike.describes {types : List ExternalType} {s s' : Scope} (h : Alike types s s') {m : Member}
    (hm : Lists types m) : s'.describes m = s.describes m := by
  rw [← toBool_describeSignature, ← toBool_describeSignature, h.describeSignature hm]

/-- The same members can be described in every scope that answers as theirs does. -/
theorem Alike.filter_describes {types : List ExternalType} {s s' : Scope} (h : Alike types s s')
    (hlists : ∀ m ∈ owner.members, m.isExportable = true → Lists types m) :
    (owner.members.filter fun m => m.isExportable && s'.describes m) =
      owner.members.filter fun m => m.isExportable && s.describes m := by
  refine List.filter_congr fun m hm => ?_
  cases hexportable : m.isExportable with
  | false => rfl
  | true => rw [h.describes (hlists m hm hexportable)]

/-- Members make the same functions in every scope that answers as theirs does. -/
theorem MadeFrom.alike {y : Synthesis} {functions : List FunctionInfo}
    (h : MadeFrom y owner (owner.members.filter fun m => m.isExportable && y.scope.describes m)
      functions) {types : List ExternalType} {s' : Scope} (halike : Alike types y.scope s')
    (hlists : ∀ m ∈ owner.members, m.isExportable = true → Lists types m) :
    MadeFrom { y with scope := s' } owner
      (owner.members.filter fun m => m.isExportable && s'.describes m) functions := by
  rw [halike.filter_describes hlists]
  refine h.congr fun m hm => ?_
  obtain ⟨hm, hdescribed⟩ := List.mem_filter.mp hm
  rw [halike.synthesize owner (hlists m hm (Bool.and_eq_true_iff.mp hdescribed).1)]

namespace ExportedFrom

variable {unit : Reflection} {resolver : Resolver} {settings : Settings}
  {references : List ReferencedLibrary} {refs : ReferenceTable} {d : Draft}
  {l : ExportedLibrary Library}

/-- The types of other units in the signature of an exportable member are known. -/
theorem lists (h : ExportedFrom unit resolver settings references placed refs d l) (hp : p ∈ placed)
    {m : Member} (hm : m ∈ p.type.decl.members) (hexportable : m.isExportable = true) :
    Lists (l.externalTypes unit) m := by
  intro e he type htype
  refine h.mem_externalTypes_of_signature hp ?_ htype
  exact List.mem_append_right _ (List.mem_flatMap.mpr ⟨m, List.mem_filter.mpr ⟨hm, hexportable⟩, he⟩)

/-- A library with an interface that is filled has the scope in which its members are described. -/
theorem alike_of_isFilled (h : ExportedFrom unit resolver settings references placed refs d l)
    (hfilled : IsFilled ((settingOf unit resolver settings refs).withDefaults placed) placed p k
      binding base) :
    Alike (l.externalTypes unit) ((settingOf unit resolver settings refs).withDefaults placed).scope
      (l.scope unit references) := by
  refine h.alike_scope ⟨p, hfilled.mem, ?_⟩
  cases hfilled with
  | interface hfill htarget =>
    rw [htarget]
    rfl
  | classInterface hp hc =>
    obtain ⟨classified, d₀, hbuilt⟩ := h.built
    obtain ⟨creatable, htarget⟩ := hbuilt.prepared.standing.classed p hp _ hc
    rw [htarget]
    rfl

/-- The functions of an interface that is filled are made from the members that can be described. -/
theorem madeFrom (h : ExportedFrom unit resolver settings references placed refs d l)
    (hfilled : IsFilled ((settingOf unit resolver settings refs).withDefaults placed) placed p k
      binding base) :
    ∃ info, l.library.type? k = some info ∧
      MadeFrom (l.synthesis unit resolver settings references binding) p.type.decl
        (p.type.decl.members.filter fun m => m.isExportable && (l.scope unit references).describes m)
        info.functions := by
  obtain ⟨info, hinfo, hfunctions⟩ : ∃ info, l.library.type? k = some info ∧ info.functions =
      (interfaceFunctions (((settingOf unit resolver settings refs).withDefaults placed).synthesis
        binding) p.type.decl base).functions.map (·.written) := by
    obtain ⟨classified, d₀, hbuilt⟩ := h.built
    unfold Library.type?
    rw [h.types]
    cases hfilled with
    | interface hfill htarget => exact ⟨_, hbuilt.info_of_filling hfill, rfl⟩
    | classInterface hp hc => exact ⟨_, hbuilt.info_of_content (.classInterface hp hc), rfl⟩
  have hmade : MadeFrom (((settingOf unit resolver settings refs).withDefaults placed).synthesis
      binding) p.type.decl (p.type.decl.members.filter fun m => m.isExportable &&
        ((settingOf unit resolver settings refs).withDefaults placed).scope.describes m)
          info.functions := by
    rw [hfunctions]
    exact makers_eq (((settingOf unit resolver settings refs).withDefaults placed).synthesis binding)
      p.type.decl ▸ madeFrom_functions
  exact ⟨info, hinfo, hmade.alike (h.alike_of_isFilled hfilled) fun m hm => h.lists hfilled.mem hm⟩

/-- Without a limit, what is said about the contents is among the diagnostics. -/
theorem exists_kept (h : ExportedFrom unit resolver settings references placed refs d l)
    (hlimit : settings.diagnostics.warningLimit = 0) {e : Diagnostic}
    (he : e ∈ Export.said (contents (settingOf unit resolver settings refs) placed).2) :
    ∃ e' ∈ l.diagnostics, e'.code = e.code ∧ e'.subject = e.subject ∧ e'.message = e.message := by
  obtain ⟨notes, classified, -, -, hdiagnostics⟩ := h.said
  simp only [hdiagnostics, ← Diagnostic.key_eq_iff]
  refine Queue.exists_mem_addAll ?_ he
  rw [Queue.policy_addAll, Queue.policy_addAll]
  exact hlimit

/-- **The members of an interface that is filled are accounted for.** -/
theorem tallied (h : ExportedFrom unit resolver settings references placed refs d l)
    (hlimit : settings.diagnostics.warningLimit = 0)
    (hfilled : IsFilled ((settingOf unit resolver settings refs).withDefaults placed) placed p k
      binding base) :
    ∃ info, l.library.type? k = some info ∧
      Tallied (l.synthesis unit resolver settings references binding) p.type.decl l.diagnostics
        info.functions := by
  obtain ⟨info, hinfo, hmade⟩ := h.madeFrom hfilled
  refine ⟨info, hinfo, hmade, fun m hm hexportable hdescribes => ?_⟩
  have halike := (h.alike_of_isFilled hfilled).describes (h.lists hfilled.mem hm hexportable)
  obtain ⟨e, he, hcode, hsubject⟩ : ∃ e, Remark.raised e ∈ (interfaceFunctions
      (((settingOf unit resolver settings refs).withDefaults placed).synthesis binding) p.type.decl
        base).remarks ∧ e.code = .memberExcluded ∧ e.subject = some (memberSubject p.type.decl m) :=
    raised_excludedMember hm hexportable (halike.symm.trans hdescribes)
  obtain ⟨e', he', hcode', hsubject', -⟩ := h.exists_kept hlimit (hfilled.said he)
  exact ⟨e', he', hcode'.trans hcode, hsubject'.trans hsubject⟩

end ExportedFrom

/-! ## Where the interfaces are -/

theorem Prepared.exists_classInterface {resolver : Resolver} {attributes : Attributes}
    {references : List ReferencedLibrary} {classified : List Classified} {needs : Needs}
    {refs : ReferenceTable} {d : Draft}
    (h : Prepared resolver attributes references classified needs placed refs d) (hp : p ∈ placed)
    {creatable : Bool} (htarget : p.type.target = .coClass creatable (some binding)) :
    ∃ c ∈ p.classInterface, c.binding = binding := by
  obtain ⟨n, hn, hplaced⟩ := PlacedAs.forall_mem h.named p hp
  have hclass : n.type.target.classInterface? = some binding := by
    rw [← hplaced.type, htarget]
    rfl
  have hsome := isSome_classInterface hn
  rw [hclass, Option.isSome_some] at hsome
  obtain ⟨name, hname⟩ := Option.isSome_iff_exists.mp hsome
  have hlength := congrArg List.length hplaced.places
  cases hc : p.classInterface with
  | none => simp [Placed.slots, NamedType.places, NamedType.interfacePlaces, hc, hclass, hname] at hlength
  | some c =>
    obtain ⟨creatable', htarget'⟩ := h.standing.classed p hp c hc
    rw [htarget] at htarget'
    exact ⟨c, rfl, (Option.some.inj (Target.coClass.inj htarget').2).symm⟩

/-- The entry of a placed type. -/
theorem id_of_mem_exported {refs : ReferenceTable} {t : ExportedType} {id : TypeId}
    (ht : t ∈ p.exported refs) (hid : t.id = some id) : p.type.id = id ∧ t.handle = p.handle := by
  unfold Placed.exported at ht
  rcases List.mem_append.mp ht with ht | ht
  · obtain ⟨c, -, rfl⟩ := List.mem_map.mp ht
    exact Option.noConfusion rfl (heq_of_eq hid)
  · obtain rfl := List.mem_singleton.mp ht
    exact ⟨Option.some.inj hid, rfl⟩

namespace ExportedFrom

variable {unit : Reflection} {resolver : Resolver} {settings : Settings}
  {references : List ReferencedLibrary} {refs : ReferenceTable} {d : Draft}
  {l : ExportedLibrary Library}

theorem info?_eq (h : ExportedFrom unit resolver settings references placed refs d l)
    (hp : p ∈ placed) : l.info? p.type.id = l.library.type? p.handle := by
  obtain ⟨classified, d₀, hbuilt⟩ := h.built
  unfold ExportedLibrary.info?
  cases hfind : l.exported.find? fun t => t.id == some p.type.id with
  | none =>
    have hnone := List.find?_eq_none.mp hfind
    rw [h.exported] at hnone
    refine absurd ?_ (hnone _ (List.mem_flatMap.mpr ⟨p, hp, List.mem_append_right _
      List.mem_cons_self⟩))
    exact beq_self_eq_true _
  | some t =>
    have hmem := List.mem_of_find?_eq_some hfind
    have hfound := List.find?_some hfind
    have hid : t.id = some p.type.id := beq_iff_eq.mp hfound
    rw [h.exported] at hmem
    obtain ⟨q, hq, ht⟩ := List.mem_flatMap.mp hmem
    obtain ⟨hsame, hhandle⟩ := id_of_mem_exported ht hid
    obtain rfl := hbuilt.id_inj hq hp hsame
    rw [Option.bind_some, hhandle]

theorem classInterfaceInfo?_eq (h : ExportedFrom unit resolver settings references placed refs d l)
    (hp : p ∈ placed) {c : ClassInterface} (hc : c ∈ p.classInterface) :
    l.classInterfaceInfo? p.type.id = l.library.type? c.handle := by
  obtain ⟨classified, d₀, hbuilt⟩ := h.built
  obtain ⟨before, after, rfl, hbefore⟩ := List.eq_append_cons_of_mem hp
  have hexported := h.exported
  rw [List.flatMap_append, List.flatMap_cons] at hexported
  generalize hfirst : before.flatMap _ = first at hexported
  generalize after.flatMap _ = last at hexported
  have hnone : first.findIdx? (fun t => t.id == some p.type.id) = none := by
    rw [List.findIdx?_eq_none_iff]
    intro t ht
    rw [← hfirst] at ht
    obtain ⟨q, hq, ht⟩ := List.mem_flatMap.mp ht
    refine beq_eq_false_iff_ne.mpr fun hid => ?_
    obtain ⟨hsame, -⟩ := id_of_mem_exported ht hid
    have hmem : q ∈ before ++ p :: after := List.mem_append_left _ hq
    exact hbefore (hbuilt.id_inj hmem hp hsame ▸ hq)
  have hplace : l.exported.findIdx? (fun t => t.id == some p.type.id) = some (first.length + 1) := by
    rw [hexported, List.findIdx?_append, hnone]
    simp [Placed.exported, Option.mem_def.mp hc, List.findIdx?_cons, Nat.add_comm]
  have hentry : l.exported[first.length]? =
      some { name := c.name, kind := c.binding.typeKind, handle := c.handle } := by
    rw [hexported]
    simp [Placed.exported, Option.mem_def.mp hc]
  unfold ExportedLibrary.classInterfaceInfo?
  rw [hplace, Option.bind_some, Nat.add_sub_cancel, hentry]
  rfl

end ExportedFrom

/-! ## Runs -/

/-- The members of the interfaces of a library are accounted for, and of no others it is said that
they are left out. -/
structure MembersAccounted (unit : Reflection) (resolver : Resolver) (settings : Settings)
    (references : List ReferencedLibrary) (l : ExportedLibrary Library) : Prop where
  interfaces : ∀ id ∈ unit.ids, ∀ decl binding, unit.type? id = some decl →
    target? decl = some (.interface binding) → ∃ info, l.info? id = some info ∧
      Tallied (l.synthesis unit resolver settings references binding) decl l.diagnostics info.functions
  classes : ∀ id ∈ unit.ids, ∀ decl creatable binding, unit.type? id = some decl →
    target? decl = some (.coClass creatable (some binding)) →
      ∃ info, l.classInterfaceInfo? id = some info ∧
        Tallied (l.synthesis unit resolver settings references binding) decl l.diagnostics
          info.functions
  leftOut : ∀ d ∈ l.diagnostics, d.code = .memberExcluded →
    ∃ id ∈ unit.ids, ∃ decl, unit.type? id = some decl ∧
      ∃ m ∈ decl.members, LeftOut (l.scope unit references) decl m d

/-- A listed type that becomes something has its place. -/
theorem ExportedFrom.exists_placed {unit : Reflection} {resolver : Resolver} {settings : Settings}
    {references : List ReferencedLibrary} {refs : ReferenceTable} {d : Draft}
    {l : ExportedLibrary Library}
    (h : ExportedFrom unit resolver settings references placed refs d l) {id : TypeId}
    (hid : id ∈ unit.ids) {decl : TypeDecl} {target : Target} (hdecl : unit.type? id = some decl)
    (htarget : target? decl = some target) : ∃ p ∈ placed, p.type = ⟨id, decl, target⟩ := by
  obtain ⟨classified, d₀, hbuilt⟩ := h.built
  have hmem := mem_classify hbuilt.classify hid hdecl htarget
  rw [← hbuilt.prepared.map_type] at hmem
  exact List.mem_map.mp hmem

/-- What is said about units and about names has codes of its own. -/
theorem ExportedFrom.said_contents {unit : Reflection} {resolver : Resolver} {settings : Settings}
    {references : List ReferencedLibrary} {refs : ReferenceTable} {d : Draft}
    {l : ExportedLibrary Library}
    (h : ExportedFrom unit resolver settings references placed refs d l) {e : Diagnostic}
    (he : e ∈ l.diagnostics) (hnote : e.code ≠ .dependencyExported) (hnaming : e.code ∉ namingCodes) :
    e ∈ Export.said (contents (settingOf unit resolver settings refs) placed).2 := by
  obtain ⟨notes, classified, hnotes, -, hdiagnostics⟩ := h.said
  rw [hdiagnostics] at he
  rcases Queue.mem_of_mem_addAll he with he | he
  · rcases Queue.mem_of_mem_addAll he with he | he
    · rcases Queue.mem_of_mem_addAll he with he | he
      · exact (List.not_mem_nil he).elim
      · exact absurd (hnotes e he) hnote
    · exact absurd (@allOf_nameTypes .attributes resolver classified _ (mem_said.mp he)).1 hnaming
  · exact he

/-- A placed type is a listed one. -/
theorem ExportedFrom.id_mem {unit : Reflection} {resolver : Resolver} {settings : Settings}
    {references : List ReferencedLibrary} {refs : ReferenceTable} {d : Draft}
    {l : ExportedLibrary Library}
    (h : ExportedFrom unit resolver settings references placed refs d l) (hp : p ∈ placed) :
    p.type.id ∈ unit.ids := by
  obtain ⟨classified, d₀, hbuilt⟩ := h.built
  refine (sublist_of_classify hbuilt.classify).subset (List.mem_map_of_mem ?_)
  rw [← hbuilt.prepared.map_type]
  exact List.mem_map_of_mem hp

theorem ExportedFrom.accounted {unit : Reflection} {resolver : Resolver} {settings : Settings}
    {references : List ReferencedLibrary} {refs : ReferenceTable} {d : Draft}
    {l : ExportedLibrary Library}
    (h : ExportedFrom unit resolver settings references placed refs d l)
    (hlimit : settings.diagnostics.warningLimit = 0) :
    MembersAccounted unit resolver settings references l := by
  obtain ⟨classified, d₀, hbuilt⟩ := h.built
  refine ⟨fun id hid decl binding hdecl htarget => ?_,
    fun id hid decl creatable binding hdecl htarget => ?_, fun e he hcode => ?_⟩
  · obtain ⟨p, hp, htype⟩ := h.exists_placed hid hdecl htarget
    obtain ⟨base, hfilled⟩ := isFilled_of_interface
      (s := (settingOf unit resolver settings refs).withDefaults placed) hp (by rw [htype])
    obtain ⟨info, hinfo, htallied⟩ := h.tallied hlimit hfilled
    rw [← h.info?_eq hp, htype] at hinfo
    rw [htype] at htallied
    exact ⟨info, hinfo, htallied⟩
  · obtain ⟨p, hp, htype⟩ := h.exists_placed hid hdecl htarget
    obtain ⟨c, hc, rfl⟩ := hbuilt.prepared.exists_classInterface hp (by rw [htype])
    obtain ⟨info, hinfo, htallied⟩ := h.tallied hlimit (.classInterface hp hc)
    rw [← h.classInterfaceInfo?_eq hp hc, htype] at hinfo
    rw [htype] at htallied
    exact ⟨info, hinfo, htallied⟩
  · have hsaid := h.said_contents he (by rw [hcode]; decide) (by rw [hcode]; decide)
    obtain ⟨p, k, binding, base, hfilled, hraised⟩ := exists_isFilled hsaid hcode
    obtain ⟨m, hm, hexportable, part, error, hsignature, rfl⟩ := exists_leftOut hraised hcode
    have hp := hfilled.mem
    refine ⟨p.type.id, h.id_mem hp, p.type.decl, (hbuilt.type?_placed hp).1, m, hm, hexportable, part, error,
      ?_, rfl⟩
    rw [(h.alike_of_isFilled hfilled).describeSignature (h.lists hp hm hexportable)]
    exact hsignature

/-- **All members are accounted for.** In every library that a successful run writes out, an interface
has a function for every exportable member whose signature can be described, in the order of the
declarations; of every other exportable member it is said that it is left out, and of no others. The
same holds for the interfaces made from classes. -/
theorem accounted_run {job : Job} {out : Output Library} (h : job.toMemory = .ok out)
    (hlimit : job.settings.diagnostics.warningLimit = 0) :
    MembersAccounted job.unit job.resolver job.settings
        (job.settings.references ++ out.dependencies.map (·.reference)) out.main ∧
      ∀ (k : Nat) (l : ExportedLibrary Library), out.dependencies[k]? = some l →
        ∃ unit ∈ job.dependencies, l.unit = unit.identity.name ∧
          MembersAccounted unit job.resolver job.settings.forDependency
            (job.settings.references ++ (out.dependencies.take k).map (·.reference)) l := by
  obtain ⟨hdependencies, -, unit, hunit, placed, refs, d, hmain⟩ := madeInTurn_run h
  obtain rfl := List.mem_singleton.mp hunit
  refine ⟨hmain.accounted hlimit, fun k l hl => ?_⟩
  obtain ⟨-, unit, hunit, placed, refs, d, hexported⟩ := hdependencies k l hl
  exact ⟨unit, hunit, hexported.unitName, hexported.accounted hlimit⟩

/-- A unit with an interface and with a class that gets one. A method of the interface takes a generic
parameter, and the class has a static method. -/
def bazaar : Job where
  unit := SourceUnit.reflection
    { identity := { name := "Bazaar", version := { major := 1 }, guid := some (Guid.ofBytes [9]) }
      types :=
        [{ space := "N", name := "IStall", guid := some (Guid.ofBytes [1]), body := .interface none
           members :=
             [Member.method "Open" .void,
              { Member.method "Trade" .void with params := [{ name := "goods", type := .generic "T" }] },
              Member.getter "Price" (.scalar .i32)] },
         { space := "N", name := "Stall", guid := some (Guid.ofBytes [2])
           body := .objectClass { classInterface := .autoDual }
           members :=
             [Member.creator, { Member.method "Count" (.scalar .i32) with isStatic := true },
              Member.method "Close" .void] }] }

/-- The method with the generic parameter is left out, and the others have their functions. -/
theorem bazaar_accounted : ∃ out, bazaar.toMemory = .ok out ∧
    (out.main.info? 0).map (·.functions.map (·.name)) = some ["Open", "Price"] ∧
    (out.main.classInterfaceInfo? 1).map (·.functions.map (·.name)) = some ["Close"] ∧
    out.main.diagnostics.map (·.subject) = [some "N.IStall.Trade"] ∧
    MembersAccounted bazaar.unit bazaar.resolver bazaar.settings [] out.main := by
  have hview : bazaar.toMemory.toOption.map (fun out =>
      ((out.main.info? 0).map (·.functions.map (·.name)),
        (out.main.classInterfaceInfo? 1).map (·.functions.map (·.name)),
        out.main.diagnostics.map (·.subject), out.dependencies.length)) =
      some (some ["Open", "Price"], some ["Close"], [some "N.IStall.Trade"], 0) := by
    decide +kernel
  cases h : bazaar.toMemory with
  | error e =>
    rw [h] at hview
    exact Option.noConfusion rfl (heq_of_eq hview)
  | ok out =>
    rw [h] at hview
    simp only [Except.toOption, Option.map_some, Option.some.injEq, Prod.mk.injEq,
      List.length_eq_zero_iff] at hview
    obtain ⟨hinterface, hclass, hdiagnostics, hnone⟩ := hview
    have haccounted := (accounted_run h rfl).1
    rw [hnone] at haccounted
    exact ⟨out, rfl, hinterface, hclass, hdiagnostics, haccounted⟩

end Automation.Export
