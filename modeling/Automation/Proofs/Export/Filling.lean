import Automation.Proofs.Export.Functions
import Automation.Proofs.Export.Scripts

/-!
# What the passes write

For each kind of type, what its steps write into it: what it implements (`plays_inheritance`), its
functions (`plays_interfaceSteps`), its fields (`plays_recordSteps`) and its constants
(`plays_enumSteps`). Each pass makes the edit of the type in hand, and is stopped only by a reference
without a target, a name that is taken, or too many fields.
-/

namespace Automation.Export

open Library Source

variable {bad : Prop} {d : Draft} {h : Handle} {t : TypeInfo} {later : List Step}

/-! ## Functions -/

/-- A function as it is written. -/
def SynthesizedFunction.written (f : SynthesizedFunction) : FunctionInfo where
  desc := f.desc
  names := f.names
  doc := f.doc

theorem play_functionSteps (ho : d.IsOpen h t) (hkind : t.kind.isInterface) (name : String)
    {f : SynthesizedFunction} (hnames : f.names.length ≤ f.desc.params.length + 1) :
    play (functionSteps name h t.functions.length f ++ later) d =
      play later (d.setInfo h { t with functions := t.functions ++ [f.written] }) := by
  have hadd := Draft.answer_addFunction ho hkind f.desc
  have hadded := ho.setInfo { t with functions := t.functions ++ [{ desc := f.desc }] }
  have hnamed := Draft.answer_setFunctionNames hadded hnames
  simp only [functionSteps, List.cons_append, List.nil_append]
  rw [play_request hadd, play_request hnamed, Draft.setInfo_setInfo]
  cases hdoc : f.doc with
  | none => simp [SynthesizedFunction.written, hdoc]
  | some doc =>
    have hall := ho.setInfo
      { t with functions := t.functions ++ [{ desc := f.desc, names := f.names }] }
    have hdocumented := Draft.answer_setFunctionDoc hall doc
    simp only [Option.toList_some, List.map_cons, List.map_nil, List.cons_append, List.nil_append]
    rw [play_request hdocumented, Draft.setInfo_setInfo]
    simp [SynthesizedFunction.written, hdoc]

theorem play_functions (ho : d.IsOpen h t) (hkind : t.kind.isInterface) (name : String)
    {functions : List SynthesizedFunction}
    (hnames : ∀ f ∈ functions, f.names.length ≤ f.desc.params.length + 1) :
    play ((functions.zipIdx t.functions.length).flatMap fun (f, index) =>
        functionSteps name h index f) d =
      .ok (d.setInfo h { t with functions := t.functions ++ functions.map (·.written) }) := by
  induction functions generalizing d t with
  | nil =>
    rw [List.map_nil, List.append_nil, ho.setInfo_self]
    rfl
  | cons f rest ih =>
    rw [List.zipIdx_cons, List.flatMap_cons, play_functionSteps ho hkind name
      (hnames f List.mem_cons_self)]
    have hrest := ih (ho.setInfo { t with functions := t.functions ++ [f.written] }) hkind
      fun g hg => hnames g (List.mem_cons_of_mem _ hg)
    simpa using hrest

/-- The steps for the functions of an interface write them, and nothing stops them. -/
theorem plays_interfaceSteps (ho : d.IsOpen h t) (hkind : t.kind.isInterface)
    (hnone : t.functions = []) (name : String) {made : InterfaceFunctions}
    (hnames : ∀ f ∈ made.functions, f.names.length ≤ f.desc.params.length + 1) :
    Plays bad [⟨h, t, { t with functions := made.functions.map (·.written) }, []⟩]
      (interfaceSteps name h made) d := by
  refine plays_remarks (plays_of_ok ?_ (applied_setInfo ho _))
  have hplay := play_functions ho hkind name hnames
  rwa [hnone, List.length_nil, List.nil_append] at hplay

/-! ## What the types implement -/

/-- A type as it is created. -/
def Placeholder.info (version : Version) (p : Placeholder) : TypeInfo where
  name := p.name
  kind := p.kind
  guid := p.guid
  version := version
  flags := p.flags
  doc := p.doc

/-- A placed type as it is created. -/
def Placed.created (version : Version) (p : Placed) : TypeInfo :=
  (typePlaceholder p.type p.name).info version

/-- The interface made from a placed class as it is created. -/
def Placed.createdInterface (version : Version) (p : Placed) (c : ClassInterface) : TypeInfo :=
  (classPlaceholder p.type c.name c.binding).info version

/-- What a placed type implements. -/
def Placed.implemented (scope : Scope) (p : Placed) : List ImplementedType :=
  match p.type.target with
  | .interface _ => (p.base? scope.refs).toList.map fun base => ⟨base.ref, Flags.none⟩
  | .coClass _ _ => ((p.implements scope).1.map (·.entries)).getD []
  | .enumeration | .record => []

/-- What the interface made from a class derives from. -/
def ClassInterface.implemented (refs : ReferenceTable) (c : ClassInterface) :
    List ImplementedType :=
  (refs.standard? c.binding.standardBase).toList.map fun ref => ⟨ref, Flags.none⟩

/-- A placed type once it says what it implements. -/
def Placed.derived (version : Version) (scope : Scope) (p : Placed) : TypeInfo :=
  { p.created version with implemented := p.implemented scope }

/-- The interface made from a placed class once it says what it derives from. -/
def Placed.derivedInterface (version : Version) (scope : Scope) (p : Placed) (c : ClassInterface) :
    TypeInfo :=
  { p.createdInterface version c with implemented := c.implemented scope.refs }

@[simp] theorem Binding.isInterface_typeKind (binding : Binding) :
    binding.typeKind.isInterface = true := by
  cases binding <;> rfl

@[simp] theorem Target.isInterface_typeKind (target : Target) :
    target.typeKind.isInterface = target.isInterface := by
  cases target with
  | interface binding => exact binding.isInterface_typeKind
  | enumeration | record | coClass => rfl

@[simp] theorem Placed.kind_derived (version : Version) (scope : Scope) (p : Placed) :
    (p.derived version scope).kind = p.type.target.typeKind := rfl

@[simp] theorem Placed.kind_derivedInterface (version : Version) (scope : Scope) (p : Placed)
    (c : ClassInterface) : (p.derivedInterface version scope c).kind = c.binding.typeKind := rfl

/-- The edits of the first pass. -/
def inheritanceEdits (version : Version) (scope : Scope) (p : Placed) : List Edit :=
  (p.classInterface.toList.map fun c =>
    ⟨c.handle, p.createdInterface version c, p.derivedInterface version scope c, []⟩)
    ++ [⟨p.handle, p.created version, p.derived version scope, []⟩]

/-- An interface is made from a placed type only if that is a class which asks for it. -/
def Placed.IsClassed (p : Placed) : Prop :=
  ∀ c ∈ p.classInterface, ∃ creatable, p.type.target = .coClass creatable (some c.binding)

theorem plays_implement (ho : d.IsOpen h t)
    (hkind : t.kind = .coClass ∨ t.kind.isInterface ∧ t.implemented = []) (name : String)
    {entry : ImplementedType} (hgood : ¬bad → d.resolves entry.ref = true) :
    Plays bad [⟨h, t, { t with implemented := t.implemented ++ [entry] }, []⟩]
      [implement name h t.implemented.length entry] d := by
  cases href : d.resolves entry.ref with
  | true =>
    have hanswer := Draft.answer_addImplemented ho entry.flags hkind href
    refine plays_of_ok ?_ (applied_setInfo ho _)
    rw [implement, play_request hanswer]
    rfl
  | false =>
    have hanswer := Draft.answer_addImplemented_error ho t.implemented.length entry.flags href
    have hbad : bad := by
      by_contra hbad
      rw [hgood hbad] at href
      exact Bool.noConfusion href
    simpa [Plays, Reaches, implement, play, hanswer] using hbad

theorem plays_entries (ho : d.IsOpen h t) (hkind : t.kind = .coClass) (name : String)
    {entries : List ImplementedType} (hgood : ¬bad → ∀ e ∈ entries, d.resolves e.ref = true) :
    Plays bad [⟨h, t, { t with implemented := t.implemented ++ entries }, []⟩]
      ((entries.zipIdx t.implemented.length).map fun (entry, index) => implement name h index entry)
      d := by
  induction entries generalizing d t with
  | nil =>
    rw [List.append_nil]
    exact plays_same ho
  | cons entry rest ih =>
    have hfirst := plays_implement ho (.inl hkind) name fun hb => hgood hb entry List.mem_cons_self
    rw [List.zipIdx_cons, List.map_cons]
    have hall : t.implemented ++ entry :: rest = (t.implemented ++ [entry]) ++ rest := by simp
    rw [hall]
    refine Plays.trans hfirst fun d' ha => ?_
    have hrest := ih (ha.after _ List.mem_cons_self) hkind fun hb e he => by
      rw [ha.resolves]
      exact hgood hb e (List.mem_cons_of_mem _ he)
    simpa using hrest

theorem base?_isSome {refs : ReferenceTable} (hstandard : refs.standard.isSome) (owner : TypeDecl)
    (binding : Binding) : (interfaceBase? refs owner binding).isSome := by
  simp [interfaceBase?, ReferenceTable.standard?, hstandard]

theorem classImplements_isSome {scope : Scope} (hstandard : scope.refs.standard.isSome)
    (owner : TypeDecl) (classInterface : Option Handle) :
    (classImplements scope owner classInterface).1.isSome := by
  obtain ⟨id, hid⟩ := Option.isSome_iff_exists.mp hstandard
  unfold classImplements
  dsimp only
  split
  · next hnone => simp [ReferenceTable.standard?, hid] at hnone
  · rfl

/-- What the first pass needs: the standard library for types that fall back on it, and a target for
every reference. -/
def Derivable (scope : Scope) (d : Draft) (p : Placed) : Prop :=
  (p.type.target.needsStandard = true → scope.refs.standard.isSome) ∧ (∀ e ∈ p.implemented scope, d.resolves e.ref = true) ∧
    ∀ c ∈ p.classInterface, ∀ e ∈ c.implemented scope.refs, d.resolves e.ref = true

theorem Placed.IsClassed.eq_none {p : Placed} (h : p.IsClassed)
    (htarget : p.type.target.typeKind ≠ .coClass) : p.classInterface = none := by
  refine Option.eq_none_iff_forall_not_mem.mpr fun c hc => ?_
  obtain ⟨creatable, hclass⟩ := h c hc
  rw [hclass] at htarget
  exact htarget rfl

/-- A type that implements nothing needs no steps. -/
theorem plays_inheritance_nil {version : Version} {scope : Scope} {p : Placed}
    (hclassed : p.IsClassed) (hown : d.IsOpen p.handle (p.created version))
    (htarget : p.type.target.typeKind ≠ .coClass) (himplemented : p.implemented scope = []) :
    Plays bad (inheritanceEdits version scope p) [] d := by
  have hsame : p.derived version scope = p.created version := by
    unfold Placed.derived
    rw [himplemented]
    rfl
  unfold inheritanceEdits
  rw [hclassed.eq_none htarget, hsame]
  exact plays_same hown

theorem plays_interface {version : Version} {scope : Scope} {p : Placed} (hclassed : p.IsClassed)
    (hown : d.IsOpen p.handle (p.created version)) {binding : Binding}
    (htarget : p.type.target = .interface binding) (hgood : ¬bad → Derivable scope d p) :
    Plays bad (inheritanceEdits version scope p) (inheritanceSteps scope p) d := by
  have hkind : p.type.target.typeKind.isInterface = true := by
    rw [Target.isInterface_typeKind, htarget]
    rfl
  have hnone : p.classInterface = none :=
    hclassed.eq_none fun h => by rw [h] at hkind; exact Bool.noConfusion hkind
  unfold inheritanceEdits inheritanceSteps Placed.derived
  simp only [hnone, htarget, Placed.implemented]
  have hbase : p.base? scope.refs = interfaceBase? scope.refs p.type.decl binding := by
    simp [Placed.base?, htarget, Target.binding?]
  cases hb : p.base? scope.refs with
  | none =>
    refine plays_abort _ ?_
    by_contra hbad
    have hsome := base?_isSome ((hgood hbad).1 (by rw [htarget]; rfl)) p.type.decl binding
    rw [← hbase, hb] at hsome
    exact Bool.noConfusion hsome
  | some base =>
    refine plays_implement hown (.inr ⟨hkind, rfl⟩) p.name fun hbad => ?_
    refine (hgood hbad).2.1 ⟨base.ref, Flags.none⟩ ?_
    simp [Placed.implemented, htarget, hb]

theorem plays_classInterfaceBase {version : Version} {scope : Scope} {p : Placed}
    (hneeds : p.type.target.needsStandard = true)
    (hawaits : Awaits d (p.classInterface.toList.map fun c =>
      ⟨c.handle, p.createdInterface version c, p.derivedInterface version scope c, []⟩))
    (hgood : ¬bad → Derivable scope d p) :
    Plays bad (p.classInterface.toList.map fun c =>
        ⟨c.handle, p.createdInterface version c, p.derivedInterface version scope c, []⟩)
      (p.classInterface.toList.flatMap (classInterfaceBase scope.refs)) d := by
  cases hc : p.classInterface with
  | none => exact plays_nil
  | some c =>
    rw [hc] at hawaits
    have hopen : d.IsOpen c.handle (p.createdInterface version c) :=
      hawaits _ List.mem_cons_self
    have hkind : (p.createdInterface version c).kind.isInterface = true := by
      unfold Placed.createdInterface classPlaceholder Placeholder.info
      cases c.binding <;> rfl
    simp only [Option.toList_some, List.map_cons, List.map_nil, List.flatMap_cons,
      List.flatMap_nil, List.append_nil, classInterfaceBase, Placed.derivedInterface,
      ClassInterface.implemented]
    cases hb : scope.refs.standard? c.binding.standardBase with
    | none =>
      refine plays_abort _ ?_
      by_contra hbad
      have hsome := (hgood hbad).1 hneeds
      simp only [ReferenceTable.standard?, Option.map_eq_none_iff] at hb
      rw [hb] at hsome
      exact Bool.noConfusion hsome
    | some ref =>
      refine plays_implement hopen (.inr ⟨hkind, rfl⟩) c.name fun hbad => ?_
      refine (hgood hbad).2.2 c hc ⟨ref, Flags.none⟩ ?_
      simp [ClassInterface.implemented, hb]

theorem plays_class {version : Version} {scope : Scope} {p : Placed}
    (hawaits : Awaits d (inheritanceEdits version scope p))
    (hnodup : ((inheritanceEdits version scope p).map (·.handle)).Nodup) {creatable : Bool}
    {binding : Option Binding} (htarget : p.type.target = .coClass creatable binding)
    (hgood : ¬bad → Derivable scope d p) :
    Plays bad (inheritanceEdits version scope p) (inheritanceSteps scope p) d := by
  unfold inheritanceSteps
  rw [htarget]
  dsimp only
  rw [List.append_assoc]
  have hneeds : p.type.target.needsStandard = true := by rw [htarget]; rfl
  refine Plays.append (plays_classInterfaceBase hneeds hawaits.left hgood) (fun d' ha => ?_) hnodup
  have hown : d'.IsOpen p.handle (p.created version) :=
    hawaits.right ha hnodup _ List.mem_cons_self
  have hwarnings : (p.implements scope).2.map Step.raise =
      ((p.implements scope).2.map Remark.raised).map Step.remark := by
    rw [List.map_map]
    rfl
  rw [hwarnings]
  refine plays_remarks ?_
  unfold Placed.derived
  simp only [Placed.implemented, htarget]
  cases hi : (p.implements scope).1 with
  | none =>
    refine plays_abort _ ?_
    by_contra hbad
    have hsome := classImplements_isSome ((hgood hbad).1 hneeds) p.type.decl
      (p.classInterface.map (·.handle))
    rw [Placed.implements] at hi
    rw [hi] at hsome
    exact Bool.noConfusion hsome
  | some c =>
    refine plays_entries hown ?_ p.name fun hbad e he => ?_
    · simp [Placed.created, Placeholder.info, typePlaceholder, htarget, Target.typeKind]
    · rw [ha.resolves]
      refine (hgood hbad).2.1 e ?_
      simpa [Placed.implemented, htarget, hi] using he

/-- The first pass writes what a type implements. -/
theorem plays_inheritance {version : Version} {scope : Scope} {p : Placed} (hclassed : p.IsClassed)
    (hawaits : Awaits d (inheritanceEdits version scope p))
    (hnodup : ((inheritanceEdits version scope p).map (·.handle)).Nodup)
    (hgood : ¬bad → Derivable scope d p) :
    Plays bad (inheritanceEdits version scope p) (inheritanceSteps scope p) d := by
  have hown : d.IsOpen p.handle (p.created version) :=
    hawaits _ (List.mem_append_right _ List.mem_cons_self)
  cases htarget : p.type.target with
  | interface binding => exact plays_interface hclassed hown htarget hgood
  | coClass creatable binding => exact plays_class hawaits hnodup htarget hgood
  | enumeration =>
    have hsteps : inheritanceSteps scope p = [] := by simp [inheritanceSteps, htarget]
    rw [hsteps]
    exact plays_inheritance_nil hclassed hown (by simp [htarget, Target.typeKind])
      (by simp [Placed.implemented, htarget])
  | record =>
    have hsteps : inheritanceSteps scope p = [] := by simp [inheritanceSteps, htarget]
    rw [hsteps]
    exact plays_inheritance_nil hclassed hown (by simp [htarget, Target.typeKind])
      (by simp [Placed.implemented, htarget])

/-! ## Records -/

/-- The variables that the fields of a record become, from an index on. -/
def fieldVariables (s : Setting) (owner : TypeDecl) (index : Nat) : List Field → List VariableInfo
  | [] => []
  | f :: later =>
    match s.scope.describe f.type f.marshal fieldPosition with
    | .ok described =>
      { desc := { memid := firstFieldId + index, content := .field { type := described.type } }
        name := s.resolver (fieldQuestion owner f)
        doc := f.doc } :: fieldVariables s owner (index + 1) later
    | .error _ => fieldVariables s owner index later

/-- The number of ids from that of the first field on. -/
def fieldLimit : Nat := 0x40000000

theorem idAfter?_firstFieldId {index : Nat} :
    idAfter? firstFieldId index =
      if index < fieldLimit then some (firstFieldId + index) else none := by
  have hfits : firstFieldId + (index : Int) ≤ MemberId.max ↔ index < fieldLimit := by
    change (0x40000000 : Int) + index ≤ 0x7FFFFFFF ↔ index < 0x40000000
    omega
  unfold idAfter?
  simp only [hfits]

theorem play_variableDoc (ho : d.IsOpen h t) (context name : String) (desc : VariableDesc)
    (doc : Option String) :
    play (doc.toList.map fun text => .request context (.setVariableDoc h t.vars.length text))
        (d.setInfo h { t with vars := t.vars ++ [{ desc := desc, name := name }] }) =
      .ok (d.setInfo h
        { t with vars := t.vars ++ [{ desc := desc, name := name, doc := doc }] }) := by
  cases doc with
  | none => rfl
  | some doc =>
    have hall := ho.setInfo { t with vars := t.vars ++ [{ desc := desc, name := name }] }
    have hdocumented := Draft.answer_setVariableDoc hall doc
    simp only [Option.toList_some, List.map_cons, List.map_nil]
    rw [play_request hdocumented, Draft.setInfo_setInfo]
    rfl

variable (bad) in
/-- A field is written with its name and its documentation. -/
theorem plays_variableSteps (ho : d.IsOpen h t) (hkind : t.kind = .record) (type : String)
    (desc : VariableDesc) (name : String) (doc : Option String) :
    Plays bad
      [⟨h, t, { t with vars := t.vars ++ [{ desc := desc, name := name, doc := doc }] }, []⟩]
      (variableSteps type h t.vars.length desc name doc) d := by
  have hadd := Draft.answer_addVariable ho (by rw [hkind]; rfl) desc
  have hadded := ho.setInfo { t with vars := t.vars ++ [{ desc := desc }] }
  have hrecord : t.kind ≠ .enumeration := by rw [hkind]; exact TypeKind.noConfusion
  have hnamed : (d.setInfo h { t with vars := t.vars ++ [{ desc := desc }] }).answer
      (.setVariableName h t.vars.length name) =
        (.ok (), d.setInfo h { t with vars := t.vars ++ [{ desc := desc, name := name }] }) := by
    refine Draft.settleDone_ok ?_
    rw [Draft.setVariableName_eq hadded, if_neg hrecord, Draft.setInfo_setInfo]
  refine plays_of_ok ?_ (applied_setInfo ho _)
  simp only [variableSteps, List.cons_append, List.nil_append]
  rw [play_request hadd, play_request hnamed]
  exact play_variableDoc ho _ name desc doc

variable (bad) in
theorem plays_fieldsSteps (s : Setting) {p : Placed} (ho : d.IsOpen p.handle t)
    (hkind : t.kind = .record) {fields : List Field}
    (hgood : ¬bad → t.vars.length + fields.length ≤ fieldLimit) :
    Plays bad [⟨p.handle, t,
        { t with vars := t.vars ++ fieldVariables s p.type.decl t.vars.length fields }, []⟩]
      (fieldsSteps s p t.vars.length fields) d := by
  induction fields generalizing d t with
  | nil =>
    rw [fieldVariables, List.append_nil]
    exact plays_same ho
  | cons f rest ih =>
    unfold fieldsSteps fieldVariables
    cases hf : s.scope.describe f.type f.marshal fieldPosition with
    | error error =>
      refine ih ho hkind fun hbad => ?_
      have := hgood hbad
      rw [List.length_cons] at this
      omega
    | ok described =>
      dsimp only
      unfold fieldSteps
      dsimp only
      have hlost : (described.degradations.map fun d =>
          Step.raise (degraded (p.type.decl.qualified ++ "." ++ f.name) d)) =
            (described.degradations.map fun d =>
              Remark.raised (degraded (p.type.decl.qualified ++ "." ++ f.name) d)).map
                Step.remark := by
        rw [List.map_map]
        rfl
      rw [hlost, idAfter?_firstFieldId, List.append_assoc]
      refine plays_remarks ?_
      by_cases hfew : t.vars.length < fieldLimit
      · rw [if_pos hfew]
        have hfirst := plays_variableSteps bad ho hkind p.name
          { memid := firstFieldId + t.vars.length, content := .field { type := described.type } }
          (s.resolver (fieldQuestion p.type.decl f)) f.doc
        refine plays_remark ?_
        rw [List.append_cons]
        refine hfirst.trans fun d' ha => ?_
        have hrest := ih (ha.after _ List.mem_cons_self) hkind fun hbad => by
          have := hgood hbad
          rw [List.length_cons] at this
          rw [List.length_append, List.length_singleton]
          omega
        rwa [List.length_append, List.length_singleton] at hrest
      · rw [if_neg hfew]
        refine plays_abort (.internal s!"`{p.name}` has too many fields") ?_
        by_contra hbad
        have := hgood hbad
        rw [List.length_cons] at this
        omega

/-- The steps for the fields of a record write them, unless there are too many. -/
theorem plays_recordSteps {s : Setting} {p : Placed} (htarget : p.type.target = .record)
    (ho : d.IsOpen p.handle t) (hkind : t.kind = .record) (hnone : t.vars = [])
    (hgood : ¬bad → p.type.decl.fields.length ≤ fieldLimit) :
    Plays bad
      [⟨p.handle, t,
        { t with vars := fieldVariables s p.type.decl 0 (p.type.decl.fields.filter (·.isPublic)) },
        []⟩]
      (recordSteps s p) d := by
  have hfew : ¬bad →
      t.vars.length + (p.type.decl.fields.filter (·.isPublic)).length ≤ fieldLimit := fun hbad => by
    have := hgood hbad
    have := List.length_filter_le (·.isPublic) p.type.decl.fields
    rw [hnone, List.length_nil]
    omega
  have hfields := plays_fieldsSteps bad s ho hkind hfew
  unfold recordSteps
  rw [htarget]
  rwa [hnone, List.length_nil, List.nil_append] at hfields

/-! ## Enums -/

/-- The variables that the constants of an enum become. -/
def constantVariables : List (EnumConstant × Option String) → List VariableInfo
  | [] => []
  | (c, some name) :: later =>
    { desc := { memid := MemberId.none, content := .constant (.i4 (Int32.ofInt c.value)) }
      name := name
      doc := c.doc } :: constantVariables later
  | (_, none) :: later => constantVariables later

/-- The names of these constants, as they are compared. -/
def constantKeys (constants : List (EnumConstant × Option String)) : List String :=
  (constants.filterMap (·.2)).map Text.nameKey

variable (bad) in
/-- A constant is written with its name and its documentation, unless the name is taken. -/
theorem plays_constantSteps (ho : d.IsOpen h t) (hkind : t.kind = .enumeration) (type : String)
    (desc : VariableDesc) (name : String) (doc : Option String)
    (hgood : ¬bad → Text.nameKey name ∉ d.names) :
    Plays bad
      [⟨h, t, { t with vars := t.vars ++ [{ desc := desc, name := name, doc := doc }] },
        [Text.nameKey name]⟩]
      (variableSteps type h t.vars.length desc name doc) d := by
  have hadd := Draft.answer_addVariable ho (by rw [hkind]; rfl) desc
  have hadded := ho.setInfo { t with vars := t.vars ++ [{ desc := desc }] }
  have hname := Draft.setVariableName_eq hadded name
  rw [if_pos hkind, Draft.setInfo_setInfo] at hname
  by_cases htaken : Text.nameKey name ∈ d.names
  · -- The request for the name is rejected: the script ends here.
    have hbad : bad := by
      by_contra hbad
      exact hgood hbad htaken
    have hrejected : (d.setInfo h { t with vars := t.vars ++ [{ desc := desc }] }).answer
        (.setVariableName h t.vars.length name) =
          (.error (.duplicateName name),
            d.setInfo h { t with vars := t.vars ++ [{ desc := desc }] }) := by
      refine Draft.settleDone_error ?_
      rw [hname]
      simp [Draft.claim, htaken]
    unfold Plays Reaches
    simp only [variableSteps, List.cons_append, List.nil_append]
    rw [play_request hadd]
    simpa only [play, hrejected] using hbad
  · have hclaimed : (d.setInfo h { t with vars := t.vars ++ [{ desc := desc }] }).answer
        (.setVariableName h t.vars.length name) =
          (.ok (), Draft.setInfo { d with names := Text.nameKey name :: d.names } h
            { t with vars := t.vars ++ [{ desc := desc, name := name }] }) := by
      refine Draft.settleDone_ok ?_
      rw [hname]
      simp only [Draft.claim, Draft.setInfo_names, List.contains_eq_mem, htaken, decide_false,
        Bool.false_eq_true, if_false]
      rfl
    have ho' : Draft.IsOpen { d with names := Text.nameKey name :: d.names } h t := ho
    refine plays_of_ok ?_ (applied_claim ho _ _)
    simp only [variableSteps, List.cons_append, List.nil_append]
    rw [play_request hadd, play_request hclaimed]
    exact play_variableDoc ho' _ name desc doc

/-- The names of the later constants are free once the first one has its name. -/
theorem keys_free {d' : Draft} {h : Handle} {t t' : TypeInfo} {key : String} {keys : List String}
    (hkeys : (key :: keys).Nodup ∧ ∀ k ∈ key :: keys, k ∉ d.names)
    (ha : Applied [⟨h, t, t', [key]⟩] d d') : keys.Nodup ∧ ∀ k ∈ keys, k ∉ d'.names := by
  obtain ⟨hnot, hnodup⟩ := List.nodup_cons.mp hkeys.1
  refine ⟨hnodup, fun k hk hmem => ?_⟩
  rcases (ha.names k).mp hmem with hold | ⟨e, he, hclaim⟩
  · exact hkeys.2 k (List.mem_cons_of_mem _ hk) hold
  · rw [List.mem_singleton] at he
    subst he
    rw [List.mem_singleton] at hclaim
    exact hnot (hclaim ▸ hk)

theorem plays_constantsSteps {p : Placed} (ho : d.IsOpen p.handle t) (hkind : t.kind = .enumeration)
    {constants : List (EnumConstant × Option String)}
    (hgood : ¬bad → (constantKeys constants).Nodup ∧ ∀ k ∈ constantKeys constants, k ∉ d.names) :
    Plays bad
      [⟨p.handle, t, { t with vars := t.vars ++ constantVariables constants },
        constantKeys constants⟩]
      (constantsSteps p t.vars.length constants) d := by
  induction constants generalizing d t with
  | nil =>
    rw [constantVariables, List.append_nil]
    exact plays_same ho
  | cons constant rest ih =>
    rcases constant with ⟨c, name | name⟩
    · exact plays_remark (ih ho hkind hgood)
    · have hfirst := plays_constantSteps bad ho hkind p.name
        { memid := MemberId.none, content := .constant (.i4 (Int32.ofInt c.value)) } name c.doc
        fun hbad => (hgood hbad).2 _ List.mem_cons_self
      unfold constantsSteps constantVariables
      rw [List.append_cons]
      refine hfirst.trans fun d' ha => ?_
      have hrest := ih (ha.after _ List.mem_cons_self) hkind fun hbad => keys_free (hgood hbad) ha
      rwa [List.length_append, List.length_singleton] at hrest

/-- The steps for the constants of an enum write them, unless a name is taken. -/
theorem plays_enumSteps {p : Placed} (htarget : p.type.target = .enumeration)
    (ho : d.IsOpen p.handle t) (hkind : t.kind = .enumeration) (hnone : t.vars = [])
    (hgood : ¬bad → (constantKeys (p.type.decl.constants.zip p.constants)).Nodup ∧
      ∀ k ∈ constantKeys (p.type.decl.constants.zip p.constants), k ∉ d.names) :
    Plays bad
      [⟨p.handle, t,
        { t with vars := constantVariables (p.type.decl.constants.zip p.constants) },
        constantKeys (p.type.decl.constants.zip p.constants)⟩]
      (enumSteps p) d := by
  have hconstants := plays_constantsSteps ho hkind hgood
  unfold enumSteps
  rw [htarget]
  rwa [hnone, List.length_nil, List.nil_append] at hconstants

end Automation.Export
