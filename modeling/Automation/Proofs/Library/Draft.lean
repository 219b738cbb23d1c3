import Automation.Library.Draft

/-!
# Requests about one type

A type that is not laid out is open. `Draft.IsOpen` says so, together with what the type is so far;
for each request that fills a type there is one lemma about what it does to an open type. All of
them leave the draft as `Draft.setInfo` does: one type changes and everything else stays.
-/

namespace Automation.Library

theorem exists_of_bind {ε α β : Type} {x : Except ε α} {f : α → Except ε β} {b : β}
    (h : (x >>= f) = .ok b) : ∃ a, x = .ok a ∧ f a = .ok b := by
  cases x with
  | error error => exact Except.noConfusion rfl rfl (heq_of_eq h)
  | ok a => exact ⟨a, rfl, h⟩

/-- The references in the descriptors of a function. -/
def FunctionDesc.refs (f : FunctionDesc) : List TypeRef :=
  (f.params ++ [f.ret]).filterMap (·.type.ref?)

/-- The reference in the descriptor of a variable. -/
def VariableContent.ref? : VariableContent → Option TypeRef
  | .field element => element.type.ref?
  | .constant _ => none

theorem TypeInfo.refs_eq (t : TypeInfo) : t.refs = t.implemented.map (·.ref)
    ++ t.functions.flatMap (·.desc.refs) ++ t.vars.filterMap (·.desc.content.ref?) := rfl

namespace Draft

/-- The type at a place is not laid out, and this is what it is so far. -/
def IsOpen (d : Draft) (h : Handle) (info : TypeInfo) : Prop :=
  d.types[h.index]? = some { info := info }

variable {d d' : Draft} {h : Handle} {t t' : TypeInfo}

/-! ## Changing one type -/

@[simp] theorem setInfo_attributes : (d.setInfo h t).attributes = d.attributes := rfl

@[simp] theorem setInfo_imports : (d.setInfo h t).imports = d.imports := rfl

@[simp] theorem setInfo_names : (d.setInfo h t).names = d.names := rfl

@[simp] theorem length_setInfo : (d.setInfo h t).types.length = d.types.length := by
  simp [setInfo]

theorem getElem?_setInfo_ne {i : Nat} (hi : h.index ≠ i) :
    (d.setInfo h t).types[i]? = d.types[i]? := by
  simp [setInfo, hi]

theorem IsOpen.setInfo (ho : d.IsOpen h t) (t' : TypeInfo) : (d.setInfo h t').IsOpen h t' := by
  unfold IsOpen Draft.setInfo
  rw [List.getElem?_modify_eq, ho]
  rfl

theorem IsOpen.setInfo_self (ho : d.IsOpen h t) : d.setInfo h t = d := by
  unfold Draft.setInfo
  have htypes : d.types.modify h.index (fun u => { u with info := t }) = d.types := by
    refine List.ext_getElem? fun i => ?_
    rw [List.getElem?_modify]
    by_cases hi : h.index = i
    · subst hi
      rw [ho]
      simp
    · simp [hi]
  rw [htypes]

@[simp] theorem setInfo_setInfo : (d.setInfo h t).setInfo h t' = d.setInfo h t' := by
  simp [setInfo, List.modify_modify_eq, Function.comp_def]

@[simp] theorem resolves_setInfo (ref : TypeRef) : (d.setInfo h t).resolves ref = d.resolves ref := by
  cases ref <;> simp [resolves]

theorem resolves_own {k : Handle} : d.resolves (.own k) = true ↔ k.index < d.types.length := by
  simp [resolves]

theorem resolves_imported {library : ImportId} {index : Nat} :
    d.resolves (.imported library index) = true ↔
      ∃ l, d.imports[library.index]? = some l ∧ index < l.typeNames.length := by
  simp only [resolves]
  cases d.imports[library.index]? <;> simp

theorem setInfo_last {types : List DraftType} {u : DraftType} (hd : d.types = types ++ [u]) :
    d.setInfo ⟨types.length⟩ t = { d with types := types ++ [{ u with info := t }] } := by
  have hlast : (types ++ [u]).modify types.length (fun v => { v with info := t }) =
      types ++ [{ u with info := t }] := by
    induction types generalizing d with
    | nil => rfl
    | cons v rest ih => simpa using ih (d := { d with types := rest ++ [u] }) rfl
  simp only [setInfo, hd, hlast]

theorem IsOpen.unfinished_eq (ho : d.IsOpen h t) : d.unfinished h = .ok t := by
  unfold unfinished
  rw [ho]
  rfl

theorem IsOpen.info_eq (ho : d.IsOpen h t) : d.info h = .ok t := by
  unfold info
  rw [ho]

/-- A change of an open type that the type accepts. -/
theorem IsOpen.change (ho : d.IsOpen h t) {f : TypeInfo → Except BuildError TypeInfo}
    (hf : f t = .ok t') : d.change h f = .ok (d.setInfo h t') := by
  unfold Draft.change
  rw [ho.unfinished_eq]
  simp only [bind, Except.bind, hf, pure, Except.pure]

theorem insertAt_length {α : Type} (type : String) (items : List α) (item : α) :
    insertAt type items items.length item = .ok (items ++ [item]) := by
  unfold insertAt
  rw [if_pos (Nat.le_refl _), List.insertIdx_length_self]

/-! ## Requests -/

theorem settleDone_ok {outcome : Except BuildError Draft} (h : outcome = .ok d') :
    d.settleDone outcome = (.ok (), d') := by
  rw [h]
  rfl

theorem settleDone_error {outcome : Except BuildError Draft} {error : BuildError}
    (h : outcome = .error error) : d.settleDone outcome = (.error error, d) := by
  rw [h]
  rfl

theorem answer_createType {name : String} (kind : TypeKind) (hfree : Text.nameKey name ∉ d.names) :
    d.answer (.createType name kind) =
      (.ok ⟨d.types.length⟩,
        { d with
          names := Text.nameKey name :: d.names
          types := d.types ++ [{ info := { name := name, kind := kind } }] }) := by
  simp only [answer, settle, createType, claim, List.contains_eq_mem, hfree, decide_false,
    Bool.false_eq_true, if_false, bind, Except.bind, pure, Except.pure]

theorem answer_createType_error {name : String} (kind : TypeKind)
    (htaken : Text.nameKey name ∈ d.names) :
    d.answer (.createType name kind) = (.error (.duplicateName name), d) := by
  simp only [answer, settle, createType, claim, List.contains_eq_mem, htaken, decide_true,
    if_true, bind, Except.bind]

theorem answer_setGuid (ho : d.IsOpen h t) (guid : Guid) :
    d.answer (.setGuid h guid) = (.ok (), d.setInfo h { t with guid := guid }) :=
  settleDone_ok (ho.change rfl)

theorem answer_setVersion (ho : d.IsOpen h t) (version : Version) :
    d.answer (.setVersion h version) = (.ok (), d.setInfo h { t with version := version }) :=
  settleDone_ok (ho.change rfl)

theorem answer_setFlags (ho : d.IsOpen h t) (flags : TypeFlags) :
    d.answer (.setFlags h flags) = (.ok (), d.setInfo h { t with flags := flags }) :=
  settleDone_ok (ho.change rfl)

theorem answer_setDoc (ho : d.IsOpen h t) (doc : String) :
    d.answer (.setDoc h doc) = (.ok (), d.setInfo h { t with doc := some doc }) :=
  settleDone_ok (ho.change rfl)

/-- An implemented type is added to a class, or to an interface that has none. -/
theorem answer_addImplemented (ho : d.IsOpen h t) {ref : TypeRef} (flags : ImplementedFlags)
    (hkind : t.kind = .coClass ∨ t.kind.isInterface ∧ t.implemented = [])
    (href : d.resolves ref) :
    d.answer (.addImplemented h t.implemented.length ref flags) =
      (.ok (), d.setInfo h { t with implemented := t.implemented ++ [⟨ref, flags⟩] }) := by
  have hallowed : t.kind = .coClass ∨
      (t.kind.isInterface = true ∧ t.implemented.isEmpty = true ∧ t.implemented.length = 0) := by
    rcases hkind with hclass | ⟨hinterface, hnone⟩
    · exact .inl hclass
    · exact .inr ⟨hinterface, by simp [hnone]⟩
  refine settleDone_ok ?_
  unfold addImplemented
  simp only [ho.info_eq, href, bind, Except.bind, Bool.not_true, Bool.false_eq_true, if_false]
  refine ho.change ?_
  simp only [if_pos hallowed, insertAt_length, pure, Except.pure]

/-- An implemented type without a target is rejected. -/
theorem answer_addImplemented_error (ho : d.IsOpen h t) {ref : TypeRef} (index : Nat)
    (flags : ImplementedFlags) (href : d.resolves ref = false) :
    d.answer (.addImplemented h index ref flags) = (.error (.danglingReference t.name), d) := by
  refine settleDone_error ?_
  unfold addImplemented
  simp only [ho.info_eq, href, bind, Except.bind, Bool.not_false, if_true]
  rfl

theorem answer_addFunction (ho : d.IsOpen h t) (hkind : t.kind.isInterface) (desc : FunctionDesc) :
    d.answer (.addFunction h t.functions.length desc) =
      (.ok (), d.setInfo h { t with functions := t.functions ++ [{ desc := desc }] }) := by
  refine settleDone_ok (ho.change ?_)
  simp only [hkind, insertAt_length, bind, Except.bind, pure, Except.pure, Bool.not_true,
    Bool.false_eq_true, if_false]

theorem answer_addVariable (ho : d.IsOpen h t) (hkind : t.kind.hasVariables) (desc : VariableDesc) :
    d.answer (.addVariable h t.vars.length desc) =
      (.ok (), d.setInfo h { t with vars := t.vars ++ [{ desc := desc }] }) := by
  refine settleDone_ok (ho.change ?_)
  simp only [hkind, insertAt_length, bind, Except.bind, pure, Except.pure, Bool.not_true,
    Bool.false_eq_true, if_false]

/-- The last function of a type gets its names. -/
theorem answer_setFunctionNames {functions : List FunctionInfo} {f : FunctionInfo}
    (ho : d.IsOpen h { t with functions := functions ++ [f] }) {names : List String}
    (hnames : names.length ≤ f.desc.params.length + 1) :
    d.answer (.setFunctionNames h functions.length names) =
      (.ok (), d.setInfo h { t with functions := functions ++ [{ f with names := names }] }) := by
  refine settleDone_ok (ho.change ?_)
  have hf : ¬names.length > f.desc.params.length + 1 := by omega
  simp [modifyAt, hf, bind, Except.bind, pure, Except.pure]

theorem answer_setFunctionDoc {functions : List FunctionInfo} {f : FunctionInfo}
    (ho : d.IsOpen h { t with functions := functions ++ [f] }) (doc : String) :
    d.answer (.setFunctionDoc h functions.length doc) =
      (.ok (), d.setInfo h { t with functions := functions ++ [{ f with doc := some doc }] }) := by
  refine settleDone_ok (ho.change ?_)
  simp [modifyAt, bind, Except.bind, pure, Except.pure]

theorem answer_setVariableDoc {vars : List VariableInfo} {v : VariableInfo}
    (ho : d.IsOpen h { t with vars := vars ++ [v] }) (doc : String) :
    d.answer (.setVariableDoc h vars.length doc) =
      (.ok (), d.setInfo h { t with vars := vars ++ [{ v with doc := some doc }] }) := by
  refine settleDone_ok (ho.change ?_)
  simp [modifyAt, bind, Except.bind, pure, Except.pure]

/-- The last variable of a type gets its name, which the constant of an enum shares with types. -/
theorem setVariableName_eq {vars : List VariableInfo} {v : VariableInfo}
    (ho : d.IsOpen h { t with vars := vars ++ [v] }) (name : String) :
    d.setVariableName h vars.length name =
      if t.kind = .enumeration then
        (d.setInfo h { t with vars := vars ++ [{ v with name := name }] }).claim name
      else .ok (d.setInfo h { t with vars := vars ++ [{ v with name := name }] }) := by
  have hchange : d.change h (fun t => do
      let vars ← modifyAt t.name t.vars vars.length fun v => return { v with name := name }
      return { t with vars := vars }) =
        .ok (d.setInfo h { t with vars := vars ++ [{ v with name := name }] }) := by
    refine ho.change ?_
    simp [modifyAt, bind, Except.bind, pure, Except.pure]
  unfold setVariableName
  rw [hchange]
  simp only [bind, Except.bind, ho.info_eq, pure, Except.pure]

end Draft

end Automation.Library
