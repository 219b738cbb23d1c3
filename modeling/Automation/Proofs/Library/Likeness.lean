import Automation.Proofs.Library.Journal
import Automation.Proofs.Library.WellFormed
import Mathlib.Data.List.Forall2

/-!
# Drafts that look alike

Two drafts look alike (`Draft.Like`) if a builder cannot tell them apart: their types agree in
everything but the descriptors without references, and the offsets of their functions count the same
slots, of two widths. Requests that look alike are answered alike and leave drafts that look alike
(`Request.Like`). A layout is accepted by both or rejected by both (`Draft.Like.layOut`), and so is a
commit (`Draft.Like.commit`).
-/

namespace Automation.Library

/-! ## Outcomes -/

section Outcomes

variable {ε α α' β β' : Type}

/-- Two outcomes agree: both are results of which `R` holds, or both are the same error. -/
def Agree (R : α → α' → Prop) : Except ε α → Except ε α' → Prop
  | .ok a, .ok a' => R a a'
  | .error e, .error e' => e = e'
  | _, _ => False

variable {R : α → α' → Prop}

/-- Results that agree are those of the two outcomes. -/
theorem Agree.self {x : Except ε α} {x' : Except ε α'} (h : Agree R x x') :
    Agree (fun a a' => R a a' ∧ x = .ok a ∧ x' = .ok a') x x' := by
  cases x <;> cases x' <;> first | exact ⟨h, rfl, rfl⟩ | exact h

theorem Agree.bind {S : β → β' → Prop} {x : Except ε α} {x' : Except ε α'} {f : α → Except ε β}
    {f' : α' → Except ε β'} (h : Agree R x x') (hf : ∀ a a', R a a' → Agree S (f a) (f' a')) :
    Agree S (x >>= f) (x' >>= f') := by
  cases x with
  | ok a =>
    cases x' with
    | ok a' => exact hf a a' h
    | error e' => exact h.elim
  | error e =>
    cases x' with
    | ok a' => exact h.elim
    | error e' => exact h

theorem map_eq_of_forall₂ {l : List α} {l' : List α'} (h : List.Forall₂ R l l') {f : α → β}
    {f' : α' → β} (hf : ∀ a a', R a a' → f' a' = f a) : l'.map f' = l.map f := by
  induction h with
  | nil => rfl
  | cons hab _ ih => rw [List.map_cons, List.map_cons, hf _ _ hab, ih]

/-- What is related stays so where items of two lists are looked up. -/
theorem rel_getElem? {l : List α} {l' : List α'} (h : List.Forall₂ R l l') (i : Nat) :
    Option.Rel R l[i]? l'[i]? := by
  induction h generalizing i with
  | nil => exact .none
  | cons hab _ ih =>
    cases i with
    | zero => exact .some hab
    | succ i => exact ih i

theorem forall₂_insertIdx {l : List α} {l' : List α'} (h : List.Forall₂ R l l') {a : α} {a' : α'}
    (ha : R a a') (i : Nat) : List.Forall₂ R (l.insertIdx i a) (l'.insertIdx i a') := by
  induction h generalizing i with
  | nil =>
    cases i with
    | zero => exact .cons ha .nil
    | succ i => exact .nil
  | cons hab hrest ih =>
    cases i with
    | zero => exact .cons ha (.cons hab hrest)
    | succ i => exact .cons hab (ih i)

theorem forall₂_modify {l : List α} {l' : List α'} (h : List.Forall₂ R l l') {f : α → α}
    {f' : α' → α'} {i : Nat} (hf : ∀ a a', l[i]? = some a → l'[i]? = some a' → R (f a) (f' a')) :
    List.Forall₂ R (l.modify i f) (l'.modify i f') := by
  induction h generalizing i with
  | nil => cases i <;> exact .nil
  | cons hab hrest ih =>
    cases i with
    | zero => exact .cons (hf _ _ rfl rfl) hrest
    | succ i => exact .cons hab (ih hf)

theorem forall₂_set {l : List α} {l' : List α'} (h : List.Forall₂ R l l') {a : α} {a' : α'}
    (ha : R a a') (i : Nat) : List.Forall₂ R (l.set i a) (l'.set i a') := by
  induction h generalizing i with
  | nil => exact .nil
  | cons hab hrest ih =>
    cases i with
    | zero => exact .cons ha hrest
    | succ i => exact .cons hab (ih i)

end Outcomes

/-! ## Types -/

variable {w w' : PointerWidth}

/-- Two functions look alike. Their offsets count the same slots. -/
structure FunctionDesc.Like (w w' : PointerWidth) (f f' : FunctionDesc) : Prop where
  memid : f'.memid = f.memid
  invoke : f'.invoke = f.invoke
  kind : f'.kind = f.kind
  flags : f'.flags = f.flags
  refs : f'.refs = f.refs
  offset : f.offset * w'.bytes = f'.offset * w.bytes

/-- Two functions look alike, with their own names and documentation. -/
structure FunctionInfo.Like (w w' : PointerWidth) (f f' : FunctionInfo) : Prop where
  desc : f.desc.Like w w' f'.desc
  name : f'.names.head? = f.names.head?
  doc : f'.doc = f.doc

/-- Two variables look alike. Constants are the same, and so are fields where pointers have the same
width. -/
structure VariableDesc.Like (w w' : PointerWidth) (v v' : VariableDesc) : Prop where
  memid : v'.memid = v.memid
  flags : v'.flags = v.flags
  ref? : v'.content.ref? = v.content.ref?
  same : w = w' → v' = v
  constant : ∀ value, v.content = .constant value → v' = v

/-- Two variables look alike, with their names and documentation. -/
structure VariableInfo.Like (w w' : PointerWidth) (v v' : VariableInfo) : Prop where
  desc : v.desc.Like w w' v'.desc
  name : v'.name = v.name
  doc : v'.doc = v.doc

/-- A type without its functions and variables. -/
def TypeInfo.frame (t : TypeInfo) : TypeInfo := { t with functions := [], vars := [] }

/-- Two types look alike. -/
structure TypeInfo.Like (w w' : PointerWidth) (t t' : TypeInfo) : Prop where
  frame : t'.frame = t.frame
  functions : List.Forall₂ (FunctionInfo.Like w w') t.functions t'.functions
  vars : List.Forall₂ (VariableInfo.Like w w') t.vars t'.vars

/-- Two types under construction look alike. -/
structure DraftType.Like (w w' : PointerWidth) (u u' : DraftType) : Prop where
  info : u.info.Like w w' u'.info
  laidOut : u'.laidOut = u.laidOut

/-- Two libraries under construction look alike. Their attributes are given. -/
structure Draft.Like (a a' : Attributes) (d d' : Draft) : Prop where
  attributes : d.attributes = some a
  attributes' : d'.attributes = some a'
  types : List.Forall₂ (DraftType.Like a.pointerWidth a'.pointerWidth) d.types d'.types
  imports : d'.imports = d.imports
  names : d'.names = d.names

/-- Two committed libraries look alike. -/
structure Like (l l' : Library) : Prop where
  types : List.Forall₂
    (TypeInfo.Like l.attributes.pointerWidth l'.attributes.pointerWidth) l.types l'.types
  imports : l'.imports = l.imports

theorem VariableDesc.Like.refl (v : VariableDesc) : v.Like w w' v :=
  ⟨rfl, rfl, rfl, fun _ => rfl, fun _ _ => rfl⟩

namespace TypeInfo.Like

variable {t t' : TypeInfo} (h : t.Like w w' t')

include h

theorem name : t'.name = t.name := (congrArg TypeInfo.name h.frame :)

theorem kind : t'.kind = t.kind := (congrArg TypeInfo.kind h.frame :)

theorem flags : t'.flags = t.flags := (congrArg TypeInfo.flags h.frame :)

theorem implemented : t'.implemented = t.implemented := (congrArg TypeInfo.implemented h.frame :)

/-- The second type is the first one with other functions and variables. -/
theorem exists_eq : ∃ functions vars, t' = { t with functions := functions, vars := vars } ∧
    List.Forall₂ (FunctionInfo.Like w w') t.functions functions ∧
      List.Forall₂ (VariableInfo.Like w w') t.vars vars := by
  refine ⟨t'.functions, t'.vars, ?_, h.functions, h.vars⟩
  exact congrArg (fun u : TypeInfo => { u with functions := t'.functions, vars := t'.vars }) h.frame

theorem refs : t'.refs = t.refs := by
  rw [TypeInfo.refs_eq, TypeInfo.refs_eq, h.implemented, List.flatMap_def, List.flatMap_def,
    map_eq_of_forall₂ h.functions fun _ _ hf => hf.desc.refs]
  have hvars := map_eq_of_forall₂ h.vars fun _ _ hv => hv.desc.ref?
  have hall := congrArg (List.filterMap id) hvars
  rw [List.filterMap_map, List.filterMap_map] at hall
  exact congrArg _ hall

theorem base? : t'.base? = t.base? := by
  unfold TypeInfo.base?
  rw [h.kind, h.implemented]

/-- The ids of functions are the same. -/
theorem memids : t'.functions.map (·.desc.memid) = t.functions.map (·.desc.memid) :=
  map_eq_of_forall₂ h.functions fun _ _ hf => hf.desc.memid

end TypeInfo.Like

/-! ## What a layout finds -/

namespace Layout

variable {fs fs' : List FunctionDesc}

theorem like_numberFrom {functions functions' : List FunctionInfo}
    (h : List.Forall₂ (FunctionInfo.Like w w') functions functions') (taken : List MemberId) :
    List.Forall₂ (FunctionInfo.Like w w') (numberFrom taken functions)
      (numberFrom taken functions') := by
  induction h generalizing taken with
  | nil => exact .nil
  | cons hf hlater ih =>
    unfold numberFrom
    rw [hf.desc.memid]
    split
    · exact .cons ⟨{ hf.desc with memid := rfl, refs := hf.desc.refs }, hf.name, hf.doc⟩ (ih _)
    · exact .cons hf (ih taken)

theorem like_number {functions functions' : List FunctionInfo}
    (h : List.Forall₂ (FunctionInfo.Like w w') functions functions') (inherited : List MemberId) :
    List.Forall₂ (FunctionInfo.Like w w') (number inherited functions)
      (number inherited functions') := by
  unfold number
  rw [map_eq_of_forall₂ h fun _ _ hf => hf.desc.memid]
  exact like_numberFrom h _

/-- The same ids clash. -/
theorem repeatedId?_like (h : List.Forall₂ (FunctionDesc.Like w w') fs fs')
    {earlier earlier' : List FunctionDesc}
    (hearlier : List.Forall₂ (FunctionDesc.Like w w') earlier earlier') (inherited : List MemberId) :
    repeatedId? inherited earlier' fs' = repeatedId? inherited earlier fs := by
  induction h generalizing earlier earlier' with
  | nil => rfl
  | @cons f f' later later' hf hlater ih =>
    have hclashes : earlier'.any (clashes f') = earlier.any (clashes f) := by
      clear ih
      induction hearlier with
      | nil => rfl
      | cons he _ ih =>
        rw [List.any_cons, List.any_cons, ih]
        unfold clashes
        rw [he.memid, he.invoke, hf.memid, hf.invoke]
    unfold repeatedId?
    rw [hclashes, hf.memid, ih (List.rel_append hearlier (.cons hf .nil))]

/-- Two faults stand for each other: they are the same where pointers have the same width. -/
abbrev SameFault (w w' : PointerWidth) : Option BuildError → Option BuildError → Prop :=
  Option.Rel fun e e' => w = w' → e = e'

theorem bytes_pos (w : PointerWidth) : 0 < w.bytes := by cases w <;> decide

/-- Offsets that count the same slots compare alike. -/
theorem lt_iff_of_slots {m m' n n' : Nat} (hm : m * w'.bytes = m' * w.bytes)
    (hn : n * w'.bytes = n' * w.bytes) : m < n ↔ m' < n' := by
  have hw := bytes_pos w
  have hw' := bytes_pos w'
  calc m < n
    _ ↔ m * w'.bytes < n * w'.bytes := (Nat.mul_lt_mul_right hw').symm
    _ ↔ m' * w.bytes < n' * w.bytes := by rw [hm, hn]
    _ ↔ m' < n' := Nat.mul_lt_mul_right hw

/-- Offsets that count the same slots are whole slots alike. -/
theorem mod_eq_zero_iff_of_slots {m m' : Nat} (hm : m * w'.bytes = m' * w.bytes) :
    m % w.bytes = 0 ↔ m' % w'.bytes = 0 := by
  rw [← Nat.dvd_iff_mod_eq_zero, ← Nat.dvd_iff_mod_eq_zero]
  calc w.bytes ∣ m
    _ ↔ w.bytes * w'.bytes ∣ m * w'.bytes := (Nat.mul_dvd_mul_iff_right (bytes_pos w')).symm
    _ ↔ w'.bytes * w.bytes ∣ m' * w.bytes := by rw [hm, Nat.mul_comm]
    _ ↔ w'.bytes ∣ m' := Nat.mul_dvd_mul_iff_right (bytes_pos w)

/-- Offsets that count the same slots are at fault alike. -/
theorem offsetFault?_like (h : List.Forall₂ (FunctionDesc.Like w w') fs fs') (type : String)
    (least index : Nat) {previous previous' : Option Nat}
    (hprevious : Option.Rel (fun p p' => p * w'.bytes = p' * w.bytes) previous previous') :
    SameFault w w' (offsetFault? type w.bytes (least * w.bytes) index previous fs)
      (offsetFault? type w'.bytes (least * w'.bytes) index previous' fs') := by
  induction h generalizing index previous previous' with
  | nil => exact .none
  | @cons f f' later later' hf hlater ih =>
    have hleast : f.offset < least * w.bytes ↔ f'.offset < least * w'.bytes :=
      lt_iff_of_slots hf.offset (by rw [Nat.mul_right_comm])
    have hascends : previous.any (fun p => decide (f.offset ≤ p)) =
        previous'.any fun p => decide (f'.offset ≤ p) := by
      cases hprevious with
      | none => rfl
      | some hp =>
        have hiff := lt_iff_of_slots hp hf.offset
        exact decide_eq_decide.mpr (by omega)
    have hslots : (f.offset % w.bytes != 0) = (f'.offset % w'.bytes != 0) :=
      congrArg not (decide_eq_decide.mpr (mod_eq_zero_iff_of_slots hf.offset))
    unfold offsetFault?
    rw [hascends, hslots]
    by_cases hlow : f.offset < least * w.bytes
    · rw [if_pos hlow, if_pos (hleast.mp hlow)]
      refine .some ?_
      rintro rfl
      rw [Nat.eq_of_mul_eq_mul_right (bytes_pos w) hf.offset]
    · rw [if_neg hlow, if_neg (mt hleast.mpr hlow)]
      split
      · exact .some fun _ => rfl
      · exact ih (index + 1) (.some hf.offset)

/-- Two interfaces that look alike are at fault alike. -/
theorem interfaceFault?_like {t t' : TypeInfo} (h : t.Like w w' t') (inherited : List MemberId) :
    SameFault w w' (interfaceFault? t inherited w.bytes) (interfaceFault? t' inherited w'.bytes) := by
  have hfunctions : List.Forall₂ (FunctionDesc.Like w w') (t.functions.map (·.desc))
      (t'.functions.map (·.desc)) := by
    rw [List.forall₂_map_left_iff, List.forall₂_map_right_iff]
    exact h.functions.imp fun _ _ hf => hf.desc
  unfold interfaceFault?
  dsimp only
  rw [repeatedId?_like hfunctions .nil, h.name, h.kind, h.flags]
  split
  · exact .some fun _ => rfl
  · exact offsetFault?_like hfunctions _ _ _ .none

end Layout

/-! ## Drafts -/

namespace Draft

variable {a a' : Attributes} {d d' : Draft}

namespace Like

theorem slot (h : d.Like a a' d') : d.slot = a.pointerWidth.bytes ∧ d'.slot = a'.pointerWidth.bytes := by
  unfold Draft.slot
  rw [h.attributes, h.attributes']
  exact ⟨rfl, rfl⟩

theorem infos (h : d.Like a a' d') :
    List.Forall₂ (TypeInfo.Like a.pointerWidth a'.pointerWidth) d.infos d'.infos := by
  unfold Draft.infos
  rw [List.forall₂_map_left_iff, List.forall₂_map_right_iff]
  exact h.types.imp fun _ _ hu => hu.info

theorem length (h : d.Like a a' d') : d'.types.length = d.types.length := h.types.length_eq.symm

theorem resolves (h : d.Like a a' d') (ref : TypeRef) : d'.resolves ref = d.resolves ref := by
  cases ref <;> simp [Draft.resolves, h.length, h.imports]

/-- The ids that a type inherits are the same. -/
theorem inheritedIds (h : d.Like a a' d') (type : Handle) :
    d'.inheritedIds type = d.inheritedIds type := by
  have hinfo := fun i => rel_getElem? h.infos i
  have hbase : ownBase? d'.infos = ownBase? d.infos := by
    funext i
    unfold ownBase?
    have hi := hinfo i
    generalize d.infos[i]? = x at hi ⊢
    generalize d'.infos[i]? = x' at hi ⊢
    cases hi with
    | none => rfl
    | some ht => rw [Option.bind_some, Option.bind_some, ht.base?]
  have hchain : baseChain d'.infos type.index = baseChain d.infos type.index := by
    unfold baseChain
    rw [hbase, h.infos.length_eq]
  unfold Draft.inheritedIds
  rw [hchain]
  congr 1
  funext i
  have hi := hinfo i
  generalize d.infos[i]? = x at hi ⊢
  generalize d'.infos[i]? = x' at hi ⊢
  cases hi with
  | none => rfl
  | some ht => exact ht.memids

/-! ### Changes -/

theorem info (h : d.Like a a' d') (type : Handle) :
    Agree (TypeInfo.Like a.pointerWidth a'.pointerWidth) (d.info type) (d'.info type) := by
  have hu := rel_getElem? h.types type.index
  unfold Draft.info
  generalize d.types[type.index]? = x at hu ⊢
  generalize d'.types[type.index]? = x' at hu ⊢
  cases hu with
  | none => exact rfl
  | some hu => exact hu.info

theorem unfinished (h : d.Like a a' d') (type : Handle) :
    Agree (TypeInfo.Like a.pointerWidth a'.pointerWidth) (d.unfinished type)
      (d'.unfinished type) := by
  have hu := rel_getElem? h.types type.index
  unfold Draft.unfinished
  generalize d.types[type.index]? = x at hu ⊢
  generalize d'.types[type.index]? = x' at hu ⊢
  cases hu with
  | none => exact rfl
  | some hu =>
    dsimp only
    rw [hu.laidOut]
    split
    · exact congrArg BuildError.laidOut hu.info.name.symm
    · exact hu.info

theorem setInfo (h : d.Like a a' d') (type : Handle) {t t' : TypeInfo}
    (ht : t.Like a.pointerWidth a'.pointerWidth t') :
    (d.setInfo type t).Like a a' (d'.setInfo type t') := by
  refine { h with types := forall₂_modify h.types fun u u' hu hu' => ⟨ht, ?_⟩ }
  have hrel := rel_getElem? h.types type.index
  rw [hu, hu'] at hrel
  cases hrel with
  | some hrel => exact hrel.laidOut

theorem change (h : d.Like a a' d') (type : Handle) {f f' : TypeInfo → Except BuildError TypeInfo}
    (hf : ∀ t t', t.Like a.pointerWidth a'.pointerWidth t' → d.IsOpen type t → d'.IsOpen type t' →
      Agree (TypeInfo.Like a.pointerWidth a'.pointerWidth) (f t) (f' t')) :
    Agree (Draft.Like a a') (d.change type f) (d'.change type f') := by
  refine (h.unfinished type).self.bind fun t t' ht => ?_
  obtain ⟨ht, hopen, hopen'⟩ := ht
  exact (hf t t' ht (isOpen_of_unfinished hopen) (isOpen_of_unfinished hopen')).bind
    fun _ _ hu => h.setInfo type hu

theorem claim (h : d.Like a a' d') (name : String) :
    Agree (Draft.Like a a') (d.claim name) (d'.claim name) := by
  unfold Draft.claim
  dsimp only
  rw [h.names]
  split
  · exact rfl
  · exact { h with names := rfl }

end Like

theorem agree_insertAt {α : Type} {R : α → α → Prop} (type : String) {l l' : List α}
    (h : List.Forall₂ R l l') (index : Nat) {item item' : α} (hitem : R item item') :
    Agree (List.Forall₂ R) (insertAt type l index item) (insertAt type l' index item') := by
  unfold insertAt
  rw [h.length_eq]
  split
  · exact forall₂_insertIdx h hitem index
  · exact rfl

theorem agree_modifyAt {α : Type} {R : α → α → Prop} (type : String) {l l' : List α}
    (h : List.Forall₂ R l l') (index : Nat) {f f' : α → Except BuildError α}
    (hf : ∀ item item', R item item' → l[index]? = some item → l'[index]? = some item' →
      Agree R (f item) (f' item')) :
    Agree (List.Forall₂ R) (modifyAt type l index f) (modifyAt type l' index f') := by
  have hitem := rel_getElem? h index
  unfold modifyAt
  rw [h.length_eq]
  cases hl : l[index]? <;> cases hl' : l'[index]? <;> rw [hl, hl'] at hitem
  · exact rfl
  · exact nomatch hitem
  · exact nomatch hitem
  · cases hitem with
    | some hitem => exact (hf _ _ hitem hl hl').bind fun _ _ hnew => forall₂_set h hnew index

end Draft

/-! ## Requests -/

/-- Two requests look alike: drafts that look alike answer them alike, and look alike afterwards. -/
def Request.Like (a a' : Attributes) {kind : ReplyKind} (r r' : Request kind) : Prop :=
  ∀ {d d' : Draft}, d.Like a a' d' →
    (d.answer r).1 = (d'.answer r').1 ∧ (d.answer r).2.Like a a' (d'.answer r').2

namespace Draft.Like

variable {a a' : Attributes} {d d' : Draft}

theorem settle {α : Type} (h : d.Like a a' d') {outcome outcome' : Except BuildError (Draft × α)}
    (houtcome : Agree (fun x x' => x.1.Like a a' x'.1 ∧ x.2 = x'.2) outcome outcome') :
    (d.settle outcome).1 = (d'.settle outcome').1 ∧
      (d.settle outcome).2.Like a a' (d'.settle outcome').2 := by
  cases outcome with
  | ok x =>
    cases outcome' with
    | ok x' => exact ⟨congrArg Except.ok houtcome.2, houtcome.1⟩
    | error e' => exact houtcome.elim
  | error e =>
    cases outcome' with
    | ok x' => exact houtcome.elim
    | error e' => exact ⟨congrArg Except.error houtcome, h⟩

theorem settleDone (h : d.Like a a' d') {outcome outcome' : Except BuildError Draft}
    (houtcome : Agree (Draft.Like a a') outcome outcome') :
    (d.settleDone outcome).1 = (d'.settleDone outcome').1 ∧
      (d.settleDone outcome).2.Like a a' (d'.settleDone outcome').2 := by
  refine h.settle ?_
  cases outcome with
  | ok x =>
    cases outcome' with
    | ok x' => exact ⟨houtcome, rfl⟩
    | error e' => exact houtcome.elim
  | error e =>
    cases outcome' with
    | ok x' => exact houtcome.elim
    | error e' => exact houtcome

end Draft.Like

namespace Request.Like

variable {a a' : Attributes} {type : Handle} {index : Nat}

/-- A change that a type cannot refuse, and that is not about its functions and variables. -/
theorem describe {f : TypeInfo → TypeInfo}
    (hf : ∀ t functions vars, f { t with functions := functions, vars := vars } =
      { f t with functions := functions, vars := vars }) {d d' : Draft} (h : d.Like a a' d') :
    (d.settleDone (d.change type fun t => .ok (f t))).1 =
        (d'.settleDone (d'.change type fun t => .ok (f t))).1 ∧
      (d.settleDone (d.change type fun t => .ok (f t))).2.Like a a'
        (d'.settleDone (d'.change type fun t => .ok (f t))).2 := by
  refine h.settleDone (h.change type fun t t' ht _ _ => ?_)
  obtain ⟨functions, vars, rfl, hfunctions, hvars⟩ := ht.exists_eq
  have hself : f t = { f t with functions := t.functions, vars := t.vars } := hf t t.functions t.vars
  rw [hf t functions vars, hself]
  exact ⟨rfl, hfunctions, hvars⟩

theorem createType (name : String) (kind : TypeKind) :
    Request.Like a a' (.createType name kind) (.createType name kind) := fun {d d'} h => by
  refine h.settle ((h.claim name).bind fun e e' he => ⟨?_, ?_⟩)
  · exact { he with types := List.rel_append h.types (.cons ⟨⟨rfl, .nil, .nil⟩, rfl⟩ .nil) }
  · exact congrArg Handle.mk h.length.symm

theorem addImport (library : ImportedLibrary) :
    Request.Like a a' (.addImport library) (.addImport library) := fun {d d'} h => by
  have hdraft : (d.addImport library).2 = (d'.addImport library).2 ∧
      (d.addImport library).1.Like a a' (d'.addImport library).1 := by
    unfold Draft.addImport
    rw [h.imports]
    split
    · exact ⟨rfl, h⟩
    · exact ⟨rfl, { h with imports := rfl }⟩
  exact ⟨congrArg Except.ok hdraft.1, hdraft.2⟩

theorem addImplemented (ref : TypeRef) (flags : ImplementedFlags) :
    Request.Like a a' (.addImplemented type index ref flags) (.addImplemented type index ref flags) :=
  fun {d d'} h => by
    refine h.settleDone ((h.info type).bind fun owner owner' howner => ?_)
    rw [h.resolves, howner.name]
    split
    · exact rfl
    · refine h.change type fun t t' ht _ _ => ?_
      obtain ⟨functions, vars, rfl, hfunctions, hvars⟩ := ht.exists_eq
      dsimp only
      split
      · cases Draft.insertAt t.name t.implemented index ⟨ref, flags⟩ with
        | ok implemented => exact ⟨rfl, hfunctions, hvars⟩
        | error e => exact rfl
      · exact rfl

/-- **Requests that give a type its place, or say what it implements, look like themselves.** -/
theorem of_phase {kind : ReplyKind} {r : Request kind}
    (hphase : r.phase ∈ [Phase.creation, .imports, .inheritance]) : Request.Like a a' r r := by
  intro d d' h
  cases r with
  | createType name kind => exact createType name kind h
  | setGuid type guid => exact describe (f := fun t => { t with guid := guid }) (fun _ _ _ => rfl) h
  | setVersion type version =>
    exact describe (f := fun t => { t with version := version }) (fun _ _ _ => rfl) h
  | setFlags type flags =>
    exact describe (f := fun t => { t with flags := flags }) (fun _ _ _ => rfl) h
  | setDoc type doc => exact describe (f := fun t => { t with doc := some doc }) (fun _ _ _ => rfl) h
  | addImport library => exact addImport library h
  | addImplemented type index ref flags => exact addImplemented ref flags h
  | _ => simp [Request.phase] at hphase

theorem addFunction {desc desc' : FunctionDesc}
    (hdesc : desc.Like a.pointerWidth a'.pointerWidth desc') :
    Request.Like a a' (.addFunction type index desc) (.addFunction type index desc') :=
  fun {d d'} h => by
    refine h.settleDone (h.change type fun t t' ht _ _ => ?_)
    obtain ⟨functions, vars, rfl, hfunctions, hvars⟩ := ht.exists_eq
    dsimp only
    split
    · exact rfl
    · have hnew : FunctionInfo.Like a.pointerWidth a'.pointerWidth { desc := desc } { desc := desc' } :=
        ⟨hdesc, rfl, rfl⟩
      refine (Draft.agree_insertAt t.name hfunctions index hnew).bind ?_
      exact fun _ _ hfunctions => ⟨rfl, hfunctions, hvars⟩

theorem addVariable {desc desc' : VariableDesc}
    (hdesc : desc.Like a.pointerWidth a'.pointerWidth desc') :
    Request.Like a a' (.addVariable type index desc) (.addVariable type index desc') :=
  fun {d d'} h => by
    refine h.settleDone (h.change type fun t t' ht _ _ => ?_)
    obtain ⟨functions, vars, rfl, hfunctions, hvars⟩ := ht.exists_eq
    dsimp only
    split
    · exact rfl
    · have hnew : VariableInfo.Like a.pointerWidth a'.pointerWidth { desc := desc } { desc := desc' } :=
        ⟨hdesc, rfl, rfl⟩
      refine (Draft.agree_insertAt t.name hvars index hnew).bind ?_
      exact fun _ _ hvars => ⟨rfl, hfunctions, hvars⟩

theorem setFunctionDoc (doc : String) :
    Request.Like a a' (.setFunctionDoc type index doc) (.setFunctionDoc type index doc) :=
  fun {d d'} h => by
    refine h.settleDone (h.change type fun t t' ht _ _ => ?_)
    obtain ⟨functions, vars, rfl, hfunctions, hvars⟩ := ht.exists_eq
    refine (Draft.agree_modifyAt t.name hfunctions index fun f f' hf _ _ => ?_).bind ?_
    · exact { hf with doc := rfl }
    · exact fun _ _ hfunctions => ⟨rfl, hfunctions, hvars⟩

theorem setVariableDoc (doc : String) :
    Request.Like a a' (.setVariableDoc type index doc) (.setVariableDoc type index doc) :=
  fun {d d'} h => by
    refine h.settleDone (h.change type fun t t' ht _ _ => ?_)
    obtain ⟨functions, vars, rfl, hfunctions, hvars⟩ := ht.exists_eq
    refine (Draft.agree_modifyAt t.name hvars index fun v v' hv _ _ => ?_).bind ?_
    · exact { hv with doc := rfl }
    · exact fun _ _ hvars => ⟨rfl, hfunctions, hvars⟩

theorem setVariableName (name : String) :
    Request.Like a a' (.setVariableName type index name) (.setVariableName type index name) :=
  fun {d d'} h => by
    refine h.settleDone (Agree.bind (R := Draft.Like a a') ?_ fun e e' he => ?_)
    · refine h.change type fun t t' ht _ _ => ?_
      obtain ⟨functions, vars, rfl, hfunctions, hvars⟩ := ht.exists_eq
      refine (Draft.agree_modifyAt t.name hvars index fun v v' hv _ _ => ?_).bind ?_
      · exact { hv with name := rfl }
      · exact fun _ _ hvars => ⟨rfl, hfunctions, hvars⟩
    · refine (h.info type).bind fun owner owner' howner => ?_
      rw [howner.kind]
      split
      · exact he.claim name
      · exact he

end Request.Like

namespace Draft

variable {a a' : Attributes} {d d' : Draft} {type : Handle} {index : Nat}

/-- The function at an index of the type at a place. -/
def function? (d : Draft) (type : Handle) (index : Nat) : Option FunctionInfo :=
  d.types[type.index]?.bind (·.info.functions[index]?)

/-- A function that was added is found in its place. -/
theorem function?_addFunction {desc : FunctionDesc} (h : d.addFunction type index desc = .ok d') :
    d'.function? type index = some { desc := desc } := by
  obtain ⟨t, t', hopen, ht, rfl⟩ := exists_of_change h
  split at ht
  · exact Except.noConfusion rfl rfl (heq_of_eq ht)
  · obtain ⟨functions, hfunctions, ht⟩ := exists_of_bind ht
    obtain rfl := Except.ok.inj ht
    obtain ⟨hindex, rfl⟩ := exists_of_insertAt hfunctions
    unfold function?
    rw [show _ = _ from hopen.setInfo _]
    simp [List.getElem?_insertIdx_self, hindex]

/-- Functions get names that begin alike, if both have room for theirs. -/
theorem Like.setFunctionNames (h : d.Like a a' d') {names names' : List String}
    (hname : names'.head? = names.head?)
    (hfits : ∀ f ∈ d.function? type index, names.length ≤ f.desc.params.length + 1)
    (hfits' : ∀ f ∈ d'.function? type index, names'.length ≤ f.desc.params.length + 1) :
    (d.answer (.setFunctionNames type index names)).1 =
        (d'.answer (.setFunctionNames type index names')).1 ∧
      (d.answer (.setFunctionNames type index names)).2.Like a a'
        (d'.answer (.setFunctionNames type index names')).2 := by
  refine h.settleDone (h.change type fun t t' ht hopen hopen' => ?_)
  have hroom : ∀ f, t.functions[index]? = some f → names.length ≤ f.desc.params.length + 1 := by
    intro f hf
    refine hfits f ?_
    unfold Draft.function?
    rw [show _ = _ from hopen]
    exact hf
  have hroom' : ∀ f, t'.functions[index]? = some f → names'.length ≤ f.desc.params.length + 1 := by
    intro f hf
    refine hfits' f ?_
    unfold Draft.function?
    rw [show _ = _ from hopen']
    exact hf
  obtain ⟨functions, vars, rfl, hfunctions, hvars⟩ := ht.exists_eq
  refine (agree_modifyAt t.name hfunctions index fun f f' hf hget hget' => ?_).bind ?_
  · rw [if_neg (by have := hroom f hget; omega), if_neg (by have := hroom' f' hget'; omega)]
    exact { hf with name := hname }
  · exact fun _ _ hfunctions => ⟨rfl, hfunctions, hvars⟩

/-! ## Layouts and commits -/

/-- Two layouts are accepted, or they are rejected, for the same reason where pointers have the same
width. -/
def Accord (w w' : PointerWidth) : Except BuildError Unit → Except BuildError Unit → Prop
  | .ok _, .ok _ => True
  | .error e, .error e' => w = w' → e = e'
  | _, _ => False

theorem Like.finish (h : d.Like a a' d') (type : Handle) :
    (d.finish type).Like a a' (d'.finish type) := by
  refine { h with types := forall₂_modify h.types fun u u' hu hu' => ?_ }
  have hrel := rel_getElem? h.types type.index
  rw [hu, hu'] at hrel
  cases hrel with
  | some hrel => exact ⟨hrel.info, rfl⟩

/-- **Drafts that look alike lay a type out alike.** -/
theorem Like.layOut (h : d.Like a a' d') (type : Handle) :
    Accord a.pointerWidth a'.pointerWidth (d.layOut type).1 (d'.layOut type).1 ∧
      (d.layOut type).2.Like a a' (d'.layOut type).2 := by
  have ht := h.unfinished type
  unfold Draft.layOut
  cases hu : d.unfinished type <;> cases hu' : d'.unfinished type <;> rw [hu, hu'] at ht
  · exact ⟨fun _ => ht, h⟩
  · exact ht.elim
  · exact ht.elim
  · next t t' =>
    have hresolves : (fun ref => !d'.resolves ref) = fun ref => !d.resolves ref := by
      funext ref
      rw [h.resolves]
    have hrefs := ht.refs
    obtain ⟨functions, vars, rfl, hfunctions, hvars⟩ := ht.exists_eq
    dsimp only
    rw [hrefs, hresolves, h.inheritedIds]
    split
    · exact ⟨fun _ => rfl, h⟩
    · split
      · have hnumbered : TypeInfo.Like a.pointerWidth a'.pointerWidth
            { t with functions := Layout.number (d.inheritedIds type) t.functions }
            { t with functions := Layout.number (d.inheritedIds type) functions, vars := vars } :=
          ⟨rfl, Layout.like_number hfunctions _, hvars⟩
        have hset := h.setInfo type hnumbered
        have hfault := Layout.interfaceFault?_like hnumbered (d.inheritedIds type)
        rw [← hset.slot.1, ← hset.slot.2] at hfault
        generalize Layout.interfaceFault? _ _ _ = fault at hfault ⊢
        generalize Layout.interfaceFault? _ _ _ = fault' at hfault ⊢
        cases hfault with
        | none => exact ⟨trivial, hset.finish type⟩
        | some hfault => exact ⟨hfault, hset⟩
      · split
        · have hclass : Layout.classFault? { t with functions := functions, vars := vars } =
              Layout.classFault? t := rfl
          rw [hclass]
          cases Layout.classFault? t with
          | none => exact ⟨trivial, h.finish type⟩
          | some e => exact ⟨fun _ => rfl, h⟩
        · exact ⟨trivial, h.finish type⟩

/-- **Drafts that look alike are committed alike**, to libraries that look alike. -/
theorem Like.commit (h : d.Like a a' d') :
    Agree (fun l l' => l.attributes = a ∧ l'.attributes = a' ∧ l.Like l') d.commit d'.commit := by
  have hlast : (d'.types.find? fun u => !u.laidOut).map (·.info.name) =
      (d.types.find? fun u => !u.laidOut).map (·.info.name) := by
    have hall := h.types
    generalize d.types = types at hall ⊢
    generalize d'.types = types' at hall ⊢
    induction hall with
    | nil => rfl
    | @cons u u' _ _ hu _ ih =>
      rw [List.find?_cons, List.find?_cons, hu.laidOut]
      cases u.laidOut with
      | true => exact ih
      | false => exact congrArg some hu.info.name
  unfold Draft.commit
  rw [h.attributes, h.attributes']
  dsimp only
  cases hu : d.types.find? fun u => !u.laidOut <;> cases hu' : d'.types.find? fun u => !u.laidOut <;>
    rw [hu, hu'] at hlast
  · exact ⟨rfl, rfl, h.infos, h.imports⟩
  · exact Option.noConfusion rfl (heq_of_eq hlast)
  · exact Option.noConfusion rfl (heq_of_eq hlast)
  · exact congrArg BuildError.notLaidOut (Option.some.inj hlast).symm

end Draft

end Automation.Library
