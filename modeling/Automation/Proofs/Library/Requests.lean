import Automation.Proofs.Library.Watching
import Automation.Proofs.Library.WellFormed
import Mathlib.Data.List.Induction

/-!
# What a request leaves as it is

A request about one type changes that type only, and only while it is open (`Draft.ChangesAt`).
So what is laid out stays as it is, whatever else is asked: `Draft.isLocal`. A request that is
rejected changes nothing, with one exception: the layout of an interface gives ids to the functions
that have none before it checks the type. `Draft.unchanged_iff_of_rejected` says when ids stay
behind.
-/

namespace Automation.Library

/-- The type that a request is about. -/
def Request.type? {kind : ReplyKind} : Request kind → Option Handle
  | .setAttributes _ | .createType _ _ | .addImport _ => none
  | .setGuid type _ | .setVersion type _ | .setFlags type _ | .setDoc type _
  | .addImplemented type _ _ _ | .addFunction type _ _ | .addVariable type _ _
  | .setFunctionNames type _ _ | .setVariableName type _ _ | .setFunctionDoc type _ _
  | .setVariableDoc type _ _ | .layOut type => some type

theorem Request.eq_layOut {kind : ReplyKind} {request : Request kind} {h : Handle}
    (hlayOut : request.isLayOut) (hh : request.type? = some h) :
    (⟨kind, request⟩ : Sigma Request) = ⟨.done, .layOut h⟩ := by
  cases request with
  | layOut type =>
    obtain rfl := Option.some.inj hh
    rfl
  | _ => exact Bool.noConfusion hlayOut

namespace Draft

variable {d d' : Draft} {h : Handle} {t t' : TypeInfo} {kind : ReplyKind} {laidOut : Bool}

/-! ## Requests about one type -/

/-- The types are as they were, but for what an open one has become, which is laid out now or still
open. -/
def ChangesAt (d : Draft) (h : Handle) (laidOut : Bool) (d' : Draft) : Prop :=
  d'.types = d.types ∨
    ∃ t t', d.IsOpen h t ∧ d'.types = d.types.set h.index { info := t', laidOut := laidOut }

theorem IsOpen.types_setInfo (ho : d.IsOpen h t) (t' : TypeInfo) :
    (d.setInfo h t').types = d.types.set h.index { info := t' } := by
  obtain ⟨hlt, htype⟩ := List.getElem?_eq_some_iff.mp ho
  unfold Draft.setInfo
  rw [List.modify_eq_set_getElem?]
  simp [hlt, htype]

theorem IsOpen.types_finish (ho : d.IsOpen h t) :
    (d.finish h).types = d.types.set h.index { info := t, laidOut := true } := by
  obtain ⟨hlt, htype⟩ := List.getElem?_eq_some_iff.mp ho
  unfold Draft.finish
  rw [List.modify_eq_set_getElem?]
  simp [hlt, htype]

theorem changesAt_change {f : TypeInfo → Except BuildError TypeInfo} (hd : d.change h f = .ok d') :
    d.ChangesAt h false d' := by
  obtain ⟨t, t', ho, -, rfl⟩ := exists_of_change hd
  exact .inr ⟨t, t', ho, ho.types_setInfo t'⟩

theorem changesAt_settleDone {outcome : Except BuildError Draft}
    (hchange : ∀ d', outcome = .ok d' → d.ChangesAt h false d') :
    d.ChangesAt h false (d.settleDone outcome).2 := by
  cases outcome with
  | error error => exact .inl rfl
  | ok d' => exact hchange d' rfl

theorem changesAt_addImplemented {index : Nat} {ref : TypeRef} {flags : ImplementedFlags}
    (hd : d.addImplemented h index ref flags = .ok d') : d.ChangesAt h false d' := by
  unfold addImplemented at hd
  obtain ⟨owner, -, hd⟩ := exists_of_bind hd
  split at hd
  · obtain ⟨_, hthrow, -⟩ := exists_of_bind hd
    exact Except.noConfusion rfl rfl (heq_of_eq hthrow)
  · exact changesAt_change hd

theorem types_claim {name : String} (hd : d.claim name = .ok d') : d'.types = d.types := by
  obtain ⟨-, rfl⟩ := exists_of_claim hd
  rfl

/-- Taking the name of a constant changes no type. -/
theorem changesAt_setVariableName {index : Nat} {name : String}
    (hd : d.setVariableName h index name = .ok d') : d.ChangesAt h false d' := by
  unfold setVariableName at hd
  obtain ⟨renamed, hchange, hd⟩ := exists_of_bind hd
  obtain ⟨owner, -, hd⟩ := exists_of_bind hd
  split at hd
  · unfold ChangesAt
    rw [types_claim hd]
    exact changesAt_change hchange
  · obtain rfl := Except.ok.inj hd
    exact changesAt_change hchange

theorem changesAt_layOut (d : Draft) (h : Handle) :
    d.ChangesAt h (d.layOut h).1.isOk (d.layOut h).2 := by
  have hcases := layOutOutcome d h
  generalize d.layOut h = result at hcases ⊢
  cases hcases with
  | refused => exact .inl rfl
  | faulty isOpen => exact .inr ⟨_, _, isOpen, isOpen.types_setInfo _⟩
  | @interface t isOpen =>
    refine .inr ⟨t, t.numbered (d.inheritedIds h), isOpen, ?_⟩
    rw [(isOpen.setInfo _).types_finish, isOpen.types_setInfo, List.set_set]
    rfl
  | other isOpen => exact .inr ⟨_, _, isOpen, isOpen.types_finish⟩

/-- **A request about a type changes that type only**, and only while it is open. The type is laid
out afterwards if its layout was asked for and not rejected. -/
theorem changesAt_answer {request : Request kind} (hh : request.type? = some h) :
    d.ChangesAt h (request.isLayOut && (d.answer request).1.isOk) (d.answer request).2 := by
  cases request with
  | setAttributes | createType | addImport => exact Option.noConfusion rfl (heq_of_eq hh)
  | addImplemented type index ref flags =>
    obtain rfl := Option.some.inj hh
    exact changesAt_settleDone fun d' hd => changesAt_addImplemented hd
  | setVariableName type index name =>
    obtain rfl := Option.some.inj hh
    exact changesAt_settleDone fun d' hd => changesAt_setVariableName hd
  | layOut type =>
    obtain rfl := Option.some.inj hh
    exact changesAt_layOut d _
  | setGuid | setVersion | setFlags | setDoc | addFunction | addVariable | setFunctionNames
  | setFunctionDoc | setVariableDoc =>
    obtain rfl := Option.some.inj hh
    exact changesAt_settleDone fun d' hd => changesAt_change hd

theorem types_createType (d : Draft) (name : String) (kind : TypeKind) :
    (d.answer (.createType name kind)).2.types = d.types ∨
      (d.answer (.createType name kind)).2.types =
        d.types ++ [{ info := { name := name, kind := kind } }] := by
  by_cases hfree : Text.nameKey name ∈ d.names
  · rw [answer_createType_error kind hfree]
    exact .inl rfl
  · rw [answer_createType kind hfree]
    exact .inr rfl

theorem types_addImport (d : Draft) (library : ImportedLibrary) :
    (d.answer (.addImport library)).2.types = d.types := by
  simp only [answer]
  unfold addImport
  split <;> rfl

/-- A request about no type leaves all types as they are. A new one may come behind them. -/
theorem types_of_type?_none {request : Request kind} (hnone : request.type? = none) :
    (d.answer request).2.types = d.types ∨
      ∃ info, (d.answer request).2.types = d.types ++ [{ info := info }] := by
  cases request with
  | setAttributes attributes => exact .inl rfl
  | addImport library => exact .inl (types_addImport d library)
  | createType name kind => exact (types_createType d name kind).imp_right fun htypes => ⟨_, htypes⟩
  | _ => exact Option.noConfusion rfl (heq_of_eq hnone)

/-! ## Types that are laid out -/

theorem ChangesAt.getElem?_ne (hc : d.ChangesAt h laidOut d') {i : Nat} (hi : i ≠ h.index) :
    d'.types[i]? = d.types[i]? := by
  rcases hc with htypes | ⟨t, u, -, htypes⟩
  · rw [htypes]
  · rw [htypes, List.getElem?_set_ne (Ne.symm hi)]

/-- A type that is laid out is not changed. -/
theorem ChangesAt.getElem?_laidOut (hc : d.ChangesAt h laidOut d') {i : Nat} {u : DraftType}
    (hu : d.types[i]? = some u) (hl : u.laidOut) : d'.types[i]? = some u := by
  by_cases hi : i = h.index
  · rcases hc with htypes | ⟨t, _, ho, -⟩
    · rw [htypes, hu]
    · rw [hi] at hu
      obtain rfl := Option.some.inj (ho.symm.trans hu)
      exact Bool.noConfusion hl
  · rw [hc.getElem?_ne hi, hu]

/-- **What is laid out stays as it is**, whatever is asked next. -/
theorem getElem?_answer {i : Nat} {u : DraftType} (hu : d.types[i]? = some u) (hlaidOut : u.laidOut)
    (request : Request kind) : (d.answer request).2.types[i]? = some u := by
  cases hh : request.type? with
  | some h => exact (changesAt_answer hh).getElem?_laidOut hu hlaidOut
  | none =>
    rcases types_of_type?_none (d := d) hh with htypes | ⟨info, htypes⟩
    · rw [htypes, hu]
    · rw [htypes, List.getElem?_append_left (List.getElem?_eq_some_iff.mp hu).1, hu]

/-- What is laid out stays as it is after any requests. -/
theorem getElem?_after {i : Nat} {u : DraftType} (hu : d.types[i]? = some u) (hlaidOut : u.laidOut)
    (requests : List (Sigma Request)) : (d.after requests).types[i]? = some u := by
  induction requests generalizing d with
  | nil => exact hu
  | cons request later ih => exact ih (getElem?_answer hu hlaidOut request.2)

/-- A type that is laid out after a request was so before, or the request has laid it out. -/
theorem laidOut_cases {i : Nat} {u : DraftType} {request : Request kind}
    (hu : (d.answer request).2.types[i]? = some u) (hl : u.laidOut) :
    d.types[i]? = some u ∨
      (⟨kind, request⟩ : Sigma Request) = ⟨.done, .layOut ⟨i⟩⟩ ∧ (d.answer request).1.isOk := by
  cases hh : request.type? with
  | some h =>
    by_cases hi : i = h.index
    · rcases changesAt_answer (d := d) hh with htypes | ⟨t, t', ho, htypes⟩
      · exact .inl (htypes ▸ hu)
      · obtain ⟨k⟩ := h
        subst hi
        rw [htypes, List.getElem?_set_self (List.getElem?_eq_some_iff.mp ho).1] at hu
        obtain rfl := Option.some.inj hu
        obtain ⟨hlayOut, hok⟩ := Bool.and_eq_true_iff.mp hl
        exact .inr ⟨Request.eq_layOut hlayOut hh, hok⟩
    · exact .inl ((changesAt_answer hh).getElem?_ne hi ▸ hu)
  | none =>
    left
    rcases types_of_type?_none (d := d) hh with htypes | ⟨info, htypes⟩
    · exact htypes ▸ hu
    · rw [htypes, List.getElem?_append] at hu
      split at hu
      · exact hu
      · obtain rfl := List.mem_singleton.mp (List.mem_of_getElem? hu)
        exact Bool.noConfusion hl

theorem after_append (d : Draft) (requests later : List (Sigma Request)) :
    d.after (requests ++ later) = (d.after requests).after later :=
  List.foldl_append

/-- What is laid out after some requests has been laid out by one of them. -/
theorem exists_layOut {requests : List (Sigma Request)} {i : Nat} {u : DraftType}
    (hu : (after {} requests).types[i]? = some u) (hl : u.laidOut) :
    ∃ before later, requests = before ++ ⟨.done, .layOut ⟨i⟩⟩ :: later ∧
      ((after {} before).layOut ⟨i⟩).1 = .ok () := by
  induction requests using List.reverseRecOn with
  | nil => exact Option.noConfusion rfl (heq_of_eq hu)
  | append_singleton requests request ih =>
    obtain ⟨kind, request⟩ := request
    rw [after_append] at hu
    rcases laidOut_cases hu hl with hu | ⟨hrequest, hok⟩
    · obtain ⟨before, later, rfl, hok⟩ := ih hu
      exact ⟨before, later ++ [⟨kind, request⟩], by rw [List.append_assoc, List.cons_append], hok⟩
    · cases hrequest
      refine ⟨requests, [], rfl, ?_⟩
      change ((after {} requests).layOut ⟨i⟩).1.isOk = true at hok
      cases houtcome : ((after {} requests).layOut ⟨i⟩).1 with
      | ok => rfl
      | error error =>
        rw [houtcome] at hok
        exact Bool.noConfusion hok

theorem IsOpen.getElem?_finish (ho : d.IsOpen h t) :
    (d.finish h).types[h.index]? = some { info := t, laidOut := true } := by
  rw [ho.types_finish, List.getElem?_set_self (List.getElem?_eq_some_iff.mp ho).1]

/-- A layout that succeeds marks the type. -/
theorem exists_laidOut (hok : (d.layOut h).1 = .ok ()) :
    ∃ u, (d.layOut h).2.types[h.index]? = some u ∧ u.laidOut := by
  have hcases := layOutOutcome d h
  generalize d.layOut h = result at hcases hok
  cases hcases with
  | refused | faulty => exact Except.noConfusion rfl rfl (heq_of_eq hok)
  | interface isOpen => exact ⟨_, (isOpen.setInfo _).getElem?_finish, rfl⟩
  | other isOpen => exact ⟨_, isOpen.getElem?_finish, rfl⟩

/-- Requests are local, and a layout is final. -/
structure Local (d : Draft) : Prop where
  /-- A request about one type leaves the others as they are, laid out or not. -/
  others : ∀ {kind : ReplyKind} (request : Request kind) {h : Handle}, request.type? = some h →
    ∀ i, i ≠ h.index → (d.answer request).2.types[i]? = d.types[i]?
  /-- A new type comes behind those that there are. -/
  created : ∀ name kind, (d.answer (.createType name kind)).2.types = d.types ∨
    (d.answer (.createType name kind)).2.types =
      d.types ++ [{ info := { name := name, kind := kind } }]
  described : ∀ attributes, (d.answer (.setAttributes attributes)).2.types = d.types
  imported : ∀ library, (d.answer (.addImport library)).2.types = d.types
  /-- After a layout that is accepted the type stays as it is, up to the committed library. -/
  final : ∀ h, (d.answer (.layOut h)).1 = .ok () →
    ∃ u, (d.answer (.layOut h)).2.types[h.index]? = some u ∧ u.laidOut ∧
      ∀ later, ((d.answer (.layOut h)).2.after later).types[h.index]? = some u ∧
        ∀ l, ((d.answer (.layOut h)).2.after later).commit = .ok l →
          l.types[h.index]? = some u.info

/-- **Requests are local, and a layout is final**, in every draft. -/
theorem isLocal (d : Draft) : d.Local where
  others _ _ hh _ hi := (changesAt_answer hh).getElem?_ne hi
  created := types_createType d
  described _ := rfl
  imported := types_addImport d
  final h hok := by
    obtain ⟨u, hu, hlaidOut⟩ := exists_laidOut hok
    refine ⟨u, hu, hlaidOut, fun later => ?_⟩
    have hlater := getElem?_after hu hlaidOut later
    refine ⟨hlater, fun l hl => ?_⟩
    obtain ⟨-, htypes, -⟩ := exists_of_commit hl
    rw [htypes]
    exact List.getElem?_map.trans (congrArg (Option.map DraftType.info) hlater)

/-- A record is laid out. What is asked about it afterwards comes too late. -/
theorem point_final :
    ((after {} [⟨_, .createType "Point" .record⟩]).answer (.layOut ⟨0⟩)).1 = .ok () ∧
      ∃ u, u.info.doc = none ∧
        (((after {} [⟨_, .createType "Point" .record⟩]).answer (.layOut ⟨0⟩)).2.after
          [⟨_, .setDoc ⟨0⟩ "Too late."⟩, ⟨_, .createType "Line" .record⟩]).types[0]? = some u := by
  have hok : ((after {} [⟨_, .createType "Point" .record⟩]).answer (.layOut ⟨0⟩)).1 = .ok () := by
    decide +kernel
  obtain ⟨u, hu, -, hlater⟩ := (isLocal _).final ⟨0⟩ hok
  have hdoc : ((after {} [⟨_, .createType "Point" .record⟩]).answer (.layOut ⟨0⟩)).2.types[0]?.map
      (·.info.doc) = some none := by
    decide +kernel
  refine ⟨hok, u, ?_, (hlater _).1⟩
  rw [hu] at hdoc
  exact Option.some.inj hdoc

/-! ## Requests that are rejected -/

/-- The request lays out an open interface that refers to nothing missing and has a function
without an id. -/
def GivesIds (d : Draft) : Request kind → Prop
  | .layOut h => ∃ t, d.IsOpen h t ∧ (∀ ref ∈ t.refs, d.resolves ref) ∧ t.kind.isInterface ∧
    ∃ f ∈ t.functions, f.desc.memid = MemberId.none
  | _ => False

/-- A function that has no id may get one, and nothing else of it changes. -/
def IsNumbered (f f' : FunctionInfo) : Prop :=
  f' = f ∨ f.desc.memid = MemberId.none ∧ f'.desc.memid ≠ MemberId.none ∧
    f' = { f with desc := { f.desc with memid := f'.desc.memid } }

theorem forall₂_numberFrom (taken : List MemberId) (functions : List FunctionInfo) :
    List.Forall₂ IsNumbered functions (Layout.numberFrom taken functions) := by
  induction functions generalizing taken with
  | nil => exact .nil
  | cons f later ih =>
    have hids := @Layout.numberFrom_memid_ne taken (f :: later)
    unfold Layout.numberFrom at hids ⊢
    split at hids
    · next hnone =>
      rw [if_pos hnone]
      exact .cons (.inr ⟨hnone, (List.forall_mem_cons.mp hids).1, rfl⟩) (ih _)
    · next hid =>
      rw [if_neg hid]
      exact .cons (.inl rfl) (ih _)

theorem numbered_eq_iff (inherited : List MemberId) :
    t.numbered inherited = t ↔ ¬∃ f ∈ t.functions, f.desc.memid = MemberId.none := by
  refine ⟨fun heq => ?_, fun hids => ?_⟩
  · rintro ⟨f, hf, hnone⟩
    have hfunctions : Layout.number inherited t.functions = t.functions :=
      congrArg TypeInfo.functions heq
    exact Layout.numberFrom_memid_ne f (hfunctions ▸ hf) hnone
  · have hids : ∀ f ∈ t.functions, f.desc.memid ≠ MemberId.none := fun f hf hnone =>
      hids ⟨f, hf, hnone⟩
    unfold TypeInfo.numbered
    rw [Layout.number_eq hids]

theorem IsOpen.setInfo_eq_iff (ho : d.IsOpen h t) : d.setInfo h t' = d ↔ t' = t := by
  refine ⟨fun heq => ?_, fun heq => heq ▸ ho.setInfo_self⟩
  have ho' : d.IsOpen h t' := heq ▸ ho.setInfo t'
  exact ho'.unique ho

theorem settle_of_error {α : Type} {outcome : Except BuildError (Draft × α)} {error : BuildError}
    (hr : (d.settle outcome).1 = .error error) : (d.settle outcome).2 = d := by
  cases outcome with
  | error _ => rfl
  | ok changed => exact Except.noConfusion rfl rfl (heq_of_eq hr)

/-- A rejected request changes nothing or gives ids. -/
theorem cases_of_rejected {request : Request kind} {error : BuildError}
    (hr : (d.answer request).1 = .error error) :
    ((d.answer request).2 = d ∧ ¬d.GivesIds request) ∨
      (d.answer request).2 ≠ d ∧ d.GivesIds request ∧ ∃ h t functions, request.type? = some h ∧
        d.IsOpen h t ∧ List.Forall₂ IsNumbered t.functions functions ∧
        (d.answer request).2 = d.setInfo h { t with functions := functions } := by
  cases request with
  | setAttributes | addImport => exact Except.noConfusion rfl rfl (heq_of_eq hr)
  | createType | setGuid | setVersion | setFlags | setDoc | addImplemented | addFunction
  | addVariable | setFunctionNames | setVariableName | setFunctionDoc | setVariableDoc =>
    exact .inl ⟨settle_of_error hr, id⟩
  | layOut h =>
    have hcases := layOutOutcome d h
    simp only [answer] at hr ⊢
    generalize d.layOut h = result at hcases hr ⊢
    cases hcases with
    | interface | other => exact Except.noConfusion rfl rfl (heq_of_eq hr)
    | refused _ noIds =>
      refine .inl ⟨rfl, ?_⟩
      rintro ⟨t, ho, hrefs, hkind, -⟩
      exact noIds t ho hrefs hkind
    | @faulty t isOpen refs isInterface _ =>
      by_cases hnone : ∃ f ∈ t.functions, f.desc.memid = MemberId.none
      · refine .inr ⟨?_, ⟨t, isOpen, refs, isInterface, hnone⟩, h, t, _, rfl, isOpen,
          forall₂_numberFrom _ _, rfl⟩
        rw [ne_eq, isOpen.setInfo_eq_iff, numbered_eq_iff]
        exact not_not_intro hnone
      · refine .inl ⟨isOpen.setInfo_eq_iff.mpr ((numbered_eq_iff _).mpr hnone), ?_⟩
        rintro ⟨t', ho', -, -, hnone'⟩
        exact hnone (isOpen.unique ho' ▸ hnone')

/-- **A request that is rejected changes nothing**, unless it gives ids: then the functions of one
type that had none have got them, and that is all. -/
theorem unchanged_iff_of_rejected {request : Request kind} {error : BuildError}
    (hr : (d.answer request).1 = .error error) :
    ((d.answer request).2 = d ↔ ¬d.GivesIds request) ∧
      (d.GivesIds request → ∃ h t functions, request.type? = some h ∧ d.IsOpen h t ∧
        List.Forall₂ IsNumbered t.functions functions ∧
        (d.answer request).2 = d.setInfo h { t with functions := functions }) := by
  rcases cases_of_rejected hr with ⟨hsame, hno⟩ | ⟨hchanged, hgives, hids⟩
  · exact ⟨iff_of_true hsame hno, fun hgives => (hno hgives).elim⟩
  · exact ⟨iff_of_false hchanged (not_not_intro hgives), fun _ => hids⟩

/-- A function without an id, in a slot that is too low for a dual interface. -/
def hasty : List (Sigma Request) :=
  [⟨_, .setAttributes
      { name := "Runs", guid := .nil, version := {}, locale := 0, doc := none,
        pointerWidth := .bits64 }⟩,
    ⟨_, .createType "IRun" .interface⟩,
    ⟨_, .setFlags ⟨0⟩ TypeFlags.dual⟩,
    ⟨_, .addFunction ⟨0⟩ 0
      { memid := MemberId.none, invoke := .function, kind := .pureVirtual, params := [],
        ret := { type := .base .hresult }, offset := 32 }⟩]

theorem hasty_rejected :
    ((after {} hasty).answer (.layOut ⟨0⟩)).1 = .error (.offsetTooLow "IRun" 0 32 56) ∧
      ((after {} hasty).answer (.layOut ⟨0⟩)).2 ≠ after {} hasty ∧
      ((after {} hasty).answer (.createType "irun" .record)).2 = after {} hasty := by
  have hlayOut : ((after {} hasty).answer (.layOut ⟨0⟩)).1 =
      .error (.offsetTooLow "IRun" 0 32 56) := by
    decide +kernel
  have hcreate : ((after {} hasty).answer (.createType "irun" .record)).1 =
      .error (.duplicateName "irun") := by
    decide +kernel
  refine ⟨hlayOut, fun hsame => ?_, (unchanged_iff_of_rejected hcreate).1.mpr id⟩
  exact (unchanged_iff_of_rejected hlayOut).1.mp hsame
    ⟨_, rfl, by decide +kernel, rfl, _, List.mem_singleton_self _, rfl⟩

/-- The function has got its id although the layout of its interface was rejected. -/
theorem hasty_changes : ¬∀ (requests : List (Sigma Request)) (kind : ReplyKind)
    (request : Request kind) (error : BuildError),
    ((after {} requests).answer request).1 = .error error →
      ((after {} requests).answer request).2 = after {} requests := by
  intro hall
  have hrejected : ((after {} hasty).answer (.layOut ⟨0⟩)).1 =
      .error (.offsetTooLow "IRun" 0 32 56) := by
    decide +kernel
  have hsame := hall hasty .done (.layOut ⟨0⟩) _ hrejected
  have hchanged : ((after {} hasty).answer (.layOut ⟨0⟩)).2 ≠ after {} hasty := by
    decide +kernel
  exact hchanged hsame

end Draft

end Automation.Library
