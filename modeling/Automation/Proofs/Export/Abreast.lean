import Automation.Proofs.Export.Coupling
import Automation.Proofs.Export.Retargeting

/-!
# Two targets abreast

Two exports of a unit, for two targets, ask their builders for things that look alike. They keep abreast
(`Abreast`): their drafts look alike, and they have said the same. `couples_contents` says so of what
goes into a library, and `couples_buildReferring` of the whole. Only a layout can fail with errors that
differ, and only if pointers have two widths.
-/

namespace Automation.Export

open Library Source

/-! ## Scripts side by side -/

section Scripts

variable {World Draft World' Draft' Committed : Type} {b : Builder World Draft Committed}
  {b' : Builder World' Draft' Committed}
  {R : Progress World Draft Committed → Progress World' Draft' Committed → Prop}

theorem inStep_perform_append {first first' second second' : List Step}
    (h : InStep R (perform b first) (perform b' first'))
    (h' : InStep R (perform b second) (perform b' second')) :
    InStep R (perform b (first ++ second)) (perform b' (first' ++ second')) := by
  rw [perform_append, perform_append]
  exact h.bind fun _ => h'

/-- Scripts in parts: each part in step with its counterpart. -/
theorem inStep_perform_flatMap {α α' : Type} {Q : α → α' → Prop} {items : List α} {items' : List α'}
    (h : List.Forall₂ Q items items') {steps : α → List Step} {steps' : α' → List Step}
    (hsteps : ∀ x x', Q x x' → InStep R (perform b (steps x)) (perform b' (steps' x'))) :
    InStep R (perform b (items.flatMap steps)) (perform b' (items'.flatMap steps')) := by
  induction h with
  | nil => exact inStep_pure _
  | cons hx _ ih =>
    rw [List.flatMap_cons, List.flatMap_cons]
    exact inStep_perform_append (hsteps _ _ hx) ih

theorem inStep_perform_request {context : String} {r r' : Request .done}
    (h : InStep R (request b context r) (request b' context r')) {later later' : List Step}
    (hlater : InStep R (perform b later) (perform b' later')) :
    InStep R (perform b (.request context r :: later)) (perform b' (.request context r' :: later')) :=
  h.bind fun _ => hlater

end Scripts

/-! ## Abreast -/

/-- What two sessions have in common while one library is exported: the libraries that types resolve
against, and `G` of these and of those that were made on demand. -/
structure SameReach
    (G : List ReferencedLibrary → List (ExportedLibrary Library) → List (ExportedLibrary Library) → Prop)
    (s s' : Session (Watch Unit Draft Library) Library) : Prop where
  references : s.references = s'.references
  generated : G s.references s.generated s'.generated

variable {G : List ReferencedLibrary → List (ExportedLibrary Library) →
    List (ExportedLibrary Library) → Prop}
  {D : Draft → Draft → Prop} {a a' : Attributes}

variable (G a a') in
/-- Two exports keep abreast: their drafts look alike, and they have said the same. -/
abbrev Abreast : MemoryProgress → MemoryProgress → Prop := Related (SameReach G) (Draft.Like a a')

theorem keptBy_related (steps : List Step) : KeptBy (Related (SameReach G) D) steps := by
  rintro r - p p' ⟨⟨hreferences, hgenerated⟩, hdraft, hqueue⟩
  cases r with
  | asked q => exact ⟨⟨hreferences, hgenerated⟩, hdraft, hqueue⟩
  | raised e => exact ⟨⟨hreferences, hgenerated⟩, hdraft, congrArg (·.raise e) hqueue⟩

/-- Without requests, the same is said. -/
theorem inStep_perform_silent {steps : List Step} (hsilent : Silent steps) :
    InStep (Related (SameReach G) D) (perform watchedMemory steps) (perform watchedMemory steps) := by
  have hnone : KeepsUpIn [] watchedMemory watchedMemory (Related (SameReach G) D) :=
    fun _ _ hr => (List.not_mem_nil hr).elim
  exact hnone.perform (keptBy_related steps) fun context r hr => (hsilent context r hr).elim

theorem inStep_perform_remarks (remarks : List Remark) : InStep (Related (SameReach G) D)
    (perform watchedMemory (remarks.map Step.remark))
    (perform watchedMemory (remarks.map Step.remark)) := by
  refine inStep_perform_silent fun context r hr => ?_
  obtain ⟨_, -, hremark⟩ := List.mem_map.mp hr
  exact Step.noConfusion hremark

/-- Requests that look alike keep exports abreast. -/
theorem inStep_of_like {kind : ReplyKind} {r r' : Request kind} (h : Request.Like a a' r r')
    (context : String) : InStep (Abreast G a a') (request watchedMemory context r)
      (request watchedMemory context r') := by
  refine inStep_request context ?_
  rintro p p' ⟨⟨hreferences, hgenerated⟩, hdraft, hqueue⟩
  obtain ⟨hanswer, hlike⟩ := h hdraft
  exact ⟨hanswer, ⟨hreferences, hgenerated⟩, hlike, hqueue⟩

/-- What gives types their places, and what says what they implement, keeps exports abreast. -/
theorem keepsUpIn_abreast :
    KeepsUpIn [.creation, .imports, .inheritance] watchedMemory watchedMemory (Abreast G a a') := by
  rintro kind r hphase p p' ⟨⟨hreferences, hgenerated⟩, hdraft, hqueue⟩
  obtain ⟨hanswer, hlike⟩ := Request.Like.of_phase hphase hdraft
  exact ⟨hanswer, ⟨hreferences, hgenerated⟩, hlike, hqueue⟩

/-! ## Functions -/

/-- A function that was asked for is found in its place. -/
theorem ensures_addFunction {context : String} {handle : Handle} {index : Nat} {desc : FunctionDesc}
    {p : MemoryProgress} : Ensures (request watchedMemory context (.addFunction handle index desc)) p
      (fun _ q => q.draft.function? handle index = some { desc := desc }) fun _ _ => True := by
  refine ensures_request (fun answer world draft hanswer => ?_) fun _ _ _ _ => trivial
  have hdraft : p.draft.answer (.addFunction handle index desc) = (.ok answer, draft) :=
    Prod.ext (congrArg Prod.fst hanswer :) (congrArg (·.2.2) hanswer :)
  cases hadded : p.draft.addFunction handle index desc with
  | error e =>
    have hrejected : p.draft.answer (.addFunction handle index desc) = (.error e, p.draft) := by
      change p.draft.settleDone (p.draft.addFunction handle index desc) = _
      rw [hadded]
      rfl
    rw [hrejected] at hdraft
    exact Except.noConfusion rfl rfl (heq_of_eq (Prod.mk.inj hdraft).1)
  | ok d =>
    have haccepted : p.draft.answer (.addFunction handle index desc) = (.ok (), d) := by
      change p.draft.settleDone (p.draft.addFunction handle index desc) = _
      rw [hadded]
      rfl
    rw [haccepted] at hdraft
    obtain rfl := (Prod.mk.inj hdraft).2
    exact Draft.function?_addFunction hadded

/-- The requests for two functions that look alike keep exports abreast. -/
theorem inStep_functionSteps (name : String) (handle : Handle) (index : Nat)
    {f f' : SynthesizedFunction} (h : f.Like a.pointerWidth a'.pointerWidth f') (hfits : f.Fits)
    (hfits' : f'.Fits) : InStep (Abreast G a a')
      (perform watchedMemory (functionSteps name handle index f))
      (perform watchedMemory (functionSteps name handle index f')) := by
  have hcontext : functionContext name f'.name = functionContext name f.name := by rw [h.ownName]
  have hdocs : InStep (Abreast G a a')
      (perform watchedMemory (f.doc.toList.map fun doc =>
        .request (functionContext name f.name) (.setFunctionDoc handle index doc)))
      (perform watchedMemory (f.doc.toList.map fun doc =>
        .request (functionContext name f.name) (.setFunctionDoc handle index doc))) := by
    cases f.doc with
    | none => exact inStep_pure _
    | some doc =>
      exact inStep_perform_request (inStep_of_like (Request.Like.setFunctionDoc doc) _) (inStep_pure _)
  unfold functionSteps
  dsimp only
  rw [hcontext, h.doc]
  intro p p' hp
  -- Once both functions are added, both have room for their names.
  have hadd := ((inStep_of_like (Request.Like.addFunction h.desc) (functionContext name f.name)).couples hp).and
    (@ensures_addFunction (functionContext name f.name) handle index f.desc p)
    (@ensures_addFunction (functionContext name f.name) handle index f'.desc p')
  refine couples_iff_agrees.mp ((hadd.imp (fun _ _ _ _ h => h) fun _ _ _ _ h => h.1).bind ?_)
  rintro _ q _ q' ⟨⟨-, hq⟩, hfound, hfound'⟩
  have hroom : ∀ g ∈ q.draft.function? handle index, f.names.length ≤ g.desc.params.length + 1 := by
    intro g hg
    rw [hfound] at hg
    rw [← Option.some.inj hg]
    exact hfits
  have hroom' : ∀ g ∈ q'.draft.function? handle index,
      f'.names.length ≤ g.desc.params.length + 1 := by
    intro g hg
    rw [hfound'] at hg
    rw [← Option.some.inj hg]
    exact hfits'
  obtain ⟨hanswer, hlike⟩ := hq.draft.setFunctionNames h.name hroom hroom'
  refine Couples.bind (couples_iff_agrees.mpr (agrees_request (functionContext name f.name)
    ⟨hanswer, ⟨hq.session.references, hq.session.generated⟩, hlike, hq.queue⟩)) ?_
  rintro _ r _ r' ⟨-, hr⟩
  exact hdocs.couples hr

/-- The steps for two interfaces whose functions look alike keep exports abreast. -/
theorem inStep_interfaceSteps (name : String) (handle : Handle) {made made' : InterfaceFunctions}
    (h : made.Like a.pointerWidth a'.pointerWidth made') : InStep (Abreast G a a')
      (perform watchedMemory (interfaceSteps name handle made))
      (perform watchedMemory (interfaceSteps name handle made')) := by
  unfold interfaceSteps
  rw [h.remarks]
  refine inStep_perform_append (inStep_perform_remarks _)
    (inStep_perform_flatMap (forall₂_zipIdx h.functions 0) ?_)
  rintro ⟨f, index⟩ ⟨f', index'⟩ ⟨⟨hlike, hfits, hfits'⟩, hindex, -⟩
  obtain rfl : index = index' := hindex
  exact inStep_functionSteps name handle index hlike hfits hfits'

/-! ## Variables -/

/-- The requests for two variables that look alike keep exports abreast. -/
theorem inStep_variableSteps (type : String) (handle : Handle) (index : Nat)
    {desc desc' : VariableDesc} (h : desc.Like a.pointerWidth a'.pointerWidth desc') (name : String)
    (doc : Option String) : InStep (Abreast G a a')
      (perform watchedMemory (variableSteps type handle index desc name doc))
      (perform watchedMemory (variableSteps type handle index desc' name doc)) := by
  refine inStep_perform_append (inStep_perform_request
    (inStep_of_like (Request.Like.addVariable h) _) (inStep_perform_request
      (inStep_of_like (Request.Like.setVariableName name) _) (inStep_pure _))) ?_
  cases doc with
  | none => exact inStep_pure _
  | some doc =>
    exact inStep_perform_request (inStep_of_like (Request.Like.setVariableDoc doc) _) (inStep_pure _)

/-- The steps for the fields of a record keep exports abreast. -/
theorem inStep_fieldsSteps {s : Setting} (hwidth : s.scope.width = a.pointerWidth) (dual : Bool)
    (p : Placed) (index : Nat) (fields : List Field) : InStep (Abreast G a a')
      (perform watchedMemory (fieldsSteps s p index fields))
      (perform watchedMemory (fieldsSteps (s.retarget a'.pointerWidth dual) p index fields)) := by
  induction fields generalizing index with
  | nil => exact inStep_pure _
  | cons f later ih =>
    have hdescribe : (s.retarget a'.pointerWidth dual).scope.describe f.type f.marshal fieldPosition =
        _ := describe_sized s.scope a'.pointerWidth f.type f.marshal fieldPosition
    unfold fieldsSteps
    rw [hdescribe]
    cases hdescribed : s.scope.describe f.type f.marshal fieldPosition with
    | error e =>
      let remark := Remark.raised (excludedField (p.type.decl.qualified ++ "." ++ f.name) f.name e)
      exact inStep_perform_append (inStep_perform_remarks [remark]) (ih index)
    | ok described =>
      refine inStep_perform_append ?_ (ih (index + 1))
      have hlosses := inStep_perform_remarks (G := G) (D := Draft.Like a a')
        (described.degradations.map fun d =>
          .raised (degraded (p.type.decl.qualified ++ "." ++ f.name) d))
      rw [List.map_map] at hlosses
      refine inStep_perform_append hlosses ?_
      cases idAfter? firstFieldId index with
      | none => exact inStep_throw _
      | some memid =>
        let sized := described.sized a'.pointerWidth (s.scope.word? f.type f.marshal)
        have hdesc : VariableDesc.Like a.pointerWidth a'.pointerWidth
            { memid := memid, content := .field { type := described.type } }
            { memid := memid, content := .field { type := sized.type } } := by
          refine ⟨rfl, rfl, Descriptor.ref?_sized _ _ _, fun hsame => ?_,
            fun _ hfield => VariableContent.noConfusion hfield⟩
          have hself := sized_self hdescribed
          rw [hwidth, hsame] at hself
          rw [show sized = described from hself]
        exact inStep_perform_append (inStep_perform_remarks [.asked (fieldQuestion p.type.decl f)])
          (inStep_variableSteps _ _ _ hdesc _ _)

theorem inStep_recordSteps {s : Setting} (hwidth : s.scope.width = a.pointerWidth) (dual : Bool)
    (p : Placed) : InStep (Abreast G a a') (perform watchedMemory (recordSteps s p))
      (perform watchedMemory (recordSteps (s.retarget a'.pointerWidth dual) p)) := by
  unfold recordSteps
  cases p.type.target with
  | record => exact inStep_fieldsSteps hwidth dual p 0 _
  | _ => exact inStep_pure _

theorem inStep_constantsSteps (p : Placed) (index : Nat)
    (constants : List (EnumConstant × Option String)) : InStep (Abreast G a a')
      (perform watchedMemory (constantsSteps p index constants))
      (perform watchedMemory (constantsSteps p index constants)) := by
  induction constants generalizing index with
  | nil => exact inStep_pure _
  | cons constant later ih =>
    rcases constant with ⟨c, name | name⟩
    · exact inStep_perform_append (inStep_perform_remarks [.raised _]) (ih index)
    · exact inStep_perform_append (inStep_variableSteps _ _ _ (.refl _) _ _) (ih (index + 1))

theorem inStep_enumSteps (p : Placed) : InStep (Abreast G a a')
    (perform watchedMemory (enumSteps p)) (perform watchedMemory (enumSteps p)) := by
  unfold enumSteps
  cases p.type.target with
  | enumeration => exact inStep_constantsSteps p 0 _
  | _ => exact inStep_pure _

/-! ## The contents of a library -/

/-- What types implement does not depend on the target. -/
theorem inheritanceSteps_retarget (s : Setting) (width : PointerWidth) (dual : Bool) :
    inheritanceSteps (s.retarget width dual).scope = inheritanceSteps s.scope := rfl

theorem withDefaults_retarget (s : Setting) (width : PointerWidth) (dual : Bool)
    (placed : List Placed) :
    (s.retarget width dual).withDefaults placed = (s.withDefaults placed).retarget width dual := rfl

theorem inStep_classInterfaceSteps {s : Setting} (hwidth : s.settings.pointerWidth = a.pointerWidth)
    (dual : Bool) {p : Placed} (hclassified : target? p.type.decl = some p.type.target)
    (hclassed : p.IsClassed)
    (hfew : a.pointerWidth = a'.pointerWidth ∨ functionCount p.type.decl ≤ 2 ^ 28) :
    InStep (Abreast G a a') (perform watchedMemory (classInterfaceSteps s p))
      (perform watchedMemory (classInterfaceSteps (s.retarget a'.pointerWidth dual) p)) := by
  unfold classInterfaceSteps
  cases hc : p.classInterface with
  | none => exact inStep_pure _
  | some c =>
    obtain ⟨creatable, htarget⟩ := hclassed c hc
    have hbinding : p.type.target.functionBinding? = some c.binding := by rw [htarget]; rfl
    have hcount := length_memberFunctions_le_functionCount (y := s.synthesis c.binding) hclassified
      hbinding
    have hexact : (s.synthesis c.binding).settings.pointerWidth = a'.pointerWidth ∨
        ({} : Inherited).slots + (memberFunctions (s.synthesis c.binding) p.type.decl).length ≤
          2 ^ 28 :=
      hfew.imp (fun hfew => hwidth.trans hfew) fun hfew => (Nat.zero_add _).trans_le (hcount.trans hfew)
    have hlike := interfaceFunctions_like dual hexact
    rw [show (s.synthesis c.binding).settings.pointerWidth = _ from hwidth] at hlike
    exact inStep_interfaceSteps c.name c.handle hlike

/-- The passes over a library keep exports abreast, if there are few functions. -/
theorem inStep_passes {s : Setting} {placed : List Placed}
    (hwidth : s.settings.pointerWidth = a.pointerWidth) (hscope : s.scope.width = a.pointerWidth)
    (dual : Bool) (hplaced : AreClassified placed) (hclassed : ∀ p ∈ placed, p.IsClassed)
    (hfew : a.pointerWidth = a'.pointerWidth ∨ placedFunctionCount placed ≤ 2 ^ 28) :
    InStep (Abreast G a a') (perform watchedMemory (passes s placed))
      (perform watchedMemory (passes (s.retarget a'.pointerWidth dual) placed)) := by
  have hsame : List.Forall₂ (fun p p' => p = p' ∧ p ∈ placed) placed placed :=
    List.forall₂_same.mpr fun p hp => ⟨rfl, hp⟩
  unfold passes
  rw [inheritanceSteps_retarget, withDefaults_retarget, interfacesSteps_eq, interfacesSteps_eq]
  refine inStep_perform_append (inStep_perform_append (inStep_perform_append
    (inStep_perform_append ?_ ?_) ?_) ?_) ?_
  · have hphase : AllOf .inheritance inheritanceCodes (placed.flatMap (inheritanceSteps s.scope)) :=
      allOf_flatMap fun p _ => allOf_inheritance _ p
    exact keepsUpIn_abreast.perform (keptBy_related _) fun context r hr => by
      have hr : r.phase = .inheritance := hphase _ hr
      rw [hr]
      decide
  · have hfilled : (s.withDefaults placed).settings.pointerWidth = a.pointerWidth := hwidth
    have hlike : List.Forall₂ (FilledAlike a.pointerWidth a'.pointerWidth)
        (filling (s.withDefaults placed) placed)
        (filling ((s.withDefaults placed).retarget a'.pointerWidth dual) placed) := by
      rw [← hfilled] at hfew ⊢
      exact filling_like dual hplaced hfew
    refine inStep_perform_flatMap hlike ?_
    rintro ⟨p, made⟩ ⟨p', made'⟩ ⟨hp, hmade⟩
    obtain rfl : p = p' := hp
    exact inStep_interfaceSteps p.name p.handle hmade
  · refine inStep_perform_flatMap hsame ?_
    rintro p _ ⟨rfl, hp⟩
    refine inStep_classInterfaceSteps (s := s.withDefaults placed) hwidth dual (hplaced p hp)
      (hclassed p hp) (hfew.imp_right fun hfew => le_trans ?_ hfew)
    exact List.single_le_sum (fun _ _ => Nat.zero_le _) _ (List.mem_map_of_mem hp)
  · have hfilled : (s.withDefaults placed).scope.width = a.pointerWidth := hscope
    refine inStep_perform_flatMap hsame ?_
    rintro p _ ⟨rfl, -⟩
    exact inStep_recordSteps hfilled dual p
  · refine inStep_perform_flatMap hsame ?_
    rintro p _ ⟨rfl, -⟩
    exact inStep_enumSteps p

/-- Two exports end with errors, the same ones if pointers have the same width. -/
structure SameFailure
    (G : List ReferencedLibrary → List (ExportedLibrary Library) → List (ExportedLibrary Library) → Prop)
    (w w' : PointerWidth) (e : ExportError) (q : MemoryProgress) (e' : ExportError)
    (q' : MemoryProgress) : Prop where
  error : w = w' → e = e'
  session : SameReach G q.session q'.session
  queue : q.queue = q'.queue

theorem sameFailure_of_related {w w' : PointerWidth} {e e' : ExportError} {q q' : MemoryProgress}
    (h : e = e' ∧ Related (SameReach G) D q q') : SameFailure G w w' e q e' q' :=
  ⟨fun _ => h.1, h.2.session, h.2.queue⟩

variable {p p' : MemoryProgress}

/-- Parts in step end together. -/
theorem couples_of_inStep {α : Type} {w w' : PointerWidth}
    {m m' : ExportM (Watch Unit Draft Library) Draft Library α}
    (h : InStep (Related (SameReach G) D) m m') (hp : Related (SameReach G) D p p') :
    Couples m p m' p' (fun x q x' q' => x = x' ∧ Related (SameReach G) D q q')
      (SameFailure G w w') :=
  (h.couples hp).imp (fun _ _ _ _ h => h) fun _ _ _ _ h => sameFailure_of_related h

/-- A type is laid out in both, or in neither. -/
theorem couples_layOut (hp : Abreast G a a' p p') (context : String) (type : Handle) :
    Couples (request watchedMemory context (.layOut type)) p
      (request watchedMemory context (.layOut type)) p' (fun _ q _ q' => Abreast G a a' q q')
      (SameFailure G a.pointerWidth a'.pointerWidth) := by
  obtain ⟨haccord, hlike⟩ := hp.draft.layOut type
  have hanswer : ∀ p : MemoryProgress, ∃ world,
      watchedMemory.answer (.layOut type) p.session.world p.draft =
        ((p.draft.layOut type).1, world, (p.draft.layOut type).2) := fun _ => ⟨_, rfl⟩
  obtain ⟨world, ha⟩ := hanswer p
  obtain ⟨world', ha'⟩ := hanswer p'
  have hsession : ∀ world world', SameReach G { p.session with world := world }
      { p'.session with world := world' } := fun _ _ => ⟨hp.session.references, hp.session.generated⟩
  unfold Couples
  cases ho : (p.draft.layOut type).1 <;> cases ho' : (p'.draft.layOut type).1 <;>
    rw [ho, ho'] at haccord <;> rw [ho] at ha <;> rw [ho'] at ha'
  · rw [request_run_error ha, request_run_error ha']
    exact ⟨fun hsame => congrArg _ (haccord hsame), hsession _ _, hp.queue⟩
  · exact haccord.elim
  · exact haccord.elim
  · rw [request_run_ok ha, request_run_ok ha']
    exact ⟨hsession _ _, hlike, hp.queue⟩

theorem couples_layouts (types : List ExportedType) (hp : Abreast G a a' p p') :
    Couples (perform watchedMemory (types.map layoutStep)) p
      (perform watchedMemory (types.map layoutStep)) p' (fun _ q _ q' => Abreast G a a' q q')
      (SameFailure G a.pointerWidth a'.pointerWidth) := by
  induction types generalizing p p' with
  | nil => exact couples_pure hp
  | cons t later ih => exact (couples_layOut hp _ t.handle).bind fun _ _ _ _ hq => ih hq

/-- **What goes into a library keeps exports abreast**, up to the layout. -/
theorem couples_contents {s : Setting} {placed : List Placed} (hp : Abreast G a a' p p')
    (hwidth : s.settings.pointerWidth = a.pointerWidth) (hscope : s.scope.width = a.pointerWidth)
    (dual : Bool) (hplaced : AreClassified placed) (hclassed : ∀ p ∈ placed, p.IsClassed)
    (hfew : a.pointerWidth = a'.pointerWidth ∨ placedFunctionCount placed ≤ 2 ^ 28) :
    Couples (perform watchedMemory (contents s placed).2) p
      (perform watchedMemory (contents (s.retarget a'.pointerWidth dual) placed).2) p'
      (fun _ q _ q' => Abreast G a a' q q') (SameFailure G a.pointerWidth a'.pointerWidth) := by
  rw [contents_eq, contents_eq, perform_append, perform_append]
  have hpasses := inStep_passes (G := G) hwidth hscope dual hplaced hclassed hfew
  exact (couples_of_inStep hpasses hp).bind fun _ _ _ _ hq => couples_layouts _ hq.2

/-! ## One unit -/

/-- The drafts of two libraries before anything is asked of them. -/
def AreFresh (d d' : Draft) : Prop := d = {} ∧ d' = {}

/-- Types get the same places for two targets. -/
theorem couples_placeTypes (resolver : Resolver) (width : PointerWidth)
    (references : List ReferencedLibrary) (classified : List Classified) (needs : Needs)
    (hp : Related (SameReach G) AreFresh p p') :
    Couples (placeTypes watchedMemory resolver a references classified needs) p
      (placeTypes watchedMemory resolver { a with pointerWidth := width } references classified
        needs) p'
      (fun x q x' q' => x = x' ∧ Abreast G a { a with pointerWidth := width } q q')
      (SameFailure G a.pointerWidth width) := by
  rw [placeTypes_eq, placeTypes_eq]
  refine (couples_of_inStep (inStep_perform_silent (silent_nameTypes resolver classified)) hp).bind ?_
  rintro _ q _ q' ⟨-, hq⟩
  obtain ⟨hfresh, hfresh'⟩ := hq.draft
  have hattributes : Agrees (Abreast G a { a with pointerWidth := width })
      ((request watchedMemory (libraryContext a.name) (.setAttributes a)).run q)
      ((request watchedMemory (libraryContext a.name)
        (.setAttributes { a with pointerWidth := width })).run q') := by
    refine agrees_request _ ⟨rfl, ⟨hq.session.references, hq.session.generated⟩, ?_, hq.queue⟩
    change Draft.Like _ _ { q.draft with attributes := _ } { q'.draft with attributes := _ }
    rw [hfresh, hfresh']
    exact ⟨rfl, rfl, .nil, rfl, rfl⟩
  refine ((couples_iff_agrees.mpr hattributes).imp (fun _ _ _ _ h => h)
    fun _ _ _ _ h => sameFailure_of_related h).bind ?_
  rintro _ r _ r' ⟨-, hr⟩
  exact couples_of_inStep (keepsUpIn_abreast.placeNamed (by decide) (by decide) _ _ _ _) hr

section Placed

variable {resolver : Resolver} {attributes : Attributes} {references : List ReferencedLibrary}
  {unit : Reflection} {classified : List Classified} {needs : Needs} {placed : List Placed}
  {refs : ReferenceTable} {d : Draft}

theorem Prepared.areClassified
    (h : Prepared resolver attributes references classified needs placed refs d)
    (hclassify : classify unit unit.ids = .ok classified) : AreClassified placed := by
  intro p hp
  refine (classify_type? hclassify p.type ?_).2
  rw [← h.map_type]
  exact List.mem_map_of_mem hp

theorem Prepared.functionCount_le
    (h : Prepared resolver attributes references classified needs placed refs d)
    (hclassify : classify unit unit.ids = .ok classified) :
    placedFunctionCount placed ≤ unitFunctionCount unit := by
  have hcount := sum_functionCount_le hclassify
  rwa [← h.map_type, List.map_map] at hcount

end Placed

/-- The functions of a unit are so few that their offsets are exact, unless pointers have the same width
for both targets. -/
def IsExact (w w' : PointerWidth) (unit : Reflection) : Prop :=
  w = w' ∨ unitFunctionCount unit ≤ 2 ^ 28

/-- **Two exports of a unit keep abreast**, once the units that it needs have libraries. -/
theorem couples_buildReferring (resolver : Resolver) (settings : Settings) (width : PointerWidth)
    (dual : Bool) {unit : Reflection} {classified : List Classified}
    (hclassify : classify unit unit.ids = .ok classified)
    (hexact : IsExact settings.pointerWidth width unit)
    (hp : Related (SameReach G) AreFresh p p') :
    Couples (buildReferring watchedMemory resolver settings unit classified) p
      (buildReferring watchedMemory resolver (settings.retarget width dual) unit classified) p'
      (fun exported q exported' q' => exported = exported' ∧
        Abreast G (settings.attributes unit.identity)
          ((settings.retarget width dual).attributes unit.identity) q q')
      (SameFailure G settings.pointerWidth width) := by
  obtain ⟨hfresh, hfresh'⟩ := hp.draft
  refine Couples.bind (couples_get ⟨⟨rfl, rfl⟩, rfl, rfl⟩ : Couples _ _ _ _
    (fun x q x' q' => (x = p ∧ q = p) ∧ x' = p' ∧ q' = p') _) ?_
  rintro _ _ _ _ ⟨⟨rfl, rfl⟩, rfl, rfl⟩
  dsimp only
  rw [← hp.session.references]
  have hguid : ((settings.retarget width dual).attributes unit.identity).guid =
      (settings.attributes unit.identity).guid := rfl
  rw [hguid]
  refine Couples.bind (((couples_of_inStep (inStep_checkIdentity _ _) hp).and
    (ensures_checkIdentity _) (ensures_checkIdentity _)).imp (fun _ _ _ _ h => h)
      fun _ _ _ _ h => h.1) ?_
  rintro _ p _ p' ⟨-, ⟨rfl, -⟩, rfl, -⟩
  have hplaces := (couples_placeTypes (a := settings.attributes unit.identity) resolver width
    p.session.references classified (Needs.scan classified) hp).and
      (@ensures_placeTypes True _ _ _ _ _ _ hfresh fun hbad => (hbad trivial).elim)
      (@ensures_placeTypes True _ _ _ _ _ _ hfresh' fun hbad => (hbad trivial).elim)
  refine Couples.bind (hplaces.imp (fun _ _ _ _ h => h) fun _ _ _ _ h => h.1) ?_
  rintro ⟨placed, refs⟩ q _ q' ⟨⟨rfl, hq⟩, ⟨hprepared, -⟩, -⟩
  have hfew : settings.pointerWidth = width ∨ placedFunctionCount placed ≤ 2 ^ 28 :=
    hexact.imp_right fun hfew => (hprepared.functionCount_le hclassify).trans hfew
  have hcontents := couples_contents (s := settingOf unit resolver settings refs) hq rfl rfl dual
    (hprepared.areClassified hclassify) hprepared.standing.classed hfew
  refine hcontents.bind ?_
  rintro _ r _ r' hr
  exact couples_pure ⟨rfl, hr⟩

end Automation.Export
