import Automation.Proofs.Export.Building
import Automation.Proofs.Export.Simulation

/-!
# Every run follows the protocol

`Speaks` says which calls a part of an export makes about its library, and `Account` which calls a
whole export makes. `account_exportUnit` goes through the exports on demand, and `followsProtocol_run`
concludes that the journal of every run follows the protocol, whatever its builder rejects.
-/

namespace Automation.Export

open Library Source

variable {World Draft Committed α β : Type}

/-- The progress of an export with a journal. -/
abbrev JournalProgress (World Draft Committed : Type) :=
  Progress (Journal World) (Nat × Draft) Committed

/-! ## Calls about one library -/

/-- From one progress to another, the calls were made about the library, and no other library was
made. -/
structure Adds (p q : JournalProgress World Draft Committed) (calls : List Call) : Prop where
  calls : q.session.world.calls = p.session.world.calls ++ calls.map (p.draft.1, ·)
  libraries : q.session.world.libraries = p.session.world.libraries
  library : q.draft.1 = p.draft.1
  generated : q.session.generated = p.session.generated
  references : q.session.references = p.session.references

theorem Adds.refl (p : JournalProgress World Draft Committed) : Adds p p [] :=
  ⟨by simp, rfl, rfl, rfl, rfl⟩

theorem Adds.trans {p q r : JournalProgress World Draft Committed} {first later : List Call}
    (h : Adds p q first) (h' : Adds q r later) : Adds p r (first ++ later) where
  calls := by rw [h'.calls, h.calls, h.library, List.map_append, List.append_assoc]
  libraries := h'.libraries.trans h.libraries
  library := h'.library.trans h.library
  generated := h'.generated.trans h.generated
  references := h'.references.trans h.references

/-- All calls are accepted. -/
def Accepted (calls : List Call) : Prop := ∀ c ∈ calls, c.isAccepted = true

/-- Nothing follows a rejection. -/
def Halted (calls : List Call) : Prop := calls.Pairwise fun c _ => c.isAccepted = true

theorem Accepted.append {first later : List Call} (h : Accepted first) (h' : Accepted later) :
    Accepted (first ++ later) := List.forall_mem_append.mpr ⟨h, h'⟩

theorem Accepted.halted {calls : List Call} (h : Accepted calls) : Halted calls :=
  List.pairwise_of_forall_mem_list fun c hc _ _ => h c hc

theorem Accepted.append_halted {first later : List Call} (h : Accepted first) (h' : Halted later) :
    Halted (first ++ later) :=
  List.pairwise_append.mpr ⟨h.halted, h', fun c hc _ _ => h c hc⟩

/-- Whatever it starts with, a part of an export makes calls about its library, and none after a
rejection: `done` holds of its answer and of the calls, and `stopped` of the calls if it ends with
an error. -/
def Speaks (m : ExportM (Journal World) (Nat × Draft) Committed α) (done : α → List Call → Prop)
    (stopped : List Call → Prop) : Prop :=
  ∀ p, Ensures m p (fun a q => ∃ calls, Adds p q calls ∧ Accepted calls ∧ done a calls)
    fun _ q => ∃ calls, Adds p q calls ∧ Halted calls ∧ stopped calls

section Rules

variable {m : ExportM (Journal World) (Nat × Draft) Committed α} {done : α → List Call → Prop}
  {stopped : List Call → Prop}

theorem accepted_nil : Accepted [] := fun _ h => (List.not_mem_nil h).elim

theorem speaks_pure {a : α} (h : done a []) :
    Speaks (pure a : ExportM (Journal World) (Nat × Draft) Committed α) done stopped := fun p =>
  ensures_pure ⟨[], .refl p, accepted_nil, h⟩

theorem speaks_throw (error : ExportError) (h : stopped []) :
    Speaks (throw error : ExportM (Journal World) (Nat × Draft) Committed α) done stopped := fun p =>
  ensures_throw ⟨[], .refl p, accepted_nil.halted, h⟩

theorem Speaks.imp {done' : α → List Call → Prop} {stopped' : List Call → Prop}
    (h : Speaks m done stopped) (hdone : ∀ a calls, done a calls → done' a calls)
    (hstopped : ∀ calls, stopped calls → stopped' calls) : Speaks m done' stopped' := fun p =>
  (h p).imp (fun a _ ⟨calls, hadds, haccepted, h⟩ => ⟨calls, hadds, haccepted, hdone a calls h⟩)
    fun _ _ ⟨calls, hadds, hhalted, h⟩ => ⟨calls, hadds, hhalted, hstopped calls h⟩

/-- The rule of sequences: the second part goes on with the calls of the first. -/
theorem Speaks.bind {f : α → ExportM (Journal World) (Nat × Draft) Committed β}
    {between : α → List Call → Prop} {done : β → List Call → Prop} (h : Speaks m between stopped)
    (hf : ∀ a first, between a first →
      Speaks (f a) (fun b later => done b (first ++ later)) fun later => stopped (first ++ later)) :
    Speaks (m >>= f) done stopped := by
  refine fun p => (h p).bind ?_
  rintro a q ⟨first, hfirst, haccepted, hbetween⟩
  refine (hf a first hbetween q).imp ?_ ?_
  · rintro b r ⟨later, hlater, haccepted', hdone⟩
    exact ⟨first ++ later, hfirst.trans hlater, haccepted.append haccepted', hdone⟩
  · rintro e r ⟨later, hlater, hhalted, hstopped⟩
    exact ⟨first ++ later, hfirst.trans hlater, haccepted.append_halted hhalted, hstopped⟩

theorem speaks_remark (r : Remark) :
    Speaks (remark r : ExportM (Journal World) (Nat × Draft) Committed Unit)
      (fun _ calls => calls = []) stopped := fun p =>
  ensures_remark ⟨[], by cases r <;> exact ⟨(List.append_nil _).symm, rfl, rfl, rfl, rfl⟩,
    accepted_nil, rfl⟩

/-- The rule of requests: each is one call. -/
theorem speaks_request (b : Builder World Draft Committed) (context : String) {kind : ReplyKind}
    (r : Request kind) {done : kind.Answer → List Call → Prop}
    (accepted : ∀ answer, done answer [.request r (.ok answer)])
    (rejected : ∀ error, stopped [.request r (.error error)]) :
    Speaks (request b.journaled context r) done stopped := fun p => by
  refine ensures_request (fun answer world draft h => ?_) fun error world draft h => ?_
  all_goals
    simp only [Builder.journaled, Prod.mk.injEq] at h
    obtain ⟨houtcome, rfl, rfl⟩ := h
  · refine ⟨[.request r (.ok answer)], ⟨?_, rfl, rfl, rfl, rfl⟩, List.forall_mem_singleton.mpr rfl,
      accepted answer⟩
    simp only [Progress.asked, houtcome, List.map_singleton]
  · refine ⟨[.request r (.error error)], ⟨?_, rfl, rfl, rfl, rfl⟩, List.pairwise_singleton _ _,
      rejected error⟩
    simp only [Progress.asked, houtcome, List.map_singleton]

end Rules

/-! ## Phase by phase -/

variable (b : Builder World Draft Committed)

theorem inPhase_singleton {kind : ReplyKind} (r : Request kind)
    (outcome : Except BuildError kind.Answer) : InPhase r.phase [.request r outcome] :=
  List.forall_mem_singleton.mpr rfl

/-- A request of a phase. -/
theorem speaks_request_phase (context : String) {kind : ReplyKind} (r : Request kind) :
    Speaks (request b.journaled context r) (fun _ => InPhase r.phase) (InPhase r.phase) :=
  speaks_request b context r (fun _ => inPhase_singleton _ _) fun _ => inPhase_singleton _ _

/-- The call is a request of the script. -/
def IsFrom (steps : List Step) (c : Call) : Prop :=
  ∃ context r outcome, Step.request context r ∈ steps ∧ c = .request r outcome

theorem IsFrom.cons {step : Step} {later : List Step} {c : Call} (h : IsFrom later c) :
    IsFrom (step :: later) c := by
  obtain ⟨context, r, outcome, hmem, rfl⟩ := h
  exact ⟨context, r, outcome, List.mem_cons_of_mem _ hmem, rfl⟩

/-- A script makes no calls but its requests. -/
theorem speaks_perform (steps : List Step) :
    Speaks (perform b.journaled steps) (fun _ calls => ∀ c ∈ calls, IsFrom steps c)
      fun calls => ∀ c ∈ calls, IsFrom steps c := by
  have hnone : ∀ steps, ∀ c ∈ ([] : List Call), IsFrom steps c := fun _ _ h =>
    (List.not_mem_nil h).elim
  induction steps with
  | nil => exact speaks_pure (hnone _)
  | cons step later ih =>
    have hlater : ∀ calls : List Call, (∀ c ∈ calls, IsFrom later c) →
        ∀ c ∈ calls, IsFrom (step :: later) c := fun _ h c hc => (h c hc).cons
    cases step with
    | remark r =>
      refine (speaks_remark r).bind ?_
      rintro _ _ rfl
      exact ih.imp (fun _ => hlater) hlater
    | request context r =>
      have hfirst : ∀ outcome, ∀ c ∈ [Call.request r outcome],
          IsFrom (.request context r :: later) c := fun outcome =>
        List.forall_mem_singleton.mpr ⟨context, r, outcome, List.mem_cons_self, rfl⟩
      refine Speaks.bind (speaks_request b context r (fun _ => hfirst _) fun _ => hfirst _ :
        Speaks _ (fun _ calls => ∀ c ∈ calls, IsFrom (.request context r :: later) c) _)
          fun _ first hfirst => ?_
      exact ih.imp (fun _ _ h => List.forall_mem_append.mpr ⟨hfirst, hlater _ h⟩)
        fun _ h => List.forall_mem_append.mpr ⟨hfirst, hlater _ h⟩
    | abort error => exact speaks_throw error (hnone _)

/-- A script of one phase. -/
theorem speaks_allOf {phase : Phase} {codes : List Diagnostic.Code} {steps : List Step}
    (h : AllOf phase codes steps) :
    Speaks (perform b.journaled steps) (fun _ => InPhase phase) (InPhase phase) := by
  have hphase : ∀ calls : List Call, (∀ c ∈ calls, IsFrom steps c) → InPhase phase calls := by
    intro calls hfrom c hc
    obtain ⟨context, r, outcome, hmem, rfl⟩ := hfrom c hc
    exact congrArg some (h _ hmem)
  exact (speaks_perform b steps).imp (fun _ => hphase) hphase

/-- A script without requests. -/
theorem speaks_silent {steps : List Step} (h : Silent steps) :
    Speaks (perform b.journaled steps) (fun _ calls => calls = []) fun calls => calls = [] := by
  have hnone : ∀ calls : List Call, (∀ c ∈ calls, IsFrom steps c) → calls = [] := by
    intro calls hfrom
    refine List.eq_nil_iff_forall_not_mem.mpr fun c hc => ?_
    obtain ⟨context, r, -, hmem, -⟩ := hfrom c hc
    exact h context r hmem
  exact (speaks_perform b steps).imp (fun _ => hnone) hnone

/-- Layouts, in the order of the types. -/
theorem speaks_layouts (types : List ExportedType) :
    Speaks (perform b.journaled (types.map layoutStep))
      (fun _ calls => calls.map Call.laidOut? = (types.map (·.handle)).map some)
      fun calls => calls.map Call.laidOut? <+: (types.map (·.handle)).map some := by
  induction types with
  | nil => exact speaks_pure rfl
  | cons t later ih =>
    refine Speaks.bind (speaks_request b _ _ (fun _ => ?_) fun _ => ?_ : Speaks _
      (fun _ calls => calls.map Call.laidOut? = [some t.handle]) _) fun _ first hfirst => ?_
    · rfl
    · exact List.prefix_append [some t.handle] _
    · refine ih.imp (fun _ calls h => ?_) fun calls h => ?_
      · rw [List.map_append, hfirst, h]
        rfl
      · rw [List.map_append, hfirst]
        exact List.prefix_append_right_inj [some t.handle] |>.mpr h

/-- Calls that create types. -/
structure Creates (handles : List Handle) (calls : List Call) : Prop where
  inPhase : InPhase .creation calls
  created : calls.filterMap Call.created? = handles

theorem creates_nil : Creates [] [] := ⟨inPhase_nil _, rfl⟩

theorem Creates.append {handles handles' : List Handle} {first later : List Call}
    (h : Creates handles first) (h' : Creates handles' later) :
    Creates (handles ++ handles') (first ++ later) where
  inPhase := h.inPhase.append h'.inPhase
  created := by rw [List.filterMap_append, h.created, h'.created]

/-- The rule of sequences for parts that create types. -/
theorem Speaks.bind_creates {m : ExportM (Journal World) (Nat × Draft) Committed α}
    {f : α → ExportM (Journal World) (Nat × Draft) Committed β} {first : α → List Handle}
    {all : β → List Handle}
    (h : Speaks m (fun a => Creates (first a)) (InPhase .creation))
    (hf : ∀ a, Speaks (f a) (fun c calls => ∃ later, all c = first a ++ later ∧ Creates later calls)
      (InPhase .creation)) :
    Speaks (m >>= f) (fun c => Creates (all c)) (InPhase .creation) :=
  h.bind fun a _ hfirst => (hf a).imp
    (fun _ _ ⟨_, hall, hlater⟩ => hall ▸ hfirst.append hlater) fun _ => hfirst.inPhase.append

/-- A part that creates nothing is one after a request that creates nothing. -/
theorem Speaks.after {m : ExportM (Journal World) (Nat × Draft) Committed α} {keep : α → Prop}
    (context : String) (r : Request .done) (hr : r.phase = .creation)
    (hm : Speaks m (fun a calls => keep a ∧ Creates [] calls) (InPhase .creation)) :
    Speaks (request b.journaled context r >>= fun _ => m) (fun a calls => keep a ∧ Creates [] calls)
      (InPhase .creation) := by
  have hnone : ∀ outcome, Creates [] [.request r outcome] := fun outcome =>
    ⟨hr ▸ inPhase_singleton r outcome, by cases r <;> rfl⟩
  refine Speaks.bind (speaks_request b context r (fun _ => hnone _) fun _ => (hnone _).inPhase :
    Speaks _ (fun _ => Creates []) _) fun _ first hfirst => ?_
  exact hm.imp (fun _ _ ⟨hkeep, h⟩ => ⟨hkeep, hfirst.append h⟩) fun _ => hfirst.inPhase.append

/-- One type: it is created first. -/
theorem speaks_createType (version : Version) (uses : GuidUses) (place : Placeholder) :
    Speaks (createType b.journaled version uses place) (fun a => Creates [a.1])
      (InPhase .creation) := by
  unfold createType
  split
  · exact speaks_throw _ (inPhase_nil _)
  · refine Speaks.bind_creates (speaks_request b _ _ (fun handle => ?_) fun error => ?_ : Speaks _
      (fun handle => Creates [handle]) _) fun handle => ?_
    · exact ⟨inPhase_singleton (.createType place.name place.kind) _, rfl⟩
    · exact inPhase_singleton (.createType place.name place.kind) _
    refine Speaks.imp (?_ : Speaks _
      (fun (a : Handle × GuidUses) calls => a.1 = handle ∧ Creates [] calls) _)
        (fun a _ ⟨ha, h⟩ => ⟨[], by rw [ha, List.append_nil], h⟩) fun _ h => h
    refine .after b _ (.setGuid handle _) rfl (.after b _ (.setVersion handle _) rfl
      (.after b _ (.setFlags handle _) rfl ?_))
    split
    · exact .after b _ (.setDoc handle _) rfl (speaks_pure ⟨rfl, creates_nil⟩)
    · exact speaks_pure ⟨rfl, creates_nil⟩

theorem speaks_createClassInterface (version : Version) (uses : GuidUses) (n : NamedType) :
    Speaks (createClassInterface b.journaled version uses n)
      (fun a => Creates (a.1.toList.map (·.handle))) (InPhase .creation) := by
  unfold createClassInterface
  split
  · exact (speaks_createType b _ _ _).bind_creates fun a =>
      speaks_pure ⟨[], (List.append_nil _).symm, creates_nil⟩
  · exact speaks_pure creates_nil

/-- All types, in library order. -/
theorem speaks_createTypes (version : Version) (uses : GuidUses) (named : List NamedType) :
    Speaks (createTypes b.journaled version uses named) (fun placed => Creates (handlesOf placed))
      (InPhase .creation) := by
  induction named generalizing uses with
  | nil => exact speaks_pure creates_nil
  | cons n later ih =>
    refine (speaks_createClassInterface b version uses n).bind ?_
    rintro ⟨made, uses⟩ first hfirst
    refine Speaks.bind ((speaks_createType b version uses _).imp (fun _ _ h => h)
      fun _ => hfirst.inPhase.append) ?_
    rintro ⟨handle, uses⟩ second hsecond
    refine Speaks.bind ((ih uses).imp (fun _ _ h => h)
      fun _ h => hfirst.inPhase.append (hsecond.inPhase.append h)) ?_
    intro rest third hthird
    refine speaks_pure ?_
    have h := hfirst.append (hsecond.append hthird)
    simpa [handlesOf, Placed.handles, Placed.slots, Function.comp_def] using h

theorem speaks_importStandard (isNeeded : Bool) :
    Speaks (importStandard b.journaled isNeeded) (fun _ => InPhase .imports) (InPhase .imports) := by
  unfold importStandard
  split
  · refine (speaks_request_phase b _ (.addImport _)).bind fun _ first hfirst => speaks_pure ?_
    exact hfirst.append (inPhase_nil _)
  · exact speaks_pure (inPhase_nil _)

theorem speaks_importTypes (references : List ReferencedLibrary) (imported : List (Nat × ImportId))
    (refs : ReferenceTable) (types : List ExternalType) :
    Speaks (importTypes b.journaled references imported refs types) (fun _ => InPhase .imports)
      (InPhase .imports) := by
  induction types generalizing imported refs with
  | nil => exact speaks_pure (inPhase_nil _)
  | cons type later ih =>
    unfold importTypes
    split
    · exact ih _ _
    · split
      · exact ih _ _
      · split
        · exact ih _ _
        · refine (speaks_request_phase b _ (.addImport _)).bind fun _ first hfirst => ?_
          exact (ih _ _).imp (fun _ _ => hfirst.append) fun _ => hfirst.append

/-! ## One library -/

/-- The calls up to the imports. -/
structure Places (placed : List Placed) (attributes : Call) (creation imports : List Call) :
    Prop where
  attributes : attributes.phase? = some .attributes
  creation : Creates (handlesOf placed) creation
  imports : InPhase .imports imports

/-- Types get their places, and imports follow. -/
theorem speaks_placeTypes (resolver : Resolver) (attributes : Attributes)
    (references : List ReferencedLibrary) (classified : List Classified) (needs : Needs) :
    Speaks (placeTypes b.journaled resolver attributes references classified needs)
      (fun a calls => ∃ first creation imports, Places a.1 first creation imports ∧
        calls = first :: creation ++ imports)
      IsPartial := by
  have hnil := inPhase_nil
  have hpartial : ∀ {first : Call} {creation imports : List Call},
      first.phase? = some .attributes → InPhase .creation creation → InPhase .imports imports →
      IsPartial (first :: creation ++ imports) := fun hfirst hcreation himports => by
    have h := @isPartial_of_layouts _ _ _ [] [] [] hfirst hcreation himports (hnil _) (hnil _)
      List.nil_prefix
    simpa only [List.append_nil] using h
  unfold placeTypes
  refine Speaks.bind ((speaks_silent b (silent_nameTypes resolver classified)).imp
    (fun _ _ h => h) fun _ h => h ▸ isPartial_nil) ?_
  rintro _ _ rfl
  refine Speaks.bind (speaks_request b _ _ (fun answer => ?_) fun error => ?_ : Speaks _
    (fun _ calls => ∃ first : Call, first.phase? = some .attributes ∧ calls = [first]) _) ?_
  · exact ⟨_, rfl, rfl⟩
  · exact hpartial rfl (hnil _) (hnil _)
  rintro _ _ ⟨first, hfirst, rfl⟩
  refine Speaks.bind ((speaks_createTypes b _ _ _).imp (fun _ _ h => h) fun creation h => ?_) ?_
  · simpa using hpartial hfirst h (hnil _)
  intro placed creation hcreation
  refine Speaks.bind ((speaks_importStandard b _).imp (fun _ _ h => h) fun imports h => ?_) ?_
  · simpa using hpartial hfirst hcreation.inPhase h
  intro standard imports himports
  refine Speaks.bind ((speaks_importTypes b _ _ _ _).imp (fun _ _ h => h) fun more h => ?_) ?_
  · simpa using hpartial hfirst hcreation.inPhase (himports.append h)
  intro refs more hmore
  refine speaks_pure ⟨first, creation, imports ++ more, ⟨hfirst, hcreation, himports.append hmore⟩, ?_⟩
  simp

/-- **The calls about one library** once the exports that it needs are done: up to the commit, they
come in their phases. -/
theorem speaks_library (resolver : Resolver) (settings : Settings) (unit : Reflection)
    (references : List ReferencedLibrary) (classified : List Classified) (needs : Needs) :
    Speaks (do
        checkIdentity (settings.attributes unit.identity).guid references
        let (placed, refs) ← placeTypes b.journaled resolver (settings.attributes unit.identity)
          references classified needs
        let scope : Scope := { type? := unit.type?, refs := refs, width := settings.pointerWidth }
        let (exported, script) :=
          contents { scope := scope, resolver := resolver, settings := settings } placed
        perform b.journaled script
        return exported)
      (fun _ calls => ∀ outcome, Complete (calls ++ [.commit outcome]))
      IsPartial := by
  refine Speaks.bind (?_ : Speaks _ (fun _ calls => calls = []) _) ?_
  · unfold checkIdentity
    split
    · exact speaks_throw _ isPartial_nil
    · exact speaks_pure rfl
  rintro _ _ rfl
  refine (speaks_placeTypes b _ _ _ _ _).bind ?_
  rintro ⟨placed, refs⟩ _ ⟨first, creation, imports, hplaces, rfl⟩
  change Speaks (perform b.journaled (contents (settingOf unit resolver settings refs) placed).2 >>=
    fun _ => pure (contents (settingOf unit resolver settings refs) placed).1) _ _
  rw [contents_eq, passes_eq, perform_append, perform_append, bind_assoc, bind_assoc]
  obtain ⟨hfirst, hcreation, himports⟩ := hplaces
  have hinheritance : AllOf .inheritance inheritanceCodes
      (placed.flatMap (inheritanceSteps (settingOf unit resolver settings refs).scope)) :=
    allOf_flatMap fun p _ => allOf_inheritance _ p
  have hpartial : ∀ {inheritance members layouts : List Call}, InPhase .inheritance inheritance →
      InPhase .members members → layouts.map Call.laidOut? <+: (handlesOf placed).map some →
      IsPartial (first :: creation ++ imports ++ (inheritance ++ (members ++ layouts))) :=
    fun hinheritance hmembers hlayouts => by
      have h := isPartial_of_layouts hfirst hcreation.inPhase himports hinheritance hmembers
        (hcreation.created ▸ hlayouts)
      simpa only [List.append_assoc] using h
  have hnone : ([] : List Call).map Call.laidOut? <+: (handlesOf placed).map some := List.nil_prefix
  refine Speaks.bind ((speaks_allOf b hinheritance).imp (fun _ _ h => h) fun inheritance h => ?_)
    fun _ inheritance hinheritance => ?_
  · simpa using hpartial h (inPhase_nil _) hnone
  refine Speaks.bind ((speaks_allOf b (allOf_memberPasses _ _)).imp (fun _ _ h => h)
    fun members h => ?_) fun _ members hmembers => ?_
  · simpa using hpartial hinheritance h hnone
  have hhandles := map_handle_exported (withDefaults (settingOf unit resolver settings refs).scope placed)
    placed
  refine Speaks.bind ((speaks_layouts b _).imp (fun _ _ h => h) fun layouts h => ?_)
    fun _ layouts hlayouts => speaks_pure fun outcome => ?_
  · exact hpartial hinheritance hmembers (by rwa [hhandles] at h)
  · have h := Complete.intro outcome hfirst hcreation.inPhase himports hinheritance hmembers
      (hlayouts.trans (by rw [hcreation.created]; exact congrArg _ hhandles))
    simpa only [List.append_assoc, List.append_nil, List.nil_append] using h

/-! ## Exports on demand -/

section Build

variable {b}
variable {available : List Reflection}
  {exportUnit : (unit : Reflection) → unit ∈ available → Session (Journal World) Committed →
    Nat × Draft → UnitOutcome (Journal World) Committed}
  {p : JournalProgress World Draft Committed} {I : JournalProgress World Draft Committed → Prop}
  {failed : ExportError → JournalProgress World Draft Committed → Prop}

/-- A library after the exports that it needs: it is ready for its commit, or nothing was asked
about it, or its calls were stopped. -/
theorem ensures_build_journaled (resolver : Resolver) (settings : Settings) (unit : Reflection)
    (hneeded : ∀ needs, Ensures (exportUncovered b.journaled settings needs available exportUnit) p
      (fun _ => I) failed) :
    Ensures (build b.journaled resolver settings unit available exportUnit) p
      (fun _ r => ∃ q calls, I q ∧ Adds q r calls ∧ Accepted calls ∧
        ∀ outcome, Complete (calls ++ [.commit outcome]))
      (fun e r => failed e r ∨ r = p ∨
        ∃ q calls, I q ∧ Adds q r calls ∧ Halted calls ∧ IsPartial calls) := by
  unfold build
  refine Ensures.bind (ensures_ofExcept (fun _ _ => ?_) fun _ _ => ?_ :
    Ensures _ p (fun _ q => q = p) _) ?_
  · rfl
  · exact .inr (.inl rfl)
  rintro classified _ rfl
  refine Ensures.bind ((hneeded (Needs.scan classified)).imp (fun _ _ h => h)
    fun _ _ h => .inl h) ?_
  rintro _ q hq
  refine Ensures.bind (ensures_get ?_) fun _ _ h => h
  refine (speaks_library b resolver settings unit q.session.references classified
    (Needs.scan classified) q).imp ?_ ?_
  · rintro exported r ⟨calls, hadds, haccepted, hcomplete⟩
    exact ⟨q, calls, hq, hadds, haccepted, hcomplete⟩
  · rintro _ r ⟨calls, hadds, hhalted, hpartial⟩
    exact .inr (.inr ⟨q, calls, hq, hadds, hhalted, hpartial⟩)

variable (b) in
/-- The commit is the last call. -/
theorem finish_journaled (unit : UnitIdentity) (attributes : Attributes)
    (exported : List ExportedType) (r : JournalProgress World Draft Committed) :
    ∃ outcome, (finish b.journaled unit attributes (.ok exported r)).1.isOk = outcome.isOk ∧
      (∀ l, (finish b.journaled unit attributes (.ok exported r)).1 = .ok l → l.unit = unit.name) ∧
      Adds r { r with session := (finish b.journaled unit attributes (.ok exported r)).2 }
        [.commit outcome] := by
  rcases hc : b.commit r.session.world.world r.draft.2 with ⟨error | library, world⟩
  all_goals simp only [finish, Builder.journaled, hc]
  · exact ⟨.error error, rfl, fun _ h => Except.noConfusion rfl rfl (heq_of_eq h), rfl, rfl, rfl,
      rfl, rfl⟩
  · exact ⟨.ok (), rfl, fun _ h => Except.ok.inj h ▸ rfl, rfl, rfl, rfl, rfl, rfl⟩

end Build

/-- The calls that the exports on demand have made so far: what the library of number `library` goes
on with is added to them. -/
structure Begins (library : Nat) (s : Session (Journal World) Committed)
    (q : JournalProgress World Draft Committed) : Prop where
  own : q.draft.1 = library
  calls : ∃ before, q.session.world.calls = s.world.calls ++ before ∧
    ∀ {later last isDone}, Account library q.session.world.libraries later last isDone →
      Account library s.world.libraries (before ++ later) last isDone

/-- From one session to another, the calls of the export of a library were made. -/
def Accounts (library : Nat) (s s' : Session (Journal World) Committed) (isDone : Bool) : Prop :=
  ∃ log, s'.world.calls = s.world.calls ++ log ∧
    Account library s.world.libraries log s'.world.libraries isDone

variable {b}

theorem Begins.accounts {library : Nat} {s : Session (Journal World) Committed}
    {q r : JournalProgress World Draft Committed} (h : Begins library s q) {calls : List Call}
    (hadds : Adds q r calls) (hpartial : IsPartial calls) (hhalted : Halted calls) {isDone : Bool}
    (haccepted : isDone = true → Accepted calls) : Accounts library s r.session isDone := by
  obtain ⟨before, hcalls, haccount⟩ := h.calls
  refine ⟨before ++ calls.map (library, ·), ?_, haccount ?_⟩
  · rw [hadds.calls, hcalls, h.own, List.append_assoc]
  · rw [hadds.libraries]
    exact .own hpartial hhalted haccepted

/-- The export of a library that is begun beside another. -/
theorem Begins.beside {library : Nat} {s s' : Session (Journal World) Committed}
    {q : JournalProgress World Draft Committed} (h : Begins library s q) {isDone : Bool}
    (hneeded : Accounts (b.journaled.newLibrary q.session.world q.draft).2.1 (q.begin b.journaled) s'
      isDone) :
    ∃ before log, s'.world.calls = s.world.calls ++ (before ++ log) ∧
      ∀ {later last isDone'}, (isDone = false → later = [] ∧ isDone' = false) →
        Account library s'.world.libraries later last isDone' →
        Account library s.world.libraries (before ++ log ++ later) last isDone' := by
  obtain ⟨before, hcalls, haccount⟩ := h.calls
  obtain ⟨log, hlog, hneeded⟩ := hneeded
  refine ⟨before, (library, .begun q.session.world.libraries) :: log, ?_, fun hstopped hlater => ?_⟩
  · rw [hlog]
    simp only [Progress.begin, Builder.journaled, hcalls, h.own, List.append_assoc,
      List.singleton_append]
  · rw [List.append_assoc, List.cons_append]
    exact haccount (.beside hneeded hlater hstopped)

variable (b)

/-- **The calls of an export**, with those of the exports that it needs. -/
theorem account_exportUnit (resolver : Resolver) (settings : Settings) (available : List Reflection)
    (unit : Reflection) (s : Session (Journal World) Committed) (draft : Nat × Draft) :
    Accounts draft.1 s (exportUnit b.journaled resolver settings available unit s draft).2
      (exportUnit b.journaled resolver settings available unit s draft).1.isOk := by
  induction available using available_induction generalizing settings unit s draft with
  | step available ih =>
    rw [exportUnit]
    have hbegin : Begins draft.1 s
        { session := s, draft := draft, queue := Diagnostic.Queue.empty settings.diagnostics } :=
      ⟨rfl, [], (List.append_nil _).symm, fun h => h⟩
    have hneeded : ∀ needs, Ensures
        (exportUncovered b.journaled settings needs available fun needed _ =>
          exportUnit b.journaled resolver settings.forDependency (without available needed) needed)
        { session := s, draft := draft, queue := Diagnostic.Queue.empty settings.diagnostics }
        (fun _ => Begins draft.1 s) (fun _ q => Accounts draft.1 s q.session false) := by
      intro needs
      refine ensures_exportUncovered (fun q _ needed hm f s' _ _ hq hf => ?_)
        (fun q name needed hm l s' _ _ hq hl => ?_) hbegin
      all_goals
        have hnested := ih needed hm settings.forDependency needed (q.begin b.journaled)
          (b.journaled.newLibrary q.session.world q.draft).2
      · rw [hf] at hnested
        obtain ⟨before, log, hcalls, haccount⟩ := hq.beside hnested
        refine ⟨before ++ log, hcalls, ?_⟩
        have hown : Account draft.1 s'.world.libraries [] s'.world.libraries false :=
          @Account.own _ _ [] _ isPartial_nil List.Pairwise.nil Bool.noConfusion
        simpa using haccount (fun _ => ⟨rfl, rfl⟩) hown
      · rw [hl] at hnested
        obtain ⟨before, log, hcalls, haccount⟩ := hq.beside hnested
        exact ⟨hq.own, before ++ log, hcalls, haccount Bool.noConfusion⟩
    have hbuild := ensures_build_journaled resolver settings unit hneeded
    rcases hr : (build b.journaled resolver settings unit available _).run _ with
      ⟨exported, r⟩ | ⟨e, r⟩
    · obtain ⟨q, calls, hq, hadds, haccepted, hcomplete⟩ := hbuild.of_ok hr
      obtain ⟨outcome, hok, -, hcommit⟩ :=
        finish_journaled b unit.identity (settings.attributes unit.identity) exported r
      rw [hok]
      refine hq.accounts (hadds.trans hcommit) ⟨_, hcomplete _, List.prefix_refl _⟩
        (haccepted.append_halted (List.pairwise_singleton _ _)) fun hdone => ?_
      exact haccepted.append (List.forall_mem_singleton.mpr hdone)
    · rcases hbuild.of_error hr with hfailed | rfl | ⟨q, calls, hq, hadds, hhalted, hpartial⟩
      · exact hfailed
      · exact hbegin.accounts (.refl _) isPartial_nil List.Pairwise.nil Bool.noConfusion
      · exact hq.accounts hadds hpartial hhalted Bool.noConfusion

/-! ## Runs -/

/-- The session without its journal. -/
def Session.unjournaled (s : Session (Journal World) Committed) : Session World Committed :=
  { world := s.world.world, questions := s.questions, references := s.references
    generated := s.generated }

/-- A builder with a journal answers and commits as the builder does. -/
theorem simulation_journaled : Simulation b.journaled b (·.unjournaled = ·) (·.2 = ·) where
  references h := by rw [← h]; rfl
  generated h := by rw [← h]; rfl
  asked q h := by rw [← h]; rfl
  answered r h hd := by rw [← h, ← hd]; exact ⟨rfl, rfl, rfl⟩
  begun h hd := by rw [← h, ← hd]; exact ⟨rfl, rfl⟩
  committed {s s' d d'} h hd unit attributes exported queue := by
    obtain rfl := h
    obtain rfl := hd
    rcases hb : b.commit s.world.world d.2 with ⟨outcome, world⟩
    simp only [finish, Builder.journaled, Session.unjournaled, hb]
    cases outcome with
    | ok library => exact ⟨rfl, rfl⟩
    | error e => exact ⟨rfl, rfl⟩

/-- The run of a job with a journal from the start. -/
def Job.journaledRun (job : Job) (b : Builder World Draft Committed) (world : World)
    (draft : Draft) : Except Failure (Output Committed) × Session (Journal World) Committed :=
  job.run b.journaled { world := world } (0, draft)

/-- **Every run follows the protocol**, whatever the job is and whatever the builder rejects. The
journal is that of the run: it ends as without one. -/
theorem followsProtocol_run (job : Job) (world : World) (draft : Draft) :
    (job.journaledRun b world draft).1 = (job.run b world draft).1 ∧
      FollowsProtocol (job.journaledRun b world draft).2.world.calls := by
  refine ⟨(simulation_journaled b).run job rfl rfl, ?_⟩
  obtain ⟨log, hlog, haccount⟩ := account_exportUnit b job.resolver job.settings
    (without job.dependencies job.unit) job.unit
    { world := { world := world }, references := job.settings.references } (0, draft)
  have hcalls : (job.journaledRun b world draft).2.world.calls = log := hlog
  rw [hcalls]
  exact haccount.followsProtocol Nat.one_pos

end Automation.Export
