import Automation.Library.Journal
import Mathlib.Data.List.Basic

/-!
# The protocol of builders

`FollowsProtocol` is what a builder may rely on, told by its journal: the calls about one library come
in their phases and stop at any point (`Complete`), a library that is begun beside another is through
before anything more is asked about the other one, and nothing is asked after a rejection.
-/

namespace Automation.Library

/-! ## Calls -/

/-- The phases of a library. -/
inductive Phase where
  | attributes
  | creation
  | imports
  | inheritance
  | members
  | layout
  deriving DecidableEq, Repr

/-- The phase that a request belongs to. -/
def Request.phase {kind : ReplyKind} : Request kind → Phase
  | .setAttributes _ => .attributes
  | .createType _ _ | .setGuid _ _ | .setVersion _ _ | .setFlags _ _ | .setDoc _ _ => .creation
  | .addImport _ => .imports
  | .addImplemented _ _ _ _ => .inheritance
  | .addFunction _ _ _ | .addVariable _ _ _ | .setFunctionNames _ _ _ | .setVariableName _ _ _
  | .setFunctionDoc _ _ _ | .setVariableDoc _ _ _ => .members
  | .layOut _ => .layout

namespace Call

/-- Whether the call begins a further library. -/
def isBegun : Call → Bool
  | begun _ => true
  | request _ _ | commit _ => false

/-- Whether the call is not rejected. -/
def isAccepted : Call → Bool
  | begun _ => true
  | request _ outcome => outcome.isOk
  | commit outcome => outcome.isOk

/-- The phase that a call belongs to: none if it is not a request. -/
def phase? : Call → Option Phase
  | request r _ => some r.phase
  | begun _ | commit _ => none

/-- The type that the call has created. -/
def created? : Call → Option Handle
  | request (.createType _ _) (.ok handle) => some handle
  | _ => none

/-- The type whose layout the call is for. -/
def laidOut? : Call → Option Handle
  | request (.layOut handle) _ => some handle
  | _ => none

theorem isBegun_of_phase {c : Call} {phase : Phase} (h : c.phase? = some phase) :
    c.isBegun = false := by
  cases c with
  | begun library => exact Option.noConfusion rfl (heq_of_eq h)
  | request r outcome => rfl
  | commit outcome => rfl

end Call

/-! ## The protocol -/

/-- The calls of a phase. -/
def InPhase (phase : Phase) (calls : List Call) : Prop := ∀ c ∈ calls, c.phase? = some phase

/-- All calls about a library from its attributes to its commit: the types are created, then there
are imports, then the types derive from others, then they get their members, and each type that was
created is laid out once, in the order of creation. -/
inductive Complete : List Call → Prop where
  | intro {attributes : Call} {creation imports inheritance members layouts : List Call}
      (outcome : Except BuildError Unit)
      (hattributes : attributes.phase? = some .attributes)
      (hcreation : InPhase .creation creation)
      (himports : InPhase .imports imports)
      (hinheritance : InPhase .inheritance inheritance)
      (hmembers : InPhase .members members)
      (hlayouts : layouts.map Call.laidOut? = (creation.filterMap Call.created?).map some) :
      Complete (attributes :: creation ++ imports ++ inheritance ++ members ++ layouts
        ++ [.commit outcome])

/-- The calls about a library, up to any point. -/
def IsPartial (calls : List Call) : Prop := ∃ all, Complete all ∧ calls <+: all

/-- The calls about a library in a journal. -/
def callsAbout (log : List (Nat × Call)) (library : Nat) : List Call :=
  log.filterMap fun entry => if entry.1 = library then some entry.2 else none

/-- What a builder may rely on. -/
structure FollowsProtocol (log : List (Nat × Call)) : Prop where
  /-- Further libraries are begun before anything is asked about a library. From there on the calls
  come in their phases, up to the commit or to the point where the run ends. -/
  ordered : ∀ library, ∃ begun calls, callsAbout log library = begun ++ calls ∧
    (∀ c ∈ begun, c.isBegun = true) ∧ IsPartial calls
  /-- A library is committed only if everything about it was accepted. -/
  committed : ∀ library before outcome after,
    callsAbout log library = before ++ .commit outcome :: after → ∀ c ∈ before, c.isAccepted = true
  /-- Once anything is asked about a library, there are no more calls about the libraries that were
  begun beside it. -/
  nested : ∀ library needed, (library, Call.begun needed) ∈ log →
    log.Pairwise fun first later => first.1 = library → first.2.isBegun = false → later.1 ≠ needed
  /-- A rejection ends the run. -/
  halted : log.Pairwise fun first _ => first.2.isAccepted = true

/-! ## Complete and partial calls -/

theorem inPhase_nil (phase : Phase) : InPhase phase [] := fun _ h => (List.not_mem_nil h).elim

theorem InPhase.append {phase : Phase} {first second : List Call} (h : InPhase phase first)
    (h' : InPhase phase second) : InPhase phase (first ++ second) := fun c hc =>
  (List.mem_append.mp hc).elim (h c) (h' c)

theorem InPhase.isBegun {phase : Phase} {calls : List Call} (h : InPhase phase calls) :
    ∀ c ∈ calls, c.isBegun = false := fun c hc => Call.isBegun_of_phase (h c hc)

/-- No further library is begun once anything is asked about a library. -/
theorem Complete.isBegun {calls : List Call} (h : Complete calls) :
    ∀ c ∈ calls, c.isBegun = false := by
  obtain @⟨attributes, creation, imports, inheritance, members, layouts, outcome, hattributes,
    hcreation, himports, hinheritance, hmembers, hlayouts⟩ := h
  intro c hc
  simp only [List.cons_append, List.mem_cons, List.mem_append, List.not_mem_nil, or_false] at hc
  rcases hc with rfl | ((((hc | hc) | hc) | hc) | hc) | rfl
  · exact Call.isBegun_of_phase hattributes
  · exact hcreation.isBegun c hc
  · exact himports.isBegun c hc
  · exact hinheritance.isBegun c hc
  · exact hmembers.isBegun c hc
  · cases c with
    | begun library =>
      have hnone : none ∈ (layouts.map Call.laidOut?) := List.mem_map.mpr ⟨_, hc, rfl⟩
      rw [hlayouts] at hnone
      obtain ⟨handle, -, hsome⟩ := List.mem_map.mp hnone
      exact Option.noConfusion rfl (heq_of_eq hsome)
    | request r outcome => rfl
    | commit outcome => rfl
  · rfl

/-- The layouts that are asked for are the first ones that are due. -/
theorem isPartial_of_layouts {attributes : Call}
    {creation imports inheritance members layouts : List Call}
    (hattributes : attributes.phase? = some .attributes) (hcreation : InPhase .creation creation)
    (himports : InPhase .imports imports) (hinheritance : InPhase .inheritance inheritance)
    (hmembers : InPhase .members members)
    (hlayouts : layouts.map Call.laidOut? <+: (creation.filterMap Call.created?).map some) :
    IsPartial (attributes :: creation ++ imports ++ inheritance ++ members ++ layouts) := by
  obtain ⟨laid, ⟨due, hdue⟩, hlaid⟩ := List.prefix_map_iff.mp hlayouts
  let later : List Call := due.map fun handle => .request (.layOut handle) (.ok ())
  have hall : (layouts ++ later).map Call.laidOut? = (creation.filterMap Call.created?).map some := by
    rw [List.map_append, hlaid, ← hdue, List.map_append, List.map_map]
    rfl
  refine ⟨_, .intro (.ok ()) hattributes hcreation himports hinheritance hmembers hall,
    later ++ [.commit (.ok ())], ?_⟩
  simp only [List.append_assoc]

/-- Nothing may be asked at all. -/
theorem isPartial_nil : IsPartial [] := by
  let attributes : Call :=
    .request (.setAttributes { name := "", guid := .nil, version := {}, locale := 0, doc := none
                               pointerWidth := .bits64 }) (.ok ())
  obtain ⟨all, hcomplete, -⟩ := @isPartial_of_layouts attributes [] [] [] [] [] rfl (inPhase_nil _)
    (inPhase_nil _) (inPhase_nil _) (inPhase_nil _) List.nil_prefix
  exact ⟨all, hcomplete, List.nil_prefix⟩

/-! ## Calls about one library -/

theorem callsAbout_append (first second : List (Nat × Call)) (library : Nat) :
    callsAbout (first ++ second) library = callsAbout first library ++ callsAbout second library :=
  List.filterMap_append

theorem callsAbout_cons (owner : Nat) (c : Call) (later : List (Nat × Call)) (library : Nat) :
    callsAbout ((owner, c) :: later) library =
      (if owner = library then [c] else []) ++ callsAbout later library := by
  unfold callsAbout
  rw [List.filterMap_cons]
  by_cases h : owner = library
  · simp only [h, if_true, List.singleton_append]
  · simp only [h, if_false, List.nil_append]

theorem callsAbout_map (calls : List Call) (library : Nat) :
    callsAbout (calls.map (library, ·)) library = calls := by
  simp [callsAbout, List.filterMap_map]

theorem callsAbout_eq_nil {log : List (Nat × Call)} {library : Nat}
    (h : ∀ e ∈ log, e.1 ≠ library) : callsAbout log library = [] :=
  List.filterMap_eq_nil_iff.mpr fun e he => if_neg (h e he)

/-! ## Accounts -/

/-- The part of a journal that is about a library and about what is begun beside it, and so on:
`first` is the number of the first library that may be begun there, and `last` the number after the
last one. Each library is through before the next call about the one that it was begun beside, and
if it is not done, neither is that one. -/
inductive Account : (library first : Nat) → List (Nat × Call) → (last : Nat) → (isDone : Bool) → Prop
  | own {library next : Nat} {calls : List Call} {isDone : Bool} (ordered : IsPartial calls)
      (halted : calls.Pairwise fun c _ => c.isAccepted = true)
      (accepted : isDone = true → ∀ c ∈ calls, c.isAccepted = true) :
      Account library next (calls.map (library, ·)) next isDone
  | beside {library first middle last : Nat} {log rest : List (Nat × Call)} {inner isDone : Bool}
      (needed : Account first (first + 1) log middle inner)
      (later : Account library middle rest last isDone)
      (stopped : inner = false → rest = [] ∧ isDone = false) :
      Account library first ((library, .begun first) :: (log ++ rest)) last isDone

namespace Account

variable {library first last : Nat} {log : List (Nat × Call)} {isDone : Bool}

theorem le (h : Account library first log last isDone) : first ≤ last := by
  induction h with
  | own _ _ _ => exact Nat.le_refl _
  | beside _ _ _ needed later => omega

/-- The calls are about the library or about those begun meanwhile. -/
theorem owner (h : Account library first log last isDone) :
    ∀ e ∈ log, e.1 = library ∨ first ≤ e.1 ∧ e.1 < last := by
  induction h with
  | own _ _ _ =>
    intro e he
    obtain ⟨c, -, rfl⟩ := List.mem_map.mp he
    exact .inl rfl
  | beside hneeded hlater _ needed later =>
    have hle := hneeded.le
    have hle' := hlater.le
    refine List.forall_mem_cons.mpr ⟨.inl rfl, fun e he => ?_⟩
    rcases List.mem_append.mp he with he | he
    · have := needed e he
      omega
    · have := later e he
      omega

/-- The libraries begun meanwhile get the numbers in turn. -/
theorem begun (h : Account library first log last isDone) {other needed : Nat}
    (hmem : (other, Call.begun needed) ∈ log) : first ≤ needed ∧ needed < last := by
  induction h with
  | own hpartial _ _ =>
    obtain ⟨c, hc, hbegun⟩ := List.mem_map.mp hmem
    obtain ⟨-, rfl⟩ := Prod.mk.inj hbegun
    obtain ⟨all, hcomplete, hbefore⟩ := hpartial
    have := hcomplete.isBegun _ (hbefore.subset hc)
    exact Bool.noConfusion this
  | beside hneeded hlater _ needed later =>
    have hle := hneeded.le
    have hle' := hlater.le
    rcases List.mem_cons.mp hmem with heq | hmem
    · obtain ⟨-, hbegun⟩ := Prod.mk.inj heq
      obtain rfl := Call.begun.inj hbegun
      omega
    · rcases List.mem_append.mp hmem with hmem | hmem
      · have := needed hmem
        omega
      · have := later hmem
        omega

theorem accepted (h : Account library first log last isDone) (hdone : isDone = true) :
    ∀ e ∈ log, e.2.isAccepted = true := by
  induction h with
  | own _ _ haccepted =>
    intro e he
    obtain ⟨c, hc, rfl⟩ := List.mem_map.mp he
    exact haccepted hdone c hc
  | @beside _ _ _ _ _ _ inner _ _ _ hstopped needed later =>
    have hinner : inner = true := by
      cases inner with
      | true => rfl
      | false => exact hdone.symm.trans (hstopped rfl).2 |>.symm
    refine List.forall_mem_cons.mpr ⟨rfl, fun e he => ?_⟩
    exact (List.mem_append.mp he).elim (needed hinner e) (later hdone e)

/-- Nothing follows a rejection. -/
theorem halted (h : Account library first log last isDone) :
    log.Pairwise fun e _ => e.2.isAccepted = true := by
  induction h with
  | own _ hhalted _ => exact List.pairwise_map.mpr hhalted
  | @beside _ _ _ _ _ rest inner _ hneeded _ hstopped needed later =>
    refine List.pairwise_cons.mpr ⟨fun _ _ => rfl, ?_⟩
    cases inner with
    | true =>
      exact List.pairwise_append.mpr ⟨needed, later, fun e he _ _ => hneeded.accepted rfl e he⟩
    | false =>
      obtain ⟨rfl, -⟩ := hstopped rfl
      rwa [List.append_nil]

/-- The calls about each library come in their phases. -/
theorem ordered (h : Account library first log last isDone) (hlt : library < first) (other : Nat) :
    ∃ begun calls, callsAbout log other = begun ++ calls ∧ (∀ c ∈ begun, c.isBegun = true) ∧
      IsPartial calls := by
  induction h with
  | @own library next calls _ hpartial _ _ =>
    by_cases heq : library = other
    · subst heq
      exact ⟨[], calls, callsAbout_map _ _, fun _ h => (List.not_mem_nil h).elim, hpartial⟩
    · refine ⟨[], [], callsAbout_eq_nil fun e he => ?_, fun _ h => (List.not_mem_nil h).elim,
        isPartial_nil⟩
      obtain ⟨c, -, rfl⟩ := List.mem_map.mp he
      exact heq
  | @beside library first middle last log rest _ _ hneeded hlater _ needed later =>
    have hle := hneeded.le
    rw [callsAbout_cons, callsAbout_append]
    by_cases heq : library = other
    · -- What was begun beside the library has no calls about the library itself.
      subst heq
      obtain ⟨begun, calls, hcalls, hbegun, hpartial⟩ := later (by omega)
      have hnone : callsAbout log library = [] := callsAbout_eq_nil fun e he => by
        have := hneeded.owner e he
        omega
      refine ⟨.begun first :: begun, calls, ?_, List.forall_mem_cons.mpr ⟨rfl, hbegun⟩, hpartial⟩
      rw [if_pos rfl, hnone, hcalls]
      rfl
    · rw [if_neg heq, List.nil_append]
      by_cases hinner : other < middle
      · have hnone : callsAbout rest other = [] := callsAbout_eq_nil fun e he => by
          have := hlater.owner e he
          omega
        rw [hnone, List.append_nil]
        exact needed (by omega)
      · have hnone : callsAbout log other = [] := callsAbout_eq_nil fun e he => by
          have := hneeded.owner e he
          omega
        rw [hnone, List.nil_append]
        exact later (by omega)

/-- A library that was begun beside another is through before anything is asked about that one. -/
theorem nested (h : Account library first log last isDone) (hlt : library < first) {other needed : Nat}
    (hmem : (other, Call.begun needed) ∈ log) :
    log.Pairwise fun e later => e.1 = other → e.2.isBegun = false → later.1 ≠ needed := by
  induction h with
  | own hpartial _ _ =>
    obtain ⟨c, hc, hbegun⟩ := List.mem_map.mp hmem
    obtain ⟨-, rfl⟩ := Prod.mk.inj hbegun
    obtain ⟨all, hcomplete, hbefore⟩ := hpartial
    exact Bool.noConfusion (hcomplete.isBegun _ (hbefore.subset hc))
  | @beside library first middle last log rest _ _ hneeded hlater _ ihneeded ihlater =>
    have hle := hneeded.le
    have hle' := hlater.le
    refine List.pairwise_cons.mpr ⟨fun _ _ _ hbegun => Bool.noConfusion hbegun, ?_⟩
    refine List.pairwise_append.mpr ?_
    rcases List.mem_cons.mp hmem with heq | hmem
    · -- Calls about the library come after those about the one begun first.
      obtain ⟨rfl, hbegun⟩ := Prod.mk.inj heq
      obtain rfl := Call.begun.inj hbegun
      have hlog : ∀ e ∈ log, e.1 ≠ other := fun e he => by
        have := hneeded.owner e he
        omega
      have hrest : ∀ e ∈ rest, e.1 ≠ needed := fun e he => by
        have := hlater.owner e he
        omega
      exact ⟨List.pairwise_of_forall_mem_list fun e he _ _ h => absurd h (hlog e he),
        List.pairwise_of_forall_mem_list fun _ _ e he _ _ => hrest e he,
        fun e he _ _ h => absurd h (hlog e he)⟩
    · rcases List.mem_append.mp hmem with hmem | hmem
      · have howner := hneeded.owner _ hmem
        have hrange := hneeded.begun hmem
        have hrest : ∀ e ∈ rest, e.1 ≠ needed ∧ e.1 ≠ other := fun e he => by
          have := hlater.owner e he
          omega
        exact ⟨ihneeded (by omega) hmem,
          List.pairwise_of_forall_mem_list fun _ _ e he _ _ => (hrest e he).1,
          fun _ _ e he _ _ => (hrest e he).1⟩
      · have howner := hlater.owner _ hmem
        have hlog : ∀ e ∈ log, e.1 ≠ other := fun e he => by
          have := hneeded.owner e he
          omega
        exact ⟨List.pairwise_of_forall_mem_list fun e he _ _ h => absurd h (hlog e he),
          ihlater (by omega) hmem, fun e he _ _ h => absurd h (hlog e he)⟩

/-- **An account of a run says that the run follows the protocol.** -/
theorem followsProtocol (h : Account library first log last isDone) (hlt : library < first) :
    FollowsProtocol log where
  ordered := h.ordered hlt
  committed other before outcome after hcalls := by
    have hhalted : (callsAbout log other).Pairwise fun c _ => c.isAccepted = true := by
      refine h.halted.filterMap _ fun e e' haccepted c hc c' hc' => ?_
      split at hc
      · exact Option.some.inj hc ▸ haccepted
      · exact Option.noConfusion rfl (heq_of_eq hc)
    rw [hcalls] at hhalted
    exact fun c hc => (List.pairwise_append.mp hhalted).2.2 c hc _ List.mem_cons_self
  nested _ _ := h.nested hlt
  halted := h.halted

end Account

end Automation.Library
