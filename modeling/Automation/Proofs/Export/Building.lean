import Automation.Proofs.Export.Importing
import Automation.Proofs.Export.LayingOut
import Automation.Proofs.Export.Phases
import Automation.Proofs.Export.Saying

/-!
# One library

`Prepared` says what is known of a library once its types have their places and its imports their
entries (`ensures_placeTypes`). From there on the passes and the layouts follow: `ensures_build`
says what is known of a library that is ready to be written out, and how its export can fail.
-/

namespace Automation.Export

open Library Source

/-! ## Steps without requests -/

/-- No step asks the builder for anything. -/
def Silent (steps : List Step) : Prop := ∀ context r, Step.request context r ∉ steps

/-- Steps without requests leave the draft as it is, or end the export. -/
theorem play_silent {steps : List Step} (h : Silent steps) (d : Draft) :
    play steps d = .ok d ∨ ∃ e, Step.abort e ∈ steps ∧ play steps d = .error e := by
  induction steps with
  | nil => exact .inl rfl
  | cons step later ih =>
    cases step with
    | remark r =>
      rcases ih fun context r hr => h context r (List.mem_cons_of_mem _ hr) with hplay | ⟨e, he, hplay⟩
      · exact .inl hplay
      · exact .inr ⟨e, List.mem_cons_of_mem _ he, hplay⟩
    | request context r => exact (h context r List.mem_cons_self).elim
    | abort e => exact .inr ⟨e, List.mem_cons_self, rfl⟩

/-- Steps without requests come to their end, unless something is bad, and leave the draft as it is. -/
theorem ensures_perform_silent {bad : Prop} {p : MemoryProgress} {steps : List Step}
    (h : Silent steps) (hgood : ¬bad → ∀ e, Step.abort e ∉ steps) :
    Ensures (perform watchedMemory steps) p (fun _ q => q.draft = p.draft ∧ Quiet p q)
      (Stopped bad p) := by
  refine (ensures_perform_play (fun context r hr => (h context r hr).elim) p).imp ?_ ?_
  · rintro _ q ⟨hplay, hquiet⟩
    rcases play_silent h p.draft with hok | ⟨e, -, herror⟩
    · rw [hok] at hplay
      exact ⟨(Except.ok.inj hplay).symm, hquiet⟩
    · rw [herror] at hplay
      exact Except.noConfusion rfl rfl (heq_of_eq hplay)
  · rintro e q ⟨hplay, -⟩
    refine .inl ?_
    by_contra hbad
    rcases play_silent h p.draft with hok | ⟨e', he', -⟩
    · rw [hok] at hplay
      exact Except.noConfusion rfl rfl (heq_of_eq hplay)
    · exact hgood hbad e' he'

/-- Names are not asked of the builder: a request could be of any phase. -/
theorem silent_nameTypes (resolver : Resolver) (classified : List Classified) :
    Silent (nameTypes resolver classified).2 := fun _ _ hr =>
  have hattributes := @allOf_nameTypes .attributes resolver classified _ hr
  Phase.noConfusion (hattributes.symm.trans (@allOf_nameTypes .layout resolver classified _ hr))

theorem type_mem_nameRegistered {resolver : Resolver} {registry : NameRegistry}
    {classified : List Classified} {n : NamedType}
    (h : n ∈ (nameRegistered resolver registry classified).1) : n.type ∈ classified := by
  induction classified generalizing registry with
  | nil => simp [nameRegistered] at h
  | cons c later ih =>
    unfold nameRegistered at h
    split at h
    · simp at h
    · rcases List.mem_cons.mp h with rfl | h
      · exact List.mem_cons_self
      · exact List.mem_cons_of_mem _ (ih h)

theorem isSome_reserveClassInterface (registry : NameRegistry) (c : Classified) (name : String) :
    (reserveClassInterface registry c name).1.isSome = c.target.classInterface?.isSome := by
  unfold reserveClassInterface
  split
  · next h => exact h.symm
  · next h => exact (Bool.eq_false_iff.mpr h).symm

/-- A class gets an interface exactly if it asks for one. -/
theorem isSome_classInterface {resolver : Resolver} {registry : NameRegistry}
    {classified : List Classified} {n : NamedType}
    (h : n ∈ (nameRegistered resolver registry classified).1) :
    n.classInterface.isSome = n.type.target.classInterface?.isSome := by
  induction classified generalizing registry with
  | nil => exact (List.not_mem_nil h).elim
  | cons c later ih =>
    unfold nameRegistered at h
    split at h
    · exact (List.not_mem_nil h).elim
    · rcases List.mem_cons.mp h with rfl | h
      · exact isSome_reserveClassInterface _ _ _
      · exact ih h

/-! ## Types in their places -/

/-- What is known of a library once its types have their places and its imports their entries. -/
structure Prepared (resolver : Resolver) (attributes : Attributes)
    (references : List ReferencedLibrary) (classified : List Classified) (needs : Needs)
    (placed : List Placed) (refs : ReferenceTable) (d : Draft) : Prop where
  named : List.Forall₂ PlacedAs (nameTypes resolver classified).1 placed
  standing : Standing attributes.version placed d
  apart : Apart placed
  guids : (placed.flatMap fun p => p.slots.map (·.2.guid)).Nodup
  attributes : d.attributes = some attributes
  names : ∀ key, key ∈ d.names ↔ ∃ place ∈ placed.flatMap fun p => p.slots.map (·.2),
    key = Text.nameKey place.name
  own : refs.own = (ownReferences placed none).own
  standard : refs.standard = if needs.standard then some ⟨0⟩ else none
  leading : needs.standard = true → d.imports[0]? = some Standard.library
  finds : refs.Finds references d.imports needs.external
  known : Known references d
  warranted : Warranted references needs.standard needs.external d.imports
  resolves : Trusted references → refs.Resolves d

theorem PlacedAs.forall_mem {named : List NamedType} {placed : List Placed}
    (h : List.Forall₂ PlacedAs named placed) : ∀ p ∈ placed, ∃ n ∈ named, PlacedAs n p := by
  induction h with
  | nil => simp
  | cons hplaced _ ih =>
    refine List.forall_mem_cons.mpr ⟨⟨_, List.mem_cons_self, hplaced⟩, fun p hp => ?_⟩
    obtain ⟨n, hn, h⟩ := ih p hp
    exact ⟨n, List.mem_cons_of_mem _ hn, h⟩

theorem PlacedAs.map_type {named : List NamedType} {placed : List Placed}
    (h : List.Forall₂ PlacedAs named placed) : placed.map (·.type) = named.map (·.type) := by
  induction h with
  | nil => rfl
  | cons hplaced _ ih => rw [List.map_cons, List.map_cons, ih, hplaced.type]

theorem PlacedAs.flatMap_places {named : List NamedType} {placed : List Placed}
    (h : List.Forall₂ PlacedAs named placed) :
    (placed.flatMap fun p => p.slots.map (·.2)) = named.flatMap NamedType.places := by
  induction h with
  | nil => rfl
  | cons hplaced _ ih => rw [List.flatMap_cons, List.flatMap_cons, hplaced.places, ih]

variable {bad : Prop} {p : MemoryProgress} {resolver : Resolver} {attributes : Attributes}
  {references : List ReferencedLibrary} {classified : List Classified} {needs : Needs}

/-- The draft that the types were put into has them open. -/
theorem isOpen_put (version : Version) {d : Draft} {places : List Placeholder}
    (hnone : d.types = []) {slots : List (Handle × Placeholder)} (hplaces : slots.map (·.2) = places)
    (hhandles : slots.map (·.1) = handlesFrom 0 places.length) :
    ∀ slot ∈ slots, (places.foldl (put version) d).IsOpen slot.1 (slot.2.info version) := by
  intro slot hslot
  obtain ⟨i, hi⟩ := List.mem_iff_getElem?.mp hslot
  have hplace : places[i]? = some slot.2 := by rw [← hplaces, List.getElem?_map, hi]; rfl
  have hhandle : slot.1 = ⟨i⟩ := by
    have hslot₁ : (slots.map (·.1))[i]? = some slot.1 := by rw [List.getElem?_map, hi]; rfl
    obtain ⟨hlt, -⟩ := List.getElem?_eq_some_iff.mp hplace
    rw [hhandles, handlesFrom, List.getElem?_map, List.getElem?_range' hlt] at hslot₁
    simpa using (Option.some.inj hslot₁).symm
  unfold Draft.IsOpen
  rw [types_put, hnone, List.nil_append, hhandle, List.getElem?_map, hplace]
  rfl

/-! ### Types alone -/

/-- The draft has a type in each place that the named types ask for, and nothing else but its
attributes. -/
structure Populated (attributes : Attributes) (named : List NamedType) (placed : List Placed)
    (d : Draft) : Prop where
  places : List.Forall₂ PlacedAs named placed
  handles : placed.flatMap Placed.handles = handlesFrom 0 (named.flatMap NamedType.places).length
  guids : ((named.flatMap NamedType.places).map (·.guid)).Nodup
  draft : d = (named.flatMap NamedType.places).foldl (put attributes.version)
    { attributes := some attributes }

theorem ensures_createTypes_populated {named : List NamedType}
    (hfresh : p.draft = { attributes := some attributes })
    (hnames : ¬bad →
      ((named.flatMap NamedType.places).map fun place => Text.nameKey place.name).Nodup) :
    Ensures (createTypes watchedMemory attributes.version [] named) p
      (fun placed q => Populated attributes named placed q.draft ∧ Quiet p q) (Stopped bad p) := by
  have hnameable (hbad : ¬bad) : Nameable p.draft (named.flatMap NamedType.places) := by
    refine ⟨hnames hbad, ?_⟩
    rw [hfresh]
    exact fun _ _ hmem => nomatch hmem
  refine (ensures_createTypes attributes.version [] named hnameable).imp ?_ fun _ _ h => h
  rintro placed q ⟨hplaced, hhandles, uses, hfilled⟩
  rw [hfresh, List.map_flatMap] at hhandles
  exact ⟨⟨hplaced, hhandles, hfilled.nodup, hfresh ▸ hfilled.draft⟩, hfilled.quiet⟩

namespace Populated

variable {named : List NamedType} {placed : List Placed} {d d' : Draft}

theorem length (h : Populated attributes named placed d) :
    d.types.length = (named.flatMap NamedType.places).length := by
  rw [h.draft, length_put, List.length_nil, Nat.zero_add]

theorem imports (h : Populated attributes named placed d) : d.imports = [] := by
  rw [h.draft, (imports_put _ _ _).1]

theorem attributes_eq (h : Populated attributes named placed d) : d.attributes = some attributes := by
  rw [h.draft, (imports_put _ _ _).2]

theorem apart (h : Populated attributes named placed d) : Apart placed := by
  rw [Apart, h.handles]
  exact nodup_handlesFrom _ _

theorem nodup_guids (h : Populated attributes named placed d) :
    (placed.flatMap fun p => p.slots.map (·.2.guid)).Nodup := by
  have hguids : (placed.flatMap fun p => p.slots.map (·.2.guid)) =
      (placed.flatMap fun p => p.slots.map (·.2)).map (·.guid) := by
    rw [List.map_flatMap]
    simp only [List.map_map, Function.comp_def]
  rw [hguids, PlacedAs.flatMap_places h.places]
  exact h.guids

theorem mem_names (h : Populated attributes named placed d) (key : String) :
    key ∈ d.names ↔
      ∃ place ∈ placed.flatMap fun p => p.slots.map (·.2), key = Text.nameKey place.name := by
  rw [h.draft, names_put, PlacedAs.flatMap_places h.places]
  simp

/-- All types are open, whatever has been imported since. -/
theorem standing (h : Populated attributes named placed d) (hgrows : Grows d d') :
    Standing attributes.version placed d' where
  handles := by rw [h.handles, hgrows.types, h.length]
  created := by
    intro p hp slot hslot
    have hopen := isOpen_put attributes.version (d := { attributes := some attributes }) rfl
      (by rw [List.map_flatMap, PlacedAs.flatMap_places h.places])
      (by rw [List.map_flatMap]; exact h.handles) slot (List.mem_flatMap.mpr ⟨p, hp, hslot⟩)
    unfold Draft.IsOpen at hopen ⊢
    rwa [hgrows.types, h.draft]
  classed := by
    intro p hp
    obtain ⟨n, -, hplaced⟩ := PlacedAs.forall_mem h.places p hp
    exact hplaced.classed

end Populated

/-! ### The standard library -/

section Standard

variable {named : List NamedType} {placed : List Placed} {d d' : Draft} {isNeeded : Bool}

theorem known_standard (h : d.imports = if isNeeded then [Standard.library] else []) :
    Known references d := by
  intro i hi
  rw [h] at hi
  split at hi
  · exact .inl (List.mem_singleton.mp hi)
  · exact nomatch hi

theorem warranted_standard (references : List ReferencedLibrary) (isNeeded : Bool) :
    Warranted references isNeeded [] (if isNeeded then [Standard.library] else []) := by
  cases isNeeded with
  | true => exact fun id hid => .inl ⟨Nat.lt_one_iff.mp hid, rfl⟩
  | false => exact fun id hid => absurd hid (Nat.not_lt_zero id)

/-- A table of own types has found nothing in other libraries. -/
theorem finds_ownReferences (standard : Option ImportId) (imports : List ImportedLibrary) :
    (ownReferences placed standard).Finds references imports [] where
  covered := fun type ref href => by
    rw [ownReferences_eq] at href
    exact Option.noConfusion rfl (heq_of_eq href)
  found := fun _ h => (List.not_mem_nil h).elim

theorem Populated.resolves (h : Populated attributes named placed d) (hgrows : Grows d d')
    (himports : d'.imports = if isNeeded then [Standard.library] else []) :
    (ownReferences placed (if isNeeded then some ⟨0⟩ else none)).Resolves d' := by
  rw [ownReferences_eq]
  refine ⟨fun id hid index hindex => ?_, fun e he => ?_, fun e he => nomatch he⟩
  · cases isNeeded with
    | false => exact nomatch hid
    | true =>
      obtain rfl : ⟨0⟩ = id := Option.some.inj hid
      exact Draft.resolves_imported.mpr ⟨Standard.library, by rw [himports]; rfl, hindex⟩
  · obtain ⟨p, hp, rfl⟩ := List.mem_map.mp (List.mem_reverse.mp he)
    refine ⟨Draft.resolves_own.mpr ?_, fun _ href => nomatch href⟩
    have hmem : p.handle ∈ placed.flatMap Placed.handles :=
      List.mem_flatMap.mpr ⟨p, hp, p.handle_mem⟩
    rw [h.handles] at hmem
    obtain ⟨i, hi, hindex⟩ := List.mem_map.mp hmem
    have hlt := (List.mem_range'_1.mp hi).2
    rw [Nat.zero_add] at hlt
    rw [hgrows.types, h.length, Placed.entry, ← hindex]
    exact hlt

end Standard

/-! ### Types and imports -/

/-- **Types in their places**: every type is open, in a place of its own and with an identifier of
its own, and references find their targets. -/
theorem ensures_placeTypes (hfresh : p.draft = {})
    (hnames : ¬bad → (∀ e, Step.abort e ∉ (nameTypes resolver classified).2) ∧
      ((((nameTypes resolver classified).1.flatMap NamedType.places).map
        fun place => Text.nameKey place.name).Nodup)) :
    Ensures (placeTypes watchedMemory resolver attributes references classified needs) p
      (fun a q => Prepared resolver attributes references classified needs a.1 a.2 q.draft ∧
        Quiet p q)
      (Stopped bad p) := by
  unfold placeTypes
  refine Ensures.bind (ensures_perform_silent (silent_nameTypes resolver classified)
    fun hbad => (hnames hbad).1) ?_
  rintro _ q₁ ⟨hdraft₁, hquiet₁⟩
  have hattributes : q₁.draft.answer (.setAttributes attributes) =
      (.ok (), { attributes := some attributes }) := by
    rw [hdraft₁, hfresh]
    rfl
  refine Ensures.bind (ensures_request_ok rfl hattributes) ?_
  rintro _ q₂ ⟨-, hdraft₂, hquiet₂⟩
  have hquiet := hquiet₁.trans hquiet₂
  refine Ensures.bind ((ensures_createTypes_populated hdraft₂ fun hbad => (hnames hbad).2).imp
    (fun _ _ h => h) fun e q h => h.of_quiet hquiet) ?_
  rintro placed q₃ ⟨hpopulated, hquiet₃⟩
  refine Ensures.bind ((ensures_importStandard needs.standard hpopulated.imports).imp
    (fun _ _ h => h) fun _ _ h => h.elim) ?_
  rintro standard q₄ ⟨rfl, himports, hgrows₄, hquiet₄⟩
  have hknown : Known references q₄.draft := known_standard himports
  refine Ensures.bind (((ensures_importTypes [] (ownReferences placed _) needs.external).and
    (ensures_importTypes_finds [] (ownReferences placed _) needs.external []
      (fun _ h => (List.not_mem_nil h).elim) (finds_ownReferences _ _) hknown
      (himports ▸ warranted_standard references needs.standard))).imp
        (fun _ _ h => h) fun _ _ h => h.1.elim) ?_
  rintro refs q₅ ⟨⟨hown, hstandard, hgrows₅, hquiet₅, hresolves⟩, hfinds, hknown₅, hwarranted₅⟩
  have hgrows := hgrows₄.trans hgrows₅
  refine ensures_pure ⟨?_, ((hquiet.trans hquiet₃).trans hquiet₄).trans hquiet₅⟩
  exact {
    named := hpopulated.places
    standing := hpopulated.standing hgrows
    apart := hpopulated.apart
    guids := hpopulated.nodup_guids
    attributes := hgrows.attributes.trans hpopulated.attributes_eq
    names := fun key => by rw [hgrows.names, hpopulated.mem_names]
    own := by rw [hown, ownReferences_eq, ownReferences_eq]
    standard := by rw [hstandard, ownReferences_eq]
    leading := fun hneeded => hgrows₅.getElem? (by rw [himports, if_pos hneeded]; rfl)
    finds := by rwa [List.append_nil] at hfinds
    known := hknown₅
    warranted := by rwa [List.append_nil] at hwarranted₅
    resolves := fun htrusted => hresolves htrusted hknown (fun e he => nomatch he)
      (hpopulated.resolves hgrows₄ himports) }

/-! ## The contents of a library -/

/-- Every function of a written library has an id. -/
theorem Content.memid_ne_none {version : Version} {s : Setting} {placed : List Placed} {k : Handle}
    {info : TypeInfo} (h : Content version s placed k info) :
    ∀ f ∈ info.functions, f.desc.memid ≠ MemberId.none := by
  intro f hf
  cases h with
  | interface hfill =>
    obtain ⟨-, binding, base, -, hmade⟩ := mem_filling hfill
    obtain ⟨g, hg, rfl⟩ := List.mem_map.mp hf
    rw [hmade] at hg
    exact (memid_fresh hg).2
  | classInterface hp hc =>
    obtain ⟨g, hg, rfl⟩ := List.mem_map.mp hf
    exact (memid_fresh hg).2
  | coClass hp hkind => exact nomatch hf
  | record hp htarget => exact nomatch hf
  | enumeration hp htarget => exact nomatch hf

theorem map_handle_exported (refs : ReferenceTable) (placed : List Placed) :
    (placed.flatMap (·.exported refs)).map (·.handle) = placed.flatMap Placed.handles := by
  rw [List.map_flatMap]
  congr 1
  funext p
  simp [Placed.exported, Placed.handles, Placed.slots, Function.comp_def]

theorem contents_eq (s : Setting) (placed : List Placed) : (contents s placed).2 =
    passes s placed
      ++ (placed.flatMap (·.exported (withDefaults s.scope placed))).map layoutStep := rfl

/-- No step is about the layout of a type. -/
def Layless (steps : List Step) : Prop :=
  ∀ context (r : Request .done), Step.request context r ∈ steps → r.isLayOut = false

theorem AllOf.layless {phase : Phase} {codes : List Diagnostic.Code} {steps : List Step}
    (h : AllOf phase codes steps) (hphase : phase ≠ .layout) : Layless steps := fun context r hr => by
  have hr : r.phase = phase := h _ hr
  cases r with
  | layOut type => exact absurd hr.symm hphase
  | _ => rfl

/-- The passes come before the layouts. -/
theorem layless_passes (s : Setting) (placed : List Placed) : Layless (passes s placed) := by
  have hinheritance : AllOf .inheritance inheritanceCodes
      (placed.flatMap (inheritanceSteps s.scope)) := allOf_flatMap fun p _ => allOf_inheritance _ p
  rw [passes_eq]
  exact fun context r hr => (List.mem_append.mp hr).elim
    (hinheritance.layless Phase.noConfusion context r)
    ((allOf_memberPasses s placed).layless Phase.noConfusion context r)

/-- The handles of the placed types, in library order. -/
def handlesOf (placed : List Placed) : List Handle := placed.flatMap Placed.handles

/-- **The contents of a library**: they are written in full unless something is bad, and laid out
unless something is wrong with one of the types. -/
theorem ensures_contents {version : Version} {s : Setting} {placed : List Placed}
    (hstanding : Standing version placed p.draft) (hapart : Apart placed)
    (hgood : ¬bad → Fillable s placed p.draft) :
    Ensures (perform watchedMemory (contents s placed).2) p
      (fun _ q => ∃ d drafts, Written version s placed p.draft d ∧ Faultless d (handlesOf placed) ∧
        Finished d q.draft (handlesOf placed) ∧ d.SameTypes q.draft ∧ Logs p q drafts ∧
        drafts.length = (handlesOf placed).length ∧ ∀ d' ∈ drafts, d.SameTypes d')
      fun e q => bad ∨ (∃ context error, e = .build context error) ∧
        ∃ d drafts, Written version s placed p.draft d ∧ ¬Faultless d (handlesOf placed) ∧
          Logs p q drafts ∧ drafts ≠ [] ∧ ∀ d' ∈ drafts, d.SameTypes d' := by
  rw [contents_eq, perform_append]
  have hpasses := reaches_passes hstanding hapart hgood
  refine Ensures.bind ((ensures_perform_play (layless_passes s placed) p).imp (fun _ _ h => h) ?_) ?_
  · rintro e q ⟨hplay, -⟩
    exact .inl (hpasses.of_error hplay)
  · rintro _ q ⟨hplay, hquiet⟩
    have hwritten := hpasses.done_of_ok hplay
    have hhandles := map_handle_exported (withDefaults s.scope placed) placed
    have hnumbered : Numbered q.draft (handlesOf placed) := fun k hk => by
      obtain ⟨info, hinfo⟩ := exists_content version s hk
      exact ⟨info, hwritten.types hinfo, hinfo.memid_ne_none⟩
    have hlayouts := @ensures_layouts q (placed.flatMap (·.exported (withDefaults s.scope placed)))
      (by rw [hhandles]; exact hnumbered) (by rw [hhandles]; exact hapart)
    rw [hhandles] at hlayouts
    refine hlayouts.imp ?_ ?_
    · rintro _ r ⟨hnone, hfinished, hsame, drafts, hlogs, hlength, hdrafts⟩
      refine ⟨q.draft, drafts, hwritten, hnone, hfinished, hsame, hquiet.logs.trans hlogs, ?_,
        hdrafts⟩
      rw [hlength, handlesOf, ← hhandles, List.length_map]
    · rintro e r ⟨hbuild, hfault, drafts, hlogs, hsome, hdrafts⟩
      exact .inr ⟨hbuild, q.draft, drafts, hwritten, hfault, hquiet.logs.trans hlogs, hsome,
        hdrafts⟩

/-! ## The whole -/

/-- What the contents of a unit's library are made with, before classes have their defaults. -/
def settingOf (unit : Reflection) (resolver : Resolver) (settings : Settings)
    (refs : ReferenceTable) : Setting where
  scope := { type? := unit.type?, refs := refs, width := settings.pointerWidth }
  resolver := resolver
  settings := settings

/-- A library of a unit, written in full: `d₀` is the draft in which its types have their places,
and `d` the one in which they are what they should be. -/
structure Built (unit : Reflection) (resolver : Resolver) (settings : Settings)
    (references : List ReferencedLibrary) (classified : List Classified) (placed : List Placed)
    (refs : ReferenceTable) (d₀ d : Draft) : Prop where
  classify : classify unit unit.ids = .ok classified
  prepared : Prepared resolver (settings.attributes unit.identity) references classified
    (Needs.scan classified) placed refs d₀
  written : Written (settings.attributes unit.identity).version
    (settingOf unit resolver settings refs) placed d₀ d

/-- The library of a unit came to be: nothing is wrong with its types, and what happened between
the progresses is known. -/
structure Succeeded (unit : Reflection) (resolver : Resolver) (settings : Settings)
    (exported : List ExportedType) (q r : MemoryProgress) : Prop where
  identity : identityError? (settings.attributes unit.identity).guid q.session.references = none
  noted : ∃ notes, AreNotes notes ∧
    q.queue = (Diagnostic.Queue.empty settings.diagnostics).addAll notes
  built : ∃ classified placed refs d₀ d drafts,
    Built unit resolver settings q.session.references classified placed refs d₀ d ∧
      Faultless d (handlesOf placed) ∧ Finished d r.draft (handlesOf placed) ∧
      d.SameTypes r.draft ∧
      exported = placed.flatMap (·.exported
        (withDefaults (settingOf unit resolver settings refs).scope placed)) ∧
      Logs q r drafts ∧ drafts.length = (handlesOf placed).length ∧
      (∀ d' ∈ drafts, d.SameTypes d') ∧
      r.queue = (q.queue.addAll (said (nameTypes resolver classified).2)).addAll
        (said (contents (settingOf unit resolver settings refs) placed).2)

/-- The layout of the library of a unit failed: something is wrong with one of its types. -/
structure Misshaped (unit : Reflection) (resolver : Resolver) (settings : Settings)
    (q r : MemoryProgress) : Prop where
  built : ∃ classified placed refs d₀ d drafts,
    Built unit resolver settings q.session.references classified placed refs d₀ d ∧
      ¬Faultless d (handlesOf placed) ∧ Logs q r drafts ∧ drafts ≠ [] ∧
      ∀ d' ∈ drafts, d.SameTypes d'

theorem ensures_checkIdentity (guid : Guid) :
    Ensures (checkIdentity guid references) p
      (fun _ q => q = p ∧ identityError? guid references = none)
      (fun e q => q = p ∧ e.IsDuplicate) := by
  unfold checkIdentity
  cases h : identityError? guid references with
  | none => exact ensures_pure ⟨rfl, rfl⟩
  | some error =>
    refine ensures_throw ⟨rfl, ?_⟩
    unfold identityError? at h
    split at h
    · obtain rfl := Option.some.inj h
      trivial
    · obtain ⟨l, -, rfl⟩ := Option.map_eq_some_iff.mp h
      trivial

section Referring

variable {World Draft Committed : Type} (b : Builder World Draft Committed)

/-- What the export of a unit does once the units that it needs have libraries. -/
def buildReferring (resolver : Resolver) (settings : Settings) (unit : Reflection)
    (classified : List Classified) : ExportM World Draft Committed (List ExportedType) := do
  let references := (← get).session.references
  checkIdentity (settings.attributes unit.identity).guid references
  let (placed, refs) ← placeTypes b resolver (settings.attributes unit.identity) references
    classified (Needs.scan classified)
  perform b (contents (settingOf unit resolver settings refs) placed).2
  return (contents (settingOf unit resolver settings refs) placed).1

theorem build_eq (resolver : Resolver) (settings : Settings) (unit : Reflection)
    (available : List Reflection)
    (exportUnit : (unit : Reflection) → unit ∈ available → Session World Committed → Draft →
      UnitOutcome World Committed) :
    build b resolver settings unit available exportUnit = (do
      let classified ← MonadExcept.ofExcept (classify unit unit.ids)
      exportUncovered b settings (Needs.scan classified) available exportUnit
      buildReferring b resolver settings unit classified) := rfl

end Referring

variable (bad resolver) in
/-- **The export of one unit once the units that it needs have libraries.** Unless something is bad, it
can only be stopped by an identifier that is used twice or by the layout of a type. -/
theorem ensures_referring (unit : Reflection) {settings : Settings} {classified : List Classified}
    (hc : classify unit unit.ids = .ok classified) (hfresh : p.draft = {})
    (hnoted : ∃ notes, AreNotes notes ∧
      p.queue = (Diagnostic.Queue.empty settings.diagnostics).addAll notes)
    (hnames : ¬bad → (∀ e, Step.abort e ∉ (nameTypes resolver classified).2) ∧
      (((nameTypes resolver classified).1.flatMap NamedType.places).map
        fun place => Text.nameKey place.name).Nodup)
    (hfill : ¬bad → ∀ placed refs d₀, Prepared resolver (settings.attributes unit.identity)
      p.session.references classified (Needs.scan classified) placed refs d₀ →
      Fillable (settingOf unit resolver settings refs) placed d₀) :
    Ensures (buildReferring watchedMemory resolver settings unit classified) p
      (fun exported r => Succeeded unit resolver settings exported p r)
      (fun e r => bad ∨ e.IsDuplicate ∧ Quiet p r ∨
        (∃ context error, e = .build context error) ∧ Misshaped unit resolver settings p r) := by
  unfold buildReferring
  refine Ensures.bind (ensures_get (⟨rfl, rfl⟩ : p = p ∧ p = p) :
    Ensures _ p (fun a q => a = p ∧ q = p) _) ?_
  rintro _ _ ⟨rfl, rfl⟩
  refine Ensures.bind ((ensures_checkIdentity _).imp (fun _ _ h => h) ?_) ?_
  · rintro e _ ⟨rfl, hduplicate⟩
    exact .inr (.inl ⟨hduplicate, .refl _⟩)
  rintro _ _ ⟨rfl, hidentity⟩
  refine Ensures.bind (((ensures_placeTypes hfresh hnames).and
    (ensures_placeTypes_said watchedMemory _ _ _ _ _)).imp (fun _ _ h => h) ?_) ?_
  · rintro e r ⟨hbad | hduplicate, -⟩
    · exact .inl hbad
    · exact .inr (.inl hduplicate)
  rintro ⟨placed, refs⟩ q₁ ⟨⟨hprepared, hquiet⟩, hnaming⟩
  refine Ensures.bind (((ensures_contents (s := settingOf unit resolver settings refs)
    hprepared.standing hprepared.apart fun hbad => hfill hbad placed refs _ hprepared).and
      (ensures_perform_said watchedMemory _)).imp (fun _ _ h => h) ?_) ?_
  · rintro e r ⟨hbad | ⟨hbuild, d, drafts, hwritten, hfault, hlogs, hsome, hdrafts⟩, -⟩
    · exact .inl hbad
    · exact .inr (.inr ⟨hbuild, classified, placed, refs, _, d, drafts, ⟨hc, hprepared, hwritten⟩,
        hfault, hquiet.logs.trans hlogs, hsome, hdrafts⟩)
  · rintro _ r ⟨⟨d, drafts, hwritten, hnone, hfinished, hsame, hlogs, hlength, hdrafts⟩, hsaid⟩
    rw [hnaming] at hsaid
    exact ensures_pure ⟨hidentity, hnoted, classified, placed, refs, _, d, drafts,
      ⟨hc, hprepared, hwritten⟩, hnone, hfinished, hsame, rfl, hquiet.logs.trans hlogs, hlength,
      hdrafts, hsaid⟩

variable (bad resolver) in
/-- **The export of one unit**, once it is known what the exports that it needs do: `between` holds
after these. Unless something is bad, it can only be stopped by an identifier that is used twice or
by the layout of a type. -/
theorem ensures_build (unit : Reflection) {settings : Settings} {available : List Reflection}
    {exportUnit : (unit : Reflection) → unit ∈ available → Session (Watch Unit Draft Library) Library →
      Draft → UnitOutcome (Watch Unit Draft Library) Library}
    {between : MemoryProgress → Prop} {failed : ExportError → MemoryProgress → Prop}
    (hqueue : p.queue = Diagnostic.Queue.empty settings.diagnostics)
    (hneeded : ∀ needs, Ensures
      (exportUncovered watchedMemory settings needs available exportUnit) p
      (fun _ q => q.draft = {} ∧ between q) failed)
    (hclassify : ¬bad → ∀ e, classify unit unit.ids ≠ .error e)
    (hnames : ¬bad → ∀ classified, classify unit unit.ids = .ok classified →
      (∀ e, Step.abort e ∉ (nameTypes resolver classified).2) ∧
        (((nameTypes resolver classified).1.flatMap NamedType.places).map
          fun place => Text.nameKey place.name).Nodup)
    (hfill : ¬bad → ∀ classified, classify unit unit.ids = .ok classified → ∀ q, between q →
      ∀ placed refs d₀, Prepared resolver (settings.attributes unit.identity) q.session.references
        classified (Needs.scan classified) placed refs d₀ →
      Fillable (settingOf unit resolver settings refs) placed d₀) :
    Ensures (build watchedMemory resolver settings unit available exportUnit) p
      (fun exported r => ∃ q, between q ∧ Succeeded unit resolver settings exported q r)
      (fun e r => failed e r ∨ bad ∨ ∃ q, between q ∧
        (e.IsDuplicate ∧ Quiet q r ∨
          (∃ context error, e = .build context error) ∧ Misshaped unit resolver settings q r)) := by
  rw [build_eq]
  refine Ensures.bind (?_ : Ensures _ p
    (fun classified q => classify unit unit.ids = .ok classified ∧ q = p) _) ?_
  · refine ensures_ofExcept (fun classified hc => ⟨hc, rfl⟩) fun e he => .inr (.inl ?_)
    by_contra hbad
    exact hclassify hbad e he
  rintro classified _ ⟨hc, rfl⟩
  refine Ensures.bind (((hneeded (Needs.scan classified)).and
    (ensures_exportUncovered_said watchedMemory)).imp (fun _ _ h => h) fun _ _ h => .inl h.1) ?_
  rintro _ q ⟨⟨hfresh, hbetween⟩, hnoted⟩
  rw [hqueue] at hnoted
  refine (ensures_referring bad resolver unit hc hfresh hnoted
    (fun hbad => hnames hbad classified hc)
    fun hbad => hfill hbad classified hc _ hbetween).imp (fun exported r h => ⟨q, hbetween, h⟩) ?_
  rintro e r (hbad | hreason)
  · exact .inr (.inl hbad)
  · exact .inr (.inr ⟨q, hbetween, hreason⟩)

end Automation.Export
