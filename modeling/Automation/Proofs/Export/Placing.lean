import Automation.Proofs.Export.Filling
import Mathlib.Data.List.Forall2

/-!
# Types in their places
-/

namespace Automation.Export

open Library Source

/-! ## Failures -/

/-- The error that two things have one identifier. -/
def ExportError.IsDuplicate : ExportError → Prop
  | duplicateLibrary _ _ | duplicateType _ _ _ => True
  | _ => False

/-- An export is stopped by something bad, or by an identifier that is used twice. -/
def Stopped (bad : Prop) (p : MemoryProgress) (e : ExportError) (q : MemoryProgress) : Prop :=
  bad ∨ e.IsDuplicate ∧ Quiet p q

variable {bad : Prop} {p : MemoryProgress}

/-! ## One type -/

/-- The draft with a further type. -/
def put (version : Version) (d : Draft) (place : Placeholder) : Draft :=
  { d with
    names := Text.nameKey place.name :: d.names
    types := d.types ++ [{ info := place.info version }] }

theorem ensures_createType (version : Version) (uses : GuidUses) (place : Placeholder)
    (hgood : ¬bad → Text.nameKey place.name ∉ p.draft.names) :
    Ensures (createType watchedMemory version uses place) p
      (fun a q => a = (⟨p.draft.types.length⟩, (place.guid, place.name) :: uses) ∧
        place.guid ∉ uses.map (·.1) ∧ q.draft = put version p.draft place ∧ Quiet p q)
      (Stopped bad p) := by
  unfold createType
  split
  · exact ensures_throw (.inr ⟨trivial, .refl p⟩)
  · next hunused =>
    by_cases htaken : Text.nameKey place.name ∈ p.draft.names
    · -- The name is taken: the first request is rejected.
      have hbad : bad := by
        by_contra hbad
        exact hgood hbad htaken
      refine Ensures.bind (?_ : Ensures _ p (fun _ _ => False) _) fun _ _ h => h.elim
      refine (ensures_request_quiet rfl p).imp ?_ fun _ _ _ => .inl hbad
      rintro a q ⟨ha, -⟩
      rw [Draft.answer_createType_error place.kind htaken] at ha
      exact Except.noConfusion rfl rfl (heq_of_eq (Prod.mk.inj ha).1)
    · refine Ensures.bind (ensures_request_ok rfl (Draft.answer_createType place.kind htaken)) ?_
      rintro _ q₁ ⟨rfl, hd₁, hq₁⟩
      have ho₁ : q₁.draft.IsOpen ⟨p.draft.types.length⟩
          { name := place.name, kind := place.kind } := by
        rw [hd₁]
        simp [Draft.IsOpen]
      refine Ensures.bind (ensures_request_ok rfl (Draft.answer_setGuid ho₁ place.guid)) ?_
      rintro _ q₂ ⟨-, hd₂, hq₂⟩
      have ho₂ := hd₂ ▸ ho₁.setInfo { name := place.name, kind := place.kind, guid := place.guid }
      refine Ensures.bind (ensures_request_ok rfl (Draft.answer_setVersion ho₂ version)) ?_
      rintro _ q₃ ⟨-, hd₃, hq₃⟩
      have ho₃ := hd₃ ▸ ho₂.setInfo
        { name := place.name, kind := place.kind, guid := place.guid, version := version }
      refine Ensures.bind (ensures_request_ok rfl (Draft.answer_setFlags ho₃ place.flags)) ?_
      rintro _ q₄ ⟨-, hd₄, hq₄⟩
      have ho₄ := hd₄ ▸ ho₃.setInfo
        { name := place.name, kind := place.kind, guid := place.guid, version := version
          flags := place.flags }
      have hquiet := ((hq₁.trans hq₂).trans hq₃).trans hq₄
      have hguid : place.guid ∉ uses.map (·.1) := by
        intro hmem
        obtain ⟨use, huse, hsame⟩ := List.mem_map.mp hmem
        have := List.lookup_eq_none_iff.mp hunused use huse
        simp [hsame] at this
      rw [hd₃, hd₂, Draft.setInfo_setInfo, Draft.setInfo_setInfo] at hd₄
      split
      · next doc hdoc =>
        refine Ensures.bind (ensures_request_ok rfl (Draft.answer_setDoc ho₄ doc)) ?_
        rintro _ q₅ ⟨-, hd₅, hq₅⟩
        refine ensures_pure ⟨rfl, hguid, ?_, hquiet.trans hq₅⟩
        rw [hd₅, hd₄, Draft.setInfo_setInfo, hd₁, Draft.setInfo_last rfl]
        simp [put, Placeholder.info, hdoc]
      · next hdoc =>
        refine ensures_pure ⟨rfl, hguid, ?_, hquiet⟩
        rw [hd₄, hd₁, Draft.setInfo_last rfl]
        simp [put, Placeholder.info, hdoc]

/-! ## All types -/

/-- The place that a named type asks for, for the interface made from its members. -/
def NamedType.interfacePlaces (n : NamedType) : List Placeholder :=
  match n.type.target.classInterface?, n.classInterface with
  | some binding, some name => [classPlaceholder n.type name binding]
  | _, _ => []

/-- The places that a named type asks for: that of the interface made from its members, and its
own. -/
def NamedType.places (n : NamedType) : List Placeholder :=
  n.interfacePlaces ++ [typePlaceholder n.type n.name]

/-- The places that a placed type has. -/
def Placed.slots (p : Placed) : List (Handle × Placeholder) :=
  (p.classInterface.toList.map fun c => (c.handle, classPlaceholder p.type c.name c.binding))
    ++ [(p.handle, typePlaceholder p.type p.name)]

/-- A placed type is the named one, in the places that it asked for. -/
structure PlacedAs (n : NamedType) (p : Placed) : Prop where
  type : p.type = n.type
  name : p.name = n.name
  constants : p.constants = n.constants
  places : p.slots.map (·.2) = n.places
  classed : p.IsClassed

/-- The named type is placed as it asks for once the interface made from its members is. -/
theorem NamedType.placedAs {n : NamedType} {classInterface : Option ClassInterface} (handle : Handle)
    (hplaces : (classInterface.toList.map fun c => classPlaceholder n.type c.name c.binding) =
      n.interfacePlaces)
    (hbinding : ∀ c ∈ classInterface, n.type.target.classInterface? = some c.binding) :
    PlacedAs n { type := n.type, name := n.name, handle := handle, classInterface := classInterface
                 constants := n.constants } where
  type := rfl
  name := rfl
  constants := rfl
  places := by
    rw [NamedType.places, ← hplaces, Placed.slots, List.map_append, List.map_map]
    rfl
  classed c hc := by
    have htarget := hbinding c hc
    cases ht : n.type.target with
    | coClass creatable binding =>
      rw [ht] at htarget
      exact ⟨creatable, congrArg _ htarget⟩
    | _ =>
      rw [ht] at htarget
      exact Option.noConfusion rfl (heq_of_eq htarget)

/-- The handles from a number on. -/
def handlesFrom (start count : Nat) : List Handle := (List.range' start count).map Handle.mk

theorem handlesFrom_add (start m n : Nat) :
    handlesFrom start (m + n) = handlesFrom start m ++ handlesFrom (start + m) n := by
  unfold handlesFrom
  rw [← List.map_append, List.range'_append_1]

/-- The names of some places can be claimed. -/
def Nameable (d : Draft) (places : List Placeholder) : Prop :=
  (places.map fun place => Text.nameKey place.name).Nodup ∧
    ∀ place ∈ places, Text.nameKey place.name ∉ d.names

theorem nodup_handlesFrom (start count : Nat) : (handlesFrom start count).Nodup := by
  refine List.Nodup.map (fun a b h => ?_) List.nodup_range'
  exact congrArg Handle.index h

theorem types_put (version : Version) (d : Draft) (places : List Placeholder) :
    (places.foldl (put version) d).types =
      d.types ++ places.map fun place => { info := place.info version } := by
  induction places generalizing d with
  | nil => simp
  | cons place later ih =>
    rw [List.foldl_cons, ih]
    simp [put]

theorem length_put (version : Version) (d : Draft) (places : List Placeholder) :
    (places.foldl (put version) d).types.length = d.types.length + places.length := by
  rw [types_put, List.length_append, List.length_map]

theorem imports_put (version : Version) (d : Draft) (places : List Placeholder) :
    (places.foldl (put version) d).imports = d.imports ∧
      (places.foldl (put version) d).attributes = d.attributes := by
  induction places generalizing d with
  | nil => exact ⟨rfl, rfl⟩
  | cons place later ih => exact ih (put version d place)

theorem names_put {version : Version} {d : Draft} {places : List Placeholder} {key : String} :
    key ∈ (places.foldl (put version) d).names ↔
      key ∈ d.names ∨ ∃ place ∈ places, key = Text.nameKey place.name := by
  induction places generalizing d with
  | nil => simp
  | cons place later ih =>
    rw [List.foldl_cons, ih]
    simp [put, or_assoc, or_left_comm]

theorem Nameable.right {version : Version} {d : Draft} {first second : List Placeholder}
    (h : Nameable d (first ++ second)) : Nameable (first.foldl (put version) d) second := by
  unfold Nameable at h ⊢
  rw [List.map_append, List.nodup_append] at h
  refine ⟨h.1.2.1, fun place hplace hmem => ?_⟩
  rcases names_put.mp hmem with hold | ⟨other, hother, hsame⟩
  · exact h.2 place (List.mem_append_right _ hplace) hold
  · exact h.1.2.2 _ (List.mem_map_of_mem hother) _ (List.mem_map_of_mem hplace) hsame.symm

theorem Nameable.left {d : Draft} {first second : List Placeholder}
    (h : Nameable d (first ++ second)) : Nameable d first := by
  unfold Nameable at h ⊢
  rw [List.map_append, List.nodup_append] at h
  exact ⟨h.1.1, fun place hplace => h.2 place (List.mem_append_left _ hplace)⟩

/-- Some places have been filled: their identifiers are new, and the draft has their types. -/
structure Filled (version : Version) (places : List Placeholder) (uses uses' : GuidUses)
    (p q : MemoryProgress) : Prop where
  guids : uses'.map (·.1) = (places.map (·.guid)).reverse ++ uses.map (·.1)
  nodup : (places.map (·.guid)).Nodup
  unused : ∀ place ∈ places, place.guid ∉ uses.map (·.1)
  draft : q.draft = places.foldl (put version) p.draft
  quiet : Quiet p q

theorem Filled.append {version : Version} {first second : List Placeholder}
    {uses uses' uses'' : GuidUses} {q r : MemoryProgress} (h : Filled version first uses uses' p q)
    (h' : Filled version second uses' uses'' q r) :
    Filled version (first ++ second) uses uses'' p r where
  guids := by rw [h'.guids, h.guids, List.map_append, List.reverse_append, List.append_assoc]
  nodup := by
    rw [List.map_append, List.nodup_append]
    refine ⟨h.nodup, h'.nodup, fun g hg g' hg' hsame => ?_⟩
    obtain ⟨place, hplace, rfl⟩ := List.mem_map.mp hg'
    refine h'.unused place hplace ?_
    rw [h.guids, ← hsame]
    exact List.mem_append_left _ (List.mem_reverse.mpr hg)
  unused place hplace hmem := by
    rcases List.mem_append.mp hplace with hplace | hplace
    · exact h.unused place hplace hmem
    · refine h'.unused place hplace ?_
      rw [h.guids]
      exact List.mem_append_right _ hmem
  draft := by rw [h'.draft, h.draft, List.foldl_append]
  quiet := h.quiet.trans h'.quiet

theorem filled_nil (version : Version) (uses : GuidUses) (p : MemoryProgress) :
    Filled version [] uses uses p p where
  guids := rfl
  nodup := .nil
  unused := fun _ h => nomatch h
  draft := rfl
  quiet := .refl p

/-- A part of an export that is stopped after it was quiet for a while. -/
theorem Stopped.of_quiet {q r : MemoryProgress} (hquiet : Quiet p q) {e : ExportError}
    (h : Stopped bad q e r) : Stopped bad p e r :=
  h.imp_right fun ⟨hduplicate, hquiet'⟩ => ⟨hduplicate, hquiet.trans hquiet'⟩

theorem ensures_createType_filled (version : Version) (uses : GuidUses) (place : Placeholder)
    (hgood : ¬bad → Nameable p.draft [place]) :
    Ensures (createType watchedMemory version uses place) p
      (fun a q => a.1 = ⟨p.draft.types.length⟩ ∧ Filled version [place] uses a.2 p q)
      (Stopped bad p) := by
  refine (ensures_createType version uses place
    fun hbad => (hgood hbad).2 place List.mem_cons_self).imp ?_ fun _ _ h => h
  rintro _ q ⟨rfl, hguid, hdraft, hquiet⟩
  refine ⟨rfl, rfl, List.nodup_singleton _, ?_, hdraft, hquiet⟩
  simpa using hguid

/-- The interface made from the members of a class in its place, if there is one. -/
theorem ensures_createClassInterface (version : Version) (uses : GuidUses) (n : NamedType)
    (hgood : ¬bad → Nameable p.draft n.interfacePlaces) :
    Ensures (createClassInterface watchedMemory version uses n) p
      (fun a q =>
        (a.1.toList.map fun c => (c.handle, classPlaceholder n.type c.name c.binding)) =
            (handlesFrom p.draft.types.length n.interfacePlaces.length).zip n.interfacePlaces ∧
          (∀ c ∈ a.1, n.type.target.classInterface? = some c.binding) ∧
          Filled version n.interfacePlaces uses a.2 p q)
      (Stopped bad p) := by
  unfold createClassInterface
  split
  · next binding name htarget hname =>
    have hplaces : n.interfacePlaces = [classPlaceholder n.type name binding] := by
      simp [NamedType.interfacePlaces, htarget, hname]
    rw [hplaces] at hgood ⊢
    refine (ensures_createType_filled version uses _ hgood).bind ?_
    rintro ⟨handle, uses'⟩ q ⟨rfl, hfilled⟩
    exact ensures_pure ⟨rfl, by simpa using htarget, hfilled⟩
  · next hneither =>
    have hnone : n.interfacePlaces = [] := by
      unfold NamedType.interfacePlaces
      split
      · next binding name htarget hname => exact (hneither binding name htarget hname).elim
      · rfl
    rw [hnone]
    exact ensures_pure ⟨rfl, by simp, filled_nil version uses p⟩

theorem ensures_createTypes (version : Version) (uses : GuidUses) (named : List NamedType)
    (hgood : ¬bad → Nameable p.draft (named.flatMap NamedType.places)) :
    Ensures (createTypes watchedMemory version uses named) p
      (fun placed q => List.Forall₂ PlacedAs named placed ∧
        (placed.flatMap Placed.slots).map (·.1) =
          handlesFrom p.draft.types.length (named.flatMap NamedType.places).length ∧
        ∃ uses', Filled version (named.flatMap NamedType.places) uses uses' p q)
      (Stopped bad p) := by
  induction named generalizing p uses with
  | nil => exact ensures_pure ⟨.nil, rfl, uses, filled_nil version uses p⟩
  | cons n later ih =>
    rw [List.flatMap_cons, NamedType.places, List.append_assoc] at hgood
    unfold createTypes
    refine (ensures_createClassInterface version uses n fun hbad => (hgood hbad).left).bind ?_
    rintro ⟨classInterface, uses₁⟩ q₁ ⟨hinterface, hbinding, hfilled₁⟩
    have hgood₁ : ¬bad → Nameable q₁.draft
        ([typePlaceholder n.type n.name] ++ later.flatMap NamedType.places) := fun hbad => by
      rw [hfilled₁.draft]
      exact (hgood hbad).right
    refine ((ensures_createType_filled version uses₁ _ fun hbad => (hgood₁ hbad).left).imp
      (fun _ _ h => h) fun e q h => h.of_quiet hfilled₁.quiet).bind ?_
    rintro ⟨handle, uses₂⟩ q₂ ⟨hhandle, hfilled₂⟩
    have hfilled := hfilled₁.append hfilled₂
    have hgood₂ : ¬bad → Nameable q₂.draft (later.flatMap NamedType.places) := fun hbad => by
      rw [hfilled₂.draft]
      exact (hgood₁ hbad).right
    refine ((ih uses₂ hgood₂).imp (fun _ _ h => h) fun e q h => h.of_quiet hfilled.quiet).bind ?_
    rintro placed q₃ ⟨hplaced, hhandles, uses₃, hfilled₃⟩
    have hlength : (handlesFrom p.draft.types.length n.interfacePlaces.length).length =
        n.interfacePlaces.length := by
      simp [handlesFrom]
    have hplaces : (classInterface.toList.map fun c => classPlaceholder n.type c.name c.binding) =
        n.interfacePlaces := by
      have hsnd := congrArg (List.map Prod.snd) hinterface
      rwa [List.map_map, List.map_snd_zip (by omega)] at hsnd
    refine ensures_pure ⟨.cons (n.placedAs handle hplaces hbinding) hplaced, ?_, uses₃, ?_⟩
    · obtain rfl : handle = ⟨q₁.draft.types.length⟩ := hhandle
      have hq₁ : q₁.draft.types.length = p.draft.types.length + n.interfacePlaces.length := by
        rw [hfilled₁.draft, length_put]
      have hq₂ : q₂.draft.types.length = q₁.draft.types.length + 1 := by
        rw [hfilled₂.draft, length_put]
        rfl
      simp only [List.flatMap_cons, Placed.slots, hinterface, List.map_append, List.map_cons,
        List.map_nil]
      rw [List.map_fst_zip (by omega), hhandles, hq₂, hq₁, NamedType.places, List.length_append,
        List.length_append, List.length_singleton, handlesFrom_add, handlesFrom_add,
        ← Nat.add_assoc]
      rfl
    · exact hfilled.append hfilled₃

end Automation.Export
