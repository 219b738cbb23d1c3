import Automation.Proofs.Library.BaseChain
import Automation.Proofs.Library.Requests

/-!
# The layout rules of a committed library

An interface is checked against its bases when it is laid out, and against the size of a slot at that
time (`Draft.fits_of_layOut`). It stays as it is from then on, and so do those of its bases that are
laid out already, but nothing else does: open bases may still get functions, and a library may get
other attributes. `Draft.fits_of_commit` says which rules hold in the library that is committed, and
`Draft.belated_misfits` which do not.
-/

namespace Automation

namespace Library

/-- The functions of an interface go with those it inherits: their ids are others, and their offsets
are whole slots behind the reserved slots and those of the inherited functions. -/
structure TypeInfo.Fits (t : TypeInfo) (inherited : List MemberId) (slot : Nat) : Prop where
  ids : ∀ f ∈ t.functions, f.desc.memid ∉ inherited
  slots : ∀ f ∈ t.functions, slot ∣ f.desc.offset
  least : ∀ f ∈ t.functions,
    (reservedSlots t.kind t.flags + inherited.length) * slot ≤ f.desc.offset

/-- The ids of the functions along the base chain of a type, one for each function. -/
def inheritedIds (l : Library) (place : Nat) : List MemberId :=
  (baseChain l.types place).flatMap (idsAt l.types)

theorem base?_mem_refs {t : TypeInfo} {ref : TypeRef} (h : t.base? = some ref) : ref ∈ t.refs := by
  unfold TypeInfo.base? at h
  split at h
  · obtain ⟨base, hbase, rfl⟩ := Option.map_eq_some_iff.mp h
    refine List.mem_append_left _ (List.mem_append_left _ ?_)
    exact List.mem_map_of_mem (List.mem_of_head? hbase)
  · exact Option.noConfusion rfl (heq_of_eq h)

/-- A base within the library is one of the references of a type. -/
theorem exists_of_ownBase? {types : List TypeInfo} {place b : Nat}
    (h : ownBase? types place = some b) :
    ∃ t, types[place]? = some t ∧ .own ⟨b⟩ ∈ t.refs := by
  unfold ownBase? at h
  split at h
  · next base hbase =>
    obtain ⟨t, ht, hbase⟩ := Option.bind_eq_some_iff.mp hbase
    obtain rfl := Option.some.inj h
    exact ⟨t, ht, base?_mem_refs hbase⟩
  · exact Option.noConfusion rfl (heq_of_eq h)

namespace Draft

variable {d d' : Draft} {i : Nat} {t : TypeInfo} {u : DraftType}

theorem fits_of_interfaceFault? {inherited : List MemberId} {slot : Nat}
    (h : Layout.interfaceFault? t inherited slot = none) : t.Fits inherited slot := by
  obtain ⟨hids, hoffsets⟩ := Layout.interfaceFault?_eq_none.mp h
  have hids := (Layout.repeatedId?_eq_none.mp hids).1
  exact ⟨fun f hf => hids f.desc (List.mem_map_of_mem hf),
    fun f hf => Layout.dvd_of_offsetFault? hoffsets f.desc (List.mem_map_of_mem hf),
    fun f hf => Layout.least_le_of_offsetFault? hoffsets f.desc (List.mem_map_of_mem hf)⟩

/-- An interface that is laid out fits its bases as they are, and the slots as they are. -/
theorem fits_of_layOut (hok : (d.layOut ⟨i⟩).1 = .ok ())
    (hu : (d.layOut ⟨i⟩).2.types[i]? = some u) (hkind : u.info.kind.isInterface) :
    ∃ t, d.IsOpen ⟨i⟩ t ∧ (∀ ref ∈ t.refs, d.resolves ref) ∧
      u.info = t.numbered (d.inheritedIds ⟨i⟩) ∧ u.info.Fits (d.inheritedIds ⟨i⟩) d.slot := by
  have hcases := layOutOutcome d ⟨i⟩
  generalize d.layOut ⟨i⟩ = result at hcases hok hu
  cases hcases with
  | refused | faulty => exact Except.noConfusion rfl rfl (heq_of_eq hok)
  | @interface t isOpen refs isInterface faultless =>
    rw [(isOpen.setInfo _).getElem?_finish] at hu
    obtain rfl := Option.some.inj hu
    exact ⟨t, isOpen, refs, rfl, fits_of_interfaceFault? faultless⟩
  | other isOpen refs isOther =>
    rw [isOpen.getElem?_finish] at hu
    obtain rfl := Option.some.inj hu
    exact (isOther hkind).elim

/-- The bases of a type are laid out, as far as they lie in the library. -/
def BasesLaidOut (d : Draft) (place : Nat) : Prop :=
  ∀ b ∈ baseChain d.infos place, ∃ u, d.types[b]? = some u ∧ u.laidOut

theorem getElem?_infos (d : Draft) (place : Nat) :
    d.infos[place]? = d.types[place]?.map (·.info) :=
  List.getElem?_map

/-- A type whose bases are all laid out keeps the functions that it inherits. -/
theorem inheritedIds_after (hd : d.Sound) (hbases : d.BasesLaidOut i) (ho : d.IsOpen ⟨i⟩ t)
    (hrefs : ∀ ref ∈ t.refs, d.resolves ref)
    (hlater : ∀ {b : Nat} {u : DraftType}, d.types[b]? = some u → u.laidOut → d'.types[b]? = some u)
    (hi : ∃ u, d'.types[i]? = some u ∧ u.info.base? = t.base?) :
    d'.inheritedIds ⟨i⟩ = d.inheritedIds ⟨i⟩ := by
  have hsame : ∀ b ∈ baseChain d.infos i, d'.infos[b]? = d.infos[b]? := fun b hb => by
    obtain ⟨u, hu, hl⟩ := hbases b hb
    rw [getElem?_infos, getElem?_infos, hlater hu hl, hu]
  have hplace : ownBase? d'.infos i = ownBase? d.infos i := by
    obtain ⟨u, hu, hbase⟩ := hi
    unfold ownBase?
    rw [getElem?_infos, getElem?_infos, hu, ho]
    simp only [Option.map_some, Option.bind_some, hbase]
  have htargets : ∀ x ∈ i :: baseChain d.infos i, ∀ b, ownBase? d.infos x = some b →
      b < d.infos.length := by
    intro x hx b hb
    obtain ⟨tx, htx, href⟩ := exists_of_ownBase? hb
    rw [getElem?_infos] at htx
    obtain ⟨ux, hux, rfl⟩ := Option.map_eq_some_iff.mp htx
    have hresolves : d.resolves (.own ⟨b⟩) = true := by
      rcases List.mem_cons.mp hx with rfl | hx
      · obtain rfl := Option.some.inj (ho.symm.trans hux)
        exact hrefs _ href
      · obtain ⟨u, hu, hl⟩ := hbases x hx
        obtain rfl := Option.some.inj (hux.symm.trans hu)
        exact hd.refs ux (List.mem_of_getElem? hux) hl _ href
    rw [length_infos]
    exact resolves_own.mp hresolves
  rw [inheritedIds_eq, inheritedIds_eq, baseChain_congr hplace hsame htargets]
  exact List.flatMap_congr fun b hb => by unfold idsAt; rw [hsame b hb]

/-- What a request lays out is what is committed. -/
theorem exists_of_accepted {before later : List (Sigma Request)} {l : Library}
    (hl : (after {} (before ++ ⟨.done, .layOut ⟨i⟩⟩ :: later)).commit = .ok l)
    (hok : ((after {} before).layOut ⟨i⟩).1 = .ok ()) (hi : l.types[i]? = some t) :
    ∃ u, ((after {} before).layOut ⟨i⟩).2.types[i]? = some u ∧ u.info = t ∧
      (after {} (before ++ ⟨.done, .layOut ⟨i⟩⟩ :: later)).types[i]? = some u := by
  obtain ⟨-, htypes, -⟩ := exists_of_commit hl
  obtain ⟨u, hu, hlaidOut⟩ := exists_laidOut hok
  have hlast : (after {} (before ++ ⟨.done, .layOut ⟨i⟩⟩ :: later)).types[i]? = some u := by
    rw [after_append]
    exact getElem?_after hu hlaidOut later
  rw [htypes, getElem?_infos, hlast] at hi
  exact ⟨u, hu, Option.some.inj hi, hlast⟩

/-- **The layout rules of a committed library.** Every interface has been laid out, and it fits the
bases and the slots that there were when it was laid out. If its bases were laid out before, it
inherits the same functions in the library, so that its ids differ from theirs; and if a slot had the
size that it has in the library, its offsets lie behind theirs. -/
theorem fits_of_commit {requests : List (Sigma Request)} {l : Library}
    (hl : (after {} requests).commit = .ok l) {i : Nat} {t : TypeInfo} (hi : l.types[i]? = some t)
    (hkind : t.kind.isInterface) :
    (∃ before later, requests = before ++ ⟨.done, .layOut ⟨i⟩⟩ :: later ∧
        ((after {} before).layOut ⟨i⟩).1 = .ok ()) ∧
      ∀ before later, requests = before ++ ⟨.done, .layOut ⟨i⟩⟩ :: later →
        ((after {} before).layOut ⟨i⟩).1 = .ok () →
          t.Fits ((after {} before).inheritedIds ⟨i⟩) (after {} before).slot ∧
            ((after {} before).BasesLaidOut i →
              (after {} before).inheritedIds ⟨i⟩ = l.inheritedIds i ∧
                (∀ f ∈ t.functions, f.desc.memid ∉ l.inheritedIds i) ∧
                ((after {} before).slot = l.attributes.pointerWidth.bytes →
                  t.Fits (l.inheritedIds i) l.attributes.pointerWidth.bytes)) := by
  obtain ⟨hlaidOut, htypes, -⟩ := exists_of_commit hl
  refine ⟨?_, ?_⟩
  · rw [htypes, getElem?_infos] at hi
    obtain ⟨u, hu, -⟩ := Option.map_eq_some_iff.mp hi
    exact exists_layOut hu (hlaidOut u (List.mem_of_getElem? hu))
  · rintro before later rfl hok
    obtain ⟨u, hu, rfl, hlast⟩ := exists_of_accepted hl hok hi
    obtain ⟨t, ho, hrefs, hnumbered, hfits⟩ := fits_of_layOut hok hu hkind
    refine ⟨hfits, fun hbases => ?_⟩
    have hlater : ∀ {b : Nat} {v : DraftType}, (after {} before).types[b]? = some v → v.laidOut →
        (after {} (before ++ ⟨.done, .layOut ⟨i⟩⟩ :: later)).types[b]? = some v :=
      fun hv hlv => by
        rw [after_append]
        exact getElem?_after hv hlv _
    have hinherited : l.inheritedIds i = (after {} before).inheritedIds ⟨i⟩ := by
      unfold Library.inheritedIds
      rw [htypes]
      refine inheritedIds_after (sound_after before) hbases ho hrefs hlater ⟨u, hlast, ?_⟩
      rw [hnumbered]
      rfl
    rw [hinherited]
    exact ⟨rfl, hfits.ids, fun hslot => hslot ▸ hfits⟩

/-- A method in a slot. -/
def method (memid : MemberId) (offset : Nat) : FunctionDesc :=
  { memid := memid, invoke := .function, kind := .pureVirtual, params := []
    ret := { type := .base .hresult }, offset := offset }

/-- The attributes of a library for pointers of a width. -/
def attributesFor (width : PointerWidth) : Attributes :=
  { name := "Lines", guid := .nil, version := {}, locale := 0, doc := none, pointerWidth := width }

/-- An interface that derives from another one. -/
def derivation : List (Sigma Request) :=
  [⟨_, .createType "IBase" .interface⟩,
    ⟨_, .createType "IDerived" .interface⟩,
    ⟨_, .addImplemented ⟨1⟩ 0 (.own ⟨0⟩) .none⟩]

/-- The base is laid out before the interface that derives from it. -/
def timely : List (Sigma Request) :=
  derivation ++
    [⟨_, .setAttributes (attributesFor .bits64)⟩,
      ⟨_, .addFunction ⟨0⟩ 0 (method 1 24)⟩,
      ⟨_, .layOut ⟨0⟩⟩,
      ⟨_, .addFunction ⟨1⟩ 0 (method 2 32)⟩]

theorem timely_fits : ∃ l, (after {} (timely ++ [⟨_, .layOut ⟨1⟩⟩])).commit = .ok l ∧
    ∃ t, l.types[1]? = some t ∧ t.functions.map (·.desc) = [method 2 32] ∧
      l.inheritedIds 1 = [1] ∧ t.Fits (l.inheritedIds 1) l.attributes.pointerWidth.bytes := by
  have hview : (after {} (timely ++ [⟨_, .layOut ⟨1⟩⟩])).commit.toOption.map (fun l =>
      (l.types[1]?.map fun t => (t.kind.isInterface, t.functions.map (·.desc)), l.inheritedIds 1,
        l.attributes.pointerWidth)) =
      some (some (true, [method 2 32]), [1], .bits64) := by
    decide +kernel
  have hok : ((after {} timely).layOut ⟨1⟩).1 = .ok () := by decide +kernel
  cases hl : (after {} (timely ++ [⟨_, .layOut ⟨1⟩⟩])).commit with
  | error error =>
    rw [hl] at hview
    exact Option.noConfusion rfl (heq_of_eq hview)
  | ok l =>
    rw [hl] at hview
    simp only [Except.toOption, Option.map_some, Option.some.injEq, Prod.mk.injEq] at hview
    obtain ⟨htype, hinherited, hwidth⟩ := hview
    obtain ⟨t, ht, htype⟩ := Option.map_eq_some_iff.mp htype
    obtain ⟨hkind, hfunctions⟩ := Prod.mk.inj htype
    have hbases : (after {} timely).BasesLaidOut 1 := by
      have hchain : baseChain (after {} timely).infos 1 = [0] := by decide +kernel
      unfold BasesLaidOut
      rw [hchain]
      exact List.forall_mem_singleton.mpr ⟨_, rfl, rfl⟩
    have hslot : (after {} timely).slot = l.attributes.pointerWidth.bytes := by
      rw [hwidth]
      decide +kernel
    have hrules := (fits_of_commit hl ht hkind).2 timely [] rfl hok
    exact ⟨l, rfl, t, ht, hfunctions, hinherited, (hrules.2 hbases).2.2 hslot⟩

/-- The base gets its function, and the slots get wider, when the other interface is laid out. -/
def belated : List (Sigma Request) :=
  derivation ++
    [⟨_, .setAttributes (attributesFor .bits32)⟩,
      ⟨_, .addFunction ⟨1⟩ 0 (method 1 12)⟩,
      ⟨_, .layOut ⟨1⟩⟩,
      ⟨_, .setAttributes (attributesFor .bits64)⟩,
      ⟨_, .addFunction ⟨0⟩ 0 (method 1 24)⟩,
      ⟨_, .layOut ⟨0⟩⟩]

theorem belated_misfits : ∃ l, (after {} belated).commit = .ok l ∧
    ∃ t, l.types[1]? = some t ∧ t.kind.isInterface ∧ ∃ f ∈ t.functions,
      f.desc.memid ∈ l.inheritedIds 1 ∧ ¬l.attributes.pointerWidth.bytes ∣ f.desc.offset ∧
        f.desc.offset < (reservedSlots t.kind t.flags + (l.inheritedIds 1).length) *
          l.attributes.pointerWidth.bytes := by
  have hview : (after {} belated).commit.toOption.map (fun l =>
      (l.types[1]?.map fun t => (t.kind.isInterface, reservedSlots t.kind t.flags,
        t.functions.map (·.desc)), l.inheritedIds 1, l.attributes.pointerWidth)) =
      some (some (true, 3, [method 1 12]), [1], .bits64) := by
    decide +kernel
  cases hl : (after {} belated).commit with
  | error error =>
    rw [hl] at hview
    exact Option.noConfusion rfl (heq_of_eq hview)
  | ok l =>
    rw [hl] at hview
    simp only [Except.toOption, Option.map_some, Option.some.injEq, Prod.mk.injEq] at hview
    obtain ⟨htype, hinherited, hwidth⟩ := hview
    obtain ⟨t, ht, htype⟩ := Option.map_eq_some_iff.mp htype
    obtain ⟨hkind, hslots⟩ := Prod.mk.inj htype
    obtain ⟨hreserved, hfunctions⟩ := Prod.mk.inj hslots
    obtain ⟨f, hf, hdesc⟩ : ∃ f ∈ t.functions, f.desc = method 1 12 :=
      List.mem_map.mp (hfunctions ▸ List.mem_singleton_self _)
    refine ⟨l, rfl, t, ht, hkind, f, hf, ?_⟩
    rw [hdesc, hreserved, hinherited, hwidth]
    decide

end Draft

end Library

end Automation
