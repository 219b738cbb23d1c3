import Automation.Proofs.Export.Origins

/-!
# Member ids of a library

In every library that a successful run writes out, functions along a base chain have ids of their
own: `memids_apart` says that only different accessors of one source property share an id.
-/

namespace Automation.Export

open Library Source

/-! ## Libraries -/

/-- The functions at two indices are made from accessors of one property of the origin, if the functions
are those of the members that can be described, in order. -/
def Origin.AccessorsOfOne (s : Scope) (i j : Nat) : Origin → Prop
  | .members owner _ =>
    let members := owner.members.filter fun m => m.isExportable && s.describes m
    ∃ m m', members[i]? = some m ∧ members[j]? = some m' ∧ ShareProperty m m'
  | .fields _ | .other => False

/-- The function at an index of the type at a place. -/
def functionAt (types : List TypeInfo) (place index : Nat) : Option FunctionInfo :=
  types[place]?.bind (·.functions[index]?)

theorem exists_of_functionAt {types : List TypeInfo} {place index : Nat} {f : FunctionInfo}
    (h : functionAt types place index = some f) :
    ∃ t, types[place]? = some t ∧ t.functions[index]? = some f :=
  Option.bind_eq_some_iff.mp h

namespace ExportedFrom

variable {unit : Reflection} {resolver : Resolver} {settings : Settings}
  {references : List ReferencedLibrary} {placed : List Placed} {refs : ReferenceTable} {d : Draft}
  {l : ExportedLibrary Library}

/-- No function has an id of its bases. -/
theorem memid_inherited (h : ExportedFrom unit resolver settings references placed refs d l)
    {x y i j : Nat} {f g : FunctionInfo} (hy : y ∈ baseChain l.library.types x)
    (hf : functionAt l.library.types x i = some f) (hg : functionAt l.library.types y j = some g) :
    f.desc.memid ≠ g.desc.memid := by
  obtain ⟨t, ht, hkind⟩ := isInterface_of_mem_baseChain hy
  obtain ⟨t', ht', hf⟩ := exists_of_functionAt hf
  obtain rfl : t = t' := Option.some.inj (ht.symm.trans ht')
  obtain ⟨u, hu, hg⟩ := exists_of_functionAt hg
  obtain ⟨hids, -⟩ := Layout.interfaceFault?_eq_none.mp (h.interfaceFault? ht hkind)
  have hnew := (Layout.repeatedId?_eq_none.mp hids).1 f.desc
    (List.mem_map_of_mem (List.mem_of_getElem? hf))
  intro hsame
  refine hnew (List.mem_flatMap.mpr ⟨y, hy, ?_⟩)
  unfold idsAt
  rw [hu, hsame]
  exact List.mem_map_of_mem (List.mem_of_getElem? hg)

/-- A type with functions is an interface that is filled. -/
theorem exists_filled (h : ExportedFrom unit resolver settings references placed refs d l) {x : Nat}
    {t : TypeInfo} (ht : l.library.types[x]? = some t) (hfunctions : t.functions ≠ []) :
    ∃ p binding base,
      IsFilled ((settingOf unit resolver settings refs).withDefaults placed) placed p ⟨x⟩ binding
        base ∧
      t.functions = (interfaceFunctions (((settingOf unit resolver settings refs).withDefaults
        placed).synthesis binding) p.type.decl base).functions.map (·.written) := by
  have hcontent := h.content ht
  generalize (⟨x⟩ : Handle) = k at hcontent
  cases hcontent with
  | interface hfill =>
    obtain ⟨binding, base, hfilled, hmade⟩ := isFilled_of_mem_filling hfill
    exact ⟨_, binding, base, hfilled, by rw [Placed.filled, hmade]⟩
  | @classInterface p c hp hc => exact ⟨p, c.binding, {}, .classInterface hp hc, rfl⟩
  | coClass hp hkind => exact absurd rfl hfunctions
  | record hp htarget => exact absurd rfl hfunctions
  | enumeration hp htarget => exact absurd rfl hfunctions

/-- Functions of one type that share an id are made from accessors of one property of its origin. -/
theorem accessors_of_memid (h : ExportedFrom unit resolver settings references placed refs d l)
    {x i j : Nat} {t : TypeInfo} {f g : FunctionInfo} (ht : l.library.types[x]? = some t)
    (hij : i ≠ j) (hf : t.functions[i]? = some f) (hg : t.functions[j]? = some g)
    (hmemid : f.desc.memid = g.desc.memid) :
    f.desc.invoke ≠ g.desc.invoke ∧
      (l.origin unit x).AccessorsOfOne (l.scope unit references) i j := by
  obtain ⟨p, binding, base, hfilled, hfunctions⟩ :=
    h.exists_filled ht (List.ne_nil_of_mem (List.mem_of_getElem? hf))
  rw [hfunctions, List.getElem?_map] at hf hg
  obtain ⟨f', hf', rfl⟩ := Option.map_eq_some_iff.mp hf
  obtain ⟨g', hg', rfl⟩ := Option.map_eq_some_iff.mp hg
  obtain ⟨hinvoke, m, m', hm, hm', hshare⟩ := makers_of_memid hij hf' hg' hmemid
  have hmakers : makers (((settingOf unit resolver settings refs).withDefaults placed).synthesis
      binding) p.type.decl = p.type.decl.members.filter fun m =>
        m.isExportable && (l.scope unit references).describes m :=
    (makers_eq _ _).trans ((h.alike_of_isFilled hfilled).filter_describes fun m hm =>
      h.lists hfilled.mem hm).symm
  rw [hmakers] at hm hm'
  rw [h.origin_of_isFilled hfilled]
  exact ⟨hinvoke, m, m', hm, hm', hshare⟩

end ExportedFrom

/-! ## Runs -/

/-- Functions along a base chain have ids of their own. -/
structure MemidsApart (unit : Reflection) (resolver : Resolver) (settings : Settings)
    (references : List ReferencedLibrary) (l : ExportedLibrary Library) : Prop where
  /-- No function has the id that stands for none. -/
  ne_none : ∀ t ∈ l.library.types, ∀ f ∈ t.functions, f.desc.memid ≠ MemberId.none
  /-- The functions of a type are made from the members of its origin. -/
  made : ∀ x t, l.library.types[x]? = some t →
    HasOrigin l unit resolver settings references t (l.origin unit x)
  /-- Functions of a type and its base chain share an id only as functions of one type, made from
  accessors of one property and invoked in different ways. -/
  shared : ∀ {t x y i j : Nat} {f g : FunctionInfo}, x ∈ t :: baseChain l.library.types t →
    y ∈ t :: baseChain l.library.types t → functionAt l.library.types x i = some f →
    functionAt l.library.types y j = some g → (x, i) ≠ (y, j) → f.desc.memid = g.desc.memid →
    x = y ∧ f.desc.invoke ≠ g.desc.invoke ∧
      (l.origin unit x).AccessorsOfOne (l.scope unit references) i j

theorem ExportedFrom.memidsApart {unit : Reflection} {resolver : Resolver} {settings : Settings}
    {references : List ReferencedLibrary} {placed : List Placed} {refs : ReferenceTable} {d : Draft}
    {l : ExportedLibrary Library}
    (h : ExportedFrom unit resolver settings references placed refs d l) :
    MemidsApart unit resolver settings references l where
  ne_none := by
    intro t ht f hf
    obtain ⟨k, hk⟩ := List.mem_iff_getElem?.mp ht
    exact (h.content hk).memid_ne_none f hf
  made _ _ ht := h.hasOrigin ht
  shared := by
    intro t x y i j f g hx hy hf hg hne hmemid
    obtain rfl : x = y := by
      by_contra hxy
      rcases mem_baseChain_or hx hy hxy with hchain | hchain
      · exact h.memid_inherited hchain hf hg hmemid
      · exact h.memid_inherited hchain hg hf hmemid.symm
    obtain ⟨type, htype, hf⟩ := exists_of_functionAt hf
    obtain ⟨type', htype', hg⟩ := exists_of_functionAt hg
    obtain rfl : type = type' := Option.some.inj (htype.symm.trans htype')
    have hij : i ≠ j := fun hij => hne (by rw [hij])
    exact ⟨rfl, h.accessors_of_memid htype hij hf hg hmemid⟩

/-- **Functions along a base chain have ids of their own.** In every library that a successful run
writes out, two functions of a type and its base chain share an id only if they are functions of one
type, made from accessors of one property of the declaration that the type comes from and invoked in
different ways; and no function has the id that stands for none. -/
theorem memids_apart {job : Job} {out : Output Library} (h : job.toMemory = .ok out) :
    out.Forall job fun unit => MemidsApart unit job.resolver :=
  forall_run h fun _ _ hexported => hexported.memidsApart

/-- A unit with two interfaces, of which the first derives from the second and has a property. The
accessors of the property spell its name in different ways. -/
def savings : Job where
  unit := SourceUnit.reflection
    { identity := { name := "Bank", version := { major := 1 }, guid := some (Guid.ofBytes [9]) }
      types :=
        [{ space := "N", name := "ISavings", guid := some (Guid.ofBytes [1])
           body := .interface none, interfaces := [.named 1]
           members := [Member.getter "Rate" (.scalar .i32), Member.setter "rate" (.scalar .i32)] },
         { space := "N", name := "IAccount", guid := some (Guid.ofBytes [2])
           body := .interface none, members := [Member.method "Close" .void] }] }

/-- The accessors share an id, and are invoked in different ways. -/
theorem savings_memids : ∃ out f g, savings.toMemory = .ok out ∧
    functionAt out.main.library.types 0 0 = some f ∧
    functionAt out.main.library.types 0 1 = some g ∧ f.desc.memid = g.desc.memid ∧
    f.desc.invoke ≠ g.desc.invoke := by
  have hview : savings.toMemory.toOption.map (fun out =>
      ((functionAt out.main.library.types 0 0).map (·.desc.memid),
        (functionAt out.main.library.types 0 1).map (·.desc.memid))) =
      some (some 0x60020001, some 0x60020001) := by
    decide +kernel
  cases h : savings.toMemory with
  | error e =>
    rw [h] at hview
    exact Option.noConfusion rfl (heq_of_eq hview)
  | ok out =>
    rw [h] at hview
    obtain ⟨hf, hg⟩ := Prod.mk.inj (Option.some.inj hview)
    obtain ⟨f, hf, hfid⟩ := Option.map_eq_some_iff.mp hf
    obtain ⟨g, hg, hgid⟩ := Option.map_eq_some_iff.mp hg
    have hmemid : f.desc.memid = g.desc.memid := hfid.trans hgid.symm
    exact ⟨out, f, g, rfl, hf, hg, hmemid, ((memids_apart h).1.shared List.mem_cons_self
      List.mem_cons_self hf hg (by decide) hmemid).2.1⟩

end Automation.Export

