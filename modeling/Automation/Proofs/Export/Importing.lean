import Automation.Proofs.Export.References
import Automation.Proofs.Export.Scripts
import Mathlib.Data.List.Nodup

/-!
# Imports

A draft takes every import, and its import table only grows (`Draft.Grows`). If the referenced
libraries are told apart by their identifiers, every reference to a type of theirs has a target
afterwards (`ensures_importTypes`).
-/

namespace Automation.Export

open Library Source

/-! ## Growing import tables -/

/-- Nothing but the import table has changed, and that has only grown. -/
structure Grows (d d' : Draft) : Prop where
  types : d'.types = d.types
  names : d'.names = d.names
  attributes : d'.attributes = d.attributes
  imports : ∃ more, d'.imports = d.imports ++ more

theorem Grows.refl (d : Draft) : Grows d d := ⟨rfl, rfl, rfl, [], (List.append_nil _).symm⟩

theorem Grows.trans {d d' d'' : Draft} (h : Grows d d') (h' : Grows d' d'') : Grows d d'' := by
  obtain ⟨more, hmore⟩ := h.imports
  obtain ⟨more', hmore'⟩ := h'.imports
  exact ⟨h'.types.trans h.types, h'.names.trans h.names, h'.attributes.trans h.attributes,
    more ++ more', by rw [hmore', hmore, List.append_assoc]⟩

theorem Grows.getElem? {d d' : Draft} (h : Grows d d') {i : Nat} {l : ImportedLibrary}
    (hl : d.imports[i]? = some l) : d'.imports[i]? = some l := by
  obtain ⟨more, hmore⟩ := h.imports
  rw [hmore, List.getElem?_append_left (List.getElem?_eq_some_iff.mp hl).1, hl]

/-- What has a target keeps it. -/
theorem Grows.resolves {d d' : Draft} (h : Grows d d') {ref : TypeRef} (href : d.resolves ref = true) :
    d'.resolves ref = true := by
  cases ref with
  | own handle =>
    rw [Draft.resolves_own] at href ⊢
    rwa [h.types]
  | imported library index =>
    obtain ⟨l, hl, hindex⟩ := Draft.resolves_imported.mp href
    exact Draft.resolves_imported.mpr ⟨l, h.getElem? hl, hindex⟩

/-! ## Referenced libraries -/

/-- Referenced libraries are told apart by their identifiers, from each other and from the standard
library, and their default interfaces are types of theirs. -/
structure Trusted (references : List ReferencedLibrary) : Prop where
  guids : (references.map (·.guid)).Nodup
  standard : ∀ l ∈ references, l.guid ≠ Standard.guid
  defaults : ∀ l ∈ references, ∀ t ∈ l.types, ∀ i ∈ t.defaultInterface, i < l.types.length

/-- Only referenced libraries and the standard library are imported. -/
def Known (references : List ReferencedLibrary) (d : Draft) : Prop :=
  ∀ i ∈ d.imports, i = Standard.library ∨ ∃ l ∈ references, i = l.toImport

theorem Trusted.eq {references : List ReferencedLibrary} (h : Trusted references)
    {l l' : ReferencedLibrary} (hl : l ∈ references) (hl' : l' ∈ references)
    (hguid : l.guid = l'.guid) : l = l' :=
  List.inj_on_of_nodup_map h.guids hl hl' hguid

/-- A referenced library is found in the import table once it is asked for. -/
theorem addImport_reference {references : List ReferencedLibrary} (htrusted : Trusted references)
    {d : Draft} (hknown : Known references d) {l : ReferencedLibrary} (hl : l ∈ references) :
    Known references (d.addImport l.toImport).1 ∧
      (d.addImport l.toImport).1.imports[(d.addImport l.toImport).2.index]? = some l.toImport := by
  unfold Draft.addImport
  split
  · next place hplace =>
    refine ⟨hknown, ?_⟩
    obtain ⟨hlt, hguid, -⟩ := List.findIdx?_eq_some_iff_getElem.mp hplace
    have hsame : d.imports[place].guid = l.guid := beq_iff_eq.mp hguid
    rw [List.getElem?_eq_getElem hlt]
    rcases hknown _ (List.getElem_mem hlt) with hstandard | ⟨l', hl', himport⟩
    · rw [hstandard] at hsame
      exact (htrusted.standard l hl hsame.symm).elim
    · rw [himport] at hsame
      rw [himport, htrusted.eq hl' hl hsame]
  · refine ⟨fun i hi => ?_, by simp⟩
    rcases List.mem_append.mp hi with hi | hi
    · exact hknown i hi
    · exact .inr ⟨l, hl, List.mem_singleton.mp hi⟩

theorem grows_addImport (d : Draft) (l : ImportedLibrary) : Grows d (d.addImport l).1 := by
  unfold Draft.addImport
  split
  · exact .refl d
  · exact ⟨rfl, rfl, rfl, [l], rfl⟩

/-- What is looked up is a type of a referenced library. -/
theorem lookup?_eq_some {references : List ReferencedLibrary} {type : ExternalType}
    {place index : Nat} {found : ReferencedType}
    (h : lookup? references type = some (place, index, found)) :
    ∃ l, references[place]? = some l ∧ l.types[index]? = some found := by
  unfold lookup? at h
  obtain ⟨⟨l, n⟩, hmem, hfound⟩ := List.exists_of_findSome?_eq_some h
  dsimp only at hfound
  split at hfound
  · obtain ⟨⟨i, t⟩, ht, heq⟩ := Option.map_eq_some_iff.mp hfound
    simp only [Prod.mk.injEq] at heq
    obtain ⟨rfl, rfl, rfl⟩ := heq
    refine ⟨l, List.mem_zipIdx_iff_getElem?.mp hmem, ?_⟩
    unfold ReferencedLibrary.find? at ht
    simp only [Option.bind_eq_bind, Option.bind_eq_some_iff, Option.pure_def,
      Option.some.injEq, Prod.mk.injEq] at ht
    obtain ⟨j, -, t', ht', rfl, rfl⟩ := ht
    exact ht'
  · exact Option.noConfusion rfl (heq_of_eq hfound)

/-! ## Reference tables -/

/-- Every reference of the table has a target. -/
structure ReferenceTable.Resolves (t : ReferenceTable) (d : Draft) : Prop where
  standard : ∀ id ∈ t.standard, ∀ index < Standard.library.typeNames.length,
    d.resolves (.imported id index) = true
  own : ∀ e ∈ t.own, d.resolves (.own e.2.handle) = true ∧
    ∀ ref ∈ e.2.default, d.resolves ref = true
  external : ∀ e ∈ t.external, d.resolves e.2.ref = true ∧
    ∀ ref ∈ e.2.default, d.resolves ref = true

theorem ReferenceTable.Resolves.grows {t : ReferenceTable} {d d' : Draft} (h : t.Resolves d)
    (hgrows : Grows d d') : t.Resolves d' where
  standard id hid index hindex := hgrows.resolves (h.standard id hid index hindex)
  own e he := (h.own e he).imp hgrows.resolves fun hdefault ref href =>
    hgrows.resolves (hdefault ref href)
  external e he := (h.external e he).imp hgrows.resolves fun hdefault ref href =>
    hgrows.resolves (hdefault ref href)

/-- A reference to a type of a library that is imported. -/
theorem resolves_externalRef {references : List ReferencedLibrary} (htrusted : Trusted references)
    {d : Draft} {l : ReferencedLibrary} (hl : l ∈ references) {id : ImportId}
    (hid : d.imports[id.index]? = some l.toImport) {index : Nat} {found : ReferencedType}
    (hfound : l.types[index]? = some found) :
    d.resolves (externalRef id index found).ref = true ∧
      ∀ ref ∈ (externalRef id index found).default, d.resolves ref = true := by
  have hresolves : ∀ i, i < l.types.length → d.resolves (.imported id i) = true := by
    intro i hi
    refine Draft.resolves_imported.mpr ⟨l.toImport, hid, ?_⟩
    simpa [ReferencedLibrary.toImport] using hi
  refine ⟨hresolves index (List.getElem?_eq_some_iff.mp hfound).1, fun ref href => ?_⟩
  obtain ⟨i, hi, rfl⟩ := Option.map_eq_some_iff.mp href
  exact hresolves i (htrusted.defaults l hl found (List.mem_of_getElem? hfound) i hi)

theorem ReferenceTable.Resolves.insertExternal {t : ReferenceTable} {d : Draft} (h : t.Resolves d)
    {ref : ExternalRef} (href : d.resolves ref.ref = true ∧ ∀ r ∈ ref.default, d.resolves r = true)
    (type : ExternalType) : (t.insertExternal type ref).Resolves d where
  standard := h.standard
  own := h.own
  external := List.forall_mem_cons.mpr ⟨href, h.external⟩

/-! ## Importing -/

/-- The places of libraries in the import table. -/
def Located (references : List ReferencedLibrary) (imported : List (Nat × ImportId)) (d : Draft) :
    Prop :=
  ∀ e ∈ imported, ∃ l, references[e.1]? = some l ∧ d.imports[e.2.index]? = some l.toImport

variable {p : MemoryProgress} {references : List ReferencedLibrary}

/-- **Imports are never refused, and give every reference its target.** -/
theorem ensures_importTypes (imported : List (Nat × ImportId)) (refs : ReferenceTable)
    (types : List ExternalType) :
    Ensures (importTypes watchedMemory references imported refs types) p
      (fun refs' q => refs'.own = refs.own ∧ refs'.standard = refs.standard ∧
        Grows p.draft q.draft ∧ Quiet p q ∧
        (Trusted references → Known references p.draft → Located references imported p.draft →
          refs.Resolves p.draft → refs'.Resolves q.draft))
      fun _ _ => False := by
  induction types generalizing p imported refs with
  | nil => exact ensures_pure ⟨rfl, rfl, .refl _, .refl p, fun _ _ _ h => h⟩
  | cons type later ih =>
    unfold importTypes
    split
    · exact ih imported refs
    · next place index found hlookup =>
      obtain ⟨l, hl, hfound⟩ := lookup?_eq_some hlookup
      have hmem : l ∈ references := List.mem_of_getElem? hl
      split
      · next id hid =>
        refine (ih imported (refs.insertExternal type (externalRef id index found))).imp ?_
          fun _ _ h => h
        rintro refs' q ⟨hown, hstandard, hgrows, hquiet, hresolves⟩
        refine ⟨hown, hstandard, hgrows, hquiet, fun htrusted hknown hlocated hrefs => ?_⟩
        refine hresolves htrusted hknown hlocated (hrefs.insertExternal ?_ type)
        obtain ⟨l', hl', himport⟩ := hlocated _ (mem_of_lookup hid)
        obtain rfl : l = l' := Option.some.inj (hl.symm.trans hl')
        exact resolves_externalRef htrusted hmem himport hfound
      · rw [hl]
        have hanswer : p.draft.answer (.addImport l.toImport) =
            (.ok (p.draft.addImport l.toImport).2, (p.draft.addImport l.toImport).1) := rfl
        have hgrows₁ := grows_addImport p.draft l.toImport
        have hadded := fun h h' => addImport_reference (d := p.draft) h h' hmem
        revert hanswer hgrows₁ hadded
        generalize (p.draft.addImport l.toImport).2 = id
        generalize (p.draft.addImport l.toImport).1 = d₁
        intro hanswer hgrows₁ hadded
        refine Ensures.bind (ensures_request_ok rfl hanswer) ?_
        rintro _ q₁ ⟨rfl, rfl, hquiet₁⟩
        refine (ih _ _).imp ?_ fun _ _ h => h
        rintro refs' q ⟨hown, hstandard, hgrows, hquiet, hresolves⟩
        refine ⟨hown, hstandard, hgrows₁.trans hgrows, hquiet₁.trans hquiet,
          fun htrusted hknown hlocated hrefs => ?_⟩
        obtain ⟨hknown₁, himport⟩ := hadded htrusted hknown
        refine hresolves htrusted hknown₁ ?_ ?_
        · refine List.forall_mem_cons.mpr ⟨⟨l, hl, himport⟩, fun e he => ?_⟩
          obtain ⟨l', hl', hother⟩ := hlocated e he
          exact ⟨l', hl', hgrows₁.getElem? hother⟩
        · exact (hrefs.grows hgrows₁).insertExternal
            (resolves_externalRef htrusted hmem himport hfound) type

/-! ## What is found -/

/-- The place of a library in an import table, which goes by its identifier. -/
def importPlace? (imports : List ImportedLibrary) (l : ReferencedLibrary) : Option Nat :=
  imports.findIdx? fun i => i.guid == l.guid

/-- The reference to a type of another unit: to the first library that covers it, as the import table
has that. -/
def imported? (references : List ReferencedLibrary) (imports : List ImportedLibrary)
    (type : ExternalType) : Option ExternalRef :=
  (lookup? references type).bind fun (place, index, found) =>
    (references[place]?.bind (importPlace? imports)).map fun id => externalRef ⟨id⟩ index found

/-- The table has the types that a referenced library covers, and no other types of other units. -/
structure ReferenceTable.Finds (t : ReferenceTable) (references : List ReferencedLibrary)
    (imports : List ImportedLibrary) (types : List ExternalType) : Prop where
  covered : ∀ type ref, t.external? type = some ref → imported? references imports type = some ref
  found : ∀ type ∈ types, (lookup? references type).isSome → (t.external? type).isSome

/-- The table answers as the import table does. -/
theorem ReferenceTable.Finds.external?_eq {t : ReferenceTable} {imports : List ImportedLibrary}
    {types : List ExternalType} (h : t.Finds references imports types) {type : ExternalType}
    (htype : type ∈ types) : t.external? type = imported? references imports type := by
  cases href : t.external? type with
  | some ref => exact (h.covered type ref href).symm
  | none =>
    cases hlookup : lookup? references type with
    | none => simp [imported?, hlookup]
    | some found =>
      have hsome := h.found type htype (by rw [hlookup]; rfl)
      rw [href] at hsome
      exact Bool.noConfusion hsome

theorem imported?_eq_some {imports : List ImportedLibrary} {type : ExternalType} {place index : Nat}
    {found : ReferencedType} {l : ReferencedLibrary} {id : ImportId}
    (hlookup : lookup? references type = some (place, index, found))
    (hl : references[place]? = some l) (hid : importPlace? imports l = some id.index) :
    imported? references imports type = some (externalRef id index found) := by
  simp [imported?, hlookup, hl, hid]

/-- A library keeps its place in a growing import table. -/
theorem importPlace?_append {imports : List ImportedLibrary} {l : ReferencedLibrary} {id : Nat}
    (h : importPlace? imports l = some id) (more : List ImportedLibrary) :
    importPlace? (imports ++ more) l = some id := by
  unfold importPlace? at h ⊢
  rw [List.findIdx?_append, h]
  rfl

theorem Grows.importPlace? {d d' : Draft} (h : Grows d d') {l : ReferencedLibrary} {id : Nat}
    (hid : importPlace? d.imports l = some id) : Export.importPlace? d'.imports l = some id := by
  obtain ⟨more, hmore⟩ := h.imports
  rw [hmore]
  exact importPlace?_append hid more

theorem Grows.imported? {d d' : Draft} (h : Grows d d') {type : ExternalType} {ref : ExternalRef}
    (href : imported? references d.imports type = some ref) :
    Export.imported? references d'.imports type = some ref := by
  obtain ⟨⟨place, index, found⟩, hlookup, href⟩ := Option.bind_eq_some_iff.mp href
  obtain ⟨id, hid, rfl⟩ := Option.map_eq_some_iff.mp href
  obtain ⟨l, hl, hid⟩ := Option.bind_eq_some_iff.mp hid
  exact imported?_eq_some hlookup hl (h.importPlace? hid)

theorem lookup?_congr {references : List ReferencedLibrary} {type type' : ExternalType}
    (hunit : type.unit = type'.unit) (hqualified : type.qualified = type'.qualified) :
    lookup? references type = lookup? references type' := by
  unfold lookup?
  rw [hunit, hqualified]

theorem external?_insertExternal (t : ReferenceTable) (type type' : ExternalType)
    (ref : ExternalRef) :
    (t.insertExternal type ref).external? type' =
      if (type'.unit, type'.qualified) = (type.unit, type.qualified) then some ref
      else t.external? type' := by
  unfold ReferenceTable.external? ReferenceTable.insertExternal
  rw [List.lookup_cons]
  by_cases h : (type'.unit, type'.qualified) = (type.unit, type.qualified)
  · rw [if_pos h, beq_iff_eq.mpr h]
  · rw [if_neg h, beq_eq_false_iff_ne.mpr h]

theorem imported?_congr {imports : List ImportedLibrary} {type type' : ExternalType}
    (hunit : type.unit = type'.unit) (hqualified : type.qualified = type'.qualified) :
    imported? references imports type = imported? references imports type' := by
  unfold imported?
  rw [lookup?_congr hunit hqualified]

theorem ReferenceTable.Finds.insertExternal {t : ReferenceTable} {imports : List ImportedLibrary}
    {types : List ExternalType} (h : t.Finds references imports types) {type : ExternalType}
    {ref : ExternalRef} (href : imported? references imports type = some ref) :
    (t.insertExternal type ref).Finds references imports (type :: types) where
  covered type' ref' href' := by
    rw [external?_insertExternal] at href'
    split at href'
    · next hkey =>
      obtain rfl := Option.some.inj href'
      obtain ⟨hunit, hqualified⟩ := Prod.mk.inj hkey
      exact (imported?_congr hunit hqualified).trans href
    · exact h.covered type' ref' href'
  found type' hmem hsome := by
    rw [external?_insertExternal]
    split
    · rfl
    · next hkey =>
      rcases List.mem_cons.mp hmem with rfl | hmem
      · exact absurd rfl hkey
      · exact h.found type' hmem hsome

theorem ReferenceTable.Finds.imports {t : ReferenceTable} {d d' : Draft} {types : List ExternalType}
    (h : t.Finds references d.imports types) (hgrows : Grows d d') :
    t.Finds references d'.imports types where
  covered type ref href := hgrows.imported? (h.covered type ref href)
  found := h.found

/-- Every entry of the import table is there for something: the first one for the standard library, if
that is needed, and every other one for a type that is found in it. -/
def Warranted (references : List ReferencedLibrary) (isNeeded : Bool) (types : List ExternalType)
    (imports : List ImportedLibrary) : Prop :=
  ∀ id < imports.length, (id = 0 ∧ isNeeded = true) ∨ ∃ type ∈ types, ∃ index,
    (imported? references imports type).map (·.ref) = some (.imported ⟨id⟩ index)

theorem Warranted.mono {isNeeded : Bool} {types types' : List ExternalType}
    {imports : List ImportedLibrary} (h : Warranted references isNeeded types imports)
    (htypes : types ⊆ types') : Warranted references isNeeded types' imports := fun id hid =>
  (h id hid).imp_right fun ⟨type, htype, hfound⟩ => ⟨type, htypes htype, hfound⟩

/-- The place of a new entry is the one that the request answers. -/
theorem lt_length_addImport {d : Draft} {l : ImportedLibrary} {id : Nat}
    (hid : id < (d.addImport l).1.imports.length) :
    id < d.imports.length ∨ id = (d.addImport l).2.index := by
  unfold Draft.addImport at hid ⊢
  split at hid
  · exact .inl hid
  · rw [List.length_append, List.length_singleton] at hid
    dsimp only
    omega

/-- A library is asked for because a type is found in it. -/
theorem Warranted.addImport {d : Draft} {isNeeded : Bool} {types : List ExternalType}
    (h : Warranted references isNeeded types d.imports) {type : ExternalType} {ref : ExternalRef}
    {l : ReferencedLibrary} {index : Nat}
    (href : imported? references (d.addImport l.toImport).1.imports type = some ref)
    (hentry : ref.ref = .imported (d.addImport l.toImport).2 index) :
    Warranted references isNeeded (type :: types) (d.addImport l.toImport).1.imports := by
  intro id hid
  rcases lt_length_addImport hid with hold | rfl
  · refine (h id hold).imp_right fun ⟨other, hother, index, hfound⟩ =>
      ⟨other, List.mem_cons_of_mem _ hother, index, ?_⟩
    obtain ⟨ref', href', hsame⟩ := Option.map_eq_some_iff.mp hfound
    rw [(grows_addImport d l.toImport).imported? href', Option.map_some, hsame]
  · refine .inr ⟨type, List.mem_cons_self, index, ?_⟩
    rw [href, Option.map_some, hentry]

/-- An import is found in the table under its identifier. -/
theorem importPlace?_addImport (d : Draft) (l : ReferencedLibrary) :
    importPlace? (d.addImport l.toImport).1.imports l = some (d.addImport l.toImport).2.index := by
  have hguid : l.toImport.guid = l.guid := rfl
  unfold importPlace? Draft.addImport
  rw [hguid]
  split
  · next place hplace => exact hplace
  · next hnone =>
    rw [List.findIdx?_append, hnone]
    simp [hguid]

theorem known_addImport {d : Draft} (h : Known references d) {l : ReferencedLibrary}
    (hl : l ∈ references) : Known references (d.addImport l.toImport).1 := by
  unfold Draft.addImport
  split
  · exact h
  · refine List.forall_mem_append.mpr ⟨h, List.forall_mem_singleton.mpr (.inr ⟨l, hl, rfl⟩)⟩

/-- **The table finds what the referenced libraries cover**, and only they are imported, each for a
type that is found in it. -/
theorem ensures_importTypes_finds (imported : List (Nat × ImportId)) (refs : ReferenceTable)
    (types before : List ExternalType)
    (himported : ∀ e ∈ imported, ∃ l, references[e.1]? = some l ∧
      importPlace? p.draft.imports l = some e.2.index)
    (hrefs : refs.Finds references p.draft.imports before) (hknown : Known references p.draft)
    {isNeeded : Bool} (hwarranted : Warranted references isNeeded before p.draft.imports) :
    Ensures (importTypes watchedMemory references imported refs types) p
      (fun refs' q => refs'.Finds references q.draft.imports (types ++ before) ∧
        Known references q.draft ∧ Warranted references isNeeded (types ++ before) q.draft.imports)
      fun _ _ => False := by
  induction types generalizing p imported refs before with
  | nil => exact ensures_pure ⟨hrefs, hknown, hwarranted⟩
  | cons type later ih =>
    have hlater : ∀ {refs' : ReferenceTable} {q : MemoryProgress},
        refs'.Finds references q.draft.imports (later ++ type :: before) ∧ Known references q.draft ∧
          Warranted references isNeeded (later ++ type :: before) q.draft.imports →
        refs'.Finds references q.draft.imports (type :: later ++ before) ∧
          Known references q.draft ∧
          Warranted references isNeeded (type :: later ++ before) q.draft.imports := fun h =>
      ⟨⟨h.1.covered, fun t ht => h.1.found t (List.perm_middle.mem_iff.mpr ht)⟩, h.2.1,
        h.2.2.mono fun t => List.perm_middle.mem_iff.mp⟩
    have hkept := hwarranted.mono (List.subset_cons_self type before)
    unfold importTypes
    split
    · next hlookup =>
      refine (ih imported refs (type :: before) himported ⟨hrefs.covered, ?_⟩ hknown hkept).imp
        (fun _ _ h => hlater h) fun _ _ h => h
      refine List.forall_mem_cons.mpr ⟨fun hsome => ?_, hrefs.found⟩
      rw [hlookup] at hsome
      exact Bool.noConfusion hsome
    · next place index found hlookup =>
      obtain ⟨l, hl, -⟩ := lookup?_eq_some hlookup
      split
      · next id hid =>
        obtain ⟨l', hl', hplace⟩ := himported _ (mem_of_lookup hid)
        exact (ih imported _ (type :: before) himported
          (hrefs.insertExternal (imported?_eq_some hlookup hl' hplace)) hknown hkept).imp
            (fun _ _ h => hlater h) fun _ _ h => h
      · rw [hl]
        have hanswer : p.draft.answer (.addImport l.toImport) =
            (.ok (p.draft.addImport l.toImport).2, (p.draft.addImport l.toImport).1) := rfl
        have hgrows := grows_addImport p.draft l.toImport
        have hplace := importPlace?_addImport p.draft l
        have hknown' := known_addImport hknown (List.mem_of_getElem? hl)
        have hwarranted' := hwarranted.addImport (imported?_eq_some hlookup hl hplace) rfl
        refine Ensures.bind (ensures_request_ok rfl hanswer) ?_
        rintro _ q ⟨rfl, hdraft, -⟩
        rw [← hdraft] at hgrows hplace hknown' hwarranted'
        refine (ih _ _ (type :: before) ?_ ((hrefs.imports hgrows).insertExternal
          (imported?_eq_some hlookup hl hplace)) hknown' hwarranted').imp
            (fun _ _ h => hlater h) fun _ _ h => h
        refine List.forall_mem_cons.mpr ⟨⟨l, hl, hplace⟩, fun e he => ?_⟩
        obtain ⟨l', hl', hplace'⟩ := himported e he
        exact ⟨l', hl', hgrows.importPlace? hplace'⟩

/-- The standard library is the first import, if it is needed. -/
theorem ensures_importStandard (isNeeded : Bool) (hnone : p.draft.imports = []) :
    Ensures (importStandard watchedMemory isNeeded) p
      (fun standard q => standard = (if isNeeded then some ⟨0⟩ else none) ∧
        q.draft.imports = (if isNeeded then [Standard.library] else []) ∧
        Grows p.draft q.draft ∧ Quiet p q)
      fun _ _ => False := by
  unfold importStandard
  cases isNeeded with
  | false => exact ensures_pure ⟨rfl, hnone, .refl _, .refl p⟩
  | true =>
    have hanswer : p.draft.answer (.addImport Standard.library) =
        (.ok ⟨0⟩, { p.draft with imports := [Standard.library] }) := by
      simp [Draft.answer, Draft.addImport, hnone]
    refine Ensures.bind (ensures_request_ok rfl hanswer) ?_
    rintro _ q ⟨rfl, hdraft, hquiet⟩
    refine ensures_pure ⟨rfl, by rw [hdraft]; rfl, ?_, hquiet⟩
    rw [hdraft]
    exact ⟨rfl, rfl, rfl, [Standard.library], by rw [hnone]; rfl⟩

end Automation.Export
