import Automation.Proofs.Export.Sites

/-!
# Variables of a library

The variables of a record are its public fields, and those of an enum its constants, each as far as it can
be exported: `FieldsTallied` and `ConstantsTallied` account for all of them. Fields are numbered without
those that are left out, and the constants get their names before they are written, so what has to be shown
is that no entry is taken for another one. `variables_run` says so of all libraries of a successful run,
and that the names of constants are apart from each other and from those of types.
-/

namespace Automation.Export

open Library Source Diagnostic

/-- The variables of a record are its public fields that can be described, in order, with ids of their own
in a row. Of every other public field it is said that it is left out. -/
structure FieldsTallied (s : Scope) (resolver : Resolver) (owner : TypeDecl)
    (diagnostics : List Diagnostic) (vars : List VariableInfo) : Prop where
  length : vars.length = (owner.fields.filter fun f => f.isPublic && s.describesField f).length
  fields : ∀ (k : Nat) (f : Field),
    (owner.fields.filter fun f => f.isPublic && s.describesField f)[k]? = some f →
      ∃ described, s.describe f.type f.marshal fieldPosition = .ok described ∧
        vars[k]? = some
          { desc := { memid := 0x40000000 + (k : Int), content := .field { type := described.type } }
            name := resolver (fieldQuestion owner f)
            doc := f.doc }
  leftOut : ∀ f ∈ owner.fields, f.isPublic = true → s.describesField f = false →
    ∃ d ∈ diagnostics, d.code = .fieldExcluded ∧
      d.subject = some (owner.qualified ++ "." ++ f.name)

/-- A constant of an enum became the variable: it has its value, its documentation, and the name that it
asked for, up to a number that tells it apart. -/
def IsConstant (resolver : Resolver) (owner : TypeDecl) (c : EnumConstant) (v : VariableInfo) : Prop :=
  ∃ (value : Int32) (n : Nat), value.toInt = c.value ∧
    v = { desc := { memid := MemberId.none, content := .constant (.i4 value) }
          name := Text.numbered (resolver (constantQuestion owner (resolver (typeQuestion owner)) c)) n
          doc := c.doc }

/-- The variables of an enum are its constants whose values fit, in order. Of every other constant it is
said that it is left out. -/
structure ConstantsTallied (resolver : Resolver) (owner : TypeDecl) (diagnostics : List Diagnostic)
    (vars : List VariableInfo) : Prop where
  constants : List.Forall₂ (IsConstant resolver owner)
    (owner.constants.filter fun c => fitsConstant c.value) vars
  leftOut : ∀ c ∈ owner.constants, fitsConstant c.value = false →
    ∃ d ∈ diagnostics, d.code = .constantExcluded ∧
      d.subject = some (owner.qualified ++ "." ++ c.name)

/-- The names that a type brings into a library: its own and those of the constants of an enum. -/
def broughtNames (t : TypeInfo) : List String :=
  t.name :: if t.kind = .enumeration then t.vars.map (·.name) else []

/-- The variables of the records and enums of a library are accounted for. The names of constants are
apart from each other and from those of types, whatever the case. -/
structure VariablesAccounted (unit : Reflection) (resolver : Resolver)
    (references : List ReferencedLibrary) (l : ExportedLibrary Library) : Prop where
  records : ∀ id ∈ unit.ids, ∀ decl, unit.type? id = some decl → target? decl = some .record →
    ∃ info, l.info? id = some info ∧
      FieldsTallied (l.scope unit references) resolver decl l.diagnostics info.vars
  enums : ∀ id ∈ unit.ids, ∀ decl, unit.type? id = some decl → target? decl = some .enumeration →
    ∃ info, l.info? id = some info ∧ ConstantsTallied resolver decl l.diagnostics info.vars
  names : ((l.library.types.flatMap broughtNames).map Text.nameKey).Nodup

/-! ## Fields -/

section

variable (s : Setting) (owner : TypeDecl)

/-- Variables are numbered in the order of the fields that can be described. -/
theorem getElem?_fieldVariables {fields : List Field} (index : Nat) {k : Nat} {f : Field}
    (h : (fields.filter s.scope.describesField)[k]? = some f) :
    ∃ described, s.scope.describe f.type f.marshal fieldPosition = .ok described ∧
      (fieldVariables s owner index fields)[k]? = some
        { desc :=
            { memid := firstFieldId + ((index + k : Nat) : Int)
              content := .field { type := described.type } }
          name := s.resolver (fieldQuestion owner f)
          doc := f.doc } := by
  induction fields generalizing index k with
  | nil => exact nomatch h
  | cons first later ih =>
    unfold fieldVariables
    cases hfirst : s.scope.describe first.type first.marshal fieldPosition with
    | error error =>
      rw [List.filter_cons_of_neg (by simp [Scope.describesField, hfirst, Except.toBool])] at h
      exact ih index h
    | ok described =>
      rw [List.filter_cons_of_pos (by simp [Scope.describesField, hfirst, Except.toBool])] at h
      cases k with
      | zero =>
        obtain rfl := Option.some.inj h
        exact ⟨described, hfirst, rfl⟩
      | succ k =>
        have hlater := ih (index + 1) h
        rwa [Nat.add_right_comm] at hlater

/-- It is said that a field is left out if it cannot be described. -/
theorem raise_mem_fieldsSteps {s : Setting} {p : Placed} {fields : List Field} (index : Nat) {f : Field}
    (hf : f ∈ fields) {error : DescribeError}
    (herror : s.scope.describe f.type f.marshal fieldPosition = .error error) :
    Step.raise (excludedField (p.type.decl.qualified ++ "." ++ f.name) f.name error) ∈
      fieldsSteps s p index fields := by
  induction fields generalizing index with
  | nil => exact nomatch hf
  | cons first later ih =>
    unfold fieldsSteps
    rcases List.mem_cons.mp hf with rfl | hf
    · rw [herror]
      exact List.mem_cons_self
    · split
      · exact List.mem_append_right _ (ih _ hf)
      · exact List.mem_cons_of_mem _ (ih _ hf)

end

/-! ## Constants -/

section

variable (resolver : Resolver) (owner : TypeDecl)

/-- A constant has a name if its value fits: a form of the name that it asks for. -/
def IsNamed (enumName : String) (c : EnumConstant) (name : Option String) : Prop :=
  if fitsConstant c.value then
    ∃ n, name = some (Text.numbered (resolver (constantQuestion owner enumName c)) n)
  else name = none

theorem isNamed_reserveConstants (enumName : String) (r : NameRegistry)
    (constants : List EnumConstant) : List.Forall₂ (IsNamed resolver owner enumName) constants
      (reserveConstants resolver owner enumName r constants).1 := by
  induction constants generalizing r with
  | nil => exact .nil
  | cons c later ih =>
    unfold reserveConstants
    split
    · next hfits =>
      refine .cons ?_ (ih _)
      rw [IsNamed, if_pos hfits]
      exact ⟨_, rfl⟩
    · next hfits =>
      refine .cons ?_ (ih r)
      rw [IsNamed, if_neg hfits]

theorem isNamed_nameConstants (r : NameRegistry) :
    List.Forall₂ (IsNamed resolver owner (resolver (typeQuestion owner))) owner.constants
      (nameConstants resolver r owner).1 := by
  unfold nameConstants TypeDecl.constants
  cases owner.body with
  | enumeration underlying constants => exact isNamed_reserveConstants _ _ _ _ _
  | record _ | interface _ | objectClass _ => exact .nil

end

theorem isNamed_of_mem {resolver : Resolver} {registry : NameRegistry} {classified : List Classified}
    {n : NamedType} (h : n ∈ (nameRegistered resolver registry classified).1) :
    List.Forall₂ (IsNamed resolver n.type.decl (resolver (typeQuestion n.type.decl)))
      n.type.decl.constants n.constants := by
  induction classified generalizing registry with
  | nil => exact nomatch h
  | cons c later ih =>
    unfold nameRegistered at h
    split at h
    · exact nomatch h
    · rcases List.mem_cons.mp h with rfl | h
      · exact isNamed_nameConstants resolver c.decl _
      · exact ih h

section

variable {resolver : Resolver} {owner : TypeDecl} {constants : List EnumConstant}
  {names : List (Option String)}

/-- **Every variable of an enum is the constant that its name was reserved for.** -/
theorem isConstant_constantVariables
    (h : List.Forall₂ (IsNamed resolver owner (resolver (typeQuestion owner))) constants names) :
    List.Forall₂ (IsConstant resolver owner) (constants.filter fun c => fitsConstant c.value)
      (constantVariables (constants.zip names)) := by
  induction h with
  | nil => exact .nil
  | @cons c name constants names hname _ ih =>
    unfold IsNamed at hname
    split at hname
    · next hfits =>
      obtain ⟨n, rfl⟩ := hname
      rw [List.filter_cons, if_pos hfits]
      obtain ⟨hleast, hmost⟩ := Bool.and_eq_true_iff.mp hfits
      have hvalue : (Int32.ofInt c.value).toInt = c.value :=
        Int32.toInt_ofInt_of_le (of_decide_eq_true hleast)
          (Int.lt_of_le_sub_one (of_decide_eq_true hmost))
      exact .cons ⟨Int32.ofInt c.value, n, hvalue, rfl⟩ ih
    · next hfits =>
      subst hname
      rw [List.filter_cons, if_neg hfits]
      exact ih

/-- It is said that a constant is left out if its value does not fit. -/
theorem raise_mem_constantsSteps {p : Placed} {enumName : String} (index : Nat)
    (h : List.Forall₂ (IsNamed resolver owner enumName) constants names) {c : EnumConstant}
    (hc : c ∈ constants) (hfits : fitsConstant c.value = false) :
    Step.raise (excludedConstant (p.type.decl.qualified ++ "." ++ c.name) c.value) ∈
      constantsSteps p index (constants.zip names) := by
  induction h generalizing index with
  | nil => exact nomatch hc
  | @cons first name constants names hname _ ih =>
    rcases List.mem_cons.mp hc with rfl | hc
    · rw [IsNamed, if_neg (by simp [hfits])] at hname
      subst hname
      exact List.mem_cons_self
    · cases name with
      | none => exact List.mem_cons_of_mem _ (ih index hc)
      | some name => exact List.mem_append_right _ (ih (index + 1) hc)

end

/-! ## Names -/

/-- The names that a placed type brings along, in the order of its places. -/
def Placed.broughtNames (p : Placed) : List String :=
  p.slots.map (·.2.name) ++ (p.type.decl.constants.zip p.constants).filterMap (·.2)

/-- The constants of an enum have the names that are given, and the others none. -/
theorem map_name_constantVariables (constants : List (EnumConstant × Option String)) :
    (constantVariables constants).map (·.name) = constants.filterMap (·.2) := by
  induction constants with
  | nil => rfl
  | cons constant later ih =>
    rcases constant with ⟨c, name | name⟩
    · exact ih
    · exact congrArg (name :: ·) ih

/-- A declaration that becomes anything but an enum has no constants. -/
theorem constants_eq_nil {decl : TypeDecl} {target : Target} (h : target? decl = some target)
    (hother : target ≠ .enumeration) : decl.constants = [] := by
  obtain ⟨-, h⟩ := Option.ite_none_left_eq_some.mp h
  obtain rfl := Option.some.inj h
  unfold TypeDecl.constants
  split
  · next heq =>
    rw [heq] at hother
    exact absurd rfl hother
  · rfl

/-- A type that is no enum brings along its own name only. -/
theorem broughtNames_of_kind {t : TypeInfo} (h : t.kind ≠ .enumeration) :
    Export.broughtNames t = [t.name] := by
  rw [Export.broughtNames, if_neg h]

/-- What a placed type becomes brings along its name, and those of its constants. -/
theorem exists_content_own (version : Version) (s : Setting) {placed : List Placed} {p : Placed}
    (hp : p ∈ placed) (hdecl : target? p.type.decl = some p.type.target) :
    ∃ t, Content version s placed p.handle t ∧ Export.broughtNames t =
      p.name :: (p.type.decl.constants.zip p.constants).filterMap (·.2) := by
  have hkind : (p.derived version s.scope).kind = p.type.target.typeKind := rfl
  -- Only an enum has constants, and so their names.
  have hother : p.type.target ≠ .enumeration →
      [p.name] = p.name :: (p.type.decl.constants.zip p.constants).filterMap (·.2) := by
    intro hno
    rw [constants_eq_nil hdecl hno]
    rfl
  cases htarget : p.type.target with
  | interface binding =>
    obtain ⟨made, hmade⟩ := exists_mem_filling (s := s.withDefaults placed) hp (by rw [htarget]; rfl)
    refine ⟨_, .interface hmade, (broughtNames_of_kind ?_).trans (hother (by simp [htarget]))⟩
    change (p.derived version s.scope).kind ≠ _
    rw [hkind, htarget]
    cases binding <;> exact TypeKind.noConfusion
  | coClass creatable binding =>
    refine ⟨_, .coClass hp (by rw [htarget]; rfl),
      (broughtNames_of_kind ?_).trans (hother (by simp [htarget]))⟩
    rw [hkind, htarget]
    exact TypeKind.noConfusion
  | record =>
    refine ⟨_, .record hp htarget, (broughtNames_of_kind ?_).trans (hother (by simp [htarget]))⟩
    change (p.derived version s.scope).kind ≠ _
    rw [hkind, htarget]
    exact TypeKind.noConfusion
  | enumeration =>
    rw [htarget] at hkind
    have henum : (p.filledEnum version s.scope).kind = .enumeration := hkind
    refine ⟨_, .enumeration hp htarget, ?_⟩
    rw [Export.broughtNames, if_pos henum]
    exact congrArg (p.name :: ·) (map_name_constantVariables _)

/-- The keys of placed types are those that were asked for. -/
theorem PlacedAs.map_broughtNames {n : NamedType} {p : Placed} (h : PlacedAs n p) :
    p.broughtNames.map Text.nameKey = n.placeKeys ++ n.ownConstantKeys := by
  unfold Placed.broughtNames NamedType.placeKeys NamedType.ownConstantKeys constantKeys
  rw [List.map_append, ← h.places, h.type, h.constants, List.map_map, List.map_map]
  rfl

namespace Built

variable {unit : Reflection} {resolver : Resolver} {settings : Settings}
  {references : List ReferencedLibrary} {classified : List Classified} {placed : List Placed}
  {refs : ReferenceTable} {d₀ d : Draft}

theorem nodup_ids (h : Built unit resolver settings references classified placed refs d₀ d) :
    (classified.map (·.id)).Nodup := by
  rw [← h.prepared.map_type, List.map_map]
  refine List.Nodup.map_on (fun p hp q hq hid => h.id_inj hp hq hid) ?_
  exact h.prepared.apart.nodup.of_map _

/-- The names that placed types bring along are apart. -/
theorem nodup_broughtNames (h : Built unit resolver settings references classified placed refs d₀ d) :
    ((placed.flatMap Placed.broughtNames).map Text.nameKey).Nodup := by
  obtain ⟨-, -, hnodup⟩ := named_apart resolver h.nodup_ids
  refine hnodup.sublist ?_
  have hnamed := h.prepared.named
  rw [List.map_flatMap]
  clear h
  generalize (nameTypes resolver classified).1 = named at hnamed
  induction hnamed with
  | nil => exact .slnil
  | @cons n p _ _ hplaced _ ih =>
    rw [List.flatMap_cons, List.flatMap_cons, hplaced.map_broughtNames]
    exact (placeKeys_append_sublist n).append ih

/-- What stands in the places of a type brings along its names. -/
theorem broughtNames_handles (h : Built unit resolver settings references classified placed refs d₀ d)
    {p : Placed} (hp : p ∈ placed) :
    (p.handles.flatMap fun k => d.infos[k.index]?.toList.flatMap Export.broughtNames) =
      p.broughtNames := by
  obtain ⟨t, hcontent, hnames⟩ := exists_content_own (settings.attributes unit.identity).version
    (settingOf unit resolver settings refs) hp (h.type?_placed hp).2
  have hown := h.info_of_content hcontent
  unfold Placed.handles Placed.broughtNames Placed.slots
  cases hc : p.classInterface with
  | none => simp [hown, hnames, typePlaceholder]
  | some c =>
    have hmade := h.info_of_content (.classInterface hp hc)
    have hclass : Export.broughtNames (p.filledInterface (settings.attributes unit.identity).version
        (settingOf unit resolver settings refs).scope
        ((settingOf unit resolver settings refs).withDefaults placed) c) = [c.name] := by
      refine broughtNames_of_kind ?_
      change c.binding.typeKind ≠ _
      cases c.binding <;> exact TypeKind.noConfusion
    simp [hown, hmade, hnames, hclass, typePlaceholder, classPlaceholder]

/-- **The names of types and of constants are apart**, whatever the case. -/
theorem nodup_names (h : Built unit resolver settings references classified placed refs d₀ d) :
    ((d.infos.flatMap Export.broughtNames).map Text.nameKey).Nodup := by
  have hnames : d.infos.flatMap Export.broughtNames = placed.flatMap Placed.broughtNames :=
    calc d.infos.flatMap Export.broughtNames
      _ = (List.range d.types.length).flatMap
            fun i => d.infos[i]?.toList.flatMap Export.broughtNames := by
          rw [← d.length_infos, flatMap_getElem?]
      _ = (handlesOf placed).flatMap
            fun k => d.infos[k.index]?.toList.flatMap Export.broughtNames := by
          rw [h.handles, handlesFrom, List.flatMap_map, List.range_eq_range']
      _ = placed.flatMap fun p => p.handles.flatMap
            fun k => d.infos[k.index]?.toList.flatMap Export.broughtNames := List.flatMap_assoc
      _ = placed.flatMap Placed.broughtNames := List.flatMap_congr fun p hp => h.broughtNames_handles hp
  rw [hnames]
  exact h.nodup_broughtNames

end Built

/-! ## Libraries -/

namespace ExportedFrom

variable {unit : Reflection} {resolver : Resolver} {settings : Settings}
  {references : List ReferencedLibrary} {placed : List Placed} {refs : ReferenceTable} {d : Draft}
  {l : ExportedLibrary Library} {p : Placed}

/-- **The fields of a record of a library are accounted for.** -/
theorem fieldsTallied (h : ExportedFrom unit resolver settings references placed refs d l)
    (hlimit : settings.diagnostics.warningLimit = 0) (hp : p ∈ placed)
    (htarget : p.type.target = .record) : ∃ info, l.library.type? p.handle = some info ∧
      FieldsTallied (l.scope unit references) resolver p.type.decl l.diagnostics info.vars := by
  have htypes := h.types
  obtain ⟨classified, d₀, hbuilt⟩ := h.built
  obtain ⟨info, hinfo, hfields⟩ := h.fieldsFrom hp htarget
  refine ⟨info, hinfo, hfields.length_eq.symm, fun k f hf => ?_, fun f hf hpublic hno => ?_⟩
  · have hfilled : l.library.type? p.handle = _ :=
      (congrArg (·[p.handle.index]?) htypes).trans (hbuilt.info_of_content (.record hp htarget))
    obtain rfl := Option.some.inj (hinfo.symm.trans hfilled)
    obtain ⟨hmem, hdescribes⟩ := List.mem_filter.mp (List.mem_of_getElem? hf)
    rw [← h.filter_describesField hp] at hf
    obtain ⟨described, hdescribed, hvariable⟩ := getElem?_fieldVariables _ p.type.decl 0 hf
    rw [Nat.zero_add] at hvariable
    refine ⟨described, ?_, hvariable⟩
    rw [h.describe_field hp hmem (Bool.and_eq_true_iff.mp hdescribes).1]
    exact hdescribed
  · unfold Scope.describesField at hno
    rw [h.describe_field hp hf hpublic] at hno
    cases hdescribed : ((settingOf unit resolver settings refs).withDefaults placed).scope.describe
        f.type f.marshal fieldPosition with
    | ok described =>
      rw [hdescribed] at hno
      exact Bool.noConfusion hno
    | error error =>
      have hraised := raise_mem_fieldsSteps (p := p) 0
        (List.mem_filter.mpr ⟨hf, hpublic⟩) hdescribed
      have hsteps : recordSteps ((settingOf unit resolver settings refs).withDefaults placed) p =
          fieldsSteps ((settingOf unit resolver settings refs).withDefaults placed) p 0
            (p.type.decl.fields.filter (·.isPublic)) := by
        rw [recordSteps, htarget]
      obtain ⟨e, he, hcode, hsubject, -⟩ := h.exists_kept hlimit
        (mem_said.mpr (record_mem_contents hp (hsteps ▸ hraised)))
      exact ⟨e, he, hcode, hsubject⟩

/-- **The constants of an enum of a library are accounted for.** -/
theorem constantsTallied (h : ExportedFrom unit resolver settings references placed refs d l)
    (hlimit : settings.diagnostics.warningLimit = 0) (hp : p ∈ placed)
    (htarget : p.type.target = .enumeration) : ∃ info, l.library.type? p.handle = some info ∧
      ConstantsTallied resolver p.type.decl l.diagnostics info.vars := by
  have htypes := h.types
  obtain ⟨classified, d₀, hbuilt⟩ := h.built
  obtain ⟨n, hn, hplaced⟩ := PlacedAs.forall_mem hbuilt.prepared.named p hp
  have hnamed := isNamed_of_mem hn
  rw [← hplaced.type, ← hplaced.constants] at hnamed
  unfold Library.type?
  rw [htypes]
  refine ⟨_, hbuilt.info_of_content (.enumeration hp htarget), isConstant_constantVariables hnamed,
    fun c hc hfits => ?_⟩
  have hraised := raise_mem_constantsSteps (p := p) 0 hnamed hc hfits
  have hsteps : enumSteps p = constantsSteps p 0 (p.type.decl.constants.zip p.constants) := by
    rw [enumSteps, htarget]
  obtain ⟨e, he, hcode, hsubject, -⟩ := h.exists_kept hlimit
    (mem_said.mpr (enum_mem_contents hp (hsteps ▸ hraised)))
  exact ⟨e, he, hcode, hsubject⟩

theorem variablesAccounted (h : ExportedFrom unit resolver settings references placed refs d l)
    (hlimit : settings.diagnostics.warningLimit = 0) :
    VariablesAccounted unit resolver references l := by
  obtain ⟨classified, d₀, hbuilt⟩ := h.built
  refine ⟨fun id hid decl hdecl htarget => ?_, fun id hid decl hdecl htarget => ?_, ?_⟩
  · obtain ⟨p, hp, htype⟩ := h.exists_placed hid hdecl htarget
    have htallied := h.fieldsTallied hlimit hp (by rw [htype])
    rwa [← h.info?_eq hp, htype] at htallied
  · obtain ⟨p, hp, htype⟩ := h.exists_placed hid hdecl htarget
    have htallied := h.constantsTallied hlimit hp (by rw [htype])
    rwa [← h.info?_eq hp, htype] at htallied
  · rw [h.types]
    exact hbuilt.nodup_names

end ExportedFrom

/-- **All variables are accounted for.** In every library that a successful run without a limit on
warnings writes out, the variables of a record are its public fields that can be described, and those of
an enum its constants whose values fit, in the order of the declarations; of every other public field or
constant it is said that it is left out. The names of the constants are apart from each other, from those
of all other enums and from those of the types. -/
theorem variables_run {job : Job} {out : Output Library} (h : job.toMemory = .ok out)
    (hlimit : job.settings.diagnostics.warningLimit = 0) :
    out.Forall job fun unit _ references l => VariablesAccounted unit job.resolver references l := by
  obtain ⟨hdependencies, -, unit, hunit, placed, refs, d, hmain⟩ := madeInTurn_run h
  obtain rfl := List.mem_singleton.mp hunit
  refine ⟨hmain.variablesAccounted hlimit, fun k l hl => ?_⟩
  obtain ⟨-, unit, hunit, placed, refs, d, hexported⟩ := hdependencies k l hl
  exact ⟨unit, hunit, hexported.unitName, hexported.variablesAccounted hlimit⟩

/-- A unit with a record and an enum. One field of the record is not public and one is of a generic type;
one constant of the enum is too large, and one goes by the name of the record. -/
def bookkeeping : Job where
  unit := SourceUnit.reflection
    { identity := { name := "Bookkeeping", version := { major := 1 }, guid := some (Guid.ofBytes [9]) }
      types :=
        [{ space := "N", name := "Entry", guid := some (Guid.ofBytes [1])
           body := .record
             [{ name := "key", type := .scalar .i32, isPublic := false },
              { name := "amount", type := .scalar .i64, doc := some "In cents." },
              { name := "tag", type := .generic "T" }, { name := "note", type := .text }] },
         { space := "N", name := "Side", guid := some (Guid.ofBytes [2])
           body := .enumeration .i64
             [{ name := "Debit", value := -1 }, { name := "All", value := 0x100000000 },
              { name := "Entry", value := 1, exportName := some "entry", doc := some "Any." }] }] }

/-- The other fields and constants keep their ids, values and documentation, and the name of the record is
its own. -/
theorem bookkeeping_accounted : ∃ out, bookkeeping.toMemory = .ok out ∧
    ([0, 1].map fun id => (out.main.info? id).map (·.vars)) =
      [some
        [{ desc := { memid := 0x40000000, content := .field { type := .base .i8 } }
           name := "amount", doc := some "In cents." },
         { desc := { memid := 0x40000001, content := .field { type := .base .bstr } }, name := "note" }],
       some
        [{ desc := { memid := MemberId.none, content := .constant (.i4 (-1)) }, name := "Side_Debit" },
         { desc := { memid := MemberId.none, content := .constant (.i4 1) }
           name := "entry_2", doc := some "Any." }]] ∧
    out.main.diagnostics.map (·.subject) =
      [some "N.Side.Entry", some "N.Entry.tag", some "N.Side.All"] ∧
    VariablesAccounted bookkeeping.unit bookkeeping.resolver [] out.main := by
  obtain ⟨out, h, hview⟩ : ∃ out, bookkeeping.toMemory = .ok out ∧
      ([0, 1].map fun id => (out.main.info? id).map (·.vars),
        out.main.diagnostics.map (·.subject), out.dependencies.length) =
      ([some
        [{ desc := { memid := 0x40000000, content := .field { type := .base .i8 } }
           name := "amount", doc := some "In cents." },
         { desc := { memid := 0x40000001, content := .field { type := .base .bstr } }, name := "note" }],
       some
        [{ desc := { memid := MemberId.none, content := .constant (.i4 (-1)) }, name := "Side_Debit" },
         { desc := { memid := MemberId.none, content := .constant (.i4 1) }
           name := "entry_2", doc := some "Any." }]],
       [some "N.Side.Entry", some "N.Entry.tag", some "N.Side.All"], 0) :=
    Job.exists_output (by decide +kernel)
  simp only [Prod.mk.injEq, List.length_eq_zero_iff] at hview
  obtain ⟨hvars, hdiagnostics, hnone⟩ := hview
  have haccounted := (variables_run h rfl).1
  rw [hnone] at haccounted
  exact ⟨out, h, hvars, hdiagnostics, haccounted⟩

end Automation.Export
