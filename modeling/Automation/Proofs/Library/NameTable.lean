import Automation.Proofs.Library.Requests
import Mathlib.Data.List.ReduceOption

/-!
# The names that a draft has taken

A roster follows the requests that a draft accepts: the types, their variables with the names that
these have been given, and the names that constants of enums had before they were named again. A
draft has taken the names in use and those former ones, each once: `Draft.names_after`. So the names
it has taken are the names in use exactly if no constant that had a name was named again.
-/

namespace Automation.Library

/-! ## Rosters -/

/-- A type of a roster. -/
structure Roster.Entry where
  name : String
  kind : TypeKind
  /-- The names of the variables; none for a variable that was not named. -/
  labels : List (Option String) := []

/-- The types of a library, as they and their variables were named. -/
structure Roster where
  entries : List Roster.Entry := []
  /-- The names that constants of enums had before they were named again. -/
  former : List String := []

namespace Roster

namespace Entry

/-- The entry with a variable that has no name. -/
def insert (e : Entry) (index : Nat) : Entry :=
  { e with labels := e.labels.insertIdx index none }

/-- The entry with a name for a variable. -/
def rename (e : Entry) (index : Nat) (name : String) : Entry :=
  { e with labels := e.labels.set index (some name) }

/-- The name of a constant of an enum. -/
def constantName? (e : Entry) (index : Nat) : Option String :=
  if e.kind = .enumeration then e.labels[index]?.join else none

/-- The names that a type has in use: its own, and those of the constants of an enum. -/
def inUse (e : Entry) : List String :=
  e.name :: if e.kind = .enumeration then e.labels.reduceOption else []

/-- What a draft shows of a type. A variable without a name shows the empty one. -/
def outline (e : Entry) : String × TypeKind × List String :=
  (e.name, e.kind, e.labels.map (·.getD ""))

end Entry

/-- The roster with an entry changed. -/
def change (r : Roster) (type : Handle) (f : Entry → Entry) : Roster :=
  { r with entries := r.entries.modify type.index f }

/-- The name of a constant of an enum. -/
def constantName? (r : Roster) (type : Handle) (index : Nat) : Option String :=
  r.entries[type.index]?.bind (·.constantName? index)

/-- The roster after a request that was accepted. -/
def note (r : Roster) : {kind : ReplyKind} → Request kind → Roster
  | _, .createType name kind => { r with entries := r.entries ++ [{ name := name, kind := kind }] }
  | _, .addVariable type index _ => r.change type (·.insert index)
  | _, .setVariableName type index name =>
    { r.change type (·.rename index name) with
      former := r.former ++ (r.constantName? type index).toList }
  | _, _ => r

/-- The names of all types and of all constants of enums that have been named. -/
def inUse (r : Roster) : List String := r.entries.flatMap Entry.inUse

/-- The names in use and the former ones. -/
def names (r : Roster) : List String := r.inUse ++ r.former

end Roster

/-- What a roster says of a type. -/
def TypeInfo.outline (t : TypeInfo) : String × TypeKind × List String :=
  (t.name, t.kind, t.vars.map (·.name))

namespace Roster

variable {r : Roster} {e e' : Entry} {t : TypeInfo} {index : Nat} {name : String}

namespace Entry

theorem inUse_insert (hi : index ≤ e.labels.length) : (e.insert index).inUse.Perm e.inUse := by
  have hlabels : (e.labels.insertIdx index none).reduceOption.Perm e.labels.reduceOption :=
    (List.perm_insertIdx none e.labels hi).filterMap id
  unfold inUse insert
  dsimp only
  split
  · exact hlabels.cons e.name
  · exact .refl _

/-- A constant that is named again has its former name no more. -/
theorem inUse_rename (hi : index < e.labels.length) (henum : e.kind = .enumeration) :
    ((e.rename index name).inUse ++ (e.constantName? index).toList).Perm (name :: e.inUse) := by
  have hset := (List.set_perm_cons_eraseIdx hi (some name)).filterMap id
  have hold := (List.getElem_cons_eraseIdx_perm hi).filterMap id
  have hlabel : e.constantName? index = e.labels[index] := by
    simp [constantName?, henum, List.getElem?_eq_getElem hi]
  rw [hlabel]
  unfold inUse rename
  simp only [henum, if_true, List.reduceOption]
  refine List.perm_iff_count.mpr fun a => ?_
  have hset := hset.count_eq a
  have hold := hold.count_eq a
  cases hcurrent : e.labels[index] <;>
    simp only [hcurrent, List.filterMap_cons, id_eq, List.count_cons, List.count_append,
      Option.toList_none, Option.toList_some, List.count_nil] at hset hold ⊢ <;>
    omega

/-- The variables of other types use no names. -/
theorem inUse_rename_of_ne (hkind : e.kind ≠ .enumeration) :
    (e.rename index name).inUse ++ (e.constantName? index).toList = e.inUse := by
  simp [inUse, rename, constantName?, hkind]

theorem length_labels (h : e.outline = t.outline) : e.labels.length = t.vars.length := by
  have hvars := congrArg (fun o => o.2.2.length) h
  simpa [outline, TypeInfo.outline] using hvars

theorem kind_eq (h : e.outline = t.outline) : e.kind = t.kind := congrArg (·.2.1) h

theorem outline_insert (h : e.outline = t.outline) (index : Nat) (desc : VariableDesc) :
    (e.insert index).outline =
      ({ t with vars := t.vars.insertIdx index { desc := desc } } : TypeInfo).outline := by
  simp only [outline, TypeInfo.outline, Prod.mk.injEq] at h
  simp [outline, TypeInfo.outline, insert, List.map_insertIdx, h]

theorem outline_rename (h : e.outline = t.outline) (index : Nat) (v : VariableInfo) :
    (e.rename index v.name).outline = ({ t with vars := t.vars.set index v } : TypeInfo).outline := by
  simp only [outline, TypeInfo.outline, Prod.mk.injEq] at h
  simp [outline, TypeInfo.outline, rename, List.map_set, h]

end Entry

theorem entries_change {type : Handle} (he : r.entries[type.index]? = some e) (f : Entry → Entry) :
    (r.change type f).entries = r.entries.set type.index (f e) := by
  unfold change
  rw [List.modify_eq_set_getElem?, he]
  rfl

/-- What one entry uses more, or no more, the roster does. -/
theorem names_change {type : Handle} (he : r.entries[type.index]? = some e) (f : Entry → Entry)
    (more : List String) {gone : List String}
    (hnames : ((f e).inUse ++ gone).Perm (more ++ e.inUse)) :
    ((r.change type f).inUse ++ (r.former ++ gone)).Perm (more ++ r.names) := by
  obtain ⟨hi, rfl⟩ := List.getElem?_eq_some_iff.mp he
  have hsplit : r.entries =
      r.entries.take type.index ++ r.entries[type.index] :: r.entries.drop (type.index + 1) := by
    rw [List.getElem_cons_drop, List.take_append_drop]
  unfold names inUse
  rw [entries_change he, List.set_eq_take_cons_drop _ hi]
  conv_rhs => rw [hsplit]
  -- The entries before and behind the changed one are the same on both sides.
  refine List.perm_iff_count.mpr fun a => ?_
  have hcount := hnames.count_eq a
  simp only [List.flatMap_append, List.flatMap_cons, List.count_append] at hcount ⊢
  omega

theorem names_createType (r : Roster) (name : String) (kind : TypeKind) :
    (r.note (.createType name kind)).names.Perm (name :: r.names) := by
  have hinUse : (r.note (.createType name kind)).inUse = r.inUse ++ [name] := by
    simp [note, inUse, Entry.inUse, List.reduceOption]
  unfold names
  rw [hinUse, List.append_assoc]
  exact List.perm_middle

theorem names_addVariable {type : Handle} (he : r.entries[type.index]? = some e)
    (hi : index ≤ e.labels.length) (desc : VariableDesc) :
    (r.note (.addVariable type index desc)).names.Perm r.names := by
  have hentry : ((e.insert index).inUse ++ []).Perm ([] ++ e.inUse) := by
    simpa using Entry.inUse_insert hi
  have hnames := names_change he (·.insert index) [] hentry
  rw [List.append_nil, List.nil_append] at hnames
  exact hnames

theorem former_setVariableName {type : Handle} (he : r.entries[type.index]? = some e) :
    (r.note (.setVariableName type index name)).former =
      r.former ++ (e.constantName? index).toList := by
  have hconstant : r.constantName? type index = e.constantName? index := by
    simp [constantName?, he]
  rw [← hconstant]
  rfl

theorem names_setVariableName {type : Handle} (he : r.entries[type.index]? = some e)
    (hi : index < e.labels.length) (henum : e.kind = .enumeration) (name : String) :
    (r.note (.setVariableName type index name)).names.Perm (name :: r.names) := by
  unfold names
  rw [former_setVariableName he]
  exact names_change he (·.rename index name) [name] (Entry.inUse_rename hi henum)

theorem names_setVariableName_of_ne {type : Handle} (he : r.entries[type.index]? = some e)
    (hkind : e.kind ≠ .enumeration) (index : Nat) (name : String) :
    (r.note (.setVariableName type index name)).names.Perm r.names := by
  unfold names
  rw [former_setVariableName he]
  exact names_change he (·.rename index name) [] (.of_eq (Entry.inUse_rename_of_ne hkind))

end Roster

/-! ## Drafts and their rosters -/

namespace Draft

open Roster (Entry)

variable {d d' : Draft} {r : Roster} {h : Handle} {t t' : TypeInfo} {kind : ReplyKind}

/-- The roster shows the types of the draft, and the draft has taken each name that is or was in
use, once. -/
structure Tracks (d : Draft) (r : Roster) : Prop where
  entries : r.entries.map Entry.outline = d.infos.map TypeInfo.outline
  names : d.names.Perm (r.names.map Text.nameKey)
  nodup : d.names.Nodup

theorem tracks_empty : Tracks {} {} where
  entries := rfl
  names := .refl _
  nodup := .nil

theorem IsOpen.infos_setInfo (ho : d.IsOpen h t) (t' : TypeInfo) :
    (d.setInfo h t').infos = d.infos.set h.index t' := by
  unfold infos
  rw [ho.types_setInfo, List.map_set]

theorem IsOpen.infos_getElem? (ho : d.IsOpen h t) : d.infos[h.index]? = some t := by
  unfold infos
  rw [List.getElem?_map, ho]
  rfl

/-- A type that looks as before leaves all types looking as before. -/
theorem IsOpen.outline_setInfo (ho : d.IsOpen h t) (houtline : t'.outline = t.outline) :
    (d.setInfo h t').infos.map TypeInfo.outline = d.infos.map TypeInfo.outline := by
  obtain ⟨hi, hinfo⟩ := List.getElem?_eq_some_iff.mp ho.infos_getElem?
  have hi' : h.index < (d.infos.map TypeInfo.outline).length := by simpa using hi
  have hsame := List.set_getElem_self hi'
  rw [List.getElem_map, hinfo] at hsame
  rw [ho.infos_setInfo, List.map_set, houtline, hsame]

namespace Tracks

theorem of_outline (hr : d.Tracks r) (hnames : d'.names = d.names)
    (hinfos : d'.infos.map TypeInfo.outline = d.infos.map TypeInfo.outline) : d'.Tracks r where
  entries := hr.entries.trans hinfos.symm
  names := hnames ▸ hr.names
  nodup := hnames ▸ hr.nodup

theorem exists_entry (hr : d.Tracks r) (ho : d.IsOpen h t) :
    ∃ e, r.entries[h.index]? = some e ∧ e.outline = t.outline := by
  have hget := congrArg (·[h.index]?) hr.entries
  simp only [List.getElem?_map, ho.infos_getElem?, Option.map_some] at hget
  exact Option.map_eq_some_iff.mp hget

/-- An open type and its entry change alike. -/
theorem entries_change (hr : d.Tracks r) (ho : d.IsOpen h t) {e : Entry}
    (he : r.entries[h.index]? = some e) {f : Entry → Entry} (houtline : (f e).outline = t'.outline) :
    (r.change h f).entries.map Entry.outline = (d.setInfo h t').infos.map TypeInfo.outline := by
  rw [Roster.entries_change he, List.map_set, houtline, hr.entries, ho.infos_setInfo, List.map_set]

/-- A change that no name is part of. -/
theorem change (hr : d.Tracks r) {f : TypeInfo → Except BuildError TypeInfo}
    (hf : ∀ t t', f t = .ok t' → t'.outline = t.outline) (hd : d.change h f = .ok d') :
    d'.Tracks r := by
  obtain ⟨t, t', ho, ht, rfl⟩ := exists_of_change hd
  exact hr.of_outline rfl (ho.outline_setInfo (hf t t' ht))

/-- A change of the functions of a type. -/
theorem changeFunctions (hr : d.Tracks r) {g : TypeInfo → Except BuildError (List FunctionInfo)}
    (hd : (d.change h fun t => do return { t with functions := ← g t }) = .ok d') :
    d'.Tracks r := by
  refine hr.change (fun t t' ht => ?_) hd
  obtain ⟨functions, -, hinfo⟩ := exists_of_bind ht
  obtain rfl := Except.ok.inj hinfo
  rfl

theorem addImplemented (hr : d.Tracks r) {index : Nat} {ref : TypeRef} {flags : ImplementedFlags}
    (hd : d.addImplemented h index ref flags = .ok d') : d'.Tracks r := by
  unfold Draft.addImplemented at hd
  obtain ⟨owner, -, hd⟩ := exists_of_bind hd
  split at hd
  · obtain ⟨_, hthrow, -⟩ := exists_of_bind hd
    exact Except.noConfusion rfl rfl (heq_of_eq hthrow)
  · refine hr.change (fun t t' ht => ?_) hd
    split at ht
    · obtain ⟨implemented, -, hinfo⟩ := exists_of_bind ht
      obtain rfl := Except.ok.inj hinfo
      rfl
    · exact Except.noConfusion rfl rfl (heq_of_eq ht)

theorem addFunction (hr : d.Tracks r) {index : Nat} {desc : FunctionDesc}
    (hd : d.addFunction h index desc = .ok d') : d'.Tracks r := by
  refine hr.change (fun t t' ht => ?_) hd
  split at ht
  · obtain ⟨_, hthrow, -⟩ := exists_of_bind ht
    exact Except.noConfusion rfl rfl (heq_of_eq hthrow)
  · obtain ⟨functions, -, hinfo⟩ := exists_of_bind ht
    obtain rfl := Except.ok.inj hinfo
    rfl

theorem setVariableDoc (hr : d.Tracks r) {index : Nat} {doc : String}
    (hd : d.setVariableDoc h index doc = .ok d') : d'.Tracks r := by
  refine hr.change (fun t t' ht => ?_) hd
  obtain ⟨vars, hmodify, hinfo⟩ := exists_of_bind ht
  obtain rfl := Except.ok.inj hinfo
  obtain ⟨hi, v, hv, rfl⟩ := exists_of_modifyAt hmodify
  obtain rfl := Except.ok.inj hv
  exact congrArg (fun names => (t.name, t.kind, names)) (map_name_set hi rfl)

/-- A further variable has no name. -/
theorem addVariable (hr : d.Tracks r) {index : Nat} {desc : VariableDesc}
    (hd : d.addVariable h index desc = .ok d') : d'.Tracks (r.note (.addVariable h index desc)) := by
  obtain ⟨t, t', ho, ht, rfl⟩ := exists_of_change hd
  split at ht
  · obtain ⟨_, hthrow, -⟩ := exists_of_bind ht
    exact Except.noConfusion rfl rfl (heq_of_eq hthrow)
  · obtain ⟨vars, hinsert, hinfo⟩ := exists_of_bind ht
    obtain rfl := Except.ok.inj hinfo
    obtain ⟨hi, rfl⟩ := exists_of_insertAt hinsert
    obtain ⟨e, he, houtline⟩ := hr.exists_entry ho
    have hnames := Roster.names_addVariable he ((Entry.length_labels houtline).symm ▸ hi) desc
    exact ⟨hr.entries_change ho he (Entry.outline_insert houtline index desc),
      hr.names.trans (hnames.symm.map Text.nameKey), hr.nodup⟩

/-- A constant that is named again takes its new name, and its former one stays taken. -/
theorem setVariableName (hr : d.Tracks r) {index : Nat} {name : String}
    (hd : d.setVariableName h index name = .ok d') :
    d'.Tracks (r.note (.setVariableName h index name)) := by
  unfold Draft.setVariableName at hd
  obtain ⟨renamed, hchange, hd⟩ := exists_of_bind hd
  obtain ⟨owner, howner, hd⟩ := exists_of_bind hd
  obtain ⟨t, t', ho, ht, rfl⟩ := exists_of_change hchange
  obtain rfl := Except.ok.inj (ho.info_eq.symm.trans howner)
  obtain ⟨vars, hmodify, hinfo⟩ := exists_of_bind ht
  obtain rfl := Except.ok.inj hinfo
  obtain ⟨hi, v, hv, rfl⟩ := exists_of_modifyAt hmodify
  obtain rfl := Except.ok.inj hv
  obtain ⟨e, he, houtline⟩ := hr.exists_entry ho
  -- The entry changes in any case; only the constant of an enum takes the name.
  have hentries := hr.entries_change ho he (f := (·.rename index name))
    (Entry.outline_rename houtline index { t.vars[index] with name := name })
  have hkind := Entry.kind_eq houtline
  split at hd
  · next henum =>
    have hnames := Roster.names_setVariableName he ((Entry.length_labels houtline).symm ▸ hi)
      (hkind.trans henum) name
    obtain ⟨hfree, rfl⟩ := exists_of_claim hd
    exact ⟨hentries, (hr.names.cons _).trans (hnames.symm.map Text.nameKey),
      List.nodup_cons.mpr ⟨hfree, hr.nodup⟩⟩
  · next henum =>
    have hnames := Roster.names_setVariableName_of_ne he
      (fun hkind' => henum (hkind.symm.trans hkind')) index name
    obtain rfl := Except.ok.inj hd
    exact ⟨hentries, hr.names.trans (hnames.symm.map Text.nameKey), hr.nodup⟩

theorem createType (hr : d.Tracks r) {name : String} {kind : TypeKind} {answer : Draft × Handle}
    (hd : d.createType name kind = .ok answer) :
    answer.1.Tracks (r.note (.createType name kind)) := by
  unfold Draft.createType at hd
  obtain ⟨claimed, hclaim, hd⟩ := exists_of_bind hd
  obtain rfl := Except.ok.inj hd
  obtain ⟨hfree, rfl⟩ := exists_of_claim hclaim
  refine ⟨?_, ?_, List.nodup_cons.mpr ⟨hfree, hr.nodup⟩⟩
  · unfold infos
    rw [List.map_append, List.map_append, ← infos, ← hr.entries]
    simp [Roster.note, Entry.outline, TypeInfo.outline]
  · exact (hr.names.cons _).trans ((Roster.names_createType r name kind).symm.map Text.nameKey)

theorem addImport (hr : d.Tracks r) (library : ImportedLibrary) :
    (d.addImport library).1.Tracks r := by
  unfold Draft.addImport
  split
  · exact hr
  · exact hr.of_outline rfl rfl

/-- The layout of a type is not about names. -/
theorem layOut (hr : d.Tracks r) (h : Handle) : (d.layOut h).2.Tracks r := by
  have hfinish : ∀ {d : Draft}, d.Tracks r → (d.finish h).Tracks r := fun hd =>
    hd.of_outline rfl (congrArg _ (sameTypes_finish _ h).infos)
  have hcases := layOutOutcome d h
  generalize d.layOut h = result at hcases ⊢
  cases hcases with
  | refused => exact hr
  | faulty isOpen => exact hr.of_outline rfl (isOpen.outline_setInfo rfl)
  | interface isOpen => exact hfinish (hr.of_outline rfl (isOpen.outline_setInfo rfl))
  | other isOpen => exact hfinish hr

theorem settle {α : Type} {r' : Roster} (hr : d.Tracks r) {outcome : Except BuildError (Draft × α)}
    (hok : ∀ answer, outcome = .ok answer → answer.1.Tracks r') :
    (d.settle outcome).2.Tracks (if (d.settle outcome).1.isOk then r' else r) := by
  cases outcome with
  | error error => exact hr
  | ok answer => exact hok answer rfl

theorem settleDone {r' : Roster} (hr : d.Tracks r) {outcome : Except BuildError Draft}
    (hok : ∀ d', outcome = .ok d' → d'.Tracks r') :
    (d.settleDone outcome).2.Tracks (if (d.settleDone outcome).1.isOk then r' else r) := by
  cases outcome with
  | error error => exact hr
  | ok d' => exact hok d' rfl

end Tracks

/-- The roster after the answer to a request. -/
def rosterAfter (d : Draft) (r : Roster) (request : Sigma Request) : Roster :=
  if (d.answer request.2).1.isOk then r.note request.2 else r

/-- An answer keeps draft and roster in step. -/
theorem Tracks.answer (hr : d.Tracks r) (request : Request kind) :
    (d.answer request).2.Tracks (d.rosterAfter r ⟨kind, request⟩) := by
  have hdescribe : ∀ {h : Handle} {f : TypeInfo → TypeInfo}, (∀ t, (f t).outline = t.outline) →
      (d.settleDone (d.change h fun t => .ok (f t))).2.Tracks
        (if (d.settleDone (d.change h fun t => .ok (f t))).1.isOk then r else r) := fun hf =>
    hr.settleDone fun d' hd => hr.change (fun t t' ht => Except.ok.inj ht ▸ hf t) hd
  cases request with
  | setAttributes attributes => exact hr.of_outline rfl rfl
  | createType name kind => exact hr.settle fun answer hd => hr.createType hd
  | setGuid | setVersion | setFlags | setDoc => exact hdescribe fun t => rfl
  | addImplemented => exact hr.settleDone fun d' hd => hr.addImplemented hd
  | addFunction => exact hr.settleDone fun d' hd => hr.addFunction hd
  | addVariable => exact hr.settleDone fun d' hd => hr.addVariable hd
  | setFunctionNames | setFunctionDoc => exact hr.settleDone fun d' hd => hr.changeFunctions hd
  | setVariableName => exact hr.settleDone fun d' hd => hr.setVariableName hd
  | setVariableDoc => exact hr.settleDone fun d' hd => hr.setVariableDoc hd
  | addImport library => exact hr.addImport library
  | layOut type =>
    have hsame : d.rosterAfter r ⟨_, .layOut type⟩ = r := ite_self r
    exact hsame.symm ▸ hr.layOut type

/-- The roster after the answers to some requests. -/
def rostered (d : Draft) (r : Roster) : List (Sigma Request) → Roster
  | [] => r
  | request :: later => (d.answer request.2).2.rostered (d.rosterAfter r request) later

theorem Tracks.after (hr : d.Tracks r) (requests : List (Sigma Request)) :
    (d.after requests).Tracks (d.rostered r requests) := by
  induction requests generalizing d r with
  | nil => exact hr
  | cons request later ih => exact ih (hr.answer request.2)

/-- The names that the draft has taken are those of the roster. -/
structure HasNamesOf (d : Draft) (r : Roster) : Prop where
  entries : r.entries.map Entry.outline = d.infos.map TypeInfo.outline
  nodup : d.names.Nodup
  keys : ∀ key, key ∈ d.names ↔ key ∈ r.names.map Text.nameKey
  /-- A further type is rejected if its name is or was in use, and only then. -/
  rejected : ∀ name kind, (d.answer (.createType name kind)).1 = .error (.duplicateName name) ↔
    Text.nameKey name ∈ r.names.map Text.nameKey
  /-- The names in use are all unless a constant was named again. -/
  inUse : (∀ key, key ∈ d.names ↔ key ∈ r.inUse.map Text.nameKey) ↔ r.former = []

namespace Tracks

theorem mem_names_iff (hr : d.Tracks r) (key : String) :
    key ∈ d.names ↔ key ∈ r.names.map Text.nameKey := hr.names.mem_iff

theorem answer_createType_eq_error_iff (hr : d.Tracks r) (name : String) (kind : TypeKind) :
    (d.answer (.createType name kind)).1 = .error (.duplicateName name) ↔
      Text.nameKey name ∈ r.names.map Text.nameKey := by
  rw [← hr.mem_names_iff]
  by_cases hfree : Text.nameKey name ∈ d.names
  · rw [answer_createType_error kind hfree]
    exact iff_of_true rfl hfree
  · rw [answer_createType kind hfree]
    exact iff_of_false (fun h => Except.noConfusion rfl rfl (heq_of_eq h)) hfree

/-- A former name is taken, but not in use. -/
theorem notMem_inUse (hr : d.Tracks r) {name : String} (hname : name ∈ r.former) :
    Text.nameKey name ∉ r.inUse.map Text.nameKey := by
  have hnodup : (r.inUse.map Text.nameKey ++ r.former.map Text.nameKey).Nodup := by
    rw [← List.map_append]
    exact hr.names.nodup_iff.mp hr.nodup
  exact fun huse => (List.nodup_append.mp hnodup).2.2 _ huse _ (List.mem_map_of_mem hname) rfl

theorem mem_inUse_iff (hr : d.Tracks r) :
    (∀ key, key ∈ d.names ↔ key ∈ r.inUse.map Text.nameKey) ↔ r.former = [] := by
  refine ⟨fun hkeys => ?_, fun hnone key => ?_⟩
  · refine List.eq_nil_iff_forall_not_mem.mpr fun name hname => hr.notMem_inUse hname ?_
    refine (hkeys _).mp ((hr.mem_names_iff _).mpr (List.mem_map_of_mem ?_))
    exact List.mem_append_right _ hname
  · rw [hr.mem_names_iff, Roster.names, hnone, List.append_nil]

end Tracks

/-- **A draft has taken the names in use and the former ones**, whatever has been asked. -/
theorem names_after (requests : List (Sigma Request)) :
    (after {} requests).HasNamesOf (rostered {} {} requests) :=
  have hr := tracks_empty.after requests
  { entries := hr.entries
    nodup := hr.nodup
    keys := hr.mem_names_iff
    rejected := hr.answer_createType_eq_error_iff
    inUse := hr.mem_inUse_iff }

/-- The constant of an enum is named, and named again. -/
def recolored : List (Sigma Request) :=
  [⟨_, .createType "Color" .enumeration⟩,
    ⟨_, .addVariable ⟨0⟩ 0 { memid := 0, content := .constant (.i4 0) }⟩,
    ⟨_, .setVariableName ⟨0⟩ 0 "Red"⟩,
    ⟨_, .setVariableName ⟨0⟩ 0 "Blue"⟩]

/-- The former name of a constant is refused to a type, though nothing has it any more. -/
theorem recolored_red : ¬∀ (requests : List (Sigma Request)) (name : String) (kind : TypeKind),
    ((after {} requests).answer (.createType name kind)).1 = .error (.duplicateName name) ↔
      Text.nameKey name ∈ (rostered {} {} requests).inUse.map Text.nameKey := by
  intro h
  have hrefused : ((after {} recolored).answer (.createType "Red" .record)).1 =
      .error (.duplicateName "Red") := by
    decide +kernel
  exact absurd ((h recolored "Red" .record).mp hrefused) (by decide +kernel)

end Draft

end Automation.Library
