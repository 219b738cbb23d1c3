import Automation.Proofs.Export.Names

/-!
# Names over the course of time

A registry is asked for names one after another: types register, and other names are reserved. At
every point the names that have been given are apart. A type changes its name once at most, when
another type asks for the same one, and then nobody gets that name any more: `orderly_of_nodup`.

No name is ever given back (`Extends`). The types that hold their plain names have them
(`Registered`), and only such a type gets another name (`Registered.typeName?_answer`).
-/

namespace Automation.Export

open Source

/-- What a registry is asked for. -/
inductive NameRequest where
  /-- A type registers. -/
  | type (candidate : Candidate)
  /-- A name is reserved for something that goes with a type. -/
  | reserve (subject wanted : String) (code : Diagnostic.Code)

/-- The type that registers. -/
def NameRequest.candidate? : NameRequest → Option Candidate
  | .type c => some c
  | .reserve _ _ _ => none

/-- The types that register, in order. -/
def candidates (requests : List NameRequest) : List Candidate :=
  requests.filterMap NameRequest.candidate?

theorem candidates_cons (request : NameRequest) (later : List NameRequest) :
    candidates (request :: later) = request.candidate?.toList ++ candidates later := by
  cases request <;> rfl

theorem candidates_append (requests later : List NameRequest) :
    candidates (requests ++ later) = candidates requests ++ candidates later :=
  List.filterMap_append

namespace NameRegistry

/-- The registry after a request. -/
def answer (r : NameRegistry) : NameRequest → NameRegistry
  | .type c => (r.addType c).1
  | .reserve subject wanted code => (r.reserve subject wanted code).2.1

/-- The name that is reserved by a request. -/
def reserved? (r : NameRegistry) : NameRequest → Option String
  | .type _ => none
  | .reserve subject wanted code => some (r.reserve subject wanted code).1

/-- The registry after some requests. -/
def after (r : NameRegistry) (requests : List NameRequest) : NameRegistry :=
  requests.foldl answer r

/-- The names that are reserved by some requests, in order. -/
def reserved (r : NameRegistry) : List NameRequest → List String
  | [] => []
  | request :: later => (r.reserved? request).toList ++ (r.answer request).reserved later

theorem after_append (r : NameRegistry) (requests later : List NameRequest) :
    r.after (requests ++ later) = (r.after requests).after later :=
  List.foldl_append

variable {r r' r'' : NameRegistry}

/-! ## A type gets a name -/

/-- The registry with a name given to a type. -/
def assign (r : NameRegistry) (id : TypeId) (name : String) (use : NameUse) : NameRegistry :=
  { r.record name use with assigned := (id, name) :: r.assigned }

theorem typeName?_record (r : NameRegistry) (name : String) (use : NameUse) (id : TypeId) :
    (r.record name use).typeName? id = r.typeName? id := rfl

theorem typeName?_assign (r : NameRegistry) (id : TypeId) (name : String) (use : NameUse)
    (other : TypeId) :
    (r.assign id name use).typeName? other = if other = id then some name else r.typeName? other := by
  unfold assign typeName?
  rw [List.lookup_cons]
  by_cases hother : other = id
  · simp [hother]
  · rw [if_neg hother, beq_false_of_ne hother]

theorem lookup_record (r : NameRegistry) (name : String) (use : NameUse) (key : String) :
    (r.record name use).uses.lookup key =
      if key = Text.nameKey name then some use else r.uses.lookup key := by
  unfold record
  rw [List.lookup_cons]
  by_cases hkey : key = Text.nameKey name
  · simp [hkey]
  · rw [if_neg hkey, beq_false_of_ne hkey]

theorem rename_eq (r : NameRegistry) (c : Candidate) :
    (r.rename c).1 = r.assign c.id (r.freeName c.prefixed) .reserved := rfl

/-- What the registry becomes when a type registers. -/
inductive AddTypeOutcome (r : NameRegistry) (c : Candidate) : NameRegistry → Prop where
  /-- The plain name is free. -/
  | plain (free : Text.nameKey c.name ∉ r.keys) :
    AddTypeOutcome r c (r.assign c.id c.name (.held c))
  /-- Another type holds the name. Both are renamed. -/
  | collision {holder : Candidate}
    (held : r.uses.lookup (Text.nameKey c.name) = some (.held holder)) :
    AddTypeOutcome r c (((r.record c.name .contested).rename holder).1.rename c).1
  | behind (taken : Text.nameKey c.name ∈ r.keys) : AddTypeOutcome r c (r.rename c).1

theorem addTypeOutcome (r : NameRegistry) (c : Candidate) :
    AddTypeOutcome r c (r.addType c).1 := by
  have htaken : Text.nameKey c.name ∈ r.keys ↔ (r.uses.lookup (Text.nameKey c.name)).isSome :=
    isTaken_iff.symm
  unfold addType
  split
  · next hnone => exact .plain (by simp [htaken, hnone])
  · next holder hheld => exact .collision hheld
  · next hcontested => exact .behind (by simp [htaken, hcontested])
  · next hreserved => exact .behind (by simp [htaken, hreserved])

/-! ## No name is given back -/

/-- Names in use stay in use, and a type keeps its name or gets one that was free. -/
structure Extends (r r' : NameRegistry) : Prop where
  keys : ∀ key ∈ r.keys, key ∈ r'.keys
  fresh : ∀ {id name}, r'.typeName? id = some name →
    r.typeName? id = some name ∨ Text.nameKey name ∉ r.keys

theorem Extends.refl (r : NameRegistry) : Extends r r := ⟨fun _ h => h, .inl⟩

theorem Extends.trans (h : Extends r r') (h' : Extends r' r'') : Extends r r'' :=
  ⟨fun key hkey => h'.keys key (h.keys key hkey), fun hname =>
    (h'.fresh hname).elim h.fresh fun hnew => .inr fun hmem => hnew (h.keys _ hmem)⟩

theorem extends_record (r : NameRegistry) (name : String) (use : NameUse) :
    Extends r (r.record name use) :=
  ⟨fun _ hkey => List.mem_cons_of_mem _ hkey, .inl⟩

theorem extends_assign {id : TypeId} {name : String} {use : NameUse}
    (hnew : Text.nameKey name ∉ r.keys) : Extends r (r.assign id name use) := by
  refine ⟨fun _ hkey => List.mem_cons_of_mem _ hkey, fun {other n} hn => ?_⟩
  rw [typeName?_assign] at hn
  split at hn
  · obtain rfl := Option.some.inj hn
    exact .inr hnew
  · exact .inl hn

theorem extends_rename (r : NameRegistry) (c : Candidate) : Extends r (r.rename c).1 :=
  extends_assign (r.nameKey_freeName c.prefixed)

theorem extends_answer (r : NameRegistry) (request : NameRequest) : Extends r (r.answer request) := by
  cases request with
  | reserve subject wanted code => exact extends_record r _ _
  | type c =>
    have hcases := addTypeOutcome r c
    change Extends r (r.addType c).1
    generalize (r.addType c).1 = r' at hcases ⊢
    cases hcases with
    | plain free => exact extends_assign free
    | collision => exact (extends_record r _ _).trans ((extends_rename _ _).trans (extends_rename _ _))
    | behind => exact extends_rename r c

theorem extends_after (r : NameRegistry) (requests : List NameRequest) :
    Extends r (r.after requests) := by
  induction requests generalizing r with
  | nil => exact .refl r
  | cons request later ih => exact (extends_answer r request).trans (ih _)

/-- What is reserved was free. -/
theorem nameKey_reserved (r : NameRegistry) (requests : List NameRequest) :
    ∀ name ∈ r.reserved requests, Text.nameKey name ∉ r.keys := by
  induction requests generalizing r with
  | nil => exact fun _ h => (nomatch h)
  | cons request later ih =>
    intro name hname
    rcases List.mem_append.mp hname with hname | hname
    · cases request with
      | type c => exact (nomatch hname)
      | reserve subject wanted code =>
        obtain rfl : r.freeName wanted = name := Option.some.inj (Option.mem_toList.mp hname)
        exact r.nameKey_freeName wanted
    · exact fun hmem => ih _ name hname ((extends_answer r request).keys _ hmem)

/-! ## Types that hold their names -/

/-- The types that have registered have names, and some of them hold their plain names still. -/
structure Registered (r : NameRegistry) (added : List Candidate) : Prop where
  sound : Sound r
  ids : (added.map (·.id)).Nodup
  named : ∀ c ∈ added, (r.typeName? c.id).isSome
  asked : ∀ c ∈ added, Text.nameKey c.name ∈ r.keys
  held : ∀ {key c}, r.uses.lookup key = some (.held c) →
    c ∈ added ∧ Text.nameKey c.name = key ∧ r.typeName? c.id = some c.name

variable {added : List Candidate} {c : Candidate}

theorem eq_of_id (hids : (added.map (·.id)).Nodup) {c c' : Candidate} (hc : c ∈ added)
    (hc' : c' ∈ added) (hid : c.id = c'.id) : c = c' :=
  List.inj_on_of_nodup_map hids hc hc' hid

theorem registered_empty : Registered {} [] :=
  ⟨sound_empty, .nil, fun _ h => (nomatch h), fun _ h => (nomatch h), fun h => (nomatch h)⟩

/-- A name that is recorded as given to no type that holds it. -/
theorem Registered.record (h : Registered r added) (name : String) {use : NameUse}
    (huse : ∀ c, use ≠ .held c) : Registered (r.record name use) added where
  sound := h.sound.record name use
  ids := h.ids
  named := h.named
  asked c hc := List.mem_cons_of_mem _ (h.asked c hc)
  held {key c} hheld := by
    rw [lookup_record] at hheld
    split at hheld
    · exact (huse c (Option.some.inj hheld)).elim
    · exact h.held hheld

/-- A type that does not hold its plain name gets another name. -/
theorem Registered.rename (h : Registered r added) (hc : c ∈ added)
    (hheld : ∀ key, r.uses.lookup key ≠ some (.held c)) : Registered (r.rename c).1 added where
  sound := (h.sound.rename c).1
  ids := h.ids
  named c' hc' := (h.sound.rename c).2.1 c'.id (h.named c' hc')
  asked c' hc' := List.mem_cons_of_mem _ (h.asked c' hc')
  held {key c'} hheld' := by
    rw [rename_eq] at hheld' ⊢
    change (r.record _ _).uses.lookup key = _ at hheld'
    rw [lookup_record] at hheld'
    split at hheld'
    · exact NameUse.noConfusion (Option.some.inj hheld')
    · obtain ⟨hadded, hkey, hname⟩ := h.held hheld'
      refine ⟨hadded, hkey, ?_⟩
      rw [typeName?_assign, if_neg, hname]
      intro hid
      exact hheld key (eq_of_id h.ids hadded hc hid ▸ hheld')

/-- A further type gets its plain name, or another one if that is in use. -/
theorem Registered.arrive (h : Registered r added) (hid : c.id ∉ added.map (·.id)) {name : String}
    {use : NameUse} (hnew : Text.nameKey name ∉ r.keys)
    (huse : use = .held c ∧ name = c.name ∨ use = .reserved ∧ Text.nameKey c.name ∈ r.keys) :
    Registered (r.assign c.id name use) (added ++ [c]) := by
  obtain ⟨hsound, hkeeps, hsome⟩ : Sound (r.assign c.id name use) ∧
      Keeps r (r.assign c.id name use) ∧ ((r.assign c.id name use).typeName? c.id).isSome :=
    h.sound.assign hnew rfl rfl
  have hothers : ∀ c' ∈ added, c'.id ≠ c.id := fun c' hc' hsame =>
    hid (hsame ▸ List.mem_map_of_mem hc')
  refine ⟨hsound, ?ids, ?named, ?asked, fun {key c'} hheld => ?held⟩
  case ids =>
    rw [List.map_append]
    refine List.nodup_append.mpr ⟨h.ids, List.pairwise_singleton _ _, fun a ha b hb => ?_⟩
    obtain rfl := List.mem_singleton.mp hb
    rintro rfl
    exact hid ha
  case named =>
    refine List.forall_mem_append.mpr ⟨fun c' hc' => hkeeps _ (h.named c' hc'), ?_⟩
    exact List.forall_mem_singleton.mpr hsome
  case asked =>
    refine List.forall_mem_append.mpr ⟨fun c' hc' => List.mem_cons_of_mem _ (h.asked c' hc'), ?_⟩
    refine List.forall_mem_singleton.mpr ?_
    rcases huse with ⟨-, rfl⟩ | ⟨-, htaken⟩
    · exact List.mem_cons_self
    · exact List.mem_cons_of_mem _ htaken
  case held =>
    change (r.record _ _).uses.lookup key = _ at hheld
    rw [lookup_record] at hheld
    rw [typeName?_assign]
    split at hheld
    · next hkey =>
      rcases huse with ⟨rfl, rfl⟩ | ⟨rfl, -⟩
      · obtain rfl := NameUse.held.inj (Option.some.inj hheld)
        exact ⟨List.mem_append_right _ (List.mem_singleton_self _), hkey.symm, if_pos rfl⟩
      · exact NameUse.noConfusion (Option.some.inj hheld)
    · obtain ⟨hadded, hkey, hname⟩ := h.held hheld
      rw [if_neg (hothers c' hadded)]
      exact ⟨List.mem_append_left _ hadded, hkey, hname⟩

/-- When a second type asks for a name, the one that holds it gives it up. -/
theorem Registered.collide (h : Registered r added) {holder : Candidate} {name : String}
    (hheld : r.uses.lookup (Text.nameKey name) = some (.held holder)) :
    Registered ((r.record name .contested).rename holder).1 added := by
  obtain ⟨hadded, hkey, -⟩ := h.held hheld
  refine (h.record name fun _ => NameUse.noConfusion).rename hadded fun key hlookup => ?_
  rw [lookup_record] at hlookup
  split at hlookup
  · exact NameUse.noConfusion (Option.some.inj hlookup)
  · next hne => exact hne ((h.held hlookup).2.1.symm.trans hkey)

/-- **One request keeps track of the types that hold their names.** -/
theorem Registered.answer (h : Registered r added) (request : NameRequest)
    (hid : ∀ c ∈ request.candidate?, c.id ∉ added.map (·.id)) :
    Registered (r.answer request) (added ++ request.candidate?.toList) := by
  cases request with
  | reserve subject wanted code =>
    rw [show NameRequest.candidate? (.reserve subject wanted code) = none from rfl]
    rw [Option.toList_none, List.append_nil]
    exact h.record _ fun _ => NameUse.noConfusion
  | type c =>
    have hid := hid c rfl
    have hcases := addTypeOutcome r c
    change Registered (r.addType c).1 (added ++ [c])
    generalize (r.addType c).1 = r' at hcases ⊢
    cases hcases with
    | plain free => exact h.arrive hid free (.inl ⟨rfl, rfl⟩)
    | collision held =>
      refine (h.collide held).arrive hid (nameKey_freeName _ _) (.inr ⟨rfl, ?_⟩)
      exact List.mem_cons_of_mem _ List.mem_cons_self
    | behind taken => exact h.arrive hid (r.nameKey_freeName _) (.inr ⟨rfl, taken⟩)

/-- **A type that has been renamed keeps its name.** -/
theorem Registered.typeName?_answer (h : Registered r added) (hc : c ∈ added)
    (hname : r.typeName? c.id ≠ some c.name) (request : NameRequest)
    (hid : ∀ c ∈ request.candidate?, c.id ∉ added.map (·.id)) :
    (r.answer request).typeName? c.id = r.typeName? c.id := by
  cases request with
  | reserve subject wanted code => rfl
  | type c' =>
    have hne : c.id ≠ c'.id := fun hsame => hid c' rfl (hsame ▸ List.mem_map_of_mem hc)
    have hcases := addTypeOutcome r c'
    change (r.addType c').1.typeName? c.id = _
    generalize (r.addType c').1 = r' at hcases ⊢
    cases hcases with
    | plain => rw [typeName?_assign, if_neg hne]
    | behind => rw [rename_eq, typeName?_assign, if_neg hne]
    | @collision holder held =>
      obtain ⟨hadded, -, hplain⟩ := h.held held
      have hholder : c.id ≠ holder.id := fun hsame =>
        hname (eq_of_id h.ids hc hadded hsame ▸ hplain)
      rw [rename_eq, typeName?_assign, if_neg hne, rename_eq, typeName?_assign, if_neg hholder,
        typeName?_record]

/-! ## Sequences of requests -/

theorem Registered.after (h : Registered r added) (requests : List NameRequest)
    (hids : ((added ++ candidates requests).map (·.id)).Nodup) :
    Registered (r.after requests) (added ++ candidates requests) ∧
      ∀ c ∈ added, r.typeName? c.id ≠ some c.name →
        (r.after requests).typeName? c.id = r.typeName? c.id := by
  induction requests generalizing r added with
  | nil =>
    rw [show candidates [] = [] from rfl, List.append_nil]
    exact ⟨h, fun _ _ _ => rfl⟩
  | cons request later ih =>
    rw [candidates_cons, ← List.append_assoc] at hids ⊢
    have hid : ∀ c ∈ request.candidate?, c.id ∉ added.map (·.id) := by
      intro c hc hmem
      rw [List.map_append, List.map_append] at hids
      have hboth := (List.nodup_append.mp (List.nodup_append.mp hids).1).2.2
      exact hboth _ hmem _ (List.mem_map_of_mem (Option.mem_toList.mpr hc)) rfl
    obtain ⟨hlater, hkept⟩ := ih (h.answer request hid) hids
    refine ⟨hlater, fun c hc hname => ?_⟩
    have hsame := h.typeName?_answer hc hname request hid
    rw [← hsame] at hname ⊢
    exact hkept c (List.mem_append_left _ hc) hname

/-- The name that a type has after some requests. -/
def nameAfter (requests : List NameRequest) (c : Candidate) : Option String :=
  (after {} requests).typeName? c.id

/-- The names that there are after some requests: those of the types, and those that were reserved. -/
def namesAfter (requests : List NameRequest) : List String :=
  (candidates requests).filterMap (nameAfter requests) ++ reserved {} requests

/-- What can be said of names at all points of a sequence of requests. -/
structure Orderly (requests : List NameRequest) : Prop where
  /-- At every point the types that have registered have names, and all names are apart. -/
  apart : ∀ before later, requests = before ++ later →
    (∀ c ∈ candidates before, (nameAfter before c).isSome) ∧
      ((namesAfter before).map Text.nameKey).Nodup
  /-- A type that gets another name keeps that one. -/
  once : ∀ before between later, requests = before ++ between ++ later → ∀ c ∈ candidates before,
    nameAfter (before ++ between) c ≠ nameAfter before c →
      nameAfter requests c = nameAfter (before ++ between) c
  /-- Once a type has asked for a name, whether it has got it or not, that name is neither reserved
  nor given to a type any more. -/
  blocked : ∀ before later, requests = before ++ later → ∀ c ∈ candidates before,
    (∀ name ∈ reserved (after {} before) later, Text.nameKey name ≠ Text.nameKey c.name) ∧
      ∀ id name, (after {} requests).typeName? id = some name →
        Text.nameKey name = Text.nameKey c.name → (after {} before).typeName? id = some name
  /-- No type has a name any more that another one had to give up. -/
  vacated : ∀ before between later, requests = before ++ between ++ later → ∀ c ∈ candidates before,
    nameAfter before c = some c.name → nameAfter (before ++ between) c ≠ some c.name →
      ∀ id name, (after {} requests).typeName? id = some name →
        Text.nameKey name ≠ Text.nameKey c.name

theorem registered_after {requests : List NameRequest}
    (hids : ((candidates requests).map (·.id)).Nodup) :
    Registered (after {} requests) (candidates requests) :=
  (registered_empty.after requests hids).1

/-- The reserved names are apart. -/
theorem nodup_reserved (r : NameRegistry) (requests : List NameRequest) :
    ((r.reserved requests).map Text.nameKey).Nodup := by
  induction requests generalizing r with
  | nil => exact .nil
  | cons request later ih =>
    cases request with
    | type c => exact ih _
    | reserve subject wanted code =>
      refine List.nodup_cons.mpr ⟨fun hmem => ?_, ih _⟩
      obtain ⟨name, hname, hkey⟩ := List.mem_map.mp hmem
      have htaken : Text.nameKey (r.freeName wanted) ∈
          (r.answer (.reserve subject wanted code)).keys := List.mem_cons_self
      exact nameKey_reserved _ later name hname (hkey ▸ htaken)

theorem Sound.answer (h : Sound r) (request : NameRequest) : Sound (r.answer request) := by
  cases request with
  | type c => exact (h.addType c).1
  | reserve subject wanted code => exact h.record _ _

/-- No type gets the name that was reserved, nor had it before. -/
theorem Sound.reserved_ne (h : Sound r) (requests : List NameRequest) :
    ∀ name ∈ r.reserved requests, ∀ id n, (r.after requests).typeName? id = some n →
      Text.nameKey n ≠ Text.nameKey name := by
  induction requests generalizing r with
  | nil => exact fun _ hname => (nomatch hname)
  | cons request later ih =>
    intro name hname id n hn
    rcases List.mem_append.mp hname with hname | hname
    · cases request with
      | type c => exact (nomatch hname)
      | reserve subject wanted code =>
        obtain rfl : r.freeName wanted = name := Option.some.inj (Option.mem_toList.mp hname)
        intro hkey
        rcases (extends_after _ later).fresh hn with hbefore | hfresh
        · exact r.nameKey_freeName wanted (hkey ▸ h.taken hbefore)
        · exact hfresh (hkey ▸ List.mem_cons_self)
    · exact ih (h.answer request) name hname id n hn

/-- The names that there are after some requests are apart. -/
theorem nodup_namesAfter {requests : List NameRequest}
    (hids : ((candidates requests).map (·.id)).Nodup) :
    ((namesAfter requests).map Text.nameKey).Nodup := by
  have hregistered := registered_after hids
  unfold namesAfter
  rw [List.map_append]
  refine List.nodup_append.mpr ⟨?_, nodup_reserved {} requests, fun key hkey key' hkey' => ?_⟩
  · rw [List.Nodup, List.pairwise_map, List.pairwise_filterMap]
    refine (List.pairwise_map.mp hids).imp fun {c c'} hne name hname name' hname' hkey => ?_
    exact hne (hregistered.sound.apart hname hname' hkey)
  · obtain ⟨n, hn, rfl⟩ := List.mem_map.mp hkey
    obtain ⟨name, hname, rfl⟩ := List.mem_map.mp hkey'
    obtain ⟨c, -, hc⟩ := List.mem_filterMap.mp hn
    exact sound_empty.reserved_ne requests name hname c.id n hc

theorem mem_candidates_append {before later : List NameRequest} {c : Candidate}
    (hc : c ∈ candidates before) : c ∈ candidates (before ++ later) := by
  rw [candidates_append]
  exact List.mem_append_left _ hc

/-- Types keep different identifiers up to any point. -/
theorem nodup_before {before later : List NameRequest}
    (hids : ((candidates (before ++ later)).map (·.id)).Nodup) :
    ((candidates before).map (·.id)).Nodup := by
  rw [candidates_append, List.map_append] at hids
  exact (List.nodup_append.mp hids).1

/-- A type that does not have the name it asked for keeps the one that it has. -/
theorem nameAfter_append {before later : List NameRequest} {c : Candidate}
    (hids : ((candidates (before ++ later)).map (·.id)).Nodup) (hc : c ∈ candidates before)
    (hname : nameAfter before c ≠ some c.name) :
    nameAfter (before ++ later) c = nameAfter before c := by
  have hregistered := registered_after (nodup_before hids)
  rw [candidates_append] at hids
  unfold nameAfter
  rw [after_append]
  exact (hregistered.after later hids).2 c hc hname

/-- The name that a type asked for stays in use. -/
theorem typeName?_of_nameKey {before later : List NameRequest} {c : Candidate}
    (hids : ((candidates before).map (·.id)).Nodup) (hc : c ∈ candidates before) {id : TypeId}
    {name : String} (hname : (after {} (before ++ later)).typeName? id = some name)
    (hkey : Text.nameKey name = Text.nameKey c.name) :
    (after {} before).typeName? id = some name := by
  rw [after_append] at hname
  refine ((extends_after _ later).fresh hname).resolve_right (not_not_intro ?_)
  rw [hkey]
  exact (registered_after hids).asked c hc

/-- **The names of a registry are orderly** at all points, in whatever order types register and names
are reserved. -/
theorem orderly_of_nodup {requests : List NameRequest}
    (hids : ((candidates requests).map (·.id)).Nodup) : Orderly requests where
  apart before later hsplit := by
    subst hsplit
    have hbefore := nodup_before hids
    exact ⟨(registered_after hbefore).named, nodup_namesAfter hbefore⟩
  once before between later hsplit c hc hne := by
    subst hsplit
    have hbetween := nodup_before hids
    -- Before its name changes, the type has the name that it asked for.
    have hplain : nameAfter before c = some c.name := by
      by_contra hother
      exact hne (nameAfter_append hbetween hc hother)
    exact nameAfter_append hids (mem_candidates_append hc) (hplain ▸ hne)
  blocked before later hsplit c hc := by
    subst hsplit
    have hbefore := nodup_before hids
    refine ⟨fun name hname hkey => ?_, fun id name hname hkey =>
      typeName?_of_nameKey hbefore hc hname hkey⟩
    exact nameKey_reserved _ later name hname (hkey ▸ (registered_after hbefore).asked c hc)
  vacated before between later hsplit c hc hplain hother id name hname hkey := by
    subst hsplit
    have hbetween := nodup_before hids
    -- Only the type itself had the name before, and it has given it up.
    have hbefore : (after {} before).typeName? id = some name := by
      rw [List.append_assoc] at hname
      exact typeName?_of_nameKey (nodup_before hbetween) hc hname hkey
    obtain rfl : id = c.id := (registered_after (nodup_before hbetween)).sound.apart hbefore hplain hkey
    obtain rfl : name = c.name := Option.some.inj (hbefore.symm.trans hplain)
    have hlast : nameAfter (before ++ between ++ later) c = nameAfter (before ++ between) c :=
      nameAfter_append hids (mem_candidates_append hc) hother
    exact hother (hlast.symm.trans hname)

/-- Types that ask for one name, and reservations of names that they might get. -/
def widgets : List NameRequest :=
  [.type { id := 0, space := "A.B", qualified := "A.B.Widget", name := "Widget" },
    .reserve "A.B.Widget" "C_Widget" .typeRenamed,
    .type { id := 1, space := "C", qualified := "C.WIDGET", name := "WIDGET" },
    .reserve "C.WIDGET" "widget" .typeRenamed,
    .type { id := 2, space := "", qualified := "widget", name := "widget" },
    .type { id := 3, space := "D", qualified := "D.Gadget", name := "Gadget" }]

theorem widgets_orderly : ((candidates widgets).map (·.id)).Nodup ∧
    namesAfter widgets =
      ["A_B_Widget", "C_WIDGET_2", "widget_3", "Gadget", "C_Widget", "widget_2"] ∧
    Orderly widgets := by
  have hids : ((candidates widgets).map (·.id)).Nodup := by decide
  exact ⟨hids, by decide +kernel, orderly_of_nodup hids⟩

end NameRegistry

end Automation.Export
