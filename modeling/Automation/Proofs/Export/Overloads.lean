import Mathlib.Order.Bounds.Basic
import Automation.Proofs.Export.Functions
import Automation.Proofs.Export.References
import Automation.Proofs.NameKeys

/-!
# Names of functions told apart

Functions of different identities get different names, by numbers. The table of names in use only
grows, and a name in it keeps its identity (`lookup_ownersAfter`). So the whole table decides the name
that a function gets: the first form of its own name that the table gives to its identity
(`tellApart_isLeast`). `name_identifies` says from there that functions with one name share an
identity, and that telling names apart separates no functions of one identity.
-/

namespace Automation.Export

open Library Source

variable {owners : List (String × Nat)} {name key : String} {identity owner n : Nat}

/-! ## Free names -/

/-- Whether the form of a name with a number belongs to another identity. -/
def isOthers (owners : List (String × Nat)) (name : String) (identity n : Nat) : Bool :=
  match owners.lookup (Text.nameKey (Text.numbered name n)) with
  | some owner => owner != identity
  | none => false

theorem isOthers_iff : isOthers owners name identity n = true ↔
    ∃ owner, owners.lookup (Text.nameKey (Text.numbered name n)) = some owner ∧
      owner ≠ identity := by
  unfold isOthers
  cases owners.lookup (Text.nameKey (Text.numbered name n)) <;> simp

/-- The number of the form that an identity gets of a name. -/
def overloadNumber (owners : List (String × Nat)) (name : String) (identity : Nat) : Nat :=
  firstFree (isOthers owners name identity) (owners.length + 1) 1

theorem freeOverload_eq (owners : List (String × Nat)) (name : String) (identity : Nat) :
    freeOverload owners name identity =
      Text.numbered name (overloadNumber owners name identity) := rfl

/-- The search ends at a form that does not belong to another identity. -/
theorem isOthers_overloadNumber (owners : List (String × Nat)) (name : String) (identity : Nat) :
    isOthers owners name identity (overloadNumber owners name identity) = false := by
  refine not_taken_firstFree (fun n => Text.nameKey (Text.numbered name n)) (owners.map (·.1))
    (fun n _ htaken => ?_) (fun m n hm hn hkey => Text.nameKey_numbered_inj name hm hn hkey) ?_
  · obtain ⟨owner, howner, -⟩ := isOthers_iff.mp htaken
    exact List.mem_map_of_mem (mem_of_lookup howner)
  · rw [List.length_map]
    exact Nat.lt_succ_self _

/-! ## The table of names in use -/

/-- The table with the name that an identity gets. -/
def addOverload (owners : List (String × Nat)) (name : String) (identity : Nat) :
    List (String × Nat) :=
  (Text.nameKey (freeOverload owners name identity), identity) :: owners

/-- The table after all functions have got their names. -/
def ownersAfter (owners : List (String × Nat)) : List (String × Nat) → List (String × Nat)
  | [] => owners
  | (name, identity) :: later => ownersAfter (addOverload owners name identity) later

/-- A name in the table keeps its identity when a name is added. -/
theorem lookup_addOverload (h : owners.lookup key = some owner) (name : String) (identity : Nat) :
    (addOverload owners name identity).lookup key = some owner := by
  rw [addOverload, List.lookup_cons]
  split
  · next hsame =>
    have hmine := isOthers_overloadNumber owners name identity
    rw [Bool.eq_false_iff, ne_eq, isOthers_iff, ← freeOverload_eq, ← beq_iff_eq.mp hsame] at hmine
    by_contra hne
    exact hmine ⟨owner, h, fun heq => hne (by rw [heq])⟩
  · exact h

theorem lookup_ownersAfter {named : List (String × Nat)} (h : owners.lookup key = some owner) :
    (ownersAfter owners named).lookup key = some owner := by
  induction named generalizing owners with
  | nil => exact h
  | cons head later ih => exact ih (lookup_addOverload h head.1 head.2)

/-- The numbers of the forms of a name that a table gives to an identity. -/
def formsOf (owners : List (String × Nat)) (name : String) (identity : Nat) : Set Nat :=
  {n | 1 ≤ n ∧ owners.lookup (Text.nameKey (Text.numbered name n)) = some identity}

/-- A function gets the first form of its name that the table gives to its identity in the end. -/
theorem overloadNumber_isLeast (owners : List (String × Nat)) (name : String) (identity : Nat)
    (later : List (String × Nat)) :
    IsLeast (formsOf (ownersAfter (addOverload owners name identity) later) name identity)
      (overloadNumber owners name identity) := by
  constructor
  · refine ⟨le_firstFree _ _ 1, lookup_ownersAfter ?_⟩
    rw [addOverload, freeOverload_eq, List.lookup_cons_self]
  · rintro n ⟨hn, hmine⟩
    refine Nat.not_lt.mp fun hlt => ?_
    -- An earlier form was passed over for another identity, which keeps it.
    obtain ⟨owner, howner, hne⟩ := isOthers_iff.mp (taken_of_lt_firstFree hn hlt)
    have hkept : (ownersAfter (addOverload owners name identity) later).lookup
        (Text.nameKey (Text.numbered name n)) = some owner :=
      lookup_ownersAfter (lookup_addOverload howner name identity)
    exact hne (Option.some.inj (hkept.symm.trans hmine))

/-- Names that differ in case only have the same forms. -/
theorem formsOf_congr {name' : String} (h : Text.nameKey name = Text.nameKey name') :
    formsOf owners name identity = formsOf owners name' identity := by
  ext n
  unfold formsOf
  rw [Set.mem_ofPred_eq, Set.mem_ofPred_eq, Text.nameKey_numbered_congr h n]

theorem tellApart_isLeast {named : List (String × Nat)} {j : Nat}
    (h : named[j]? = some (name, identity)) :
    ∃ n, (tellApart owners named)[j]? = some (Text.numbered name n) ∧
      IsLeast (formsOf (ownersAfter owners named) name identity) n := by
  induction named generalizing owners j with
  | nil => simp at h
  | cons head later ih =>
    obtain ⟨first, owner⟩ := head
    cases j with
    | zero =>
      obtain ⟨rfl, rfl⟩ : first = name ∧ owner = identity := by simpa using h
      exact ⟨_, rfl, overloadNumber_isLeast owners first owner later⟩
    | succ j => exact ih h

example : tellApart [] [("Dim", 0), ("dim", 1), ("Dim_2", 2), ("Level", 3), ("level", 3)] =
    ["Dim", "dim_2", "Dim_2_2", "Level", "level"] := by
  decide +kernel

/-! ## Names of an interface -/

variable {y : Synthesis} {owner : TypeDecl} {base : Inherited}

/-- The names in use in an interface, with their identities. -/
def memberOwners (y : Synthesis) (owner : TypeDecl) : List (String × Nat) :=
  ownersAfter [] (((memberFunctions y owner).map (·.name)).zip (memberGrouping y owner).places)

variable (y owner base) in
theorem map_name_functions : (interfaceFunctions y owner base).functions.map (·.name) =
    tellApart [] (((memberFunctions y owner).map (·.name)).zip (memberGrouping y owner).places) := by
  rw [functions_eq, List.map_map]
  generalize hnames : tellApart [] _ = names
  have hlength : names.length ≤
      ((memberFunctions y owner).zip (memberGrouping y owner).places).length := by
    rw [← hnames, length_tellApart, List.length_zip, List.length_zip, List.length_map]
  calc _ = (((((memberFunctions y owner).zip (memberGrouping y owner).places).zip names).zipIdx).map
          Prod.fst).map Prod.snd := by rw [List.map_map]; rfl
    _ = names := by rw [List.zipIdx_map_fst, List.map_snd_zip hlength]

/-- The name of a function is the first form of the name it had before that belongs to its
identity. -/
theorem exists_name_isLeast {j : Nat} {f : SynthesizedFunction}
    (hf : (interfaceFunctions y owner base).functions[j]? = some f) :
    ∃ s place n, (memberFunctions y owner)[j]? = some s ∧
      (memberGrouping y owner).places[j]? = some place ∧
      (memberIds y owner base)[place]? = some f.desc.memid ∧ f.name = Text.numbered s.name n ∧
      IsLeast (formsOf (memberOwners y owner) s.name place) n := by
  obtain ⟨s, place, memid, told, hs, hplace, hmemid, hplaced⟩ := getElem?_functions hf
  have hnamed : (((memberFunctions y owner).map (·.name)).zip
      (memberGrouping y owner).places)[j]? = some (s.name, place) := by
    rw [List.getElem?_zip_eq_some, List.getElem?_map, hs]
    exact ⟨rfl, hplace⟩
  obtain ⟨n, hname, hleast⟩ := @tellApart_isLeast [] _ _ _ _ hnamed
  rw [← map_name_functions y owner base, List.getElem?_map, hf] at hname
  refine ⟨s, place, n, hs, hplace, ?_, Option.some.inj hname, hleast⟩
  rw [hmemid, hplaced]
  rfl

/-- Telling names apart separates no functions of one identity. -/
theorem nameKey_name_congr {i j : Nat} {f g s t : SynthesizedFunction}
    (hf : (interfaceFunctions y owner base).functions[i]? = some f)
    (hg : (interfaceFunctions y owner base).functions[j]? = some g)
    (hs : (memberFunctions y owner)[i]? = some s) (ht : (memberFunctions y owner)[j]? = some t)
    (hsame : (memberGrouping y owner).places[i]? = (memberGrouping y owner).places[j]?)
    (hkey : Text.nameKey s.name = Text.nameKey t.name) :
    Text.nameKey f.name = Text.nameKey g.name := by
  obtain ⟨s', place, n, hs', hplace, -, hname, hleast⟩ := exists_name_isLeast hf
  obtain ⟨t', place', n', ht', hplace', -, hname', hleast'⟩ := exists_name_isLeast hg
  obtain rfl := Option.some.inj (hs.symm.trans hs')
  obtain rfl := Option.some.inj (ht.symm.trans ht')
  obtain rfl : place = place' := Option.some.inj (hplace.symm.trans (hsame.trans hplace'))
  rw [formsOf_congr hkey] at hleast
  rw [hname, hname', hleast.unique hleast']
  exact Text.nameKey_numbered_congr hkey n'

/-- **A name identifies a function of an interface.** Functions whose names differ at most in case
share an identity, and so an id. Functions of one identity whose names differed at most in case
before names were told apart still have such names. -/
theorem name_identifies {i j : Nat} {f g : SynthesizedFunction}
    (hf : (interfaceFunctions y owner base).functions[i]? = some f)
    (hg : (interfaceFunctions y owner base).functions[j]? = some g) :
    (Text.nameKey f.name = Text.nameKey g.name →
      (memberGrouping y owner).places[i]? = (memberGrouping y owner).places[j]? ∧
        f.desc.memid = g.desc.memid) ∧
      ∀ s t, (memberFunctions y owner)[i]? = some s → (memberFunctions y owner)[j]? = some t →
        (memberGrouping y owner).places[i]? = (memberGrouping y owner).places[j]? →
          Text.nameKey s.name = Text.nameKey t.name → Text.nameKey f.name = Text.nameKey g.name := by
  refine ⟨fun hkey => ?_, fun s t => nameKey_name_congr hf hg⟩
  obtain ⟨s, place, n, -, hplace, hmemid, hname, hleast⟩ := exists_name_isLeast hf
  obtain ⟨s', place', n', -, hplace', hmemid', hname', hleast'⟩ := exists_name_isLeast hg
  have howner := hleast.1.2
  rw [← hname, hkey, hname', hleast'.1.2, Option.some.injEq] at howner
  subst howner
  exact ⟨hplace.trans hplace'.symm, Option.some.inj (hmemid.symm.trans hmemid')⟩

/-- An interface with overloads, one of which is called as another would be, and with a property. -/
def lamp : TypeDecl where
  space := "N"
  name := "ILamp"
  body := .interface none
  members :=
    [Member.method "Dim" .void, Member.method "dim" .void, Member.method "Dim_2" .void,
      Member.getter "Level" (.scalar .i32), Member.setter "level" (.scalar .i32)]

theorem exists_lamp_accessors : ∃ f g, (interfaceFunctions .plain lamp {}).functions[3]? = some f ∧
    (interfaceFunctions .plain lamp {}).functions[4]? = some g := by
  have hlength : (interfaceFunctions .plain lamp {}).functions.length = 5 := by decide +kernel
  exact ⟨_, _, List.getElem?_eq_getElem (by omega), List.getElem?_eq_getElem (by omega)⟩

/-- The accessors of the property have one name, up to case, and one id. -/
theorem lamp_identified : ∃ f g, (interfaceFunctions .plain lamp {}).functions[3]? = some f ∧
    (interfaceFunctions .plain lamp {}).functions[4]? = some g ∧
    Text.nameKey f.name = Text.nameKey g.name ∧ f.desc.memid = g.desc.memid := by
  obtain ⟨f, g, hf, hg⟩ := exists_lamp_accessors
  have hkey : Text.nameKey f.name = Text.nameKey g.name :=
    (name_identifies hf hg).2 _ _ rfl rfl (by decide +kernel) (by decide +kernel)
  exact ⟨f, g, hf, hg, hkey, ((name_identifies hf hg).1 hkey).2⟩

end Automation.Export
