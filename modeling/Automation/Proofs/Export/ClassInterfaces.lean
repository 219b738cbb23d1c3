import Automation.Proofs.Export.Imported
import Automation.Proofs.Export.Policies

/-!
# The interfaces of a class

The incoming interfaces of a class are its choices, where each first occurs: the interface made from its
members, what it declares to implement, and its declared default. One of them is the default, and a
class without choices has the identity contract. The outgoing ones follow, as declared.
`classImplements_arranged` says so for every class, and which warnings are raised on the way.
-/

namespace Automation.Export

open Library Source

variable {s : Scope} {t : TypeDecl} {made : Option Handle} {type : TypeExpr} {ref default : TypeRef}

/-! ## What is missing -/

/-- The expression should stand for an interface and does not. -/
def IsMissing (s : Scope) (type : TypeExpr) : Prop :=
  (∀ ref, ¬StandsFor s type ref) ∧ ¬NeverExported s type

theorem implemented_eq_missing_iff {name : String} :
    implemented s type = .missing name ↔ IsMissing s type ∧ name = missingName s type := by
  constructor
  · intro h
    have hnone (ref : TypeRef) (hstands : StandsFor s type ref) : False := by
      have hfound := standsFor_iff.mp hstands
      rw [h] at hfound
      exact nomatch hfound
    rcases implemented_of_not_standsFor hnone with ⟨-, hsilent⟩ | ⟨hnever, hmissing⟩
    · exact nomatch h.symm.trans hsilent
    · exact ⟨⟨hnone, hnever⟩, Implemented.missing.inj (h.symm.trans hmissing)⟩
  · rintro ⟨⟨hnone, hnever⟩, rfl⟩
    exact ((implemented_of_not_standsFor hnone).resolve_left fun h => hnever h.1).2

instance (s : Scope) : DecidablePred (IsMissing s) := fun type =>
  decidable_of_iff (implemented s type = .missing (missingName s type))
    (implemented_eq_missing_iff.trans (and_iff_left rfl))

/-- The warnings about the interfaces that are missing, one for each place. -/
def missingWarnings (s : Scope) (t : TypeDecl) (types : List TypeExpr) : List Diagnostic :=
  (types.filter (IsMissing s ·)).map fun type => skippedInterface t.qualified (missingName s type)

theorem skippedInterfaces_eq (types : List TypeExpr) :
    skippedInterfaces t.qualified (types.map (implemented s)) = missingWarnings s t types := by
  unfold skippedInterfaces missingWarnings
  induction types with
  | nil => rfl
  | cons type later ih =>
    rw [List.map_cons]
    by_cases hmissing : IsMissing s type
    · have hname := implemented_eq_missing_iff.mpr ⟨hmissing, rfl⟩
      rw [List.filterMap_cons, hname, List.filter_cons_of_pos (by simpa using hmissing),
        List.map_cons, ← ih]
    · rw [List.filter_cons_of_neg (by simpa using hmissing), ← ih, List.filterMap_cons]
      cases hfound : implemented s type with
      | missing name => exact absurd (implemented_eq_missing_iff.mp hfound).1 hmissing
      | _ => rfl

/-! ## Interfaces in library order -/

/-- The entries are the incoming interfaces of a class: its choices, each where it first occurs,
with the one that is the default marked. -/
structure AreIncoming (choices : List TypeRef) (default : TypeRef)
    (entries : List ImplementedType) : Prop where
  incoming : ∀ e ∈ entries, e.flags.has ImplementedFlags.source = false
  refs : FirstOccurrences choices (entries.map (·.ref))
  nodup : (entries.map (·.ref)).Nodup
  marked : ∀ e ∈ entries, e.isDefault = true ↔ e.ref = default
  markedOnce : entries.countP ImplementedType.isDefault = 1

/-- The entries are the outgoing interfaces of a class, of which the first is marked. -/
structure AreOutgoing (refs : List TypeRef) (entries : List ImplementedType) : Prop where
  outgoing : ∀ e ∈ entries, e.flags.has ImplementedFlags.source = true
  refs : entries.map (·.ref) = refs
  marked : ∀ i e, entries[i]? = some e → (e.flags.has ImplementedFlags.default = true ↔ i = 0)

theorem areIncoming (refs : List TypeRef) {default : TypeRef} (hdefault : default ∈ refs) :
    AreIncoming refs default (refs.eraseDups.map (incoming default)) where
  incoming := List.forall_mem_map.mpr fun ref _ => has_source_incoming default ref
  refs := by
    rw [map_ref_incoming]
    exact firstOccurrences_eraseDups refs
  nodup := by
    rw [map_ref_incoming]
    exact nodup_eraseDups refs
  marked := List.forall_mem_map.mpr fun ref _ => by
    rw [isDefault_incoming, beq_iff_eq]
    rfl
  markedOnce := countP_isDefault_incoming (nodup_eraseDups refs) (List.mem_eraseDups.mpr hdefault)

theorem has_source_source :
    ImplementedFlags.source.has ImplementedFlags.source = true := by decide

theorem has_default_source :
    ImplementedFlags.source.has ImplementedFlags.default = false := by decide

theorem has_source_both : (ImplementedFlags.source ||| ImplementedFlags.default).has
    ImplementedFlags.source = true := by decide

theorem has_default_both : (ImplementedFlags.source ||| ImplementedFlags.default).has
    ImplementedFlags.default = true := by decide

theorem areOutgoing (refs : List TypeRef) : AreOutgoing refs (outgoing refs) where
  outgoing := by
    cases refs with
    | nil => exact nofun
    | cons first later =>
      exact List.forall_mem_cons.mpr
        ⟨has_source_both, List.forall_mem_map.mpr fun ref _ => has_source_source⟩
  refs := map_ref_outgoing refs
  marked i e he := by
    cases refs with
    | nil => exact nomatch he
    | cons first later =>
      cases i with
      | zero =>
        obtain rfl := Option.some.inj he
        exact iff_of_true has_default_both rfl
      | succ i =>
        obtain ⟨ref, -, rfl⟩ := List.mem_map.mp (List.mem_of_getElem? he)
        exact iff_of_false (Bool.eq_false_iff.mp has_default_source) (Nat.succ_ne_zero i)

/-- The choices do not depend on what would take their place, if there are choices. -/
theorem choicesOr_default {unknown : TypeRef}
    (h : (firstChoice? s t made <|> some unknown) = some default) :
    choicesOr default s t made = choicesOr unknown s t made := by
  unfold choicesOr
  rcases firstChoice?_cases h with hmem | ⟨-, hunknown⟩
  · have hsome : ¬(choices s t made).isEmpty = true := by simpa using List.ne_nil_of_mem hmem
    rw [if_neg hsome, if_neg hsome]
  · rw [Option.some.inj hunknown]

/-- **What a class implements.** If the standard library is imported, there is an answer for every
class. First come the incoming interfaces: its choices without repetitions, or the identity contract
alone, and exactly the default is marked. That is the declared default if it is found, or else the
interface made from the members, or else the first interface found among those that the class declares
to implement, or else the identity contract. Then come the outgoing interfaces that are found, with the
first one marked. A warning is raised for each place of a missing interface, and one for a declared
default that is not found. -/
theorem classImplements_arranged (s : Scope) (t : TypeDecl) (made : Option Handle) {lib : ImportId}
    (hstandard : s.refs.standard = some lib) :
    ∃ c said ins outs, classImplements s t made = (some c, said) ∧ c.entries = ins ++ outs ∧
      AreIncoming (choicesOr (.imported lib Standard.unknownIndex) s t made) c.default ins ∧
      c.default = (firstChoice? s t made).getD (.imported lib Standard.unknownIndex) ∧
      AreOutgoing (foundRefs s t.classInfo.sources) outs ∧
      ∀ q : Diagnostic.Queue, q.policy = .unlimited → (q.addAll said).diagnostics =
        q.diagnostics ++ (missingWarnings s t t.interfaces ++ defaultWarnings s t ++
          missingWarnings s t t.classInfo.sources) := by
  have hunknown : s.refs.standard? Standard.unknownIndex =
      some (.imported lib Standard.unknownIndex) := by
    unfold ReferenceTable.standard?
    rw [hstandard]
    rfl
  have hclass := classImplements_eq s t made
  have hchoice : (firstChoice? s t made <|> some (.imported lib Standard.unknownIndex)) =
      some ((firstChoice? s t made).getD (.imported lib Standard.unknownIndex)) := by
    cases firstChoice? s t made <;> rfl
  rw [hunknown, hchoice, skippedInterfaces_eq, skippedInterfaces_eq] at hclass
  exact ⟨_, _, _, _, hclass, rfl,
    choicesOr_default hchoice ▸ areIncoming _ (mem_choicesOr hchoice), rfl, areOutgoing _,
    fun q hq => q.diagnostics_addAll_unlimited hq _⟩

/-- A class that declares an interface twice, and one that is missing. Its default interface is an
event source as well. -/
def kiosk : TypeDecl where
  space := "N"
  name := "Kiosk"
  body := .objectClass
    { defaultInterface := some (.named 2), sources := [.named 2, .named 9, .named 1] }
  interfaces := [.named 1, .named 9, .named 2, .named 1]

/-- The scope of the class, with two interfaces. -/
def kioskScope : Scope where
  type? := fun _ => none
  refs :=
    { own := [(1, ⟨⟨0⟩, .interface .dual, none⟩), (2, ⟨⟨1⟩, .interface .dual, none⟩)]
      standard := some ⟨0⟩ }
  width := .bits64

/-- The default of the class is its second interface, and it warns twice. -/
theorem kiosk_arranged : ∃ c said, classImplements kioskScope kiosk (some ⟨5⟩) = (some c, said) ∧
    c.default = .own ⟨1⟩ ∧
    ((Diagnostic.Queue.empty .unlimited).addAll said).diagnostics.map (·.code) =
      [.interfaceSkipped, .interfaceSkipped] := by
  obtain ⟨c, said, ins, outs, hc, -, -, hdefault, -, hsaid⟩ :=
    @classImplements_arranged kioskScope kiosk (some ⟨5⟩) ⟨0⟩ rfl
  refine ⟨c, said, hc, hdefault.trans (by decide), ?_⟩
  rw [hsaid _ rfl]
  decide +kernel

end Automation.Export
