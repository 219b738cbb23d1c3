import Automation.Proofs.Export.Shapes
import Automation.Proofs.Export.Sites

/-!
# Names of parameters

The names of a function are read by position: after its own name there is one for each parameter. The
value of a setter has none, and the parameter that receives a result is named last. So the value has to
be the last parameter: `namesAligned_iff` says that each name belongs to the parameter in its place,
unless the function of a setter with a value receives a result.
-/

namespace Automation.Export

open Library Source

/-- What a parameter of a member's function is there for. -/
inductive Purpose where
  /-- It is a parameter that the member declares. -/
  | declared (p : Parameter)
  /-- It receives the result. -/
  | result

/-- The name of a parameter that is there for a purpose. -/
def Purpose.name (y : Synthesis) (owner : TypeDecl) (m : Member) : Purpose → String
  | declared p => y.resolver (parameterQuestion owner m p)
  | result => resultName

/-- The parameter at a place of a member's function is made for a purpose. -/
inductive IsFor (y : Synthesis) (m : Member) (k : Nat) (e : Element) : Purpose → Prop
  | declared {p : Parameter} {described : Described} : m.params[k]? = some p →
    describeParameter y.scope p = .ok described → e = parameterElement p described →
      IsFor y m k e (.declared p)
  | result {described : Described} : k = m.params.length →
    y.scope.describe m.ret m.retMarshal returnPosition = .ok described →
      e = resultElement described → IsFor y m k e .result

/-- The place of the value that a setter is called with. -/
def IsSetterValue (m : Member) (k : Nat) : Prop :=
  (∃ property, m.role = .setter property) ∧ k + 1 = m.params.length

/-- The names after that of the function belong to its parameters, by position. -/
structure NamesAligned (y : Synthesis) (owner : TypeDecl) (m : Member) (f : SynthesizedFunction) :
    Prop where
  named : ∀ k name, f.names[k + 1]? = some name → ∃ e purpose, f.desc.params[k]? = some e ∧
    IsFor y m k e purpose ∧ name = purpose.name y owner m
  /-- Only the value of a setter has no name. -/
  unnamed : ∀ k < f.desc.params.length, f.names[k + 1]? = none → IsSetterValue m k

/-- Whether a parameter of a member's function receives the result. -/
def receivesResult (y : Synthesis) (m : Member) : Bool :=
  returnsStatus y.binding m y.settings && m.ret != .void

variable {y : Synthesis} {owner : TypeDecl} {m : Member} {f : SynthesizedFunction} {k : Nat}

/-! ## Parameters -/

/-- The value of a setter has no name, and everything else that is declared has one. -/
theorem namedParameters_eq (m : Member) :
    namedParameters m = m.params.dropLast ∧ (∃ k, IsSetterValue m k) ∨
      namedParameters m = m.params ∧ ¬∃ k, IsSetterValue m k := by
  unfold namedParameters
  split
  · next property hrole =>
    rcases List.eq_nil_or_concat m.params with hnil | ⟨earlier, value, hconcat⟩
    · refine .inr ⟨by rw [hnil]; rfl, ?_⟩
      rintro ⟨k, -, hk⟩
      rw [hnil] at hk
      exact Nat.succ_ne_zero k hk
    · exact .inl ⟨rfl, earlier.length, ⟨property, hrole⟩, by simp [hconcat]⟩
  · next hrole =>
    refine .inr ⟨rfl, ?_⟩
    rintro ⟨k, ⟨property, hsetter⟩, -⟩
    exact hrole property hsetter

section

variable {invoke : InvokeKind} {signature : Signature}

variable (owner) in
/-- The parameters of a function and its names: the declared ones, and then the result if it is
received. -/
theorem parameters_assemble (hsignature : describeSignature y.scope m = .ok signature) :
    (assemble y owner m invoke signature).desc.params =
        List.zipWith parameterElement m.params signature.params ++
          (if receivesResult y m then [resultElement signature.ret] else []) ∧
      (assemble y owner m invoke signature).names = y.resolver (memberQuestion owner m) ::
        (((namedParameters m).map fun p => y.resolver (parameterQuestion owner m p)) ++
          (if receivesResult y m then [resultName] else [])) := by
  have hvoid : (signature.ret.type.elementType != .void) = (m.ret != .void) := by
    have hiff := elementType_eq_void_iff (describeSignature_eq_ok hsignature).2 rfl
    rw [Bool.eq_iff_iff, bne_iff_ne, bne_iff_ne, ne_eq, ne_eq, hiff]
  unfold assemble receivesResult
  dsimp only
  rw [hvoid]
  constructor <;> split <;> simp

end

section

variable (h : (synthesize y owner m).1 = some f)

include h

theorem names_eq : f.names = y.resolver (memberQuestion owner m) ::
    (((namedParameters m).map fun p => y.resolver (parameterQuestion owner m p)) ++
      (if receivesResult y m then [resultName] else [])) := by
  obtain ⟨invoke, signature, -, hsignature, rfl⟩ := synthesize_eq_some.mp h
  exact (parameters_assemble owner hsignature).2

theorem length_params_eq :
    f.desc.params.length = m.params.length + (if receivesResult y m then 1 else 0) := by
  obtain ⟨invoke, signature, -, hsignature, rfl⟩ := synthesize_eq_some.mp h
  have hlength := length_describeParameters (describeSignature_eq_ok hsignature).1
  rw [(parameters_assemble owner hsignature).1]
  split <;> simp [hlength]

/-- A declared parameter keeps its place. -/
theorem exists_declared {p : Parameter} (hp : m.params[k]? = some p) :
    ∃ e, f.desc.params[k]? = some e ∧ IsFor y m k e (.declared p) := by
  obtain ⟨invoke, signature, -, hsignature, rfl⟩ := synthesize_eq_some.mp h
  obtain ⟨x, hx, hdescribed⟩ :=
    getElem?_describeParameters (describeSignature_eq_ok hsignature).1 hp
  exact ⟨_, getElem?_params_assemble hp hx, .declared hp hdescribed rfl⟩

/-- A result that is received is received last. -/
theorem exists_result (hresult : receivesResult y m = true) :
    ∃ e, f.desc.params[m.params.length]? = some e ∧ IsFor y m m.params.length e .result := by
  obtain ⟨invoke, signature, -, hsignature, rfl⟩ := synthesize_eq_some.mp h
  obtain ⟨hparams, hret⟩ := describeSignature_eq_ok hsignature
  have hlength := length_describeParameters hparams
  refine ⟨_, ?_, .result rfl hret rfl⟩
  rw [(parameters_assemble owner hsignature).1, if_pos hresult]
  simp [hlength]

/-- The name of a declared parameter is that of the parameter in its place. -/
theorem named_declared {name : String}
    (hname : ((namedParameters m).map fun p => y.resolver (parameterQuestion owner m p))[k]? =
      some name) :
    ∃ e purpose, f.desc.params[k]? = some e ∧ IsFor y m k e purpose ∧
      name = purpose.name y owner m := by
  rw [List.getElem?_map, Option.map_eq_some_iff] at hname
  obtain ⟨p, hp, rfl⟩ := hname
  have hp : m.params[k]? = some p := by
    rcases namedParameters_eq m with ⟨hnamed, -⟩ | ⟨hnamed, -⟩ <;> rw [hnamed] at hp
    · rw [List.getElem?_dropLast] at hp
      exact (Option.ite_none_right_eq_some.mp hp).2
    · exact hp
  obtain ⟨e, he, hpurpose⟩ := exists_declared h hp
  exact ⟨e, _, he, hpurpose, rfl⟩

end

/-! ## Alignment -/

/-- **Names belong to the parameters in their places**, and only the value of a setter has none, unless
the function of a setter with a value receives a result. -/
theorem namesAligned_iff (h : (synthesize y owner m).1 = some f) :
    NamesAligned y owner m f ↔ ¬(receivesResult y m = true ∧ ∃ k, IsSetterValue m k) := by
  have hnames := names_eq h
  have hlength := length_params_eq h
  constructor
  · -- The name of the result stands in the place of the value, so the result has none.
    rintro haligned ⟨hresult, k, hvalue⟩
    rw [if_pos hresult] at hnames hlength
    have hnamed : namedParameters m = m.params.dropLast := by
      rcases namedParameters_eq m with ⟨hnamed, -⟩ | ⟨-, hno⟩
      · exact hnamed
      · exact absurd ⟨k, hvalue⟩ hno
    have hfewer : f.names.length = m.params.length + 1 := by
      rw [hnames, hnamed]
      simp [← hvalue.2]
    have hnone : f.names[m.params.length + 1]? = none := List.getElem?_eq_none (by omega)
    obtain ⟨-, hplace⟩ := haligned.unnamed m.params.length (by omega) hnone
    exact Nat.succ_ne_self _ hplace
  · intro hno
    -- Where a result is received, every declared parameter has a name before it.
    have hall : receivesResult y m = true → namedParameters m = m.params := by
      intro hresult
      rcases namedParameters_eq m with ⟨-, hvalue⟩ | ⟨hnamed, -⟩
      · exact absurd ⟨hresult, hvalue⟩ hno
      · exact hnamed
    constructor
    · intro k name hname
      rw [hnames, List.getElem?_cons_succ] at hname
      rcases Nat.lt_or_ge k (namedParameters m).length with hlt | hge
      · rw [List.getElem?_append_left (by simpa using hlt)] at hname
        exact named_declared h hname
      · rw [List.getElem?_append_right (by simpa using hge), List.length_map] at hname
        split at hname
        · next hresult =>
          rw [List.getElem?_singleton] at hname
          obtain ⟨hk, hname⟩ := Option.ite_none_right_eq_some.mp hname
          obtain rfl := Option.some.inj hname
          rw [hall hresult] at hge hk
          obtain rfl : k = m.params.length := by omega
          obtain ⟨e, he, hpurpose⟩ := exists_result h hresult
          exact ⟨e, _, he, hpurpose, rfl⟩
        · exact nomatch hname
    · intro k hk hnone
      rw [hnames, List.getElem?_cons_succ, List.getElem?_eq_none_iff, List.length_append,
        List.length_map] at hnone
      rw [hlength] at hk
      split at hk
      · next hresult =>
        rw [hall hresult, if_pos hresult, List.length_singleton] at hnone
        omega
      · rcases namedParameters_eq m with ⟨hnamed, last, hvalue⟩ | ⟨hnamed, -⟩
        · have hlast := hvalue.2
          rw [hnamed, List.length_dropLast] at hnone
          obtain rfl : k = last := by omega
          exact hvalue
        · rw [hnamed] at hnone
          omega

/-- A ledger to which amounts are posted. -/
def postings : TypeDecl where
  space := "N"
  name := "IPostings"
  body := .interface none

/-- A method with parameters and a result. -/
def post : Member :=
  { Member.method "Post" (.scalar .i32) with
    params := [{ name := "amount", type := .scalar .i64 }, { name := "note", type := .text }] }

/-- The result of the method is received by one more parameter, which is named last. -/
theorem post_aligned : ∃ f, (synthesize .plain postings post).1 = some f ∧
    f.names = ["Post", "amount", "note", "pRetVal"] ∧ NamesAligned .plain postings post f := by
  refine ⟨_, rfl, by decide +kernel, (namesAligned_iff rfl).mpr ?_⟩
  rintro ⟨-, k, ⟨property, hsetter⟩, -⟩
  exact nomatch hsetter

/-- The setter of a balance, which returns what the balance was. -/
def rebalance : Member := { Member.setter "Balance" (.scalar .i32) with ret := .scalar .i32 }

/-- The value of the setter goes by the name of the result, and the parameter that receives the result has
no name. -/
theorem rebalance_misaligned : ∃ f, (synthesize .plain postings rebalance).1 = some f ∧
    f.names = ["Balance", "pRetVal"] ∧
      f.desc.params.map (·.type) = [.base .i4, .pointer (.base .i4)] ∧
        ¬NamesAligned .plain postings rebalance f := by
  refine ⟨_, rfl, by decide +kernel, by decide +kernel, fun haligned => ?_⟩
  obtain ⟨-, hplace⟩ := haligned.unnamed 1 (by decide +kernel) (by decide +kernel)
  exact absurd hplace (by decide)

end Automation.Export
