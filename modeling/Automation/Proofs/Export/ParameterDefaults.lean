import Automation.Proofs.Export.Origins
import Automation.Proofs.Export.ParameterNames
import Automation.Proofs.Library.Blobs

/-!
# Defaults of parameters

A default is narrowed, encoded and attached to the parameter that declares it, with a flag of its own.
`keepsDefaults` says for the function of a member that flag, blob and value are in agreement at every
place, and that the parameter that receives a result has none of them; `defaultsKept_run` says so of all
functions of a successful run.
-/

namespace Automation.Library

/-- A set of flags has what was added to it. -/
theorem Flags.has_or_right {kind : FlagKind} (f g : Flags kind) : (f ||| g).has g = true := by
  have hbits : (f.bits ||| g.bits) &&& g.bits = g.bits := by
    apply Nat.eq_of_testBit_eq
    intro i
    rw [Nat.testBit_and, Nat.testBit_or]
    cases f.bits.testBit i <;> cases g.bits.testBit i <;> rfl
  exact beq_iff_eq.mpr hbits

/-- The number of an integer of any width. -/
def Variant.number? : Variant → Option Int
  | i1 value => some value.toInt
  | ui1 value => some value.toNat
  | i2 value => some value.toInt
  | ui2 value => some value.toNat
  | i4 value => some value.toInt
  | ui4 value => some value.toNat
  | i8 value => some value.toInt
  | ui8 value => some value.toNat
  | empty | bool _ | r4 _ | r8 _ | bstr _ => none

end Automation.Library

namespace Automation.Source.DefaultConstant

/-- A constant can be a default unless it is a character beyond the basic plane. -/
def CanBeDefault (c : DefaultConstant) : Prop := ∀ value, c = char value → value.toNat < 0x10000

/-- How many units the text of a constant has. -/
def unitCount : DefaultConstant → Nat
  | str value => (Text.units value).length
  | _ => 0

end Automation.Source.DefaultConstant

namespace Automation.Export

open Library Source

/-- The variant has the value of the constant. A number may have become narrower, and a character is
the one unit that it is written with. -/
inductive IsValueOf : DefaultConstant → Variant → Prop
  | null : IsValueOf .null .empty
  | bool (value : Bool) : IsValueOf (.bool value) (.bool value)
  | char {value : Char} {unit : UInt16} : Text.charUnits value = [unit.toNat] →
    IsValueOf (.char value) (.ui2 unit)
  | i64 {value : Int64} {v : Variant} : v.number? = some value.toInt → IsValueOf (.i64 value) v
  | u64 {value : UInt64} {v : Variant} : v.number? = some (value.toNat : Int) →
    IsValueOf (.u64 value) v
  | f64 (bits : UInt64) : IsValueOf (.f64 bits) (.r8 bits)
  | str (value : String) : IsValueOf (.str value) (.bstr value)

/-- A parameter of a function carries the default that is declared for it, if any. -/
structure CarriesDefault (declared : Option DefaultConstant) (e : Element) : Prop where
  flagged : e.flags.has ParameterFlags.hasDefault = true ↔ e.defaultBlob.isSome = true
  present : e.defaultBlob.isSome = true ↔ ∃ c, declared = some c ∧ c.CanBeDefault
  /-- The blob is read as the value that is declared, unless it is a text that is too long to count. -/
  decoded : ∀ c blob, declared = some c → e.defaultBlob = some blob → c.unitCount < 0x100000000 →
    ∃ v, Variant.decode? blob = some v ∧ IsValueOf c v

/-- The parameters of a function carry the defaults that a member declares, by position. The one that
receives a result carries none. -/
structure KeepsDefaults (m : Member) (f : FunctionDesc) : Prop where
  declared : ∀ (i : Nat) (p : Parameter), m.params[i]? = some p →
    ∃ e, f.params[i]? = some e ∧ CarriesDefault p.defaultValue e
  appended : ∀ (i : Nat) e, m.params.length ≤ i → f.params[i]? = some e → CarriesDefault none e

/-! ## Values -/

theorem toInt_toInt32_of_mem {n : Int64} (h : -0x80000000 ≤ n.toInt ∧ n.toInt ≤ 0x7FFFFFFF) :
    n.toInt32.toInt = n.toInt := by
  rw [Int64.toInt_toInt32]
  exact Int.bmod_eq_of_le (by omega) (by omega)

theorem toNat_toUInt32_of_le {n : UInt64} (h : n.toNat ≤ 0xFFFFFFFF) :
    n.toUInt32.toNat = n.toNat := by
  rw [UInt64.toNat_toUInt32]
  exact Nat.mod_eq_of_lt (by omega)

/-- **A default keeps its value** when it becomes a variant, and so does its text. -/
theorem isValueOf_of_defaultVariant? {c : DefaultConstant} {v : Variant}
    (h : defaultVariant? c = some v) : IsValueOf c v ∧ v.unitCount = c.unitCount := by
  cases c with
  | null | bool _ | f64 _ | str _ =>
    obtain rfl := Option.some.inj h
    exact ⟨by constructor, rfl⟩
  | char value =>
    obtain ⟨hplane, h⟩ := Option.ite_none_right_eq_some.mp h
    obtain rfl := Option.some.inj h
    refine ⟨.char ?_, rfl⟩
    rw [Text.charUnits, if_pos hplane, UInt16.toNat_ofNat_of_lt' hplane]
  | i64 value =>
    by_cases hnarrow : -0x80000000 ≤ value.toInt ∧ value.toInt ≤ 0x7FFFFFFF
    · obtain rfl := Option.some.inj ((if_pos hnarrow).symm.trans h)
      exact ⟨.i64 (congrArg some (toInt_toInt32_of_mem hnarrow)), rfl⟩
    · obtain rfl := Option.some.inj ((if_neg hnarrow).symm.trans h)
      exact ⟨.i64 rfl, rfl⟩
  | u64 value =>
    by_cases hnarrow : value.toNat ≤ 0xFFFFFFFF
    · obtain rfl := Option.some.inj ((if_pos hnarrow).symm.trans h)
      exact ⟨.u64 (congrArg (fun n : Nat => some (n : Int)) (toNat_toUInt32_of_le hnarrow)), rfl⟩
    · obtain rfl := Option.some.inj ((if_neg hnarrow).symm.trans h)
      exact ⟨.u64 rfl, rfl⟩

theorem isSome_defaultVariant? {c : DefaultConstant} :
    (defaultVariant? c).isSome = true ↔ c.CanBeDefault := by
  unfold DefaultConstant.CanBeDefault
  cases c with
  | char value => simp [defaultVariant?]
  | i64 value =>
    by_cases hnarrow : -0x80000000 ≤ value.toInt ∧ value.toInt ≤ 0x7FFFFFFF <;>
      simp [defaultVariant?, hnarrow]
  | u64 value =>
    by_cases hnarrow : value.toNat ≤ 0xFFFFFFFF <;> simp [defaultVariant?, hnarrow]
  | null | bool _ | f64 _ | str _ => simp [defaultVariant?]

/-! ## Parameters -/

theorem has_hasDefault_parameterFlags (p : Parameter) :
    (parameterFlags p).has ParameterFlags.hasDefault = false := by
  unfold parameterFlags
  cases p.direction <;> cases p.isOptional <;> rfl

/-- A parameter without a blob has no flag that it has one. -/
theorem carriesDefault_of_none {declared : Option DefaultConstant} {e : Element}
    (hdeclared : declared.bind defaultVariant? = none) (hblob : e.defaultBlob = none)
    (hflag : e.flags.has ParameterFlags.hasDefault = false) : CarriesDefault declared e where
  flagged := by simp [hblob, hflag]
  present := by
    have hno : ¬∃ c, declared = some c ∧ c.CanBeDefault := by
      rintro ⟨c, rfl, hc⟩
      have hsome := isSome_defaultVariant?.mpr hc
      rw [Option.bind_some] at hdeclared
      rw [hdeclared] at hsome
      exact Bool.noConfusion hsome
    simp [hblob, hno]
  decoded := fun c blob _ h => by
    rw [hblob] at h
    exact nomatch h

/-- **A declared parameter carries its default.** -/
theorem carriesDefault_parameterElement (p : Parameter) (described : Described) :
    CarriesDefault p.defaultValue (parameterElement p described) := by
  unfold parameterElement
  split
  · next v hv =>
    obtain ⟨c, hc, hvariant⟩ := Option.bind_eq_some_iff.mp hv
    obtain ⟨hvalue, hcount⟩ := isValueOf_of_defaultVariant? hvariant
    have hcan : c.CanBeDefault := isSome_defaultVariant?.mp (by rw [hvariant]; rfl)
    constructor
    · exact iff_of_true (Flags.has_or_right _ _) rfl
    · exact iff_of_true rfl ⟨c, hc, hcan⟩
    · intro c' blob hc' hblob hlt
      obtain rfl := Option.some.inj (hc'.symm.trans hc)
      obtain rfl := Option.some.inj hblob
      have hcounted : v.IsCounted := lt_of_eq_of_lt hcount hlt
      exact ⟨v, Variant.decode?_encode_of_isCounted hcounted, hvalue⟩
  · next hnone =>
    exact carriesDefault_of_none hnone rfl (has_hasDefault_parameterFlags p)

/-- **The function of a member keeps the defaults** of its parameters. -/
theorem keepsDefaults {y : Synthesis} {owner : TypeDecl} {m : Member} {f : SynthesizedFunction}
    (h : (synthesize y owner m).1 = some f) : KeepsDefaults m f.desc := by
  have hlength := length_params_eq h
  constructor
  · intro i p hp
    obtain ⟨e, he, hpurpose⟩ := exists_declared h hp
    cases hpurpose with
    | declared _ _ heq => exact ⟨e, he, heq ▸ carriesDefault_parameterElement p _⟩
  · intro i e hi he
    have hlt := (List.getElem?_eq_some_iff.mp he).1
    -- There is one parameter more than are declared, and it receives the result.
    have hresult : receivesResult y m = true := by
      by_contra hno
      rw [if_neg hno] at hlength
      omega
    obtain ⟨e', he', hpurpose⟩ := exists_result h hresult
    rw [if_pos hresult] at hlength
    obtain rfl : i = m.params.length := by omega
    obtain rfl := Option.some.inj (he.symm.trans he')
    cases hpurpose with
    | result _ _ heq =>
      rw [heq]
      have hflag : (ParameterFlags.output ||| ParameterFlags.result).has ParameterFlags.hasDefault =
        false := by decide
      exact carriesDefault_of_none rfl rfl hflag

/-! ## Libraries -/

/-- The functions of a type keep the defaults of the members that they are made from, in order. A type
that is not made from members has none. -/
def DefaultsKept (s : Scope) (t : TypeInfo) : Origin → Prop
  | .members owner _ => List.Forall₂ (fun m f => KeepsDefaults m f.desc)
      (owner.members.filter fun m => m.isExportable && s.describes m) t.functions
  | .fields _ | .other => t.functions = []

/-- **Defaults survive**: in every library of a successful run, the functions of every type carry, place
for place, the defaults of the members that they are made from, and nothing else carries a default. -/
theorem defaultsKept_run {job : Job} {out : Output Library} (h : job.toMemory = .ok out) :
    out.Forall job fun unit settings references l => ∀ i t, l.library.types[i]? = some t →
      HasOrigin l unit job.resolver settings references t (l.origin unit i) ∧
        DefaultsKept (l.scope unit references) t (l.origin unit i) := by
  refine forall_run h fun before _ hexported i t ht => ?_
  have horigin := hexported.hasOrigin ht
  refine ⟨horigin, ?_⟩
  generalize ExportedLibrary.origin _ _ i = origin at horigin
  cases origin with
  | members owner binding =>
    refine horigin.1.imp ?_
    rintro m f ⟨s, memid, offset, name, hs, rfl⟩
    have hkeeps := keepsDefaults hs
    exact ⟨hkeeps.declared, hkeeps.appended⟩
  | fields owner => exact horigin.2
  | other => exact horigin.1

/-- A unit with an interface with one method, all of whose parameters have defaults. -/
def catalog : Job where
  unit := SourceUnit.reflection
    { identity := { name := "Catalog", version := { major := 1 }, guid := some (Guid.ofBytes [9]) }
      types :=
        [{ space := "N", name := "ICatalog", guid := some (Guid.ofBytes [1]), body := .interface none
           members :=
             [{ Member.method "Find" (.scalar .i32) with
                params :=
                  [{ name := "title", type := .text, defaultValue := some (.str "Ω𝔸") },
                   { name := "first", type := .scalar .i64, defaultValue := some (.i64 (-5)) },
                   { name := "last", type := .scalar .i64, defaultValue := some (.i64 0x100000000) },
                   { name := "mark", type := .scalar .u16, defaultValue := some (.char '𝔸') }] }] }] }

/-- The defaults are read from the function again. A character that has two units is no default, and the
parameter that receives the result has none. -/
theorem catalog_defaultsKept : ∃ out, catalog.toMemory = .ok out ∧
    out.main.library.types.flatMap (fun t => t.functions.map fun f =>
        f.desc.params.map fun e => e.defaultBlob.bind Variant.decode?) =
      [[some (.bstr "Ω𝔸"), some (.i4 (-5)), some (.i8 0x100000000), none, none]] ∧
    ∀ i t, out.main.library.types[i]? = some t →
      HasOrigin out.main catalog.unit catalog.resolver catalog.settings [] t
          (out.main.origin catalog.unit i) ∧
        DefaultsKept (out.main.scope catalog.unit []) t (out.main.origin catalog.unit i) := by
  obtain ⟨out, h, hview⟩ : ∃ out, catalog.toMemory = .ok out ∧
      (out.main.library.types.flatMap (fun t => t.functions.map fun f =>
          f.desc.params.map fun e => e.defaultBlob.bind Variant.decode?), out.dependencies.length) =
        ([[some (.bstr "Ω𝔸"), some (.i4 (-5)), some (.i8 0x100000000), none, none]], 0) :=
    Job.exists_output (by decide +kernel)
  simp only [Prod.mk.injEq, List.length_eq_zero_iff] at hview
  obtain ⟨hdecoded, hnone⟩ := hview
  have hkept := (defaultsKept_run h).1
  rw [hnone] at hkept
  exact ⟨out, h, hdecoded, hkept⟩

end Automation.Export
