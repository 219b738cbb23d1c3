import Automation.Proofs.Export.Counterparts
import Automation.Proofs.Export.MemberIds

/-!
# Pointers of 32 and of 64 bits

`pointerWidths_run` compares the runs of a job for pointers of 32 bits and of 64 bits. Both succeed or
both fail, and libraries differ in three places: the width that they record, the offsets of functions,
which are twice as large, and the integers of the size of a pointer, which have 64 bits instead of 32.
-/

namespace Automation

open Library Source

/-! ## What differs -/

/-- A descriptor for pointers of 64 bits against the one for 32 bits. If there is an integer of the size
of a pointer at the core, this is the wider one; otherwise the descriptors are the same. -/
def Library.Descriptor.Widens (word : Option Word) (d d' : Descriptor) : Prop :=
  match word with
  | some word => d.base? = some (PointerWidth.bits32.word word) ∧
      d' = d.withBase (PointerWidth.bits64.word word)
  | none => d' = d

/-- An element for pointers of 64 bits against the one for 32 bits. They have descriptors that widen, and
the same flags and default. -/
def Library.Element.Widens (word : Option Word) (e e' : Element) : Prop :=
  ∃ type, e.type.Widens word type ∧ e' = { e with type := type }

namespace Export

/-- The job for pointers of a width. -/
def Job.withPointers (job : Job) (width : PointerWidth) : Job :=
  { job with settings := { job.settings with pointerWidth := width } }

/-- The integer of the size of a pointer in the parameter of a function at an index. A parameter after
those of the member receives the result. -/
def Scope.passedWord? (s : Scope) (m : Member) (index : Nat) : Option Word :=
  match m.params[index]? with
  | some p => s.parameterWord? p
  | none => s.resultWord? m

/-- The integer of the size of a pointer in what a function returns. There is none in a status code. -/
def Scope.returnedWord? (s : Scope) (settings : Settings) (binding : Binding) (m : Member) :
    Option Word :=
  if returnsStatus binding m settings then none else s.resultWord? m

/-- The functions of a member for pointers of 32 bits and of 64 bits. -/
structure WiderFunction (s : Scope) (settings : Settings) (binding : Binding) (m : Member)
    (f f' : FunctionInfo) : Prop where
  /-- The offset is twice as large, and only descriptors differ otherwise. -/
  frame : f' =
    { f with desc :=
      { f.desc with
        offset := 2 * f.desc.offset
        params := f'.desc.params
        ret := f'.desc.ret } }
  length : f'.desc.params.length = f.desc.params.length
  params : ∀ (i : Nat) (e e' : Element), f.desc.params[i]? = some e → f'.desc.params[i]? = some e' →
    e.Widens (s.passedWord? m i) e'
  ret : f.desc.ret.Widens (s.returnedWord? settings binding m) f'.desc.ret

/-- The variables of a field for pointers of 32 bits and of 64 bits. -/
def WiderField (s : Scope) (field : Field) (v v' : VariableInfo) : Prop :=
  ∃ e e', v.desc.content = .field e ∧ e.Widens (s.word? field.type field.marshal) e' ∧
    v' = { v with desc := { v.desc with content := .field e' } }

/-- Two libraries of a unit, for pointers of 32 bits and of 64 bits. -/
structure WidthTwins (unit : Reflection) (settings : Settings) (references : List ReferencedLibrary)
    (l l' : ExportedLibrary Library) : Prop where
  /-- Only the types and the recorded width differ. -/
  frame : l' =
    { l with
      attributes := { l.attributes with pointerWidth := .bits64 }
      library :=
        { l.library with
          attributes := { l.library.attributes with pointerWidth := .bits64 }
          types := l'.library.types } }
  width : l.attributes.pointerWidth = .bits32 ∧ l.library.attributes.pointerWidth = .bits32
  /-- The types differ in their functions and fields only. -/
  types : l.Corresponds unit references (WiderFunction (l.scope unit references) settings)
    (WiderField (l.scope unit references)) l'

/-! ## Functions -/

theorem widens_sized {word : Option Word} {d : Descriptor}
    (h : ∀ w ∈ word, d.base? = some (PointerWidth.bits32.word w)) :
    d.Widens word (d.sized .bits64 word) := by
  cases word with
  | none => rfl
  | some word => exact ⟨h word rfl, rfl⟩

theorem widens_describe {s : Scope} (hwidth : s.width = .bits32) {type : TypeExpr}
    {marshal : Option MarshalOverride} {position : Position} {described : Described}
    (h : s.describe type marshal position = .ok described) :
    described.type.Widens (s.word? type marshal)
      (described.type.sized .bits64 (s.word? type marshal)) :=
  widens_sized fun _ hword => hwidth ▸ base?_describe hword h

/-- Whether there is a result does not depend on the width. -/
theorem elementType_sized {word : Option Word} {d : Descriptor}
    (h : ∀ w ∈ word, d.base? = some (PointerWidth.bits32.word w)) :
    ((d.sized .bits64 word).elementType != .void) = (d.elementType != .void) := by
  cases word with
  | none => rfl
  | some word =>
    have hbase := h word rfl
    cases d with
    | base type =>
      obtain rfl : type = PointerWidth.bits32.word word := Option.some.inj hbase
      cases word <;> rfl
    | _ => rfl

section Functions

variable {y : Synthesis} {owner : TypeDecl} {m : Member} {invoke : InvokeKind} {g : Signature}

/-- A parameter after those of the member receives the result. -/
theorem eq_resultElement {i : Nat} {e : Element}
    (hnone : m.params[i]? = none) (h : (assemble y owner m invoke g).desc.params[i]? = some e) :
    e = resultElement g.ret := by
  have hzip : (List.zipWith parameterElement m.params g.params)[i]? = none := by
    rw [List.getElem?_zipWith, hnone]
  unfold assemble at h
  dsimp only at h
  split at h
  · rw [List.getElem?_append_right (List.getElem?_eq_none_iff.mp hzip), List.getElem?_singleton] at h
    split at h
    · exact (Option.some.inj h).symm
    · exact Option.noConfusion rfl (heq_of_eq h)
  · rw [hzip] at h
    exact Option.noConfusion rfl (heq_of_eq h)

theorem parameterElement_sized (p : Parameter) (x : Described) (width : PointerWidth)
    (word : Option Word) : parameterElement p (x.sized width word) =
      { parameterElement p x with type := x.type.sized width word } := by
  unfold parameterElement
  split <;> rfl

variable (owner invoke) in
theorem length_params_assemble (hlength : g.params.length = m.params.length) :
    (assemble y owner m invoke g).desc.params.length = m.params.length +
      if returnsStatus y.binding m y.settings && g.ret.type.elementType != .void then 1 else 0 := by
  unfold assemble
  dsimp only
  split <;> simp [hlength]

/-- What functions are made with for pointers of 64 bits. -/
def Synthesis.wider (y : Synthesis) : Synthesis := y.retarget .bits64 y.settings.dualStatusCodes

/-- The width of pointers does not decide about status codes. -/
theorem returnsStatus_wider : returnsStatus y.wider.binding m y.wider.settings =
    returnsStatus y.binding m y.settings := rfl

/-- A function for pointers of 64 bits differs in its descriptors. -/
theorem assemble_wider {g' : Signature}
    (hvoid : (g'.ret.type.elementType != .void) = (g.ret.type.elementType != .void)) :
    assemble y.wider owner m invoke g' =
      { assemble y owner m invoke g with desc :=
        { (assemble y owner m invoke g).desc with
          params := (assemble y.wider owner m invoke g').desc.params
          ret := (assemble y.wider owner m invoke g').desc.ret } } := by
  unfold assemble
  dsimp only
  rw [hvoid, returnsStatus_wider]
  rfl

section Signatures

variable (hwidth : y.scope.width = .bits32) (hg : describeSignature y.scope m = .ok g)

include hg

theorem length_params_signature : g.params.length = m.params.length ∧
    (g.sized y.scope .bits64 m).params.length = m.params.length := by
  have hlength := length_describeParameters (describeSignature_eq_ok hg).1
  refine ⟨hlength, ?_⟩
  unfold Signature.sized Scope.resized
  rw [List.length_zipWith, hlength, Nat.min_self]

include hwidth

theorem base?_ret : ∀ word ∈ y.scope.resultWord? m,
    g.ret.type.base? = some (PointerWidth.bits32.word word) :=
  fun _ hword => hwidth ▸ base?_describe hword (describeSignature_eq_ok hg).2

variable (owner invoke)

/-- The parameters of a function for pointers of 64 bits. -/
theorem widens_params_assemble {i : Nat} {e e' : Element}
    (he : (assemble y owner m invoke g).desc.params[i]? = some e)
    (he' : (assemble y.wider owner m invoke (g.sized y.scope .bits64 m)).desc.params[i]? = some e') :
    e.Widens (y.scope.passedWord? m i) e' := by
  obtain ⟨hparams, -⟩ := describeSignature_eq_ok hg
  unfold Scope.passedWord?
  cases hp : m.params[i]? with
  | some p =>
    obtain ⟨x, hx, hdescribed⟩ := getElem?_describeParameters hparams hp
    have hx' : (g.sized y.scope .bits64 m).params[i]? =
        some (x.sized .bits64 (y.scope.parameterWord? p)) := by
      unfold Signature.sized Scope.resized
      rw [List.getElem?_zipWith, hp, hx]
    rw [getElem?_params_assemble hp hx] at he
    rw [getElem?_params_assemble hp hx', parameterElement_sized] at he'
    obtain rfl := Option.some.inj he
    obtain rfl := Option.some.inj he'
    refine ⟨_, ?_, rfl⟩
    rw [type_parameterElement]
    exact widens_describe hwidth hdescribed
  | none =>
    obtain rfl := eq_resultElement hp he
    obtain rfl := eq_resultElement hp he'
    have hpointer : (Descriptor.pointer g.ret.type).Widens (y.scope.resultWord? m)
        ((Descriptor.pointer g.ret.type).sized .bits64 (y.scope.resultWord? m)) :=
      widens_sized (base?_ret hwidth hg)
    rw [Descriptor.pointer_sized] at hpointer
    exact ⟨_, hpointer, rfl⟩

theorem isVoid_ret : ((g.sized y.scope .bits64 m).ret.type.elementType != .void) =
    (g.ret.type.elementType != .void) := elementType_sized (base?_ret hwidth hg)

/-- A function has as many parameters for pointers of 64 bits. -/
theorem length_params_wider :
    (assemble y.wider owner m invoke (g.sized y.scope .bits64 m)).desc.params.length =
      (assemble y owner m invoke g).desc.params.length := by
  obtain ⟨hlength, hlength'⟩ := length_params_signature hg
  rw [length_params_assemble owner invoke hlength, length_params_assemble owner invoke hlength',
    isVoid_ret hwidth hg, returnsStatus_wider]

/-- What a function returns for pointers of 64 bits. -/
theorem widens_ret_assemble : (assemble y owner m invoke g).desc.ret.Widens
    (y.scope.returnedWord? y.settings y.binding m)
    (assemble y.wider owner m invoke (g.sized y.scope .bits64 m)).desc.ret := by
  refine ⟨_, ?_, rfl⟩
  unfold Scope.returnedWord? assemble
  dsimp only
  rw [returnsStatus_wider]
  cases returnsStatus y.binding m y.settings with
  | true => rfl
  | false => exact widens_describe hwidth (describeSignature_eq_ok hg).2

end Signatures

/-- **The functions of a member** for pointers of 32 bits and of 64 bits. -/
theorem widerFunction_of_madeTwice {f f' : FunctionInfo} (hwidth : y.scope.width = .bits32)
    (h : MadeTwice y .bits64 y.settings.dualStatusCodes owner m f f') :
    WiderFunction y.scope y.settings y.binding m f f' := by
  obtain ⟨invoke, g, memid, offset, offset', name, hg, rfl, rfl, hoffset⟩ := h
  obtain rfl : offset' = 2 * offset := by
    rw [hwidth] at hoffset
    have hslots : offset * 8 = offset' * 4 := hoffset
    omega
  refine ⟨?_, length_params_wider owner invoke hwidth hg,
    fun i e e' he he' => widens_params_assemble owner invoke hwidth hg he he',
    widens_ret_assemble owner invoke hwidth hg⟩
  have hframe : assemble y.wider owner m invoke (g.sized y.scope .bits64 m) = _ :=
    assemble_wider (isVoid_ret hwidth hg)
  change ((assemble y.wider owner m invoke _).placed memid (2 * offset) name).written = _
  unfold SynthesizedFunction.placed SynthesizedFunction.written
  dsimp only
  rw [hframe]
  rfl

end Functions

/-! ## Libraries -/

theorem Twins.width {unit : Reflection} {resolver : Resolver} {settings : Settings}
    {references : List ReferencedLibrary} {l l' : ExportedLibrary Library}
    (h : Twins unit resolver settings (settings.retarget .bits64 settings.dualStatusCodes) references
      l l') (hwidth : settings.pointerWidth = .bits32) :
    WidthTwins unit settings references l l' := by
  have hlibrary : l.library.attributes.pointerWidth = .bits32 := by
    rw [h.libraryAttributes.1]
    exact hwidth
  have hown : l.attributes.pointerWidth = .bits32 := by
    rw [h.attributes.1]
    exact hwidth
  refine ⟨h.frame, ⟨hown, hlibrary⟩, h.corresponds.imp ?_ ?_⟩
  · rintro binding m f f' ⟨owner, hmade⟩
    exact widerFunction_of_madeTwice
      (y := l.synthesis unit resolver settings references binding) hlibrary hmade
  · rintro field v v' ⟨described, hdescribed, hcontent, type, rfl, rfl⟩
    exact ⟨_, _, hcontent, ⟨_, widens_describe hlibrary hdescribed, rfl⟩, rfl⟩

/-- **The width of pointers changes only what it must.** A job with fewer than `2 ^ 26` functions in all
succeeds for pointers of 32 bits if and only if it does for pointers of 64 bits. Its libraries are then
the same, and so are the diagnostics, except that the width that they record is another one, that offsets
are twice as large, and that integers of the size of a pointer without an override are the wider ones. -/
theorem pointerWidths_run (job : Job)
    (hfew : ((job.unit :: job.dependencies).map unitFunctionCount).sum < 2 ^ 26) :
    EndAlike (job.withPointers .bits32) WidthTwins (fun _ _ => True)
      (job.withPointers .bits32).toMemory (job.withPointers .bits64).toMemory := by
  have hexact : ∀ unit ∈ job.unit :: job.dependencies, IsExact .bits32 .bits64 unit := fun unit hunit => by
    have hle : unitFunctionCount unit ≤ ((job.unit :: job.dependencies).map unitFunctionCount).sum :=
      List.single_le_sum (fun _ _ => Nat.zero_le _) _ (List.mem_map_of_mem hunit)
    exact .inr (by omega)
  refine (@twins_run (job.withPointers .bits32) .bits64 job.settings.dualStatusCodes hexact).imp ?_
    fun _ _ _ => trivial
  intro unit settings references l l' hsettings htwins
  have hwidth : settings.pointerWidth = .bits32 := (congrArg Settings.pointerWidth hsettings :)
  have hdual : settings.dualStatusCodes = job.settings.dualStatusCodes :=
    (congrArg Settings.dualStatusCodes hsettings :)
  rw [← hdual] at htwins
  exact htwins.width hwidth

/-- A unit with an interface and a record that mention integers of the size of a pointer. -/
def gauges : Job where
  unit := SourceUnit.reflection
    { identity := { name := "Gauges", version := { major := 1 }, guid := some (Guid.ofBytes [9]) }
      types :=
        [{ space := "N", name := "IGauge", guid := some (Guid.ofBytes [1]), body := .interface none
           members :=
             [Member.method "Reset" .void,
              { Member.method "Fill" (.scalar .isize) with
                params := [{ name := "amount", type := .scalar .usize }] }] },
         { space := "N", name := "Reading", guid := some (Guid.ofBytes [2])
           body := .record [{ name := "Level", type := .scalar .isize }] }] }

/-- The second function stands at another offset, and it takes and gives wider integers. -/
theorem gauges_widths : ((gauges.unit :: gauges.dependencies).map unitFunctionCount).sum < 2 ^ 26 ∧
    ∃ out out' f f', (gauges.withPointers .bits32).toMemory = .ok out ∧
      (gauges.withPointers .bits64).toMemory = .ok out' ∧
      functionAt out.main.library.types 0 1 = some f ∧ functionAt out'.main.library.types 0 1 = some f' ∧
      (f.desc.offset, f.desc.params.map (·.type)) = (32, [.base .ui4, .pointer (.base .i4)]) ∧
      (f'.desc.offset, f'.desc.params.map (·.type)) = (64, [.base .ui8, .pointer (.base .i8)]) ∧
      WidthTwins gauges.unit (gauges.withPointers .bits32).settings [] out.main out'.main := by
  have hfew : ((gauges.unit :: gauges.dependencies).map unitFunctionCount).sum < 2 ^ 26 := by
    decide +kernel
  have hview : (gauges.withPointers .bits32).toMemory.toOption.map (fun out =>
      ((functionAt out.main.library.types 0 1).map fun f =>
        (f.desc.offset, f.desc.params.map (·.type)), out.dependencies.length)) =
      some (some (32, [.base .ui4, .pointer (.base .i4)]), 0) := by
    decide +kernel
  have hview' : (gauges.withPointers .bits64).toMemory.toOption.map (fun out =>
      (functionAt out.main.library.types 0 1).map fun f =>
        (f.desc.offset, f.desc.params.map (·.type))) =
      some (some (64, [.base .ui8, .pointer (.base .i8)])) := by
    decide +kernel
  have hruns := pointerWidths_run gauges hfew
  refine ⟨hfew, ?_⟩
  cases h : (gauges.withPointers .bits32).toMemory with
  | error e =>
    rw [h] at hview
    exact Option.noConfusion rfl (heq_of_eq hview)
  | ok out =>
    cases h' : (gauges.withPointers .bits64).toMemory with
    | error e =>
      rw [h'] at hview'
      exact Option.noConfusion rfl (heq_of_eq hview')
    | ok out' =>
      rw [h] at hview
      rw [h'] at hview'
      rw [h, h'] at hruns
      obtain ⟨hfunction, hnone⟩ := Prod.mk.inj (Option.some.inj hview)
      obtain ⟨f, hf, hshape⟩ := Option.map_eq_some_iff.mp hfunction
      obtain ⟨f', hf', hshape'⟩ := Option.map_eq_some_iff.mp (Option.some.inj hview')
      have hmain := hruns.1
      rw [List.length_eq_zero_iff.mp hnone] at hmain
      exact ⟨out, out', f, f', rfl, rfl, hf, hf', hshape, hshape', hmain⟩

end Export

end Automation
