import Automation.Proofs.Export.Counterparts

/-!
# Status codes

A setting decides whether the members of dual interfaces return status codes. `statusCodes_run` compares
the two runs of a job: both end with the same failure, or with libraries that differ in the functions of
dual interfaces only. These return a status code in the one run, and what they return in the other is
received by one more parameter.
-/

namespace Automation.Export

open Library Source

/-- The job in which the members of dual interfaces return status codes, or do not. -/
def Job.withStatusCodes (job : Job) (dual : Bool) : Job :=
  { job with settings := { job.settings with dualStatusCodes := dual } }

/-- The function with a status code as its result. What it returns, unless that is nothing, is received
by one more parameter. -/
def returningStatus (f : FunctionInfo) : FunctionInfo :=
  let returns := f.desc.ret.type.elementType != .void
  let result : Element :=
    { type := .pointer f.desc.ret.type, flags := ParameterFlags.output ||| ParameterFlags.result }
  { f with
    desc :=
      { f.desc with
        params := if returns then f.desc.params ++ [result] else f.desc.params
        ret := { type := .base .hresult } }
    names := if returns then f.names ++ [resultName] else f.names }

/-- The functions of a member where dual interfaces return no status codes and where they do. They are
the same in other interfaces, and where the member is to be kept as it is declared. -/
def StatusCounterparts (binding : Binding) (m : Member) (f f' : FunctionInfo) : Prop :=
  f' = if binding = .dual ∧ m.preserveSig = false then returningStatus f else f

section Members

variable {y : Synthesis} {owner : TypeDecl} {m : Member} {invoke : InvokeKind} {g : Signature}

/-- A function that would return its result as it is returns a status code instead. -/
theorem written_assemble_status (y' : Synthesis) (hresolver : y'.resolver = y.resolver)
    (hbinding : y'.binding = y.binding) (hnatural : returnsStatus y.binding m y.settings = false)
    (hstatus : returnsStatus y'.binding m y'.settings = true) (memid : MemberId) (offset : Nat)
    (name : String) :
    ((assemble y' owner m invoke g).placed memid offset name).written =
      returningStatus ((assemble y owner m invoke g).placed memid offset name).written := by
  unfold returningStatus assemble SynthesizedFunction.placed SynthesizedFunction.written
  dsimp only
  rw [hnatural, hstatus, hresolver, hbinding]
  cases hreturns : g.ret.type.elementType != .void <;> simp [hreturns, resultElement]

/-- A function does not change with whether status codes are returned elsewhere. -/
theorem assemble_congr {y' : Synthesis} (hresolver : y'.resolver = y.resolver)
    (hbinding : y'.binding = y.binding)
    (hstatus : returnsStatus y'.binding m y'.settings = returnsStatus y.binding m y.settings) :
    assemble y' owner m invoke g = assemble y owner m invoke g := by
  unfold assemble
  rw [hresolver, hstatus, hbinding]

/-- **Two functions of a member** that differ in whether status codes are returned. -/
theorem statusCounterparts_of_madeTwice {f f' : FunctionInfo} (hoff : y.settings.dualStatusCodes = false)
    (h : MadeTwice y y.scope.width true owner m f f') : StatusCounterparts y.binding m f f' := by
  obtain ⟨invoke, g, memid, offset, offset', name, hg, rfl, rfl, hoffset⟩ := h
  obtain rfl : offset = offset' :=
    Nat.eq_of_mul_eq_mul_right (Layout.bytes_pos y.scope.width) hoffset
  rw [Signature.sized_self hg]
  unfold StatusCounterparts
  split
  · next hdual =>
    refine @written_assemble_status y owner m invoke g (y.retarget y.scope.width true) rfl rfl ?_ ?_
      memid offset name
    · simp [returnsStatus, Binding.rawStatus, hdual.1, hdual.2, hoff]
    · change (!m.preserveSig && _) = true
      simp [Synthesis.retarget, Settings.retarget, Binding.rawStatus, hdual.1, hdual.2]
  · next hother =>
    rw [@assemble_congr y owner m invoke g (y.retarget y.scope.width true) rfl rfl]
    change (!m.preserveSig && _) = (!m.preserveSig && _)
    cases hbinding : y.binding with
    | dual =>
      rw [Bool.eq_true_of_not_eq_false fun hsig => hother ⟨hbinding, hsig⟩]
      rfl
    | dispatchOnly | unknownOnly => simp [Synthesis.retarget, hbinding, Binding.rawStatus]

end Members

/-- Two libraries of a unit, without status codes in dual interfaces and with them. -/
structure StatusTwins (unit : Reflection) (references : List ReferencedLibrary)
    (l l' : ExportedLibrary Library) : Prop where
  /-- Only the types differ. -/
  frame : l' = { l with library := { l.library with types := l'.library.types } }
  /-- The types differ in their functions only, and these are counterparts. -/
  types : l.Corresponds unit references StatusCounterparts (fun _ v v' => v' = v) l'

theorem Twins.status {unit : Reflection} {resolver : Resolver} {settings : Settings}
    {references : List ReferencedLibrary} {l l' : ExportedLibrary Library}
    (h : Twins unit resolver settings (settings.retarget settings.pointerWidth true) references l l')
    (hoff : settings.dualStatusCodes = false) : StatusTwins unit references l l' := by
  have hscope : (l.scope unit references).width = settings.pointerWidth := by
    change l.library.attributes.pointerWidth = _
    rw [h.libraryAttributes.1]
    rfl
  refine ⟨h.frame.trans ?_, h.corresponds.imp ?_ ?_⟩
  · dsimp only
    rw [h.attributes.1, h.libraryAttributes.1]
    rfl
  · rintro binding m f f' ⟨owner, hmade⟩
    rw [← hscope] at hmade
    exact statusCounterparts_of_madeTwice
      (y := l.synthesis unit resolver settings references binding) hoff hmade
  · rintro field v v' ⟨described, hdescribed, hcontent, type, htype, rfl⟩
    have hself : described.sized (l.scope unit references).width _ = described := sized_self hdescribed
    have hsame : described.type.sized (l.scope unit references).width _ = described.type :=
      congrArg Described.type hself
    rw [← hscope, hsame] at htype
    rw [htype, ← hcontent]

/-- **Status codes in dual interfaces change nothing else.** Without them and with them, a job fails
with the same error, or its libraries have the same attributes, imports, exported types and diagnostics,
and the same types up to functions. The functions are the same in interfaces that are not dual, and for
members that are kept as they are declared. Every other function returns a status code where status codes
are returned, and is otherwise the same up to one more parameter, which receives what the function
returns where they are not. -/
theorem statusCodes_run (job : Job) :
    EndAlike (job.withStatusCodes false)
      (fun unit _ references l l' => StatusTwins unit references l l') (fun f f' => f = f')
      (job.withStatusCodes false).toMemory (job.withStatusCodes true).toMemory := by
  refine (@twins_run (job.withStatusCodes false) job.settings.pointerWidth true
    fun _ _ => .inl rfl).imp ?_ fun f f' hsame => hsame rfl
  intro unit settings references l l' hsettings htwins
  have hwidth : settings.pointerWidth = job.settings.pointerWidth :=
    (congrArg Settings.pointerWidth hsettings :)
  have hoff : settings.dualStatusCodes = false := (congrArg Settings.dualStatusCodes hsettings :)
  rw [← hwidth] at htwins
  exact htwins.status hoff

end Automation.Export
