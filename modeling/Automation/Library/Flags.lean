/-!
# Flag sets

The flags of types, implemented types, parameters, functions and variables, with the bits of the
automation runtime. A set keeps whatever bits it is given.
-/

namespace Automation.Library

/-- What a flag set belongs to. -/
inductive FlagKind where
  | type
  | implemented
  | parameter
  | function
  | var

/-- A set of flags, by its bits. -/
structure Flags (kind : FlagKind) where
  bits : Nat
  deriving DecidableEq, Repr

namespace Flags

variable {kind : FlagKind}

/-- No flag. -/
def none : Flags kind := ⟨0⟩

instance : Inhabited (Flags kind) := ⟨none⟩

/-- The flags of either set. -/
def union (f g : Flags kind) : Flags kind := ⟨f.bits ||| g.bits⟩

instance : OrOp (Flags kind) := ⟨union⟩

/-- Whether all flags of the second set are in the first. -/
def has (f g : Flags kind) : Bool := f.bits &&& g.bits == g.bits

/-- Whether the sets share a flag. -/
def meets (f g : Flags kind) : Bool := f.bits &&& g.bits != 0

/-- The set if the condition holds, and no flag otherwise. -/
def onlyIf (f : Flags kind) (condition : Bool) : Flags kind := if condition then f else none

end Flags

/-- Flags of a type. -/
abbrev TypeFlags := Flags .type

/-- Clients can make instances. -/
def TypeFlags.canCreate : TypeFlags := ⟨0x0002⟩

/-- Not shown by browsers. -/
def TypeFlags.hidden : TypeFlags := ⟨0x0010⟩

/-- The interface can be bound dynamically and directly. -/
def TypeFlags.dual : TypeFlags := ⟨0x0040⟩

/-- Only automation-compatible types occur in the signatures. -/
def TypeFlags.oleAutomation : TypeFlags := ⟨0x0100⟩

/-- Not callable from macro languages. -/
def TypeFlags.restricted : TypeFlags := ⟨0x0200⟩

/-- The interface derives from the dynamic-invocation contract. -/
def TypeFlags.dispatchable : TypeFlags := ⟨0x1000⟩

/-- Flags of an implemented type. -/
abbrev ImplementedFlags := Flags .implemented

/-- The default interface, or the default event source. -/
def ImplementedFlags.default : ImplementedFlags := ⟨0x1⟩

/-- An outgoing interface. -/
def ImplementedFlags.source : ImplementedFlags := ⟨0x2⟩

/-- Flags of a parameter. -/
abbrev ParameterFlags := Flags .parameter

/-- The caller passes a value. -/
def ParameterFlags.input : ParameterFlags := ⟨0x01⟩

/-- The function passes a value back. -/
def ParameterFlags.output : ParameterFlags := ⟨0x02⟩

/-- The parameter receives the result. -/
def ParameterFlags.result : ParameterFlags := ⟨0x08⟩

/-- The parameter may be left out. -/
def ParameterFlags.optional : ParameterFlags := ⟨0x10⟩

/-- A default value is attached. -/
def ParameterFlags.hasDefault : ParameterFlags := ⟨0x20⟩

/-- Flags of a function. -/
abbrev FunctionFlags := Flags .function

/-- Not callable from macro languages. -/
def FunctionFlags.restricted : FunctionFlags := ⟨0x0001⟩

/-- Not shown by browsers. -/
def FunctionFlags.hidden : FunctionFlags := ⟨0x0040⟩

/-- Flags of a variable. -/
abbrev VariableFlags := Flags .var

end Automation.Library
