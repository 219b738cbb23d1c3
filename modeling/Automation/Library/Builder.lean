import Automation.Library.Basic

/-!
# Builders

A builder records libraries. It is asked in two phases: every type is created before any type
refers to another, then each is filled and laid out. A builder may reject any request; it is told
of every request in order and may keep what it likes about them.
-/

namespace Automation.Library

/-- Why a request is rejected. -/
inductive BuildError where
  | missingAttributes
  | duplicateName (name : String)
  | unknownHandle (index : Nat)
  | unknownImport (index : Nat)
  | danglingReference (type : String)
  | laidOut (type : String)
  | notLaidOut (type : String)
  | indexOutOfRange (type : String) (index length : Nat)
  | invalidKind (type what : String)
  | tooManyNames (type : String) (names params : Nat)
  | duplicateDispatchId (type : String) (memid : MemberId)
  | offsetTooLow (type : String) (index offset least : Nat)
  | offsetOrder (type : String) (index : Nat)
  | defaultCount (type : String) (count : Nat)
  deriving DecidableEq, Repr

/-- A member id as a 32-bit number in hexadecimal. -/
def MemberId.hex (memid : MemberId) : String :=
  "0x" ++ String.ofList (Nat.toDigits 16 (memid % 0x100000000).toNat)

/-- The wording of a rejection. -/
def BuildError.message : BuildError → String
  | missingAttributes => "library attributes were never set"
  | duplicateName name => s!"name `{name}` is already defined in this library"
  | unknownHandle index => s!"no type with handle #{index}"
  | unknownImport index => s!"no import with index #{index}"
  | danglingReference type => s!"`{type}` refers to a type that does not exist"
  | laidOut type => s!"`{type}` is already laid out"
  | notLaidOut type => s!"`{type}` was never laid out"
  | indexOutOfRange type index length =>
    s!"index {index} is out of range for `{type}` ({length} entries)"
  | invalidKind type what => s!"`{type}` cannot hold {what}"
  | tooManyNames type names params =>
    s!"`{type}` gives {names} names to a function with {params} parameters"
  | duplicateDispatchId type memid => s!"dispatch id {memid.hex} is used twice in `{type}`"
  | offsetTooLow type index offset least =>
    s!"vtable offset {offset} of `{type}` function {index} must be at least {least}"
  | offsetOrder type index =>
    s!"vtable offsets of `{type}` are not strictly increasing at function {index}"
  | defaultCount type count => s!"class `{type}` marks {count} interfaces default"

/-- What an accepted request is answered with. -/
inductive ReplyKind where
  | done
  | handle
  | importId

/-- The answers of a kind. -/
abbrev ReplyKind.Answer : ReplyKind → Type
  | done => Unit
  | handle => Handle
  | importId => ImportId

/-- A request about one library, and the kind of its answer. -/
inductive Request : ReplyKind → Type where
  | setAttributes (attributes : Attributes) : Request .done
  /-- An empty type. Names are unique, whatever the case. -/
  | createType (name : String) (kind : TypeKind) : Request .handle
  | setGuid (type : Handle) (guid : Guid) : Request .done
  | setVersion (type : Handle) (version : Version) : Request .done
  | setFlags (type : Handle) (flags : TypeFlags) : Request .done
  | setDoc (type : Handle) (doc : String) : Request .done
  /-- One more implemented type of a class, or the base of an interface. -/
  | addImplemented (type : Handle) (index : Nat) (ref : TypeRef) (flags : ImplementedFlags) :
    Request .done
  | addFunction (type : Handle) (index : Nat) (content : FunctionDesc) : Request .done
  | addVariable (type : Handle) (index : Nat) (content : VariableDesc) : Request .done
  /-- The name of a function and those of its parameters. -/
  | setFunctionNames (type : Handle) (index : Nat) (names : List String) : Request .done
  | setVariableName (type : Handle) (index : Nat) (name : String) : Request .done
  | setFunctionDoc (type : Handle) (index : Nat) (doc : String) : Request .done
  | setVariableDoc (type : Handle) (index : Nat) (doc : String) : Request .done
  /-- An entry of the import table: a library that has one already keeps it. -/
  | addImport (library : ImportedLibrary) : Request .importId
  /-- No more is added to the type. -/
  | layOut (type : Handle) : Request .done

/-- A recorder of libraries. `World` is what it remembers across libraries, `Draft` what it knows
of one library, and `Committed` what a commit leaves. -/
structure Builder (World Draft Committed : Type) where
  /-- The draft of a further library, made beside another. -/
  newLibrary : World → Draft → World × Draft
  /-- The answer to a request, or its rejection, and what is known afterwards. -/
  answer : {kind : ReplyKind} → Request kind → World → Draft →
    Except BuildError kind.Answer × World × Draft
  /-- The library written out. The draft is used up. -/
  commit : World → Draft → Except BuildError Committed × World

end Automation.Library
