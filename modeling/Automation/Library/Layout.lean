import Automation.FirstFree
import Automation.Library.Builder

/-!
# Layout of a type

What is checked, and what is filled in, when a type is laid out: functions without an id are
numbered, ids differ along the base chain, offsets ascend from the reserved slots, and a class
marks one interface as its default.
-/

namespace Automation.Library.Layout

/-- The first id given to a function that has none. -/
def firstMemberId : Nat := 0x60020000

/-- The least id from the first on that is not taken. -/
def freeMemberId (taken : List MemberId) : MemberId :=
  let place := firstFree (fun n => taken.contains (n : Int)) (taken.length + 1) firstMemberId
  (place : Int)

/-- The functions with ids for those that have none, where the ids in `taken` are in use. -/
def numberFrom (taken : List MemberId) : List FunctionInfo → List FunctionInfo
  | [] => []
  | f :: later =>
    if f.desc.memid = MemberId.none then
      let memid := freeMemberId taken
      { f with desc := { f.desc with memid := memid } } :: numberFrom (memid :: taken) later
    else f :: numberFrom taken later

/-- The functions with ids for those that have none. -/
def number (inherited : List MemberId) (functions : List FunctionInfo) : List FunctionInfo :=
  numberFrom (functions.map (·.desc.memid) ++ inherited) functions

/-- Whether a function may not follow another with its id. -/
def clashes (f earlier : FunctionDesc) : Bool :=
  earlier.memid == f.memid && !earlier.invoke.mayShareId f.invoke

/-- The first id that is inherited or used twice, after the functions `earlier`. -/
def repeatedId? (inherited : List MemberId) (earlier : List FunctionDesc) :
    List FunctionDesc → Option MemberId
  | [] => none
  | f :: later =>
    if inherited.contains f.memid || earlier.any (clashes f) then some f.memid
    else repeatedId? inherited (earlier ++ [f]) later

/-- The first offset that lies too low or out of order, from the function at `index` on, where
`previous` is the offset before it. -/
def offsetFault? (type : String) (slot least : Nat) (index : Nat) (previous : Option Nat) :
    List FunctionDesc → Option BuildError
  | [] => none
  | f :: later =>
    if f.offset < least then some (.offsetTooLow type index f.offset least)
    else if previous.any (fun p => decide (f.offset ≤ p)) || f.offset % slot != 0 then
      some (.offsetOrder type index)
    else offsetFault? type slot least (index + 1) (some f.offset) later

/-- What is wrong with the numbered functions of an interface. -/
def interfaceFault? (type : TypeInfo) (inherited : List MemberId) (slot : Nat) :
    Option BuildError :=
  let functions := type.functions.map (·.desc)
  match repeatedId? inherited [] functions with
  | some memid => some (.duplicateDispatchId type.name memid)
  | none =>
    let least := (reservedSlots type.kind type.flags + inherited.length) * slot
    offsetFault? type.name slot least 0 none functions

/-- What is wrong with the implemented types of a class. -/
def classFault? (type : TypeInfo) : Option BuildError :=
  let count := type.implemented.countP ImplementedType.isDefault
  if count = 1 then none else some (.defaultCount type.name count)

end Automation.Library.Layout
