import Automation.FirstFree
import Automation.Library.Descriptor

/-!
# Dispatch ids

Functions that go by one name share an identity, and each identity of an interface gets one dispatch
id. `groupIdentities` finds the identities; `assignIds` numbers them in order. The first to claim an
id keeps it; who comes too late gets the least positive id that is free and that nobody later asks
for.
-/

namespace Automation.Export

open Library

/-- What decides the identity of a function. -/
structure Claimant where
  /-- The property of an accessor, as names are compared. -/
  property : Option String
  invoke : InvokeKind
  /-- The id that the member declares. -/
  requested : Option MemberId
  deriving DecidableEq, Repr

/-- A dispatch identity: functions that share an id. -/
structure Identity where
  property : Option String
  /-- How its functions are invoked. -/
  kinds : List InvokeKind
  /-- The first declared id among its functions. -/
  requested : Option MemberId
  deriving DecidableEq, Repr

/-- Whether an identity is that of the same property and has no such accessor yet. -/
def Identity.hasRoom (i : Identity) (c : Claimant) : Bool :=
  c.property.isSome && i.property == c.property && !i.kinds.contains c.invoke

/-- The identity with one more function. -/
def Identity.join (i : Identity) (c : Claimant) : Identity :=
  { i with kinds := i.kinds ++ [c.invoke], requested := i.requested <|> c.requested }

/-- The identities of an interface, and the place of the identity of each function. -/
structure Grouping where
  identities : List Identity := []
  places : List Nat := []
  deriving DecidableEq, Repr

/-- The grouping with one more function. It joins the first identity of its property with room for
it, or else makes a new one. -/
def Grouping.add (g : Grouping) (c : Claimant) : Grouping :=
  match g.identities.findIdx? (·.hasRoom c) with
  | some place =>
    { identities := g.identities.modify place (·.join c), places := g.places ++ [place] }
  | none =>
    { identities := g.identities ++ [⟨c.property, [c.invoke], c.requested⟩]
      places := g.places ++ [g.identities.length] }

/-- The identities of a list of functions. -/
def groupIdentities (claimants : List Claimant) : Grouping := claimants.foldl Grouping.add {}

/-- An identity that did not get the id it wanted. -/
structure Reassignment where
  /-- The place of the identity. -/
  place : Nat
  wanted : MemberId
  assigned : MemberId
  deriving DecidableEq, Repr

/-- The ids of an interface, by identity, and which of them were moved. -/
structure Assignment where
  ids : List MemberId := []
  reassigned : List Reassignment := []
  deriving DecidableEq, Repr

/-- A declared id, where the id that stands for none is no declaration. -/
def declared? (request : Option MemberId) : Option MemberId :=
  request.filter fun id => id != MemberId.none

/-- The id that lies `n` after another, as long as there are ids. -/
def idAfter? (first : MemberId) (n : Nat) : Option MemberId :=
  if first + n ≤ MemberId.max then some (first + n) else none

/-- The least positive id that is neither claimed nor awaited. -/
def freeId (claimed awaited : List MemberId) : MemberId :=
  let isTaken (n : Nat) : Bool := claimed.contains (n : Int) || awaited.contains (n : Int)
  (firstFree isTaken (claimed.length + awaited.length + 1) 1 : Nat)

/-- The id that an identity wants, and whether it may have it. One that declares none wants the
automatic id of its place, which has to be positive. -/
def wantedId (first : MemberId) (place : Nat) (claimed : List MemberId)
    (request : Option MemberId) : MemberId × Bool :=
  match request, idAfter? first place with
  | some id, _ => (id, !claimed.contains id)
  | none, some id => (id, decide (0 < id) && !claimed.contains id)
  | none, none => (MemberId.max, false)

/-- The ids of the identities from a place on, when the given ids are claimed. Every request is a
declared id or none. -/
def assignFrom (first : MemberId) (place : Nat) (claimed : List MemberId) :
    List (Option MemberId) → Assignment
  | [] => {}
  | request :: later =>
    let (wanted, usable) := wantedId first place claimed request
    let id := if usable then wanted else freeId claimed (later.filterMap id)
    let rest := assignFrom first (place + 1) (id :: claimed) later
    { ids := id :: rest.ids
      reassigned :=
        if usable then rest.reassigned else ⟨place, wanted, id⟩ :: rest.reassigned }

/-- The ids of the identities of an interface, given the first automatic id, the ids of its bases
and the declared ids. -/
def assignIds (first : MemberId) (inherited : List MemberId) (requests : List (Option MemberId)) :
    Assignment :=
  assignFrom first 0 inherited (requests.map declared?)

end Automation.Export
