/-!
# Walks along links

A walk follows one link from each place and ends where there is no link or the place is no longer
open. Every place is closed as it is met, so a walk ends on every set of links, cyclic or not.
-/

namespace Automation

/-- The walk from `start`: the places that it meets, in order, and the places still open. -/
def walk (next : Nat → Option Nat) (isOpen : List Nat) (start : Nat) : List Nat × List Nat :=
  if start ∈ isOpen then
    match next start with
    | none => ([start], isOpen.erase start)
    | some place =>
      let (met, left) := walk next (isOpen.erase start) place
      (start :: met, left)
  else ([], isOpen)
termination_by isOpen.length
decreasing_by
  have : 0 < isOpen.length := List.length_pos_of_mem ‹_›
  rw [List.length_erase_of_mem ‹_›]
  omega

/-- The walks from one place after another, each of them backwards: a place comes after those that
its walk leads to. -/
def walks (next : Nat → Option Nat) (isOpen : List Nat) : List Nat → List Nat
  | [] => []
  | start :: later =>
    let (met, left) := walk next isOpen start
    met.reverse ++ walks next left later

end Automation
