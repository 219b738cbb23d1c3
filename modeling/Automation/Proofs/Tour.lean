import Automation.Proofs.Walk
import Mathlib.Logic.Function.Iterate

/-!
# Walks turn by turn

A tour makes the walks from one start after another, a turn at a time: the present walk goes on to the
place that it has come to, or it is over and the next one begins. All that a tour asks of a place is
whether an earlier walk has met it and whether the present one has. That is enough for every tour to
end, wherever the links lead (`iterate_turn_setOut`): it takes one turn for each place that it meets
and one for each start, and what it has then put together are the walks in turn.
-/

namespace Automation

/-- Walks in turn, halfway. -/
structure Tour where
  /-- The walks that are over, each of them backwards. -/
  order : List Nat
  /-- The present walk, backwards. -/
  chain : List Nat
  /-- Where the present walk has come to. -/
  place : Option Nat
  /-- The starts of the walks to come. -/
  later : List Nat
  deriving DecidableEq, Repr

namespace Tour

/-- The present walk is over, and the next one begins. -/
def nextWalk (t : Tour) : Tour where
  order := t.order ++ t.chain
  chain := []
  place := t.later.head?
  later := t.later.tail

/-- One turn of a tour among the given places. -/
def turn (next : Nat → Option Nat) (places : List Nat) (t : Tour) : Tour :=
  match t.place with
  | some a =>
    if a ∈ places ∧ a ∉ t.order ∧ a ∉ t.chain then
      { t with chain := a :: t.chain, place := next a }
    else t.nextWalk
  | none => t.nextWalk

/-- A tour before its first turn. -/
def setOut (starts : List Nat) : Tour := nextWalk ⟨[], [], none, starts⟩

/-- A tour whose walks are over. -/
def ended (order : List Nat) : Tour := ⟨order, [], none, []⟩

variable {next : Nat → Option Nat} {places isOpen order chain starts later : List Nat} {start : Nat}

/-- A tour that has ended stays as it is. -/
theorem turn_ended : turn next places (ended order) = ended order := by
  simp [turn, ended, nextWalk]

theorem turn_of_mem (h : start ∈ places ∧ start ∉ order ∧ start ∉ chain) :
    turn next places ⟨order, chain, some start, later⟩ =
      ⟨order, start :: chain, next start, later⟩ := if_pos h

theorem turn_of_not_mem (h : ¬(start ∈ places ∧ start ∉ order ∧ start ∉ chain)) :
    turn next places ⟨order, chain, some start, later⟩ = nextWalk ⟨order, chain, none, later⟩ :=
  if_neg h

/-- The turns of one walk: one for each place that it meets, and one in which it ends. -/
theorem iterate_turn_walk (hopen : isOpen.Nodup)
    (hfree : ∀ a, a ∈ isOpen ↔ a ∈ places ∧ a ∉ order ∧ a ∉ chain) :
    (turn next places)^[(walk next isOpen start).1.length + 1] ⟨order, chain, some start, later⟩ =
      nextWalk ⟨order, (walk next isOpen start).1.reverse ++ chain, none, later⟩ := by
  induction isOpen, start using walk_induction next generalizing chain with
  | closed isOpen start hs =>
    rw [walk_of_not_mem hs]
    exact turn_of_not_mem fun h => hs ((hfree start).mpr h)
  | last isOpen start hs hnext =>
    rw [walk_of_none hs hnext, Function.iterate_succ_apply, turn_of_mem ((hfree start).mp hs), hnext]
    rfl
  | more isOpen start place hs hnext ih =>
    have hfree' : ∀ a, a ∈ isOpen.erase start ↔ a ∈ places ∧ a ∉ order ∧ a ∉ start :: chain := by
      intro a
      rw [hopen.mem_erase_iff, hfree, List.mem_cons]
      tauto
    rw [walk_of_some hs hnext, Function.iterate_succ_apply, turn_of_mem ((hfree start).mp hs), hnext,
      List.length_cons, ih (hopen.erase start) hfree', List.reverse_cons, List.append_assoc]
    rfl

/-- The turns of the walks to come. -/
theorem iterate_turn_nextWalk (hopen : isOpen.Nodup)
    (hfree : ∀ a, a ∈ isOpen ↔ a ∈ places ∧ a ∉ order ∧ a ∉ chain) :
    (turn next places)^[(walks next isOpen starts).length + starts.length]
        (nextWalk ⟨order, chain, none, starts⟩) =
      ended (order ++ chain ++ walks next isOpen starts) := by
  induction starts generalizing isOpen order chain with
  | nil => simp [walks, nextWalk, ended]
  | cons start later ih =>
    have hleft : ∀ a, a ∈ (walk next isOpen start).2 ↔
        a ∈ places ∧ a ∉ order ++ chain ∧ a ∉ (walk next isOpen start).1.reverse ++ [] := by
      intro a
      rw [mem_left hopen, hfree, List.append_nil, List.mem_reverse, List.mem_append]
      tauto
    have hfree' : ∀ a, a ∈ isOpen ↔ a ∈ places ∧ a ∉ order ++ chain ∧ a ∉ [] := by
      intro a
      rw [hfree, List.mem_append]
      simp
    have hturns : (walks next isOpen (start :: later)).length + (start :: later).length =
        ((walks next (walk next isOpen start).2 later).length + later.length) +
          ((walk next isOpen start).1.length + 1) := by
      rw [walks_cons, List.length_append, List.length_reverse, List.length_cons]
      omega
    have hbegun : nextWalk ⟨order, chain, none, start :: later⟩ =
        ⟨order ++ chain, [], some start, later⟩ := rfl
    rw [hturns, Function.iterate_add_apply, hbegun, iterate_turn_walk hopen hfree',
      ih (nodup_left hopen) hleft, walks_cons]
    simp

/-- **Every tour ends**, with the walks in turn: it takes a turn for each place that it meets and one
for each start. -/
theorem iterate_turn_setOut (hplaces : places.Nodup) {turns : Nat}
    (hturns : (walks next places starts).length + starts.length ≤ turns) :
    (turn next places)^[turns] (setOut starts) = ended (walks next places starts) := by
  have hfree : ∀ a, a ∈ places ↔ a ∈ places ∧ a ∉ ([] : List Nat) ∧ a ∉ ([] : List Nat) := by simp
  have hended : (turn next places)^[(walks next places starts).length + starts.length]
      (setOut starts) = ended (walks next places starts) := iterate_turn_nextWalk hplaces hfree
  obtain ⟨more, rfl⟩ := Nat.exists_eq_add_of_le' hturns
  rw [Function.iterate_add_apply, hended]
  exact Function.iterate_fixed turn_ended more

end Tour

end Automation
