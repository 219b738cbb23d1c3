import Automation.Diagnostic.Basic

/-!
# The queue of diagnostics

Diagnostics are kept in the order in which they were raised. A limit on warnings and the removal
of repetitions may refuse some of them; an error is refused only as a repetition.
-/

namespace Automation.Diagnostic

/-- What a queue refuses. -/
structure Policy where
  /-- How many warnings are kept; zero means all. -/
  warningLimit : Nat := 0
  /-- Whether a diagnostic that repeats a queued one is refused. -/
  deduplicate : Bool := true
  deriving DecidableEq, Repr

/-- The policy that refuses nothing. -/
def Policy.unlimited : Policy where
  deduplicate := false

/-- Diagnostics in the order in which they were raised, with the counts kept of them. -/
structure Queue where
  policy : Policy := {}
  diagnostics : List Diagnostic := []
  /-- The keys by which repetitions are known. -/
  seen : List Key := []
  errors : Nat := 0
  warnings : Nat := 0
  /-- How many warnings the limit refused. -/
  suppressed : Nat := 0
  /-- The keys are those of the queued diagnostics, and there are none if repetitions are kept. -/
  seen_iff : ∀ key, key ∈ seen ↔ policy.deduplicate ∧ ∃ d ∈ diagnostics, d.key = key := by simp
  deriving DecidableEq, Repr

/-- The text of the proof that an error was reported. -/
def guaranteeText : String := "error(s) emitted"

namespace Queue

/-- The empty queue. -/
def empty (policy : Policy) : Queue where
  policy := policy

/-- Whether the limit refuses a diagnostic. -/
def overLimit (q : Queue) (d : Diagnostic) : Bool :=
  d.isWarning && decide (0 < q.policy.warningLimit) && decide (q.policy.warningLimit ≤ q.warnings)

/-- Whether a diagnostic is refused as a repetition. -/
def isRepetition (q : Queue) (d : Diagnostic) : Bool :=
  q.policy.deduplicate && q.seen.contains d.key

/-- The queue with one more diagnostic, which it has counted and will know again. -/
def accept (q : Queue) (d : Diagnostic) : Queue where
  policy := q.policy
  diagnostics := q.diagnostics ++ [d]
  seen := if q.policy.deduplicate then d.key :: q.seen else q.seen
  errors := q.errors + (if d.isError then 1 else 0)
  warnings := q.warnings + (if d.isWarning then 1 else 0)
  suppressed := q.suppressed
  seen_iff key := by
    split
    · next h => simp [q.seen_iff, h, or_and_right, exists_or, or_comm, eq_comm]
    · next h => simp [q.seen_iff, h]

/-- Whether a diagnostic is accepted, and the queue after it was raised. -/
def add (q : Queue) (d : Diagnostic) : Bool × Queue :=
  if q.overLimit d then (false, { q with suppressed := q.suppressed + 1 })
  else if q.isRepetition d then (false, q)
  else (true, q.accept d)

/-- The queue after a diagnostic was raised, accepted or not. -/
def raise (q : Queue) (d : Diagnostic) : Queue := (q.add d).2

/-- The queue after an error was raised for which the proof that an error was reported is handed out
at once. -/
def emitError (q : Queue) (d : Diagnostic) : Queue := q.raise d

/-- The queue after several diagnostics were raised. -/
def addAll (q : Queue) (ds : List Diagnostic) : Queue := ds.foldl raise q

/-- Whether an error was queued. -/
def hasErrors (q : Queue) : Bool := decide (0 < q.errors)

/-- Whether a diagnostic with the code is queued. -/
def contains (q : Queue) (code : Code) : Bool := q.diagnostics.any fun d => d.code == code

/-- The queue after its diagnostics were handed over. -/
def flushed (q : Queue) : Queue := empty q.policy

/-- The diagnostics that are handed over, and the queue after that. -/
def flush (q : Queue) : List Diagnostic × Queue := (q.diagnostics, q.flushed)

/-! ## Raising a diagnostic -/

variable {q : Queue} {d : Diagnostic}

theorem isRepetition_iff :
    q.isRepetition d ↔ q.policy.deduplicate ∧ ∃ e ∈ q.diagnostics, e.key = d.key := by
  rw [isRepetition, Bool.and_eq_true, List.contains_iff_mem, q.seen_iff]
  exact ⟨And.right, fun h => ⟨h.1, h⟩⟩

/-- The limit is on warnings. -/
theorem not_overLimit_of_isError (q : Queue) (hd : d.isError) : ¬q.overLimit d := by
  have hseverity : d.severity = .error := eq_of_beq hd
  simp [overLimit, isWarning, hseverity]

theorem add_of_overLimit (h : q.overLimit d) :
    q.add d = (false, { q with suppressed := q.suppressed + 1 }) := if_pos h

theorem add_of_isRepetition (hlimit : ¬q.overLimit d) (h : q.isRepetition d) :
    q.add d = (false, q) := by
  rw [add, if_neg hlimit, if_pos h]

theorem add_of_not_isRepetition (hlimit : ¬q.overLimit d) (h : ¬q.isRepetition d) :
    q.add d = (true, q.accept d) := by
  rw [add, if_neg hlimit, if_neg h]

theorem raise_cases (q : Queue) (d : Diagnostic) :
    q.raise d = { q with suppressed := q.suppressed + 1 } ∨ q.raise d = q ∨ q.raise d = q.accept d := by
  unfold raise add
  split
  · exact .inl rfl
  · split
    · exact .inr (.inl rfl)
    · exact .inr (.inr rfl)

end Queue

end Automation.Diagnostic
