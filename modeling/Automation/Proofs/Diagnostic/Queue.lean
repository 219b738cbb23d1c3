import Automation.Diagnostic.Queue
import Mathlib.Data.List.Nodup

/-!
# Histories of the queue

`Queue.Observed` is a queue with all that was raised since it was last handed over. Each request keeps
the two in step, and so `Queue.isFaithful_after` tells from the history alone what a queue holds,
counts and refuses. The proof that an error was reported is good unless repetitions are refused and a
warning or a note that says the same is queued: `Queue.emitError_guarantee`.
-/

namespace Automation.Diagnostic

/-! ## What is refused -/

/-- A diagnostic that was raised, and the answer to it. -/
structure Raised where
  diagnostic : Diagnostic
  accepted : Bool
  deriving DecidableEq, Repr

/-- What was accepted, in the order in which it was raised. -/
def kept (history : List Raised) : List Diagnostic :=
  (history.filter (·.accepted)).map (·.diagnostic)

theorem kept_concat_accepted (history : List Raised) (d : Diagnostic) :
    kept (history ++ [⟨d, true⟩]) = kept history ++ [d] := by
  simp [kept, List.filter_append]

theorem kept_concat_refused (history : List Raised) (d : Diagnostic) :
    kept (history ++ [⟨d, false⟩]) = kept history := by
  simp [kept, List.filter_append]

namespace Policy

variable {policy : Policy} {history : List Raised}

/-- The diagnostic is a warning beyond the limit. -/
def IsFull (policy : Policy) (queued : List Diagnostic) (d : Diagnostic) : Prop :=
  d.isWarning ∧ 0 < policy.warningLimit ∧ policy.warningLimit ≤ queued.countP isWarning

/-- Repetitions are refused, and the diagnostic is one. -/
def IsKnown (policy : Policy) (queued : List Diagnostic) (d : Diagnostic) : Prop :=
  policy.deduplicate ∧ ∃ e ∈ queued, e.key = d.key

instance (queued : List Diagnostic) (d : Diagnostic) : Decidable (policy.IsFull queued d) :=
  inferInstanceAs (Decidable (_ ∧ _ ∧ _))

/-- How many diagnostics the limit refuses, if others were raised before them. -/
def limited (policy : Policy) (before : List Raised) : List Raised → Nat
  | [] => 0
  | r :: later =>
    (if policy.IsFull (kept before) r.diagnostic then 1 else 0) + policy.limited (before ++ [r]) later

/-- Each diagnostic of a history was refused if the limit was reached before it or if it is a
repetition, and only then. -/
def Answers (policy : Policy) (history : List Raised) : Prop :=
  ∀ before r later, history = before ++ r :: later → (r.accepted = false ↔
    policy.IsFull (kept before) r.diagnostic ∨ policy.IsKnown (kept before) r.diagnostic)

theorem limited_concat (before later : List Raised) (r : Raised) :
    policy.limited before (later ++ [r]) = policy.limited before later +
      if policy.IsFull (kept (before ++ later)) r.diagnostic then 1 else 0 := by
  induction later generalizing before with
  | nil => simp [limited]
  | cons first later ih =>
    rw [List.cons_append, limited, limited, ih, ← Nat.add_assoc, List.append_assoc,
      List.singleton_append]

theorem answers_nil (policy : Policy) : policy.Answers [] :=
  fun _ _ _ h => absurd h (by simp)

theorem Answers.concat (h : policy.Answers history) {r : Raised} (hr : r.accepted = false ↔
    policy.IsFull (kept history) r.diagnostic ∨ policy.IsKnown (kept history) r.diagnostic) :
    policy.Answers (history ++ [r]) := by
  intro before s later hsplit
  -- The entry is the last one, or the history was split at it before.
  rcases later.eq_nil_or_concat with rfl | ⟨later, last, rfl⟩
  · obtain ⟨rfl, hlast⟩ := List.append_inj' hsplit rfl
    obtain rfl := List.singleton_inj.mp hlast
    exact hr
  · rw [List.concat_eq_append, ← List.cons_append, ← List.append_assoc] at hsplit
    exact h before s later (List.append_inj_left' hsplit rfl)

end Policy

/-! ## Histories -/

namespace Queue

variable {policy : Policy} {q : Queue} {d : Diagnostic}

/-- What can be asked of a queue. -/
inductive Request where
  | add (d : Diagnostic)
  | emitError (d : Diagnostic) (isError : d.isError)
  | flush

/-- A queue, and what was raised since it was last handed over. -/
structure Observed where
  queue : Queue
  history : List Raised := []

namespace Observed

/-- A diagnostic was raised, after which the queue is another. -/
def raise (o : Observed) (d : Diagnostic) (next : Queue) : Observed where
  queue := next
  history := o.history ++ [⟨d, (o.queue.add d).1⟩]

/-- What is observed after a request. -/
def step (o : Observed) : Request → Observed
  | .add d => o.raise d (o.queue.add d).2
  | .emitError d _ => o.raise d (o.queue.emitError d)
  | .flush => { queue := o.queue.flush.2 }

end Observed

/-- What is observed of a new queue after some requests. -/
def after (policy : Policy) (requests : List Request) : Observed :=
  requests.foldl Observed.step { queue := empty policy }

/-- The queue holds, counts and refuses what its history says. -/
structure IsFaithful (policy : Policy) (o : Observed) : Prop where
  answers : policy.Answers o.history
  /-- All that was accepted is handed over, and what is left is a new queue. -/
  flush : o.queue.flush = (kept o.history, empty policy)
  /-- The keys are those of what was accepted, and there are none if repetitions are kept. -/
  seen : ∀ key, key ∈ o.queue.seen ↔ policy.deduplicate ∧ ∃ d ∈ kept o.history, d.key = key
  errors : o.queue.errors = o.queue.diagnostics.countP isError
  warnings : o.queue.warnings = o.queue.diagnostics.countP isWarning
  suppressed : o.queue.suppressed = policy.limited [] o.history
  limit : 0 < policy.warningLimit → o.queue.diagnostics.countP isWarning ≤ policy.warningLimit
  distinct : policy.deduplicate → o.queue.diagnostics.Pairwise fun d e => d.key ≠ e.key

theorem isFaithful_empty (policy : Policy) : IsFaithful policy { queue := empty policy } where
  answers := policy.answers_nil
  flush := rfl
  seen := (empty policy).seen_iff
  errors := rfl
  warnings := rfl
  suppressed := rfl
  limit _ := Nat.zero_le _
  distinct _ := .nil

namespace IsFaithful

variable {o : Observed}

theorem diagnostics_eq (h : IsFaithful policy o) : o.queue.diagnostics = kept o.history :=
  congrArg Prod.fst h.flush

theorem policy_eq (h : IsFaithful policy o) : o.queue.policy = policy :=
  congrArg (fun handed => handed.2.policy) h.flush

theorem overLimit_iff (h : IsFaithful policy o) :
    o.queue.overLimit d ↔ policy.IsFull (kept o.history) d := by
  simp [overLimit, Policy.IsFull, h.policy_eq, h.warnings, h.diagnostics_eq, and_assoc]

theorem isRepetition_iff (h : IsFaithful policy o) :
    o.queue.isRepetition d ↔ policy.IsKnown (kept o.history) d := by
  rw [Queue.isRepetition_iff, Policy.IsKnown, h.policy_eq, h.diagnostics_eq]

/-- The warnings within the limit leave room for one more that the limit does not refuse. -/
theorem countP_concat_le (h : IsFaithful policy o) (hfull : ¬policy.IsFull (kept o.history) d)
    (hlimit : 0 < policy.warningLimit) :
    (o.queue.diagnostics ++ [d]).countP isWarning ≤ policy.warningLimit := by
  have hcount := h.limit hlimit
  rw [List.countP_append, List.countP_singleton]
  split
  · next hwarning =>
    have hroom : ¬policy.warningLimit ≤ (kept o.history).countP isWarning :=
      fun hreached => hfull ⟨hwarning, hlimit, hreached⟩
    rw [h.diagnostics_eq]
    omega
  · exact hcount

/-- What the limit counts, if one more diagnostic is raised. -/
theorem suppressed_concat (h : IsFaithful policy o) (d : Diagnostic) (accepted : Bool) :
    policy.limited [] (o.history ++ [⟨d, accepted⟩]) =
      o.queue.suppressed + if policy.IsFull (kept o.history) d then 1 else 0 := by
  rw [h.suppressed, Policy.limited_concat, List.nil_append]

theorem refuse_full (h : IsFaithful policy o) (hfull : policy.IsFull (kept o.history) d) :
    IsFaithful policy { queue := { o.queue with suppressed := o.queue.suppressed + 1 },
                        history := o.history ++ [⟨d, false⟩] } where
  answers := h.answers.concat (iff_of_true rfl (.inl hfull))
  flush := by
    rw [kept_concat_refused]
    exact h.flush
  seen := by
    rw [kept_concat_refused]
    exact h.seen
  errors := h.errors
  warnings := h.warnings
  suppressed := by rw [h.suppressed_concat, if_pos hfull]
  limit := h.limit
  distinct := h.distinct

theorem refuse_known (h : IsFaithful policy o) (hfull : ¬policy.IsFull (kept o.history) d)
    (hknown : policy.IsKnown (kept o.history) d) :
    IsFaithful policy { queue := o.queue, history := o.history ++ [⟨d, false⟩] } where
  answers := h.answers.concat (iff_of_true rfl (.inr hknown))
  flush := by
    rw [kept_concat_refused]
    exact h.flush
  seen := by
    rw [kept_concat_refused]
    exact h.seen
  errors := h.errors
  warnings := h.warnings
  suppressed := by rw [h.suppressed_concat, if_neg hfull, Nat.add_zero]
  limit := h.limit
  distinct := h.distinct

theorem accept (h : IsFaithful policy o) (hfull : ¬policy.IsFull (kept o.history) d)
    (hknown : ¬policy.IsKnown (kept o.history) d) :
    IsFaithful policy { queue := o.queue.accept d, history := o.history ++ [⟨d, true⟩] } where
  answers := h.answers.concat (iff_of_false Bool.noConfusion (not_or.mpr ⟨hfull, hknown⟩))
  flush := by
    rw [kept_concat_accepted, ← h.diagnostics_eq, ← h.policy_eq]
    rfl
  seen := by
    rw [kept_concat_accepted, ← h.diagnostics_eq, ← h.policy_eq]
    exact (o.queue.accept d).seen_iff
  errors := by rw [Queue.accept, List.countP_append, List.countP_singleton, h.errors]
  warnings := by rw [Queue.accept, List.countP_append, List.countP_singleton, h.warnings]
  suppressed := by rw [h.suppressed_concat, if_neg hfull, Nat.add_zero, Queue.accept]
  limit := h.countP_concat_le hfull
  distinct := by
    intro hdeduplicate
    refine List.pairwise_append.mpr ⟨h.distinct hdeduplicate, List.pairwise_singleton .., ?_⟩
    intro e he f hf hkey
    obtain rfl := List.mem_singleton.mp hf
    exact hknown ⟨hdeduplicate, e, h.diagnostics_eq ▸ he, hkey⟩

/-- Raising a diagnostic keeps queue and history in step. -/
theorem raise (h : IsFaithful policy o) (d : Diagnostic) :
    IsFaithful policy (o.raise d (o.queue.add d).2) := by
  unfold Observed.raise
  by_cases hfull : policy.IsFull (kept o.history) d
  · rw [add_of_overLimit (h.overLimit_iff.mpr hfull)]
    exact h.refuse_full hfull
  · have hlimit := mt h.overLimit_iff.mp hfull
    by_cases hknown : policy.IsKnown (kept o.history) d
    · rw [add_of_isRepetition hlimit (h.isRepetition_iff.mpr hknown)]
      exact h.refuse_known hfull hknown
    · rw [add_of_not_isRepetition hlimit (mt h.isRepetition_iff.mp hknown)]
      exact h.accept hfull hknown

theorem step (h : IsFaithful policy o) (request : Request) : IsFaithful policy (o.step request) := by
  cases request with
  | add d => exact h.raise d
  | emitError d _ => exact h.raise d
  | flush =>
    have hqueue : o.queue.flush.2 = empty policy := congrArg Prod.snd h.flush
    simpa only [Observed.step, hqueue] using isFaithful_empty policy

end IsFaithful

theorem isFaithful_foldl {o : Observed} (h : IsFaithful policy o) (requests : List Request) :
    IsFaithful policy (requests.foldl Observed.step o) := by
  induction requests generalizing o with
  | nil => exact h
  | cons request later ih => exact ih (h.step request)

/-- After any requests, a queue holds, counts and refuses what its history says. -/
theorem isFaithful_after (policy : Policy) (requests : List Request) :
    IsFaithful policy (after policy requests) := isFaithful_foldl (isFaithful_empty policy) requests

/-! ## The proof that an error was reported -/

/-- The queue counts an error, and holds one that says what the diagnostic says. -/
def IsReported (q : Queue) (d : Diagnostic) : Prop :=
  1 ≤ q.errors ∧ q.hasErrors ∧ ∃ e ∈ q.diagnostics, e.isError ∧ e.key = d.key

/-- Repetitions are refused, and the diagnostic would repeat a warning or a note. -/
def Hides (q : Queue) (d : Diagnostic) : Prop :=
  q.policy.deduplicate ∧ ∃ e ∈ q.diagnostics, ¬e.isError ∧ e.key = d.key

instance (q : Queue) (d : Diagnostic) : Decidable (q.IsReported d) :=
  inferInstanceAs (Decidable (_ ∧ _ ∧ _))

instance (q : Queue) (d : Diagnostic) : Decidable (q.Hides d) :=
  inferInstanceAs (Decidable (_ ∧ _))

theorem emitError_of_hides (hd : d.isError) (h : q.Hides d) : q.emitError d = q := by
  obtain ⟨hdeduplicate, e, he, -, hkey⟩ := h
  have hknown : q.isRepetition d := isRepetition_iff.mpr ⟨hdeduplicate, e, he, hkey⟩
  rw [emitError, raise, add_of_isRepetition (q.not_overLimit_of_isError hd) hknown]

theorem exists_of_not_hides (hd : d.isError) (h : ¬q.Hides d) :
    ∃ e ∈ (q.emitError d).diagnostics, e.isError ∧ e.key = d.key := by
  have hlimit := q.not_overLimit_of_isError hd
  by_cases hknown : q.isRepetition d
  · obtain ⟨hdeduplicate, e, he, hkey⟩ := isRepetition_iff.mp hknown
    rw [emitError, raise, add_of_isRepetition hlimit hknown]
    refine ⟨e, he, ?_, hkey⟩
    by_contra hmild
    exact h ⟨hdeduplicate, e, he, hmild, hkey⟩
  · refine ⟨d, ?_, hd, rfl⟩
    rw [emitError, raise, add_of_not_isRepetition hlimit hknown]
    exact List.mem_append_right _ (List.mem_singleton_self d)

namespace IsFaithful

variable {o : Observed}

/-- An error that is queued is counted. -/
theorem isReported_iff (h : IsFaithful policy o) :
    o.queue.IsReported d ↔ ∃ e ∈ o.queue.diagnostics, e.isError ∧ e.key = d.key := by
  refine ⟨fun hreported => hreported.2.2, fun ⟨e, he, herror, hkey⟩ => ?_⟩
  have hcount : 0 < o.queue.errors := h.errors ▸ List.countP_pos_iff.mpr ⟨e, he, herror⟩
  exact ⟨hcount, decide_eq_true hcount, e, he, herror, hkey⟩

/-- What hides an error is the only diagnostic that says the same. -/
theorem not_isReported_of_hides (h : IsFaithful policy o) (hhides : o.queue.Hides d) :
    ¬o.queue.IsReported d := by
  obtain ⟨hdeduplicate, e, he, hmild, hkey⟩ := hhides
  rintro ⟨-, -, f, hf, herror, hkey'⟩
  have hdistinct : (o.queue.diagnostics.map key).Nodup :=
    List.pairwise_map.mpr (h.distinct (h.policy_eq ▸ hdeduplicate))
  obtain rfl := List.inj_on_of_nodup_map hdistinct he hf (hkey.trans hkey'.symm)
  exact hmild herror

end IsFaithful

/-- After an error was raised the proof is good exactly if no warning or note hid the error, and an
error that is hidden leaves the queue as it was. -/
theorem emitError_guarantee (policy : Policy) (requests : List Request) (hd : d.isError) :
    let q := (after policy requests).queue
    ((q.emitError d).IsReported d ↔ ¬q.Hides d) ∧ (q.Hides d → q.emitError d = q) := by
  intro q
  have hfaithful : IsFaithful policy (after policy requests) :=
    isFaithful_foldl (isFaithful_empty policy) requests
  have hnext : IsFaithful policy ((after policy requests).step (.emitError d hd)) :=
    hfaithful.step _
  refine ⟨⟨fun hreported hhides => ?_, fun hhides => ?_⟩, emitError_of_hides hd⟩
  · rw [emitError_of_hides hd hhides] at hreported
    exact hfaithful.not_isReported_of_hides hhides hreported
  · exact hnext.isReported_iff.mpr (exists_of_not_hides hd hhides)

/-- A request was rejected. -/
def rejection : Diagnostic where
  code := .requestRejected
  severity := .error
  message := "rejected"
  subject := some "A.B"

theorem rejection_guarantee :
    ((after {} [.add { rejection with message := "late" }]).queue.emitError rejection).IsReported
      rejection :=
  (emitError_guarantee {} [.add { rejection with message := "late" }] rfl).1.mpr (by decide)

/-- A warning hides the error that says the same. -/
theorem rejection_hidden : ¬∀ (policy : Policy) (requests : List Request) (d : Diagnostic),
    d.isError → ((after policy requests).queue.emitError d).IsReported d := by
  intro h
  exact absurd (h {} [.add { rejection with severity := .warning }] rejection rfl) (by decide)

end Queue

end Automation.Diagnostic
