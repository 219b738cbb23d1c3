import Automation.FirstFree

/-!
# Searches that find a free number

`firstFree` searches a bounded number of candidates. `not_taken_firstFree` says that it finds a free
one whenever taken numbers have different keys and there are more candidates than keys in use.
`taken_of_lt_firstFree` says that it passes over taken numbers only.
-/

namespace Automation

variable {taken : Nat → Bool} {bound start : Nat}

theorem firstFree_le (taken : Nat → Bool) (bound start : Nat) :
    firstFree taken bound start ≤ start + bound := by
  induction bound generalizing start with
  | zero => simp [firstFree]
  | succ bound ih =>
    unfold firstFree
    split
    · have hle := ih (start + 1)
      omega
    · omega

/-- The search passes over taken numbers only. -/
theorem taken_of_lt_firstFree {n : Nat} (hstart : start ≤ n)
    (hn : n < firstFree taken bound start) : taken n = true := by
  induction bound generalizing start with
  | zero =>
    simp only [firstFree] at hn
    omega
  | succ bound ih =>
    unfold firstFree at hn
    split at hn
    · next htaken =>
      rcases Nat.eq_or_lt_of_le hstart with rfl | hlt
      · exact htaken
      · exact ih hlt hn
    · omega

theorem not_taken_firstFree_of_exists {n : Nat} (hstart : start ≤ n) (hn : n < start + bound)
    (hfree : taken n = false) : taken (firstFree taken bound start) = false := by
  induction bound generalizing start with
  | zero => omega
  | succ bound ih =>
    unfold firstFree
    split
    · next htaken =>
      have hne : start ≠ n := fun h => by simp [h, hfree] at htaken
      exact ih (by omega) (by omega)
    · next hfree => exact Bool.eq_false_iff.mpr hfree

/-- **The search finds a free number.** Taken numbers have keys of a list, so if numbers have
different keys and the list is shorter than the search, some candidate is free. -/
theorem not_taken_firstFree {α : Type} (key : Nat → α) (keys : List α)
    (htaken : ∀ n, start ≤ n → taken n = true → key n ∈ keys)
    (hinj : ∀ m n, start ≤ m → start ≤ n → key m = key n → m = n) (hbound : keys.length < bound) :
    taken (firstFree taken bound start) = false := by
  by_cases h : ∃ n, start ≤ n ∧ n < start + bound ∧ taken n = false
  · obtain ⟨n, hstart, hn, hfree⟩ := h
    exact not_taken_firstFree_of_exists hstart hn hfree
  · -- All candidates are taken: their keys are distinct and too many for the list.
    exfalso
    have hall : ∀ n ∈ List.range' start bound, key n ∈ keys := by
      intro n hn
      obtain ⟨hle, hlt⟩ := List.mem_range'_1.mp hn
      cases hfree : taken n with
      | true => exact htaken n hle hfree
      | false => exact (h ⟨n, hle, hlt, hfree⟩).elim
    have hnodup : ((List.range' start bound).map key).Nodup := by
      rw [List.Nodup, List.pairwise_map]
      refine List.Pairwise.imp_of_mem ?_ List.nodup_range'
      intro a b ha hb hne hkey
      exact hne (hinj a b (List.mem_range'_1.mp ha).1 (List.mem_range'_1.mp hb).1 hkey)
    have hsubset : (List.range' start bound).map key ⊆ keys := by
      intro k hk
      obtain ⟨n, hn, rfl⟩ := List.mem_map.mp hk
      exact hall n hn
    have hle := hnodup.length_le_of_subset hsubset
    rw [List.length_map, List.length_range'] at hle
    omega

end Automation
