import ImageImports.Pattern
import Mathlib.Data.List.Basic

/-!
# Any number of one character

A repetition of a single character, as often as there is one, is tried from the longest run down.
When it is all there is of a pattern, only the run that reaches the end of the text will do, so the
pattern matches a text whole exactly if every character of the text passes the test.

## Main results

* `Parsed.matchesAll_star` — what a repeated character matches.
-/

namespace ImageImports.Pattern

/-! ## Runs of a character -/

theorem CharTest.runLength_le (text : Array Nat) (test : CharTest) (n pos : Nat) :
    test.runLength text n pos ≤ n := by
  induction n generalizing pos with
  | zero => exact Nat.le_refl 0
  | succ n ih =>
    rw [runLength]
    split
    · exact Nat.succ_le_succ (ih (pos + 1))
    · exact Nat.zero_le _

/-- A run has its full length when all of its characters pass. -/
theorem CharTest.runLength_eq_iff {text : Array Nat} {test : CharTest} {n pos : Nat} :
    test.runLength text n pos = n ↔ ∀ i < n, test.passesAt text (pos + i) = true := by
  induction n generalizing pos with
  | zero => exact iff_of_true rfl fun i hi => absurd hi (Nat.not_lt_zero i)
  | succ n ih =>
    rw [runLength]
    by_cases hpass : test.passesAt text pos = true
    · rw [if_pos hpass, Nat.add_right_cancel_iff, ih]
      constructor
      · intro h i hi
        cases i with
        | zero => exact hpass
        | succ i =>
          rw [Nat.add_comm i, ← Nat.add_assoc]
          exact h i (Nat.lt_of_succ_lt_succ hi)
      · intro h i hi
        rw [Nat.add_assoc, Nat.add_comm 1]
        exact h (i + 1) (Nat.succ_lt_succ hi)
    · rw [if_neg hpass]
      exact iff_of_false (Nat.succ_ne_zero n).symm fun h => hpass (h 0 (Nat.succ_pos n))

/-! ## Tries from the longest run down -/

section

variable {attempt : Continuation}

/-- Where only one position will do, tries come to it if it is among theirs. -/
theorem found_tryDown (goal : Nat) (h : ∀ p u, (attempt p u).found = decide (p = goal))
    (n pos : Nat) (t : Trail) :
    (tryDown attempt n pos t).found = decide (pos ≤ goal ∧ goal ≤ pos + n) := by
  induction n generalizing t with
  | zero =>
    rw [tryDown, h, decide_eq_decide]
    omega
  | succ n ih =>
    rw [tryDown, Outcome.orElse]
    by_cases hgoal : pos + n + 1 = goal
    · have hfound : (attempt (pos + n + 1) t).found = true := by rw [h, decide_eq_true hgoal]
      rw [if_pos hfound, hfound]
      exact (decide_eq_true (by omega)).symm
    · have hfound : ¬ (attempt (pos + n + 1) t).found = true := by
        rw [h, decide_eq_false hgoal]
        exact Bool.false_ne_true
      rw [if_neg hfound, ih, decide_eq_decide]
      omega

/-- Tries that leave no marks leave none together. -/
theorem marks_tryDown (h : ∀ p u, u.marks = [] → (attempt p u).trail.marks = []) (n pos : Nat)
    {t : Trail} (ht : t.marks = []) : (tryDown attempt n pos t).trail.marks = [] := by
  induction n generalizing t with
  | zero => exact h pos t ht
  | succ n ih =>
    rw [tryDown, Outcome.orElse]
    split
    · exact h _ t ht
    · exact ih (h _ t ht)

end

theorem Trail.isCrossed_of_marks {t : Trail} (h : t.marks = []) : t.isCrossed = false := by
  rw [isCrossed, h]
  rfl

/-! ## The whole pattern -/

/-- The end of a pattern that has to reach the end of a text of `size` characters. -/
def reaching (size : Nat) : Continuation := fun pos t =>
  if pos = size then finish pos t else ⟨false, t⟩

/-- A repetition that has to reach the end of a text does so when every character passes, and it
leaves no marks. -/
theorem runUnits_star (text : Array Nat) (test : CharTest) :
    let o := runUnits text test .greedy 0 none false .other (reaching text.size) 0 {}
    o.found = decide (test.runLength text text.size 0 = text.size) ∧ o.trail.marks = [] := by
  simp only [runUnits, Option.getD_none, Nat.sub_zero, Nat.min_self,
    Nat.not_lt_zero, if_false, Nat.add_zero, Start.rulesOut, Bool.false_eq_true]
  have hle := test.runLength_le text text.size 0
  constructor
  · rw [found_tryDown text.size, decide_eq_decide]
    · omega
    · intro p u
      by_cases hp : p = text.size <;> simp [reaching, hp, finish, Outcome.leaving, Outcome.orElse]
  · refine marks_tryDown (fun p u hu => ?_) _ _ rfl
    by_cases hp : p = text.size
    · simp [reaching, hp, finish, Outcome.leaving, Outcome.orElse, Trail.standing, hu]
    · simp [reaching, hp, Outcome.leaving, Outcome.orElse, Trail.back, Trail.standing]

/-- A character repeated any number of times matches the texts of characters that pass its test, and
it always has an answer. -/
theorem Parsed.matchesAll_star (test : CharTest) (groupSpan : Nat → Span) (text : String) :
    matchesAll ⟨.rep .greedy 0 none (.char test), groupSpan⟩ text =
      .ok (text.toList.all fun c => test.passes c.toNat) := by
  obtain ⟨hfound, hmarks⟩ := runUnits_star (text.toList.map Char.toNat).toArray test
  have houtcome : outcome ⟨.rep .greedy 0 none (.char test), groupSpan⟩ text =
      runUnits (text.toList.map Char.toNat).toArray test .greedy 0 none false .other
        (reaching (text.toList.map Char.toNat).toArray.size) 0 {} := rfl
  have hall : decide (test.runLength (text.toList.map Char.toNat).toArray
      (text.toList.map Char.toNat).toArray.size 0 = (text.toList.map Char.toNat).toArray.size) =
        text.toList.all fun c => test.passes c.toNat := by
    rw [Bool.eq_iff_iff, decide_eq_true_iff, CharTest.runLength_eq_iff, List.all_eq_true]
    constructor
    · intro h c hc
      obtain ⟨i, hi, rfl⟩ := List.mem_iff_getElem.1 hc
      have hpass := h i (by simpa using hi)
      simpa [CharTest.passesAt, List.getElem?_eq_getElem hi] using hpass
    · intro h i hi
      have hi : i < text.toList.length := by simpa using hi
      have hpass := h _ (List.getElem_mem hi)
      simpa [CharTest.passesAt, List.getElem?_eq_getElem hi] using hpass
  rw [matchesAll, houtcome]
  simp only [Trail.isCrossed_of_marks hmarks, Bool.false_eq_true, and_false, if_false, hfound, hall]

end ImageImports.Pattern
