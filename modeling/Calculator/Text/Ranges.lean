/-!
# Ranges of code points

Properties of characters are tables of code points, after version 17 of Unicode. The main statement is
that a look-up in an ordered table finds exactly the code points that a range of it holds.
-/

namespace Calculator

/-- Closed ranges of code points, in increasing order and apart. -/
abbrev Ranges := List (Nat × Nat)

namespace Ranges

/-- Whether a range holds the code point; the look-up ends at the first range that lies beyond it. -/
def covers : Ranges → Nat → Bool
  | [], _ => false
  | (low, high) :: later, n => low ≤ n && (n ≤ high || covers later n)

/-- No range is empty, and each ends before the next one begins. -/
def isOrdered : Ranges → Bool
  | [] => true
  | (low, high) :: later => low ≤ high && later.head?.all (fun r => high < r.1) && isOrdered later

theorem lt_of_isOrdered {low high : Nat} {later : Ranges} (h : isOrdered ((low, high) :: later) = true) :
    ∀ r ∈ later, high < r.1 := by
  induction later generalizing low high with
  | nil => simp
  | cons next later ih =>
    simp only [isOrdered, List.head?_cons, Option.all_some, Bool.and_eq_true, decide_eq_true_eq] at h
    obtain ⟨⟨_, hn⟩, ⟨⟨hne, ho⟩, hl⟩⟩ := h
    intro r hr
    rcases List.mem_cons.1 hr with rfl | hr
    · exact hn
    · have from_next : isOrdered ((next.1, next.2) :: later) = true := by simp [isOrdered, hne, ho, hl]
      have := ih from_next r hr
      omega

theorem covers_iff {ranges : Ranges} (h : isOrdered ranges = true) (n : Nat) :
    ranges.covers n = true ↔ ∃ r ∈ ranges, r.1 ≤ n ∧ n ≤ r.2 := by
  induction ranges with
  | nil => simp [covers]
  | cons first later ih =>
    obtain ⟨low, high⟩ := first
    have beyond := lt_of_isOrdered h
    have ih := ih (by simp only [isOrdered, Bool.and_eq_true] at h; exact h.2)
    simp only [isOrdered, Bool.and_eq_true, decide_eq_true_eq] at h
    simp only [covers, Bool.and_eq_true, Bool.or_eq_true, decide_eq_true_eq, List.mem_cons]
    constructor
    · rintro ⟨hlow, hhigh | hlater⟩
      · exact ⟨(low, high), .inl rfl, hlow, hhigh⟩
      · obtain ⟨r, hr, bounds⟩ := ih.1 hlater
        exact ⟨r, .inr hr, bounds⟩
    · rintro ⟨r, rfl | hr, bounds⟩
      · exact ⟨bounds.1, .inl bounds.2⟩
      · have := beyond r hr
        exact ⟨by omega, .inr (ih.2 ⟨r, hr, bounds⟩)⟩

end Ranges

end Calculator
