import Mathlib.Data.List.Basic
import TreeSift.Text.CharClass

/-!
# TreeSift.Proofs.Text.Alphabetic

No letter is a blank.

The letters outside ASCII are a set that is read from a property table.  What the operations that
build it do to its view is proved first (`CharSet.contains_ofRanges`, `CharSet.contains_unions`,
`CharSet.contains_read`).  With these the table is only gone through once, interval by interval, and
the set is never built.
-/

namespace TreeSift

namespace CharSet

/-! ## the view of a union -/

theorem contains_iff {s : CharSet} {n : Nat} :
    s.contains n = true ↔ ∃ r ∈ s.ranges, r.1 ≤ n ∧ n ≤ r.2 := by
  simp [contains]

/-- Joining neighbours neither adds a code point nor drops one. -/
theorem exists_mem_coalesce {rs : List (Nat × Nat)} (h : rs.Pairwise fun a b => a.1 ≤ b.1)
    (n : Nat) : (∃ r ∈ coalesce rs, r.1 ≤ n ∧ n ≤ r.2) ↔ ∃ r ∈ rs, r.1 ≤ n ∧ n ≤ r.2 := by
  fun_induction coalesce rs with
  | case1 => rfl
  | case2 r => rfl
  | case3 r t ts hle ih =>
      obtain ⟨hr, ht⟩ := List.pairwise_cons.mp h
      obtain ⟨htt, hts⟩ := List.pairwise_cons.mp ht
      have hrt : r.1 ≤ t.1 := hr t List.mem_cons_self
      -- the two intervals leave no gap, and the first starts no later
      have htwo : r.1 ≤ n ∧ n ≤ max r.2 t.2 ↔ (r.1 ≤ n ∧ n ≤ r.2) ∨ t.1 ≤ n ∧ n ≤ t.2 := by
        omega
      rw [ih (List.pairwise_cons.mpr ⟨fun a ha => Nat.le_trans hrt (htt a ha), hts⟩)]
      simp only [List.exists_mem_cons_iff, htwo, or_assoc]
  | case4 r t ts hgt ih =>
      rw [List.exists_mem_cons_iff, ih (List.pairwise_cons.mp h).2,
        List.exists_mem_cons_iff _ r (t :: ts)]

/-- The union of intervals has the code points that lie in one of them. -/
theorem contains_ofRanges {rs : List (Nat × Nat)} {n : Nat} :
    (ofRanges rs).contains n = true ↔ ∃ r ∈ rs, r.1 ≤ n ∧ n ≤ r.2 := by
  have hsorted : ((rs.filter fun r => decide (r.1 ≤ r.2)).mergeSort
      fun a b => decide (a.1 ≤ b.1)).Pairwise fun a b => a.1 ≤ b.1 := by
    refine (List.pairwise_mergeSort ?_ ?_ _).imp of_decide_eq_true
    · intro a b c
      simpa only [decide_eq_true_eq] using Nat.le_trans
    · intro a b
      simpa only [Bool.or_eq_true, decide_eq_true_eq] using Nat.le_total a.1 b.1
  rw [contains_iff, ofRanges, exists_mem_coalesce hsorted]
  simp only [List.mem_mergeSort, List.mem_filter, decide_eq_true_eq]
  constructor
  · intro h
    obtain ⟨r, ⟨hr, -⟩, hn⟩ := h
    exact ⟨r, hr, hn⟩
  · intro h
    obtain ⟨r, hr, hn⟩ := h
    exact ⟨r, ⟨hr, Nat.le_trans hn.1 hn.2⟩, hn⟩

theorem contains_unions {ss : List CharSet} {n : Nat} :
    (unions ss).contains n = true ↔ ∃ s ∈ ss, s.contains n = true := by
  unfold unions
  rw [contains_ofRanges]
  simp only [contains_iff, List.mem_flatMap]
  constructor
  · intro h
    obtain ⟨r, ⟨s, hs, hr⟩, hn⟩ := h
    exact ⟨s, hs, r, hr, hn⟩
  · intro h
    obtain ⟨s, hs, r, hr, hn⟩ := h
    exact ⟨r, ⟨s, hs, hr⟩, hn⟩

theorem contains_read {text : String} {n : Nat} :
    (read text).contains n = true ↔
      ∃ w ∈ words text.toList, (readRange w).1 ≤ n ∧ n ≤ (readRange w).2 := by
  unfold read
  rw [contains_ofRanges]
  simp only [List.mem_map, exists_exists_and_eq_and]

end CharSet

namespace CharClass

/-! ## letters and blanks -/

/-- The blanks outside ASCII. -/
def wideBlanks : List (Nat × Nat) :=
  [(0x85, 0x85), (0xA0, 0xA0), (0x1680, 0x1680), (0x2000, 0x200A), (0x2028, 0x2029),
    (0x202F, 0x202F), (0x205F, 0x205F), (0x3000, 0x3000)]

theorem exists_mem_wideBlanks {c : Char} (h : isBlank c = true) (hc : ¬c.toNat < 128) :
    ∃ b ∈ wideBlanks, b.1 ≤ c.toNat ∧ c.toNat ≤ b.2 := by
  simp only [isBlank, Bool.or_eq_true, Bool.and_eq_true, decide_eq_true_eq] at h
  simp only [wideBlanks, List.exists_mem_cons_iff, List.not_mem_nil, false_and, exists_false]
  omega

set_option maxRecDepth 100000 in
/-- The intervals of the table of letters keep clear of the blanks. -/
theorem alphabetic_row :
    ∃ cs, Unicode.alphabetic = CharSet.unions [CharSet.read (String.ofList cs)] ∧
      ∀ w ∈ CharSet.words cs, ∀ b ∈ wideBlanks,
        (CharSet.readRange w).2 < b.1 ∨ b.2 < (CharSet.readRange w).1 :=
  ⟨_, rfl, by decide +kernel⟩

/-- Letters come after the digits and most signs. -/
theorem le_toNat_of_isAlphabetic {c : Char} (h : isAlphabetic c = true) : 65 ≤ c.toNat := by
  by_cases hc : c.toNat < 128
  · have halpha : c.isAlpha = true := by simpa [isAlphabetic, decideBy, hc] using h
    obtain hupper | hlower : c.isUpper = true ∨ c.isLower = true := Bool.or_eq_true_iff.mp halpha
    · exact UInt32.le_iff_toNat_le.mp (of_decide_eq_true hupper).1
    · have hle : 'a'.val ≤ c.val := of_decide_eq_true (Bool.and_eq_true_iff.mp hlower).1
      exact Nat.le_trans (by decide) (UInt32.le_iff_toNat_le.mp hle)
  · omega

/-- No letter is a blank. -/
theorem isBlank_eq_false_of_isAlphabetic {c : Char} (h : isAlphabetic c = true) :
    isBlank c = false := by
  by_cases hc : c.toNat < 128
  · have hle := le_toNat_of_isAlphabetic h
    simp only [isBlank, Bool.or_eq_false_iff, Bool.and_eq_false_iff, decide_eq_false_iff_not]
    omega
  · have hset : Unicode.alphabetic.contains c.toNat = true := by
      simpa [isAlphabetic, decideBy, hc, CharSet.has] using h
    obtain ⟨cs, hcs, hclear⟩ := alphabetic_row
    rw [hcs, CharSet.contains_unions] at hset
    obtain ⟨s, hs, hset⟩ := hset
    rw [List.mem_singleton] at hs
    rw [hs, CharSet.contains_read, String.toList_ofList] at hset
    obtain ⟨w, hw, hn⟩ := hset
    refine Bool.eq_false_iff.mpr fun hb => ?_
    obtain ⟨b, hb, hbn⟩ := exists_mem_wideBlanks hb hc
    have hapart := hclear w hw b hb
    omega

end CharClass

end TreeSift
