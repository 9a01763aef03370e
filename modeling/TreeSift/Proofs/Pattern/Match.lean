import Mathlib.Data.Nat.Bitwise
import Mathlib.Logic.Function.Iterate
import TreeSift.Pattern.Match

/-!
# TreeSift.Proofs.Pattern.Match

What a pattern matches, as a relation between places, and that the matcher computes it.

1. `Takes text p i j` says that `p` has a match that starts at place `i` and ends at place `j`.  It
   is read off the pattern, without sets of places and without a bound on rounds.
2. The matcher's `image` of a set of places is the set of places where matches from there end
   (`testBit_image`).
3. The cut of an unbounded repetition loses nothing, because a round that takes nothing may be left
   out and any other moves on by at least one place (`Repeats.short`).
-/

namespace TreeSift

namespace Pattern

/-- A relation applied so many times. -/
def Repeats (R : Nat → Nat → Prop) : Nat → Nat → Nat → Prop
  | 0, i, j => i = j
  | n + 1, i, j => ∃ k, R i k ∧ Repeats R n k j

/-- The character before a place, if there is one. -/
def before? (text : List Char) : Nat → Option Char
  | 0 => none
  | i + 1 => text[i]?

/-- The pattern has a match from one place of the text to another.  Should a greatest number of
rounds be below the least one, the least counts. -/
def Takes (text : List Char) : Pattern → Nat → Nat → Prop
  | empty, i, j => i = j
  | chars set, i, j => j = i + 1 ∧ ∃ c, text[i]? = some c ∧ set.has c = true
  | look l, i, j => i = j ∧ l.holds (before? text i) text[i]? = true
  | seq p q, i, j => ∃ k, Takes text p i k ∧ Takes text q k j
  | alt p q, i, j => Takes text p i j ∨ Takes text q i j
  | rounds least greatest p, i, j =>
    ∃ n, least ≤ n ∧ (∀ g, greatest = some g → n ≤ max least g) ∧ Repeats (Takes text p) n i j

/-- The pattern matches the text from its start to its end. -/
def Covers (p : Pattern) (text : List Char) : Prop := Takes text p 0 text.length

variable {text : List Char} {R : Nat → Nat → Prop}

/-! ## repetitions -/

theorem repeats_add {m n i j : Nat} :
    Repeats R (m + n) i j ↔ ∃ k, Repeats R m i k ∧ Repeats R n k j := by
  induction m generalizing i with
  | zero => simp [Repeats]
  | succ m ih =>
      rw [Nat.succ_add]
      simp only [Repeats, ih]
      constructor
      · intro h
        obtain ⟨a, ha, b, hb, hj⟩ := h
        exact ⟨b, ⟨a, ha, hb⟩, hj⟩
      · intro h
        obtain ⟨b, ⟨a, ha, hb⟩, hj⟩ := h
        exact ⟨a, ha, b, hb, hj⟩

theorem Repeats.le (hR : ∀ i j, R i j → i ≤ j) {n i j : Nat} (h : Repeats R n i j) : i ≤ j := by
  induction n generalizing i with
  | zero => exact Nat.le_of_eq h
  | succ n ih =>
      obtain ⟨k, hk, h⟩ := h
      exact Nat.le_trans (hR i k hk) (ih h)

theorem Repeats.bounded {b : Nat} (hR : ∀ i j, R i j → i ≤ b → j ≤ b) {n i j : Nat}
    (h : Repeats R n i j) (hi : i ≤ b) : j ≤ b := by
  induction n generalizing i with
  | zero => exact h ▸ hi
  | succ n ih =>
      obtain ⟨k, hk, h⟩ := h
      exact ih h (hR i k hk hi)

/-- Rounds that do not move on can be left out, so there need not be more rounds than steps. -/
theorem Repeats.short (hR : ∀ i j, R i j → i ≤ j) {n i j : Nat} (h : Repeats R n i j) :
    ∃ m, m ≤ j - i ∧ Repeats R m i j := by
  induction n generalizing i with
  | zero => exact ⟨0, Nat.zero_le _, h⟩
  | succ n ih =>
      obtain ⟨k, hk, h⟩ := h
      obtain ⟨m, hm, h'⟩ := ih h
      have hik := hR i k hk
      have hkj := h'.le hR
      by_cases heq : i = k
      · subst heq
        exact ⟨m, hm, h'⟩
      · exact ⟨m + 1, by omega, k, hk, h'⟩

/-- A step or none, repeated, is the step repeated at most as often. -/
theorem repeats_or_eq {n i j : Nat} :
    Repeats (fun a b => a = b ∨ R a b) n i j ↔ ∃ m, m ≤ n ∧ Repeats R m i j := by
  induction n generalizing i with
  | zero => simp [Repeats]
  | succ n ih =>
      constructor
      · intro h
        obtain ⟨k, rfl | hk, h⟩ := h
        · obtain ⟨m, hm, h⟩ := ih.mp h
          exact ⟨m, Nat.le_succ_of_le hm, h⟩
        · obtain ⟨m, hm, h⟩ := ih.mp h
          exact ⟨m + 1, Nat.succ_le_succ hm, k, hk, h⟩
      · intro h
        obtain ⟨m, hm, h⟩ := h
        cases m with
        | zero => exact ⟨i, .inl rfl, ih.mpr ⟨0, Nat.zero_le n, h⟩⟩
        | succ m =>
            obtain ⟨k, hk, h⟩ := h
            exact ⟨k, .inr hk, ih.mpr ⟨m, Nat.le_of_succ_le_succ hm, h⟩⟩

/-! ## matches go forward and stay in the text -/

theorem Takes.le {p : Pattern} {i j : Nat} (h : Takes text p i j) : i ≤ j := by
  induction p generalizing i j with
  | empty => exact Nat.le_of_eq h
  | chars set =>
      obtain ⟨rfl, -⟩ := h
      exact Nat.le_succ i
  | look l => exact Nat.le_of_eq h.1
  | seq p q ihp ihq =>
      obtain ⟨k, hp, hq⟩ := h
      exact Nat.le_trans (ihp hp) (ihq hq)
  | alt p q ihp ihq => exact h.elim ihp ihq
  | rounds least greatest p ih =>
      obtain ⟨n, -, -, h⟩ := h
      exact h.le fun _ _ => ih

theorem Takes.bounded {p : Pattern} {i j : Nat} (h : Takes text p i j) (hi : i ≤ text.length) :
    j ≤ text.length := by
  induction p generalizing i j with
  | empty => exact h ▸ hi
  | chars set =>
      obtain ⟨rfl, c, hc, -⟩ := h
      exact (List.getElem?_eq_some_iff.mp hc).1
  | look l => exact h.1 ▸ hi
  | seq p q ihp ihq =>
      obtain ⟨k, hp, hq⟩ := h
      exact ihq hq (ihp hp hi)
  | alt p q ihp ihq => exact h.elim (ihp · hi) (ihq · hi)
  | rounds least greatest p ih =>
      obtain ⟨n, -, -, h⟩ := h
      exact h.bounded (fun _ _ => ih) hi

/-! ## sets of places -/

/-- A step of the matcher that follows a relation on the places up to a bound. -/
def Follows (b : Nat) (R : Nat → Nat → Prop) (step : Nat → Nat) : Prop :=
  ∀ s, (∀ i, s.testBit i = true → i ≤ b) →
    ∀ j, (step s).testBit j = true ↔ ∃ i, s.testBit i = true ∧ R i j

theorem times_eq_iterate (step : Nat → Nat) (n s : Nat) : times step n s = step^[n] s := by
  induction n generalizing s with
  | zero => rfl
  | succ n ih =>
      rw [times]
      split
      · next h => exact (Function.iterate_fixed h (n + 1)).symm
      · rw [ih, Function.iterate_succ_apply]

theorem Follows.iterate {b : Nat} {step : Nat → Nat} (h : Follows b R step)
    (hR : ∀ i j, R i j → i ≤ b → j ≤ b) (n : Nat) : Follows b (Repeats R n) step^[n] := by
  induction n with
  | zero =>
      intro s _ j
      simp [Repeats]
  | succ n ih =>
      intro s hs j
      have hstep : ∀ i, (step s).testBit i = true → i ≤ b := by
        intro i hi
        obtain ⟨k, hk, hki⟩ := (h s hs i).mp hi
        exact hR k i hki (hs k hk)
      rw [Function.iterate_succ_apply, ih _ hstep j]
      constructor
      · intro h
        obtain ⟨k, hk, hj⟩ := h
        obtain ⟨i, hi, hik⟩ := (h s hs k).mp hk
        exact ⟨i, hi, k, hik, hj⟩
      · intro h
        obtain ⟨i, hi, k, hik, hj⟩ := h
        exact ⟨k, (h s hs k).mpr ⟨i, hi, hik⟩, hj⟩

/-- As many rounds as there are steps, or more, are all rounds. -/
theorem Follows.upTo {b : Nat} {step : Nat → Nat} (h : Follows b R step)
    (hR : ∀ i j, R i j → i ≤ b → j ≤ b) (n : Nat) :
    Follows b (fun i j => ∃ m, m ≤ n ∧ Repeats R m i j) (Pattern.upTo step n) := by
  have hor : Follows b (fun i j => i = j ∨ R i j) fun t => t ||| step t := by
    intro s hs j
    rw [Nat.testBit_or, Bool.or_eq_true, h s hs j]
    constructor
    · intro h
      obtain hj | ⟨i, hi, hij⟩ := h
      · exact ⟨j, hj, .inl rfl⟩
      · exact ⟨i, hi, .inr hij⟩
    · intro h
      obtain ⟨i, hi, rfl | hij⟩ := h
      · exact .inl hi
      · exact .inr ⟨i, hi, hij⟩
  intro s hs j
  rw [Pattern.upTo, times_eq_iterate, hor.iterate (fun i j hij hi => ?_) n s hs j]
  · simp only [repeats_or_eq]
  · obtain rfl | hij := hij
    · exact hi
    · exact hR i j hij hi

theorem testBit_placesOf (bs : List Bool) (i : Nat) :
    (placesOf bs).testBit i = bs[i]?.getD false := by
  induction bs generalizing i with
  | nil => simp [placesOf]
  | cons b bs ih =>
      rw [placesOf]
      cases i with
      | zero => cases b <;> simp [Nat.testBit_zero]
      | succ i =>
          rw [Nat.testBit_succ, List.getElem?_cons_succ, ← ih i]
          congr 1
          cases b
          · simp
          · simp
            omega

theorem getElem?_lookMarks (l : Look) (before : Option Char) (text : List Char) (i : Nat) :
    (lookMarks l before text)[i]? =
      if i ≤ text.length then
        some (l.holds (if i = 0 then before else text[i - 1]?) text[i]?) else none := by
  induction text generalizing before i with
  | nil => cases i <;> simp [lookMarks]
  | cons c cs ih =>
      cases i with
      | zero => simp [lookMarks]
      | succ i =>
          rw [lookMarks, List.getElem?_cons_succ, ih]
          cases i with
          | zero => simp
          | succ i => simp

/-! ## the matcher -/

theorem follows_chars (set : CharSet) :
    Follows text.length (Takes text (.chars set)) (image text (.chars set)) := by
  intro s _ j
  rw [image, Nat.testBit_shiftLeft, Nat.testBit_and, placesBefore, testBit_placesOf,
    List.getElem?_map]
  constructor
  · intro h
    simp only [ge_iff_le, Bool.and_eq_true, decide_eq_true_eq] at h
    obtain ⟨hj, hs, hc⟩ := h
    cases hget : text[j - 1]? with
    | none => simp [hget] at hc
    | some c => exact ⟨j - 1, hs, by omega, c, hget, by simpa [hget] using hc⟩
  · intro h
    obtain ⟨i, hi, rfl, c, hc, hset⟩ := h
    simp [hi, hc, hset]

theorem follows_look (l : Look) :
    Follows text.length (Takes text (.look l)) (image text (.look l)) := by
  intro s hs j
  rw [image, Nat.testBit_and, testBit_placesOf, getElem?_lookMarks, Bool.and_eq_true]
  constructor
  · intro h
    obtain ⟨hj, hl⟩ := h
    rw [if_pos (hs j hj)] at hl
    exact ⟨j, hj, rfl, by cases j <;> simpa [before?] using hl⟩
  · intro h
    obtain ⟨i, hi, rfl, hl⟩ := h
    rw [if_pos (hs i hi)]
    exact ⟨hi, by cases i <;> simpa [before?] using hl⟩

theorem image_rounds (least : Nat) (greatest : Option Nat) (p : Pattern) (s : Nat) :
    image text (.rounds least greatest p) s =
      Pattern.upTo (image text p) (greatest.elim (text.length + 1) (· - least))
        ((image text p)^[least] s) := by
  rw [← times_eq_iterate]
  cases greatest <;> rfl

/-- The image of a set of places is where the matches from there end. -/
theorem follows_image (p : Pattern) : Follows text.length (Takes text p) (image text p) := by
  induction p with
  | empty =>
      intro s _ j
      simp [image, Takes]
  | chars set => exact follows_chars set
  | look l => exact follows_look l
  | seq p q ihp ihq =>
      intro s hs j
      have hp : ∀ k, (image text p s).testBit k = true → k ≤ text.length := by
        intro k hk
        obtain ⟨i, hi, hik⟩ := (ihp s hs k).mp hk
        exact hik.bounded (hs i hi)
      rw [image, ihq _ hp j]
      constructor
      · intro h
        obtain ⟨k, hk, hkj⟩ := h
        obtain ⟨i, hi, hik⟩ := (ihp s hs k).mp hk
        exact ⟨i, hi, k, hik, hkj⟩
      · intro h
        obtain ⟨i, hi, k, hik, hkj⟩ := h
        exact ⟨k, (ihp s hs k).mpr ⟨i, hi, hik⟩, hkj⟩
  | alt p q ihp ihq =>
      intro s hs j
      rw [image, Nat.testBit_or, Bool.or_eq_true, ihp s hs j, ihq s hs j]
      constructor
      · intro h
        obtain ⟨i, hi, h⟩ | ⟨i, hi, h⟩ := h
        · exact ⟨i, hi, .inl h⟩
        · exact ⟨i, hi, .inr h⟩
      · intro h
        obtain ⟨i, hi, h | h⟩ := h
        · exact .inl ⟨i, hi, h⟩
        · exact .inr ⟨i, hi, h⟩
  | rounds least greatest p ih =>
      intro s hs j
      have hbound : ∀ i j, Takes text p i j → i ≤ text.length → j ≤ text.length :=
        fun _ _ h hi => h.bounded hi
      have hleast := ih.iterate hbound least s hs
      have hin : ∀ k, ((image text p)^[least] s).testBit k = true → k ≤ text.length := by
        intro k hk
        obtain ⟨i, hi, hik⟩ := (hleast k).mp hk
        exact hik.bounded hbound (hs i hi)
      rw [image_rounds, ih.upTo hbound _ _ hin j]
      constructor
      · intro h
        obtain ⟨k, hk, m, hm, hkj⟩ := h
        obtain ⟨i, hi, hik⟩ := (hleast k).mp hk
        refine ⟨i, hi, least + m, Nat.le_add_right least m, ?_, repeats_add.mpr ⟨k, hik, hkj⟩⟩
        intro g h
        subst h
        rw [Option.elim_some] at hm
        omega
      · intro h
        obtain ⟨i, hi, n, hn, hg, hij⟩ := h
        obtain ⟨m, rfl⟩ := Nat.exists_eq_add_of_le hn
        obtain ⟨k, hik, hkj⟩ := repeats_add.mp hij
        refine ⟨k, (hleast k).mpr ⟨i, hi, hik⟩, ?_⟩
        cases greatest with
        | some g =>
            have := hg g rfl
            exact ⟨m, by rw [Option.elim_some]; omega, hkj⟩
        | none =>
            -- without a bound only as many rounds are needed as there are places
            obtain ⟨m', hm', hkj'⟩ := hkj.short fun _ _ => Takes.le
            have hj := hkj.bounded hbound (hin k ((hleast k).mpr ⟨i, hi, hik⟩))
            exact ⟨m', by rw [Option.elim_none]; omega, hkj'⟩

theorem testBit_allPlaces (text : List Char) (i : Nat) :
    (allPlaces text).testBit i = true ↔ i ≤ text.length := by
  rw [allPlaces, Nat.one_shiftLeft, Nat.testBit_two_pow_sub_one, decide_eq_true_eq]
  omega

/-- **The matcher finds a match exactly if there is one.** -/
theorem occursIn_iff (p : Pattern) (text : List Char) :
    p.occursIn text = true ↔ ∃ i j, i ≤ text.length ∧ Takes text p i j := by
  rw [occursIn, bne_iff_ne]
  constructor
  · intro h
    obtain ⟨j, hj⟩ := Nat.exists_testBit_of_ne_zero h
    obtain ⟨i, hi, hij⟩ := (follows_image p _ (fun i => (testBit_allPlaces text i).mp) j).mp hj
    exact ⟨i, j, (testBit_allPlaces text i).mp hi, hij⟩
  · intro hex h
    obtain ⟨i, j, hi, hij⟩ := hex
    have hj := (follows_image p _ (fun i => (testBit_allPlaces text i).mp) j).mpr
      ⟨i, (testBit_allPlaces text i).mpr hi, hij⟩
    rw [h, Nat.zero_testBit] at hj
    contradiction

/-- A pattern between the two ends of the text occurs in it exactly if it covers it. -/
theorem occursIn_between (p : Pattern) (text : List Char) :
    (sequence [.look .start, p, .look .stop]).occursIn text = true ↔ p.Covers text := by
  rw [occursIn_iff]
  simp only [sequence, Takes, Covers]
  constructor
  · intro h
    obtain ⟨i, j, hi, k, ⟨rfl, hstart⟩, k', hp, rfl, hstop⟩ := h
    have hzero : i = 0 := by
      cases i with
      | zero => rfl
      | succ i =>
          rw [before?, List.getElem?_eq_getElem hi] at hstart
          contradiction
    subst hzero
    have hend : k' = text.length := by
      have := hp.bounded hi
      by_contra hne
      rw [List.getElem?_eq_getElem (by omega)] at hstop
      contradiction
    exact hend ▸ hp
  · intro h
    exact ⟨0, text.length, Nat.zero_le _, 0, ⟨rfl, rfl⟩, text.length, h, rfl, by simp [Look.holds]⟩

end Pattern

end TreeSift
