import TreeSift.Proofs.Filter.Order
import TreeSift.Proofs.Number.Rounding

/-!
# TreeSift.Proofs.Value.Number

How far the order of numbers is transitive when whole numbers and doubles are mixed.

1. Two whole numbers compare exactly.  Next to a double a whole number is rounded to one, so those
   two compare as doubles do (`Value.compare?_rounded`).  Rounding keeps the order, but it may make
   two whole numbers equal (`Value.rounded_of_compare?`).
2. So two steps make one unless the third value is the double that two different whole numbers are
   both rounded to, and then they do not (`Value.compare?_numbers_iff`).
3. No whole numbers up to `2 ^ 53` on either side of zero are rounded to the same double
   (`Value.merges_large`).
-/

namespace TreeSift

namespace Value

/-- A whole number, or a double that is one at all. -/
def Numeric (v : Value) : Prop := OfKind .long v ∨ OfKind .double v

/-- Both are whole numbers. -/
def AreLong (a b : Value) : Prop := ∃ n m, a = .long n ∧ b = .long m

/-- The place on the line of doubles. -/
def rounded : Value → Int
  | long n => Binary64.place n.toInt
  | double x => x.key?.getD 0
  | _ => 0

/-- Two different whole numbers are rounded to the same double, which is the third value. -/
def Merges (a b d : Value) : Prop :=
  ∃ n m x, a = .long n ∧ b = .long m ∧ d = .double x ∧ n ≠ m ∧
    a.compare? d = some .eq ∧ b.compare? d = some .eq

/-- One of three numbers is the double that the two others, which differ, are rounded to. -/
def Conflated (a b c : Value) : Prop := Merges a b c ∨ Merges a c b ∨ Merges b c a

variable {a b c : Value}

/-! ## two numbers -/

theorem key?_eq_rounded {x : Binary64} (hx : x ≠ .nan) : x.key? = some (double x).rounded := by
  cases x with
  | nan => contradiction
  | number negative magnitude => rfl

theorem compare?_rounded (ha : Numeric a) (hb : Numeric b) (h : ¬AreLong a b) :
    a.compare? b = some (compare a.rounded b.rounded) := by
  have hlong (n : Int64) := Binary64.key?_ofInt n.toInt
  have hdoubles {x y : Binary64} {i j : Int} (hx : x.key? = some i) (hy : y.key? = some j) :
      x.compare? y = some (compare i j) := by
    rw [Binary64.compare?, hx, hy]
  obtain ha | ha := ha
  · cases ha with
    | long n =>
        obtain hb | hb := hb
        · cases hb with
          | long m => exact absurd ⟨n, m, rfl, rfl⟩ h
        · cases hb with
          | double hy => exact hdoubles (hlong n) (key?_eq_rounded hy)
  · cases ha with
    | double hx =>
        obtain hb | hb := hb
        · cases hb with
          | long m => exact hdoubles (key?_eq_rounded hx) (hlong m)
        · cases hb with
          | double hy => exact hdoubles (key?_eq_rounded hx) (key?_eq_rounded hy)

theorem compare?_longs (n m : Int64) :
    (long n).compare? (long m) = some (compare n.toInt m.toInt) := rfl

/-- Rounding keeps the order of two numbers, or both are whole and become equal. -/
theorem rounded_of_compare? (ha : Numeric a) (hb : Numeric b) {o : Ordering}
    (h : a.compare? b = some o) :
    compare a.rounded b.rounded = o ∨ AreLong a b ∧ compare a.rounded b.rounded = .eq := by
  by_cases hlong : AreLong a b
  · obtain ⟨n, m, rfl, rfl⟩ := hlong
    rw [compare?_longs, Option.some_inj] at h
    by_cases heq : Binary64.place n.toInt = Binary64.place m.toInt
    · exact .inr ⟨⟨n, m, rfl, rfl⟩, Int.compare_eq_eq.mpr heq⟩
    · left
      cases o with
      | lt =>
          have hle := Binary64.place_mono (Int.le_of_lt (Int.compare_eq_lt.mp h))
          exact Int.compare_eq_lt.mpr (Int.lt_iff_le_and_ne.mpr ⟨hle, heq⟩)
      | eq => exact absurd (congrArg Binary64.place (Int.compare_eq_eq.mp h)) heq
      | gt =>
          have hle := Binary64.place_mono (Int.le_of_lt (Int.compare_eq_gt.mp h))
          exact Int.compare_eq_gt.mpr (Int.lt_iff_le_and_ne.mpr ⟨hle, Ne.symm heq⟩)
  · rw [compare?_rounded ha hb hlong] at h
    exact .inl (Option.some.inj h)

/-! ## three numbers -/

/-- Where three numbers are conflated, two steps that fit together do not make one. -/
theorem compare?_ne_of_conflated (h : Conflated a b c) {o o' : Ordering}
    (hab : a.compare? b = some o) (hbc : b.compare? c = some o') :
    a.compare? c ≠ some (o.then o') := by
  have hne {n m : Int64} (hnm : n ≠ m) : (long n).compare? (long m) ≠ some .eq := by
    rw [compare?_longs, ne_eq, Option.some_inj, Int.compare_eq_eq]
    exact fun heq => hnm (Int64.toInt_inj.mp heq)
  obtain h | h | h := h
  · obtain ⟨n, m, x, rfl, rfl, rfl, hnm, hn, hm⟩ := h
    obtain rfl : .eq = o' := Option.some.inj (hm.symm.trans hbc)
    rw [hn, Ordering.then_eq, ne_eq, Option.some_inj]
    rintro rfl
    exact hne hnm hab
  · obtain ⟨n, m, x, rfl, rfl, rfl, hnm, hn, hm⟩ := h
    have hbc' : (double x).compare? (long m) = some .eq := by rw [compare?_swap, hm]; rfl
    obtain rfl : .eq = o := Option.some.inj (hn.symm.trans hab)
    obtain rfl : .eq = o' := Option.some.inj (hbc'.symm.trans hbc)
    exact hne hnm
  · obtain ⟨n, m, x, rfl, rfl, rfl, hnm, hn, hm⟩ := h
    have hab' : (double x).compare? (long n) = some .eq := by rw [compare?_swap, hn]; rfl
    have hac : (double x).compare? (long m) = some .eq := by rw [compare?_swap, hm]; rfl
    obtain rfl : .eq = o := Option.some.inj (hab'.symm.trans hab)
    rw [hac, Ordering.eq_then, ne_eq, Option.some_inj]
    rintro rfl
    exact hne hnm hbc

/-- Two whole numbers and then a double that they are not both rounded to. -/
theorem compare?_of_not_merges (hab : AreLong a b) (hc : OfKind .double c) (h : ¬Merges a b c)
    {o o' : Ordering} (ho : a.compare? b = some o) (ho' : b.compare? c = some o')
    (hsame : o = o' ∨ o = .eq ∨ o' = .eq) : a.compare? c = some (o.then o') := by
  obtain ⟨n, m, rfl, rfl⟩ := hab
  cases hc with
  | @double x hx =>
      have hn : Numeric (.long n) := .inl (.long n)
      have hm : Numeric (.long m) := .inl (.long m)
      have hd : Numeric (.double x) := .inr (.double hx)
      have hmixed (k : Int64) : ¬AreLong (.long k) (.double x) := by simp [AreLong]
      have hmc : compare (long m).rounded (double x).rounded = o' := by
        rw [compare?_rounded hm hd (hmixed m)] at ho'
        exact Option.some.inj ho'
      have hac := compare?_rounded hn hd (hmixed n)
      obtain hab | ⟨-, hab⟩ := rounded_of_compare? hn hm ho
      · rw [hac, then_trans hab hmc hsame]
      · rw [then_trans hab hmc (.inr (.inl rfl)), Ordering.eq_then] at hac
        obtain rfl | rfl | rfl := hsame
        · rw [hac, Ordering.then_self]
        · exact hac
        · -- both whole numbers are rounded to the double, so they have to be the same
          have hnm : n = m := Decidable.of_not_not fun hne =>
            h ⟨n, m, x, rfl, rfl, rfl, hne, hac, ho'⟩
          subst hnm
          obtain rfl : .eq = o := Option.some.inj ((compare?_self (.long n)).symm.trans ho)
          exact hac

theorem merges_swap {d : Value} (h : Merges a b d) : Merges b a d := by
  obtain ⟨n, m, x, ha, hb, hd, hne, han, hbn⟩ := h
  exact ⟨m, n, x, hb, ha, hd, hne.symm, hbn, han⟩

theorem compare?_swap_of_eq {o : Ordering} (h : a.compare? b = some o) :
    b.compare? a = some o.swap := by
  rw [compare?_swap, h, Option.map_some]

/-- A double that two different whole numbers are not both rounded to, between them. -/
theorem compare?_of_not_merges_between {n m : Int64} (hb : OfKind .double b)
    (h : ¬Merges (.long n) (.long m) b) {o o' : Ordering} (ho : (long n).compare? b = some o)
    (ho' : b.compare? (long m) = some o') (hsame : o = o' ∨ o = .eq ∨ o' = .eq) :
    (long n).compare? (long m) = some (o.then o') := by
  cases hb with
  | @double x hx =>
      have hn : Numeric (.long n) := .inl (.long n)
      have hm : Numeric (.long m) := .inl (.long m)
      have hd : Numeric (.double x) := .inr (.double hx)
      have hnd : compare (long n).rounded (double x).rounded = o := by
        rw [compare?_rounded hn hd (by simp [AreLong])] at ho
        exact Option.some.inj ho
      have hdm : compare (double x).rounded (long m).rounded = o' := by
        rw [compare?_rounded hd hm (by simp [AreLong])] at ho'
        exact Option.some.inj ho'
      have hnm := then_trans hnd hdm hsame
      obtain hnm' | ⟨-, hnm'⟩ := rounded_of_compare? hn hm (compare?_longs n m)
      · rw [compare?_longs, ← hnm', hnm]
      · -- rounded they are the same, so neither step has a direction
        rw [hnm'] at hnm
        obtain ⟨rfl, rfl⟩ : o = .eq ∧ o' = .eq := Ordering.then_eq_eq.mp hnm.symm
        have heq : n = m := Decidable.of_not_not fun hne =>
          h ⟨n, m, x, rfl, rfl, rfl, hne, ho, compare?_swap_of_eq ho'⟩
        rw [heq]
        exact compare?_self (.long m)

theorem ofKind_double_of_not_areLong (hab : AreLong a b) (hc : Numeric c) (h : ¬AreLong a c) :
    OfKind .double c := by
  obtain ⟨n, m, rfl, rfl⟩ := hab
  obtain hc | hc := hc
  · cases hc with
    | long k => exact absurd ⟨n, k, rfl, rfl⟩ h
  · exact hc

/-- Elsewhere they do. -/
theorem compare?_of_not_conflated (ha : Numeric a) (hb : Numeric b) (hc : Numeric c)
    (h : ¬Conflated a b c) {o o' : Ordering} (hab : a.compare? b = some o)
    (hbc : b.compare? c = some o') (hsame : o = o' ∨ o = .eq ∨ o' = .eq) :
    a.compare? c = some (o.then o') := by
  obtain ⟨habc, hacb, hbca⟩ : ¬Merges a b c ∧ ¬Merges a c b ∧ ¬Merges b c a := by
    simpa only [Conflated, not_or] using h
  by_cases hlac : AreLong a c
  · obtain ⟨n, m, rfl, rfl⟩ := hlac
    obtain hb | hb := hb
    · exact compare?_trans (.long n) hb (.long m) hab hbc hsame
    · exact compare?_of_not_merges_between hb hacb hab hbc hsame
  by_cases hlab : AreLong a b
  · exact compare?_of_not_merges hlab (ofKind_double_of_not_areLong hlab hc hlac) habc hab hbc hsame
  by_cases hlbc : AreLong b c
  · -- the same from the other end
    obtain ⟨n, m, rfl, rfl⟩ := hlbc
    have hda := ofKind_double_of_not_areLong ⟨m, n, rfl, rfl⟩ ha fun ⟨k, l, hk, hl⟩ =>
      hlac ⟨l, k, hl, hk⟩
    have hsame' : o'.swap = o.swap ∨ o'.swap = .eq ∨ o.swap = .eq := by
      obtain rfl | rfl | rfl := hsame <;> simp
    have hca := compare?_of_not_merges ⟨m, n, rfl, rfl⟩ hda (fun h => hbca (merges_swap h))
      (compare?_swap_of_eq hbc) (compare?_swap_of_eq hab) hsame'
    rw [compare?_swap_of_eq hca]
    obtain rfl | rfl | rfl := hsame
    · cases o <;> rfl
    · cases o' <;> rfl
    · cases o <;> rfl
  · rw [compare?_rounded ha hb hlab, Option.some_inj] at hab
    rw [compare?_rounded hb hc hlbc, Option.some_inj] at hbc
    rw [compare?_rounded ha hc hlac, then_trans hab hbc hsame]

/-- Two steps that fit together make one exactly where the numbers are not conflated. -/
theorem compare?_numbers_iff (ha : Numeric a) (hb : Numeric b) (hc : Numeric c) {o o' : Ordering}
    (hab : a.compare? b = some o) (hbc : b.compare? c = some o')
    (hsame : o = o' ∨ o = .eq ∨ o' = .eq) :
    a.compare? c = some (o.then o') ↔ ¬Conflated a b c :=
  ⟨fun hac h => compare?_ne_of_conflated h hab hbc hac, fun h =>
    compare?_of_not_conflated ha hb hc h hab hbc hsame⟩

/-- Whole numbers that are rounded to the same double are not both within `2 ^ 53` of zero. -/
theorem merges_large {n m : Int64} {d : Value} (h : Merges (.long n) (.long m) d) :
    2 ^ 53 < n.toInt.natAbs ∨ 2 ^ 53 < m.toInt.natAbs := by
  obtain ⟨_, _, x, hn, hm, rfl, hne, hnd, hmd⟩ := h
  obtain rfl := Value.long.inj hn
  obtain rfl := Value.long.inj hm
  have hx : x ≠ .nan := by
    rintro rfl
    contradiction
  have hplace (k : Int64) (hk : (long k).compare? (double x) = some .eq) :
      Binary64.place k.toInt = (double x).rounded := by
    rw [compare?_rounded (.inl (.long k)) (.inr (.double hx)) (by simp [AreLong])] at hk
    exact Int.compare_eq_eq.mp (Option.some.inj hk)
  have hsame := (hplace n hnd).trans (hplace m hmd).symm
  refine Decidable.of_not_not fun hsmall => ?_
  obtain ⟨hn53, hm53⟩ : n.toInt.natAbs ≤ 2 ^ 53 ∧ m.toInt.natAbs ≤ 2 ^ 53 := by omega
  obtain hlt | heq | hgt := Int.lt_trichotomy n.toInt m.toInt
  · exact Int.ne_of_lt (Binary64.place_lt_place hlt hn53 hm53) hsame
  · exact hne (Int64.toInt_inj.mp heq)
  · exact Int.ne_of_gt (Binary64.place_lt_place hgt hm53 hn53) hsame

end Value

namespace Operator

open Value

/-- **Numbers are transitive unless they are conflated.**  Of whole numbers and doubles, two
equalities make an equality, and a `<` beside a `<=` makes a `<`, exactly where none of the three is
a double that the two others, being different whole numbers, are both rounded to.  Whole numbers
that are within `2 ^ 53` of zero are not. -/
theorem numbers_transitive {a b c : Value} (ha : Numeric a) (hb : Numeric b) (hc : Numeric c) :
    (eq.holds a b = true → eq.holds b c = true →
      (eq.holds a c = true ↔ ¬Conflated a b c)) ∧
    (lt.holds a b = true → le.holds b c = true →
      (lt.holds a c = true ↔ ¬Conflated a b c)) ∧
    (le.holds a b = true → lt.holds b c = true →
      (lt.holds a c = true ↔ ¬Conflated a b c)) ∧
    ∀ (n m : Int64) (d : Value), Merges (.long n) (.long m) d →
      2 ^ 53 < n.toInt.natAbs ∨ 2 ^ 53 < m.toInt.natAbs := by
  have hlt (x y : Value) := ofOrdering_holds_iff .lt x y
  have heq (x y : Value) := ofOrdering_holds_iff .eq x y
  have hle (x y : Value) : le.holds x y = true ↔
      x.compare? y = some .lt ∨ x.compare? y = some .eq := by
    rw [(ordered x y).le_iff]
    exact or_congr (hlt x y) (heq x y)
  have hiff {o o' : Ordering} (hab : a.compare? b = some o) (hbc : b.compare? c = some o')
      (hsame : o = o' ∨ o = .eq ∨ o' = .eq) := compare?_numbers_iff ha hb hc hab hbc hsame
  refine ⟨fun hab hbc => ?_, fun hab hbc => ?_, fun hab hbc => ?_, fun n m d => merges_large⟩
  · exact (heq a c).trans (hiff ((heq a b).mp hab) ((heq b c).mp hbc) (.inl rfl))
  · obtain hbc | hbc := (hle b c).mp hbc
    · exact (hlt a c).trans (hiff ((hlt a b).mp hab) hbc (.inl rfl))
    · exact (hlt a c).trans (hiff ((hlt a b).mp hab) hbc (.inr (.inr rfl)))
  · obtain hab | hab := (hle a b).mp hab
    · exact (hlt a c).trans (hiff hab ((hlt b c).mp hbc) (.inl rfl))
    · exact (hlt a c).trans (hiff hab ((hlt b c).mp hbc) (.inr (.inl rfl)))

/-- `2 ^ 53` as a double. -/
def limit : Value := .double (.ofInt 9007199254740992)

/-- The double is equal to itself by way of the whole number after it.  From the one before it to
the one after it the way over the double is open, and so it is from the double to the second after
it.  Only `2 ^ 53 + 1` is merged with another. -/
theorem numbers_transitive_limit :
    eq.holds limit limit = true ∧
    ¬Conflated (.long 9007199254740991) limit (.long 9007199254740993) ∧
    ¬Conflated limit (.long 9007199254740993) (.long 9007199254740994) ∧
    (2 ^ 53 < Int.natAbs 9007199254740993 ∨ 2 ^ 53 < Int.natAbs 9007199254740992) := by
  have hlong (n : Int64) : Numeric (.long n) := .inl (.long n)
  have hlimit : Numeric limit := .inr (.double (by decide +kernel))
  have habove : eq.holds limit (.long 9007199254740993) = true ∧
      eq.holds (.long 9007199254740993) limit = true := by decide +kernel
  obtain ⟨heq, -, -, hlarge⟩ := numbers_transitive hlimit (hlong 9007199254740993) hlimit
  obtain ⟨-, hlt, -, -⟩ :=
    numbers_transitive (hlong 9007199254740991) hlimit (hlong 9007199254740993)
  obtain ⟨-, -, hlt', -⟩ :=
    numbers_transitive hlimit (hlong 9007199254740993) (hlong 9007199254740994)
  refine ⟨(heq habove.1 habove.2).mpr (by simp [Conflated, Merges, limit]), ?_, ?_, ?_⟩
  · exact (hlt (by decide +kernel) (by decide +kernel)).mp (by decide +kernel)
  · exact (hlt' (by decide +kernel) (by decide +kernel)).mp (by decide +kernel)
  · exact hlarge 9007199254740993 9007199254740992 limit
      ⟨_, _, _, rfl, rfl, rfl, by decide, by decide +kernel, by decide +kernel⟩

/-- `2 ^ 53 + 1` and `2 ^ 53` are both equal to the double `2 ^ 53`, but not to one another.  The
second is less than the first, and that is at most the double, but the second is not less than the
double. -/
theorem not_numbers_transitive :
    eq.holds (.long 9007199254740993) limit = true ∧
    eq.holds limit (.long 9007199254740992) = true ∧
    eq.holds (.long 9007199254740993) (.long 9007199254740992) = false ∧
    lt.holds (.long 9007199254740992) (.long 9007199254740993) = true ∧
    le.holds (.long 9007199254740993) limit = true ∧
    lt.holds (.long 9007199254740992) limit = false := by
  decide +kernel

end Operator

end TreeSift
