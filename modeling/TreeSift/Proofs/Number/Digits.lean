import Mathlib.Algebra.Group.Nat.Defs
import Mathlib.Data.List.Induction
import Mathlib.Data.List.TakeWhile
import TreeSift.Proofs.Expr.NumberToken

/-!
# TreeSift.Proofs.Number.Digits

Decimal digits and their value.

A number is written with its digits, or with zeros in front of them up to a width.  Either text
consists of digits that have the number as their value, and a reader of digits gets them back.  Of
one width there is only one text for a number (`eq_of_digitsValue_eq`), so that such a reader takes
nothing else (`digits?_eq_some_iff`).
-/

namespace TreeSift

open Lexeme

namespace Number

theorem digitsValue_eq_ofDigitChars (ds : List Char) :
    digitsValue ds = Nat.ofDigitChars 10 ds 0 := by
  unfold digitsValue Nat.ofDigitChars
  congr 1
  funext m c
  rw [Nat.mul_comm]

theorem digitsValue_replicate_zero (ds : List Char) (n : Nat) :
    digitsValue (ds ++ List.replicate n '0') = digitsValue ds * 10 ^ n := by
  rw [digitsValue_eq_ofDigitChars, Nat.ofDigitChars_append, Nat.ofDigitChars_replicate_zero,
    digitsValue_eq_ofDigitChars, Nat.mul_comm]

theorem digitsValue_concat (ds : List Char) (c : Char) :
    digitsValue (ds ++ [c]) = digitsValue ds * 10 + (c.toNat - '0'.toNat) := by
  simp [digitsValue]

/-- As many digits with the same value are the same digits. -/
theorem eq_of_digitsValue_eq {as bs : List Char} (ha : ∀ c ∈ as, c.isDigit = true)
    (hb : ∀ c ∈ bs, c.isDigit = true) (hlength : as.length = bs.length)
    (h : digitsValue as = digitsValue bs) : as = bs := by
  induction as using List.reverseRecOn generalizing bs with
  | nil => exact (List.length_eq_zero_iff.mp hlength.symm).symm
  | append_singleton as a ih =>
      obtain rfl | ⟨bs, b, hconcat⟩ := List.eq_nil_or_concat bs
      · simp at hlength
      rw [List.concat_eq_append] at hconcat
      subst hconcat
      simp only [List.length_append, List.length_singleton, Nat.add_right_cancel_iff] at hlength
      simp only [digitsValue_concat, Char.reduceToNat] at h
      have hda := Char.isDigit_iff_toNat.mp (ha a List.mem_concat_self)
      have hdb := Char.isDigit_iff_toNat.mp (hb b List.mem_concat_self)
      simp only [Char.reduceToNat] at hda hdb
      have hlast : a = b := Char.toNat_inj.mp (by omega)
      have hinit : as = bs := ih (fun c hc => ha c (List.mem_append_left _ hc))
        (fun c hc => hb c (List.mem_append_left _ hc)) hlength (by omega)
      rw [hlast, hinit]

theorem digitsValue_lt {ds : List Char} (h : ∀ c ∈ ds, c.isDigit = true) :
    digitsValue ds < 10 ^ ds.length := by
  induction ds using List.reverseRecOn with
  | nil => decide
  | append_singleton ds c ih =>
      have hc := Char.isDigit_iff_toNat.mp (h c List.mem_concat_self)
      have hinit := ih fun c hc => h c (List.mem_append_left _ hc)
      simp only [Char.reduceToNat] at hc
      rw [digitsValue_concat, List.length_append, List.length_singleton, Nat.pow_succ]
      simp only [Char.reduceToNat]
      omega

end Number

namespace Lexeme

theorem isDigits_toDigits (n : Nat) : IsDigits (Nat.toDigits 10 n) :=
  ⟨Nat.toDigits_ne_nil, fun _ hc => Nat.isDigit_of_mem_toDigits (by decide) (by decide) hc⟩

theorem digitsValue_toDigits (n : Nat) : Number.digitsValue (Nat.toDigits 10 n) = n := by
  rw [Number.digitsValue_eq_ofDigitChars, Nat.ofDigitChars_toDigits (by decide) (by decide)]

end Lexeme

namespace Moment

/-! ## zeros in front -/

variable {width n : Nat}

theorem isDigits_padded (width n : Nat) : IsDigits (padded width n) := by
  obtain ⟨hne, hdigit⟩ := isDigits_toDigits n
  refine ⟨fun h => hne (List.append_eq_nil_iff.mp h).2, fun c hc => ?_⟩
  obtain hc | hc := List.mem_append.mp hc
  · rw [List.eq_of_mem_replicate hc]
    rfl
  · exact hdigit c hc

theorem exists_padded_eq_cons (width n : Nat) :
    ∃ c r, padded width n = c :: r ∧ c.isDigit = true := by
  obtain ⟨hne, hdigit⟩ := isDigits_padded width n
  obtain ⟨c, r, h⟩ := List.exists_cons_of_ne_nil hne
  exact ⟨c, r, h, hdigit c (by simp [h])⟩

theorem length_padded (hw : 0 < width) (hn : n < 10 ^ width) : (padded width n).length = width := by
  have hle := (Nat.length_toDigits_le_iff (b := 10) (by decide) hw).mpr hn
  simp only [padded, List.length_append, List.length_replicate]
  omega

theorem digitsValue_padded (width n : Nat) : Number.digitsValue (padded width n) = n := by
  rw [Number.digitsValue_eq_ofDigitChars, padded, Nat.ofDigitChars_append,
    Nat.ofDigitChars_replicate_zero, Nat.mul_zero, Nat.ofDigitChars_toDigits (by decide) (by decide)]

/-- Digits are their value with zeros in front. -/
theorem padded_digitsValue {ds : List Char} (h : IsDigits ds) :
    padded ds.length (Number.digitsValue ds) = ds := by
  have hlength := length_padded (List.length_pos_iff.mpr h.1) (Number.digitsValue_lt h.2)
  exact Number.eq_of_digitsValue_eq (isDigits_padded _ _).2 h.2 hlength (digitsValue_padded _ _)

end Moment

namespace Component

/-! ## reading digits -/

variable {width n : Nat}

/-- The digits are read, whatever comes after as many of them as there may be. -/
theorem digits?_append {ds : List Char} (hd : IsDigits ds) (rest : List Char) :
    digits? ds.length ds.length (ds ++ rest) = some (Number.digitsValue ds, rest) := by
  have htake : ((ds ++ rest).take ds.length).takeWhile Char.isDigit = ds := by
    rw [List.take_left, List.takeWhile_eq_self_iff]
    exact hd.2
  unfold digits?
  simp only [htake, Nat.lt_irrefl, if_false, List.drop_left, Number.digitsValue]

/-- A number with zeros in front is read back. -/
theorem digits?_padded (hw : 0 < width) (hn : n < 10 ^ width) (rest : List Char) :
    digits? width width (Moment.padded width n ++ rest) = some (n, rest) := by
  have h := digits?_append (Moment.isDigits_padded width n) rest
  rwa [Moment.length_padded hw hn, Moment.digitsValue_padded] at h

/-- Only a number with zeros in front is read. -/
theorem digits?_eq_some_iff {width n : Nat} {cs rest : List Char} (hw : 0 < width) :
    digits? width width cs = some (n, rest) ↔
      n < 10 ^ width ∧ cs = Moment.padded width n ++ rest := by
  constructor
  · intro h
    simp only [digits?, Option.ite_none_left_eq_some, Option.some.injEq, Prod.mk.injEq] at h
    obtain ⟨hlength, hn, hrest⟩ := h
    obtain ⟨ds, hds⟩ : ∃ ds, ds = (cs.take width).takeWhile Char.isDigit := ⟨_, rfl⟩
    rw [← hds] at hlength hn hrest
    have hfront : ds <+: cs.take width := hds ▸ List.takeWhile_prefix _
    have hwidth : ds.length = width := by
      have := hfront.length_le
      rw [List.length_take] at this
      omega
    have hdigits : IsDigits ds := by
      refine ⟨fun hnil => ?_, fun c hc => List.mem_takeWhile_imp (hds ▸ hc)⟩
      rw [hnil, List.length_nil] at hwidth
      omega
    have hvalue : Number.digitsValue ds = n := hn
    have hcs := List.prefix_iff_eq_append.mp (hfront.trans (List.take_prefix _ _))
    rw [← hvalue, ← hwidth, Moment.padded_digitsValue hdigits, ← hrest]
    exact ⟨Number.digitsValue_lt hdigits.2, hcs.symm⟩
  · rintro ⟨hn, rfl⟩
    exact digits?_padded hw hn rest

/-- Nine digits of a fraction are its nanoseconds. -/
theorem nanosOf_eq {ds : List Char} (h : ds.length ≤ 9) :
    nanosOf ds = Number.digitsValue ds * 10 ^ (9 - ds.length) := by
  have hnine : (ds ++ List.replicate 9 '0').take 9 = ds ++ List.replicate (9 - ds.length) '0' := by
    rw [List.take_append, List.take_of_length_le h, List.take_replicate, Nat.min_eq_left (by omega)]
  rw [← Number.digitsValue_replicate_zero, nanosOf, hnine, Number.digitsValue]

end Component

end TreeSift
