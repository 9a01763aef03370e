import TreeSift.Proofs.Charset.Decoder
import TreeSift.Proofs.Charset.Unicode

/-!
# TreeSift.Proofs.Charset.Following

The decoders of UTF-8 and of UTF-16 follow their steps.

1. UTF-8 is decoded without looking ahead: a first byte sets the range of the second one, and with
   it excludes what the step excludes by the number of the whole character.
2. UTF-16 is decoded one unit behind: a high surrogate is kept until the next unit is there.
-/

namespace TreeSift

namespace Charset

theorem one_eq_ite {n taken : Nat} : one n taken =
    if n < 0xD800 ∨ 0xDFFF < n ∧ n < 0x110000 then some ([Char.ofNat n], taken) else none := by
  unfold one CharSet.scalar?
  by_cases h : n.isValidChar
  · rw [if_pos h, if_pos (show n < 0xD800 ∨ 0xDFFF < n ∧ n < 0x110000 from h)]
    rfl
  · rw [if_neg h, if_neg (show ¬ (n < 0xD800 ∨ 0xDFFF < n ∧ n < 0x110000) from h)]
    rfl

/-! ## UTF-8 -/

section

variable {bits seen needed : Nat} {lower upper b : UInt8} {bs : List UInt8}

theorem counts_utf8Decoder : utf8Decoder.Counts where
  start := rfl
  keep h := by
    simp only [utf8Decoder, Utf8State.pushFirst, Utf8State.pushNext] at h ⊢
    grind
  write h := by
    simp only [utf8Decoder, Utf8State.pushFirst, Utf8State.pushNext] at h ⊢
    grind
  malformed h := by
    simp only [utf8Decoder, Utf8State.pushFirst, Utf8State.pushNext] at h ⊢
    grind

/-- A continuation byte, its range told in numbers. -/
theorem push_utf8_next (h : needed ≠ 0) :
    utf8Decoder.push ⟨bits, seen, needed, lower, upper⟩ b =
      if lower.toNat ≤ b.toNat ∧ b.toNat ≤ upper.toNat then
        if seen + 1 = needed then .write [Char.ofNat (bits * 0x40 + (b.toNat - 0x80))] .start
        else .keep ⟨bits * 0x40 + (b.toNat - 0x80), seen + 1, needed, 0x80, 0xBF⟩
      else .malformed (seen + 1) 0 false := by
  simp only [utf8Decoder, Utf8State.pushNext, UInt8.le_iff_toNat_le, h, if_false]

/-- The last byte of a character. -/
theorem first?_utf8_last : utf8Decoder.first? ⟨bits, seen, seen + 1, lower, upper⟩ (b :: bs) =
    if lower.toNat ≤ b.toNat ∧ b.toNat ≤ upper.toNat then
      some ([Char.ofNat (bits * 0x40 + (b.toNat - 0x80))], 0)
    else none := by
  rw [Decoder.first?, push_utf8_next (Nat.succ_ne_zero seen), if_pos rfl]
  by_cases hr : lower.toNat ≤ b.toNat ∧ b.toNat ≤ upper.toNat
  · rw [if_pos hr, if_pos hr]
  · rw [if_neg hr, if_neg hr]

/-- A continuation byte before the last one. -/
theorem first?_utf8_next (h : seen + 1 < needed) :
    utf8Decoder.first? ⟨bits, seen, needed, lower, upper⟩ (b :: bs) =
      if lower.toNat ≤ b.toNat ∧ b.toNat ≤ upper.toNat then
        (utf8Decoder.first? ⟨bits * 0x40 + (b.toNat - 0x80), seen + 1, needed, 0x80, 0xBF⟩ bs).map
          fun r => (r.1, r.2 + 1)
      else none := by
  rw [Decoder.first?, push_utf8_next (Nat.ne_zero_of_lt h), if_neg (Nat.ne_of_lt h)]
  by_cases hr : lower.toNat ≤ b.toNat ∧ b.toNat ≤ upper.toNat
  · rw [if_pos hr, if_pos hr]
  · rw [if_neg hr, if_neg hr]

theorem continuation?_eq_ite : continuation? b =
    if 0x80 ≤ b.toNat ∧ b.toNat ≤ 0xBF then some (b.toNat - 0x80) else none := by
  simp only [continuation?, UInt8.le_iff_toNat_le]
  rfl

end

/-- The decoder of UTF-8 reads a character where the step does.  The cases are those of the first
byte, and in each of them how many bytes there are. -/
theorem utf8Step_eq_first? (b : UInt8) (bs : List UInt8) :
    utf8Step b bs = utf8Decoder.first? utf8Decoder.start (b :: bs) := by
  have hfirst : utf8Decoder.push utf8Decoder.start b = Utf8State.pushFirst b := rfl
  rw [Decoder.first?, hfirst]
  simp only [Utf8State.pushFirst, utf8Step]
  split
  · rw [one_eq_ite, if_pos (by omega)]
  split
  · rw [if_neg (by omega), if_pos (by omega)]
    obtain _ | ⟨b₁, r⟩ := bs
    · rfl
    · dsimp only
      rw [first?_utf8_last]
      simp only [continuation?_eq_ite, one_eq_ite]
      grind
  split
  · rw [if_neg (by omega), if_neg (by omega), if_pos (by omega)]
    obtain _ | ⟨b₁, _ | ⟨b₂, r⟩⟩ := bs
    · rfl
    · dsimp only
      rw [first?_utf8_next (by decide)]
      simp [Decoder.first?]
    · dsimp only
      rw [first?_utf8_next (by decide), first?_utf8_last]
      simp only [continuation?_eq_ite, one_eq_ite, apply_ite UInt8.toNat, UInt8.reduceToNat]
      grind
  split
  · rw [if_neg (by omega), if_neg (by omega), if_neg (by omega), if_pos (by omega)]
    obtain _ | ⟨b₁, _ | ⟨b₂, _ | ⟨b₃, r⟩⟩⟩ := bs
    · rfl
    · dsimp only
      rw [first?_utf8_next (by decide)]
      simp [Decoder.first?]
    · dsimp only
      rw [first?_utf8_next (by decide), first?_utf8_next (by decide)]
      simp [Decoder.first?]
    · dsimp only
      rw [first?_utf8_next (by decide), first?_utf8_next (by decide), first?_utf8_last]
      simp only [continuation?_eq_ite, one_eq_ite, apply_ite UInt8.toNat, UInt8.reduceToNat]
      grind
  · grind

theorem follows_utf8Decoder : utf8Decoder.Follows utf8Step where
  toCounts := counts_utf8Decoder
  step_eq := utf8Step_eq_first?

/-! ## UTF-16 -/

variable {bigEndian : Bool}

theorem counts_utf16Decoder : (utf16Decoder bigEndian).Counts where
  start := rfl
  keep h := by
    simp only [utf16Decoder, Utf16State.pushUnit] at h ⊢
    grind
  write h := by
    simp only [utf16Decoder, Utf16State.pushUnit] at h ⊢
    grind
  malformed h := by
    simp only [utf16Decoder, Utf16State.pushUnit] at h ⊢
    grind

/-- Two bytes are a code unit. -/
theorem first?_utf16 {high : Option Nat} {a b : UInt8} {r : List UInt8} :
    (utf16Decoder bigEndian).first? ⟨none, high⟩ (a :: b :: r) =
      match Utf16State.pushUnit high (unit bigEndian a b) with
      | .keep s => ((utf16Decoder bigEndian).first? s r).map fun r => (r.1, r.2 + 2)
      | .write cs _ => some (cs, 1)
      | .malformed _ _ _ => none := by
  have hlead : (utf16Decoder bigEndian).push ⟨none, high⟩ a = .keep ⟨some a, high⟩ := rfl
  have hunit : (utf16Decoder bigEndian).push ⟨some a, high⟩ b =
      Utf16State.pushUnit high (unit bigEndian a b) := rfl
  rw [Decoder.first?, hlead]
  dsimp only
  rw [Decoder.first?, hunit]
  cases Utf16State.pushUnit high (unit bigEndian a b) <;> simp [Function.comp_def]

/-- After a high surrogate only a low one makes a character. -/
theorem first?_utf16_high {n : Nat} (hn : 0xD800 ≤ n ∧ n ≤ 0xDBFF) {c d : UInt8}
    {r : List UInt8} :
    (utf16Decoder bigEndian).first? ⟨none, some n⟩ (c :: d :: r) =
      if 0xDC00 ≤ unit bigEndian c d ∧ unit bigEndian c d ≤ 0xDFFF then
        one (0x10000 + (n - 0xD800) * 0x400 + (unit bigEndian c d - 0xDC00)) 1
      else none := by
  rw [first?_utf16, Utf16State.pushUnit]
  by_cases hm : 0xDC00 ≤ unit bigEndian c d ∧ unit bigEndian c d ≤ 0xDFFF
  · rw [if_neg (by omega), if_pos hm, if_pos hm, one_eq_ite, if_pos (by omega)]
  · rw [if_neg hm, if_neg hm, ite_self]

/-- The decoder of UTF-16 reads a character where the step does. -/
theorem utf16Step_eq_first? (b : UInt8) (bs : List UInt8) :
    utf16Step bigEndian b bs =
      (utf16Decoder bigEndian).first? (utf16Decoder bigEndian).start (b :: bs) := by
  have hstart : (utf16Decoder bigEndian).start = ⟨none, none⟩ := rfl
  rw [hstart]
  obtain _ | ⟨b', r⟩ := bs
  · rfl
  have hlt : unit bigEndian b b' < 0x10000 := unit_lt b b'
  rw [first?_utf16]
  simp only [utf16Step, Utf16State.pushUnit]
  split
  · next hhigh =>
    obtain _ | ⟨c, _ | ⟨d, r⟩⟩ := r
    · rfl
    · rfl
    · dsimp only
      rw [first?_utf16_high hhigh]
      split
      · simp [one, Function.comp_def]
      · rfl
  · rw [one_eq_ite]
    grind

theorem follows_utf16Decoder : (utf16Decoder bigEndian).Follows (utf16Step bigEndian) where
  toCounts := counts_utf16Decoder
  step_eq := utf16Step_eq_first?

end Charset

end TreeSift
