import TreeSift.Charset.Step

/-!
# TreeSift.Proofs.Charset.Unicode

UTF-8 and UTF-16, written and read.

1. A step is *exact* for a way of writing characters if it reads what is written, whatever comes
   after it, and nothing else.  Then a text is read from its own bytes and from no others
   (`Exact.readAll_eq_some_iff`).
2. The steps of UTF-8 and of UTF-16 in both byte orders are exact.  UTF-8 is written as the standard
   library writes it; UTF-16 takes one unit up to FFFF and a pair of surrogates from 10000 on.
-/

namespace TreeSift

namespace Charset

/-! ## exact steps -/

/-- The step reads what is written for a character, and only that. -/
structure Exact (step : Step) (write : Char → List UInt8) : Prop where
  /-- What is written is read, whatever comes after it. -/
  reads (c : Char) (rest : List UInt8) :
    ∃ b bs, write c = b :: bs ∧ step b (bs ++ rest) = some ([c], bs.length)
  /-- What is read was written. -/
  written {b : UInt8} {bs : List UInt8} {cs : List Char} {k : Nat} (h : step b bs = some (cs, k)) :
    ∃ c, cs = [c] ∧ b :: bs = write c ++ bs.drop k

namespace Exact

variable {step : Step} {write : Char → List UInt8}

theorem readAll_flatMap (h : Exact step write) (text : List Char) :
    readAll step (text.flatMap write) = some text := by
  induction text with
  | nil => simp [readAll]
  | cons c text ih =>
      obtain ⟨b, bs, hc, hstep⟩ := h.reads c (text.flatMap write)
      rw [List.flatMap_cons, hc, List.cons_append, readAll]
      simp only [hstep, List.drop_left, ih, Option.map_some, List.singleton_append]

theorem eq_flatMap_of_readAll (h : Exact step write) {bytes : List UInt8} {text : List Char}
    (hr : readAll step bytes = some text) : bytes = text.flatMap write := by
  fun_induction readAll step bytes generalizing text with
  | case1 =>
      injection hr with hr
      subst hr
      rfl
  | case2 b bs hstep => contradiction
  | case3 b bs cs k hstep ih =>
      obtain ⟨c, rfl, hbytes⟩ := h.written hstep
      obtain ⟨more, hrest, rfl⟩ := Option.map_eq_some_iff.mp hr
      rw [List.singleton_append, List.flatMap_cons, ← ih hrest, hbytes]

/-- With an exact step a text is read from the bytes it is written with, and from no others. -/
theorem readAll_eq_some_iff (h : Exact step write) {bytes : List UInt8} {text : List Char} :
    readAll step bytes = some text ↔ bytes = text.flatMap write := by
  constructor
  · exact h.eq_flatMap_of_readAll
  · intro hb
    subst hb
    exact h.readAll_flatMap text

end Exact

/-! ## numbers, characters and bytes -/

theorem scalar?_eq_some_iff {n : Nat} {c : Char} : CharSet.scalar? n = some c ↔ c.toNat = n := by
  unfold CharSet.scalar?
  constructor
  · intro h
    split at h
    · next hv =>
      injection h with h
      subst h
      rw [Char.ofNat, dif_pos hv]
      rfl
    · contradiction
  · intro h
    subst h
    rw [if_pos (show c.toNat.isValidChar from c.valid), Char.ofNat_toNat]

theorem one_eq_some_iff {n taken k : Nat} {cs : List Char} :
    one n taken = some (cs, k) ↔ ∃ c : Char, c.toNat = n ∧ cs = [c] ∧ k = taken := by
  simp only [one, Option.map_eq_some_iff, scalar?_eq_some_iff, Prod.mk.injEq]
  constructor
  · rintro ⟨c, hc, rfl, rfl⟩
    exact ⟨c, hc, rfl, rfl⟩
  · rintro ⟨c, hc, rfl, rfl⟩
    exact ⟨c, hc, rfl, rfl⟩

theorem one_toNat (c : Char) (taken : Nat) : one c.toNat taken = some ([c], taken) :=
  one_eq_some_iff.mpr ⟨c, rfl, rfl, rfl⟩

theorem toNat_ofNat_of_lt {n : Nat} (h : n < 256) : (UInt8.ofNat n).toNat = n := by
  rw [UInt8.toNat_ofNat']
  omega

theorem ofNat_eq_of_toNat {n : Nat} {b : UInt8} (h : b.toNat = n) : UInt8.ofNat n = b := by
  subst h
  exact UInt8.ofNat_toNat

/-! ## UTF-8 -/

theorem continuation?_eq_some_iff {b : UInt8} {x : Nat} :
    continuation? b = some x ↔ b.toNat = x + 0x80 ∧ x < 0x40 := by
  have hlow : (0x80 ≤ b) ↔ 0x80 ≤ b.toNat := UInt8.le_iff_toNat_le
  have hhigh : (b ≤ 0xBF) ↔ b.toNat ≤ 0xBF := UInt8.le_iff_toNat_le
  simp only [continuation?, hlow, hhigh]
  split
  · rw [Option.some.injEq]
    omega
  · simp only [reduceCtorEq, false_iff]
    omega

theorem continuation?_ofNat {x : Nat} (h : x < 0x40) :
    continuation? (UInt8.ofNat (x + 0x80)) = some x :=
  continuation?_eq_some_iff.mpr ⟨toNat_ofNat_of_lt (by omega), h⟩

/-- A character is no surrogate. -/
theorem toNat_range (c : Char) :
    c.toNat < 0xD800 ∨ 0xDFFF < c.toNat ∧ c.toNat < 0x110000 := c.valid

section

variable {c : Char}

theorem utf8EncodeChar_one (h : c.toNat < 0x80) :
    String.utf8EncodeChar c = [UInt8.ofNat c.toNat] := by
  change c.val.toNat < 0x80 at h
  rw [String.utf8EncodeChar, if_pos (by omega)]
  rfl

theorem utf8EncodeChar_two (h : 0x80 ≤ c.toNat) (h' : c.toNat < 0x800) :
    String.utf8EncodeChar c =
      [UInt8.ofNat (c.toNat / 0x40 + 0xC0), UInt8.ofNat (c.toNat % 0x40 + 0x80)] := by
  change 0x80 ≤ c.val.toNat at h
  change c.val.toNat < 0x800 at h'
  have hlead : c.val.toNat / 0x40 % 0x20 = c.val.toNat / 0x40 := by omega
  rw [String.utf8EncodeChar, if_neg (by omega), if_pos (by omega), hlead]
  rfl

theorem utf8EncodeChar_three (h : 0x800 ≤ c.toNat) (h' : c.toNat < 0x10000) :
    String.utf8EncodeChar c =
      [UInt8.ofNat (c.toNat / 0x1000 + 0xE0), UInt8.ofNat (c.toNat / 0x40 % 0x40 + 0x80),
        UInt8.ofNat (c.toNat % 0x40 + 0x80)] := by
  change 0x800 ≤ c.val.toNat at h
  change c.val.toNat < 0x10000 at h'
  have hlead : c.val.toNat / 0x1000 % 0x10 = c.val.toNat / 0x1000 := by omega
  rw [String.utf8EncodeChar, if_neg (by omega), if_neg (by omega), if_pos (by omega), hlead]
  rfl

theorem utf8EncodeChar_four (h : 0x10000 ≤ c.toNat) :
    String.utf8EncodeChar c =
      [UInt8.ofNat (c.toNat / 0x40000 + 0xF0), UInt8.ofNat (c.toNat / 0x1000 % 0x40 + 0x80),
        UInt8.ofNat (c.toNat / 0x40 % 0x40 + 0x80), UInt8.ofNat (c.toNat % 0x40 + 0x80)] := by
  have hrange := toNat_range c
  change 0x10000 ≤ c.val.toNat at h
  change c.val.toNat < 0xD800 ∨ 0xDFFF < c.val.toNat ∧ c.val.toNat < 0x110000 at hrange
  have hlead : c.val.toNat / 0x40000 % 0x8 = c.val.toNat / 0x40000 := by omega
  rw [String.utf8EncodeChar, if_neg (by omega), if_neg (by omega), if_neg (by omega), hlead]
  rfl

end

section

variable {b b₁ b₂ b₃ : UInt8} {rest : List UInt8} {x y z n : Nat}

theorem utf8Step_one (h : b.toNat < 0x80) : utf8Step b rest = one b.toNat 0 := by
  unfold utf8Step
  dsimp only
  rw [if_pos h]

theorem utf8Step_two (hb : 0xC2 ≤ b.toNat ∧ b.toNat ≤ 0xDF) (hx : continuation? b₁ = some x)
    (hcode : (b.toNat - 0xC0) * 0x40 + x = n) : utf8Step b (b₁ :: rest) = one n 1 := by
  subst hcode
  unfold utf8Step
  dsimp only
  rw [if_neg (by omega), if_pos hb, hx, Option.bind_eq_bind, Option.bind_some]

theorem utf8Step_three (hb : 0xE0 ≤ b.toNat ∧ b.toNat ≤ 0xEF) (hx : continuation? b₁ = some x)
    (hy : continuation? b₂ = some y) (hcode : (b.toNat - 0xE0) * 0x1000 + x * 0x40 + y = n)
    (hlong : 0x800 ≤ n) : utf8Step b (b₁ :: b₂ :: rest) = one n 2 := by
  subst hcode
  unfold utf8Step
  dsimp only
  rw [if_neg (by omega), if_neg (by omega), if_pos hb, hx, hy, Option.bind_eq_bind,
    Option.bind_some, Option.bind_some, if_pos hlong]

-- by `rw` to the end: `simp` would leave it to the kernel to compare sums with `0x10000` unfolded
theorem utf8Step_four (hb : 0xF0 ≤ b.toNat ∧ b.toNat ≤ 0xF4) (hx : continuation? b₁ = some x)
    (hy : continuation? b₂ = some y) (hz : continuation? b₃ = some z)
    (hcode : (b.toNat - 0xF0) * 0x40000 + x * 0x1000 + y * 0x40 + z = n)
    (hlong : 0x10000 ≤ n) : utf8Step b (b₁ :: b₂ :: b₃ :: rest) = one n 3 := by
  subst hcode
  unfold utf8Step
  dsimp only
  rw [if_neg (by omega), if_neg (by omega), if_neg (by omega), if_pos hb, hx, hy, hz,
    Option.bind_eq_bind, Option.bind_some, Option.bind_some, Option.bind_some, if_pos hlong]

end

theorem utf8Step_reads (c : Char) (rest : List UInt8) :
    ∃ b bs, String.utf8EncodeChar c = b :: bs ∧
      utf8Step b (bs ++ rest) = some ([c], bs.length) := by
  have hrange := toNat_range c
  by_cases hone : c.toNat < 0x80
  · refine ⟨_, _, utf8EncodeChar_one hone, ?_⟩
    have hlead := toNat_ofNat_of_lt (n := c.toNat) (by omega)
    rw [utf8Step_one (by omega), hlead, one_toNat]
    rfl
  by_cases htwo : c.toNat < 0x800
  · refine ⟨_, _, utf8EncodeChar_two (by omega) htwo, ?_⟩
    have hlead := toNat_ofNat_of_lt (n := c.toNat / 0x40 + 0xC0) (by omega)
    rw [List.cons_append, utf8Step_two (by omega) (continuation?_ofNat (by omega))
      (n := c.toNat) (by omega), one_toNat]
    rfl
  by_cases hthree : c.toNat < 0x10000
  · refine ⟨_, _, utf8EncodeChar_three (by omega) hthree, ?_⟩
    have hlead := toNat_ofNat_of_lt (n := c.toNat / 0x1000 + 0xE0) (by omega)
    rw [List.cons_append, List.cons_append, utf8Step_three (by omega)
      (continuation?_ofNat (by omega)) (continuation?_ofNat (by omega)) (n := c.toNat) (by omega)
      (by omega), one_toNat]
    rfl
  · refine ⟨_, _, utf8EncodeChar_four (by omega), ?_⟩
    have hlead := toNat_ofNat_of_lt (n := c.toNat / 0x40000 + 0xF0) (by omega)
    rw [List.cons_append, List.cons_append, List.cons_append, utf8Step_four (by omega)
      (continuation?_ofNat (by omega)) (continuation?_ofNat (by omega))
      (continuation?_ofNat (by omega)) (n := c.toNat) (by omega) (by omega), one_toNat]
    rfl

theorem utf8Step_written {b : UInt8} {bs : List UInt8} {cs : List Char} {k : Nat}
    (h : utf8Step b bs = some (cs, k)) :
    ∃ c, cs = [c] ∧ b :: bs = String.utf8EncodeChar c ++ bs.drop k := by
  unfold utf8Step at h
  dsimp only at h
  split at h
  · next hone =>
    obtain ⟨c, hc, rfl, rfl⟩ := one_eq_some_iff.mp h
    refine ⟨c, rfl, ?_⟩
    rw [utf8EncodeChar_one (by omega), ofNat_eq_of_toNat hc.symm]
    rfl
  split at h
  · next hlead =>
    cases bs with
    | nil => contradiction
    | cons b₁ rest =>
      simp only [Option.bind_eq_bind, Option.bind_eq_some_iff, continuation?_eq_some_iff] at h
      obtain ⟨x, hx, h⟩ := h
      obtain ⟨c, hc, rfl, rfl⟩ := one_eq_some_iff.mp h
      refine ⟨c, rfl, ?_⟩
      rw [utf8EncodeChar_two (by omega) (by omega), ofNat_eq_of_toNat (b := b) (by omega),
        ofNat_eq_of_toNat (b := b₁) (by omega)]
      rfl
  split at h
  · next hlead =>
    split at h
    · next b₁ b₂ rest =>
      simp only [Option.bind_eq_bind, Option.bind_eq_some_iff, continuation?_eq_some_iff,
        Option.ite_none_right_eq_some] at h
      obtain ⟨x, hx, y, hy, hshort, h⟩ := h
      obtain ⟨c, hc, rfl, rfl⟩ := one_eq_some_iff.mp h
      refine ⟨c, rfl, ?_⟩
      rw [utf8EncodeChar_three (by omega) (by omega), ofNat_eq_of_toNat (b := b) (by omega),
        ofNat_eq_of_toNat (b := b₁) (by omega), ofNat_eq_of_toNat (b := b₂) (by omega)]
      rfl
    · contradiction
  split at h
  · next hlead =>
    split at h
    · next b₁ b₂ b₃ rest =>
      simp only [Option.bind_eq_bind, Option.bind_eq_some_iff, continuation?_eq_some_iff,
        Option.ite_none_right_eq_some] at h
      obtain ⟨x, hx, y, hy, z, hz, hshort, h⟩ := h
      obtain ⟨c, hc, rfl, rfl⟩ := one_eq_some_iff.mp h
      refine ⟨c, rfl, ?_⟩
      rw [utf8EncodeChar_four (by omega), ofNat_eq_of_toNat (b := b) (by omega),
        ofNat_eq_of_toNat (b := b₁) (by omega), ofNat_eq_of_toNat (b := b₂) (by omega),
        ofNat_eq_of_toNat (b := b₃) (by omega)]
      rfl
    · contradiction
  · contradiction

/-- The step of UTF-8 reads what the standard library writes. -/
theorem exact_utf8Step : Exact utf8Step String.utf8EncodeChar :=
  ⟨utf8Step_reads, utf8Step_written⟩

/-! ## UTF-16 -/

/-- The code units of a character: one up to FFFF, and from 10000 on a high surrogate with the upper
ten bits of what is above 10000, and a low one with the lower ten. -/
def utf16Units (c : Char) : List Nat :=
  if c.toNat < 0x10000 then [c.toNat]
  else [0xD800 + (c.toNat - 0x10000) / 0x400, 0xDC00 + (c.toNat - 0x10000) % 0x400]

/-- The two bytes of a code unit. -/
def unitBytes (bigEndian : Bool) (n : Nat) : List UInt8 :=
  if bigEndian then [UInt8.ofNat (n / 256), UInt8.ofNat (n % 256)]
  else [UInt8.ofNat (n % 256), UInt8.ofNat (n / 256)]

/-- The bytes of a character in UTF-16. -/
def utf16EncodeChar (bigEndian : Bool) (c : Char) : List UInt8 :=
  (utf16Units c).flatMap (unitBytes bigEndian)

variable {bigEndian : Bool}

theorem unit_unitBytes (bigEndian : Bool) {n : Nat} (h : n < 0x10000) :
    ∃ a b, unitBytes bigEndian n = [a, b] ∧ unit bigEndian a b = n := by
  have hhigh : (UInt8.ofNat (n / 256)).toNat = n / 256 := toNat_ofNat_of_lt (by omega)
  have hlow : (UInt8.ofNat (n % 256)).toNat = n % 256 := toNat_ofNat_of_lt (by omega)
  cases bigEndian with
  | false =>
      refine ⟨_, _, rfl, ?_⟩
      simp only [unit, hhigh, hlow, Bool.false_eq_true, if_false]
      omega
  | true =>
      refine ⟨_, _, rfl, ?_⟩
      simp only [unit, hhigh, hlow, if_true]
      omega

theorem unit_lt (a b : UInt8) : unit bigEndian a b < 0x10000 := by
  have ha := a.toNat_lt
  have hb := b.toNat_lt
  unfold unit
  split <;> omega

theorem unitBytes_unit (a b : UInt8) : unitBytes bigEndian (unit bigEndian a b) = [a, b] := by
  have ha := a.toNat_lt
  have hb := b.toNat_lt
  cases bigEndian with
  | false =>
      simp only [unit, unitBytes, Bool.false_eq_true, if_false]
      rw [ofNat_eq_of_toNat (b := a) (by omega), ofNat_eq_of_toNat (b := b) (by omega)]
  | true =>
      simp only [unit, unitBytes, if_true]
      rw [ofNat_eq_of_toNat (b := a) (by omega), ofNat_eq_of_toNat (b := b) (by omega)]

theorem utf16Step_reads (c : Char) (rest : List UInt8) :
    ∃ b bs, utf16EncodeChar bigEndian c = b :: bs ∧
      utf16Step bigEndian b (bs ++ rest) = some ([c], bs.length) := by
  have hrange := toNat_range c
  unfold utf16EncodeChar utf16Units
  split
  · next hone =>
    obtain ⟨a, b, hbytes, hunit⟩ := unit_unitBytes bigEndian hone
    refine ⟨a, [b], by simpa using hbytes, ?_⟩
    simp only [utf16Step, List.cons_append, List.nil_append, hunit]
    rw [if_neg (by omega), one_toNat]
    rfl
  · next htwo =>
    obtain ⟨a, b, hbytes, hunit⟩ := unit_unitBytes bigEndian
      (n := 0xD800 + (c.toNat - 0x10000) / 0x400) (by omega)
    obtain ⟨a', b', hbytes', hunit'⟩ := unit_unitBytes bigEndian
      (n := 0xDC00 + (c.toNat - 0x10000) % 0x400) (by omega)
    have hcode : 0x10000 + (0xD800 + (c.toNat - 0x10000) / 0x400 - 0xD800) * 0x400 +
      (0xDC00 + (c.toNat - 0x10000) % 0x400 - 0xDC00) = c.toNat := by omega
    refine ⟨a, [b, a', b'], by simp [hbytes, hbytes'], ?_⟩
    simp only [utf16Step, List.cons_append, List.nil_append, hunit, hunit']
    rw [if_pos (by omega), if_pos (by omega), hcode, one_toNat]
    rfl

theorem utf16Step_written {b : UInt8} {bs : List UInt8} {cs : List Char} {k : Nat}
    (h : utf16Step bigEndian b bs = some (cs, k)) :
    ∃ c, cs = [c] ∧ b :: bs = utf16EncodeChar bigEndian c ++ bs.drop k := by
  unfold utf16Step at h
  split at h
  · contradiction
  · next b' r =>
    dsimp only at h
    split at h
    · next hhigh =>
      split at h
      · next a₂ b₂ rest =>
        rw [Option.ite_none_right_eq_some] at h
        obtain ⟨hlow, h⟩ := h
        obtain ⟨c, hc, rfl, rfl⟩ := one_eq_some_iff.mp h
        have hfirst : 0xD800 + (c.toNat - 0x10000) / 0x400 = unit bigEndian b b' := by omega
        have hsecond : 0xDC00 + (c.toNat - 0x10000) % 0x400 = unit bigEndian a₂ b₂ := by omega
        refine ⟨c, rfl, ?_⟩
        rw [utf16EncodeChar, utf16Units, if_neg (by omega), hfirst, hsecond]
        simp [unitBytes_unit]
      · contradiction
    · next hplain =>
      obtain ⟨c, hc, rfl, rfl⟩ := one_eq_some_iff.mp h
      have hlt : unit bigEndian b b' < 0x10000 := unit_lt b b'
      refine ⟨c, rfl, ?_⟩
      rw [utf16EncodeChar, utf16Units, if_pos (by omega), hc]
      simp [unitBytes_unit]

/-- The step of UTF-16 reads single units and pairs of surrogates. -/
theorem exact_utf16Step : Exact (utf16Step bigEndian) (utf16EncodeChar bigEndian) :=
  ⟨utf16Step_reads, utf16Step_written⟩

end Charset

end TreeSift
