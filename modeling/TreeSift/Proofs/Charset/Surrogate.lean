import Mathlib.Order.Nat
import TreeSift.Proofs.Charset.Malformed

/-!
# TreeSift.Proofs.Charset.Surrogate

Where bytes cease to be UTF-16.

1. A code unit is *unpaired* if it is a surrogate whose other half is not next to it.  This can be
   told from its two neighbours: no unit is both a high and a low surrogate, so pairs do not
   overlap.
2. The *stray* places of some bytes are those of the unpaired units, and that of a last byte that
   has no second one.  A text in front has none and moves all others by its length
   (`mem_strayPlaces_append`), and the step fails exactly on bytes with a stray place at their start
   (`utf16Step_eq_none_iff`).
3. So the step fails if there is a stray place, and then at the first one.  A decoder that is one
   unit behind is led back to it by its counts.
-/

namespace TreeSift

namespace Charset

/-! ## code units -/

/-- The code units of bytes, without an odd byte at the end. -/
def codeUnits (bigEndian : Bool) : List UInt8 → List Nat
  | a :: b :: r => unit bigEndian a b :: codeUnits bigEndian r
  | _ => []

/-- A surrogate that is the first half of a pair. -/
def IsHigh (n : Nat) : Prop := 0xD800 ≤ n ∧ n ≤ 0xDBFF

/-- A surrogate that is the second half of a pair. -/
def IsLow (n : Nat) : Prop := 0xDC00 ≤ n ∧ n ≤ 0xDFFF

/-- The unit in that place is a high surrogate with no low one after it, or a low surrogate with no
high one before it. -/
def Unpaired (us : List Nat) (i : Nat) : Prop :=
  ∃ n, us[i]? = some n ∧
    (IsHigh n ∧ (∀ m, us[i + 1]? = some m → ¬ IsLow m) ∨
      IsLow n ∧ ∀ j, j + 1 = i → ∀ m, us[j]? = some m → ¬ IsHigh m)

/-- The places, in bytes, of the unpaired code units, and that of an odd byte at the end. -/
def strayPlaces (bigEndian : Bool) (bytes : List UInt8) : Set Nat :=
  {k | (∃ i, Unpaired (codeUnits bigEndian bytes) i ∧ k = 2 * i) ∨
    bytes.length % 2 = 1 ∧ k + 1 = bytes.length}

section
variable {n m i : Nat} {us : List Nat}

theorem IsHigh.not_isLow (h : IsHigh n) : ¬ IsLow n := by
  unfold IsHigh at h
  unfold IsLow
  omega

theorem IsLow.not_isHigh (h : IsLow n) : ¬ IsHigh n := fun hhigh => hhigh.not_isLow h

theorem unpaired_cons_zero :
    Unpaired (n :: us) 0 ↔ IsHigh n ∧ (∀ m, us[0]? = some m → ¬ IsLow m) ∨ IsLow n := by
  simp [Unpaired]

/-- Only to the unit right after it does a unit in front matter, and only a high surrogate. -/
theorem unpaired_cons_succ (h : IsHigh n → i ≠ 0) :
    Unpaired (n :: us) (i + 1) ↔ Unpaired us i := by
  have hbefore : (∀ j, j + 1 = i + 1 → ∀ m, (n :: us)[j]? = some m → ¬ IsHigh m) ↔
      ∀ j, j + 1 = i → ∀ m, us[j]? = some m → ¬ IsHigh m := by
    cases i with
    | zero =>
        have hn : ¬ IsHigh n := fun hn => h hn rfl
        simp [hn]
    | succ i => simp
  simp only [Unpaired, List.getElem?_cons_succ, hbefore]

/-- The units of a character are not unpaired, and make no other so. -/
theorem unpaired_units_append (c : Char) :
    Unpaired (utf16Units c ++ us) i ↔ ∃ j, i = j + (utf16Units c).length ∧ Unpaired us j := by
  have hrange := toNat_range c
  unfold utf16Units
  split
  · next hone =>
    have hhigh : ¬ IsHigh c.toNat := by
      unfold IsHigh
      omega
    have hlow : ¬ IsLow c.toNat := by
      unfold IsLow
      omega
    rw [List.singleton_append, List.length_singleton]
    match i with
    | 0 => simp [unpaired_cons_zero, hhigh, hlow]
    | i + 1 => simp [unpaired_cons_succ, hhigh]
  · next htwo =>
    have hhigh : IsHigh (0xD800 + (c.toNat - 0x10000) / 0x400) := by
      unfold IsHigh
      omega
    have hlow : IsLow (0xDC00 + (c.toNat - 0x10000) % 0x400) := by
      unfold IsLow
      omega
    generalize 0xD800 + (c.toNat - 0x10000) / 0x400 = n at hhigh
    generalize 0xDC00 + (c.toNat - 0x10000) % 0x400 = m at hlow
    rw [List.cons_append, List.singleton_append, List.length_cons, List.length_singleton]
    match i with
    | 0 => simp [unpaired_cons_zero, hhigh.not_isLow, hlow]
    | 1 =>
        have hpaired : ¬ Unpaired (n :: m :: us) 1 := by
          simp [Unpaired, hlow.not_isHigh, hhigh]
        simp only [hpaired, false_iff]
        omega
    | i + 2 => simp [unpaired_cons_succ, hlow.not_isHigh]

end

variable {bigEndian : Bool}

theorem length_unitBytes (n : Nat) : (unitBytes bigEndian n).length = 2 := by
  cases bigEndian <;> rfl

theorem length_utf16EncodeChar (c : Char) :
    (utf16EncodeChar bigEndian c).length = 2 * (utf16Units c).length := by
  rw [utf16EncodeChar, List.length_flatMap, List.map_congr_left fun n _ => length_unitBytes n,
    List.map_const', List.sum_replicate_nat, Nat.mul_comm]

theorem lt_of_mem_utf16Units {c : Char} {n : Nat} (h : n ∈ utf16Units c) : n < 0x10000 := by
  have hrange := toNat_range c
  unfold utf16Units at h
  split at h
  · next hone =>
    obtain rfl := List.mem_singleton.mp h
    exact hone
  · simp only [List.mem_cons, List.not_mem_nil, or_false] at h
    omega

theorem codeUnits_flatMap_append {us : List Nat} (h : ∀ n ∈ us, n < 0x10000)
    (rest : List UInt8) : codeUnits bigEndian (us.flatMap (unitBytes bigEndian) ++ rest) =
      us ++ codeUnits bigEndian rest := by
  induction us with
  | nil => rfl
  | cons n us ih =>
      obtain ⟨hn, hus⟩ := List.forall_mem_cons.mp h
      obtain ⟨a, b, hbytes, hunit⟩ := unit_unitBytes bigEndian hn
      rw [List.flatMap_cons, hbytes, List.append_assoc, List.cons_append, List.singleton_append,
        codeUnits, hunit, ih hus, List.cons_append]

/-! ## stray places -/

/-- A character in front has no stray place, and moves those after it by its length. -/
theorem mem_strayPlaces_char (c : Char) (rest : List UInt8) {k : Nat} :
    k ∈ strayPlaces bigEndian (utf16EncodeChar bigEndian c ++ rest) ↔
      ∃ j ∈ strayPlaces bigEndian rest, k = (utf16EncodeChar bigEndian c).length + j := by
  have hunits : codeUnits bigEndian (utf16EncodeChar bigEndian c ++ rest) =
      utf16Units c ++ codeUnits bigEndian rest :=
    codeUnits_flatMap_append (fun n hn => lt_of_mem_utf16Units hn) rest
  simp only [strayPlaces, Set.mem_ofPred_eq, hunits, unpaired_units_append, List.length_append,
    length_utf16EncodeChar]
  constructor
  · rintro (⟨i, ⟨j, rfl, hj⟩, rfl⟩ | ⟨hodd, hk⟩)
    · exact ⟨2 * j, .inl ⟨j, hj, rfl⟩, by omega⟩
    · exact ⟨rest.length - 1, .inr (by omega), by omega⟩
  · rintro ⟨j, ⟨i, hi, rfl⟩ | ⟨hodd, hj⟩, rfl⟩
    · exact .inl ⟨_, ⟨i, rfl, hi⟩, by omega⟩
    · exact .inr (by omega)

/-- The same for a text in front. -/
theorem mem_strayPlaces_append (text : List Char) (rest : List UInt8) {k : Nat} :
    k ∈ strayPlaces bigEndian (text.flatMap (utf16EncodeChar bigEndian) ++ rest) ↔
      ∃ j ∈ strayPlaces bigEndian rest,
        k = (text.flatMap (utf16EncodeChar bigEndian)).length + j := by
  induction text generalizing k with
  | nil => simp
  | cons c text ih =>
      rw [List.flatMap_cons, List.append_assoc, mem_strayPlaces_char, List.length_append]
      constructor
      · rintro ⟨j, hj, rfl⟩
        obtain ⟨i, hi, rfl⟩ := ih.mp hj
        exact ⟨i, hi, by omega⟩
      · rintro ⟨j, hj, rfl⟩
        exact ⟨_, ih.mpr ⟨j, hj, rfl⟩, by omega⟩

theorem one_eq_none_iff {n taken : Nat} (h : n < 0x110000) :
    one n taken = none ↔ IsHigh n ∨ IsLow n := by
  unfold one CharSet.scalar? IsHigh IsLow
  rw [Option.map_eq_none_iff]
  split
  · next hvalid =>
    have hvalid : n < 0xD800 ∨ 0xDFFF < n ∧ n < 0x110000 := hvalid
    simp only [reduceCtorEq, false_iff]
    omega
  · next hvalid =>
    have hvalid : ¬ (n < 0xD800 ∨ 0xDFFF < n ∧ n < 0x110000) := hvalid
    simp only [true_iff]
    omega

/-- A pair is a character. -/
theorem one_pair_ne_none {n m taken : Nat} (hn : IsHigh n) (hm : IsLow m) :
    one (0x10000 + (n - 0xD800) * 0x400 + (m - 0xDC00)) taken ≠ none := by
  unfold IsHigh at hn
  unfold IsLow at hm
  rw [ne_eq, one_eq_none_iff (by omega), IsHigh, IsLow]
  omega

theorem codeUnits_eq_nil {bytes : List UInt8} (h : ∀ a b r, bytes ≠ a :: b :: r) :
    codeUnits bigEndian bytes = [] := by
  unfold codeUnits
  split
  · next a b r => exact absurd rfl (h a b r)
  · rfl

/-- Of two bytes at least, the place in front is stray only if their unit is unpaired. -/
theorem zero_mem_strayPlaces_iff {a b : UInt8} {r : List UInt8} :
    0 ∈ strayPlaces bigEndian (a :: b :: r) ↔
      Unpaired (unit bigEndian a b :: codeUnits bigEndian r) 0 := by
  simp only [strayPlaces, Set.mem_ofPred_eq, codeUnits, List.length_cons]
  grind

/-- The step fails where there is an unpaired unit, or only half a unit. -/
theorem utf16Step_eq_none_iff {b : UInt8} {bs : List UInt8} :
    utf16Step bigEndian b bs = none ↔ 0 ∈ strayPlaces bigEndian (b :: bs) := by
  unfold utf16Step
  cases bs with
  | nil => simp [strayPlaces]
  | cons b' r =>
      have hlt : unit bigEndian b b' < 0x10000 := unit_lt b b'
      rw [zero_mem_strayPlaces_iff, unpaired_cons_zero]
      dsimp only
      split
      · next hhigh =>
        have hhigh : IsHigh (unit bigEndian b b') := hhigh
        split
        · next c d rest =>
          split
          · next hlow =>
            have hlow : IsLow (unit bigEndian c d) := hlow
            simp [one_pair_ne_none hhigh hlow, hhigh, hhigh.not_isLow, codeUnits, hlow]
          · next hlow =>
            have hlow : ¬ IsLow (unit bigEndian c d) := hlow
            simp [hhigh, codeUnits, hlow]
        · next hshort =>
          have hnone : codeUnits bigEndian r = [] :=
            codeUnits_eq_nil fun c d rest hr => hshort c d rest hr
          simp [hhigh, hnone]
      · next hhigh =>
        have hhigh : ¬ IsHigh (unit bigEndian b b') := hhigh
        simp [one_eq_none_iff (show unit bigEndian b b' < 0x110000 by omega), hhigh]

/-! ## decoding -/

/-- A text has no stray places. -/
theorem strayPlaces_encode (text : List Char) :
    strayPlaces bigEndian (text.flatMap (utf16EncodeChar bigEndian)) = ∅ := by
  refine Set.eq_empty_iff_forall_notMem.mpr fun k hk => ?_
  rw [← List.append_nil (text.flatMap _), mem_strayPlaces_append] at hk
  obtain ⟨j, hj, -⟩ := hk
  simp [strayPlaces, codeUnits, Unpaired] at hj

/-- The step fails at the first stray place. -/
theorem isLeast_of_stuckAt? {n : Nat} {bytes : List UInt8}
    (h : stuckAt? (utf16Step bigEndian) bytes = some n) :
    IsLeast (strayPlaces bigEndian bytes) n := by
  obtain ⟨text, b, bs, rfl, hstep, rfl⟩ := exact_utf16Step.exists_of_stuckAt? h
  refine ⟨mem_strayPlaces_append _ _ |>.mpr ⟨0, utf16Step_eq_none_iff.mp hstep, rfl⟩, ?_⟩
  intro k hk
  obtain ⟨j, -, rfl⟩ := (mem_strayPlaces_append _ _).mp hk
  omega

/-- There is a stray place if a byte is left over or a surrogate is unpaired. -/
theorem strayPlaces_nonempty_iff {bytes : List UInt8} :
    (strayPlaces bigEndian bytes).Nonempty ↔
      bytes.length % 2 = 1 ∨ ∃ i, Unpaired (codeUnits bigEndian bytes) i := by
  constructor
  · rintro ⟨k, ⟨i, hi, -⟩ | ⟨hodd, -⟩⟩
    · exact .inr ⟨i, hi⟩
    · exact .inl hodd
  · rintro (hodd | ⟨i, hi⟩)
    · exact ⟨bytes.length - 1, .inr ⟨hodd, by omega⟩⟩
    · exact ⟨2 * i, .inl ⟨i, hi, rfl⟩⟩

/-- **Malformed UTF-16 is reported at its first stray place.**  Let bytes be read as UTF-16, because
they start with its mark or because the label says so and they have no mark.  They fail to be
decoded exactly if an odd number of bytes comes after the mark, or a surrogate among their code
units is unpaired.  The error is at the first unpaired one, or if there is none, at the last byte:
as many bytes as the decoder has taken in, less the malformed ones and those after them, of which
there are not more. -/
theorem decode_unpaired_located {bytes mark rest : List UInt8} {label : Option String}
    (hb : bytes = mark ++ rest)
    (h : mark = (UnicodeForm.utf16 bigEndian).mark ∧ (labelled? label).isSome = true ∨
      mark = [] ∧ labelled? label = some (.utf16 bigEndian) ∧
        ∀ g : UnicodeForm, ¬ g.mark <+: bytes) :
    ((∃ e, decode bytes label = .error e) ↔
      rest.length % 2 = 1 ∨ ∃ i, Unpaired (codeUnits bigEndian rest) i) ∧
    ∀ e, decode bytes label = .error e → ∃ n fault,
      Reports e (mark.length + n) (if bigEndian then "UTF-16BE" else "UTF-16LE") ∧
        IsLeast (strayPlaces bigEndian rest) n ∧
        (Encoding.utf16 bigEndian).fault? rest = some fault ∧
        n + fault.bad + fault.after = fault.read := by
  have hname : (Encoding.utf16 bigEndian).name = if bigEndian then "UTF-16BE" else "UTF-16LE" := by
    cases bigEndian <;> rfl
  have hplace (e : FilterError) (he : decode bytes label = .error e) : ∃ n fault,
      Reports e (mark.length + n) (if bigEndian then "UTF-16BE" else "UTF-16LE") ∧
        IsLeast (strayPlaces bigEndian rest) n ∧
        (Encoding.utf16 bigEndian).fault? rest = some fault ∧
        n + fault.bad + fault.after = fault.read := by
    rw [UnicodeForm.decode_eq_readAfter (f := .utf16 bigEndian) hb h] at he
    obtain ⟨n, fault, hreports, hn, hfault, hread⟩ := UnicodeForm.exists_fault_of_readAfter he
    exact ⟨n, fault, hname ▸ hreports, isLeast_of_stuckAt? hn, hfault, hread⟩
  refine ⟨?_, hplace⟩
  rw [← strayPlaces_nonempty_iff]
  constructor
  · rintro ⟨e, he⟩
    obtain ⟨n, -, -, hn, -⟩ := hplace e he
    exact hn.nonempty
  · intro hne
    rw [UnicodeForm.decode_eq_readAfter (f := .utf16 bigEndian) hb h,
      UnicodeForm.exists_readAfter_eq_error_iff]
    rintro ⟨text, rfl⟩
    exact hne.ne_empty (strayPlaces_encode text)

/-- A pair and then half of another one before a letter, after a mark; and half a letter at the end,
under a label. -/
theorem decode_unpaired_located_halves :
    (labelled? none = some .utf8 ∧
      ∃ e, decode [0xFE, 0xFF, 0xD8, 0x3D, 0xDE, 0x00, 0xD8, 0x3D, 0x00, 0x7A, 0x00] none =
          .error e ∧
        Reports e 6 "UTF-16BE" ∧
        IsLeast (strayPlaces true [0xD8, 0x3D, 0xDE, 0x00, 0xD8, 0x3D, 0x00, 0x7A, 0x00]) 4 ∧
        (Encoding.utf16 true).fault? [0xD8, 0x3D, 0xDE, 0x00, 0xD8, 0x3D, 0x00, 0x7A, 0x00] =
          some ⟨8, 2, 2⟩) ∧
    labelled? (some " UTF-16") = some (.utf16 false) ∧
    (∀ g : UnicodeForm, ¬ g.mark <+: [0x61, 0x00, 0x62]) ∧
    ∃ e, decode [0x61, 0x00, 0x62] (some " UTF-16") = .error e ∧ Reports e 2 "UTF-16LE" ∧
      IsLeast (strayPlaces false [0x61, 0x00, 0x62]) 2 ∧
      (Encoding.utf16 false).fault? [0x61, 0x00, 0x62] = some ⟨3, 1, 0⟩ := by
  have hutf8 : labelled? none = some .utf8 :=
    (UnicodeForm.ofLabel?_eq_some_iff (f := .utf8)).mpr (by decide)
  have hlittle : labelled? (some " UTF-16") = some (.utf16 false) :=
    (UnicodeForm.ofLabel?_eq_some_iff (f := .utf16 false)).mpr (by decide)
  have hmark : ∀ g : UnicodeForm, ¬ g.mark <+: [0x61, 0x00, 0x62] := by
    intro g
    obtain _ | (_ | _) := g <;> decide
  have hfault : (Encoding.utf16 true).fault?
      [0xD8, 0x3D, 0xDE, 0x00, 0xD8, 0x3D, 0x00, 0x7A, 0x00] = some ⟨8, 2, 2⟩ := by
    decide +kernel
  have hfault' : (Encoding.utf16 false).fault? [0x61, 0x00, 0x62] = some ⟨3, 1, 0⟩ := by
    decide +kernel
  have hlabel : (labelled? none).isSome = true := by simp [hutf8]
  have hb : [0xFE, 0xFF, 0xD8, 0x3D, 0xDE, 0x00, 0xD8, 0x3D, 0x00, 0x7A, 0x00] =
      (UnicodeForm.utf16 true).mark ++ [0xD8, 0x3D, 0xDE, 0x00, 0xD8, 0x3D, 0x00, 0x7A, 0x00] := rfl
  have hb' : ([0x61, 0x00, 0x62] : List UInt8) = [] ++ [0x61, 0x00, 0x62] := rfl
  obtain ⟨hfails, hplace⟩ := decode_unpaired_located hb (.inl ⟨rfl, hlabel⟩)
  obtain ⟨hfails', hplace'⟩ := decode_unpaired_located hb' (.inr ⟨rfl, hlittle, hmark⟩)
  obtain ⟨e, he⟩ := hfails.mpr (.inl rfl)
  obtain ⟨e', he'⟩ := hfails'.mpr (.inl rfl)
  obtain ⟨n, fault, hreports, hn, hread, hcounts⟩ := hplace e he
  obtain ⟨k, fault', hreports', hk, hread', hcounts'⟩ := hplace' e' he'
  obtain rfl : (⟨8, 2, 2⟩ : Fault) = fault := Option.some.inj (hfault.symm.trans hread)
  obtain rfl : (⟨3, 1, 0⟩ : Fault) = fault' := Option.some.inj (hfault'.symm.trans hread')
  obtain rfl : n = 4 := by simpa using hcounts
  obtain rfl : k = 2 := by simpa using hcounts'
  exact ⟨⟨hutf8, e, he, hreports, hn, hfault⟩, hlittle, hmark, e', he', hreports', hk, hfault'⟩

end Charset

end TreeSift
