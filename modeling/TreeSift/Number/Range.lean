/-!
# TreeSift.Number.Range

The whole numbers that fit 64 bits.

1. With a sign 64 bits hold the numbers from `-0x8000000000000000` up to `0x7FFFFFFFFFFFFFFF`.
2. Documents write numbers of both kinds, with and without a sign, so theirs go on up to
   `0xFFFFFFFFFFFFFFFF`.
-/

namespace TreeSift

namespace Number

/-- Whether 64 bits with a sign hold a number. -/
abbrev IsSigned64 (n : Int) : Prop := -0x8000000000000000 ≤ n ∧ n ≤ 0x7FFFFFFFFFFFFFFF

/-- Whether 64 bits hold a number, be it with a sign or without one. -/
abbrev IsEither64 (n : Int) : Prop := -0x8000000000000000 ≤ n ∧ n ≤ 0xFFFFFFFFFFFFFFFF

/-- Every `Int64` is in range. -/
theorem isSigned64_toInt (n : Int64) : IsSigned64 n.toInt :=
  ⟨Int64.le_toInt n, Int64.toInt_le n⟩

/-- A number in range goes through `Int64` unchanged. -/
theorem toInt_ofInt_of_isSigned64 {n : Int} (h : IsSigned64 n) : (Int64.ofInt n).toInt = n :=
  Int64.toInt_ofInt_of_le h.1 (Int.lt_add_one_of_le h.2)

end Number

end TreeSift
