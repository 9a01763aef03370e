import TreeSift.Charset.Step

/-!
# TreeSift.Charset.Lossy

UTF-8 text of which malformed parts are replaced.

Every longest run of bytes that starts a character but does not complete it counts as one
replacement character, and so does every byte that starts none.  A mark at the start is dropped.
-/

namespace TreeSift

namespace Charset

/-- The character that stands for malformed bytes. -/
def replacement : Char := '\ufffd'

/-- The bytes that may come second in a character that starts with the given byte. -/
def secondRange (b : UInt8) : Nat × Nat :=
  if b = 0xE0 then (0xA0, 0xBF)
  else if b = 0xED then (0x80, 0x9F)
  else if b = 0xF0 then (0x90, 0xBF)
  else if b = 0xF4 then (0x80, 0x8F)
  else (0x80, 0xBF)

/-- Whether a byte may come second after the given one. -/
def goesOn (b c : UInt8) : Bool :=
  let (lo, hi) := secondRange b
  decide (lo ≤ c.toNat) && decide (c.toNat ≤ hi)

/-- How many bytes after a byte that starts no complete character still belong to it. -/
def incomplete (b : UInt8) (bs : List UInt8) : Nat :=
  if 0xE0 ≤ b ∧ b ≤ 0xF4 then
    match bs with
    | c :: r =>
      if !goesOn b c then 0
      else if b < 0xF0 then 1
      else if ((r.head?.bind continuation?).isSome) then 2
      else 1
    | [] => 0
  else 0

/-- A character of UTF-8, or its replacement. -/
def lossyStep (b : UInt8) (bs : List UInt8) : List Char × Nat :=
  match utf8Step b bs with
  | some r => r
  | none => ([replacement], incomplete b bs)

/-- The text of bytes, malformed parts being replaced. -/
def replaceMalformed : List UInt8 → List Char
  | [] => []
  | b :: bs =>
    let (cs, k) := lossyStep b bs
    cs ++ replaceMalformed (bs.drop k)
termination_by bs => bs.length
decreasing_by
  simp only [List.length_drop, List.length_cons]
  omega

/-- The text of a file that is taken to be UTF-8, whatever it holds. -/
def readLossy (bytes : List UInt8) : List Char :=
  match bytes with
  | 0xEF :: 0xBB :: 0xBF :: r => replaceMalformed r
  | r => replaceMalformed r

end Charset

end TreeSift
