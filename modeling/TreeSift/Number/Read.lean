import TreeSift.Number.Binary64

/-!
# TreeSift.Number.Read

Reading decimal numbers exactly.

1. A number is an optional sign, digits with an optional point among them or at either end, and an
   optional exponent; at least one digit stands before the exponent.
2. `inf`, `infinity` and `nan` in any case are numbers too, with an optional sign.
3. The result is the double nearest to the written value, however long the text.
-/

namespace TreeSift

namespace Number

/-- The value of a run of decimal digits. -/
def digitsValue (ds : List Char) : Nat :=
  ds.foldl (fun n c => n * 10 + (c.toNat - '0'.toNat)) 0

/-- The exponent part: a sign and digits, or nothing at all. -/
def readExponent? : List Char → Option Int
  | [] => some 0
  | c :: cs =>
    if c = 'e' ∨ c = 'E' then
      let (neg, ds) := match cs with
        | '-' :: ds => (true, ds)
        | '+' :: ds => (false, ds)
        | ds => (false, ds)
      if ds.isEmpty || !ds.all Char.isDigit then none
      else some (if neg then -(digitsValue ds : Int) else digitsValue ds)
    else none

/-- A number without its sign. -/
def readUnsigned? (negative : Bool) (cs : List Char) : Option Binary64 :=
  let lower := String.ofList (cs.map Char.toLower)
  if lower = "inf" ∨ lower = "infinity" then some (Binary64.infinity negative)
  else if lower = "nan" then some .nan
  else
    let whole := cs.takeWhile Char.isDigit
    let rest := cs.dropWhile Char.isDigit
    let (fraction, rest) := match rest with
      | '.' :: r => (r.takeWhile Char.isDigit, r.dropWhile Char.isDigit)
      | r => ([], r)
    if whole.isEmpty && fraction.isEmpty then none
    else (readExponent? rest).map fun e =>
      Binary64.ofDecimal negative (digitsValue (whole ++ fraction)) (e - fraction.length)

/-- The double a text denotes. -/
def read? (cs : List Char) : Option Binary64 :=
  match cs with
  | '-' :: r => readUnsigned? true r
  | '+' :: r => readUnsigned? false r
  | r => readUnsigned? false r

/-- The integer a run of digits with an optional sign denotes. -/
def readInt? (cs : List Char) : Option Int :=
  let digits? := fun (ds : List Char) =>
    if ds.isEmpty || !ds.all Char.isDigit then none else some (digitsValue ds)
  match cs with
  | '-' :: r => (digits? r).map fun n => -(n : Int)
  | '+' :: r => (digits? r).map fun n => (n : Int)
  | r => (digits? r).map fun n => (n : Int)

/-- Digits of a base up to sixteen, without a sign. -/
def readBase? (base : Nat) (ds : List Char) : Option Nat :=
  if ds.isEmpty then none
  else ds.foldlM (fun n c =>
    let d? := if '0' ≤ c ∧ c ≤ '9' then some (c.toNat - '0'.toNat)
      else if 'a' ≤ c ∧ c ≤ 'f' then some (c.toNat - 'a'.toNat + 10)
      else if 'A' ≤ c ∧ c ≤ 'F' then some (c.toNat - 'A'.toNat + 10)
      else none
    match d? with
    | some d => if d < base then some (n * base + d) else none
    | none => none) 0

end Number

end TreeSift
