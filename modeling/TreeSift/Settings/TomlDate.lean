import TreeSift.Number.Read
import TreeSift.Time.Calendar
import TreeSift.Time.Moment

/-!
# TreeSift.Settings.TomlDate

Dates and times that are written without quotes in TOML settings.

1. A date, a time of day, both, or both with an offset; between date and time there is a `T` or a
   blank.
2. They are kept as text in one form: `T` between date and time, nine digits of a fraction at most
   and no zeros at its end, and an offset that has a sign or is `Z`.
-/

namespace TreeSift

namespace TomlDate

/-- So many digits. -/
def digits? (width : Nat) (cs : List Char) : Option (Nat × List Char) :=
  let ds := cs.take width
  if ds.length = width ∧ ds.all Char.isDigit then some (Number.digitsValue ds, cs.drop width)
  else none

/-- The text after a character. -/
def after? (c : Char) : List Char → Option (List Char)
  | x :: r => if x = c then some r else none
  | [] => none

/-- A date of the calendar. -/
def date? (cs : List Char) : Option (List Char × List Char) := do
  let (year, r) ← digits? 4 cs
  let (month, r) ← digits? 2 (← after? '-' r)
  let (day, r) ← digits? 2 (← after? '-' r)
  if !Calendar.isValid year month day then none
  some (cs.take 10, r)

/-- The fraction of a second. -/
def fraction? (cs : List Char) : Option (List Char × List Char) :=
  match cs with
  | '.' :: r =>
    let ds := r.takeWhile Char.isDigit
    if ds.isEmpty then none
    else
      let kept := ((ds.take 9).reverse.dropWhile (· == '0')).reverse
      some (if kept.isEmpty then [] else '.' :: kept, r.drop ds.length)
  | r => some ([], r)

/-- A time of day. -/
def time? (cs : List Char) : Option (List Char × List Char) := do
  let (hour, r) ← digits? 2 cs
  let (minute, r) ← digits? 2 (← after? ':' r)
  let (second, r) ← digits? 2 (← after? ':' r)
  if 23 < hour || 59 < minute || 60 < second then none
  let (fraction, r) ← fraction? r
  some (cs.take 8 ++ fraction, r)

/-- An offset; there need not be one. -/
def offset? (cs : List Char) : Option (List Char × List Char) :=
  let signed := fun (sign : Char) (r : List Char) => do
    let (hour, r) ← digits? 2 r
    let (minute, r) ← digits? 2 (← after? ':' r)
    if 23 < hour || 59 < minute then none
    let sign := if hour = 0 ∧ minute = 0 then '+' else sign
    some (sign :: (Moment.padded 2 hour ++ ':' :: Moment.padded 2 minute), r)
  match cs with
  | 'Z' :: r => some (['Z'], r)
  | 'z' :: r => some (['Z'], r)
  | '+' :: r => signed '+' r
  | '-' :: r => signed '-' r
  | r => some ([], r)

/-- A date or time at the start of a text, in its one form. -/
def read? (cs : List Char) : Option (List Char × List Char) :=
  match date? cs with
  | none => time? cs
  | some (date, r) =>
    let timed := fun (r : List Char) => do
      let (time, r) ← time? r
      let (offset, r) ← offset? r
      some (date ++ 'T' :: (time ++ offset), r)
    match r with
    | 'T' :: r => timed r
    | 't' :: r => timed r
    | ' ' :: d :: r' => if d.isDigit then timed (d :: r') else some (date, ' ' :: d :: r')
    | r => some (date, r)

end TomlDate

end TreeSift
