import TreeSift.Text.CharClass
import TreeSift.Time.Component

/-!
# TreeSift.Time.Reading

The date forms that need no description.

1. A *zoned* form has its own offset: RFC 3339, with any one ASCII character between date and time;
   the same with an offset without colon; and `Thu Aug 07 2013 16:32:59 GMT+0200`, whose weekday may
   be any three letters and which may go on with a blank and anything in parentheses.
2. A *local* form has none and is taken in UTC: a date, a date with a time of day down to minutes,
   seconds or a fraction, each with an optional `Z` at the end.
3. RFC 3339 alone knows leap seconds.  One may stand only where the last second of a month in UTC
   is, and is read as the nanosecond before the next month.
-/

namespace TreeSift

namespace Moment

/-- A component with zeros in front of its number. -/
def plainDate : List DateItem :=
  [.component (.year .zero .full false false), .literal ['-'],
    .component (.month .zero .number true), .literal ['-'], .component (.day .zero)]

/-- Hours and minutes. -/
def hourMinute : List DateItem :=
  [.component (.hour .zero false), .literal [':'], .component (.minute .zero)]

/-- `[year]-[month]-[day]T[hour]:[minute]:[second][offset_hour sign:mandatory][offset_minute]` -/
def compactOffset : List DateItem :=
  plainDate ++ .literal ['T'] :: hourMinute ++ [.literal [':'], .component (.second .zero),
    .component (.offsetHour true .zero), .component (.offsetMinute .zero)]

/-- `[month repr:short] [day] [year] [hour]:[minute]:[second] GMT[offset_hour sign:mandatory]` and
`[offset_minute]`. -/
def mailOrder : List DateItem :=
  [.component (.month .zero .short true), .literal [' '], .component (.day .zero), .literal [' '],
    .component (.year .zero .full false false), .literal [' ']] ++ hourMinute ++
    [.literal [':'], .component (.second .zero), .literal [' ', 'G', 'M', 'T'],
      .component (.offsetHour true .zero), .component (.offsetMinute .zero)]

/-- Date and time to a fraction of a second, to seconds, and to minutes. -/
def localForms : List (List DateItem) :=
  [plainDate ++ .literal ['T'] :: hourMinute ++ [.literal [':'], .component (.second .zero),
      .literal ['.'], .component (.subsecond none)],
    plainDate ++ .literal ['T'] :: hourMinute ++ [.literal [':'], .component (.second .zero)],
    plainDate ++ .literal ['T'] :: hourMinute]

/-! ## RFC 3339 -/

/-- The text after a given character. -/
def after? (c : Char) : List Char → Option (List Char)
  | x :: r => if x = c then some r else none
  | [] => none

/-- The text after one ASCII character of any kind. -/
def afterAny? : List Char → Option (List Char)
  | x :: r => if x.toNat < 128 then some r else none
  | [] => none

/-- An offset at the end of the text, in seconds: `Z` in either case, or sign, hours and minutes. -/
def offsetAtEnd? (cs : List Char) : Option Int :=
  match cs with
  | ['Z'] => some 0
  | ['z'] => some 0
  | _ => do
    let (neg, r) ← Component.sign? cs
    let (h, r) ← Component.digits? 2 2 r
    let r ← after? ':' r
    let (m, r) ← Component.digits? 2 2 r
    if h ≤ 23 ∧ m ≤ 59 ∧ r.isEmpty then
      let total : Int := h * 3600 + m * 60
      some (if neg then -total else total)
    else none

/-- A fraction of a second, if a point comes next. -/
def fraction? (cs : List Char) : Option (Nat × List Char) :=
  match cs with
  | '.' :: r =>
    let ds := r.takeWhile Char.isDigit
    if ds.isEmpty then none else some (Component.nanosOf ds, r.drop ds.length)
  | _ => some (0, cs)

/-- Whether the moment is the last nanosecond of a month in UTC. -/
def endsMonth (m : Moment) : Bool :=
  let utc : Moment := ⟨m.nanos, 0⟩
  let (year, month, day) := Calendar.civil utc.localDay
  utc.fraction == 999999999 && utc.secondOfDay == 86399 && day == Calendar.monthLength year month

/-- The moment of an RFC 3339 text. -/
def ofRfc3339? (cs : List Char) : Option Moment := do
  let (year, r) ← Component.digits? 4 4 cs
  let (month, r) ← Component.digits? 2 2 (← after? '-' r)
  let (day, r) ← Component.digits? 2 2 (← after? '-' r)
  let (hour, r) ← Component.digits? 2 2 (← afterAny? r)
  let (minute, r) ← Component.digits? 2 2 (← after? ':' r)
  let (second, r) ← Component.digits? 2 2 (← after? ':' r)
  let (nano, r) ← fraction? r
  let offset ← offsetAtEnd? r
  if !Calendar.isValid year month day || 23 < hour || 59 < minute then none
  else
    let date := Calendar.dayNumber year month day
    if second = 60 then
      let m := ofLocal date hour minute 59 999999999 offset
      if m.endsMonth then some m else none
    else if 59 < second then none
    else some (ofLocal date hour minute second nano offset)

/-! ## The other forms -/

/-- The text before the first blank that an opening parenthesis follows. -/
def beforeParenthesis : List Char → List Char
  | [] => []
  | c :: r => if c = ' ' ∧ r.head? = some '(' then [] else c :: beforeParenthesis r

/-- The moment of a text such as `Thu Aug 07 2013 16:32:59 GMT+0200 (CEST)`. -/
def ofMailOrder? (cs : List Char) : Option Moment :=
  let cs := beforeParenthesis cs
  let weekday := cs.takeWhile (· != ' ')
  match cs.dropWhile (· != ' ') with
  | [] => none
  | _ :: rest =>
    if weekday.length = 3 ∧ weekday.all Char.isAlpha then
      (({} : Fields).readAll? mailOrder (octets rest)).bind Fields.zoned?
    else none

/-- The moment of a text that carries its offset. -/
def ofZonedText? (cs : List Char) : Option Moment :=
  ofRfc3339? cs <|>
    (({} : Fields).readAll? compactOffset (octets cs)).bind Fields.zoned? <|>
    ofMailOrder? cs

/-- The moment of a text without an offset, in UTC. -/
def ofLocalText? (cs : List Char) : Option Moment :=
  (localForms.findSome? fun form => (({} : Fields).readAll? form (octets cs)).bind Fields.local?) <|>
    (({} : Fields).readAll? plainDate (octets cs)).bind Fields.dateOnly?

/-- The moment of any date form, blanks around it aside. -/
def ofText? (cs : List Char) : Option Moment :=
  let t := Text.trim cs
  match ofZonedText? t with
  | some m => some m
  | none => ofLocalText? (if t.getLast? = some 'Z' then t.dropLast else t)

end Moment

end TreeSift
