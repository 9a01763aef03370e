import TreeSift.Time.Moment

/-!
# TreeSift.Time.Component

The parts a date can be written with, how each is read, and what the parts read so far determine.

1. A reader takes a component from the front of the text and returns the rest.  Texts are octets:
   a character outside ASCII counts as the octets of its UTF-8 form (`octets`).
2. What was read is kept in `Fields`, each field at most once; a later component of the same kind
   replaces what an earlier one read.  A number out of its field's range is not read at all; of
   seconds, 60 is still in range, although no time of day has it.
3. A date needs a year and a place in it, a time of day needs an hour, an offset needs its hours.
   `Fields.day?`, `Fields.timeOfDay?` and `Fields.offset?` say exactly what is enough.
-/

namespace TreeSift

/-- The octets of the UTF-8 form of a character, each as the character with its number. -/
def octetsOf (c : Char) : List Char :=
  let n := c.toNat
  if n < 0x80 then [c]
  else if n < 0x800 then [Char.ofNat (0xC0 + n / 64), Char.ofNat (0x80 + n % 64)]
  else if n < 0x10000 then
    [Char.ofNat (0xE0 + n / 4096), Char.ofNat (0x80 + n / 64 % 64), Char.ofNat (0x80 + n % 64)]
  else [Char.ofNat (0xF0 + n / 262144), Char.ofNat (0x80 + n / 4096 % 64),
    Char.ofNat (0x80 + n / 64 % 64), Char.ofNat (0x80 + n % 64)]

/-- The octets of a text. -/
def octets (cs : List Char) : List Char := cs.flatMap octetsOf

/-- How a number of fixed width is filled up in front. -/
inductive Padding where
  | zero
  | space
  | none
deriving DecidableEq, Repr

/-- Which part of a year is written. -/
inductive YearPart where
  | full
  | century
  | lastTwo
deriving DecidableEq, Repr

/-- How a month is written. -/
inductive MonthForm where
  | number
  | long
  | short
deriving DecidableEq, Repr

/-- How a weekday is written; a digit counts from Sunday or from Monday. -/
inductive WeekdayForm where
  | long
  | short
  | fromSunday
  | fromMonday
deriving DecidableEq, Repr

/-- Where the weeks of a year start. -/
inductive WeekForm where
  | iso
  | sunday
  | monday
deriving DecidableEq, Repr

/-- A component of a written date, with its modifiers. -/
inductive Component where
  | day (padding : Padding)
  | month (padding : Padding) (form : MonthForm) (caseSensitive : Bool)
  | ordinal (padding : Padding)
  | weekday (form : WeekdayForm) (fromOne : Bool) (caseSensitive : Bool)
  | weekNumber (padding : Padding) (form : WeekForm)
  | year (padding : Padding) (part : YearPart) (isoWeek : Bool) (signed : Bool)
  | hour (padding : Padding) (twelve : Bool)
  | minute (padding : Padding)
  | period (upper : Bool) (caseSensitive : Bool)
  | second (padding : Padding)
  | subsecond (digits : Option Nat)
  | offsetHour (signed : Bool) (padding : Padding)
  | offsetMinute (padding : Padding)
  | offsetSecond (padding : Padding)
  | ignore (count : Nat)
  | unixTimestamp (digits : Nat) (nanos : Nat) (signed : Bool)
  | endOfInput (discard : Bool)
deriving DecidableEq, Repr

/-- A part of a description: text that stands for itself, or a component. -/
inductive DateItem where
  | literal (octets : List Char)
  | component (c : Component)
deriving DecidableEq, Repr

/-- What has been read so far. -/
structure Fields where
  year : Option Int := none
  century : Option (Int × Bool) := none
  lastTwo : Option Nat := none
  isoYear : Option Int := none
  isoCentury : Option (Int × Bool) := none
  isoLastTwo : Option Nat := none
  month : Option Nat := none
  day : Option Nat := none
  ordinal : Option Nat := none
  weekday : Option Nat := none
  isoWeek : Option Nat := none
  sundayWeek : Option Nat := none
  mondayWeek : Option Nat := none
  hour : Option Nat := none
  hour12 : Option Nat := none
  isPm : Option Bool := none
  minute : Option Nat := none
  second : Option Nat := none
  subsecond : Option Nat := none
  offsetHour : Option (Nat × Bool) := none
  offsetMinute : Option Nat := none
  offsetSecond : Option Nat := none
  timestamp : Option Int := none
deriving Repr, Inhabited

namespace Component

/-! ## Reading numbers -/

/-- Between `least` and `most` digits, as many as there are. -/
def digits? (least most : Nat) (cs : List Char) : Option (Nat × List Char) :=
  let ds := (cs.take most).takeWhile Char.isDigit
  if ds.length < least then none
  else some (ds.foldl (fun n c => n * 10 + (c.toNat - '0'.toNat)) 0, cs.drop ds.length)

/-- A number of a given width, filled up as the padding says. -/
def padded? (p : Padding) (width : Nat) (cs : List Char) : Option (Nat × List Char) :=
  match p with
  | .zero => digits? width width cs
  | .none => digits? 1 width cs
  | .space =>
    let blanks := (cs.take (width - 1)).takeWhile (· == ' ')
    digits? (width - blanks.length) (width - blanks.length) (cs.drop blanks.length)

/-- A sign, if there is one: whether it is a minus. -/
def sign? : List Char → Option (Bool × List Char)
  | '+' :: r => some (false, r)
  | '-' :: r => some (true, r)
  | _ => none

/-- An optional sign and what follows it; a sign that must be there may be demanded. -/
def optionalSign? (mandatory : Bool) (cs : List Char) : Option (Option Bool × List Char) :=
  match sign? cs with
  | some (neg, r) => some (some neg, r)
  | none => if mandatory then none else some (none, cs)

/-! ## Reading names -/

/-- Names of the months in order. -/
def monthNames : List String :=
  ["January", "February", "March", "April", "May", "June", "July", "August", "September",
    "October", "November", "December"]

/-- Names of the weekdays from Monday on. -/
def weekdayNames : List String :=
  ["Monday", "Tuesday", "Wednesday", "Thursday", "Friday", "Saturday", "Sunday"]

/-- The rest after a name, with or without regard to case. -/
def dropName? (caseSensitive : Bool) (name : List Char) (cs : List Char) : Option (List Char) :=
  let front := cs.take name.length
  let same := if caseSensitive then front == name
    else front.map Char.toLower == name.map Char.toLower
  if same then some (cs.drop name.length) else none

/-- The value of the first name of a list that the text starts with. -/
def oneOf? (caseSensitive : Bool) : List (String × Nat) → List Char → Option (Nat × List Char)
  | [], _ => none
  | (name, v) :: more, cs =>
    match dropName? caseSensitive name.toList cs with
    | some r => some (v, r)
    | none => oneOf? caseSensitive more cs

/-- Each name with its place, counted from `first`. -/
def numbered (first : Nat) (names : List String) : List (String × Nat) :=
  names.zipIdx.map fun p => (p.1, p.2 + first)

/-- The first three letters of each name. -/
def short (names : List String) : List String :=
  names.map fun n => String.ofList (n.toList.take 3)

/-- The digits a weekday is written as, with the days since Monday they stand for. -/
def weekdayDigits (fromSunday fromOne : Bool) : List (String × Nat) :=
  (List.range 7).map fun i =>
    let shown := (if fromSunday then (i + 1) % 7 else i) + (if fromOne then 1 else 0)
    (String.ofList (Nat.toDigits 10 shown), i)

/-! ## Reading components -/

/-- A number that is in a range. -/
def within? (least most : Nat) (r : Option (Nat × List Char)) : Option (Nat × List Char) :=
  r.bind fun p => if least ≤ p.1 ∧ p.1 ≤ most then some p else none

/-- A signed year of a given width. -/
def signedYear? (p : Padding) (width : Nat) (mandatory : Bool) (cs : List Char) :
    Option ((Int × Bool) × List Char) := do
  let (sign, cs) ← optionalSign? mandatory cs
  let (n, cs) ← padded? p width cs
  match sign with
  | some true => some ((-(n : Int), true), cs)
  | _ => some (((n : Int), false), cs)

/-- The digits of a fraction of a second, as nanoseconds; digits past the ninth are dropped. -/
def nanosOf (ds : List Char) : Nat :=
  let nine := (ds ++ List.replicate 9 '0').take 9
  nine.foldl (fun n c => n * 10 + (c.toNat - '0'.toNat)) 0

/-- Reads one component from the front of the text. -/
def read? (f : Fields) (cs : List Char) : Component → Option (Fields × List Char)
  | day p => (within? 1 31 (padded? p 2 cs)).map fun (n, r) => ({ f with day := some n }, r)
  | month p form caseSensitive =>
    let found := match form with
      | .number => within? 1 12 (padded? p 2 cs)
      | .long => oneOf? caseSensitive (numbered 1 monthNames) cs
      | .short => oneOf? caseSensitive (numbered 1 (short monthNames)) cs
    found.map fun (n, r) => ({ f with month := some n }, r)
  | ordinal p =>
    (within? 1 366 (padded? p 3 cs)).map fun (n, r) => ({ f with ordinal := some n }, r)
  | weekday form fromOne caseSensitive =>
    let found := match form with
      | .long => oneOf? caseSensitive (numbered 0 weekdayNames) cs
      | .short => oneOf? caseSensitive (numbered 0 (short weekdayNames)) cs
      | .fromSunday => oneOf? true (weekdayDigits true fromOne) cs
      | .fromMonday => oneOf? true (weekdayDigits false fromOne) cs
    found.map fun (n, r) => ({ f with weekday := some n }, r)
  | weekNumber p form =>
    let found := within? (if form = .iso then 1 else 0) 53 (padded? p 2 cs)
    found.map fun (n, r) =>
      match form with
      | .iso => ({ f with isoWeek := some n }, r)
      | .sunday => ({ f with sundayWeek := some n }, r)
      | .monday => ({ f with mondayWeek := some n }, r)
  | year p part isoWeek signed =>
    match part with
    | .full => (signedYear? p 4 signed cs).map fun (y, r) =>
        (if isoWeek then { f with isoYear := some y.1 } else { f with year := some y.1 }, r)
    | .century => (signedYear? p 2 signed cs).map fun (y, r) =>
        (if isoWeek then { f with isoCentury := some y } else { f with century := some y }, r)
    | .lastTwo => (padded? p 2 cs).map fun (n, r) =>
        (if isoWeek then { f with isoLastTwo := some n } else { f with lastTwo := some n }, r)
  | hour p twelve =>
    if twelve then
      (within? 1 12 (padded? p 2 cs)).map fun (n, r) => ({ f with hour12 := some n }, r)
    else (within? 0 23 (padded? p 2 cs)).map fun (n, r) => ({ f with hour := some n }, r)
  | minute p => (within? 0 59 (padded? p 2 cs)).map fun (n, r) => ({ f with minute := some n }, r)
  | period upper caseSensitive =>
    let names := if upper then [("AM", 0), ("PM", 1)] else [("am", 0), ("pm", 1)]
    (oneOf? caseSensitive names cs).map fun (n, r) => ({ f with isPm := some (n == 1) }, r)
  | second p => (within? 0 60 (padded? p 2 cs)).map fun (n, r) => ({ f with second := some n }, r)
  | subsecond width =>
    let ds := match width with
      | some w => (cs.take w).takeWhile Char.isDigit
      | none => cs.takeWhile Char.isDigit
    if ds.length < width.getD 1 then none
    else some ({ f with subsecond := some (nanosOf ds) }, cs.drop ds.length)
  | offsetHour signed p => do
    let (sign, r) ← optionalSign? signed cs
    let (n, r) ← within? 0 25 (padded? p 2 r)
    some ({ f with offsetHour := some (n, sign == some true) }, r)
  | offsetMinute p =>
    (within? 0 59 (padded? p 2 cs)).map fun (n, r) => ({ f with offsetMinute := some n }, r)
  | offsetSecond p =>
    (within? 0 59 (padded? p 2 cs)).map fun (n, r) => ({ f with offsetSecond := some n }, r)
  | ignore count => if count ≤ cs.length then some (f, cs.drop count) else none
  | unixTimestamp width nanos signed => do
    let (sign, r) ← optionalSign? signed cs
    let (n, r) ← digits? 1 width r
    let t : Int := if sign == some true then -(n * nanos : Int) else n * nanos
    let m ← Moment.ofNanos? t
    some ({ f with timestamp := some m.nanos }, r)
  | endOfInput discard =>
    if discard then some (f, []) else if cs.isEmpty then some (f, cs) else none

end Component

/-- Reads the items of a description one after the other; nothing may be left over. -/
def Fields.readAll? (f : Fields) : List DateItem → List Char → Option Fields
  | [], cs => if cs.isEmpty then some f else none
  | .literal t :: more, cs =>
    if cs.take t.length == t then readAll? f more (cs.drop t.length) else none
  | .component c :: more, cs =>
    match c.read? f cs with
    | some (g, r) => readAll? g more r
    | none => none

namespace Fields

/-! ## What the fields determine -/

/-- A year put together from its century and its last two digits, when it was not read whole. -/
def wholeYear? (year : Option Int) (century : Option (Int × Bool)) (lastTwo : Option Nat) :
    Option Int :=
  match year, century, lastTwo with
  | some y, _, _ => some y
  | none, some (c, neg), some n => some (if neg then 100 * c - n else 100 * c + n)
  | _, _, _ => none

/-- The day with a given place in its year, if the year has one. -/
def ofOrdinal? (year : Int) (ordinal : Int) : Option Int :=
  if Calendar.inRange year ∧ 1 ≤ ordinal ∧ ordinal ≤ Calendar.yearLength year then
    some (Calendar.yearStart year + ordinal - 1)
  else none

/-- The day with a given week and weekday of an ISO year. -/
def ofIsoWeek? (year : Int) (week weekday : Nat) : Option Int :=
  if Calendar.inRange year ∧ 1 ≤ week ∧ week ≤ Calendar.isoWeeks year then
    some (Calendar.isoYearStart year + 7 * ((week : Int) - 1) + weekday)
  else none

/-- The day of a week counted from the first Sunday or Monday of the year: `before` is how many days
of the year stand before that first day, and `inWeek` counts from it. -/
def ofWeek? (year : Int) (week : Nat) (inWeek : Nat) (firstDay : Nat) : Option Int :=
  let januaryFirst := Calendar.weekday (Calendar.yearStart year)
  let before := (firstDay + 7 - januaryFirst) % 7
  ofOrdinal? year (7 * ((week : Int) - 1) + before + inWeek + 1)

/-- The day number, from the first of these that was read: year and day of the year; year, month
and day; ISO year, week and weekday; year, week from Sunday and weekday; year, week from Monday and
weekday. -/
def day? (f : Fields) : Option Int :=
  let year := wholeYear? f.year f.century f.lastTwo
  let isoYear := wholeYear? f.isoYear f.isoCentury f.isoLastTwo
  match year, f.ordinal with
  | some y, some o => ofOrdinal? y o
  | _, _ =>
    match year, f.month, f.day with
    | some y, some m, some d =>
      if Calendar.inRange y ∧ Calendar.isValid y m d then some (Calendar.dayNumber y m d) else none
    | _, _, _ =>
      match isoYear, f.isoWeek, f.weekday with
      | some y, some w, some d => ofIsoWeek? y w d
      | _, _, _ =>
        match year, f.sundayWeek, f.weekday with
        | some y, some w, some d => ofWeek? y w ((d + 1) % 7) 6
        | _, _, _ =>
          match year, f.mondayWeek, f.weekday with
          | some y, some w, some d => ofWeek? y w d 0
          | _, _, _ => none

/-- The hour of the day. -/
def hourOfDay? (f : Fields) : Option Nat :=
  match f.hour, f.hour12, f.isPm with
  | some h, _, _ => some h
  | none, some h, some pm =>
    some (if h = 12 then (if pm then 12 else 0) else if pm then h + 12 else h)
  | _, _, _ => none

/-- Hour, minute, second and nanosecond; a smaller part counts only with all greater ones. -/
def timeOfDay? (f : Fields) : Option (Nat × Nat × Nat × Nat) := do
  let h ← f.hourOfDay?
  let (m, s, n) ← match f.minute, f.second, f.subsecond with
    | none, none, none => some (0, 0, 0)
    | some m, none, none => some (m, 0, 0)
    | some m, some s, none => some (m, s, 0)
    | some m, some s, some n => some (m, s, n)
    | _, _, _ => none
  if h ≤ 23 ∧ m ≤ 59 ∧ s ≤ 59 then some (h, m, s, n) else none

/-- The offset in seconds; the sign of the hours is the sign of all of it. -/
def offset? (f : Fields) : Option Int := do
  let (h, neg) ← f.offsetHour
  let m := f.offsetMinute.getD 0
  let s := f.offsetSecond.getD 0
  if h ≤ 25 ∧ m ≤ 59 ∧ s ≤ 59 then
    let total : Int := h * 3600 + m * 60 + s
    some (if neg then -total else total)
  else none

/-- A moment with its own offset: a timestamp, or date, time and offset. -/
def zoned? (f : Fields) : Option Moment :=
  match f.timestamp with
  | some t => (Moment.ofNanos? t).map fun m =>
      match f.subsecond with
      | some n => ⟨m.nanos - m.fraction + n, m.offset⟩
      | none => m
  | none => do
    let d ← f.day?
    let (h, m, s, n) ← f.timeOfDay?
    let o ← f.offset?
    some (Moment.ofLocal d h m s n o)

/-- Date and time without regard to an offset, in UTC. -/
def local? (f : Fields) : Option Moment := do
  let d ← f.day?
  let (h, m, s, n) ← f.timeOfDay?
  some (Moment.ofLocal d h m s n 0)

/-- The date alone, at midnight in UTC. -/
def dateOnly? (f : Fields) : Option Moment :=
  f.day?.map fun d => Moment.ofLocal d 0 0 0 0 0

end Fields

end TreeSift
