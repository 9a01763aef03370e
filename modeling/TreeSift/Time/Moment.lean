import TreeSift.Time.Calendar

/-!
# TreeSift.Time.Moment

Instants with the offset they are shown in.

1. Two moments are the same moment when their instants are; the offset is only how one is shown.
2. The text of a moment is its RFC 3339 form: a fraction only if there is one and without zeros at
   its end, `Z` for offset zero and otherwise a signed offset in hours and minutes.
3. RFC 3339 cannot write a year outside `0 .. 9999`, an offset with seconds, or an offset of more
   than 23 hours.  Such a moment is shown in a longer form with every part of the offset.
-/

namespace TreeSift

/-- An instant and the offset from UTC it is shown in. -/
structure Moment where
  /-- Nanoseconds since the start of 1970 in UTC. -/
  nanos : Int
  /-- Seconds that local time is ahead of UTC. -/
  offset : Int
deriving DecidableEq, Repr, Inhabited

namespace Moment

/-- Nanoseconds of a second. -/
def nanosPerSecond : Int := 1000000000

/-- Which of two instants is earlier. -/
def compare (a b : Moment) : Ordering := Ord.compare a.nanos b.nanos

/-- The moment of a local day and time of day. -/
def ofLocal (day : Int) (hour minute second nano : Nat) (offset : Int) : Moment :=
  let seconds := day * 86400 + hour * 3600 + minute * 60 + second - offset
  ⟨seconds * nanosPerSecond + nano, offset⟩

/-- The moment in UTC, if its year can be named. -/
def ofNanos? (nanos : Int) : Option Moment :=
  let seconds := nanos / nanosPerSecond
  if -377705116800 ≤ seconds ∧ seconds ≤ 253402300799 then some ⟨nanos, 0⟩ else none

/-- The moment in UTC of a count of milliseconds since 1970. -/
def ofMillis? (millis : Int) : Option Moment := ofNanos? (millis * 1000000)

/-! ## Local parts -/

/-- Local seconds since the start of 1970 in local time. -/
def localSeconds (m : Moment) : Int := m.nanos / nanosPerSecond + m.offset

/-- The local day number. -/
def localDay (m : Moment) : Int := m.localSeconds / 86400

/-- Seconds since local midnight. -/
def secondOfDay (m : Moment) : Nat := (m.localSeconds % 86400).toNat

/-- Nanoseconds of the second. -/
def fraction (m : Moment) : Nat := (m.nanos % nanosPerSecond).toNat

/-! ## Text -/

/-- A number with zeros in front up to a width. -/
def padded (width n : Nat) : List Char :=
  let ds := Nat.toDigits 10 n
  List.replicate (width - ds.length) '0' ++ ds

/-- Nine digits of a fraction without the zeros at the end. -/
def fractionDigits (nano : Nat) : List Char :=
  ((padded 9 nano).reverse.dropWhile (· == '0')).reverse

/-- Whether RFC 3339 can write the moment. -/
def isRfc3339 (m : Moment) : Bool :=
  let year := (Calendar.civil m.localDay).1
  decide (0 ≤ year) && decide (year ≤ 9999) && m.offset % 60 == 0 &&
    decide (m.offset.natAbs < 86400)

/-- Minutes, seconds: the parts of a second of the day after the hour. -/
def minuteOf (s : Nat) : Nat := s % 3600 / 60

/-- The RFC 3339 form. -/
def rfc3339 (m : Moment) : List Char :=
  let (year, month, day) := Calendar.civil m.localDay
  let s := m.secondOfDay
  let fraction := if m.fraction = 0 then [] else '.' :: fractionDigits m.fraction
  let off := m.offset.natAbs
  let zone := if m.offset = 0 then ['Z']
    else (if m.offset < 0 then '-' else '+') :: (padded 2 (off / 3600) ++ ':' :: padded 2 (minuteOf off))
  padded 4 year.toNat ++ '-' :: (padded 2 month ++ '-' :: (padded 2 day ++ 'T' ::
    (padded 2 (s / 3600) ++ ':' :: (padded 2 (minuteOf s) ++ ':' :: (padded 2 (s % 60) ++
      fraction ++ zone)))))

/-- The long form, which every moment has. -/
def longForm (m : Moment) : List Char :=
  let (year, month, day) := Calendar.civil m.localDay
  let s := m.secondOfDay
  let fraction := if m.fraction = 0 then ['0'] else fractionDigits m.fraction
  let off := m.offset.natAbs
  let sign := if year < 0 then ['-'] else if 9999 < year then ['+'] else []
  sign ++ padded 4 year.natAbs ++ '-' :: (padded 2 month ++ '-' :: (padded 2 day ++ ' ' ::
    (Nat.toDigits 10 (s / 3600) ++ ':' :: (padded 2 (minuteOf s) ++ ':' :: (padded 2 (s % 60) ++
      '.' :: (fraction ++ ' ' :: (if m.offset < 0 then '-' else '+') ::
        (padded 2 (off / 3600) ++ ':' :: (padded 2 (minuteOf off) ++ ':' :: padded 2 (off % 60)))))))))

/-- The text of a moment. -/
def display (m : Moment) : List Char := if m.isRfc3339 then m.rfc3339 else m.longForm

end Moment

end TreeSift
