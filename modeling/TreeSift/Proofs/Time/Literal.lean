import TreeSift.Proofs.Number.Digits
import TreeSift.Proofs.Time.Calendar

/-!
# TreeSift.Proofs.Time.Literal

How a date is written in an expression, and which moment it is.

```
YYYY-MM-DD[Thh:mm[:ss[.fff]]][Z|±hh[:]mm]
```

1. A `DateLiteral` is a way to fill in the form: a date of the calendar, in a year that stays one of
   four digits whatever the offset is, and maybe a time of day and a zone.
2. What is written is the civil time in the zone, so the instant is the civil time less the offset
   (`DateLiteral.instant`).  It is counted day by day, apart from any way of reading dates.
3. `DateLiteral.isReadable` says which ways to fill in the form are understood: a numeric offset has to
   come after the seconds, and needs its colon if there is a fraction of a second.
-/

namespace TreeSift

open Lexeme

namespace DateLiteral

/-- A date of the calendar. -/
structure Day where
  year : Nat
  month : Nat
  day : Nat
  named : 1 ≤ year ∧ year ≤ 9998
  valid : Calendar.isValid year month day = true

/-- A fraction of a second, in up to nine digits. -/
structure Fraction where
  digits : List Char
  isDigits : IsDigits digits
  short : digits.length ≤ 9

/-- The seconds of a time of day. -/
structure Seconds where
  second : Fin 60
  fraction : Option Fraction

/-- A time of day. -/
structure Clock where
  hour : Fin 24
  minute : Fin 60
  seconds : Option Seconds

/-- The zone a time of day is in. -/
inductive Zone where
  | utc
  /-- So far ahead of UTC, or behind; with a colon between hours and minutes or without. -/
  | offset (behind colon : Bool) (hour : Fin 24) (minute : Fin 60)

end DateLiteral

/-- A date as an expression has it. -/
structure DateLiteral where
  date : DateLiteral.Day
  clock : Option DateLiteral.Clock
  zone : Option DateLiteral.Zone

namespace DateLiteral

theorem Day.year_lt (d : Day) : d.year < 10000 := Nat.lt_of_le_of_lt d.named.2 (by decide)

theorem Day.month_le (d : Day) : 1 ≤ d.month ∧ d.month ≤ 12 := (Calendar.bounds_of_isValid d.valid).1

theorem Day.day_le (d : Day) : 1 ≤ d.day ∧ d.day ≤ 31 := (Calendar.bounds_of_isValid d.valid).2

/-! ## its text -/

/-- The text of what may be left out. -/
def written {α : Type} (text : α → List Char) : Option α → List Char
  | none => []
  | some a => text a

@[simp] theorem written_none {α : Type} (text : α → List Char) : written text none = [] := rfl

@[simp] theorem written_some {α : Type} (text : α → List Char) (a : α) :
    written text (some a) = text a := rfl

/-- Year, month and day of the month. -/
def dateText (year month day : Nat) : List Char :=
  Moment.padded 4 year ++ '-' :: (Moment.padded 2 month ++ '-' :: Moment.padded 2 day)

def Day.text (d : Day) : List Char :=
  Moment.padded 4 d.year ++ '-' :: (Moment.padded 2 d.month ++ '-' :: Moment.padded 2 d.day)

theorem Day.text_eq (d : Day) : d.text = dateText d.year d.month d.day := rfl

def Fraction.text (f : Fraction) : List Char := '.' :: f.digits

def Seconds.text (s : Seconds) : List Char :=
  ':' :: (Moment.padded 2 s.second ++ written Fraction.text s.fraction)

def Clock.text (c : Clock) : List Char :=
  'T' :: (Moment.padded 2 c.hour ++ ':' :: (Moment.padded 2 c.minute ++
    written Seconds.text c.seconds))

/-- The sign of an offset. -/
def sign (behind : Bool) : Char := if behind then '-' else '+'

def Zone.text : Zone → List Char
  | utc => ['Z']
  | offset behind colon hour minute =>
    sign behind :: (Moment.padded 2 hour ++ ((if colon then [':'] else []) ++
      Moment.padded 2 minute))

def text (w : DateLiteral) : List Char :=
  w.date.text ++ (written Clock.text w.clock ++ written Zone.text w.zone)

/-! ## its moment -/

def Fraction.nanos (f : Fraction) : Nat :=
  Number.digitsValue f.digits * 10 ^ (9 - f.digits.length)

/-- Nanoseconds since the start of the minute. -/
def Seconds.nanos (s : Seconds) : Nat :=
  s.second * 1000000000 + (s.fraction.map Fraction.nanos).getD 0

/-- Nanoseconds since midnight. -/
def Clock.nanos (c : Clock) : Nat :=
  (c.hour * 3600 + c.minute * 60) * 1000000000 + (c.seconds.map Seconds.nanos).getD 0

/-- Seconds that the zone is ahead of UTC. -/
def Zone.ahead : Zone → Int
  | utc => 0
  | offset behind _ hour minute =>
    let seconds : Int := hour * 3600 + minute * 60
    if behind then -seconds else seconds

/-- Nanoseconds of the civil time since the start of 1970. -/
def civil (w : DateLiteral) : Int :=
  ((Calendar.elapsed w.date.year w.date.month w.date.day : Int) - Calendar.elapsed 1970 1 1) *
    86400000000000 + (w.clock.map Clock.nanos).getD 0

/-- Seconds that the civil time is ahead of UTC. -/
def ahead (w : DateLiteral) : Int := (w.zone.map Zone.ahead).getD 0

/-- The instant that is written, in nanoseconds since the start of 1970 in UTC. -/
def instant (w : DateLiteral) : Int := w.civil - w.ahead * 1000000000

def moment (w : DateLiteral) : Moment := ⟨w.instant, w.ahead⟩

/-- `2024-02-29T23:30:00.5-02:15` is in March by UTC. -/
example : moment ⟨⟨2024, 2, 29, by decide, by decide⟩,
    some ⟨23, 30, some ⟨0, some ⟨['5'], by simp [IsDigits], by decide⟩⟩⟩,
    some (.offset true true 2 15)⟩ = ⟨1709257500500000000, -8100⟩ := by decide +kernel

/-- Whether a numeric offset comes after seconds, and with its colon after a fraction. -/
def isReadable (w : DateLiteral) : Bool :=
  match w.zone with
  | some (.offset _ colon _ _) =>
    match w.clock.bind Clock.seconds with
    | none => false
    | some s => s.fraction.isNone || colon
  | _ => true

/-! ## its characters -/

/-- What holds of the characters that dates are written with, the `Z` of a zone aside. -/
structure OfDateChars (p : Char → Prop) : Prop where
  digit : ∀ c : Char, c.isDigit = true → p c
  mark : ∀ c ∈ ['-', 'T', ':', '.', '+'], p c

section
variable {p : Char → Prop} (hp : OfDateChars p)
include hp

theorem OfDateChars.padded (width n : Nat) : ∀ c ∈ Moment.padded width n, p c :=
  fun c hc => hp.digit c ((Moment.isDigits_padded width n).2 c hc)

omit hp in
theorem forall_mem_written {α : Type} {text : α → List Char} (h : ∀ a, ∀ c ∈ text a, p c)
    (o : Option α) : ∀ c ∈ written text o, p c := by
  cases o with
  | none => simp
  | some a => exact h a

theorem forall_mem_dateText (year month day : Nat) : ∀ c ∈ dateText year month day, p c := by
  intro c hc
  simp only [dateText, List.mem_append, List.mem_cons] at hc
  obtain hc | rfl | hc | rfl | hc := hc
  · exact hp.padded _ _ c hc
  · exact hp.mark _ (by decide)
  · exact hp.padded _ _ c hc
  · exact hp.mark _ (by decide)
  · exact hp.padded _ _ c hc

theorem Fraction.forall_mem_text (f : Fraction) : ∀ c ∈ f.text, p c := by
  intro c hc
  obtain rfl | hc := List.mem_cons.mp hc
  · exact hp.mark _ (by decide)
  · exact hp.digit c (f.isDigits.2 c hc)

theorem Seconds.forall_mem_text (s : Seconds) : ∀ c ∈ s.text, p c := by
  intro c hc
  simp only [Seconds.text, List.mem_append, List.mem_cons] at hc
  obtain rfl | hc | hc := hc
  · exact hp.mark _ (by decide)
  · exact hp.padded _ _ c hc
  · exact forall_mem_written (Fraction.forall_mem_text hp) _ c hc

theorem Clock.forall_mem_text (k : Clock) : ∀ c ∈ k.text, p c := by
  intro c hc
  simp only [Clock.text, List.mem_append, List.mem_cons] at hc
  obtain rfl | hc | rfl | hc | hc := hc
  · exact hp.mark _ (by decide)
  · exact hp.padded _ _ c hc
  · exact hp.mark _ (by decide)
  · exact hp.padded _ _ c hc
  · exact forall_mem_written (Seconds.forall_mem_text hp) _ c hc

theorem Zone.forall_mem_text {z : Zone} (hz : z = .utc → p 'Z') : ∀ c ∈ z.text, p c := by
  intro c hc
  cases z with
  | utc =>
      obtain rfl := List.mem_singleton.mp hc
      exact hz rfl
  | offset behind colon hour minute =>
      simp only [Zone.text, List.mem_append, List.mem_cons] at hc
      obtain rfl | hc | hc | hc := hc
      · cases behind <;> exact hp.mark _ (by decide)
      · exact hp.padded _ _ c hc
      · cases colon with
        | false => contradiction
        | true =>
            obtain rfl := List.mem_singleton.mp hc
            exact hp.mark _ (by decide)
      · exact hp.padded _ _ c hc

theorem forall_mem_text {w : DateLiteral} (hz : w.zone = some .utc → p 'Z') :
    ∀ c ∈ w.text, p c := by
  intro c hc
  simp only [text, List.mem_append] at hc
  obtain hc | hc | hc := hc
  · exact forall_mem_dateText hp _ _ _ c hc
  · exact forall_mem_written (Clock.forall_mem_text hp) _ c hc
  · cases h : w.zone with
    | none => simp [h] at hc
    | some z =>
        rw [h] at hc
        exact Zone.forall_mem_text hp (fun hutc => hz (by rw [h, hutc])) c hc

end

theorem ofDateChars_isDateChar : OfDateChars fun c => isDateChar c = true :=
  ⟨fun c hc => by simp [isDateChar, hc], by simp [isDateChar]⟩

/-- A date is written with characters that a date token goes on over. -/
theorem isDateChar_text (w : DateLiteral) : ∀ c ∈ w.text, isDateChar c = true :=
  forall_mem_text ofDateChars_isDateChar fun _ => rfl

/-- It ends with `Z` only if that is its zone. -/
theorem getLast?_text_ne {w : DateLiteral} (h : w.zone ≠ some .utc) :
    w.text.getLast? ≠ some 'Z' := by
  intro hlast
  have hne : ∀ c ∈ w.text, c ≠ 'Z' :=
    forall_mem_text ⟨fun c hc => ne_of_isDigit hc rfl, by simp⟩ fun hutc => absurd hutc h
  exact hne 'Z' (List.mem_of_getLast? hlast) rfl

end DateLiteral

end TreeSift
