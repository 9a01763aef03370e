import TreeSift.Proofs.Time.Component

/-!
# TreeSift.Proofs.Time.Reading

What the forms of a date make of a date as an expression has it.

1. RFC 3339 reads a date with seconds and a zone, if there is a colon in its offset
   (`ofRfc3339?_brief`, `ofRfc3339?_seconds`).
2. The form for an offset without a colon reads a date with seconds, but without a fraction
   (`readAll?_compactOffset_seconds`).
3. Of the forms without an offset each reads the dates that have as much as it describes, and the
   `Z` at the end is taken off before (`ofLocalText?_text`).
4. Together they read every date that is said to be readable as its moment, and no other
   (`ofText?_text`).
-/

namespace TreeSift

open Lexeme DateLiteral

namespace DateLiteral

/-! ## zones -/

/-- A zone starts with a sign or with `Z`. -/
theorem head?_zone (z : Option Zone) {c : Char} (h : c ≠ '+' ∧ c ≠ '-' ∧ c ≠ 'Z') :
    (written Zone.text z).head? ≠ some c := by
  obtain ⟨hplus, hminus, hz⟩ := h
  match z with
  | none => simp [written]
  | some .utc => simpa [written, Zone.text] using hz.symm
  | some (.offset true _ _ _) => simpa [written, Zone.text, sign] using hminus.symm
  | some (.offset false _ _ _) => simpa [written, Zone.text, sign] using hplus.symm

theorem isDigit_head?_zone (z : Option Zone) :
    ∀ c ∈ (written Zone.text z).head?, c.isDigit = false := by
  intro c hc
  refine Bool.eq_false_iff.mpr fun hd => head?_zone z ⟨?_, ?_, ?_⟩ hc
  all_goals exact ne_of_isDigit hd rfl

theorem after?_self (c : Char) (rest : List Char) : Moment.after? c (c :: rest) = some rest :=
  if_pos rfl

theorem after?_padded (width n : Nat) : Moment.after? ':' (Moment.padded width n) = none := by
  obtain ⟨c, r, hp, hc⟩ := Moment.exists_padded_eq_cons width n
  rw [hp]
  exact if_neg (ne_of_isDigit hc rfl)

theorem offsetAtEnd?_sign (behind : Bool) (rest : List Char) :
    Moment.offsetAtEnd? (sign behind :: rest) = (do
      let (h, r) ← Component.digits? 2 2 rest
      let r ← Moment.after? ':' r
      let (m, r) ← Component.digits? 2 2 r
      if h ≤ 23 ∧ m ≤ 59 ∧ r.isEmpty then
        let total : Int := h * 3600 + m * 60
        some (if behind then -total else total)
      else none) := by
  cases behind <;> rfl

theorem offsetAtEnd?_colon (behind : Bool) (hour : Fin 24) (minute : Fin 60) :
    Moment.offsetAtEnd? (Zone.offset behind true hour minute).text =
      some (Zone.offset behind true hour minute).ahead := by
  have hhour := Component.digits?_two (n := hour) (':' :: Moment.padded 2 minute) (by omega)
  have hminute := Component.digits?_two_nil (n := minute) (by omega)
  have hrange : (hour : Nat) ≤ 23 ∧ (minute : Nat) ≤ 59 := by omega
  rw [Zone.text, offsetAtEnd?_sign]
  simp [hhour, hminute, hrange, after?_self, Zone.ahead]

theorem offsetAtEnd?_compact (behind : Bool) (hour : Fin 24) (minute : Fin 60) :
    Moment.offsetAtEnd? (Zone.offset behind false hour minute).text = none := by
  have hhour := Component.digits?_two (n := hour) (Moment.padded 2 minute) (by omega)
  rw [Zone.text, offsetAtEnd?_sign]
  simp [hhour, after?_padded]

theorem after?_zone (z : Option Zone) : Moment.after? ':' (written Zone.text z) = none := by
  have h := head?_zone z (c := ':') (by decide)
  cases hz : written Zone.text z with
  | nil => rfl
  | cons c r =>
      rw [hz] at h
      exact if_neg fun hc => h (congrArg some hc)

end DateLiteral

namespace Moment

/-! ## RFC 3339 -/

section
variable {year month day : Nat} (hyear : year < 10000)
  (hvalid : Calendar.isValid year month day = true)
include hyear hvalid

/-- After the date come a character and a time of day. -/
theorem ofRfc3339?_date (rest : List Char) : ofRfc3339? (dateText year month day ++ rest) = (do
    let (hour, r) ← Component.digits? 2 2 (← afterAny? rest)
    let (minute, r) ← Component.digits? 2 2 (← after? ':' r)
    let (second, r) ← Component.digits? 2 2 (← after? ':' r)
    let (nano, r) ← fraction? r
    let offset ← offsetAtEnd? r
    if 23 < hour || 59 < minute then none
    else
      let date := Calendar.dayNumber year month day
      if second = 60 then
        let m := ofLocal date hour minute 59 999999999 offset
        if m.endsMonth then some m else none
      else if 59 < second then none
      else some (ofLocal date hour minute second nano offset)) := by
  obtain ⟨hmonth, hday⟩ := Calendar.bounds_of_isValid hvalid
  have hyear (r : List Char) : Component.digits? 4 4 (padded 4 year ++ r) = some (year, r) :=
    Component.digits?_padded (by decide) hyear r
  have hmonth (r : List Char) := Component.digits?_two (n := month) r (by omega)
  have hday (r : List Char) := Component.digits?_two (n := day) r (by omega)
  rw [ofRfc3339?, dateText, List.append_assoc, hyear, List.cons_append, List.append_assoc,
    List.cons_append]
  dsimp only [Option.bind_eq_bind, Option.bind_some]
  rw [after?_self, Option.bind_some, hmonth, Option.bind_some, after?_self, Option.bind_some, hday,
    Option.bind_some, hvalid]
  rfl

/-- After the time of day in whole seconds come a fraction and an offset. -/
theorem ofRfc3339?_clock (hour : Fin 24) (minute second : Fin 60) (rest : List Char) :
    ofRfc3339? (dateText year month day ++ 'T' :: (padded 2 hour ++ ':' :: (padded 2 minute ++
        ':' :: (padded 2 second ++ rest)))) = (do
      let (nano, r) ← fraction? rest
      let offset ← offsetAtEnd? r
      some (ofLocal (Calendar.dayNumber year month day) hour minute second nano offset)) := by
  have hhour (r : List Char) := Component.digits?_two (n := hour) r (by omega)
  have hminute (r : List Char) := Component.digits?_two (n := minute) r (by omega)
  have hsecond (r : List Char) := Component.digits?_two (n := second) r (by omega)
  have hrange : ¬23 < (hour : Nat) ∧ ¬59 < (minute : Nat) ∧ ¬(second : Nat) = 60 ∧
      ¬59 < (second : Nat) := by omega
  rw [ofRfc3339?_date hyear hvalid]
  simp [afterAny?, after?_self, hhour, hminute, hsecond, hrange]

end

/-- Without seconds it is not read. -/
theorem ofRfc3339?_brief (w : DateLiteral) (h : w.clock.bind Clock.seconds = none) :
    ofRfc3339? w.text = none := by
  obtain ⟨d, k, z⟩ := w
  rw [DateLiteral.text, Day.text_eq, ofRfc3339?_date d.year_lt d.valid]
  cases k with
  | none =>
      cases z with
      | none => rfl
      | some z =>
          cases z with
          | utc => rfl
          | offset behind colon hour minute =>
              have hhour (r : List Char) := Component.digits?_two (n := hour) r (by omega)
              have hminute := Component.digits?_two_nil (n := minute) (by omega)
              have hany : afterAny? (Zone.offset behind colon hour minute).text =
                  some (Moment.padded 2 hour ++ ((if colon then [':'] else []) ++
                    Moment.padded 2 minute)) := by
                cases behind <;> rfl
              cases colon with
              | true => simp [hany, hhour, hminute, after?]
              | false => simp [hany, hhour, after?_padded]
  | some k =>
      obtain ⟨hour, minute, seconds⟩ := k
      obtain rfl : seconds = none := h
      have hhour (r : List Char) := Component.digits?_two (n := hour) r (by omega)
      have hminute (r : List Char) := Component.digits?_two (n := minute) r (by omega)
      simp [Clock.text, afterAny?, after?_self, hhour, hminute, after?_zone]

theorem fraction?_digits {ds rest : List Char} (hd : IsDigits ds)
    (hr : ∀ c ∈ rest.head?, c.isDigit = false) :
    fraction? ('.' :: (ds ++ rest)) = some (Component.nanosOf ds, rest) := by
  simp only [fraction?, (takeWhile_run hd.2 hr).1, List.isEmpty_iff, if_neg hd.1, List.drop_left]

theorem fraction?_written (f : Option Fraction) (z : Option Zone) :
    fraction? (written Fraction.text f ++ written Zone.text z) =
      some ((f.map Fraction.nanos).getD 0, written Zone.text z) := by
  cases f with
  | none =>
      have hpoint := head?_zone z (c := '.') (by decide)
      unfold fraction?
      split
      · next r h =>
        rw [written_none, List.nil_append] at h
        exact absurd (by rw [h]; rfl) hpoint
      · rfl
  | some f =>
      rw [written_some, Fraction.text, List.cons_append,
        fraction?_digits f.isDigits (isDigit_head?_zone z), Component.nanosOf_eq f.short]
      rfl

/-- With seconds it is, if the offset can be. -/
theorem ofRfc3339?_seconds {year month day : Nat} (hyear : year < 10000)
    (hvalid : Calendar.isValid year month day = true) (hour : Fin 24) (minute : Fin 60)
    (s : Seconds) (z : Option Zone) :
    ofRfc3339? (dateText year month day ++ (Clock.text ⟨hour, minute, some s⟩ ++
        written Zone.text z)) =
      (offsetAtEnd? (written Zone.text z)).map (ofLocal (Calendar.dayNumber year month day)
        hour minute s.second ((s.fraction.map Fraction.nanos).getD 0)) := by
  have hclock := ofRfc3339?_clock hyear hvalid hour minute s.second
    (written Fraction.text s.fraction ++ written Zone.text z)
  simp only [Clock.text, Seconds.text, written_some, List.cons_append, List.append_assoc]
  rw [hclock, fraction?_written]
  dsimp only [Option.bind_eq_bind, Option.bind_some]
  cases offsetAtEnd? (written Zone.text z) <;> rfl

/-! ## the descriptions -/

section
variable (d : Day) (hour : Fin 24) (minute : Fin 60)

/-- Fields with date and time of day, and maybe more, determine day and time of day. -/
theorem timeOfDay?_clockFields {f : Fields} {s n : Nat} (h : f.hour = some hour.val ∧
    f.minute = some minute.val) (hle : s ≤ 59) (hsecond : f.second = some s ∧
      (f.subsecond = some n ∨ f.subsecond = none ∧ n = 0) ∨
        f.second = none ∧ s = 0 ∧ f.subsecond = none ∧ n = 0) :
    f.timeOfDay? = some (hour.val, minute.val, s, n) := by
  have hrange : hour.val ≤ 23 ∧ minute.val ≤ 59 ∧ s ≤ 59 := by omega
  obtain ⟨hhour, hminute⟩ := h
  obtain ⟨hs, hn | ⟨hn, rfl⟩⟩ | ⟨hs, rfl, hn, rfl⟩ := hsecond
  all_goals
    simp only [Fields.timeOfDay?, Fields.hourOfDay?, hhour, hminute, hs, hn, Option.bind_eq_bind,
      Option.bind_some, hrange, and_self, if_true]

/-- An offset after them is the zone's. -/
theorem zoned?_clockFields (second : Fin 60) (behind : Bool) (h : Fin 24) (m : Fin 60) :
    Fields.zoned? { secondFields d hour minute second with
        offsetHour := some (h.val, behind), offsetMinute := some m.val } =
      some (ofLocal (Calendar.dayNumber d.year d.month d.day) hour minute second 0
        (Zone.offset behind false h m).ahead) := by
  have hzone : h.val ≤ 25 ∧ m.val ≤ 59 ∧ 0 ≤ 59 := by omega
  have hahead : (if behind then -((h.val : Int) * 3600 + m.val * 60 + (0 : Nat)) else
      (h.val : Int) * 3600 + m.val * 60 + (0 : Nat)) = (Zone.offset behind false h m).ahead := by
    rw [Int.natCast_zero, Int.add_zero, Zone.ahead]
  refine Fields.zoned?_eq rfl (Fields.day?_of_date _ d ⟨rfl, rfl, rfl, rfl⟩)
    (timeOfDay?_clockFields hour minute ⟨rfl, rfl⟩ (by omega)
      (.inl ⟨rfl, .inr ⟨rfl, rfl⟩⟩)) ?_
  rw [← hahead]
  exact if_pos hzone

variable (s : Seconds) (z : Option Zone)

/-- Of a date alone nothing is left for a description that goes on with a time of day. -/
theorem readAll?_dayOnly (items : List DateItem) :
    ({} : Fields).readAll? (plainDate ++ .literal ['T'] :: items)
      (DateLiteral.text ⟨d, none, z⟩) = none := by
  rw [DateLiteral.text, Fields.readAll?_plainDate, written_none, List.nil_append]
  exact Fields.readAll?_literal_ne _ _ (head?_zone z (by decide))

/-- A date and a time of day in hours and minutes are taken off. -/
theorem readAll?_clock (seconds : Option Seconds) (items : List DateItem) :
    ({} : Fields).readAll? (plainDate ++ .literal ['T'] :: (hourMinute ++ items))
        (DateLiteral.text ⟨d, some ⟨hour, minute, seconds⟩, z⟩) =
      (clockFields d hour minute).readAll? items
        (written Seconds.text seconds ++ written Zone.text z) := by
  simp only [DateLiteral.text, written_some, Clock.text, List.cons_append, List.append_assoc]
  rw [Fields.readAll?_plainDate, Fields.readAll?_literal, Fields.readAll?_hourMinute]
  rfl

/-- Seconds are not found where there are none, -/
theorem readAll?_noSeconds (items : List DateItem) :
    (clockFields d hour minute).readAll? (.literal [':'] :: items)
      (written Seconds.text none ++ written Zone.text z) = none :=
  Fields.readAll?_literal_ne _ _ (head?_zone z (by decide))

/-- and are taken off where there are. -/
theorem readAll?_seconds (items : List DateItem) :
    (clockFields d hour minute).readAll? (.literal [':'] :: .component (.second .zero) :: items)
        (written Seconds.text (some s) ++ written Zone.text z) =
      (secondFields d hour minute s.second).readAll? items
        (written Fraction.text s.fraction ++ written Zone.text z) := by
  simp only [written_some, Seconds.text, List.cons_append, List.append_assoc]
  rw [Fields.readAll?_second]
  rfl

/-! ## an offset without a colon -/

theorem compactOffset_eq : compactOffset = plainDate ++ .literal ['T'] :: (hourMinute ++
    [.literal [':'], .component (.second .zero), .component (.offsetHour true .zero),
      .component (.offsetMinute .zero)]) := rfl

/-- It has to come after seconds, -/
theorem readAll?_compactOffset_brief (w : DateLiteral) (h : w.clock.bind Clock.seconds = none) :
    ({} : Fields).readAll? compactOffset w.text = none := by
  obtain ⟨d, k, z⟩ := w
  rw [compactOffset_eq]
  match k, h with
  | none, _ => exact readAll?_dayOnly d z _
  | some ⟨hour, minute, none⟩, _ => rw [readAll?_clock, readAll?_noSeconds]

/-- and after whole ones. -/
theorem readAll?_compactOffset_seconds :
    (({} : Fields).readAll? compactOffset
        (DateLiteral.text ⟨d, some ⟨hour, minute, some s⟩, z⟩)).bind Fields.zoned? =
      match s.fraction, z with
      | none, some (.offset behind false h m) =>
        some (ofLocal (Calendar.dayNumber d.year d.month d.day) hour minute s.second 0
          (Zone.offset behind false h m).ahead)
      | _, _ => none := by
  obtain ⟨second, fraction⟩ := s
  rw [compactOffset_eq, readAll?_clock, readAll?_seconds]
  have hnone {f : Fields} {items : List DateItem} {cs : List Char}
      (h : Component.sign? cs = none) :
      (f.readAll? (.component (.offsetHour true .zero) :: items) cs).bind Fields.zoned? = none := by
    rw [Fields.readAll?_component_none _ _ (Component.read?_offsetHour_none _ h), Option.bind_none]
  match fraction, z with
  | some f, _ => exact hnone rfl
  | none, none => exact hnone rfl
  | none, some .utc => exact hnone rfl
  | none, some (.offset behind true h m) =>
      have hcolon (f : Fields) : f.readAll? [.component (.offsetMinute .zero)]
          (':' :: Moment.padded 2 m) = none :=
        Fields.readAll?_component_none _ _ rfl
      simp only [written_none, written_some, Zone.text, List.nil_append, List.cons_append, if_true]
      rw [Fields.readAll?_component _ _ (Component.read?_offsetHour _ _ behind h), hcolon,
        Option.bind_none]
  | none, some (.offset behind false h m) =>
      simp only [written_none, written_some, List.nil_append]
      rw [Fields.readAll?_offset, Option.bind_some]
      exact zoned?_clockFields d hour minute second behind h m

/-! ## no offset -/

/-- Where a description ends the text has to end. -/
theorem readAll?_zone (f : Fields) : f.readAll? [] (written Zone.text z) =
    if z.isNone then some f else none := by
  match z with
  | none => rfl
  | some .utc => rfl
  | some (.offset _ _ _ _) => rfl

/-- The instant is that of the day and the time of day, less the offset. -/
theorem moment_eq_ofLocal {w : DateLiteral} {h m s n : Nat}
    (hk : (w.clock.map Clock.nanos).getD 0 = (h * 3600 + m * 60 + s) * 1000000000 + n) :
    w.moment = ofLocal (Calendar.dayNumber w.date.year w.date.month w.date.day) h m s n w.ahead := by
  have hday := Calendar.dayNumber_eq_elapsed w.date.month w.date.named.1 w.date.day_le.1
  simp only [moment, ofLocal, instant, civil, hday, hk, nanosPerSecond, Moment.mk.injEq, and_true]
  omega

theorem moment_dayOnly : DateLiteral.moment ⟨d, none, z⟩ =
    ofLocal (Calendar.dayNumber d.year d.month d.day) 0 0 0 0 ((z.map Zone.ahead).getD 0) := by
  refine moment_eq_ofLocal ?_
  rw [Option.map_none, Option.getD_none]

theorem moment_minutes : DateLiteral.moment ⟨d, some ⟨hour, minute, none⟩, z⟩ =
    ofLocal (Calendar.dayNumber d.year d.month d.day) hour minute 0 0
      ((z.map Zone.ahead).getD 0) := by
  refine moment_eq_ofLocal ?_
  rw [Option.map_some, Option.getD_some, Clock.nanos, Option.map_none, Option.getD_none]
  dsimp only
  omega

theorem moment_seconds : DateLiteral.moment ⟨d, some ⟨hour, minute, some s⟩, z⟩ =
    ofLocal (Calendar.dayNumber d.year d.month d.day) hour minute s.second
      ((s.fraction.map Fraction.nanos).getD 0) ((z.map Zone.ahead).getD 0) := by
  refine moment_eq_ofLocal ?_
  rw [Option.map_some, Option.getD_some, Clock.nanos, Option.map_some, Option.getD_some,
    Seconds.nanos]
  dsimp only
  omega

/-- The first local form, -/
def toFraction : List DateItem := plainDate ++ .literal ['T'] :: (hourMinute ++
  [.literal [':'], .component (.second .zero), .literal ['.'], .component (.subsecond none)])

/-- the second, -/
def toSeconds : List DateItem := plainDate ++ .literal ['T'] :: (hourMinute ++
  [.literal [':'], .component (.second .zero)])

/-- and the third. -/
def toMinutes : List DateItem := plainDate ++ .literal ['T'] :: (hourMinute ++ [])

theorem localForms_eq : localForms = [toFraction, toSeconds, toMinutes] := rfl

/-- Each of them reads what is written so far and has no zone. -/
theorem readAll?_toMinutes (w : DateLiteral) :
    (({} : Fields).readAll? toMinutes w.text).bind Fields.local? =
      match w.clock, w.zone with
      | some ⟨_, _, none⟩, none => some w.moment
      | _, _ => none := by
  obtain ⟨d, k, z⟩ := w
  rw [toMinutes]
  match k with
  | none => rw [readAll?_dayOnly, Option.bind_none]
  | some ⟨hour, minute, some s⟩ =>
      rw [readAll?_clock]
      rfl
  | some ⟨hour, minute, none⟩ =>
      rw [readAll?_clock, written_none, List.nil_append, readAll?_zone]
      match z with
      | some z => rfl
      | none =>
          rw [moment_minutes]
          exact Fields.local?_eq (Fields.day?_of_date _ d ⟨rfl, rfl, rfl, rfl⟩)
            (timeOfDay?_clockFields hour minute ⟨rfl, rfl⟩ (by omega) (.inr ⟨rfl, rfl, rfl, rfl⟩))

theorem readAll?_toSeconds (w : DateLiteral) :
    (({} : Fields).readAll? toSeconds w.text).bind Fields.local? =
      match w.clock, w.zone with
      | some ⟨_, _, some ⟨_, none⟩⟩, none => some w.moment
      | _, _ => none := by
  obtain ⟨d, k, z⟩ := w
  rw [toSeconds]
  match k with
  | none => rw [readAll?_dayOnly, Option.bind_none]
  | some ⟨hour, minute, none⟩ =>
      rw [readAll?_clock, readAll?_noSeconds, Option.bind_none]
  | some ⟨hour, minute, some ⟨second, some f⟩⟩ =>
      rw [readAll?_clock, readAll?_seconds]
      rfl
  | some ⟨hour, minute, some ⟨second, none⟩⟩ =>
      rw [readAll?_clock, readAll?_seconds, written_none, List.nil_append, readAll?_zone]
      match z with
      | some z => rfl
      | none =>
          rw [moment_seconds]
          exact Fields.local?_eq (Fields.day?_of_date _ d ⟨rfl, rfl, rfl, rfl⟩)
            (timeOfDay?_clockFields hour minute ⟨rfl, rfl⟩ (by omega)
              (.inl ⟨rfl, .inr ⟨rfl, rfl⟩⟩))

theorem readAll?_toFraction (w : DateLiteral) :
    (({} : Fields).readAll? toFraction w.text).bind Fields.local? =
      match w.clock, w.zone with
      | some ⟨_, _, some ⟨_, some _⟩⟩, none => some w.moment
      | _, _ => none := by
  obtain ⟨d, k, z⟩ := w
  rw [toFraction]
  match k with
  | none => rw [readAll?_dayOnly, Option.bind_none]
  | some ⟨hour, minute, none⟩ =>
      rw [readAll?_clock, readAll?_noSeconds, Option.bind_none]
  | some ⟨hour, minute, some ⟨second, none⟩⟩ =>
      rw [readAll?_clock, readAll?_seconds, written_none, List.nil_append,
        Fields.readAll?_literal_ne _ _ (head?_zone z (by decide)), Option.bind_none]
  | some ⟨hour, minute, some ⟨second, some f⟩⟩ =>
      rw [readAll?_clock, readAll?_seconds, written_some, Fraction.text, List.cons_append,
        Fields.readAll?_literal,
        Fields.readAll?_component _ _ (Component.read?_subsecond _ f.isDigits (isDigit_head?_zone z)),
        readAll?_zone, Component.nanosOf_eq f.short]
      match z with
      | some z => rfl
      | none =>
          rw [moment_seconds]
          exact Fields.local?_eq (Fields.day?_of_date _ d ⟨rfl, rfl, rfl, rfl⟩)
            (timeOfDay?_clockFields hour minute ⟨rfl, rfl⟩ (by omega)
              (.inl ⟨rfl, .inl rfl⟩))

theorem readAll?_plainDate (w : DateLiteral) :
    (({} : Fields).readAll? plainDate w.text).bind Fields.dateOnly? =
      match w.clock, w.zone with
      | none, none => some w.moment
      | _, _ => none := by
  obtain ⟨d, k, z⟩ := w
  have h := Fields.readAll?_plainDate [] (written Clock.text k ++ written Zone.text z) d
  rw [List.append_nil] at h
  rw [DateLiteral.text, h]
  cases k with
  | some k => rfl
  | none =>
      cases z with
      | some z => cases z <;> rfl
      | none =>
          rw [moment_dayOnly]
          exact congrArg (Option.map _) (Fields.day?_of_date _ d ⟨rfl, rfl, rfl, rfl⟩)

/-- Without an offset every date is read, by the form that it is written in. -/
theorem ofLocalText?_text (w : DateLiteral) :
    ofLocalText? w.text = if w.zone.isNone then some w.moment else none := by
  rw [ofLocalText?, octets_of_dateChars w.isDateChar_text, localForms_eq]
  simp only [List.findSome?_cons, List.findSome?_nil, readAll?_toFraction, readAll?_toSeconds,
    readAll?_toMinutes, readAll?_plainDate]
  obtain ⟨d, k, z⟩ := w
  match k with
  | none => cases z <;> rfl
  | some ⟨hour, minute, none⟩ => cases z <;> rfl
  | some ⟨hour, minute, some ⟨second, none⟩⟩ => cases z <;> rfl
  | some ⟨hour, minute, some ⟨second, some f⟩⟩ => cases z <;> rfl

end

/-! ## all forms -/

/-- With a zone a date is read as a whole if it has seconds. -/
theorem ofZonedText?_text (w : DateLiteral) : ofZonedText? w.text =
    if (w.clock.bind Clock.seconds).isSome && w.zone.isSome && w.isReadable then some w.moment
    else none := by
  have hchars := w.isDateChar_text
  rw [ofZonedText?, octets_of_dateChars hchars, ofMailOrder?_of_dateChars hchars]
  cases hs : w.clock.bind Clock.seconds with
  | none =>
      rw [ofRfc3339?_brief w hs, readAll?_compactOffset_brief w hs]
      rfl
  | some s =>
      obtain ⟨d, k, z⟩ := w
      obtain ⟨⟨hour, minute, _⟩, rfl, rfl⟩ := Option.bind_eq_some_iff.mp hs
      rw [readAll?_compactOffset_seconds, moment_seconds, DateLiteral.text, Day.text_eq,
        written_some, ofRfc3339?_seconds d.year_lt d.valid]
      obtain ⟨second, fraction⟩ := s
      cases z with
      | none => cases fraction <;> rfl
      | some z =>
          cases z with
          | utc => rfl
          | offset behind colon h m =>
              cases colon with
              | true =>
                  rw [written_some, offsetAtEnd?_colon]
                  cases fraction <;> rfl
              | false =>
                  rw [written_some, offsetAtEnd?_compact]
                  cases fraction <;> rfl

theorem text_utc (d : Day) (k : Option Clock) : DateLiteral.text ⟨d, k, some .utc⟩ =
    DateLiteral.text ⟨d, k, none⟩ ++ ['Z'] := by
  simp [DateLiteral.text, Zone.text]

theorem moment_utc (d : Day) (k : Option Clock) :
    DateLiteral.moment ⟨d, k, some .utc⟩ = DateLiteral.moment ⟨d, k, none⟩ := by
  have hahead : ahead ⟨d, k, some .utc⟩ = ahead ⟨d, k, none⟩ := rfl
  rw [moment, moment, instant, instant, hahead]
  rfl

/-- **Which dates are read.**  Every date that is said to be readable is read as its moment, and no
other is read. -/
theorem ofText?_text (w : DateLiteral) :
    ofText? w.text = if w.isReadable then some w.moment else none := by
  rw [ofText?, trim_of_dateChars w.isDateChar_text]
  obtain ⟨d, k, z⟩ := w
  match z with
  | none =>
      have hlast : (DateLiteral.text ⟨d, k, none⟩).getLast? ≠ some 'Z' :=
        getLast?_text_ne (by simp)
      simp [ofZonedText?_text, hlast, ofLocalText?_text, isReadable]
  | some .utc =>
      have hlocal := ofLocalText?_text ⟨d, k, none⟩
      rw [ofZonedText?_text, text_utc, List.getLast?_concat, if_pos rfl, List.dropLast_concat, hlocal,
        moment_utc]
      cases k.bind Clock.seconds <;> rfl
  | some (.offset behind colon h m) =>
      have hlast : (DateLiteral.text ⟨d, k, some (.offset behind colon h m)⟩).getLast? ≠ some 'Z' :=
        getLast?_text_ne (by simp)
      rw [ofZonedText?_text, if_neg hlast, ofLocalText?_text]
      cases hs : k.bind Clock.seconds with
      | none => simp [isReadable, hs]
      | some s =>
          cases hread : isReadable ⟨d, k, some (.offset behind colon h m)⟩ <;> simp

end Moment

end TreeSift
