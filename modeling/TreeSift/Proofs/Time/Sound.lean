import TreeSift.Proofs.Time.Reading

/-!
# TreeSift.Proofs.Time.Sound

What the forms without an offset read is a date that was written in one of them.

1. *Components*: where one is read, the text starts with what would be written for the number that
   is found (`Fields.readAll?_year_sound`, `Fields.readAll?_number_sound`,
   `Fields.readAll?_subsecond_sound`).
2. *Walkers* thread these through a date and a time of day (`Fields.readAll?_plainDate_sound`,
   `Fields.readAll?_hourMinute_sound`, `Fields.readAll?_clock_sound`).
3. So a text that is read without an offset is that of an `Unzoned` date, and its moment is that
   date's (`Moment.ofLocalText?_sound`).  There are more of these than a date literal can write: the
   year may be signed, and a fraction may have any number of digits.
-/

namespace TreeSift

open Lexeme DateLiteral

/-! ## components -/

namespace Component

variable {cs rest : List Char}

theorem within?_sound {least most width n : Nat} (hw : 0 < width)
    (h : within? least most (padded? .zero width cs) = some (n, rest)) :
    (least ≤ n ∧ n ≤ most) ∧ cs = Moment.padded width n ++ rest := by
  obtain ⟨p, hp, hrange⟩ := Option.bind_eq_some_iff.mp h
  rw [Option.ite_none_right_eq_some] at hrange
  obtain ⟨hrange, hpair⟩ := hrange
  injection hpair with hpair
  subst hpair
  exact ⟨hrange, ((digits?_eq_some_iff hw).mp hp).2⟩

theorem optionalSign?_sound {s : Option Bool} (h : optionalSign? false cs = some (s, rest)) :
    cs = signText s ++ rest := by
  unfold optionalSign? at h
  split at h
  · next neg r hsign =>
    simp only [Option.some.injEq, Prod.mk.injEq] at h
    obtain ⟨rfl, rfl⟩ := h
    unfold sign? at hsign
    split at hsign <;> simp_all [signText, sign]
  · simp only [Bool.false_eq_true, if_false, Option.some.injEq, Prod.mk.injEq] at h
    obtain ⟨rfl, rfl⟩ := h
    rfl

end Component

namespace Fields

open Component

variable {f g : Fields} {items : List DateItem} {cs : List Char}

theorem readAll?_nil_sound (h : f.readAll? [] cs = some g) : cs = [] ∧ f = g := by
  simpa [readAll?] using h

theorem readAll?_literal_sound {c : Char}
    (h : f.readAll? (.literal [c] :: items) cs = some g) :
    ∃ rest, cs = c :: rest ∧ f.readAll? items rest = some g := by
  by_cases hhead : cs.head? = some c
  · obtain ⟨rest, rfl⟩ := List.head?_eq_some_iff.mp hhead
    exact ⟨rest, rfl, readAll?_literal f items c rest ▸ h⟩
  · rw [readAll?_literal_ne f items hhead] at h
    contradiction

theorem readAll?_component_sound {c : Component}
    (h : f.readAll? (.component c :: items) cs = some g) :
    ∃ f' rest, c.read? f cs = some (f', rest) ∧ f'.readAll? items rest = some g := by
  cases hread : c.read? f cs with
  | none =>
      rw [readAll?_component_none f items hread] at h
      contradiction
  | some p => exact ⟨p.1, p.2, rfl, readAll?_component f items hread ▸ h⟩

theorem readAll?_year_sound
    (h : f.readAll? (.component (.year .zero .full false false) :: items) cs = some g) :
    ∃ s n rest, n < 10000 ∧ cs = signText s ++ (Moment.padded 4 n ++ rest) ∧
      { f with year := some (signedYear s n) }.readAll? items rest = some g := by
  obtain ⟨f', rest, hread, h⟩ := readAll?_component_sound h
  obtain ⟨⟨y, r⟩, hyear, hset⟩ := Option.map_eq_some_iff.mp hread
  obtain ⟨⟨s, cs'⟩, hsign, hnumber⟩ := Option.bind_eq_some_iff.mp hyear
  obtain ⟨⟨n, r'⟩, hdigits, hvalue⟩ := Option.bind_eq_some_iff.mp hnumber
  obtain ⟨hn, hcs'⟩ := (digits?_eq_some_iff (by decide)).mp hdigits
  have hy : y.1 = signedYear s n ∧ r' = r := by
    dsimp only at hvalue
    unfold signedYear
    split at hvalue
    · simp only [Option.some.injEq, Prod.mk.injEq] at hvalue
      obtain ⟨rfl, rfl⟩ := hvalue
      simp
    · next hminus =>
      simp only [Option.some.injEq, Prod.mk.injEq] at hvalue
      obtain ⟨rfl, rfl⟩ := hvalue
      exact ⟨(if_neg fun hs => hminus hs).symm, rfl⟩
  simp only [Bool.false_eq_true, if_false, Prod.mk.injEq] at hset
  obtain ⟨rfl, rfl⟩ := hset
  rw [hy.1] at h
  exact ⟨s, n, r, hn, by rw [optionalSign?_sound hsign, hcs', hy.2], h⟩

theorem readAll?_number_sound {c : Component} {least most : Nat} {set : Fields → Nat → Fields}
    (hc : c.IsNumber least most set) (h : f.readAll? (.component c :: items) cs = some g) :
    ∃ n rest, (least ≤ n ∧ n ≤ most) ∧ cs = Moment.padded 2 n ++ rest ∧
      (set f n).readAll? items rest = some g := by
  obtain ⟨f', rest, hread, h⟩ := readAll?_component_sound h
  rw [hc] at hread
  obtain ⟨⟨n, r⟩, hn, hset⟩ := Option.map_eq_some_iff.mp hread
  simp only [Prod.mk.injEq] at hset
  obtain ⟨rfl, rfl⟩ := hset
  obtain ⟨hrange, hcs⟩ := within?_sound (by decide) hn
  exact ⟨n, r, hrange, hcs, h⟩

theorem readAll?_subsecond_sound
    (h : f.readAll? (.component (.subsecond none) :: items) cs = some g) :
    ∃ ds rest, IsDigits ds ∧ cs = ds ++ rest ∧
      { f with subsecond := some (nanosOf ds) }.readAll? items rest = some g := by
  obtain ⟨f', rest, hread, h⟩ := readAll?_component_sound h
  simp only [read?, Option.ite_none_left_eq_some, Option.some.injEq, Prod.mk.injEq,
    Option.getD_none] at hread
  obtain ⟨hlength, rfl, hrest⟩ := hread
  refine ⟨cs.takeWhile Char.isDigit, rest, ⟨fun hnil => hlength ?_, ?_⟩, ?_, h⟩
  · rw [hnil]
    decide
  · exact fun c hc => List.mem_takeWhile_imp hc
  · rw [← hrest]
    exact (List.prefix_iff_eq_append.mp (List.takeWhile_prefix _)).symm

/-! ## walkers -/

theorem readAll?_plainDate_sound (h : f.readAll? (Moment.plainDate ++ items) cs = some g) :
    ∃ s year month day rest, year < 10000 ∧
      cs = signText s ++ (dateText year month day ++ rest) ∧
      { f with year := some (signedYear s year), month := some month, day := some day }.readAll?
        items rest = some g := by
  simp only [Moment.plainDate, List.cons_append, List.nil_append] at h
  obtain ⟨s, year, r₁, hyear, hcs, h⟩ := readAll?_year_sound h
  obtain ⟨r₂, hr₁, h⟩ := readAll?_literal_sound h
  obtain ⟨month, r₃, -, hr₂, h⟩ := readAll?_number_sound isNumber_month h
  obtain ⟨r₄, hr₃, h⟩ := readAll?_literal_sound h
  obtain ⟨day, rest, -, hr₄, h⟩ := readAll?_number_sound isNumber_day h
  refine ⟨s, year, month, day, rest, hyear, ?_, h⟩
  simp only [hcs, hr₁, hr₂, hr₃, hr₄, dateText, List.append_assoc, List.cons_append]

theorem readAll?_hourMinute_sound (h : f.readAll? (Moment.hourMinute ++ items) cs = some g) :
    ∃ (hour : Fin 24) (minute : Fin 60) (rest : List Char),
      cs = Moment.padded 2 hour ++ ':' :: (Moment.padded 2 minute ++ rest) ∧
      { f with hour := some (hour : Nat), minute := some (minute : Nat) }.readAll? items rest =
        some g := by
  simp only [Moment.hourMinute, List.cons_append, List.nil_append] at h
  obtain ⟨hour, r₁, hhour, hcs, h⟩ := readAll?_number_sound isNumber_hour h
  obtain ⟨r₂, hr₁, h⟩ := readAll?_literal_sound h
  obtain ⟨minute, rest, hminute, hr₂, h⟩ := readAll?_number_sound isNumber_minute h
  exact ⟨⟨hour, by omega⟩, ⟨minute, by omega⟩, rest, by rw [hcs, hr₁, hr₂], h⟩

theorem readAll?_clock_sound (h : f.readAll? (Moment.plainDate ++ .literal ['T'] ::
      (Moment.hourMinute ++ items)) cs = some g) :
    ∃ s year month day, ∃ (hour : Fin 24) (minute : Fin 60), ∃ rest, year < 10000 ∧
      cs = signText s ++ (dateText year month day ++ 'T' :: (Moment.padded 2 hour ++ ':' ::
        (Moment.padded 2 minute ++ rest))) ∧
      { f with year := some (signedYear s year), month := some month, day := some day,
               hour := some (hour : Nat), minute := some (minute : Nat) }.readAll? items rest =
        some g := by
  obtain ⟨s, year, month, day, r₁, hyear, hcs, h⟩ := readAll?_plainDate_sound h
  obtain ⟨r₂, hr₁, h⟩ := readAll?_literal_sound h
  obtain ⟨hour, minute, rest, hr₂, h⟩ := readAll?_hourMinute_sound h
  exact ⟨s, year, month, day, hour, minute, rest, hyear, by rw [hcs, hr₁, hr₂], h⟩

end Fields

/-! ## dates without an offset -/

/-- What may follow a date: a time of day down to minutes, to seconds or to a fraction. -/
inductive DayTime where
  | none
  | minutes (hour : Fin 24) (minute : Fin 60)
  | seconds (hour : Fin 24) (minute second : Fin 60)
  | fraction (hour : Fin 24) (minute second : Fin 60) (digits : List Char)
    (isDigits : IsDigits digits)

namespace DayTime

def text : DayTime → List Char
  | none => []
  | minutes hour minute =>
    'T' :: (Moment.padded 2 hour ++ ':' :: Moment.padded 2 minute)
  | seconds hour minute second =>
    'T' :: (Moment.padded 2 hour ++ ':' :: (Moment.padded 2 minute ++ ':' ::
      Moment.padded 2 second))
  | fraction hour minute second digits _ =>
    'T' :: (Moment.padded 2 hour ++ ':' :: (Moment.padded 2 minute ++ ':' ::
      (Moment.padded 2 second ++ '.' :: digits)))

/-- The moment of a day at that time in UTC. -/
def moment (day : Int) : DayTime → Moment
  | none => .ofLocal day 0 0 0 0 0
  | minutes hour minute => .ofLocal day hour minute 0 0 0
  | seconds hour minute second => .ofLocal day hour minute second 0 0
  | fraction hour minute second digits _ =>
    .ofLocal day hour minute second (Component.nanosOf digits) 0

theorem moment_offset (day : Int) (k : DayTime) : (k.moment day).offset = 0 := by
  cases k <;> rfl

theorem forall_mem_text {p : Char → Prop} (hp : OfDateChars p) (k : DayTime) :
    ∀ c ∈ k.text, p c := by
  have hmark := hp.mark
  have hnumber := hp.padded 2
  cases k with
  | none => simp [text]
  | minutes hour minute =>
      simp only [text, List.forall_mem_cons, List.forall_mem_append]
      exact ⟨hmark _ (by decide), hnumber _, hmark _ (by decide), hnumber _⟩
  | seconds hour minute second =>
      simp only [text, List.forall_mem_cons, List.forall_mem_append]
      exact ⟨hmark _ (by decide), hnumber _, hmark _ (by decide), hnumber _, hmark _ (by decide),
        hnumber _⟩
  | fraction hour minute second digits hdigits =>
      simp only [text, List.forall_mem_cons, List.forall_mem_append]
      exact ⟨hmark _ (by decide), hnumber _, hmark _ (by decide), hnumber _, hmark _ (by decide),
        hnumber _, hmark _ (by decide), fun c hc => hp.digit c (hdigits.2 c hc)⟩

end DayTime

/-- A date as the forms without an offset have it. -/
structure Unzoned where
  sign : Option Bool
  year : Nat
  month : Nat
  day : Nat
  year_lt : year < 10000
  valid : Calendar.isValid (Component.signedYear sign year) month day = true
  time : DayTime

namespace Unzoned

variable (w : Unzoned)

def text : List Char :=
  Component.signText w.sign ++ (dateText w.year w.month w.day ++ w.time.text)

def dayNumber : Int := Calendar.dayNumber (Component.signedYear w.sign w.year) w.month w.day

def moment : Moment := w.time.moment w.dayNumber

theorem forall_mem_text {p : Char → Prop} (hp : OfDateChars p) : ∀ c ∈ w.text, p c := by
  have hsign : ∀ c ∈ Component.signText w.sign, p c := by
    refine forall_mem_written (fun behind c hc => ?_) w.sign
    obtain rfl := List.mem_singleton.mp hc
    cases behind <;> exact hp.mark _ (by decide)
  simp only [text, List.forall_mem_append]
  exact ⟨hsign, forall_mem_dateText hp _ _ _, w.time.forall_mem_text hp⟩

theorem isDateChar_text : ∀ c ∈ w.text, isDateChar c = true :=
  w.forall_mem_text ofDateChars_isDateChar

/-- It does not end with `Z`. -/
theorem getLast?_text_ne : w.text.getLast? ≠ some 'Z' := by
  intro hlast
  have hne : ∀ c ∈ w.text, c ≠ 'Z' :=
    w.forall_mem_text ⟨fun c hc => ne_of_isDigit hc rfl, by simp⟩
  exact hne 'Z' (List.mem_of_getLast? hlast) rfl

end Unzoned

namespace Fields

variable {f : Fields} {m : Moment}

theorem day?_sound {year n : Int} {month day : Nat} (hf : f.year = some year ∧
      f.month = some month ∧ f.day = some day ∧ f.ordinal = none) (h : f.day? = some n) :
    Calendar.isValid year month day = true ∧ n = Calendar.dayNumber year month day := by
  obtain ⟨hyear, hmonth, hday, hordinal⟩ := hf
  simp only [day?, wholeYear?, hyear, hmonth, hday, hordinal, Option.ite_none_right_eq_some,
    Option.some.injEq] at h
  exact ⟨h.1.2, h.2.symm⟩

/-- A leap second is no time of day. -/
theorem second_le_of_timeOfDay? {second : Nat} {t : Nat × Nat × Nat × Nat}
    (hf : f.second = some second) (h : f.timeOfDay? = some t) : second ≤ 59 := by
  obtain ⟨hour, -, h⟩ := Option.bind_eq_some_iff.mp h
  rw [hf] at h
  cases hminute : f.minute with
  | none => simp [hminute] at h
  | some minute =>
      cases hnano : f.subsecond
      all_goals
        simp only [hminute, hnano, Option.bind_eq_bind, Option.bind_some,
          Option.ite_none_right_eq_some] at h
        exact h.1.2.2

/-- Fields with a date and a time of day are of a date in the calendar and of a time before a leap
second. -/
theorem local?_sound {year : Int} {month day : Nat} {hour : Fin 24} {minute : Fin 60}
    {second nano : Nat} (hdate : f.year = some year ∧ f.month = some month ∧ f.day = some day ∧
      f.ordinal = none)
    (hclock : f.hour = some hour.val ∧ f.minute = some minute.val)
    (hsecond : f.second = some second ∧
      (f.subsecond = some nano ∨ f.subsecond = none ∧ nano = 0) ∨
        f.second = none ∧ second = 0 ∧ f.subsecond = none ∧ nano = 0)
    (h : f.local? = some m) : Calendar.isValid year month day = true ∧ second ≤ 59 ∧
      m = Moment.ofLocal (Calendar.dayNumber year month day) hour minute second nano 0 := by
  obtain ⟨n, hday, h⟩ := Option.bind_eq_some_iff.mp h
  obtain ⟨⟨h', m', s', n'⟩, htime, h⟩ := Option.bind_eq_some_iff.mp h
  obtain ⟨hvalid, rfl⟩ := day?_sound hdate hday
  have hle : second ≤ 59 := by
    obtain ⟨hs, -⟩ | ⟨-, rfl, -⟩ := hsecond
    · exact second_le_of_timeOfDay? hs htime
    · decide
  rw [Moment.timeOfDay?_clockFields hour minute hclock hle hsecond] at htime
  simp only [Option.some.injEq, Prod.mk.injEq] at htime h
  obtain ⟨rfl, rfl, rfl, rfl⟩ := htime
  exact ⟨hvalid, hle, h.symm⟩

end Fields

namespace Moment

open Fields Component

variable {cs : List Char} {m : Moment}

theorem toMinutes_sound
    (h : (({} : Fields).readAll? toMinutes cs).bind Fields.local? = some m) :
    ∃ w : Unzoned, cs = w.text ∧ m = w.moment := by
  obtain ⟨g, hread, hlocal⟩ := Option.bind_eq_some_iff.mp h
  obtain ⟨s, year, month, day, hour, minute, r, hyear, hcs, hread⟩ := readAll?_clock_sound hread
  obtain ⟨hr, rfl⟩ := readAll?_nil_sound hread
  obtain ⟨hvalid, -, hm⟩ := local?_sound ⟨rfl, rfl, rfl, rfl⟩ ⟨rfl, rfl⟩
    (.inr ⟨rfl, rfl, rfl, rfl⟩) hlocal
  refine ⟨⟨s, year, month, day, hyear, hvalid, .minutes hour minute⟩, ?_, hm⟩
  rw [hcs, hr, List.append_nil]
  rfl

theorem toSeconds_sound
    (h : (({} : Fields).readAll? toSeconds cs).bind Fields.local? = some m) :
    ∃ w : Unzoned, cs = w.text ∧ m = w.moment := by
  obtain ⟨g, hread, hlocal⟩ := Option.bind_eq_some_iff.mp h
  obtain ⟨s, year, month, day, hour, minute, r₁, hyear, hcs, hread⟩ := readAll?_clock_sound hread
  obtain ⟨r₂, hr₁, hread⟩ := readAll?_literal_sound hread
  obtain ⟨second, r₃, -, hr₂, hread⟩ := readAll?_number_sound isNumber_second hread
  obtain ⟨hr₃, rfl⟩ := readAll?_nil_sound hread
  obtain ⟨hvalid, hsecond, hm⟩ := local?_sound ⟨rfl, rfl, rfl, rfl⟩ ⟨rfl, rfl⟩
    (.inl ⟨rfl, .inr ⟨rfl, rfl⟩⟩) hlocal
  refine ⟨⟨s, year, month, day, hyear, hvalid, .seconds hour minute ⟨second, by omega⟩⟩, ?_, hm⟩
  rw [hcs, hr₁, hr₂, hr₃, List.append_nil]
  rfl

theorem toFraction_sound
    (h : (({} : Fields).readAll? toFraction cs).bind Fields.local? = some m) :
    ∃ w : Unzoned, cs = w.text ∧ m = w.moment := by
  obtain ⟨g, hread, hlocal⟩ := Option.bind_eq_some_iff.mp h
  obtain ⟨s, year, month, day, hour, minute, r₁, hyear, hcs, hread⟩ := readAll?_clock_sound hread
  obtain ⟨r₂, hr₁, hread⟩ := readAll?_literal_sound hread
  obtain ⟨second, r₃, -, hr₂, hread⟩ := readAll?_number_sound isNumber_second hread
  obtain ⟨r₄, hr₃, hread⟩ := readAll?_literal_sound hread
  obtain ⟨digits, r₅, hdigits, hr₄, hread⟩ := readAll?_subsecond_sound hread
  obtain ⟨hr₅, rfl⟩ := readAll?_nil_sound hread
  obtain ⟨hvalid, hsecond, hm⟩ := local?_sound ⟨rfl, rfl, rfl, rfl⟩ ⟨rfl, rfl⟩
    (.inl ⟨rfl, .inl rfl⟩) hlocal
  refine ⟨⟨s, year, month, day, hyear, hvalid,
    .fraction hour minute ⟨second, by omega⟩ digits hdigits⟩, ?_, hm⟩
  rw [hcs, hr₁, hr₂, hr₃, hr₄, hr₅, List.append_nil]
  rfl

theorem plainDate_sound
    (h : (({} : Fields).readAll? plainDate cs).bind Fields.dateOnly? = some m) :
    ∃ w : Unzoned, cs = w.text ∧ m = w.moment := by
  obtain ⟨g, hread, hdate⟩ := Option.bind_eq_some_iff.mp h
  rw [← List.append_nil plainDate] at hread
  obtain ⟨s, year, month, day, r, hyear, hcs, hread⟩ := readAll?_plainDate_sound hread
  obtain ⟨hr, rfl⟩ := readAll?_nil_sound hread
  obtain ⟨_, hday, hm⟩ := Option.map_eq_some_iff.mp hdate
  obtain ⟨hvalid, rfl⟩ := day?_sound ⟨rfl, rfl, rfl, rfl⟩ hday
  refine ⟨⟨s, year, month, day, hyear, hvalid, .none⟩, ?_, hm.symm⟩
  rw [hcs, hr]
  rfl

/-- **What is read without an offset.**  It is a date that was written in one of the forms, and its
moment. -/
theorem ofLocalText?_sound (h : ofLocalText? cs = some m) :
    ∃ w : Unzoned, cs = w.text ∧ m = w.moment := by
  have hoctets : ∃ w : Unzoned, octets cs = w.text ∧ m = w.moment := by
    rw [ofLocalText?, localForms_eq, Option.orElse_eq_orElse, Option.orElse_eq_or,
      Option.or_eq_some_iff] at h
    obtain h | ⟨-, h⟩ := h
    · obtain ⟨form, hform, h⟩ := List.exists_of_findSome?_eq_some h
      simp only [List.mem_cons, List.not_mem_nil, or_false] at hform
      obtain rfl | rfl | rfl := hform
      · exact toFraction_sound h
      · exact toSeconds_sound h
      · exact toMinutes_sound h
    · exact plainDate_sound h
  obtain ⟨w, hw, hm⟩ := hoctets
  have hself : octets cs = cs := octets_eq_self fun c hc =>
    Nat.lt_of_le_of_lt (toNat_of_isDateChar (w.isDateChar_text c (hw ▸ hc))).2 (by decide)
  exact ⟨w, hself ▸ hw, hm⟩

end Moment

end TreeSift
