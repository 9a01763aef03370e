import TreeSift.Filter.Standard
import TreeSift.Proofs.Text.Split
import TreeSift.Proofs.Time.Sound

/-!
# TreeSift.Proofs.Time.Described

Dates read by one of the descriptions that the forms without a description stand for.

1. There are five such forms (`IsoForm.items?_description`).  What one of them takes as a date in
   the calendar is an `IsoText`, and of the five only the one that it is written in takes it
   (`IsoText.exists_of_readAll?`, `IsoText.readAll?_items`).
2. Without a description each form has a reading of its own: the date alone, date and time of day,
   or both with an offset (`IsoForm.reading`, `IsoText.ofText?_reading`).  With a description all
   three are tried one after the other (`IsoText.ofDescription?_text`).
3. That makes a difference for a leap second only, which is no time of day: then the date alone is
   found, although the description goes on with a time (`IsoText.reading_leapSecond`).
-/

namespace TreeSift

open Lexeme DateLiteral

/-! ## forms -/

/-- The forms of a date: the date alone, with hours and minutes, with seconds, and with a fraction
or an offset after these. -/
inductive IsoForm where
  | day
  | minutes
  | seconds
  | fraction
  | offset
deriving DecidableEq, Repr

namespace IsoForm

def description : IsoForm → String
  | day => "[year]-[month]-[day]"
  | minutes => "[year]-[month]-[day]T[hour]:[minute]"
  | seconds => "[year]-[month]-[day]T[hour]:[minute]:[second]"
  | fraction => "[year]-[month]-[day]T[hour]:[minute]:[second].[subsecond]"
  | offset =>
    "[year]-[month]-[day]T[hour]:[minute]:[second][offset_hour sign:mandatory][offset_minute]"

def items : IsoForm → List DateItem
  | day => Moment.plainDate
  | minutes => Moment.toMinutes
  | seconds => Moment.toSeconds
  | fraction => Moment.toFraction
  | offset => Moment.compactOffset

/-- What the fields of the form mean where no description is given. -/
def reading : IsoForm → Fields → Option Moment
  | day => Fields.dateOnly?
  | minutes => Fields.local?
  | seconds => Fields.local?
  | fraction => Fields.local?
  | offset => Fields.zoned?

theorem items?_description (form : IsoForm) :
    Description.items? form.description.toList = some form.items := by
  cases form <;> decide +kernel

/-- What comes after the seconds. -/
def afterSeconds : IsoForm → List DateItem
  | fraction => [.literal ['.'], .component (.subsecond none)]
  | offset => [.component (.offsetHour true .zero), .component (.offsetMinute .zero)]
  | _ => []

/-- What comes after the minutes. -/
def afterMinutes : IsoForm → List DateItem
  | day => []
  | minutes => []
  | form => .literal [':'] :: .component (.second .zero) :: form.afterSeconds

/-- What comes after the day. -/
def afterDay : IsoForm → List DateItem
  | day => []
  | form => .literal ['T'] :: (Moment.hourMinute ++ form.afterMinutes)

theorem items_eq (form : IsoForm) : form.items = Moment.plainDate ++ form.afterDay := by
  cases form <;> rfl

theorem afterDay_eq {form : IsoForm} (h : form ≠ .day) :
    form.afterDay = .literal ['T'] :: (Moment.hourMinute ++ form.afterMinutes) := by
  cases form with
  | day => contradiction
  | _ => rfl

theorem afterMinutes_eq {form : IsoForm} (h : form ≠ .day ∧ form ≠ .minutes) :
    form.afterMinutes = .literal [':'] :: .component (.second .zero) :: form.afterSeconds := by
  cases form with
  | day => exact absurd rfl h.1
  | minutes => exact absurd rfl h.2
  | _ => rfl

variable {form : IsoForm} (f : Fields) (rest : List Char)

/-- Hours and minutes are taken off, -/
theorem readAll?_afterDay (hform : form ≠ .day) (hour : Fin 24) (minute : Fin 60) :
    f.readAll? form.afterDay
        ('T' :: (Moment.padded 2 hour ++ ':' :: (Moment.padded 2 minute ++ rest))) =
      { f with hour := some hour.val, minute := some minute.val }.readAll?
        form.afterMinutes rest := by
  rw [afterDay_eq hform, Fields.readAll?_literal, Fields.readAll?_hourMinute]

/-- and so are seconds. -/
theorem readAll?_afterMinutes (hform : form ≠ .day ∧ form ≠ .minutes) (second : Fin 61) :
    f.readAll? form.afterMinutes (':' :: (Moment.padded 2 second ++ rest)) =
      { f with second := some second.val }.readAll? form.afterSeconds rest := by
  have hsecond := Component.isNumber_second.read?_padded f rest (n := second) (by decide) (by omega)
  rw [afterMinutes_eq hform, Fields.readAll?_literal, Fields.readAll?_component _ _ hsecond]

end IsoForm

/-! ## texts -/

/-- What may follow the seconds. -/
inductive IsoTail where
  | whole
  | fraction (digits : List Char) (isDigits : IsDigits digits)
  | offset (behind : Bool) (hour : Fin 26) (minute : Fin 60)

/-- What may follow a date.  The seconds may be those of a leap second. -/
inductive IsoTime where
  | dayOnly
  | minutes (hour : Fin 24) (minute : Fin 60)
  | seconds (hour : Fin 24) (minute : Fin 60) (second : Fin 61) (tail : IsoTail)

/-- A date as the five forms have it. -/
structure IsoText where
  sign : Option Bool
  year : Nat
  month : Nat
  day : Nat
  year_lt : year < 10000
  valid : Calendar.isValid (Component.signedYear sign year) month day = true
  time : IsoTime

namespace IsoTail

def text : IsoTail → List Char
  | whole => []
  | fraction digits _ => '.' :: digits
  | offset behind hour minute => sign behind :: (Moment.padded 2 hour ++ Moment.padded 2 minute)

def form : IsoTail → IsoForm
  | whole => .seconds
  | fraction _ _ => .fraction
  | offset _ _ _ => .offset

/-- The fields with those of the tail. -/
def addTo (f : Fields) : IsoTail → Fields
  | whole => f
  | fraction digits _ => { f with subsecond := some (Component.nanosOf digits) }
  | offset behind hour minute =>
    { f with offsetHour := some (hour.val, behind), offsetMinute := some minute.val }

theorem form_ne (tail : IsoTail) : tail.form ≠ .day ∧ tail.form ≠ .minutes := by
  cases tail <;> simp [form]

/-- After the seconds each form takes its own tail, and no other. -/
theorem readAll?_text (f : Fields) (tail : IsoTail) {form : IsoForm}
    (hform : form ≠ .day ∧ form ≠ .minutes) :
    f.readAll? form.afterSeconds tail.text =
      if form = tail.form then some (tail.addTo f) else none := by
  cases form with
  | day => exact absurd rfl hform.1
  | minutes => exact absurd rfl hform.2
  | seconds => cases tail <;> rfl
  | fraction =>
      cases tail with
      | whole => rfl
      | fraction digits hdigits =>
          have hend : ∀ c ∈ ([] : List Char).head?, c.isDigit = false := by simp
          have hread := Component.read?_subsecond f hdigits hend
          rw [List.append_nil] at hread
          rw [IsoForm.afterSeconds, text, Fields.readAll?_literal,
            Fields.readAll?_component _ _ hread]
          rfl
      | offset behind hour minute => cases behind <;> rfl
  | offset =>
      cases tail with
      | whole => rfl
      | fraction digits hdigits => rfl
      | offset behind hour minute =>
          have hminute := Component.read?_offsetMinute
            { f with offsetHour := some (hour.val, behind) } [] minute
          rw [List.append_nil] at hminute
          rw [IsoForm.afterSeconds, text, Fields.readAll?_component _ _
            (Component.read?_offsetHour_of_le f _ behind (by omega)),
            Fields.readAll?_component _ _ hminute]
          rfl

end IsoTail

namespace IsoTime

def text : IsoTime → List Char
  | dayOnly => []
  | minutes hour minute => 'T' :: (Moment.padded 2 hour ++ ':' :: (Moment.padded 2 minute ++ []))
  | seconds hour minute second tail =>
    'T' :: (Moment.padded 2 hour ++ ':' :: (Moment.padded 2 minute ++ ':' ::
      (Moment.padded 2 second ++ tail.text)))

def form : IsoTime → IsoForm
  | dayOnly => .day
  | minutes _ _ => .minutes
  | seconds _ _ _ tail => tail.form

/-- The fields with those of the time of day. -/
def addTo (f : Fields) : IsoTime → Fields
  | dayOnly => f
  | minutes hour minute => { f with hour := some hour.val, minute := some minute.val }
  | seconds hour minute second tail =>
    tail.addTo { f with
      hour := some hour.val, minute := some minute.val, second := some second.val }

/-- After the day each form takes its own time of day, and no other. -/
theorem readAll?_text (f : Fields) (time : IsoTime) (form : IsoForm) :
    f.readAll? form.afterDay time.text =
      if form = time.form then some (time.addTo f) else none := by
  by_cases hday : form = .day
  · subst hday
    cases time with
    | dayOnly => rfl
    | minutes => rfl
    | seconds hour minute second tail => exact (if_neg tail.form_ne.1.symm).symm
  · cases time with
    | dayOnly => cases form <;> first | contradiction | rfl
    | minutes hour minute =>
        rw [text, IsoForm.readAll?_afterDay _ _ hday]
        cases form <;> first | contradiction | rfl
    | seconds hour minute second tail =>
        rw [text, IsoForm.readAll?_afterDay _ _ hday]
        by_cases hminutes : form = .minutes
        · subst hminutes
          exact (if_neg tail.form_ne.2.symm).symm
        · rw [IsoForm.readAll?_afterMinutes _ _ ⟨hday, hminutes⟩,
            IsoTail.readAll?_text _ _ ⟨hday, hminutes⟩]
          rfl

end IsoTime

namespace IsoText

variable (w : IsoText)

/-- The text of the date alone. -/
def dateText : List Char := Component.signText w.sign ++ DateLiteral.dateText w.year w.month w.day

def text : List Char := w.dateText ++ w.time.text

/-- The fields of the date alone. -/
def dateFields : Fields where
  year := some (Component.signedYear w.sign w.year)
  month := some w.month
  day := some w.day

def fields : Fields := w.time.addTo w.dateFields

def dayNumber : Int := Calendar.dayNumber (Component.signedYear w.sign w.year) w.month w.day

/-- Of the five forms the one that the text is written in takes it, and no other. -/
theorem readAll?_items (form : IsoForm) :
    ({} : Fields).readAll? form.items w.text =
      if form = w.time.form then some w.fields else none := by
  obtain ⟨hmonth, hday⟩ := Calendar.bounds_of_isValid w.valid
  rw [IsoForm.items_eq, text, dateText, List.append_assoc,
    Fields.readAll?_signedDate _ _ _ w.sign w.year_lt hmonth hday]
  exact w.time.readAll?_text w.dateFields form

end IsoText

/-! ## readings -/

namespace Fields

variable {f : Fields}

theorem zoned?_of_no_time (ht : f.timestamp = none) (h : f.timeOfDay? = none) :
    f.zoned? = none := by
  cases hday : f.day? <;> simp [zoned?, ht, h, hday]

theorem zoned?_of_no_offset (ht : f.timestamp = none) (h : f.offset? = none) :
    f.zoned? = none := by
  cases hday : f.day? <;> cases htime : f.timeOfDay? <;> simp [zoned?, ht, h, hday, htime]

theorem zoned?_of_no_day (ht : f.timestamp = none) (h : f.day? = none) : f.zoned? = none := by
  simp [zoned?, ht, h]

theorem local?_of_no_time (h : f.timeOfDay? = none) : f.local? = none := by
  cases hday : f.day? <;> simp [local?, h, hday]

/-- The readings of the fields that a description tries. -/
def anyReading? (f : Fields) : Option Moment := f.zoned? <|> f.local? <|> f.dateOnly?

/-- The first of them is the one with an offset, -/
theorem anyReading?_of_offset {m : Moment} (h : f.zoned? = some m) : f.anyReading? = f.zoned? := by
  rw [anyReading?, h]
  rfl

/-- then comes the one without, -/
theorem anyReading?_of_time {m : Moment} (ht : f.timestamp = none) (ho : f.offset? = none)
    (h : f.local? = some m) : f.anyReading? = f.local? := by
  rw [anyReading?, zoned?_of_no_offset ht ho, h]
  rfl

/-- and without a time of day there is the date alone. -/
theorem anyReading?_of_no_time (ht : f.timestamp = none) (h : f.timeOfDay? = none) :
    f.anyReading? = f.dateOnly? := by
  rw [anyReading?, zoned?_of_no_time ht h, local?_of_no_time h]
  rfl

/-- Without a timestamp each of them asks for a day. -/
theorem exists_day?_of_anyReading? {m : Moment} (ht : f.timestamp = none)
    (h : f.anyReading? = some m) : ∃ n, f.day? = some n := by
  cases hday : f.day? with
  | some n => exact ⟨n, rfl⟩
  | none =>
      have hnone : f.anyReading? = none := by
        rw [anyReading?, zoned?_of_no_day ht hday]
        simp [local?, dateOnly?, hday]
      rw [hnone] at h
      contradiction

end Fields

/-! ## what is taken -/

theorem Component.optionalSign?_mandatory_sound {cs rest : List Char} {s : Option Bool}
    (h : optionalSign? true cs = some (s, rest)) :
    ∃ behind, s = some behind ∧ cs = sign behind :: rest := by
  unfold optionalSign? at h
  split at h
  · next neg r hsign =>
    simp only [Option.some.injEq, Prod.mk.injEq] at h
    obtain ⟨rfl, rfl⟩ := h
    refine ⟨neg, rfl, ?_⟩
    unfold sign? at hsign
    split at hsign <;> simp_all [sign]
  · simp at h

section
open Fields Component
variable {f g : Fields} {cs : List Char}

theorem IsoTail.exists_of_readAll? {form : IsoForm} (hform : form ≠ .day ∧ form ≠ .minutes)
    (h : f.readAll? form.afterSeconds cs = some g) :
    ∃ tail : IsoTail, cs = tail.text ∧ form = tail.form ∧ g = tail.addTo f := by
  cases form with
  | day => exact absurd rfl hform.1
  | minutes => exact absurd rfl hform.2
  | seconds =>
      obtain ⟨rfl, rfl⟩ := readAll?_nil_sound h
      exact ⟨.whole, rfl, rfl, rfl⟩
  | fraction =>
      obtain ⟨r₁, hcs, h⟩ := readAll?_literal_sound h
      obtain ⟨digits, r₂, hdigits, hr₁, h⟩ := readAll?_subsecond_sound h
      obtain ⟨hr₂, rfl⟩ := readAll?_nil_sound h
      exact ⟨.fraction digits hdigits, by rw [hcs, hr₁, hr₂, List.append_nil, text], rfl, rfl⟩
  | offset =>
      obtain ⟨f', r₁, hread, h⟩ := readAll?_component_sound h
      obtain ⟨⟨s, r₂⟩, hsign, hhour⟩ := Option.bind_eq_some_iff.mp hread
      obtain ⟨⟨hour, r₃⟩, hnumber, hset⟩ := Option.bind_eq_some_iff.mp hhour
      simp only [Option.some.injEq, Prod.mk.injEq] at hset
      obtain ⟨rfl, rfl⟩ := hset
      obtain ⟨behind, rfl, hcs⟩ := optionalSign?_mandatory_sound hsign
      obtain ⟨hrange, hr₂⟩ := within?_sound (by decide) hnumber
      obtain ⟨minute, r₄, hminute, hr₃, h⟩ := readAll?_number_sound isNumber_offsetMinute h
      obtain ⟨hr₄, rfl⟩ := readAll?_nil_sound h
      have hbehind : (some behind == some true) = behind := by cases behind <;> rfl
      refine ⟨.offset behind ⟨hour, by omega⟩ ⟨minute, by omega⟩, ?_, rfl, ?_⟩
      · rw [hcs, hr₂, hr₃, hr₄, List.append_nil, text]
      · simp only [addTo, hbehind]

theorem IsoTime.exists_of_readAll? {form : IsoForm} (h : f.readAll? form.afterDay cs = some g) :
    ∃ time : IsoTime, cs = time.text ∧ form = time.form ∧ g = time.addTo f := by
  by_cases hday : form = .day
  · subst hday
    obtain ⟨rfl, rfl⟩ := readAll?_nil_sound h
    exact ⟨.dayOnly, rfl, rfl, rfl⟩
  · rw [IsoForm.afterDay_eq hday] at h
    obtain ⟨r₁, hcs, h⟩ := readAll?_literal_sound h
    obtain ⟨hour, minute, r₂, hr₁, h⟩ := readAll?_hourMinute_sound h
    by_cases hminutes : form = .minutes
    · subst hminutes
      obtain ⟨hr₂, rfl⟩ := readAll?_nil_sound h
      exact ⟨.minutes hour minute, by rw [hcs, hr₁, hr₂, text], rfl, rfl⟩
    · rw [IsoForm.afterMinutes_eq ⟨hday, hminutes⟩] at h
      obtain ⟨r₃, hr₂, h⟩ := readAll?_literal_sound h
      obtain ⟨second, r₄, hsecond, hr₃, h⟩ := readAll?_number_sound isNumber_second h
      obtain ⟨tail, hr₄, hform, rfl⟩ := IsoTail.exists_of_readAll? ⟨hday, hminutes⟩ h
      refine ⟨.seconds hour minute ⟨second, by omega⟩ tail, ?_, hform, rfl⟩
      rw [hcs, hr₁, hr₂, hr₃, hr₄, text]

theorem IsoTail.day?_addTo (f : Fields) (tail : IsoTail) : (tail.addTo f).day? = f.day? := by
  cases tail <;> rfl

/-- A time of day has no part in the day. -/
theorem IsoTime.day?_addTo (f : Fields) (time : IsoTime) : (time.addTo f).day? = f.day? := by
  cases time with
  | dayOnly => rfl
  | minutes => rfl
  | seconds hour minute second tail => exact tail.day?_addTo _

theorem IsoTail.timestamp_addTo (f : Fields) (tail : IsoTail) :
    (tail.addTo f).timestamp = f.timestamp := by
  cases tail <;> rfl

/-- Nor does it bring in a timestamp. -/
theorem IsoTime.timestamp_addTo (f : Fields) (time : IsoTime) :
    (time.addTo f).timestamp = f.timestamp := by
  cases time with
  | dayOnly => rfl
  | minutes => rfl
  | seconds hour minute second tail => exact tail.timestamp_addTo _

/-- What is taken and has a reading is written in the form. -/
theorem IsoText.exists_of_readAll? {form : IsoForm} {m : Moment}
    (h : ({} : Fields).readAll? form.items cs = some g) (hany : g.anyReading? = some m) :
    ∃ w : IsoText, cs = w.text ∧ form = w.time.form := by
  rw [IsoForm.items_eq] at h
  obtain ⟨s, year, month, day, r, hyear, hcs, h⟩ := readAll?_plainDate_sound h
  obtain ⟨time, hr, hform, rfl⟩ := IsoTime.exists_of_readAll? h
  obtain ⟨n, hday⟩ := exists_day?_of_anyReading? (time.timestamp_addTo _) hany
  rw [IsoTime.day?_addTo] at hday
  obtain ⟨hvalid, -⟩ := day?_sound ⟨rfl, rfl, rfl, rfl⟩ hday
  refine ⟨⟨s, year, month, day, hyear, hvalid, time⟩, ?_, hform⟩
  rw [hcs, hr, ← List.append_assoc]
  rfl

end

/-! ## characters -/

section
variable {p : Char → Prop} (hp : OfDateChars p)
include hp

theorem IsoTail.forall_mem_text (tail : IsoTail) : ∀ c ∈ tail.text, p c := by
  cases tail with
  | whole => simp [text]
  | fraction digits hdigits =>
      simp only [text, List.forall_mem_cons]
      exact ⟨hp.mark _ (by decide), fun c hc => hp.digit c (hdigits.2 c hc)⟩
  | offset behind hour minute =>
      simp only [text, List.forall_mem_cons, List.forall_mem_append]
      exact ⟨by cases behind <;> exact hp.mark _ (by decide), hp.padded 2 _, hp.padded 2 _⟩

theorem IsoTime.forall_mem_text (time : IsoTime) : ∀ c ∈ time.text, p c := by
  have hmark := hp.mark
  have hnumber := hp.padded 2
  cases time with
  | dayOnly => simp [text]
  | minutes hour minute =>
      simp only [text, List.append_nil, List.forall_mem_cons, List.forall_mem_append]
      exact ⟨hmark _ (by decide), hnumber _, hmark _ (by decide), hnumber _⟩
  | seconds hour minute second tail =>
      simp only [text, List.forall_mem_cons, List.forall_mem_append]
      exact ⟨hmark _ (by decide), hnumber _, hmark _ (by decide), hnumber _, hmark _ (by decide),
        hnumber _, tail.forall_mem_text hp⟩

end

namespace IsoText

variable (w : IsoText)

theorem forall_mem_dateText {p : Char → Prop} (digit : ∀ c : Char, c.isDigit = true → p c)
    (plus : p '+') (minus : p '-') : ∀ c ∈ w.dateText, p c := by
  have hnumber (width n : Nat) : ∀ c ∈ Moment.padded width n, p c :=
    fun c hc => digit c ((Moment.isDigits_padded width n).2 c hc)
  have hsign : ∀ c ∈ Component.signText w.sign, p c := by
    refine forall_mem_written (fun behind c hc => ?_) w.sign
    obtain rfl := List.mem_singleton.mp hc
    cases behind
    · exact plus
    · exact minus
  simp only [dateText, DateLiteral.dateText, List.forall_mem_append, List.forall_mem_cons]
  exact ⟨hsign, hnumber _ _, minus, hnumber _ _, minus, hnumber _ _⟩

theorem forall_mem_text {p : Char → Prop} (hp : OfDateChars p) : ∀ c ∈ w.text, p c := by
  rw [text, List.forall_mem_append]
  exact ⟨w.forall_mem_dateText hp.digit (hp.mark _ (by decide)) (hp.mark _ (by decide)),
    w.time.forall_mem_text hp⟩

theorem isDateChar_text : ∀ c ∈ w.text, isDateChar c = true :=
  w.forall_mem_text ofDateChars_isDateChar

theorem getLast?_text_ne : w.text.getLast? ≠ some 'Z' := by
  intro hlast
  have hne : ∀ c ∈ w.text, c ≠ 'Z' :=
    w.forall_mem_text ⟨fun c hc => ne_of_isDigit hc rfl, by simp⟩
  exact hne 'Z' (List.mem_of_getLast? hlast) rfl

/-! ## what the fields mean -/

theorem day?_fields : w.fields.day? = some w.dayNumber := by
  have hyear := w.year_lt
  have hrange : Calendar.inRange (Component.signedYear w.sign w.year) = true := by
    rw [Calendar.inRange, Bool.and_eq_true, decide_eq_true_eq, decide_eq_true_eq,
      Component.signedYear]
    split <;> omega
  rw [fields, IsoTime.day?_addTo]
  simp only [Fields.day?, Fields.wholeYear?, dateFields, hrange, w.valid, and_self, if_true]
  rfl

end IsoText

/-- Whether the seconds are those of a leap second. -/
def IsoTime.isLeapSecond : IsoTime → Bool
  | seconds _ _ second _ => second.val == 60
  | _ => false

namespace IsoText

variable (w : IsoText)

theorem timestamp_fields : w.fields.timestamp = none := w.time.timestamp_addTo w.dateFields

/-- There is an offset in the form for it, -/
theorem exists_offset? (h : w.time.form = .offset) : ∃ o, w.fields.offset? = some o := by
  unfold fields
  cases htime : w.time with
  | seconds hour minute second tail =>
      cases tail with
      | offset behind zoneHour zoneMinute =>
          have hzone : zoneHour.val ≤ 25 ∧ zoneMinute.val ≤ 59 ∧ 0 ≤ 59 := by omega
          exact ⟨_, if_pos hzone⟩
      | _ => simp [htime, IsoTime.form, IsoTail.form] at h
  | _ => simp [htime, IsoTime.form] at h

/-- and in no other. -/
theorem offset?_fields (h : w.time.form ≠ .offset) : w.fields.offset? = none := by
  unfold fields
  cases htime : w.time with
  | seconds hour minute second tail =>
      cases tail with
      | offset => simp [htime, IsoTime.form, IsoTail.form] at h
      | _ => rfl
  | _ => rfl

/-- There is a time of day in every form but that of the date alone, -/
theorem exists_timeOfDay? (h : w.time.form ≠ .day) (hleap : w.time.isLeapSecond = false) :
    ∃ h m s n, w.fields.timeOfDay? = some (h, m, s, n) := by
  unfold fields
  cases htime : w.time with
  | dayOnly => simp [htime, IsoTime.form] at h
  | minutes hour minute =>
      exact ⟨_, _, _, _, Moment.timeOfDay?_clockFields hour minute ⟨rfl, rfl⟩ (by decide)
        (.inr ⟨rfl, rfl, rfl, rfl⟩)⟩
  | seconds hour minute second tail =>
      have hle : second.val ≤ 59 := by
        have hne : second.val ≠ 60 := by simpa [htime, IsoTime.isLeapSecond] using hleap
        omega
      cases tail with
      | fraction digits hdigits =>
          exact ⟨_, _, _, _, Moment.timeOfDay?_clockFields hour minute ⟨rfl, rfl⟩ hle
            (.inl ⟨rfl, .inl rfl⟩)⟩
      | _ =>
          exact ⟨_, _, _, _, Moment.timeOfDay?_clockFields hour minute ⟨rfl, rfl⟩ hle
            (.inl ⟨rfl, .inr ⟨rfl, rfl⟩⟩)⟩

/-- unless the seconds are those of a leap second. -/
theorem timeOfDay?_fields (h : w.time.form = .day ∨ w.time.isLeapSecond = true) :
    w.fields.timeOfDay? = none := by
  unfold fields
  cases htime : w.time with
  | dayOnly => rfl
  | minutes => simp [htime, IsoTime.form, IsoTime.isLeapSecond] at h
  | seconds hour minute second tail =>
      have hsecond : second.val = 60 := by
        simpa [htime, IsoTime.form, tail.form_ne.1, IsoTime.isLeapSecond] using h
      refine Option.eq_none_iff_forall_ne_some.mpr fun t ht => ?_
      have hfield : ((IsoTime.seconds hour minute second tail).addTo w.dateFields).second =
          some second.val := by
        cases tail <;> rfl
      have hle := Fields.second_le_of_timeOfDay? hfield ht
      omega

/-- Before a leap second the reading of the form is the first that there is. -/
theorem reading_eq_anyReading? (h : w.time.isLeapSecond = false) :
    w.time.form.reading w.fields = w.fields.anyReading? := by
  have hday := w.day?_fields
  cases hform : w.time.form with
  | day =>
      exact (Fields.anyReading?_of_no_time w.timestamp_fields
        (w.timeOfDay?_fields (.inl hform))).symm
  | offset =>
      obtain ⟨_, _, _, _, htime⟩ := w.exists_timeOfDay? (by simp [hform]) h
      obtain ⟨o, hoffset⟩ := w.exists_offset? hform
      exact (Fields.anyReading?_of_offset
        (Fields.zoned?_eq w.timestamp_fields hday htime hoffset)).symm
  | _ =>
      obtain ⟨_, _, _, _, htime⟩ := w.exists_timeOfDay? (by simp [hform]) h
      exact (Fields.anyReading?_of_time w.timestamp_fields (w.offset?_fields (by simp [hform]))
        (Fields.local?_eq hday htime)).symm

/-- At a leap second the form has no reading, and of the others the date alone is left. -/
theorem reading_leapSecond (h : w.time.isLeapSecond = true) :
    w.time.form.reading w.fields = none ∧ w.fields.anyReading? = w.fields.dateOnly? := by
  have htime := w.timeOfDay?_fields (.inr h)
  refine ⟨?_, Fields.anyReading?_of_no_time w.timestamp_fields htime⟩
  cases hform : w.time.form with
  | day => cases hw : w.time <;> simp_all [IsoTime.form, IsoTime.isLeapSecond, IsoTail.form_ne]
  | offset => exact Fields.zoned?_of_no_time w.timestamp_fields htime
  | _ => exact Fields.local?_of_no_time htime

end IsoText

/-! ## without a description and with one -/

/-- Where RFC 3339 wants an offset there is none, or none with a colon. -/
theorem IsoTail.exists_fraction? (tail : IsoTail) :
    ∃ nano r, Moment.fraction? tail.text = some (nano, r) ∧ Moment.offsetAtEnd? r = none := by
  cases tail with
  | whole => exact ⟨_, _, rfl, rfl⟩
  | fraction digits hdigits =>
      have hend : ∀ c ∈ ([] : List Char).head?, c.isDigit = false := by simp
      have hread := Moment.fraction?_digits hdigits hend
      rw [List.append_nil] at hread
      exact ⟨_, _, hread, rfl⟩
  | offset behind hour minute =>
      have hhour := Component.digits?_two (n := hour) (Moment.padded 2 minute) (by omega)
      refine ⟨0, sign behind :: (Moment.padded 2 hour ++ Moment.padded 2 minute),
        by cases behind <;> rfl, ?_⟩
      rw [offsetAtEnd?_sign]
      simp [hhour, after?_padded]

namespace IsoText

variable (w : IsoText)

/-- RFC 3339 asks for an offset, and for a colon in it. -/
theorem ofRfc3339?_text : Moment.ofRfc3339? w.text = none := by
  cases hs : w.sign with
  | some behind =>
      have hsign : (DateLiteral.sign behind).isDigit = false := by cases behind <;> rfl
      rw [text, dateText, hs, Component.signText, written_some, List.singleton_append,
        List.cons_append, Moment.ofRfc3339?, Component.digits?_cons_none (by decide) hsign]
      rfl
  | none =>
      have hvalid := w.valid
      rw [hs, Component.signedYear_none] at hvalid
      rw [text, dateText, hs, Component.signText, written_none, List.nil_append,
        Moment.ofRfc3339?_date w.year_lt hvalid]
      cases w.time with
      | dayOnly => rfl
      | minutes hour minute =>
          have hhour (r : List Char) := Component.digits?_two (n := hour) r (by omega)
          have hminute := Component.digits?_two_nil (n := minute) (by omega)
          simp [IsoTime.text, Moment.afterAny?, hhour, hminute, Moment.after?]
      | seconds hour minute second tail =>
          have hhour (r : List Char) := Component.digits?_two (n := hour) r (by omega)
          have hminute (r : List Char) := Component.digits?_two (n := minute) r (by omega)
          have hsecond (r : List Char) := Component.digits?_two (n := second) r (by omega)
          obtain ⟨nano, r, hfraction, hoffset⟩ := tail.exists_fraction?
          simp [IsoTime.text, Moment.afterAny?, after?_self, hhour, hminute, hsecond, hfraction,
            hoffset]

/-- Of the forms with an offset only one takes the text, if it is written in it. -/
theorem ofZonedText?_text : Moment.ofZonedText? w.text =
    if .offset = w.time.form then w.fields.zoned? else none := by
  have hcompact : ({} : Fields).readAll? Moment.compactOffset w.text =
      if .offset = w.time.form then some w.fields else none := w.readAll?_items .offset
  rw [Moment.ofZonedText?, w.ofRfc3339?_text, octets_of_dateChars w.isDateChar_text, hcompact,
    Moment.ofMailOrder?_of_dateChars w.isDateChar_text]
  cases w.time.form <;> simp

theorem ofLocalText?_text : Moment.ofLocalText? w.text =
    if .offset = w.time.form then none else w.time.form.reading w.fields := by
  have hfraction : ({} : Fields).readAll? Moment.toFraction w.text =
      if .fraction = w.time.form then some w.fields else none := w.readAll?_items .fraction
  have hseconds : ({} : Fields).readAll? Moment.toSeconds w.text =
      if .seconds = w.time.form then some w.fields else none := w.readAll?_items .seconds
  have hminutes : ({} : Fields).readAll? Moment.toMinutes w.text =
      if .minutes = w.time.form then some w.fields else none := w.readAll?_items .minutes
  have hdate : ({} : Fields).readAll? Moment.plainDate w.text =
      if .day = w.time.form then some w.fields else none := w.readAll?_items .day
  rw [Moment.ofLocalText?, octets_of_dateChars w.isDateChar_text, Moment.localForms_eq]
  simp only [List.findSome?_cons, List.findSome?_nil, hfraction, hseconds, hminutes, hdate]
  cases w.time.form with
  | day => rfl
  | offset => rfl
  | _ => cases hlocal : w.fields.local? <;> simp [IsoForm.reading, hlocal]

/-- Without a description a text is read by the form that it is written in. -/
theorem ofText?_reading : Moment.ofText? w.text = w.time.form.reading w.fields := by
  rw [Moment.ofText?, trim_of_dateChars w.isDateChar_text, w.ofZonedText?_text,
    if_neg w.getLast?_text_ne, w.ofLocalText?_text]
  cases w.time.form with
  | offset => cases hzoned : w.fields.zoned? <;> simp [IsoForm.reading, hzoned]
  | _ => simp

/-- With the description of that form the readings are tried one after the other. -/
theorem ofDescription?_text : Moment.ofDescription? w.time.form.description.toList w.text =
    w.fields.anyReading? := by
  simp only [Moment.ofDescription?, IsoForm.items?_description, Option.bind_eq_bind,
    Option.bind_some, octets_of_dateChars w.isDateChar_text, w.readAll?_items, if_true]
  rfl

end IsoText

/-- What is read by one of the descriptions is written in its form. -/
theorem IsoText.exists_of_ofDescription? {form : IsoForm} {cs : List Char} {m : Moment}
    (h : Moment.ofDescription? form.description.toList cs = some m) :
    ∃ w : IsoText, cs = w.text ∧ form = w.time.form := by
  simp only [Moment.ofDescription?, IsoForm.items?_description, Option.bind_eq_bind,
    Option.bind_some] at h
  obtain ⟨f, hread, hany⟩ := Option.bind_eq_some_iff.mp h
  obtain ⟨w, hw, hform⟩ := exists_of_readAll? hread hany
  have hself : octets cs = cs := octets_eq_self fun c hc =>
    Nat.lt_of_le_of_lt (toNat_of_isDateChar (w.isDateChar_text c (hw ▸ hc))).2 (by decide)
  exact ⟨w, hself ▸ hw, hform⟩

/-! ## leap seconds -/

/-- Whether what comes after the second colon starts with `60`. -/
def saysLeapSecond (cs : List Char) : Bool :=
  (Text.splitAt ':' cs)[2]?.map (List.take 2) == some ['6', '0']

theorem colon_not_mem_padded (width n : Nat) : ':' ∉ Moment.padded width n :=
  fun h => ne_of_isDigit ((Moment.isDigits_padded width n).2 ':' h) rfl rfl

theorem IsoTail.colon_not_mem_text (tail : IsoTail) : ':' ∉ tail.text := by
  cases tail with
  | whole => simp [text]
  | fraction digits hdigits =>
      rw [text, List.mem_cons, not_or]
      exact ⟨by decide, fun h => ne_of_isDigit (hdigits.2 ':' h) rfl rfl⟩
  | offset behind hour minute =>
      rw [text, List.mem_cons, List.mem_append, not_or, not_or]
      exact ⟨by cases behind <;> decide, colon_not_mem_padded 2 _, colon_not_mem_padded 2 _⟩

namespace IsoText

variable (w : IsoText)

theorem saysLeapSecond_text : saysLeapSecond w.text = w.time.isLeapSecond := by
  have hdate : ':' ∉ w.dateText := fun h =>
    w.forall_mem_dateText (fun c hc => ne_of_isDigit hc rfl) (by decide) (by decide) ':' h rfl
  have hhour (hour : Fin 24) : ':' ∉ w.dateText ++ 'T' :: Moment.padded 2 hour := by
    simp [hdate, colon_not_mem_padded]
  rw [text, saysLeapSecond]
  cases w.time with
  | dayOnly =>
      rw [IsoTime.text, List.append_nil, Text.splitAt_of_not_mem hdate]
      rfl
  | minutes hour minute =>
      rw [IsoTime.text, List.append_nil, ← List.cons_append, ← List.append_assoc,
        Text.splitAt_append (hhour hour), Text.splitAt_of_not_mem (colon_not_mem_padded 2 _)]
      rfl
  | seconds hour minute second tail =>
      have hlast : ':' ∉ Moment.padded 2 second ++ tail.text := by
        simp [colon_not_mem_padded, tail.colon_not_mem_text]
      have hlength : (Moment.padded 2 second).length = 2 :=
        Moment.length_padded (by decide) (by omega)
      have hsixty : ∀ second : Fin 61,
          (some (Moment.padded 2 second) == some ['6', '0']) = (second.val == 60) := by
        decide +kernel
      rw [IsoTime.text, ← List.cons_append, ← List.append_assoc, Text.splitAt_append (hhour hour),
        Text.splitAt_append (colon_not_mem_padded 2 _), Text.splitAt_of_not_mem hlast]
      simp only [List.getElem?_cons_succ, List.getElem?_cons_zero, Option.map_some,
        List.take_left' hlength]
      exact hsixty second

/-- The date is what stands before the `T`. -/
theorem takeWhile_text : w.text.takeWhile (· != 'T') = w.dateText := by
  have hdate : ∀ c ∈ w.dateText, (c != 'T') = true := by
    refine w.forall_mem_dateText (fun c hc => ?_) rfl rfl
    simpa using ne_of_isDigit hc rfl
  have htime : ∀ c ∈ w.time.text.head?, (c != 'T') = false := by
    cases w.time <;> simp [IsoTime.text]
  rw [text]
  exact (takeWhile_run hdate htime).1

/-- The date alone is read as its midnight. -/
theorem ofText?_dateText : Moment.ofText? w.dateText = w.fields.dateOnly? := by
  have hdate := ofText?_reading { w with time := .dayOnly }
  have htext : ({ w with time := .dayOnly } : IsoText).text = w.dateText := List.append_nil _
  have hday : ({ w with time := .dayOnly } : IsoText).fields.day? = w.fields.day? := by
    rw [day?_fields, day?_fields]
    rfl
  rw [← htext, hdate]
  change Fields.dateOnly? _ = _
  rw [Fields.dateOnly?, Fields.dateOnly?, hday]

end IsoText

namespace Function

theorem dateOf?_text (s : String) : dateOf? [.text s] = Moment.ofText? s.toList := rfl

theorem dateOf?_description (s d : String) :
    dateOf? [.text s, .text d] = Moment.ofDescription? d.toList s.toList := rfl

/-- **Descriptions and the forms they stand for.**  What `date` reads by the description of one of
the forms it also reads without, as the same moment, unless the seconds are those of a leap second.
Then it reads nothing without the description, and with it midnight of the date. -/
theorem dateOf?_described {t : String} {form : IsoForm} {m : Moment}
    (h : dateOf? [.text t, .text form.description] = some m) :
    (saysLeapSecond t.toList = false → dateOf? [.text t] = some m) ∧
    (saysLeapSecond t.toList = true → dateOf? [.text t] = none ∧
      dateOf? [.text (String.ofList (t.toList.takeWhile (· != 'T')))] = some m) := by
  rw [dateOf?_description] at h
  rw [dateOf?_text, dateOf?_text, String.toList_ofList]
  obtain ⟨w, ht, rfl⟩ := IsoText.exists_of_ofDescription? h
  rw [ht, w.ofDescription?_text] at h
  rw [ht, w.saysLeapSecond_text, w.ofText?_reading, w.takeWhile_text, w.ofText?_dateText]
  refine ⟨fun hleap => ?_, fun hleap => ?_⟩
  · rw [w.reading_eq_anyReading? hleap, h]
  · obtain ⟨hnone, hany⟩ := w.reading_leapSecond hleap
    exact ⟨hnone, hany ▸ h⟩

/-- Noon of a day in the year -44, more than a day ahead of UTC, and the leap second at the end of
2016. -/
theorem dateOf?_described_leapSecond :
    dateOf? [.text "-0044-03-15T12:00:00+2559", .text IsoForm.offset.description] =
        some ⟨-63549410340000000000, 93540⟩ ∧
      dateOf? [.text "-0044-03-15T12:00:00+2559"] = some ⟨-63549410340000000000, 93540⟩ ∧
      dateOf? [.text "2016-12-31T23:59:60", .text IsoForm.seconds.description] =
        some ⟨1483142400000000000, 0⟩ ∧
      dateOf? [.text "2016-12-31T23:59:60"] = none ∧
      dateOf? [.text "2016-12-31"] = some ⟨1483142400000000000, 0⟩ := by
  have hnoon : dateOf? [.text "-0044-03-15T12:00:00+2559", .text IsoForm.offset.description] =
      some ⟨-63549410340000000000, 93540⟩ := by
    decide +kernel
  have hleap : dateOf? [.text "2016-12-31T23:59:60", .text IsoForm.seconds.description] =
      some ⟨1483142400000000000, 0⟩ := by
    decide +kernel
  obtain ⟨hsame, -⟩ := dateOf?_described hnoon
  obtain ⟨-, hmidnight⟩ := dateOf?_described hleap
  obtain ⟨hnone, hdate⟩ := hmidnight (by decide +kernel)
  exact ⟨hnoon, hsame (by decide +kernel), hleap, hnone, hdate⟩

/-- Not all that is read by a description is read without. -/
theorem not_dateOf?_of_described :
    ¬ ∀ (t : String) (form : IsoForm) (m : Moment),
      dateOf? [.text t, .text form.description] = some m → dateOf? [.text t] = some m := by
  intro h
  have hleap : dateOf? [.text "2016-12-31T23:59:60"] = some ⟨1483142400000000000, 0⟩ :=
    h _ .seconds _ (by decide +kernel)
  have hnone : dateOf? [.text "2016-12-31T23:59:60"] = none := by decide +kernel
  rw [hnone] at hleap
  contradiction

end Function

end TreeSift
