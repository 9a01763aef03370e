import Mathlib.Tactic.IntervalCases
import TreeSift.Proofs.Time.Sound

/-!
# TreeSift.Proofs.Time.Spellings

All spellings of one moment are read as that moment.

1. A `Stamp` is a civil date and time in whole seconds with a numeric offset.  It can be written
   with a colon in the offset or without one, and in the order of a mail header, after a weekday
   and maybe with a note in parentheses (`Stamp.spellings`).  The last of the forms is only tried
   where the others have failed, and they fail at the weekday (`Moment.ofZonedText?_of_isAlpha`).
2. A text that is read without an offset has none: no form that asks for one takes it
   (`Moment.ofZonedText?_unzoned`).  With a `Z` after it RFC 3339 may take it, which then finds the
   same moment (`Moment.ofRfc3339?_unzoned`).
-/

namespace TreeSift

open Lexeme DateLiteral

/-! ## moments with an offset -/

/-- A civil date and time with a numeric offset. -/
structure Stamp where
  date : Day
  hour : Fin 24
  minute : Fin 60
  second : Fin 60
  behind : Bool
  zoneHour : Fin 24
  zoneMinute : Fin 60

namespace Stamp

variable (s : Stamp)

/-- Seconds of the civil time since the start of 1970. -/
def civil : Int :=
  ((Calendar.elapsed s.date.year s.date.month s.date.day : Int) - Calendar.elapsed 1970 1 1) *
    86400 + s.hour * 3600 + s.minute * 60 + s.second

/-- Seconds that the civil time is ahead of UTC. -/
def offset : Int :=
  let seconds : Int := s.zoneHour * 3600 + s.zoneMinute * 60
  if s.behind then -seconds else seconds

def moment : Moment := ⟨(s.civil - s.offset) * 1000000000, s.offset⟩

/-- The stamp as an expression has it. -/
def literal (colon : Bool) : DateLiteral where
  date := s.date
  clock := some ⟨s.hour, s.minute, some ⟨s.second, none⟩⟩
  zone := some (.offset s.behind colon s.zoneHour s.zoneMinute)

def monthName (month : Nat) : List Char :=
  (["Jan", "Feb", "Mar", "Apr", "May", "Jun", "Jul", "Aug", "Sep", "Oct", "Nov", "Dec"].getD
    (month - 1) "").toList

/-- What comes after the weekday: `Mon DD YYYY hh:mm:ss GMT±hhmm`. -/
def afterWeekday : List Char :=
  monthName s.date.month ++ ' ' :: (Moment.padded 2 s.date.day ++ ' ' ::
    (Moment.padded 4 s.date.year ++ ' ' :: (Moment.padded 2 s.hour ++ ':' ::
      (Moment.padded 2 s.minute ++ ':' :: (Moment.padded 2 s.second ++
        ([' ', 'G', 'M', 'T'] ++
          (Zone.offset s.behind false s.zoneHour s.zoneMinute).text))))))

def mailText (weekday : List Char) : List Char := weekday ++ ' ' :: s.afterWeekday

/-- All spellings, with a weekday and a note where there is a place for them. -/
def spellings (weekday note : List Char) : List (List Char) :=
  [(s.literal true).text, (s.literal false).text, s.mailText weekday,
    s.mailText weekday ++ ' ' :: '(' :: (note ++ [')'])]

theorem moment_eq_ofLocal : s.moment =
    .ofLocal (Calendar.dayNumber s.date.year s.date.month s.date.day) s.hour s.minute s.second 0
      (Zone.offset s.behind false s.zoneHour s.zoneMinute).ahead := by
  have hday := Calendar.dayNumber_eq_elapsed s.date.month s.date.named.1 s.date.day_le.1
  have hahead : (Zone.offset s.behind false s.zoneHour s.zoneMinute).ahead = s.offset := rfl
  simp only [moment, Moment.ofLocal, civil, hday, hahead, Moment.nanosPerSecond, Moment.mk.injEq,
    and_true]
  omega

theorem literal_moment (colon : Bool) : (s.literal colon).moment = s.moment := by
  rw [moment_eq_ofLocal, literal, Moment.moment_seconds]
  rfl

/-- It has single octets only, and none that a note starts with. -/
theorem forall_mem_afterWeekday : ∀ c ∈ s.afterWeekday, c.toNat < 128 ∧ c ≠ '(' := by
  have hnumber (width n : Nat) : ∀ c ∈ Moment.padded width n, c.toNat < 128 ∧ c ≠ '(' := by
    intro c hc
    have hdigit := (Moment.isDigits_padded width n).2 c hc
    have hle := (Char.isDigit_iff_toNat.mp hdigit).2
    exact ⟨Nat.lt_of_le_of_lt hle (by decide), ne_of_isDigit hdigit rfl⟩
  have hname : ∀ c ∈ monthName s.date.month, c.toNat < 128 ∧ c ≠ '(' := by
    have hall : ∀ month < 13, (monthName month).all (fun c => c.toNat < 128 && c != '(') := by
      decide +kernel
    have hmonth := hall s.date.month (Nat.lt_succ_of_le s.date.month_le.2)
    simpa using hmonth
  have hsign : (sign s.behind).toNat < 128 ∧ sign s.behind ≠ '(' := by
    cases s.behind <;> decide
  simp only [afterWeekday, Zone.text, Bool.false_eq_true, if_false, List.forall_mem_append,
    List.forall_mem_cons, List.nil_append]
  exact ⟨hname, by decide, hnumber _ _, by decide, hnumber _ _, by decide, hnumber _ _, by decide,
    hnumber _ _, by decide, hnumber _ _, by simp, hsign, hnumber _ _, hnumber _ _⟩

end Stamp

theorem toNat_of_isAlpha {c : Char} (h : c.isAlpha = true) : 65 ≤ c.toNat ∧ c.toNat ≤ 122 := by
  have hcase : c.isUpper = true ∨ c.isLower = true := (Bool.or_eq_true _ _).mp h
  obtain h | h := hcase
  · have hrange : 'A'.val ≤ c.val ∧ c.val ≤ 'Z'.val := of_decide_eq_true h
    have hlow : 65 ≤ c.toNat := hrange.1
    have hhigh : c.toNat ≤ 90 := hrange.2
    omega
  · have hrange : 97 ≤ c.val ∧ c.val ≤ 122 := by simpa using (Bool.and_eq_true _ _).mp h
    have hlow : 97 ≤ c.toNat := hrange.1
    have hhigh : c.toNat ≤ 122 := hrange.2
    omega

namespace Component

theorem numbered_short_monthNames : numbered 1 (short monthNames) =
    [("Jan", 1), ("Feb", 2), ("Mar", 3), ("Apr", 4), ("May", 5), ("Jun", 6), ("Jul", 7),
      ("Aug", 8), ("Sep", 9), ("Oct", 10), ("Nov", 11), ("Dec", 12)] := by decide +kernel

theorem read?_monthName (f : Fields) (rest : List Char) {month : Nat}
    (h : 1 ≤ month ∧ month ≤ 12) :
    read? f (Stamp.monthName month ++ rest) (.month .zero .short true) =
      some ({ f with month := some month }, rest) := by
  have hname : oneOf? true (numbered 1 (short monthNames)) (Stamp.monthName month ++ rest) =
      some (month, rest) := by
    rw [numbered_short_monthNames]
    obtain ⟨hlow, hhigh⟩ := h
    interval_cases month
    all_goals simp [Stamp.monthName, oneOf?, dropName?]
  simp only [read?, hname, Option.map_some]

end Component

namespace Moment

open Fields Component

variable (s : Stamp) {cs : List Char}

/-- The forms that start with a year do not take what starts with a letter. -/
theorem ofZonedText?_of_isAlpha {c : Char} (hc : c.isAlpha = true) (cs : List Char) :
    ofZonedText? (c :: cs) = ofMailOrder? (c :: cs) := by
  have hn := toNat_of_isAlpha hc
  have hdigit : c.isDigit = false := by
    rw [Bool.eq_false_iff, ne_eq, Char.isDigit_iff_toNat]
    simp only [Char.reduceToNat]
    omega
  have hsign : c ≠ '+' ∧ c ≠ '-' := by
    constructor <;> (rintro rfl; contradiction)
  have hrfc : ofRfc3339? (c :: cs) = none := by
    rw [ofRfc3339?, digits?_cons_none (by decide) hdigit cs]
    rfl
  have hoctets : octets (c :: cs) = c :: octets cs := by
    rw [octets, List.flatMap_cons, octetsOf_ascii (by omega), List.singleton_append, ← octets]
  have hcompact : ({} : Fields).readAll? compactOffset (c :: octets cs) = none :=
    readAll?_component_none _ _ (read?_year_none _ hsign hdigit _)
  rw [ofZonedText?, hrfc, hoctets, hcompact]
  rfl

theorem mailOrder_eq : mailOrder = .component (.month .zero .short true) :: .literal [' '] ::
    .component (.day .zero) :: .literal [' '] ::
    .component (.year .zero .full false false) :: .literal [' '] :: (hourMinute ++
      [.literal [':'], .component (.second .zero), .literal [' ', 'G', 'M', 'T'],
        .component (.offsetHour true .zero), .component (.offsetMinute .zero)]) := rfl

/-- The date of a mail header is taken off, -/
theorem readAll?_mailDate (items : List DateItem) (d : Day) (rest : List Char) :
    ({} : Fields).readAll? (.component (.month .zero .short true) :: .literal [' '] ::
        .component (.day .zero) :: .literal [' '] ::
        .component (.year .zero .full false false) :: .literal [' '] :: items)
      (Stamp.monthName d.month ++ ' ' :: (padded 2 d.day ++ ' ' :: (padded 4 d.year ++ ' ' ::
        rest))) = (dateFields d).readAll? items rest := by
  have hyear (f : Fields) (rest : List Char) :
      read? f (padded 4 d.year ++ rest) (.year .zero .full false false) =
        some ({ f with year := some (d.year : Int) }, rest) :=
    read?_year f rest none d.year_lt
  rw [readAll?_component _ _ (read?_monthName _ _ d.month_le), readAll?_literal,
    readAll?_component _ _ (read?_day _ _ d.day_le), readAll?_literal,
    readAll?_component _ _ (hyear _ _), readAll?_literal]
  rfl

/-- and so are time of day and offset. -/
theorem readAll?_mailOrder : (({} : Fields).readAll? mailOrder s.afterWeekday).bind Fields.zoned? =
    some s.moment := by
  rw [mailOrder_eq, Stamp.afterWeekday, readAll?_mailDate, readAll?_hourMinute, readAll?_second,
    readAll?_text, readAll?_offset, Option.bind_some, Stamp.moment_eq_ofLocal]
  exact zoned?_clockFields s.date s.hour s.minute s.second s.behind s.zoneHour s.zoneMinute

/-- So a mail date is read, whatever the weekday and the note are. -/
theorem ofZonedText?_mailText {weekday tail : List Char} (hlength : weekday.length = 3)
    (halpha : ∀ c ∈ weekday, c.isAlpha = true) (ht : tail = [] ∨ ∃ r, tail = ' ' :: '(' :: r) :
    ofZonedText? (s.mailText weekday ++ tail) = some s.moment := by
  have hletter : ∀ c ∈ weekday, (c != ' ') = true ∧ c ≠ '(' := by
    intro c hc
    have hn := toNat_of_isAlpha (halpha c hc)
    constructor
    · rw [bne_iff_ne]
      rintro rfl
      contradiction
    · rintro rfl
      contradiction
  have hplain : ∀ c ∈ s.mailText weekday, c ≠ '(' := by
    simp only [Stamp.mailText, List.forall_mem_append, List.forall_mem_cons]
    exact ⟨fun c hc => (hletter c hc).2, by decide,
      fun c hc => (s.forall_mem_afterWeekday c hc).2⟩
  have hblank : ∀ c ∈ (' ' :: s.afterWeekday).head?, (c != ' ') = false := by simp
  have hrun := takeWhile_run (fun c hc => (hletter c hc).1) hblank
  have hoctets : octets s.afterWeekday = s.afterWeekday :=
    octets_of_ascii fun c hc => (s.forall_mem_afterWeekday c hc).1
  have hmail : ofMailOrder? (s.mailText weekday ++ tail) = some s.moment := by
    rw [ofMailOrder?, beforeParenthesis_append hplain ht, Stamp.mailText]
    simp only [hrun.1, hrun.2]
    rw [if_pos ⟨hlength, List.all_eq_true.mpr halpha⟩, hoctets, readAll?_mailOrder]
  obtain ⟨c, cs, rfl⟩ := List.exists_cons_of_ne_nil (l := weekday)
    fun h => by simp [h] at hlength
  exact (ofZonedText?_of_isAlpha (halpha c List.mem_cons_self) _).trans hmail

/-! ## texts without an offset -/

section
variable {z : List Char} (hz : z = [] ∨ z = ['Z'])
include hz

theorem head?_utc {c : Char} (h : c ≠ 'Z') : z.head? ≠ some c := by
  obtain rfl | rfl := hz
  · simp
  · simpa using h.symm

/-- The form for an offset without a colon finds none. -/
theorem readAll?_compactOffset_unzoned (w : Unzoned) :
    ({} : Fields).readAll? compactOffset (w.text ++ z) = none := by
  obtain ⟨s, year, month, day, hyear, hvalid, time⟩ := w
  obtain ⟨hmonth, hday⟩ := Calendar.bounds_of_isValid hvalid
  have hsign : sign? z = none := by
    obtain rfl | rfl := hz <;> rfl
  simp only [Unzoned.text, List.append_assoc]
  rw [compactOffset_eq, readAll?_signedDate _ _ _ s hyear hmonth hday]
  cases time with
  | none => exact readAll?_literal_ne _ _ (head?_utc hz (by decide))
  | minutes hour minute =>
      simp only [DayTime.text, List.cons_append, List.append_assoc]
      rw [readAll?_literal, readAll?_hourMinute]
      exact readAll?_literal_ne _ _ (head?_utc hz (by decide))
  | seconds hour minute second =>
      simp only [DayTime.text, List.cons_append, List.append_assoc]
      rw [readAll?_literal, readAll?_hourMinute, readAll?_second]
      exact readAll?_component_none _ _ (read?_offsetHour_none _ hsign)
  | fraction hour minute second digits hdigits =>
      simp only [DayTime.text, List.cons_append, List.append_assoc]
      rw [readAll?_literal, readAll?_hourMinute, readAll?_second]
      exact readAll?_component_none _ _ (read?_offsetHour_none _ rfl)

/-- RFC 3339 does not take one but with a `Z`, and then finds the same moment. -/
theorem ofRfc3339?_unzoned {w : Unzoned} {m : Moment} (h : ofRfc3339? (w.text ++ z) = some m) :
    z = ['Z'] ∧ m = w.moment := by
  obtain ⟨s, year, month, day, hyear, hvalid, time⟩ := w
  cases s with
  | some behind =>
      have hsign : (sign behind).isDigit = false := by cases behind <;> rfl
      simp only [Unzoned.text, signText, written_some, List.cons_append] at h
      rw [ofRfc3339?, digits?_cons_none (by decide) hsign] at h
      contradiction
  | none =>
      rw [signedYear_none] at hvalid
      simp only [Unzoned.text, signText, written_none, List.nil_append, List.append_assoc] at h
      cases time with
      | none =>
          rw [DayTime.text, List.nil_append, ofRfc3339?_date hyear hvalid] at h
          obtain rfl | rfl := hz <;> contradiction
      | minutes hour minute =>
          have hhour (r : List Char) := Component.digits?_two (n := hour) r (by omega)
          have hminute (r : List Char) := Component.digits?_two (n := minute) r (by omega)
          have hcolon : after? ':' z = none := by obtain rfl | rfl := hz <;> rfl
          simp only [DayTime.text, List.cons_append, List.append_assoc] at h
          rw [ofRfc3339?_date hyear hvalid] at h
          simp [afterAny?, after?_self, hhour, hminute, hcolon] at h
      | seconds hour minute second =>
          simp only [DayTime.text, List.cons_append, List.append_assoc] at h
          rw [ofRfc3339?_clock hyear hvalid] at h
          obtain rfl | rfl := hz
          · contradiction
          · injection h with h
            exact ⟨rfl, h.symm⟩
      | fraction hour minute second digits hdigits =>
          simp only [DayTime.text, List.cons_append, List.append_assoc] at h
          rw [ofRfc3339?_clock hyear hvalid] at h
          obtain rfl | rfl := hz
          · rw [fraction?_digits hdigits (by simp)] at h
            contradiction
          · rw [fraction?_digits hdigits (by simp)] at h
            injection h with h
            exact ⟨rfl, h.symm⟩

end

theorem isDateChar_unzoned {z : List Char} (hz : z = [] ∨ z = ['Z']) (w : Unzoned) :
    ∀ c ∈ w.text ++ z, isDateChar c = true := by
  refine List.forall_mem_append.mpr ⟨w.isDateChar_text, ?_⟩
  obtain rfl | rfl := hz <;> simp [isDateChar]

/-- Nor does any other form with an offset. -/
theorem ofZonedText?_unzoned {z : List Char} (hz : z = [] ∨ z = ['Z']) {w : Unzoned} {m : Moment}
    (h : ofZonedText? (w.text ++ z) = some m) : z = ['Z'] ∧ m = w.moment := by
  have hchars := isDateChar_unzoned hz w
  rw [ofZonedText?, octets_of_dateChars hchars, readAll?_compactOffset_unzoned hz,
    ofMailOrder?_of_dateChars hchars] at h
  exact ofRfc3339?_unzoned hz (by simpa using h)

/-- A text that is read without an offset is in UTC, with a `Z` or without. -/
theorem ofText?_of_ofLocalText? {t : List Char} {m : Moment} (h : ofLocalText? t = some m) :
    m.offset = 0 ∧ ofText? t = some m ∧ ofText? (t ++ ['Z']) = some m ∧
      ofZonedText? t = none := by
  obtain ⟨w, rfl, rfl⟩ := ofLocalText?_sound h
  have hnone : ofZonedText? w.text = none := by
    refine Option.eq_none_iff_forall_ne_some.mpr fun m hm => ?_
    rw [← List.append_nil w.text] at hm
    exact List.cons_ne_nil _ _ (ofZonedText?_unzoned (.inl rfl) hm).1.symm
  have hoffset : w.moment.offset = 0 := w.time.moment_offset w.dayNumber
  refine ⟨hoffset, ?_, ?_, hnone⟩
  · rw [ofText?, trim_of_dateChars w.isDateChar_text, hnone]
    simp only [w.getLast?_text_ne, if_false, h]
  · rw [ofText?, trim_of_dateChars (isDateChar_unzoned (.inr rfl) w)]
    cases hzoned : ofZonedText? (w.text ++ ['Z']) with
    | some m => rw [(ofZonedText?_unzoned (.inr rfl) hzoned).2]
    | none => simp only [List.getLast?_concat, if_true, List.dropLast_concat, h]

/-- **All spellings agree.**  A civil date and time with an offset is read from each of its
spellings, with any three letters for a weekday and any note, as the instant that is the civil time
less the offset, shown in that offset.  A text that is read without an offset is in UTC; it is read
alike with a `Z` after it, and never where an offset is asked for. -/
theorem spellings_agree :
    (∀ (s : Stamp) (weekday note : List Char), weekday.length = 3 →
      (∀ c ∈ weekday, c.isAlpha = true) →
        ∀ t ∈ s.spellings weekday note, ofZonedText? t = some s.moment) ∧
    ∀ (t : List Char) (m : Moment), ofLocalText? t = some m →
      m.offset = 0 ∧ ofText? t = some m ∧ ofText? (t ++ ['Z']) = some m ∧
        ofZonedText? t = none := by
  refine ⟨fun s weekday note hlength halpha t ht => ?_, fun t m => ofText?_of_ofLocalText?⟩
  simp only [Stamp.spellings, List.mem_cons, List.not_mem_nil, or_false] at ht
  obtain rfl | rfl | rfl | rfl := ht
  · rw [ofZonedText?_text, ← s.literal_moment true]
    rfl
  · rw [ofZonedText?_text, ← s.literal_moment false]
    rfl
  · have hmail := ofZonedText?_mailText s hlength halpha (.inl rfl)
    rwa [List.append_nil] at hmail
  · exact ofZonedText?_mailText s hlength halpha (.inr ⟨_, rfl⟩)

/-- The last quarter of an hour of a year, half an hour behind UTC, is in the next year. -/
theorem spellings_agree_newYear :
    ofZonedText? "Tue Dec 31 2013 23:45:00 GMT-0030 (note)".toList =
        some ⟨1388535300000000000, -1800⟩ ∧
      ofText? "2014-01-01T00:15Z".toList = some ⟨1388535300000000000, 0⟩ := by
  let s : Stamp := ⟨⟨2013, 12, 31, by decide, by decide⟩, 23, 45, 0, true, 0, 30⟩
  have hmoment : s.moment = ⟨1388535300000000000, -1800⟩ := by decide +kernel
  have hletters : "Tue".toList.all Char.isAlpha = true := by decide +kernel
  have hmail := spellings_agree.1 s "Tue".toList "note".toList (by decide +kernel)
    (List.all_eq_true.mp hletters) "Tue Dec 31 2013 23:45:00 GMT-0030 (note)".toList (by decide +kernel)
  have hutc := spellings_agree.2 "2014-01-01T00:15".toList ⟨1388535300000000000, 0⟩
    (by decide +kernel)
  exact ⟨hmoment ▸ hmail, hutc.2.2.1⟩

end Moment

end TreeSift
