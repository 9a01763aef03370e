import TreeSift.Proofs.Time.Literal
import TreeSift.Time.Reading

/-!
# TreeSift.Proofs.Time.Component

What is taken off the front of a date by the items of a description.

1. The characters of dates are single octets and no blanks, so that a text of them is read as it
   stands.
2. A component reads back what was written for it, whatever comes after it (`Component.read?_year`
   and so on).  Most are numbers of two digits that differ in their range and in the field they are
   kept in (`Component.IsNumber`).  A literal takes its characters and no others.
3. So a date is taken off with the items for it, and a time of day with those for it
   (`Fields.readAll?_plainDate`, `Fields.readAll?_hourMinute`, `Fields.readAll?_second`).
-/

namespace TreeSift

open Lexeme DateLiteral

/-! ## characters of dates -/

theorem toNat_of_isDateChar {c : Char} (h : isDateChar c = true) :
    43 ≤ c.toNat ∧ c.toNat ≤ 90 := by
  simp only [isDateChar, Bool.or_eq_true, beq_iff_eq] at h
  obtain (((((h | rfl) | rfl) | rfl) | rfl) | rfl) | rfl := h
  · have hlow : 48 ≤ c.toNat := (Char.isDigit_iff_toNat.mp h).1
    have hhigh : c.toNat ≤ 57 := (Char.isDigit_iff_toNat.mp h).2
    omega
  all_goals decide

theorem ne_space_of_isDateChar {c : Char} (h : isDateChar c = true) : c ≠ ' ' := by
  rintro rfl
  contradiction

theorem isBlank_of_isDateChar {c : Char} (h : isDateChar c = true) :
    CharClass.isBlank c = false := by
  have hc := toNat_of_isDateChar h
  simp only [CharClass.isBlank, Bool.or_eq_false_iff, Bool.and_eq_false_iff,
    decide_eq_false_iff_not]
  omega

variable {cs : List Char}

theorem octetsOf_ascii {c : Char} (h : c.toNat < 128) : octetsOf c = [c] := if_pos h

theorem octets_of_ascii (h : ∀ c ∈ cs, c.toNat < 128) : octets cs = cs := by
  induction cs with
  | nil => rfl
  | cons c cs ih =>
      obtain ⟨hc, hcs⟩ := List.forall_mem_cons.mp h
      rw [octets, List.flatMap_cons, octetsOf_ascii hc, ← octets, ih hcs, List.singleton_append]

/-- The octets of a character outside ASCII are not all in it. -/
theorem exists_mem_octetsOf {c : Char} (h : 128 ≤ c.toNat) : ∃ o ∈ octetsOf c, 128 ≤ o.toNat := by
  have hlead {n : Nat} (hn : n < 0xD800) (hlow : 128 ≤ n) : 128 ≤ (Char.ofNat n).toNat := by
    have hvalid : n.isValidChar := .inl hn
    rw [Char.ofNat, dif_pos hvalid]
    exact hlow
  have hc : c.toNat < 0x110000 := by
    obtain h | h := c.valid
    · exact Nat.lt_trans h (by decide)
    · exact h.2
  unfold octetsOf
  dsimp only
  rw [if_neg (by omega)]
  split
  · exact ⟨_, List.mem_cons_self, hlead (by omega) (by omega)⟩
  · split
    · exact ⟨_, List.mem_cons_self, hlead (by omega) (by omega)⟩
    · exact ⟨_, List.mem_cons_self, hlead (by omega) (by omega)⟩

/-- Octets in ASCII are the text itself. -/
theorem octets_eq_self (h : ∀ c ∈ octets cs, c.toNat < 128) : octets cs = cs := by
  refine octets_of_ascii fun c hc => Nat.lt_of_not_le fun hhigh => ?_
  obtain ⟨o, ho, hle⟩ := exists_mem_octetsOf hhigh
  exact Nat.not_lt.mpr hle (h o (List.mem_flatMap.mpr ⟨c, hc, ho⟩))

theorem octets_of_dateChars (h : ∀ c ∈ cs, isDateChar c = true) : octets cs = cs :=
  octets_of_ascii fun c hc => Nat.lt_of_le_of_lt (toNat_of_isDateChar (h c hc)).2 (by decide)

theorem trim_of_dateChars (h : ∀ c ∈ cs, isDateChar c = true) : Text.trim cs = cs := by
  have hkeep {ds : List Char} (hd : ∀ c ∈ ds, isDateChar c = true) :
      ds.dropWhile CharClass.isBlank = ds := by
    cases ds with
    | nil => rfl
    | cons d ds =>
        exact List.dropWhile_cons_of_neg
          (by simp [isBlank_of_isDateChar (hd d List.mem_cons_self)])
  rw [Text.trim, Text.trimStart, hkeep h, Text.trimEnd,
    hkeep fun c hc => h c (List.mem_reverse.mp hc), List.reverse_reverse]

namespace Moment

/-- The text ends before a note in parentheses. -/
theorem beforeParenthesis_append (h : ∀ c ∈ cs, c ≠ '(') {tail : List Char}
    (ht : tail = [] ∨ ∃ r, tail = ' ' :: '(' :: r) : beforeParenthesis (cs ++ tail) = cs := by
  induction cs with
  | nil => obtain rfl | ⟨r, rfl⟩ := ht <;> rfl
  | cons c cs ih =>
      have hhead : (cs ++ tail).head? ≠ some '(' := by
        cases cs with
        | nil => obtain rfl | ⟨r, rfl⟩ := ht <;> simp
        | cons d cs => simpa using h d (by simp)
      rw [List.cons_append, beforeParenthesis, if_neg fun hand => hhead hand.2,
        ih fun d hd => h d (List.mem_cons_of_mem _ hd)]

/-- The longest form has blanks in it. -/
theorem ofMailOrder?_of_dateChars (h : ∀ c ∈ cs, isDateChar c = true) : ofMailOrder? cs = none := by
  have hbefore : beforeParenthesis cs = cs := by
    have hplain : ∀ c ∈ cs, c ≠ '(' := by
      rintro c hc rfl
      exact absurd (h _ hc) (by decide)
    have happend := beforeParenthesis_append hplain (.inl rfl)
    rwa [List.append_nil] at happend
  have hnone : cs.dropWhile (· != ' ') = [] :=
    List.dropWhile_eq_nil_iff.mpr fun c hc => by simpa using ne_space_of_isDateChar (h c hc)
  unfold ofMailOrder?
  simp only [hbefore, hnone]

end Moment

/-! ## fields -/

/-- What has been read of a date, -/
def dateFields (d : Day) : Fields where
  year := some d.year
  month := some d.month
  day := some d.day

/-- of a date with hours and minutes, -/
def clockFields (d : Day) (hour : Fin 24) (minute : Fin 60) : Fields :=
  { dateFields d with hour := some hour.val, minute := some minute.val }

/-- and of a date with seconds. -/
def secondFields (d : Day) (hour : Fin 24) (minute second : Fin 60) : Fields :=
  { clockFields d hour minute with second := some second.val }

/-! ## items -/

namespace Fields

variable (f : Fields) (items : List DateItem)

theorem readAll?_text (text rest : List Char) :
    f.readAll? (.literal text :: items) (text ++ rest) = f.readAll? items rest := by
  simp [readAll?]

theorem readAll?_literal (c : Char) (rest : List Char) :
    f.readAll? (.literal [c] :: items) (c :: rest) = f.readAll? items rest :=
  readAll?_text f items [c] rest

/-- Another character than the one that is wanted is not read. -/
theorem readAll?_literal_ne {c : Char} {rest : List Char} (h : rest.head? ≠ some c) :
    f.readAll? (.literal [c] :: items) rest = none := by
  cases rest with
  | nil => simp [readAll?]
  | cons d r =>
      have hd : d ≠ c := fun hd => h (congrArg some hd)
      simp [readAll?, hd]

theorem readAll?_component {c : Component} {cs rest : List Char} {g : Fields}
    (h : c.read? f cs = some (g, rest)) :
    f.readAll? (.component c :: items) cs = g.readAll? items rest := by
  rw [readAll?, h]

theorem readAll?_component_none {c : Component} {cs : List Char} (h : c.read? f cs = none) :
    f.readAll? (.component c :: items) cs = none := by
  rw [readAll?, h]

end Fields

namespace Component

variable (f : Fields) (rest : List Char)

theorem digits?_two {n : Nat} (h : n < 100) :
    digits? 2 2 (Moment.padded 2 n ++ rest) = some (n, rest) :=
  digits?_padded (by decide) h rest

theorem digits?_two_nil {n : Nat} (h : n < 100) :
    digits? 2 2 (Moment.padded 2 n) = some (n, []) := by
  simpa using digits?_two [] h

theorem within?_padded {least most width n : Nat} (hw : 0 < width) (hn : n < 10 ^ width)
    (h : least ≤ n ∧ n ≤ most) :
    within? least most (padded? .zero width (Moment.padded width n ++ rest)) = some (n, rest) := by
  rw [padded?, digits?_padded hw hn, within?, Option.bind_some, if_pos h]

/-- A component that is a number of two digits in a range, and is kept in a field. -/
def IsNumber (c : Component) (least most : Nat) (set : Fields → Nat → Fields) : Prop :=
  ∀ f cs, c.read? f cs = (within? least most (padded? .zero 2 cs)).map fun p => (set f p.1, p.2)

theorem isNumber_month : IsNumber (.month .zero .number true) 1 12
    fun f n => { f with month := some n } := fun _ _ => rfl

theorem isNumber_day : IsNumber (.day .zero) 1 31
    fun f n => { f with day := some n } := fun _ _ => rfl

theorem isNumber_hour : IsNumber (.hour .zero false) 0 23
    fun f n => { f with hour := some n } := fun _ _ => rfl

theorem isNumber_minute : IsNumber (.minute .zero) 0 59
    fun f n => { f with minute := some n } := fun _ _ => rfl

theorem isNumber_second : IsNumber (.second .zero) 0 60
    fun f n => { f with second := some n } := fun _ _ => rfl

theorem isNumber_offsetMinute : IsNumber (.offsetMinute .zero) 0 59
    fun f n => { f with offsetMinute := some n } := fun _ _ => rfl

theorem IsNumber.read?_padded {c : Component} {least most n : Nat} {set : Fields → Nat → Fields}
    (hc : IsNumber c least most set) (hmost : most < 100) (h : least ≤ n ∧ n ≤ most) :
    c.read? f (Moment.padded 2 n ++ rest) = some (set f n, rest) := by
  rw [hc, within?_padded rest (by decide) (by omega) h, Option.map_some]

/-- What does not start with a digit is no number. -/
theorem digits?_cons_none {width : Nat} {c : Char} (hw : 0 < width) (hc : c.isDigit = false)
    (cs : List Char) : digits? width width (c :: cs) = none := by
  obtain ⟨w, rfl⟩ := Nat.exists_eq_add_of_le' hw
  simp [digits?, hc]

/-- The digits of a number are no sign. -/
theorem sign?_padded (width n : Nat) : sign? (Moment.padded width n ++ rest) = none := by
  obtain ⟨c, r, hp, hc⟩ := Moment.exists_padded_eq_cons width n
  have hplus : c ≠ '+' := ne_of_isDigit hc rfl
  have hminus : c ≠ '-' := ne_of_isDigit hc rfl
  simp [hp, sign?, hplus, hminus]

/-- The sign of a year, if it has one. -/
def signText (s : Option Bool) : List Char := written (fun behind => [sign behind]) s

def signedYear (s : Option Bool) (n : Nat) : Int := if s = some true then -n else n

@[simp] theorem signedYear_none (n : Nat) : signedYear none n = n := rfl

theorem sign?_sign (behind : Bool) : sign? (sign behind :: rest) = some (behind, rest) := by
  cases behind <;> rfl

theorem optionalSign?_signText (s : Option Bool) (h : sign? rest = none) :
    optionalSign? false (signText s ++ rest) = some (s, rest) := by
  cases s with
  | none => simp [signText, optionalSign?, h]
  | some behind => simp [signText, optionalSign?, sign?_sign]

theorem read?_year (s : Option Bool) {n : Nat} (h : n < 10000) :
    read? f (signText s ++ (Moment.padded 4 n ++ rest)) (.year .zero .full false false) =
      some ({ f with year := some (signedYear s n) }, rest) := by
  have hsign := optionalSign?_signText _ s (sign?_padded rest 4 n)
  have hyear : padded? .zero 4 (Moment.padded 4 n ++ rest) = some (n, rest) :=
    digits?_padded (by decide) h rest
  simp only [read?, signedYear?, hsign, Option.bind_eq_bind, Option.bind_some, hyear]
  cases s with
  | none => rfl
  | some behind => cases behind <;> rfl

/-- A year starts with a sign or a digit. -/
theorem read?_year_none {c : Char} (hsign : c ≠ '+' ∧ c ≠ '-')
    (hdigit : c.isDigit = false) (cs : List Char) :
    read? f (c :: cs) (.year .zero .full false false) = none := by
  have hno : optionalSign? false (c :: cs) = some (none, c :: cs) := by
    simp [optionalSign?, sign?, hsign]
  have hdigits : padded? .zero 4 (c :: cs) = none := digits?_cons_none (by decide) hdigit cs
  have hyear : signedYear? .zero 4 false (c :: cs) = none := by
    simp [signedYear?, hno, hdigits]
  simp only [read?, hyear, Option.map_none]

theorem read?_month {n : Nat} (h : 1 ≤ n ∧ n ≤ 12) :
    read? f (Moment.padded 2 n ++ rest) (.month .zero .number true) =
      some ({ f with month := some n }, rest) :=
  isNumber_month.read?_padded f rest (by decide) h

theorem read?_day {n : Nat} (h : 1 ≤ n ∧ n ≤ 31) :
    read? f (Moment.padded 2 n ++ rest) (.day .zero) = some ({ f with day := some n }, rest) :=
  isNumber_day.read?_padded f rest (by decide) h

theorem read?_hour (n : Fin 24) :
    read? f (Moment.padded 2 n ++ rest) (.hour .zero false) =
      some ({ f with hour := some n }, rest) :=
  isNumber_hour.read?_padded f rest (by decide) (by omega)

theorem read?_minute (n : Fin 60) :
    read? f (Moment.padded 2 n ++ rest) (.minute .zero) =
      some ({ f with minute := some n }, rest) :=
  isNumber_minute.read?_padded f rest (by decide) (by omega)

theorem read?_second (n : Fin 60) :
    read? f (Moment.padded 2 n ++ rest) (.second .zero) =
      some ({ f with second := some n }, rest) :=
  isNumber_second.read?_padded f rest (by decide) (by omega)

theorem read?_subsecond {ds rest : List Char} (hd : IsDigits ds)
    (hr : ∀ c ∈ rest.head?, c.isDigit = false) :
    read? f (ds ++ rest) (.subsecond none) =
      some ({ f with subsecond := some (nanosOf ds) }, rest) := by
  have hlength : ¬ ds.length < 1 := Nat.not_lt.mpr (List.length_pos_iff.mpr hd.1)
  simp only [read?, (takeWhile_run hd.2 hr).1, Option.getD_none, if_neg hlength, List.drop_left]

/-- An offset may have more hours than a day. -/
theorem read?_offsetHour_of_le (behind : Bool) {n : Nat} (h : n ≤ 25) :
    read? f (sign behind :: (Moment.padded 2 n ++ rest)) (.offsetHour true .zero) =
      some ({ f with offsetHour := some (n, behind) }, rest) := by
  have hhour : within? 0 25 (padded? .zero 2 (Moment.padded 2 n ++ rest)) = some (n, rest) :=
    within?_padded rest (by decide) (by omega) ⟨by omega, h⟩
  simp only [read?, optionalSign?, sign?_sign, Option.bind_eq_bind, Option.bind_some, hhour]
  cases behind <;> rfl

theorem read?_offsetHour (behind : Bool) (n : Fin 24) :
    read? f (sign behind :: (Moment.padded 2 n ++ rest)) (.offsetHour true .zero) =
      some ({ f with offsetHour := some (n, behind) }, rest) :=
  read?_offsetHour_of_le f rest behind (by omega)

/-- A sign that has to be there. -/
theorem read?_offsetHour_none {cs : List Char} (h : sign? cs = none) :
    read? f cs (.offsetHour true .zero) = none := by
  simp [read?, optionalSign?, h]

theorem read?_offsetMinute (n : Fin 60) :
    read? f (Moment.padded 2 n ++ rest) (.offsetMinute .zero) =
      some ({ f with offsetMinute := some n }, rest) :=
  isNumber_offsetMinute.read?_padded f rest (by decide) (by omega)

end Component

namespace Fields

open Component

variable (f : Fields) (items : List DateItem) (rest : List Char)

/-- A date is taken off, -/
theorem readAll?_signedDate (s : Option Bool) {year month day : Nat} (hyear : year < 10000)
    (hmonth : 1 ≤ month ∧ month ≤ 12) (hday : 1 ≤ day ∧ day ≤ 31) :
    f.readAll? (Moment.plainDate ++ items) (signText s ++ (dateText year month day ++ rest)) =
      { f with year := some (signedYear s year), month := some month, day := some day }.readAll?
        items rest := by
  simp only [Moment.plainDate, dateText, List.cons_append, List.append_assoc, List.nil_append]
  rw [readAll?_component _ _ (read?_year _ _ s hyear), readAll?_literal,
    readAll?_component _ _ (read?_month _ _ hmonth), readAll?_literal,
    readAll?_component _ _ (read?_day _ _ hday)]

theorem readAll?_plainDate (d : Day) : ({} : Fields).readAll? (Moment.plainDate ++ items)
    (d.text ++ rest) = (dateFields d).readAll? items rest :=
  readAll?_signedDate {} items rest none d.year_lt d.month_le d.day_le

/-- So are hours and minutes, -/
theorem readAll?_hourMinute (hour : Fin 24) (minute : Fin 60) :
    f.readAll? (Moment.hourMinute ++ items)
        (Moment.padded 2 hour ++ ':' :: (Moment.padded 2 minute ++ rest)) =
      { f with hour := some (hour : Nat), minute := some (minute : Nat) }.readAll? items rest := by
  simp only [Moment.hourMinute, List.cons_append, List.nil_append]
  rw [readAll?_component _ _ (read?_hour _ _ hour), readAll?_literal,
    readAll?_component _ _ (read?_minute _ _ minute)]

/-- seconds, -/
theorem readAll?_second (second : Fin 60) :
    f.readAll? (.literal [':'] :: .component (.second .zero) :: items)
        (':' :: (Moment.padded 2 second ++ rest)) =
      { f with second := some (second : Nat) }.readAll? items rest := by
  rw [readAll?_literal, readAll?_component _ _ (read?_second _ _ second)]

/-- and an offset without a colon. -/
theorem readAll?_offset (behind : Bool) (hour : Fin 24) (minute : Fin 60) :
    f.readAll? [.component (.offsetHour true .zero), .component (.offsetMinute .zero)]
        (Zone.offset behind false hour minute).text =
      some { f with offsetHour := some (hour.val, behind), offsetMinute := some minute.val } := by
  have hminute := read?_offsetMinute { f with offsetHour := some (hour.val, behind) } [] minute
  rw [List.append_nil] at hminute
  rw [Zone.text, if_neg Bool.false_ne_true, List.nil_append,
    readAll?_component _ _ (read?_offsetHour _ _ behind hour), readAll?_component _ _ hminute]
  rfl

/-- The fields of a date determine its day. -/
theorem day?_of_date (d : Day) (h : f.year = some (d.year : Int) ∧ f.month = some d.month ∧
    f.day = some d.day ∧ f.ordinal = none) :
    f.day? = some (Calendar.dayNumber d.year d.month d.day) := by
  obtain ⟨hyear, hmonth, hday, hordinal⟩ := h
  have hnamed := d.named
  have hrange : Calendar.inRange d.year = true := by
    simp only [Calendar.inRange, Bool.and_eq_true, decide_eq_true_eq]
    omega
  simp only [day?, wholeYear?, hyear, hmonth, hday, hordinal, hrange, d.valid, and_self, if_true]

variable {f} {day o : Int} {h m s n : Nat}

/-- With a time of day and an offset they determine a moment, -/
theorem zoned?_eq (ht : f.timestamp = none) (hd : f.day? = some day)
    (hc : f.timeOfDay? = some (h, m, s, n)) (ho : f.offset? = some o) :
    f.zoned? = some (Moment.ofLocal day h m s n o) := by
  simp only [zoned?, ht, hd, hc, ho, Option.bind_eq_bind, Option.bind_some]

/-- and without an offset one in UTC. -/
theorem local?_eq (hd : f.day? = some day) (hc : f.timeOfDay? = some (h, m, s, n)) :
    f.local? = some (Moment.ofLocal day h m s n 0) := by
  simp only [local?, hd, hc, Option.bind_eq_bind, Option.bind_some]

end Fields

end TreeSift
