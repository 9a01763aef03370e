import TreeSift.Content.Node
import TreeSift.Proofs.Time.Reading

/-!
# TreeSift.Proofs.Time.Display

The text of a moment is read back.

1. A moment is put together again from the parts that are shown: day, time of day, fraction and
   offset (`ofLocal_parts`).
2. The zeros that are left out at the end of a fraction, and the `Z` in place of an offset of zero,
   are made up for by reading (`exists_fraction`, `exists_zone`).
3. So RFC 3339 gives the moment back where it can write it.  The text has its offset with it, and
   a property that was written as such a text is the same date when it is loaded
   (`display_read`).
-/

namespace TreeSift

open Lexeme DateLiteral

namespace Moment

variable (m : Moment)

/-! ## local parts -/

theorem secondOfDay_lt : m.secondOfDay < 86400 := by
  rw [secondOfDay]
  omega

theorem fraction_lt : m.fraction < 10 ^ 9 := by
  rw [fraction, nanosPerSecond]
  omega

/-- A moment is that of its own local day and time of day. -/
theorem ofLocal_parts : ofLocal m.localDay (m.secondOfDay / 3600) (minuteOf m.secondOfDay)
    (m.secondOfDay % 60) m.fraction m.offset = m := by
  obtain ⟨nanos, offset⟩ := m
  simp only [ofLocal, localDay, secondOfDay, minuteOf, fraction, localSeconds, nanosPerSecond,
    Moment.mk.injEq, and_true]
  omega

/-! ## parts of the text -/

/-- Only zeros are left out at the end of a fraction. -/
theorem exists_fractionDigits (n : Nat) :
    ∃ zeros, padded 9 n = fractionDigits n ++ List.replicate zeros '0' := by
  let ds := (padded 9 n).reverse
  have hzeros : ds.takeWhile (· == '0') =
      List.replicate (ds.takeWhile (· == '0')).length '0' :=
    List.eq_replicate_iff.mpr ⟨rfl, fun c hc => by simpa using List.mem_takeWhile_imp hc⟩
  refine ⟨(ds.takeWhile (· == '0')).length, ?_⟩
  calc padded 9 n
      = (ds.takeWhile (· == '0') ++ ds.dropWhile (· == '0')).reverse := by
        rw [List.takeWhile_append_dropWhile, List.reverse_reverse]
    _ = fractionDigits n ++ (ds.takeWhile (· == '0')).reverse := List.reverse_append
    _ = fractionDigits n ++ List.replicate (ds.takeWhile (· == '0')).length '0' := by
        rw [hzeros, List.reverse_replicate, List.length_replicate]

/-- A fraction is shown as one that an expression can have. -/
theorem exists_fraction {n : Nat} (h : n < 10 ^ 9) :
    ∃ f : Option Fraction, (if n = 0 then [] else '.' :: fractionDigits n) =
      written Fraction.text f ∧ (f.map Fraction.nanos).getD 0 = n := by
  by_cases hn : n = 0
  · exact ⟨none, by simp [hn], by simp [hn]⟩
  obtain ⟨zeros, hzeros⟩ := exists_fractionDigits n
  have hlength := length_padded (by decide) h
  have hvalue := digitsValue_padded 9 n
  rw [hzeros, List.length_append, List.length_replicate] at hlength
  rw [hzeros, Number.digitsValue_replicate_zero] at hvalue
  have hdigits : IsDigits (fractionDigits n) := by
    refine ⟨fun hnil => hn ?_, fun c hc => (isDigits_padded 9 n).2 c ?_⟩
    · rw [← hvalue, hnil]
      exact Nat.zero_mul _
    · rw [hzeros]
      exact List.mem_append_left _ hc
  refine ⟨some ⟨fractionDigits n, hdigits, by omega⟩, by rw [if_neg hn]; rfl, ?_⟩
  rw [Option.map_some, Option.getD_some, Fraction.nanos, show 9 - (fractionDigits n).length = zeros
    by omega, hvalue]

variable {m}

/-- An offset is shown as a zone that is read back. -/
theorem exists_zone (hminutes : m.offset % 60 = 0) (hsize : m.offset.natAbs < 86400) :
    ∃ z : Zone, (if m.offset = 0 then ['Z'] else (if m.offset < 0 then '-' else '+') ::
        (padded 2 (m.offset.natAbs / 3600) ++ ':' :: padded 2 (minuteOf m.offset.natAbs))) =
      z.text ∧ offsetAtEnd? z.text = some m.offset := by
  by_cases hzero : m.offset = 0
  · exact ⟨.utc, if_pos hzero, by rw [hzero]; rfl⟩
  let hour : Fin 24 := ⟨m.offset.natAbs / 3600, by omega⟩
  let minute : Fin 60 := ⟨minuteOf m.offset.natAbs, by rw [minuteOf]; omega⟩
  refine ⟨.offset (decide (m.offset < 0)) true hour minute, ?_, ?_⟩
  · rw [if_neg hzero]
    simp [Zone.text, sign, hour, minute]
  · rw [offsetAtEnd?_colon]
    simp only [Zone.ahead, decide_eq_true_eq, hour, minute, minuteOf]
    split <;> simp only [Option.some.injEq] <;> omega

/-- What RFC 3339 can write it reads back. -/
theorem ofRfc3339?_rfc3339 (hyear : 0 ≤ (Calendar.civil m.localDay).1 ∧
      (Calendar.civil m.localDay).1 ≤ 9999)
    (hminutes : m.offset % 60 = 0) (hsize : m.offset.natAbs < 86400) :
    ofRfc3339? m.rfc3339 = some m ∧ ∀ c ∈ m.rfc3339, isDateChar c = true := by
  obtain ⟨year, month, day, hcivil⟩ : ∃ year month day,
      Calendar.civil m.localDay = (year, month, day) := ⟨_, _, _, rfl⟩
  obtain ⟨hvalid, hday⟩ := Calendar.civil_eq hcivil
  rw [hcivil] at hyear
  obtain ⟨y, rfl⟩ := Int.eq_ofNat_of_zero_le hyear.1
  obtain ⟨f, hf, hnanos⟩ := exists_fraction m.fraction_lt
  obtain ⟨z, hz, hoffset⟩ := exists_zone hminutes hsize
  have hsecond := m.secondOfDay_lt
  let hour : Fin 24 := ⟨m.secondOfDay / 3600, by omega⟩
  let minute : Fin 60 := ⟨minuteOf m.secondOfDay, by rw [minuteOf]; omega⟩
  let second : Fin 60 := ⟨m.secondOfDay % 60, by omega⟩
  have htext : m.rfc3339 = dateText y month day ++
      (Clock.text ⟨hour, minute, some ⟨second, f⟩⟩ ++ written Zone.text (some z)) := by
    simp only [rfc3339, hcivil, hf, hz, dateText, Clock.text, Seconds.text, written_some,
      Int.toNat_natCast, List.cons_append, List.append_assoc, hour, minute, second]
  rw [htext]
  constructor
  · rw [ofRfc3339?_seconds (by omega) hvalid, written_some, hoffset, Option.map_some, hday, hnanos,
      ofLocal_parts]
  · intro c hc
    simp only [List.mem_append] at hc
    obtain hc | hc | hc := hc
    · exact forall_mem_dateText ofDateChars_isDateChar _ _ _ c hc
    · exact Clock.forall_mem_text ofDateChars_isDateChar _ c hc
    · exact Zone.forall_mem_text ofDateChars_isDateChar (fun _ => rfl) c hc

/-- **Dates survive printing.**  A date in a local year of four digits, with an offset in whole
minutes of less than a day, is read back from its text, which has the offset with it.  So it is
the same date as a property that was written and is loaded again. -/
theorem display_read (hyear : 0 ≤ (Calendar.civil m.localDay).1 ∧
      (Calendar.civil m.localDay).1 ≤ 9999)
    (hminutes : m.offset % 60 = 0) (hsize : m.offset.natAbs < 86400) :
    ofZonedText? (Value.date m).display = some m ∧ ofText? (Value.date m).display = some m ∧
      Node.propertyOf (Value.date m).toJson = .date m := by
  obtain ⟨hread, hchars⟩ := ofRfc3339?_rfc3339 hyear hminutes hsize
  have hcan : m.isRfc3339 = true := by simp [isRfc3339, hyear, hminutes, hsize]
  have hdisplay : m.display = m.rfc3339 := if_pos hcan
  have hzoned : ofZonedText? m.display = some m := by
    rw [ofZonedText?, hdisplay, hread]
    rfl
  refine ⟨?_, ?_, ?_⟩
  · rw [Value.display, hzoned]
  · rw [Value.display, ofText?, hdisplay, trim_of_dateChars hchars, ← hdisplay, hzoned]
  · rw [Value.toJson, Node.propertyOf, String.toList_ofList, hzoned]

/-- The last quarter of an hour of the year 9999, in a zone half an hour behind UTC. -/
theorem display_read_lastYear :
    (Value.date ⟨253402301700050000000, -1800⟩).display = "9999-12-31T23:45:00.05-00:30".toList ∧
      ofText? (Value.date ⟨253402301700050000000, -1800⟩).display =
        some ⟨253402301700050000000, -1800⟩ := by
  refine ⟨by decide +kernel, (display_read ?_ ?_ ?_).2.1⟩
  all_goals decide +kernel

end Moment

end TreeSift
