import TreeSift.Filter.Error
import TreeSift.Proofs.Expr.RoundTrip
import TreeSift.Proofs.Time.Reading

/-!
# TreeSift.Proofs.Expr.DateToken

A date in an expression: one token, and mostly a constant.

1. Whatever way the form `YYYY-MM-DD[Thh:mm[:ss[.fff]]][Z|±hh[:]mm]` is filled in, the text is one date
   token (`DateLiteral.takes_date`).
2. The token is the constant for the moment that is written if the date is readable.  The form also
   allows numeric offsets where none is understood, and there the text is no expression
   (`Expr.ofText_dateLiteral`).
-/

namespace TreeSift

open Lexeme

namespace DateLiteral

/-! ## the token -/

/-- A date starts with four digits, a dash and another digit. -/
theorem exists_text_eq (w : DateLiteral) : ∃ a b c d e r, w.text = a :: b :: c :: d :: '-' :: e :: r ∧
    ∀ x ∈ [a, b, c, d, e], x.isDigit = true := by
  obtain ⟨a, b, c, d, hyear⟩ : ∃ a b c d, Moment.padded 4 w.date.year = [a, b, c, d] :=
    List.length_eq_four.mp (Moment.length_padded (by decide) w.date.year_lt)
  have hdigits := (Moment.isDigits_padded 4 w.date.year).2
  obtain ⟨e, r, hr, he⟩ := Moment.exists_padded_eq_cons 2 w.date.month
  rw [hyear] at hdigits
  refine ⟨a, b, c, d, e, _, by simp [text, Day.text, hyear, hr]; rfl, ?_⟩
  simpa using ⟨hdigits a (by simp), hdigits b (by simp), hdigits c (by simp), hdigits d (by simp),
    he⟩

/-- A date ends before what delimits it. -/
theorem takes_date (w : DateLiteral) {rest : List Char} (hr : Delimits rest) :
    Takes w.text (.date (String.ofList w.text)) rest := by
  obtain ⟨htake, hdrop⟩ := takeWhile_run w.isDateChar_text (hr.ends ⟨rfl, rfl, rfl⟩)
  obtain ⟨a, b, c, d, e, r, hw, hdigits⟩ := w.exists_text_eq
  have ha : a.isDigit = true := hdigits a (by simp)
  have hstarts : startsDate (w.text ++ rest) = true := by
    simpa [hw, startsDate, and_assoc] using hdigits
  rw [hw, List.cons_append] at htake hdrop hstarts
  refine ⟨a, _, hw, isGap_eq_false_of_class ha ⟨rfl, rfl, rfl, rfl⟩, ?_⟩
  rw [read_digit ha, if_pos hstarts, htake, hdrop, hw]

/-- The tokens of a date are one, at the start of the text. -/
theorem tokens_text (w : DateLiteral) : TokenList.ofText w.text =
    .ok ⟨[⟨.date (String.ofList w.text), 0⟩], Text.byteLength w.text⟩ := by
  obtain ⟨c, r, hw, hc, hread⟩ := w.takes_date delimits_nil
  have hskip : skipGap w.text = c :: r := by
    rw [hw]
    exact List.dropWhile_cons_of_neg (by simp [hc])
  have hnone (total : Nat) : Token.readAll total [] = .ok [] := by
    rw [Token.readAll_eq]
    rfl
  rw [List.append_nil] at hread
  rw [TokenList.ofText, Token.readAll_eq, hskip]
  simp only [hread, hnone, ← hw, Except.map, Token.offset, Nat.sub_self]

end DateLiteral

namespace Grammar

/-- A date token that denotes no instant is no expression.  Every rule passes the error on that its
first operand has. -/
theorem ofTokens_date_error {text : String} (h : Moment.ofText? text.toList = none)
    (position stop : Nat) : Expr.ofTokens ⟨[⟨.date text, position⟩], stop⟩ =
      .error ⟨position, .validDate, .token (.date text)⟩ := by
  let e : ParseError := ⟨position, .validDate, .token (.date text)⟩
  have hatom : atom stop ⟨.date text, position⟩ [] = .error e := by
    simp [atom, h, wanted, e]
  have hoperand : operand stop [⟨.date text, position⟩] = .error e := by
    rw [operand.eq_def]
    simp only [hatom]
    rfl
  have hcomparison : comparison stop [⟨.date text, position⟩] = .error e := by
    rw [comparison.eq_def, hoperand]
    rfl
  have hdenial : denial stop [⟨.date text, position⟩] = .error e := by
    rw [denial.eq_def]
    exact hcomparison
  have hconjunction : conjunction stop [⟨.date text, position⟩] = .error e := by
    rw [conjunction.eq_def, hdenial]
    rfl
  have hdisjunction : disjunction stop [⟨.date text, position⟩] = .error e := by
    rw [disjunction.eq_def, hconjunction]
    rfl
  rw [Expr.ofTokens, hdisjunction]
  rfl

end Grammar

namespace Expr

/-- The constant for a date that is readable. -/
theorem ofText_of_readable {w : DateLiteral} (h : w.isReadable = true) :
    ofText w.text = .ok (.literal (.date w.moment)) := by
  have hdate : Moment.ofText? (String.ofList w.text).toList = some w.moment := by
    rw [String.toList_ofList, Moment.ofText?_text, if_pos h]
  have hlexes : Lexes w.text [.date (String.ofList w.text)] := by
    have h := Lexes.token (w.takes_date delimits_nil) .nil
    rwa [List.append_nil] at h
  exact ofText_of_lexes (.ofComparison (.alone (.atom (.date hdate))))
    (Grammar.Derivation.proper_ofComparison.mpr trivial) hlexes

/-- The error at a date that is not. -/
theorem ofText_of_not_readable {w : DateLiteral} (h : w.isReadable = false) : ofText w.text =
    .error (.ungrammatical ⟨0, .validDate, .token (.date (String.ofList w.text))⟩) := by
  have hdate : Moment.ofText? (String.ofList w.text).toList = none := by
    rw [String.toList_ofList, Moment.ofText?_text, h]
    rfl
  rw [ofText, w.tokens_text]
  simp only [Grammar.ofTokens_date_error hdate]

/-- **Which dates an expression can have.**  A date is one token, however the form is filled in.  By
itself it is the constant for the moment that is written, if it is readable; if its offset is
where none is understood, the error is at its start and says that a valid date was wanted. -/
theorem ofText_dateLiteral (w : DateLiteral) :
    TokenList.ofText w.text =
      .ok ⟨[⟨.date (String.ofList w.text), 0⟩], Text.byteLength w.text⟩ ∧
    ofText w.text = if w.isReadable then .ok (.literal (.date w.moment))
      else .error (.ungrammatical ⟨0, .validDate, .token (.date (String.ofList w.text))⟩) := by
  refine ⟨w.tokens_text, ?_⟩
  cases h : w.isReadable with
  | true => exact ofText_of_readable h
  | false => exact ofText_of_not_readable h

/-- `2013-08-08T16:32+02:00` fills in the form, and is no expression. -/
theorem not_ofText_offset_without_seconds : ∃ w : DateLiteral,
    w.text = "2013-08-08T16:32+02:00".toList ∧ ∀ m, ofText w.text ≠ .ok (.literal (.date m)) := by
  let w : DateLiteral := ⟨⟨2013, 8, 8, by decide, by decide⟩, some ⟨16, 32, none⟩,
    some (.offset false true 2 0)⟩
  refine ⟨w, by decide, fun m h => ?_⟩
  rw [ofText_of_not_readable rfl] at h
  contradiction

end Expr

end TreeSift
