import TreeSift.Proofs.Expr.Blanks

/-!
# TreeSift.Proofs.Expr.LongestNumber

Number tokens take as much of the text as they can, and denote what they take.

1. Every part of a numeral is a run of characters of one class, or starts with a character that no
   other part has.  So a numeral in front of a text is in front of what is read there as well, part
   by part from the left (`run_append_prefix`), and what is read is the longest.
2. Where a number starts there is something to read, a date if not a number, unless the text
   `BreaksOff` after a point.
3. Every number token has a value (`IsNumeral.hasValue`).  The parser wants a number only in place
   of a number token without one, so its errors never do (`Expr.expected_ne_number`).
-/

namespace TreeSift

open Lexeme

namespace Lexeme

/-- The text starts with the numeral, and with none that is longer. -/
structure LongestNumeral (cs numeral : List Char) : Prop where
  isNumeral : IsNumeral numeral
  start : numeral <+: cs
  longest : ∀ other, IsNumeral other → other <+: cs → other.length ≤ numeral.length

variable {cs rest : List Char}

/-! ## part by part -/

theorem prefix_takeWhile {p : Char → Bool} {run : List Char} (hrun : ∀ c ∈ run, p c = true)
    (h : run <+: cs) : run <+: cs.takeWhile p := by
  obtain ⟨after, rfl⟩ := h
  rw [List.takeWhile_append_of_pos hrun]
  exact List.prefix_append _ _

/-- A run of characters of one class in front of a text takes no more of it than all of them, and
what comes after the run has to be in front of what is left then. -/
theorem run_append_prefix {p : Char → Bool} {run more tail : List Char}
    (hrun : ∀ c ∈ run, p c = true) (hmore : ∀ c ∈ more.head?, p c = false)
    (h : run ++ more <+: cs) (htail : more <+: cs.dropWhile p → more <+: tail) :
    run ++ more <+: cs.takeWhile p ++ tail := by
  cases more with
  | nil =>
      rw [List.append_nil] at h ⊢
      exact (prefix_takeWhile hrun h).trans (List.prefix_append _ _)
  | cons c more =>
      obtain ⟨after, rfl⟩ := h
      have hends : ∀ d ∈ (c :: more ++ after).head?, p d = false := hmore
      obtain ⟨htake, hdrop⟩ := takeWhile_run hrun hends
      rw [List.append_assoc, hdrop] at htail
      rw [List.append_assoc, htake]
      exact (List.prefix_append_right_inj run).mpr (htail (List.prefix_append _ _))

theorem readSignMark_of_prefix {sign ds : List Char} (hs : sign = [] ∨ sign = ['+'] ∨ sign = ['-'])
    (hd : IsDigits ds) (h : sign ++ ds <+: cs) :
    (readSignMark cs).1 = sign ∧ ds <+: (readSignMark cs).2 := by
  obtain ⟨after, rfl⟩ := h
  obtain rfl | rfl | rfl := hs
  · obtain ⟨hne, hdigit⟩ := id hd
    cases ds with
    | nil => contradiction
    | cons d ds =>
        have hminus : d ≠ '-' := ne_of_isDigit (hdigit d List.mem_cons_self) rfl
        have hplus : d ≠ '+' := ne_of_isDigit (hdigit d List.mem_cons_self) rfl
        simp [readSignMark, hminus, hplus]
  · exact ⟨rfl, List.prefix_append _ _⟩
  · exact ⟨rfl, List.prefix_append _ _⟩

/-- An exponent in front of a text is in front of the one that is read. -/
theorem prefix_readExponent {exponent : List Char} (he : IsExponent exponent)
    (h : exponent <+: cs) : exponent <+: (readExponent cs).1 := by
  obtain rfl | ⟨e, sign, ds, hletter, hs, hd, rfl⟩ := he
  · exact List.nil_prefix
  · cases cs with
    | nil => simp at h
    | cons c r =>
        obtain ⟨rfl, hafter⟩ := List.cons_prefix_cons.mp h
        obtain ⟨hsign, hds⟩ := readSignMark_of_prefix hs hd hafter
        have hrun := prefix_takeWhile hd.2 hds
        have hne : (readSignMark r).2.takeWhile Char.isDigit ≠ [] := by
          intro hnil
          rw [hnil] at hrun
          exact hd.1 (List.prefix_nil.mp hrun)
        unfold readExponent
        dsimp only [digitRun]
        split
        · rw [hsign]
          exact List.cons_prefix_cons.mpr ⟨rfl, (List.prefix_append_right_inj sign).mpr hrun⟩
        · next hnone => exact absurd ⟨hletter, hne⟩ hnone

theorem takeWhile_isDigit_eq_nil_iff :
    cs.takeWhile Char.isDigit = [] ↔ ∀ c ∈ cs.head?, c.isDigit = false := by
  cases cs with
  | nil => simp
  | cons c r => cases hc : c.isDigit <;> simp [hc]

theorem readFraction_point (r : List Char) :
    readFraction ('.' :: r) = if r.takeWhile Char.isDigit = [] then .error ⟨.fractionDigit, r⟩
      else .ok ('.' :: r.takeWhile Char.isDigit, r.dropWhile Char.isDigit) := by
  -- without digits there is nothing to drop
  refine ite_congr rfl (fun hnil => ?_) fun _ => rfl
  have hdrop := List.takeWhile_append_dropWhile (p := Char.isDigit) (l := r)
  rw [hnil, List.nil_append] at hdrop
  rw [hdrop]

theorem readFraction_of_ne_point (h : cs.head? ≠ some '.') : readFraction cs = .ok ([], cs) := by
  unfold readFraction
  split
  · contradiction
  · rfl

/-- So is a fraction with an exponent after it. -/
theorem prefix_readFraction {fraction exponent : List Char} {p : List Char × List Char}
    (hf : IsFraction fraction) (he : IsExponent exponent) (hp : readFraction cs = .ok p)
    (h : fraction ++ exponent <+: cs) : fraction ++ exponent <+: p.1 ++ (readExponent p.2).1 := by
  obtain rfl | ⟨ds, hd, rfl⟩ := hf
  · obtain rfl | ⟨e, sign, ds, hletter, hs, hd, rfl⟩ := id he
    · exact List.nil_prefix
    · -- an exponent starts with a letter, so no fraction is read before it
      obtain ⟨after, rfl⟩ := id h
      have hpoint : (e :: (sign ++ ds) ++ after).head? ≠ some '.' := by
        obtain rfl | rfl := hletter <;> simp
      rw [List.nil_append, readFraction_of_ne_point hpoint] at hp
      obtain rfl := Except.ok.inj hp
      exact prefix_readExponent he h
  · obtain ⟨after, rfl⟩ := id h
    rw [List.cons_append, List.cons_append, readFraction_point] at hp
    split at hp
    · contradiction
    · obtain rfl := Except.ok.inj hp
      refine List.cons_prefix_cons.mpr ⟨rfl, ?_⟩
      exact run_append_prefix hd.2 (isDigit_eq_false_of_isExponent he)
        (List.prefix_append _ after) (prefix_readExponent he)

/-- A numeral in front of a text that starts with a digit, or with a sign and a digit, has that
sign. -/
theorem sign_of_prefix {sign sign' ds more : List Char} (hs : sign = [] ∨ sign = ['-'])
    (hs' : sign' = [] ∨ sign' = ['-']) (hd : IsDigits ds) (hcs : startsDigit cs = true)
    (h : sign' ++ (ds ++ more) <+: sign ++ cs) : sign' = sign ∧ ds ++ more <+: cs := by
  obtain ⟨hne, hdigit⟩ := hd
  obtain ⟨d, ds, rfl⟩ := List.exists_cons_of_ne_nil hne
  have hdigit : d.isDigit = true := hdigit d List.mem_cons_self
  cases cs with
  | nil => contradiction
  | cons c r =>
      have hc : c.isDigit = true := hcs
      obtain rfl | rfl := hs <;> obtain rfl | rfl := hs'
      · exact ⟨rfl, h⟩
      · exact absurd (List.cons_prefix_cons.mp h).1.symm (ne_of_isDigit hc rfl)
      · exact absurd (List.cons_prefix_cons.mp h).1 (ne_of_isDigit hdigit rfl)
      · exact ⟨rfl, (List.cons_prefix_cons.mp h).2⟩

theorem readNumber_eq {sign : List Char} (hcs : startsDigit cs = true) :
    readNumber sign cs = (readFraction (cs.dropWhile Char.isDigit)).map fun p =>
      (.number (String.ofList (sign ++ cs.takeWhile Char.isDigit ++ p.1 ++ (readExponent p.2).1)),
        (readExponent p.2).2) := by
  have hwhole : (digitRun cs).1 ≠ [] := by
    cases cs with
    | nil => contradiction
    | cons c r =>
        have hc : c.isDigit = true := hcs
        simp [digitRun, hc]
  exact if_neg hwhole

theorem Spelled.eq_toList {text : String} {span : List Char} (h : Spelled (.number text) span) :
    span = text.toList := by
  cases h with
  | number h => rw [String.toList_ofList]
  | fixed h => simp [fixedSpellings] at h

/-- The number that is read is the longest numeral. -/
theorem longestNumeral_of_readNumber {sign : List Char} {text : String}
    (hs : sign = [] ∨ sign = ['-']) (hcs : startsDigit cs = true)
    (h : readNumber sign cs = .ok (.number text, rest)) :
    LongestNumeral (sign ++ cs) text.toList := by
  obtain ⟨span, happend, hspelled⟩ := took_readNumber hs h
  obtain rfl := hspelled.eq_toList
  refine ⟨hspelled.isNumeral, ⟨rest, happend.symm⟩, fun other hother hprefix => ?_⟩
  rw [readNumber_eq hcs] at h
  obtain ⟨p, hp, hl⟩ := exists_of_map_eq_ok h
  obtain ⟨hl, -⟩ := Prod.mk.inj hl
  obtain ⟨sign', whole, fraction, exponent, hs', hw, hf, he, rfl⟩ := hother.parts
  rw [List.append_assoc, List.append_assoc] at hprefix
  obtain ⟨rfl, hnumber⟩ := sign_of_prefix hs hs' hw hcs hprefix
  have hparts := run_append_prefix hw.2 (isDigit_eq_false_of_isFraction hf he) hnumber
    fun hmore => prefix_readFraction hf he hp hmore
  have hlength := hparts.length_le
  rw [← Lexeme.number.inj hl, String.toList_ofList]
  simp only [List.length_append] at hlength ⊢
  omega

/-! ## where no number can be read -/

theorem readFraction_eq_error_iff {f : Fault} :
    readFraction cs = .error f ↔
      ∃ r, cs = '.' :: r ∧ (∀ c ∈ r.head?, c.isDigit = false) ∧ f = ⟨.fractionDigit, r⟩ := by
  by_cases hpoint : cs.head? = some '.'
  · obtain ⟨r, rfl⟩ := List.head?_eq_some_iff.mp hpoint
    simp only [readFraction_point, List.cons.injEq, true_and, exists_eq_left',
      ← takeWhile_isDigit_eq_nil_iff]
    split
    · next hnil => simp [hnil, eq_comm]
    · next hne => simp [hne]
  · rw [readFraction_of_ne_point hpoint]
    constructor
    · intro h
      contradiction
    · rintro ⟨r, rfl, -⟩
      exact absurd rfl hpoint

/-- The text is digits, maybe with a sign in front, then a point, and `rest`, which starts with no
digit. -/
def BreaksOff (cs rest : List Char) : Prop :=
  ∃ sign ds, (sign = [] ∨ sign = ['-']) ∧ IsDigits ds ∧ cs = sign ++ (ds ++ '.' :: rest) ∧
    ∀ c ∈ rest.head?, c.isDigit = false

theorem readNumber_eq_error_iff {sign : List Char} {f : Fault} (hs : sign = [] ∨ sign = ['-'])
    (hcs : startsDigit cs = true) : readNumber sign cs = .error f ↔
      f.expected = .fractionDigit ∧ BreaksOff (sign ++ cs) f.rest := by
  rw [readNumber_eq hcs]
  constructor
  · intro h
    obtain ⟨r, hr, hends, rfl⟩ := readFraction_eq_error_iff.mp (error_of_map_eq_error h)
    have happend := List.takeWhile_append_dropWhile (p := Char.isDigit) (l := cs)
    rw [hr] at happend
    refine ⟨rfl, sign, _, hs, isDigits_takeWhile ?_, by rw [happend], hends⟩
    intro hnil
    rw [hnil] at happend
    subst happend
    contradiction
  · rintro ⟨hexpected, sign', ds, hs', hd, heq, hends⟩
    have hprefix : sign' ++ (ds ++ '.' :: f.rest) <+: sign ++ cs := heq ▸ List.prefix_refl _
    obtain ⟨rfl, -⟩ := sign_of_prefix hs hs' hd hcs hprefix
    obtain rfl := List.append_cancel_left heq
    have hpoint : ∀ c ∈ ('.' :: f.rest).head?, c.isDigit = false := by simp
    have herror := readFraction_eq_error_iff.mpr ⟨f.rest, rfl, hends, rfl⟩
    rw [(takeWhile_run hd.2 hpoint).2, herror, ← hexpected]
    rfl

/-! ## where a number starts -/

/-- A digit comes next, or a sign and a digit. -/
def StartsNumber (cs : List Char) : Prop :=
  startsDigit cs = true ∨ ∃ r, cs = '-' :: r ∧ startsDigit r = true

theorem IsNumeral.starts {numeral : List Char} (h : IsNumeral numeral) (rest : List Char) :
    StartsNumber (numeral ++ rest) := by
  obtain ⟨sign, whole, fraction, exponent, hs, ⟨hne, hdigit⟩, -, -, rfl⟩ := h.parts
  obtain ⟨d, ds, rfl⟩ := List.exists_cons_of_ne_nil hne
  have hd : d.isDigit = true := hdigit d List.mem_cons_self
  obtain rfl | rfl := hs
  · exact .inl hd
  · exact .inr ⟨_, rfl, hd⟩

/-- What is read where a number starts is a date or a number. -/
theorem read_cases {c : Char} (h : StartsNumber (c :: cs)) :
    (startsDate (c :: cs) = true ∧ ∃ text rest, read c cs = .ok (.date text, rest)) ∨
      ∃ sign ds, (sign = [] ∨ sign = ['-']) ∧ startsDigit ds = true ∧ c :: cs = sign ++ ds ∧
        read c cs = readNumber sign ds := by
  obtain hc | ⟨r, heq, hr⟩ := h
  · rw [read_digit hc]
    split
    · next hdate => exact .inl ⟨hdate, _, _, rfl⟩
    · exact .inr ⟨[], c :: cs, .inl rfl, hc, rfl, rfl⟩
  · obtain ⟨rfl, rfl⟩ := List.cons.inj heq
    exact .inr ⟨['-'], cs, .inr rfl, hr, rfl, read_minus hr⟩

theorem BreaksOff.startsDate (h : BreaksOff cs rest) : startsDate cs = false := by
  obtain ⟨sign, ds, hs, hd, rfl, -⟩ := h
  obtain rfl | rfl := hs
  · rw [List.nil_append]
    exact startsDate_run hd fun c hc => Option.some.inj hc ▸ ⟨rfl, by decide⟩
  · refine Bool.eq_false_iff.mpr fun h => ?_
    unfold Lexeme.startsDate at h
    split at h
    · next heq =>
      obtain ⟨rfl, -⟩ := List.cons.inj heq
      simp at h
    · contradiction

/-- Where a number starts, reading fails only after a point that no digit follows. -/
theorem read_eq_error_iff {c : Char} {f : Fault} (h : StartsNumber (c :: cs)) :
    read c cs = .error f ↔ f.expected = .fractionDigit ∧ BreaksOff (c :: cs) f.rest := by
  obtain ⟨hdate, text, rest, hread⟩ | ⟨sign, ds, hs, hds, heq, hread⟩ := read_cases h
  · rw [hread]
    refine iff_of_false (by simp) fun ⟨_, hbreaks⟩ => ?_
    rw [hbreaks.startsDate] at hdate
    contradiction
  · rw [hread, heq]
    exact readNumber_eq_error_iff hs hds

/-- A number token takes the longest numeral that the text starts with. -/
theorem longestNumeral_of_read {c : Char} {text : String}
    (h : read c cs = .ok (.number text, rest)) : LongestNumeral (c :: cs) text.toList := by
  obtain ⟨span, hspan, hspelled⟩ := spelled_of_read h
  obtain rfl := hspelled.eq_toList
  have hstarts : StartsNumber (c :: cs) := hspan ▸ hspelled.isNumeral.starts rest
  obtain ⟨-, date, left, hdate⟩ | ⟨sign, ds, hs, hds, heq, hread⟩ := read_cases hstarts
  · rw [hdate] at h
    simp at h
  · rw [hread] at h
    exact heq ▸ longestNumeral_of_readNumber hs hds h

/-! ## what a number denotes -/

/-- Digits denote their value, and with a sign in front its negative. -/
inductive Denotes : List Char → Int → Prop where
  | digits {ds : List Char} (hd : IsDigits ds) : Denotes ds (Nat.ofDigitChars 10 ds 0)
  | minus {ds : List Char} (hd : IsDigits ds) : Denotes ('-' :: ds) (-(Nat.ofDigitChars 10 ds 0))

/-- The text has neither a point nor the letter of an exponent. -/
def IsPlain (cs : List Char) : Prop := ∀ c ∈ cs, c ≠ '.' ∧ c ≠ 'e' ∧ c ≠ 'E'

/-- The value of a number token: the whole number of 64 bits that a plain text denotes, or else the
double that the text is read as, which is a number. -/
inductive HasValue (cs : List Char) : Value → Prop where
  | long {n : Int64} (plain : IsPlain cs) (denotes : Denotes cs n.toInt) : HasValue cs (.long n)
  | double {x : Binary64} (read : Number.read? cs = some x) (number : x.isNaN = false)
    (otherwise : ∀ n : Int64, IsPlain cs → ¬Denotes cs n.toInt) : HasValue cs (.double x)

theorem readInt?_of_denotes {n : Int} (h : Denotes cs n) : Number.readInt? cs = some n := by
  cases h with
  | digits hd => rw [readInt?_digits hd, Number.digitsValue_eq_ofDigitChars]
  | minus hd => rw [readInt?_minus hd, Number.digitsValue_eq_ofDigitChars]

/-- A plain numeral has no fraction and no exponent. -/
theorem IsNumeral.denotes (h : IsNumeral cs) (hp : IsPlain cs) : ∃ n, Denotes cs n := by
  obtain ⟨sign, whole, fraction, exponent, hs, hw, hf, he, rfl⟩ := h.parts
  obtain rfl | ⟨ds, -, rfl⟩ := hf
  · obtain rfl | ⟨e, _, _, hletter, -, -, rfl⟩ := he
    · rw [List.append_nil, List.append_nil]
      obtain rfl | rfl := hs
      · exact ⟨_, .digits hw⟩
      · exact ⟨_, .minus hw⟩
    · obtain ⟨-, hlower, hupper⟩ := hp e (by simp)
      exact absurd hletter (not_or.mpr ⟨hlower, hupper⟩)
  · exact absurd rfl (hp '.' (by simp)).1

theorem isPlain_iff : IsPlain cs ↔ (cs.any fun c => c == '.' || c == 'e' || c == 'E') = false := by
  simp [IsPlain, and_assoc]

theorem number?_of_denotes {n : Int} (hp : IsPlain cs) (hn : Denotes cs n) :
    Grammar.number? cs = if Number.IsSigned64 n then some (.long (Int64.ofInt n))
      else (Number.read? cs).map .double := by
  unfold Grammar.number?
  simp only [isPlain_iff.mp hp, Bool.not_false, if_true, readInt?_of_denotes hn]

theorem number?_of_not_isPlain (hp : ¬IsPlain cs) :
    Grammar.number? cs = (Number.read? cs).map .double := by
  rw [isPlain_iff, Bool.not_eq_false] at hp
  unfold Grammar.number?
  simp only [hp, Bool.not_true, Bool.false_eq_true, if_false]

/-- Every numeral has a value. -/
theorem IsNumeral.hasValue (h : IsNumeral cs) :
    ∃ v, Grammar.number? cs = some v ∧ HasValue cs v := by
  obtain ⟨x, hx⟩ := Option.isSome_iff_exists.mp (read?_isSome h)
  have hdouble : (Number.read? cs).map Value.double = some (.double x) := by rw [hx]; rfl
  by_cases hp : IsPlain cs
  · obtain ⟨n, hn⟩ := h.denotes hp
    rw [number?_of_denotes hp hn]
    split
    · next hrange => exact ⟨_, rfl, .long hp (by rwa [Number.toInt_ofInt_of_isSigned64 hrange])⟩
    · next hrange =>
      refine ⟨_, hdouble, .double hx (isNaN_of_read? h hx) fun m _ hm => hrange ?_⟩
      have hsame := (readInt?_of_denotes hn).symm.trans (readInt?_of_denotes hm)
      exact Option.some.inj hsame ▸ Number.isSigned64_toInt m
  · rw [number?_of_not_isPlain hp]
    exact ⟨_, hdouble, .double hx (isNaN_of_read? h hx) fun _ hplain => absurd hplain hp⟩

end Lexeme

/-! ## whole texts -/

/-- What the grammar does not take are the tokens of the text. -/
theorem Expr.exists_tokens_of_ungrammatical {text : List Char} {e : ParseError}
    (h : ofText text = .error (.ungrammatical e)) :
    ∃ ts, TokenList.ofText text = .ok ts ∧ ofTokens ts = .error e := by
  unfold ofText at h
  split at h
  · cases h
  · next ts hts =>
    split at h
    · next hparse =>
      cases h
      exact ⟨ts, hts, hparse⟩
    · contradiction

/-- An error of the parser never wants a number. -/
theorem Expr.expected_ne_number {text : List Char} {e : ParseError}
    (h : ofText text = .error (.ungrammatical e)) : e.expected ≠ .number := by
  intro hnumber
  obtain ⟨ts, hts, hparse⟩ := exists_tokens_of_ungrammatical h
  obtain ⟨t, ht, numeral, hl, hnone⟩ :=
    (Grammar.explained_of_ofTokens ts e hparse).number hnumber
  obtain ⟨tokens, htokens, rfl⟩ := exists_of_map_eq_ok hts
  have hsome := Token.number?_isSome_of_readAll htokens ht hl
  rw [hnone] at hsome
  contradiction

namespace TokenList

/-- **Number tokens are as long as can be, and all of them are numbers.**  Where a digit comes next,
or a sign and a digit, reading fails exactly if the digits are followed by a point and that by no
digit.  A number token of a text is the longest numeral at its place.  As an operand it is the
constant of its value: the whole number of 64 bits that it denotes, if it denotes one and has
neither a point nor an exponent, and otherwise a double.  So the parser never says that it wanted a
number. -/
theorem numbers_longest :
    (∀ c cs, StartsNumber (c :: cs) → ∀ f,
      read c cs = .error f ↔ f.expected = .fractionDigit ∧ BreaksOff (c :: cs) f.rest) ∧
    ∀ text,
      (∀ ts, ofText text = .ok ts → ∀ t ∈ ts.tokens, ∀ numeral, t.lexeme = .number numeral →
        (∃ rest, Text.FromByte text t.position rest ∧ LongestNumeral rest numeral.toList) ∧
        ∃ v, Grammar.number? numeral.toList = some v ∧ HasValue numeral.toList v ∧
          ∀ r, Grammar.atom ts.stop t r = .ok (.literal v)) ∧
      ∀ e, Expr.ofText text = .error (.ungrammatical e) → e.expected ≠ .number := by
  refine ⟨fun c cs h f => read_eq_error_iff h, fun text => ⟨?_, fun e => Expr.expected_ne_number⟩⟩
  intro ts hts t ht numeral hl
  obtain ⟨c, r, rest, hread, hplace, -⟩ := between_of_mem hts ht
  rw [hl] at hread
  have hlongest := longestNumeral_of_read hread
  obtain ⟨v, hv, hvalue⟩ := hlongest.isNumeral.hasValue
  exact ⟨⟨c :: r, hplace, hlongest⟩, v, hv, hvalue, fun r => by simp [Grammar.atom, hl, hv]⟩

/-- The tokens of `-7 == 12e5x`, where a number ends within a word. -/
def adjoiningTokens : TokenList :=
  ⟨[⟨.number "-7", 0⟩, ⟨.comparison .eq, 3⟩, ⟨.number "12e5", 6⟩, ⟨.word "x", 10⟩], 11⟩

/-- In `-7 == 12e5x` the first number is the whole number -7, and the second one ends before `x`,
which is one token too many but no missing number.  In `1.x` no number can be read: a digit is
missing before `x`. -/
theorem numbers_longest_adjoining :
    ofText "-7 == 12e5x".toList = .ok adjoiningTokens ∧
    HasValue "-7".toList (.long (-7)) ∧
    (∃ rest, Text.FromByte "-7 == 12e5x".toList 6 rest ∧ LongestNumeral rest "12e5".toList) ∧
    (∃ e, Expr.ofText "-7 == 12e5x".toList = .error (.ungrammatical e) ∧ e.expected ≠ .number) ∧
    read '1' ['.', 'x'] = .error ⟨.fractionDigit, ['x']⟩ := by
  have hread : ofText "-7 == 12e5x".toList = .ok adjoiningTokens := by decide +kernel
  have hfails : (Expr.ofTokens adjoiningTokens).toOption.isNone = true := by decide +kernel
  have hwritten : Json.writeInt (-7) = "-7".toList := by decide +kernel
  have hseven : Grammar.number? "-7".toList = some (.long (-7)) := hwritten ▸ number?_writeInt (-7)
  obtain ⟨hreader, htext⟩ := numbers_longest
  obtain ⟨htokens, hparser⟩ := htext "-7 == 12e5x".toList
  obtain ⟨-, v, hv, hvalue, -⟩ := htokens _ hread ⟨.number "-7", 0⟩ (by decide) _ rfl
  obtain ⟨hlongest, -⟩ := htokens _ hread ⟨.number "12e5", 6⟩ (by decide) _ rfl
  obtain rfl : v = .long (-7) := Option.some.inj (hv.symm.trans hseven)
  refine ⟨hread, hvalue, hlongest, ?_, ?_⟩
  · cases h : Expr.ofTokens adjoiningTokens with
    | error e =>
        have herror : Expr.ofText "-7 == 12e5x".toList = .error (.ungrammatical e) := by
          rw [Expr.ofText_of_tokens hread, h]
          rfl
        exact ⟨e, herror, hparser e herror⟩
    | ok e =>
        rw [h] at hfails
        contradiction
  · exact (hreader '1' ['.', 'x'] (.inl rfl) ⟨.fractionDigit, ['x']⟩).mpr
      ⟨rfl, [], ['1'], .inl rfl, ⟨by simp, by simp⟩, rfl, by simp⟩

end TokenList

end TreeSift
