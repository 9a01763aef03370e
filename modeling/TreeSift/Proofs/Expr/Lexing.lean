import Mathlib.Data.List.TakeWhile
import TreeSift.Proofs.Expr.Derivation
import TreeSift.Proofs.Expr.Writable
import TreeSift.Proofs.Number.Digits
import TreeSift.Proofs.Text.Alphabetic
import TreeSift.Proofs.Text.Split

/-!
# TreeSift.Proofs.Expr.Lexing

The texts of tokens, and what they are read as.

1. `Takes text l rest` is about one token: the text in front of `rest` is read as `l`, and `rest` is
   what is left.  `Lexes cs ls` is about a whole text.
2. How a token is read depends on what comes after it.  A sign or a path ends by itself, a word or a
   number has to be followed by a character that cannot go on with it, and a word is the name of a
   function if a parenthesis opens after it.  `Delimits` is what keeps an operand as it is.
3. A text that is read the same before all that delimits it is what `Writes` says.
-/

namespace TreeSift

/-- The text is read as tokens that are these lexemes. -/
def Lexes (cs : List Char) (ls : List Lexeme) : Prop :=
  ∀ total, ∃ ts, Token.readAll total cs = .ok ts ∧ ts.map Token.lexeme = ls

namespace Lexeme

/-- The text, with `rest` after it, is read as one token that leaves `rest`. -/
def Takes (text : List Char) (l : Lexeme) (rest : List Char) : Prop :=
  ∃ c r, text = c :: r ∧ isGap c = false ∧ read c (r ++ rest) = .ok (l, rest)

/-- What may come after an operand. -/
structure Delimits (rest : List Char) : Prop where
  head : ∀ c ∈ rest.head?, c = ' ' ∨ c = ',' ∨ c = ')'
  closed : (Text.trimStart rest).head? ≠ some '('

end Lexeme

open Lexeme

/-- Before all that delimits it, the text is read as these lexemes. -/
def Writes (text : List Char) (ls : List Lexeme) : Prop :=
  ∀ rest more, Delimits rest → Lexes rest more → Lexes (text ++ rest) (ls ++ more)

/-- The text delimits what is before it, and is read as one token. -/
def Separates (text : List Char) (l : Lexeme) : Prop :=
  ∀ rest more, Lexes rest more → Delimits (text ++ rest) ∧ Lexes (text ++ rest) (l :: more)

/-! ## from tokens to texts -/

theorem Token.readAll_eq (total : Nat) (cs : List Char) :
    readAll total cs = match skipGap cs with
      | [] => .ok []
      | c :: r => match read c r with
        | .error f => .error ⟨offset total f.rest, f.expected, f.rest.head?⟩
        | .ok (l, rest) => (readAll total rest).map (⟨l, offset total (c :: r)⟩ :: ·) := by
  rw [readAll.eq_def]
  split
  · next h => rw [h]
  · next c r h =>
    rw [h]
    dsimp only
    split
    · next hr => rw [hr]
    · next hr => rw [hr]

namespace Lexes

theorem nil : Lexes [] [] := by
  intro total
  exact ⟨[], by rw [Token.readAll_eq]; rfl, rfl⟩

/-- Blanks between tokens do not count. -/
theorem gap {c : Char} {cs : List Char} {ls : List Lexeme} (hc : isGap c = true)
    (h : Lexes cs ls) : Lexes (c :: cs) ls := by
  intro total
  have hskip : skipGap (c :: cs) = skipGap cs := List.dropWhile_cons_of_pos hc
  rw [Token.readAll_eq, hskip, ← Token.readAll_eq]
  exact h total

/-- So they do not where a text is put in front of another. -/
theorem skip {cs rest : List Char} {ls : List Lexeme} (h : Lexes (skipGap cs ++ rest) ls) :
    Lexes (cs ++ rest) ls := by
  induction cs with
  | nil => exact h
  | cons c cs ih =>
      by_cases hc : isGap c = true
      · rw [skipGap, List.dropWhile_cons_of_pos hc] at h
        exact .gap hc (ih h)
      · rwa [skipGap, List.dropWhile_cons_of_neg hc] at h

theorem read {c : Char} {cs rest : List Char} {l : Lexeme} {ls : List Lexeme}
    (hc : isGap c = false) (hr : Lexeme.read c cs = .ok (l, rest)) (h : Lexes rest ls) :
    Lexes (c :: cs) (l :: ls) := by
  intro total
  obtain ⟨ts, hts, hls⟩ := h total
  have hskip : skipGap (c :: cs) = c :: cs := List.dropWhile_cons_of_neg (by simp [hc])
  refine ⟨⟨l, Token.offset total (c :: cs)⟩ :: ts, ?_, by simp [hls]⟩
  rw [Token.readAll_eq, hskip]
  simp only [hr, hts, Except.map]

theorem token {text rest : List Char} {l : Lexeme} {ls : List Lexeme} (ht : Takes text l rest)
    (h : Lexes rest ls) : Lexes (text ++ rest) (l :: ls) := by
  obtain ⟨c, r, rfl, hc, hr⟩ := ht
  exact .read hc hr h

end Lexes

theorem writes_of_takes {text : List Char} {l : Lexeme}
    (h : ∀ rest, Delimits rest → Takes text l rest) : Writes text [l] :=
  fun rest _ hd hl => .token (h rest hd) hl

namespace Writes

theorem separated {sep text text' : List Char} {l : Lexeme} {ls ls' : List Lexeme}
    (hs : Separates sep l) (h : Writes text ls) (h' : Writes text' ls') :
    Writes (text ++ sep ++ text') (ls ++ l :: ls') := by
  intro rest more hd hl
  obtain ⟨hdelimits, hlexes⟩ := hs _ _ (h' rest more hd hl)
  simpa using h _ _ hdelimits hlexes

end Writes

namespace Lexeme

/-! ## what delimits -/

theorem delimits_nil : Delimits [] := ⟨by simp, by simp [Text.trimStart]⟩

theorem delimits_closeParen (rest : List Char) : Delimits (')' :: rest) :=
  ⟨by simp, fun h => absurd (Option.some.inj h) (by decide)⟩

theorem delimits_operator (op : Operator) (rest : List Char) :
    Delimits (' ' :: (op.symbol.toList ++ ' ' :: rest)) := by
  cases op <;> exact ⟨by simp, fun h => absurd (Option.some.inj h) (by decide)⟩

/-- A class without the characters that delimit ends where they begin. -/
theorem Delimits.ends {p : Char → Bool} {rest : List Char} (h : Delimits rest)
    (hp : p ' ' = false ∧ p ',' = false ∧ p ')' = false) : ∀ c ∈ rest.head?, p c = false := by
  intro c hc
  obtain rfl | rfl | rfl := h.head c hc
  · exact hp.1
  · exact hp.2.1
  · exact hp.2.2

/-! ## signs -/

theorem takes_openParen (rest : List Char) : Takes ['('] .openParen rest :=
  ⟨'(', [], rfl, rfl, rfl⟩

theorem takes_closeParen (rest : List Char) : Takes [')'] .closeParen rest :=
  ⟨')', [], rfl, rfl, rfl⟩

theorem takes_comma (rest : List Char) : Takes [','] .comma rest := ⟨',', [], rfl, rfl, rfl⟩

/-- A sign or word that compares, with a blank after it. -/
theorem takes_comparison (w : ComparisonWord) (rest : List Char) :
    Takes w.symbol.toList (.comparison w) (' ' :: rest) := by
  cases w <;> exact ⟨_, _, rfl, rfl, rfl⟩

theorem takes_and (rest : List Char) : Takes "and".toList .and (' ' :: rest) :=
  ⟨_, _, rfl, rfl, rfl⟩

theorem takes_or (rest : List Char) : Takes "or".toList .or (' ' :: rest) :=
  ⟨_, _, rfl, rfl, rfl⟩

theorem takes_not (rest : List Char) : Takes "not".toList .not (' ' :: rest) :=
  ⟨_, _, rfl, rfl, rfl⟩

/-! ## separators -/

/-- A word with blanks around it separates what it stands between. -/
theorem separates_spaced {w : List Char} {l : Lexeme} (ht : ∀ rest, Takes w l (' ' :: rest))
    (hclosed : ∀ rest, (Text.trimStart (' ' :: (w ++ rest))).head? ≠ some '(') :
    Separates (' ' :: (w ++ [' '])) l := by
  intro rest more hl
  have hlexes : Lexes (' ' :: (w ++ ' ' :: rest)) (l :: more) :=
    .gap rfl (.token (ht rest) (.gap rfl hl))
  rw [List.cons_append, List.append_assoc, List.singleton_append]
  exact ⟨⟨by simp, hclosed _⟩, hlexes⟩

theorem separates_and : Separates (Expr.separator .and) .and :=
  separates_spaced takes_and fun _ h => absurd (Option.some.inj h) (by decide)

theorem separates_or : Separates (Expr.separator .or) .or :=
  separates_spaced takes_or fun _ h => absurd (Option.some.inj h) (by decide)

theorem separates_comma : Separates [',', ' '] .comma := by
  intro rest more hl
  have hlexes : Lexes ([','] ++ ' ' :: rest) (.comma :: more) :=
    .token (takes_comma (' ' :: rest)) (.gap rfl hl)
  exact ⟨⟨by simp, fun h => absurd (Option.some.inj h) (by decide)⟩, hlexes⟩

/-! ## words -/

variable {w rest : List Char}

theorem ne_of_isWordStart {c d : Char} (h : isWordStart c = true) (hd : isWordStart d = false) :
    c ≠ d := by
  intro hcd
  rw [hcd, hd] at h
  contradiction

theorem isDigit_eq_false_of_isWordStart {c : Char} (h : isWordStart c = true) :
    c.isDigit = false := by
  have hle : 65 ≤ c.toNat := by
    simp only [isWordStart, Bool.or_eq_true, beq_iff_eq] at h
    obtain h | rfl := h
    · exact CharClass.le_toNat_of_isAlphabetic h
    · decide
  refine Bool.eq_false_iff.mpr fun hd => ?_
  have hnine : c.toNat ≤ 57 := (Char.isDigit_iff_toNat.mp hd).2
  omega

/-- A class without the blanks between tokens has none of them. -/
theorem isGap_eq_false_of_class {p : Char → Bool} {c : Char} (h : p c = true)
    (hp : p ' ' = false ∧ p '\t' = false ∧ p '\n' = false ∧ p '\r' = false) :
    isGap c = false := by
  refine Bool.eq_false_iff.mpr fun hc => ?_
  simp only [isGap, Bool.or_eq_true, beq_iff_eq] at hc
  obtain ((rfl | rfl) | rfl) | rfl := hc <;> simp_all

theorem isBlank_eq_false_of_isWordStart {c : Char} (h : isWordStart c = true) :
    CharClass.isBlank c = false := by
  simp only [isWordStart, Bool.or_eq_true, beq_iff_eq] at h
  obtain h | rfl := h
  · exact CharClass.isBlank_eq_false_of_isAlphabetic h
  · rfl

/-- A word ends before a character that continues none. -/
theorem takes_word (hw : IsName w) (hr : ∀ c ∈ rest.head?, isWordChar c = false) :
    Takes w (ofWord w rest) rest := by
  obtain ⟨c, r, rfl, hc⟩ := hw.first
  obtain ⟨htake, hdrop⟩ := takeWhile_run hw.word hr
  refine ⟨c, r, rfl, isGap_eq_false_of_class hc ⟨rfl, rfl, rfl, rfl⟩, ?_⟩
  have hquote : ¬(c = '\'' ∨ c = '"') :=
    not_or.mpr ⟨ne_of_isWordStart hc rfl, ne_of_isWordStart hc rfl⟩
  have hminus : ¬(c = '-' ∧ startsDigit (r ++ rest)) :=
    fun h => ne_of_isWordStart hc rfl h.1
  rw [List.cons_append] at htake hdrop
  unfold read
  rw [if_neg (ne_of_isWordStart hc rfl), if_neg hquote, if_neg (ne_of_isWordStart hc rfl),
    if_neg (by simp [isDigit_eq_false_of_isWordStart hc]), if_neg hminus, if_pos hc, htake, hdrop]

theorem ofWord_of_not_reserved (h : ¬IsReserved w) :
    ofWord w rest = if (Text.trimStart rest).head? = some '(' then .function (String.ofList w)
      else .word (String.ofList (Text.lowerAscii w)) := by
  simp only [IsReserved, reserved, List.mem_cons, List.not_mem_nil, or_false, not_or] at h
  obtain ⟨hand, hor, hnot, hlike, hcontains, hin⟩ := h
  unfold ofWord
  dsimp only
  rw [if_neg hand, if_neg hor, if_neg hnot, if_neg hlike, if_neg hcontains, if_neg hin]

/-- A name with a parenthesis after it is that of a function. -/
theorem takes_function (hw : IsName w) (h : ¬IsReserved w) :
    Takes w (.function (String.ofList w)) ('(' :: rest) := by
  have hparen : ∀ c ∈ ('(' :: rest).head?, isWordChar c = false := by
    intro c hc
    obtain rfl := Option.some.inj hc
    rfl
  have hopen : (Text.trimStart ('(' :: rest)).head? = some '(' := rfl
  have htakes := takes_word hw hparen
  rwa [ofWord_of_not_reserved h, if_pos hopen] at htakes

/-- A word in lower case with no parenthesis after it is itself. -/
theorem takes_plain (hw : IsName w) (h : ¬IsReserved w) (hl : Text.lowerAscii w = w)
    (hr : Delimits rest) : Takes w (.word (String.ofList w)) rest := by
  have htakes := takes_word hw (hr.ends ⟨rfl, rfl, rfl⟩)
  rwa [ofWord_of_not_reserved h, if_neg hr.closed, hl] at htakes

theorem takes_parameter (hw : IsName w) (hr : Delimits rest) :
    Takes ('$' :: w) (.parameter (String.ofList w)) rest := by
  obtain ⟨c, r, rfl, hc⟩ := hw.first
  obtain ⟨htake, hdrop⟩ := takeWhile_run hw.word (hr.ends ⟨rfl, rfl, rfl⟩)
  refine ⟨'$', c :: r, rfl, rfl, ?_⟩
  have hread : read '$' (c :: r ++ rest) = readParameter (c :: r ++ rest) := rfl
  rw [List.cons_append] at *
  rw [hread]
  unfold readParameter
  dsimp only
  rw [if_pos hc, htake, hdrop]

/-! ## paths -/

/-- A segment has no fault, whatever comes after it. -/
theorem segmentFault?_eq_none (after : List Char) {ss : List (List Char)}
    (h : ∀ s ∈ ss, IsSegment s) : segmentFault? after ss = none := by
  induction ss with
  | nil => rfl
  | cons s ss ih =>
      obtain ⟨hs, hss⟩ := List.forall_mem_cons.mp h
      have hplain : (s.dropWhile fun c => c != '[' && !CharClass.isControl c) = [] := by
        refine List.dropWhile_eq_nil_iff.mpr fun c hc => ?_
        simp [(hs.plain c hc).not_open, (hs.plain c hc).not_control]
      unfold segmentFault?
      simp only [hs.trimmed, List.isEmpty_iff, hs.ne_nil, hplain, if_false]
      exact ih hss

theorem map_trim_of_segments {ss : List (List Char)} (h : ∀ s ∈ ss, IsSegment s) :
    ss.map Text.trim = ss := by
  rw [List.map_congr_left fun s hs => (h s hs).trimmed, List.map_id']

/-- A path ends at its bracket. -/
theorem takes_path {ss : List (List Char)} (hne : ss ≠ []) (h : ∀ s ∈ ss, IsSegment s)
    (rest : List Char) :
    Takes ('[' :: (Text.joinWith ['/'] ss ++ [']']))
      (.path (String.ofList (Text.joinWith ['/'] ss))) rest := by
  have hinner : ∀ c ∈ Text.joinWith ['/'] ss, (c != ']') = true := by
    intro c hc
    obtain rfl | ⟨s, hs, hc⟩ := Text.mem_joinWith hc
    · rfl
    · simpa using ((h s hs).plain c hc).not_close
  have hsplit : Text.splitAt '/' (Text.joinWith ['/'] ss) = ss :=
    Text.splitAt_joinWith hne fun s hs hc => ((h s hs).plain _ hc).not_slash rfl
  have hend : ∀ c ∈ (']' :: rest).head?, (c != ']') = false := by simp
  obtain ⟨htake, hdrop⟩ := takeWhile_run hinner hend
  refine ⟨'[', _, rfl, rfl, ?_⟩
  rw [List.append_assoc, List.singleton_append]
  change readPath _ = _
  unfold readPath
  simp only [hdrop, htake, hsplit, segmentFault?_eq_none _ h, map_trim_of_segments h]

/-! ## texts -/

/-- Escaping quotes is undone by reading, up to the quote that closes. -/
theorem readString_quoted {cs : List Char} (h : '\\' ∉ cs) (rest : List Char) :
    readString '\'' (cs.flatMap (fun c => if c = '\'' then ['\\', '\''] else [c]) ++ '\'' :: rest) =
      .ok (cs, rest) := by
  induction cs with
  | nil =>
      rw [readString.eq_def]
      simp
  | cons c cs ih =>
      rw [List.mem_cons, not_or] at h
      obtain ⟨hc, hcs⟩ := h
      have ih := ih hcs
      rw [List.flatMap_cons, List.append_assoc]
      by_cases hq : c = '\''
      · subst hq
        rw [readString.eq_def]
        simp [simpleEscape?, ih, prepend, Except.map]
      · rw [readString.eq_def]
        simp [hq, Ne.symm hc, ih, prepend, Except.map]

theorem takes_quote {s : String} (h : '\\' ∉ s.toList) (rest : List Char) :
    Takes (Expr.quote s) (.string s) rest := by
  refine ⟨'\'', _, rfl, rfl, ?_⟩
  rw [List.append_assoc, List.singleton_append]
  change (readString '\'' _).map _ = _
  rw [readString_quoted h]
  simp [Except.map]

/-! ## whole numbers -/

/-- Digits are no start of a date, which has a dash after four of them, unless a dash follows. -/
theorem startsDate_run {ds rest : List Char} (hd : IsDigits ds)
    (hr : ∀ c ∈ rest.head?, c.isDigit = false ∧ c ≠ '-') : startsDate (ds ++ rest) = false := by
  unfold startsDate
  split
  · next a b c d e f r heq =>
    refine Bool.eq_false_iff.mpr fun h => ?_
    simp only [Bool.and_eq_true, beq_iff_eq] at h
    obtain ⟨⟨⟨⟨⟨ha, hb⟩, hc⟩, hdigit⟩, rfl⟩, -⟩ := h
    have hdrop := (takeWhile_run hd.2 fun c hc => (hr c hc).1).2
    simp only [heq, List.dropWhile_cons, ha, hb, hc, hdigit, if_true] at hdrop
    subst hdrop
    exact (hr '-' rfl).2 rfl
  · rfl

theorem startsDate_eq_false {ds rest : List Char} (hd : IsDigits ds) (hr : Delimits rest) :
    startsDate (ds ++ rest) = false :=
  startsDate_run hd fun c hc => by obtain rfl | rfl | rfl := hr.head c hc <;> decide

/-- With no point and no exponent after it, a number is its digits. -/
theorem readNumber_digits (sign : List Char) {ds rest : List Char} (hd : IsDigits ds)
    (hr : Delimits rest) :
    readNumber sign (ds ++ rest) = .ok (.number (String.ofList (sign ++ ds)), rest) := by
  obtain ⟨htake, hdrop⟩ := takeWhile_run hd.2 (hr.ends ⟨rfl, rfl, rfl⟩)
  have hfraction : readFraction rest = .ok ([], rest) := by
    unfold readFraction
    split
    · next r => simpa using hr.head '.' rfl
    · rfl
  have hexponent : readExponent rest = ([], rest) := by
    unfold readExponent
    split
    · rfl
    · next e r =>
      have he : ¬(e = 'e' ∨ e = 'E') := by
        obtain rfl | rfl | rfl := hr.head e rfl <;> decide
      simp [he]
  unfold readNumber digitRun
  dsimp only
  rw [htake, hdrop, if_neg hd.1, hfraction]
  simp [Except.map, hexponent]

/-- A digit starts a date or a number. -/
theorem read_digit {c : Char} {cs : List Char} (hc : c.isDigit = true) :
    read c cs = if startsDate (c :: cs) then
        .ok (.date (String.ofList ((c :: cs).takeWhile isDateChar)),
          (c :: cs).dropWhile isDateChar)
      else readNumber [] (c :: cs) := by
  have hquote : ¬(c = '\'' ∨ c = '"') := not_or.mpr ⟨ne_of_isDigit hc rfl, ne_of_isDigit hc rfl⟩
  unfold read
  rw [if_neg (ne_of_isDigit hc rfl), if_neg hquote, if_neg (ne_of_isDigit hc rfl), if_pos hc]

theorem read_minus {cs : List Char} (hcs : startsDigit cs = true) :
    read '-' cs = readNumber ['-'] cs := by
  change (if '-' = '-' ∧ startsDigit cs = true then readNumber ['-'] cs else _) = _
  rw [if_pos ⟨rfl, hcs⟩]

theorem takes_digits {ds rest : List Char} (hd : IsDigits ds) (hr : Delimits rest) :
    Takes ds (.number (String.ofList ds)) rest := by
  have hdate := startsDate_eq_false hd hr
  have hnumber := readNumber_digits [] hd hr
  obtain ⟨hne, hdigit⟩ := hd
  cases ds with
  | nil => contradiction
  | cons d ds =>
      have hd : d.isDigit = true := hdigit d List.mem_cons_self
      refine ⟨d, ds, rfl, isGap_eq_false_of_class hd ⟨rfl, rfl, rfl, rfl⟩, ?_⟩
      rw [List.cons_append] at hdate hnumber
      rw [read_digit hd, hdate, if_neg Bool.false_ne_true, hnumber]
      rfl

theorem takes_minus {ds rest : List Char} (hd : IsDigits ds) (hr : Delimits rest) :
    Takes ('-' :: ds) (.number (String.ofList ('-' :: ds))) rest := by
  refine ⟨'-', ds, rfl, rfl, ?_⟩
  have hnumber := readNumber_digits ['-'] hd hr
  obtain ⟨hne, hdigit⟩ := hd
  cases ds with
  | nil => contradiction
  | cons d ds =>
      have hstart : startsDigit (d :: ds ++ rest) = true := hdigit d List.mem_cons_self
      exact (read_minus hstart).trans hnumber

/-- A whole number ends before what delimits it. -/
theorem takes_writeInt (n : Int) {rest : List Char} (hr : Delimits rest) :
    Takes (Json.writeInt n) (.number (String.ofList (Json.writeInt n))) rest := by
  unfold Json.writeInt
  split
  · exact takes_minus (isDigits_toDigits _) hr
  · exact takes_digits (isDigits_toDigits _) hr

theorem readInt?_minus {ds : List Char} (hd : IsDigits ds) :
    Number.readInt? ('-' :: ds) = some (-(Number.digitsValue ds : Int)) := by
  simp [Number.readInt?, hd.1, List.all_eq_true.mpr hd.2]

theorem readInt?_digits {ds : List Char} (hd : IsDigits ds) :
    Number.readInt? ds = some (Number.digitsValue ds : Int) := by
  unfold Number.readInt?
  dsimp only
  split
  · exact absurd (hd.2 '-' List.mem_cons_self) (by decide)
  · exact absurd (hd.2 '+' List.mem_cons_self) (by decide)
  · simp [hd.1, List.all_eq_true.mpr hd.2]

/-- Reading a whole number undoes writing it. -/
theorem readInt?_writeInt (n : Int) : Number.readInt? (Json.writeInt n) = some n := by
  unfold Json.writeInt
  split
  · rw [readInt?_minus (isDigits_toDigits _), digitsValue_toDigits, Option.some.injEq]
    omega
  · rw [readInt?_digits (isDigits_toDigits _), digitsValue_toDigits, Option.some.injEq]
    omega

/-- A whole number is written with neither a point nor an exponent. -/
theorem isDigit_of_mem_writeInt {n : Int} {c : Char} (hc : c ∈ Json.writeInt n) :
    c = '-' ∨ c.isDigit = true := by
  unfold Json.writeInt at hc
  split at hc
  · exact (List.mem_cons.mp hc).imp_right ((isDigits_toDigits _).2 c)
  · exact .inr ((isDigits_toDigits _).2 c hc)

theorem writeInt_ne_nil (n : Int) : Json.writeInt n ≠ [] := by
  unfold Json.writeInt
  split
  · exact List.cons_ne_nil _ _
  · exact Nat.toDigits_ne_nil

/-- The text of a whole number of 64 bits denotes it. -/
theorem number?_writeInt (n : Int64) :
    Grammar.number? (Json.writeInt n.toInt) = some (.long n) := by
  have hwhole :
      ((Json.writeInt n.toInt).any fun c => c == '.' || c == 'e' || c == 'E') = false := by
    refine List.any_eq_false.mpr fun c hc => ?_
    obtain rfl | hd := isDigit_of_mem_writeInt hc
    · decide
    · simp [ne_of_isDigit hd (d := '.') rfl, ne_of_isDigit hd (d := 'e') rfl,
        ne_of_isDigit hd (d := 'E') rfl]
  unfold Grammar.number?
  simp only [hwhole, Bool.not_false, if_true, readInt?_writeInt]
  rw [if_pos (Number.isSigned64_toInt n), Int64.ofInt_toInt]

/-! ## operators -/

/-- An operator with blanks around it.  The word `any` keeps clear of parentheses, before which it
would be a name. -/
theorem lexes_operator {op : Operator} {rest : List Char} {more : List Lexeme}
    (hany : op = .containsAny ∨ op = .notContainsAny → (Text.trimStart rest).head? ≠ some '(')
    (h : Lexes rest more) :
    Lexes (' ' :: (op.symbol.toList ++ ' ' :: rest)) (Grammar.spelling op ++ more) := by
  have hplain (w : ComparisonWord) {text : List Char} {ls : List Lexeme} (h : Lexes text ls) :
      Lexes (w.symbol.toList ++ ' ' :: text) (.comparison w :: ls) :=
    .token (takes_comparison w text) (.gap rfl h)
  have hnot {text : List Char} {ls : List Lexeme} (h : Lexes text ls) :
      Lexes ("not".toList ++ ' ' :: text) (.not :: ls) := .token (takes_not text) (.gap rfl h)
  have hword (h' : (Text.trimStart rest).head? ≠ some '(') :
      Lexes ("any".toList ++ ' ' :: rest) (.word "any" :: more) :=
    .token (takes_plain (by decide) (by decide) rfl ⟨by simp, h'⟩) (.gap rfl h)
  refine .gap rfl ?_
  cases op with
  | eq => exact hplain .eq h
  | ne => exact hplain .ne h
  | gt => exact hplain .gt h
  | ge => exact hplain .ge h
  | lt => exact hplain .lt h
  | le => exact hplain .le h
  | like => exact hplain .like h
  | notLike => exact hplain .like (hnot h)
  | contains => exact hplain .contains h
  | notContains => exact hplain .contains (hnot h)
  | containsAny => exact hplain .contains (hword (hany (.inl rfl)))
  | notContainsAny => exact hplain .contains (hnot (hword (hany (.inr rfl))))
  | within => exact hplain .within h
  | notWithin => exact hnot (hplain .within h)

end Lexeme

end TreeSift
