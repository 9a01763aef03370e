import TreeSift.Proofs.Charset.Unicode
import TreeSift.Proofs.Expr.Lexing
import TreeSift.Proofs.Expr.Spelling

/-!
# TreeSift.Proofs.Expr.StringToken

How texts are quoted, and which quoted texts are read.

1. Inside quotes a character stands for itself, unless it is the quote or a backslash; some have an
   escape of one letter; and one below U+10000 has `\u` and the four hexadecimal digits of its
   number, its *code* (`Piece`, `Written`).
2. In whatever way a text is written, it is read back, and what comes after the closing quote does
   not matter (`read_written`).
3. For the digits of a code the reader also takes a `+` and three digits (`TakenCode`).  That aside,
   a text in quotes is read only if it is written as above.  Any other has a place where it cannot
   go on, which is where the error is (`Stuck`, `read_quoted_iff`).
-/

namespace TreeSift

namespace Lexeme

/-! ## ways to write a text -/

/-- The letters of escapes, with the characters they stand for. -/
def escapeLetters : List (Char × Char) :=
  [('\\', '\\'), ('\'', '\''), ('"', '"'), ('/', '/'), ('n', '\n'), ('r', '\r'), ('t', '\t')]

/-- Four hexadecimal digits, in either case, for the number of a character. -/
structure IsHexCode (ds : List Char) (x : Char) : Prop where
  length : ds.length = 4
  digits : ∀ d ∈ ds, CharClass.isHexDigit d = true
  number : CharSet.hexNumber ds = x.toNat

/-- What the reader takes for a code: in front a `+` may stand in place of a zero. -/
inductive TakenCode : List Char → Char → Prop where
  | digits {ds : List Char} {x : Char} (h : IsHexCode ds x) : TakenCode ds x
  | plus {ds : List Char} {x : Char} (h : IsHexCode ('0' :: ds) x) : TakenCode ('+' :: ds) x

/-- The ways to write a character inside quotes of that kind. -/
inductive Piece (IsCode : List Char → Char → Prop) (quote : Char) : Char → List Char → Prop where
  | itself {x : Char} (hquote : x ≠ quote) (hslash : x ≠ '\\') : Piece IsCode quote x [x]
  | letter {e x : Char} (h : (e, x) ∈ escapeLetters) : Piece IsCode quote x ['\\', e]
  | code {ds : List Char} {x : Char} (h : IsCode ds x) : Piece IsCode quote x ('\\' :: 'u' :: ds)

/-- The body is the content, written one character after the other. -/
inductive Written (IsCode : List Char → Char → Prop) (quote : Char) :
    List Char → List Char → Prop where
  | nil : Written IsCode quote [] []
  | cons {x : Char} {piece content body : List Char} (h : Piece IsCode quote x piece)
    (more : Written IsCode quote content body) : Written IsCode quote (x :: content) (piece ++ body)

/-- The characters that are left cannot go on a text in quotes. -/
inductive Stuck (IsCode : List Char → Char → Prop) : List Char → Fault → Prop where
  /-- The quotes are not closed, -/
  | unclosed : Stuck IsCode [] ⟨.closingQuote, []⟩
  /-- nothing comes after a backslash, -/
  | unfinished : Stuck IsCode ['\\'] ⟨.escapeSequence, []⟩
  /-- it is no letter of an escape, -/
  | letter {e : Char} {r : List Char} (hcode : e ≠ 'u') (h : ∀ x, (e, x) ∉ escapeLetters) :
    Stuck IsCode ('\\' :: e :: r) ⟨.validEscape, e :: r⟩
  /-- or no code comes after `\u`. -/
  | code {r : List Char} (h : ∀ ds rest x, r = ds ++ rest → ¬IsCode ds x) :
    Stuck IsCode ('\\' :: 'u' :: r) ⟨.hexDigits, r⟩

section
variable {IsCode IsCode' : List Char → Char → Prop} {quote : Char} {content body : List Char}

theorem Written.mono (hcode : ∀ ds x, IsCode ds x → IsCode' ds x)
    (h : Written IsCode quote content body) : Written IsCode' quote content body := by
  induction h with
  | nil => exact .nil
  | cons h _ ih =>
      refine .cons ?_ ih
      cases h with
      | itself hquote hslash => exact .itself hquote hslash
      | letter h => exact .letter h
      | code h => exact .code (hcode _ _ h)

/-- Every text can be written: the quote and the backslash have letters. -/
theorem exists_written (IsCode : List Char → Char → Prop) (hquote : quote = '\'' ∨ quote = '"')
    (content : List Char) : ∃ body, Written IsCode quote content body := by
  induction content with
  | nil => exact ⟨[], .nil⟩
  | cons x content ih =>
      obtain ⟨body, hbody⟩ := ih
      by_cases hx : x = quote ∨ x = '\\'
      · refine ⟨['\\', x] ++ body, .cons (.letter ?_) hbody⟩
        obtain rfl | rfl := hx
        · obtain rfl | rfl := hquote <;> decide
        · decide
      · rw [not_or] at hx
        exact ⟨[x] ++ body, .cons (.itself hx.1 hx.2) hbody⟩

end

/-! ## codes -/

theorem hexDigit?_lt {c : Char} {d : Nat} (h : CharSet.hexDigit? c = some d) : d < 16 := by
  have hle (a b : Char) : a ≤ b ↔ a.toNat ≤ b.toNat := Iff.rfl
  simp only [CharSet.hexDigit?, hle, Char.reduceToNat] at h
  repeat' split at h
  all_goals
    simp only [Option.some.injEq, reduceCtorEq] at h
    try omega

/-- Reading in base sixteen goes from digit to digit. -/
theorem readBase?_sixteen (ds : List Char) : Number.readBase? 16 ds = if ds.isEmpty then none else
    ds.foldlM (fun n c => (CharSet.hexDigit? c).map (n * 16 + ·)) 0 := by
  have hle (a b : Char) : a ≤ b ↔ a.toNat ≤ b.toNat := Iff.rfl
  unfold Number.readBase?
  congr 2
  funext n c
  -- the digits are asked for in another order
  simp only [CharSet.hexDigit?, hle, Char.reduceToNat]
  grind

theorem foldlM_hexDigit? {step : Nat → Char → Nat}
    (hstep : ∀ n c d, CharSet.hexDigit? c = some d → step n c = n * 16 + d) (ds : List Char)
    (n m : Nat) : ds.foldlM (fun n c => (CharSet.hexDigit? c).map (n * 16 + ·)) n = some m ↔
      (∀ d ∈ ds, CharClass.isHexDigit d = true) ∧ ds.foldl step n = m := by
  induction ds generalizing n with
  | nil => simp
  | cons c ds ih =>
      rw [List.foldlM_cons, List.forall_mem_cons, List.foldl_cons, CharClass.isHexDigit]
      cases h : CharSet.hexDigit? c with
      | none => simp
      | some d => simp [ih, hstep n c d h]

theorem readBase?_eq_some_iff {ds : List Char} {n : Nat} : Number.readBase? 16 ds = some n ↔
    ds ≠ [] ∧ (∀ d ∈ ds, CharClass.isHexDigit d = true) ∧ CharSet.hexNumber ds = n := by
  rw [readBase?_sixteen]
  cases ds with
  | nil => simp
  | cons d ds =>
      rw [List.isEmpty_cons, if_neg Bool.false_ne_true, and_iff_right (List.cons_ne_nil d ds)]
      unfold CharSet.hexNumber
      exact foldlM_hexDigit? (fun n c d h => by simp [h]) _ _ _

theorem TakenCode.length {ds : List Char} {x : Char} (h : TakenCode ds x) : ds.length = 4 := by
  cases h with
  | digits h => exact h.length
  | plus h => exact h.length

/-- The characters of codes are those that four characters are read as. -/
theorem hexChar?_eq_some_iff {a b c d x : Char} :
    hexChar? [a, b, c, d] = some x ↔ TakenCode [a, b, c, d] x := by
  have hread {ds : List Char} (hne : ds ≠ []) :
      (Number.readBase? 16 ds).bind CharSet.scalar? = some x ↔
        (∀ d ∈ ds, CharClass.isHexDigit d = true) ∧ CharSet.hexNumber ds = x.toNat := by
    simp only [Option.bind_eq_some_iff, readBase?_eq_some_iff, Charset.scalar?_eq_some_iff]
    constructor
    · rintro ⟨n, ⟨-, hdigits, hn⟩, rfl⟩
      exact ⟨hdigits, hn⟩
    · rintro ⟨hdigits, hn⟩
      exact ⟨_, ⟨hne, hdigits, hn⟩, rfl⟩
  by_cases hplus : a = '+'
  · subst hplus
    change (Number.readBase? 16 [b, c, d]).bind CharSet.scalar? = some x ↔ _
    rw [hread (by simp)]
    constructor
    · rintro ⟨hdigits, hn⟩
      exact .plus ⟨rfl, List.forall_mem_cons.mpr ⟨rfl, hdigits⟩, hn⟩
    · intro h
      cases h with
      | digits h => exact absurd (h.digits '+' List.mem_cons_self) (by decide)
      | plus h => exact ⟨(List.forall_mem_cons.mp h.digits).2, h.number⟩
  · have hplain : hexChar? [a, b, c, d] =
        (Number.readBase? 16 [a, b, c, d]).bind CharSet.scalar? := by
      unfold hexChar?
      dsimp only
      split
      · next h =>
        injection h with h
        exact absurd h hplus
      · rfl
    rw [hplain, hread (by simp)]
    constructor
    · rintro ⟨hdigits, hn⟩
      exact .digits ⟨rfl, hdigits, hn⟩
    · intro h
      cases h with
      | digits h => exact ⟨h.digits, h.number⟩
      | plus h => exact absurd rfl hplus

theorem hexDigit?_digitChar : ∀ d < 16, CharSet.hexDigit? (Nat.digitChar d) = some d := by
  decide

/-- The characters below U+10000 have a code, and no others. -/
theorem exists_isHexCode_iff {x : Char} : (∃ ds, IsHexCode ds x) ↔ x.toNat < 0x10000 := by
  constructor
  · rintro ⟨ds, h⟩
    obtain ⟨a, b, c, d, rfl⟩ := List.length_eq_four.mp h.length
    have hdigits := h.digits
    simp only [List.forall_mem_cons, CharClass.isHexDigit, Option.isSome_iff_exists] at hdigits
    obtain ⟨⟨p, hp⟩, ⟨q, hq⟩, ⟨r, hr⟩, ⟨s, hs⟩, -⟩ := hdigits
    have hnumber := h.number
    simp only [CharSet.hexNumber, List.foldl_cons, List.foldl_nil, hp, hq, hr, hs] at hnumber
    have := hexDigit?_lt hp
    have := hexDigit?_lt hq
    have := hexDigit?_lt hr
    have := hexDigit?_lt hs
    omega
  · intro h
    have hp := hexDigit?_digitChar (x.toNat / 4096) (by omega)
    have hq := hexDigit?_digitChar (x.toNat / 256 % 16) (by omega)
    have hr := hexDigit?_digitChar (x.toNat / 16 % 16) (by omega)
    have hs := hexDigit?_digitChar (x.toNat % 16) (by omega)
    refine ⟨[Nat.digitChar (x.toNat / 4096), Nat.digitChar (x.toNat / 256 % 16),
      Nat.digitChar (x.toNat / 16 % 16), Nat.digitChar (x.toNat % 16)], rfl, ?_, ?_⟩
    · simp [CharClass.isHexDigit, hp, hq, hr, hs]
    · simp only [CharSet.hexNumber, List.foldl_cons, List.foldl_nil, hp, hq, hr, hs]
      omega

/-! ## reading -/

theorem simpleEscape?_eq_some_iff {e x : Char} :
    simpleEscape? e = some x ↔ (e, x) ∈ escapeLetters := by
  unfold simpleEscape?
  simp only [escapeLetters, List.mem_cons, List.not_mem_nil, or_false, Prod.mk.injEq]
  split <;> grind

variable {quote : Char} {cs content body left rest : List Char} {f : Fault}

theorem readString_nil : readString quote [] = .error ⟨.closingQuote, []⟩ := by
  rw [readString.eq_def]

theorem readString_quote : readString quote (quote :: rest) = .ok ([], rest) := by
  rw [readString.eq_def]
  exact if_pos rfl

/-- A character is read, in whatever way it is written. -/
theorem readString_piece (hquote : quote ≠ '\\') {x : Char} {piece : List Char}
    (h : Piece TakenCode quote x piece) (rest : List Char) :
    readString quote (piece ++ rest) = prepend x (readString quote rest) := by
  have hslash : '\\' ≠ quote := hquote.symm
  cases h with
  | itself hx hslash =>
      rw [List.singleton_append, readString.eq_def]
      simp [hx, hslash]
  | @letter e _ h =>
      have he : e ≠ 'u' := by
        rintro rfl
        simp [escapeLetters] at h
      rw [List.cons_append, List.singleton_append, readString.eq_def]
      simp [hslash, he, simpleEscape?_eq_some_iff.mpr h]
  | code h =>
      obtain ⟨a, b, c, d, rfl⟩ := List.length_eq_four.mp h.length
      rw [List.cons_append, readString.eq_def]
      simp [hslash, hexChar?_eq_some_iff.mpr h]

/-- A body is read up to its end. -/
theorem readString_written (hquote : quote ≠ '\\') (h : Written TakenCode quote content body)
    (rest : List Char) : readString quote (body ++ rest) =
      (readString quote rest).map fun p => (content ++ p.1, p.2) := by
  induction h with
  | nil =>
      rw [List.nil_append]
      cases readString quote rest <;> rfl
  | cons h _ ih =>
      rw [List.append_assoc, readString_piece hquote h, ih]
      cases readString quote rest <;> rfl

/-- Where the characters cannot go on, nothing is read. -/
theorem readString_stuck (hquote : quote ≠ '\\') (h : Stuck TakenCode left f) :
    readString quote left = .error f := by
  have hslash : '\\' ≠ quote := hquote.symm
  cases h with
  | unclosed => exact readString_nil
  | unfinished =>
      rw [readString.eq_def]
      simp [hslash]
  | @letter e r hcode h =>
      have he : simpleEscape? e = none :=
        Option.eq_none_iff_forall_not_mem.mpr fun x hx => h x (simpleEscape?_eq_some_iff.mp hx)
      rw [readString.eq_def]
      simp [hslash, hcode, he]
  | @code r h =>
      rw [readString.eq_def]
      simp only [hslash, if_false, if_true]
      split
      · next a b c d rest =>
        have hx : hexChar? [a, b, c, d] = none :=
          Option.eq_none_iff_forall_not_mem.mpr fun x hx =>
            h [a, b, c, d] rest x rfl (hexChar?_eq_some_iff.mp hx)
        rw [hx]
      · rfl

theorem written_of_escapes (h : Escapes quote body content) :
    Written TakenCode quote content body := by
  induction h with
  | nil => exact .nil
  | plain hquote hslash _ ih => exact .cons (.itself hquote hslash) ih
  | simple h _ ih => exact .cons (.letter (simpleEscape?_eq_some_iff.mp h)) ih
  | code h _ ih => exact .cons (.code (hexChar?_eq_some_iff.mp h)) ih

/-- Where nothing is read, a body ends before characters that cannot go on. -/
theorem exists_stuck_of_readString (h : readString quote cs = .error f) :
    ∃ content body left, cs = body ++ left ∧ Written TakenCode quote content body ∧
      Stuck TakenCode left f := by
  have later {x : Char} {piece cs : List Char} (hpiece : Piece TakenCode quote x piece)
      (ih : ∃ content body left, cs = body ++ left ∧ Written TakenCode quote content body ∧
        Stuck TakenCode left f) :
      ∃ content body left, piece ++ cs = body ++ left ∧ Written TakenCode quote content body ∧
        Stuck TakenCode left f := by
    obtain ⟨content, body, left, rfl, hbody, hleft⟩ := ih
    exact ⟨x :: content, piece ++ body, left, by simp, .cons hpiece hbody, hleft⟩
  have here {left : List Char} (hleft : Stuck TakenCode left f) :
      ∃ content body left', left = body ++ left' ∧ Written TakenCode quote content body ∧
        Stuck TakenCode left' f := ⟨[], [], left, rfl, .nil, hleft⟩
  fun_induction readString quote cs with
  | case1 =>
    injection h with h
    subst h
    exact here .unclosed
  | case2 => contradiction
  | case3 =>
    injection h with h
    subst h
    exact here .unfinished
  | case4 a b c d rest x hx hquote ih =>
    exact later (.code (hexChar?_eq_some_iff.mp hx)) (ih (error_of_map_eq_error h))
  | case5 a b c d rest hx hquote =>
    injection h with h
    subst h
    refine here (.code fun ds rest' x hr hcode => ?_)
    obtain ⟨a', b', c', d', rfl⟩ := List.length_eq_four.mp hcode.length
    injection hr with ha hr
    injection hr with hb hr
    injection hr with hc hr
    injection hr with hd
    subst ha hb hc hd
    exact absurd (hexChar?_eq_some_iff.mpr hcode) (by simp [hx])
  | case6 r hr hquote =>
    injection h with h
    subst h
    refine here (.code fun ds rest' x hr' hcode => ?_)
    obtain ⟨a', b', c', d', rfl⟩ := List.length_eq_four.mp hcode.length
    exact hr _ _ _ _ _ hr'
  | case7 e r he x hx hquote ih =>
    exact later (.letter (simpleEscape?_eq_some_iff.mp hx)) (ih (error_of_map_eq_error h))
  | case8 e r he hx hquote =>
    injection h with h
    subst h
    exact here (.letter he fun x hmem => by simp [simpleEscape?_eq_some_iff.mpr hmem] at hx)
  | case9 c cs hquote hslash ih =>
    exact later (.itself hquote hslash) (ih (error_of_map_eq_error h))

/-! ## tokens -/

/-- A quote starts a text in quotes of its kind. -/
theorem read_quote (hquote : quote = '\'' ∨ quote = '"') (cs : List Char) : read quote cs =
    (readString quote cs).map fun p => (.string (String.ofList p.1), p.2) := by
  obtain rfl | rfl := hquote <;> rfl

theorem readAll_quote (hquote : quote = '\'' ∨ quote = '"') (cs : List Char) (total : Nat) :
    Token.readAll total (quote :: cs) = match read quote cs with
      | .error f => .error ⟨Token.offset total f.rest, f.expected, f.rest.head?⟩
      | .ok (l, rest) =>
        (Token.readAll total rest).map (⟨l, Token.offset total (quote :: cs)⟩ :: ·) := by
  have hskip : skipGap (quote :: cs) = quote :: cs := by
    obtain rfl | rfl := hquote <;> rfl
  have hstep := Token.readAll_eq total (quote :: cs)
  rw [hskip] at hstep
  exact hstep

theorem ne_slash_of_quote (hquote : quote = '\'' ∨ quote = '"') : quote ≠ '\\' := by
  obtain rfl | rfl := hquote <;> decide

/-- **Every text can be quoted, and is read back.**  In either kind of quotes there is a way to
write it, and a code for every character below U+10000.  Whatever way it is written in, and whatever
comes after the closing quote, it is one token, and reading goes on right after that quote. -/
theorem read_written (hquote : quote = '\'' ∨ quote = '"') (s : String) :
    (∃ body, Written IsHexCode quote s.toList body) ∧
    (∀ x, (∃ ds, IsHexCode ds x) ↔ x.toNat < 0x10000) ∧
    ∀ body, Written IsHexCode quote s.toList body → ∀ rest total,
      read quote (body ++ quote :: rest) = .ok (.string s, rest) ∧
      Token.readAll total (quote :: (body ++ quote :: rest)) = (Token.readAll total rest).map
        (⟨.string s, Token.offset total (quote :: (body ++ quote :: rest))⟩ :: ·) := by
  refine ⟨exists_written _ hquote _, fun x => exists_isHexCode_iff, fun body h rest total => ?_⟩
  have hread : read quote (body ++ quote :: rest) = .ok (.string s, rest) := by
    have htaken : Written TakenCode quote s.toList body := h.mono fun _ _ => .digits
    rw [read_quote hquote, readString_written (ne_slash_of_quote hquote) htaken, readString_quote]
    simp [Except.map]
  exact ⟨hread, by rw [readAll_quote hquote, hread]⟩

/-- `\u00E9` is a letter, `\'` the quote and `\n` a line feed. -/
theorem read_written_escapes :
    Written IsHexCode '\'' "é'\n!".toList "\\u00E9\\'\\n!".toList ∧
      read '\'' ("\\u00E9\\'\\n!".toList ++ '\'' :: ['\'']) = .ok (.string "é'\n!", ['\'']) := by
  have hcode : Piece IsHexCode '\'' 'é' ['\\', 'u', '0', '0', 'E', '9'] :=
    .code ⟨rfl, List.all_eq_true.mp rfl, rfl⟩
  have h : Written IsHexCode '\'' "é'\n!".toList "\\u00E9\\'\\n!".toList :=
    .cons hcode <| .cons (.letter (by decide)) <| .cons (.letter (by decide)) <|
      .cons (.itself (by decide) (by decide)) .nil
  exact ⟨h, ((read_written (.inl rfl) _).2.2 _ h _ 0).1⟩

/-- **Which texts in quotes are read, and where the others fail.**  A token is read exactly if the
characters up to a quote of that kind are written one after the other, each as itself, with a letter
or with a code, for which a `+` and three digits are taken too.  Otherwise they are written so up to
characters that cannot go on, and the error is in them: at the letter that is none, right after the
`\u` without a code, or at the end of the text. -/
theorem read_quoted_iff (hquote : quote = '\'' ∨ quote = '"') (cs : List Char) :
    (∀ l rest, read quote cs = .ok (l, rest) ↔ ∃ content body,
      l = .string (String.ofList content) ∧ cs = body ++ quote :: rest ∧
        Written TakenCode quote content body) ∧
    (∀ f, read quote cs = .error f ↔ ∃ content body left,
      cs = body ++ left ∧ Written TakenCode quote content body ∧ Stuck TakenCode left f) ∧
    ∀ f total, read quote cs = .error f → Token.readAll total (quote :: cs) =
      .error ⟨Token.offset total f.rest, f.expected, f.rest.head?⟩ := by
  have hslash := ne_slash_of_quote hquote
  refine ⟨fun l rest => ⟨fun h => ?_, ?_⟩, fun f => ⟨fun h => ?_, ?_⟩, fun f total h => ?_⟩
  · rw [read_quote hquote] at h
    obtain ⟨p, hp, hl⟩ := exists_of_map_eq_ok h
    injection hl with hl hrest
    subst hl hrest
    obtain ⟨body, hbody, hescapes⟩ := escapes_of_readString hp
    exact ⟨p.1, body, rfl, hbody, written_of_escapes hescapes⟩
  · rintro ⟨content, body, rfl, rfl, h⟩
    rw [read_quote hquote, readString_written hslash h, readString_quote]
    simp [Except.map]
  · rw [read_quote hquote] at h
    exact exists_stuck_of_readString (error_of_map_eq_error h)
  · rintro ⟨content, body, left, rfl, h, hleft⟩
    rw [read_quote hquote, readString_written hslash h, readString_stuck hslash hleft]
    rfl
  · rw [readAll_quote hquote, h]

/-- `'a\qb'` fails at the `q`. -/
theorem read_quoted_iff_strayLetter :
    read '\'' "a\\qb'".toList = .error ⟨.validEscape, "qb'".toList⟩ := by
  have hbody : Written TakenCode '\'' ['a'] ['a'] :=
    .cons (.itself (by decide) (by decide)) .nil
  have hstuck : Stuck TakenCode ['\\', 'q', 'b', '\''] ⟨.validEscape, ['q', 'b', '\'']⟩ :=
    .letter (by decide) (by simp [escapeLetters])
  exact ((read_quoted_iff (.inl rfl) _).2.1 _).mpr ⟨_, _, _, rfl, hbody, hstuck⟩

/-- `'\u+041'` is read as `A`, and is not written with a code of four digits. -/
theorem read_signed_code : read '\'' "\\u+041'".toList = .ok (.string "A", []) ∧
    ¬∃ content body rest, "\\u+041'".toList = body ++ '\'' :: rest ∧
      Written IsHexCode '\'' content body := by
  have htext : "\\u+041'".toList = ['\\', 'u', '+', '0', '4', '1'] ++ '\'' :: [] := by decide
  have hcode : Piece TakenCode '\'' 'A' ['\\', 'u', '+', '0', '4', '1'] :=
    .code (.plus ⟨rfl, List.all_eq_true.mp rfl, rfl⟩)
  have hread : Written TakenCode '\'' ['A'] ['\\', 'u', '+', '0', '4', '1'] := .cons hcode .nil
  rw [htext]
  refine ⟨?_, ?_⟩
  · rw [read_quote (.inl rfl), readString_written (by decide) hread, readString_quote]
    rfl
  rintro ⟨content, body, rest, hbody, h⟩
  cases h with
  | nil => exact absurd hbody (by simp)
  | cons h more =>
      cases h with
      | itself hquote hslash =>
          injection hbody with hx
          exact hslash hx.symm
      | letter h =>
          injection hbody with hx hbody
          injection hbody with he
          subst he
          simp [escapeLetters] at h
      | code h =>
          obtain ⟨a, b, c, d, rfl⟩ := List.length_eq_four.mp h.length
          injection hbody with hx hbody
          injection hbody with hu hbody
          injection hbody with ha
          subst ha
          exact absurd (h.digits '+' List.mem_cons_self) (by decide)

end Lexeme

end TreeSift
