import TreeSift.Proofs.Expr.ErrorPosition
import TreeSift.Proofs.Expr.Spelling

/-!
# TreeSift.Proofs.Expr.Position

Where tokens and errors are in a text.

1. `Text.FromByte text n rest` says that `rest` is the text from byte `n` on.  A character starts
   there, or the text ends.
2. A text that is read is *laid out*: it is the spellings of its tokens one after another, with
   nothing but blanks before, between and after them, and each token has the byte offset of its
   spelling (`Laid`, `laid_of_readAll`).  What else is true of positions follows from that.
3. A text that is not read has an end from which no token could be read, and the error has its place
   (`fromByte_of_readAll_error`).
-/

namespace TreeSift

/-! ## places in a text -/

namespace Text

/-- The text from byte `n` on is `rest`. -/
def FromByte (text : List Char) (n : Nat) (rest : List Char) : Prop :=
  ∃ before, text = before ++ rest ∧ byteLength before = n

variable {text rest rest' : List Char} {n : Nat}

theorem byteLength_pos {cs : List Char} (h : cs ≠ []) : 0 < byteLength cs :=
  Nat.lt_of_lt_of_le (List.length_pos_iff.mpr h) (length_le_byteLength cs)

theorem eq_nil_of_byteLength_append {as bs : List Char}
    (h : byteLength (as ++ bs) = byteLength as) : bs = [] := by
  by_contra hne
  have hpos := byteLength_pos hne
  rw [byteLength_append] at h
  omega

theorem fromByte_zero (text : List Char) : FromByte text 0 text := ⟨[], rfl, rfl⟩

theorem fromByte_end (text : List Char) : FromByte text (byteLength text) [] :=
  ⟨text, (List.append_nil text).symm, rfl⟩

theorem FromByte.le (h : FromByte text n rest) : n ≤ byteLength text := by
  obtain ⟨before, rfl, rfl⟩ := h
  simp

theorem FromByte.append {skipped : List Char} (h : FromByte text n (skipped ++ rest)) :
    FromByte text (n + byteLength skipped) rest := by
  obtain ⟨before, rfl, rfl⟩ := h
  exact ⟨before ++ skipped, by simp, by simp⟩

theorem fromByte_of_suffix (h : rest <:+ text) :
    FromByte text (byteLength text - byteLength rest) rest := by
  obtain ⟨before, rfl⟩ := h
  exact ⟨before, rfl, by simp⟩

/-- A place in a text has one end of the text after it. -/
theorem FromByte.unique (h : FromByte text n rest) (h' : FromByte text n rest') :
    rest = rest' := by
  obtain ⟨before, rfl, rfl⟩ := h
  obtain ⟨before', htext, hlength⟩ := h'
  obtain ⟨more, rfl, rfl⟩ | ⟨more, rfl, rfl⟩ := List.append_eq_append_iff.mp htext
  · rw [eq_nil_of_byteLength_append hlength, List.nil_append]
  · rw [eq_nil_of_byteLength_append hlength.symm, List.nil_append]

/-- Nothing is left exactly at the end. -/
theorem FromByte.head?_eq_none_iff (h : FromByte text n rest) :
    rest.head? = none ↔ n = byteLength text := by
  rw [List.head?_eq_none_iff]
  constructor
  · rintro rfl
    obtain ⟨before, rfl, rfl⟩ := h
    rw [List.append_nil]
  · rintro rfl
    exact h.unique (fromByte_end text)

end Text

/-! ## a text laid out -/

/-- The text, which starts at byte `start`, is laid out as these tokens. -/
inductive Laid : Nat → List Char → List Token → Prop where
  | nil {start : Nat} {gap : List Char} (blank : ∀ c ∈ gap, Lexeme.isGap c = true) :
    Laid start gap []
  | cons {start : Nat} {gap span rest : List Char} {l : Lexeme} {ts : List Token}
    (blank : ∀ c ∈ gap, Lexeme.isGap c = true) (spelled : Lexeme.Spelled l span)
    (more : Laid (start + Text.byteLength gap + Text.byteLength span) rest ts) :
    Laid start (gap ++ (span ++ rest)) (⟨l, start + Text.byteLength gap⟩ :: ts)

namespace Laid

open Grammar (marks)

variable {start : Nat} {text : List Char} {ts : List Token}

/-- A text has at least as many characters as tokens. -/
theorem length_le (h : Laid start text ts) : ts.length ≤ text.length := by
  induction h with
  | nil => exact Nat.zero_le _
  | cons blank spelled more ih =>
      have hspan := List.length_pos_iff.mpr spelled.ne_nil
      simp only [List.length_cons, List.length_append]
      omega

theorem le_of_mem_marks (h : Laid start text ts) :
    ∀ p ∈ marks (start + Text.byteLength text) ts, start ≤ p := by
  induction h with
  | nil => simp [marks]
  | @cons start gap span rest l ts blank spelled more ih =>
      intro p hp
      simp only [Text.byteLength_append, ← Nat.add_assoc] at hp
      obtain rfl | hp := List.mem_cons.mp hp
      · exact Nat.le_add_right _ _
      · exact Nat.le_trans (Nat.le_trans (Nat.le_add_right _ _) (Nat.le_add_right _ _)) (ih p hp)

/-- Each mark is after the one before it. -/
theorem pairwise_marks (h : Laid start text ts) :
    (marks (start + Text.byteLength text) ts).Pairwise (· < ·) := by
  induction h with
  | nil => simp [marks]
  | @cons start gap span rest l ts blank spelled more ih =>
      simp only [Text.byteLength_append, ← Nat.add_assoc]
      refine List.pairwise_cons.mpr ⟨fun p hp => ?_, ih⟩
      have hspan := Text.byteLength_pos spelled.ne_nil
      have hle := more.le_of_mem_marks p hp
      dsimp only
      omega

/-- Each mark is a place in the text. -/
theorem fromByte_of_mem_marks {whole : List Char} (h : Laid start text ts)
    (hstart : Text.FromByte whole start text) :
    ∀ p ∈ marks (start + Text.byteLength text) ts, ∃ rest, Text.FromByte whole p rest := by
  induction h with
  | @nil start gap blank =>
      intro p hp
      obtain rfl := List.mem_singleton.mp hp
      exact ⟨[], Text.FromByte.append (by simpa using hstart)⟩
  | @cons start gap span rest l ts blank spelled more ih =>
      intro p hp
      have hgap := hstart.append
      simp only [Text.byteLength_append, ← Nat.add_assoc] at hp
      obtain rfl | hp := List.mem_cons.mp hp
      · exact ⟨_, hgap⟩
      · exact ih hgap.append p hp

end Laid

/-! ## reading lays out -/

namespace Token

variable {total : Nat} {cs : List Char}

theorem skipGap_blank (cs : List Char) :
    ∃ gap, cs = gap ++ Lexeme.skipGap cs ∧ ∀ c ∈ gap, Lexeme.isGap c = true :=
  ⟨cs.takeWhile Lexeme.isGap, List.takeWhile_append_dropWhile.symm,
    fun _ hc => List.mem_takeWhile_imp hc⟩

theorem laid_of_readAll {ts : List Token} (hle : Text.byteLength cs ≤ total)
    (h : readAll total cs = .ok ts) : Laid (total - Text.byteLength cs) cs ts := by
  fun_induction readAll total cs generalizing ts with
  | case1 cs hs =>
    injection h with h
    subst h
    obtain ⟨gap, hcs, hgap⟩ := skipGap_blank cs
    rw [hs, List.append_nil] at hcs
    exact .nil (hcs ▸ hgap)
  | case2 => contradiction
  | case3 cs c r hs l rest hr ih =>
    obtain ⟨more, hmore, rfl⟩ := Lexeme.exists_of_map_eq_ok h
    obtain ⟨gap, hcs, hgap⟩ := skipGap_blank cs
    obtain ⟨span, hspan, hspelled⟩ := Lexeme.spelled_of_read hr
    rw [hs, hspan] at hcs
    subst hcs
    have hlength : Text.byteLength (gap ++ (span ++ rest)) =
        Text.byteLength gap + (Text.byteLength span + Text.byteLength rest) := by simp
    have hposition : offset total (c :: r) =
        total - Text.byteLength (gap ++ (span ++ rest)) + Text.byteLength gap := by
      rw [offset, hspan, Text.byteLength_append]
      omega
    have hafter : total - Text.byteLength rest =
        total - Text.byteLength (gap ++ (span ++ rest)) + Text.byteLength gap +
          Text.byteLength span := by omega
    have hlaid := ih (by omega) hmore
    rw [hafter] at hlaid
    rw [hposition]
    exact .cons hgap hspelled hlaid

theorem skipGap_suffix (cs : List Char) : Lexeme.skipGap cs <:+ cs := List.dropWhile_suffix _

/-- Where a text is not read, an end of it is left. -/
theorem suffix_of_readAll_error {e : LexError} (h : readAll total cs = .error e) :
    ∃ rest, rest <:+ cs ∧ e.position = total - Text.byteLength rest ∧ e.found = rest.head? := by
  fun_induction readAll total cs with
  | case1 => contradiction
  | case2 cs c r hs f hf =>
    injection h with h
    subst h
    have hsuffix := (Lexeme.suffix_of_read_error hf).trans (hs ▸ skipGap_suffix cs)
    exact ⟨f.rest, hsuffix, rfl, rfl⟩
  | case3 cs c r hs l rest hr ih =>
    obtain ⟨span, hspan, -⟩ := Lexeme.spelled_of_read hr
    obtain ⟨left, hleft, hplace⟩ := ih (Lexeme.error_of_map_eq_error h)
    have hrest : rest <:+ cs :=
      List.IsSuffix.trans ⟨span, hspan.symm⟩ (hs ▸ skipGap_suffix cs)
    exact ⟨left, hleft.trans hrest, hplace⟩

end Token

namespace TokenList

open Grammar (marks)

/-- **Positions say where things are in the text.**  A text that is read is laid out as its tokens:
no character is skipped but blanks, and none is read twice.  The positions, with the end of the text
for the last of them, go up strictly and are places in the text, and if the grammar does not take
the tokens, then it says so at one of them.  Each token takes at least one character, so there are
no more of them than characters.  Where a text is not read, the error is at a place in the text and
bears the character found there; it has none exactly at the end. -/
theorem ofText_located (text : List Char) :
    (∀ ts, ofText text = .ok ts →
      Laid 0 text ts.tokens ∧ ts.stop = Text.byteLength text ∧ ts.tokens.length ≤ text.length ∧
      (marks ts.stop ts.tokens).Pairwise (· < ·) ∧
      (∀ p ∈ marks ts.stop ts.tokens, ∃ rest, Text.FromByte text p rest) ∧
      ∀ e, Expr.ofTokens ts = .error e → e.position ∈ marks ts.stop ts.tokens) ∧
    ∀ e, ofText text = .error e →
      ∃ rest, Text.FromByte text e.position rest ∧ e.found = rest.head? ∧
        e.position ≤ Text.byteLength text ∧
        (e.found = none ↔ e.position = Text.byteLength text) := by
  refine ⟨fun ts h => ?_, fun e h => ?_⟩
  · obtain ⟨tokens, htokens, rfl⟩ := Lexeme.exists_of_map_eq_ok h
    have hlaid := Token.laid_of_readAll (Nat.le_refl _) htokens
    rw [Nat.sub_self] at hlaid
    have hstart := Text.fromByte_zero text
    refine ⟨hlaid, rfl, hlaid.length_le, ?_, ?_, Grammar.failsAt_ofTokens _⟩
    · simpa using hlaid.pairwise_marks
    · simpa using hlaid.fromByte_of_mem_marks hstart
  · obtain ⟨rest, hsuffix, hposition, hfound⟩ :=
      Token.suffix_of_readAll_error (Lexeme.error_of_map_eq_error h)
    have hplace := Text.fromByte_of_suffix hsuffix
    rw [← hposition] at hplace
    exact ⟨rest, hplace, hfound, hplace.le, hfound ▸ hplace.head?_eq_none_iff⟩

/-- The tokens of `[é] == `, whose path has a letter of two bytes. -/
def accentTokens : TokenList := ⟨[⟨.path "é", 0⟩, ⟨.comparison .eq, 5⟩], 8⟩

/-- In `[é] == ` an operand is missing at the end.  In `'é' #` no token starts at byte 5, and in
`'é` the quote that closes is missing at byte 3. -/
theorem ofText_located_accent :
    ofText "[é] == ".toList = .ok accentTokens ∧ Laid 0 "[é] == ".toList accentTokens.tokens ∧
    (∃ e, Expr.ofTokens accentTokens = .error e ∧ e.position ∈ [0, 5, 8]) ∧
    ofText "'é' #".toList = .error ⟨5, .anyToken, some '#'⟩ ∧
    (∃ rest, Text.FromByte "'é' #".toList 5 rest ∧ some '#' = rest.head?) ∧
    ofText "'é".toList = .error ⟨3, .closingQuote, none⟩ ∧
    ∃ rest, Text.FromByte "'é".toList 3 rest ∧ none = rest.head? := by
  have hread : ofText "[é] == ".toList = .ok accentTokens := by decide +kernel
  have hsign : ofText "'é' #".toList = .error ⟨5, .anyToken, some '#'⟩ := by decide +kernel
  have hquote : ofText "'é".toList = .error ⟨3, .closingQuote, none⟩ := by decide +kernel
  have hfails : (Expr.ofTokens accentTokens).toOption.isNone = true := by decide +kernel
  obtain ⟨hlaid, -, -, -, -, hparse⟩ := (ofText_located _).1 _ hread
  obtain ⟨rest, hrest, hhead, -⟩ := (ofText_located _).2 _ hsign
  obtain ⟨rest', hrest', hhead', -⟩ := (ofText_located _).2 _ hquote
  refine ⟨hread, hlaid, ?_, hsign, ⟨rest, hrest, hhead⟩, hquote, rest', hrest', hhead'⟩
  cases h : Expr.ofTokens accentTokens with
  | error e => exact ⟨e, rfl, hparse e h⟩
  | ok e =>
      rw [h] at hfails
      contradiction

end TokenList

end TreeSift
