import TreeSift.Number.Read
import TreeSift.Text.CharClass

/-!
# TreeSift.Expr.Token

The tokens of expression text.

1. Blanks between tokens are space, tab, carriage return and line feed.  Every token takes at least
   one character, and the longest run that its class allows.
2. A word is a letter or `_` and then letters, digits and `_`.  The words of the language count in
   any ASCII case; any other word directly before an opening parenthesis is a function's name and
   keeps its case, and one elsewhere is in lower case.
3. Four digits, a dash and a digit start a date, which goes on over digits and `- : . T Z +`.
   Whether it denotes one is for the grammar to say.  Any other digit, or a dash before a digit,
   starts a number.
4. Positions are byte offsets in UTF-8.  A text that cannot be read fails where reading stopped,
   and the failure names what was expected there and the character found.
-/

namespace TreeSift

/-- The words and signs that compare. -/
inductive ComparisonWord where
  | eq
  | ne
  | gt
  | ge
  | lt
  | le
  | like
  | contains
  | within
deriving DecidableEq, Repr, Inhabited

/-- What a token is. -/
inductive Lexeme where
  /-- A word that is neither a keyword nor a function's name, in lower case. -/
  | word (text : String)
  /-- The text between brackets, blanks around its segments dropped. -/
  | path (text : String)
  /-- The content of a quoted string. -/
  | string (text : String)
  | number (text : String)
  | date (text : String)
  | parameter (name : String)
  | comparison (word : ComparisonWord)
  | openParen
  | closeParen
  | and
  | or
  | not
  /-- A word before an opening parenthesis. -/
  | function (name : String)
  | comma
deriving DecidableEq, Repr, Inhabited

/-- A token and the byte offset of its first character. -/
structure Token where
  /-- What it is. -/
  lexeme : Lexeme
  /-- Where it starts. -/
  position : Nat
deriving DecidableEq, Repr, Inhabited

/-- The tokens of a text and the byte offset at which the text ends. -/
structure TokenList where
  /-- The tokens in order. -/
  tokens : List Token
  /-- Where the text ends. -/
  stop : Nat
deriving DecidableEq, Repr, Inhabited

/-- What a text could have gone on with. -/
inductive Expectation where
  | closingBracket
  | pathSegment
  | pathCharacter
  | escapeSequence
  | validEscape
  | hexDigits
  | closingQuote
  | parameterName
  | digit
  | fractionDigit
  | anyToken
  /-- Bytes of an encoding with that name. -/
  | validText (encoding : String)
deriving DecidableEq, Repr, Inhabited

/-- A place where text cannot be read. -/
structure LexError where
  /-- The byte offset. -/
  position : Nat
  /-- What was expected there. -/
  expected : Expectation
  /-- The character there; none at the end of the text, or where there is no text yet. -/
  found : Option Char
deriving DecidableEq, Repr, Inhabited

namespace ComparisonWord

/-- How the word is written. -/
def symbol : ComparisonWord → String
  | eq => "=="
  | ne => "!="
  | gt => ">"
  | ge => ">="
  | lt => "<"
  | le => "<="
  | like => "like"
  | contains => "contains"
  | within => "in"

end ComparisonWord

namespace Lexeme

/-- The text of a token. -/
def text : Lexeme → String
  | word t => t
  | path t => t
  | string t => t
  | number t => t
  | date t => t
  | parameter t => t
  | comparison w => w.symbol
  | openParen => "("
  | closeParen => ")"
  | and => "and"
  | or => "or"
  | not => "not"
  | function t => t
  | comma => ","

/-! ## Reading one token -/

/-- Why no token could be read, and the characters from there on. -/
structure Fault where
  /-- What was expected. -/
  expected : Expectation
  /-- The characters not read. -/
  rest : List Char
deriving DecidableEq, Repr

/-- A token, or the place where reading it stopped, together with the characters after it. -/
abbrev Reading := Except Fault (Lexeme × List Char)

/-- A blank between tokens. -/
def isGap (c : Char) : Bool := c == ' ' || c == '\t' || c == '\r' || c == '\n'

/-- The characters without the blanks in front. -/
def skipGap (cs : List Char) : List Char := cs.dropWhile isGap

/-- A character that starts a word. -/
def isWordStart (c : Char) : Bool := CharClass.isAlphabetic c || c == '_'

/-- A character that continues a word. -/
def isWordChar (c : Char) : Bool := CharClass.isAlphanumeric c || c == '_'

/-- The first fault of the segments of a path; `after` follows the last of them. -/
def segmentFault? (after : List Char) : List (List Char) → Option Fault
  | [] => none
  | s :: ss =>
    let following := match ss with
      | [] => after
      | ss => '/' :: (Text.joinWith ['/'] ss ++ after)
    if (Text.trim s).isEmpty then some ⟨.pathSegment, s ++ following⟩
    else
      match s.dropWhile fun c => c != '[' && !CharClass.isControl c with
      | [] => segmentFault? after ss
      | bad => some ⟨.pathCharacter, bad ++ following⟩

/-- A path after its opening bracket. -/
def readPath (cs : List Char) : Reading :=
  let inner := cs.takeWhile (· != ']')
  match cs.dropWhile (· != ']') with
  | [] => .error ⟨.closingBracket, []⟩
  | close :: rest =>
    let segments := Text.splitAt '/' inner
    match segmentFault? (close :: rest) segments with
    | some f => .error f
    | none =>
      .ok (.path (String.ofList (Text.joinWith ['/'] (segments.map Text.trim))), rest)

/-- The character four hexadecimal digits denote; a `+` may stand in place of the first. -/
def hexChar? (ds : List Char) : Option Char :=
  let value := match ds with
    | '+' :: r => Number.readBase? 16 r
    | r => Number.readBase? 16 r
  value.bind CharSet.scalar?

/-- The character an escape of one letter stands for. -/
def simpleEscape? (c : Char) : Option Char :=
  match c with
  | 'n' => some '\n'
  | 'r' => some '\r'
  | 't' => some '\t'
  | '\\' => some '\\'
  | '\'' => some '\''
  | '"' => some '"'
  | '/' => some '/'
  | _ => none

/-- A character in front of the content of a string. -/
def prepend (c : Char) (r : Except Fault (List Char × List Char)) :
    Except Fault (List Char × List Char) :=
  r.map fun (content, rest) => (c :: content, rest)

/-- The content of a string after its opening quote, and what follows the closing one. -/
def readString (quote : Char) : List Char → Except Fault (List Char × List Char)
  | [] => .error ⟨.closingQuote, []⟩
  | c :: cs =>
    if c = quote then .ok ([], cs)
    else if c = '\\' then
      match cs with
      | [] => .error ⟨.escapeSequence, []⟩
      | e :: r =>
        if e = 'u' then
          match r with
          | h₁ :: h₂ :: h₃ :: h₄ :: rest =>
            match hexChar? [h₁, h₂, h₃, h₄] with
            | some x => prepend x (readString quote rest)
            | none => .error ⟨.hexDigits, r⟩
          | _ => .error ⟨.hexDigits, r⟩
        else
          match simpleEscape? e with
          | some x => prepend x (readString quote r)
          | none => .error ⟨.validEscape, e :: r⟩
    else prepend c (readString quote cs)

/-- A parameter after its `$`. -/
def readParameter (cs : List Char) : Reading :=
  match cs with
  | [] => .error ⟨.parameterName, cs⟩
  | c :: _ =>
    if isWordStart c then
      .ok (.parameter (String.ofList (cs.takeWhile isWordChar)), cs.dropWhile isWordChar)
    else .error ⟨.parameterName, cs⟩

/-- A character that a date may go on with. -/
def isDateChar (c : Char) : Bool :=
  c.isDigit || c == '-' || c == ':' || c == '.' || c == 'T' || c == 'Z' || c == '+'

/-- Whether the text starts like a date. -/
def startsDate : List Char → Bool
  | a :: b :: c :: d :: e :: f :: _ =>
    a.isDigit && b.isDigit && c.isDigit && d.isDigit && e == '-' && f.isDigit
  | _ => false

/-- A run of digits and what follows it. -/
def digitRun (cs : List Char) : List Char × List Char :=
  (cs.takeWhile Char.isDigit, cs.dropWhile Char.isDigit)

/-- A sign, if one comes next, and what follows it. -/
def readSignMark (cs : List Char) : List Char × List Char :=
  match cs with
  | '+' :: r => (['+'], r)
  | '-' :: r => (['-'], r)
  | r => ([], r)

/-- An exponent, if one with at least one digit comes next, and what follows it. -/
def readExponent (cs : List Char) : List Char × List Char :=
  match cs with
  | [] => ([], [])
  | e :: r =>
    let (sign, ds) := readSignMark r
    let (run, rest) := digitRun ds
    if (e = 'e' ∨ e = 'E') ∧ run ≠ [] then (e :: (sign ++ run), rest) else ([], e :: r)

/-- A fraction, if a point comes next, and what follows it. -/
def readFraction (cs : List Char) : Except Fault (List Char × List Char) :=
  match cs with
  | '.' :: r =>
    let (run, rest) := digitRun r
    if run = [] then .error ⟨.fractionDigit, rest⟩ else .ok ('.' :: run, rest)
  | r => .ok ([], r)

/-- A number whose sign has been read. -/
def readNumber (sign cs : List Char) : Reading :=
  let (whole, rest) := digitRun cs
  if whole = [] then .error ⟨.digit, rest⟩
  else (readFraction rest).map fun (fraction, r) =>
    let (exponent, rest) := readExponent r
    (.number (String.ofList (sign ++ whole ++ fraction ++ exponent)), rest)

/-- What a word is, given the text after it. -/
def ofWord (word rest : List Char) : Lexeme :=
  let lower := String.ofList (Text.lowerAscii word)
  if lower = "and" then .and
  else if lower = "or" then .or
  else if lower = "not" then .not
  else if lower = "like" then .comparison .like
  else if lower = "contains" then .comparison .contains
  else if lower = "in" then .comparison .within
  else if (Text.trimStart rest).head? = some '(' then .function (String.ofList word)
  else .word lower

/-- An operator sign or a mark. -/
def readSign (cs : List Char) : Reading :=
  match cs with
  | '=' :: '=' :: r => .ok (.comparison .eq, r)
  | '!' :: '=' :: r => .ok (.comparison .ne, r)
  | '>' :: '=' :: r => .ok (.comparison .ge, r)
  | '<' :: '=' :: r => .ok (.comparison .le, r)
  | '&' :: '&' :: r => .ok (.and, r)
  | '|' :: '|' :: r => .ok (.or, r)
  | '>' :: r => .ok (.comparison .gt, r)
  | '<' :: r => .ok (.comparison .lt, r)
  | '!' :: r => .ok (.not, r)
  | '(' :: r => .ok (.openParen, r)
  | ')' :: r => .ok (.closeParen, r)
  | ',' :: r => .ok (.comma, r)
  | r => .error ⟨.anyToken, r⟩

/-- Whether the text starts with a digit. -/
def startsDigit (cs : List Char) : Bool := (cs.head?.map Char.isDigit).getD false

/-- The token at the start of a text, whose first character is given apart. -/
def read (c : Char) (cs : List Char) : Reading :=
  if c = '[' then readPath cs
  else if c = '\'' ∨ c = '"' then
    (readString c cs).map fun (content, rest) => (.string (String.ofList content), rest)
  else if c = '$' then readParameter cs
  else if c.isDigit then
    if startsDate (c :: cs) then
      .ok (.date (String.ofList ((c :: cs).takeWhile isDateChar)), (c :: cs).dropWhile isDateChar)
    else readNumber [] (c :: cs)
  else if c = '-' ∧ startsDigit cs then readNumber ['-'] cs
  else if isWordStart c then
    let word := (c :: cs).takeWhile isWordChar
    let rest := (c :: cs).dropWhile isWordChar
    .ok (ofWord word rest, rest)
  else readSign (c :: cs)

/-! ## Every token takes a character -/

theorem length_readPath {cs : List Char} {p : Lexeme × List Char} (h : readPath cs = .ok p) :
    p.2.length ≤ cs.length := by
  unfold readPath at h
  split at h
  · contradiction
  · next close r hr =>
    dsimp only at h
    split at h
    · contradiction
    · have hle := (List.dropWhile_sublist (l := cs) (· != ']')).length_le
      rw [hr] at hle
      injection h with h
      subst h
      exact Nat.le_of_succ_le hle

theorem length_dropWhile_lt {p : Char → Bool} {cs : List Char} (h : cs.takeWhile p ≠ []) :
    (cs.dropWhile p).length < cs.length := by
  have hsum := congrArg List.length (List.takeWhile_append_dropWhile (p := p) (l := cs))
  have hpos := List.length_pos_iff.mpr h
  rw [List.length_append] at hsum
  omega

theorem exists_of_map_eq_ok {ε α β : Type} {f : α → β} {r : Except ε α} {b : β}
    (h : r.map f = .ok b) : ∃ a, r = .ok a ∧ f a = b := by
  cases r with
  | error e => contradiction
  | ok a => exact ⟨a, rfl, by injection h⟩

theorem error_of_map_eq_error {ε α β : Type} {g : α → β} {r : Except ε α} {e : ε}
    (h : r.map g = .error e) : r = .error e := by
  cases r with
  | error e' =>
      injection h with h
      rw [h]
  | ok a => contradiction

theorem length_prepend {c : Char} {r : Except Fault (List Char × List Char)} {n : Nat}
    (ih : ∀ p, r = .ok p → p.2.length ≤ n) (p : List Char × List Char)
    (h : prepend c r = .ok p) : p.2.length ≤ n := by
  obtain ⟨q, hq, hp⟩ := exists_of_map_eq_ok h
  subst hp
  exact ih q hq

theorem length_readString (q : Char) (cs : List Char) (p : List Char × List Char)
    (h : readString q cs = .ok p) : p.2.length ≤ cs.length := by
  fun_induction readString q cs generalizing p with
  | case2 cs =>
    injection h with h
    subst h
    exact Nat.le_succ _
  | case4 _ _ _ _ _ _ _ _ ih =>
    refine Nat.le_trans (length_prepend ih p h) ?_
    simp only [List.length_cons]
    omega
  | case7 _ _ _ _ _ _ ih =>
    refine Nat.le_trans (length_prepend ih p h) ?_
    simp only [List.length_cons]
    omega
  | case9 _ _ _ _ ih => exact Nat.le_succ_of_le (length_prepend ih p h)
  | _ => contradiction

theorem length_readParameter {cs : List Char} {p : Lexeme × List Char}
    (h : readParameter cs = .ok p) : p.2.length ≤ cs.length := by
  unfold readParameter at h
  split at h
  · contradiction
  · split at h
    · injection h with h
      subst h
      exact (List.dropWhile_sublist _).length_le
    · contradiction

theorem length_readSignMark (cs : List Char) : (readSignMark cs).2.length ≤ cs.length := by
  unfold readSignMark
  split <;> simp

theorem length_readExponent (cs : List Char) : (readExponent cs).2.length ≤ cs.length := by
  unfold readExponent
  split
  · exact Nat.le_refl _
  · next e r =>
    dsimp only [digitRun]
    split
    · have h₁ := (List.dropWhile_sublist (l := (readSignMark r).2) Char.isDigit).length_le
      have h₂ := length_readSignMark r
      simp only [List.length_cons]
      omega
    · exact Nat.le_refl _

theorem length_readFraction {cs : List Char} {p : List Char × List Char}
    (h : readFraction cs = .ok p) : p.2.length ≤ cs.length := by
  unfold readFraction at h
  split at h
  · dsimp only [digitRun] at h
    split at h
    · contradiction
    · injection h with h
      subst h
      exact Nat.le_succ_of_le (List.dropWhile_sublist _).length_le
  · injection h with h
    subst h
    exact Nat.le_refl _

theorem length_readNumber {sign cs : List Char} {p : Lexeme × List Char}
    (h : readNumber sign cs = .ok p) : p.2.length < cs.length := by
  unfold readNumber at h
  dsimp only [digitRun] at h
  split at h
  · contradiction
  · next hw =>
    obtain ⟨q, hq, hp⟩ := exists_of_map_eq_ok h
    subst hp
    have h₁ := length_dropWhile_lt hw
    have h₂ := length_readFraction hq
    have h₃ := length_readExponent q.2
    dsimp only
    omega

theorem length_readSign {cs : List Char} {p : Lexeme × List Char}
    (h : readSign cs = .ok p) : p.2.length < cs.length := by
  unfold readSign at h
  split at h
  all_goals first
    | contradiction
    | (injection h with h
       subst h
       simp only [List.length_cons]
       omega)

/-- A token takes its first character and nothing is given back. -/
theorem length_read {c : Char} {cs : List Char} {p : Lexeme × List Char}
    (h : read c cs = .ok p) : p.2.length ≤ cs.length := by
  unfold read at h
  split at h
  · exact length_readPath h
  split at h
  · obtain ⟨q, hq, hp⟩ := exists_of_map_eq_ok h
    subst hp
    exact length_readString c cs q hq
  split at h
  · exact length_readParameter h
  split at h
  · next hc =>
    split at h
    · injection h with h
      subst h
      have hd : isDateChar c = true := by simp [isDateChar, hc]
      dsimp only
      rw [List.dropWhile_cons_of_pos hd]
      exact (List.dropWhile_sublist _).length_le
    · exact Nat.lt_succ_iff.mp (length_readNumber h)
  split at h
  · exact Nat.le_of_lt (length_readNumber h)
  split at h
  · next hw =>
    injection h with h
    subst h
    have hd : isWordChar c = true := by
      simp only [isWordStart, isWordChar, CharClass.isAlphanumeric, Bool.or_eq_true] at hw ⊢
      exact hw.elim (fun h => .inl (.inl h)) .inr
    dsimp only
    rw [List.dropWhile_cons_of_pos hd]
    exact (List.dropWhile_sublist _).length_le
  · exact Nat.lt_succ_iff.mp (length_readSign h)

end Lexeme

/-! ## Reading a text -/

namespace Token

/-- The byte offset at which `rest` starts in a text of `total` bytes that ends with it. -/
def offset (total : Nat) (rest : List Char) : Nat := total - Text.byteLength rest

/-- The tokens of the end `cs` of a text of `total` bytes. -/
def readAll (total : Nat) (cs : List Char) : Except LexError (List Token) :=
  match _hs : Lexeme.skipGap cs with
  | [] => .ok []
  | c :: r =>
    match _hr : Lexeme.read c r with
    | .error f => .error ⟨offset total f.rest, f.expected, f.rest.head?⟩
    | .ok (l, rest) => (readAll total rest).map (⟨l, offset total (c :: r)⟩ :: ·)
termination_by cs.length
decreasing_by
  have h₁ : rest.length ≤ r.length := Lexeme.length_read _hr
  have h₂ := (List.dropWhile_sublist (l := cs) Lexeme.isGap).length_le
  rw [Lexeme.skipGap] at _hs
  rw [_hs, List.length_cons] at h₂
  omega

end Token

namespace TokenList

/-- The tokens of a text. -/
def ofText (text : List Char) : Except LexError TokenList :=
  let total := Text.byteLength text
  (Token.readAll total text).map fun tokens => ⟨tokens, total⟩

end TokenList

end TreeSift
