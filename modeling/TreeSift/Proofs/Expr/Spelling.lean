import Mathlib.Data.List.TakeWhile
import TreeSift.Proofs.Expr.NumberToken
import TreeSift.Proofs.Expr.Writable
import TreeSift.Proofs.Text.Split

/-!
# TreeSift.Proofs.Expr.Spelling

How tokens are written, and that nothing else is read.

1. `Spelled l cs` says that the characters `cs` are a way to write the token `l`, without saying how
   they are read.  A path has its own blanks, a string its own escapes, a word its own case; the
   words and signs of the language have the spellings of a table (`fixedSpellings`).
2. Every token that is read is spelled by the characters it took, which are the first of the text
   (`spelled_of_read`).
3. Where no token can be read, the characters left over are an end of the text
   (`suffix_of_read_error`).
-/

namespace TreeSift

namespace Lexeme

/-! ## spellings -/

/-- The body of a string in that kind of quotes stands for the content. -/
inductive Escapes (quote : Char) : List Char → List Char → Prop where
  | nil : Escapes quote [] []
  | plain {c : Char} {body content : List Char} (hquote : c ≠ quote) (hslash : c ≠ '\\')
    (more : Escapes quote body content) : Escapes quote (c :: body) (c :: content)
  | simple {e x : Char} {body content : List Char} (h : simpleEscape? e = some x)
    (more : Escapes quote body content) : Escapes quote ('\\' :: e :: body) (x :: content)
  | code {a b c d x : Char} {body content : List Char} (h : hexChar? [a, b, c, d] = some x)
    (more : Escapes quote body content) :
    Escapes quote ('\\' :: 'u' :: a :: b :: c :: d :: body) (x :: content)

/-- The words of the language, in lower case, and its signs. -/
def fixedSpellings : List (String × Lexeme) :=
  [("and", .and), ("&&", .and), ("or", .or), ("||", .or), ("not", .not), ("!", .not),
    ("like", .comparison .like), ("contains", .comparison .contains), ("in", .comparison .within),
    ("==", .comparison .eq), ("!=", .comparison .ne), (">", .comparison .gt),
    (">=", .comparison .ge), ("<", .comparison .lt), ("<=", .comparison .le), ("(", .openParen),
    (")", .closeParen), (",", .comma)]

/-- The token can be written with these characters. -/
inductive Spelled : Lexeme → List Char → Prop where
  | path {segments : List (List Char)} (ne_nil : segments ≠ [])
    (trimmed : ∀ s ∈ segments, IsSegment (Text.trim s))
    (plain : ∀ s ∈ segments, ∀ c ∈ s, IsSegmentChar c) :
    Spelled (.path (String.ofList (Text.joinWith ['/'] (segments.map Text.trim))))
      ('[' :: (Text.joinWith ['/'] segments ++ [']']))
  | string {quote : Char} {body content : List Char} (hquote : quote = '\'' ∨ quote = '"')
    (h : Escapes quote body content) :
    Spelled (.string (String.ofList content)) (quote :: (body ++ [quote]))
  | number {cs : List Char} (h : IsNumeral cs) : Spelled (.number (String.ofList cs)) cs
  | date {cs : List Char} (h : startsDate cs = true) (hd : ∀ c ∈ cs, isDateChar c = true) :
    Spelled (.date (String.ofList cs)) cs
  | parameter {w : List Char} (h : IsName w) : Spelled (.parameter (String.ofList w)) ('$' :: w)
  | function {w : List Char} (h : IsName w) (free : ¬IsReserved w) :
    Spelled (.function (String.ofList w)) w
  | word {w : List Char} (h : IsName w) (free : ¬IsReserved w) :
    Spelled (.word (String.ofList (Text.lowerAscii w))) w
  | fixed {l : Lexeme} {cs : List Char}
    (h : (String.ofList (Text.lowerAscii cs), l) ∈ fixedSpellings) : Spelled l cs

/-- A token takes at least one character. -/
theorem Spelled.ne_nil {l : Lexeme} {cs : List Char} (h : Spelled l cs) : cs ≠ [] := by
  intro hnil
  subst hnil
  cases h with
  | number h =>
      obtain ⟨sign, whole, fraction, exponent, -, hw, -, -, hcs⟩ := h.parts
      have hwhole : whole = [] := by simp_all
      exact hw.1 hwhole
  | date h => contradiction
  | function h => simpa using h.first
  | word h => simpa using h.first
  | fixed h => simp [fixedSpellings, Text.lowerAscii] at h

/-! ## what one reader takes -/

variable {cs rest : List Char} {l : Lexeme}

/-- A token that was read is spelled by the characters before those left over. -/
def Took (cs : List Char) (l : Lexeme) (rest : List Char) : Prop :=
  ∃ span, cs = span ++ rest ∧ Spelled l span

/-- Segments without a fault have no character that a path does not have, and are not blank. -/
theorem plain_of_segmentFault?_eq_none {after : List Char} {ss : List (List Char)}
    (h : segmentFault? after ss = none) :
    ∀ s ∈ ss, Text.trim s ≠ [] ∧ ∀ c ∈ s, c ≠ '[' ∧ CharClass.isControl c = false := by
  induction ss with
  | nil => simp
  | cons s ss ih =>
      unfold segmentFault? at h
      dsimp only at h
      split at h
      · contradiction
      · next htrim =>
        split at h
        · next hplain =>
          refine List.forall_mem_cons.mpr ⟨⟨by simpa using htrim, fun c hc => ?_⟩, ih h⟩
          simpa using List.dropWhile_eq_nil_iff.mp hplain c hc
        · contradiction

theorem took_readPath (h : readPath cs = .ok (l, rest)) : Took ('[' :: cs) l rest := by
  unfold readPath at h
  split at h
  · contradiction
  · next close r hclose =>
    dsimp only at h
    split at h
    · contradiction
    · next hfault =>
      injection h with h
      injection h with hl hr
      subst hl hr
      let inner := cs.takeWhile (· != ']')
      have hend : close = ']' := by
        have hhead := List.head?_dropWhile_not (· != ']') cs
        rw [hclose] at hhead
        simpa using hhead
      have hplain : ∀ s ∈ Text.splitAt '/' inner, ∀ c ∈ s, IsSegmentChar c := by
        intro s hs c hc
        obtain ⟨hopen, hcontrol⟩ := (plain_of_segmentFault?_eq_none hfault s hs).2 c hc
        have hslash : c ≠ '/' := fun hslash => Text.not_mem_of_mem_splitAt hs (hslash ▸ hc)
        have hinner : c ∈ inner := Text.mem_of_mem_splitAt hs hc
        have hclose : (c != ']') = true := List.mem_takeWhile_imp (p := (· != ']')) hinner
        exact ⟨hslash, hopen, by simpa using hclose, hcontrol⟩
      have htrimmed : ∀ s ∈ Text.splitAt '/' inner, IsSegment (Text.trim s) := fun s hs =>
        ⟨(plain_of_segmentFault?_eq_none hfault s hs).1, Text.trim_trim s,
          fun c hc => hplain s hs c (Text.mem_of_mem_trim hc)⟩
      have hcs : cs = inner ++ ']' :: r := by
        rw [← hend, ← hclose]
        exact List.takeWhile_append_dropWhile.symm
      refine ⟨_, ?_, .path (Text.splitAt_ne_nil '/' inner) htrimmed hplain⟩
      rw [Text.joinWith_splitAt, List.cons_append, List.append_assoc, List.singleton_append, ← hcs]

/-- A string takes its body and the closing quote. -/
theorem escapes_of_readString {quote : Char} {p : List Char × List Char}
    (h : readString quote cs = .ok p) :
    ∃ body, cs = body ++ quote :: p.2 ∧ Escapes quote body p.1 := by
  have prepended (span : List Char) {x : Char} {r : Except Fault (List Char × List Char)}
      {q : List Char × List Char} {cs : List Char} (h : prepend x r = .ok q)
      (ih : ∀ q, r = .ok q → ∃ body, cs = body ++ quote :: q.2 ∧ Escapes quote body q.1)
      (hspan : ∀ body content, Escapes quote body content →
        Escapes quote (span ++ body) (x :: content)) :
      ∃ body, span ++ cs = body ++ quote :: q.2 ∧ Escapes quote body q.1 := by
    obtain ⟨q', hq', rfl⟩ := exists_of_map_eq_ok h
    obtain ⟨body, hbody, hescapes⟩ := ih q' hq'
    exact ⟨span ++ body, by rw [hbody, List.append_assoc], hspan _ _ hescapes⟩
  fun_induction readString quote cs generalizing p with
  | case2 cs =>
    injection h with h
    subst h
    exact ⟨[], rfl, .nil⟩
  | case4 a b c d rest x hx hquote ih =>
    exact prepended ['\\', 'u', a, b, c, d] h (fun _ => ih) fun _ _ => .code hx
  | case7 e r he x hx hquote ih =>
    exact prepended ['\\', e] h (fun _ => ih) fun _ _ => .simple hx
  | case9 c cs hquote hslash ih =>
    exact prepended [c] h (fun _ => ih) fun _ _ => .plain hquote hslash
  | _ => contradiction

/-- A word start and the word characters after it are a name. -/
theorem isName_takeWhile {c : Char} {r : List Char} (hc : isWordStart c = true) :
    IsName ((c :: r).takeWhile isWordChar) where
  first := by
    have hword : isWordChar c = true := by
      simp only [isWordStart, isWordChar, CharClass.isAlphanumeric, Bool.or_eq_true] at hc ⊢
      exact hc.elim (fun h => .inl (.inl h)) .inr
    exact ⟨c, _, List.takeWhile_cons_of_pos hword, hc⟩
  word c hc := List.mem_takeWhile_imp hc

theorem took_readParameter (h : readParameter cs = .ok (l, rest)) : Took ('$' :: cs) l rest := by
  unfold readParameter at h
  split at h
  · contradiction
  · next c r =>
    split at h
    · next hc =>
      injection h with h
      injection h with hl hr
      subst hl hr
      refine ⟨_, ?_, .parameter (isName_takeWhile (r := r) hc)⟩
      rw [List.cons_append, List.takeWhile_append_dropWhile]
    · contradiction

theorem append_readFraction {p : List Char × List Char} (h : readFraction cs = .ok p) :
    p.1 ++ p.2 = cs := by
  unfold readFraction at h
  split at h
  · dsimp only [digitRun] at h
    split at h
    · contradiction
    · injection h with h
      subst h
      rw [List.cons_append, List.takeWhile_append_dropWhile]
  · injection h with h
    subst h
    rfl

theorem append_readSignMark (cs : List Char) : (readSignMark cs).1 ++ (readSignMark cs).2 = cs := by
  unfold readSignMark
  split <;> rfl

theorem append_readExponent (cs : List Char) : (readExponent cs).1 ++ (readExponent cs).2 = cs := by
  unfold readExponent
  split
  · rfl
  · next e r =>
    dsimp only [digitRun]
    split
    · rw [List.cons_append, List.append_assoc, List.takeWhile_append_dropWhile,
        append_readSignMark]
    · rfl

theorem took_readNumber {sign : List Char} (hs : sign = [] ∨ sign = ['-'])
    (h : readNumber sign cs = .ok (l, rest)) : Took (sign ++ cs) l rest := by
  obtain ⟨text, rfl, hn⟩ := isNumeral_of_readNumber hs h
  unfold readNumber at h
  dsimp only [digitRun] at h
  split at h
  · contradiction
  · obtain ⟨p, hp, hl⟩ := exists_of_map_eq_ok h
    injection hl with hl hr
    injection hl with hl
    refine ⟨text.toList, ?_, by simpa using Spelled.number hn⟩
    rw [← hl, ← hr, String.toList_ofList, List.append_assoc, append_readExponent, List.append_assoc,
      append_readFraction hp, List.append_assoc, List.takeWhile_append_dropWhile]

/-- The characters that make a text start like a date are those of a date. -/
theorem startsDate_takeWhile (h : startsDate cs = true) :
    startsDate (cs.takeWhile isDateChar) = true := by
  unfold startsDate at h
  split at h
  · simp only [Bool.and_eq_true, beq_iff_eq] at h
    obtain ⟨⟨⟨⟨⟨ha, hb⟩, hc⟩, hd⟩, rfl⟩, hf⟩ := h
    simp [isDateChar, startsDate, ha, hb, hc, hd, hf]
  · contradiction

theorem spelled_ofWord {w : List Char} (hw : IsName w) (rest : List Char) :
    Spelled (ofWord w rest) w := by
  by_cases hreserved : IsReserved w
  · refine .fixed ?_
    unfold IsReserved at hreserved
    unfold ofWord
    dsimp only
    simp only [reserved, List.mem_cons, List.not_mem_nil, or_false] at hreserved
    obtain h | h | h | h | h | h := hreserved <;> rw [h] <;> simp [fixedSpellings]
  · have hfree := hreserved
    simp only [IsReserved, reserved, List.mem_cons, List.not_mem_nil, or_false, not_or] at hreserved
    obtain ⟨hand, hor, hnot, hlike, hcontains, hin⟩ := hreserved
    unfold ofWord
    dsimp only
    rw [if_neg hand, if_neg hor, if_neg hnot, if_neg hlike, if_neg hcontains, if_neg hin]
    split
    · exact .function hw hfree
    · exact .word hw hfree

theorem took_readSign (h : readSign cs = .ok (l, rest)) : Took cs l rest := by
  have sign (span : List Char) (h : (String.ofList (Text.lowerAscii span), l) ∈ fixedSpellings) :
      Took (span ++ rest) l rest := ⟨span, rfl, .fixed h⟩
  unfold readSign at h
  split at h
  all_goals try contradiction
  all_goals
    injection h with h
    injection h with hl hr
    subst hl hr
  · exact sign ['=', '='] (by decide)
  · exact sign ['!', '='] (by decide)
  · exact sign ['>', '='] (by decide)
  · exact sign ['<', '='] (by decide)
  · exact sign ['&', '&'] (by decide)
  · exact sign ['|', '|'] (by decide)
  · exact sign ['>'] (by decide)
  · exact sign ['<'] (by decide)
  · exact sign ['!'] (by decide)
  · exact sign ['('] (by decide)
  · exact sign [')'] (by decide)
  · exact sign [','] (by decide)

/-- **A token that is read is spelled by the characters it takes**, the first of the text. -/
theorem spelled_of_read {c : Char} (h : read c cs = .ok (l, rest)) : Took (c :: cs) l rest := by
  unfold read at h
  split at h
  · next hc =>
    subst hc
    exact took_readPath h
  split at h
  · next hquote =>
    obtain ⟨p, hp, hl⟩ := exists_of_map_eq_ok h
    injection hl with hl hr
    subst hl hr
    obtain ⟨body, hbody, hescapes⟩ := escapes_of_readString hp
    exact ⟨c :: (body ++ [c]), by rw [hbody]; simp, .string hquote hescapes⟩
  split at h
  · next hc =>
    subst hc
    exact took_readParameter h
  split at h
  · split at h
    · next hstarts =>
      injection h with h
      injection h with hl hr
      subst hl hr
      exact ⟨_, List.takeWhile_append_dropWhile.symm,
        .date (startsDate_takeWhile hstarts) fun c hc => List.mem_takeWhile_imp hc⟩
    · exact took_readNumber (.inl rfl) h
  split at h
  · next hminus =>
    obtain ⟨rfl, -⟩ := hminus
    exact took_readNumber (.inr rfl) h
  split at h
  · next hword =>
    injection h with h
    injection h with hl hr
    subst hl hr
    exact ⟨_, List.takeWhile_append_dropWhile.symm, spelled_ofWord (isName_takeWhile hword) _⟩
  · exact took_readSign h

/-- A number token has a numeral for its text. -/
theorem Spelled.isNumeral {text : String} {cs : List Char} (h : Spelled (.number text) cs) :
    IsNumeral text.toList := by
  cases h with
  | number h => rwa [String.toList_ofList]
  | fixed h => simp [fixedSpellings] at h

/-! ## what is left over where reading fails -/

variable {f : Fault}

theorem suffix_of_segmentFault? {after : List Char} {ss : List (List Char)}
    (h : segmentFault? after ss = some f) : f.rest <:+ Text.joinWith ['/'] ss ++ after := by
  induction ss with
  | nil => contradiction
  | cons s ss ih =>
      unfold segmentFault? at h
      dsimp only at h
      split at h
      · injection h with h
        subst h
        cases ss <;> simp [Text.joinWith]
      split at h
      · refine (ih h).trans ?_
        cases ss with
        | nil => contradiction
        | cons t ts => exact ⟨s ++ ['/'], by simp [Text.joinWith]⟩
      · injection h with h
        subst h
        obtain ⟨start, hstart⟩ :=
          List.dropWhile_suffix (l := s) fun c => c != '[' && !CharClass.isControl c
        refine ⟨start, ?_⟩
        dsimp only
        rw [← List.append_assoc, hstart]
        cases ss <;> simp [Text.joinWith]

theorem suffix_of_readPath_error (h : readPath cs = .error f) : f.rest <:+ cs := by
  unfold readPath at h
  split at h
  · injection h with h
    subst h
    exact List.nil_suffix
  · next close r hclose =>
    dsimp only at h
    split at h
    · next f' hfault =>
      injection h with h
      subst h
      have hsuffix := suffix_of_segmentFault? hfault
      rwa [Text.joinWith_splitAt, ← hclose, List.takeWhile_append_dropWhile] at hsuffix
    · contradiction

theorem suffix_of_readString_error {quote : Char} (h : readString quote cs = .error f) :
    f.rest <:+ cs := by
  fun_induction readString quote cs with
  | case2 => contradiction
  | case4 a b c d rest x hx hquote ih =>
    exact (ih (error_of_map_eq_error h)).trans ⟨['\\', 'u', a, b, c, d], rfl⟩
  | case7 e r he x hx hquote ih =>
    exact (ih (error_of_map_eq_error h)).trans ⟨['\\', e], rfl⟩
  | case9 c cs hquote hslash ih =>
    exact (ih (error_of_map_eq_error h)).trans (List.suffix_cons c cs)
  | case1 =>
    injection h with h
    subst h
    exact List.suffix_refl _
  | case3 =>
    injection h with h
    subst h
    exact List.nil_suffix
  | case5 a b c d rest hx hquote =>
    injection h with h
    subst h
    exact ⟨['\\', 'u'], rfl⟩
  | case6 r hr hquote =>
    injection h with h
    subst h
    exact ⟨['\\', 'u'], rfl⟩
  | case8 e r he hx hquote =>
    injection h with h
    subst h
    exact ⟨['\\'], rfl⟩

theorem suffix_of_readParameter_error (h : readParameter cs = .error f) : f.rest <:+ cs := by
  unfold readParameter at h
  split at h
  · injection h with h
    subst h
    exact List.suffix_refl _
  · split at h
    · contradiction
    · injection h with h
      subst h
      exact List.suffix_refl _

theorem suffix_of_readFraction_error (h : readFraction cs = .error f) : f.rest <:+ cs := by
  unfold readFraction at h
  split at h
  · dsimp only [digitRun] at h
    split at h
    · injection h with h
      subst h
      exact (List.dropWhile_suffix _).trans (List.suffix_cons _ _)
    · contradiction
  · contradiction

theorem suffix_of_readNumber_error {sign : List Char} (h : readNumber sign cs = .error f) :
    f.rest <:+ cs := by
  unfold readNumber at h
  dsimp only [digitRun] at h
  split at h
  · injection h with h
    subst h
    exact List.dropWhile_suffix _
  · exact (suffix_of_readFraction_error (error_of_map_eq_error h)).trans (List.dropWhile_suffix _)

theorem suffix_of_readSign_error (h : readSign cs = .error f) : f.rest <:+ cs := by
  unfold readSign at h
  split at h
  all_goals try contradiction
  injection h with h
  subst h
  exact List.suffix_refl _

/-- **Where no token can be read, the characters left over are an end of the text.** -/
theorem suffix_of_read_error {c : Char} (h : read c cs = .error f) : f.rest <:+ c :: cs := by
  have later (h : f.rest <:+ cs) : f.rest <:+ c :: cs := h.trans (List.suffix_cons c cs)
  unfold read at h
  split at h
  · exact later (suffix_of_readPath_error h)
  split at h
  · exact later (suffix_of_readString_error (error_of_map_eq_error h))
  split at h
  · exact later (suffix_of_readParameter_error h)
  split at h
  · split at h
    · contradiction
    · exact suffix_of_readNumber_error h
  split at h
  · exact later (suffix_of_readNumber_error h)
  split at h
  · contradiction
  · exact suffix_of_readSign_error h

end Lexeme

/-! ## whole texts -/

namespace Token

variable {total : Nat} {cs : List Char} {ts : List Token}

/-- Every token of a text is spelled somehow. -/
theorem spelled_of_readAll (h : readAll total cs = .ok ts) :
    ∀ t ∈ ts, ∃ span, Lexeme.Spelled t.lexeme span := by
  fun_induction readAll total cs generalizing ts with
  | case1 =>
    injection h with h
    subst h
    simp
  | case2 => contradiction
  | case3 cs c r hs l rest hr ih =>
    obtain ⟨more, hmore, rfl⟩ := Lexeme.exists_of_map_eq_ok h
    obtain ⟨span, -, hspelled⟩ := Lexeme.spelled_of_read hr
    exact List.forall_mem_cons.mpr ⟨⟨span, hspelled⟩, ih hmore⟩

/-- Every number token of a text denotes a number. -/
theorem number?_isSome_of_readAll (h : readAll total cs = .ok ts) {t : Token} (ht : t ∈ ts)
    {text : String} (hl : t.lexeme = .number text) :
    (Grammar.number? text.toList).isSome = true := by
  obtain ⟨span, hspelled⟩ := spelled_of_readAll h t ht
  rw [hl] at hspelled
  exact Lexeme.number?_isSome hspelled.isNumeral

end Token

end TreeSift
