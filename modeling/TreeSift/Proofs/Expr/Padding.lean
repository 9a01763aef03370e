import TreeSift.Proofs.Expr.Local
import TreeSift.Proofs.Expr.StringToken

/-!
# TreeSift.Proofs.Expr.Padding

A token is read as it was when blanks are put in after it.

1. `Padded rest rest'` says that `rest'` is `rest` with blanks put in at one place.  What stands at
   the start of `rest'` and has no blank in it stands at the start of `rest` too
   (`Padded.eq_append`).  So a run of characters ends where it ended, no exponent and no longer sign
   comes about, and no number starts to look like a date.
2. A reader `Stays` at a text if it takes the same characters for the same result, in whatever way
   what comes after them is padded.  Every reader stays, and so does the reader of tokens
   (`stays_read`): also a word before a parenthesis, which names a function over blanks as well.
-/

namespace TreeSift

namespace Lexeme

variable {cs rest rest' : List Char} {l : Lexeme}

/-! ## blanks put in -/

/-- The second text is the first with blanks put in at one place. -/
inductive Padded : List Char → List Char → Prop where
  | here {gap rest : List Char} (blank : ∀ c ∈ gap, isGap c = true) : Padded rest (gap ++ rest)
  | there {c : Char} {rest rest' : List Char} (h : Padded rest rest') :
    Padded (c :: rest) (c :: rest')

/-- Behind a run comes nothing that would go on with it. -/
theorem head?_dropWhile {p : Char → Bool} : ∀ c ∈ (cs.dropWhile p).head?, p c = false := by
  intro _ hc
  have h := List.head?_dropWhile_not p cs
  rwa [Option.mem_def.mp hc] at h

namespace Padded

theorem refl (cs : List Char) : Padded cs cs := @here [] cs (by simp)

theorem append (h : Padded rest rest') (front : List Char) :
    Padded (front ++ rest) (front ++ rest') := by
  induction front with
  | nil => exact h
  | cons c front ih => exact .there ih

/-- A character that is not a blank was there. -/
theorem eq_cons {c : Char} {r' : List Char} (h : Padded rest (c :: r')) (hc : isGap c = false) :
    ∃ r, rest = c :: r ∧ Padded r r' := by
  generalize htext : c :: r' = text at h
  cases h with
  | @here gap _ blank =>
      cases gap with
      | nil => exact ⟨r', htext.symm, refl r'⟩
      | cons g gap =>
          injection htext with hg
          have hblank : isGap c = true := hg ▸ blank g List.mem_cons_self
          rw [hblank] at hc
          contradiction
  | there h =>
      injection htext with hc hr
      exact ⟨_, by rw [hc], hr ▸ h⟩

/-- A start without blanks was there. -/
theorem eq_append {start r' : List Char} (h : Padded rest (start ++ r'))
    (hs : ∀ c ∈ start, isGap c = false) : ∃ r, rest = start ++ r := by
  induction start generalizing rest with
  | nil => exact ⟨rest, rfl⟩
  | cons c start ih =>
      obtain ⟨hc, hs⟩ := List.forall_mem_cons.mp hs
      obtain ⟨r, rfl, hr⟩ := h.eq_cons hc
      obtain ⟨s, rfl⟩ := ih hr hs
      exact ⟨s, rfl⟩

/-- A class without blanks ends where it ended. -/
theorem ends {p : Char → Bool} (h : Padded rest rest')
    (hp : p ' ' = false ∧ p '\t' = false ∧ p '\n' = false ∧ p '\r' = false)
    (hr : ∀ c ∈ rest.head?, p c = false) : ∀ c ∈ rest'.head?, p c = false := by
  cases rest' with
  | nil => simp
  | cons c r' =>
      intro d hd
      refine Bool.eq_false_iff.mpr fun hpd => ?_
      obtain rfl := Option.some.inj hd
      obtain ⟨r, rfl, -⟩ := h.eq_cons (isGap_eq_false_of_class hpd hp)
      exact absurd hpd (Bool.eq_false_iff.mp (hr c rfl))

/-- A run of a class without blanks is what it was. -/
theorem takeWhile {p : Char → Bool} (h : Padded (cs.dropWhile p) rest')
    (hp : p ' ' = false ∧ p '\t' = false ∧ p '\n' = false ∧ p '\r' = false) :
    (cs.takeWhile p ++ rest').takeWhile p = cs.takeWhile p ∧
      (cs.takeWhile p ++ rest').dropWhile p = rest' :=
  takeWhile_run (fun _ hc => List.mem_takeWhile_imp hc) (h.ends hp head?_dropWhile)

theorem isBlank_of_isGap {c : Char} (h : isGap c = true) : CharClass.isBlank c = true := by
  simp only [isGap, Bool.or_eq_true, beq_iff_eq] at h
  obtain ((rfl | rfl) | rfl) | rfl := h <;> rfl

/-- Behind the blanks comes the character that came there. -/
theorem head?_trimStart (h : Padded rest rest') :
    (Text.trimStart rest').head? = (Text.trimStart rest).head? := by
  induction h with
  | here blank =>
      have hblank := fun c hc => isBlank_of_isGap (blank c hc)
      rw [Text.trimStart, List.dropWhile_append_of_pos hblank, Text.trimStart]
  | @there c rest rest' _ ih =>
      unfold Text.trimStart at ih ⊢
      by_cases hc : CharClass.isBlank c = true
      · simpa [hc] using ih
      · simp [hc]

end Padded

/-! ## readers -/

/-- The reader takes the characters before `rest`, and takes them again when blanks are put in
somewhere after them. -/
def Stays {α : Type} (read : List Char → Except Fault (α × List Char)) (cs : List Char) (a : α)
    (rest : List Char) : Prop :=
  ∃ span, cs = span ++ rest ∧ ∀ rest', Padded rest rest' → read (span ++ rest') = .ok (a, rest')

namespace Stays

variable {α β : Type} {read read' : List Char → Except Fault (α × List Char)} {a : α}

theorem map (g : α → β) (h : Stays read cs a rest) :
    Stays (fun cs => (read cs).map fun p => (g p.1, p.2)) cs (g a) rest := by
  obtain ⟨span, hspan, hread⟩ := h
  refine ⟨span, hspan, fun rest' hpadded => ?_⟩
  dsimp only
  rw [hread rest' hpadded]
  rfl

/-- A reader that takes the first character stays behind it. -/
theorem behind {c : Char} (h : Stays read (c :: cs) a rest)
    (hlt : rest.length < (c :: cs).length) : Stays (fun cs => read (c :: cs)) cs a rest := by
  obtain ⟨span, hspan, hread⟩ := h
  cases span with
  | nil =>
      rw [hspan] at hlt
      exact absurd hlt (Nat.lt_irrefl _)
  | cons d span =>
      injection hspan with hd hspan
      subst hd
      exact ⟨span, hspan, hread⟩

/-- A reader stays where it takes, on all paddings, what one that stays takes. -/
theorem mono (h : Stays read cs a rest)
    (hmono : ∀ cs' rest', Padded cs cs' → read cs' = .ok (a, rest') → read' cs' = .ok (a, rest')) :
    Stays read' cs a rest := by
  obtain ⟨span, rfl, hread⟩ := h
  exact ⟨span, rfl, fun rest' hpadded => hmono _ _ (hpadded.append span) (hread rest' hpadded)⟩

end Stays

/-- A path ends at its bracket. -/
theorem stays_readPath (h : readPath cs = .ok (l, rest)) : Stays readPath cs l rest := by
  unfold readPath at h
  split at h
  · contradiction
  · next close r hclose =>
    dsimp only at h
    split at h
    · contradiction
    · next hfault =>
      injection h with h
      injection h with hl hr
      subst hl hr
      have hend : (close != ']') = false :=
        eq_false_of_dropWhile_eq_cons (p := (· != ']')) hclose
      refine ⟨cs.takeWhile (· != ']') ++ [close], ?_, fun rest' _ => ?_⟩
      · rw [List.append_assoc, List.singleton_append, ← hclose, List.takeWhile_append_dropWhile]
      · have hinner : ∀ c ∈ cs.takeWhile (· != ']'), (c != ']') = true :=
          List.all_eq_true.mp List.all_takeWhile
        have hstop : ∀ c ∈ (close :: rest').head?, (c != ']') = false := by simpa using hend
        obtain ⟨htake, hdrop⟩ := takeWhile_run hinner hstop
        unfold readPath
        simp only [List.append_assoc, List.singleton_append, htake, hdrop,
          segmentFault?_eq_none_of _ hfault]

/-- A text is read up to the quote that closes it. -/
theorem readString_of_escapes {quote : Char} (hquote : quote = '\'' ∨ quote = '"')
    {body content : List Char} (h : Escapes quote body content) (rest : List Char) :
    readString quote (body ++ quote :: rest) = .ok (content, rest) := by
  rw [readString_written (ne_slash_of_quote hquote) (written_of_escapes h), readString_quote]
  simp [Except.map]

theorem stays_readString {quote : Char} (hquote : quote = '\'' ∨ quote = '"')
    {content : List Char} (h : readString quote cs = .ok (content, rest)) :
    Stays (readString quote) cs content rest := by
  obtain ⟨body, hbody, hescapes⟩ := escapes_of_readString h
  refine ⟨body ++ [quote], by simpa using hbody, fun rest' _ => ?_⟩
  rw [List.append_assoc, List.singleton_append, readString_of_escapes hquote hescapes]

theorem stays_readParameter (h : readParameter cs = .ok (l, rest)) :
    Stays readParameter cs l rest := by
  unfold readParameter at h
  split at h
  · contradiction
  · next c r =>
    split at h
    · next hc =>
      injection h with h
      injection h with hl hr
      subst hl hr
      refine ⟨_, List.takeWhile_append_dropWhile.symm, fun rest' hpadded => ?_⟩
      obtain ⟨htake, hdrop⟩ := hpadded.takeWhile (p := isWordChar) ⟨rfl, rfl, rfl, rfl⟩
      obtain ⟨c', s, hs, hc'⟩ := (isName_takeWhile (r := r) hc).first
      rw [hs, List.cons_append] at htake hdrop ⊢
      unfold readParameter
      dsimp only
      rw [if_pos hc', htake, hdrop]
    · contradiction

/-! ## numbers -/

theorem digitRun_of_padded (h : Padded (digitRun cs).2 rest') :
    digitRun ((digitRun cs).1 ++ rest') = ((digitRun cs).1, rest') := by
  obtain ⟨htake, hdrop⟩ := Padded.takeWhile (p := Char.isDigit) h ⟨rfl, rfl, rfl, rfl⟩
  unfold digitRun
  rw [htake, hdrop]

theorem digitRun_of_head? (h : ∀ c ∈ cs.head?, c.isDigit = false) : digitRun cs = ([], cs) := by
  cases cs with
  | nil => rfl
  | cons c cs => simp [digitRun, h c rfl]

theorem stays_readFraction {fraction : List Char} (h : readFraction cs = .ok (fraction, rest)) :
    Stays readFraction cs fraction rest := by
  refine ⟨fraction, (append_readFraction h).symm, fun rest' hpadded => ?_⟩
  unfold readFraction at h
  split at h
  · next r =>
    dsimp only at h
    split at h
    · contradiction
    · next hne =>
      injection h with h
      injection h with hf hr
      subst hf hr
      simp only [List.cons_append, readFraction, digitRun_of_padded hpadded, if_neg hne]
  · next hpoint =>
    injection h with h
    injection h with hf hr
    subst hf hr
    unfold readFraction
    split
    · next r' hr' =>
      rw [List.nil_append] at hr'
      subst hr'
      obtain ⟨r, hr, -⟩ := hpadded.eq_cons rfl
      exact (hpoint r hr).elim
    · rfl

theorem isGap_eq_false_of_isExponent {exponent : List Char} (h : IsExponent exponent) :
    ∀ c ∈ exponent, isGap c = false := by
  obtain rfl | ⟨e, sign, ds, he, hsign, ⟨-, hd⟩, rfl⟩ := h
  · simp
  · have hdigits : ∀ c ∈ ds, isGap c = false := fun c hc =>
      isGap_eq_false_of_class (hd c hc) ⟨rfl, rfl, rfl, rfl⟩
    have hletter : isGap e = false := by obtain rfl | rfl := he <;> rfl
    have hmark : ∀ c ∈ sign, isGap c = false := by
      obtain rfl | rfl | rfl := hsign <;> simp [isGap]
    exact List.forall_mem_cons.mpr ⟨hletter, List.forall_mem_append.mpr ⟨hmark, hdigits⟩⟩

/-- An exponent goes on over the digits after it. -/
theorem readExponent_append_digits {exponent : List Char} (h : IsExponent exponent)
    (hne : exponent ≠ []) (rest : List Char) :
    readExponent (exponent ++ rest) = (exponent ++ (digitRun rest).1, (digitRun rest).2) := by
  obtain rfl | ⟨e, sign, ds, he, hsign, ⟨hds, hd⟩, rfl⟩ := h
  · contradiction
  · have hmark : readSignMark (sign ++ (ds ++ rest)) = (sign, ds ++ rest) := by
      obtain ⟨d, ds, rfl⟩ := List.exists_cons_of_ne_nil hds
      have hdigit : d.isDigit = true := hd d List.mem_cons_self
      have hplus : d ≠ '+' := ne_of_isDigit hdigit rfl
      have hminus : d ≠ '-' := ne_of_isDigit hdigit rfl
      obtain rfl | rfl | rfl := hsign <;> simp [readSignMark, hplus, hminus]
    have hrun : digitRun (ds ++ rest) = (ds ++ (digitRun rest).1, (digitRun rest).2) := by
      unfold digitRun
      rw [List.takeWhile_append_of_pos hd, List.dropWhile_append_of_pos hd]
    simp [readExponent, hmark, hrun, he, hds]

/-- Behind an exponent comes no digit. -/
theorem head?_readExponent (hne : (readExponent cs).1 ≠ []) :
    ∀ c ∈ (readExponent cs).2.head?, c.isDigit = false := by
  unfold readExponent at hne ⊢
  split
  · simp
  · dsimp only [digitRun] at hne ⊢
    split
    · exact head?_dropWhile
    · next hno =>
      rw [if_neg hno] at hne
      contradiction

theorem readExponent_of_padded (h : Padded (readExponent cs).2 rest') :
    readExponent ((readExponent cs).1 ++ rest') = ((readExponent cs).1, rest') := by
  by_cases hnil : (readExponent cs).1 = []
  · have hcs : (readExponent cs).2 = cs := by simpa [hnil] using append_readExponent cs
    rw [hcs, ← append_readExponent rest'] at h
    have hexponent := isExponent_readExponent rest'
    -- an exponent after the blanks were put in would have been one before
    have hnone : (readExponent rest').1 = [] := by
      by_contra hne
      obtain ⟨r, hr⟩ := h.eq_append (isGap_eq_false_of_isExponent hexponent)
      rw [hr, readExponent_append_digits hexponent hne] at hnil
      exact hne (List.append_eq_nil_iff.mp hnil).1
    have hrest := append_readExponent rest'
    rw [hnone, List.nil_append] at hrest
    rw [hnil, List.nil_append]
    exact Prod.ext hnone hrest
  · have hend := h.ends (p := Char.isDigit) ⟨rfl, rfl, rfl, rfl⟩ (head?_readExponent hnil)
    rw [readExponent_append_digits (isExponent_readExponent cs) hnil, digitRun_of_head? hend,
      List.append_nil]

/-- What is read as a number after its sign starts with a digit. -/
theorem startsDigit_of_readNumber {sign : List Char} {p : Lexeme × List Char}
    (h : readNumber sign cs = .ok p) : startsDigit cs = true := by
  cases cs with
  | nil => contradiction
  | cons c cs =>
      by_contra hc
      have hdigit : c.isDigit = false := Bool.eq_false_iff.mpr hc
      simp [readNumber, digitRun, hdigit] at h

theorem stays_readNumber {sign : List Char} (h : readNumber sign cs = .ok (l, rest)) :
    Stays (readNumber sign) cs l rest := by
  unfold readNumber at h
  dsimp only at h
  split at h
  · contradiction
  · next hne =>
    obtain ⟨⟨fraction, r⟩, hq, hp⟩ := exists_of_map_eq_ok h
    injection hp with hl hr
    subst hl hr
    obtain ⟨span, hspan, hfraction⟩ := stays_readFraction hq
    have hcs : cs = (digitRun cs).1 ++ (digitRun cs).2 := List.takeWhile_append_dropWhile.symm
    refine ⟨(digitRun cs).1 ++ (span ++ (readExponent r).1), ?_, fun rest' hpadded => ?_⟩
    · rw [List.append_assoc, List.append_assoc, append_readExponent, ← hspan, ← hcs]
    · -- each part ends where it ended, since all that comes after it is padded
      have hexponent := readExponent_of_padded hpadded
      have hafter : Padded r ((readExponent r).1 ++ rest') := by
        simpa [append_readExponent] using hpadded.append (readExponent r).1
      have hrun : Padded (digitRun cs).2 (span ++ ((readExponent r).1 ++ rest')) :=
        hspan ▸ hafter.append span
      unfold readNumber
      simp only [List.append_assoc, digitRun_of_padded hrun, if_neg hne, hfraction _ hafter,
        Except.map, hexponent]

/-! ## dates, words and signs -/

/-- No number starts to look like a date. -/
theorem startsDate_of_padded {cs' : List Char} (h : Padded cs cs') (hdate : startsDate cs' = true) :
    startsDate cs = true := by
  unfold startsDate at hdate
  split at hdate
  · next a b c d e f r =>
    simp only [Bool.and_eq_true, beq_iff_eq] at hdate
    obtain ⟨⟨⟨⟨⟨ha, hb⟩, hc⟩, hd⟩, rfl⟩, hf⟩ := hdate
    have hdigit {c : Char} (hc : c.isDigit = true) : isGap c = false :=
      isGap_eq_false_of_class hc ⟨rfl, rfl, rfl, rfl⟩
    have hdash : isGap '-' = false := rfl
    have hstart : ∀ x ∈ [a, b, c, d, '-', f], isGap x = false := by
      simp [hdigit ha, hdigit hb, hdigit hc, hdigit hd, hdash, hdigit hf]
    obtain ⟨r', rfl⟩ := Padded.eq_append h hstart
    simp [startsDate, ha, hb, hc, hd, hf]
  · contradiction

/-- What starts like a date does so within the run of a date's characters. -/
theorem startsDate_takeWhile_append (h : startsDate cs = true) (rest' : List Char) :
    startsDate (cs.takeWhile isDateChar ++ rest') = true := by
  have hstarts := startsDate_takeWhile h
  unfold startsDate at hstarts
  split at hstarts
  · next heq =>
    rw [heq]
    simpa [startsDate] using hstarts
  · contradiction

/-- A date, or a number without a sign. -/
def readDigits (cs : List Char) : Reading :=
  if startsDate cs then
    .ok (.date (String.ofList (cs.takeWhile isDateChar)), cs.dropWhile isDateChar)
  else readNumber [] cs

theorem stays_readDigits (h : readDigits cs = .ok (l, rest)) : Stays readDigits cs l rest := by
  unfold readDigits at h
  split at h
  · next hdate =>
    injection h with h
    injection h with hl hr
    subst hl hr
    refine ⟨_, List.takeWhile_append_dropWhile.symm, fun rest' hpadded => ?_⟩
    obtain ⟨htake, hdrop⟩ := hpadded.takeWhile (p := isDateChar) ⟨rfl, rfl, rfl, rfl⟩
    rw [readDigits, if_pos (startsDate_takeWhile_append hdate rest'), htake, hdrop]
  · next hdate =>
    refine (stays_readNumber h).mono fun cs' rest' hpadded hread => ?_
    rwa [readDigits, if_neg fun hdate' => hdate (startsDate_of_padded hpadded hdate')]

theorem ofWord_of_padded (h : Padded rest rest') (word : List Char) :
    ofWord word rest' = ofWord word rest := by
  simp only [ofWord, h.head?_trimStart]

/-- A word, and what it is before the text after it. -/
def readWord (cs : List Char) : Reading :=
  .ok (ofWord (cs.takeWhile isWordChar) (cs.dropWhile isWordChar), cs.dropWhile isWordChar)

theorem stays_readWord (h : readWord cs = .ok (l, rest)) : Stays readWord cs l rest := by
  unfold readWord at h
  injection h with h
  injection h with hl hr
  subst hl hr
  refine ⟨_, List.takeWhile_append_dropWhile.symm, fun rest' hpadded => ?_⟩
  obtain ⟨htake, hdrop⟩ := hpadded.takeWhile (p := isWordChar) ⟨rfl, rfl, rfl, rfl⟩
  rw [readWord, htake, hdrop, ofWord_of_padded hpadded]

/-- A sign with nothing but `=` to go on with is read as it was. -/
theorem stays_readSign (h : readSign cs = .ok (l, rest)) : Stays readSign cs l rest := by
  have alone {rest rest' : List Char} (hr : ∀ s, rest = '=' :: s → False)
      (hpadded : Padded rest rest') : ∀ s, rest' = '=' :: s → False := by
    rintro s rfl
    obtain ⟨r, rfl, -⟩ := hpadded.eq_cons rfl
    exact hr r rfl
  unfold readSign at h
  split at h
  all_goals try contradiction
  all_goals
    injection h with h
    injection h with hl hr
    subst hl hr
  case h_1 => exact ⟨['=', '='], rfl, fun _ _ => rfl⟩
  case h_2 => exact ⟨['!', '='], rfl, fun _ _ => rfl⟩
  case h_3 => exact ⟨['>', '='], rfl, fun _ _ => rfl⟩
  case h_4 => exact ⟨['<', '='], rfl, fun _ _ => rfl⟩
  case h_5 => exact ⟨['&', '&'], rfl, fun _ _ => rfl⟩
  case h_6 => exact ⟨['|', '|'], rfl, fun _ _ => rfl⟩
  case h_7 hr =>
    refine ⟨['>'], rfl, fun rest' hpadded => ?_⟩
    rw [List.singleton_append, readSign]
    exact alone hr hpadded
  case h_8 hr =>
    refine ⟨['<'], rfl, fun rest' hpadded => ?_⟩
    rw [List.singleton_append, readSign]
    exact alone hr hpadded
  case h_9 hr =>
    refine ⟨['!'], rfl, fun rest' hpadded => ?_⟩
    rw [List.singleton_append, readSign]
    exact alone hr hpadded
  case h_10 => exact ⟨['('], rfl, fun _ _ => rfl⟩
  case h_11 => exact ⟨[')'], rfl, fun _ _ => rfl⟩
  case h_12 => exact ⟨[','], rfl, fun _ _ => rfl⟩

/-! ## tokens -/

/-- What is neither a path, a text nor a parameter, by its first character. -/
theorem read_of_plain {c : Char} (hpath : c ≠ '[') (hquote : ¬(c = '\'' ∨ c = '"'))
    (hdollar : c ≠ '$') (cs : List Char) :
    read c cs =
      if c.isDigit then readDigits (c :: cs)
      else if c = '-' ∧ startsDigit cs then readNumber ['-'] cs
      else if isWordStart c then readWord (c :: cs)
      else readSign (c :: cs) := by
  rw [read, if_neg hpath, if_neg hquote, if_neg hdollar]
  rfl

/-- **A token stays what it is when blanks are put in after it.** -/
theorem stays_read {c : Char} (h : read c cs = .ok (l, rest)) : Stays (read c) cs l rest := by
  have hlt : rest.length < (c :: cs).length := Nat.lt_succ_of_le (length_read h)
  by_cases hpath : c = '['
  · subst hpath
    exact (stays_readPath h).mono fun _ _ _ hread => hread
  by_cases hquote : c = '\'' ∨ c = '"'
  · rw [read_quote hquote] at h
    obtain ⟨p, hp, hl⟩ := exists_of_map_eq_ok h
    injection hl with hl hr
    subst hl hr
    have hstays := (stays_readString hquote hp).map fun content => string (String.ofList content)
    exact hstays.mono fun cs' _ _ hread => (read_quote hquote cs').trans hread
  by_cases hdollar : c = '$'
  · subst hdollar
    exact (stays_readParameter h).mono fun _ _ _ hread => hread
  have hread := read_of_plain hpath hquote hdollar
  rw [hread] at h
  by_cases hc : c.isDigit = true
  · rw [if_pos hc] at h
    refine ((stays_readDigits h).behind hlt).mono fun cs' _ _ h' => ?_
    rwa [hread, if_pos hc]
  rw [if_neg hc] at h
  by_cases hminus : c = '-' ∧ startsDigit cs = true
  · rw [if_pos hminus] at h
    refine (stays_readNumber h).mono fun cs' _ _ h' => ?_
    rwa [hread, if_neg hc, if_pos ⟨hminus.1, startsDigit_of_readNumber h'⟩]
  rw [if_neg hminus] at h
  by_cases hword : isWordStart c = true
  · have hdash : c ≠ '-' := ne_of_isWordStart hword rfl
    rw [if_pos hword] at h
    refine ((stays_readWord h).behind hlt).mono fun cs' _ _ h' => ?_
    rwa [hread, if_neg hc, if_neg fun h => hdash h.1, if_pos hword]
  · rw [if_neg hword] at h
    have hdash : c ≠ '-' := by
      rintro rfl
      contradiction
    refine ((stays_readSign h).behind hlt).mono fun cs' _ _ h' => ?_
    rwa [hread, if_neg hc, if_neg fun h => hdash h.1, if_neg hword]

end Lexeme

end TreeSift
