import TreeSift.Proofs.Expr.Lexing

/-!
# TreeSift.Proofs.Expr.Local

Reading a text does not depend on what delimits it.

1. Every reader that has found its token finds it again when more text comes after what was left of
   it, provided that this text `Delimits`: it goes on with no token, and makes no word before it the
   name of a function (`read_append`).
2. So the tokens of a text are also the first tokens of every longer text in which it is delimited
   (`writes_of_readAll`).
-/

namespace TreeSift

namespace Lexeme

variable {cs rest ext : List Char} {l : Lexeme}

/-! ## runs -/

theorem eq_false_of_dropWhile_eq_cons {p : Char → Bool} {c : Char} {r : List Char}
    (h : cs.dropWhile p = c :: r) : p c = false := by
  have hc := List.head?_dropWhile_not p cs
  rw [h] at hc
  simpa using hc

/-- A run ends where it ended, unless it took everything and goes on. -/
theorem takeWhile_append {p : Char → Bool}
    (h : cs.dropWhile p ≠ [] ∨ ∀ c ∈ ext.head?, p c = false) :
    (cs ++ ext).takeWhile p = cs.takeWhile p ∧ (cs ++ ext).dropWhile p = cs.dropWhile p ++ ext := by
  have htaken : ∀ c ∈ cs.takeWhile p, p c = true := List.all_eq_true.mp List.all_takeWhile
  have hends : ∀ c ∈ (cs.dropWhile p ++ ext).head?, p c = false := by
    cases hd : cs.dropWhile p with
    | nil => exact h.resolve_left (not_not.mpr hd)
    | cons c r => simpa using eq_false_of_dropWhile_eq_cons hd
  have hrun := takeWhile_run htaken hends
  rwa [← List.append_assoc, List.takeWhile_append_dropWhile] at hrun

theorem Delimits.eq_nil_or_cons (h : Delimits ext) :
    ext = [] ∨ ∃ c r, ext = c :: r ∧ (c = ' ' ∨ c = ',' ∨ c = ')') := by
  cases ext with
  | nil => exact .inl rfl
  | cons c r => exact .inr ⟨c, r, rfl, h.head c rfl⟩

/-- A character that does not delimit is one of the text. -/
theorem Delimits.eq_cons_of_append (h : Delimits ext) {c : Char} {r : List Char}
    (happend : cs ++ ext = c :: r) (hc : c ≠ ' ' ∧ c ≠ ',' ∧ c ≠ ')') :
    ∃ s, cs = c :: s ∧ s ++ ext = r := by
  cases cs with
  | nil =>
      obtain rfl | rfl | rfl := h.head c (by rw [← List.nil_append ext, happend]; rfl) <;> simp at hc
  | cons d s =>
      injection happend with hd hs
      exact ⟨s, by rw [hd], hs⟩

theorem Delimits.takeWhile_append {p : Char → Bool} (hext : Delimits ext)
    (hp : p ' ' = false ∧ p ',' = false ∧ p ')' = false) (cs : List Char) :
    (cs ++ ext).takeWhile p = cs.takeWhile p ∧ (cs ++ ext).dropWhile p = cs.dropWhile p ++ ext :=
  Lexeme.takeWhile_append (.inr (hext.ends hp))

theorem Delimits.digitRun_append (hext : Delimits ext) (cs : List Char) :
    digitRun (cs ++ ext) = ((digitRun cs).1, (digitRun cs).2 ++ ext) := by
  obtain ⟨htake, hdrop⟩ := hext.takeWhile_append (p := Char.isDigit) ⟨rfl, rfl, rfl⟩ cs
  rw [digitRun, htake, hdrop, digitRun]

/-! ## paths and texts -/

/-- Whether the segments have a fault does not depend on what comes after them. -/
theorem segmentFault?_eq_none_of {after : List Char} (after' : List Char) {ss : List (List Char)}
    (h : segmentFault? after ss = none) : segmentFault? after' ss = none := by
  induction ss with
  | nil => rfl
  | cons s ss ih =>
      unfold segmentFault? at h
      dsimp only at h
      split at h
      · contradiction
      · next htrim =>
        split at h
        · next hplain =>
          unfold segmentFault?
          dsimp only
          rw [if_neg htrim, hplain]
          exact ih h
        · contradiction

theorem readPath_append (h : readPath cs = .ok (l, rest)) :
    readPath (cs ++ ext) = .ok (l, rest ++ ext) := by
  unfold readPath at h
  split at h
  · contradiction
  · next close r hclose =>
    have hends : cs.dropWhile (· != ']') ≠ [] ∨ ∀ c ∈ ext.head?, (c != ']') = false :=
      .inl (by simp [hclose])
    obtain ⟨htake, hdrop⟩ := takeWhile_append hends
    dsimp only at h
    split at h
    · contradiction
    · next hfault =>
      injection h with h
      injection h with hl hr
      subst hl hr
      unfold readPath
      simp only [hdrop, htake, hclose, List.cons_append, segmentFault?_eq_none_of _ hfault]

theorem readString_append {quote : Char} {p : List Char × List Char}
    (h : readString quote cs = .ok p) :
    readString quote (cs ++ ext) = .ok (p.1, p.2 ++ ext) := by
  have prepended {c : Char} {r r' : Except Fault (List Char × List Char)}
      {p : List Char × List Char} (ih : ∀ p, r = .ok p → r' = .ok (p.1, p.2 ++ ext))
      (h : prepend c r = .ok p) : prepend c r' = .ok (p.1, p.2 ++ ext) := by
    obtain ⟨q, hq, rfl⟩ := exists_of_map_eq_ok h
    rw [ih q hq]
    rfl
  fun_induction readString quote cs generalizing p with
  | case2 cs =>
    injection h with h
    subst h
    rw [List.cons_append, readString.eq_def]
    simp
  | case4 h₁ h₂ h₃ h₄ rest x hx hquote ih =>
    rw [List.cons_append, readString.eq_def]
    simpa [hquote, hx] using prepended (fun _ => ih) h
  | case7 e r he x hx hquote ih =>
    rw [List.cons_append, readString.eq_def]
    simpa [hquote, he, hx] using prepended (fun _ => ih) h
  | case9 c cs hquote hslash ih =>
    rw [List.cons_append, readString.eq_def]
    simpa [hquote, hslash] using prepended (fun _ => ih) h
  | _ => contradiction

theorem readParameter_append (h : readParameter cs = .ok (l, rest)) (hext : Delimits ext) :
    readParameter (cs ++ ext) = .ok (l, rest ++ ext) := by
  unfold readParameter at h
  split at h
  · contradiction
  · next c r =>
    split at h
    · next hc =>
      obtain ⟨htake, hdrop⟩ := hext.takeWhile_append (p := isWordChar) ⟨rfl, rfl, rfl⟩ (c :: r)
      injection h with h
      injection h with hl hr
      subst hl hr
      rw [List.cons_append] at htake hdrop ⊢
      unfold readParameter
      dsimp only
      rw [if_pos hc, htake, hdrop]
    · contradiction

/-! ## numbers and dates -/

theorem readFraction_append {p : List Char × List Char} (h : readFraction cs = .ok p)
    (hext : Delimits ext) : readFraction (cs ++ ext) = .ok (p.1, p.2 ++ ext) := by
  unfold readFraction at h
  split at h
  · next r =>
    have hrun := hext.digitRun_append r
    dsimp only at h
    split at h
    · contradiction
    · next hne =>
      injection h with h
      subst h
      simp only [List.cons_append, readFraction, hrun, if_neg hne]
  · next hpoint =>
    injection h with h
    subst h
    cases cs with
    | nil =>
        obtain rfl | ⟨c, r, rfl, rfl | rfl | rfl⟩ := hext.eq_nil_or_cons <;> rfl
    | cons c cs =>
        have hc : c ≠ '.' := fun hc => hpoint cs (hc ▸ rfl)
        simp [readFraction, hc]

theorem readSignMark_append (hext : Delimits ext) (cs : List Char) :
    readSignMark (cs ++ ext) = ((readSignMark cs).1, (readSignMark cs).2 ++ ext) := by
  cases cs with
  | nil => obtain rfl | ⟨c, r, rfl, rfl | rfl | rfl⟩ := hext.eq_nil_or_cons <;> rfl
  | cons c cs =>
      by_cases hplus : c = '+'
      · subst hplus
        rfl
      by_cases hminus : c = '-'
      · subst hminus
        rfl
      simp [readSignMark, hplus, hminus]

theorem readExponent_append (hext : Delimits ext) (cs : List Char) :
    readExponent (cs ++ ext) = ((readExponent cs).1, (readExponent cs).2 ++ ext) := by
  cases cs with
  | nil => obtain rfl | ⟨c, r, rfl, rfl | rfl | rfl⟩ := hext.eq_nil_or_cons <;> simp [readExponent]
  | cons e r =>
      simp only [List.cons_append, readExponent, readSignMark_append hext, hext.digitRun_append]
      split <;> rfl

theorem readNumber_append {sign : List Char} (h : readNumber sign cs = .ok (l, rest))
    (hext : Delimits ext) : readNumber sign (cs ++ ext) = .ok (l, rest ++ ext) := by
  unfold readNumber at h
  dsimp only at h
  split at h
  · contradiction
  · next hne =>
    obtain ⟨q, hq, hp⟩ := exists_of_map_eq_ok h
    injection hp with hl hr
    subst hl hr
    unfold readNumber
    simp only [hext.digitRun_append, if_neg hne, readFraction_append hq hext, Except.map,
      readExponent_append hext]

/-- The first six characters decide, and none that delimits is among those of a date. -/
theorem startsDate_append (hext : Delimits ext) (cs : List Char) :
    startsDate (cs ++ ext) = startsDate cs := by
  have apart {c : Char} (hc : c.isDigit = true) : c ≠ ' ' ∧ c ≠ ',' ∧ c ≠ ')' :=
    ⟨ne_of_isDigit hc rfl, ne_of_isDigit hc rfl, ne_of_isDigit hc rfl⟩
  refine Bool.eq_iff_iff.mpr ⟨fun h => ?_, fun h => ?_⟩
  · unfold startsDate at h
    split at h
    · next a b c d e f r heq =>
      simp only [Bool.and_eq_true, beq_iff_eq] at h
      obtain ⟨⟨⟨⟨⟨ha, hb⟩, hc⟩, hd⟩, rfl⟩, hf⟩ := h
      obtain ⟨_, rfl, h₁⟩ := hext.eq_cons_of_append heq (apart ha)
      obtain ⟨_, rfl, h₂⟩ := hext.eq_cons_of_append h₁ (apart hb)
      obtain ⟨_, rfl, h₃⟩ := hext.eq_cons_of_append h₂ (apart hc)
      obtain ⟨_, rfl, h₄⟩ := hext.eq_cons_of_append h₃ (apart hd)
      obtain ⟨_, rfl, h₅⟩ := hext.eq_cons_of_append h₄ (by decide)
      obtain ⟨_, rfl, -⟩ := hext.eq_cons_of_append h₅ (apart hf)
      simp [startsDate, ha, hb, hc, hd, hf]
    · exact absurd h Bool.false_ne_true
  · unfold startsDate at h
    split at h
    · exact h
    · exact absurd h Bool.false_ne_true

theorem startsDigit_append (hext : Delimits ext) (cs : List Char) :
    startsDigit (cs ++ ext) = startsDigit cs := by
  cases cs with
  | nil => obtain rfl | ⟨c, r, rfl, rfl | rfl | rfl⟩ := hext.eq_nil_or_cons <;> rfl
  | cons c cs => rfl

/-! ## words and signs -/

/-- A word is what it was, since no parenthesis opens after the text. -/
theorem ofWord_append (hext : Delimits ext) (word cs : List Char) :
    ofWord word (cs ++ ext) = ofWord word cs := by
  have hopen : (Text.trimStart (cs ++ ext)).head? = some '(' ↔
      (Text.trimStart cs).head? = some '(' := by
    unfold Text.trimStart
    rw [List.dropWhile_append]
    split
    · next hnil =>
      rw [List.isEmpty_iff.mp hnil]
      simpa [Text.trimStart] using hext.closed
    · next hne => rw [List.head?_append_of_ne_nil _ (by simpa using hne)]
  simp only [ofWord, hopen]

/-- A sign with nothing but `=` to go on with is read as it was. -/
theorem readSign_append (h : readSign cs = .ok (l, rest)) (hext : Delimits ext) :
    readSign (cs ++ ext) = .ok (l, rest ++ ext) := by
  have alone {r : List Char} (hr : ∀ s, r = '=' :: s → False) : ∀ s, r ++ ext = '=' :: s → False :=
    fun s hs => by
      obtain ⟨s', hs', -⟩ := hext.eq_cons_of_append hs (by decide)
      exact hr s' hs'
  unfold readSign at h
  split at h
  all_goals try contradiction
  all_goals
    injection h with h
    injection h with hl hr
    subst hl hr
  case h_7 hr => rw [List.cons_append, readSign]; exact alone hr
  case h_8 hr => rw [List.cons_append, readSign]; exact alone hr
  case h_9 hr => rw [List.cons_append, readSign]; exact alone hr
  all_goals rfl

/-! ## tokens -/

/-- A token is read as it was. -/
theorem read_append {c : Char} (h : read c cs = .ok (l, rest)) (hext : Delimits ext) :
    read c (cs ++ ext) = .ok (l, rest ++ ext) := by
  have hdate := startsDate_append hext (c :: cs)
  have hdigit := startsDigit_append hext cs
  obtain ⟨hdateTake, hdateDrop⟩ := hext.takeWhile_append (p := isDateChar) ⟨rfl, rfl, rfl⟩ (c :: cs)
  obtain ⟨hwordTake, hwordDrop⟩ := hext.takeWhile_append (p := isWordChar) ⟨rfl, rfl, rfl⟩ (c :: cs)
  rw [List.cons_append] at hdate hdateTake hdateDrop hwordTake hwordDrop
  unfold read at h ⊢
  rw [hdate, hdateTake, hdateDrop, hwordTake, hwordDrop, hdigit]
  by_cases hpath : c = '['
  · rw [if_pos hpath] at h ⊢
    exact readPath_append h
  rw [if_neg hpath] at h ⊢
  by_cases hquote : c = '\'' ∨ c = '"'
  · rw [if_pos hquote] at h ⊢
    obtain ⟨p, hp, hl⟩ := exists_of_map_eq_ok h
    injection hl with hl hr
    subst hl hr
    rw [readString_append hp]
    rfl
  rw [if_neg hquote] at h ⊢
  by_cases hdollar : c = '$'
  · rw [if_pos hdollar] at h ⊢
    exact readParameter_append h hext
  rw [if_neg hdollar] at h ⊢
  by_cases hc : c.isDigit = true
  · rw [if_pos hc] at h ⊢
    split at h
    · next hstart =>
      injection h with h
      injection h with hl hr
      rw [if_pos hstart, hl, hr]
    · next hstart =>
      rw [if_neg hstart]
      exact readNumber_append h hext
  rw [if_neg hc] at h ⊢
  by_cases hminus : c = '-' ∧ startsDigit cs = true
  · rw [if_pos hminus] at h ⊢
    exact readNumber_append h hext
  rw [if_neg hminus] at h ⊢
  by_cases hword : isWordStart c = true
  · rw [if_pos hword] at h ⊢
    injection h with h
    injection h with hl hr
    rw [← hl, ← hr]
    dsimp only
    rw [ofWord_append hext]
  rw [if_neg hword] at h ⊢
  exact readSign_append h hext

end Lexeme

open Lexeme

/-- **The tokens of a text are read before all that delimits it.** -/
theorem writes_of_readAll {total : Nat} {cs : List Char} {ts : List Token}
    (h : Token.readAll total cs = .ok ts) : Writes cs (ts.map Token.lexeme) := by
  intro rest more hrest hmore
  fun_induction Token.readAll total cs generalizing ts with
  | case1 cs hs =>
    injection h with h
    subst h
    exact .skip (by rw [hs]; exact hmore)
  | case2 => contradiction
  | case3 cs c r hs l rest' hr ih =>
    obtain ⟨ts', hts, rfl⟩ := exists_of_map_eq_ok h
    refine .skip ?_
    rw [hs]
    exact .read (eq_false_of_dropWhile_eq_cons hs) (read_append hr hrest) (ih hts)

theorem Lexes.writes {cs : List Char} {ls : List Lexeme} (h : Lexes cs ls) : Writes cs ls := by
  obtain ⟨ts, hts, rfl⟩ := h 0
  exact writes_of_readAll hts

end TreeSift
