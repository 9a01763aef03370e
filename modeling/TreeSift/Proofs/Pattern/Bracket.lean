import TreeSift.Proofs.Pattern.Escape

/-!
# TreeSift.Proofs.Pattern.Bracket

Sets in brackets in a pattern text, and in the same text with `)$` after it.

A set has to be closed, and `)$` closes none, so the longer text has a set exactly where the
shorter one has it (`Bracket.read?_agree`).
-/

namespace TreeSift

namespace Pattern

namespace Bracket

variable {f : Flags} {cs cs' : List Char}

/-! ## members -/

/-- What comes after a dash decides the same in both texts. -/
theorem afterDash?_extends (h : Extends cs cs') {d : Char} (hd : d ≠ ')') :
    afterDash? f cs' = some d ↔ afterDash? f cs = some d := by
  have hhead {as as' : List Char} (h : Extends as as') :
      as'.head? = some d ↔ as.head? = some d := by
    obtain ⟨rfl, rfl | rfl⟩ | ⟨c, r, rfl, rfl⟩ := h.split
    · rfl
    · simp [closing, hd.symm]
    · simp
  unfold afterDash?
  split
  · have hb := h.dropWhile (p := CharClass.isBlank) (by decide)
    obtain ⟨hs, hs' | hs'⟩ | ⟨c, r, hs, hs'⟩ := hb.split
    · rw [hs, hs']
    · rw [hs, hs']
      simp [closing, hd.symm]
    · rw [hs, hs']
      by_cases hc : c = '#'
      · subst hc
        exact hhead ((extends_append r).dropWhile (by decide))
      · simp [hc]
  · exact hhead h

theorem readItem?_agree (h : Extends cs cs') :
    Agree (Escape.Strays f) (cs.length - 1) (readItem? f cs) (readItem? f cs') := by
  unfold readItem?
  obtain ⟨rfl, rfl | rfl⟩ | ⟨c, r, rfl, rfl⟩ := h.split
  · exact agree_none
  · exact agree_beyond (.inl rfl)
  · by_cases hc : c = '\\'
    · subst hc
      exact (Escape.read?_agree (extends_append r)).le (Nat.sub_le _ _)
    · simp only
      exact agree_some _ (extends_append r) (Nat.le_refl _)

/-- The rest does not depend on the set. -/
theorem rest_of_map {β : Type} {x? : Option β} {x : β} {r rest : List Char}
    (h : (x?.map fun x => (x, r)) = some (x, rest)) : r = rest := by
  obtain ⟨_, -, h⟩ := Option.map_eq_some_iff.mp h
  exact (Prod.mk.injEq _ _ _ _ ▸ h).2

/-- A member that is read past the end of the shorter text leaves nothing that closes a set. -/
theorem rangeFrom?_strays {first : Escape} {s : CharSet} {rest : List Char}
    (h : Escape.Strays f first cs') (hs : rangeFrom? f first cs' = some (s, rest)) :
    Beyond rest := by
  unfold rangeFrom? at hs
  obtain rfl | ⟨⟨l, rfl⟩, u, rfl, -⟩ := h
  · rw [Beyond.skip_eq f (.inr (.inl rfl))] at hs
    exact .inr (.inl (rest_of_map (r := ['$']) hs).symm)
  · rw [skip_brace] at hs
    simp [itemSet?] at hs

theorem rangeFrom?_agree (first : Escape) (h : Extends cs cs') :
    Agree (fun _ => Beyond) cs.length (rangeFrom? f first cs) (rangeFrom? f first cs') := by
  have hlen := length_skip_le f cs
  unfold rangeFrom?
  obtain ⟨hs, hs' | hs'⟩ | ⟨c, r, hs, hs'⟩ := (h.skip f).split
  · rw [hs, hs']
    exact agree_none
  · rw [hs, hs']
    exact agree_alone (D := fun _ => Beyond) (itemSet? f first) id fun _ => .inr (.inr rfl)
  · rw [hs, hs']
    rw [hs, List.length_cons] at hlen
    by_cases hc : c = '-'
    · subst hc
      have hafter := afterDash?_extends (f := f) (extends_append r) (d := ']') (by decide)
      have hafter' := afterDash?_extends (f := f) (extends_append r) (d := '-') (by decide)
      simp only [hafter, hafter']
      split
      · exact agree_map _ id (extends_append ('-' :: r)) hlen
      · have hitem := readItem?_agree ((extends_append r).skip f) (f := f)
        have hrlen := length_skip_le f r
        obtain ⟨h₁, h₂⟩ | ⟨second, t, t', h₁, h₂, he, ht⟩ | ⟨second, t', h₁, h₂, hd⟩ := hitem
        · rw [h₁, h₂]
          exact agree_none
        · rw [h₁, h₂]
          exact agree_map _ id he (show t.length ≤ cs.length by omega)
        · rw [h₁, h₂]
          obtain rfl | ⟨⟨l, rfl⟩, -⟩ := hd
          · exact agree_alone (D := fun _ => Beyond) _ id fun _ => .inr (.inl rfl)
          · cases first <;> exact agree_none
    · simp only [List.cons.injEq, hc, false_and, imp_self, implies_true]
      exact agree_map _ id (extends_append (c :: r)) hlen

theorem readRange?_agree (h : Extends cs cs') :
    Agree (fun _ => Beyond) (cs.length - 1) (readRange? f cs) (readRange? f cs') := by
  unfold readRange?
  obtain ⟨h₁, h₂⟩ | ⟨first, r, r', h₁, h₂, he, hr⟩ | ⟨first, r', h₁, h₂, hd⟩ := readItem?_agree h
  · rw [h₁, h₂]
    exact agree_none
  · rw [h₁, h₂]
    exact (rangeFrom?_agree first he).le hr
  · rw [h₁, h₂]
    simp only [Option.bind_none, Option.bind_some]
    cases hrest : rangeFrom? f first r' with
    | none => exact agree_none
    | some x => exact agree_beyond (D := fun _ => Beyond) (rangeFrom?_strays hd hrest)

/-! ## the start of a set -/

theorem readCaret_alike (h : Extends cs cs') : Alike cs.length (readCaret cs) (readCaret cs') := by
  obtain ⟨rfl, rfl | rfl⟩ | ⟨c, r, rfl, rfl⟩ := h.split
  · exact ⟨false, [], [], rfl, rfl, h, Nat.le_refl _⟩
  · exact ⟨false, [], closing, rfl, rfl, h, Nat.le_refl _⟩
  · unfold readCaret
    by_cases hc : c = '^'
    · subst hc
      exact ⟨true, r, _, rfl, rfl, extends_append r, Nat.le_succ _⟩
    · simp only [List.cons.injEq, hc, false_and, imp_self, implies_true]
      exact ⟨false, c :: r, _, rfl, rfl, h, Nat.le_refl _⟩

theorem leadingDashes_of_ne {c : Char} (hc : c ≠ '-') (n : Nat) (m : Members) (r : List Char) :
    leadingDashes f n m (c :: r) = (m, c :: r) := by
  cases n with
  | zero => rfl
  | succ n => simp [leadingDashes, hc]

theorem leadingDashes_alike {n k : Nat} (hn : cs.length < n) (hn' : cs'.length < k)
    (h : Extends cs cs') (m : Members) :
    Alike cs.length (leadingDashes f n m cs) (leadingDashes f k m cs') := by
  induction n generalizing cs cs' k m with
  | zero => contradiction
  | succ n ih =>
      cases k with
      | zero => contradiction
      | succ k =>
          obtain ⟨rfl, rfl | rfl⟩ | ⟨c, r, rfl, rfl⟩ := h.split
          · exact ⟨m, [], [], rfl, rfl, h, Nat.le_refl _⟩
          · exact ⟨m, [], closing, rfl, rfl, h, Nat.le_refl _⟩
          · by_cases hc : c = '-'
            · subst hc
              have hlen := length_skip_le f r
              have hlen' := length_skip_le f (r ++ closing)
              simp only [List.length_cons] at hn hn' ⊢
              rw [leadingDashes, leadingDashes]
              obtain ⟨m', t, t', h₁, h₂, he, ht⟩ := @ih (f.skip r) (f.skip (r ++ closing)) k
                (by omega) (by omega) ((extends_append r).skip f) (m.add (CharSet.singleton '-') 0)
              exact ⟨m', t, t', h₁, h₂, he, by omega⟩
            · rw [leadingDashes_of_ne hc, leadingDashes_of_ne hc]
              exact ⟨m, c :: r, _, rfl, rfl, h, Nat.le_refl _⟩

theorem leadingBracket_alike (h : Extends cs cs') (m : Members) :
    Alike cs.length (leadingBracket f m cs) (leadingBracket f m cs') := by
  obtain ⟨rfl, rfl | rfl⟩ | ⟨c, r, rfl, rfl⟩ := h.split
  · exact ⟨m, [], [], rfl, rfl, h, Nat.le_refl _⟩
  · exact ⟨m, [], closing, rfl, rfl, h, Nat.le_refl _⟩
  · unfold leadingBracket
    by_cases hc : c = ']'
    · subst hc
      simp only
      split
      · have hlen := Nat.le_succ_of_le (length_skip_le f r)
        exact ⟨_, f.skip r, _, rfl, rfl, (extends_append r).skip f, hlen⟩
      · exact ⟨m, ']' :: r, _, rfl, rfl, h, Nat.le_refl _⟩
    · simp only [List.cons.injEq, hc, false_and, imp_self, implies_true]
      exact ⟨m, c :: r, _, rfl, rfl, h, Nat.le_refl _⟩

theorem readStart?_agree (h : Extends cs cs') :
    Agree (fun _ => Beyond) cs.length (readStart? f cs) (readStart? f cs') := by
  have hlen := length_skip_le f cs
  obtain ⟨negated, r, r', h₁, h₂, he, hr⟩ := readCaret_alike (h.skip f)
  unfold readStart?
  rw [h₁, h₂]
  -- a caret may be followed by skipped text
  replace he : Extends (if negated then f.skip r else r) (if negated then f.skip r' else r') := by
    split
    · exact he.skip f
    · exact he
  replace hr : (if negated then f.skip r else r).length ≤ cs.length := by
    have hskip := length_skip_le f r
    split <;> omega
  dsimp only
  generalize (if negated then f.skip r else r) = t at he hr ⊢
  generalize (if negated then f.skip r' else r') = t' at he ⊢
  obtain ⟨m, u, u', h₃, h₄, he, hu⟩ :=
    leadingDashes_alike (f := f) (Nat.lt_succ_self _) (Nat.lt_succ_self _) he {}
  rw [h₃, h₄]
  obtain ⟨m, v, v', h₅, h₆, he, hv⟩ := leadingBracket_alike (f := f) he m
  dsimp only
  rw [h₅, h₆]
  dsimp only
  obtain ⟨rfl, rfl | rfl⟩ | ⟨c, t, rfl, rfl⟩ := he.split
  · exact agree_none
  · exact agree_beyond (D := fun _ => Beyond) (.inr (.inr rfl))
  · exact agree_some _ he (by omega)

/-! ## named classes and operators -/

theorem namedClass?_agree (h : Extends cs cs') :
    Same cs.length (namedClass? cs) (namedClass? cs') := by
  unfold namedClass?
  obtain ⟨rfl, rfl | rfl⟩ | ⟨c, as, rfl, rfl⟩ := h.split
  · exact agree_none
  · exact agree_none
  by_cases hc : c = ':'
  case neg => simp [hc, agree_none]
  subst hc
  simp only
  obtain ⟨negated, r, r', h₁, h₂, he, hr⟩ := readCaret_alike (extends_append as)
  rw [h₁, h₂]
  dsimp only
  obtain rfl | ⟨rfl, rfl⟩ := he
  · have hlen := (List.dropWhile_sublist (l := r) (· != ':')).length_le
    obtain ⟨hd, hd'⟩ | ⟨d, t, hd, hd', ht⟩ := dropWhile_closing (p := (· != ':')) rfl rfl r
    · rw [hd, hd']
      exact agree_none
    · rw [hd, hd', ht]
      rw [hd, List.length_cons] at hlen
      by_cases hcolon : d = ':'
      case neg => simp [hcolon, agree_none]
      subst hcolon
      cases t with
      | nil => exact agree_none
      | cons e u =>
          rw [List.length_cons] at hlen
          by_cases he : e = ']'
          · subst he
            have hu : u.length ≤ (':' :: as).length := Nat.le_succ_of_le (by omega)
            exact agree_map _ (fun s => (negated, s)) (extends_append u) hu
          · simp [he, agree_none]
  · exact agree_none

theorem setOperator?_agree (c : Char) (r : List Char) :
    Same r.length (setOperator? (c :: r)) (setOperator? (c :: (r ++ closing))) := by
  cases r with
  | nil =>
      refine .inl ⟨rfl, ?_⟩
      show (if c = ')' then _ else none) = none
      split
      · rename_i hc
        subst hc
        rfl
      · rfl
  | cons d t =>
      show Same _ (if c = d then _ else none) (if c = d then _ else none)
      split
      · exact agree_map _ id (extends_append t) (Nat.le_succ _)
      · exact agree_none

/-! ## sets -/

theorem readRange?_stop : readRange? f ['$'] = none := by
  show rangeFrom? f (.char '$' false) [] = none
  rw [rangeFrom?, Beyond.skip_eq f (.inl rfl)]

/-- Where neither a bracket nor an operator comes next, a member has to. -/
theorem readMembers?_range {c : Char} {r : List Char} (hs : f.skip cs = c :: r) (hclose : c ≠ ']')
    (hopen : c ≠ '[') (hoperator : setOperator? (c :: r) = none) (n : Nat) (m : Members) :
    readMembers? f (n + 1) m cs =
      (readRange? f (c :: r)).bind fun x => readMembers? f n (m.add x.1 0) x.2 := by
  rw [readMembers?, hs]
  simp only
  rw [hoperator]
  simp only
  cases readRange? f (c :: r) with
  | none => rfl
  | some x => rfl

theorem readMembers?_stop (n : Nat) (m : Members) (hs : f.skip cs = ['$']) :
    readMembers? f n m cs = none := by
  cases n with
  | zero => rw [readMembers?]
  | succ n =>
      rw [readMembers?_range hs (by decide) (by decide) rfl, readRange?_stop]
      rfl

/-- A text with nothing but the end of `closing` left closes no set. -/
theorem readMembers?_beyond (n : Nat) (m : Members) (h : Beyond (f.skip cs')) :
    readMembers? f n m cs' = none := by
  obtain h | h | h := h
  · cases n with
    | zero => rw [readMembers?]
    | succ n => rw [readMembers?, h]
  · exact readMembers?_stop n m h
  · have hstop : f.skip ['$'] = ['$'] := Beyond.skip_eq f (.inr (.inl rfl))
    have hrange : readRange? f closing =
        (itemSet? f (.char ')' false)).map fun s => (s, ['$']) := by
      show rangeFrom? f (.char ')' false) ['$'] = _
      rw [rangeFrom?, hstop]
      rfl
    cases n with
    | zero => rw [readMembers?]
    | succ n =>
        rw [readMembers?_range h (by decide) (by decide) (by decide), ← closing, hrange]
        cases itemSet? f (.char ')' false) with
        | none => rfl
        | some s => exact readMembers?_stop n (m.add s 0) hstop

/-- With so much fuel for the shorter text, and enough for both, sets are read alike. -/
def SetsAgree (f : Flags) (n : Nat) : Prop :=
  ∀ k cs cs', Extends cs cs' → 2 * cs.length + 2 ≤ n → 2 * cs.length + 6 ≤ k →
    Same cs.length (read? f n cs) (read? f k cs')

/-- With so much fuel for the shorter text, and enough for both, members are read alike. -/
def MembersAgree (f : Flags) (n : Nat) : Prop :=
  ∀ k m cs cs', Extends cs cs' → 2 * cs.length + 1 ≤ n → 2 * cs.length + 5 ≤ k →
    Same (cs.length - 1) (readMembers? f n m cs) (readMembers? f k m cs')

theorem SetsAgree.succ {n : Nat} (ih : MembersAgree f n) : SetsAgree f (n + 1) := by
  intro k cs cs' h hn hk
  cases k with
  | zero => contradiction
  | succ k =>
      rw [read?, read?]
      obtain ⟨h₁, h₂⟩ | ⟨⟨negated, m⟩, r, r', h₁, h₂, he, hr⟩ | ⟨⟨negated, m⟩, r', h₁, h₂, hd⟩ :=
        readStart?_agree (f := f) h
      · rw [h₁, h₂]
        exact agree_none
      · rw [h₁, h₂]
        dsimp only
        obtain ⟨h₃, h₄⟩ | ⟨m', t, t', h₃, h₄, he', ht⟩ | ⟨_, _, _, _, hd⟩ :=
          ih k m r r' he (by omega) (by omega)
        · rw [h₃, h₄]
          exact agree_none
        · rw [h₃, h₄]
          dsimp only
          exact agree_map _ (fun s => (s, (m'.total f).2 + 1)) he' (by omega)
        · exact hd.elim
      · -- a start that takes all of the shorter text leaves the longer one no way to close it
        rw [h₁, h₂]
        dsimp only
        rw [readMembers?_beyond k m ((hd.skip_eq f).symm ▸ hd)]
        exact agree_none

theorem MembersAgree.succ {n : Nat} (hset : SetsAgree f n) (ih : MembersAgree f n) :
    MembersAgree f (n + 1) := by
  intro k m cs cs' h hn hk
  have hlen := length_skip_le f cs
  obtain ⟨hs, hs'⟩ | ⟨c, r, hs, hs'⟩ := (h.skip f).split
  · have hbeyond : Beyond (f.skip cs') := by
      obtain hs' | hs' := hs'
      · exact .inl hs'
      · exact .inr (.inr hs')
    rw [readMembers?_beyond (n + 1) m (.inl hs), readMembers?_beyond k m hbeyond]
    exact agree_none
  cases k with
  | zero => contradiction
  | succ k =>
      rw [readMembers?, readMembers?, hs, hs']
      rw [hs, List.length_cons] at hlen
      have hmore (m : Members) {t t' : List Char} (he : Extends t t') (ht : t.length ≤ r.length) :
          Same (cs.length - 1) (readMembers? f n m t) (readMembers? f k m t') :=
        (ih k m t t' he (by omega) (by omega)).le (by omega)
      by_cases hclose : c = ']'
      · subst hclose
        exact agree_some m (extends_append r) (by omega)
      by_cases hopen : c = '['
      · subst hopen
        simp only
        obtain ⟨h₁, h₂⟩ | ⟨⟨negated, s⟩, t, t', h₁, h₂, he, ht⟩ | ⟨_, _, _, _, hd⟩ :=
          namedClass?_agree (extends_append r)
        · rw [h₁, h₂]
          dsimp only
          obtain ⟨h₃, h₄⟩ | ⟨⟨s, d⟩, t, t', h₃, h₄, he, ht⟩ | ⟨_, _, _, _, hd⟩ :=
            hset k r _ (extends_append r) (by omega) (by omega)
          · rw [h₃, h₄]
            exact agree_none
          · rw [h₃, h₄]
            exact hmore _ he ht
          · exact hd.elim
        · rw [h₁, h₂]
          dsimp only
          cases f.close? negated s with
          | none => exact agree_none
          | some s => exact hmore _ he ht
        · exact hd.elim
      have hrange : Agree (fun _ => Beyond) r.length (readRange? f (c :: r))
          (readRange? f (c :: (r ++ closing))) := readRange?_agree (extends_append (c :: r))
      simp only
      obtain ⟨h₁, h₂⟩ | ⟨op, t, t', h₁, h₂, he, ht⟩ | ⟨_, _, _, _, hd⟩ := setOperator?_agree c r
      · rw [h₁, h₂]
        dsimp only
        obtain ⟨h₃, h₄⟩ | ⟨s, t, t', h₃, h₄, he, ht⟩ | ⟨s, t', h₃, h₄, hd⟩ := hrange
        · rw [h₃, h₄]
          exact agree_none
        · rw [h₃, h₄]
          exact hmore _ he ht
        · rw [h₃, h₄]
          dsimp only
          rw [readMembers?_beyond k _ ((hd.skip_eq f).symm ▸ hd)]
          exact agree_none
      · rw [h₁, h₂]
        exact hmore _ he ht
      · exact hd.elim

theorem sets_and_members_agree (f : Flags) (n : Nat) : SetsAgree f n ∧ MembersAgree f n := by
  induction n with
  | zero =>
      refine ⟨?_, ?_⟩
      · intro k cs cs' _ hn
        omega
      · intro k m cs cs' _ hn
        omega
  | succ n ih => exact ⟨.succ ih.2, .succ ih.1 ih.2⟩

/-- **A set in brackets is read alike in both texts.** -/
theorem read?_agree (cs : List Char) :
    Same cs.length (read? f (2 * cs.length + 2) cs)
      (read? f (2 * (cs ++ closing).length + 2) (cs ++ closing)) := by
  have hlen : (cs ++ closing).length = cs.length + 2 := List.length_append
  have hfuel : 2 * cs.length + 6 ≤ 2 * (cs ++ closing).length + 2 := by omega
  exact (sets_and_members_agree f _).1 _ _ _ (extends_append cs) (Nat.le_refl _) hfuel

end Bracket

end Pattern

end TreeSift
