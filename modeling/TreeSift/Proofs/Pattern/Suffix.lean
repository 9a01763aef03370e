import TreeSift.Pattern.Syntax

/-!
# TreeSift.Proofs.Pattern.Suffix

Reading a pattern text, and reading the same text with `)$` after it.

1. A reader that is given both texts does the same on both until the shorter one ends.  What it
   leaves of the longer one is then what it leaves of the shorter one and `)$` (`Extends`), unless
   a comment takes both to their ends.
2. A reader that refuses the shorter text may still take something from the longer one, by reading
   past the end of the shorter.  `Agree D` says what it can have taken: only what `D` allows.  For
   most readers that is nothing (`Same`).
-/

namespace TreeSift

namespace Pattern

/-- What follows a pattern's text in the text that wraps it. -/
def closing : List Char := [')', '$']

/-- What is left of the longer text, given what is left of the shorter. -/
def Extends (cs cs' : List Char) : Prop := cs' = cs ++ closing ∨ cs = [] ∧ cs' = []

/-- The longer text was read past the end of the shorter one. -/
def Beyond (cs' : List Char) : Prop := cs' = [] ∨ cs' = ['$'] ∨ cs' = closing

/-- What two readings made of the two texts, with at most `n` characters left of the shorter one;
`D` is what may be taken from the longer one alone. -/
def Agree {α : Type} (D : α → List Char → Prop) (n : Nat) (o o' : Option (α × List Char)) : Prop :=
  (o = none ∧ o' = none) ∨
    (∃ x r r', o = some (x, r) ∧ o' = some (x, r') ∧ Extends r r' ∧ r.length ≤ n) ∨
    ∃ x r', o = none ∧ o' = some (x, r') ∧ D x r'

/-- What two readings that cannot fail made of the two texts. -/
def Alike {α : Type} (n : Nat) (x x' : α × List Char) : Prop :=
  ∃ a r r', x = (a, r) ∧ x' = (a, r') ∧ Extends r r' ∧ r.length ≤ n

/-- Two readings that take the same. -/
abbrev Same {α : Type} (n : Nat) (o o' : Option (α × List Char)) : Prop :=
  Agree (fun _ _ => False) n o o'

/-! ## texts -/

theorem extends_append (cs : List Char) : Extends cs (cs ++ closing) := .inl rfl

/-- Either the shorter text has ended, or both texts start alike. -/
theorem Extends.split {cs cs' : List Char} (h : Extends cs cs') :
    (cs = [] ∧ (cs' = [] ∨ cs' = closing)) ∨ ∃ c r, cs = c :: r ∧ cs' = c :: (r ++ closing) := by
  obtain rfl | ⟨rfl, rfl⟩ := h
  · cases cs with
    | nil => exact .inl ⟨rfl, .inr rfl⟩
    | cons c r => exact .inr ⟨c, r, rfl, rfl⟩
  · exact .inl ⟨rfl, .inl rfl⟩

theorem Extends.cons {c : Char} {r cs' : List Char} (h : Extends (c :: r) cs') :
    cs' = c :: (r ++ closing) := by
  obtain rfl | ⟨h, -⟩ := h
  · rfl
  · contradiction

theorem Extends.beyond {cs' : List Char} (h : Extends [] cs') : Beyond cs' := by
  obtain rfl | ⟨-, rfl⟩ := h
  · exact .inr (.inr rfl)
  · exact .inl rfl

theorem Extends.length_le {cs cs' : List Char} (h : Extends cs cs') :
    cs'.length ≤ cs.length + 2 := by
  obtain rfl | ⟨rfl, rfl⟩ := h
  · simp [closing]
  · exact Nat.zero_le _

/-- Dropping characters that `closing` does not start with. -/
theorem Extends.dropWhile {p : Char → Bool} (hp : p ')' = false) {cs cs' : List Char}
    (h : Extends cs cs') : Extends (cs.dropWhile p) (cs'.dropWhile p) := by
  obtain rfl | ⟨rfl, rfl⟩ := h
  · left
    induction cs with
    | nil => simp [closing, hp]
    | cons c cs ih =>
        cases hc : p c with
        | true => simpa [hc] using ih
        | false => simp [hc]
  · exact .inr ⟨rfl, rfl⟩

theorem length_skipIgnored_le (comment : Bool) (cs : List Char) :
    (Flags.skipIgnored comment cs).length ≤ cs.length := by
  induction cs generalizing comment with
  | nil => exact Nat.le_refl _
  | cons c cs ih =>
      unfold Flags.skipIgnored
      split
      · exact Nat.le_succ_of_le (ih _)
      split
      · exact Nat.le_succ_of_le (ih _)
      split
      · exact Nat.le_succ_of_le (ih _)
      · exact Nat.le_refl _

theorem length_skip_le (f : Flags) (cs : List Char) : (f.skip cs).length ≤ cs.length := by
  unfold Flags.skip
  split
  · exact length_skipIgnored_le false cs
  · exact Nat.le_refl _

theorem extends_skipIgnored (comment : Bool) (cs : List Char) :
    Extends (Flags.skipIgnored comment cs) (Flags.skipIgnored comment (cs ++ closing)) := by
  induction cs generalizing comment with
  | nil =>
      cases comment with
      | false => exact .inl (by decide)
      | true => exact .inr ⟨rfl, by decide⟩
  | cons c cs ih =>
      rw [List.cons_append, Flags.skipIgnored, Flags.skipIgnored]
      split
      · exact ih _
      split
      · exact ih _
      split
      · exact ih _
      · exact extends_append (c :: cs)

theorem Extends.skip (f : Flags) {cs cs' : List Char} (h : Extends cs cs') :
    Extends (f.skip cs) (f.skip cs') := by
  unfold Flags.skip
  split
  · obtain rfl | ⟨rfl, rfl⟩ := h
    · exact extends_skipIgnored false cs
    · exact .inr ⟨rfl, rfl⟩
  · exact h

/-- Nothing of the end of the longer text is skipped. -/
theorem Beyond.skip_eq (f : Flags) {cs' : List Char} (h : Beyond cs') : f.skip cs' = cs' := by
  unfold Flags.skip
  obtain rfl | rfl | rfl := h
  · split <;> decide
  · split <;> decide
  · split <;> decide

theorem skip_brace (f : Flags) (u : List Char) : f.skip ('\x7b' :: u) = '\x7b' :: u := by
  unfold Flags.skip
  split
  · rfl
  · rfl

/-! ## readings -/

theorem Agree.mono {α : Type} {D E : α → List Char → Prop} {n : Nat}
    {o o' : Option (α × List Char)} (h : Agree D n o o') (hD : ∀ x r, D x r → E x r) :
    Agree E n o o' := by
  obtain h | h | ⟨x, r', ho, ho', hd⟩ := h
  · exact .inl h
  · exact .inr (.inl h)
  · exact .inr (.inr ⟨x, r', ho, ho', hD x r' hd⟩)

theorem Agree.le {α : Type} {D : α → List Char → Prop} {n k : Nat} {o o' : Option (α × List Char)}
    (h : Agree D n o o') (hn : n ≤ k) : Agree D k o o' := by
  obtain h | ⟨x, r, r', ho, ho', he, hr⟩ | h := h
  · exact .inl h
  · exact .inr (.inl ⟨x, r, r', ho, ho', he, Nat.le_trans hr hn⟩)
  · exact .inr (.inr h)

theorem agree_none {α : Type} {D : α → List Char → Prop} {n : Nat} :
    Agree D n none none := .inl ⟨rfl, rfl⟩

theorem agree_some {α : Type} {D : α → List Char → Prop} {n : Nat} (x : α) {r r' : List Char}
    (h : Extends r r') (hn : r.length ≤ n) : Agree D n (some (x, r)) (some (x, r')) :=
  .inr (.inl ⟨x, r, r', rfl, rfl, h, hn⟩)

theorem agree_beyond {α : Type} {D : α → List Char → Prop} {n : Nat} {x : α} {r' : List Char}
    (h : D x r') : Agree D n none (some (x, r')) :=
  .inr (.inr ⟨x, r', rfl, rfl, h⟩)

/-- A result for the same part of both texts, if there is one. -/
theorem agree_map {α β : Type} {D : β → List Char → Prop} {n : Nat} (x? : Option α) (g : α → β)
    {r r' : List Char} (h : Extends r r') (hn : r.length ≤ n) :
    Agree D n (x?.map fun x => (g x, r)) (x?.map fun x => (g x, r')) := by
  cases x? with
  | none => exact agree_none
  | some x => exact agree_some (g x) h hn

/-- A result for a part of the longer text alone, if there is one. -/
theorem agree_alone {α β : Type} {D : β → List Char → Prop} {n : Nat} (x? : Option α) (g : α → β)
    {r' : List Char} (h : ∀ x, D (g x) r') : Agree D n none (x?.map fun x => (g x, r')) := by
  cases x? with
  | none => exact agree_none
  | some x => exact agree_beyond (h x)

/-- Readings that take the same, and then go on in ways that agree. -/
theorem Agree.bind {α β : Type} {D : β → List Char → Prop} {n m : Nat}
    {o o' : Option (α × List Char)} {k k' : α × List Char → Option (β × List Char)}
    (h : Same n o o')
    (hk : ∀ x r r', Extends r r' → r.length ≤ n → Agree D m (k (x, r)) (k' (x, r'))) :
    Agree D m (o.bind k) (o'.bind k') := by
  obtain ⟨rfl, rfl⟩ | ⟨x, r, r', rfl, rfl, he, hr⟩ | ⟨_, _, _, _, hd⟩ := h
  · exact agree_none
  · exact hk x r r' he hr
  · exact hd.elim

/-- Readings that take the same, with the result changed in one way. -/
theorem Agree.map {α β : Type} {D : β → List Char → Prop} {n : Nat} {o o' : Option (α × List Char)}
    (h : Same n o o') (g : α → β) :
    Agree D n (o.map fun x => (g x.1, x.2)) (o'.map fun x => (g x.1, x.2)) := by
  obtain ⟨rfl, rfl⟩ | ⟨x, r, r', rfl, rfl, he, hr⟩ | ⟨_, _, _, _, hd⟩ := h
  · exact agree_none
  · exact agree_some (g x) he hr
  · exact hd.elim

variable {f : Flags} {cs cs' : List Char}

/-! ## bounds of repetitions -/

/-- Digits end at the end of the shorter text. -/
theorem digitsOf_alike {n k : Nat} (hn : cs.length < n) (hn' : cs'.length < k)
    (h : Extends cs cs') :
    Alike cs.length (readCount?.digitsOf f n cs) (readCount?.digitsOf f k cs') := by
  induction n generalizing cs cs' k with
  | zero => contradiction
  | succ n ih =>
      cases k with
      | zero => contradiction
      | succ k =>
          obtain ⟨rfl, rfl | rfl⟩ | ⟨c, r, rfl, rfl⟩ := h.split
          · exact ⟨[], [], [], rfl, rfl, h, Nat.le_refl _⟩
          · exact ⟨[], [], closing, rfl, rfl, h, Nat.le_refl _⟩
          · rw [readCount?.digitsOf, readCount?.digitsOf]
            dsimp only
            split
            · have hlen := length_skip_le f r
              have hlen' := length_skip_le f (r ++ closing)
              simp only [List.length_cons] at hn hn' ⊢
              obtain ⟨ds, t, t', h₁, h₂, he, ht⟩ := ih (k := k) (by omega) (by omega)
                ((extends_append r).skip f)
              rw [h₁, h₂]
              exact ⟨c :: ds, t, t', rfl, rfl, he, by omega⟩
            · exact ⟨[], _, _, rfl, rfl, h, Nat.le_refl _⟩

theorem readCount?_agree (h : Extends cs cs') :
    Same cs.length (readCount? f cs) (readCount? f cs') := by
  have hb := h.dropWhile (p := CharClass.isBlank) (by decide)
  have hlen := (List.dropWhile_sublist (l := cs) CharClass.isBlank).length_le
  have hlen' := (List.dropWhile_sublist (l := cs') CharClass.isBlank).length_le
  obtain ⟨digits, r, r', h₁, h₂, he, hr⟩ := digitsOf_alike (f := f) (n := cs.length + 1) (by omega)
    (Nat.lt_succ_of_le hlen') hb
  unfold readCount?
  rw [h₁, h₂]
  dsimp only
  split
  · exact agree_none
  · refine agree_some _ ((he.dropWhile (by decide)).skip f) (Nat.le_trans (length_skip_le f _) ?_)
    exact Nat.le_trans (List.dropWhile_sublist _).length_le (Nat.le_trans hr hlen)

/-- The greatest number of a repetition up to the closing brace. -/
theorem readGreatest?_agree (least : Nat) (h : Extends cs cs') :
    Same cs.length
      ((readCount? f cs).bind fun x => match x.2 with
        | '\x7d' :: rest => if least ≤ x.1 then some ((least, some x.1), rest) else none
        | _ => none)
      ((readCount? f cs').bind fun x => match x.2 with
        | '\x7d' :: rest => if least ≤ x.1 then some ((least, some x.1), rest) else none
        | _ => none) := by
  refine Agree.bind (readCount?_agree h) ?_
  intro greatest r r' he hr
  obtain ⟨rfl, rfl | rfl⟩ | ⟨c, r, rfl, rfl⟩ := he.split
  · exact agree_none
  · exact agree_none
  · by_cases hclose : c = '\x7d'
    · subst hclose
      simp only
      split
      · exact agree_some _ (extends_append r) (Nat.le_of_succ_le hr)
      · exact agree_none
    · simp [hclose, agree_none]

theorem readBounds?_agree (h : Extends cs cs') :
    Same cs.length (readBounds? f cs) (readBounds? f cs') := by
  unfold readBounds?
  refine Agree.bind ((readCount?_agree (h.skip f)).le (length_skip_le f cs)) ?_
  intro least r r' he hr
  obtain ⟨rfl, rfl | rfl⟩ | ⟨c, r, rfl, rfl⟩ := he.split
  · exact agree_none
  · exact agree_none
  · by_cases hclose : c = '\x7d'
    · subst hclose
      exact agree_some _ (extends_append r) (Nat.le_of_succ_le hr)
    by_cases hcomma : c = ','
    · subst hcomma
      have hs := (extends_append r).skip f
      have hlen : (f.skip r).length ≤ cs.length :=
        Nat.le_trans (length_skip_le f r) (Nat.le_of_succ_le hr)
      have hrest := (readGreatest?_agree (f := f) least hs).le hlen
      simp only
      obtain ⟨ht, ht' | ht'⟩ | ⟨d, t, ht, ht'⟩ := hs.split
      · rw [ht, ht'] at hrest ⊢
        exact hrest
      · rw [ht, ht'] at hrest ⊢
        exact hrest
      · rw [ht, ht'] at hrest ⊢
        by_cases hd : d = '\x7d'
        · subst hd
          rw [ht, List.length_cons] at hlen
          exact agree_some _ (extends_append t) (Nat.le_of_succ_le hlen)
        · simp only [List.cons.injEq, hd, false_and, imp_self, implies_true]
          exact hrest
    · simp [hclose, hcomma, agree_none]

/-! ## switches and names -/

/-- Switches that are read in the longer text alone end with the parenthesis after the shorter
one. -/
theorem readFlags?_append {n : Nat} (seen : List Char) (on dangling : Bool) (f : Flags)
    (hn : cs.length ≤ n) :
    (readFlags? seen on dangling f cs = none ∧
      ∀ g named mark r', readFlags? seen on dangling f (cs ++ closing) = some (g, named, mark, r') →
        mark = ')' ∧ r' = ['$']) ∨
    ∃ g named mark r, readFlags? seen on dangling f cs = some (g, named, mark, r) ∧
      readFlags? seen on dangling f (cs ++ closing) = some (g, named, mark, r ++ closing) ∧
      r.length ≤ n := by
  induction cs generalizing seen on dangling f with
  | nil =>
      refine .inl ⟨rfl, ?_⟩
      intro g named mark r' h
      simp only [closing, List.nil_append, readFlags?, or_true, if_true] at h
      split at h
      · contradiction
      · injection h with h
        simp only [Prod.mk.injEq] at h
        obtain ⟨-, -, rfl, rfl⟩ := h
        exact ⟨rfl, rfl⟩
  | cons c cs ih =>
      have hn := Nat.le_of_succ_le hn
      rw [List.cons_append, readFlags?, readFlags?]
      split
      · split
        · exact .inl ⟨rfl, fun _ _ _ _ h => nomatch h⟩
        · exact .inr ⟨_, _, _, _, rfl, rfl, hn⟩
      split
      · exact .inl ⟨rfl, fun _ _ _ _ h => nomatch h⟩
      split
      · exact ih _ _ _ f hn
      · cases f.set? c on with
        | none => exact .inl ⟨rfl, fun _ _ _ _ h => nomatch h⟩
        | some f => exact ih _ _ _ f hn

/-- Looking for a character that is not in `closing`. -/
theorem dropWhile_closing {p : Char → Bool} (hp : p ')' = true) (hp' : p '$' = true)
    (cs : List Char) :
    (cs.dropWhile p = [] ∧ (cs ++ closing).dropWhile p = []) ∨
    ∃ d r, cs.dropWhile p = d :: r ∧ (cs ++ closing).dropWhile p = d :: (r ++ closing) ∧
      (cs ++ closing).takeWhile p = cs.takeWhile p := by
  induction cs with
  | nil => exact .inl ⟨rfl, by simp [closing, hp, hp']⟩
  | cons c cs ih =>
      cases hc : p c with
      | false => exact .inr ⟨c, cs, by simp [hc]⟩
      | true => simpa [hc] using ih

theorem readName?_agree (cs : List Char) :
    Same cs.length (readName? cs) (readName? (cs ++ closing)) := by
  have hlen := (List.dropWhile_sublist (l := cs) (· != '>')).length_le
  unfold readName?
  simp only
  obtain ⟨hd, hd'⟩ | ⟨d, rest, hd, hd', ht⟩ := dropWhile_closing (p := (· != '>')) rfl rfl cs
  · rw [hd, hd']
    refine .inl ⟨?_, ?_⟩
    · cases cs.takeWhile (· != '>') <;> rfl
    · cases (cs ++ closing).takeWhile (· != '>') <;> rfl
  · rw [hd, hd', ht]
    rw [hd] at hlen
    cases cs.takeWhile (· != '>') with
    | nil => exact agree_none
    | cons c r =>
        simp only
        split
        · exact agree_some _ (extends_append rest) (Nat.le_of_succ_le hlen)
        · exact agree_none

end Pattern

end TreeSift
