import TreeSift.Proofs.Pattern.Bracket

/-!
# TreeSift.Proofs.Pattern.Part

The parts of a pattern text, and of the same text with `)$` after it.

A part that only the longer text has is made of the parenthesis after the shorter one, or it is a
boundary before a brace with nothing in it (`Part.Strays`).  No part of the longer text ends
between the two signs that were added, other than those that the shorter text does not have.
-/

namespace TreeSift

namespace Pattern

namespace Part

variable {f : Flags} {cs cs' : List Char}

/-- What a part may be of the longer text alone. -/
def Strays (f : Flags) (part : Part) (r' : List Char) : Prop :=
  r' = ['$'] ∨ (∃ l, part = simple (.look l)) ∧ ∃ u, r' = '\x7b' :: u ∧ readBounds? f u = none

/-! ## opening parentheses -/

theorem looksAround_append (cs : List Char) : looksAround (cs ++ closing) = looksAround cs := by
  have hsigned (cs : List Char) : looksAround.signed (cs ++ closing) = looksAround.signed cs := by
    cases cs with
    | nil => decide
    | cons c r => rfl
  cases cs with
  | nil => decide
  | cons c r =>
      by_cases hc : c = '<'
      · subst hc
        exact hsigned r
      · simpa [looksAround, hc] using hsigned (c :: r)

theorem nameStart?_append (cs : List Char) :
    nameStart? (cs ++ closing) = (nameStart? cs).map (· ++ closing) := by
  have hangle (cs : List Char) :
      afterAngle? (cs ++ closing) = (afterAngle? cs).map (· ++ closing) := by
    cases cs with
    | nil => rfl
    | cons c r =>
        by_cases hc : c = '<'
        · subst hc
          rfl
        · simp [afterAngle?, hc]
  cases cs with
  | nil => rfl
  | cons c r =>
      by_cases hc : c = 'P'
      · subst hc
        exact hangle r
      · simpa [nameStart?, hc] using hangle (c :: r)

theorem length_nameStart?_le {r : List Char} (h : nameStart? cs = some r) :
    r.length ≤ cs.length := by
  have hangle {cs r : List Char} (h : afterAngle? cs = some r) : r.length ≤ cs.length := by
    unfold afterAngle? at h
    split at h
    · injection h with h
      subst h
      exact Nat.le_succ _
    · contradiction
  unfold nameStart? at h
  split at h
  · exact Nat.le_succ_of_le (hangle h)
  · exact hangle h

theorem readSwitches?_agree (cs : List Char) :
    Agree (fun _ r' => r' = ['$']) cs.length (readSwitches? f cs)
      (readSwitches? f (cs ++ closing)) := by
  unfold readSwitches?
  obtain ⟨h₁, h₂⟩ | ⟨g, named, mark, r, h₁, h₂, hr⟩ :=
    readFlags?_append [] true false f (Nat.le_refl cs.length)
  · rw [h₁]
    dsimp only
    cases hread : readFlags? [] true false f (cs ++ closing) with
    | none => exact agree_none
    | some x =>
        obtain ⟨g, named, mark, r'⟩ := x
        obtain ⟨rfl, rfl⟩ := h₂ g named mark r' hread
        cases named with
        | false => exact agree_none
        | true => exact agree_beyond (D := fun _ r' => r' = ['$']) rfl
  · rw [h₁, h₂]
    dsimp only
    split
    · exact agree_some _ (extends_append r) hr
    split
    · exact agree_some _ (extends_append r) hr
    · exact agree_none

theorem readOpen?_agree (h : Extends cs cs') :
    Agree (fun _ r' => r' = ['$']) cs.length (readOpen? f cs) (readOpen? f cs') := by
  have hlen := length_skip_le f cs
  have he := h.skip f
  unfold readOpen?
  obtain ⟨hs, hs' | hs'⟩ | ⟨c, r, hs, hs'⟩ := he.split
  · rw [hs, hs'] at he ⊢
    exact agree_some _ he (Nat.zero_le _)
  · rw [hs, hs'] at he ⊢
    exact agree_some _ he (Nat.zero_le _)
  · rw [hs, hs'] at he ⊢
    rw [hs, List.length_cons] at hlen
    by_cases hc : c = '?'
    · subst hc
      simp only [looksAround_append, nameStart?_append]
      split
      · exact agree_none
      · cases hname : nameStart? r with
        | none => exact (readSwitches?_agree r).le (Nat.le_of_succ_le hlen)
        | some t =>
            have ht := length_nameStart?_le hname
            exact ((readName?_agree t).le (by omega)).map fun name => Part.opens (some name) f
    · simp only [List.cons.injEq, hc, false_and, imp_self, implies_true]
      exact agree_some _ he hlen

/-! ## all parts -/

theorem afterReluctant_extends (h : Extends cs cs') :
    Extends (afterReluctant cs) (afterReluctant cs') ∧ (afterReluctant cs).length ≤ cs.length := by
  unfold afterReluctant
  obtain ⟨rfl, rfl | rfl⟩ | ⟨c, r, rfl, rfl⟩ := h.split
  · exact ⟨h, Nat.le_refl _⟩
  · exact ⟨h, Nat.le_refl _⟩
  · by_cases hc : c = '?'
    · subst hc
      exact ⟨extends_append r, Nat.le_succ _⟩
    · simp only [List.cons.injEq, hc, false_and, imp_self, implies_true]
      exact ⟨h, Nat.le_refl _⟩

/-- **Both texts are made of the same parts**, up to a last one that the shorter text has not. -/
theorem read?_agree (c : Char) (r : List Char) :
    Agree (Strays f) r.length (read? f c r) (read? f c (r ++ closing)) := by
  have he := extends_append r
  have hreluctant := afterReluctant_extends he
  unfold read?
  split
  any_goals exact agree_some _ he (Nat.le_refl _)
  any_goals exact agree_some _ hreluctant.1 hreluctant.2
  · exact (readOpen?_agree he).mono fun _ _ h => .inl h
  · exact (Bracket.read?_agree r).map fun x : CharSet × Nat => Part.piece ⟨.chars x.1, x.2, true⟩
  · obtain ⟨h₁, h₂⟩ | ⟨bounds, t, t', h₁, h₂, he, ht⟩ | ⟨_, _, _, _, hd⟩ :=
      readBounds?_agree (f := f) he
    · rw [h₁, h₂]
      exact agree_none
    · rw [h₁, h₂]
      have hrest := afterReluctant_extends (he.skip f)
      have hlen := length_skip_le f t
      exact agree_some _ hrest.1 (Nat.le_trans hrest.2 (Nat.le_trans hlen ht))
    · exact hd.elim
  · obtain ⟨h₁, h₂⟩ | ⟨e, t, t', h₁, h₂, he, ht⟩ | ⟨e, t', h₁, h₂, hd⟩ :=
      Escape.read?_agree (f := f) he
    · rw [h₁, h₂]
      exact agree_none
    · rw [h₁, h₂]
      exact agree_map _ id he (Nat.le_trans ht (Nat.sub_le _ _))
    · rw [h₁, h₂]
      obtain rfl | ⟨⟨l, rfl⟩, hu⟩ := hd
      · exact agree_alone _ id fun _ => .inl rfl
      · exact agree_beyond (.inr ⟨⟨l, rfl⟩, hu⟩)
  · exact agree_map _ (fun s => simple (.chars s)) he (Nat.le_refl _)

end Part

end Pattern

end TreeSift
