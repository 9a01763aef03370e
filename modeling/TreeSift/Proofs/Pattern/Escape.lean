import TreeSift.Proofs.Pattern.Suffix

/-!
# TreeSift.Proofs.Pattern.Escape

Escapes in a pattern text, and in the same text with `)$` after it.

An escape that only the longer text has takes the parenthesis after the shorter one for its own, or
it is `\b` before a brace with nothing in it, which cannot go on.
-/

namespace TreeSift

namespace Pattern

namespace Escape

variable {f : Flags} {cs cs' : List Char}

/-- What an escape may make of the longer text alone. -/
def Strays (f : Flags) (e : Escape) (r' : List Char) : Prop :=
  r' = ['$'] ∨ (∃ l, e = .look l) ∧ ∃ u, r' = '\x7b' :: u ∧ readBounds? f u = none

/-! ## digits and braces -/

theorem fixedDigits?_agree (n : Nat) (h : Extends cs cs') :
    Same cs.length (fixedDigits? f n cs) (fixedDigits? f n cs') := by
  induction n generalizing cs cs' with
  | zero => exact agree_some [] h (Nat.le_refl _)
  | succ n ih =>
      obtain ⟨rfl, rfl | rfl⟩ | ⟨c, r, rfl, rfl⟩ := h.split
      · exact agree_none
      · exact agree_none
      · rw [fixedDigits?, fixedDigits?]
        simp only
        split
        · have hrest := ih ((extends_append r).skip f)
          exact (hrest.le (Nat.le_succ_of_le (length_skip_le f r))).map (c :: ·)
        · exact agree_none

theorem braced?_beyond (n : Nat) (h : Beyond cs') : braced? f n cs' = none := by
  have hnil (n : Nat) : braced? f n [] = none := by
    cases n with
    | zero => rfl
    | succ n => rw [braced?, Beyond.skip_eq f (.inl rfl)]
  have hstop (n : Nat) : braced? f n ['$'] = none := by
    cases n with
    | zero => rfl
    | succ n =>
        rw [braced?, Beyond.skip_eq f (.inr (.inl rfl))]
        simp [hnil]
  obtain rfl | rfl | rfl := h
  · exact hnil n
  · exact hstop n
  · cases n with
    | zero => rfl
    | succ n =>
        rw [braced?, Beyond.skip_eq f (.inr (.inr rfl))]
        simp [closing, hstop]

theorem braced?_agree {n k : Nat} (hn : cs.length < n) (hn' : cs'.length < k)
    (h : Extends cs cs') : Same cs.length (braced? f n cs) (braced? f k cs') := by
  induction n generalizing cs cs' k with
  | zero => contradiction
  | succ n ih =>
      cases k with
      | zero => contradiction
      | succ k =>
          have hlen := length_skip_le f cs
          have hlen' := length_skip_le f cs'
          rw [braced?, braced?]
          obtain ⟨hs, hs' | hs'⟩ | ⟨c, r, hs, hs'⟩ := (h.skip f).split
          · rw [hs, hs']
            exact agree_none
          · rw [hs, hs']
            simp [closing, braced?_beyond k (.inr (.inl rfl)), agree_none]
          · rw [hs, hs']
            rw [hs, List.length_cons] at hlen
            rw [hs', List.length_cons] at hlen'
            by_cases hc : c = '\x7d'
            · subst hc
              exact agree_some _ (extends_append r) (Nat.le_of_succ_le hlen)
            · have hrest := ih (k := k) (by omega) (by omega) (extends_append r)
              simp only
              exact (hrest.le (Nat.le_of_succ_le hlen)).map (c :: ·)

/-- A result that only depends on what was read. -/
theorem bind_map_agree {α β : Type} {D : β → List Char → Prop} {n : Nat}
    {o o' : Option (α × List Char)} (g : α → Option β) (h : Same n o o') :
    Agree D n (o.bind fun x => (g x.1).map fun y => (y, x.2))
      (o'.bind fun x => (g x.1).map fun y => (y, x.2)) := by
  refine h.bind ?_
  intro x r r' he hr
  exact agree_map (g x) id he hr

theorem readHex?_agree (digits : Nat) (h : Extends cs cs') :
    Same cs.length (readHex? f digits cs) (readHex? f digits cs') := by
  have hlen := length_skip_le f cs
  have hfixed (octet : Bool) := bind_map_agree (D := fun _ _ => False)
    (fun ds => (ofHex? ds).map (Escape.char · octet))
    (fixedDigits?_agree (f := f) digits (h.skip f))
  simp only [Option.map_map] at hfixed
  replace hfixed := (hfixed (digits == 2)).le hlen
  unfold readHex?
  obtain ⟨hs, hs' | hs'⟩ | ⟨c, r, hs, hs'⟩ := (h.skip f).split
  · rw [hs, hs'] at hfixed ⊢
    exact hfixed
  · rw [hs, hs'] at hfixed ⊢
    exact hfixed
  · rw [hs, hs'] at hfixed ⊢
    rw [hs, List.length_cons] at hlen
    by_cases hc : c = '\x7b'
    · subst hc
      have hbraced := braced?_agree (f := f) (n := r.length + 1) (k := (r ++ closing).length + 1)
        (by omega) (by omega) (extends_append r)
      have hresult := bind_map_agree (D := fun _ _ => False)
        (fun ds => (ofHex? ds).map (Escape.char · false)) (hbraced.le (Nat.le_of_succ_le hlen))
      simp only [Option.map_map] at hresult
      exact hresult
    · simp only [List.cons.injEq, hc, false_and, imp_self, implies_true]
      simpa only [Function.comp_def] using hfixed

theorem readProperty?_agree (negated : Bool) (h : Extends cs cs') :
    Agree (fun _ r' => r' = ['$']) cs.length (readProperty? f negated cs)
      (readProperty? f negated cs') := by
  have hlen := length_skip_le f cs
  unfold readProperty?
  obtain ⟨hs, hs' | hs'⟩ | ⟨c, r, hs, hs'⟩ := (h.skip f).split
  · rw [hs, hs']
    exact agree_none
  · rw [hs, hs']
    show Agree _ _ none ((f.property? negated [')']).map fun s => (Escape.set s, ['$']))
    exact agree_alone (D := fun _ r' => r' = ['$']) _ Escape.set fun _ => rfl
  · rw [hs, hs']
    rw [hs, List.length_cons] at hlen
    by_cases hc : c = '\x7b'
    · subst hc
      have hbraced := braced?_agree (f := f) (n := r.length + 1) (k := (r ++ closing).length + 1)
        (by omega) (by omega) (extends_append r)
      have hresult := bind_map_agree (D := fun _ r' => r' = ['$'])
        (fun name => (f.property? negated name).map Escape.set)
        (hbraced.le (Nat.le_of_succ_le hlen))
      simp only [Option.map_map] at hresult
      exact hresult
    · simp only
      split
      · exact agree_none
      · exact agree_map _ Escape.set (extends_append r) (Nat.le_of_succ_le hlen)

/-! ## boundaries -/

/-- The name of a boundary ends at the end of the shorter text. -/
theorem lookName_alike {n k : Nat} (hn : cs.length < n) (hn' : cs'.length < k)
    (h : Extends cs cs') : Alike cs.length (lookName f n cs) (lookName f k cs') := by
  induction n generalizing cs cs' k with
  | zero => contradiction
  | succ n ih =>
      cases k with
      | zero => contradiction
      | succ k =>
          obtain ⟨rfl, rfl | rfl⟩ | ⟨c, r, rfl, rfl⟩ := h.split
          · exact ⟨[], [], [], rfl, rfl, h, Nat.le_refl _⟩
          · exact ⟨[], [], closing, rfl, rfl, h, Nat.le_refl _⟩
          · rw [lookName, lookName]
            dsimp only
            split
            · have hlen := length_skip_le f r
              have hlen' := length_skip_le f (r ++ closing)
              simp only [List.length_cons] at hn hn' ⊢
              obtain ⟨name, t, t', h₁, h₂, he, ht⟩ := ih (k := k) (by omega) (by omega)
                ((extends_append r).skip f)
              rw [h₁, h₂]
              exact ⟨c :: name, t, t', rfl, rfl, he, by omega⟩
            · exact ⟨[], _, _, rfl, rfl, h, Nat.le_refl _⟩

/-- Bounds of a repetition do not start with `closing`. -/
theorem readBounds?_beyond (h : f.skip cs = [] ∨ f.skip cs = closing) :
    readBounds? f cs = none := by
  unfold readBounds?
  obtain h | h := h
  · rw [h]
    rfl
  · rw [h]
    rfl

theorem readBoundary?_agree (h : Extends cs cs') :
    Agree (Strays f) cs.length (readBoundary? f cs) (readBoundary? f cs') := by
  unfold readBoundary?
  obtain ⟨rfl, rfl | rfl⟩ | ⟨c, r, rfl, rfl⟩ := h.split
  · exact agree_some _ h (Nat.le_refl _)
  · exact agree_some _ h (Nat.le_refl _)
  · by_cases hc : c = '\x7b'
    · subst hc
      simp only
      have hlen := length_skip_le f r
      obtain ⟨hs, hs' | hs'⟩ | ⟨d, t, hs, hs'⟩ := ((extends_append r).skip f).split
      · rw [hs, hs']
        exact agree_none
      · rw [hs, hs']
        exact agree_beyond (.inr ⟨⟨_, rfl⟩, _, rfl, readBounds?_beyond (.inr hs')⟩)
      · rw [hs, hs']
        rw [hs, List.length_cons] at hlen
        have hname : Alike (d :: t).length (lookName f (t.length + 2) (d :: t))
            (lookName f ((t ++ closing).length + 2) (d :: (t ++ closing))) :=
          lookName_alike (by simp) (by simp) (extends_append (d :: t))
        obtain ⟨name, rest, rest', h₁, h₂, he, hr⟩ := hname
        simp only
        split
        · rw [h₁, h₂]
          obtain ⟨rfl, rfl | rfl⟩ | ⟨b, u, rfl, rfl⟩ := he.split
          · exact agree_none
          · exact agree_none
          · by_cases hb : b = '\x7d'
            · subst hb
              simp only [List.length_cons] at hr ⊢
              exact agree_map _ Escape.look (extends_append u) (by omega)
            · simp [hb, agree_none]
        · exact agree_some _ h (Nat.le_refl _)
    · simp only [List.cons.injEq, hc, false_and, imp_self, implies_true]
      exact agree_some _ h (Nat.le_refl _)

/-! ## all escapes -/

theorem read?_agree (h : Extends cs cs') :
    Agree (Strays f) (cs.length - 1) (read? f cs) (read? f cs') := by
  obtain ⟨rfl, rfl | rfl⟩ | ⟨c, r, rfl, rfl⟩ := h.split
  · exact agree_none
  · exact agree_beyond (.inl rfl)
  · have hr := extends_append r
    have hhex (digits : Nat) := (readHex?_agree (f := f) digits hr).mono (E := Strays f)
      fun _ _ h => h.elim
    have hproperty (negated : Bool) := (readProperty?_agree (f := f) negated hr).mono
      (E := Strays f) fun _ _ h => .inl h
    unfold read?
    simp only
    split
    · exact agree_some _ hr (Nat.le_refl _)
    split
    any_goals exact agree_some _ hr (Nat.le_refl _)
    · exact hhex 2
    · exact hhex 4
    · exact hhex 8
    · exact hproperty false
    · exact hproperty true
    · exact readBoundary?_agree hr
    · exact agree_map _ Escape.set hr (Nat.le_refl _)

end Escape

end Pattern

end TreeSift
