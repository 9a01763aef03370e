import TreeSift.Proofs.Pattern.Part

/-!
# TreeSift.Proofs.Pattern.Run

Runs over a pattern text, and over the same text with `)$` after it inside groups opened before.

1. A step looks at the groups around only when it ends a group, and then at the innermost one alone.
   So a run inside further groups does the same (`take?_within`), until a closing parenthesis comes
   that no group of the text is open for (`Unmatched`).
2. A text that can be read by itself is read inside the groups too, and leaves `)$` to be read, or
   nothing when it ends in a comment.  A text that cannot be read leaves a group open, or has such
   a parenthesis (`run?_agree`).
-/

namespace TreeSift

namespace Pattern

namespace Progress

/-! ## groups around -/

/-- The same progress inside further groups. -/
def within (p : Progress) (gs : List Group) : Progress := { p with around := p.around ++ gs }

@[simp]
theorem flags_within (p : Progress) (gs : List Group) : (p.within gs).flags = p.flags := rfl

@[simp]
theorem around_within (p : Progress) (gs : List Group) :
    (p.within gs).around = p.around ++ gs := rfl

/-- The switches that hold again after the outermost group. -/
def outermost (p : Progress) : Flags := (p.around.getLastD p.group).outer

variable {p q : Progress} {part : Part} {c : Char} {cs cs' r rest : List Char}

theorem repeatLast?_within (p : Progress) (gs : List Group) (least : Nat) (greatest : Option Nat) :
    (p.within gs).repeatLast? least greatest =
      (p.repeatLast? least greatest).map (·.within gs) := by
  unfold repeatLast?
  rw [show (p.within gs).group = p.group from rfl]
  cases p.group.pieces with
  | nil => rfl
  | cons piece others =>
      dsimp only
      split
      · rfl
      · rfl

/-- A part does the same inside further groups, unless it ends the outermost one. -/
theorem take?_within (gs : List Group) (h : part = .closes → p.around ≠ []) :
    (p.within gs).take? part = (p.take? part).map (·.within gs) := by
  cases part with
  | opens name inside =>
      cases name with
      | none => rfl
      | some name =>
          rw [take?, take?, show (p.within gs).names = p.names from rfl]
          split
          · rfl
          · rfl
  | closes =>
      obtain ⟨flags, names, group, around⟩ := p
      cases around with
      | nil => exact absurd rfl (h rfl)
      | cons g around => rfl
  | bar => rfl
  | switches flags => rfl
  | piece piece => rfl
  | again least greatest => exact repeatLast?_within p gs least greatest

theorem outermost_openGroup (p : Progress) (inside : Flags) :
    (p.openGroup inside).outermost = p.outermost := by
  simp only [outermost, openGroup, List.getLastD_cons]

theorem outermost_closeGroup? (h : p.closeGroup? = some q) : q.outermost = p.outermost := by
  unfold closeGroup? at h
  split at h
  · contradiction
  · rename_i g gs hgs
    injection h with h
    subst h
    unfold outermost
    rw [hgs, List.getLastD_cons]
    cases gs with
    | nil => rfl
    | cons g gs => rfl

/-- A change of the group being read that keeps its outer switches. -/
theorem outermost_eq (hg : q.group.outer = p.group.outer) (ha : q.around = p.around) :
    q.outermost = p.outermost := by
  unfold outermost
  rw [ha]
  cases p.around with
  | nil => exact hg
  | cons g gs => simp only [List.getLastD_cons]

theorem outermost_repeatLast? {least : Nat} {greatest : Option Nat}
    (h : p.repeatLast? least greatest = some q) : q.outermost = p.outermost := by
  unfold repeatLast? at h
  split at h
  · contradiction
  split at h
  · injection h with h
    subst h
    exact outermost_eq rfl rfl
  · contradiction

/-- No part changes the switches that hold after the outermost group. -/
theorem outermost_take? (h : p.take? part = some q) : q.outermost = p.outermost := by
  cases part with
  | opens name inside =>
      cases name with
      | none =>
          injection h with h
          exact h ▸ outermost_openGroup p inside
      | some name =>
          rw [take?] at h
          split at h
          · contradiction
          · injection h with h
            exact h ▸ outermost_openGroup _ inside
  | closes => exact outermost_closeGroup? h
  | bar =>
      injection h with h
      exact h ▸ outermost_eq rfl rfl
  | switches flags =>
      injection h with h
      exact h ▸ outermost_eq rfl rfl
  | piece piece =>
      injection h with h
      exact h ▸ outermost_eq rfl rfl
  | again least greatest => exact outermost_repeatLast? h

theorem outermost_run? {n : Nat} (h : p.run? n cs = some q) : q.outermost = p.outermost := by
  induction n generalizing p cs with
  | zero => contradiction
  | succ n ih =>
      rw [run?] at h
      split at h
      · injection h with h
        rw [h]
      · split at h
        · contradiction
        · rename_i hstep
          unfold step? at hstep
          split at hstep
          · contradiction
          · obtain ⟨_, htake, heq⟩ := Option.map_eq_some_iff.mp hstep
            injection heq with heq
            rw [ih h, ← heq, outermost_take? htake]

/-! ## steps -/

theorem ofEscape?_ne_closes (f : Flags) (e : Escape) : Part.ofEscape? f e ≠ some .closes := by
  cases e with
  | char c octet =>
      rw [Part.ofEscape?]
      split
      · simp [Part.simple]
      · simp
  | set s => simp [Part.ofEscape?, Part.simple]
  | look l => simp [Part.ofEscape?, Part.simple]

theorem readOpen?_ne_closes (f : Flags) (cs rest : List Char) :
    Part.readOpen? f cs ≠ some (.closes, rest) := by
  unfold Part.readOpen? Part.readSwitches?
  intro h
  repeat' split at h
  all_goals simp at h

/-- Only a closing parenthesis ends a group. -/
theorem read?_closes {f : Flags} (h : Part.read? f c r = some (.closes, rest)) : c = ')' := by
  unfold Part.read? at h
  split at h
  case h_1 => exact absurd h (readOpen?_ne_closes f r rest)
  case h_2 => rfl
  case h_9 =>
    obtain ⟨x, -, hx⟩ := Option.bind_eq_some_iff.mp h
    obtain ⟨part, hpart, heq⟩ := Option.map_eq_some_iff.mp hx
    injection heq with heq
    exact absurd (heq ▸ hpart) (ofEscape?_ne_closes f x.1)
  all_goals simp [Part.simple] at h

/-- A step does the same inside further groups, unless it ends the outermost one. -/
theorem step?_within (gs : List Group) (h : c = ')' → p.around ≠ []) :
    (p.within gs).step? c r = (p.step? c r).map fun x => (x.1.within gs, x.2) := by
  unfold step?
  rw [flags_within]
  cases hread : Part.read? p.flags c r with
  | none => rfl
  | some x =>
      obtain ⟨part, rest⟩ := x
      dsimp only
      rw [take?_within gs fun hpart => h (read?_closes (hpart ▸ hread)), Option.map_map,
        Option.map_map]
      rfl

theorem step?_unmatched (ha : p.around = []) : p.step? ')' r = none := by
  show p.closeGroup?.map _ = none
  rw [closeGroup?, ha]
  rfl

theorem step?_leave {g : Group} {gs : List Group} (ha : p.around = g :: gs) :
    p.step? ')' r = some (p.leave g gs, r) := by
  show p.closeGroup?.map _ = _
  rw [closeGroup?, ha]
  rfl

/-- What is left of the longer text when only it can go on: nothing that ends a group. -/
def Dangles (p : Progress) (r' : List Char) : Prop :=
  r' = ['$'] ∨ ∃ u, r' = '\x7b' :: u ∧ readBounds? p.flags u = none

theorem step?_agree (p : Progress) (c : Char) (r : List Char) :
    Agree Dangles r.length (p.step? c r) (p.step? c (r ++ closing)) := by
  unfold step?
  obtain ⟨h₁, h₂⟩ | ⟨part, t, t', h₁, h₂, he, ht⟩ | ⟨part, t', h₁, h₂, hd⟩ :=
    Part.read?_agree (f := p.flags) c r
  · rw [h₁, h₂]
    exact agree_none
  · rw [h₁, h₂]
    exact agree_map _ id he ht
  · rw [h₁, h₂]
    dsimp only
    cases htake : p.take? part with
    | none => exact agree_none
    | some q =>
        obtain rfl | ⟨⟨l, rfl⟩, hu⟩ := hd
        · exact agree_beyond (.inl rfl)
        · -- a boundary leaves the switches as they are
          injection htake with htake
          subst htake
          exact agree_beyond (.inr hu)

/-! ## runs -/

/-- Reading a text comes to a closing parenthesis that no group of the text is open for. -/
inductive Unmatched : Progress → List Char → Prop where
  /-- It comes next. -/
  | next {p : Progress} {cs r : List Char} (hs : p.flags.skip cs = ')' :: r)
      (ha : p.around = []) : Unmatched p cs
  /-- It comes after another step. -/
  | later {p q : Progress} {c : Char} {cs r rest : List Char} (hs : p.flags.skip cs = c :: r)
      (hstep : p.step? c r = some (q, rest)) (h : Unmatched q rest) : Unmatched p cs

theorem run?_end {n : Nat} (hs : p.flags.skip cs = []) : p.run? (n + 1) cs = some p := by
  rw [run?, hs]

theorem run?_step {n : Nat} (hs : p.flags.skip cs = c :: r) :
    p.run? (n + 1) cs = (p.step? c r).bind fun x => x.1.run? n x.2 := by
  rw [run?, hs]
  dsimp only
  cases p.step? c r with
  | none => rfl
  | some x => rfl

/-- What is left when only the longer text goes on ends no group. -/
theorem Dangles.run? {r' : List Char} {n : Nat} (h : Dangles p r') (hrun : p.run? n r' = some q) :
    q.around = p.around := by
  cases n with
  | zero => contradiction
  | succ n =>
      obtain rfl | ⟨u, rfl, hu⟩ := h
      · rw [run?_step (Beyond.skip_eq p.flags (.inr (.inl rfl)))] at hrun
        obtain ⟨⟨_, _⟩, hstep, hrun⟩ := Option.bind_eq_some_iff.mp hrun
        cases hstep
        cases n with
        | zero => contradiction
        | succ n =>
            rw [run?_end (Beyond.skip_eq _ (.inl rfl))] at hrun
            injection hrun with hrun
            exact hrun ▸ rfl
      · have hstep : p.step? '\x7b' u = none := by
          have hread : Part.read? p.flags '\x7b' u = none := Option.map_eq_none_iff.mpr hu
          rw [step?, hread]
        rw [run?_step (skip_brace p.flags u), hstep] at hrun
        contradiction

/-- The next step of a run inside further groups, unless it ends the outermost group of the text. -/
theorem run?_within_step {gs : List Group} {n : Nat} (hs : p.flags.skip cs = c :: r)
    (hc : c = ')' → p.around ≠ []) :
    (p.within gs).run? (n + 1) cs = (p.step? c r).bind fun x => (x.1.within gs).run? n x.2 := by
  rw [run?_step (p := p.within gs) hs, step?_within gs hc]
  cases p.step? c r with
  | none => rfl
  | some x => rfl

theorem run?_within_eq_some {gs : List Group} {n : Nat} (hs : p.flags.skip cs = c :: r)
    (hc : c = ')' → p.around ≠ []) (h : (p.within gs).run? n cs = some q) :
    ∃ k p' rest, p.step? c r = some (p', rest) ∧ (p'.within gs).run? k rest = some q := by
  cases n with
  | zero => contradiction
  | succ n =>
      rw [run?_within_step hs hc] at h
      obtain ⟨x, hstep, h⟩ := Option.bind_eq_some_iff.mp h
      exact ⟨n, x.1, x.2, hstep, h⟩

/-- **Two runs, over a text by itself and over the text with `)$` after it inside further groups.**
If the first comes to its end, then so far the second has done the same, and has `)$` or nothing
left.  If it does not, then the second cannot end outside all groups, unless the text has a closing
parenthesis that no group of it is open for. -/
theorem run?_agree {n : Nat} (h : Extends cs cs') (hn : cs.length < n) :
    (∃ q r', p.run? n cs = some q ∧ Extends [] r' ∧ ∀ k gs, cs.length + 2 < k →
      ∃ m, r'.length < m ∧ (p.within gs).run? k cs' = (q.within gs).run? m r') ∨
    (p.run? n cs = none ∧ ∀ k gs q, gs ≠ [] → (p.within gs).run? k cs' = some q →
      q.around ≠ [] ∨ Unmatched p cs) := by
  induction n generalizing p cs cs' with
  | zero => contradiction
  | succ n ih =>
      have hlen := length_skip_le p.flags cs
      obtain ⟨hs, hs'⟩ | ⟨c, r, hs, hs'⟩ := (h.skip p.flags).split
      · -- the text has ended, and what is skipped there makes no difference
        have hend : Extends [] (p.flags.skip cs') := hs ▸ h.skip p.flags
        refine .inl ⟨p, p.flags.skip cs', run?_end hs, hend, ?_⟩
        intro k gs hk
        have hrest := length_skip_le p.flags cs'
        have hle := h.length_le
        refine ⟨k, by omega, ?_⟩
        cases k with
        | zero => rfl
        | succ k => rw [run?, run?, flags_within, hend.beyond.skip_eq]
      rw [hs, List.length_cons] at hlen
      rw [run?_step hs]
      by_cases hout : c = ')' ∧ p.around = []
      · obtain ⟨rfl, ha⟩ := hout
        rw [step?_unmatched ha]
        exact .inr ⟨rfl, fun _ _ _ _ _ => .inr (.next hs ha)⟩
      have hc (hc : c = ')') : p.around ≠ [] := fun ha => hout ⟨hc, ha⟩
      obtain ⟨h₁, h₂⟩ | ⟨q, t, t', h₁, h₂, he, ht⟩ | ⟨q, t', h₁, h₂, hd⟩ := step?_agree p c r
      · -- neither text goes on
        rw [h₁]
        refine .inr ⟨rfl, ?_⟩
        intro k gs q' _ hq'
        obtain ⟨_, _, _, hstep, -⟩ := run?_within_eq_some hs' hc hq'
        rw [h₂] at hstep
        contradiction
      · -- both take the same step
        rw [h₁]
        obtain ⟨q', r', hq', hr', hmore⟩ | ⟨hnone, hmore⟩ := ih (p := q) he (by omega)
        · refine .inl ⟨q', r', hq', hr', ?_⟩
          intro k gs hk
          cases k with
          | zero => contradiction
          | succ k =>
              rw [run?_within_step hs' hc, h₂]
              exact hmore k gs (by omega)
        · refine .inr ⟨hnone, ?_⟩
          intro k gs q' hgs hq'
          obtain ⟨j, _, _, hstep, hq'⟩ := run?_within_eq_some hs' hc hq'
          cases h₂.symm.trans hstep
          obtain h | h := hmore j gs q' hgs hq'
          · exact .inl h
          · exact .inr (.later hs h₁ h)
      · -- only the longer text goes on, past the end of the shorter
        rw [h₁]
        refine .inr ⟨rfl, ?_⟩
        intro k gs q' hgs hq'
        obtain ⟨j, _, _, hstep, hq'⟩ := run?_within_eq_some hs' hc hq'
        cases h₂.symm.trans hstep
        have hd' : Dangles (q.within gs) t' := hd
        left
        rw [hd'.run? hq', around_within]
        exact List.append_ne_nil_of_right_ne_nil _ hgs

/-- A text with a closing parenthesis too many cannot be read. -/
theorem Unmatched.run?_eq_none (h : Unmatched p cs) (n : Nat) : p.run? n cs = none := by
  induction h generalizing n with
  | next hs ha =>
      cases n with
      | zero => rfl
      | succ n =>
          rw [run?_step hs, step?_unmatched ha]
          rfl
  | later hs hstep _ ih =>
      cases n with
      | zero => rfl
      | succ n =>
          rw [run?_step hs, hstep]
          exact ih n

end Progress

end Pattern

end TreeSift
