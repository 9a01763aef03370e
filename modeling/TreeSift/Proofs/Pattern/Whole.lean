import TreeSift.Proofs.Pattern.Match
import TreeSift.Proofs.Pattern.Run

/-!
# TreeSift.Proofs.Pattern.Whole

Texts between `^(?:` and `)$`.

1. What is wrapped around a text that is a pattern puts it between the start and the end
   (`content?_whole`), as long as the text does not end in a comment.  A comment takes the `)$`, and
   then the group is never closed (`content?_whole_comment`).
2. Around a text that is no pattern it makes a pattern only if the text closes the group by itself
   (`unmatched_of_whole?`).
-/

namespace TreeSift

namespace Pattern

/-- The pattern between the start and the end of a text. -/
def between (p : Pattern) : Pattern := sequence [.look .start, p, .look .stop]

/-- A text that reads as a pattern ends in a comment: with `)$` after it, it still reads as one, for
the comment has taken them. -/
def EndsInComment (text : List Char) : Prop := content? (text ++ closing) ≠ none

/-- What makes a pattern text, which reads as the given pattern, fit between `^(?:` and `)$`. -/
structure Spliceable (text : List Char) (p : Pattern) (depth : Nat) : Prop where
  /-- Nothing at its end hides the `)$`. -/
  no_comment : ¬ EndsInComment text
  /-- There is nesting left for the group and the sequence that it stands in. -/
  depth_le : depth + 2 ≤ maxDepth
  /-- There is room left for the start and the end. -/
  size_le : p.size + 2 * stateSize ≤ maxSize

variable {text : List Char} {p w : Pattern} {depth : Nat}

theorem size_between (p : Pattern) : (between p).size = p.size + 2 * stateSize := by
  show stateSize + (p.size + stateSize) = _
  omega

/-! ## the text around -/

/-- The group that the text is put in: its start is the start of the text. -/
def wrapper : Group := { pieces := [⟨.look .start, 0, true⟩] }

theorem run?_wholeText (text : List Char) :
    Progress.run? ((wholeText text).length + 1) {} (wholeText text) =
      Progress.run? (text.length + 5) (({} : Progress).within [wrapper]) (text ++ closing) := by
  have hlen : (wholeText text).length + 1 = text.length + 5 + 1 + 1 := by
    simp [wholeText]
  rw [hlen]
  rfl

theorem run?_nil (q : Progress) (m : Nat) : q.run? (m + 1) [] = some q :=
  Progress.run?_end (Beyond.skip_eq q.flags (.inl rfl))

/-- What is read of `)$` when the text has ended: the group is left, and the end has to come. -/
theorem run?_closing {q : Progress} {g : Group} {gs : List Group} (ha : q.around = g :: gs)
    (m : Nat) :
    q.run? (m + 3) closing =
      some ((q.leave g gs).push ⟨.look (if q.group.outer.multiLine then
        .lineEnd q.group.outer.crlf else .stop), 0, true⟩) := by
  have hclose : q.flags.skip closing = ')' :: ['$'] := Beyond.skip_eq _ (.inr (.inr rfl))
  have hstop : (q.leave g gs).flags.skip ['$'] = '$' :: [] := Beyond.skip_eq _ (.inr (.inl rfl))
  rw [Progress.run?_step hclose, Progress.step?_leave ha, Option.bind_some,
    Progress.run?_step hstop]
  exact Progress.run?_end (Beyond.skip_eq _ (.inl rfl))

theorem content_wrapper (q : Progress) :
    ((q.leave wrapper []).push ⟨.look .stop, 0, true⟩).group.content =
      (between q.group.content.1, q.group.content.2 + 2) := by
  simp [Group.content, Group.alternative, wrapper, between, Group.push, Progress.push,
    Progress.leave]

/-! ## contents -/

theorem content?_eq_some {q : Progress} {x : Pattern × Nat} :
    q.content? = some x ↔ q.around = [] ∧ q.group.content = x := by
  simp [Progress.content?]

theorem content?_eq_none {q : Progress} : q.content? = none ↔ q.around ≠ [] := by
  simp [Progress.content?]

/-- What the longer text leaves to be read when the shorter one is a pattern. -/
theorem run?_append {q : Progress} (hq : Progress.run? (text.length + 1) {} text = some q) :
    ∃ r', (r' = closing ∨ r' = []) ∧ ∀ k gs, text.length + 2 < k →
      ∃ m, r'.length < m ∧
        (({} : Progress).within gs).run? k (text ++ closing) = (q.within gs).run? m r' := by
  obtain ⟨q', r', hq', hr', hrun⟩ | ⟨hnone, -⟩ :=
    Progress.run?_agree (p := {}) (extends_append text) (Nat.lt_succ_self _)
  · rw [hq] at hq'
    injection hq' with hq'
    subst hq'
    obtain hr' | ⟨-, hr'⟩ := hr'
    · exact ⟨r', .inl hr', hrun⟩
    · exact ⟨r', .inr hr', hrun⟩
  · rw [hq] at hnone
    contradiction

/-- **What is wrapped around a pattern** reads as the pattern between the start and the end, unless
the text ends in a comment. -/
theorem content?_wholeText {w : Pattern × Nat} (h : content? text = some (p, depth)) :
    content? (wholeText text) = some w ↔ ¬ EndsInComment text ∧ w = (between p, depth + 2) := by
  obtain ⟨q, hq, hcontent⟩ := Option.bind_eq_some_iff.mp h
  obtain ⟨ha, hcontent⟩ := content?_eq_some.mp hcontent
  have houter : q.group.outer = {} := by
    have hout : q.outermost = {} := Progress.outermost_run? hq
    rw [Progress.outermost, ha] at hout
    exact hout
  obtain ⟨r', hr', hrun⟩ := run?_append hq
  obtain ⟨m, hm, happend⟩ := hrun ((text ++ closing).length + 1) [] (by simp [closing])
  obtain ⟨n, hn, hwhole⟩ := hrun (text.length + 5) [wrapper] (by omega)
  have happend' : content? (text ++ closing) = ((q.within []).run? m r').bind Progress.content? :=
    congrArg (·.bind Progress.content?) happend
  rw [EndsInComment, happend', content?, run?_wholeText, hwhole]
  have hinside : (q.within [wrapper]).around = wrapper :: [] := by
    rw [Progress.around_within, ha]
    rfl
  have houtside : (q.within []).around = [] := by
    rw [Progress.around_within, ha]
    rfl
  obtain rfl | rfl := hr'
  · -- the parenthesis closes the group, and is one too many where there is none
    obtain ⟨k, rfl⟩ : ∃ k, n = k + 3 := ⟨n - 3, Nat.eq_add_of_sub_eq hn rfl⟩
    have hclose : Progress.Unmatched (q.within []) closing :=
      .next (Beyond.skip_eq _ (.inr (.inr rfl))) houtside
    have hend : (q.within [wrapper]).run? (k + 3) closing =
        some (((q.within [wrapper]).leave wrapper []).push ⟨.look .stop, 0, true⟩) := by
      rw [run?_closing hinside, show (q.within [wrapper]).group.outer = {} from houter]
      rfl
    rw [hclose.run?_eq_none, hend, Option.bind_some, content?_eq_some, content_wrapper,
      show (q.within [wrapper]).group.content = (p, depth) from hcontent]
    constructor
    · intro h
      obtain ⟨-, rfl⟩ := h
      exact ⟨fun hne => hne rfl, rfl⟩
    · intro h
      obtain ⟨-, rfl⟩ := h
      exact ⟨rfl, rfl⟩
  · -- the group is never closed
    obtain ⟨k, rfl⟩ := Nat.exists_eq_succ_of_ne_zero (Nat.ne_of_gt hm)
    obtain ⟨j, rfl⟩ := Nat.exists_eq_succ_of_ne_zero (Nat.ne_of_gt hn)
    rw [run?_nil, run?_nil, Option.bind_some, Option.bind_some, content?_eq_some]
    constructor
    · intro h
      obtain ⟨hnone, -⟩ := h
      rw [hinside] at hnone
      contradiction
    · intro h
      obtain ⟨hcomment, -⟩ := h
      exact absurd (fun hnone => content?_eq_none.mp hnone houtside) hcomment

/-- What is wrapped around a text that is no pattern makes a pattern only if the text closes the
group itself. -/
theorem unmatched_of_content?_wholeText {w : Pattern × Nat} (h : content? text = none)
    (hw : content? (wholeText text) = some w) : Progress.Unmatched {} text := by
  rw [content?, run?_wholeText] at hw
  obtain ⟨q', hq', hcontent⟩ := Option.bind_eq_some_iff.mp hw
  obtain ⟨ha', -⟩ := content?_eq_some.mp hcontent
  obtain ⟨q, r', hq, hr', hrun⟩ | ⟨-, hrun⟩ :=
    Progress.run?_agree (p := {}) (extends_append text) (Nat.lt_succ_self _)
  · -- the text is read to its end, with groups open
    have hopen : q.around ≠ [] := by
      rw [content?, hq] at h
      exact content?_eq_none.mp h
    obtain ⟨g, gs, hgs⟩ := List.exists_cons_of_ne_nil hopen
    obtain ⟨m, hm, hwhole⟩ := hrun (text.length + 5) [wrapper] (by omega)
    rw [hwhole] at hq'
    have hinside : (q.within [wrapper]).around = g :: (gs ++ [wrapper]) := by
      rw [Progress.around_within, hgs]
      rfl
    obtain rfl | rfl : r' = [] ∨ r' = closing := hr'.symm.imp_left And.right
    · obtain ⟨k, rfl⟩ := Nat.exists_eq_succ_of_ne_zero (Nat.ne_of_gt hm)
      rw [run?_nil] at hq'
      injection hq' with hq'
      rw [← hq', hinside] at ha'
      contradiction
    · obtain ⟨k, rfl⟩ : ∃ k, m = k + 3 := ⟨m - 3, Nat.eq_add_of_sub_eq hm rfl⟩
      rw [run?_closing hinside] at hq'
      injection hq' with hq'
      rw [← hq'] at ha'
      exact absurd ha' (List.append_ne_nil_of_right_ne_nil _ (List.cons_ne_nil _ _))
  · obtain hopen | h := hrun (text.length + 5) [wrapper] q' (List.cons_ne_nil _ _) hq'
    · exact absurd ha' hopen
    · exact h

/-! ## patterns -/

theorem ofText?_eq_some_iff :
    ofText? text = some p ↔ ∃ depth, content? text = some (p, depth) ∧ p.fits depth = true := by
  unfold ofText?
  cases content? text with
  | none => simp
  | some x =>
      obtain ⟨p', depth⟩ := x
      show (if p'.fits depth = true then some p' else none) = some p ↔ _
      constructor
      · intro h
        split at h
        · injection h with h
          subst h
          exact ⟨depth, rfl, ‹_›⟩
        · contradiction
      · intro h
        obtain ⟨_, heq, hfits⟩ := h
        injection heq with heq
        injection heq with hp hd
        subst hp hd
        rw [if_pos hfits]

theorem fits_iff : p.fits depth = true ↔ depth ≤ maxDepth ∧ p.size ≤ maxSize := by
  simp [fits]

/-- The pattern of a text that is wrapped to be matched from start to end. -/
theorem whole?_eq_some_iff (h : content? text = some (p, depth)) :
    whole? text = some w ↔ w = between p ∧ Spliceable text p depth := by
  rw [whole?, ofText?_eq_some_iff]
  simp only [content?_wholeText h, fits_iff, Prod.mk.injEq]
  constructor
  · intro h
    obtain ⟨_, ⟨hcomment, rfl, rfl⟩, hdepth, hsize⟩ := h
    exact ⟨rfl, hcomment, hdepth, size_between p ▸ hsize⟩
  · intro h
    obtain ⟨rfl, hcomment, hdepth, hsize⟩ := h
    exact ⟨depth + 2, ⟨hcomment, rfl, rfl⟩, hdepth, (size_between p).symm ▸ hsize⟩

/-- **A text that is no pattern** stays none in the middle, unless it closes the group itself. -/
theorem unmatched_of_whole? (h : ofText? text = none) (hw : whole? text = some w) :
    Progress.Unmatched {} text := by
  cases hc : content? text with
  | none =>
      obtain ⟨d, hw, -⟩ := ofText?_eq_some_iff.mp hw
      exact unmatched_of_content?_wholeText hc hw
  | some x =>
      obtain ⟨p, depth⟩ := x
      obtain ⟨-, -, hdepth, hsize⟩ := (whole?_eq_some_iff hc).mp hw
      have hfits : p.fits depth = true := fits_iff.mpr ⟨by omega, by omega⟩
      rw [ofText?_eq_some_iff.mpr ⟨depth, hc, hfits⟩] at h
      contradiction

theorem ofText?_unmatched (h : Progress.Unmatched {} text) : ofText? text = none := by
  rw [ofText?, content?, h.run?_eq_none]
  rfl

end Pattern

end TreeSift
