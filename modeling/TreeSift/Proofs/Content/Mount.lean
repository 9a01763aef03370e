import TreeSift.Proofs.Content.Lookup

/-!
# TreeSift.Proofs.Content.Mount

The root of a tree, looked up by the text it was mounted at and by its own path.

1. Normalising cuts off blanks, and after that the slashes at the end.  What is left ends in no
   slash, but in a blank if there is one before the slashes; and it is in normal form itself exactly
   if it does not (`normalize_normalize_iff`).
2. The text of the mount always leads to the root, as the root's path is its normal form.  But that
   path is normalised again when it is looked up, and leads nowhere if this makes it shorter.
-/

namespace TreeSift

open Node

namespace Tree

/-- The text ends in a blank. -/
def EndsBlank (cs : List Char) : Prop := ∃ c ∈ cs.getLast?, CharClass.isBlank c = true

/-- Without the blanks at its ends, the text ends in a blank and slashes after it. -/
def BlankBeforeSlashes (cs : List Char) : Prop :=
  ∃ front c n, Text.trim cs = front ++ c :: List.replicate n '/' ∧ CharClass.isBlank c = true

/-! ## cutting off slashes -/

/-- The text without the blanks at its ends, and then without the slashes at its end. -/
def cut (cs : List Char) : List Char := (Text.trim cs).rdropWhile (· == '/')

theorem normalize_eq (cs : List Char) :
    normalize cs = if (cut cs).head? = some '/' then cut cs else '/' :: cut cs := by
  have hcut : ((Text.trim cs).reverse.dropWhile (· == '/')).reverse = cut cs := rfl
  unfold normalize
  rw [hcut]
  cases cut cs with
  | nil => rfl
  | cons c r =>
      by_cases hslash : c = '/'
      · subst hslash
        rfl
      · simp [hslash]

theorem endsBlank_concat {front : List Char} {c : Char} :
    EndsBlank (front ++ [c]) ↔ CharClass.isBlank c = true := by
  simp [EndsBlank]

theorem endsBlank_cons {c : Char} {cs : List Char} (hc : CharClass.isBlank c = false) :
    EndsBlank (c :: cs) ↔ EndsBlank cs := by
  cases cs with
  | nil => simp [EndsBlank, hc]
  | cons d ds => simp [EndsBlank]

theorem endsBlank_normalize_iff {cs : List Char} :
    EndsBlank (normalize cs) ↔ EndsBlank (cut cs) := by
  rw [normalize_eq]
  split
  · rfl
  · exact endsBlank_cons (by decide)

/-- What is cut off are slashes, so a blank is left at the end if it stands before them. -/
theorem blankBeforeSlashes_iff {cs : List Char} :
    BlankBeforeSlashes cs ↔ EndsBlank (cut cs) := by
  constructor
  · rintro ⟨front, c, n, htrim, hc⟩
    have hslash : c ≠ '/' := by
      rintro rfl
      contradiction
    have hcut : cut cs = front ++ [c] := by
      rw [cut, htrim, List.rdropWhile, List.reverse_append, List.reverse_cons,
        List.reverse_replicate, List.append_assoc,
        List.dropWhile_append_of_pos (by simp +contextual), List.singleton_append,
        List.dropWhile_cons_of_neg (by simpa using hslash)]
      simp
    rw [hcut, endsBlank_concat]
    exact hc
  · rintro ⟨c, hc, hblank⟩
    obtain ⟨front, hfront⟩ := List.getLast?_eq_some_iff.mp hc
    let slashes := (Text.trim cs).rtakeWhile (· == '/')
    have hslashes : slashes = List.replicate slashes.length '/' :=
      List.eq_replicate_iff.mpr ⟨rfl, fun d hd => by simpa using List.mem_rtakeWhile_imp hd⟩
    have happend : cut cs ++ slashes = Text.trim cs := List.rdropWhile_append_rtakeWhile
    refine ⟨front, c, slashes.length, ?_, hblank⟩
    rw [← happend, hfront, ← hslashes, List.append_assoc, List.singleton_append]

/-! ## normal form -/

theorem trim_slash_cons (r : List Char) :
    Text.trim ('/' :: r) = ('/' :: r).rdropWhile CharClass.isBlank := by
  have hstart : Text.trimStart ('/' :: r) = '/' :: r := List.dropWhile_cons_of_neg (by decide)
  rw [Text.trim, hstart]
  rfl

theorem ne_slash_of_cut {cs : List Char} {c : Char} (h : (cut cs).getLast? = some c) :
    c ≠ '/' := by
  have hne : cut cs ≠ [] := by
    rintro hnil
    simp [hnil] at h
  rw [List.getLast?_eq_some_getLast hne] at h
  injection h with h
  subst h
  have hlast := List.rdropWhile_last_not (· == '/') (Text.trim cs) hne
  exact fun heq => hlast (beq_iff_eq.mpr heq)

/-- A normal form ends in no slash, unless it is one. -/
theorem normalize_end (cs : List Char) :
    normalize cs = ['/'] ∨ ∃ front c, normalize cs = front ++ [c] ∧ c ≠ '/' := by
  obtain hnil | ⟨front, c, hc⟩ := List.eq_nil_or_concat' (cut cs)
  · exact .inl (by simp [normalize_eq, hnil])
  · have hslash : c ≠ '/' := ne_slash_of_cut (List.getLast?_eq_some_iff.mpr ⟨front, hc⟩)
    refine .inr ?_
    rw [normalize_eq]
    split
    · exact ⟨front, c, hc, hslash⟩
    · exact ⟨'/' :: front, c, by rw [hc, List.cons_append], hslash⟩

/-- A text that ends in a blank gets shorter. -/
theorem length_normalize_lt {r : List Char} (h : EndsBlank ('/' :: r)) :
    (normalize ('/' :: r)).length < ('/' :: r).length := by
  obtain ⟨c, hc, hblank⟩ := (endsBlank_cons (by decide)).mp h
  obtain ⟨front, rfl⟩ := List.getLast?_eq_some_iff.mp hc
  have hprefix : cut ('/' :: (front ++ [c])) <+: '/' :: front := by
    rw [cut, trim_slash_cons, ← List.cons_append, List.rdropWhile_concat_pos _ _ _ hblank]
    exact (List.rdropWhile_prefix _ _).trans (List.rdropWhile_prefix _ _)
  rw [normalize_eq]
  cases hcut : cut ('/' :: (front ++ [c])) with
  | nil => simp
  | cons d ds =>
      rw [hcut] at hprefix
      obtain ⟨rfl, -⟩ := List.cons_prefix_cons.mp hprefix
      have hle := hprefix.length_le
      simp at hle ⊢
      omega

theorem normalize_normalize_iff {cs : List Char} :
    normalize (normalize cs) = normalize cs ↔ ¬ EndsBlank (normalize cs) := by
  obtain ⟨r, hr⟩ := normalize_rooted cs
  constructor
  · intro heq hblank
    rw [hr] at heq hblank
    have hlt := length_normalize_lt hblank
    rw [heq] at hlt
    exact absurd hlt (Nat.lt_irrefl _)
  · intro hblank
    obtain hslash | ⟨front, c, hfront, hc⟩ := normalize_end cs
    · rw [hslash]
      rfl
    · rw [hfront, endsBlank_concat, Bool.not_eq_true] at hblank
      rw [hr] at hfront ⊢
      exact normalize_of_ends hfront hblank hc

/-! ## the root -/

/-- A path that is shorter than the root's is not below it. -/
theorem below?_eq_none {root path : List Char} (hne : path ≠ [])
    (h : path.length < root.length) : below? root path = none := by
  have hpos := List.length_pos_iff.mpr hne
  have hroot : root ≠ ['/'] := by
    rintro rfl
    rw [List.length_singleton] at h
    omega
  unfold below?
  rw [if_neg (by rintro rfl; omega), if_neg hroot, Option.bind_eq_none_iff]
  intro rest hrest
  rw [Text.dropPrefix?_eq_some_iff.mp hrest, List.length_append] at h
  omega

/-- **The root is found at its own path unless that ends in a blank.**  It is always found at the
text that it was mounted at.  At its own path it is found exactly if normalising leaves that path as
it is, that is if in the text of the mount, without the blanks at its ends, no blank stands before
the slashes at the end.  If one does, nothing is found there. -/
theorem get?_path_root (at' : String) (node : Node) :
    let t := mount at' node
    t.get? at' = some t.root ∧
    (t.get? t.root.path = some t.root ↔ normalize t.root.path.toList = t.root.path.toList) ∧
    (normalize t.root.path.toList = t.root.path.toList ↔ ¬ BlankBeforeSlashes at'.toList) ∧
    (t.get? t.root.path = none ↔ BlankBeforeSlashes at'.toList) := by
  intro t
  have hpath : t.root.path.toList = normalize at'.toList := toList_path_root_of_mount rfl
  have hblank : normalize t.root.path.toList = t.root.path.toList ↔
      ¬ BlankBeforeSlashes at'.toList := by
    rw [hpath, normalize_normalize_iff, endsBlank_normalize_iff, blankBeforeSlashes_iff]
  have hself (path : String) (h : normalize path.toList = t.root.path.toList) :
      t.get? path = some t.root := by
    rw [get?, h, below?, if_pos rfl]
    rfl
  have hnone (h : normalize t.root.path.toList ≠ t.root.path.toList) :
      t.get? t.root.path = none := by
    obtain ⟨r, hr⟩ := normalize_rooted at'.toList
    obtain ⟨r', hr'⟩ := normalize_rooted t.root.path.toList
    rw [hpath] at h
    have hend := normalize_normalize_iff.not_left.mp h
    rw [hr] at hend
    have hlt := length_normalize_lt hend
    rw [← hr, ← hpath] at hlt
    rw [get?, below?_eq_none (by rw [hr']; exact List.cons_ne_nil _ _) hlt]
    rfl
  have hmount := hself at' hpath.symm
  by_cases h : normalize t.root.path.toList = t.root.path.toList
  · have hfound := hself _ h
    exact ⟨hmount, by simp [hfound, h], hblank, by simp [hfound, hblank.mp h]⟩
  · have hmissing := hnone h
    exact ⟨hmount, by simp [hmissing, h], hblank, by simp [hmissing, hblank.not_left.mp h]⟩

/-- Mounted at `a /` a root has the path `/a `.  Looking that up looks for `/a`, which is not it. -/
theorem not_get?_path_root_cut :
    let t := mount "a /" (named "")
    t.root.path = "/a " ∧ t.get? "a /" = some t.root ∧ t.get? t.root.path = none := by
  intro t
  have hbelow : below? t.root.path.toList (normalize "a /".toList) = some [] := by decide +kernel
  have hbelow' : below? t.root.path.toList (normalize t.root.path.toList) = none := by
    decide +kernel
  exact ⟨by decide +kernel, by rw [get?, hbelow]; rfl, by rw [get?, hbelow']; rfl⟩

end Tree

end TreeSift
