import Mathlib.Data.List.DropRight
import TreeSift.Text.CharClass

/-!
# TreeSift.Proofs.Text.Split

Texts taken apart and put together again.

Splitting at a separator undoes joining with it, as long as no piece has it, and is always undone by
it.  A start is dropped from exactly those texts that have it, and a part is looked for as a start of
every end.  What is trimmed has no blank left at its ends.  The bytes of a text are those of its
parts.
-/

namespace TreeSift

namespace Text

variable {sep : Char}

/-! ## pieces -/

theorem splitAt_of_not_mem {cs : List Char} (h : sep ∉ cs) : splitAt sep cs = [cs] := by
  induction cs with
  | nil => rfl
  | cons c cs ih =>
      rw [List.mem_cons, not_or] at h
      obtain ⟨hc, hcs⟩ := h
      simp [splitAt, Ne.symm hc, ih hcs]

theorem splitAt_append {cs : List Char} (h : sep ∉ cs) (rest : List Char) :
    splitAt sep (cs ++ sep :: rest) = cs :: splitAt sep rest := by
  induction cs with
  | nil => simp [splitAt]
  | cons c cs ih =>
      rw [List.mem_cons, not_or] at h
      obtain ⟨hc, hcs⟩ := h
      simp [splitAt, Ne.symm hc, ih hcs]

/-- Splitting undoes joining with a separator that no piece has. -/
theorem splitAt_joinWith {ps : List (List Char)} (hne : ps ≠ [])
    (h : ∀ p ∈ ps, sep ∉ p) : splitAt sep (joinWith [sep] ps) = ps := by
  fun_induction joinWith [sep] ps with
  | case1 => contradiction
  | case2 p => exact splitAt_of_not_mem (h p List.mem_cons_self)
  | case3 p ps hps ih =>
      obtain ⟨hp, hps'⟩ := List.forall_mem_cons.mp h
      rw [List.append_assoc, List.singleton_append, splitAt_append hp, ih hps hps']

theorem mem_joinWith {c : Char} {ps : List (List Char)} (h : c ∈ joinWith [sep] ps) :
    c = sep ∨ ∃ p ∈ ps, c ∈ p := by
  fun_induction joinWith [sep] ps with
  | case1 => contradiction
  | case2 p => exact .inr ⟨p, List.mem_cons_self, h⟩
  | case3 p ps hps ih =>
      simp only [List.mem_append, List.mem_singleton] at h
      obtain (h | h) | h := h
      · exact .inr ⟨p, List.mem_cons_self, h⟩
      · exact .inl h
      · obtain h | ⟨q, hq, hc⟩ := ih h
        · exact .inl h
        · exact .inr ⟨q, List.mem_cons_of_mem p hq, hc⟩

/-- Joining undoes splitting. -/
theorem joinWith_splitAt (sep : Char) (cs : List Char) : joinWith [sep] (splitAt sep cs) = cs := by
  induction cs with
  | nil => rfl
  | cons c cs ih =>
      rw [splitAt]
      split
      · next h =>
        cases hs : splitAt sep cs with
        | nil =>
            rw [hs] at ih
            subst ih
            contradiction
        | cons p ps =>
            rw [hs] at ih
            rw [joinWith, ih, h]
            · rfl
            · simp
      · split
        · next h =>
          rw [h] at ih
          rw [← ih]
          rfl
        · next p ps h =>
          rw [h] at ih
          rw [← ih]
          cases ps <;> rfl

theorem splitAt_ne_nil (sep : Char) (cs : List Char) : splitAt sep cs ≠ [] := by
  cases cs with
  | nil => simp [splitAt]
  | cons c cs =>
      rw [splitAt]
      split
      · simp
      · split <;> simp

theorem not_mem_of_mem_splitAt {cs p : List Char} (h : p ∈ splitAt sep cs) : sep ∉ p := by
  induction cs generalizing p with
  | nil =>
      obtain rfl := List.mem_singleton.mp h
      simp
  | cons c cs ih =>
      rw [splitAt] at h
      split at h
      · obtain rfl | h := List.mem_cons.mp h
        · simp
        · exact ih h
      · next hc =>
        split at h
        · obtain rfl := List.mem_singleton.mp h
          simpa using Ne.symm hc
        · next q qs hs =>
          rw [hs] at ih
          obtain rfl | h := List.mem_cons.mp h
          · rw [List.mem_cons, not_or]
            exact ⟨Ne.symm hc, ih List.mem_cons_self⟩
          · exact ih (List.mem_cons_of_mem q h)

theorem mem_of_mem_splitAt {cs p : List Char} {c : Char} (h : p ∈ splitAt sep cs)
    (hc : c ∈ p) : c ∈ cs := by
  induction cs generalizing p with
  | nil =>
      obtain rfl := List.mem_singleton.mp h
      contradiction
  | cons d cs ih =>
      rw [splitAt] at h
      split at h
      · obtain rfl | h := List.mem_cons.mp h
        · contradiction
        · exact List.mem_cons_of_mem d (ih h hc)
      · split at h
        · next hs => exact absurd hs (splitAt_ne_nil sep cs)
        · next q qs hs =>
          rw [hs] at ih
          obtain rfl | h := List.mem_cons.mp h
          · obtain rfl | hc := List.mem_cons.mp hc
            · exact List.mem_cons_self
            · exact List.mem_cons_of_mem d (ih List.mem_cons_self hc)
          · exact List.mem_cons_of_mem d (ih (List.mem_cons_of_mem q h) hc)

/-! ## starts -/

theorem dropPrefix?_eq_some_iff {start cs rest : List Char} :
    dropPrefix? start cs = some rest ↔ cs = start ++ rest := by
  fun_induction dropPrefix? start cs with
  | case1 cs => simp [eq_comm]
  | case2 s ss => simp
  | case3 s ss cs ih => simpa using ih
  | case4 s ss c cs hne => simp [Ne.symm hne]

theorem isSome_dropPrefix? {start cs : List Char} :
    (dropPrefix? start cs).isSome = true ↔ start <+: cs := by
  rw [Option.isSome_iff_exists]
  exact exists_congr fun rest => dropPrefix?_eq_some_iff.trans eq_comm

theorem isInfix_iff {part cs : List Char} : isInfix part cs = true ↔ part <:+: cs := by
  induction cs with
  | nil => simp [isInfix]
  | cons c cs ih =>
      rw [isInfix, List.infix_cons_iff, ← ih, ← isSome_dropPrefix?]
      exact Bool.or_eq_true_iff

/-! ## blanks at the ends -/

theorem trim_prefix_trimStart (cs : List Char) : trim cs <+: trimStart cs :=
  List.rdropWhile_prefix CharClass.isBlank (l := trimStart cs)

theorem mem_of_mem_trim {c : Char} {cs : List Char} (h : c ∈ trim cs) : c ∈ cs :=
  (List.dropWhile_sublist CharClass.isBlank).mem ((trim_prefix_trimStart cs).subset h)

theorem trimStart_trim (cs : List Char) : trimStart (trim cs) = trim cs := by
  cases h : trim cs with
  | nil => rfl
  | cons c r =>
      obtain ⟨s, hs⟩ := trim_prefix_trimStart cs
      have hc : CharClass.isBlank c = false := by
        have hhead := List.head?_dropWhile_not CharClass.isBlank cs
        rw [← trimStart, ← hs, h] at hhead
        simpa using hhead
      exact List.dropWhile_cons_of_neg (by simp [hc])

theorem trim_trim (cs : List Char) : trim (trim cs) = trim cs := by
  have hend : trimEnd (trim cs) = trim cs :=
    List.rdropWhile_idempotent CharClass.isBlank (trimStart cs)
  rw [trim, trimStart_trim, hend]

/-- What is no blank is not trimmed. -/
theorem mem_trim {c : Char} {cs : List Char} (hc : c ∈ cs) (hblank : CharClass.isBlank c = false) :
    c ∈ trim cs := by
  have kept {cs : List Char} (hc : c ∈ cs) : c ∈ cs.dropWhile CharClass.isBlank := by
    rw [← List.takeWhile_append_dropWhile (p := CharClass.isBlank) (l := cs)] at hc
    refine (List.mem_append.mp hc).resolve_left fun htaken => ?_
    exact Bool.false_ne_true (hblank.symm.trans (List.mem_takeWhile_imp htaken))
  exact List.mem_reverse.mpr (kept (List.mem_reverse.mpr (kept hc)))

/-- A text with no blank at its ends has nothing to trim. -/
theorem trim_of_ends {cs : List Char} (hfirst : ∀ c ∈ cs.head?, CharClass.isBlank c = false)
    (hlast : ∀ c ∈ cs.getLast?, CharClass.isBlank c = false) : trim cs = cs := by
  have hstart : trimStart cs = cs := by
    cases cs with
    | nil => rfl
    | cons c r => exact List.dropWhile_cons_of_neg (by simp [hfirst c rfl])
  rw [trim, hstart]
  refine List.rdropWhile_eq_self_iff.mpr fun hne => ?_
  simp [hlast _ (List.getLast?_eq_some_getLast hne)]

theorem isBlank_getLast?_trim {cs : List Char} :
    ∀ c ∈ (trim cs).getLast?, CharClass.isBlank c = false := by
  intro c hc
  have hne : trim cs ≠ [] := by
    rintro hnil
    simp [hnil] at hc
  rw [List.getLast?_eq_some_getLast hne] at hc
  obtain rfl := Option.some.inj hc
  exact Bool.eq_false_iff.mpr (List.rdropWhile_last_not CharClass.isBlank (trimStart cs) hne)

/-! ## bytes -/

@[simp] theorem byteLength_nil : byteLength [] = 0 := rfl

@[simp] theorem byteLength_cons (c : Char) (cs : List Char) :
    byteLength (c :: cs) = c.utf8Size + byteLength cs := by
  have h (n : Nat) : cs.foldl (fun n c => n + c.utf8Size) n = n + byteLength cs := by
    unfold byteLength
    induction cs generalizing n with
    | nil => rfl
    | cons c cs ih =>
        rw [List.foldl_cons, List.foldl_cons, ih, ih (0 + _), Nat.zero_add, Nat.add_assoc]
  rw [byteLength, List.foldl_cons, h, Nat.zero_add]

@[simp] theorem byteLength_append (as bs : List Char) :
    byteLength (as ++ bs) = byteLength as + byteLength bs := by
  induction as with
  | nil => simp
  | cons a as ih => simp [ih, Nat.add_assoc]

theorem length_le_byteLength (cs : List Char) : cs.length ≤ byteLength cs := by
  induction cs with
  | nil => exact Nat.le_refl _
  | cons c cs ih =>
      have hc := Char.utf8Size_pos c
      rw [List.length_cons, byteLength_cons]
      omega

end Text

end TreeSift
