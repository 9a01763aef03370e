import TreeSift.Expr.Parse

/-!
# TreeSift.Proofs.Expr.NumberToken

The text of a number token denotes a number.

A number token is a *numeral*: an optional sign, digits, and maybe a fraction and an exponent with
digits of their own.  A numeral is read back part by part, because each part ends before a character
that cannot go on with it.  It has a digit where the word for what is no number has a letter.
-/

namespace TreeSift

namespace Lexeme

/-- At least one digit, and nothing else. -/
def IsDigits (ds : List Char) : Prop := ds ≠ [] ∧ ∀ c ∈ ds, c.isDigit = true

/-- Nothing, or a point and digits. -/
def IsFraction (cs : List Char) : Prop := cs = [] ∨ ∃ ds, IsDigits ds ∧ cs = '.' :: ds

/-- Nothing, or `e` in either case, maybe a sign, and digits. -/
def IsExponent (cs : List Char) : Prop :=
  cs = [] ∨ ∃ c sign ds, (c = 'e' ∨ c = 'E') ∧ (sign = [] ∨ sign = ['+'] ∨ sign = ['-']) ∧
    IsDigits ds ∧ cs = c :: (sign ++ ds)

/-- The text of a number token. -/
structure IsNumeral (cs : List Char) : Prop where
  parts : ∃ sign whole fraction exponent, (sign = [] ∨ sign = ['-']) ∧ IsDigits whole ∧
    IsFraction fraction ∧ IsExponent exponent ∧ cs = sign ++ whole ++ fraction ++ exponent

/-! ## numerals are what is read -/

theorem isDigits_takeWhile {cs : List Char} (h : cs.takeWhile Char.isDigit ≠ []) :
    IsDigits (cs.takeWhile Char.isDigit) :=
  ⟨h, List.all_eq_true.mp List.all_takeWhile⟩

theorem isFraction_of_readFraction {cs : List Char} {p : List Char × List Char}
    (h : readFraction cs = .ok p) : IsFraction p.1 := by
  unfold readFraction at h
  split at h
  · next r =>
    dsimp only [digitRun] at h
    split at h
    · contradiction
    · next hne =>
      injection h with h
      subst h
      exact .inr ⟨_, isDigits_takeWhile hne, rfl⟩
  · injection h with h
    subst h
    exact .inl rfl

theorem readSignMark_fst (cs : List Char) :
    (readSignMark cs).1 = [] ∨ (readSignMark cs).1 = ['+'] ∨ (readSignMark cs).1 = ['-'] := by
  unfold readSignMark
  split
  · exact .inr (.inl rfl)
  · exact .inr (.inr rfl)
  · exact .inl rfl

theorem isExponent_readExponent (cs : List Char) : IsExponent (readExponent cs).1 := by
  unfold readExponent
  split
  · exact .inl rfl
  · next e r =>
    dsimp only [digitRun]
    split
    · next h => exact .inr ⟨e, _, _, h.1, readSignMark_fst r, isDigits_takeWhile h.2, rfl⟩
    · exact .inl rfl

theorem isNumeral_of_readNumber {sign cs : List Char} {l : Lexeme} {rest : List Char}
    (hs : sign = [] ∨ sign = ['-']) (h : readNumber sign cs = .ok (l, rest)) :
    ∃ text : String, l = .number text ∧ IsNumeral text.toList := by
  unfold readNumber at h
  dsimp only [digitRun] at h
  split at h
  · contradiction
  · next hw =>
    obtain ⟨q, hq, hp⟩ := exists_of_map_eq_ok h
    injection hp with hl _
    refine ⟨_, hl.symm, ⟨sign, _, _, _, hs, isDigits_takeWhile hw, isFraction_of_readFraction hq,
      isExponent_readExponent q.2, String.toList_ofList⟩⟩

/-! ## numerals are numbers -/

/-- A run of characters of one class ends before anything that is not in the class. -/
theorem takeWhile_run {p : Char → Bool} {ds rest : List Char} (hd : ∀ c ∈ ds, p c = true)
    (hr : ∀ c ∈ rest.head?, p c = false) :
    (ds ++ rest).takeWhile p = ds ∧ (ds ++ rest).dropWhile p = rest := by
  rw [List.takeWhile_append_of_pos hd, List.dropWhile_append_of_pos hd]
  cases rest with
  | nil => simp
  | cons c r =>
      have hc : p c = false := hr c rfl
      simp [hc]

theorem isDigit_eq_false_of_isExponent {cs : List Char} (h : IsExponent cs) :
    ∀ c ∈ cs.head?, c.isDigit = false := by
  obtain rfl | ⟨c, sign, ds, rfl | rfl, -, -, rfl⟩ := h
  · simp
  · intro c hc
    obtain rfl := Option.some.inj hc
    decide
  · intro c hc
    obtain rfl := Option.some.inj hc
    decide

theorem ne_of_isDigit {c d : Char} (h : c.isDigit = true) (hd : d.isDigit = false) : c ≠ d := by
  intro h
  subst h
  rw [h] at hd
  contradiction

theorem readExponent?_isSome {cs : List Char} (h : IsExponent cs) :
    (Number.readExponent? cs).isSome = true := by
  obtain rfl | ⟨c, sign, ds, hc, hs, ⟨hne, hd⟩, rfl⟩ := h
  · rfl
  · unfold Number.readExponent?
    dsimp only
    rw [if_pos hc]
    obtain rfl | rfl | rfl := hs
    · cases ds with
      | nil => contradiction
      | cons d ds =>
          have hminus : d ≠ '-' := ne_of_isDigit (hd d List.mem_cons_self) rfl
          have hplus : d ≠ '+' := ne_of_isDigit (hd d List.mem_cons_self) rfl
          rw [if_neg (by simpa [hminus, hplus] using hd)]
          rfl
    · rw [if_neg (by simpa using ⟨hne, hd⟩)]
      rfl
    · rw [if_neg (by simpa using ⟨hne, hd⟩)]
      rfl

/-- After a point come the digits of a fraction, and then the exponent. -/
theorem dropWhile_after_point {fraction exponent r : List Char} (hf : IsFraction fraction)
    (he : IsExponent exponent) (h : fraction ++ exponent = '.' :: r) :
    r.dropWhile Char.isDigit = exponent := by
  obtain rfl | ⟨ds, hds, rfl⟩ := hf
  · obtain rfl | ⟨c, sign, ds, rfl | rfl, -, -, rfl⟩ := he <;> cases h
  · injection h with _ h
    subst h
    exact (takeWhile_run hds.2 (isDigit_eq_false_of_isExponent he)).2

/-- Where no point comes, there is no fraction. -/
theorem append_of_no_point {fraction exponent : List Char} (hf : IsFraction fraction)
    (h : ∀ r, fraction ++ exponent ≠ '.' :: r) : fraction ++ exponent = exponent := by
  obtain rfl | ⟨ds, -, rfl⟩ := hf
  · rfl
  · exact absurd rfl (h (ds ++ exponent))

theorem isDigit_eq_false_of_isFraction {fraction exponent : List Char} (hf : IsFraction fraction)
    (he : IsExponent exponent) : ∀ c ∈ (fraction ++ exponent).head?, c.isDigit = false := by
  obtain rfl | ⟨ds, -, rfl⟩ := hf
  · exact isDigit_eq_false_of_isExponent he
  · intro c hc
    obtain rfl := Option.some.inj hc
    rfl

theorem readUnsigned?_isSome (negative : Bool) {whole fraction exponent : List Char}
    (hw : IsDigits whole) (hf : IsFraction fraction) (he : IsExponent exponent) :
    (Number.readUnsigned? negative (whole ++ fraction ++ exponent)).isSome = true := by
  have hexp := readExponent?_isSome he
  obtain ⟨h₁, h₂⟩ := takeWhile_run hw.2 (isDigit_eq_false_of_isFraction hf he)
  rw [List.append_assoc]
  unfold Number.readUnsigned?
  dsimp only
  split
  · rfl
  split
  · rfl
  rw [h₁, h₂, if_neg (by simp [hw.1]), Option.isSome_map]
  split
  · next r h =>
    rw [dropWhile_after_point hf he h]
    exact hexp
  · next h =>
    rw [append_of_no_point hf h]
    exact hexp

/-- A numeral denotes a double. -/
theorem read?_isSome {cs : List Char} (h : IsNumeral cs) : (Number.read? cs).isSome = true := by
  obtain ⟨sign, whole, fraction, exponent, hs, hw, hf, he, rfl⟩ := h.parts
  obtain rfl | rfl := hs
  · obtain ⟨hne, hd⟩ := id hw
    cases whole with
    | nil => contradiction
    | cons d ds =>
        have hminus : d ≠ '-' := ne_of_isDigit (hd d List.mem_cons_self) rfl
        have hplus : d ≠ '+' := ne_of_isDigit (hd d List.mem_cons_self) rfl
        have h := readUnsigned?_isSome false hw hf he
        simp only [List.nil_append, List.cons_append] at h ⊢
        unfold Number.read?
        split
        · next heq => exact absurd (List.cons.inj heq).1 hminus
        · next heq => exact absurd (List.cons.inj heq).1 hplus
        · exact h
  · exact readUnsigned?_isSome true hw hf he

/-- A numeral denotes a number: a whole one of 64 bits, or else a double. -/
theorem number?_isSome {cs : List Char} (h : IsNumeral cs) :
    (Grammar.number? cs).isSome = true := by
  have hread : ((Number.read? cs).map Value.double).isSome = true := by
    rw [Option.isSome_map]
    exact read?_isSome h
  unfold Grammar.number?
  dsimp only
  split
  · split
    · rfl
    · exact hread
  · exact hread

/-! ## numerals are not the word for what is no number -/

theorem isNaN_ofDecimal (negative : Bool) (digits : Nat) (exponent : Int) :
    (Binary64.ofDecimal negative digits exponent).isNaN = false := by
  unfold Binary64.ofDecimal
  repeat' split
  all_goals rfl

theorem toLower_of_isDigit {d : Char} (h : d.isDigit = true) : d.toLower = d := by
  have hnine : d.val ≤ '9'.val := by
    simp only [Char.isDigit, Bool.and_eq_true, decide_eq_true_eq] at h
    exact h.2
  refine dif_neg fun hupper => ?_
  exact absurd (UInt32.le_trans hupper.1 hnine) (by decide)

/-- What starts with a digit is not the word for what is no number. -/
theorem isNaN_of_readUnsigned? {negative : Bool} {d : Char} {r : List Char} {x : Binary64}
    (hd : d.isDigit = true) (h : Number.readUnsigned? negative (d :: r) = some x) :
    x.isNaN = false := by
  unfold Number.readUnsigned? at h
  dsimp only at h
  split at h
  · injection h with h
    exact h ▸ rfl
  split at h
  · next hnan =>
    have hlower : ((d :: r).map Char.toLower).head? = some 'n' := by
      rw [← String.toList_ofList (l := (d :: r).map Char.toLower), hnan]
      rfl
    rw [List.map_cons, List.head?_cons, toLower_of_isDigit hd] at hlower
    exact absurd (Option.some.inj hlower) (ne_of_isDigit hd rfl)
  split at h
  all_goals
    split at h
    · contradiction
    · obtain ⟨e, -, hx⟩ := Option.map_eq_some_iff.mp h
      exact hx ▸ isNaN_ofDecimal _ _ _

theorem isNaN_of_read? {cs : List Char} (h : IsNumeral cs) {x : Binary64}
    (hx : Number.read? cs = some x) : x.isNaN = false := by
  obtain ⟨sign, whole, fraction, exponent, hs, ⟨hne, hd⟩, -, -, rfl⟩ := h.parts
  cases whole with
  | nil => contradiction
  | cons d ds =>
      have hdigit : d.isDigit = true := hd d List.mem_cons_self
      obtain rfl | rfl := hs
      · unfold Number.read? at hx
        split at hx
        · next heq => exact absurd (List.cons.inj heq).1 (ne_of_isDigit hdigit rfl)
        · next heq => exact absurd (List.cons.inj heq).1 (ne_of_isDigit hdigit rfl)
        · exact isNaN_of_readUnsigned? hdigit hx
      · exact isNaN_of_readUnsigned? hdigit hx

/-- The number a numeral denotes is one. -/
theorem isNaN_of_number? {cs : List Char} (h : IsNumeral cs) {x : Binary64}
    (hx : Grammar.number? cs = some (.double x)) : x.isNaN = false := by
  have double (hx : (Number.read? cs).map Value.double = some (.double x)) : x.isNaN = false := by
    obtain ⟨y, hy, hyx⟩ := Option.map_eq_some_iff.mp hx
    injection hyx with hyx
    exact isNaN_of_read? h (hyx ▸ hy)
  unfold Grammar.number? at hx
  dsimp only at hx
  split at hx
  · split at hx
    · cases hx
    · exact double hx
  · exact double hx

theorem number?_ne_list {cs : List Char} {vs : List Value} :
    Grammar.number? cs ≠ some (.list vs) := by
  intro h
  unfold Grammar.number? at h
  dsimp only at h
  repeat' split at h
  all_goals simp at h

end Lexeme

end TreeSift
