import TreeSift.Proofs.Text.Split
import TreeSift.Query.Parameter

/-!
# TreeSift.Proofs.Query.Parameter

The names of parameters written as `name=value`.

1. Blanks are trimmed from a name before its dollar signs are dropped, and not again afterwards.  A
   blank between the signs and the rest therefore stays in front of it.
2. That is the only way for a name not to be plain, and the only one for it to change when it is
   written and read again (`isPlainName_nameOf_iff`, `nameOf_nameOf_iff`).  A name is missing
   exactly if blanks, signs and again blanks are all there is (`nameOf_ne_nil_iff`).
3. The value is a document wherever it can be (`valueOf_spec`).
-/

namespace TreeSift

open CharClass

namespace Parameter

/-- A name with no blank at its ends and no dollar sign in front. -/
structure IsPlainName (cs : List Char) : Prop where
  ne_nil : cs ≠ []
  first : ∀ c ∈ cs.head?, c ≠ '$' ∧ isBlank c = false
  last : ∀ c ∈ cs.getLast?, isBlank c = false

/-- Without the blanks at its ends, the text starts with dollar signs and a blank after them. -/
def BlankAfterSigns (cs : List Char) : Prop :=
  ∃ n c back, Text.trim cs = List.replicate n '$' ++ c :: back ∧ isBlank c = true

/-- The first `=` of the text stands between these two. -/
structure Divides (text before value : List Char) : Prop where
  append : text = before ++ '=' :: value
  first : '=' ∉ before

variable {cs : List Char}

/-! ## names -/

theorem nameOf_suffix (cs : List Char) : nameOf cs <:+ Text.trim cs := List.dropWhile_suffix _

theorem ne_sign_of_head? : ∀ c ∈ (nameOf cs).head?, c ≠ '$' := by
  intro c hc
  have hhead := List.head?_dropWhile_not (· == '$') (Text.trim cs)
  rw [← nameOf, hc] at hhead
  simpa using hhead

theorem isBlank_getLast?_nameOf : ∀ c ∈ (nameOf cs).getLast?, isBlank c = false := by
  intro c hc
  obtain ⟨signs, hsigns⟩ := nameOf_suffix cs
  have hne : nameOf cs ≠ [] := by
    rintro hnil
    simp [hnil] at hc
  have hlast : (nameOf cs).getLast? = (Text.trim cs).getLast? := by
    rw [← hsigns, List.getLast?_append_of_ne_nil _ hne]
  exact Text.isBlank_getLast?_trim c (hlast ▸ hc)

theorem nameOf_of_isPlainName (h : IsPlainName cs) : nameOf cs = cs := by
  rw [nameOf, Text.trim_of_ends (fun c hc => (h.first c hc).2) h.last]
  cases cs with
  | nil => rfl
  | cons c r => exact List.dropWhile_cons_of_neg (by simp [(h.first c rfl).1])

/-- What is left of such a text starts with the blank. -/
theorem blankAfterSigns_iff :
    BlankAfterSigns cs ↔ ∃ c back, nameOf cs = c :: back ∧ isBlank c = true := by
  constructor
  · rintro ⟨n, c, back, htrim, hc⟩
    have hsign : c ≠ '$' := by
      rintro rfl
      contradiction
    refine ⟨c, back, ?_, hc⟩
    rw [nameOf, htrim, List.dropWhile_append_of_pos (by simp +contextual),
      List.dropWhile_cons_of_neg (by simpa using hsign)]
  · rintro ⟨c, back, hname, hc⟩
    let signs := (Text.trim cs).takeWhile (· == '$')
    have hsigns : signs = List.replicate signs.length '$' :=
      List.eq_replicate_iff.mpr ⟨rfl, fun d hd => by simpa using List.mem_takeWhile_imp hd⟩
    refine ⟨signs.length, c, back, ?_, hc⟩
    rw [← hsigns, ← hname]
    exact List.takeWhile_append_dropWhile.symm

theorem not_blankAfterSigns_iff :
    ¬BlankAfterSigns cs ↔ ∀ c ∈ (nameOf cs).head?, isBlank c = false := by
  rw [blankAfterSigns_iff]
  cases nameOf cs <;> simp

theorem isPlainName_nameOf_iff (hne : nameOf cs ≠ []) :
    IsPlainName (nameOf cs) ↔ ¬BlankAfterSigns cs := by
  rw [not_blankAfterSigns_iff]
  refine ⟨fun h c hc => (h.first c hc).2, fun h => ⟨hne, fun c hc => ?_, isBlank_getLast?_nameOf⟩⟩
  exact ⟨ne_sign_of_head? c hc, h c hc⟩

/-- A name is left if there is anything but blanks and signs, or a blank after signs. -/
theorem nameOf_ne_nil_iff :
    nameOf cs ≠ [] ↔ (∃ c ∈ cs, isBlank c = false ∧ c ≠ '$') ∨ BlankAfterSigns cs := by
  constructor
  · intro hne
    obtain ⟨c, back, hname⟩ := List.exists_cons_of_ne_nil hne
    cases hblank : isBlank c with
    | true => exact .inr (blankAfterSigns_iff.mpr ⟨c, back, hname, hblank⟩)
    | false =>
        have hc : c ∈ nameOf cs := hname ▸ List.mem_cons_self
        exact .inl ⟨c, Text.mem_of_mem_trim ((nameOf_suffix cs).subset hc), hblank,
          ne_sign_of_head? c (by rw [hname]; rfl)⟩
  · rintro (⟨c, hc, hblank, hsign⟩ | hafter) hnil
    · have hall := List.dropWhile_eq_nil_iff.mp hnil c (Text.mem_trim hc hblank)
      exact hsign (beq_iff_eq.mp hall)
    · obtain ⟨c, back, hname, -⟩ := blankAfterSigns_iff.mp hafter
      rw [hname] at hnil
      contradiction

/-- A name is its own name unless it starts with a blank, which gets lost. -/
theorem nameOf_nameOf_iff (hne : nameOf cs ≠ []) :
    nameOf (nameOf cs) = nameOf cs ↔ ¬BlankAfterSigns cs := by
  constructor
  · intro heq hafter
    obtain ⟨c, back, hname, hc⟩ := blankAfterSigns_iff.mp hafter
    have hstart : Text.trimStart (c :: back) = Text.trimStart back :=
      List.dropWhile_cons_of_pos hc
    have hle : (nameOf (c :: back)).length ≤ back.length :=
      calc (nameOf (c :: back)).length
        _ ≤ (Text.trim (c :: back)).length := (nameOf_suffix _).length_le
        _ ≤ (Text.trimStart (c :: back)).length := (Text.trim_prefix_trimStart _).length_le
        _ = (Text.trimStart back).length := by rw [hstart]
        _ ≤ back.length := (List.dropWhile_suffix _).length_le
    rw [hname] at heq
    rw [heq, List.length_cons] at hle
    omega
  · exact fun h => nameOf_of_isPlainName ((isPlainName_nameOf_iff hne).mpr h)

/-! ## whole parameters -/

variable {text before value : List Char}

theorem exists_divides (h : '=' ∈ text) : ∃ before value, Divides text before value := by
  obtain ⟨before, value, happend, hfirst⟩ := List.eq_append_cons_of_mem h
  exact ⟨before, value, happend, hfirst⟩

theorem ofText_of_not_mem (h : '=' ∉ text) :
    ofText text = .error (.noValue (String.ofList text)) := by
  have hdrop : text.dropWhile (· != '=') = [] := by
    refine List.dropWhile_eq_nil_iff.mpr fun c hc => ?_
    simpa using ne_of_mem_of_not_mem hc h
  rw [ofText, hdrop]

theorem ofText_of_divides (h : Divides text before value) :
    ofText text = if (nameOf before).isEmpty then .error (.noName (String.ofList text))
      else .ok (String.ofList (nameOf before), valueOf value) := by
  obtain ⟨rfl, hfirst⟩ := h
  have hbefore : ∀ c ∈ before, (c != '=') = true := fun c hc => by
    simpa using ne_of_mem_of_not_mem hc hfirst
  have htake : (before ++ '=' :: value).takeWhile (· != '=') = before := by
    simp [List.takeWhile_append_of_pos hbefore]
  have hdrop : (before ++ '=' :: value).dropWhile (· != '=') = '=' :: value := by
    simp [List.dropWhile_append_of_pos hbefore]
  rw [ofText, htake, hdrop]

/-- A parameter is read if something is left for its name. -/
theorem ofText_eq_ok_iff {p : String × Json} (h : Divides text before value) :
    ofText text = .ok p ↔
      nameOf before ≠ [] ∧ p = (String.ofList (nameOf before), valueOf value) := by
  rw [ofText_of_divides h]
  by_cases hnil : nameOf before = []
  · simp [hnil]
  · rw [if_neg (by simpa using hnil), Except.ok.injEq, eq_comm]
    exact (and_iff_right hnil).symm

theorem ofText_of_nameOf {name : List Char} (h : Divides text before value)
    (hname : nameOf before = name) (hne : name ≠ []) :
    ofText text = .ok (String.ofList name, valueOf value) :=
  (ofText_eq_ok_iff h).mpr ⟨hname ▸ hne, by rw [hname]⟩

/-- A document that is no object is the value; any other value is a text. -/
theorem valueOf_spec (value : List Char) :
    (∀ j, Json.read? value = some j → (∀ members, j ≠ .object members) → valueOf value = j) ∧
    (Json.read? value = none ∨ (∃ members, Json.read? value = some (.object members)) →
      valueOf value = .string (String.ofList value)) := by
  unfold valueOf
  constructor
  · intro j hj hobject
    rw [hj]
    cases j with
    | object members => exact absurd rfl (hobject members)
    | _ => rfl
  · rintro (hnone | ⟨members, hmembers⟩)
    · rw [hnone]
    · rw [hmembers]

/-- **The name of a parameter is plain, unless it is written with a blank after a dollar sign.**  A
text is a parameter if and only if it has a `=`, and in front of the first one something that is
neither a blank nor a dollar sign, or else a blank after signs and something after the blank.  The
name is not empty, starts with no sign and ends in no blank.  It starts with no blank, and is read
again from the name and any other value, if and only if no blank comes after signs.  The value is
the document that is written after the `=`, if there is one and it is no object, and otherwise the
text itself. -/
theorem ofText_plain (text : List Char) :
    ((∃ p, ofText text = .ok p) ↔ ∃ before value, Divides text before value ∧
      ((∃ c ∈ before, isBlank c = false ∧ c ≠ '$') ∨ BlankAfterSigns before)) ∧
    ∀ before value, Divides text before value → ∀ name j, ofText text = .ok (name, j) →
      (name.toList ≠ [] ∧ (∀ c ∈ name.toList.head?, c ≠ '$') ∧
        ∀ c ∈ name.toList.getLast?, isBlank c = false) ∧
      (IsPlainName name.toList ↔ ¬BlankAfterSigns before) ∧
      ((∀ other, ∃ j', ofText (name.toList ++ '=' :: other) = .ok (name, j')) ↔
        ¬BlankAfterSigns before) ∧
      (∀ d, Json.read? value = some d → (∀ members, d ≠ .object members) → j = d) ∧
      (Json.read? value = none ∨ (∃ members, Json.read? value = some (.object members)) →
        j = .string (String.ofList value)) := by
  constructor
  · constructor
    · rintro ⟨p, hp⟩
      by_cases heq : '=' ∈ text
      · obtain ⟨before, value, hdivides⟩ := exists_divides heq
        exact ⟨before, value, hdivides, nameOf_ne_nil_iff.mp ((ofText_eq_ok_iff hdivides).mp hp).1⟩
      · rw [ofText_of_not_mem heq] at hp
        contradiction
    · rintro ⟨before, value, hdivides, hname⟩
      exact ⟨_, (ofText_eq_ok_iff hdivides).mpr ⟨nameOf_ne_nil_iff.mpr hname, rfl⟩⟩
  · intro before value hdivides name j hread
    obtain ⟨hne, hp⟩ := (ofText_eq_ok_iff hdivides).mp hread
    obtain ⟨rfl, rfl⟩ := Prod.mk.inj hp
    rw [String.toList_ofList]
    -- the name is cut out of what stands before the first `=`
    have hfirst : '=' ∉ nameOf before := fun h =>
      hdivides.first (Text.mem_of_mem_trim ((nameOf_suffix before).subset h))
    have hagain : (∀ other, ∃ j', ofText (nameOf before ++ '=' :: other) =
        .ok (String.ofList (nameOf before), j')) ↔ nameOf (nameOf before) = nameOf before := by
      have hread (other : List Char) (j' : Json) := ofText_eq_ok_iff
        (p := (String.ofList (nameOf before), j')) (⟨rfl, hfirst⟩ : Divides _ _ other)
      constructor
      · intro h
        obtain ⟨j', hj'⟩ := h []
        exact (String.ofList_injective (Prod.mk.inj ((hread [] j').mp hj').2).1).symm
      · exact fun h other => ⟨_, (hread other _).mpr ⟨by rwa [h], by rw [h]⟩⟩
    exact ⟨⟨hne, ne_sign_of_head?, isBlank_getLast?_nameOf⟩, isPlainName_nameOf_iff hne,
      hagain.trans (nameOf_nameOf_iff hne), valueOf_spec value⟩

theorem read?_true : Json.read? "true".toList = some (.boolean true) := by
  simp [Json.read?, Json.readNested?, Json.readValue?, Json.skipBlanks, Json.isBlank,
    Json.dropWord?]

theorem read?_x : Json.read? "x".toList = none := by
  simp [Json.read?, Json.readNested?, Json.readValue?, Json.skipBlanks, Json.isBlank,
    Json.readNumber?, Json.readUnsigned?]

theorem valueOf_true : valueOf "true".toList = .boolean true :=
  (valueOf_spec _).1 _ read?_true (by simp)

/-- The name in ` $flag=true` is `flag`, with which any other value can be given.  In `$ a=true`
there is a blank after the sign, so the name is not plain. -/
theorem ofText_plain_flag :
    (Divides " $flag=true".toList " $flag".toList "true".toList ∧
      ofText " $flag=true".toList = .ok ("flag", .boolean true) ∧
      IsPlainName "flag".toList ∧
      (∃ j, ofText ("flag".toList ++ '=' :: "=".toList) = .ok ("flag", j)) ∧
      Json.read? "true".toList = some (.boolean true)) ∧
    (∃ p, ofText "$ a=true".toList = .ok p) ∧ ¬IsPlainName " a".toList := by
  have hflag : nameOf " $flag".toList = "flag".toList := by decide +kernel
  have hdivides : Divides " $flag=true".toList " $flag".toList "true".toList := ⟨rfl, by decide⟩
  have hread : ofText " $flag=true".toList = .ok ("flag", .boolean true) := by
    rw [ofText_of_nameOf hdivides hflag (by decide), valueOf_true, String.ofList_toList]
  have hplain : ¬BlankAfterSigns " $flag".toList := by
    refine not_blankAfterSigns_iff.mpr fun c hc => ?_
    rw [hflag] at hc
    obtain rfl := Option.some.inj hc
    rfl
  have ha : nameOf "$ a".toList = " a".toList := by decide +kernel
  have hdivides' : Divides "$ a=true".toList "$ a".toList "true".toList := ⟨rfl, by decide⟩
  have hread' : ofText "$ a=true".toList = .ok (" a", .boolean true) := by
    rw [ofText_of_nameOf hdivides' ha (by decide), valueOf_true, String.ofList_toList]
  have hafter : BlankAfterSigns "$ a".toList := blankAfterSigns_iff.mpr ⟨' ', ['a'], ha, rfl⟩
  obtain ⟨-, hname, hagain, -⟩ := (ofText_plain _).2 _ _ hdivides _ _ hread
  obtain ⟨-, hname', -⟩ := (ofText_plain _).2 _ _ hdivides' _ _ hread'
  refine ⟨⟨hdivides, hread, hname.mpr hplain, hagain.mpr hplain _, read?_true⟩, ?_, ?_⟩
  · exact (ofText_plain _).1.mpr ⟨_, _, hdivides', .inr hafter⟩
  · exact fun h => hname'.mp h hafter

/-- In front of the first `=` of `$ $=x` there are only blanks and signs, and it is read all the
same.  The name in `$ a=true` starts with a blank, and is another one where it is written again. -/
theorem not_ofText_plain :
    ((∀ c ∈ "$ $".toList, isBlank c = true ∨ c = '$') ∧
      ofText "$ $=x".toList = .ok (" $", .string "x")) ∧
    (ofText "$ a=true".toList = .ok (" a", .boolean true) ∧
      ofText (" a".toList ++ '=' :: "true".toList) = .ok ("a", .boolean true)) := by
  have hblank : isBlank ' ' = true := rfl
  have hsign : nameOf "$ $".toList = " $".toList := by decide +kernel
  have hsigned : nameOf "$ a".toList = " a".toList := by decide +kernel
  have hagain : nameOf " a".toList = "a".toList := by decide +kernel
  have hx : valueOf "x".toList = .string "x" := by
    rw [(valueOf_spec _).2 (.inl read?_x), String.ofList_toList]
  have hdivides : Divides "$ $=x".toList "$ $".toList "x".toList := ⟨rfl, by decide⟩
  have hdivides' : Divides "$ a=true".toList "$ a".toList "true".toList := ⟨rfl, by decide⟩
  refine ⟨⟨by simpa using hblank, ?_⟩, ?_, ?_⟩
  · rw [ofText_of_nameOf hdivides hsign (by decide), hx, String.ofList_toList]
  · rw [ofText_of_nameOf hdivides' hsigned (by decide), valueOf_true, String.ofList_toList]
  · rw [ofText_of_nameOf ⟨rfl, by decide⟩ hagain (by decide), valueOf_true, String.ofList_toList]

end Parameter

end TreeSift
