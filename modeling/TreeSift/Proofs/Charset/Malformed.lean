import Mathlib.Order.Bounds.Basic
import TreeSift.Proofs.Charset.Decode
import TreeSift.Proofs.Charset.Following

/-!
# TreeSift.Proofs.Charset.Malformed

Where bytes cease to be text.

1. An exact step reads off whatever text is in front (`Exact.stuckAt?_append`), so it cannot fail
   before the end of any of these texts; and what it has read when it fails is one of them.  The
   place where it fails is therefore the length of the longest text in front
   (`Exact.isGreatest_of_stuckAt?`).
2. A Unicode encoding is read by a step that its decoder follows, so this is the place that the
   decoder's counts lead back to (`UnicodeForm.exists_fault_of_readAfter`).
3. Under a label of ASCII the place is that of the first byte that is not ASCII; without such a
   byte every byte is a character (`decode_ascii`).
-/

namespace TreeSift

namespace Charset

/-- The error names the encoding and the position, and no character. -/
def Reports (e : FilterError) (position : Nat) (encoding : String) : Prop :=
  ∃ err : LexError, e = .unreadable err ∧ err.position = position ∧
    err.expected.message = "valid " ++ encoding ++ " text" ∧ err.found = none

theorem reports_malformed (position : Nat) (encoding : String) :
    Reports (malformed position encoding) position encoding := ⟨_, rfl, rfl, rfl, rfl⟩

/-- The lengths of the texts that the bytes start with, in bytes. -/
def textLengths (write : Char → List UInt8) (bytes : List UInt8) : Set Nat :=
  {n | ∃ text : List Char, text.flatMap write <+: bytes ∧ (text.flatMap write).length = n}

/-! ## the longest text in front -/

namespace Exact

variable {step : Step} {write : Char → List UInt8}

/-- A text in front is read, and what comes after it is read as it is. -/
theorem stuckAt?_append (h : Exact step write) (text : List Char) (rest : List UInt8) :
    stuckAt? step (text.flatMap write ++ rest) =
      (stuckAt? step rest).map ((text.flatMap write).length + ·) := by
  induction text with
  | nil => simp
  | cons c text ih =>
      obtain ⟨b, bs, hc, hstep⟩ := h.reads c (text.flatMap write ++ rest)
      rw [List.flatMap_cons, hc, List.cons_append, List.cons_append, List.append_assoc, stuckAt?]
      simp only [hstep, List.drop_left, ih, Option.map_map]
      congr 1
      funext n
      simp only [Function.comp_apply, List.length_cons, List.length_append]
      omega

/-- A step says how many bytes it takes. -/
theorem length_write (h : Exact step write) {b : UInt8} {bs : List UInt8} {c : Char} {k : Nat}
    (hstep : step b bs = some ([c], k)) : (write c).length = k + 1 := by
  obtain ⟨d, hd, hbytes⟩ := h.written hstep
  obtain rfl : c = d := by simpa using hd
  obtain ⟨b', bs', hc, hreads⟩ := h.reads c (bs.drop k)
  rw [hc, List.cons_append, List.cons.injEq] at hbytes
  rw [← hbytes.1, ← hbytes.2, hstep] at hreads
  have hk : k = bs'.length := by simpa using hreads
  rw [hc, hk, List.length_cons]

/-- When a step fails, what has been read up to there is a text. -/
theorem exists_of_stuckAt? (h : Exact step write) {n : Nat} {bytes : List UInt8}
    (hs : stuckAt? step bytes = some n) :
    ∃ (text : List Char) (b : UInt8) (bs : List UInt8),
      bytes = text.flatMap write ++ b :: bs ∧ step b bs = none ∧
        n = (text.flatMap write).length := by
  fun_induction stuckAt? step bytes generalizing n with
  | case1 => contradiction
  | case2 b bs hstep =>
    obtain rfl := Option.some.inj hs
    exact ⟨[], b, bs, rfl, hstep, rfl⟩
  | case3 b bs cs k hstep ih =>
    obtain ⟨m, hm, rfl⟩ := Option.map_eq_some_iff.mp hs
    obtain ⟨text, b', bs', hrest, hstuck, rfl⟩ := ih hm
    obtain ⟨c, rfl, hbytes⟩ := h.written hstep
    refine ⟨c :: text, b', bs', ?_, hstuck, ?_⟩
    · rw [hbytes, hrest, List.flatMap_cons, List.append_assoc]
    · rw [List.flatMap_cons, List.length_append, h.length_write hstep]

/-- A step fails at the end of the longest text in front. -/
theorem isGreatest_of_stuckAt? (h : Exact step write) {n : Nat} {bytes : List UInt8}
    (hs : stuckAt? step bytes = some n) : IsGreatest (textLengths write bytes) n := by
  obtain ⟨text, b, bs, hbytes, -, hn⟩ := h.exists_of_stuckAt? hs
  refine ⟨⟨text, ⟨_, hbytes.symm⟩, hn.symm⟩, ?_⟩
  rintro k ⟨other, ⟨rest, rfl⟩, rfl⟩
  rw [h.stuckAt?_append] at hs
  obtain ⟨m, -, rfl⟩ := Option.map_eq_some_iff.mp hs
  exact Nat.le_add_right _ _

end Exact

/-! ## Unicode -/

namespace UnicodeForm

/-- The step of a form. -/
def step : UnicodeForm → Step
  | utf8 => utf8Step
  | utf16 bigEndian => utf16Step bigEndian

variable {f : UnicodeForm} {bytes : List UInt8}

theorem read?_eq_readAll : f.encoding.read? bytes = readAll f.step bytes := by cases f <;> rfl

/-- The decoder of a form finds malformed bytes where its step fails. -/
theorem fault?_of_stuckAt? {n : Nat} (h : stuckAt? f.step bytes = some n) :
    ∃ fault, f.encoding.fault? bytes = some fault ∧ fault.At n := by
  cases f with
  | utf8 => exact ((follows_utf8Decoder.fault?_eq _ bytes).2 n).mp h
  | utf16 bigEndian => exact ((follows_utf16Decoder.fault?_eq _ bytes).2 n).mp h

/-- The error is where the step fails, and this is where the decoder's counts lead back to. -/
theorem exists_fault_of_readAfter {mark : Nat} {e : FilterError}
    (h : readAfter f.encoding mark bytes = .error e) :
    ∃ n fault, Reports e (mark + n) f.encoding.name ∧ stuckAt? f.step bytes = some n ∧
      f.encoding.fault? bytes = some fault ∧ n + fault.bad + fault.after = fault.read := by
  unfold readAfter at h
  split at h
  · contradiction
  · next hread =>
    rw [read?_eq_readAll] at hread
    obtain ⟨n, hn⟩ : ∃ n, stuckAt? f.step bytes = some n := by
      rw [← Option.ne_none_iff_exists', ne_eq, stuckAt?_eq_none_iff, hread]
      simp
    obtain ⟨fault, hfault, hat⟩ := fault?_of_stuckAt? hn
    have hplace : f.encoding.malformedAt? bytes = some n := by
      rw [Encoding.malformedAt?, hfault, Option.map_some, hat.offset_eq]
    rw [hplace, Option.getD_some] at h
    obtain rfl := Except.error.inj h
    exact ⟨n, fault, reports_malformed _ _, hn, hfault, hat⟩

/-- Reading fails exactly where there is no text to be read. -/
theorem exists_readAfter_eq_error_iff {mark : Nat} :
    (∃ e, readAfter f.encoding mark bytes = .error e) ↔ ¬ ∃ text, bytes = f.encode text := by
  have hok (text : List Char) :
      bytes = f.encode text ↔ readAfter f.encoding mark bytes = .ok text :=
    readAfter_eq_ok_iff.symm
  simp only [hok]
  cases readAfter f.encoding mark bytes <;> simp

/-- Bytes are read as a form after its mark, or under its label if they have no mark. -/
theorem decode_eq_readAfter {mark rest : List UInt8} {label : Option String}
    (hb : bytes = mark ++ rest)
    (h : mark = f.mark ∧ (labelled? label).isSome = true ∨
      mark = [] ∧ labelled? label = some f.encoding ∧ ∀ g : UnicodeForm, ¬ g.mark <+: bytes) :
    decode bytes label = readAfter f.encoding mark.length rest := by
  obtain ⟨rfl, hl⟩ | ⟨rfl, hl, hnone⟩ := h
  · rw [hb, decode_of_mark hl]
  · rw [decode_of_label hl hnone, hb, List.nil_append, List.length_nil]

end UnicodeForm

/-! ## ASCII -/

/-- The places of the bytes that are not ASCII. -/
def highPlaces (bytes : List UInt8) : Set Nat := {i | ∃ b, bytes[i]? = some b ∧ 0x80 ≤ b}

theorem firstHigh?_eq (at' : Nat) (bytes : List UInt8) :
    firstHigh? at' bytes = (bytes.findIdx? fun b => !decide (b < 0x80)).map (at' + ·) := by
  induction bytes generalizing at' with
  | nil => rfl
  | cons b bs ih =>
      rw [firstHigh?, List.findIdx?_cons, ih]
      by_cases hb : b < 0x80
      · simp [hb, Function.comp_def, Nat.add_assoc, Nat.add_comm 1]
      · simp [hb]

theorem isLeast_of_firstHigh? {n : Nat} {bytes : List UInt8}
    (h : firstHigh? 0 bytes = some n) : IsLeast (highPlaces bytes) n := by
  rw [firstHigh?_eq] at h
  simp only [Nat.zero_add, Option.map_id', List.findIdx?_eq_some_iff_getElem] at h
  obtain ⟨hn, hhigh, hlow⟩ := h
  refine ⟨⟨bytes[n], List.getElem?_eq_getElem hn, by simpa using hhigh⟩, ?_⟩
  rintro i ⟨b, hb, hi⟩
  by_contra hlt
  obtain ⟨hlength, rfl⟩ := List.getElem?_eq_some_iff.mp hb
  have hbefore : bytes[i] < 0x80 := by simpa using hlow i (by omega)
  exact absurd hi (by simpa using hbefore)

theorem firstHigh?_eq_none_iff {at' : Nat} {bytes : List UInt8} :
    firstHigh? at' bytes = none ↔ ∀ b ∈ bytes, b < 0x80 := by
  simp [firstHigh?_eq]

/-- Bytes below 80 are their own characters. -/
theorem readAll_singleByteStep {upper : String} {bytes : List UInt8}
    (h : ∀ b ∈ bytes, b < 0x80) :
    readAll (singleByteStep upper) bytes = some (bytes.map Char.ofUInt8) := by
  induction bytes with
  | nil => simp [readAll]
  | cons b bs ih =>
      obtain ⟨hb, hbs⟩ := List.forall_mem_cons.mp h
      have hone : one b.toNat 0 = some ([Char.ofUInt8 b], 0) :=
        one_eq_some_iff.mpr ⟨Char.ofUInt8 b, UInt8.toNat_toUInt32 b, rfl, rfl⟩
      rw [readAll]
      simp only [singleByteStep, if_pos hb, hone, List.drop_zero, ih hbs, Option.map_some,
        List.map_cons, List.singleton_append]

/-- The labels of ASCII, in lower case and without blanks around them. -/
def asciiLabels : List String := ["us-ascii", "ascii"]

/-- A label of ASCII stands for an encoding of one byte per character. -/
theorem ofLabel?_ascii {label : List Char}
    (h : Text.lowerAscii label ∈ asciiLabels.map String.toList) :
    ∃ name upper, Encoding.ofLabel? label = some (.singleByte name upper) := by
  have hgap : ∀ w ∈ asciiLabels.map String.toList,
      (w.all fun c => !CharClass.isAsciiBlank c) = true := by decide
  have hrow : ∀ w ∈ asciiLabels.map String.toList,
      (UnicodeForm.labelRows.find? fun r => r.2.contains w).map Prod.fst =
        some "windows-1252" := by
    unfold UnicodeForm.labelRows
    simp (disch := rfl) only [asciiLabels, Encoding.labels, List.map_cons, List.map_nil,
      String.toList_append, UnicodeForm.toList_eq_of_eq_ofList]
    decide +kernel
  have hplain : Encoding.plainLabel label = Text.lowerAscii label :=
    UnicodeForm.plainLabel_of_no_blank (by simpa using hgap _ h)
  obtain ⟨r, hr, hname⟩ := Option.map_eq_some_iff.mp (hrow _ h)
  obtain ⟨upper, hupper⟩ : ∃ upper, Encoding.singleByteRow? "windows-1252" = some upper :=
    ⟨_, rfl⟩
  refine ⟨"windows-1252", upper, ?_⟩
  rw [UnicodeForm.ofLabel?_eq_labelRows, hplain, hr, Option.bind_some, hname]
  simp [Encoding.ofName?, hupper, Encoding.name]

/-- Decoding under a label of ASCII looks for a byte that is not. -/
theorem decode_ascii {label : String} {bytes : List UInt8}
    (hl : Text.lowerAscii (Text.trim label.toList) ∈ asciiLabels.map String.toList)
    (h : ∀ g : UnicodeForm, ¬ g.mark <+: bytes) :
    decode bytes (some label) = match firstHigh? 0 bytes with
      | some n => .error (malformed n (String.ofList (Text.trim label.toList)))
      | none => .ok (bytes.map Char.ofUInt8) := by
  obtain ⟨name, upper, hlabel⟩ := ofLabel?_ascii hl
  have hascii : isAsciiLabel (Text.trim label.toList) = true := by
    simpa [isAsciiLabel, asciiLabels] using hl
  unfold decode
  simp only [Option.getD_some, hlabel, UnicodeForm.ofMark?_eq_none h, hascii, if_true]
  cases hfirst : firstHigh? 0 bytes with
  | some n => rfl
  | none =>
      have hplain := firstHigh?_eq_none_iff.mp hfirst
      simp only [readAfter, Encoding.read?, readAll_singleByteStep hplain]

/-! ## both -/

/-- **Malformed bytes are reported where they are.**  Under a label of UTF-8, after the mark if
there is one, bytes fail to be decoded exactly if they are no text, and the error is at the end of
the longest text that they start with: as many bytes as the decoder has taken in, less the malformed
ones and those after them, of which there are not more.  Under a label of ASCII they fail if one of
them is above 7F, and the error is at the first of these; otherwise each byte is a character. -/
theorem decode_malformed_located (bytes : List UInt8) :
    (∀ label mark rest, labelled? label = some .utf8 → bytes = mark ++ rest →
      mark = UnicodeForm.utf8.mark ∨ mark = [] ∧ (∀ g : UnicodeForm, ¬ g.mark <+: bytes) →
        ((∃ e, decode bytes label = .error e) ↔ ¬ ∃ text, rest = UnicodeForm.utf8.encode text) ∧
        ∀ e, decode bytes label = .error e → ∃ n fault, Reports e (mark.length + n) "UTF-8" ∧
          IsGreatest (textLengths String.utf8EncodeChar rest) n ∧
          Encoding.utf8.fault? rest = some fault ∧ n + fault.bad + fault.after = fault.read) ∧
    ∀ label : String, Text.lowerAscii (Text.trim label.toList) ∈ asciiLabels.map String.toList →
      (∀ g : UnicodeForm, ¬ g.mark <+: bytes) →
        ((∃ e, decode bytes (some label) = .error e) ↔ ∃ b ∈ bytes, 0x80 ≤ b) ∧
        (∀ e, decode bytes (some label) = .error e →
          ∃ n, Reports e n (String.ofList (Text.trim label.toList)) ∧
            IsLeast (highPlaces bytes) n) ∧
        ((∀ b ∈ bytes, b < 0x80) →
          decode bytes (some label) = .ok (bytes.map Char.ofUInt8)) := by
  constructor
  · intro label mark rest hl hb hmark
    have hdecode : decode bytes label = readAfter UnicodeForm.utf8.encoding mark.length rest := by
      refine UnicodeForm.decode_eq_readAfter hb ?_
      obtain rfl | ⟨rfl, hnone⟩ := hmark
      · exact .inl ⟨rfl, by simp [hl]⟩
      · exact .inr ⟨rfl, hl, hnone⟩
    rw [hdecode]
    refine ⟨UnicodeForm.exists_readAfter_eq_error_iff, fun e he => ?_⟩
    obtain ⟨n, fault, hreports, hn, hfault, hread⟩ := UnicodeForm.exists_fault_of_readAfter he
    exact ⟨n, fault, hreports, exact_utf8Step.isGreatest_of_stuckAt? hn, hfault, hread⟩
  · intro label hl hnone
    rw [decode_ascii hl hnone]
    cases hfirst : firstHigh? 0 bytes with
    | none =>
        have hlow : ∀ b ∈ bytes, b < 0x80 := firstHigh?_eq_none_iff.mp hfirst
        exact ⟨by simpa using hlow, by simp, fun _ => rfl⟩
    | some n =>
        have hleast := isLeast_of_firstHigh? hfirst
        obtain ⟨b, hb, hhigh⟩ := hleast.1
        have hmem : b ∈ bytes := List.mem_of_getElem? hb
        refine ⟨⟨fun _ => ⟨b, hmem, hhigh⟩, fun _ => ⟨_, rfl⟩⟩, fun e he => ?_, fun hlow => ?_⟩
        · obtain rfl := Except.error.inj he
          exact ⟨n, reports_malformed _ _, hleast⟩
        · exact absurd hhigh (by simpa using hlow b hmem)

/-- A letter of two bytes and then the first half of another one after a mark, and the same bytes
under a label of ASCII. -/
theorem decode_malformed_located_halves :
    (labelled? none = some .utf8 ∧
      ∃ e, decode (UnicodeForm.utf8.mark ++ [0xC3, 0xA9, 0xC3]) none = .error e ∧
        Reports e 5 "UTF-8" ∧ IsGreatest (textLengths String.utf8EncodeChar [0xC3, 0xA9, 0xC3]) 2 ∧
        Encoding.utf8.fault? [0xC3, 0xA9, 0xC3] = some ⟨3, 1, 0⟩) ∧
    ∃ e, decode [0x61, 0xC3, 0xA9] (some " ASCII") = .error e ∧ Reports e 1 "ASCII" ∧
      IsLeast (highPlaces [0x61, 0xC3, 0xA9]) 1 := by
  have hutf8 : labelled? none = some .utf8 :=
    (UnicodeForm.ofLabel?_eq_some_iff (f := .utf8)).mpr (by decide)
  have hascii : Text.lowerAscii (Text.trim " ASCII".toList) ∈ asciiLabels.map String.toList := by
    decide
  have hnone : ∀ g : UnicodeForm, ¬ g.mark <+: [0x61, 0xC3, 0xA9] := by
    intro g
    obtain _ | (_ | _) := g <;> decide
  have hread : Encoding.utf8.read? [0xC3, 0xA9, 0xC3] = none := by decide +kernel
  have hfault : Encoding.utf8.fault? [0xC3, 0xA9, 0xC3] = some ⟨3, 1, 0⟩ := by decide +kernel
  have hnotext : ¬ ∃ text, [0xC3, 0xA9, 0xC3] = UnicodeForm.utf8.encode text := by
    rintro ⟨text, htext⟩
    have hsome := (UnicodeForm.read?_eq_some_iff (f := .utf8)).mpr htext
    exact Option.some_ne_none _ (hsome.symm.trans hread)
  obtain ⟨hfails, hplace⟩ := (decode_malformed_located _).1 none _ _ hutf8 rfl (.inl rfl)
  obtain ⟨hfails', hplace', -⟩ := (decode_malformed_located _).2 _ hascii hnone
  obtain ⟨e, he⟩ := hfails.mpr hnotext
  obtain ⟨e', he'⟩ := hfails'.mpr ⟨0xC3, by decide, by decide⟩
  obtain ⟨n, fault, hreports, hgreatest, hfault', hcounts⟩ := hplace e he
  obtain ⟨k, hreports', hleast⟩ := hplace' e' he'
  obtain rfl : (⟨3, 1, 0⟩ : Fault) = fault := Option.some.inj (hfault.symm.trans hfault')
  obtain rfl : n = 2 := by simpa using hcounts
  have hfirst : IsLeast (highPlaces [0x61, 0xC3, 0xA9]) 1 := isLeast_of_firstHigh? rfl
  obtain rfl : k = 1 := hleast.unique hfirst
  exact ⟨⟨hutf8, e, he, hreports, hgreatest, hfault⟩, e', he', hreports', hleast⟩

end Charset

end TreeSift
