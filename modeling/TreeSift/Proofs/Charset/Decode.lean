import TreeSift.Charset.Decode
import TreeSift.Proofs.Charset.Unicode

/-!
# TreeSift.Proofs.Charset.Decode

Bytes are decoded exactly if they are the encoding of a text, for the Unicode encodings.

1. A *form* is UTF-8, or UTF-16 in one of the byte orders.  It has labels, a byte order mark, and a
   way to write a text as bytes.
2. The labels of a form are those that stand for it and no others (`labelled?_eq_some_iff`).  None
   of them means plain ASCII, so ASCII's rule does not come in.
3. A mark decides the form whatever the label is, and takes no more bytes than its own: a second
   mark after it is text.  Reading what follows is left to the exact steps.
-/

namespace TreeSift

namespace Charset

/-- The Unicode encodings. -/
inductive UnicodeForm where
  | utf8
  | utf16 (bigEndian : Bool)
deriving DecidableEq, Repr

/-- The encoding that a label stands for.  Blanks around it do not count, and without a label it is
UTF-8. -/
def labelled? (label : Option String) : Option Encoding :=
  Encoding.ofLabel? (Text.trim (label.getD "utf-8").toList)

namespace UnicodeForm

/-- The form among all encodings. -/
def encoding : UnicodeForm → Encoding
  | utf8 => .utf8
  | utf16 bigEndian => .utf16 bigEndian

/-- The bytes of U+FEFF, which mark the form at the start of a text. -/
def mark : UnicodeForm → List UInt8
  | utf8 => [0xEF, 0xBB, 0xBF]
  | utf16 true => [0xFE, 0xFF]
  | utf16 false => [0xFF, 0xFE]

/-- The labels of the form, in lower case and without blanks around them. -/
def labels : UnicodeForm → List String
  | utf8 => ["unicode-1-1-utf-8", "unicode11utf8", "unicode20utf8", "utf-8", "utf8",
    "x-unicode20utf8"]
  | utf16 true => ["unicodefffe", "utf-16be"]
  | utf16 false => ["csunicode", "iso-10646-ucs-2", "ucs-2", "unicode", "unicodefeff", "utf-16",
    "utf-16le"]

/-- The bytes of a character. -/
def encodeChar : UnicodeForm → Char → List UInt8
  | utf8 => String.utf8EncodeChar
  | utf16 bigEndian => utf16EncodeChar bigEndian

/-- The bytes of a text. -/
def encode (f : UnicodeForm) (text : List Char) : List UInt8 := text.flatMap f.encodeChar

variable {f : UnicodeForm} {bytes : List UInt8} {text : List Char}

/-- A form reads what it writes and nothing else. -/
theorem read?_eq_some_iff : f.encoding.read? bytes = some text ↔ bytes = f.encode text := by
  cases f with
  | utf8 => exact exact_utf8Step.readAll_eq_some_iff
  | utf16 bigEndian => exact exact_utf16Step.readAll_eq_some_iff

theorem readAfter_eq_ok_iff {mark : Nat} :
    readAfter f.encoding mark bytes = .ok text ↔ bytes = f.encode text := by
  rw [← read?_eq_some_iff, readAfter]
  cases f.encoding.read? bytes <;> simp

/-! ## marks -/

theorem ofMark?_mark_append (f : UnicodeForm) (rest : List UInt8) :
    Encoding.ofMark? (f.mark ++ rest) = some (f.encoding, f.mark.length, rest) := by
  cases f with
  | utf8 => rfl
  | utf16 bigEndian => cases bigEndian <;> rfl

theorem ofMark?_eq_none (h : ∀ g : UnicodeForm, ¬ g.mark <+: bytes) :
    Encoding.ofMark? bytes = none := by
  unfold Encoding.ofMark?
  split
  · next rest => exact absurd ⟨rest, rfl⟩ (h .utf8)
  · next rest => exact absurd ⟨rest, rfl⟩ (h (.utf16 true))
  · next rest => exact absurd ⟨rest, rfl⟩ (h (.utf16 false))
  · rfl

/-! ## labels -/

/-- A literal is spelled out by `simp` with `rfl` for the hypothesis; computing its characters from
its bytes would take far longer. -/
theorem toList_eq_of_eq_ofList {s : String} {cs : List Char} (h : s = String.ofList cs) :
    s.toList = cs := by
  subst h
  exact String.toList_ofList

/-- The table of labels, the labels of a row told apart. -/
def labelRows : List (String × List (List Char)) :=
  Encoding.labels.map fun r => (r.1, CharSet.words r.2.toList)

theorem ofLabel?_eq_labelRows (label : List Char) :
    Encoding.ofLabel? label =
      (labelRows.find? fun r => r.2.contains (Encoding.plainLabel label)).bind
        fun r => Encoding.ofName? r.1 := by
  unfold Encoding.ofLabel? labelRows
  rw [List.find?_map]
  simp only [Function.comp_def]
  cases Encoding.labels.find? _ <;> rfl

/-- The table has one row with the name of the form, and the first row with one of its labels leads
to it. -/
theorem labelRows_form (f : UnicodeForm) :
    (∀ r ∈ labelRows, r.1 = f.encoding.name → r.2 = f.labels.map String.toList) ∧
      ∀ w ∈ f.labels.map String.toList,
        ((labelRows.find? fun r => r.2.contains w).bind fun r => Encoding.ofName? r.1) =
          some f.encoding := by
  unfold labelRows
  obtain _ | (_ | _) := f
  all_goals
    simp (disch := rfl) only [Encoding.labels, labels, List.map_cons, List.map_nil,
      String.toList_append, toList_eq_of_eq_ofList]
    decide +kernel

/-- An encoding has the name by which it is found. -/
theorem eq_name_of_ofName? {name : String} (h : Encoding.ofName? name = some f.encoding) :
    name = f.encoding.name := by
  unfold Encoding.ofName? at h
  dsimp only at h
  split at h
  · next e he =>
    injection h with h
    subst h
    have hname := List.find?_some he
    exact (beq_iff_eq.mp hname).symm
  · obtain ⟨row, -, h⟩ := Option.map_eq_some_iff.mp h
    cases f <;> contradiction

/-- The labels of a form stand for it, and no others do. -/
theorem ofLabel?_eq_some_iff {label : List Char} :
    Encoding.ofLabel? label = some f.encoding ↔
      Encoding.plainLabel label ∈ f.labels.map String.toList := by
  obtain ⟨hrow, hfind⟩ := labelRows_form f
  rw [ofLabel?_eq_labelRows]
  constructor
  · intro h
    obtain ⟨r, hr, hname⟩ := Option.bind_eq_some_iff.mp h
    have hplain := List.find?_some hr
    rw [← hrow r (List.mem_of_find?_eq_some hr) (eq_name_of_ofName? hname)]
    exact List.contains_iff_mem.mp hplain
  · exact hfind _

theorem isAsciiBlank_toLower {c : Char} (h : CharClass.isAsciiBlank c = true) :
    CharClass.isAsciiBlank c.toLower = true := by
  simp only [CharClass.isAsciiBlank, Bool.or_eq_true, beq_iff_eq] at h
  obtain (((rfl | rfl) | rfl) | rfl) | rfl := h <;> decide

/-- Text without ASCII blanks has none at its ends. -/
theorem plainLabel_of_no_blank {label : List Char}
    (h : ∀ c ∈ Text.lowerAscii label, CharClass.isAsciiBlank c = false) :
    Encoding.plainLabel label = Text.lowerAscii label := by
  have hplain : ∀ c ∈ label, CharClass.isAsciiBlank c = false := by
    intro c hc
    refine Bool.eq_false_iff.mpr fun hgap => ?_
    have hlower := h c.toLower (List.mem_map_of_mem hc)
    rw [isAsciiBlank_toLower hgap] at hlower
    contradiction
  have hdrop {cs : List Char} (hcs : ∀ c ∈ cs, c ∈ label) :
      cs.dropWhile CharClass.isAsciiBlank = cs := by
    cases cs with
    | nil => rfl
    | cons c cs => exact List.dropWhile_cons_of_neg (by simp [hplain c (hcs c List.mem_cons_self)])
  unfold Encoding.plainLabel
  rw [hdrop fun c hc => hc, hdrop fun c hc => List.mem_reverse.mp hc, List.reverse_reverse]

/-- No label of a Unicode encoding means plain ASCII. -/
theorem isAsciiLabel_eq_false {label : List Char}
    (h : Encoding.ofLabel? label = some f.encoding) : isAsciiLabel label = false := by
  refine Bool.eq_false_iff.mpr fun hascii => ?_
  have hlower : Text.lowerAscii label = "us-ascii".toList ∨
      Text.lowerAscii label = "ascii".toList := by
    simpa only [isAsciiLabel, Bool.or_eq_true, beq_iff_eq] using hascii
  have hgap : ((Text.lowerAscii label).all fun c => !CharClass.isAsciiBlank c) = true := by
    obtain hl | hl := hlower <;> rw [hl] <;> decide
  have hplain := ofLabel?_eq_some_iff.mp h
  rw [plainLabel_of_no_blank (by simpa using hgap)] at hplain
  revert hplain
  obtain hl | hl := hlower <;> rw [hl] <;> obtain _ | (_ | _) := f <;> decide

/-! ## decoding -/

/-- A mark decides, whatever encoding the label stands for. -/
theorem decode_of_mark {label : Option String} (hl : (labelled? label).isSome = true)
    (rest : List UInt8) :
    decode (f.mark ++ rest) label = readAfter f.encoding f.mark.length rest := by
  obtain ⟨e, he⟩ := Option.isSome_iff_exists.mp hl
  unfold labelled? at he
  unfold decode
  simp only [he, ofMark?_mark_append]

/-- Without a mark the label decides. -/
theorem decode_of_label {label : Option String} (hl : labelled? label = some f.encoding)
    (h : ∀ g : UnicodeForm, ¬ g.mark <+: bytes) :
    decode bytes label = readAfter f.encoding 0 bytes := by
  unfold labelled? at hl
  unfold decode
  simp only [hl, ofMark?_eq_none h, isAsciiLabel_eq_false hl, Bool.false_eq_true, if_false]

/-- **Bytes are decoded exactly if they are the encoding of a text.**  The labels of a form stand
for it, in any ASCII case and with blanks around them.  Under such a label bytes without a byte
order mark are a text if and only if the form writes the text with these bytes.  Bytes with the
form's mark are a text under every label that stands for something, and that if and only if the form
writes the text with the bytes after this one mark. -/
theorem decode_eq_ok_iff (f : UnicodeForm) (bytes : List UInt8) (text : List Char) :
    (∀ label, labelled? label = some f.encoding ↔
      Encoding.plainLabel (Text.trim (label.getD "utf-8").toList) ∈ f.labels.map String.toList) ∧
    (∀ label, labelled? label = some f.encoding → (∀ g : UnicodeForm, ¬ g.mark <+: bytes) →
      (decode bytes label = .ok text ↔ bytes = f.encode text)) ∧
    (∀ label rest, (labelled? label).isSome = true → bytes = f.mark ++ rest →
      (decode bytes label = .ok text ↔ rest = f.encode text)) := by
  refine ⟨fun label => ofLabel?_eq_some_iff, ?_, ?_⟩
  · intro label hl h
    rw [decode_of_label hl h, readAfter_eq_ok_iff]
  · intro label rest hl hb
    subst hb
    rw [decode_of_mark hl, readAfter_eq_ok_iff]

/-- A pair of surrogates after two marks under a label of ASCII, and four bytes of UTF-8 under a
label in capitals. -/
theorem decode_eq_ok_iff_emoji :
    ((labelled? (some "us-ascii")).isSome = true ∧
      [0xFF, 0xFE, 0xFF, 0xFE, 0x3D, 0xD8, 0x00, 0xDE] =
        (utf16 false).mark ++ [0xFF, 0xFE, 0x3D, 0xD8, 0x00, 0xDE] ∧
      decode [0xFF, 0xFE, 0xFF, 0xFE, 0x3D, 0xD8, 0x00, 0xDE] (some "us-ascii") =
        .ok ['\ufeff', '😀']) ∧
    (labelled? (some " UTF8 ") = some utf8.encoding ∧
      (∀ g : UnicodeForm, ¬ g.mark <+: [0xF0, 0x9F, 0x98, 0x80]) ∧
      decode [0xF0, 0x9F, 0x98, 0x80] (some " UTF8 ") = .ok ['😀']) := by
  have hascii : (labelled? (some "us-ascii")).isSome = true := by
    unfold labelled?
    rw [ofLabel?_eq_labelRows]
    unfold labelRows
    simp (disch := rfl) only [Option.getD_some, Encoding.labels, List.map_cons, List.map_nil,
      String.toList_append, toList_eq_of_eq_ofList]
    decide +kernel
  have hutf8 : labelled? (some " UTF8 ") = some utf8.encoding :=
    ((decode_eq_ok_iff utf8 [] []).1 _).mpr (by decide)
  have hmark : ∀ g : UnicodeForm, ¬ g.mark <+: [0xF0, 0x9F, 0x98, 0x80] := by
    intro g
    obtain _ | (_ | _) := g <;> decide
  refine ⟨⟨hascii, rfl, ?_⟩, hutf8, hmark, ?_⟩
  · exact ((decode_eq_ok_iff (utf16 false) _ _).2.2 _ _ hascii rfl).mpr (by decide)
  · exact ((decode_eq_ok_iff utf8 _ _).2.1 _ hutf8 hmark).mpr (by decide)

end UnicodeForm

end Charset

end TreeSift
