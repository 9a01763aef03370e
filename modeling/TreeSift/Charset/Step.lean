import TreeSift.Charset.Chinese
import TreeSift.Charset.Encoding
import TreeSift.Charset.Japanese
import TreeSift.Charset.Korean

/-!
# TreeSift.Charset.Step

Reading characters from the front of some bytes.

1. A *step* reads one character from the first byte and those after it, and says how many of the
   latter it took.  Reading a text is stepping until no byte is left.
2. Text is strict: a byte at which no step succeeds makes the whole text malformed.
3. Only ISO-2022-JP has no step, because what a byte stands for depends on the escape sequence
   before it.
-/

namespace TreeSift

namespace Charset

/-- Reads one character: what the first byte and those after it stand for, and how many of the
latter belong to it. -/
abbrev Step := UInt8 → List UInt8 → Option (List Char × Nat)

/-- Every character of a text; nothing if there is a byte at which the step fails. -/
def readAll (step : Step) : List UInt8 → Option (List Char)
  | [] => some []
  | b :: bs =>
    match step b bs with
    | none => none
    | some (cs, k) => (readAll step (bs.drop k)).map (cs ++ ·)
termination_by bs => bs.length
decreasing_by
  simp only [List.length_drop, List.length_cons]
  omega

/-- One character and how many bytes after the first it took. -/
def one (n : Nat) (taken : Nat) : Option (List Char × Nat) :=
  (CharSet.scalar? n).map fun c => ([c], taken)

/-! ## Unicode -/

/-- The low six bits of a continuation byte. -/
def continuation? (b : UInt8) : Option Nat :=
  if 0x80 ≤ b ∧ b ≤ 0xBF then some (b.toNat - 0x80) else none

/-- UTF-8: the shortest form only, and no surrogates. -/
def utf8Step : Step := fun b bs =>
  let n := b.toNat
  if n < 0x80 then one n 0
  else if 0xC2 ≤ n ∧ n ≤ 0xDF then
    match bs with
    | b₁ :: _ => do
      let x ← continuation? b₁
      one ((n - 0xC0) * 0x40 + x) 1
    | _ => none
  else if 0xE0 ≤ n ∧ n ≤ 0xEF then
    match bs with
    | b₁ :: b₂ :: _ => do
      let x ← continuation? b₁
      let y ← continuation? b₂
      let code := (n - 0xE0) * 0x1000 + x * 0x40 + y
      if 0x800 ≤ code then one code 2 else none
    | _ => none
  else if 0xF0 ≤ n ∧ n ≤ 0xF4 then
    match bs with
    | b₁ :: b₂ :: b₃ :: _ => do
      let x ← continuation? b₁
      let y ← continuation? b₂
      let z ← continuation? b₃
      let code := (n - 0xF0) * 0x40000 + x * 0x1000 + y * 0x40 + z
      if 0x10000 ≤ code then one code 3 else none
    | _ => none
  else none

/-- A code unit of two bytes. -/
def unit (bigEndian : Bool) (a b : UInt8) : Nat :=
  if bigEndian then a.toNat * 256 + b.toNat else b.toNat * 256 + a.toNat

/-- UTF-16: surrogates in pairs only. -/
def utf16Step (bigEndian : Bool) : Step := fun a bs =>
  match bs with
  | [] => none
  | b :: r =>
    let n := unit bigEndian a b
    if 0xD800 ≤ n ∧ n ≤ 0xDBFF then
      match r with
      | c :: d :: _ =>
        let m := unit bigEndian c d
        if 0xDC00 ≤ m ∧ m ≤ 0xDFFF then one (0x10000 + (n - 0xD800) * 0x400 + (m - 0xDC00)) 3
        else none
      | _ => none
    else one n 1

/-! ## One byte -/

/-- The character that stands for a missing one in the tables. -/
def missing : Char := '\ufffd'

/-- A place of a row. -/
def place? (row : String) (i : Nat) : Option Char :=
  match row.toList[i]? with
  | some c => if c = missing then none else some c
  | none => none

/-- A place of a table with rows of the given width. -/
def lookup? (rows : List String) (width i : Nat) : Option Char :=
  match rows[i / width]? with
  | some row => place? row (i % width)
  | none => none

/-- ASCII below 80, a row above. -/
def singleByteStep (upper : String) : Step := fun b _ =>
  if b < 0x80 then one b.toNat 0 else (place? upper (b.toNat - 0x80)).map fun c => ([c], 0)

/-- ASCII below 80, private code points above. -/
def userDefinedStep : Step := fun b _ =>
  if b < 0x80 then one b.toNat 0 else one (0xF700 + b.toNat) 0

/-! ## Japanese -/

/-- Half-width kana, from the byte that stands for the first sign. -/
def halfWidth (first b : Nat) (taken : Nat) : Option (List Char × Nat) :=
  one (0xFF61 + (b - first)) taken

/-- Shift_JIS. -/
def shiftJisStep : Step := fun b bs =>
  let n := b.toNat
  if n ≤ 0x80 then one n 0
  else if 0xA1 ≤ n ∧ n ≤ 0xDF then halfWidth 0xA1 n 0
  else if (0x81 ≤ n ∧ n ≤ 0x9F) ∨ (0xE0 ≤ n ∧ n ≤ 0xFC) then
    match bs with
    | [] => none
    | t :: _ =>
      let t := t.toNat
      if (0x40 ≤ t ∧ t ≤ 0x7E) ∨ (0x80 ≤ t ∧ t ≤ 0xFC) then
        let i := (n - if n < 0xA0 then 0x81 else 0xC1) * 188 + (t - if t < 0x7F then 0x40 else 0x41)
        if 8836 ≤ i ∧ i ≤ 10715 then one (0xE000 + (i - 8836)) 1
        else (lookup? jis0208 94 i).map fun c => ([c], 1)
      else none
  else none

/-- EUC-JP. -/
def eucJpStep : Step := fun b bs =>
  let high := fun (x : Nat) => decide (0xA1 ≤ x) && decide (x ≤ 0xFE)
  let n := b.toNat
  if n < 0x80 then one n 0
  else
    match bs with
    | [] => none
    | t :: r =>
      let t := t.toNat
      if n = 0x8E then (if 0xA1 ≤ t ∧ t ≤ 0xDF then halfWidth 0xA1 t 1 else none)
      else if n = 0x8F then
        match r with
        | [] => none
        | u :: _ =>
          let u := u.toNat
          if high t && high u then
            (lookup? jis0212 94 ((t - 0xA1) * 94 + (u - 0xA1))).map fun c => ([c], 2)
          else none
      else if high n && high t then
        (lookup? jis0208 94 ((n - 0xA1) * 94 + (t - 0xA1))).map fun c => ([c], 1)
      else none

/-- The sets that ISO-2022-JP switches between. -/
inductive JapaneseSet where
  | ascii
  | roman
  | katakana
  | kanji
deriving DecidableEq, Repr

/-- The set an escape sequence switches to. -/
def JapaneseSet.ofEscape? (a b : UInt8) : Option JapaneseSet :=
  if a = 0x28 ∧ b = 0x42 then some .ascii
  else if a = 0x28 ∧ b = 0x4A then some .roman
  else if a = 0x28 ∧ b = 0x49 then some .katakana
  else if a = 0x24 ∧ (b = 0x40 ∨ b = 0x42) then some .kanji
  else none

/-- The character of one byte in a set that is not kanji. -/
def JapaneseSet.char? (s : JapaneseSet) (n : Nat) : Option Char :=
  let plain := if n ≤ 0x7F ∧ n ≠ 0x0E ∧ n ≠ 0x0F then CharSet.scalar? n else none
  match s with
  | .ascii => plain
  | .roman => if n = 0x5C then some '\xa5' else if n = 0x7E then some '\u203e' else plain
  | .katakana => if 0x21 ≤ n ∧ n ≤ 0x5F then CharSet.scalar? (0xFF61 + (n - 0x21)) else none
  | .kanji => none

/-- The character of two bytes in the set of kanji. -/
def kanji? (b t : UInt8) : Option Char :=
  if 0x21 ≤ b ∧ b ≤ 0x7E ∧ 0x21 ≤ t ∧ t ≤ 0x7E then
    lookup? jis0208 94 ((b.toNat - 0x21) * 94 + (t.toNat - 0x21))
  else none

/-- ISO-2022-JP; `switched` says that an escape sequence came directly before.  Of two in a row the
first is malformed. -/
def readIso2022Jp (s : JapaneseSet) (switched : Bool) : List UInt8 → Option (List Char)
  | [] => some []
  | 0x1B :: r =>
    match r with
    | a :: b :: rest =>
      match JapaneseSet.ofEscape? a b with
      | some s => if switched then none else readIso2022Jp s true rest
      | none => none
    | _ => none
  | b :: r =>
    match s with
    | .kanji =>
      match r with
      | t :: rest => do
        let c ← kanji? b t
        (readIso2022Jp s false rest).map (c :: ·)
      | [] => none
    | s => do
      let c ← s.char? b.toNat
      (readIso2022Jp s false r).map (c :: ·)

/-! ## Chinese and Korean -/

/-- The private code point of a place in the areas set aside for them. -/
def gb18030Private? (lead trail place : Nat) : Option Char :=
  if 0xAA ≤ lead ∧ lead ≤ 0xAF ∧ 0xA1 ≤ trail then
    CharSet.scalar? (0xE000 + (lead - 0xAA) * 94 + (trail - 0xA1))
  else if 0xF8 ≤ lead ∧ lead ≤ 0xFE ∧ 0xA1 ≤ trail then
    CharSet.scalar? (0xE234 + (lead - 0xF8) * 94 + (trail - 0xA1))
  else if 0xA1 ≤ lead ∧ lead ≤ 0xA7 ∧ trail ≤ 0xA0 then
    CharSet.scalar? (0xE4C6 + (lead - 0xA1) * 96 + place)
  else none

/-- The character of a four byte code, by its place among all of them. -/
def gb18030Four? (i : Nat) : Option Char :=
  if 189000 ≤ i then (if i ≤ 1237575 then CharSet.scalar? (0x10000 + (i - 189000)) else none)
  else if 39419 < i then none
  else
    match (gb18030Ranges.takeWhile fun r => decide (r.1 ≤ i)).getLast? with
    | some (start, code) => CharSet.scalar? (code + (i - start))
    | none => none

/-- GB 18030. -/
def gb18030Step : Step := fun b bs =>
  let n := b.toNat
  let decimal := fun (x : Nat) => decide (0x30 ≤ x) && decide (x ≤ 0x39)
  let high := fun (x : Nat) => decide (0x81 ≤ x) && decide (x ≤ 0xFE)
  if n < 0x80 then one n 0
  else if n = 0x80 then one 0x20AC 0
  else if n = 0xFF then none
  else
    match bs with
    | [] => none
    | t :: r =>
      let t := t.toNat
      if decimal t then
        match r with
        | u :: v :: _ =>
          let u := u.toNat
          let v := v.toNat
          if high u && decimal v then
            (gb18030Four? ((((n - 0x81) * 10 + (t - 0x30)) * 126 + (u - 0x81)) * 10 +
              (v - 0x30))).map fun c => ([c], 3)
          else none
        | _ => none
      else if (0x40 ≤ t ∧ t ≤ 0x7E) ∨ (0x80 ≤ t ∧ t ≤ 0xFE) then
        let place := t - if t < 0x7F then 0x40 else 0x41
        let c? := match lookup? gb18030 190 ((n - 0x81) * 190 + place) with
          | some c => some c
          | none => gb18030Private? n t place
        c?.map fun c => ([c], 1)
      else none

/-- Places of Big5 that stand for a letter with a mark. -/
def big5Marked : List (Nat × List Char) :=
  [(1133, ['\xca', '\u0304']), (1135, ['\xca', '\u030c']),
    (1164, ['\xea', '\u0304']), (1166, ['\xea', '\u030c'])]

/-- Big5. -/
def big5Step : Step := fun b bs =>
  let n := b.toNat
  if n < 0x80 then one n 0
  else if n = 0x80 ∨ n = 0xFF then none
  else
    match bs with
    | [] => none
    | t :: _ =>
      let t := t.toNat
      if (0x40 ≤ t ∧ t ≤ 0x7E) ∨ (0xA1 ≤ t ∧ t ≤ 0xFE) then
        let i := (n - 0x81) * 157 + (t - if t < 0x7F then 0x40 else 0x62)
        match big5Marked.find? fun m => m.1 == i with
        | some (_, cs) => some (cs, 1)
        | none =>
          if i < 942 then none else (lookup? big5 157 (i - 942)).map fun c => ([c], 1)
      else none

/-- EUC-KR. -/
def eucKrStep : Step := fun b bs =>
  let n := b.toNat
  if n < 0x80 then one n 0
  else if n = 0x80 ∨ n = 0xFF then none
  else
    match bs with
    | [] => none
    | t :: _ =>
      let t := t.toNat
      if 0x41 ≤ t ∧ t ≤ 0xFE then
        (lookup? ksc5601 190 ((n - 0x81) * 190 + (t - 0x41))).map fun c => ([c], 1)
      else none

end Charset

end TreeSift
