import TreeSift.Charset.Step

/-!
# TreeSift.Charset.Decoder

Decoders that take bytes one at a time, and the place of the first bytes that are malformed.

1. A *decoder* keeps the bytes of a character that is not complete yet.  When it comes upon
   malformed bytes it says how many they are, and how many good ones it has taken in after them.
2. A *call* feeds bytes to a decoder until none is left, until some are malformed, or until there is
   no room for one more character.
3. To find the place of malformed bytes, calls are made with more and more room.  It can only be
   computed backwards, from the bytes that all calls have taken in (`Fault.offset`).
4. The encodings of one to four bytes for each character are decoded by their step: the bytes are
   kept while a character may still come of them.
-/

namespace TreeSift

namespace Charset

/-- What one byte does to a decoder. -/
inductive Push (State : Type) where
  /-- No character is complete. -/
  | keep (s : State)
  /-- Some characters are. -/
  | write (cs : List Char) (s : State)
  /-- So many bytes are malformed, and so many have been taken in after them.  The byte itself may
  not have been taken in. -/
  | malformed (bad after : Nat) (taken : Bool)
deriving DecidableEq, Repr

/-- A decoder: its states, and what a byte does in each of them. -/
structure Decoder (State : Type) where
  start : State
  push : State → UInt8 → Push State
  /-- How many bytes are malformed if the input ends here. -/
  pending : State → Nat

/-- How a call ends. -/
inductive Outcome where
  | inputEmpty
  | outputFull
  | malformed (bad after : Nat)
deriving DecidableEq, Repr

/-- What a call comes to: how it ends, how many bytes it has taken in, the decoder's state and the
room that is left. -/
structure Call (State : Type) where
  outcome : Outcome
  taken : Nat
  state : State
  room : Nat
deriving DecidableEq, Repr

/-- The call with one more byte in front. -/
def Call.next {State : Type} (c : Call State) : Call State := { c with taken := c.taken + 1 }

/-- Malformed bytes: how many bytes have been taken in altogether, how many of them are malformed,
and how many come after these. -/
structure Fault where
  read : Nat
  bad : Nat
  after : Nat
deriving DecidableEq, Repr

/-- The place of the first malformed byte. -/
def Fault.offset (f : Fault) : Nat := f.read - f.after - f.bad

namespace Decoder

/-- The room that any character needs, in bytes of UTF-8. -/
def enough : Nat := 4

section

variable {State : Type} (d : Decoder State)

/-- Feeds bytes to a decoder that has that much room for what it writes. -/
def call (s : State) (room : Nat) : List UInt8 → Call State
  | [] => ⟨if d.pending s = 0 then .inputEmpty else .malformed (d.pending s) 0, 0, s, room⟩
  | b :: bs =>
    if room < enough then ⟨.outputFull, 0, s, room⟩
    else
      match d.push s b with
      | .keep s => (call s room bs).next
      | .write cs s => (call s (room - Text.byteLength cs) bs).next
      | .malformed bad after taken => ⟨.malformed bad after, if taken then 1 else 0, s, room⟩

variable {d}

/-- A call that runs out of room leaves bytes, and takes none only if there was no room before. -/
theorem taken_of_outputFull {s : State} {room : Nat} {bytes : List UInt8}
    (h : (d.call s room bytes).outcome = .outputFull) :
    (d.call s room bytes).taken < bytes.length ∧
      ((d.call s room bytes).taken = 0 → room < enough) := by
  fun_induction call d s room bytes with
  | case1 => split at h <;> contradiction
  | case2 s room b bs hroom => exact ⟨Nat.succ_pos _, fun _ => hroom⟩
  | case3 s room b bs hroom s' hpush ih => exact ⟨Nat.succ_lt_succ (ih h).1, by simp [Call.next]⟩
  | case4 s room b bs hroom cs s' hpush ih =>
      exact ⟨Nat.succ_lt_succ (ih h).1, by simp [Call.next]⟩
  | case5 => contradiction

variable (d)

/-- Calls on what is left of the bytes, of which `read` have been taken in.  After a call that ran
out of room the next one has room for at least as many bytes as are left, and 16 more. -/
def faultFrom? (bytes : List UInt8) (s : State) (room read : Nat) : Option Fault :=
  let c := d.call s room (bytes.drop read)
  match _h : c.outcome with
  | .inputEmpty => none
  | .malformed bad after => some ⟨read + c.taken, bad, after⟩
  | .outputFull =>
    faultFrom? bytes c.state (max c.room (bytes.length - (read + c.taken) + 16)) (read + c.taken)
termination_by 2 * (bytes.length - read) + if room < enough then 1 else 0
decreasing_by
  obtain ⟨hleft, hroom⟩ := taken_of_outputFull _h
  rw [List.length_drop] at hleft
  unfold enough at hroom ⊢
  grind

/-- The first malformed bytes, if there are any. -/
def fault? (room : Nat) (bytes : List UInt8) : Option Fault := d.faultFrom? bytes d.start room 0

end

end Decoder

/-! ## Unicode -/

/-- What is known of a character of UTF-8 after some of its bytes: the bits so far, how many
continuation bytes have been seen and how many are needed, and the range of the next one. -/
structure Utf8State where
  bits : Nat
  seen : Nat
  needed : Nat
  lower : UInt8
  upper : UInt8
deriving DecidableEq, Repr

namespace Utf8State

/-- Between two characters. -/
def start : Utf8State := ⟨0, 0, 0, 0x80, 0xBF⟩

/-- A first byte. -/
def pushFirst (b : UInt8) : Push Utf8State :=
  let n := b.toNat
  if n < 0x80 then .write [Char.ofNat n] start
  else if n < 0xC2 then .malformed 1 0 true
  else if n < 0xE0 then .keep ⟨n - 0xC0, 0, 1, 0x80, 0xBF⟩
  else if n < 0xF0 then
    .keep ⟨n - 0xE0, 0, 2, if n = 0xE0 then 0xA0 else 0x80, if n = 0xED then 0x9F else 0xBF⟩
  else if n < 0xF5 then
    .keep ⟨n - 0xF0, 0, 3, if n = 0xF0 then 0x90 else 0x80, if n = 0xF4 then 0x8F else 0xBF⟩
  else .malformed 1 0 true

/-- A continuation byte.  One that is out of range is not taken in. -/
def pushNext (s : Utf8State) (b : UInt8) : Push Utf8State :=
  if s.lower ≤ b ∧ b ≤ s.upper then
    let bits := s.bits * 0x40 + (b.toNat - 0x80)
    if s.seen + 1 = s.needed then .write [Char.ofNat bits] start
    else .keep ⟨bits, s.seen + 1, s.needed, 0x80, 0xBF⟩
  else .malformed (s.seen + 1) 0 false

end Utf8State

/-- The decoder of UTF-8. -/
def utf8Decoder : Decoder Utf8State where
  start := .start
  push s b := if s.needed = 0 then Utf8State.pushFirst b else s.pushNext b
  pending s := if s.needed = 0 then 0 else s.seen + 1

/-- What is known of a character of UTF-16: the first byte of a code unit, and a high surrogate
before it. -/
structure Utf16State where
  lead : Option UInt8
  high : Option Nat
deriving DecidableEq, Repr

namespace Utf16State

/-- Between two characters. -/
def start : Utf16State := ⟨none, none⟩

/-- A whole code unit, after a high surrogate if there is one.  Only the unit after it shows that a
high surrogate is malformed, and then both have been taken in. -/
def pushUnit (high : Option Nat) (n : Nat) : Push Utf16State :=
  if 0xD800 ≤ n ∧ n ≤ 0xDBFF then
    match high with
    | some _ => .malformed 2 2 true
    | none => .keep ⟨none, some n⟩
  else if 0xDC00 ≤ n ∧ n ≤ 0xDFFF then
    match high with
    | some m => .write [Char.ofNat (0x10000 + (m - 0xD800) * 0x400 + (n - 0xDC00))] start
    | none => .malformed 2 0 true
  else
    match high with
    | some _ => .malformed 2 2 true
    | none => .write [Char.ofNat n] start

end Utf16State

/-- The decoder of UTF-16. -/
def utf16Decoder (bigEndian : Bool) : Decoder Utf16State where
  start := .start
  push s b :=
    match s.lead with
    | none => .keep ⟨some b, s.high⟩
    | some a => Utf16State.pushUnit s.high (unit bigEndian a b)
  pending s := (if s.high.isSome then 2 else 0) + if s.lead.isSome then 1 else 0

/-! ## other encodings -/

/-- The decoder that keeps bytes while they may still become a character, and then takes the step.
A byte of ASCII after malformed ones is not taken in. -/
def Decoder.ofStep (more : List UInt8 → Bool) (step : Step) : Decoder (List UInt8) where
  start := []
  push held b :=
    let bytes := held ++ [b]
    if more bytes then .keep bytes
    else
      match step (bytes.headD 0) bytes.tail with
      | some (cs, _) => .write cs []
      | none =>
        if held = [] ∨ 0x80 ≤ b then .malformed bytes.length 0 true
        else .malformed 1 (held.length - 1) false
  pending := List.length

/-- Whether a byte is in a range. -/
def within (lower upper : Nat) (b : UInt8) : Bool :=
  decide (lower ≤ b.toNat) && decide (b.toNat ≤ upper)

/-- No byte of an encoding of one byte each is kept. -/
def moreSingleByte (_ : List UInt8) : Bool := false

/-- Shift_JIS: a lead byte. -/
def moreShiftJis : List UInt8 → Bool
  | [b] => within 0x81 0x9F b || within 0xE0 0xFC b
  | _ => false

/-- EUC-JP: a lead byte, and the second byte of three. -/
def moreEucJp : List UInt8 → Bool
  | [b] => within 0x8E 0x8F b || within 0xA1 0xFE b
  | [b, t] => within 0x8F 0x8F b && within 0xA1 0xFE t
  | _ => false

/-- GB 18030: a lead byte, and the second and third byte of four. -/
def moreGb18030 : List UInt8 → Bool
  | [b] => within 0x81 0xFE b
  | [b, t] => within 0x81 0xFE b && within 0x30 0x39 t
  | [b, t, u] => within 0x81 0xFE b && within 0x30 0x39 t && within 0x81 0xFE u
  | _ => false

/-- Big5 and EUC-KR: a lead byte. -/
def moreTwoByte : List UInt8 → Bool
  | [b] => within 0x81 0xFE b
  | _ => false

/-- What ISO-2022-JP may be in the middle of. -/
inductive JapanesePart where
  | none
  /-- A kanji, after its first byte. -/
  | kanji (b : UInt8)
  /-- An escape sequence, after its first byte or its first two. -/
  | escape
  | escapeWith (a : UInt8)
deriving DecidableEq, Repr

/-- The state of ISO-2022-JP. -/
structure JapaneseState where
  set : JapaneseSet
  /-- Whether an escape sequence came directly before. -/
  switched : Bool
  part : JapanesePart
deriving DecidableEq, Repr

namespace JapaneseState

/-- A byte that starts a character or an escape sequence. -/
def pushFirst (s : JapaneseState) (b : UInt8) : Push JapaneseState :=
  if b = 0x1B then .keep { s with part := .escape }
  else if s.set = .kanji then
    if 0x21 ≤ b ∧ b ≤ 0x7E then .keep ⟨.kanji, false, .kanji b⟩ else .malformed 1 0 true
  else
    match s.set.char? b.toNat with
    | some c => .write [c] ⟨s.set, false, .none⟩
    | none => .malformed 1 0 true

/-- The byte after the first one of a kanji. -/
def pushKanji (s : JapaneseState) (lead b : UInt8) : Push JapaneseState :=
  if b = 0x1B then .malformed 1 1 true
  else
    match kanji? lead b with
    | some c => .write [c] ⟨s.set, false, .none⟩
    | none => .malformed 2 0 true

/-- The last byte of an escape sequence.  Of two in a row the first is malformed, which shows when
both have been taken in. -/
def pushEscape (s : JapaneseState) (a b : UInt8) : Push JapaneseState :=
  match JapaneseSet.ofEscape? a b with
  | some set => if s.switched then .malformed 3 3 true else .write [] ⟨set, true, .none⟩
  | none => .malformed 1 1 false

end JapaneseState

/-- The decoder of ISO-2022-JP. -/
def iso2022JpDecoder : Decoder JapaneseState where
  start := ⟨.ascii, false, .none⟩
  push s b :=
    match s.part with
    | .none => s.pushFirst b
    | .kanji lead => s.pushKanji lead b
    | .escape =>
      if b = 0x24 ∨ b = 0x28 then .keep { s with part := .escapeWith b } else .malformed 1 0 false
    | .escapeWith a => s.pushEscape a b
  pending s :=
    match s.part with
    | .none => 0
    | .kanji _ | .escape => 1
    | .escapeWith _ => 2

end Charset

namespace Encoding

/-- The bytes that a text of so many bytes may take in UTF-8, if the number is within 64 bits. -/
def capacity? (e : Encoding) (n : Nat) : Option Nat :=
  let bytes := match e with
    | utf8 => n + 3
    | utf16 _ => 3 * ((n + 1) / 2) + 1
    | _ => 3 * n
  if bytes < UInt64.size then some bytes else none

/-- The first malformed bytes, looked for by the decoder of the encoding. -/
def faultWithin? (e : Encoding) (room : Nat) (bytes : List UInt8) : Option Charset.Fault :=
  match e with
  | utf8 => Charset.utf8Decoder.fault? room bytes
  | utf16 bigEndian => (Charset.utf16Decoder bigEndian).fault? room bytes
  | singleByte _ upper => byStep Charset.moreSingleByte (Charset.singleByteStep upper)
  | userDefined => byStep Charset.moreSingleByte Charset.userDefinedStep
  | shiftJis => byStep Charset.moreShiftJis Charset.shiftJisStep
  | eucJp => byStep Charset.moreEucJp Charset.eucJpStep
  | iso2022Jp => Charset.iso2022JpDecoder.fault? room bytes
  | gb18030 _ => byStep Charset.moreGb18030 Charset.gb18030Step
  | big5 => byStep Charset.moreTwoByte Charset.big5Step
  | eucKr => byStep Charset.moreTwoByte Charset.eucKrStep
where
  byStep (more : List UInt8 → Bool) (step : Charset.Step) : Option Charset.Fault :=
    (Charset.Decoder.ofStep more step).fault? room bytes

/-- The first malformed bytes, looked for with the room that a text of that length may take. -/
def fault? (e : Encoding) (bytes : List UInt8) : Option Charset.Fault :=
  e.faultWithin? ((e.capacity? bytes.length).getD bytes.length) bytes

/-- The place of the first malformed bytes. -/
def malformedAt? (e : Encoding) (bytes : List UInt8) : Option Nat :=
  (e.fault? bytes).map Charset.Fault.offset

end Encoding

end TreeSift
