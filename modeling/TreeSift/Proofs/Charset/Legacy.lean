import TreeSift.Charset.Decode
import TreeSift.Proofs.Charset.Following

/-!
# TreeSift.Proofs.Charset.Legacy

Every encoding has a place for malformed bytes.

1. A step *waits* as long as the bytes may become a character: it fails on fewer bytes, and when
   they are enough it reads them whatever comes next.  Then the decoder that keeps bytes that long
   follows the step (`Waits.follows`).
2. ISO-2022-JP is the exception, since it has no step.  Its decoder is compared with its reading
   directly, what the decoder holds being put back in front (`JapaneseState.pass_eq_none_iff`).
3. So the search finds malformed bytes exactly if the bytes are no text, and in no encoding are the
   bytes to be subtracted more than those taken in (`Encoding.malformedAt?_eq_none_iff`).
-/

namespace TreeSift

namespace Charset

/-! ## steps that wait -/

/-- With these bytes there are enough for a character, and before the last of them there were
not. -/
structure Enough (more : List UInt8 → Bool) (b : UInt8) (bs : List UInt8) : Prop where
  now : more (b :: bs) = false
  before : bs = [] ∨ more (b :: bs.dropLast) = true

/-- The step needs the bytes that may be kept, and no others. -/
structure Waits (more : List UInt8 → Bool) (step : Step) : Prop where
  short {b : UInt8} {bs : List UInt8} (h : more (b :: bs) = true) : step b bs = none
  append {b : UInt8} {bs : List UInt8} (h : Enough more b bs) (rest : List UInt8) :
    step b (bs ++ rest) = step b bs
  count {b : UInt8} {bs : List UInt8} {cs : List Char} {k : Nat} (h : Enough more b bs)
    (hs : step b bs = some (cs, k)) : k = bs.length

section

variable {more : List UInt8 → Bool} {step : Step} {b c : UInt8} {bs : List UInt8}

theorem counts_ofStep : (Decoder.ofStep more step).Counts where
  start := rfl
  keep h := by
    simp only [Decoder.ofStep] at h ⊢
    grind
  write h := by
    simp only [Decoder.ofStep] at h ⊢
    grind
  malformed {s b bad after taken} h := by
    simp only [Decoder.ofStep] at h ⊢
    have hs : s.length = 0 → s = [] := List.length_eq_zero_iff.mp
    grind

/-- What the decoder reads is a matter of the bytes that it holds together with the next one. -/
theorem first?_ofStep {held rest : List UInt8} (hb : held ++ [c] = b :: bs) :
    (Decoder.ofStep more step).first? held (c :: rest) =
      if more (b :: bs) then
        ((Decoder.ofStep more step).first? (b :: bs) rest).map fun r => (r.1, r.2 + 1)
      else (step b bs).map fun r => (r.1, 0) := by
  rw [Decoder.first?]
  simp only [Decoder.ofStep, hb, List.headD_cons, List.tail_cons]
  cases more (b :: bs) with
  | true => rfl
  | false =>
      cases step b bs with
      | none => by_cases hc : held = [] ∨ 0x80 ≤ c <;> simp [hc]
      | some r => rfl

/-- If there are enough bytes, the step takes them all. -/
theorem Waits.step_eq_map (h : Waits more step) (henough : Enough more b bs) :
    step b bs = (step b bs).map fun r => (r.1, bs.length) := by
  cases hstep : step b bs with
  | none => rfl
  | some r => rw [Option.map_some, ← h.count henough hstep]

/-- Bytes that are kept are read together with those that come next. -/
theorem Waits.step_append (h : Waits more step) (hbs : more (b :: bs) = true)
    (rest : List UInt8) :
    step b (bs ++ rest) = ((Decoder.ofStep more step).first? (b :: bs) rest).map
      fun r => (r.1, bs.length + 1 + r.2) := by
  induction rest generalizing bs with
  | nil =>
      rw [List.append_nil, h.short hbs]
      rfl
  | cons c rest ih =>
      rw [List.append_cons, first?_ofStep (List.cons_append ..)]
      cases hmore : more (b :: (bs ++ [c])) with
      | true =>
          rw [ih hmore, if_pos rfl, Option.map_map]
          simp only [Function.comp_def, List.length_append, List.length_singleton,
            Nat.add_assoc, Nat.add_comm 1]
      | false =>
          have henough : Enough more b (bs ++ [c]) := ⟨hmore, .inr (by rwa [List.dropLast_concat])⟩
          rw [h.append henough, h.step_eq_map henough, if_neg Bool.false_ne_true]
          simp [Function.comp_def]

/-- The decoder of a step that waits follows it. -/
theorem Waits.follows (h : Waits more step) : (Decoder.ofStep more step).Follows step where
  toCounts := counts_ofStep
  step_eq b bs := by
    have hstart : (Decoder.ofStep more step).start = [] := rfl
    rw [hstart, first?_ofStep (List.nil_append [b])]
    cases hmore : more [b] with
    | true =>
        rw [if_pos rfl, ← List.nil_append bs, h.step_append hmore]
        simp [Nat.add_comm]
    | false =>
        have henough : Enough more b [] := ⟨hmore, .inl rfl⟩
        rw [if_neg Bool.false_ne_true, ← List.nil_append bs, h.append henough,
          h.step_eq_map henough]
        simp [Function.comp_def]

end

/-! ## one byte -/

theorem waits_singleByteStep (upper : String) :
    Waits moreSingleByte (singleByteStep upper) where
  short h := by contradiction
  append h rest := rfl
  count {b bs cs k} h hs := by
    obtain rfl : bs = [] := by simpa [moreSingleByte] using h.before
    simp only [singleByteStep, one] at hs
    grind [Option.map_eq_some_iff]

theorem waits_userDefinedStep : Waits moreSingleByte userDefinedStep where
  short h := by contradiction
  append h rest := rfl
  count {b bs cs k} h hs := by
    obtain rfl : bs = [] := by simpa [moreSingleByte] using h.before
    simp only [userDefinedStep, one] at hs
    grind [Option.map_eq_some_iff]

/-! ## two bytes and more -/

theorem waits_shiftJisStep : Waits moreShiftJis shiftJisStep where
  short {b bs} h := by
    obtain _ | ⟨c, bs⟩ := bs
    · grind [moreShiftJis, within, shiftJisStep]
    · contradiction
  append {b bs} h rest := by
    obtain ⟨hnow, hbefore⟩ := h
    have hb := b.toNat_lt
    obtain _ | ⟨c, _ | ⟨d, bs⟩⟩ := bs
    · rw [List.nil_append]
      cases rest <;> grind [moreShiftJis, within, shiftJisStep]
    · grind [moreShiftJis, within, shiftJisStep]
    · simp [moreShiftJis] at hbefore
  count {b bs cs k} h hs := by
    obtain ⟨hnow, hbefore⟩ := h
    obtain _ | ⟨c, _ | ⟨d, bs⟩⟩ := bs
    · grind [moreShiftJis, within, shiftJisStep, one, halfWidth, Option.map_eq_some_iff]
    · grind [moreShiftJis, within, shiftJisStep, one, halfWidth, Option.map_eq_some_iff]
    · simp [moreShiftJis] at hbefore

theorem waits_eucJpStep : Waits moreEucJp eucJpStep where
  short {b bs} h := by
    obtain _ | ⟨c, _ | ⟨d, bs⟩⟩ := bs
    · grind [moreEucJp, within, eucJpStep]
    · grind [moreEucJp, within, eucJpStep]
    · contradiction
  append {b bs} h rest := by
    obtain ⟨hnow, hbefore⟩ := h
    have hb := b.toNat_lt
    obtain _ | ⟨c, _ | ⟨d, _ | ⟨e, bs⟩⟩⟩ := bs
    · rw [List.nil_append]
      cases rest <;> grind [moreEucJp, within, eucJpStep]
    · grind [moreEucJp, within, eucJpStep]
    · grind [moreEucJp, within, eucJpStep]
    · simp [moreEucJp] at hbefore
  count {b bs cs k} h hs := by
    obtain ⟨hnow, hbefore⟩ := h
    obtain _ | ⟨c, _ | ⟨d, _ | ⟨e, bs⟩⟩⟩ := bs
    · grind [moreEucJp, within, eucJpStep, one, halfWidth, Option.map_eq_some_iff]
    · grind [moreEucJp, within, eucJpStep, one, halfWidth, Option.map_eq_some_iff]
    · grind [moreEucJp, within, eucJpStep, one, halfWidth, Option.map_eq_some_iff]
    · simp [moreEucJp] at hbefore

theorem waits_gb18030Step : Waits moreGb18030 gb18030Step where
  short {b bs} h := by
    obtain _ | ⟨c, _ | ⟨d, _ | ⟨e, bs⟩⟩⟩ := bs
    · grind [moreGb18030, within, gb18030Step]
    · grind [moreGb18030, within, gb18030Step]
    · grind [moreGb18030, within, gb18030Step]
    · contradiction
  append {b bs} h rest := by
    obtain ⟨hnow, hbefore⟩ := h
    have hb := b.toNat_lt
    obtain _ | ⟨c, _ | ⟨d, _ | ⟨e, _ | ⟨f, bs⟩⟩⟩⟩ := bs
    · rw [List.nil_append]
      cases rest <;> grind [moreGb18030, within, gb18030Step]
    · grind [moreGb18030, within, gb18030Step]
    · grind [moreGb18030, within, gb18030Step]
    · grind [moreGb18030, within, gb18030Step]
    · simp [moreGb18030] at hbefore
  count {b bs cs k} h hs := by
    obtain ⟨hnow, hbefore⟩ := h
    obtain _ | ⟨c, _ | ⟨d, _ | ⟨e, _ | ⟨f, bs⟩⟩⟩⟩ := bs
    · grind [moreGb18030, within, gb18030Step, one, Option.map_eq_some_iff]
    · grind [moreGb18030, within, gb18030Step, one, Option.map_eq_some_iff]
    · grind [moreGb18030, within, gb18030Step, one, Option.map_eq_some_iff]
    · grind [moreGb18030, within, gb18030Step, one, Option.map_eq_some_iff]
    · simp [moreGb18030] at hbefore

theorem waits_big5Step : Waits moreTwoByte big5Step where
  short {b bs} h := by
    obtain _ | ⟨c, bs⟩ := bs
    · grind [moreTwoByte, within, big5Step]
    · contradiction
  append {b bs} h rest := by
    obtain ⟨hnow, hbefore⟩ := h
    have hb := b.toNat_lt
    obtain _ | ⟨c, _ | ⟨d, bs⟩⟩ := bs
    · rw [List.nil_append]
      cases rest <;> grind [moreTwoByte, within, big5Step]
    · grind [moreTwoByte, within, big5Step]
    · simp [moreTwoByte] at hbefore
  count {b bs cs k} h hs := by
    obtain ⟨hnow, hbefore⟩ := h
    obtain _ | ⟨c, _ | ⟨d, bs⟩⟩ := bs
    · grind [moreTwoByte, within, big5Step, one, Option.map_eq_some_iff]
    · grind [moreTwoByte, within, big5Step, one, Option.map_eq_some_iff]
    · simp [moreTwoByte] at hbefore

theorem waits_eucKrStep : Waits moreTwoByte eucKrStep where
  short {b bs} h := by
    obtain _ | ⟨c, bs⟩ := bs
    · grind [moreTwoByte, within, eucKrStep]
    · contradiction
  append {b bs} h rest := by
    obtain ⟨hnow, hbefore⟩ := h
    have hb := b.toNat_lt
    obtain _ | ⟨c, _ | ⟨d, bs⟩⟩ := bs
    · rw [List.nil_append]
      cases rest <;> grind [moreTwoByte, within, eucKrStep]
    · grind [moreTwoByte, within, eucKrStep]
    · simp [moreTwoByte] at hbefore
  count {b bs cs k} h hs := by
    obtain ⟨hnow, hbefore⟩ := h
    obtain _ | ⟨c, _ | ⟨d, bs⟩⟩ := bs
    · grind [moreTwoByte, within, eucKrStep, one, Option.map_eq_some_iff]
    · grind [moreTwoByte, within, eucKrStep, one, Option.map_eq_some_iff]
    · simp [moreTwoByte] at hbefore

/-! ## ISO-2022-JP -/

section

variable {s : JapaneseSet} {switched : Bool} {a b : UInt8} {r : List UInt8}

theorem readIso2022Jp_escape : readIso2022Jp s switched (0x1B :: a :: b :: r) =
    (JapaneseSet.ofEscape? a b).bind fun s =>
      if switched then none else readIso2022Jp s true r := by
  rw [readIso2022Jp]
  cases JapaneseSet.ofEscape? a b <;> rfl

theorem readIso2022Jp_char (hs : s ≠ .kanji) (hb : b ≠ 0x1B) :
    readIso2022Jp s switched (b :: r) =
      (s.char? b.toNat).bind fun c => (readIso2022Jp s false r).map (c :: ·) := by
  cases s <;> first | contradiction | simp [readIso2022Jp]

theorem readIso2022Jp_kanji (hb : b ≠ 0x1B) :
    readIso2022Jp .kanji switched (b :: r) =
      r.head?.bind fun t => (kanji? b t).bind fun c =>
        (readIso2022Jp .kanji false r.tail).map (c :: ·) := by
  cases r <;> simp [readIso2022Jp]

end

/-- The bytes that are held in the middle of something. -/
def JapanesePart.bytes : JapanesePart → List UInt8
  | .none => []
  | .kanji b => [b]
  | .escape => [0x1B]
  | .escapeWith a => [0x1B, a]

namespace JapaneseState

/-- A kanji is begun in its set only, and an escape sequence goes on with one of two bytes. -/
def Sound (s : JapaneseState) : Prop :=
  match s.part with
  | .kanji b => s.set = .kanji ∧ 0x21 ≤ b ∧ b ≤ 0x7E
  | .escapeWith a => a = 0x24 ∨ a = 0x28
  | _ => True

/-- The text of what is held and the bytes after it. -/
def reading (s : JapaneseState) (bytes : List UInt8) : Option (List Char) :=
  readIso2022Jp s.set s.switched (s.part.bytes ++ bytes)

/-- What a byte does to the decoder is what it does to the reading. -/
def Agrees (s : JapaneseState) (b : UInt8) : Push JapaneseState → Prop
  | .keep s' => s'.Sound ∧ ∀ rest, s.reading (b :: rest) = s'.reading rest
  | .write cs s' => s'.Sound ∧ ∀ rest, s.reading (b :: rest) = (s'.reading rest).map (cs ++ ·)
  | .malformed _ _ _ => ∀ rest, s.reading (b :: rest) = none

variable {set : JapaneseSet} {switched : Bool}

theorem agrees_pushFirst (b : UInt8) :
    Agrees ⟨set, switched, .none⟩ b (pushFirst ⟨set, switched, .none⟩ b) := by
  unfold pushFirst
  split
  · next hb =>
    subst hb
    exact ⟨trivial, fun rest => rfl⟩
  · next hb =>
    split
    · next hset =>
      obtain rfl : set = .kanji := hset
      split
      · next hrange =>
        refine ⟨⟨rfl, hrange⟩, fun rest => ?_⟩
        exact (readIso2022Jp_kanji hb).trans (readIso2022Jp_kanji hb).symm
      · next hrange =>
        intro rest
        have hnone (t : UInt8) : kanji? b t = none := by grind [kanji?]
        refine (readIso2022Jp_kanji hb).trans ?_
        simp [hnone]
    · next hset =>
      split
      · next c hc =>
        refine ⟨trivial, fun rest => (readIso2022Jp_char hset hb).trans ?_⟩
        rw [hc]
        rfl
      · next hc =>
        intro rest
        refine (readIso2022Jp_char hset hb).trans ?_
        rw [hc]
        rfl

theorem agrees_pushKanji {lead : UInt8} (hlead : 0x21 ≤ lead ∧ lead ≤ 0x7E) (b : UInt8) :
    Agrees ⟨.kanji, switched, .kanji lead⟩ b
      (pushKanji ⟨.kanji, switched, .kanji lead⟩ lead b) := by
  have hescape : lead ≠ 0x1B := by grind
  have hread (rest : List UInt8) : reading ⟨.kanji, switched, .kanji lead⟩ (b :: rest) =
      (kanji? lead b).bind fun c => (readIso2022Jp .kanji false rest).map (c :: ·) :=
    readIso2022Jp_kanji hescape
  unfold pushKanji
  split
  · next hb =>
    intro rest
    have hnone : kanji? lead b = none := by grind [kanji?]
    rw [hread, hnone]
    rfl
  · split
    · next c hc =>
      refine ⟨trivial, fun rest => ?_⟩
      rw [hread, hc]
      rfl
    · next hc =>
      intro rest
      rw [hread, hc]
      rfl

theorem agrees_pushEscape (a b : UInt8) :
    Agrees ⟨set, switched, .escapeWith a⟩ b (pushEscape ⟨set, switched, .escapeWith a⟩ a b) := by
  have hread (rest : List UInt8) : reading ⟨set, switched, .escapeWith a⟩ (b :: rest) =
      (JapaneseSet.ofEscape? a b).bind fun s =>
        if switched then none else readIso2022Jp s true rest := readIso2022Jp_escape
  unfold pushEscape
  split
  · next set' hset =>
    cases switched with
    | true =>
      intro rest
      rw [hread, hset]
      rfl
    | false =>
      refine ⟨trivial, fun rest => ?_⟩
      rw [hread, hset]
      exact Option.map_id'.symm
  · next hset =>
    intro rest
    rw [hread, hset]
    rfl

/-- One byte, in whatever sound state. -/
theorem agrees_push {s : JapaneseState} (hs : s.Sound) (b : UInt8) :
    s.Agrees b (iso2022JpDecoder.push s b) := by
  obtain ⟨set, switched, part⟩ := s
  cases part with
  | none => exact agrees_pushFirst b
  | kanji lead =>
      obtain ⟨rfl, hlead⟩ : set = .kanji ∧ 0x21 ≤ lead ∧ lead ≤ 0x7E := hs
      exact agrees_pushKanji hlead b
  | escapeWith a => exact agrees_pushEscape a b
  | escape =>
      simp only [iso2022JpDecoder]
      split
      · next hb => exact ⟨hb, fun rest => rfl⟩
      · next hb =>
        intro rest
        have hnone (c : UInt8) : JapaneseSet.ofEscape? b c = none := by
          grind [JapaneseSet.ofEscape?]
        cases rest with
        | nil => rfl
        | cons c rest => exact readIso2022Jp_escape.trans (by rw [hnone]; rfl)

/-- The input may end only between two characters. -/
theorem reading_nil {s : JapaneseState} (hs : s.Sound) :
    s.reading [] = if iso2022JpDecoder.pending s = 0 then some [] else none := by
  obtain ⟨set, switched, part⟩ := s
  cases part with
  | none => rfl
  | escape => rfl
  | escapeWith a => rfl
  | kanji lead =>
      obtain ⟨rfl, hlead⟩ : set = .kanji ∧ 0x21 ≤ lead ∧ lead ≤ 0x7E := hs
      have hescape : lead ≠ 0x1B := by grind
      exact readIso2022Jp_kanji hescape

/-- The decoder finds nothing malformed if what it holds can be read together with the rest. -/
theorem pass_eq_none_iff {s : JapaneseState} (hs : s.Sound) (bytes : List UInt8) :
    iso2022JpDecoder.pass s bytes = none ↔ (s.reading bytes).isSome = true := by
  induction bytes generalizing s with
  | nil =>
      rw [Decoder.pass, reading_nil hs]
      split <;> simp
  | cons b rest ih =>
      have hagrees := agrees_push hs b
      rw [Decoder.pass]
      split
      · next s' hpush =>
        rw [hpush] at hagrees
        rw [Option.map_eq_none_iff, ih hagrees.1, hagrees.2]
      · next cs s' hpush =>
        rw [hpush] at hagrees
        rw [Option.map_eq_none_iff, ih hagrees.1, hagrees.2, Option.isSome_map]
      · next hpush =>
        rw [hpush] at hagrees
        simp [hagrees rest]

/-- How many bytes malformed ones and those after them may be: the bytes held, with an escape
sequence right before them. -/
def behind (s : JapaneseState) : Nat :=
  iso2022JpDecoder.pending s + if s.switched then 3 else 0

/-- What the decoder looks back on grows by the byte at most, and malformed bytes are part of it. -/
theorem behind_push (s : JapaneseState) (b : UInt8) :
    match iso2022JpDecoder.push s b with
    | .keep s' => s'.behind ≤ s.behind + 1
    | .write _ s' => s'.behind ≤ s.behind + 1
    | .malformed bad after taken => bad + after ≤ s.behind + if taken then 1 else 0 := by
  obtain ⟨set, switched, part⟩ := s
  simp only [iso2022JpDecoder, behind]
  cases part with
  | none =>
      simp only [pushFirst]
      grind
  | kanji lead =>
      simp only [pushKanji]
      grind
  | escape => grind
  | escapeWith a =>
      simp only [pushEscape]
      grind

/-- Malformed bytes are among those taken in and those looked back on. -/
theorem le_of_pass {s : JapaneseState} {bytes : List UInt8} {f : Fault}
    (h : iso2022JpDecoder.pass s bytes = some f) : f.bad + f.after ≤ s.behind + f.read := by
  induction bytes generalizing s f with
  | nil =>
      rw [Decoder.pass] at h
      split at h
      · contradiction
      · obtain rfl := Option.some.inj h
        simp only [behind]
        omega
  | cons b rest ih =>
      have hbehind := behind_push s b
      rw [Decoder.pass] at h
      split at h
      · next s' hpush =>
        obtain ⟨g, hg, rfl⟩ := Option.map_eq_some_iff.mp h
        have hle := ih hg
        simp only [hpush] at hbehind
        simp only [Fault.moved]
        omega
      · next cs s' hpush =>
        obtain ⟨g, hg, rfl⟩ := Option.map_eq_some_iff.mp h
        have hle := ih hg
        simp only [hpush] at hbehind
        simp only [Fault.moved]
        omega
      · next hpush =>
        obtain rfl := Option.some.inj h
        simpa only [hpush] using hbehind

end JapaneseState

/-! ## all encodings -/

/-- Something malformed is found exactly if there is no text, and it is no more than the bytes taken
in. -/
def Finds (text : Option (List Char)) (found : Option Fault) : Prop :=
  (found = none ↔ text.isSome = true) ∧
    ∀ fault, found = some fault → fault.bad + fault.after ≤ fault.read

theorem Decoder.Follows.finds {State : Type} {d : Decoder State} {step : Step}
    (h : d.Follows step) (room : Nat) (bytes : List UInt8) :
    Finds (readAll step bytes) (d.fault? room bytes) := by
  obtain ⟨hnone, hsome⟩ := h.fault?_eq room bytes
  refine ⟨by rw [hnone, stuckAt?_eq_none_iff], fun fault hfault => ?_⟩
  cases hs : stuckAt? step bytes with
  | none => simp [hnone.mpr hs] at hfault
  | some n =>
      obtain ⟨f, hf, hat⟩ := (hsome n).mp hs
      obtain rfl := Option.some.inj (hf.symm.trans hfault)
      unfold Fault.At at hat
      omega

theorem finds_iso2022Jp (room : Nat) (bytes : List UInt8) :
    Finds (readIso2022Jp .ascii false bytes) (iso2022JpDecoder.fault? room bytes) := by
  rw [Decoder.fault?_eq_pass]
  refine ⟨JapaneseState.pass_eq_none_iff (s := ⟨.ascii, false, .none⟩) trivial bytes, ?_⟩
  intro fault hfault
  have hle := JapaneseState.le_of_pass hfault
  have hstart : JapaneseState.behind iso2022JpDecoder.start = 0 := rfl
  omega

end Charset

namespace Encoding

theorem finds_fault? (e : Encoding) (bytes : List UInt8) :
    Charset.Finds (e.read? bytes) (e.fault? bytes) := by
  unfold fault?
  cases e with
  | utf8 => exact Charset.follows_utf8Decoder.finds _ bytes
  | utf16 bigEndian => exact Charset.follows_utf16Decoder.finds _ bytes
  | singleByte name upper => exact (Charset.waits_singleByteStep upper).follows.finds _ bytes
  | userDefined => exact Charset.waits_userDefinedStep.follows.finds _ bytes
  | shiftJis => exact Charset.waits_shiftJisStep.follows.finds _ bytes
  | eucJp => exact Charset.waits_eucJpStep.follows.finds _ bytes
  | iso2022Jp => exact Charset.finds_iso2022Jp _ bytes
  | gb18030 name => exact Charset.waits_gb18030Step.follows.finds _ bytes
  | big5 => exact Charset.waits_big5Step.follows.finds _ bytes
  | eucKr => exact Charset.waits_eucKrStep.follows.finds _ bytes

/-- **The search finds malformed bytes exactly if there are any.**  In every encoding, bytes that
are no text have a place for the error, and it is never computed below zero. -/
theorem malformedAt?_eq_none_iff (e : Encoding) (bytes : List UInt8) :
    (e.malformedAt? bytes = none ↔ (e.read? bytes).isSome = true) ∧
      ∀ fault, e.fault? bytes = some fault → fault.bad + fault.after ≤ fault.read := by
  obtain ⟨hnone, hle⟩ := finds_fault? e bytes
  exact ⟨by rw [malformedAt?, Option.map_eq_none_iff, hnone], hle⟩

end Encoding

end TreeSift
