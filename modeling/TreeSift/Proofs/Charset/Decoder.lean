import TreeSift.Charset.Decoder

/-!
# TreeSift.Proofs.Charset.Decoder

Where a decoder finds malformed bytes.

1. Room does not matter.  However much of it the first call has, all calls together come to what one
   pass over the bytes comes to (`Decoder.fault?_eq_pass`).
2. A decoder *counts* the bytes that it holds: one more for each byte that it keeps, and none after
   a character.  Malformed bytes and those after them are then all bytes that it holds.
3. A decoder *follows* a step if it counts, and reads from its start what the step reads.  Then the
   place that is computed backwards from the counts is the one where stepping fails, and the
   subtractions do not run below zero (`Decoder.Follows.fault?_eq`).
-/

namespace TreeSift

namespace Charset

/-- Where stepping over bytes fails, counted from the first of them. -/
def stuckAt? (step : Step) : List UInt8 → Option Nat
  | [] => none
  | b :: bs =>
    match step b bs with
    | none => some 0
    | some (_, k) => (stuckAt? step (bs.drop k)).map (k + 1 + ·)
termination_by bs => bs.length
decreasing_by
  simp only [List.length_drop, List.length_cons]
  omega

/-- Stepping fails somewhere unless it gives a text. -/
theorem stuckAt?_eq_none_iff {step : Step} {bytes : List UInt8} :
    stuckAt? step bytes = none ↔ (readAll step bytes).isSome = true := by
  fun_induction readAll step bytes with
  | case1 => simp [stuckAt?]
  | case2 b bs hstep => simp [stuckAt?, hstep]
  | case3 b bs cs k hstep ih => simp [stuckAt?, hstep, ih]

/-! ## faults -/

/-- The same malformed bytes with `n` more bytes in front. -/
def Fault.moved (n : Nat) (f : Fault) : Fault := { f with read := n + f.read }

@[simp] theorem Fault.moved_zero : moved 0 = id := by
  funext f
  simp [moved]

theorem map_moved_map_moved (n m : Nat) (f : Option Fault) :
    (f.map (Fault.moved m)).map (Fault.moved n) = f.map (Fault.moved (n + m)) := by
  cases f <;> simp [Fault.moved, Nat.add_assoc]

/-- The malformed bytes start at that place. -/
def Fault.At (f : Fault) (n : Nat) : Prop := n + f.bad + f.after = f.read

theorem Fault.At.offset_eq {f : Fault} {n : Nat} (h : f.At n) : f.offset = n := by
  unfold At at h
  unfold offset
  omega

theorem Fault.At.moved {f : Fault} {n : Nat} (h : f.At n) (k : Nat) : (f.moved k).At (k + n) := by
  unfold At at h ⊢
  simp only [Fault.moved]
  omega

namespace Decoder

section

variable {State : Type} (d : Decoder State)

/-- One pass over all bytes, with room for whatever is written. -/
def pass (s : State) : List UInt8 → Option Fault
  | [] => if d.pending s = 0 then none else some ⟨0, d.pending s, 0⟩
  | b :: bs =>
    match d.push s b with
    | .keep s => (pass s bs).map (Fault.moved 1)
    | .write _ s => (pass s bs).map (Fault.moved 1)
    | .malformed bad after taken => some ⟨if taken then 1 else 0, bad, after⟩

/-- What a pass comes to after a call. -/
def passAfter (bytes : List UInt8) (c : Call State) : Option Fault :=
  match c.outcome with
  | .inputEmpty => none
  | .malformed bad after => some ⟨c.taken, bad, after⟩
  | .outputFull => (d.pass c.state (bytes.drop c.taken)).map (Fault.moved c.taken)

/-- What is read from the front in some state up to the first character, and how many bytes after
the first one this takes. -/
def first? (s : State) : List UInt8 → Option (List Char × Nat)
  | [] => none
  | b :: bs =>
    match d.push s b with
    | .keep s => (first? s bs).map fun r => (r.1, r.2 + 1)
    | .write cs _ => some (cs, 0)
    | .malformed _ _ _ => none

/-- The decoder knows how many bytes it holds: a kept byte is one more, a character takes them all,
and malformed bytes are among them. -/
structure Counts : Prop where
  start : d.pending d.start = 0
  keep {s s' : State} {b : UInt8} (h : d.push s b = .keep s') : d.pending s' = d.pending s + 1
  write {s s' : State} {b : UInt8} {cs : List Char} (h : d.push s b = .write cs s') : s' = d.start
  malformed {s : State} {b : UInt8} {bad after : Nat} {taken : Bool}
    (h : d.push s b = .malformed bad after taken) :
    bad + after = d.pending s + if taken then 1 else 0

/-- The decoder reads a character from its start where the step reads it. -/
structure Follows (step : Step) : Prop extends Counts d where
  step_eq (b : UInt8) (bs : List UInt8) : step b bs = d.first? d.start (b :: bs)

end

variable {State : Type} {d : Decoder State} {s : State} {room : Nat} {bytes : List UInt8}

/-! ## room -/

theorem passAfter_next (b : UInt8) (bs : List UInt8) (c : Call State) :
    d.passAfter (b :: bs) c.next = (d.passAfter bs c).map (Fault.moved 1) := by
  obtain ⟨outcome, taken, state, room⟩ := c
  cases outcome with
  | inputEmpty => rfl
  | outputFull => rw [passAfter, passAfter, map_moved_map_moved, Nat.add_comm]; rfl
  | malformed bad after => simp [passAfter, Call.next, Fault.moved, Nat.add_comm]

/-- A call goes over a part of what a pass goes over. -/
theorem passAfter_call : d.passAfter bytes (d.call s room bytes) = d.pass s bytes := by
  fun_induction call d s room bytes with
  | case1 s room =>
      unfold passAfter pass
      by_cases hs : d.pending s = 0 <;> simp [hs]
  | case2 s room b bs hroom =>
      simp [passAfter]
  | case3 s room b bs hroom s' hpush ih => rw [passAfter_next, ih, pass, hpush]
  | case4 s room b bs hroom cs s' hpush ih => rw [passAfter_next, ih, pass, hpush]
  | case5 s room b bs hroom bad after taken hpush =>
      rw [pass, hpush]
      rfl

/-- All calls together come to what one pass comes to. -/
theorem faultFrom?_eq_pass (read : Nat) :
    d.faultFrom? bytes s room read = (d.pass s (bytes.drop read)).map (Fault.moved read) := by
  fun_induction faultFrom? d bytes s room read with
  | case1 s room read c hend =>
      have hcall : d.passAfter (bytes.drop read) c = d.pass s (bytes.drop read) := passAfter_call
      rw [← hcall, passAfter]
      simp [hend]
  | case2 s room read c bad after hend =>
      have hcall : d.passAfter (bytes.drop read) c = d.pass s (bytes.drop read) := passAfter_call
      rw [← hcall, passAfter]
      simp [hend, Fault.moved]
  | case3 s room read c hend ih =>
      have hcall : d.passAfter (bytes.drop read) c = d.pass s (bytes.drop read) := passAfter_call
      rw [ih, ← hcall, passAfter]
      simp only [c] at hend ⊢
      rw [hend, map_moved_map_moved, List.drop_drop]

/-- However much room there is for it, the search finds what one pass finds. -/
theorem fault?_eq_pass : d.fault? room bytes = d.pass d.start bytes := by
  simp [fault?, faultFrom?_eq_pass]

/-! ## counts -/

/-- Up to a character, a pass goes over what is read. -/
theorem Counts.pass_of_first?_eq_some (h : d.Counts) {cs : List Char} {k : Nat}
    (hf : d.first? s bytes = some (cs, k)) :
    d.pass s bytes = (d.pass d.start (bytes.drop (k + 1))).map (Fault.moved (k + 1)) := by
  fun_induction first? d s bytes generalizing k with
  | case1 => contradiction
  | case2 s b bs s' hpush ih =>
      obtain ⟨⟨cs', k⟩, hr, heq⟩ := Option.map_eq_some_iff.mp hf
      obtain ⟨rfl, rfl⟩ := Prod.mk.inj heq
      simp only [pass, hpush, ih hr, map_moved_map_moved, List.drop_succ_cons, Nat.add_comm 1]
  | case3 s b bs cs' s' hpush =>
      obtain ⟨rfl, rfl⟩ := Prod.mk.inj (Option.some.inj hf)
      simp [pass, hpush, h.write hpush]
  | case4 => contradiction

/-- If there is no character, a pass ends there, and the malformed bytes are all that are held. -/
theorem Counts.pass_of_first?_eq_none (h : d.Counts) (hf : d.first? s bytes = none)
    (hs : bytes = [] → d.pending s ≠ 0) :
    ∃ f, d.pass s bytes = some f ∧ f.bad + f.after = d.pending s + f.read := by
  fun_induction first? d s bytes with
  | case1 s => exact ⟨_, by rw [pass, if_neg (hs rfl)], rfl⟩
  | case2 s b bs s' hpush ih =>
      have hkeep := h.keep hpush
      obtain ⟨f, hpass, hf⟩ := ih (by simpa using hf) (by omega)
      refine ⟨f.moved 1, by simp [pass, hpush, hpass], ?_⟩
      simp only [Fault.moved]
      omega
  | case3 s b bs cs' s' hpush => contradiction
  | case4 s b bs bad after taken hpush => exact ⟨_, by rw [pass, hpush], h.malformed hpush⟩

/-! ## the place -/

variable {step : Step}

theorem Follows.pass_of_stuckAt?_eq_none (h : d.Follows step) (hs : stuckAt? step bytes = none) :
    d.pass d.start bytes = none := by
  fun_induction stuckAt? step bytes with
  | case1 => rw [pass, if_pos h.start]
  | case2 => contradiction
  | case3 b bs cs k hstep ih =>
      rw [h.step_eq] at hstep
      rw [h.pass_of_first?_eq_some hstep, List.drop_succ_cons, ih (by simpa using hs),
        Option.map_none]

theorem Follows.pass_of_stuckAt?_eq_some (h : d.Follows step) {n : Nat}
    (hs : stuckAt? step bytes = some n) : ∃ f, d.pass d.start bytes = some f ∧ f.At n := by
  fun_induction stuckAt? step bytes generalizing n with
  | case1 => contradiction
  | case2 b bs hstep =>
      obtain rfl := Option.some.inj hs
      rw [h.step_eq] at hstep
      obtain ⟨f, hpass, hf⟩ := h.pass_of_first?_eq_none hstep (by simp)
      rw [h.start] at hf
      refine ⟨f, hpass, ?_⟩
      unfold Fault.At
      omega
  | case3 b bs cs k hstep ih =>
      obtain ⟨m, hm, rfl⟩ := Option.map_eq_some_iff.mp hs
      obtain ⟨f, hpass, hf⟩ := ih hm
      rw [h.step_eq] at hstep
      refine ⟨f.moved (k + 1), ?_, hf.moved _⟩
      rw [h.pass_of_first?_eq_some hstep, List.drop_succ_cons, hpass, Option.map_some]

/-- **The search finds malformed bytes where stepping fails.**  It does so with any room, and if
there are none it finds none. -/
theorem Follows.fault?_eq (h : d.Follows step) (room : Nat) (bytes : List UInt8) :
    (d.fault? room bytes = none ↔ stuckAt? step bytes = none) ∧
      ∀ n, stuckAt? step bytes = some n ↔ ∃ f, d.fault? room bytes = some f ∧ f.At n := by
  rw [fault?_eq_pass]
  cases hs : stuckAt? step bytes with
  | none => simp [h.pass_of_stuckAt?_eq_none hs]
  | some m =>
      obtain ⟨f, hpass, hf⟩ := h.pass_of_stuckAt?_eq_some hs
      simp only [hpass, reduceCtorEq, Option.some.injEq, exists_eq_left', true_and]
      intro n
      constructor
      · rintro rfl
        exact hf
      · intro hn
        rw [← hf.offset_eq, hn.offset_eq]

end Decoder

end Charset

end TreeSift
