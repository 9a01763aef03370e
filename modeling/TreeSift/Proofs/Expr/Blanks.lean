import TreeSift.Filter.Error
import TreeSift.Proofs.Expr.Padding
import TreeSift.Proofs.Expr.Position
import TreeSift.Proofs.Expr.Relocation

/-!
# TreeSift.Proofs.Expr.Blanks

Blanks between tokens do not count.

1. A `Boundary` of a text is a place directly before or after one of its tokens, or the end.  Where
   a token ends is clear, since no spelling of it goes on to a longer one
   (`Spelled.eq_nil_of_append`).
2. `Between text back` says that reading gets from `text` to `back` over blanks and whole tokens.
   It holds at every boundary, and blanks may be put in there: the tokens before stay, as readers
   do (`Lexeme.stays_read`), and those behind only move (`Between.readAll`).
3. So the text is read as the same tokens.  Since the grammar does not look at positions, they are
   the same filter or fail in the same way (`TokenList.ofText_insert_blanks`).
-/

namespace TreeSift

open Lexeme

/-! ## where a token ends -/

namespace Lexeme

/-- No spelling in the table goes on to another one of the same token. -/
theorem length_eq_of_prefix_of_mem_fixedSpellings : ∀ s ∈ fixedSpellings, ∀ s' ∈ fixedSpellings,
    s.2 = s'.2 → s.1.toList <+: s'.1.toList → s.1.toList.length = s'.1.toList.length := by
  decide

/-- No spelling of a token goes on to a longer one. -/
theorem Spelled.eq_nil_of_append {l : Lexeme} {span more : List Char} (h : Spelled l span)
    (h' : Spelled l (span ++ more)) : more = [] := by
  have sized {n : Nat} (hn : ∀ cs, Spelled l cs → cs.length = n) : more = [] := by
    have hspan := hn _ h
    have hlonger := hn _ h'
    rw [List.length_append] at hlonger
    exact List.length_eq_zero_iff.mp (by omega)
  cases l with
  | word text =>
      refine sized (n := text.toList.length) fun cs h => ?_
      cases h with
      | word => simp [Text.lowerAscii]
      | fixed h => simp [fixedSpellings] at h
  | number text =>
      refine sized (n := text.toList.length) fun cs h => ?_
      cases h with
      | number => rw [String.toList_ofList]
      | fixed h => simp [fixedSpellings] at h
  | date text =>
      refine sized (n := text.toList.length) fun cs h => ?_
      cases h with
      | date => rw [String.toList_ofList]
      | fixed h => simp [fixedSpellings] at h
  | parameter name =>
      refine sized (n := name.toList.length + 1) fun cs h => ?_
      cases h with
      | parameter => rw [String.toList_ofList, List.length_cons]
      | fixed h => simp [fixedSpellings] at h
  | function name =>
      refine sized (n := name.toList.length) fun cs h => ?_
      cases h with
      | function => rw [String.toList_ofList]
      | fixed h => simp [fixedSpellings] at h
  | path text =>
      have bracketed {cs : List Char} (h : Spelled (.path text) cs) :
          ∃ body, cs = '[' :: (body ++ [']']) ∧ ∀ c ∈ body, (c != ']') = true := by
        cases h with
        | @path segments _ _ plain =>
            refine ⟨_, rfl, fun c hc => ?_⟩
            obtain rfl | ⟨s, hs, hcs⟩ := Text.mem_joinWith hc
            · rfl
            · simpa using (plain s hs c hcs).not_close
        | fixed h => simp [fixedSpellings] at h
      obtain ⟨body, rfl, hbody⟩ := bracketed h
      obtain ⟨body', heq, hbody'⟩ := bracketed h'
      have hends (r : List Char) : ∀ c ∈ (']' :: r).head?, (c != ']') = false := by simp
      have hrest := (takeWhile_run hbody (hends more)).2
      have hrest' := (takeWhile_run hbody' (hends [])).2
      simp only [List.cons_append, List.append_assoc, List.nil_append, List.cons.injEq,
        true_and] at heq
      rw [heq, hrest'] at hrest
      exact (List.cons.inj hrest).2.symm
  | string text =>
      have quoted {cs : List Char} (h : Spelled (.string text) cs) : ∃ quote body content,
          (quote = '\'' ∨ quote = '"') ∧ cs = quote :: (body ++ [quote]) ∧
            Escapes quote body content := by
        cases h with
        | string hquote hescapes => exact ⟨_, _, _, hquote, rfl, hescapes⟩
        | fixed h => simp [fixedSpellings] at h
      obtain ⟨quote, body, content, hquote, rfl, hescapes⟩ := quoted h
      obtain ⟨quote', body', content', -, heq, hescapes'⟩ := quoted h'
      simp only [List.cons_append, List.append_assoc, List.nil_append, List.cons.injEq] at heq
      obtain ⟨rfl, heq⟩ := heq
      have hread := readString_of_escapes hquote hescapes more
      rw [heq, readString_of_escapes hquote hescapes' []] at hread
      injection hread with hread
      exact (Prod.ext_iff.mp hread).2.symm
  | _ =>
      cases h with
      | fixed h =>
          cases h' with
          | fixed h' =>
              have hlength := length_eq_of_prefix_of_mem_fixedSpellings _ h _ h' rfl
                ⟨Text.lowerAscii more, by simp [Text.lowerAscii]⟩
              simpa [Text.lowerAscii] using hlength

/-- A token at a place ends at one place. -/
theorem Spelled.unique {l : Lexeme} {span span' rest rest' : List Char} (h : Spelled l span)
    (h' : Spelled l span') (heq : span ++ rest = span' ++ rest') : span = span' ∧ rest = rest' := by
  obtain ⟨more, rfl, rfl⟩ | ⟨more, rfl, rfl⟩ := List.append_eq_append_iff.mp heq
  · obtain rfl := h.eq_nil_of_append h'
    simp
  · obtain rfl := h'.eq_nil_of_append h
    simp

end Lexeme

/-! ## between tokens -/

/-- A place in front of which, in a text with these tokens, stands `front`: directly before a token,
at the end, or directly after a token. -/
inductive TokenList.Boundary (ts : TokenList) (front : List Char) : Prop where
  | before {t : Token} (mem : t ∈ ts.tokens) (starts : Text.byteLength front = t.position)
  | stop (stops : Text.byteLength front = ts.stop)
  | after {t : Token} {start span : List Char} (mem : t ∈ ts.tokens)
    (starts : Text.byteLength start = t.position) (spelled : Lexeme.Spelled t.lexeme span)
    (ends : front = start ++ span)

/-- Reading gets from the text to an end of it over blanks and whole tokens. -/
inductive Between : List Char → List Char → Prop where
  | gap {gap back : List Char} (blank : ∀ c ∈ gap, isGap c = true) : Between (gap ++ back) back
  | token {cs r rest back : List Char} {c : Char} {l : Lexeme} (skip : skipGap cs = c :: r)
    (read : Lexeme.read c r = .ok (l, rest)) (more : Between rest back) : Between cs back

theorem Between.refl (cs : List Char) : Between cs cs := @gap [] cs (by simp)

namespace Token

variable {total : Nat} {cs rest : List Char} {ts : List Token}

/-- Every token is read somewhere in the text, and reading gets to where it starts and to where it
ends. -/
theorem between_of_readAll (h : readAll total cs = .ok ts) {t : Token} (ht : t ∈ ts) :
    ∃ c r rest, Lexeme.read c r = .ok (t.lexeme, rest) ∧ c :: r <:+ cs ∧
      t.position = total - Text.byteLength (c :: r) ∧ Between cs (c :: r) ∧ Between cs rest := by
  fun_induction readAll total cs generalizing ts with
  | case1 =>
    injection h with h
    subst h
    contradiction
  | case2 => contradiction
  | case3 cs c r hs l rest hr ih =>
    obtain ⟨more, hmore, rfl⟩ := exists_of_map_eq_ok h
    obtain ⟨gap, hcs, hgap⟩ := skipGap_blank cs
    rw [hs] at hcs
    obtain rfl | ht := List.mem_cons.mp ht
    · exact ⟨c, r, rest, hr, ⟨gap, hcs.symm⟩, rfl, hcs ▸ .gap hgap, .token hs hr (.refl rest)⟩
    · obtain ⟨c', r', rest', hr', hsuffix, hposition, hstart, hend⟩ := ih hmore ht
      obtain ⟨span, hspan, -⟩ := spelled_of_read hr
      have hrest : rest <:+ cs := ⟨gap ++ span, by rw [List.append_assoc, ← hspan, hcs]⟩
      exact ⟨c', r', rest', hr', hsuffix.trans hrest, hposition, .token hs hr hstart,
        .token hs hr hend⟩

/-- Reading gets to the end. -/
theorem between_nil (h : readAll total cs = .ok ts) : Between cs [] := by
  fun_induction readAll total cs generalizing ts with
  | case1 cs hs =>
    obtain ⟨gap, hcs, hgap⟩ := skipGap_blank cs
    rw [hs] at hcs
    exact hcs ▸ .gap hgap
  | case2 => contradiction
  | case3 cs c r hs l rest hr ih =>
    obtain ⟨more, hmore, rfl⟩ := exists_of_map_eq_ok h
    exact .token hs hr (ih hmore)

/-- Blanks in front do not count. -/
theorem readAll_gap {gap : List Char} (blank : ∀ c ∈ gap, isGap c = true) (total : Nat)
    (cs : List Char) : readAll total (gap ++ cs) = readAll total cs := by
  have hskip : skipGap (gap ++ cs) = skipGap cs := List.dropWhile_append_of_pos blank
  rw [readAll_eq, hskip, ← readAll_eq]

/-- In a text of another length, the same end has the same tokens at other offsets. -/
theorem readAll_moved {total' : Nat} {f : Nat → Nat} (h : readAll total cs = .ok ts)
    (hf : ∀ rest, rest <:+ cs → f (offset total rest) = offset total' rest) :
    readAll total' cs = .ok (ts.map (Token.moved f)) := by
  fun_induction readAll total cs generalizing ts with
  | case1 cs hs =>
    injection h with h
    subst h
    rw [readAll_eq, hs]
    rfl
  | case2 => contradiction
  | case3 cs c r hs l rest hr ih =>
    obtain ⟨more, hmore, rfl⟩ := exists_of_map_eq_ok h
    obtain ⟨span, hspan, -⟩ := spelled_of_read hr
    have htoken : c :: r <:+ cs := hs ▸ skipGap_suffix cs
    have hrest : rest <:+ c :: r := ⟨span, hspan.symm⟩
    have hmoved := ih hmore fun rest' h' => hf rest' (h'.trans (hrest.trans htoken))
    rw [readAll_eq, hs]
    simp only [hr, hmoved, Except.map, List.map_cons, Token.moved, hf _ htoken]

end Token

/-- A position after `count` bytes have been put in at another. -/
def Text.displaced (place count position : Nat) : Nat :=
  if position < place then position else position + count

/-- **Blanks between tokens only move the tokens behind them.** -/
theorem Between.readAll {total : Nat} {cs back blanks : List Char} {ts : List Token}
    (h : Between cs back) (hblank : ∀ c ∈ blanks, isGap c = true)
    (hle : Text.byteLength cs ≤ total) (hread : Token.readAll total cs = .ok ts) :
    ∃ front, cs = front ++ back ∧
      Token.readAll (total + Text.byteLength blanks) (front ++ (blanks ++ back)) =
        .ok (ts.map (Token.moved
          (Text.displaced (total - Text.byteLength back) (Text.byteLength blanks)))) := by
  induction h generalizing ts with
  | @gap gap back blank =>
      refine ⟨gap, rfl, ?_⟩
      rw [Text.byteLength_append] at hle
      rw [Token.readAll_gap blank] at hread
      rw [Token.readAll_gap blank, Token.readAll_gap hblank]
      refine Token.readAll_moved hread fun rest hrest => ?_
      obtain ⟨before, rfl⟩ := hrest
      simp only [Token.offset, Text.displaced, Text.byteLength_append] at hle ⊢
      split <;> omega
  | @token cs r rest back c l hs hr _ ih =>
      obtain ⟨gap, hcs, hgap⟩ := Token.skipGap_blank cs
      rw [hs] at hcs
      rw [Token.readAll_eq, hs] at hread
      simp only [hr] at hread
      obtain ⟨more, hmore, rfl⟩ := exists_of_map_eq_ok hread
      obtain ⟨span, rfl, hstays⟩ := stays_read hr
      subst hcs
      simp only [Text.byteLength_append, Text.byteLength_cons] at hle
      obtain ⟨front, rfl, hfront⟩ := ih (by omega) hmore
      have hagain := hstays _ ((Padded.here hblank).append front)
      have hskip : skipGap (c :: (span ++ (front ++ (blanks ++ back)))) =
          c :: (span ++ (front ++ (blanks ++ back))) :=
        List.dropWhile_cons_of_neg (by simp [eq_false_of_dropWhile_eq_cons hs])
      -- the token has the same offset, since both texts are longer by the blanks
      have hposition : Text.displaced (total - Text.byteLength back) (Text.byteLength blanks)
          (Token.offset total (c :: (span ++ (front ++ back)))) =
            Token.offset (total + Text.byteLength blanks)
              (c :: (span ++ (front ++ (blanks ++ back)))) := by
        have hc := c.utf8Size_pos
        simp only [Text.displaced, Token.offset, Text.byteLength_append, Text.byteLength_cons]
          at hle ⊢
        split <;> omega
      refine ⟨gap ++ c :: (span ++ front), by simp, ?_⟩
      rw [List.append_assoc, Token.readAll_gap hgap, List.cons_append, List.append_assoc,
        Token.readAll_eq, hskip]
      simp only [hagain, hfront, Except.map, List.map_cons, Token.moved, hposition]

/-- A blank takes one byte. -/
theorem byteLength_of_gap {blanks : List Char} (h : ∀ c ∈ blanks, isGap c = true) :
    Text.byteLength blanks = blanks.length := by
  induction blanks with
  | nil => rfl
  | cons c blanks ih =>
      obtain ⟨hc, hblanks⟩ := List.forall_mem_cons.mp h
      have hsize : c.utf8Size = 1 := by
        simp only [isGap, Bool.or_eq_true, beq_iff_eq] at hc
        obtain ((rfl | rfl) | rfl) | rfl := hc <;> rfl
      rw [Text.byteLength_cons, ih hblanks, hsize, List.length_cons, Nat.add_comm]

/-- A text that is read is the filter that its tokens are. -/
theorem Expr.ofText_of_tokens {text : List Char} {ts : TokenList}
    (h : TokenList.ofText text = .ok ts) :
    ofText text = (ofTokens ts).mapError .ungrammatical := by
  rw [ofText, h]
  dsimp only
  cases ofTokens ts <;> rfl

namespace TokenList

variable {text front back blanks : List Char} {ts : TokenList}

/-- Every token is read where its position says, and reading gets to both ends of it. -/
theorem between_of_mem (h : ofText text = .ok ts) {t : Token} (ht : t ∈ ts.tokens) :
    ∃ c r rest, Lexeme.read c r = .ok (t.lexeme, rest) ∧ Text.FromByte text t.position (c :: r) ∧
      Between text (c :: r) ∧ Between text rest := by
  obtain ⟨tokens, htokens, rfl⟩ := exists_of_map_eq_ok h
  obtain ⟨c, r, rest, hr, hsuffix, hposition, hbetween⟩ := Token.between_of_readAll htokens ht
  exact ⟨c, r, rest, hr, hposition ▸ Text.fromByte_of_suffix hsuffix, hbetween⟩

/-- Every token is spelled where its position says. -/
theorem spelled_of_mem (h : ofText text = .ok ts) {t : Token} (ht : t ∈ ts.tokens) :
    ∃ span rest, Lexeme.Spelled t.lexeme span ∧ Text.FromByte text t.position (span ++ rest) ∧
      Between text (span ++ rest) ∧ Between text rest := by
  obtain ⟨c, r, rest, hr, hplace, hbetween⟩ := between_of_mem h ht
  obtain ⟨span, hspan, hspelled⟩ := Lexeme.spelled_of_read hr
  exact ⟨span, rest, hspelled, hspan ▸ hplace, hspan ▸ hbetween⟩

/-- Every token has a boundary in front of it and one behind it, with its spelling in between. -/
theorem exists_boundary (h : ofText text = .ok ts) {t : Token} (ht : t ∈ ts.tokens) :
    ∃ front span back, text = front ++ (span ++ back) ∧ Lexeme.Spelled t.lexeme span ∧
      ts.Boundary front ∧ ts.Boundary (front ++ span) := by
  obtain ⟨span, back, hspelled, ⟨front, hfront, hstarts⟩, -⟩ := spelled_of_mem h ht
  exact ⟨front, span, back, hfront, hspelled, .before ht hstarts, .after ht hstarts hspelled rfl⟩

/-- Reading gets to every boundary. -/
theorem Boundary.between (h : ts.Boundary front) (hread : ofText (front ++ back) = .ok ts) :
    Between (front ++ back) back := by
  cases h with
  | @before t ht hstarts =>
      obtain ⟨c, r, rest, -, hplace, hbetween, -⟩ := between_of_mem hread ht
      exact hplace.unique ⟨front, rfl, hstarts⟩ ▸ hbetween
  | stop hstops =>
      obtain ⟨tokens, htokens, rfl⟩ := exists_of_map_eq_ok hread
      obtain rfl : back = [] := Text.eq_nil_of_byteLength_append hstops.symm
      exact Token.between_nil htokens
  | @after t start span ht hstarts hspelled hends =>
      obtain ⟨span', rest, hspelled', hplace, -, hbetween⟩ := spelled_of_mem hread ht
      have hsame : span' ++ rest = span ++ back :=
        hplace.unique ⟨start, by rw [hends, List.append_assoc], hstarts⟩
      exact (hspelled'.unique hspelled hsame).2 ▸ hbetween

/-- **Blanks between tokens do not count.**  Where spaces, tabs, carriage returns and line feeds are
put in at a boundary of a text that is read, the text has the same tokens, and those behind the
blanks are as many places further on as there are blanks.  So it is the same filter; where it is
none, the error expects and has found the same, and moves like the tokens. -/
theorem ofText_insert_blanks (h : ofText (front ++ back) = .ok ts) (hboundary : ts.Boundary front)
    (hblank : ∀ c ∈ blanks, c ∈ [' ', '\t', '\r', '\n']) :
    ofText (front ++ (blanks ++ back)) =
      .ok (ts.moved (Text.displaced (Text.byteLength front) blanks.length)) ∧
    (ts.moved (Text.displaced (Text.byteLength front) blanks.length)).tokens.map Token.lexeme =
      ts.tokens.map Token.lexeme ∧
    (∀ e, Expr.ofText (front ++ back) = .ok e → Expr.ofText (front ++ (blanks ++ back)) = .ok e) ∧
    ∀ err, Expr.ofText (front ++ back) = .error err → ∃ e, err = .ungrammatical e ∧
      Expr.ofText (front ++ (blanks ++ back)) = .error (.ungrammatical
        (e.moved (Text.displaced (Text.byteLength front) blanks.length))) := by
  have hgap : ∀ c ∈ blanks, isGap c = true := fun c hc => by
    simpa [isGap, or_assoc] using hblank c hc
  have hlength := byteLength_of_gap hgap
  have hread : ofText (front ++ (blanks ++ back)) =
      .ok (ts.moved (Text.displaced (Text.byteLength front) blanks.length)) := by
    have hbetween := hboundary.between h
    obtain ⟨tokens, htokens, rfl⟩ := exists_of_map_eq_ok h
    obtain ⟨front', hfront, htokens'⟩ := hbetween.readAll hgap (Nat.le_refl _) htokens
    obtain rfl := List.append_cancel_right hfront
    have htotal : Text.byteLength (front ++ (blanks ++ back)) =
        Text.byteLength (front ++ back) + blanks.length := by
      simp only [Text.byteLength_append, hlength]
      omega
    have hplace :
        Text.byteLength (front ++ back) - Text.byteLength back = Text.byteLength front := by
      simp
    have hstop : Text.displaced (Text.byteLength front) blanks.length
        (Text.byteLength (front ++ back)) = Text.byteLength (front ++ back) + blanks.length :=
      if_neg (by simp)
    rw [hplace, hlength] at htokens'
    simp only [ofText, htotal, htokens', Except.map, moved, hstop]
  have hbefore := Expr.ofText_of_tokens h
  have hafter := Expr.ofText_of_tokens hread
  rw [Expr.ofTokens_moved] at hafter
  refine ⟨hread, by simp [moved, Token.moved], fun e he => ?_, fun err he => ?_⟩
  all_goals
    rw [hbefore] at he
    rw [hafter]
    cases hts : Expr.ofTokens ts <;> rw [hts] at he
  · contradiction
  · exact he
  · next e =>
    injection he with he
    exact ⟨e, he.symm, rfl⟩
  · contradiction

/-- The tokens of `f([a])>=2024-01-01or[b]`, where no blank is needed. -/
def denseTokens : TokenList :=
  ⟨[⟨.function "f", 0⟩, ⟨.openParen, 1⟩, ⟨.path "a", 2⟩, ⟨.closeParen, 5⟩, ⟨.comparison .ge, 6⟩,
    ⟨.date "2024-01-01", 8⟩, ⟨.or, 18⟩, ⟨.path "b", 20⟩], 23⟩

/-- Between `f` and its parenthesis there may be blanks of every kind, and `f` is still the name of
a function.  The operand without a comparison is then found at byte 24. -/
theorem ofText_insert_blanks_function :
    ofText "f([a])>=2024-01-01or[b]".toList = .ok denseTokens ∧ denseTokens.Boundary ['f'] ∧
    ofText "f \t\r\n([a])>=2024-01-01or[b]".toList =
      .ok (denseTokens.moved (Text.displaced 1 4)) ∧
    ∀ err, Expr.ofText "f([a])>=2024-01-01or[b]".toList = .error err →
      ∃ e, err = .ungrammatical e ∧ Expr.ofText "f \t\r\n([a])>=2024-01-01or[b]".toList =
        .error (.ungrammatical (e.moved (Text.displaced 1 4))) := by
  have hread : ofText (['f'] ++ "([a])>=2024-01-01or[b]".toList) = .ok denseTokens := by
    decide +kernel
  have hname : Lexeme.Spelled (.function "f") ['f'] := .function (by decide) (by decide)
  have hboundary : denseTokens.Boundary ['f'] :=
    @Boundary.after _ _ ⟨.function "f", 0⟩ [] ['f'] (by decide) rfl hname rfl
  have hblank : ∀ c ∈ [' ', '\t', '\r', '\n'], c ∈ [' ', '\t', '\r', '\n'] := fun _ hc => hc
  obtain ⟨htokens, -, -, herror⟩ := ofText_insert_blanks hread hboundary hblank
  exact ⟨hread, hboundary, htokens, herror⟩

end TokenList

end TreeSift
