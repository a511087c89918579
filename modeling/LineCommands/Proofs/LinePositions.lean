import LineCommands.Proofs.TokenScan
import LineCommands.Proofs.TextBytes
import LineCommands.Proofs.RequiredOptional
/-!
# Where a line cursor stands

A line cursor over a text keeps a raw position, a byte offset into the text's bytes, and a
count of the arguments it handed out. Every request moves the raw position in one of four
ways (`LineCursor.Move`): not at all, over the spaces in front of the next token, to the
end of the line for the full rest, or past the next token. Each of these lands on a byte
offset that is the end of the line, sits just before a space, or sits just after a space or
a quote. Those bytes are ASCII, so the offset falls between two characters of the text, and
the unconsumed text is exactly the text from there on.

From the four moves follow, for every cursor a program can hold:

- the argument count is at most the raw position, which is at most the line's length and
  equals it once the full rest is taken;
- the raw position is a character boundary, and the unconsumed text is the rest of the text;
- no request moves the raw position back; a request that hands out a value moves it forward
  and counts one more argument, and any other request leaves the count;
- so a run of requests gets at most as many values as bytes remain.

## What this module delivers

- `Bytes.Boundary`, with `Bytes.boundary_of_ascii`: a text splits around its ASCII bytes.
- `LineCursor.Move`, `LineCursor.move_nextValue`, `LineCursor.move_nextCustom`: the four
  moves, and that every request makes one of them.
- `LineCursor.Advance` and `LineCursor.Move.advance`: how the position and the count move.
- `LineCursor.Placed` and `LineCursor.Placed.move`: the invariant and its step.
- `LineCursor.Placed.countP_serve_le`: the bound over a run.
- `line_cursor_positions`: the main statement.
-/

namespace LineCommands

/-! ## Character boundaries of a text -/

namespace Bytes

/-- The byte offset `i` of the text `s` falls between two of its characters, or at one of its
ends: the bytes in front of it are the bytes of a text. -/
def Boundary (s : String) (i : Nat) : Prop :=
  ∃ pre suf : String, pre ++ suf = s ∧ (ofString pre).length = i

theorem boundary_zero (s : String) : Boundary s 0 :=
  ⟨"", s, String.empty_append, by simp [length_ofString]⟩

theorem boundary_length (s : String) : Boundary s (ofString s).length :=
  ⟨s, "", String.append_empty, rfl⟩

/-- **A text splits just before and just after each of its ASCII bytes.** -/
theorem boundary_of_ascii {s : String} {i : Nat} {b : UInt8} (h : (ofString s)[i]? = some b)
    (hb : b.toNat < 128) : Boundary s i ∧ Boundary s (i + 1) := by
  obtain ⟨hlt, hget⟩ := List.getElem?_eq_some_iff.1 h
  have hsplit : ofString s = (ofString s).take i ++ b :: (ofString s).drop (i + 1) := by
    rw [← hget, List.getElem_cons_drop, List.take_append_drop]
  obtain ⟨pre, suf, hs, hpre, hsuf⟩ := split_ofString_ascii hsplit hb
  have hlen : (ofString pre).length = i := by
    rw [hpre, List.length_take]
    omega
  -- the lengths of the three pieces add up to the whole
  have hsum : (ofString s).length = (ofString pre).length +
      (ofString (String.singleton (Char.ofNat b.toNat))).length + (ofString suf).length := by
    rw [hs, ofString_append, ofString_append, List.length_append, List.length_append]
  have htotal : (ofString s).length = i + 1 + ((ofString s).drop (i + 1)).length := by
    rw [List.length_drop]
    omega
  refine ⟨⟨pre, String.singleton (Char.ofNat b.toNat) ++ suf, ?_, hlen⟩,
    ⟨pre ++ String.singleton (Char.ofNat b.toNat), suf, hs.symm, ?_⟩⟩
  · rw [hs, String.append_assoc]
  · rw [ofString_append, List.length_append]
    rw [hsuf] at hsum
    omega

/-- At a character boundary, the text read from the bytes after it is the rest of the text. -/
theorem Boundary.lossy_drop {s : String} {i : Nat} (h : Boundary s i) :
    ∃ pre, pre ++ Utf8.lossy ((ofString s).drop i) = s ∧ (ofString pre).length = i := by
  obtain ⟨pre, suf, rfl, rfl⟩ := h
  refine ⟨pre, ?_, rfl⟩
  rw [ofString_append, List.drop_left, Utf8.lossy_ofString]

end Bytes

namespace LineCursor

variable {c c' : LineCursor} {s : String} {v : Bool}

/-! ## The four moves -/

/-- How one request moves a line cursor, and whether it hands out a value: it stays, it
skips the spaces in front of the next token, it takes the full rest of the line, or it takes
the next token, which `Token.extract` splits off. -/
inductive Move (c : LineCursor) : LineCursor → Bool → Prop where
  | stay : Move c c false
  | skip : c.remainderTaken = false → Move c c.skipSpaces false
  | full : c.remainderTaken = false → c.tokenStart < c.line.length →
      Move c { c with pos := c.line.length, argPos := c.argPos + 1, remainderTaken := true } true
  | token {out : Bytes} {n : Nat} : c.remainderTaken = false → c.tokenStart < c.line.length →
      Token.extract c.tokenStart (c.line.drop c.tokenStart) = .ok (out, n) →
      Move c { c with pos := c.tokenStart + n, argPos := c.argPos + 1 } true

/-- Every value request makes one of the four moves, and hands out a value exactly when the
move says so. -/
theorem move_nextValue (c : LineCursor) (k : ArgKind) (r : Bool) :
    c.Move (c.nextValue k r).1 (c.nextValue k r).2.toOption.join.isSome := by
  by_cases hk : k = .custom
  · subst hk
    simp only [nextValue, if_true]
    exact .stay
  cases hr : c.remainderTaken with
  | true =>
    rw [c.nextValue_of_remainderTaken hk hr r]
    exact .stay
  | false =>
    by_cases ht : c.tokenStart < c.line.length
    · have hlen : ¬c.skipSpaces.line.length ≤ c.skipSpaces.pos := by simp; omega
      simp only [nextValue, hk, hr, if_false, Bool.false_eq_true]
      rw [if_neg hlen]
      -- the full rest is decoded whole; any other kind splits a token and reads it
      split
      · split
        · exact .skip hr
        · exact .full hr ht
      · split
        · exact .skip hr
        · split
          · exact .skip hr
          · exact .token hr ht ‹_›
    · rw [c.nextValue_of_no_token hk hr (by omega) r, ValueQueue.Shadows.missing_toOption_join]
      exact .skip hr

/-- Every custom request makes one of the four moves, never the full rest, and hands out a
value exactly when the move says so. -/
theorem move_nextCustom (c : LineCursor) (name : String) (r : Bool) :
    c.Move (c.nextCustom name r).1 (c.nextCustom name r).2.toOption.join.isSome := by
  cases hp : c.types.bind (·.find? name) with
  | none =>
    simp only [nextCustom, hp]
    exact .stay
  | some parser =>
    cases hr : c.remainderTaken with
    | true =>
      rw [c.nextCustom_of_remainderTaken hp hr r]
      exact .stay
    | false =>
      by_cases ht : c.tokenStart < c.line.length
      · have hlen : ¬c.skipSpaces.line.length ≤ c.skipSpaces.pos := by simp; omega
        simp only [nextCustom, hp, hr, if_false, Bool.false_eq_true]
        rw [if_neg hlen]
        split
        · exact .skip hr
        · split
          · exact .skip hr
          · exact .token hr ht ‹_›
      · rw [c.nextCustom_of_no_token hp hr (by omega) r,
          ValueQueue.Shadows.missing_toOption_join]
        exact .skip hr

/-! ## Where the moves land -/

theorem pos_le_tokenStart (c : LineCursor) : c.pos ≤ c.tokenStart :=
  Nat.le_add_right _ _

/-- Skipping spaces stays within the line, and lands where it started or just after a
space. -/
theorem tokenStart_cases (c : LineCursor) (hc : c.pos ≤ c.line.length) :
    c.tokenStart ≤ c.line.length ∧
      (c.tokenStart = c.pos ∨ ∃ j, c.tokenStart = j + 1 ∧ c.line[j]? = some Token.space) := by
  have hle := Token.leadingSpaces_le c.restBytes
  rw [restBytes, List.length_drop] at hle
  refine ⟨by unfold tokenStart restBytes; omega, ?_⟩
  by_cases h0 : Token.leadingSpaces c.restBytes = 0
  · exact .inl (by rw [tokenStart, h0, Nat.add_zero])
  · -- the last space skipped sits just before the token's start
    have hsp := Token.getElem?_pred_leadingSpaces (Nat.pos_of_ne_zero h0)
    rw [restBytes, List.getElem?_drop] at hsp
    refine .inr ⟨c.pos + (Token.leadingSpaces c.restBytes - 1), ?_, hsp⟩
    unfold tokenStart
    omega

/-- The byte at the next token's start is no space. -/
theorem getElem?_tokenStart_ne (c : LineCursor) : c.line[c.tokenStart]? ≠ some Token.space := by
  have h := Token.getElem?_leadingSpaces_ne c.restBytes
  rwa [restBytes, List.getElem?_drop] at h

/-- **Where a token taken from the line ends**: past its start, within the line, and at the
line's end, just before a space or just after a quote. -/
theorem token_end {out : Bytes} {n : Nat} (ht : c.tokenStart < c.line.length)
    (h : Token.extract c.tokenStart (c.line.drop c.tokenStart) = .ok (out, n)) :
    0 < n ∧ c.tokenStart + n ≤ c.line.length ∧
      (c.tokenStart + n = c.line.length ∨ c.line[c.tokenStart + n]? = some Token.space ∨
        ∃ q, Token.isQuote q = true ∧ c.line[c.tokenStart + n - 1]? = some q) := by
  obtain ⟨b, after, hba⟩ : ∃ b after, c.line.drop c.tokenStart = b :: after :=
    List.exists_cons_of_ne_nil (by simp; omega)
  have hb : b ≠ Token.space := by
    intro hb
    apply c.getElem?_tokenStart_ne
    rw [← Nat.add_zero c.tokenStart, ← List.getElem?_drop, hba, hb]
    rfl
  rw [hba] at h
  obtain ⟨hpos, hle, hend⟩ := Token.extract_eq_ok h hb
  rw [← hba, List.length_drop] at hle hend
  rw [List.getElem?_drop, List.getElem?_drop] at hend
  refine ⟨hpos, by omega, ?_⟩
  rcases hend with hend | hend | ⟨q, hq, hend⟩
  · exact .inl (by omega)
  · exact .inr (.inl hend)
  · refine .inr (.inr ⟨q, hq, ?_⟩)
    rwa [show c.tokenStart + n - 1 = c.tokenStart + (n - 1) by omega]

/-! ## How the position and the count move -/

/-- How a request moves the raw position and the argument count: the position never goes
back; a request that hands out a value moves it forward and counts one more argument; any
other leaves the count as it was. -/
structure Advance (c c' : LineCursor) (handed : Bool) : Prop where
  pos_le : c.pos ≤ c'.pos
  pos_lt : handed = true → c.pos < c'.pos
  argPos : c'.argPos = c.argPos + handed.toNat

theorem Move.advance (h : c.Move c' v) : c.Advance c' v := by
  cases h with
  | stay => exact ⟨Nat.le_refl _, nofun, rfl⟩
  | skip _ => exact ⟨c.pos_le_tokenStart, nofun, rfl⟩
  | full _ ht =>
    have := c.pos_le_tokenStart
    exact ⟨by dsimp only; omega, fun _ => by dsimp only; omega, rfl⟩
  | token _ ht hx =>
    -- a token spans at least one byte
    have hn := (token_end ht hx).1
    have := c.pos_le_tokenStart
    exact ⟨by dsimp only; omega, fun _ => by dsimp only; omega, rfl⟩

/-! ## The invariant -/

/-- Where a line cursor over the text `s` stands: over the bytes of `s`, with the argument
count at most the raw position, the raw position at most the line's length and on a
character boundary of `s`, and at the line's end once the full rest is taken. -/
structure Placed (s : String) (c : LineCursor) : Prop where
  line : c.line = Bytes.ofString s
  argPos_le : c.argPos ≤ c.pos
  pos_le : c.pos ≤ c.line.length
  boundary : Bytes.Boundary s c.pos
  remainderTaken : c.remainderTaken = true → c.pos = c.line.length

theorem placed_ofString (s : String) (types : Option TypeTable) : (ofString s types).Placed s :=
  ⟨rfl, Nat.le_refl 0, Nat.zero_le _, Bytes.boundary_zero s, nofun⟩

/-- **Every move keeps a cursor placed**: each one lands at the line's end or next to a
space or a quote. -/
theorem Placed.move (h : c.Placed s) (hm : c.Move c' v) : c'.Placed s := by
  have hline := h.line
  cases hm with
  | stay => exact h
  | skip hr =>
    obtain ⟨hle, hland⟩ := c.tokenStart_cases h.pos_le
    refine ⟨hline, h.argPos_le.trans c.pos_le_tokenStart, hle, ?_, fun h' => ?_⟩
    · rcases hland with heq | ⟨j, hj, hsp⟩
      · rw [skipSpaces_pos, heq]
        exact h.boundary
      · rw [hline] at hsp
        rw [skipSpaces_pos, hj]
        exact (Bytes.boundary_of_ascii hsp (by decide)).2
    · rw [skipSpaces_remainderTaken, hr] at h'
      cases h'
  | full hr ht =>
    have := h.argPos_le.trans c.pos_le_tokenStart
    refine ⟨hline, by dsimp only; omega, Nat.le_refl _, ?_, fun _ => rfl⟩
    dsimp only
    rw [hline]
    exact Bytes.boundary_length s
  | @token out n hr ht hx =>
    obtain ⟨hn, hle, hend⟩ := token_end ht hx
    have := h.argPos_le.trans c.pos_le_tokenStart
    refine ⟨hline, by dsimp only; omega, hle, ?_, fun h' => ?_⟩
    · dsimp only
      rw [hline] at hend
      rcases hend with hend | hsp | ⟨q, hq, hquote⟩
      · rw [hend]
        exact Bytes.boundary_length s
      · exact (Bytes.boundary_of_ascii hsp (by decide)).1
      · -- just after the closing quote
        have hb := (Bytes.boundary_of_ascii hquote (Token.isQuote_lt hq)).2
        rwa [show c.tokenStart + n - 1 + 1 = c.tokenStart + n by omega] at hb
    · dsimp only at h'
      rw [hr] at h'
      cases h'

/-- A cursor a program can hold over `s` is placed. -/
theorem Reachable.placed (h : c.Reachable s) : c.Placed s := by
  induction h with
  | start types => exact placed_ofString s types
  | nextValue k r _ ih => exact ih.move (move_nextValue _ k r)
  | nextCustom name r _ ih => exact ih.move (move_nextCustom _ name r)

/-- A placed cursor stands on a character boundary of the line's text. -/
theorem Placed.atBoundary (h : c.Placed s) : c.atBoundary = true := by
  obtain ⟨pre, suf, hs, hlen⟩ := h.boundary
  have htake : c.line.take c.pos = Bytes.ofString pre := by
    rw [h.line, ← hs, ← hlen, Bytes.ofString_append, List.take_left]
  simp [LineCursor.atBoundary, h.pos_le, htake, Utf8.toText?_ofString]

/-- At a placed cursor the unconsumed text is the rest of the text: the text splits at the
raw position into what was consumed and the unconsumed text. -/
theorem Placed.rest (h : c.Placed s) :
    ∃ pre, pre ++ c.rest = s ∧ (Bytes.ofString pre).length = c.pos := by
  have hb := h.boundary.lossy_drop
  rw [LineCursor.rest, if_pos h.atBoundary]
  rwa [← h.line] at hb

end LineCursor

/-! ## Runs of requests -/

/-- Whether a reply carries a value: its request succeeded with something other than
nothing. -/
def Reply.carriesValue (r : Reply) : Bool :=
  match r.answer with
  | .ok .nothing => false
  | .ok _ => true
  | .error _ => false

/-- An answer built from a result with no value in it carries no value. -/
theorem Reply.isSome_of_carriesValue {α : Type} {f : α → Answer}
    {x : Except CommandError (Option α)} {n : Nat} {e : Bool}
    (h : (Reply.mk (x.map fun o => (o.map f).getD .nothing) n e).carriesValue = true) :
    x.toOption.join.isSome = true := by
  rcases x with _ | _ | v
  · cases h
  · cases h
  · rfl

/-- A typed read that presents a value took one. -/
theorem Cursor.isSome_of_read {c : Cursor} {shape : Shape} {r : Bool}
    (h : (c.read shape r).2.toOption.join.isSome = true) :
    (c.nextValue shape.kind r).2.toOption.join.isSome = true := by
  unfold Cursor.read at h
  revert h
  cases c.nextValue shape.kind r with
  | mk c' a =>
    rcases a with _ | _ | v
    · exact id
    · cases r <;> exact id
    · exact fun _ => rfl

namespace LineCursor

variable {s : String}

/-- **Every request answered by a line cursor makes one of the four moves**, and an answer
that carries a value comes from a move that hands one out. -/
theorem move_answer (c : LineCursor) (p : Request) :
    ∃ c' v, ((Cursor.line c).answer p).1 = .line c' ∧ c.Move c' v ∧
      ∀ n e, (Reply.mk ((Cursor.line c).answer p).2 n e).carriesValue = true → v = true := by
  cases p with
  | read shape r =>
    exact ⟨_, _, (Cursor.line c).read_fst shape r, c.move_nextValue shape.kind r,
      fun _ _ h => Cursor.isSome_of_read
        (Reply.isSome_of_carriesValue (x := ((Cursor.line c).read shape r).2) h)⟩
  | value k r =>
    exact ⟨_, _, rfl, c.move_nextValue k r, fun _ _ h => Reply.isSome_of_carriesValue h⟩
  | custom name r =>
    exact ⟨_, _, rfl, c.move_nextCustom name r, fun _ _ h => Reply.isSome_of_carriesValue h⟩
  | finish =>
    -- `finish` answers nothing or fails
    refine ⟨c, false, rfl, .stay, fun n e h => ?_⟩
    revert h
    simp only [Cursor.answer]
    cases (Cursor.line c).finish with
    | error err => exact id
    | ok u => exact id

/-- **A run of requests gets at most as many values as bytes remain**: an answer that carries
a value comes from a move forward, and the raw position stays within the line. -/
theorem Placed.countP_serve_le (ps : List Request) :
    ∀ c : LineCursor, c.Placed s →
      ((Cursor.line c).serve ps).1.countP Reply.carriesValue ≤ c.line.length - c.pos := by
  induction ps with
  | nil => exact fun _ _ => Nat.zero_le _
  | cons p ps ih =>
    intro c hc
    obtain ⟨c', v, hstate, hmove, hcarry⟩ := c.move_answer p
    have hc' := hc.move hmove
    have hadv := hmove.advance
    have htail := ih c' hc'
    have hline : c'.line.length = c.line.length := by rw [hc'.line, hc.line]
    have hend := hc'.pos_le
    rw [Cursor.serve_cons, hstate, List.countP_cons]
    split
    · next hcar =>
      have := hadv.pos_lt (hcarry _ _ hcar)
      omega
    · have := hadv.pos_le
      omega

/-- What holds of a line cursor over the text `s` and of every request it answers: it is
placed, its unconsumed text is the rest of `s`, each value or custom request advances it as
`Advance` says, and a run of requests gets at most as many values as bytes remain. -/
structure PositionInvariant (s : String) (c : LineCursor) : Prop where
  placed : c.Placed s
  rest : ∃ pre, pre ++ c.rest = s ∧ (Bytes.ofString pre).length = c.pos
  nextValue : ∀ k r, c.Advance (c.nextValue k r).1 (c.nextValue k r).2.toOption.join.isSome
  nextCustom : ∀ name r,
    c.Advance (c.nextCustom name r).1 (c.nextCustom name r).2.toOption.join.isSome
  serve : ∀ ps : List Request,
    ((Cursor.line c).serve ps).1.countP Reply.carriesValue ≤ c.line.length - c.pos

end LineCursor

/-- **Where a line cursor stands.** Every line cursor a program can hold over a text `s`
counts at most as many arguments as its raw position, which is at most the line's length and
equals it once the full rest is taken. The raw position is a character boundary of `s`, and
the unconsumed text is exactly the text after it. No request moves the raw position back; a
request that hands out a value moves it forward and counts one more argument, and any other
leaves the count. So any run of requests gets at most as many values as bytes remain. -/
theorem line_cursor_positions {s : String} {c : LineCursor} (h : c.Reachable s) :
    c.PositionInvariant s := by
  have hp := h.placed
  exact ⟨hp, hp.rest, fun k r => (c.move_nextValue k r).advance,
    fun name r => (c.move_nextCustom name r).advance, fun ps => hp.countP_serve_le ps c⟩

/-- The cursor over `é a` after its first token was taken. -/
theorem line_cursor_positions_after_token :
    ((LineCursor.ofString "é a").nextValue .text true).1.Reachable "é a" ∧
      ((LineCursor.ofString "é a").nextValue .text true).1.PositionInvariant "é a" :=
  have h : ((LineCursor.ofString "é a").nextValue .text true).1.Reachable "é a" :=
    .nextValue .text true (.start none)
  ⟨h, line_cursor_positions h⟩

end LineCommands
