import LineCommands.Proofs.Spelling
import LineCommands.Proofs.Serve
/-!
# Reading a spelled line back

A line spells a list of byte strings when it holds their spellings as tokens: spaces, then
the tokens in order, at least one space between two of them, then spaces. This module shows
that a line cursor asked for text values reads every such line back: the i-th request, be it
required or optional, is answered with the i-th byte string, and after the last one the
cursor is exhausted.

## What this module delivers

- `LineSpelling`, the lines that spell a list of byte strings.
- `LineCursor.nextValue_of_spelling` and `LineCursor.nextValue_text_of_spelling`: one request
  reads the spelled token in front of the cursor and moves past it.
- `cursor_reads_back_spelling`: the round trip over a whole line.
-/

namespace LineCommands

open Spelling

/-- A line `L` that spells the byte strings `ts`: spaces, then the spelled tokens in order,
each followed by the end of the line or a space, then spaces. -/
inductive Spelling.LineSpelling : List Bytes → Bytes → Prop where
  | blank (k : Nat) : LineSpelling [] (List.replicate k 32)
  | token {t w rest : Bytes} {ts : List Bytes} (k : Nat) : TokenSpelling t w →
      LineSpelling ts rest → (rest = [] ∨ rest.head? = some 32) →
      LineSpelling (t :: ts) (List.replicate k 32 ++ (w ++ rest))

/-! ## The first byte of a token -/

namespace Spelling

theorem Spells.head_ne_closer {p : Place} {d w : Bytes} (h : Spells p d w)
    (hp : p.closer.toNat < 48) : w.head? ≠ some p.closer := by
  rcases h.shape hp with hw | ⟨c, u, rfl, -⟩
  · cases w with
    | nil => simp
    | cons x w => simpa using (hw x (by simp)).2
  · intro e
    simp only [List.head?_cons, Option.some.injEq] at e
    rw [← e] at hp
    exact absurd hp (by decide)

theorem Spelled.head_ne_closer {p : Place} {t w : Bytes} (h : Spelled p t w)
    (hp : p.closer.toNat < 48) : w.head? ≠ some p.closer := by
  cases h with
  | nil => simp
  | cons hu _ =>
      obtain ⟨x, w', hx⟩ := List.exists_cons_of_ne_nil hu.ne_nil
      have := hu.head_ne_closer hp
      rw [hx] at this ⊢
      simpa using this

/-- A spelled token is not empty and does not start with a space. -/
theorem TokenSpelling.front {t w : Bytes} (h : TokenSpelling t w) :
    w ≠ [] ∧ w.head? ≠ some 32 := by
  cases h with
  | quoted hq _ =>
      refine ⟨by simp, ?_⟩
      rcases hq with rfl | rfl <;> simp
  | bare hne hs _ _ => exact ⟨hs.ne_nil hne, hs.head_ne_closer (by decide)⟩

end Spelling

/-! ## One request -/

namespace LineCursor

variable (c : LineCursor)

theorem leadingSpaces_replicate_append (k : Nat) {w : Bytes} (hw : w.head? ≠ some 32) :
    Token.leadingSpaces (List.replicate k 32 ++ w) = k := by
  induction k with
  | zero =>
      cases w with
      | nil => rfl
      | cons b w =>
          have hb : b ≠ 32 := by simpa using hw
          simp [Token.leadingSpaces, Token.space, hb]
  | succ k ih =>
      simpa [Token.leadingSpaces, List.replicate_succ, List.takeWhile_cons, Token.space] using ih

/-- Moving the raw position over the front `pre` of the unconsumed bytes leaves the rest. -/
theorem restBytes_advance {pre post : Bytes} (h : c.restBytes = pre ++ post) (c' : LineCursor)
    (hline : c'.line = c.line) (hpos : c'.pos = c.pos + pre.length) : c'.restBytes = post := by
  unfold restBytes at h ⊢
  rw [hline, hpos, ← List.drop_drop, h, List.drop_left]

/-- **One request reads the spelled token in front of the cursor.** A request for a kind
read token by token (not the full rest, not the custom kind) whose token reads as `v` moves
the cursor past the spaces and the token, counts one more argument and answers `v`. -/
theorem nextValue_of_spelling {kd : ArgKind} (hkd : kd ≠ .custom) (hfull : kd ≠ .full)
    (hc : c.remainderTaken = false) {k : Nat} {t w rest : Bytes}
    (hrest : c.restBytes = List.replicate k 32 ++ (w ++ rest)) (hw : TokenSpelling t w)
    (hr : rest = [] ∨ rest.head? = some 32) (r : Bool) {v : ArgValue}
    (hv : ArgValue.read kd t = .ok v) :
    c.nextValue kd r =
      ({ c with pos := c.pos + k + w.length, argPos := c.argPos + 1 }, .ok (some v)) := by
  obtain ⟨hne, hhead⟩ := hw.front
  -- the token does not start with a space, so the spaces in front are exactly the `k`
  have hstart : c.tokenStart = c.pos + k := by
    have : (w ++ rest).head? ≠ some 32 := by
      obtain ⟨x, w', rfl⟩ := List.exists_cons_of_ne_nil hne
      simpa using hhead
    rw [tokenStart, hrest, leadingSpaces_replicate_append k this]
  have hafter : c.skipSpaces.restBytes = w ++ rest :=
    restBytes_advance c hrest _ rfl (by simp [hstart])
  have hlen : ¬c.line.length ≤ c.tokenStart := by
    have hl := congrArg List.length hrest
    simp only [restBytes, List.length_drop, List.length_append, List.length_replicate] at hl
    have : w.length ≠ 0 := by simpa using hne
    omega
  -- the token is followed by the end of the line or a space: extraction stops right after it
  have hex := hw.extract c.tokenStart hr
  rw [← hafter] at hex
  simp only [nextValue, skipSpaces_line, skipSpaces_pos, skipSpaces_remainderTaken, hc, hlen, hex,
    hkd, hfull, hv, if_false, Bool.false_eq_true]
  simp [skipSpaces, hstart]

/-- **One text request reads the spelled token in front of the cursor.** The cursor moves
past the spaces and the token and counts one more argument. -/
theorem nextValue_text_of_spelling (hc : c.remainderTaken = false) {k : Nat} {t w rest : Bytes}
    (hrest : c.restBytes = List.replicate k 32 ++ (w ++ rest)) (hw : TokenSpelling t w)
    (hr : rest = [] ∨ rest.head? = some 32) (r : Bool) :
    c.nextValue .text r =
      ({ c with pos := c.pos + k + w.length, argPos := c.argPos + 1 }, .ok (some (.text t))) :=
  c.nextValue_of_spelling (by decide) (by decide) hc hrest hw hr r rfl

/-- A cursor whose unconsumed bytes are spaces is exhausted. -/
theorem exhausted_of_blank {k : Nat} (h : c.restBytes = List.replicate k 32) :
    c.exhausted = true := by
  have hstart : c.tokenStart = c.pos + k := by
    rw [tokenStart, h, ← List.append_nil (List.replicate k 32),
      leadingSpaces_replicate_append k (by simp)]
  have hl := congrArg List.length h
  simp only [restBytes, List.length_drop, List.length_replicate] at hl
  simp only [exhausted, hstart, Bool.or_eq_true, decide_eq_true_eq]
  omega

end LineCursor

/-! ## The whole line -/

namespace Spelling

/-- The line run behind the round trip: from a cursor whose unconsumed bytes spell `ts`,
one text request per byte string reads them in order and leaves the cursor exhausted. -/
theorem LineSpelling.serve {ts : List Bytes} {L : Bytes} (h : LineSpelling ts L) :
    ∀ (c : LineCursor), c.remainderTaken = false → c.restBytes = L →
      ∀ rs : List Bool, rs.length = ts.length →
        ((Cursor.line c).serve (rs.map (Request.value .text))).1.map Reply.answer =
            ts.map (fun t => .ok (.value (.text t))) ∧
          ∃ c', ((Cursor.line c).serve (rs.map (Request.value .text))).2 = .line c' ∧
            c'.remainderTaken = false ∧ ∃ k, c'.restBytes = List.replicate k 32 := by
  -- induction on the spelling, over every cursor whose unconsumed bytes are the line
  induction h with
  | blank k =>
      intro c hc hL rs hrs
      obtain rfl : rs = [] := List.length_eq_zero_iff.1 hrs
      exact ⟨rfl, c, rfl, hc, k, hL⟩
  | @token t w rest ts k hw _ hr ih =>
      intro c hc hL rs hrs
      obtain ⟨r, rs, rfl⟩ : ∃ r rs', rs = r :: rs' :=
        List.exists_cons_of_length_eq_add_one hrs
      -- the first request reads the first token; what is left spells the other byte strings
      have hstep := c.nextValue_text_of_spelling hc hL hw hr r
      have hrest : ({ c with pos := c.pos + k + w.length, argPos := c.argPos + 1 } :
          LineCursor).restBytes = rest :=
        c.restBytes_advance
          (show c.restBytes = (List.replicate k 32 ++ w) ++ rest by rw [hL, List.append_assoc]) _
          rfl (by simp [Nat.add_assoc])
      obtain ⟨hans, c', hc'⟩ :=
        ih { c with pos := c.pos + k + w.length, argPos := c.argPos + 1 } hc hrest rs
          (by simpa using hrs)
      refine ⟨?_, c', ?_⟩
      · simp only [List.map_cons, Cursor.serve_cons, Cursor.answer, Cursor.nextValue, hstep]
        simpa [Except.map] using hans
      · simpa [Cursor.answer, Cursor.nextValue, hstep] using hc'

end Spelling

open Spelling in
/-- **Tokenizer round trip.** A line cursor over any line that spells the byte strings
`ts`, asked for text values one request per byte string (each required or optional), answers
them in order with the byte strings themselves; it is then exhausted, and a further optional
request finds nothing. -/
theorem cursor_reads_back_spelling {ts : List Bytes} {L : Bytes} (h : LineSpelling ts L)
    (types : Option TypeTable) (rs : List Bool) (hrs : rs.length = ts.length) :
    let run := (Cursor.line { line := L, types := types }).serve (rs.map (Request.value .text))
    run.1.map Reply.answer = ts.map (fun t => .ok (.value (.text t))) ∧
      run.2.exhausted = true ∧ (run.2.answer (.value .text false)).2 = .ok .nothing := by
  obtain ⟨hans, c', hend, hc', k, hk⟩ := h.serve { line := L, types := types } rfl rfl rs hrs
  have hex := c'.exhausted_of_blank hk
  refine ⟨hans, by simp [hend, Cursor.exhausted, hex], ?_⟩
  -- only spaces are left, so the optional request reaches the end of the line
  have hstart : c'.line.length ≤ c'.tokenStart := by
    simpa [LineCursor.exhausted, hc'] using hex
  simp [hend, Cursor.answer, Cursor.nextValue, LineCursor.nextValue, hc',
    LineCursor.skipSpaces, hstart, LineCursor.missing, Except.map]

namespace Spelling

/-- The line ` "a b"  \xFf é`: a quoted token with a space in it, a byte written as a hex
escape with digits of both cases, and a character outside ASCII written as itself. -/
theorem lineSpelling_mixed :
    LineSpelling [[97, 32, 98], [255], [0xC3, 0xA9]]
      [32, 34, 97, 32, 98, 34, 32, 32, 92, 120, 70, 102, 32, 0xC3, 0xA9] := by
  have quoted : TokenSpelling [97, 32, 98] [34, 97, 32, 98, 34] :=
    .quoted (.inr rfl) (.cons (.literal (by decide) (by decide) (by decide))
      (.cons (.literal (by decide) (by decide) (by decide))
        (.cons (.literal (by decide) (by decide) (by decide)) .nil)))
  have hex : TokenSpelling [255] [92, 120, 70, 102] :=
    .bare (by simp) (.cons (.hex (by unfold HexDigit; decide) (by unfold HexDigit; decide)) .nil)
      (by decide) (by decide)
  have char : TokenSpelling [0xC3, 0xA9] [0xC3, 0xA9] :=
    .bare (by simp) (.cons (.char (by decide) (by decide) (.inl (by decide))
      (show Utf8.encode 0xE9 = .ok [0xC3, 0xA9] from rfl)) .nil) (by decide) (by decide)
  exact .token 1 quoted (.token 2 hex (.token 1 char (.blank 0) (.inl rfl)) (.inr rfl)) (.inr rfl)

end Spelling

open Spelling in
theorem cursor_reads_back_spelling_mixed :
    LineSpelling [[97, 32, 98], [255], [0xC3, 0xA9]]
        [32, 34, 97, 32, 98, 34, 32, 32, 92, 120, 70, 102, 32, 0xC3, 0xA9] ∧
      [true, false, true].length = 3 ∧
      let run := (Cursor.line { line := [32, 34, 97, 32, 98, 34, 32, 32, 92, 120, 70, 102, 32,
        0xC3, 0xA9] }).serve ([true, false, true].map (Request.value .text))
      run.1.map Reply.answer = [[97, 32, 98], [255], [0xC3, 0xA9]].map
          (fun t => .ok (.value (.text t))) ∧
        run.2.exhausted = true ∧ (run.2.answer (.value .text false)).2 = .ok .nothing :=
  ⟨lineSpelling_mixed, rfl, cursor_reads_back_spelling lineSpelling_mixed none _ rfl⟩

end LineCommands
