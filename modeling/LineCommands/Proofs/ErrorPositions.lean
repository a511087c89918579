import LineCommands.Proofs.TokenScan
/-!
# Where the errors of splitting a token point

Three errors report a byte offset of the line: an unclosed quote, a backslash at the end of
the line, and a malformed escape. A value or custom request raises them while it splits the
next token off the line or, for the full rest, while it decodes the rest whole; either way
it starts at the raw position it leaves, just after the spaces it skipped. Each offset is
exact:

- an unclosed quote is reported at the raw position, where the quote that opens the token
  stands, and no later byte of the line that follows whole units is that quote;
- an unexpected escape is reported at the line's last byte, a backslash that follows whole
  units from the raw position on, so it escapes nothing; a request for a token reports it
  only for a bare token, never for a quoted one;
- an invalid escape is reported at a backslash of the bytes the request decodes, the first
  one there that starts no escape: the bytes in front of it are escape pieces.

## What this module delivers

- `CommandError.isTokenError`: the three errors, and `ArgValue.read_not_tokenError`: reading
  a token never raises them.
- `Token.Decoded`: the bytes a request decodes, read off the line.
- `Token.ErrorsPlaced`: where the three errors point.
- `Token.unescapeAt_errorsPlaced`, `Token.extract_errorsPlaced`: the decoder of the full rest
  and the token splitter place their errors so.
- `LineCursor.nextValue_tokenError`, `LineCursor.nextCustom_tokenError`: where the token
  error of a request comes from.
- `token_error_positions`: the main statement.
-/

namespace LineCommands

/-- The errors of splitting a token off the line, each pointing at a byte of it. -/
def CommandError.isTokenError : CommandError → Bool
  | .unclosedQuote _ | .unexpectedEscape _ | .invalidEscape _ => true
  | _ => false

/-! ## Reading a token raises no token error -/

namespace ArgValue

/-- Reading a token as a value fails only with errors of conversion or of the kind. -/
theorem read_not_tokenError {k : ArgKind} {t : Bytes} {e : CommandError}
    (h : read k t = .error e) : e.isTokenError = false := by
  rcases read_error_cases h with ⟨-, rfl⟩ | ⟨v, rfl | rfl⟩ <;> rfl

end ArgValue

namespace Token

/-! ## What a request decodes -/

/-- The bytes a request decodes, read off the bytes `bs` in front of the cursor, with their
offset in `bs`: for the full rest all of `bs`; for a quoted token the bytes between its
quotes, units none of which is the quote; for a bare token, which starts with no quote, its
units up to the first aligned space or the end. -/
inductive Decoded : Bool → Bytes → Nat → Bytes → Prop where
  | full (bs : Bytes) : Decoded true bs 0 bs
  | quoted {q : UInt8} {body rest : Bytes} : isQuote q = true → Units (· ≠ q) body →
      Decoded false (q :: body ++ q :: rest) 1 body
  | bare {b : UInt8} {body rest : Bytes} : isQuote b = false → Units (· ≠ space) (b :: body) →
      rest = [] ∨ rest.head? = some space → Decoded false (b :: body ++ rest) 0 (b :: body)

/-- The decoded bytes stand in `bs` at their offset. -/
theorem Decoded.split {full : Bool} {bs body : Bytes} {o : Nat} (h : Decoded full bs o body) :
    ∃ lead tail, bs = lead ++ body ++ tail ∧ lead.length = o := by
  cases h with
  | full bs => exact ⟨[], [], by simp, rfl⟩
  | @quoted q body rest => exact ⟨[q], q :: rest, by simp, rfl⟩
  | @bare b body rest => exact ⟨[], rest, by simp, rfl⟩

theorem getElem?_stuck {lead pre rest tail : Bytes} (hs : Escape.Stuck rest) :
    (lead ++ (pre ++ rest) ++ tail)[lead.length + pre.length]? = some Escape.backslash := by
  obtain ⟨e, rfl, -⟩ := hs
  simp

/-! ## Where the errors point -/

/-- Where the three token errors point, for a request that decodes the line's bytes `bytes`
from the raw position `pos`; `full` tells whether it decodes the full rest. An unclosed quote points at the
quote that opens the token, and no later byte after whole units is that quote. An unexpected
escape points at the line's last byte, a backslash after whole units from `pos` on, never in
a quoted token. An invalid escape points at the first backslash of the decoded bytes that
starts no escape. -/
structure ErrorsPlaced (bytes : Bytes) (pos : Nat) (full : Bool) (e : CommandError) : Prop where
  unclosed : ∀ p, e = .unclosedQuote p → full = false ∧ p = pos ∧
    ∃ q, isQuote q = true ∧ bytes[p]? = some q ∧
      ∀ body rest, bytes.drop (p + 1) = body ++ q :: rest → ¬Units (fun _ => True) body
  unexpected : ∀ p, e = .unexpectedEscape p →
    p + 1 = bytes.length ∧ bytes[p]? = some Escape.backslash ∧
      (∃ pre, bytes.drop pos = pre ++ [Escape.backslash] ∧ Units (fun _ => True) pre ∧
        p = pos + pre.length) ∧
      (full = false → ∀ q, bytes[pos]? = some q → isQuote q = false)
  invalid : ∀ p, e = .invalidEscape p → bytes[p]? = some Escape.backslash ∧
    ∃ o body pre rest d, Decoded full (bytes.drop pos) o body ∧ body = pre ++ rest ∧
      Escape.Pieces pre d ∧ Escape.Stuck rest ∧ p = pos + o + pre.length

variable {bytes : Bytes} {pos : Nat} {e : CommandError}

theorem ErrorsPlaced.of_not_tokenError {full : Bool} (he : e.isTokenError = false) :
    ErrorsPlaced bytes pos full e := by
  refine ⟨?_, ?_, ?_⟩ <;>
  · rintro p rfl
    cases he

/-- The decoder reports no unclosed quote. -/
theorem unescapeAt_ne_unclosedQuote (off : Nat) (bs : Bytes) (p : Nat) :
    Escape.unescapeAt off bs ≠ .error (.unclosedQuote p) := by
  intro h
  obtain ⟨pre, d, rest, -, -, -, he⟩ := Escape.stuck_of_unescapeAt h
  split at he <;> cases he

/-- **Decoding places an invalid escape** at the first backslash of the decoded bytes that
starts no escape. -/
theorem invalid_of_unescapeAt {full : Bool} {o p : Nat} {body : Bytes}
    (hd : Decoded full (bytes.drop pos) o body)
    (h : Escape.unescapeAt (pos + o) body = .error (.invalidEscape p)) :
    bytes[p]? = some Escape.backslash ∧
      ∃ o body pre rest d, Decoded full (bytes.drop pos) o body ∧ body = pre ++ rest ∧
        Escape.Pieces pre d ∧ Escape.Stuck rest ∧ p = pos + o + pre.length := by
  obtain ⟨pre, d, rest, rfl, hp, hs, he⟩ := Escape.stuck_of_unescapeAt h
  have hpos : p = pos + o + pre.length := by
    split at he
    · cases he
    · cases he
      rfl
  obtain ⟨lead, tail, hsplit, hlead⟩ := hd.split
  refine ⟨?_, o, pre ++ rest, pre, rest, d, hd, rfl, hp, hs, hpos⟩
  rw [hpos, Nat.add_assoc, ← List.getElem?_drop, hsplit, ← hlead]
  exact getElem?_stuck hs

/-- **The decoder of the full rest places its errors**: an unexpected escape at the line's
last byte, an invalid one at the first backslash that starts no escape. -/
theorem unescapeAt_errorsPlaced (h : Escape.unescapeAt pos (bytes.drop pos) = .error e) :
    ErrorsPlaced bytes pos true e := by
  refine ⟨fun p hp => absurd (hp ▸ h) (unescapeAt_ne_unclosedQuote _ _ p), fun p hp => ?_,
    fun p hp => invalid_of_unescapeAt (.full _) (hp ▸ h)⟩
  subst hp
  obtain ⟨pre, d, rest, hsplit, hp, ⟨e', rfl, -⟩, he⟩ := Escape.stuck_of_unescapeAt h
  -- only a stuck backslash with nothing after it is reported as unexpected
  cases e' with
  | cons x e' => simp at he
  | nil =>
    obtain rfl : p = pos + pre.length := by simpa using he
    have hlen := congrArg List.length hsplit
    simp only [List.length_drop, List.length_append, List.length_singleton] at hlen
    have hback : bytes[pos + pre.length]? = some Escape.backslash := by
      rw [← List.getElem?_drop, hsplit]
      simp
    exact ⟨by omega, hback, ⟨pre, hsplit, hp.units, rfl⟩, nofun⟩

/-- A token whose body is cut into units places the errors of decoding its body: never an
unexpected escape, and an invalid one at the first backslash that starts no escape. -/
theorem errorsPlaced_of_decoded {o : Nat} {body : Bytes} {ok : UInt8 → Prop}
    (hd : Decoded false (bytes.drop pos) o body) (hu : Units ok body)
    (h : Escape.unescapeAt (pos + o) body = .error e) : ErrorsPlaced bytes pos false e :=
  ⟨fun p hp => absurd (hp ▸ h) (unescapeAt_ne_unclosedQuote _ _ p),
    fun p hp => absurd (hp ▸ h) (hu.unescapeAt_ne_unexpectedEscape _ p),
    fun _ hp => invalid_of_unescapeAt hd (hp ▸ h)⟩

/-- **The token splitter places its errors**: an unclosed quote at the opening quote, an
unexpected escape at the line's last byte of a bare token, an invalid escape at the first
backslash of the token's body that starts no escape. -/
theorem extract_errorsPlaced (h : extract pos (bytes.drop pos) = .error e) :
    ErrorsPlaced bytes pos false e := by
  cases hbs : bytes.drop pos with
  | nil =>
    rw [hbs] at h
    cases h
  | cons b after =>
    rw [hbs, extract] at h
    have hb : bytes[pos]? = some b := by
      rw [← Nat.add_zero pos, ← List.getElem?_drop, hbs]
      rfl
    have hafter : bytes.drop (pos + 1) = after := by
      rw [← List.drop_drop, hbs]
      rfl
    split at h
    · next hq =>
      -- a quoted token: no closing quote, or a body cut into units that fails to decode
      split at h
      · next hnone =>
        cases h
        refine ⟨fun p hp => ?_, fun p hp => (by cases hp), fun p hp => (by cases hp)⟩
        cases hp
        refine ⟨rfl, rfl, b, hq, hb, ?_⟩
        rw [hafter]
        exact quotedBody_eq_none (isQuote_ne_backslash hq) hnone
      · next n hn =>
        have hdec := Except.error_of_map_eq_error h
        obtain ⟨body, rest, hsplit, rfl, hu⟩ := quotedBody_eq_some hn
        rw [hsplit, List.take_left] at hdec
        have hd : Decoded false (bytes.drop pos) 1 body := by
          rw [hbs, hsplit]
          exact .quoted hq hu
        exact errorsPlaced_of_decoded hd hu hdec
    · next hq =>
      -- a bare token: a backslash that ends the line, or a body that fails to decode
      have hq' : isQuote b = false := by simpa using hq
      split at h
      · next i hi =>
        cases h
        obtain ⟨body, hsplit, rfl, hu⟩ := bareLength_eq_error hi
        refine ⟨fun p hp => (by cases hp), fun p hp => ?_, fun p hp => (by cases hp)⟩
        cases hp
        have hlen := congrArg List.length (hbs.trans hsplit)
        simp only [List.length_drop, List.length_append, List.length_singleton] at hlen
        have hlast : bytes[pos + body.length]? = some Escape.backslash := by
          rw [← List.getElem?_drop, hbs, hsplit]
          simp
        refine ⟨by omega, hlast, ⟨body, hbs.trans hsplit, hu.mono fun _ _ => trivial, rfl⟩,
          fun _ q hq'' => ?_⟩
        rw [hb] at hq''
        cases hq''
        exact hq'
      · next n hn =>
        have hdec := Except.error_of_map_eq_error h
        obtain ⟨body, rest, hsplit, rfl, hu, hend⟩ := bareLength_eq_ok hn
        rw [hsplit, List.take_left] at hdec
        -- the body fails to decode, so it holds the token's first byte
        cases body with
        | nil => simp [Escape.unescapeAt] at hdec
        | cons b' body =>
          obtain ⟨rfl, -⟩ := List.cons.inj hsplit
          have hd : Decoded false (bytes.drop pos) 0 (b :: body) := by
            rw [hbs, hsplit]
            exact .bare hq' hu hend
          exact errorsPlaced_of_decoded hd hu hdec

end Token

/-! ## Where a request's token error comes from -/

namespace LineCursor

variable (c : LineCursor)

/-- **Where the token error of a value request comes from**: the request found a token after
the spaces and left the cursor there, and the error is the decoder's on the full rest or the
splitter's on the token. -/
theorem nextValue_tokenError {k : ArgKind} {r : Bool} {e : CommandError}
    (h : (c.nextValue k r).2 = .error e) (he : e.isTokenError = true) :
    (c.nextValue k r).1 = c.skipSpaces ∧
      (k = .full ∧ Escape.unescapeAt c.tokenStart (c.line.drop c.tokenStart) = .error e ∨
        k ≠ .full ∧ Token.extract c.tokenStart (c.line.drop c.tokenStart) = .error e) := by
  by_cases hk : k = .custom
  · subst hk
    simp only [nextValue, if_true] at h
    cases h
    cases he
  cases hr : c.remainderTaken with
  | true =>
    rw [c.nextValue_of_remainderTaken hk hr r] at h
    cases h
    cases he
  | false =>
    by_cases ht : c.tokenStart < c.line.length
    · have hlen : ¬c.skipSpaces.line.length ≤ c.skipSpaces.pos := by simp; omega
      revert h
      simp only [nextValue, hk, hr, if_false, Bool.false_eq_true]
      rw [if_neg hlen]
      split
      · next hfull =>
        split
        · next e' he' =>
          rintro ⟨⟩
          exact ⟨rfl, .inl ⟨hfull, he'⟩⟩
        · rintro ⟨⟩
      · next hfull =>
        split
        · next e' he' =>
          rintro ⟨⟩
          exact ⟨rfl, .inr ⟨hfull, he'⟩⟩
        · split
          · -- reading the token fails with no token error
            next e' he' =>
            rintro ⟨⟩
            rw [ArgValue.read_not_tokenError he'] at he
            cases he
          · rintro ⟨⟩
    · rw [c.nextValue_of_no_token hk hr (by omega) r] at h
      unfold missing at h
      split at h <;> cases h
      cases he

/-- **Where the token error of a custom request comes from**: the request found a token after
the spaces and left the cursor there, and the error is the splitter's on the token. -/
theorem nextCustom_tokenError {name : String} {r : Bool} {e : CommandError}
    (h : (c.nextCustom name r).2 = .error e) (he : e.isTokenError = true) :
    (c.nextCustom name r).1 = c.skipSpaces ∧
      Token.extract c.tokenStart (c.line.drop c.tokenStart) = .error e := by
  cases hp : c.types.bind (·.find? name) with
  | none =>
    simp only [nextCustom, hp] at h
    cases h
    cases he
  | some parser =>
    cases hr : c.remainderTaken with
    | true =>
      rw [c.nextCustom_of_remainderTaken hp hr r] at h
      cases h
      cases he
    | false =>
      by_cases ht : c.tokenStart < c.line.length
      · have hlen : ¬c.skipSpaces.line.length ≤ c.skipSpaces.pos := by simp; omega
        revert h
        simp only [nextCustom, hp, hr, if_false, Bool.false_eq_true]
        rw [if_neg hlen]
        split
        · next e' he' =>
          rintro ⟨⟩
          exact ⟨rfl, he'⟩
        · split
          · -- the parser's refusal is no token error
            rintro ⟨⟩
            cases he
          · rintro ⟨⟩
      · rw [c.nextCustom_of_no_token hp hr (by omega) r] at h
        unfold missing at h
        split at h <;> cases h
        cases he

end LineCursor

/-- **The errors of splitting a token point where they say.** Whatever state a line cursor
is in, a value or custom request that fails with an unclosed quote, an unexpected escape or
an invalid escape places it as `Token.ErrorsPlaced` says, from the raw position the request
leaves: the unclosed quote at that position, where the token's opening quote stands with no
aligned quote of its kind after it; the unexpected escape at the line's last byte, an
unpaired backslash, and never in a quoted token; the invalid escape at the first backslash of
the decoded bytes, the token's body or the full rest, that starts no escape. -/
theorem token_error_positions (c : LineCursor) :
    (∀ k r e, (c.nextValue k r).2 = .error e →
      Token.ErrorsPlaced c.line (c.nextValue k r).1.pos (decide (k = .full)) e) ∧
    (∀ name r e, (c.nextCustom name r).2 = .error e →
      Token.ErrorsPlaced c.line (c.nextCustom name r).1.pos false e) := by
  refine ⟨fun k r e h => ?_, fun name r e h => ?_⟩
  · cases he : e.isTokenError with
    | false => exact .of_not_tokenError he
    | true =>
      obtain ⟨hc', hsrc⟩ := c.nextValue_tokenError h he
      rw [hc', LineCursor.skipSpaces_pos]
      rcases hsrc with ⟨rfl, hu⟩ | ⟨hk, hx⟩
      · exact Token.unescapeAt_errorsPlaced hu
      · rw [decide_eq_false hk]
        exact Token.extract_errorsPlaced hx
  · cases he : e.isTokenError with
    | false => exact .of_not_tokenError he
    | true =>
      obtain ⟨hc', hx⟩ := c.nextCustom_tokenError h he
      rw [hc', LineCursor.skipSpaces_pos]
      exact Token.extract_errorsPlaced hx

/-- The lines `"a`, `a\` and `\q`: a required text request fails with an unclosed quote at
offset `0`, an unexpected escape at offset `1` and an invalid escape at offset `0`, each from
the raw position `0` the request leaves and each placed as `Token.ErrorsPlaced` says. -/
theorem token_error_positions_samples :
    (({ line := [34, 97] } : LineCursor).nextValue .text true).2 = .error (.unclosedQuote 0) ∧
      Token.ErrorsPlaced [34, 97] 0 false (.unclosedQuote 0) ∧
    (({ line := [97, 92] } : LineCursor).nextValue .text true).2 =
        .error (.unexpectedEscape 1) ∧
      Token.ErrorsPlaced [97, 92] 0 false (.unexpectedEscape 1) ∧
    (({ line := [92, 113] } : LineCursor).nextValue .text true).2 =
        .error (.invalidEscape 0) ∧
      Token.ErrorsPlaced [92, 113] 0 false (.invalidEscape 0) := by
  have h₁ : (({ line := [34, 97] } : LineCursor).nextValue .text true).2 =
      .error (.unclosedQuote 0) := by with_unfolding_all rfl
  have p₁ : (({ line := [34, 97] } : LineCursor).nextValue .text true).1.pos = 0 := by
    with_unfolding_all rfl
  have h₂ : (({ line := [97, 92] } : LineCursor).nextValue .text true).2 =
      .error (.unexpectedEscape 1) := by with_unfolding_all rfl
  have p₂ : (({ line := [97, 92] } : LineCursor).nextValue .text true).1.pos = 0 := by
    with_unfolding_all rfl
  have h₃ : (({ line := [92, 113] } : LineCursor).nextValue .text true).2 =
      .error (.invalidEscape 0) := by with_unfolding_all rfl
  have p₃ : (({ line := [92, 113] } : LineCursor).nextValue .text true).1.pos = 0 := by
    with_unfolding_all rfl
  have e₁ := (token_error_positions _).1 .text true _ h₁
  have e₂ := (token_error_positions _).1 .text true _ h₂
  have e₃ := (token_error_positions _).1 .text true _ h₃
  rw [p₁] at e₁
  rw [p₂] at e₂
  rw [p₃] at e₃
  exact ⟨h₁, e₁, h₂, e₂, h₃, e₃⟩

end LineCommands
