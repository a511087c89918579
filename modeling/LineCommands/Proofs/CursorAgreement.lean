import LineCommands.Proofs.FailedRequest
/-!
# The line cursor and the value queue agree

A command reads its arguments from a line or from values typed before it ran. The two
sources agree. Run requests for values on a line cursor: values of any kind but the custom
one, and values of registered custom kinds. Suppose that no request failed to split or to
convert its token. Queue the values the line handed out, in order, recording a custom text
as a custom value of the requested name. Then the queue answers the same requests with the
same answers and the same argument counts. When the line is exhausted after the last
request, the queue is also exhausted exactly when the line is, after every request; `finish`
reads nothing else.

The queue *shadows* the line cursor: it holds exactly the values the line will still hand
out, with the same argument count and remainder flag. One request keeps the shadow. When a
token is in front of the line cursor, the request reads it and hands out the value at the
front of the queue. When none is, the line never hands out a value again, so the queue is
empty, and both answer that nothing is left. Exhaustion agrees once the line ends exhausted,
because a line cursor with a token in front hands out a value before it ends exhausted.

## What this module delivers

- `Request.isPull`, `Request.handedOut` and `valuesHandedOut`: the requests and the values
  of the statement.
- `LineCursor.nextValue_of_token`, `LineCursor.nextCustom_of_token`: with a token in front, a
  request hands out a value or fails to split or convert the token.
- `LineCursor.valuesHandedOut_of_exhausted`, `Cursor.exhausted_of_serve`: an exhausted line
  cursor hands out nothing, and a cursor that hands out nothing ends exhausted only if it
  was exhausted.
- `ValueQueue.Shadows`, with `ValueQueue.Shadows.pull` (one request) and
  `ValueQueue.Shadows.serve` (a run).
- `value_queue_agrees_with_line`: the main statement.
-/

namespace LineCommands

/-! ## Requests for values and the values they hand out -/

@[simp] theorem Cursor.nextValue_line_snd (c : LineCursor) (k : ArgKind) (r : Bool) :
    ((Cursor.line c).nextValue k r).2 = (c.nextValue k r).2 := rfl

@[simp] theorem Cursor.nextValue_queue_snd (q : ValueQueue) (k : ArgKind) (r : Bool) :
    ((Cursor.queue q).nextValue k r).2 = (q.nextValue k r).2 := rfl

@[simp] theorem Cursor.nextCustom_line_snd (c : LineCursor) (name : String) (r : Bool) :
    ((Cursor.line c).nextCustom name r).2 = (c.nextCustom name r).2 := rfl

@[simp] theorem Cursor.nextCustom_queue_snd (q : ValueQueue) (name : String) (r : Bool) :
    ((Cursor.queue q).nextCustom name r).2 = (q.nextCustom name r).2 := rfl

theorem Cursor.answer_value_snd (c : Cursor) (k : ArgKind) (r : Bool) :
    (c.answer (.value k r)).2 =
      (c.nextValue k r).2.map fun o => (o.map Answer.value).getD .nothing :=
  rfl

theorem Cursor.answer_custom_snd (c : Cursor) (name : String) (r : Bool) :
    (c.answer (.custom name r)).2 =
      (c.nextCustom name r).2.map fun o => (o.map Answer.customText).getD .nothing :=
  rfl

namespace Request

/-- Whether a request asks a line cursor with the custom kinds `types` for a value it can
read: a value of any kind but the custom one, or a value of a registered custom kind. -/
def isPull (types : Option TypeTable) : Request → Bool
  | .value k _ => k != .custom
  | .custom name _ => (types.bind (·.find? name)).isSome
  | _ => false

/-- The value a request handed out, read off its answer: a value, or a custom text recorded
as a custom value of the requested name. -/
def handedOut : Request → Except CommandError Answer → Option ArgValue
  | .value _ _, .ok (.value v) => some v
  | .custom name _, .ok (.customText s) => some (.custom name s)
  | _, _ => none

theorem wellTyped_of_isPull {types : Option TypeTable} {p : Request}
    (hp : p.isPull types = true) : p.wellTyped = true := by
  cases p with
  | read shape r => cases hp
  | value k r => rfl
  | custom name r => rfl
  | finish => cases hp

theorem handedOut_value (k : ArgKind) (r : Bool) (x : Except CommandError (Option ArgValue)) :
    (Request.value k r).handedOut (x.map fun o => (o.map Answer.value).getD .nothing) =
      x.toOption.join := by
  cases x with
  | error e => rfl
  | ok o => cases o <;> rfl

theorem handedOut_custom (name : String) (r : Bool) (x : Except CommandError (Option String)) :
    (Request.custom name r).handedOut (x.map fun o => (o.map Answer.customText).getD .nothing) =
      x.toOption.join.map (ArgValue.custom name) := by
  cases x with
  | error e => rfl
  | ok o => cases o <;> rfl

theorem join_none_of_no_value {α : Type} {x : Except CommandError (Option α)}
    (h : ∀ v, x ≠ .ok (some v)) : x.toOption.join = none := by
  cases x with
  | error e => rfl
  | ok o =>
    cases o with
    | none => rfl
    | some v => exact absurd rfl (h v)

/-- A result with no value in it gives an answer of nothing or an error. -/
theorem answer_of_join_none {α : Type} (g : α → Answer) {x : Except CommandError (Option α)}
    (h : x.toOption.join = none) :
    x.map (fun o => (o.map g).getD .nothing) = .ok .nothing ∨
      ∃ e, x.map (fun o => (o.map g).getD .nothing) = .error e := by
  cases x with
  | error e => exact .inr ⟨e, rfl⟩
  | ok o =>
    cases o with
    | none => exact .inl rfl
    | some v => cases h

/-- A request for a value hands out nothing exactly when it answers nothing or fails. -/
theorem answer_of_handedOut_none {types : Option TypeTable} {p : Request}
    (hp : p.isPull types = true) (c : Cursor) (h : p.handedOut (c.answer p).2 = none) :
    (c.answer p).2 = .ok .nothing ∨ ∃ e, (c.answer p).2 = .error e := by
  cases p with
  | read shape r => cases hp
  | value k r =>
    rw [Cursor.answer_value_snd, handedOut_value] at h
    rw [Cursor.answer_value_snd]
    exact answer_of_join_none Answer.value h
  | custom name r =>
    rw [Cursor.answer_custom_snd, handedOut_custom, Option.map_eq_none_iff] at h
    rw [Cursor.answer_custom_snd]
    exact answer_of_join_none Answer.customText h
  | finish => cases hp

end Request

/-- The values handed out over a run of requests, in order. -/
def valuesHandedOut : List Request → List Reply → List ArgValue
  | p :: ps, r :: rs => (p.handedOut r.answer).toList ++ valuesHandedOut ps rs
  | _, _ => []

@[simp] theorem valuesHandedOut_serve_cons (c : Cursor) (p : Request) (ps : List Request) :
    valuesHandedOut (p :: ps) (c.serve (p :: ps)).1 =
      (p.handedOut (c.answer p).2).toList ++ valuesHandedOut ps ((c.answer p).1.serve ps).1 :=
  rfl

/-! ## Errors of splitting and converting a token -/

theorem Except.error_of_map_eq_error {α β : Type} {f : α → β} {x : Except CommandError α}
    {e : CommandError} (h : f <$> x = .error e) : x = .error e := by
  cases x with
  | error e' => simpa [Functor.map, Except.map] using h
  | ok a => simp [Functor.map, Except.map] at h

theorem Escape.unescapeAt_error {offset : Nat} {bs : Bytes} {e : CommandError}
    (h : Escape.unescapeAt offset bs = .error e) : e.isParseError = true := by
  fun_induction Escape.unescapeAt offset bs with
  | case1 => cases h
  | case2 => cases h; rfl
  | case3 => cases h; rfl
  | case4 _ _ _ _ _ _ _ ih => exact ih (Except.error_of_map_eq_error h)
  | case5 _ _ _ _ ih => exact ih (Except.error_of_map_eq_error h)

theorem Token.extract_error {pos : Nat} {rest : Bytes} {e : CommandError}
    (h : Token.extract pos rest = .error e) : e.isParseError = true := by
  unfold Token.extract at h
  split at h
  · cases h
  · split at h
    · split at h
      · cases h; rfl
      · exact Escape.unescapeAt_error (Except.error_of_map_eq_error h)
    · split at h
      · cases h; rfl
      · exact Escape.unescapeAt_error (Except.error_of_map_eq_error h)

/-- A float literal is refused as malformed or as outside the format's range. -/
theorem ArgValue.readFloat_error_cases {k : ArgKind} {f : BinaryFormat} {s : String}
    {e : CommandError} (h : ArgValue.readFloat k f s = .error e) :
    e = .invalidArgument k s ∨ e = .outOfRange k s := by
  unfold ArgValue.readFloat at h
  split at h
  · cases h; exact .inl rfl
  · dsimp only at h
    split at h
    · cases h; exact .inr rfl
    · split at h
      · cases h; exact .inr rfl
      · cases h

/-- A token is refused as a value of the custom kind asked by this route, as no literal of the
kind, or as a literal outside the kind's range. -/
theorem ArgValue.read_error_cases {k : ArgKind} {t : Bytes} {e : CommandError}
    (h : ArgValue.read k t = .error e) :
    (k = .custom ∧ e = .unknownCustomType "") ∨
      ∃ v, e = .invalidArgument k v ∨ e = .outOfRange k v := by
  unfold ArgValue.read at h
  split at h
  · cases h
  · split at h
    · cases h; exact .inr ⟨_, .inl rfl⟩
    · unfold ArgValue.readText at h
      split at h
      · exact .inr ⟨_, ArgValue.readFloat_error_cases (Except.error_of_map_eq_error h)⟩
      · exact .inr ⟨_, ArgValue.readFloat_error_cases (Except.error_of_map_eq_error h)⟩
      · split at h
        · cases h
        · cases h; exact .inr ⟨_, .inl rfl⟩
      · cases h
      · cases h
      · cases h; exact .inl ⟨rfl, rfl⟩
      · -- the integer kinds: a malformed literal, or one outside the kind's range
        split at h
        · cases h; exact .inr ⟨_, .inl rfl⟩
        · cases h; exact .inr ⟨_, .inr rfl⟩
        · split at h
          · cases h
          · cases h; exact .inr ⟨_, .inr rfl⟩

/-- Reading a token as a value of a kind other than the custom one fails only with an error
of conversion. -/
theorem ArgValue.read_error {k : ArgKind} {t : Bytes} {e : CommandError} (hk : k ≠ .custom)
    (h : ArgValue.read k t = .error e) : e.isParseError = true := by
  rcases ArgValue.read_error_cases h with ⟨hc, -⟩ | ⟨v, rfl | rfl⟩
  · exact absurd hc hk
  · rfl
  · rfl

/-! ## One request on a line -/

namespace LineCursor

variable (c : LineCursor)

@[simp] theorem types_nextValue (k : ArgKind) (r : Bool) : (c.nextValue k r).1.types = c.types := by
  unfold nextValue
  dsimp only
  repeat' split
  all_goals rfl

@[simp] theorem types_nextCustom (name : String) (r : Bool) :
    (c.nextCustom name r).1.types = c.types := by
  unfold nextCustom
  dsimp only
  repeat' split
  all_goals rfl

/-- After the full rest was taken, a value request of a non-custom kind fails. -/
theorem nextValue_of_remainderTaken {k : ArgKind} (hk : k ≠ .custom)
    (hr : c.remainderTaken = true) (r : Bool) :
    c.nextValue k r = (c, .error .argumentsAfterRemainder) := by
  simp [nextValue, hk, hr]

/-- With no token in front, a value request of a non-custom kind finds nothing. -/
theorem nextValue_of_no_token {k : ArgKind} (hk : k ≠ .custom)
    (hr : c.remainderTaken = false) (ht : c.line.length ≤ c.tokenStart) (r : Bool) :
    c.nextValue k r = (c.skipSpaces, missing r) := by
  simp [nextValue, hk, hr, ht]

/-- After the full rest was taken, a request for a registered custom kind fails. -/
theorem nextCustom_of_remainderTaken {name : String} {parser : ValueParser}
    (hp : c.types.bind (·.find? name) = some parser) (hr : c.remainderTaken = true) (r : Bool) :
    c.nextCustom name r = (c, .error .argumentsAfterRemainder) := by
  simp [nextCustom, hp, hr]

/-- With no token in front, a request for a registered custom kind finds nothing. -/
theorem nextCustom_of_no_token {name : String} {parser : ValueParser}
    (hp : c.types.bind (·.find? name) = some parser) (hr : c.remainderTaken = false)
    (ht : c.line.length ≤ c.tokenStart) (r : Bool) :
    c.nextCustom name r = (c.skipSpaces, missing r) := by
  simp [nextCustom, hp, hr, ht]

/-- An exhausted cursor has taken the full rest or has no token in front. -/
theorem exhausted_cases (h : c.exhausted = true) :
    c.remainderTaken = true ∨ (c.remainderTaken = false ∧ c.line.length ≤ c.tokenStart) := by
  cases hr : c.remainderTaken with
  | true => exact .inl rfl
  | false => exact .inr ⟨rfl, by simpa [exhausted, hr] using h⟩

/-- A cursor that is not exhausted has a token in front and the full rest not taken. -/
theorem token_of_not_exhausted (h : ¬c.exhausted = true) :
    c.remainderTaken = false ∧ c.tokenStart < c.line.length := by
  simp only [exhausted, Bool.or_eq_true, decide_eq_true_eq, not_or] at h
  exact ⟨by simpa using h.1, by omega⟩

theorem missing_ne_value {α : Type} (r : Bool) (v : α) : missing r ≠ .ok (some v) := by
  unfold missing
  split <;> simp

theorem nextValue_no_value_of_exhausted (h : c.exhausted = true) (k : ArgKind) (r : Bool) :
    ∀ v, (c.nextValue k r).2 ≠ .ok (some v) := by
  intro v
  by_cases hk : k = .custom
  · simp [nextValue, hk]
  rcases c.exhausted_cases h with hr | ⟨hr, ht⟩
  · simp [c.nextValue_of_remainderTaken hk hr]
  · rw [c.nextValue_of_no_token hk hr ht]
    exact missing_ne_value r v

theorem nextCustom_no_value_of_exhausted (h : c.exhausted = true) (name : String) (r : Bool) :
    ∀ v, (c.nextCustom name r).2 ≠ .ok (some v) := by
  intro v
  cases hp : c.types.bind (·.find? name) with
  | none => simp [nextCustom, hp]
  | some parser =>
    rcases c.exhausted_cases h with hr | ⟨hr, ht⟩
    · simp [c.nextCustom_of_remainderTaken hp hr]
    · rw [c.nextCustom_of_no_token hp hr ht]
      exact missing_ne_value r v

/-- **A value request with a token in front** either fails to split or convert the token, or
hands out a value of the requested kind and counts one more argument; the full rest is
taken exactly when the full kind was asked for. -/
theorem nextValue_of_token {k : ArgKind} (hk : k ≠ .custom) (hr : c.remainderTaken = false)
    (ht : c.tokenStart < c.line.length) (r : Bool) :
    (∃ e, e.isParseError = true ∧ (c.nextValue k r).2 = .error e) ∨
      ∃ v, v.kind = k ∧ (c.nextValue k r).2 = .ok (some v) ∧
        (c.nextValue k r).1.argPos = c.argPos + 1 ∧
        (c.nextValue k r).1.remainderTaken = decide (k = .full) := by
  have hlen : ¬c.skipSpaces.line.length ≤ c.skipSpaces.pos := by simp; omega
  simp only [nextValue, hk, hr, if_false, Bool.false_eq_true]
  rw [if_neg hlen]
  split
  · next hfull =>
    split
    · next e he => exact .inl ⟨e, Escape.unescapeAt_error he, rfl⟩
    · next out _ => exact .inr ⟨.full out, hfull.symm, rfl, rfl, by simp [hfull]⟩
  · next hfull =>
    split
    · next e he => exact .inl ⟨e, Token.extract_error he, rfl⟩
    · split
      · next e he => exact .inl ⟨e, ArgValue.read_error hk he, rfl⟩
      · next v hv => exact .inr ⟨v, ArgValue.read_kind hk hv, rfl, rfl, by simp [hr, hfull]⟩

/-- **A request for a registered custom kind with a token in front** either fails to split
the token, or the parser refuses it, or it hands out the parser's text and counts one more
argument. -/
theorem nextCustom_of_token {name : String} {parser : ValueParser}
    (hp : c.types.bind (·.find? name) = some parser) (hr : c.remainderTaken = false)
    (ht : c.tokenStart < c.line.length) (r : Bool) :
    (∃ e, e.isParseError = true ∧ (c.nextCustom name r).2 = .error e) ∨
      ∃ s, (c.nextCustom name r).2 = .ok (some s) ∧
        (c.nextCustom name r).1.argPos = c.argPos + 1 ∧
        (c.nextCustom name r).1.remainderTaken = false := by
  have hlen : ¬c.skipSpaces.line.length ≤ c.skipSpaces.pos := by simp; omega
  simp only [nextCustom, hp, hr, if_false, Bool.false_eq_true]
  rw [if_neg hlen]
  split
  · next e he => exact .inl ⟨e, Token.extract_error he, rfl⟩
  · split
    · exact .inl ⟨_, rfl, rfl⟩
    · next s _ => exact .inr ⟨s, rfl, rfl, by simp [hr]⟩

end LineCursor

/-! ## Exhausted line cursors -/

/-- Whatever is asked of an exhausted line cursor, it hands out nothing and stays an exhausted
line cursor with the same custom kinds. -/
theorem Cursor.answer_of_exhausted {c : LineCursor} (h : c.exhausted = true) (p : Request) :
    ∃ c', ((Cursor.line c).answer p).1 = .line c' ∧ c'.exhausted = true ∧
      c'.types = c.types ∧
      p.handedOut ((Cursor.line c).answer p).2 = none := by
  -- the cursor only skips spaces, so it stays exhausted
  have hvalue : ∀ k r, ((c.nextValue k r).1).exhausted = true := fun k r => by
    rcases c.nextValue_fst_of_no_value k r (c.nextValue_no_value_of_exhausted h k r) with e | e
    · rw [e, h]
    · rw [e, LineCursor.exhausted_skipSpaces, h]
  have hcustom : ∀ name r, ((c.nextCustom name r).1).exhausted = true := fun name r => by
    rcases c.nextCustom_fst_of_no_value name r
      (c.nextCustom_no_value_of_exhausted h name r) with e | e
    · rw [e, h]
    · rw [e, LineCursor.exhausted_skipSpaces, h]
  cases p with
  | read shape r =>
    refine ⟨(c.nextValue shape.kind r).1, ?_, hvalue _ r, by simp, rfl⟩
    exact (Cursor.line c).read_fst shape r
  | value k r =>
    refine ⟨(c.nextValue k r).1, rfl, hvalue k r, by simp, ?_⟩
    rw [Cursor.answer_value_snd, Request.handedOut_value, Cursor.nextValue_line_snd]
    exact Request.join_none_of_no_value (c.nextValue_no_value_of_exhausted h k r)
  | custom name r =>
    refine ⟨(c.nextCustom name r).1, rfl, hcustom name r, by simp, ?_⟩
    rw [Cursor.answer_custom_snd, Request.handedOut_custom, Cursor.nextCustom_line_snd,
      Request.join_none_of_no_value (c.nextCustom_no_value_of_exhausted h name r)]
    rfl
  | finish => exact ⟨c, rfl, h, rfl, rfl⟩

/-- An exhausted line cursor hands out nothing, whatever is asked of it. -/
theorem LineCursor.valuesHandedOut_of_exhausted (ps : List Request) :
    ∀ c : LineCursor, c.exhausted = true →
      valuesHandedOut ps ((Cursor.line c).serve ps).1 = [] := by
  -- each request hands out nothing and leaves an exhausted line cursor
  induction ps with
  | nil => exact fun _ _ => rfl
  | cons p ps ih =>
    intro c hc
    obtain ⟨c', hc', hex, -, hnone⟩ := Cursor.answer_of_exhausted hc p
    rw [valuesHandedOut_serve_cons, hnone, hc', ih c' hex]
    rfl

/-- A cursor that hands out nothing over a run of requests for values ends exhausted only if
it was exhausted: such requests leave it alike to itself. -/
theorem Cursor.exhausted_of_serve {types : Option TypeTable} (ps : List Request)
    (hps : ∀ p ∈ ps, p.isPull types = true) :
    ∀ c : Cursor, valuesHandedOut ps (c.serve ps).1 = [] → (c.serve ps).2.exhausted = true →
      c.exhausted = true := by
  -- each request hands out nothing, so it leaves a cursor alike to the one it found
  induction ps with
  | nil => exact fun _ _ h => h
  | cons p ps ih =>
    intro c hnil hend
    rw [valuesHandedOut_serve_cons, List.append_eq_nil_iff] at hnil
    have hp := hps p (List.mem_cons_self ..)
    have hnone : p.handedOut (c.answer p).2 = none := Option.toList_eq_nil_iff.1 hnil.1
    have halike := c.answer_alike_of_no_value p (Request.wellTyped_of_isPull hp)
      (Request.answer_of_handedOut_none hp c hnone)
    rw [← halike.exhausted]
    exact ih (fun q hq => hps q (List.mem_cons_of_mem _ hq)) _ hnil.2 hend

/-- When a run of requests for values leaves a line cursor exhausted, the cursor is exhausted
exactly when the run hands out nothing. -/
theorem LineCursor.exhausted_eq_isEmpty {types : Option TypeTable} (ps : List Request)
    (hps : ∀ p ∈ ps, p.isPull types = true) (c : LineCursor)
    (hend : ((Cursor.line c).serve ps).2.exhausted = true) :
    c.exhausted = (valuesHandedOut ps ((Cursor.line c).serve ps).1).isEmpty := by
  cases hc : c.exhausted with
  | true => rw [c.valuesHandedOut_of_exhausted ps hc]; rfl
  | false =>
    cases hvs : valuesHandedOut ps ((Cursor.line c).serve ps).1 with
    | nil =>
      exact absurd (Cursor.exhausted_of_serve ps hps (.line c) hvs hend)
        (by simp [Cursor.exhausted, hc])
    | cons v vs => rfl

/-! ## The queue that shadows a line cursor -/

namespace ValueQueue

namespace View

variable {s : View} {k : ArgKind} {r : Bool}

theorem nextValue_of_remainderTaken (h : s.remainderTaken = true) :
    s.nextValue k r = (s, .error .argumentsAfterRemainder) := by
  simp [nextValue, h]

theorem nextValue_of_nil (hr : s.remainderTaken = false) (hk : k ≠ .custom)
    (hv : s.values = []) : s.nextValue k r = (s, missing r) := by
  simp [nextValue, hr, hk, hv]

theorem nextValue_of_cons {v : ArgValue} {vs : List ArgValue} (hr : s.remainderTaken = false)
    (hk : k ≠ .custom) (hv : s.values = v :: vs) (hkind : v.kind = k) :
    s.nextValue k r = (⟨vs, s.argPos + 1, decide (k = .full)⟩, .ok (some v)) := by
  simp [nextValue, hr, hk, hv, hkind]

theorem nextCustom_of_remainderTaken {name : String} (h : s.remainderTaken = true) :
    s.nextCustom name r = (s, .error .argumentsAfterRemainder) := by
  simp [nextCustom, h]

theorem nextCustom_of_nil {name : String} (hr : s.remainderTaken = false)
    (hv : s.values = []) : s.nextCustom name r = (s, missing r) := by
  simp [nextCustom, hr, hv]

theorem nextCustom_of_cons {name t : String} {vs : List ArgValue}
    (hr : s.remainderTaken = false) (hv : s.values = .custom name t :: vs) :
    s.nextCustom name r = (⟨vs, s.argPos + 1, false⟩, .ok (some t)) := by
  simp [nextCustom, hr, hv]

end View

/-- The queue `q` shadows the line cursor `c` that will still hand out the values `vs`: it is
coherent and stands for exactly those values, with the argument count and the remainder flag
of `c`. -/
structure Shadows (q : ValueQueue) (c : LineCursor) (vs : List ArgValue) : Prop where
  coherent : q.Coherent
  view : q.view = ⟨vs, c.argPos, c.remainderTaken⟩

namespace Shadows

variable {q : ValueQueue} {c : LineCursor} {vs : List ArgValue}

theorem argPos (hs : q.Shadows c vs) : q.argPos = c.argPos :=
  congrArg View.argPos hs.view

/-- A shadowing queue is exhausted when its line cursor is, once the cursor is exhausted
exactly when nothing is left to hand out. -/
theorem exhausted (hs : q.Shadows c vs) (hc : c.exhausted = vs.isEmpty) :
    q.exhausted = c.exhausted := by
  have hcontents : q.contents = vs := congrArg View.values hs.view
  have hrem : q.remainderTaken = c.remainderTaken := congrArg View.remainderTaken hs.view
  rw [q.exhausted_eq hs.coherent, hcontents, hrem]
  cases hr : c.remainderTaken with
  | true =>
    -- with the full rest taken the line cursor is exhausted too
    rw [Bool.true_or, eq_comm]
    simp [LineCursor.exhausted, hr]
  | false => rw [Bool.false_or, hc]

theorem missing_toOption_join {α : Type} (r : Bool) :
    (LineCursor.missing r : Except CommandError (Option α)).toOption.join = none := by
  cases r <;> rfl

/-- A shadowing queue answers a value request as its line cursor does, when the line cursor
does not fail to split or convert a token, and is left shadowing the line cursor. -/
theorem nextValue {k : ArgKind} (hk : k ≠ .custom) {r : Bool}
    (hs : q.Shadows c (((c.nextValue k r).2.toOption.join).toList ++ vs))
    (hok : ∀ e, (c.nextValue k r).2 = .error e → e.isParseError = false)
    (hex : c.exhausted = true → vs = []) :
    (q.nextValue k r).2 = (c.nextValue k r).2 ∧
      (q.nextValue k r).1.Shadows (c.nextValue k r).1 vs := by
  obtain ⟨hans, hview, hcoh⟩ := q.nextValue_view hs.coherent k r
  by_cases hc : c.exhausted = true
  · -- nothing is left: the line finds the rest taken or no token, and the queue is empty
    obtain rfl := hex hc
    rcases c.exhausted_cases hc with hr | ⟨hr, ht⟩
    · rw [c.nextValue_of_remainderTaken hk hr r] at hs ⊢
      have hv : q.view = ⟨[], c.argPos, c.remainderTaken⟩ := hs.view
      rw [hv, View.nextValue_of_remainderTaken hr] at hans hview
      exact ⟨hans, hcoh, hview⟩
    · rw [c.nextValue_of_no_token hk hr ht r] at hs ⊢
      have hv : q.view = ⟨[], c.argPos, c.remainderTaken⟩ := by
        rw [hs.view, missing_toOption_join]
        rfl
      rw [hv, View.nextValue_of_nil hr hk rfl] at hans hview
      exact ⟨hans, hcoh, hview⟩
  · -- a token is in front: the line reads it, and the queue hands out its front value
    obtain ⟨hr, ht⟩ := c.token_of_not_exhausted hc
    rcases c.nextValue_of_token hk hr ht r with ⟨e, he, herr⟩ | ⟨v, hkind, hval, hpos, hrem⟩
    · exact absurd (hok e herr) (by simp [he])
    · rw [hval] at hs
      have hv : q.view = ⟨v :: vs, c.argPos, c.remainderTaken⟩ := hs.view
      rw [hv, View.nextValue_of_cons hr hk rfl hkind] at hans hview
      refine ⟨hans.trans hval.symm, hcoh, ?_⟩
      rw [hview, hpos, hrem]

/-- A shadowing queue answers a request for a registered custom kind as its line cursor does,
when the line cursor does not fail to split the token nor its parser refuse it, and is left
shadowing the line cursor. -/
theorem nextCustom {name : String} {parser : ValueParser}
    (hp : c.types.bind (·.find? name) = some parser) {r : Bool}
    (hs : q.Shadows c (((c.nextCustom name r).2.toOption.join.map (.custom name)).toList ++ vs))
    (hok : ∀ e, (c.nextCustom name r).2 = .error e → e.isParseError = false)
    (hex : c.exhausted = true → vs = []) :
    (q.nextCustom name r).2 = (c.nextCustom name r).2 ∧
      (q.nextCustom name r).1.Shadows (c.nextCustom name r).1 vs := by
  obtain ⟨hans, hview, hcoh⟩ := q.nextCustom_view hs.coherent name r
  by_cases hc : c.exhausted = true
  · -- nothing is left: the line finds the rest taken or no token, and the queue is empty
    obtain rfl := hex hc
    rcases c.exhausted_cases hc with hr | ⟨hr, ht⟩
    · rw [c.nextCustom_of_remainderTaken hp hr r] at hs ⊢
      have hv : q.view = ⟨[], c.argPos, c.remainderTaken⟩ := hs.view
      rw [hv, View.nextCustom_of_remainderTaken hr] at hans hview
      exact ⟨hans, hcoh, hview⟩
    · rw [c.nextCustom_of_no_token hp hr ht r] at hs ⊢
      have hv : q.view = ⟨[], c.argPos, c.remainderTaken⟩ := by
        rw [hs.view, missing_toOption_join]
        rfl
      rw [hv, View.nextCustom_of_nil hr rfl] at hans hview
      exact ⟨hans, hcoh, hview⟩
  · -- a token is in front: the parser's text is the custom value at the front of the queue
    obtain ⟨hr, ht⟩ := c.token_of_not_exhausted hc
    rcases c.nextCustom_of_token hp hr ht r with ⟨e, he, herr⟩ | ⟨t, hval, hpos, hrem⟩
    · exact absurd (hok e herr) (by simp [he])
    · rw [hval] at hs
      have hv : q.view = ⟨.custom name t :: vs, c.argPos, c.remainderTaken⟩ := hs.view
      rw [hv, View.nextCustom_of_cons hr rfl] at hans hview
      refine ⟨hans.trans hval.symm, hcoh, ?_⟩
      rw [hview, hpos, hrem]

/-- **One request keeps the shadow.** A queue shadowing a line cursor answers a request for a
value as the line cursor does, when the line cursor does not fail to split or convert a
token, and is left shadowing the line cursor after the request. -/
theorem pull {p : Request}
    (hs : q.Shadows c ((p.handedOut ((Cursor.line c).answer p).2).toList ++ vs))
    (hp : p.isPull c.types = true)
    (hok : ∀ e, ((Cursor.line c).answer p).2 = .error e → e.isParseError = false)
    (hex : c.exhausted = true → vs = []) :
    ((Cursor.queue q).answer p).2 = ((Cursor.line c).answer p).2 ∧
      ∃ q' c', ((Cursor.queue q).answer p).1 = .queue q' ∧
        ((Cursor.line c).answer p).1 = .line c' ∧ c'.types = c.types ∧ q'.Shadows c' vs := by
  cases p with
  | read shape r => cases hp
  | finish => cases hp
  | value k r =>
    have hk : k ≠ .custom := by simpa [Request.isPull] using hp
    have hs' : q.Shadows c (((c.nextValue k r).2.toOption.join).toList ++ vs) := by
      rw [← Request.handedOut_value k r]
      exact hs
    have hok' : ∀ e, (c.nextValue k r).2 = .error e → e.isParseError = false := by
      intro e he
      apply hok e
      rw [Cursor.answer_value_snd, Cursor.nextValue_line_snd, he]
      rfl
    obtain ⟨hans, hs''⟩ := hs'.nextValue hk hok' hex
    refine ⟨?_, _, _, rfl, rfl, c.types_nextValue k r, hs''⟩
    rw [Cursor.answer_value_snd, Cursor.answer_value_snd, Cursor.nextValue_queue_snd,
      Cursor.nextValue_line_snd, hans]
  | custom name r =>
    obtain ⟨parser, hparser⟩ : ∃ parser, c.types.bind (·.find? name) = some parser :=
      Option.isSome_iff_exists.1 (by simpa [Request.isPull] using hp)
    have hs' : q.Shadows c
        (((c.nextCustom name r).2.toOption.join.map (.custom name)).toList ++ vs) := by
      rw [← Request.handedOut_custom name r]
      exact hs
    have hok' : ∀ e, (c.nextCustom name r).2 = .error e → e.isParseError = false := by
      intro e he
      apply hok e
      rw [Cursor.answer_custom_snd, Cursor.nextCustom_line_snd, he]
      rfl
    obtain ⟨hans, hs''⟩ := hs'.nextCustom hparser hok' hex
    refine ⟨?_, _, _, rfl, rfl, c.types_nextCustom name r, hs''⟩
    rw [Cursor.answer_custom_snd, Cursor.answer_custom_snd, Cursor.nextCustom_queue_snd,
      Cursor.nextCustom_line_snd, hans]

/-- **The shadow lasts a whole run.** A queue shadowing a line cursor over the values the
line will hand out answers a run of requests for values with the line's answers and
argument counts, when the line fails to split or convert no token; when the line ends
exhausted, the replies agree in exhaustion too. -/
theorem serve (ps : List Request) : ∀ (c : LineCursor) (q : ValueQueue),
    (∀ p ∈ ps, p.isPull c.types = true) →
    (∀ rep ∈ ((Cursor.line c).serve ps).1, ∀ e, rep.answer = .error e →
      e.isParseError = false) →
    q.Shadows c (valuesHandedOut ps ((Cursor.line c).serve ps).1) →
    ((Cursor.queue q).serve ps).1.map (fun rep => (rep.answer, rep.argumentPosition)) =
        ((Cursor.line c).serve ps).1.map (fun rep => (rep.answer, rep.argumentPosition)) ∧
      (((Cursor.line c).serve ps).2.exhausted = true →
        ((Cursor.queue q).serve ps).1 = ((Cursor.line c).serve ps).1) := by
  induction ps with
  | nil => exact fun _ _ _ _ _ => ⟨rfl, fun _ => rfl⟩
  | cons p ps ih =>
    intro c q hps hok hs
    rw [valuesHandedOut_serve_cons] at hs
    have hok₁ : ∀ e, ((Cursor.line c).answer p).2 = .error e → e.isParseError = false :=
      hok _ (List.mem_cons_self ..)
    -- an exhausted line hands out nothing from here on
    have hex : c.exhausted = true →
        valuesHandedOut ps (((Cursor.line c).answer p).1.serve ps).1 = [] := fun hc =>
      (List.append_eq_nil_iff.1
        ((valuesHandedOut_serve_cons _ p ps).symm.trans
          (c.valuesHandedOut_of_exhausted (p :: ps) hc))).2
    obtain ⟨hans, q', c', hq', hc', htypes, hs'⟩ :=
      hs.pull (hps p (List.mem_cons_self ..)) hok₁ hex
    rw [hc'] at hs'
    have hps' : ∀ p' ∈ ps, p'.isPull c'.types = true := by
      rw [htypes]
      exact fun p' hp' => hps p' (List.mem_cons_of_mem _ hp')
    have hok' : ∀ rep ∈ ((Cursor.line c').serve ps).1, ∀ e, rep.answer = .error e →
        e.isParseError = false := by
      intro rep hrep
      apply hok rep
      rw [Cursor.serve_cons, hc']
      exact List.mem_cons_of_mem _ hrep
    obtain ⟨ih₁, ih₂⟩ := ih c' q' hps' hok' hs'
    simp only [Cursor.serve_cons, hq', hc', List.map_cons]
    refine ⟨?_, fun hend => ?_⟩
    · rw [hans, ih₁]
      simp only [Cursor.argumentPosition, hs'.argPos]
    · -- the line ends exhausted, so after this request it is exhausted exactly when nothing
      -- is left to hand out, and so is the queue
      have hc'ex := c'.exhausted_eq_isEmpty ps hps' hend
      rw [hans, ih₂ hend]
      simp only [Cursor.argumentPosition, Cursor.exhausted, hs'.argPos, hs'.exhausted hc'ex]

end Shadows

end ValueQueue

/-- **The line cursor and the value queue agree.** Over any line and any custom kinds, run
requests for values (a value of any kind but the custom one, or a value of a registered
custom kind) and suppose the line cursor fails to split or convert no token. The value
queue made of the values the line handed out answers the same requests with the same
answers and argument counts; when the line ends exhausted, the queue is exhausted exactly
when the line is, after every request, and so `finish` agrees as well. -/
theorem value_queue_agrees_with_line (L : Bytes) (types : Option TypeTable) (ps : List Request)
    (hps : ∀ p ∈ ps, p.isPull types = true)
    (hok : ∀ rep ∈ ((Cursor.line { line := L, types := types }).serve ps).1,
      ∀ e, rep.answer = .error e → e.isParseError = false) :
    let line := (Cursor.line { line := L, types := types }).serve ps
    let queue := (Cursor.queue (ValueQueue.ofList (valuesHandedOut ps line.1))).serve ps
    queue.1.map (fun rep => (rep.answer, rep.argumentPosition)) =
        line.1.map (fun rep => (rep.answer, rep.argumentPosition)) ∧
      (line.2.exhausted = true → queue.1 = line.1) := by
  intro line queue
  -- the queue of all the values starts out shadowing the fresh line cursor
  have hstart : (ValueQueue.ofList (valuesHandedOut ps line.1)).Shadows
      { line := L, types := types } (valuesHandedOut ps line.1) :=
    ⟨(ValueQueue.reachable_ofList _).coherent, ValueQueue.view_ofList _⟩
  exact ValueQueue.Shadows.serve ps _ _ hps hok hstart

/-- The line `a "b c" d\x41` read as a required text, an optional text, the full rest with
its escape expanded, and then an optional integer, which finds the rest taken. -/
theorem value_queue_agrees_with_line_sample :
    let L : Bytes := [97, 32, 34, 98, 32, 99, 34, 32, 100, 92, 120, 52, 49]
    let ps : List Request := [.value .text true, .value .text false, .value .full true,
      .value .i8 false]
    (∀ p ∈ ps, p.isPull none = true) ∧
      (∀ rep ∈ ((Cursor.line { line := L, types := none }).serve ps).1,
        ∀ e, rep.answer = .error e → e.isParseError = false) ∧
      let line := (Cursor.line { line := L, types := none }).serve ps
      let queue := (Cursor.queue (ValueQueue.ofList (valuesHandedOut ps line.1))).serve ps
      queue.1.map (fun rep => (rep.answer, rep.argumentPosition)) =
          line.1.map (fun rep => (rep.answer, rep.argumentPosition)) ∧
        (line.2.exhausted = true → queue.1 = line.1) := by
  intro L ps
  have hps : ∀ p ∈ ps, p.isPull none = true := by
    simp [ps, Request.isPull]
  -- the line's answers, computed once on the literal line and requests
  have hanswers : ((Cursor.line
      { line := [97, 32, 34, 98, 32, 99, 34, 32, 100, 92, 120, 52, 49] }).serve
        [.value .text true, .value .text false, .value .full true, .value .i8 false]).1.map
          Reply.answer =
      [.ok (.value (.text [97])), .ok (.value (.text [98, 32, 99])),
        .ok (.value (.full [100, 65])), .error .argumentsAfterRemainder] := by
    with_unfolding_all rfl
  have hok : ∀ rep ∈ ((Cursor.line { line := L, types := none }).serve ps).1,
      ∀ e, rep.answer = .error e → e.isParseError = false := by
    intro rep hrep e he
    have hmem := List.mem_map_of_mem (f := Reply.answer) hrep
    rw [hanswers, he] at hmem
    simp only [List.mem_cons, reduceCtorEq, Except.error.injEq, List.not_mem_nil, or_false,
      false_or] at hmem
    rw [hmem]
    rfl
  exact ⟨hps, hok, value_queue_agrees_with_line L none ps hps hok⟩

end LineCommands
