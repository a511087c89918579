import LineCommands.Proofs.CursorAgreement
/-!
# Required and optional requests

A value request carries a flag that says whether the value is required. The flag is read in
one place only: where the request finds nothing to hand out. There a required request fails
with `notEnoughArguments` and an optional one answers that nothing is left. Everything else
is the same under both flags: the state the request leaves, the value it hands out, every
other error.

A request of a kind other than the custom one finds nothing when a line cursor whose full
rest is not taken is exhausted, and when a queue whose full rest is not taken is empty or
holds a value of another kind in front.

A value handed out has the requested kind, so a typed read presents every value it takes.
Its answer is the answer of its value request with the value presented; the read's own
fallbacks, an `invalidArgument` with empty text for a value of the wrong kind and
`notEnoughArguments` for a required read that found nothing, never answer.

## What this module delivers

- `LineCursor.nextValue_cases`, `ValueQueue.nextValue_cases`, `Cursor.nextValue_cases`: a value
  request either finds nothing, from one successor state under both flags, or answers alike
  under both flags with an answer that is not the answer for nothing.
- `LineCursor.nextValue_eq_missing_iff`, `ValueQueue.nextValue_eq_missing_iff`: when nothing is
  found.
- `Cursor.read_snd_eq`: a typed read answers what its value request answers.
- `LineCursor.Reachable`, `Cursor.Reachable`: the cursors a program can hold.
- `Cursor.FlagOnlyMissing` and `required_optional_agree`: the main statement.
- `optional_request_after_remainder_fails`: an empty queue after the full rest refuses an
  optional request; it does not answer nothing.
-/

namespace LineCommands

/-! ## The answer for nothing -/

theorem LineCursor.eq_missing_iff {α : Type} {x : Except CommandError (Option α)} {r : Bool} :
    x = missing r ↔
      (r = true ∧ x = .error .notEnoughArguments) ∨ (r = false ∧ x = .ok none) := by
  cases r <;> simp [missing]

/-- An error other than `notEnoughArguments` is no answer for nothing. -/
theorem LineCursor.error_ne_missing {α : Type} {e : CommandError}
    (he : e ≠ .notEnoughArguments) (r : Bool) :
    (.error e : Except CommandError (Option α)) ≠ missing r := by
  intro h
  rcases eq_missing_iff.1 h with ⟨-, h⟩ | ⟨-, h⟩
  · exact he (Except.error.inj h)
  · cases h

theorem ValueQueue.missing_eq {α : Type} (r : Bool) :
    (ValueQueue.missing r : Except CommandError (Option α)) = LineCursor.missing r := rfl

theorem CommandError.ne_notEnoughArguments_of_isParseError {e : CommandError}
    (h : e.isParseError = true) : e ≠ .notEnoughArguments := by
  rintro rfl
  cases h

/-! ## The flag is read where nothing is found -/

namespace LineCursor

variable (c : LineCursor)

/-- With a token in front, the flag of a value request is never read. -/
theorem nextValue_flag_of_token {k : ArgKind} (hk : k ≠ .custom) (hr : c.remainderTaken = false)
    (ht : c.tokenStart < c.line.length) (r r' : Bool) : c.nextValue k r = c.nextValue k r' := by
  have hlen : ¬c.skipSpaces.line.length ≤ c.skipSpaces.pos := by simp; omega
  simp only [nextValue, hk, hr, if_false, Bool.false_eq_true]
  rw [if_neg hlen, if_neg hlen]

/-- **What a line request can do with the flag.** A value request of a kind either finds
nothing, and then leaves one state under both flags and answers for nothing, or leaves one
state and gives one answer under both flags, and that answer is not the answer for nothing. -/
theorem nextValue_cases (k : ArgKind) :
    (∃ d, ∀ r, c.nextValue k r = (d, missing r)) ∨
      ∃ d x, (∀ r, c.nextValue k r = (d, x)) ∧ ∀ r, x ≠ missing r := by
  by_cases hk : k = .custom
  · -- refused before the line is read
    refine .inr ⟨c, .error (.unknownCustomType ""), fun r => by simp [nextValue, hk], ?_⟩
    exact error_ne_missing (by decide)
  cases hr : c.remainderTaken with
  | true =>
    exact .inr ⟨c, _, fun r => c.nextValue_of_remainderTaken hk hr r,
      error_ne_missing (by decide)⟩
  | false =>
    by_cases ht : c.tokenStart < c.line.length
    · refine .inr ⟨(c.nextValue k true).1, (c.nextValue k true).2,
        fun r => c.nextValue_flag_of_token hk hr ht r true, ?_⟩
      -- the token is read: its value, or an error of splitting or converting it
      rcases c.nextValue_of_token hk hr ht true with ⟨e, he, h⟩ | ⟨v, -, h, -, -⟩
      · rw [h]
        exact error_ne_missing (CommandError.ne_notEnoughArguments_of_isParseError he)
      · rw [h]
        exact fun r h' => missing_ne_value r v h'.symm
    · exact .inl ⟨c.skipSpaces, fun r => c.nextValue_of_no_token hk hr (by omega) r⟩

/-- A line request finds nothing exactly when the full rest is not taken and the cursor is
exhausted. -/
theorem nextValue_eq_missing_iff {k : ArgKind} (hk : k ≠ .custom) (r : Bool) :
    (c.nextValue k r).2 = missing r ↔ c.remainderTaken = false ∧ c.exhausted = true := by
  cases hr : c.remainderTaken with
  | true =>
    rw [c.nextValue_of_remainderTaken hk hr r]
    simpa using error_ne_missing (by decide) r
  | false =>
    by_cases ht : c.tokenStart < c.line.length
    · have hex : c.exhausted = false := by simp [exhausted, hr]; omega
      simp only [hex, Bool.false_eq_true, and_false, iff_false]
      rcases c.nextValue_of_token hk hr ht r with ⟨e, he, h⟩ | ⟨v, -, h, -, -⟩
      · rw [h]
        exact error_ne_missing (CommandError.ne_notEnoughArguments_of_isParseError he) r
      · rw [h]
        exact fun h' => missing_ne_value r v h'.symm
    · have hex : c.exhausted = true := by simp [exhausted, hr]; omega
      simp [c.nextValue_of_no_token hk hr (by omega) r, hex]

end LineCursor

namespace ValueQueue

variable (q : ValueQueue)

/-- **What a queue request can do with the flag**, as for a line. -/
theorem nextValue_cases (k : ArgKind) :
    (∃ d, ∀ r, q.nextValue k r = (d, missing r)) ∨
      ∃ d x, (∀ r, q.nextValue k r = (d, x)) ∧ ∀ r, x ≠ missing r := by
  by_cases hr : q.remainderTaken = true
  · exact .inr ⟨q, .error .argumentsAfterRemainder, fun r => by simp [nextValue, hr],
      LineCursor.error_ne_missing (by decide)⟩
  by_cases hk : k = .custom
  · exact .inr ⟨q, .error (.unknownCustomType ""), fun r => by simp [nextValue, hr, hk],
      LineCursor.error_ne_missing (by decide)⟩
  by_cases hp : q.peek = some k
  · -- the front value has the kind: it is taken, or the lane is empty and nothing is found
    cases hpop : q.pop k with
    | none => exact .inl ⟨q, fun r => by simp [nextValue, hr, hk, hp, hpop]⟩
    | some vq =>
      obtain ⟨v, q'⟩ := vq
      refine .inr ⟨(q.nextValue k true).1, .ok (some v),
        fun r => by simp [nextValue, hr, hk, hp, hpop], ?_⟩
      exact fun r h => LineCursor.missing_ne_value r v h.symm
  · exact .inl ⟨q, fun r => by simp [nextValue, hr, hk, hp]⟩

/-- A coherent queue finds nothing exactly when the full rest is not taken and the queue is
empty or holds a value of another kind in front. -/
theorem nextValue_eq_missing_iff (hq : q.Coherent) {k : ArgKind} (hk : k ≠ .custom) (r : Bool) :
    (q.nextValue k r).2 = missing r ↔
      q.remainderTaken = false ∧ (q.order = [] ∨ q.peek ≠ some k) := by
  by_cases hr : q.remainderTaken = true
  · simp only [nextValue, hr, if_true, Bool.true_eq_false, false_and, iff_false]
    exact LineCursor.error_ne_missing (by decide) r
  have hr' : q.remainderTaken = false := by simpa using hr
  cases ho : q.order with
  | nil => simp [nextValue, hr', hk, peek, ho]
  | cons k₀ ks =>
    by_cases hk₀ : k₀ = k
    · -- a coherent queue has a value behind the kind in front
      subst hk₀
      obtain ⟨v, q', hpop, -⟩ := q.pop_of_coherent hq ho
      have hp : q.peek = some k₀ := by simp [peek, ho]
      simp only [nextValue, hr', hk, hp, hpop, Bool.false_eq_true, if_false, ne_eq,
        not_true_eq_false, reduceCtorEq, or_self, and_false, iff_false]
      exact fun h => LineCursor.missing_ne_value r v h.symm
    · have hp : q.peek ≠ some k := by simp [peek, ho, hk₀]
      simp [nextValue, hr', hk, hp]

end ValueQueue

namespace Cursor

variable (c : Cursor)

/-- **What a request can do with the flag**, on either cursor. -/
theorem nextValue_cases (k : ArgKind) :
    (∃ d, ∀ r, c.nextValue k r = (d, LineCursor.missing r)) ∨
      ∃ d x, (∀ r, c.nextValue k r = (d, x)) ∧ ∀ r, x ≠ LineCursor.missing r := by
  cases c with
  | line l =>
    rcases l.nextValue_cases k with ⟨d, h⟩ | ⟨d, x, h, hx⟩
    · exact .inl ⟨.line d, fun r => by simp [Cursor.nextValue, h r]⟩
    · exact .inr ⟨.line d, x, fun r => by simp [Cursor.nextValue, h r], hx⟩
  | queue q =>
    rcases q.nextValue_cases k with ⟨d, h⟩ | ⟨d, x, h, hx⟩
    · exact .inl ⟨.queue d, fun r => by simp [Cursor.nextValue, h r, ValueQueue.missing_eq]⟩
    · exact .inr ⟨.queue d, x, fun r => by simp [Cursor.nextValue, h r],
        fun r => by rw [← ValueQueue.missing_eq]; exact hx r⟩

/-- A required request never answers that nothing is left. -/
theorem nextValue_required_ne_none (k : ArgKind) : (c.nextValue k true).2 ≠ .ok none := by
  rcases c.nextValue_cases k with ⟨d, h⟩ | ⟨d, x, h, hx⟩
  · rw [h true]
    simp [LineCursor.missing]
  · rw [h true]
    exact hx false

/-- **A typed read answers what its value request answers**, the value presented: for a shape
a command can ask for, no value taken fails to be presented, and a required read that finds
nothing fails as its value request does. -/
theorem read_snd_eq {shape : Shape} (hs : shape.wellTyped = true) (r : Bool) :
    (c.read shape r).2 = (c.nextValue shape.kind r).2.map (Option.bind · shape.present) := by
  have hnone : r = true → (c.nextValue shape.kind r).2 ≠ .ok none := by
    rintro rfl
    exact c.nextValue_required_ne_none shape.kind
  have hkind : ∀ v, (c.nextValue shape.kind r).2 = .ok (some v) → v.kind = shape.kind :=
    fun v hv => c.nextValue_kind hv
  unfold read
  revert hnone hkind
  cases c.nextValue shape.kind r with
  | mk c' a =>
    intro hnone hkind
    cases a with
    | error e => rfl
    | ok o =>
      cases o with
      | none =>
        cases r with
        | true => exact absurd rfl (hnone rfl)
        | false => rfl
      | some v =>
        -- the value has the shape's kind, so the shape presents it
        obtain ⟨p, hp⟩ := Option.isSome_iff_exists.1 (Shape.present_isSome hs (hkind v rfl))
        simp [hp, Except.map]

/-- Whether a value request of kind `k` finds nothing: a line cursor whose full rest is not
taken when it is exhausted, a queue whose full rest is not taken when it is empty or holds a
value of another kind in front. -/
def FindsNothing : Cursor → ArgKind → Prop
  | .line c, _ => c.remainderTaken = false ∧ c.exhausted = true
  | .queue q, k => q.remainderTaken = false ∧ (q.order = [] ∨ q.peek ≠ some k)

end Cursor

/-! ## Reachable cursors -/

/-- The line cursors a program can hold over the text `s`: the cursor at the start of `s`,
with any custom kinds, and whatever value and custom requests make of a cursor it can hold. -/
inductive LineCursor.Reachable (s : String) : LineCursor → Prop where
  | start (types : Option TypeTable) : Reachable s (ofString s types)
  | nextValue {c : LineCursor} (k : ArgKind) (r : Bool) :
      Reachable s c → Reachable s (c.nextValue k r).1
  | nextCustom {c : LineCursor} (name : String) (r : Bool) :
      Reachable s c → Reachable s (c.nextCustom name r).1

/-- The cursors a program can hold: a line cursor over some text, or a queue, each reached
by the requests it answered. -/
inductive Cursor.Reachable : Cursor → Prop where
  | line {s : String} {c : LineCursor} : c.Reachable s → Cursor.Reachable (.line c)
  | queue {q : ValueQueue} : q.Reachable → Cursor.Reachable (.queue q)

/-! ## The main statement -/

/-- How a cursor answers value requests of kind `k`: a value handed out has kind `k`; a typed
read of a shape of kind `k` leaves the state of its value request and answers its answer
with the value presented, and presents every value it takes; both flags leave the same state;
both flags give the same answer, which is not the answer for nothing, unless both find
nothing, a required request failing with `notEnoughArguments` and an optional one answering
`none`; and a request finds nothing exactly when `Cursor.FindsNothing` says so. -/
structure Cursor.FlagOnlyMissing (c : Cursor) (k : ArgKind) : Prop where
  kind : ∀ r v, (c.nextValue k r).2 = .ok (some v) → v.kind = k
  read : ∀ shape : Shape, shape.kind = k → shape.wellTyped = true → ∀ r,
    (c.read shape r).1 = (c.nextValue k r).1 ∧
      (c.read shape r).2 = (c.nextValue k r).2.map (Option.bind · shape.present) ∧
      ∀ v, (c.nextValue k r).2 = .ok (some v) → (shape.present v).isSome
  state : (c.nextValue k true).1 = (c.nextValue k false).1
  answer : ((c.nextValue k true).2 = LineCursor.missing true ∧
      (c.nextValue k false).2 = LineCursor.missing false) ∨
    ((c.nextValue k true).2 = (c.nextValue k false).2 ∧
      ∀ r, (c.nextValue k false).2 ≠ LineCursor.missing r)
  missing : ∀ r, (c.nextValue k r).2 = LineCursor.missing r ↔ c.FindsNothing k

/-- **Required and optional requests agree.** On every cursor a program can hold, a request
for a value of any kind but the custom one hands out values of that kind only, so a typed read
answers what its value request answers; the required flag changes nothing but the answer
when nothing is found, which is `notEnoughArguments` for a required request and `none` for an
optional one; and nothing is found exactly when a line cursor whose full rest is not taken is
exhausted, or a queue whose full rest is not taken is empty or holds another kind in front. -/
theorem required_optional_agree {c : Cursor} (hc : c.Reachable) {k : ArgKind}
    (hk : k ≠ .custom) : c.FlagOnlyMissing k := by
  refine ⟨fun r v h => c.nextValue_kind h, fun shape hshape hs r => ?_, ?_, ?_, fun r => ?_⟩
  · subst hshape
    exact ⟨c.read_fst shape r, c.read_snd_eq hs r,
      fun v hv => Shape.present_isSome hs (c.nextValue_kind hv)⟩
  · rcases c.nextValue_cases k with ⟨d, h⟩ | ⟨d, x, h, -⟩ <;> rw [h, h]
  · rcases c.nextValue_cases k with ⟨d, h⟩ | ⟨d, x, h, hx⟩
    · exact .inl ⟨by rw [h], by rw [h]⟩
    · exact .inr ⟨by rw [h, h], by rw [h]; exact hx⟩
  · -- where nothing is found depends on the cursor; a queue needs its counts to be coherent
    cases hc with
    | line _ => exact LineCursor.nextValue_eq_missing_iff _ hk r
    | queue hq =>
      show (ValueQueue.nextValue _ k r).2 = _ ↔ _
      rw [← ValueQueue.missing_eq]
      exact ValueQueue.nextValue_eq_missing_iff _ hq.coherent hk r

/-- A queue holding one `i32` answers requests for `i32` values as the statement says. -/
theorem required_optional_agree_on_queue :
    (Cursor.queue (ValueQueue.ofList [.i32 10])).Reachable ∧ ArgKind.i32 ≠ .custom ∧
      (Cursor.queue (ValueQueue.ofList [.i32 10])).FlagOnlyMissing .i32 :=
  have hc : (Cursor.queue (ValueQueue.ofList [.i32 10])).Reachable :=
    .queue (ValueQueue.reachable_ofList _)
  ⟨hc, by decide, required_optional_agree hc (by decide)⟩

/-- A queue that held only the full rest, after handing it out, is empty; an optional
request then fails after the full rest instead of answering that nothing is left. -/
theorem optional_request_after_remainder_fails :
    ((ValueQueue.ofList [.full [120]]).nextValue .full true).1.Reachable ∧
      ((ValueQueue.ofList [.full [120]]).nextValue .full true).1.order = [] ∧
      (((ValueQueue.ofList [.full [120]]).nextValue .full true).1.nextValue .text false).2 =
        .error .argumentsAfterRemainder :=
  ⟨(ValueQueue.reachable_ofList _).nextValue .full true, rfl, rfl⟩

end LineCommands
