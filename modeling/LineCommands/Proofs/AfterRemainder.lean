import LineCommands.Proofs.CursorAgreement
/-!
# Nothing after the full rest

A request for the full kind takes everything a cursor still holds: a line cursor takes the
rest of the line, a queue its front value of the full kind. From then on the cursor is
closed. Every value request and every custom request fails and leaves the cursor exactly as
it was, so the cursor stays exhausted and `finish` keeps succeeding.

The failure is `argumentsAfterRemainder`, with two exceptions on a line cursor. A line cursor
refuses a custom kind asked through the generic route, and a custom kind its table does not
hold, before it looks at anything else, so these two requests fail with
`unknownCustomType` in every state, a closed one included. A queue looks at its flag first
and refuses every request after the full rest alike, as the specification of the requests
asks of both cursors; for these two requests the line cursor's order of checks departs from
it (`custom_requests_after_remainder_name_the_kind`).

## What this module delivers

- `LineCursor.remainderTaken_of_full`, `ValueQueue.remainderTaken_of_full`: handing out a
  value of the full kind sets the flag.
- `Cursor.nextValue_of_remainderTaken`, `Cursor.nextCustom_of_remainderTaken`: with the flag
  set, a request fails with `Cursor.valueRefusal` or `Cursor.customRefusal` and changes
  nothing.
- `Cursor.PastRemainder`, the states after the full rest was handed out, and
  `nothing_after_remainder`: the main statement.
- `custom_requests_after_remainder_name_the_kind`: the two exceptions on the line `a`.
-/

namespace LineCommands

/-! ## Handing out the full rest sets the flag -/

/-- A line cursor that hands out a value of the full kind has taken the full rest. -/
theorem LineCursor.remainderTaken_of_full {c : LineCursor} {k : ArgKind} {r : Bool} {b : Bytes}
    (h : (c.nextValue k r).2 = .ok (some (.full b))) :
    (c.nextValue k r).1.remainderTaken = true := by
  -- a value of the full kind answers a request of the full kind only
  obtain rfl : k = .full := (c.nextValue_kind h).symm
  cases hr : c.remainderTaken with
  | true =>
    rw [c.nextValue_of_remainderTaken (by decide) hr] at h
    cases h
  | false =>
    by_cases ht : c.tokenStart < c.line.length
    · rcases c.nextValue_of_token (k := .full) (by decide) hr ht r with
        ⟨e, -, he⟩ | ⟨v, -, -, -, hrem⟩
      · rw [he] at h
        cases h
      · simpa using hrem
    · rw [c.nextValue_of_no_token (by decide) hr (by omega) r] at h
      exact absurd h (LineCursor.missing_ne_value r _)

/-- A queue that hands out a value of the full kind has taken the full rest. -/
theorem ValueQueue.remainderTaken_of_full {q : ValueQueue} {k : ArgKind} {r : Bool} {b : Bytes}
    (h : (q.nextValue k r).2 = .ok (some (.full b))) :
    (q.nextValue k r).1.remainderTaken = true := by
  obtain rfl : k = .full := (q.nextValue_kind h).symm
  revert h
  simp only [ValueQueue.nextValue]
  -- every branch but the one that pops a value hands out nothing
  split
  · intro h
    cases h
  split
  · intro h
    cases h
  split
  · intro h
    exact absurd h (by unfold ValueQueue.missing; split <;> simp)
  split
  · intro h
    exact absurd h (by unfold ValueQueue.missing; split <;> simp)
  · intro _
    rfl

/-! ## A cursor whose full rest is taken -/

namespace Cursor

/-- How a cursor whose full rest is taken refuses a value request of kind `k`: a line cursor
refuses the custom kind before it looks at its flag. -/
def valueRefusal : Cursor → ArgKind → CommandError
  | .line _, .custom => .unknownCustomType ""
  | _, _ => .argumentsAfterRemainder

/-- How a cursor whose full rest is taken refuses a request for the custom kind `name`: a
line cursor refuses a name its table does not hold before it looks at its flag. -/
def customRefusal : Cursor → String → CommandError
  | .line c, name =>
    if (c.types.bind (·.find? name)).isSome then .argumentsAfterRemainder
    else .unknownCustomType name
  | .queue _, _ => .argumentsAfterRemainder

variable {c : Cursor}

theorem nextValue_of_remainderTaken (h : c.remainderTaken = true) (k : ArgKind) (r : Bool) :
    c.nextValue k r = (c, .error (c.valueRefusal k)) := by
  cases c with
  | line l =>
    by_cases hk : k = .custom
    · subst hk
      simp [Cursor.nextValue, LineCursor.nextValue, valueRefusal]
    · have hl : l.remainderTaken = true := h
      simp only [Cursor.nextValue, l.nextValue_of_remainderTaken hk hl r, valueRefusal]
      cases k <;> simp_all
  | queue q =>
    have hq : q.remainderTaken = true := h
    simp [Cursor.nextValue, ValueQueue.nextValue, hq, valueRefusal]

theorem nextCustom_of_remainderTaken (h : c.remainderTaken = true) (name : String) (r : Bool) :
    c.nextCustom name r = (c, .error (c.customRefusal name)) := by
  cases c with
  | line l =>
    have hl : l.remainderTaken = true := h
    -- the table is read first: an unknown name is refused whatever the flag says
    cases hp : l.types.bind (·.find? name) with
    | none => simp [Cursor.nextCustom, LineCursor.nextCustom, hp, customRefusal]
    | some parser =>
      simp [Cursor.nextCustom, l.nextCustom_of_remainderTaken hp hl r, customRefusal, hp]
  | queue q =>
    have hq : q.remainderTaken = true := h
    simp [Cursor.nextCustom, ValueQueue.nextCustom, hq, customRefusal]

theorem exhausted_of_remainderTaken (h : c.remainderTaken = true) : c.exhausted = true := by
  cases c with
  | line l => simp [Cursor.exhausted, LineCursor.exhausted, show l.remainderTaken = true from h]
  | queue q => simp [Cursor.exhausted, ValueQueue.exhausted, show q.remainderTaken = true from h]

/-- A cursor after a request of the full kind that handed out a value has taken the full
rest. -/
theorem remainderTaken_of_full {k : ArgKind} {r : Bool} {b : Bytes}
    (h : (c.nextValue k r).2 = .ok (some (.full b))) :
    (c.nextValue k r).1.remainderTaken = true := by
  cases c with
  | line l => exact LineCursor.remainderTaken_of_full h
  | queue q => exact ValueQueue.remainderTaken_of_full h

/-! ## The states after the full rest -/

/-- The states a cursor can be in once it has handed out the full rest: the state a request
leaves when it hands out a value of the full kind, and every state that value and custom
requests lead to from there. -/
inductive PastRemainder : Cursor → Prop where
  | handedOut {c : Cursor} {k : ArgKind} {r : Bool} {b : Bytes} :
      (c.nextValue k r).2 = .ok (some (.full b)) → PastRemainder (c.nextValue k r).1
  | nextValue {c : Cursor} (k : ArgKind) (r : Bool) :
      PastRemainder c → PastRemainder (c.nextValue k r).1
  | nextCustom {c : Cursor} (name : String) (r : Bool) :
      PastRemainder c → PastRemainder (c.nextCustom name r).1

/-- Every state after the full rest has its flag set: the request that hands out the full
rest sets it, and a request on a cursor with the flag set leaves the cursor as it was. -/
theorem PastRemainder.remainderTaken (h : c.PastRemainder) : c.remainderTaken = true := by
  induction h with
  | handedOut h => exact remainderTaken_of_full h
  | nextValue k r _ ih =>
    rw [nextValue_of_remainderTaken ih k r]
    exact ih
  | nextCustom name r _ ih =>
    rw [nextCustom_of_remainderTaken ih name r]
    exact ih

/-- A closed cursor: every value request and every custom request fails with the cursor's
refusal and leaves the cursor as it was; the cursor is exhausted and `finish` succeeds. -/
structure Closed (c : Cursor) : Prop where
  nextValue : ∀ k r, c.nextValue k r = (c, .error (c.valueRefusal k))
  nextCustom : ∀ name r, c.nextCustom name r = (c, .error (c.customRefusal name))
  exhausted : c.exhausted = true
  finish : c.finish = .ok ()

end Cursor

/-- **Nothing after the full rest.** A line cursor or a queue that has handed out the full
rest is closed, and stays closed whatever is asked of it: every later request fails and
changes nothing, the cursor stays exhausted and `finish` succeeds. A queue refuses every
request with `argumentsAfterRemainder`; a line cursor too, except a custom kind asked through
the generic route and a custom kind its table does not hold, which it refuses as unknown. -/
theorem nothing_after_remainder {c : Cursor} (h : c.PastRemainder) : c.Closed := by
  have hr := h.remainderTaken
  have hex := Cursor.exhausted_of_remainderTaken hr
  refine ⟨Cursor.nextValue_of_remainderTaken hr, Cursor.nextCustom_of_remainderTaken hr, hex,
    ?_⟩
  simp [Cursor.finish, hex]

/-- The line `a` after its full rest was handed out is closed. -/
theorem nothing_after_remainder_on_line :
    ((Cursor.line { line := [97] }).nextValue .full true).1.PastRemainder ∧
      ((Cursor.line { line := [97] }).nextValue .full true).1.Closed :=
  have h : ((Cursor.line { line := [97] }).nextValue .full true).1.PastRemainder :=
    .handedOut (b := [97]) (by with_unfolding_all rfl)
  ⟨h, nothing_after_remainder h⟩

/-- On the line `a` with no custom kinds, after the full rest was handed out, a custom value
asked through the generic route and a custom kind nobody registered are refused as unknown
kinds, not as requests after the full rest. -/
theorem custom_requests_after_remainder_name_the_kind :
    ((Cursor.line { line := [97] }).nextValue .full true).2 = .ok (some (.full [97])) ∧
      (((Cursor.line { line := [97] }).nextValue .full true).1.nextValue .custom true).2 =
        .error (.unknownCustomType "") ∧
      (((Cursor.line { line := [97] }).nextValue .full true).1.nextCustom "color" true).2 =
        .error (.unknownCustomType "color") ∧
      CommandError.unknownCustomType "" ≠ .argumentsAfterRemainder := by
  refine ⟨?_, ?_, ?_, by decide⟩ <;> with_unfolding_all rfl

end LineCommands
