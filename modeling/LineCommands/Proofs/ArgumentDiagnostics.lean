import LineCommands.Registry.Run
import LineCommands.Proofs.CursorAgreement
import LineCommands.Proofs.RegistryRefinement
/-!
# Which argument a failure names

A command that reads its declared arguments with the default script
(`Command.defaultScript`: each mandatory argument by a required request, each optional one
by an optional request, then `finish`) fails, if at all, at one of those requests, and the
registry's message (`describe`) names the argument at the cursor's argument count. This
module says what that count is when such a run fails.

When every earlier request handed out a value, the count is the index of the failing
argument, so the message names that argument, and a missing argument is always a mandatory
one. The exception is an optional argument that found nothing. A line cursor then has no
token left and every later optional request finds nothing too, but a request for a custom
kind the cursor does not know still fails with `unknownCustomType`; the count is then the
index of the absent argument, and the message names that earlier argument
(`ScriptFailure.afterAbsent`). A value queue never fails there: an optional request of a
queue always answers. No run fails with `argumentsAfterRemainder`, because a signature the
registry accepts declares the full kind last.

`Filling` is the state of the cursor before each request; `Filling.next` and `Filling.fail`
say what one request makes of it, and `run_requests`, a loop invariant rule for runs of
requests, carries it through the script.

## What this module delivers

- `ScriptFailure`: the ways a run of the default script can fail.
- `default_script_failure`: every failed run, on a cursor that has handed out nothing, is
  one of them, at the request its trace ends with.
- `ScriptFailure.argumentPosition_of_queue`, `ScriptFailure.notEnoughArguments`: on a value
  queue the count is the failing argument's index, and a missing argument is mandatory.
-/

namespace LineCommands

/-! ## The requests of the default script -/

namespace ArgSpec

/-- The request that reads a declared argument: a custom kind by the argument's name, any
other kind by the generic route. -/
def pull (a : ArgSpec) (required : Bool) : Request :=
  if a.kind = .custom then .custom a.name required else .value a.kind required

theorem argumentRequest_eq (required : Bool) (a : ArgSpec) :
    Command.argumentRequest required a = .request (a.pull required) := by
  unfold Command.argumentRequest pull
  split <;> rfl

@[simp] theorem wellTyped_pull (a : ArgSpec) (r : Bool) : (a.pull r).wellTyped = true := by
  unfold pull
  split <;> rfl

end ArgSpec

namespace Signature

variable (s : Signature)

/-- The requests for the declared arguments, in order: mandatory ones required, optional
ones not. -/
def requests : List Request := s.args.map (·.pull true) ++ s.optional.map (·.pull false)

theorem defaultScript_eq :
    Command.defaultScript s =
      s.requests.map (Step.request · false) ++ [Step.request .finish false] := by
  have h : ∀ r, Command.argumentRequest r = fun a => Step.request (a.pull r) false :=
    fun r => funext (ArgSpec.argumentRequest_eq r)
  simp [Command.defaultScript, requests, h, Function.comp_def]

theorem length_requests : s.requests.length = s.all.length := by
  simp [requests, all]

/-- The request for argument `i` is required exactly when the argument is mandatory. -/
theorem getElem?_requests {i : Nat} {p : Request} (h : s.requests[i]? = some p) :
    ∃ a, s.all[i]? = some a ∧ p = a.pull (decide (i < s.args.length)) := by
  unfold requests at h
  unfold all
  by_cases hi : i < s.args.length
  · rw [List.getElem?_append_left (by simpa using hi), List.getElem?_map,
      Option.map_eq_some_iff] at h
    obtain ⟨a, ha, rfl⟩ := h
    exact ⟨a, by rw [List.getElem?_append_left hi, ha], by simp [hi]⟩
  · rw [List.getElem?_append_right (by simpa using hi), List.getElem?_map,
      Option.map_eq_some_iff, List.length_map] at h
    obtain ⟨a, ha, rfl⟩ := h
    exact ⟨a, by rw [List.getElem?_append_right (by omega), ha], by simp [hi]⟩

/-- In a signature the registry accepts, an argument of the full kind is the last one. -/
theorem FullOnlyLast.eq_last {s : Signature} (hs : s.FullOnlyLast) {i : Nat} {a : ArgSpec}
    (ha : s.all[i]? = some a) (hk : a.kind = .full) : s.all.length = i + 1 := by
  obtain ⟨hi, rfl⟩ := List.getElem?_eq_some_iff.1 ha
  have : ¬i + 1 < s.all.length := fun hlt => hs _ (mem_dropLast_iff.2 ⟨i, hlt, rfl⟩) hk
  omega

end Signature

/-! ## What one request can do -/

namespace LineCursor

variable (c : LineCursor)

/-- **The request for a declared argument on a line cursor** that has not handed out the
full rest fails on the token, on an unknown custom kind or on a missing required argument;
finds nothing, when the argument is optional and no token is in front; or hands out a value
and counts it, taking the full rest exactly for the full kind. -/
theorem pull_cases (hr : c.remainderTaken = false) (a : ArgSpec) (r : Bool) :
    (∃ e, ((Cursor.line c).answer (a.pull r)).2 = .error e ∧
      (e.isParseError = true ∨ e = .unknownCustomType a.name ∨
        (e = .notEnoughArguments ∧ r = true))) ∨
    (((Cursor.line c).answer (a.pull r)) = (.line c.skipSpaces, .ok .nothing) ∧ r = false ∧
      c.line.length ≤ c.tokenStart) ∨
    (∃ x, ((Cursor.line c).answer (a.pull r)).2 = .ok x ∧ x ≠ .nothing ∧
      ((Cursor.line c).answer (a.pull r)).1.argumentPosition = c.argPos + 1 ∧
      ((Cursor.line c).answer (a.pull r)).1.remainderTaken = decide (a.kind = .full)) := by
  unfold ArgSpec.pull
  split
  · next hk =>
    cases hp : c.types.bind (·.find? a.name) with
    | none =>
      have : c.nextCustom a.name r = (c, .error (.unknownCustomType a.name)) := by
        simp [nextCustom, hp]
      exact .inl ⟨_, by simp [Cursor.answer, Cursor.nextCustom, this, Except.map], .inr (.inl rfl)⟩
    | some parser =>
      by_cases ht : c.line.length ≤ c.tokenStart
      · -- nothing in front: missing
        have h := c.nextCustom_of_no_token hp hr ht r
        cases r with
        | true =>
          exact .inl ⟨_, by simp [Cursor.answer, Cursor.nextCustom, h, missing, Except.map],
            .inr (.inr ⟨rfl, rfl⟩)⟩
        | false =>
          exact .inr (.inl ⟨by simp [Cursor.answer, Cursor.nextCustom, h, missing, Except.map], rfl, ht⟩)
      · rcases c.nextCustom_of_token hp hr (by omega) r with ⟨e, he, h⟩ | ⟨t, h, hpos, hrem⟩
        · exact .inl ⟨e, by simp [Cursor.answer_custom_snd, h, Except.map], .inl he⟩
        · refine .inr (.inr ⟨.customText t, by simp [Cursor.answer_custom_snd, h, Except.map], by simp, ?_, ?_⟩)
          · exact hpos
          · simp [Cursor.answer, Cursor.nextCustom, Cursor.remainderTaken, hrem, hk]
  · next hk =>
    by_cases ht : c.line.length ≤ c.tokenStart
    · have h := c.nextValue_of_no_token hk hr ht r
      cases r with
      | true =>
        exact .inl ⟨_, by simp [Cursor.answer, Cursor.nextValue, h, missing, Except.map],
          .inr (.inr ⟨rfl, rfl⟩)⟩
      | false =>
        exact .inr (.inl ⟨by simp [Cursor.answer, Cursor.nextValue, h, missing, Except.map], rfl, ht⟩)
    · rcases c.nextValue_of_token hk hr (by omega) r with ⟨e, he, h⟩ | ⟨v, -, h, hpos, hrem⟩
      · exact .inl ⟨e, by simp [Cursor.answer_value_snd, h, Except.map], .inl he⟩
      · exact .inr (.inr ⟨.value v, by simp [Cursor.answer_value_snd, h, Except.map], by simp, hpos, hrem⟩)

/-- With no token in front, an optional request finds nothing, unless it names a custom kind
the cursor does not know. -/
theorem pull_of_no_token (hr : c.remainderTaken = false) (ht : c.line.length ≤ c.tokenStart)
    (a : ArgSpec) :
    (Cursor.line c).answer (a.pull false) = (.line c.skipSpaces, .ok .nothing) ∨
      (a.kind = .custom ∧ c.types.bind (·.find? a.name) = none ∧
        (Cursor.line c).answer (a.pull false) = (.line c, .error (.unknownCustomType a.name))) := by
  unfold ArgSpec.pull
  split
  · next hk =>
    cases hp : c.types.bind (·.find? a.name) with
    | none =>
      exact .inr ⟨hk, rfl, by simp [Cursor.answer, Cursor.nextCustom, nextCustom, hp, Except.map]⟩
    | some parser =>
      exact .inl (by simp [Cursor.answer, Cursor.nextCustom, c.nextCustom_of_no_token hp hr ht,
        missing, Except.map])
  · next hk =>
    exact .inl (by simp [Cursor.answer, Cursor.nextValue, c.nextValue_of_no_token hk hr ht,
      missing, Except.map])

end LineCursor

namespace ValueQueue

variable (q : ValueQueue)

theorem argPos_of_pop {k : ArgKind} {v : ArgValue} {q' : ValueQueue}
    (h : q.pop k = some (v, q')) : q'.argPos = q.argPos := by
  unfold pop at h
  split at h
  · cases h
    exact q.argPos_dropFront k
  · cases h

theorem remainderTaken_of_pop {k : ArgKind} {v : ArgValue} {q' : ValueQueue}
    (h : q.pop k = some (v, q')) : q'.remainderTaken = q.remainderTaken := by
  unfold pop at h
  split at h
  · cases h
    exact q.remainderTaken_dropFront k
  · cases h

/-- **The request for a declared argument on a value queue** that has not handed out the full
rest finds nothing and leaves the queue as it was, or hands out a value and counts it, taking
the full rest exactly for the full kind. -/
theorem pull_cases (hr : q.remainderTaken = false) (a : ArgSpec) (r : Bool) :
    (Cursor.queue q).answer (a.pull r) =
        (.queue q, if r then .error .notEnoughArguments else .ok .nothing) ∨
      ∃ x q', (Cursor.queue q).answer (a.pull r) = (.queue q', .ok x) ∧ x ≠ .nothing ∧
        q'.argPos = q.argPos + 1 ∧ q'.remainderTaken = decide (a.kind = .full) := by
  have hmissing : ∀ {α : Type} (g : α → Answer),
      (missing r : Except CommandError (Option α)).map (fun o => (o.map g).getD .nothing) =
        if r then .error .notEnoughArguments else .ok .nothing := by
    intro α g
    cases r <;> rfl
  unfold ArgSpec.pull
  split
  · next hk =>
    simp only [Cursor.answer, Cursor.nextCustom, nextCustom, hr, Bool.false_eq_true, if_false]
    split
    · exact .inl (by rw [hmissing])
    · split
      · next v q' hpop =>
        refine .inr ⟨.customText v, _, rfl, by simp, ?_, ?_⟩
        · simp [q.argPos_of_pop hpop]
        · simp [q.remainderTaken_of_pop hpop, hr, hk]
      · exact .inl (by rw [hmissing])
  · next hk =>
    simp only [Cursor.answer, Cursor.nextValue, nextValue, hr, hk, Bool.false_eq_true, if_false]
    split
    · exact .inl (by rw [hmissing])
    · split
      · exact .inl (by rw [hmissing])
      · next v q' hpop =>
        refine .inr ⟨.value v, _, rfl, by simp, ?_, ?_⟩
        · split <;> simp [q.argPos_of_pop hpop]
        · split
          · next hfull => simp [hfull]
          · next hfull => simp [q.remainderTaken_of_pop hpop, hr, hfull]

end ValueQueue

namespace Cursor

/-- A failed request for a declared argument never blames the full rest, and blames a missing
argument only when it was required. -/
theorem pull_error {cur : Cursor} (hr : cur.remainderTaken = false) {a : ArgSpec} {r : Bool}
    {e : CommandError} (he : (cur.answer (a.pull r)).2 = .error e) :
    e ≠ .argumentsAfterRemainder ∧ (e = .notEnoughArguments → r = true) := by
  cases cur with
  | line l =>
    rcases l.pull_cases hr a r with ⟨e', he', hkind⟩ | ⟨hn, -, -⟩ | ⟨y, hy, -⟩
    · rw [he] at he'
      cases he'
      rcases hkind with h | rfl | ⟨rfl, hreq⟩
      · -- a parse error is neither
        constructor <;> rintro rfl <;> simp [CommandError.isParseError] at h
      · exact ⟨by simp, by simp⟩
      · exact ⟨by simp, fun _ => hreq⟩
    · rw [hn] at he
      cases he
    · rw [hy] at he
      cases he
  | queue q =>
    rcases q.pull_cases hr a r with hn | ⟨y, q', hq, -⟩
    · -- only a required request fails, with a missing argument
      rw [hn] at he
      cases r with
      | true =>
        cases he
        exact ⟨by simp, fun _ => rfl⟩
      | false => cases he
    · rw [hq] at he
      cases he

end Cursor

/-! ## How a run of the default script fails -/

/-- How the default script of the signature `s` can fail: at its request number `i`, with the
error, leaving the cursor the message is written from. -/
inductive ScriptFailure (s : Signature) : Nat → CommandError → Cursor → Prop where
  /-- The request for argument `i` failed with every earlier one answered: the count is `i`,
  and a missing argument is a mandatory one. -/
  | argument {i : Nat} {e : CommandError} {cur : Cursor} : i < s.all.length →
      cur.argumentPosition = i → e ≠ .argumentsAfterRemainder →
      (e = .notEnoughArguments → i < s.args.length) → ScriptFailure s i e cur
  /-- An optional argument found the line used up; argument `i`, of a custom kind the line
  cursor does not know, then fails naming its kind, and the count is still that of the absent
  argument. -/
  | afterAbsent {i : Nat} {a : ArgSpec} {l : LineCursor} : s.all[i]? = some a →
      a.kind = .custom → l.types.bind (·.find? a.name) = none → s.args.length ≤ l.argPos →
      l.argPos < i → ScriptFailure s i (.unknownCustomType a.name) (.line l)
  /-- The finishing check found arguments left. -/
  | finish {cur : Cursor} : ScriptFailure s s.all.length .tooManyArguments cur

/-- The cursor before the request for argument `i` of a run of the default script. -/
inductive Filling (s : Signature) (i : Nat) : Cursor → Prop where
  /-- Every earlier request handed out a value; only the last argument takes the full rest. -/
  | answered {cur : Cursor} : cur.argumentPosition = i →
      (cur.remainderTaken = true → s.all.length ≤ i) → Filling s i cur
  /-- An optional argument found the line used up, and nothing followed. -/
  | usedUp {l : LineCursor} : s.args.length ≤ l.argPos → l.argPos < i →
      l.remainderTaken = false → l.line.length ≤ l.tokenStart → Filling s i (.line l)
  /-- An optional argument found another kind at the front of the queue. -/
  | skipped {q : ValueQueue} : s.args.length < i →
      (q.remainderTaken = true → s.all.length ≤ i) → Filling s i (.queue q)

namespace Filling

variable {s : Signature} {i : Nat} {cur : Cursor}

theorem remainderTaken (hf : Filling s i cur) (hi : i < s.all.length) :
    cur.remainderTaken = false := by
  cases hf with
  | answered _ hr => exact Bool.eq_false_iff.2 fun h => absurd (hr h) (by omega)
  | usedUp _ _ hr _ => exact hr
  | skipped _ hr => exact Bool.eq_false_iff.2 fun h => absurd (hr h) (by omega)

/-- **A request that answers** leaves the cursor filling the next argument. -/
theorem next (hs : s.FullOnlyLast) (hf : Filling s i cur) {a : ArgSpec}
    (ha : s.all[i]? = some a) {x : Answer}
    (hx : (cur.answer (a.pull (decide (i < s.args.length)))).2 = .ok x) :
    Filling s (i + 1) (cur.answer (a.pull (decide (i < s.args.length)))).1 := by
  have hi : i < s.all.length := (List.getElem?_eq_some_iff.1 ha).1
  have hr := hf.remainderTaken hi
  -- only the last argument can take the full rest
  have hlast : ∀ b : Bool, b = decide (a.kind = .full) → b = true → s.all.length ≤ i + 1 := by
    rintro b rfl hb
    exact (hs.eq_last ha (of_decide_eq_true hb)).le
  cases hf with
  | answered hpos _ =>
    cases cur with
    | line l =>
      rcases l.pull_cases hr a _ with ⟨e, he, -⟩ | ⟨hn, hopt, ht⟩ | ⟨y, -, -, hpos', hrem'⟩
      · rw [hx] at he
        cases he
      · -- an optional argument found the line used up
        rw [hn]
        have hargs : s.args.length ≤ i := by simpa using hopt
        have hl : l.argPos = i := hpos
        exact .usedUp (by simp; omega) (by simp; omega) hr
          (by simpa [LineCursor.tokenStart_skipSpaces] using ht)
      · exact .answered (by rw [hpos']; simpa [Cursor.argumentPosition] using hpos)
          (hlast _ hrem')
    | queue q =>
      rcases q.pull_cases hr a _ with hn | ⟨y, q', hq, -, hpos', hrem'⟩
      · -- an optional argument found another kind at the front
        rw [hn] at hx ⊢
        cases hopt : decide (i < s.args.length) with
        | true => simp [hopt] at hx
        | false =>
          have hq : q.remainderTaken = false := hr
          exact .skipped (by simp at hopt; omega) (fun h => absurd h (by simp [hq]))
      · rw [hq]
        exact .answered (by simp [Cursor.argumentPosition] at hpos ⊢; omega) (hlast _ hrem')
  | @usedUp l hargs hlt hr' ht =>
    have hopt : decide (i < s.args.length) = false := by simp; omega
    rw [hopt] at hx ⊢
    rcases l.pull_of_no_token hr' ht a with hn | ⟨-, -, hn⟩
    · rw [hn]
      exact .usedUp hargs (by simp; omega) hr'
        (by simpa [LineCursor.tokenStart_skipSpaces] using ht)
    · rw [hn] at hx
      cases hx
  | @skipped q hargs _ =>
    have hopt : decide (i < s.args.length) = false := by simp; omega
    rw [hopt] at hx ⊢
    rcases q.pull_cases hr a false with hn | ⟨y, q', hq, -, -, hrem'⟩
    · rw [hn]
      have hq : q.remainderTaken = false := hr
      exact .skipped (by omega) (fun h => absurd h (by simp [hq]))
    · rw [hq]
      exact .skipped (by omega) (hlast _ hrem')

/-- **A request that fails** is a failure of the script at that argument. -/
theorem fail (hf : Filling s i cur) {a : ArgSpec} (ha : s.all[i]? = some a) {e : CommandError}
    (he : (cur.answer (a.pull (decide (i < s.args.length)))).2 = .error e) :
    ScriptFailure s i e (cur.answer (a.pull (decide (i < s.args.length)))).1 := by
  have hi : i < s.all.length := (List.getElem?_eq_some_iff.1 ha).1
  have hr := hf.remainderTaken hi
  -- a failed request counts nothing
  have hpos' := (cur.answer_alike_of_no_value _ (a.wellTyped_pull _) (.inr ⟨e, he⟩)).argumentPosition
  cases hf with
  | answered hpos _ =>
    obtain ⟨hne, hmissing⟩ := cur.pull_error hr he
    exact .argument hi (hpos' ▸ hpos) hne fun h => by simpa using hmissing h
  | @usedUp l hargs hlt hr' ht =>
    have hopt : decide (i < s.args.length) = false := by simp; omega
    rw [hopt] at he ⊢
    rcases l.pull_of_no_token hr' ht a with hn | ⟨hk, hnone, hn⟩
    · rw [hn] at he
      cases he
    · rw [hn] at he ⊢
      cases he
      exact .afterAbsent ha hk hnone hargs hlt
  | @skipped q hargs _ =>
    have hopt : decide (i < s.args.length) = false := by simp; omega
    rw [hopt] at he
    rcases q.pull_cases hr a false with hn | ⟨y, q', hq, -⟩
    · rw [hn] at he
      cases he
    · rw [hq] at he
      cases he

end Filling

/-! ## Runs of requests -/

namespace RunM

theorem run_bind_ok {α β : Type} {x : RunM α} {f : α → RunM β} {st st' : RunState} {a : α}
    (h : (x.run st).run = (.ok a, st')) : ((x >>= f).run st).run = ((f a).run st').run := by
  simp only [ExceptT.run_bind, Id.run] at h ⊢
  show StateT.run (ExceptT.run x >>= _) st = _
  rw [StateT.run_bind, show StateT.run (ExceptT.run x) st = _ from h]
  rfl

theorem run_bind_error {α β : Type} {x : RunM α} {f : α → RunM β} {st st' : RunState}
    {e : CommandError} (h : (x.run st).run = (.error e, st')) :
    ((x >>= f).run st).run = (.error e, st') := by
  simp only [ExceptT.run_bind, Id.run] at h ⊢
  show StateT.run (ExceptT.run x >>= _) st = _
  rw [StateT.run_bind, show StateT.run (ExceptT.run x) st = _ from h]
  rfl

end RunM

/-- The state after a request step: the cursor the request left, and the request recorded. -/
def RunState.asked (st : RunState) (p : Request) : RunState :=
  { st with
    cursor := (st.cursor.answer p).1
    trace := st.trace ++ [.request (st.cursor.answer p).2 (st.cursor.answer p).1.rawPosition
      (st.cursor.answer p).1.argumentPosition (st.cursor.answer p).1.exhausted] }

@[simp] theorem RunState.asked_cursor (st : RunState) (p : Request) :
    (st.asked p).cursor = (st.cursor.answer p).1 := rfl

@[simp] theorem RunState.length_asked_trace (st : RunState) (p : Request) :
    (st.asked p).trace.length = st.trace.length + 1 := by
  simp [asked]

section Run

variable {reg : Registry} {invokedAs : String} {c : Command}

theorem runStep_request_ok {p : Request} {st : RunState} {a : Answer}
    (h : (st.cursor.answer p).2 = .ok a) :
    ((runStep reg invokedAs c (.request p false)).run st).run = (.ok (), st.asked p) := by
  unfold runStep
  rw [RunM.run_bind_ok (show ((get : RunM RunState).run st).run = (.ok st, st) from rfl)]
  simp only [h, RunState.asked]
  rfl

theorem runStep_request_error {p : Request} {st : RunState} {e : CommandError}
    (h : (st.cursor.answer p).2 = .error e) :
    ((runStep reg invokedAs c (.request p false)).run st).run = (.error e, st.asked p) := by
  unfold runStep
  rw [RunM.run_bind_ok (show ((get : RunM RunState).run st).run = (.ok st, st) from rfl)]
  simp only [h, RunState.asked]
  rfl

/-- **Invariant rule for a run of requests.** If every request that answers keeps `Inv` from
one index to the next, and every request that fails from a state satisfying `Inv` ends in
`Bad`, then a run that answers every request keeps `Inv` to the end, and a run that fails does
so at some request `j`, in `Bad`, with one trace entry per request made. -/
theorem run_requests {Inv : Nat → Cursor → Prop} {Bad : Nat → CommandError → Cursor → Prop}
    (ps : List Request) (i : Nat)
    (next : ∀ j p cur a, ps[j]? = some p → Inv (i + j) cur → (cur.answer p).2 = .ok a →
      Inv (i + j + 1) (cur.answer p).1)
    (fail : ∀ j p cur e, ps[j]? = some p → Inv (i + j) cur → (cur.answer p).2 = .error e →
      Bad (i + j) e (cur.answer p).1)
    (st : RunState) (h0 : Inv i st.cursor) {res : Except CommandError Unit} {st' : RunState}
    (hrun : (((ps.map (Step.request · false)).forM (runStep reg invokedAs c)).run st).run =
      (res, st')) :
    (res = .ok () → Inv (i + ps.length) st'.cursor ∧
        st'.trace.length = st.trace.length + ps.length) ∧
      ∀ e, res = .error e → ∃ j < ps.length, Bad (i + j) e st'.cursor ∧
        st'.trace.length = st.trace.length + j + 1 := by
  induction ps generalizing i st with
  | nil =>
    -- nothing to run
    cases hrun
    exact ⟨fun _ => ⟨h0, rfl⟩, fun e h => by cases h⟩
  | cons p ps ih =>
    rw [List.map_cons, List.forM] at hrun
    cases ha : (st.cursor.answer p).2 with
    | error e =>
      -- the first request fails: the run stops there
      rw [RunM.run_bind_error (runStep_request_error ha)] at hrun
      cases hrun
      refine ⟨fun h => (by cases h), fun e' he => ?_⟩
      obtain rfl : e = e' := by injection he
      exact ⟨0, by simp, fail 0 p _ e rfl h0 ha, by simp⟩
    | ok a =>
      -- the first request answers: the rest runs from the state it left, one index on
      rw [RunM.run_bind_ok (runStep_request_ok ha)] at hrun
      have h1 : Inv (i + 1) (st.asked p).cursor := next 0 p _ a rfl h0 ha
      have next' : ∀ j q cur a, ps[j]? = some q → Inv (i + 1 + j) cur →
          (cur.answer q).2 = .ok a → Inv (i + 1 + j + 1) (cur.answer q).1 := by
        intro j q cur a hq hinv hans
        rw [Nat.succ_add] at hinv ⊢
        exact next (j + 1) q cur a hq hinv hans
      have fail' : ∀ j q cur e, ps[j]? = some q → Inv (i + 1 + j) cur →
          (cur.answer q).2 = .error e → Bad (i + 1 + j) e (cur.answer q).1 := by
        intro j q cur e hq hinv hans
        rw [Nat.succ_add] at hinv ⊢
        exact fail (j + 1) q cur e hq hinv hans
      obtain ⟨hok, herr⟩ := ih (i + 1) next' fail' (st.asked p) h1 hrun
      refine ⟨fun h => ?_, fun e he => ?_⟩
      · obtain ⟨hinv, hlen⟩ := hok h
        refine ⟨?_, ?_⟩
        · rw [List.length_cons, show i + (ps.length + 1) = i + 1 + ps.length by omega]
          exact hinv
        · simp [hlen]
          omega
      · obtain ⟨j, hj, hbad, hlen⟩ := herr e he
        refine ⟨j + 1, by simp; omega, ?_, ?_⟩
        · rw [show i + (j + 1) = i + 1 + j by omega]
          exact hbad
        · simp [hlen]
          omega

end Run

/-! ## Failed runs of the default script -/

/-- `finish` fails only when arguments are left over. -/
theorem Cursor.finish_error {cur : Cursor} {e : CommandError}
    (h : (cur.answer .finish).2 = .error e) : e = .tooManyArguments := by
  simp only [Cursor.answer, Cursor.finish] at h
  split at h
  · cases h
  · cases h
    rfl

/-- The requests for the declared arguments, run from a cursor before the first argument: a
run that answers them all records one entry per argument, and a run that fails is a failure
of the script at the request its trace ends with. -/
theorem run_argument_requests {reg : Registry} {invokedAs : String} {c : Command}
    {s : Signature} (hs : s.FullOnlyLast) {st : RunState} (h0 : Filling s 0 st.cursor)
    (htrace : st.trace = []) {res : Except CommandError Unit} {st' : RunState}
    (hrun : (((s.requests.map (Step.request · false)).forM (runStep reg invokedAs c)).run st).run =
      (res, st')) :
    (res = .ok () → st'.trace.length = s.all.length) ∧
      ∀ e, res = .error e → ∃ i, st'.trace.length = i + 1 ∧ ScriptFailure s i e st'.cursor := by
  -- the request for argument `j` is the one `Filling.next` and `Filling.fail` speak of
  have next : ∀ j p cur a, s.requests[j]? = some p → Filling s (0 + j) cur →
      (cur.answer p).2 = .ok a → Filling s (0 + j + 1) (cur.answer p).1 := by
    intro j p cur a hp hf ha
    obtain ⟨b, hb, rfl⟩ := s.getElem?_requests hp
    rw [Nat.zero_add] at hf ⊢
    exact hf.next hs hb ha
  have fail : ∀ j p cur e, s.requests[j]? = some p → Filling s (0 + j) cur →
      (cur.answer p).2 = .error e → ScriptFailure s (0 + j) e (cur.answer p).1 := by
    intro j p cur e hp hf he
    obtain ⟨b, hb, rfl⟩ := s.getElem?_requests hp
    rw [Nat.zero_add] at hf ⊢
    exact hf.fail hb he
  obtain ⟨hok, herr⟩ := run_requests s.requests 0 next fail st h0 hrun
  refine ⟨fun h => ?_, fun e he => ?_⟩
  · simp [(hok h).2, htrace, s.length_requests]
  · obtain ⟨j, -, hbad, hlen⟩ := herr e he
    exact ⟨j, by simpa [htrace] using hlen, by simpa using hbad⟩

/-- **Where a run of the default script fails.** A command whose signature the registry accepts
and whose body is the default script, run on a cursor that has handed out nothing, fails, if it
fails, at the request its trace ends with, in one of the ways `ScriptFailure` lists. -/
theorem default_script_failure {reg : Registry} {invokedAs : String} {c : Command}
    (hsig : c.signature.FullOnlyLast)
    (hbody : c.behaviour = .script (Command.defaultScript c.signature)) {cur : Cursor}
    (hpos : cur.argumentPosition = 0) (hrem : cur.remainderTaken = false) {e : CommandError}
    {st : RunState} (hrun : ((c.execute reg invokedAs).run { cursor := cur }).run = (.error e, st)) :
    ∃ i, st.trace.length = i + 1 ∧ ScriptFailure c.signature i e st.cursor := by
  set s := c.signature
  -- the script is the requests for the arguments, then `finish`
  have hsplit : (s.requests.map (Step.request · false) ++ [Step.request .finish false]).forM
      (runStep reg invokedAs c) = (do
        (s.requests.map (Step.request · false)).forM (runStep reg invokedAs c)
        [Step.request .finish false].forM (runStep reg invokedAs c)) := List.forM_append
  simp only [Command.execute, hbody, s.defaultScript_eq] at hrun
  rw [hsplit] at hrun
  have h0 : Filling s 0 cur := .answered hpos (fun h => by simp [hrem] at h)
  cases hreq : (((s.requests.map (Step.request · false)).forM
      (runStep reg invokedAs c)).run { cursor := cur }).run with
  | mk res st₁ =>
  obtain ⟨hok, herr⟩ := run_argument_requests hsig h0 rfl hreq
  cases res with
  | error e' =>
    -- an argument request failed
    rw [RunM.run_bind_error hreq] at hrun
    cases hrun
    exact herr e rfl
  | ok u =>
    -- every argument answered: the finishing check fails
    rw [RunM.run_bind_ok hreq, List.forM, List.forM] at hrun
    cases hfin : (st₁.cursor.answer .finish).2 with
    | ok a =>
      rw [RunM.run_bind_ok (runStep_request_ok hfin)] at hrun
      cases hrun
    | error e' =>
      obtain rfl := Cursor.finish_error hfin
      rw [RunM.run_bind_error (runStep_request_error hfin)] at hrun
      cases hrun
      exact ⟨s.all.length, by simp [hok rfl], .finish⟩

/-- An empty line read by a command with two optional arguments, an int `a` and `b` of a custom
kind the cursor does not know: `a` finds nothing, and the request for `b` fails. -/
theorem default_script_failure_after_absent :
    let sig : Signature :=
      { optional := [{ kind := .i32, name := "a" }, { kind := .custom, name := "b" }] }
    let c : Command :=
      { handle := 0, name := "c", signature := sig, behaviour := .script (Command.defaultScript sig) }
    let cur : Cursor := .line { line := [], types := some NameMap.empty }
    c.signature.FullOnlyLast ∧
      ∃ i, ((c.execute {} "c").run { cursor := cur }).run.2.trace.length = i + 1 ∧
        ScriptFailure sig i (.unknownCustomType "b") ((c.execute {} "c").run { cursor := cur }).run.2.cursor := by
  intro sig c cur
  have hsig : c.signature.FullOnlyLast := by
    simp [c, sig, Signature.FullOnlyLast, Signature.all]
  exact ⟨hsig, @default_script_failure {} "c" c hsig rfl cur rfl rfl (.unknownCustomType "b")
    ((c.execute {} "c").run { cursor := cur }).run.2 rfl⟩

/-- Registered as `c` with an optional int `a` and an optional `b` of a custom kind nobody
registered, the command run by the line `c` fails at `b`, and the message names `a`: the count
stayed at the absent `a`. -/
theorem absent_optional_argument_names_earlier :
    let sig : Signature :=
      { optional := [{ kind := .i32, name := "a" }, { kind := .custom, name := "b" }] }
    let c : Command :=
      { handle := 0, name := "c", signature := sig, behaviour := .script (Command.defaultScript sig) }
    ((({} : Registry).register c).1.dispatch "c").out =
      Bytes.ofString "Argument \"a\" has unknown type \"b\".\n" := by
  intro sig c
  decide +kernel

namespace ScriptFailure

variable {s : Signature} {i : Nat} {e : CommandError} {cur : Cursor}

/-- No run of the default script fails because an argument followed the full rest. -/
theorem ne_argumentsAfterRemainder (h : ScriptFailure s i e cur) :
    e ≠ .argumentsAfterRemainder := by
  cases h with
  | argument _ _ hne _ => exact hne
  | afterAbsent => simp
  | finish => simp

/-- A missing argument is a mandatory one, and the count is its index. -/
theorem notEnoughArguments (h : ScriptFailure s i .notEnoughArguments cur) :
    cur.argumentPosition = i ∧ i < s.args.length := by
  cases h with
  | argument _ hpos _ hmand => exact ⟨hpos, hmand rfl⟩

/-- On a value queue, the count at a failed argument request is that argument's index. -/
theorem argumentPosition_of_queue {q : ValueQueue} (h : ScriptFailure s i e (.queue q))
    (hi : i < s.all.length) : q.argPos = i := by
  cases h with
  | argument _ hpos _ _ => exact hpos
  | finish => omega

end ScriptFailure

end LineCommands
