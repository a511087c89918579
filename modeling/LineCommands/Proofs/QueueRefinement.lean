import LineCommands.Cursor.Queue
/-!
# The value queue is a queue of values

A `ValueQueue` keeps fourteen queues of payloads, one per kind, and the queue of kinds
`order`. What it stands for is one queue of values: walk `order` front to back and take, at
the j-th occurrence of a kind, the j-th value of that kind's queue (`ValueQueue.contents`).
This module shows that every queue reachable from the empty one by pushes and requests
behaves as that single queue does.

The invariant that carries it is `Coherent`: each kind occurs in `order` exactly as often as
its queue has values. A push appends to one queue and to `order`; taking a value removes the
front of one queue and the front of `order`, and the request takes a value only when `order`
starts with its kind. Both keep the counts equal, and with equal counts the front of `order`
names the kind of the front value.

## What this module delivers

- `ValueQueue.View`, the queue of values with the argument count and the remainder flag, and
  its operations: a push appends; a request takes the front value when it fits.
- `ValueQueue.Coherent` and `ValueQueue.Reachable`, with `Reachable.coherent`.
- `ValueQueue.view_push`, `ValueQueue.nextValue_view`, `ValueQueue.nextCustom_view`: each
  operation commutes with the view.
- `queue_refines_value_list`: the refinement for every reachable queue.
-/

namespace LineCommands

/-! ## Interleaving lanes along an order -/

/-- The lanes with the front of lane `k` dropped. -/
def dropLane (lanes : ArgKind → List ArgValue) (k : ArgKind) : ArgKind → List ArgValue :=
  fun k' => if k' = k then (lanes k).tail else lanes k'

/-- The values the lanes hold in the order `ks`: at the j-th occurrence of a kind, the j-th
value of its lane, when there is one. -/
def interleave (lanes : ArgKind → List ArgValue) : List ArgKind → List ArgValue
  | [] => []
  | k :: ks => (lanes k).head?.toList ++ interleave (dropLane lanes k) ks

section Interleave

variable {lanes : ArgKind → List ArgValue}

/-- Taking the front of lane `k` and the front `k` of the order keeps every count equal to
its lane's length. -/
theorem count_dropLane {k k' : ArgKind} {ks : List ArgKind}
    (h : (k :: ks).count k' = (lanes k').length) : ks.count k' = (dropLane lanes k k').length := by
  by_cases hk : k' = k
  · subst hk
    simp [dropLane] at h ⊢
    omega
  · simpa [dropLane, hk, List.count_cons, Ne.symm hk] using h

theorem interleave_cons_of_lane {k : ArgKind} {v : ArgValue} {vs : List ArgValue}
    (h : lanes k = v :: vs) (ks : List ArgKind) :
    interleave lanes (k :: ks) = v :: interleave (dropLane lanes k) ks := by
  simp [interleave, h]

/-- Appending a value to one lane and its kind to the order appends the value, when the
order counts that kind as often as the lane has values. -/
theorem interleave_snoc {k : ArgKind} {v : ArgValue} (ks : List ArgKind)
    {lanes' : ArgKind → List ArgValue} (hk : lanes' k = lanes k ++ [v])
    (hother : ∀ k', k' ≠ k → lanes' k' = lanes k') (hcount : ks.count k = (lanes k).length) :
    interleave lanes' (ks ++ [k]) = interleave lanes ks ++ [v] := by
  -- each kind of the order takes the front of its lane, so the lanes change along the way
  induction ks generalizing lanes lanes' with
  | nil =>
      -- an order without `k` leaves lane `k` empty: the new value is the only one
      have : lanes k = [] := List.length_eq_zero_iff.1 (by simpa using hcount.symm)
      simp [interleave, hk, this]
  | cons k₀ ks ih =>
      have hdrop_k : dropLane lanes' k₀ k = dropLane lanes k₀ k ++ [v] := by
        by_cases h : k = k₀
        · -- the lane that grows is the one whose front is taken: it is not empty
          subst h
          obtain ⟨a, as, has⟩ : ∃ a as, lanes k = a :: as :=
            List.exists_cons_of_length_eq_add_one (by simpa using hcount.symm)
          simp [dropLane, hk, has]
        · simp [dropLane, h, hk]
      have hdrop_other : ∀ k', k' ≠ k → dropLane lanes' k₀ k' = dropLane lanes k₀ k' := by
        intro k' hk'
        by_cases h : k' = k₀
        · subst h
          simp [dropLane, hother k' hk']
        · simp [dropLane, h, hother k' hk']
      -- appending behind a nonempty lane keeps its front
      have hhead : (lanes' k₀).head? = (lanes k₀).head? := by
        by_cases h : k₀ = k
        · subst h
          obtain ⟨a, as, has⟩ : ∃ a as, lanes k₀ = a :: as :=
            List.exists_cons_of_length_eq_add_one (by simpa using hcount.symm)
          simp [hk, has]
        · rw [hother k₀ h]
      have hcount' : ks.count k = (dropLane lanes k₀ k).length := count_dropLane hcount
      simp only [List.cons_append, interleave, hhead, ih hdrop_k hdrop_other hcount',
        List.append_assoc]

/-- With the counts of the order equal to the lengths of the lanes, every kind of the order
takes a value. -/
theorem length_interleave (ks : List ArgKind) (hcount : ∀ k, ks.count k = (lanes k).length) :
    (interleave lanes ks).length = ks.length := by
  induction ks generalizing lanes with
  | nil => rfl
  | cons k ks ih =>
      -- the order counts its front kind at least once, so that lane has a value
      obtain ⟨a, as, has⟩ : ∃ a as, lanes k = a :: as :=
        List.exists_cons_of_length_eq_add_one (by simpa using (hcount k).symm)
      rw [interleave_cons_of_lane has, List.length_cons, List.length_cons, ih]
      exact fun k' => count_dropLane (hcount k')

end Interleave

namespace ValueQueue

/-! ## Lanes of a queue -/

/-- The values the queue stands for: its lanes interleaved along `order`. -/
def contents (q : ValueQueue) : List ArgValue := interleave q.lane q.order

/-- Each kind occurs in `order` exactly as often as its queue holds values. -/
def Coherent (q : ValueQueue) : Prop := ∀ k, q.order.count k = (q.lane k).length

variable (q : ValueQueue)

theorem order_push (v : ArgValue) : (q.push v).order = q.order ++ [v.kind] := by
  cases v <;> rfl

theorem lane_push (v : ArgValue) (k : ArgKind) :
    (q.push v).lane k = if v.kind = k then q.lane k ++ [v] else q.lane k := by
  cases v <;> cases k <;> simp [push, lane, ArgValue.kind]

theorem lane_dropFront (k k' : ArgKind) :
    (q.dropFront k).lane k' = dropLane q.lane k k' := by
  cases k <;> cases k' <;> simp [dropFront, lane, dropLane]

theorem order_dropFront (k : ArgKind) : (q.dropFront k).order = q.order := by
  cases k <;> rfl

theorem argPos_dropFront (k : ArgKind) : (q.dropFront k).argPos = q.argPos := by
  cases k <;> rfl

theorem remainderTaken_dropFront (k : ArgKind) :
    (q.dropFront k).remainderTaken = q.remainderTaken := by
  cases k <;> rfl

/-- A lane holds values of its own kind only. -/
theorem kind_of_mem_lane {k : ArgKind} {v : ArgValue} (h : v ∈ q.lane k) : v.kind = k := by
  cases k <;> simp only [lane, List.mem_map] at h <;> obtain ⟨_, _, rfl⟩ := h <;> rfl

/-- The lanes read the payload queues only: `order`, the count and the flag do not change
them. -/
theorem lane_update (o : List ArgKind) (n : Nat) (b : Bool) :
    ({ q with order := o, argPos := n, remainderTaken := b } : ValueQueue).lane = q.lane := by
  funext k
  cases k <;> rfl

/-! ## Taking the front value -/

/-- A coherent queue whose `order` starts with `k` has a value in lane `k`: taking it gives
the front of the contents and a coherent queue that stands for the rest. -/
theorem pop_of_coherent (hq : q.Coherent) {k : ArgKind} {ks : List ArgKind}
    (ho : q.order = k :: ks) :
    ∃ v q', q.pop k = some (v, q') ∧ q.contents = v :: q'.contents ∧ q'.Coherent ∧
      v.kind = k ∧ q'.argPos = q.argPos ∧ q'.remainderTaken = q.remainderTaken := by
  obtain ⟨v, vs, hv⟩ : ∃ v vs, q.lane k = v :: vs :=
    List.exists_cons_of_length_eq_add_one (by simpa [ho] using (hq k).symm)
  let q₁ := q.dropFront k
  have hlane : ({ q₁ with order := q₁.order.tail } : ValueQueue).lane = dropLane q.lane k := by
    rw [lane_update]
    funext k'
    exact q.lane_dropFront k k'
  have horder : ({ q₁ with order := q₁.order.tail } : ValueQueue).order = ks := by
    simp [q₁, order_dropFront, ho]
  refine ⟨v, { q₁ with order := q₁.order.tail }, by simp [pop, hv, q₁], ?_, ?_,
    q.kind_of_mem_lane (by simp [hv]), argPos_dropFront q k, remainderTaken_dropFront q k⟩
  · rw [contents, contents, hlane, horder, ho, interleave_cons_of_lane hv]
  · -- one occurrence of `k` left `order` and one value left lane `k`
    intro k'
    rw [hlane, horder]
    exact count_dropLane (ho ▸ hq k')

/-- The kind at the front of `order` is the kind of the front value. -/
theorem peek_eq (hq : q.Coherent) : q.peek = q.contents.head?.map ArgValue.kind := by
  cases ho : q.order with
  | nil => simp [peek, contents, ho, interleave]
  | cons k ks =>
      obtain ⟨v, q', -, hc, -, hk, -⟩ := q.pop_of_coherent hq ho
      simp [peek, ho, hc, hk]

theorem remaining_eq (hq : q.Coherent) : q.remaining = q.contents.length :=
  (length_interleave q.order hq).symm

theorem exhausted_eq (hq : q.Coherent) :
    q.exhausted = (q.remainderTaken || q.contents.isEmpty) := by
  have hlen : q.order.length = q.contents.length := q.remaining_eq hq
  have hempty : q.order.isEmpty = q.contents.isEmpty := by
    rw [Bool.eq_iff_iff, List.isEmpty_iff, List.isEmpty_iff, ← List.length_eq_zero_iff,
      ← List.length_eq_zero_iff, hlen]
  rw [exhausted, hempty]

/-! ## The view -/

/-- A queue of values with the count of values handed out and the flag of the full kind:
what a `ValueQueue` stands for. -/
structure View where
  values : List ArgValue
  argPos : Nat
  remainderTaken : Bool

/-- The view of a queue. -/
def view : View := ⟨q.contents, q.argPos, q.remainderTaken⟩

namespace View

variable (s : View)

/-- Appends a value. -/
def push (v : ArgValue) : View := { s with values := s.values ++ [v] }

/-- Hands out the front value when it has the requested kind; a value of the full kind
closes the queue. -/
def nextValue (k : ArgKind) (required : Bool) : View × Except CommandError (Option ArgValue) :=
  if s.remainderTaken then (s, .error .argumentsAfterRemainder)
  else if k = .custom then (s, .error (.unknownCustomType ""))
  else
    match s.values with
    | v :: rest =>
      if v.kind = k then (⟨rest, s.argPos + 1, k = .full⟩, .ok (some v))
      else (s, missing required)
    | [] => (s, missing required)

/-- Hands out the text of the front value when it belongs to the named custom kind. -/
def nextCustom (name : String) (required : Bool) : View × Except CommandError (Option String) :=
  if s.remainderTaken then (s, .error .argumentsAfterRemainder)
  else
    match s.values with
    | .custom n v :: rest =>
      if n = name then (⟨rest, s.argPos + 1, s.remainderTaken⟩, .ok (some v))
      else (s, missing required)
    | _ => (s, missing required)

end View

/-! ## Each operation through the view -/

/-- The contents and the invariant read the lanes and `order` only. -/
@[simp] theorem contents_update (n : Nat) (b : Bool) :
    ({ q with argPos := n, remainderTaken := b } : ValueQueue).contents = q.contents := rfl

@[simp] theorem coherent_update (n : Nat) (b : Bool) :
    ({ q with argPos := n, remainderTaken := b } : ValueQueue).Coherent ↔ q.Coherent := Iff.rfl

theorem coherent_push (hq : q.Coherent) (v : ArgValue) : (q.push v).Coherent := by
  intro k
  rw [order_push, lane_push, List.count_append, hq k]
  by_cases h : v.kind = k <;> simp [h]

/-- **A push appends exactly the pushed value.** -/
theorem view_push (hq : q.Coherent) (v : ArgValue) : (q.push v).view = q.view.push v := by
  have hc : (q.push v).contents = q.contents ++ [v] := by
    rw [contents, contents, order_push]
    exact interleave_snoc q.order (by simp [lane_push])
      (fun k' hk' => by simp [lane_push, Ne.symm hk']) (hq v.kind)
  have ha : (q.push v).argPos = q.argPos := by cases v <;> rfl
  have hr : (q.push v).remainderTaken = q.remainderTaken := by cases v <;> rfl
  simp [view, View.push, hc, ha, hr]

/-- A value request answers as the queue of values does, leaves the queue that the queue of
values leaves, and keeps the queue coherent. -/
theorem nextValue_view (hq : q.Coherent) (k : ArgKind) (r : Bool) :
    (q.nextValue k r).2 = (q.view.nextValue k r).2 ∧
      (q.nextValue k r).1.view = (q.view.nextValue k r).1 ∧ (q.nextValue k r).1.Coherent := by
  -- the two refusals come before the queue is read, on both sides
  by_cases hr : q.remainderTaken = true
  · simp [nextValue, View.nextValue, view, hr, hq]
  by_cases hk : k = .custom
  · simp [nextValue, View.nextValue, view, hr, hk, hq]
  cases ho : q.order with
  | nil =>
      have hc : q.contents = [] := by simp [contents, ho, interleave]
      simp [nextValue, View.nextValue, view, hr, hk, peek, ho, hc, hq]
  | cons k₀ ks =>
      obtain ⟨v, q', hpop, hc, hq', hkind, hpos, hrem⟩ := q.pop_of_coherent hq ho
      have hv : q.view = ⟨v :: q'.contents, q.argPos, false⟩ := by simp [view, hc, hr]
      by_cases h : k₀ = k
      · -- the front value has the requested kind: both sides take it
        subst h
        have hpeek : q.peek = some k₀ := by simp [peek, ho]
        simp only [nextValue, hr, hk, hpeek, hpop, if_false, Bool.false_eq_true, ne_eq,
          not_true_eq_false]
        rw [hv]
        by_cases hf : k₀ = .full <;>
          simp [View.nextValue, hkind, hk, hf, view, hpos, hrem, hr, hq']
      · have hk' : v.kind ≠ k := by rw [hkind]; exact h
        have hpeek : q.peek ≠ some k := by simp [peek, ho, h]
        simp only [nextValue, hr, hk, hpeek, if_false, Bool.false_eq_true, ne_eq,
          not_false_eq_true, if_true]
        rw [hv]
        -- the front value has another kind: neither side takes anything
        simp [View.nextValue, hk, hk', hq]

/-- A custom request answers as the queue of values does, leaves the queue that the queue of
values leaves, and keeps the queue coherent. -/
theorem nextCustom_view (hq : q.Coherent) (name : String) (r : Bool) :
    (q.nextCustom name r).2 = (q.view.nextCustom name r).2 ∧
      (q.nextCustom name r).1.view = (q.view.nextCustom name r).1 ∧
      (q.nextCustom name r).1.Coherent := by
  by_cases hr : q.remainderTaken = true
  · simp [nextCustom, View.nextCustom, view, hr, hq]
  cases ho : q.order with
  | nil =>
      have hc : q.contents = [] := by simp [contents, ho, interleave]
      simp [nextCustom, View.nextCustom, view, hr, peek, ho, hc, hq]
  | cons k₀ ks =>
      obtain ⟨v, q', hpop, hc, hq', hkind, hpos, hrem⟩ := q.pop_of_coherent hq ho
      by_cases h : k₀ = .custom
      · subst h
        -- the front value is custom: it is the front of the custom queue
        obtain ⟨⟨n, t⟩, rest, hcus, rfl⟩ : ∃ e rest, q.custom = e :: rest ∧
            v = .custom e.1 e.2 := by
          have hl : q.lane .custom = v :: (q.lane .custom).tail := by
            simp [pop] at hpop
            split at hpop <;> simp_all
          cases hcq : q.custom with
          | nil => simp [lane, hcq] at hl
          | cons e rest => exact ⟨e, rest, rfl, by simpa [lane, hcq, eq_comm] using hl⟩
        by_cases hn : n = name
        · subst hn
          simp [nextCustom, View.nextCustom, view, hr, peek, ho, hcus, hpop, hc, hpos, hrem]
          simpa [Coherent] using hq'
        · simp [nextCustom, View.nextCustom, view, hr, peek, ho, hcus, hc, hn, hq]
      · -- a front value of another kind is not custom: neither side takes anything
        have hv : ∀ n t, v ≠ .custom n t := by
          intro n t e
          rw [e] at hkind
          exact h hkind.symm
        cases v <;> simp_all [nextCustom, View.nextCustom, view, peek]

/-- A value request that hands out no value leaves the queue as it was. -/
theorem nextValue_fst_of_no_value (k : ArgKind) (r : Bool)
    (h : ∀ v, (q.nextValue k r).2 ≠ .ok (some v)) : (q.nextValue k r).1 = q := by
  -- every branch but the one that hands out a value returns the queue itself
  revert h
  simp only [nextValue]
  split
  · exact fun _ => rfl
  split
  · exact fun _ => rfl
  split
  · exact fun _ => rfl
  split
  · exact fun _ => rfl
  · next v q' _ => exact fun h => absurd rfl (h v)

/-- A custom request that hands out no value leaves the queue as it was. -/
theorem nextCustom_fst_of_no_value (name : String) (r : Bool)
    (h : ∀ v, (q.nextCustom name r).2 ≠ .ok (some v)) : (q.nextCustom name r).1 = q := by
  revert h
  simp only [nextCustom]
  split
  · exact fun _ => rfl
  split
  · exact fun _ => rfl
  split
  · next n v q' _ => exact fun h => absurd rfl (h v)
  · exact fun _ => rfl

/-! ## Reachable queues -/

/-- The queues a program can hold: the empty queue, and whatever pushes and requests make of
a queue it can hold. -/
inductive Reachable : ValueQueue → Prop where
  | empty : Reachable {}
  | push {q : ValueQueue} (v : ArgValue) : Reachable q → Reachable (q.push v)
  | nextValue {q : ValueQueue} (k : ArgKind) (r : Bool) : Reachable q →
      Reachable (q.nextValue k r).1
  | nextCustom {q : ValueQueue} (name : String) (r : Bool) : Reachable q →
      Reachable (q.nextCustom name r).1

/-- Every reachable queue is coherent: pushes and requests keep the counts equal. -/
theorem Reachable.coherent {q : ValueQueue} (h : q.Reachable) : q.Coherent := by
  induction h with
  | empty => intro k; cases k <;> rfl
  | push v _ ih => exact coherent_push _ ih v
  | nextValue k r _ ih => exact (nextValue_view _ ih k r).2.2
  | nextCustom name r _ ih => exact (nextCustom_view _ ih name r).2.2

/-- The queue made of a list of values, pushed in order, is reachable. -/
theorem reachable_ofList (vs : List ArgValue) : (ofList vs).Reachable := by
  -- the fold starts from the empty queue; generalise it to any reachable start
  suffices h : ∀ q : ValueQueue, q.Reachable → (vs.foldl push q).Reachable from h {} .empty
  induction vs with
  | nil => exact fun q h => h
  | cons v vs ih => exact fun q h => ih _ (.push v h)

/-- The queue made of a list of values stands for that list, with nothing handed out. -/
theorem view_ofList (vs : List ArgValue) : (ofList vs).view = ⟨vs, 0, false⟩ := by
  suffices h : ∀ q : ValueQueue, q.Coherent →
      (vs.foldl push q).view = { q.view with values := q.view.values ++ vs } by
    rw [ofList, h {} Reachable.empty.coherent]
    rfl
  induction vs with
  | nil => intro q _; simp
  | cons v vs ih =>
      intro q hq
      rw [List.foldl_cons, ih _ (q.coherent_push hq v), view_push q hq v]
      simp [View.push]

end ValueQueue

namespace ValueQueue

/-- A queue behaves as its single queue of values: each kind occurs in `order` as often as
its queue holds values; a push appends exactly the pushed value; a value request and a
custom request answer as the single queue does and leave the queue standing for what the
single queue leaves; a request that hands out no value leaves the queue as it was; whenever
`order` starts with a kind, that kind's queue has a value to take; the count of queued values
and the kind at the front are those of the single queue. -/
structure RefinesFifo (q : ValueQueue) : Prop where
  counts : ∀ k, q.order.count k = (q.lane k).length
  push : ∀ v, (q.push v).view = q.view.push v
  nextValue : ∀ k r, (q.nextValue k r).2 = (q.view.nextValue k r).2 ∧
    (q.nextValue k r).1.view = (q.view.nextValue k r).1
  nextCustom : ∀ name r, (q.nextCustom name r).2 = (q.view.nextCustom name r).2 ∧
    (q.nextCustom name r).1.view = (q.view.nextCustom name r).1
  nextValue_unchanged : ∀ k r, (∀ v, (q.nextValue k r).2 ≠ .ok (some v)) →
    (q.nextValue k r).1 = q
  nextCustom_unchanged : ∀ name r, (∀ v, (q.nextCustom name r).2 ≠ .ok (some v)) →
    (q.nextCustom name r).1 = q
  pop_isSome : ∀ k, q.peek = some k → (q.pop k).isSome
  remaining : q.remaining = q.contents.length
  peek : q.peek = q.contents.head?.map ArgValue.kind

end ValueQueue

/-- **The value queue refines a single queue of values**: every queue reachable from the
empty one by pushes and requests behaves as its single queue of values. -/
theorem queue_refines_value_list {q : ValueQueue} (hq : q.Reachable) : q.RefinesFifo := by
  have hc := hq.coherent
  refine ⟨hc, q.view_push hc, fun k r => ?_, fun name r => ?_, q.nextValue_fst_of_no_value,
    q.nextCustom_fst_of_no_value, fun k hk => ?_, q.remaining_eq hc, q.peek_eq hc⟩
  · exact ⟨(q.nextValue_view hc k r).1, (q.nextValue_view hc k r).2.1⟩
  · exact ⟨(q.nextCustom_view hc name r).1, (q.nextCustom_view hc name r).2.1⟩
  · -- `order` starts with `k`, so coherence puts a value in lane `k`
    obtain ⟨ks, ho⟩ : ∃ ks, q.order = k :: ks := by
      cases h : q.order with
      | nil => simp [ValueQueue.peek, h] at hk
      | cons k' ks => simp [ValueQueue.peek, h] at hk; exact ⟨ks, by rw [hk]⟩
    obtain ⟨v, q', hpop, -⟩ := q.pop_of_coherent hc ho
    simp [hpop]

/-- A queue made of an `i32` and a text value, after the `i32` was taken and a flag pushed. -/
theorem queue_refines_value_list_sample :
    (((ValueQueue.ofList [.i32 10, .text [104, 105]]).nextValue .i32 true).1.push
        (.bool true)).Reachable ∧
      (((ValueQueue.ofList [.i32 10, .text [104, 105]]).nextValue .i32 true).1.push
        (.bool true)).RefinesFifo :=
  let h := ((ValueQueue.reachable_ofList _).nextValue .i32 true).push (.bool true)
  ⟨h, queue_refines_value_list h⟩

end LineCommands
