import LineCommands.Proofs.QueueRefinement
import LineCommands.Proofs.Serve
import Mathlib.Tactic.SplitIfs
/-!
# Requests that hand out nothing

A request can fail, or find nothing. Such a request leaves its cursor so that a command
can tell no difference: the argument count, whether input remains, whether the full rest
was taken, and the answers to every later run of requests are what they were before it. A
value queue is left exactly as it was. A line cursor is either left as it was (a request
refused before the line is read, such as a custom kind asked through the generic route) or
moved over the spaces in front of the next token; its unconsumed text is then the old one
with the leading spaces removed.

The relation that carries this is `Cursor.Alike`: two line cursors that agree once the
spaces in front are skipped, or two equal queues. Every request answers alike cursors alike
and leaves them alike, so alike cursors answer every run of requests alike. A request that
hands out nothing leaves a cursor alike to the one it found.

Typed reads are taken in the shapes a command can ask for: an integer shape names an
integer kind. A read in a shape that no value of its kind fits would take a value and then
fail, and such a read does move the cursor.

## What this module delivers

- `Utf8.lossy_dropWhile_space`: dropping the spaces in front of a byte string drops the
  spaces in front of its text.
- `LineCursor.skipSpaces_skipSpaces`, `LineCursor.exhausted_skipSpaces`,
  `LineCursor.rest_skipSpaces`: skipping spaces is idempotent, keeps exhaustion and removes
  the leading spaces of the unconsumed text.
- `LineCursor.nextValue_fst_of_no_value`, `LineCursor.nextCustom_fst_of_no_value`: a line
  request that hands out nothing leaves the cursor or only skips spaces.
- `Cursor.Alike`, with `Cursor.Alike.answer` (one request) and `Cursor.Alike.serve` (a run).
- `Cursor.NoOp` and `failed_request_is_noop`: the main statement.
- `custom_value_request_keeps_spaces`: a refused request does not skip the spaces.
-/

namespace LineCommands

/-! ## The text after the spaces

The text of a byte string is read one scalar sequence at a time. A space byte reads as a
space; a sequence led by any other byte reads as another character, because a sequence of
two or more bytes carries a value of at least `0x80`. So the spaces in front of the text are
exactly the space bytes in front of the bytes. -/

namespace Utf8

theorem pieces_space (bs : Bytes) : pieces (32 :: bs) = some ' ' :: pieces bs := by
  rw [pieces]
  rfl

theorem continuation_acc_le {n lo hi acc v : Nat} {bs r : Bytes}
    (h : continuation n lo hi acc bs = (some v, r)) : acc ≤ v := by
  -- each octet shifts the value left by six bits and adds its own: it never shrinks
  induction n generalizing lo hi acc bs with
  | zero =>
      simp only [continuation, Prod.mk.injEq, Option.some.injEq] at h
      omega
  | succ n ih =>
      cases bs with
      | nil => simp [continuation] at h
      | cons b bs =>
          simp only [continuation] at h
          split at h
          · have := ih h
            omega
          · simp at h

/-- A run of continuation octets that succeeds starts with an octet in the first range. -/
theorem continuation_succ {n lo hi acc v : Nat} {bs r : Bytes}
    (h : continuation (n + 1) lo hi acc bs = (some v, r)) :
    ∃ b bs', bs = b :: bs' ∧ lo ≤ b.toNat ∧ b.toNat ≤ hi ∧
      continuation n 0x80 0xBF (acc * 64 + b.toNat % 64) bs' = (some v, r) := by
  cases bs with
  | nil => simp [continuation] at h
  | cons b bs =>
      simp only [continuation] at h
      split at h
      · next hb => exact ⟨b, bs, rfl, hb.1, hb.2, h⟩
      · simp at h

/-- A lead byte stands alone, or it carries nonzero value bits, or (after `E0` and `F0`)
at least two continuation octets follow, the first at least `0x90`. -/
theorem scalarShape_cases {b n lo hi bits : Nat} (h : scalarShape b = some (n, lo, hi, bits)) :
    (n = 0 ∧ bits = b) ∨
      (0 < n ∧ 0x80 ≤ lo ∧ hi ≤ 0xBF ∧ (1 ≤ bits ∨ (2 ≤ n ∧ 0x90 ≤ lo))) := by
  fun_cases scalarShape b <;> simp_all [scalarShape] <;> omega

theorem ofNat_eq_space {v : Nat} (h : Char.ofNat v = ' ') : v = 32 := by
  by_cases hv : v.isValidChar
  · rw [Char.ofNat, dif_pos hv] at h
    have hv' : (Char.ofNatAux v hv).toNat = v := rfl
    rw [h] at hv'
    rw [← hv']
    rfl
  · -- an invalid value reads as the null character
    rw [Char.ofNat, dif_neg hv] at h
    exact absurd h (by decide)

/-- A scalar sequence led by a byte other than the space does not read as a space. -/
theorem scalarStep_char_ne_space {b : UInt8} (hb : b ≠ 32) (rest : Bytes) :
    (scalarStep b rest).1.getD '�' ≠ ' ' := by
  unfold scalarStep
  split
  · show '�' ≠ ' '
    decide
  · next n lo hi bits hshape =>
    dsimp only
    cases hv : (continuation n lo hi bits rest).1 with
    | none => exact fun h => absurd h (by decide)
    | some v =>
      intro hc
      have h32 : v = 32 := ofNat_eq_space hc
      subst h32
      have hcont : continuation n lo hi bits rest =
          (some 32, (continuation n lo hi bits rest).2) := by
        rw [← hv]
      rcases scalarShape_cases hshape with ⟨rfl, hbits⟩ | ⟨hn, hlo, hhi, hbits⟩
      · -- a one-byte sequence reads as the byte itself
        simp only [continuation, Prod.mk.injEq, Option.some.injEq] at hcont
        exact hb (UInt8.toNat_inj.1 (by rw [← hbits, hcont.1]; rfl))
      · -- the first continuation octet is shifted by six bits at least once more
        obtain ⟨m, rfl⟩ : ∃ m, n = m + 1 := ⟨n - 1, by omega⟩
        obtain ⟨c, cs, -, hclo, hchi, hnext⟩ := continuation_succ hcont
        rcases hbits with hbits | ⟨hm, hlo'⟩
        · have := continuation_acc_le hnext
          omega
        · obtain ⟨k, rfl⟩ : ∃ k, m = k + 1 := ⟨m - 1, by omega⟩
          obtain ⟨d, ds, -, -, -, hlast⟩ := continuation_succ hnext
          have := continuation_acc_le hlast
          omega

theorem lossy_toList (bs : Bytes) : (lossy bs).toList = (pieces bs).map (·.getD '�') :=
  String.toList_ofList

/-- Dropping the space bytes in front of a byte string drops the spaces in front of its
text. -/
theorem lossy_dropWhile_space (bs : Bytes) :
    (lossy (bs.dropWhile (· = 32))).toList = (lossy bs).toList.dropWhile (· = ' ') := by
  induction bs with
  | nil => simp [lossy_toList, pieces]
  | cons b bs ih =>
    by_cases hb : b = 32
    · subst hb
      rw [List.dropWhile_cons_of_pos (by decide), ih, lossy_toList (32 :: bs), pieces_space,
        List.map_cons, List.dropWhile_cons_of_pos (by decide), lossy_toList]
    · rw [List.dropWhile_cons_of_neg (by simpa using hb), lossy_toList, pieces, List.map_cons,
        List.dropWhile_cons_of_neg (by simpa using scalarStep_char_ne_space hb bs)]

/-! Bytes followed by bytes that start with an ASCII byte read as they read alone: no
continuation octet takes an ASCII byte, so every sequence in front ends where it ended, and
one cut short is still cut short. -/

theorem continuation_append {n lo hi acc : Nat} {bs q : Bytes} (hlo : n = 0 ∨ 0x80 ≤ lo)
    (hq : ∀ x ∈ q.head?, x.toNat < 0x80) :
    continuation n lo hi acc (bs ++ q) =
      ((continuation n lo hi acc bs).1, (continuation n lo hi acc bs).2 ++ q) := by
  induction n generalizing lo hi acc bs with
  | zero => rfl
  | succ n ih =>
    have hlo : 0x80 ≤ lo := hlo.resolve_left (Nat.succ_ne_zero n)
    cases bs with
    | nil =>
      cases q with
      | nil => rfl
      | cons x q =>
        -- the sequence runs into an ASCII byte, which no continuation range holds
        have hx := hq x rfl
        have hout : ¬(lo ≤ x.toNat ∧ x.toNat ≤ hi) := fun h => by omega
        simp [continuation, hout]
    | cons x bs =>
      simp only [List.cons_append, continuation]
      split
      · exact ih (.inr (Nat.le_refl _))
      · rfl

theorem scalarStep_append (b : UInt8) (rest : Bytes) {q : Bytes}
    (hq : ∀ x ∈ q.head?, x.toNat < 0x80) :
    scalarStep b (rest ++ q) = ((scalarStep b rest).1, (scalarStep b rest).2 ++ q) := by
  unfold scalarStep
  split
  · rfl
  · next n lo hi bits hshape =>
    have hlo : n = 0 ∨ 0x80 ≤ lo := by
      rcases scalarShape_cases hshape with h | h
      · exact .inl h.1
      · exact .inr h.2.1
    rw [continuation_append hlo hq]

/-- **Bytes in front of an ASCII byte read on their own.** -/
theorem pieces_append (p : Bytes) {q : Bytes} (hq : ∀ x ∈ q.head?, x.toNat < 0x80) :
    pieces (p ++ q) = pieces p ++ pieces q := by
  fun_induction pieces p with
  | case1 => rw [List.nil_append, List.nil_append]
  | case2 b rest _ ih =>
    rw [List.cons_append, pieces, scalarStep_append b rest hq, ih, List.cons_append]

theorem toText?_isSome_iff (bs : Bytes) : (toText? bs).isSome ↔ ∀ x ∈ pieces bs, x.isSome := by
  rw [toText?, Option.isSome_map]
  induction pieces bs with
  | nil => simp
  | cons x xs ih =>
    cases x with
    | none => simp [List.mapM_cons]
    | some v => cases h : List.mapM id xs <;> simp_all [List.mapM_cons]

/-- Space bytes after some bytes keep whether the bytes read as text. -/
theorem toText?_isSome_append_spaces (p : Bytes) {q : Bytes} (hq : ∀ x ∈ q, x = 32) :
    (toText? (p ++ q)).isSome = (toText? p).isSome := by
  -- every piece of the spaces is a space
  have hspaces : ∀ x ∈ pieces q, x.isSome := by
    induction q with
    | nil => simp [pieces]
    | cons y q ih =>
      rw [hq y List.mem_cons_self, pieces_space]
      intro x hx
      rcases List.mem_cons.1 hx with rfl | hx
      · rfl
      · exact ih (fun z hz => hq z (List.mem_cons_of_mem y hz)) x hx
  have hhead : ∀ x ∈ q.head?, x.toNat < 0x80 := fun x hx => by
    rw [hq x (List.mem_of_mem_head? hx)]
    decide
  rw [Bool.eq_iff_iff, toText?_isSome_iff, toText?_isSome_iff, pieces_append p hhead]
  simp only [List.mem_append]
  exact ⟨fun h x hx => h x (.inl hx), fun h x hx => hx.elim (h x) (hspaces x)⟩

end Utf8

/-! ## The kind of a value read -/

namespace ArgValue

theorem ofInt?_kind {k : ArgKind} {i : Int} {v : ArgValue} (h : ofInt? k i = some v) :
    v.kind = k := by
  unfold ofInt? at h
  split_ifs at h
  cases k <;> cases h <;> rfl

theorem readText_kind {k : ArgKind} {s : String} {v : ArgValue} (hk : k ≠ .custom)
    (h : readText k s = .ok v) : v.kind = k := by
  unfold readText at h
  -- one branch per kind: the floats, the flag, the texts, then the integers via `ofInt?`
  split at h
  · cases hf : readFloat .f32 .single s <;> simp [hf, Functor.map, Except.map] at h
    subst h; rfl
  · cases hf : readFloat .f64 .double s <;> simp [hf, Functor.map, Except.map] at h
    subst h; rfl
  · split at h
    · cases h; rfl
    · cases h
  · cases h; rfl
  · cases h; rfl
  · exact absurd rfl hk
  · split at h
    · cases h
    · cases h
    · split at h
      · cases h
        exact ofInt?_kind ‹_›
      · cases h

theorem read_kind {k : ArgKind} {t : Bytes} {v : ArgValue} (hk : k ≠ .custom)
    (h : read k t = .ok v) : v.kind = k := by
  unfold read at h
  split at h
  · cases h; rfl
  · split at h
    · cases h
    · exact readText_kind hk h

end ArgValue

/-! ## Skipping spaces -/

theorem Token.drop_leadingSpaces (bs : Bytes) :
    bs.drop (Token.leadingSpaces bs) = bs.dropWhile (· = Token.space) :=
  calc bs.drop (Token.leadingSpaces bs)
      = (bs.takeWhile (· = Token.space) ++ bs.dropWhile (· = Token.space)).drop
          (Token.leadingSpaces bs) := by rw [List.takeWhile_append_dropWhile]
    _ = bs.dropWhile (· = Token.space) := List.drop_left' rfl

theorem Token.leadingSpaces_dropWhile (bs : Bytes) :
    Token.leadingSpaces (bs.dropWhile (· = Token.space)) = 0 := by
  -- what the spaces leave starts with something else
  have hhead := List.head?_dropWhile_not (· = Token.space) bs
  unfold Token.leadingSpaces
  cases h : bs.dropWhile (· = Token.space) with
  | nil => rfl
  | cons x r =>
    rw [h] at hhead
    have hx : ¬x = Token.space := by simpa using hhead
    simp [hx]

namespace LineCursor

variable (c : LineCursor)

theorem restBytes_skipSpaces :
    c.skipSpaces.restBytes = c.restBytes.dropWhile (· = Token.space) := by
  rw [restBytes, skipSpaces_line, skipSpaces_pos, tokenStart, ← List.drop_drop]
  exact Token.drop_leadingSpaces c.restBytes

theorem tokenStart_skipSpaces : c.skipSpaces.tokenStart = c.tokenStart := by
  rw [tokenStart, restBytes_skipSpaces, Token.leadingSpaces_dropWhile, skipSpaces_pos]
  rfl

@[simp] theorem skipSpaces_skipSpaces : c.skipSpaces.skipSpaces = c.skipSpaces := by
  show { c.skipSpaces with pos := c.skipSpaces.tokenStart } = c.skipSpaces
  rw [tokenStart_skipSpaces]
  rfl

@[simp] theorem exhausted_skipSpaces : c.skipSpaces.exhausted = c.exhausted := by
  rw [exhausted, tokenStart_skipSpaces]
  rfl

/-- The bytes from a raw position within the line to the next token's start are spaces. -/
theorem take_tokenStart (h : c.pos ≤ c.line.length) :
    ∃ sp, c.line.take c.tokenStart = c.line.take c.pos ++ sp ∧ (∀ x ∈ sp, x = Token.space) ∧
      c.tokenStart ≤ c.line.length := by
  -- the spaces skipped are the longest run of spaces in front of the unconsumed bytes
  have hpre := List.takeWhile_prefix (fun x => decide (x = Token.space)) (l := c.restBytes)
  have htake : c.restBytes.take (Token.leadingSpaces c.restBytes) =
      c.restBytes.takeWhile (· = Token.space) :=
    (List.prefix_iff_eq_take.1 hpre).symm
  refine ⟨c.restBytes.takeWhile (· = Token.space), ?_, fun x hx => ?_, ?_⟩
  · rw [tokenStart, List.take_add, ← htake]
    rfl
  · simpa using List.all_eq_true.1 List.all_takeWhile x hx
  · have hle : Token.leadingSpaces c.restBytes ≤ c.restBytes.length := hpre.length_le
    have hlen : c.restBytes.length = c.line.length - c.pos := List.length_drop
    rw [tokenStart]
    omega

/-- Skipping spaces keeps whether the raw position is a character boundary. -/
theorem atBoundary_skipSpaces : c.skipSpaces.atBoundary = c.atBoundary := by
  by_cases h : c.pos ≤ c.line.length
  · obtain ⟨sp, htake, hsp, hle⟩ := c.take_tokenStart h
    simp only [atBoundary, skipSpaces_line, skipSpaces_pos, htake,
      Utf8.toText?_isSome_append_spaces _ hsp, h, hle, decide_true]
  · -- past the end of the line there are no spaces to skip
    have hstart : c.tokenStart = c.pos := by
      rw [tokenStart, restBytes, List.drop_eq_nil_of_le (by omega)]
      rfl
    show ({ c with pos := c.tokenStart } : LineCursor).atBoundary = c.atBoundary
    rw [hstart]

/-- Skipping spaces removes the spaces in front of the unconsumed text. -/
theorem rest_skipSpaces : c.skipSpaces.rest.toList = c.rest.toList.dropWhile (· = ' ') := by
  rw [rest, rest, atBoundary_skipSpaces]
  cases c.atBoundary with
  | false => rfl
  | true =>
    rw [if_pos rfl, if_pos rfl, restBytes_skipSpaces]
    exact Utf8.lossy_dropWhile_space c.restBytes

/-! ## Line requests that hand out nothing -/

/-- A value request that hands out no value either leaves the cursor as it was or only
moves it over the spaces in front of the next token. -/
theorem nextValue_fst_of_no_value (k : ArgKind) (r : Bool)
    (h : ∀ v, (c.nextValue k r).2 ≠ .ok (some v)) :
    (c.nextValue k r).1 = c ∨ (c.nextValue k r).1 = c.skipSpaces := by
  revert h
  simp only [nextValue]
  -- refused before the line is read: a custom kind, or the full rest already taken
  split
  · exact fun _ => .inl rfl
  split
  · exact fun _ => .inl rfl
  -- from here on the cursor stands at the next token
  split
  · exact fun _ => .inr rfl
  split
  · split
    · exact fun _ => .inr rfl
    · next out _ => exact fun h => absurd rfl (h (.full out))
  · split
    · exact fun _ => .inr rfl
    · split
      · exact fun _ => .inr rfl
      · next v _ => exact fun h => absurd rfl (h v)

/-- A custom request that hands out no value either leaves the cursor as it was or only
moves it over the spaces in front of the next token. -/
theorem nextCustom_fst_of_no_value (name : String) (r : Bool)
    (h : ∀ v, (c.nextCustom name r).2 ≠ .ok (some v)) :
    (c.nextCustom name r).1 = c ∨ (c.nextCustom name r).1 = c.skipSpaces := by
  revert h
  simp only [nextCustom]
  -- refused before the line is read: an unknown name, or the full rest already taken
  split
  · exact fun _ => .inl rfl
  split
  · exact fun _ => .inl rfl
  split
  · exact fun _ => .inr rfl
  split
  · exact fun _ => .inr rfl
  split
  · exact fun _ => .inr rfl
  · next v _ => exact fun h => absurd rfl (h v)

/-- A value handed out by a line cursor has the requested kind. -/
theorem nextValue_kind {k : ArgKind} {r : Bool} {v : ArgValue}
    (h : (c.nextValue k r).2 = .ok (some v)) : v.kind = k := by
  revert h
  simp only [nextValue]
  split
  · intro h; cases h
  split
  · intro h; cases h
  split
  · unfold missing
    split <;> intro h <;> cases h
  split
  · next hfull =>
    split
    · intro h; cases h
    · intro h; cases h; exact hfull.symm
  · split
    · intro h; cases h
    · split
      · intro h; cases h
      · next v' hread =>
        intro h
        cases h
        exact ArgValue.read_kind ‹¬k = .custom› hread

end LineCursor

/-! ## Cursors alike up to the spaces in front -/

namespace LineCursor

/-- Cursors that agree once the spaces in front are skipped agree on everything that skipping
spaces keeps. -/
theorem congr_skipSpaces {α : Type} (f : LineCursor → α)
    (hf : ∀ c : LineCursor, f c.skipSpaces = f c) {c d : LineCursor}
    (h : c.skipSpaces = d.skipSpaces) : f c = f d := by
  rw [← hf c, h, hf d]

/-- Cursors that agree once the spaces in front are skipped answer a value request alike,
and agree again afterwards once the spaces in front are skipped. -/
theorem nextValue_alike {c d : LineCursor} (h : c.skipSpaces = d.skipSpaces) (k : ArgKind)
    (r : Bool) : (c.nextValue k r).2 = (d.nextValue k r).2 ∧
      (c.nextValue k r).1.skipSpaces = (d.nextValue k r).1.skipSpaces := by
  have hrem := congr_skipSpaces remainderTaken (fun _ => rfl) h
  by_cases hk : k = .custom
  · simp [nextValue, hk, h]
  by_cases hr : d.remainderTaken
  · simp [nextValue, hk, hr, hrem, h]
  · -- past the two refusals both requests work on the same skipped cursor
    simp only [nextValue, hk, hrem, hr, h]
    exact ⟨rfl, rfl⟩

/-- Cursors that agree once the spaces in front are skipped answer a custom request alike,
and agree again afterwards once the spaces in front are skipped. -/
theorem nextCustom_alike {c d : LineCursor} (h : c.skipSpaces = d.skipSpaces) (name : String)
    (r : Bool) : (c.nextCustom name r).2 = (d.nextCustom name r).2 ∧
      (c.nextCustom name r).1.skipSpaces = (d.nextCustom name r).1.skipSpaces := by
  have hrem := congr_skipSpaces remainderTaken (fun _ => rfl) h
  have htypes := congr_skipSpaces types (fun _ => rfl) h
  -- skipping spaces keeps the table, so both cursors know the name or neither does
  cases hp : d.types.bind (·.find? name) with
  | none => simp [nextCustom, htypes, hp, h]
  | some parser =>
    by_cases hr : d.remainderTaken
    · simp [nextCustom, htypes, hp, hr, hrem, h]
    · simp only [nextCustom, htypes, hp, hrem, hr, h]
      exact ⟨rfl, rfl⟩

end LineCursor

namespace Cursor

/-- Whether the full rest was taken, after which every request fails. -/
def remainderTaken : Cursor → Bool
  | .line c => c.remainderTaken
  | .queue q => q.remainderTaken

/-- Two cursors that answer every run of requests alike: line cursors that agree once the
spaces in front are skipped, or equal queues. -/
def Alike : Cursor → Cursor → Prop
  | .line c, .line d => c.skipSpaces = d.skipSpaces
  | .queue q, .queue p => q = p
  | _, _ => False

theorem Alike.refl (c : Cursor) : c.Alike c := by
  cases c with
  | line c => exact (rfl : c.skipSpaces = c.skipSpaces)
  | queue q => exact (rfl : q = q)

section Alike

variable {c d : Cursor}

theorem Alike.argumentPosition (h : c.Alike d) : c.argumentPosition = d.argumentPosition := by
  cases c <;> cases d <;> simp only [Alike] at h
  · exact LineCursor.congr_skipSpaces LineCursor.argPos (fun _ => rfl) h
  · rw [h]

theorem Alike.exhausted (h : c.Alike d) : c.exhausted = d.exhausted := by
  cases c <;> cases d <;> simp only [Alike] at h
  · exact LineCursor.congr_skipSpaces LineCursor.exhausted LineCursor.exhausted_skipSpaces h
  · rw [h]

theorem Alike.remainderTaken (h : c.Alike d) : c.remainderTaken = d.remainderTaken := by
  cases c <;> cases d <;> simp only [Alike] at h
  · exact LineCursor.congr_skipSpaces LineCursor.remainderTaken (fun _ => rfl) h
  · rw [h]

theorem Alike.nextValue (h : c.Alike d) (k : ArgKind) (r : Bool) :
    (c.nextValue k r).2 = (d.nextValue k r).2 ∧
      (c.nextValue k r).1.Alike (d.nextValue k r).1 := by
  cases c <;> cases d <;> simp only [Alike] at h
  · next c d => exact LineCursor.nextValue_alike h k r
  · subst h
    exact ⟨rfl, Alike.refl _⟩

theorem Alike.nextCustom (h : c.Alike d) (name : String) (r : Bool) :
    (c.nextCustom name r).2 = (d.nextCustom name r).2 ∧
      (c.nextCustom name r).1.Alike (d.nextCustom name r).1 := by
  cases c <;> cases d <;> simp only [Alike] at h
  · next c d => exact LineCursor.nextCustom_alike h name r
  · subst h
    exact ⟨rfl, Alike.refl _⟩

end Alike

variable (c : Cursor)

theorem read_fst (shape : Shape) (r : Bool) :
    (c.read shape r).1 = (c.nextValue shape.kind r).1 := by
  -- a read presents the value afterwards; the cursor is the one the value request left
  unfold read
  cases c.nextValue shape.kind r with
  | mk c' a =>
    dsimp only
    split
    · rfl
    · rfl
    · split <;> rfl

theorem read_snd_congr {c d : Cursor} {shape : Shape} {r : Bool}
    (h : (c.nextValue shape.kind r).2 = (d.nextValue shape.kind r).2) :
    (c.read shape r).2 = (d.read shape r).2 := by
  unfold read
  revert h
  cases c.nextValue shape.kind r with
  | mk c' a =>
  cases d.nextValue shape.kind r with
  | mk d' b =>
    rintro (rfl : a = b)
    dsimp only
    split
    · rfl
    · rfl
    · split <;> rfl

/-- **One request keeps cursors alike**: alike cursors give the same answer and are left
alike. -/
theorem Alike.answer {c d : Cursor} (h : c.Alike d) (p : Request) :
    (c.answer p).2 = (d.answer p).2 ∧ (c.answer p).1.Alike (d.answer p).1 := by
  cases p with
  | read shape r =>
    obtain ⟨ha, hc⟩ := h.nextValue shape.kind r
    refine ⟨?_, ?_⟩
    · show (c.read shape r).2.map _ = (d.read shape r).2.map _
      rw [read_snd_congr ha]
    · show (c.read shape r).1.Alike (d.read shape r).1
      rw [read_fst, read_fst]
      exact hc
  | value k r =>
    obtain ⟨ha, hc⟩ := h.nextValue k r
    exact ⟨by simp only [Cursor.answer, ha], hc⟩
  | custom name r =>
    obtain ⟨ha, hc⟩ := h.nextCustom name r
    exact ⟨by simp only [Cursor.answer, ha], hc⟩
  | finish =>
    -- finishing reads exhaustion only and moves nothing
    refine ⟨?_, h⟩
    simp only [Cursor.answer, finish, h.exhausted]

/-- **Alike cursors answer every run of requests alike.** -/
theorem Alike.serve {c d : Cursor} (h : c.Alike d) (ps : List Request) :
    (c.serve ps).1 = (d.serve ps).1 := by
  -- induction on the run: after each request the two cursors are alike again
  induction ps generalizing c d with
  | nil => rfl
  | cons p ps ih =>
    obtain ⟨ha, hc⟩ := h.answer p
    simp only [serve_cons, ha, hc.argumentPosition, hc.exhausted, ih hc]

end Cursor

/-! ## Requests that hand out nothing -/

namespace ValueQueue

variable (q : ValueQueue)

theorem pop_mem {k : ArgKind} {v : ArgValue} {q' : ValueQueue} (h : q.pop k = some (v, q')) :
    v ∈ q.lane k := by
  unfold pop at h
  split at h
  · next hl =>
    cases h
    rw [hl]
    exact List.mem_cons_self ..
  · cases h

/-- A value handed out by a queue has the requested kind. -/
theorem nextValue_kind {k : ArgKind} {r : Bool} {v : ArgValue}
    (h : (q.nextValue k r).2 = .ok (some v)) : v.kind = k := by
  revert h
  simp only [nextValue]
  split
  · intro h; cases h
  split
  · intro h; cases h
  split
  · unfold missing
    split <;> intro h <;> cases h
  split
  · unfold missing
    split <;> intro h <;> cases h
  · next v' q' hpop => intro h; cases h; exact q.kind_of_mem_lane (q.pop_mem hpop)

end ValueQueue

namespace Shape

/-- Whether a command can ask for a read in this shape: an integer shape names one of the
eight integer kinds. -/
def wellTyped : Shape → Bool
  | .integer k => k.isInteger
  | _ => true

/-- A value of a well-typed shape's kind fits the shape. -/
theorem present_isSome {s : Shape} (hs : s.wellTyped = true) {v : ArgValue}
    (hv : v.kind = s.kind) : (s.present v).isSome = true := by
  cases s with
  | integer k =>
    simp only [kind] at hv
    simp only [present, hv, if_true, Option.isSome_map]
    subst hv
    cases v <;> simp_all [wellTyped, ArgKind.isInteger, ArgValue.kind, ArgValue.toInt?]
  | _ => cases v <;> simp_all [present, kind, ArgValue.kind]

end Shape

/-- Whether a command can make this request: a read names a well-typed shape. -/
def Request.wellTyped : Request → Bool
  | .read shape _ => shape.wellTyped
  | _ => true

namespace Cursor

variable (c : Cursor)

theorem nextValue_kind {k : ArgKind} {r : Bool} {v : ArgValue}
    (h : (c.nextValue k r).2 = .ok (some v)) : v.kind = k := by
  cases c with
  | line l => exact l.nextValue_kind h
  | queue q => exact q.nextValue_kind h

/-- A request that hands out no value leaves the cursor as it was, or moves a line cursor
over the spaces in front of the next token. -/
theorem nextValue_fst_of_no_value (k : ArgKind) (r : Bool)
    (h : ∀ v, (c.nextValue k r).2 ≠ .ok (some v)) :
    (c.nextValue k r).1 = c ∨
      ∃ l, c = .line l ∧ (c.nextValue k r).1 = .line l.skipSpaces := by
  cases c with
  | line l =>
    rcases l.nextValue_fst_of_no_value k r h with e | e
    · exact .inl (congrArg Cursor.line e)
    · exact .inr ⟨l, rfl, congrArg Cursor.line e⟩
  | queue q => exact .inl (congrArg Cursor.queue (q.nextValue_fst_of_no_value k r h))

theorem nextCustom_fst_of_no_value (name : String) (r : Bool)
    (h : ∀ v, (c.nextCustom name r).2 ≠ .ok (some v)) :
    (c.nextCustom name r).1 = c ∨
      ∃ l, c = .line l ∧ (c.nextCustom name r).1 = .line l.skipSpaces := by
  cases c with
  | line l =>
    rcases l.nextCustom_fst_of_no_value name r h with e | e
    · exact .inl (congrArg Cursor.line e)
    · exact .inr ⟨l, rfl, congrArg Cursor.line e⟩
  | queue q => exact .inl (congrArg Cursor.queue (q.nextCustom_fst_of_no_value name r h))

/-- An answer built from a result that handed out a value is neither nothing nor an error. -/
theorem no_value_of_answer {α : Type} {f : α → Answer} (hf : ∀ v, f v ≠ .nothing)
    {x : Except CommandError (Option α)}
    (h : x.map (fun o => (o.map f).getD .nothing) = .ok .nothing ∨
      ∃ e, x.map (fun o => (o.map f).getD .nothing) = .error e) :
    ∀ v, x ≠ .ok (some v) := by
  rintro v rfl
  rcases h with h | ⟨e, h⟩
  · exact hf v (by simpa [Except.map] using h)
  · simp [Except.map] at h

/-- A request that hands out nothing leaves the cursor as it was, or moves a line cursor over
the spaces in front of the next token. -/
theorem answer_fst_of_no_value (p : Request) (hp : p.wellTyped = true)
    (h : (c.answer p).2 = .ok .nothing ∨ ∃ e, (c.answer p).2 = .error e) :
    (c.answer p).1 = c ∨ ∃ l, c = .line l ∧ (c.answer p).1 = .line l.skipSpaces := by
  cases p with
  | read shape r =>
    show (c.read shape r).1 = c ∨ ∃ l, c = .line l ∧ (c.read shape r).1 = .line l.skipSpaces
    rw [read_fst]
    apply nextValue_fst_of_no_value
    have hnone : ∀ q, (c.read shape r).2 ≠ .ok (some q) :=
      no_value_of_answer (fun _ h => Answer.noConfusion h) h
    -- a value taken by a read has the shape's kind, so the read presents it
    intro v hv
    obtain ⟨q, hq⟩ := Option.isSome_iff_exists.1
      (Shape.present_isSome hp (c.nextValue_kind hv))
    apply hnone q
    unfold read
    revert hv
    cases c.nextValue shape.kind r with
    | mk c' a =>
      rintro (rfl : a = .ok (some v))
      simp [hq]
  | value k r =>
    exact nextValue_fst_of_no_value c k r (no_value_of_answer (fun _ h => Answer.noConfusion h) h)
  | custom name r =>
    exact nextCustom_fst_of_no_value c name r
      (no_value_of_answer (fun _ h => Answer.noConfusion h) h)
  | finish => exact .inl rfl

/-- A request that hands out nothing leaves a cursor alike to the one it found. -/
theorem answer_alike_of_no_value (p : Request) (hp : p.wellTyped = true)
    (h : (c.answer p).2 = .ok .nothing ∨ ∃ e, (c.answer p).2 = .error e) :
    (c.answer p).1.Alike c := by
  rcases c.answer_fst_of_no_value p hp h with e | ⟨l, rfl, e⟩
  · rw [e]
    exact Alike.refl c
  · -- skipping the spaces twice is skipping them once
    rw [e]
    exact LineCursor.skipSpaces_skipSpaces l

/-- A step from `c` to `c'` that a command cannot observe: the argument count, exhaustion and
the remainder flag are kept, every later run of requests is answered as from `c`, a queue
is left as it was, and a line cursor is left as it was or moved over the spaces in front of
the next token, its unconsumed text losing exactly its leading spaces. -/
structure NoOp (c c' : Cursor) : Prop where
  argumentPosition : c'.argumentPosition = c.argumentPosition
  exhausted : c'.exhausted = c.exhausted
  remainderTaken : c'.remainderTaken = c.remainderTaken
  serve : ∀ ps, (c'.serve ps).1 = (c.serve ps).1
  queue : ∀ q, c = .queue q → c' = c
  line : ∀ l, c = .line l → c' = c ∨
    (c' = .line l.skipSpaces ∧ c'.rest.toList = c.rest.toList.dropWhile (· = ' '))

end Cursor

/-- **A request that hands out nothing is a no-op.** On a line cursor or a value queue, in any
state, a request a command can make that fails or finds nothing leaves the cursor so that
no later observation tells it apart from the cursor before the request. -/
theorem failed_request_is_noop (c : Cursor) (p : Request) (hp : p.wellTyped = true)
    (hfail : (c.answer p).2 = .ok .nothing ∨ ∃ e, (c.answer p).2 = .error e) :
    c.NoOp (c.answer p).1 := by
  have hstep := c.answer_fst_of_no_value p hp hfail
  have halike := c.answer_alike_of_no_value p hp hfail
  refine ⟨halike.argumentPosition, halike.exhausted, halike.remainderTaken, halike.serve,
    ?_, ?_⟩
  · -- only a line cursor skips spaces
    rintro q rfl
    rcases hstep with e | ⟨l, hl, -⟩
    · exact e
    · cases hl
  · rintro l rfl
    rcases hstep with e | ⟨l', hl, e⟩
    · exact .inl e
    · cases hl
      exact .inr ⟨e, by rw [e]; exact l.rest_skipSpaces⟩

/-- Two spaces and an unclosed quote: the text request fails, having skipped the spaces. -/
theorem failed_request_is_noop_unclosed :
    (Request.value .text true).wellTyped = true ∧
      (((Cursor.line { line := [32, 32, 34, 97] }).answer (.value .text true)).2 = .ok .nothing ∨
        ∃ e, ((Cursor.line { line := [32, 32, 34, 97] }).answer (.value .text true)).2 =
          .error e) ∧
      (Cursor.line { line := [32, 32, 34, 97] }).NoOp
        ((Cursor.line { line := [32, 32, 34, 97] }).answer (.value .text true)).1 :=
  ⟨rfl, .inr ⟨.unclosedQuote 2, rfl⟩,
    failed_request_is_noop _ _ rfl (.inr ⟨.unclosedQuote 2, rfl⟩)⟩

/-- On the line ` x`, a custom value asked for by the generic route is refused before the
line is read: the space in front of the next token stays, so the unconsumed text keeps its
leading space. -/
theorem custom_value_request_keeps_spaces :
    ((Cursor.line { line := [32, 120] }).answer (.value .custom true)).2 =
        .error (.unknownCustomType "") ∧
      ((Cursor.line { line := [32, 120] }).answer (.value .custom true)).1.rest.toList ≠
        (Cursor.line { line := [32, 120] }).rest.toList.dropWhile (· = ' ') := by
  have hb : ({ line := [32, 120] } : LineCursor).atBoundary = true := by
    simp [LineCursor.atBoundary, Utf8.toText?, Utf8.pieces]
  have hrest : (Cursor.line { line := [32, 120] }).rest.toList = [' ', 'x'] := by
    show (if ({ line := [32, 120] } : LineCursor).atBoundary then Utf8.lossy [32, 120]
      else "").toList = _
    rw [if_pos hb]
    show (Utf8.lossy [32, 120]).toList = _
    rw [Utf8.lossy_toList, Utf8.pieces_space, Utf8.pieces,
      show Utf8.scalarStep 120 [] = (some 'x', []) from rfl, Utf8.pieces]
    rfl
  refine ⟨rfl, ?_⟩
  rw [show ((Cursor.line { line := [32, 120] }).answer (.value .custom true)).1 =
    Cursor.line { line := [32, 120] } from rfl, hrest]
  decide

end LineCommands
