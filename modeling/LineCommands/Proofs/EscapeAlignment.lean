import LineCommands.Proofs.TokenScan
/-!
# The scanners and the decoder meet the same escapes

The token scanners walk a token in units: a backslash they meet is taken together with the
byte after it, and they move on by two. The decoder walks it in pieces: a backslash is taken
together with a whole escape form, which spans one, three or five bytes after it. The two walks
still meet the same backslashes, because every byte of a form after its first is a digit: never
a backslash, so the scanners pass over it one byte at a time and arrive where the decoder
does. They part only at a backslash that starts no escape form, where the decoder stops.

An *escape start* of a byte string is a backslash after whole units (`Token.EscapeStart`), and
an escape the decoder *meets* is a backslash after whole pieces (`Escape.MeetsEscape`): by
`Escape.Pieces.unescapeAt` the decoder passes over whole pieces and arrives there.

## What this module delivers

- `Token.escapeStart_cons_succ`, `Token.escapeStart_append_units`,
  `Token.escapeStart_append_of_digits` and `Escape.Form.escapeStart_after`: the escape starts
  after a byte, after units, after digits and after a whole escape form.
- `Escape.meetsEscape_iff`: the decoder meets exactly the escape starts up to the first one
  that starts no escape form.
- `Escape.Form.length_le_of_end`: a form read at an escape start of a token ends inside the
  token when the byte after the token is below the digits.
- `Token.scanners_align_with_decoder`: the main statement, for both scanners.
-/

namespace LineCommands

namespace Token

/-- A backslash after whole scanner units: a scanner takes it together with the byte after it. -/
def EscapeStart (bs : Bytes) (i : Nat) : Prop :=
  Units (fun _ => True) (bs.take i) ∧ bs[i]? = some Escape.backslash

/-- Bytes none of which is a backslash are cut into one-byte units. -/
theorem Units.of_forall_ne {ds : Bytes} (h : ∀ x ∈ ds, x ≠ Escape.backslash) :
    Units (fun _ => True) ds := by
  induction ds with
  | nil => exact .nil
  | cons x ds ih =>
    rw [List.forall_mem_cons] at h
    exact .plain h.1 trivial (ih h.2)

/-- After whole units the escape starts are those of the bytes that follow. -/
theorem escapeStart_append_units {ok : UInt8 → Prop} {pre : Bytes} (hu : Units ok pre)
    (bs : Bytes) (i : Nat) : EscapeStart (pre ++ bs) (pre.length + i) ↔ EscapeStart bs i := by
  unfold EscapeStart
  rw [List.take_length_add_append, List.getElem?_append_right (by omega), Nat.add_sub_cancel_left]
  exact and_congr_left' ⟨hu.of_append, (hu.mono fun _ _ => trivial).append⟩

/-- A byte other than the backslash is one unit of its own. -/
theorem escapeStart_cons_succ {b : UInt8} (hb : b ≠ Escape.backslash) (bs : Bytes) (i : Nat) :
    EscapeStart (b :: bs) (i + 1) ↔ EscapeStart bs i := by
  have hunit : Units (fun _ => True) [b] := .plain hb trivial .nil
  rw [Nat.add_comm]
  exact escapeStart_append_units hunit bs i

theorem escapeStart_zero_iff {bs : Bytes} :
    EscapeStart bs 0 ↔ bs.head? = some Escape.backslash := by
  simp [EscapeStart, Units.nil, List.head?_eq_getElem?]

/-- The byte after a backslash starts no unit. -/
theorem not_escapeStart_one (bs : Bytes) : ¬EscapeStart (Escape.backslash :: bs) 1 := by
  have hnil : Units (fun _ => True) [] := .nil
  exact fun h => hnil.not_append_backslash h.1

/-- Digits are passed one byte at a time: an escape start after them is one of the bytes
that follow. -/
theorem escapeStart_append_of_digits {ds : Bytes} (hds : ∀ x ∈ ds, x ≠ Escape.backslash)
    {r : Bytes} {i : Nat} (h : EscapeStart (ds ++ r) i) :
    ∃ k, i = ds.length + k ∧ EscapeStart r k := by
  have hle : ds.length ≤ i := by
    refine Nat.le_of_not_lt fun hlt => ?_
    have hb := h.2
    rw [List.getElem?_append_left hlt] at hb
    exact hds _ (List.mem_of_getElem? hb) rfl
  obtain ⟨k, rfl⟩ := Nat.exists_eq_add_of_le hle
  exact ⟨k, rfl, (escapeStart_append_units (Units.of_forall_ne hds) r k).1 h⟩

/-- A scanner takes the byte after an escape start along, so in bytes cut into units an
escape start is followed by at least one more byte. -/
theorem EscapeStart.add_two_le {ok : UInt8 → Prop} {bs : Bytes} {i : Nat}
    (h : EscapeStart bs i) (hu : Units ok bs) : i + 2 ≤ bs.length := by
  obtain ⟨hlt, hget⟩ := List.getElem?_eq_some_iff.1 h.2
  have hdrop : bs.drop i = Escape.backslash :: bs.drop (i + 1) := by
    rw [List.drop_eq_getElem_cons hlt, hget]
  have htail : Units ok (bs.drop i) :=
    (h.1.mono fun _ _ => trivial).of_append (by rw [List.take_append_drop]; exact hu)
  rw [hdrop] at htail
  rcases hd : bs.drop (i + 1) with _ | ⟨x, t⟩
  · -- a backslash alone is no unit, so a byte follows it
    rw [hd] at htail
    cases htail with
    | plain hb => exact absurd rfl hb
  · have hlen := congrArg List.length hd
    simp only [List.length_drop, List.length_cons] at hlen
    omega

end Token

namespace Escape

open Token (EscapeStart)

/-- A backslash after whole pieces: the decoder arrives at it and reads an escape there. -/
def MeetsEscape (bs : Bytes) (i : Nat) : Prop :=
  (∃ d, Pieces (bs.take i) d) ∧ bs[i]? = some backslash

/-- An escape form after the backslash at `i`. -/
def FormAt (bs : Bytes) (i : Nat) : Prop :=
  ∃ f d r, bs.drop (i + 1) = f ++ r ∧ Form f d

theorem formAt_cons_succ (b : UInt8) (bs : Bytes) (i : Nat) :
    FormAt (b :: bs) (i + 1) ↔ FormAt bs i := Iff.rfl

theorem formAt_append (pre bs : Bytes) (i : Nat) :
    FormAt (pre ++ bs) (pre.length + i) ↔ FormAt bs i := by
  unfold FormAt
  rw [Nat.add_assoc, List.drop_length_add_append]

/-- Every byte of an escape form after the first is a digit: not below `0`, and not a
backslash. -/
theorem Form.cons_digits {f d : Bytes} (h : Form f d) :
    ∃ c ds, f = c :: ds ∧ ∀ x ∈ ds, 48 ≤ x.toNat ∧ x ≠ backslash := by
  cases h with
  | letter _ => exact ⟨_, [], rfl, by simp⟩
  | hex hh hl =>
    refine ⟨_, _, rfl, ?_⟩
    simp only [List.forall_mem_cons, List.not_mem_nil, false_imp_iff, imp_true_iff, and_true]
    exact ⟨⟨hh.toNat_range.1, hh.ne_backslash⟩, hl.toNat_range.1, hl.ne_backslash⟩
  | unicode _ h₁ h₂ h₃ h₄ =>
    refine ⟨_, _, rfl, ?_⟩
    simp only [List.forall_mem_cons, List.not_mem_nil, false_imp_iff, imp_true_iff, and_true]
    exact ⟨⟨h₁.toNat_range.1, h₁.ne_backslash⟩, ⟨h₂.toNat_range.1, h₂.ne_backslash⟩,
      ⟨h₃.toNat_range.1, h₃.ne_backslash⟩, h₄.toNat_range.1, h₄.ne_backslash⟩
  | octal _ hy hz =>
    refine ⟨_, _, rfl, ?_⟩
    simp only [List.forall_mem_cons, List.not_mem_nil, false_imp_iff, imp_true_iff, and_true]
    exact ⟨⟨hy.toNat_range.1, hy.ne_backslash⟩, hz.toNat_range.1, hz.ne_backslash⟩

/-- **After a backslash and its form, the next escape start is past the form**: the scanners
take the letter with the backslash and pass the digits one by one. -/
theorem Form.escapeStart_after {f d : Bytes} (hf : Form f d) {r : Bytes} {i : Nat}
    (h : EscapeStart (backslash :: f ++ r) i) (hi : 0 < i) :
    ∃ k, i = f.length + 1 + k ∧ EscapeStart r k := by
  obtain ⟨c, ds, rfl, hds⟩ := hf.cons_digits
  match i, h with
  | 1, h => exact absurd h (Token.not_escapeStart_one _)
  | i + 2, h =>
    have h' : EscapeStart (ds ++ r) i := by
      have hunit : Token.Units (fun _ => True) [backslash, c] := .escaped c .nil
      refine (Token.escapeStart_append_units hunit (ds ++ r) i).1 ?_
      show EscapeStart (backslash :: c :: ds ++ r) (2 + i)
      rwa [Nat.add_comm]
    obtain ⟨k, rfl, hk⟩ := Token.escapeStart_append_of_digits (fun x hx => (hds x hx).2) h'
    exact ⟨k, by simp only [List.length_cons]; omega, hk⟩

/-- The escape starts of the bytes after whole units, each with a form after it, when every
escape start of the whole is. -/
theorem formAt_shift {ok : UInt8 → Prop} {pre r : Bytes} (hu : Token.Units ok pre) {k : Nat}
    (h : ∀ j < pre.length + k, EscapeStart (pre ++ r) j → FormAt (pre ++ r) j) :
    ∀ j < k, EscapeStart r j → FormAt r j := fun j hj hs =>
  (formAt_append pre r j).1
    (h _ (by omega) ((Token.escapeStart_append_units hu r j).2 hs))

/-- **Inside whole pieces every escape start is a piece**: a scanner's escape start that the
decoder passes over starts an escape form. -/
theorem Pieces.formAt_of_escapeStart {s d : Bytes} (h : Pieces s d) (t : Bytes) {j : Nat}
    (hj : j < s.length) (he : EscapeStart (s ++ t) j) : FormAt (s ++ t) j := by
  induction h generalizing j with
  | nil => simp at hj
  | @cons u d' s' out hu _ ih =>
    rw [List.append_assoc] at he ⊢
    cases hu with
    | @plain b hb =>
      cases j with
      | zero => simp [EscapeStart, hb] at he
      | succ j =>
        have hj' : j < s'.length := by simp at hj; omega
        exact (formAt_cons_succ b _ j).2 (ih hj' ((Token.escapeStart_cons_succ hb _ j).1 he))
    | @escape f _ hf =>
      rcases Nat.eq_zero_or_pos j with rfl | hpos
      · exact ⟨f, d', s' ++ t, by simp, hf⟩
      · -- past the letter the scanners pass the digits of the form, and meet the next piece
        obtain ⟨k, rfl, hk⟩ := hf.escapeStart_after (by simpa using he) hpos
        have hk' : k < s'.length := by simp at hj; omega
        have hform := (formAt_append (backslash :: f) _ k).2 (ih hk' hk)
        simpa [Nat.add_comm] using hform

/-- **Escape starts each with a form after it are passed in whole pieces**: up to an escape
start, when every escape start before it starts an escape form, the bytes are pieces. -/
theorem pieces_of_escapeStarts (i : Nat) :
    ∀ bs : Bytes, EscapeStart bs i → (∀ j < i, EscapeStart bs j → FormAt bs j) →
      ∃ d, Pieces (bs.take i) d := by
  -- by strong induction on the index, one unit or one piece at a time
  induction i using Nat.strongRecOn with
  | ind i ih =>
  intro bs he hforms
  rcases Nat.eq_zero_or_pos i with rfl | hpos
  · exact ⟨[], by simpa using Pieces.nil⟩
  cases bs with
  | nil => simp [EscapeStart] at he
  | cons b bs =>
    by_cases hb : b = backslash
    · subst hb
      obtain ⟨f, d, r, hr, hf⟩ := hforms 0 hpos (Token.escapeStart_zero_iff.2 rfl)
      rw [List.drop_succ_cons, List.drop_zero] at hr
      subst hr
      have hsplit : backslash :: (f ++ r) = (backslash :: f) ++ r := rfl
      rw [hsplit] at he hforms ⊢
      obtain ⟨k, rfl, hk⟩ := hf.escapeStart_after he hpos
      obtain ⟨d', hd'⟩ := ih k (by omega) r hk (formAt_shift hf.units hforms)
      refine ⟨d ++ d', ?_⟩
      rw [show f.length + 1 + k = (backslash :: f).length + k by simp, List.take_length_add_append]
      exact .cons (.escape hf) hd'
    · obtain ⟨i, rfl⟩ : ∃ i', i = i' + 1 := ⟨i - 1, by omega⟩
      obtain ⟨d, hd⟩ := ih i (by omega) bs ((Token.escapeStart_cons_succ hb bs i).1 he)
        fun j hj hs => (formAt_cons_succ b bs j).1
          (hforms (j + 1) (by omega) ((Token.escapeStart_cons_succ hb bs j).2 hs))
      exact ⟨b :: d, .cons (u := [b]) (.plain hb) hd⟩

/-- **The decoder meets exactly the escape starts up to the first malformed one.** It meets
a backslash exactly when that backslash is an escape start and every escape start before it
starts an escape form. -/
theorem meetsEscape_iff (bs : Bytes) (i : Nat) :
    MeetsEscape bs i ↔ EscapeStart bs i ∧ ∀ j < i, EscapeStart bs j → FormAt bs j := by
  constructor
  · rintro ⟨⟨d, hp⟩, hb⟩
    refine ⟨⟨hp.units, hb⟩, fun j hj he => ?_⟩
    have hlen : (bs.take i).length = i := by
      simp only [List.length_take]
      have := (List.getElem?_eq_some_iff.1 hb).1
      omega
    rw [← List.take_append_drop i bs] at he ⊢
    exact hp.formAt_of_escapeStart _ (by omega) he
  · rintro ⟨he, hforms⟩
    exact ⟨pieces_of_escapeStarts i bs he hforms, he.2⟩

/-- **A form read at an escape start of a token ends inside the token**, when the byte after
the token, if any, is below the digits: the bytes of a form after its letter are digits, and
the letter is taken with the backslash. -/
theorem Form.length_le_of_end {ok : UInt8 → Prop} {bs : Bytes} {n i : Nat} {f d r : Bytes}
    (hu : Token.Units ok (bs.take n)) (hi : EscapeStart (bs.take n) i)
    (hend : ∀ e, bs[n]? = some e → e.toNat < 48) (hf : Form f d)
    (hsplit : bs.drop (i + 1) = f ++ r) : i + 1 + f.length ≤ n := by
  refine Nat.le_of_not_lt fun hlt => ?_
  obtain ⟨c, ds, rfl, hds⟩ := hf.cons_digits
  have hi2 : i + 2 ≤ n := by
    have := hi.add_two_le hu
    simp only [List.length_take] at this
    omega
  have hlen : i + 1 + (c :: ds).length ≤ bs.length := by
    have := congrArg List.length hsplit
    simp only [List.length_drop, List.length_append] at this
    omega
  -- the byte after the token would be a digit of the form
  have hget : bs[n]? = ds[n - (i + 2)]? := by
    have h := congrArg (·[n - (i + 1)]?) hsplit
    simp only [List.getElem?_drop] at h
    rw [show i + 1 + (n - (i + 1)) = n by omega] at h
    rw [h, show n - (i + 1) = (n - (i + 2)) + 1 by omega, List.cons_append,
      List.getElem?_cons_succ, List.getElem?_append_left (by simp at hlt; omega)]
  obtain ⟨e, he⟩ : ∃ e, ds[n - (i + 2)]? = some e :=
    Option.isSome_iff_exists.1 (by simp at hlt ⊢; omega)
  have hbelow := hend e (hget.trans he)
  have hdigit := (hds e (List.mem_of_getElem? he)).1
  omega

end Escape

namespace Token

/-- **Both scans delimit a body cut into units**, and the byte after it, if any, is a quote
or a space, below the digits. -/
theorem units_of_scan {bs : Bytes} {n : Nat}
    (hn : (∃ q, isQuote q = true ∧ quotedBody q bs = some n) ∨ bareLength bs = .ok n) :
    Units (fun _ => True) (bs.take n) ∧ ∀ e, bs[n]? = some e → e.toNat < 48 := by
  rcases hn with ⟨q, hq, h⟩ | h
  · obtain ⟨body, rest, rfl, rfl, hu⟩ := quotedBody_eq_some h
    refine ⟨by simpa using hu.mono fun _ _ => trivial, fun e he => ?_⟩
    simp only [List.getElem?_append_right (Nat.le_refl _), Nat.sub_self, List.getElem?_cons_zero,
      Option.some.injEq] at he
    subst he
    rcases isQuote_iff.1 hq with rfl | rfl <;> decide
  · obtain ⟨body, rest, rfl, rfl, hu, hrest⟩ := bareLength_eq_ok h
    refine ⟨by simpa using hu.mono fun _ _ => trivial, fun e he => ?_⟩
    rw [List.getElem?_append_right (Nat.le_refl _), Nat.sub_self, ← List.head?_eq_getElem?] at he
    rcases hrest with rfl | hsp
    · cases he
    · rw [hsp] at he
      cases he
      decide

/-- **The token scanners and the escape decoder agree on escape alignment.** On any bytes,
the decoder meets exactly the scanners' escape starts up to the first one that starts no
escape form. On the body that either scanner delimits, every escape form read at an escape
start ends inside the body, the decoder never stops at a backslash that ends its input, and
the body never ends in a backslash that starts a unit of its own. -/
theorem scanners_align_with_decoder (bs : Bytes) :
    (∀ i, Escape.MeetsEscape bs i ↔
      EscapeStart bs i ∧ ∀ j < i, EscapeStart bs j → Escape.FormAt bs j) ∧
    ∀ n, (∃ q, isQuote q = true ∧ quotedBody q bs = some n) ∨ bareLength bs = .ok n →
      (∀ i f d r, EscapeStart (bs.take n) i → bs.drop (i + 1) = f ++ r → Escape.Form f d →
        i + 1 + f.length ≤ n) ∧
      (∀ off p, Escape.unescapeAt off (bs.take n) ≠ .error (.unexpectedEscape p)) ∧
      ∀ pre, bs.take n = pre ++ [Escape.backslash] → ¬Units (fun _ => True) pre := by
  refine ⟨Escape.meetsEscape_iff bs, fun n hn => ?_⟩
  obtain ⟨hu, hend⟩ := units_of_scan hn
  refine ⟨fun i f d r hi hs hf => hf.length_le_of_end hu hi hend hs,
    hu.unescapeAt_ne_unexpectedEscape, fun pre hpre hpu => ?_⟩
  rw [hpre] at hu
  exact hpu.not_append_backslash hu

/-- A quoted body that ends in an escaped backslash: the decoder reads it whole, and its last
backslash is taken with the one before it. -/
theorem scanners_align_with_decoder_escaped_backslash :
    quotedBody 34 [97, 92, 92, 34, 32, 98] = some 3 ∧
      (∀ off p, Escape.unescapeAt off [97, 92, 92] ≠ .error (.unexpectedEscape p)) ∧
      ∀ pre, [97, 92, 92] = pre ++ [Escape.backslash] → ¬Units (fun _ => True) pre :=
  have h := ((scanners_align_with_decoder [97, 92, 92, 34, 32, 98]).2 3 (.inl ⟨34, rfl, rfl⟩)).2
  ⟨rfl, h.1, h.2⟩

end Token

end LineCommands
