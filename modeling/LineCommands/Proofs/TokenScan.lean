import LineCommands.Proofs.EscapeGrammar
/-!
# How the scanners walk a token

Both token scanners and the escape decoder read a token in *units*: a backslash together with
the byte after it, or one byte other than the backslash. A byte is at an *escape-aligned*
index of a token when the bytes before it are cut into whole units. The scanners stop at the
first aligned byte that ends the token, and this module says so exactly:

- the quoted scan passes over units none of which is the quote and stops at the quote after
  them; it finds nothing exactly when no aligned byte after the opening quote is that quote;
- the bare scan passes over units none of which is a space and stops before a space or at
  the end; it fails exactly when the units run into a backslash that ends the bytes.

A string of escape pieces is cut into units too, since every byte that follows the letter of
an escape form is a digit. So a decoder that reads a token the scanners cut into units never
meets a backslash at the end of its input.

## What this module delivers

- `Token.Units` with `Units.append`, `Units.mono` and `Units.of_append` (units are cut one
  way only).
- `Token.quotedBody_eq_some`, `Token.quotedBody_eq_none`: where the quoted scan stops.
- `Token.bareLength_eq_ok`, `Token.bareLength_eq_error`: where the bare scan stops.
- `Token.extract_eq_ok`: where a token that splits ends.
- `Escape.Pieces.units` and `Token.Units.unescapeAt_ne_unexpectedEscape`: the decoder and
  the scanners agree on alignment.
- `Token.leadingSpaces_le`, `Token.getElem?_pred_leadingSpaces`: the spaces in front of a
  token.
-/

namespace LineCommands

namespace Token

/-- A byte string cut into scanner units: a backslash together with the byte after it, or
one byte other than the backslash that `ok` admits. -/
inductive Units (ok : UInt8 → Prop) : Bytes → Prop where
  | nil : Units ok []
  | plain {b : UInt8} {bs : Bytes} : b ≠ Escape.backslash → ok b → Units ok bs →
      Units ok (b :: bs)
  | escaped (b : UInt8) {bs : Bytes} : Units ok bs → Units ok (Escape.backslash :: b :: bs)

namespace Units

variable {ok ok' : UInt8 → Prop}

theorem mono (h : ∀ b, ok b → ok' b) {bs : Bytes} (hu : Units ok bs) : Units ok' bs := by
  induction hu with
  | nil => exact .nil
  | plain hb hok _ ih => exact .plain hb (h _ hok) ih
  | escaped b _ ih => exact .escaped b ih

theorem append {bs cs : Bytes} (hb : Units ok bs) (hc : Units ok cs) : Units ok (bs ++ cs) := by
  induction hb with
  | nil => exact hc
  | plain hb hok _ ih => exact .plain hb hok ih
  | escaped b _ ih => exact .escaped b ih

theorem tail_of_cons {b : UInt8} {bs : Bytes} (hb : b ≠ Escape.backslash)
    (h : Units ok (b :: bs)) : Units ok bs := by
  cases h with
  | plain _ _ h => exact h
  | escaped => exact absurd rfl hb

theorem tail_of_backslash {x : UInt8} {bs : Bytes} (h : Units ok (Escape.backslash :: x :: bs)) :
    Units ok bs := by
  cases h with
  | plain hb => exact absurd rfl hb
  | escaped _ h => exact h

/-- Units are cut one way only: after a run of units, the bytes that follow are cut into
units on their own. -/
theorem of_append {bs cs : Bytes} (hb : Units ok bs) (h : Units ok' (bs ++ cs)) :
    Units ok' cs := by
  induction hb with
  | nil => exact h
  | plain hb _ _ ih => exact ih (tail_of_cons hb h)
  | escaped b _ ih => exact ih (tail_of_backslash h)

/-- A backslash that ends the bytes is in no unit. -/
theorem not_append_backslash {bs : Bytes} (hb : Units ok bs) :
    ¬Units ok' (bs ++ [Escape.backslash]) := by
  intro h
  cases hb.of_append h with
  | plain hne => exact hne rfl

end Units

/-! ## The quoted scan -/

theorem isQuote_iff {q : UInt8} : isQuote q = true ↔ q = 39 ∨ q = 34 := by
  simp [isQuote]

/-- Quotes are ASCII bytes. -/
theorem isQuote_lt {q : UInt8} (h : isQuote q = true) : q.toNat < 128 := by
  rcases isQuote_iff.1 h with rfl | rfl <;> decide

theorem isQuote_ne_backslash {q : UInt8} (h : isQuote q = true) : q ≠ Escape.backslash := by
  rcases isQuote_iff.1 h with rfl | rfl <;> decide

theorem quotedBody_cons_of_ne {q b : UInt8} (hb : b ≠ Escape.backslash) (rest : Bytes) :
    quotedBody q (b :: rest) = if b = q then some 0 else (· + 1) <$> quotedBody q rest := by
  cases rest <;> simp [quotedBody, hb]

/-- **The quoted scan stops at the first aligned quote**: the bytes it passes over are cut
into units none of which is the quote. -/
theorem quotedBody_eq_some {q : UInt8} {bs : Bytes} {n : Nat} (h : quotedBody q bs = some n) :
    ∃ body rest, bs = body ++ q :: rest ∧ body.length = n ∧ Units (· ≠ q) body := by
  fun_induction quotedBody q bs generalizing n with
  | case1 => cases h
  | case2 => cases h
  | case3 x r ih =>
    obtain ⟨m, hm, rfl⟩ := Option.map_eq_some_iff.1 h
    obtain ⟨body, rest, rfl, rfl, hu⟩ := ih hm
    exact ⟨Escape.backslash :: x :: body, rest, rfl, rfl, .escaped x hu⟩
  | case4 rest _ =>
    cases h
    exact ⟨[], rest, rfl, rfl, .nil⟩
  | case5 b rest hb hq ih =>
    obtain ⟨m, hm, rfl⟩ := Option.map_eq_some_iff.1 h
    obtain ⟨body, rest', rfl, rfl, hu⟩ := ih hm
    exact ⟨b :: body, rest', rfl, rfl, .plain hb hq hu⟩

/-- **The quoted scan finds nothing only when no aligned byte is the quote**: no run of
units, whatever their bytes, is followed by the quote. -/
theorem quotedBody_eq_none {q : UInt8} (hq : q ≠ Escape.backslash) {bs : Bytes}
    (h : quotedBody q bs = none) :
    ∀ body rest, bs = body ++ q :: rest → ¬Units (fun _ => True) body := by
  rintro body rest rfl hu
  induction hu with
  | nil => simp [quotedBody_cons_of_ne hq] at h
  | plain hb _ _ ih =>
    rw [List.cons_append, quotedBody_cons_of_ne hb] at h
    split at h
    · cases h
    · exact ih (Option.map_eq_none_iff.1 h)
  | escaped b _ ih =>
    exact ih (Option.map_eq_none_iff.1 ((Spelling.quotedBody_escape b _).symm.trans h))

/-! ## The bare scan -/

/-- **The bare scan stops before the first aligned space or at the end**: the bytes it
passes over are cut into units none of which is a space. -/
theorem bareLength_eq_ok {bs : Bytes} {n : Nat} (h : bareLength bs = .ok n) :
    ∃ body rest, bs = body ++ rest ∧ body.length = n ∧ Units (· ≠ space) body ∧
      (rest = [] ∨ rest.head? = some space) := by
  fun_induction bareLength bs generalizing n with
  | case1 =>
    cases h
    exact ⟨[], [], rfl, rfl, .nil, .inl rfl⟩
  | case2 => cases h
  | case3 x r m hm ih =>
    cases h
    obtain ⟨body, rest, rfl, rfl, hu, hend⟩ := ih hm
    exact ⟨Escape.backslash :: x :: body, rest, rfl, rfl, .escaped x hu, hend⟩
  | case4 => cases h
  | case5 rest _ =>
    cases h
    exact ⟨[], space :: rest, rfl, rfl, .nil, .inr rfl⟩
  | case6 b rest hb hs m hm ih =>
    cases h
    obtain ⟨body, rest', rfl, rfl, hu, hend⟩ := ih hm
    exact ⟨b :: body, rest', rfl, rfl, .plain hb hs hu, hend⟩
  | case7 => cases h

/-- **The bare scan fails only at a backslash that ends the bytes**, after units none of
which is a space. -/
theorem bareLength_eq_error {bs : Bytes} {i : Nat} (h : bareLength bs = .error i) :
    ∃ body, bs = body ++ [Escape.backslash] ∧ body.length = i ∧ Units (· ≠ space) body := by
  fun_induction bareLength bs generalizing i with
  | case1 => cases h
  | case2 =>
    cases h
    exact ⟨[], rfl, rfl, .nil⟩
  | case3 => cases h
  | case4 x r j hj ih =>
    cases h
    obtain ⟨body, rfl, rfl, hu⟩ := ih hj
    exact ⟨Escape.backslash :: x :: body, rfl, rfl, .escaped x hu⟩
  | case5 => cases h
  | case6 => cases h
  | case7 b rest hb hs j hj ih =>
    cases h
    obtain ⟨body, rfl, rfl, hu⟩ := ih hj
    exact ⟨b :: body, rfl, rfl, .plain hb hs hu⟩

/-! ## Where a token ends -/

/-- **Where a token ends.** A token split off bytes that start with no space spans at least
one byte and at most all of them; it ends at the end of the bytes, before a space, or after
its closing quote. -/
theorem extract_eq_ok {pos : Nat} {b : UInt8} {after out : Bytes} {n : Nat}
    (h : extract pos (b :: after) = .ok (out, n)) (hb : b ≠ space) :
    0 < n ∧ n ≤ (b :: after).length ∧
      (n = (b :: after).length ∨ (b :: after)[n]? = some space ∨
        ∃ q, isQuote q = true ∧ (b :: after)[n - 1]? = some q) := by
  rw [extract] at h
  split at h
  · next hq =>
    -- a quoted token ends after the quote that closes it
    split at h
    · cases h
    · next m hm =>
      obtain ⟨_, -, hn⟩ := Except.ok_of_map_eq_ok h
      cases hn
      obtain ⟨body, rest, rfl, rfl, -⟩ := quotedBody_eq_some hm
      refine ⟨by omega, by simp, .inr (.inr ⟨b, hq, ?_⟩)⟩
      simp
  · -- a bare token ends before a space or at the end, and holds its first byte
    split at h
    · cases h
    · next m hm =>
      obtain ⟨_, -, hn⟩ := Except.ok_of_map_eq_ok h
      cases hn
      obtain ⟨body, rest, hsplit, rfl, -, hend⟩ := bareLength_eq_ok hm
      have hpos : 0 < body.length := by
        cases body with
        | nil =>
          rcases hend with rfl | hsp
          · cases hsplit
          · rw [List.nil_append] at hsplit
            rw [← hsplit] at hsp
            exact absurd (Option.some.inj hsp) hb
        | cons x body => simp
      rw [hsplit]
      refine ⟨hpos, by simp, ?_⟩
      rcases hend with rfl | hsp
      · exact .inl (by simp)
      · exact .inr (.inl (by rw [List.getElem?_append_right (Nat.le_refl _), Nat.sub_self,
          ← List.head?_eq_getElem?, hsp]))

/-! ## The spaces in front of a token -/

theorem leadingSpaces_le (bs : Bytes) : leadingSpaces bs ≤ bs.length :=
  (List.takeWhile_prefix _).length_le

/-- The last of the spaces in front of a token is a space. -/
theorem getElem?_pred_leadingSpaces {bs : Bytes} (h : 0 < leadingSpaces bs) :
    bs[leadingSpaces bs - 1]? = some space := by
  have hlt : leadingSpaces bs - 1 < (bs.takeWhile (· = space)).length := by
    unfold leadingSpaces at h ⊢
    omega
  generalize leadingSpaces bs - 1 = k at hlt ⊢
  rw [← List.takeWhile_append_dropWhile (p := (· = space)) (l := bs),
    List.getElem?_append_left hlt, List.getElem?_eq_getElem hlt]
  have hmem := List.getElem_mem hlt
  simpa using List.all_eq_true.1 List.all_takeWhile _ hmem

/-- The byte after the spaces in front of a token is no space. -/
theorem getElem?_leadingSpaces_ne (bs : Bytes) : bs[leadingSpaces bs]? ≠ some space := by
  have hhead := List.head?_dropWhile_not (· = space) bs
  rw [← List.head?_drop, drop_leadingSpaces]
  intro h
  rw [h] at hhead
  simp at hhead

end Token

namespace Spelling

theorem HexDigit.ne_backslash {d : Nat} {c : UInt8} (h : HexDigit d c) :
    c ≠ Escape.backslash := by
  intro hc
  subst hc
  exact (HexDigit.toNat_range h).2 rfl

theorem OctDigit.ne_backslash {d : Nat} {c : UInt8} (h : OctDigit d c) :
    c ≠ Escape.backslash := by
  intro hc
  subst hc
  have := (OctDigit.toNat_range h).2
  contradiction

end Spelling

/-! ## The decoder and the scanners agree on alignment -/

namespace Escape

/-- The bytes after the letter of an escape form are digits: a backslash with its form is cut
into units. -/
theorem Form.units {f d : Bytes} (h : Form f d) :
    Token.Units (fun _ => True) (backslash :: f) := by
  cases h with
  | letter _ => exact .escaped _ .nil
  | hex hh hl => exact .escaped _ (.plain hh.ne_backslash trivial (.plain hl.ne_backslash trivial .nil))
  | unicode _ h₁ h₂ h₃ h₄ =>
    exact .escaped _ (.plain h₁.ne_backslash trivial (.plain h₂.ne_backslash trivial
      (.plain h₃.ne_backslash trivial (.plain h₄.ne_backslash trivial .nil))))
  | octal hx hy hz =>
    exact .escaped _ (.plain hy.ne_backslash trivial (.plain hz.ne_backslash trivial .nil))

/-- A string of escape pieces is cut into units. -/
theorem Pieces.units {s out : Bytes} (h : Pieces s out) : Token.Units (fun _ => True) s := by
  induction h with
  | nil => exact .nil
  | cons hu _ ih =>
    cases hu with
    | plain hb => exact Token.Units.append (.plain hb trivial .nil) ih
    | escape hf => exact hf.units.append ih

end Escape

/-- **The decoder never stops at a backslash that ends bytes the scanners cut into units.**
Its unexpected escape is a backslash with nothing after it, and such a backslash is in no
unit. -/
theorem Token.Units.unescapeAt_ne_unexpectedEscape {ok : UInt8 → Prop} {bs : Bytes}
    (hu : Token.Units ok bs) (off p : Nat) :
    Escape.unescapeAt off bs ≠ .error (.unexpectedEscape p) := by
  intro h
  obtain ⟨pre, d, rest, rfl, hp, ⟨e, rfl, -⟩, he⟩ := Escape.stuck_of_unescapeAt h
  -- only a backslash with nothing after it is reported as unexpected
  cases e with
  | nil => exact hp.units.not_append_backslash (hu.mono fun _ _ => trivial)
  | cons x e => simp at he

end LineCommands
