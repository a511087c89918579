import LineCommands.Proofs.CursorAgreement
import LineCommands.Proofs.Spelling
/-!
# The escape grammar

`Escape.unescapeAt` accepts exactly the byte strings of the escape grammar. A byte string
is read as a sequence of *pieces*. A piece is

* a byte other than the backslash, standing for itself, or
* a backslash and an escape *form*: one of the letters `space " ' ? \ a b f n r t v`, for the
  byte of that one-letter escape; `x` and the two hexadecimal digits of a byte, for that byte;
  `u` and four hexadecimal digits, for the codec's octets of their value (every such value
  is encoded, surrogates included); or the three octal digits of a byte, for that byte (so
  their value is at most `0o377`).

A string of pieces is decoded to the bytes its pieces stand for. Any other string has a
first backslash that starts no piece, and the decoder fails there: with `unexpectedEscape`
when that backslash is the last byte, with `invalidEscape` otherwise, at its offset in the
line.

## What this module delivers

- `Escape.Form`, `Escape.Piece`, `Escape.Pieces` and `Escape.Stuck`: the grammar.
- `Escape.Form.decode?` and `Escape.decode?_eq_some`: the one-sequence decoder reads exactly
  the escape forms.
- `Escape.Pieces.unescapeAt`: a string of pieces is decoded whatever follows it.
- `Escape.pieces_of_unescapeAt` and `Escape.stuck_of_unescapeAt`: what the decoder accepts
  is a string of pieces, and where it fails a string of pieces stops at a stuck backslash.
- `Escape.unescapeAt_reads_escape_grammar`: the main statement.
-/

namespace LineCommands

theorem Except.ok_of_map_eq_ok {α β : Type} {f : α → β} {x : Except CommandError α} {b : β}
    (h : f <$> x = .ok b) : ∃ a, x = .ok a ∧ b = f a := by
  cases x with
  | error e => simp [Functor.map, Except.map] at h
  | ok a => exact ⟨a, rfl, by simpa [Functor.map, Except.map, eq_comm] using h⟩

namespace Escape

open LineCommands.Spelling (HexDigit OctDigit letterEscapes)

/-! ## The grammar -/

/-- The bytes `f` after a backslash that make one escape sequence, and the bytes `d` it
stands for. The forms are those of `Spelling.Spells` after its backslash. -/
inductive Form : Bytes → Bytes → Prop where
  /-- A letter of the one-letter escapes, for its byte. -/
  | letter {c b : UInt8} : (c, b) ∈ letterEscapes → Form [c] [b]
  /-- `x` and the two hexadecimal digits of a byte. -/
  | hex {b h l : UInt8} : HexDigit (b.toNat / 16) h → HexDigit (b.toNat % 16) l →
      Form [120, h, l] [b]
  /-- `u` and the four hexadecimal digits of a code point, for the codec's octets of it. -/
  | unicode {cp : Nat} {bs : Bytes} {h₁ h₂ h₃ h₄ : UInt8} : Utf8.encode cp = .ok bs →
      HexDigit (cp / 4096) h₁ → HexDigit (cp / 256 % 16) h₂ →
      HexDigit (cp / 16 % 16) h₃ → HexDigit (cp % 16) h₄ → Form [117, h₁, h₂, h₃, h₄] bs
  /-- The three octal digits of a byte. -/
  | octal {b x y z : UInt8} : OctDigit (b.toNat / 64) x → OctDigit (b.toNat / 8 % 8) y →
      OctDigit (b.toNat % 8) z → Form [x, y, z] [b]

/-- One piece of an escaped byte string and the bytes it stands for. -/
inductive Piece : Bytes → Bytes → Prop where
  /-- A byte other than the backslash, for itself. -/
  | plain {b : UInt8} : b ≠ backslash → Piece [b] [b]
  /-- A backslash and an escape form. -/
  | escape {f d : Bytes} : Form f d → Piece (backslash :: f) d

/-- A byte string read as a sequence of pieces, and the bytes the pieces stand for. -/
inductive Pieces : Bytes → Bytes → Prop where
  | nil : Pieces [] []
  | cons {u d s out : Bytes} : Piece u d → Pieces s out → Pieces (u ++ s) (d ++ out)

/-- A backslash that starts no piece: no escape form begins the bytes after it, which may
be none at all. -/
def Stuck (rest : Bytes) : Prop :=
  ∃ e, rest = backslash :: e ∧ ∀ f d r, e = f ++ r → ¬Form f d

/-! ## Reading one escape sequence -/

theorem Form.ne_nil {f d : Bytes} (h : Form f d) : f ≠ [] := by
  cases h <;> simp

/-- **The decoder reads every escape form**, whatever follows it. -/
theorem Form.decode? {f d : Bytes} (h : Form f d) (r : Bytes) :
    decode? (f ++ r) = some (d, f.length) := by
  cases h with
  | letter hm => exact Spelling.decode?_letter hm
  | hex hh hl => exact Spelling.decode?_hex hh hl
  | unicode he d₁ d₂ d₃ d₄ => exact Spelling.decode?_unicode he d₁ d₂ d₃ d₄
  | octal hx hy hz => exact Spelling.decode?_octal hx hy hz

/-- Each one-letter escape the decoder knows is a letter of the grammar. -/
theorem mem_letterEscapes_of_simple? {c b : UInt8} (h : simple? c = some b) :
    (c, b) ∈ letterEscapes := by
  -- `simple?` matches on the code of `c`: one branch per letter, each naming `c` by its code
  have hc : c = UInt8.ofNat c.toNat := (UInt8.ofNat_toNat).symm
  unfold simple? at h
  split at h <;> (try cases h) <;> rw [hc] <;> simp_all [letterEscapes]

theorem hexDigit_of_digitValue? {c : UInt8} {v : Nat} (h : digitValue? 16 c = some v) :
    HexDigit v c := by
  unfold digitValue? at h
  simp only [Option.ite_none_right_eq_some, Option.some.injEq] at h
  obtain ⟨hlt, rfl⟩ := h
  unfold HexDigit
  split_ifs at hlt ⊢ <;> omega

theorem octDigit_of_digitValue? {c : UInt8} {v : Nat} (h : digitValue? 8 c = some v) :
    OctDigit v c := by
  unfold digitValue? at h
  simp only [Option.ite_none_right_eq_some, Option.some.injEq] at h
  obtain ⟨hlt, rfl⟩ := h
  unfold OctDigit
  split_ifs at hlt ⊢ <;> omega

theorem digitsValue?_cons_eq_some {radix acc v : Nat} {c : UInt8} {cs : Bytes}
    (h : digitsValue? radix acc (c :: cs) = some v) :
    ∃ d, digitValue? radix c = some d ∧ digitsValue? radix (acc * radix + d) cs = some v := by
  simpa [digitsValue?, Option.bind_eq_some_iff] using h

theorem digitsValue?_nil_eq_some {radix acc v : Nat} (h : digitsValue? radix acc [] = some v) :
    v = acc := by
  simpa [digitsValue?, eq_comm] using h

/-- Two hexadecimal digits read to `v` are the digits of the byte `v`. -/
theorem hexByte_of_digitsValue? {h l : UInt8} {v : Nat}
    (hv : digitsValue? 16 0 [h, l] = some v) :
    HexDigit ((UInt8.ofNat v).toNat / 16) h ∧ HexDigit ((UInt8.ofNat v).toNat % 16) l := by
  obtain ⟨dh, hh, hv⟩ := digitsValue?_cons_eq_some hv
  obtain ⟨dl, hl, hv⟩ := digitsValue?_cons_eq_some hv
  have hv := digitsValue?_nil_eq_some hv
  have dh' := hexDigit_of_digitValue? hh
  have dl' := hexDigit_of_digitValue? hl
  have hb : (UInt8.ofNat v).toNat = v := by
    rw [UInt8.toNat_ofNat', Nat.mod_eq_of_lt (by have := dh'.lt; have := dl'.lt; omega)]
  have := dl'.lt
  rw [hb, show v / 16 = dh by omega, show v % 16 = dl by omega]
  exact ⟨dh', dl'⟩

/-- Four hexadecimal digits read to `v` are the digits of `v`. -/
theorem codePoint_of_digitsValue? {h₁ h₂ h₃ h₄ : UInt8} {v : Nat}
    (hv : digitsValue? 16 0 [h₁, h₂, h₃, h₄] = some v) :
    HexDigit (v / 4096) h₁ ∧ HexDigit (v / 256 % 16) h₂ ∧ HexDigit (v / 16 % 16) h₃ ∧
      HexDigit (v % 16) h₄ := by
  obtain ⟨d₁, e₁, hv⟩ := digitsValue?_cons_eq_some hv
  obtain ⟨d₂, e₂, hv⟩ := digitsValue?_cons_eq_some hv
  obtain ⟨d₃, e₃, hv⟩ := digitsValue?_cons_eq_some hv
  obtain ⟨d₄, e₄, hv⟩ := digitsValue?_cons_eq_some hv
  have hv := digitsValue?_nil_eq_some hv
  have g₁ := hexDigit_of_digitValue? e₁
  have g₂ := hexDigit_of_digitValue? e₂
  have g₃ := hexDigit_of_digitValue? e₃
  have g₄ := hexDigit_of_digitValue? e₄
  have := g₂.lt
  have := g₃.lt
  have := g₄.lt
  rw [show v / 4096 = d₁ by omega, show v / 256 % 16 = d₂ by omega,
    show v / 16 % 16 = d₃ by omega, show v % 16 = d₄ by omega]
  exact ⟨g₁, g₂, g₃, g₄⟩

/-- Three octal digits read to a value of at most `0o377` are the digits of that byte. -/
theorem octalByte_of_digitsValue? {x y z : UInt8} {v : Nat}
    (hv : digitsValue? 8 0 [x, y, z] = some v) (hle : v ≤ 255) :
    OctDigit ((UInt8.ofNat v).toNat / 64) x ∧ OctDigit ((UInt8.ofNat v).toNat / 8 % 8) y ∧
      OctDigit ((UInt8.ofNat v).toNat % 8) z := by
  obtain ⟨dx, ex, hv⟩ := digitsValue?_cons_eq_some hv
  obtain ⟨dy, ey, hv⟩ := digitsValue?_cons_eq_some hv
  obtain ⟨dz, ez, hv⟩ := digitsValue?_cons_eq_some hv
  have hv := digitsValue?_nil_eq_some hv
  have gx := octDigit_of_digitValue? ex
  have gy := octDigit_of_digitValue? ey
  have gz := octDigit_of_digitValue? ez
  have hb : (UInt8.ofNat v).toNat = v := by
    rw [UInt8.toNat_ofNat', Nat.mod_eq_of_lt (by omega)]
  have := gy.1
  have := gz.1
  rw [hb, show v / 64 = dx by omega, show v / 8 % 8 = dy by omega, show v % 8 = dz by omega]
  exact ⟨gx, gy, gz⟩

/-- **The decoder reads only escape forms**: what it reads is an escape form in front of
the rest, as long as it says. -/
theorem decode?_eq_some {e d : Bytes} {n : Nat} (h : decode? e = some (d, n)) :
    ∃ f r, e = f ++ r ∧ f.length = n ∧ Form f d := by
  match e, h with
  | c :: rest, h =>
    cases hs : simple? c with
    | some b =>
      simp only [decode?, hs, Option.some.injEq, Prod.mk.injEq] at h
      obtain ⟨rfl, rfl⟩ := h
      exact ⟨[c], rest, rfl, rfl, .letter (mem_letterEscapes_of_simple? hs)⟩
    | none =>
      simp only [decode?, hs] at h
      -- the byte after the backslash picks the form: `x`, `u`, or an octal digit
      split_ifs at h with hx hl hu hl' hl''
      · obtain ⟨v, hv, hd⟩ := Option.map_eq_some_iff.1 h
        cases hd
        rcases rest with _ | ⟨h₁, _ | ⟨l₁, r⟩⟩
        · simp at hl
        · simp at hl
        obtain ⟨dh, dl⟩ := hexByte_of_digitsValue? hv
        have hc : c = 120 := UInt8.toNat_inj.1 hx
        exact ⟨[c, h₁, l₁], r, rfl, rfl, hc ▸ .hex dh dl⟩
      · simp only [bind, Option.bind_eq_some_iff, pure, Option.some.injEq, Prod.mk.injEq] at h
        obtain ⟨v, hv, bs, hbs, rfl, rfl⟩ := h
        rcases rest with _ | ⟨h₁, _ | ⟨h₂, _ | ⟨h₃, _ | ⟨h₄, r⟩⟩⟩⟩
        · simp at hl'
        · simp at hl'
        · simp at hl'
        · simp at hl'
        obtain ⟨d₁, d₂, d₃, d₄⟩ := codePoint_of_digitsValue? hv
        have he : Utf8.encode v = .ok bs := by
          cases hce : Utf8.encode v with
          | error e => simp [hce, Except.toOption] at hbs
          | ok bs' => simp_all [Except.toOption]
        have hc : c = 117 := UInt8.toNat_inj.1 hu
        exact ⟨[c, h₁, h₂, h₃, h₄], r, rfl, rfl, hc ▸ .unicode he d₁ d₂ d₃ d₄⟩
      · simp only [bind, Option.bind_eq_some_iff] at h
        obtain ⟨v, hv, h⟩ := h
        split_ifs at h with hle
        simp only [pure, Option.some.injEq, Prod.mk.injEq] at h
        obtain ⟨rfl, rfl⟩ := h
        rcases rest with _ | ⟨y, _ | ⟨z, r⟩⟩
        · simp at hl''
        · simp at hl''
        obtain ⟨dx, dy, dz⟩ := octalByte_of_digitsValue? hv hle
        exact ⟨[c, y, z], r, rfl, rfl, .octal dx dy dz⟩

/-- A backslash at the end of the input, or before bytes the decoder reads no sequence
from, is stuck. -/
theorem stuck_of_decode? {e : Bytes} (h : e = [] ∨ decode? e = none) :
    Stuck (backslash :: e) := by
  refine ⟨e, rfl, fun f d r hf hform => ?_⟩
  subst hf
  rcases h with h | h
  · exact hform.ne_nil (List.append_eq_nil_iff.1 h).1
  · rw [hform.decode? r] at h
    cases h

/-! ## Decoding a string of pieces -/

theorem Piece.unescapeAt {u d : Bytes} (h : Piece u d) (off : Nat) (r : Bytes) :
    Escape.unescapeAt off (u ++ r) = (d ++ ·) <$> Escape.unescapeAt (off + u.length) r := by
  cases h with
  | @plain b hb =>
    exact Spelling.unescapeAt_plain off r fun x hx => by rw [List.mem_singleton.1 hx]; exact hb
  | @escape f d hf =>
    obtain ⟨c, u, rfl⟩ := List.exists_cons_of_ne_nil hf.ne_nil
    exact Spelling.unescapeAt_escape off r (hf.decode? r)

/-- **A string of pieces is decoded**, wherever it starts and whatever follows. -/
theorem Pieces.unescapeAt {s out : Bytes} (h : Pieces s out) (off : Nat) (r : Bytes) :
    Escape.unescapeAt off (s ++ r) = (out ++ ·) <$> Escape.unescapeAt (off + s.length) r := by
  induction h generalizing off with
  | nil => simp
  | cons hu _ ih =>
    rw [List.append_assoc, hu.unescapeAt, ih]
    simp [Nat.add_assoc]

/-- The decoder fails at a stuck backslash: at the end of the input it is an unexpected
escape, before other bytes an invalid one. -/
theorem Stuck.unescapeAt {rest : Bytes} (h : Stuck rest) (off : Nat) :
    Escape.unescapeAt off rest =
      .error (if rest.length = 1 then .unexpectedEscape off else .invalidEscape off) := by
  obtain ⟨e, rfl, hnone⟩ := h
  rw [Escape.unescapeAt]
  cases e with
  | nil => simp
  | cons c e =>
    simp only [if_true, reduceCtorEq, if_false, List.length_cons]
    split
    · simp
    · next out n hd =>
      -- a sequence the decoder reads would be an escape form
      obtain ⟨f, r, hf, -, hform⟩ := decode?_eq_some hd
      exact absurd hform (hnone f out r hf)

/-- The stuck backslash is the last byte exactly when nothing follows it. -/
theorem Stuck.length_eq_one_iff {rest : Bytes} (h : Stuck rest) (pre : Bytes) :
    rest.length = 1 ↔ pre.length = (pre ++ rest).length - 1 := by
  obtain ⟨e, rfl, -⟩ := h
  simp only [List.length_append, List.length_cons]
  omega

/-! ## What the decoder accepts -/

/-- What the decoder accepts is a string of pieces, standing for the decoded bytes. -/
theorem pieces_of_unescapeAt {off : Nat} {s out : Bytes}
    (h : Escape.unescapeAt off s = .ok out) : Pieces s out := by
  fun_induction Escape.unescapeAt off s generalizing out with
  | case1 => cases h; exact .nil
  | case2 => cases h
  | case3 => cases h
  | case4 off rest _ d n hd _ ih =>
    obtain ⟨out', hout, rfl⟩ := Except.ok_of_map_eq_ok h
    obtain ⟨f, r, rfl, rfl, hf⟩ := decode?_eq_some hd
    rw [List.drop_left] at hout ih
    exact .cons (.escape hf) (ih hout)
  | case5 off b rest hb ih =>
    obtain ⟨out', hout, rfl⟩ := Except.ok_of_map_eq_ok h
    exact .cons (u := [b]) (.plain hb) (ih hout)

/-- Where the decoder fails, a string of pieces stops at a stuck backslash, and the error
names that backslash. -/
theorem stuck_of_unescapeAt {off : Nat} {s : Bytes} {e : CommandError}
    (h : Escape.unescapeAt off s = .error e) :
    ∃ pre d rest, s = pre ++ rest ∧ Pieces pre d ∧ Stuck rest ∧
      e = if rest.length = 1 then .unexpectedEscape (off + pre.length)
        else .invalidEscape (off + pre.length) := by
  fun_induction Escape.unescapeAt off s with
  | case1 => cases h
  | case2 off =>
    cases h
    exact ⟨[], [], [backslash], rfl, .nil, stuck_of_decode? (.inl rfl), by simp⟩
  | case3 off rest hrest hd =>
    cases h
    exact ⟨[], [], backslash :: rest, rfl, .nil, stuck_of_decode? (.inr hd), by simp [hrest]⟩
  | case4 off rest _ d n hd _ ih =>
    obtain ⟨pre, d', rest', hsplit, hp, hs, rfl⟩ := ih (Except.error_of_map_eq_error h)
    obtain ⟨f, r, rfl, rfl, hf⟩ := decode?_eq_some hd
    rw [List.drop_left] at hsplit
    subst hsplit
    refine ⟨backslash :: f ++ pre, d ++ d', rest', by simp, .cons (.escape hf) hp, hs, ?_⟩
    have hoff : off + 1 + f.length + pre.length = off + (backslash :: f ++ pre).length := by
      simp only [List.length_cons, List.length_append]
      omega
    rw [hoff]
  | case5 off b rest hb ih =>
    obtain ⟨pre, d', rest', rfl, hp, hs, rfl⟩ := ih (Except.error_of_map_eq_error h)
    refine ⟨b :: pre, b :: d', rest', rfl, .cons (u := [b]) (.plain hb) hp, hs, ?_⟩
    have hoff : off + 1 + pre.length = off + (b :: pre).length := by
      simp only [List.length_cons]
      omega
    rw [hoff]

/-! ## The main statement -/

/-- **The decoder accepts exactly the escape grammar.** It decodes a byte string to `out`
exactly when the string is a sequence of pieces standing for `out`. It fails with `e`
exactly when a sequence of pieces `pre` is followed by a backslash that starts no piece,
and `e` names that backslash at its offset: an unexpected escape when it is the last byte,
an invalid escape otherwise. -/
theorem unescapeAt_reads_escape_grammar (off : Nat) (s : Bytes) :
    (∀ out, Escape.unescapeAt off s = .ok out ↔ Pieces s out) ∧
    (∀ e, Escape.unescapeAt off s = .error e ↔
      ∃ pre d rest, s = pre ++ rest ∧ Pieces pre d ∧ Stuck rest ∧
        e = if pre.length = s.length - 1 then .unexpectedEscape (off + pre.length)
          else .invalidEscape (off + pre.length)) := by
  refine ⟨fun out => ⟨pieces_of_unescapeAt, fun h => ?_⟩, fun e => ⟨fun h => ?_, ?_⟩⟩
  · simpa [Functor.map, Except.map, Escape.unescapeAt] using h.unescapeAt off []
  · obtain ⟨pre, d, rest, rfl, hp, hs, rfl⟩ := stuck_of_unescapeAt h
    exact ⟨pre, d, rest, rfl, hp, hs, by simp only [hs.length_eq_one_iff pre]⟩
  · rintro ⟨pre, d, rest, rfl, hp, hs, rfl⟩
    rw [hp.unescapeAt off rest, hs.unescapeAt]
    simp only [hs.length_eq_one_iff pre]
    rfl

end Escape

end LineCommands
