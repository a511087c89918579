import LineCommands.Token.Scan
import Mathlib.Tactic.SplitIfs
/-!
# Spelling a token

A byte string can be written into an argument line in many ways. This module states the
rules of that writing as a grammar, and shows that the escape decoder and the two token
scanners read every spelling back.

A byte is written at a *place*: between the quotes of a token quoted by `'` or `"`, or in a
bare token. It can be written

* as itself, when it is ASCII, no backslash, and does not close its place (the quote of a
  quoted token, the space after a bare one);
* by a one-letter escape: `\\ \" \' \? \a \b \f \n \r \t \v`, or a backslash and a space;
* as `\x` with two hexadecimal digits of either case;
* as a backslash with the three octal digits of its value.

A run of bytes that the codec writes for a code point below `0x10000` may be written as `\u`
with four hexadecimal digits, surrogates included; the octets of a scalar value outside
ASCII may stand as they are, which is the character itself written into the line.

## What this module delivers

- `Spells`, one written unit and the bytes it stands for; `Spelled`, a sequence of units;
  `TokenSpelling`, a quoted token or a bare one.
- `Spelled.unescapeAt`: the decoder reads every spelling back, wherever in the line it
  starts.
- `Spelled.quotedBody` and `Spelled.bareLength`: each scanner steps over a spelled unit as
  a whole, so it stops only at the byte that closes the place.
- `TokenSpelling.extract`: a spelled token followed by the end of the line or a space is
  read back, with the number of line bytes it spans.
-/

namespace LineCommands.Spelling

/-! ## The grammar -/

/-- Where a byte is written: between the quotes `q` of a quoted token, or in a bare token. -/
inductive Place where
  | quoted (q : UInt8)
  | bare

/-- The byte that ends a place: the quote of a quoted token, the space after a bare one. -/
def Place.closer : Place → UInt8
  | .quoted q => q
  | .bare => 32

/-- The one-letter escapes: the letter after the backslash and the byte it stands for.
Backslash, double quote, single quote and question mark stand for themselves; `a b f n r t v`
for bell, backspace, form feed, line feed, carriage return, tab and vertical tab; a space
for a space. -/
def letterEscapes : List (UInt8 × UInt8) :=
  [(92, 92), (34, 34), (39, 39), (63, 63), (97, 7), (98, 8), (102, 12), (110, 10),
    (114, 13), (116, 9), (118, 11), (32, 32)]

/-- `c` is a hexadecimal digit of value `d`: `0`-`9`, then `a`-`f` or `A`-`F`. -/
def HexDigit (d : Nat) (c : UInt8) : Prop :=
  d < 10 ∧ c.toNat = 48 + d ∨ 10 ≤ d ∧ d < 16 ∧ (c.toNat = 87 + d ∨ c.toNat = 55 + d)

/-- `c` is an octal digit of value `d`. -/
def OctDigit (d : Nat) (c : UInt8) : Prop := d < 8 ∧ c.toNat = 48 + d

/-- One written unit `w` at place `p` and the bytes `d` it stands for. -/
inductive Spells (p : Place) : Bytes → Bytes → Prop where
  /-- An ASCII byte that is no backslash and does not close its place, as itself. -/
  | literal {b : UInt8} : b.toNat < 0x80 → b ≠ 92 → b ≠ p.closer → Spells p [b] [b]
  /-- A one-letter escape. -/
  | letter {c b : UInt8} : (c, b) ∈ letterEscapes → Spells p [b] [92, c]
  /-- `\x` and the two hexadecimal digits of a byte. -/
  | hex {b h l : UInt8} : HexDigit (b.toNat / 16) h → HexDigit (b.toNat % 16) l →
      Spells p [b] [92, 120, h, l]
  /-- A backslash and the three octal digits of a byte. -/
  | octal {b x y z : UInt8} : OctDigit (b.toNat / 64) x → OctDigit (b.toNat / 8 % 8) y →
      OctDigit (b.toNat % 8) z → Spells p [b] [92, x, y, z]
  /-- `\u` and the four hexadecimal digits of a code point, for the codec's octets of it. -/
  | unicode {cp : Nat} {bs : Bytes} {h₁ h₂ h₃ h₄ : UInt8} : Utf8.encode cp = .ok bs →
      HexDigit (cp / 4096) h₁ → HexDigit (cp / 256 % 16) h₂ →
      HexDigit (cp / 16 % 16) h₃ → HexDigit (cp % 16) h₄ →
      Spells p bs [92, 117, h₁, h₂, h₃, h₄]
  /-- A scalar value outside ASCII written as the character itself: its octets stand for
  themselves. -/
  | char {cp : Nat} {bs : Bytes} : 0x80 ≤ cp → cp ≤ 0x10FFFF →
      (cp < 0xD800 ∨ 0xDFFF < cp) → Utf8.encode cp = .ok bs → Spells p bs bs

/-- A sequence of written units and the bytes it stands for. -/
inductive Spelled (p : Place) : Bytes → Bytes → Prop where
  | nil : Spelled p [] []
  | cons {d w t r : Bytes} : Spells p d w → Spelled p t r → Spelled p (d ++ t) (w ++ r)

/-- A token `w` of a line standing for the byte string `t`: quoted by `'` or `"`, or, when
`t` is not empty, bare and not starting with a quote. -/
inductive TokenSpelling : Bytes → Bytes → Prop where
  | quoted {q : UInt8} {t w : Bytes} : (q = 39 ∨ q = 34) → Spelled (.quoted q) t w →
      TokenSpelling t (q :: w ++ [q])
  | bare {t w : Bytes} : t ≠ [] → Spelled .bare t w → w.head? ≠ some 39 →
      w.head? ≠ some 34 → TokenSpelling t w

/-! ## Digits and octets

A digit is an ASCII letter or figure, so no scanner takes it for a backslash, a quote or a
space; the codec's octets of a code point outside ASCII are all at least `0x80`, so neither
does any of them. -/

namespace HexDigit

variable {d : Nat} {c : UInt8}

theorem digitValue (h : HexDigit d c) : Escape.digitValue? 16 c = some d := by
  simp only [Escape.digitValue?]
  rcases h with ⟨hd, hc⟩ | ⟨hd, hd', hc | hc⟩ <;> rw [hc]
  · rw [if_pos (show 48 ≤ 48 + d ∧ 48 + d ≤ 57 by omega), if_pos (by omega)]
    congr 1
    omega
  · rw [if_neg (show ¬(48 ≤ 87 + d ∧ 87 + d ≤ 57) by omega),
      if_pos (show 97 ≤ 87 + d ∧ 87 + d ≤ 122 by omega), if_pos (by omega)]
    congr 1
    omega
  · rw [if_neg (show ¬(48 ≤ 55 + d ∧ 55 + d ≤ 57) by omega),
      if_neg (show ¬(97 ≤ 55 + d ∧ 55 + d ≤ 122) by omega),
      if_pos (show 65 ≤ 55 + d ∧ 55 + d ≤ 90 by omega), if_pos (by omega)]
    congr 1
    omega

theorem lt (h : HexDigit d c) : d < 16 := by
  unfold HexDigit at h
  omega

theorem toNat_range (h : HexDigit d c) : 48 ≤ c.toNat ∧ c.toNat ≠ 92 := by
  unfold HexDigit at h
  omega

end HexDigit

namespace OctDigit

variable {d : Nat} {c : UInt8}

theorem digitValue (h : OctDigit d c) : Escape.digitValue? 8 c = some d := by
  obtain ⟨hd, hc⟩ := h
  simp only [Escape.digitValue?, hc]
  rw [if_pos (show 48 ≤ 48 + d ∧ 48 + d ≤ 57 by omega), if_pos (by omega)]
  congr 1
  omega

theorem toNat_range (h : OctDigit d c) : 48 ≤ c.toNat ∧ c.toNat ≤ 55 := by
  unfold OctDigit at h
  omega

/-- An octal digit is none of the one-letter escapes. -/
theorem simple? (h : OctDigit d c) : Escape.simple? c = none := by
  have := h.toNat_range
  unfold Escape.simple?
  split <;> first | rfl | omega

end OctDigit

/-- Every letter of the one-letter escapes is one the decoder knows, for the same byte. -/
theorem simple?_of_mem_letterEscapes : ∀ e ∈ letterEscapes, Escape.simple? e.1 = some e.2 := by
  simp [letterEscapes, Escape.simple?]

/-- The codec's octets of a code point outside ASCII are all at least `0x80`. -/
theorem encode_high {cp : Nat} {bs : Bytes} (hcp : 0x80 ≤ cp) (h : Utf8.encode cp = .ok bs) :
    ∀ x ∈ bs, 0x80 ≤ x.toNat := by
  unfold Utf8.encode Utf8.encodedLength? at h
  have h1 : ¬cp ≤ 0x7F := by omega
  simp only [h1, if_false] at h
  -- one case per encoded length: a lead octet and continuation octets, all high
  split_ifs at h <;> simp [Utf8.continuationOctet] at h <;> subst h <;> simp <;> omega

theorem encode_ne_nil {cp : Nat} {bs : Bytes} (h : Utf8.encode cp = .ok bs) : bs ≠ [] := by
  unfold Utf8.encode at h
  split at h <;> simp at h <;> subst h <;> simp

/-! ## Reading one escape -/

section Decode

variable {b : UInt8} {rest : Bytes}

theorem digitsValue?_cons {radix acc v : Nat} {c : UInt8}
    (h : Escape.digitValue? radix c = some v) (cs : Bytes) :
    Escape.digitsValue? radix acc (c :: cs) = Escape.digitsValue? radix (acc * radix + v) cs := by
  simp [Escape.digitsValue?, h]

theorem decode?_letter {c : UInt8} (h : (c, b) ∈ letterEscapes) :
    Escape.decode? (c :: rest) = some ([b], 1) := by
  simp [Escape.decode?, simple?_of_mem_letterEscapes (c, b) h]

theorem decode?_hex {h l : UInt8} (hh : HexDigit (b.toNat / 16) h)
    (hl : HexDigit (b.toNat % 16) l) : Escape.decode? (120 :: h :: l :: rest) = some ([b], 3) := by
  have hv : Escape.digitsValue? 16 0 [h, l] = some b.toNat := by
    rw [digitsValue?_cons hh.digitValue, digitsValue?_cons hl.digitValue]
    show some _ = some _
    congr 1
    omega
  simp [Escape.decode?, Escape.simple?, hv]

theorem decode?_octal {x y z : UInt8} (hx : OctDigit (b.toNat / 64) x)
    (hy : OctDigit (b.toNat / 8 % 8) y) (hz : OctDigit (b.toNat % 8) z) :
    Escape.decode? (x :: y :: z :: rest) = some ([b], 3) := by
  have hb : b.toNat < 256 := b.toNat_lt
  have hv : Escape.digitsValue? 8 0 [x, y, z] = some b.toNat := by
    rw [digitsValue?_cons hx.digitValue, digitsValue?_cons hy.digitValue,
      digitsValue?_cons hz.digitValue]
    show some _ = some _
    congr 1
    omega
  -- a figure is neither the `x` nor the `u` that start the other escapes
  have ⟨hx₁, hx₂⟩ := hx.toNat_range
  have hxu : x.toNat ≠ 120 ∧ x.toNat ≠ 117 := by omega
  simp [Escape.decode?, hx.simple?, hxu, hv]
  omega

theorem decode?_unicode {cp : Nat} {bs : Bytes} {h₁ h₂ h₃ h₄ : UInt8}
    (he : Utf8.encode cp = .ok bs) (d₁ : HexDigit (cp / 4096) h₁)
    (d₂ : HexDigit (cp / 256 % 16) h₂) (d₃ : HexDigit (cp / 16 % 16) h₃)
    (d₄ : HexDigit (cp % 16) h₄) :
    Escape.decode? (117 :: h₁ :: h₂ :: h₃ :: h₄ :: rest) = some (bs, 5) := by
  have hlt := d₁.lt
  have hv : Escape.digitsValue? 16 0 [h₁, h₂, h₃, h₄] = some cp := by
    rw [digitsValue?_cons d₁.digitValue, digitsValue?_cons d₂.digitValue,
      digitsValue?_cons d₃.digitValue, digitsValue?_cons d₄.digitValue]
    show some _ = some _
    congr 1
    omega
  simp [Escape.decode?, Escape.simple?, hv, he, Except.toOption]

end Decode

/-! ## Decoding a spelling

The decoder copies a byte that is no backslash and, at a backslash, reads one escape. A
spelled unit is therefore decoded as a whole, whatever follows it, and so is a spelled
sequence. -/

theorem unescapeAt_plain (off : Nat) {u : Bytes} (rest : Bytes) (hu : ∀ x ∈ u, x ≠ 92) :
    Escape.unescapeAt off (u ++ rest) = (u ++ ·) <$> Escape.unescapeAt (off + u.length) rest := by
  -- each byte is copied and moves the offset by one
  induction u generalizing off with
  | nil => simp
  | cons x u ih =>
      have hx : x ≠ Escape.backslash := hu x (by simp)
      rw [List.cons_append, Escape.unescapeAt]
      simp only [hx, if_false]
      rw [ih (off + 1) fun y hy => hu y (by simp [hy])]
      simp [Nat.add_assoc, Nat.add_comm 1]

theorem unescapeAt_escape (off : Nat) {c : UInt8} {u d : Bytes} (rest : Bytes)
    (h : Escape.decode? (c :: (u ++ rest)) = some (d, u.length + 1)) :
    Escape.unescapeAt off (92 :: c :: (u ++ rest)) =
      (d ++ ·) <$> Escape.unescapeAt (off + (u.length + 2)) rest := by
  rw [Escape.unescapeAt]
  simp only [Escape.backslash, if_true, reduceCtorEq, if_false]
  split
  · next hn => rw [h] at hn; cases hn
  · next out n hn =>
      rw [h] at hn
      cases hn
      simp [Nat.add_assoc, Nat.add_comm 1]

theorem Spells.unescapeAt {p : Place} {d w : Bytes} (h : Spells p d w) (off : Nat)
    (rest : Bytes) :
    Escape.unescapeAt off (w ++ rest) = (d ++ ·) <$> Escape.unescapeAt (off + w.length) rest := by
  cases h with
  | literal _ hb _ => exact unescapeAt_plain off rest (by simpa using hb)
  | letter hm => exact unescapeAt_escape off (u := []) rest (decode?_letter hm)
  | hex hh hl => exact unescapeAt_escape off (u := [_, _]) rest (decode?_hex hh hl)
  | octal hx hy hz => exact unescapeAt_escape off (u := [_, _]) rest (decode?_octal hx hy hz)
  | unicode he d₁ d₂ d₃ d₄ =>
      exact unescapeAt_escape off (u := [_, _, _, _]) rest (decode?_unicode he d₁ d₂ d₃ d₄)
  | char hcp _ _ he =>
      -- the octets of a character are high, so none of them is a backslash
      refine unescapeAt_plain off rest fun x hx e => ?_
      have := encode_high hcp he x hx
      rw [e] at this
      exact absurd this (by decide)

/-- **The decoder reads every spelling back**, wherever it starts and whatever follows. -/
theorem Spelled.unescapeAt {p : Place} {t w : Bytes} (h : Spelled p t w) (off : Nat)
    (rest : Bytes) :
    Escape.unescapeAt off (w ++ rest) = (t ++ ·) <$> Escape.unescapeAt (off + w.length) rest := by
  induction h generalizing off with
  | nil => simp
  | cons hu _ ih =>
      rw [List.append_assoc, hu.unescapeAt, ih]
      simp [Nat.add_assoc]

theorem Spelled.unescapeAt_eq {p : Place} {t w : Bytes} (h : Spelled p t w) (off : Nat) :
    Escape.unescapeAt off w = .ok t := by
  have := h.unescapeAt off []
  rw [List.append_nil] at this
  rw [this, Escape.unescapeAt.eq_def]
  simp [Functor.map, Except.map]

/-! ## Scanning a spelling

Both scanners step over a byte that is no backslash and does not close the place, and step
over a backslash together with the byte after it. Every spelled unit is plain bytes, or a
backslash, one byte and plain bytes, so both scanners step over it as a whole. -/

/-- A byte that a scanner steps over alone at place `p`. -/
def Plain (p : Place) (x : UInt8) : Prop := x ≠ 92 ∧ x ≠ p.closer

theorem plain_of_toNat {p : Place} (hp : p.closer.toNat < 48) {x : UInt8} (h₁ : 48 ≤ x.toNat)
    (h₂ : x.toNat ≠ 92) : Plain p x :=
  ⟨fun e => h₂ (by rw [e]; rfl), fun e => by rw [e] at h₁; omega⟩

/-- What the scanners see of a written unit: plain bytes only, or a backslash, one byte and
plain bytes. -/
theorem Spells.shape {p : Place} {d w : Bytes} (h : Spells p d w) (hp : p.closer.toNat < 48) :
    (∀ x ∈ w, Plain p x) ∨ ∃ c u, w = 92 :: c :: u ∧ ∀ x ∈ u, Plain p x := by
  cases h with
  | literal _ hb hq => exact .inl (by simp [Plain, hb, hq])
  | letter _ => exact .inr ⟨_, [], rfl, by simp⟩
  | hex hh hl =>
      have ph := plain_of_toNat hp hh.toNat_range.1 hh.toNat_range.2
      have pl := plain_of_toNat hp hl.toNat_range.1 hl.toNat_range.2
      exact .inr ⟨_, [_, _], rfl, by simp [ph, pl]⟩
  | octal _ hy hz =>
      have py := plain_of_toNat hp hy.toNat_range.1 (by have := hy.toNat_range; omega)
      have pz := plain_of_toNat hp hz.toNat_range.1 (by have := hz.toNat_range; omega)
      exact .inr ⟨_, [_, _], rfl, by simp [py, pz]⟩
  | unicode _ d₁ d₂ d₃ d₄ =>
      have p₁ := plain_of_toNat hp d₁.toNat_range.1 d₁.toNat_range.2
      have p₂ := plain_of_toNat hp d₂.toNat_range.1 d₂.toNat_range.2
      have p₃ := plain_of_toNat hp d₃.toNat_range.1 d₃.toNat_range.2
      have p₄ := plain_of_toNat hp d₄.toNat_range.1 d₄.toNat_range.2
      exact .inr ⟨_, [_, _, _, _], rfl, by simp [p₁, p₂, p₃, p₄]⟩
  | char hcp _ _ he =>
      refine .inl fun x hx => plain_of_toNat hp ?_ ?_ <;> have := encode_high hcp he x hx <;> omega

theorem Spells.ne_nil {p : Place} {d w : Bytes} (h : Spells p d w) : w ≠ [] := by
  cases h with
  | char _ _ _ he => exact encode_ne_nil he
  | _ => simp

theorem Spelled.ne_nil {p : Place} {t w : Bytes} (h : Spelled p t w) (ht : t ≠ []) :
    w ≠ [] := by
  cases h with
  | nil => exact absurd rfl ht
  | cons hu _ => simp [hu.ne_nil]

/-! ### The quoted scanner -/

section Quoted

variable {q : UInt8}

theorem quotedBody_plain {u : Bytes} (r : Bytes) (hu : ∀ x ∈ u, Plain (.quoted q) x) :
    Token.quotedBody q (u ++ r) = (· + u.length) <$> Token.quotedBody q r := by
  induction u with
  | nil => simp
  | cons x u ih =>
      obtain ⟨hx, hxq⟩ := hu x (by simp)
      have hx' : x ≠ Escape.backslash := hx
      have hxq' : x ≠ q := hxq
      rw [List.cons_append, Token.quotedBody.eq_def]
      simp only [if_neg hx', if_neg hxq']
      rw [ih fun y hy => hu y (by simp [hy])]
      cases Token.quotedBody q r with
      | none => rfl
      | some n => simp [Nat.add_assoc]

theorem quotedBody_escape (c : UInt8) (r : Bytes) :
    Token.quotedBody q (92 :: c :: r) = (· + 2) <$> Token.quotedBody q r := by
  rw [Token.quotedBody.eq_def]
  simp [Escape.backslash]

theorem Spells.quotedBody (hq : q.toNat < 48) {d w : Bytes} (h : Spells (.quoted q) d w)
    (r : Bytes) : Token.quotedBody q (w ++ r) = (· + w.length) <$> Token.quotedBody q r := by
  rcases h.shape hq with hw | ⟨c, u, rfl, hu⟩
  · exact quotedBody_plain r hw
  · rw [List.cons_append, List.cons_append, quotedBody_escape, quotedBody_plain r hu]
    cases Token.quotedBody q r with
    | none => rfl
    | some n => simp [Nat.add_assoc]

/-- The quoted scanner steps over a spelled body as a whole. -/
theorem Spelled.quotedBody (hq : q.toNat < 48) {t w : Bytes} (h : Spelled (.quoted q) t w)
    (r : Bytes) : Token.quotedBody q (w ++ r) = (· + w.length) <$> Token.quotedBody q r := by
  induction h with
  | nil => simp
  | cons hu _ ih =>
      rw [List.append_assoc, hu.quotedBody hq, ih]
      cases Token.quotedBody q r with
      | none => rfl
      | some n => simp; omega

end Quoted

/-! ### The bare scanner -/

section Bare

variable {r : Bytes} {m : Nat}

theorem bareLength_plain {u : Bytes} (hu : ∀ x ∈ u, Plain .bare x)
    (hr : Token.bareLength r = .ok m) : Token.bareLength (u ++ r) = .ok (m + u.length) := by
  induction u with
  | nil => simpa using hr
  | cons x u ih =>
      obtain ⟨hx, hxs⟩ := hu x (by simp)
      have hx' : x ≠ Escape.backslash := hx
      have hxs' : x ≠ Token.space := hxs
      rw [List.cons_append, Token.bareLength.eq_def]
      simp only [if_neg hx', if_neg hxs']
      rw [ih fun y hy => hu y (by simp [hy])]
      simp [Nat.add_assoc]

theorem bareLength_escape (c : UInt8) (hr : Token.bareLength r = .ok m) :
    Token.bareLength (92 :: c :: r) = .ok (m + 2) := by
  rw [Token.bareLength.eq_def]
  simp [Escape.backslash, hr]

theorem Spells.bareLength {d w : Bytes} (h : Spells .bare d w) (hr : Token.bareLength r = .ok m) :
    Token.bareLength (w ++ r) = .ok (m + w.length) := by
  rcases h.shape (by decide) with hw | ⟨c, u, rfl, hu⟩
  · exact bareLength_plain hw hr
  · rw [List.cons_append, List.cons_append, bareLength_escape c (bareLength_plain hu hr)]
    simp [Nat.add_assoc]

/-- The bare scanner steps over a spelled token as a whole. -/
theorem Spelled.bareLength {t w : Bytes} (h : Spelled .bare t w)
    (hr : Token.bareLength r = .ok m) : Token.bareLength (w ++ r) = .ok (m + w.length) := by
  induction h with
  | nil => simpa using hr
  | cons hu _ ih =>
      rw [List.append_assoc, hu.bareLength ih]
      simp only [List.length_append]
      congr 1
      omega

end Bare

/-- A bare token ends at the end of the line or at a space. -/
theorem bareLength_end {rest : Bytes} (hr : rest = [] ∨ rest.head? = some 32) :
    Token.bareLength rest = .ok 0 := by
  rcases hr with rfl | hr
  · rfl
  · obtain ⟨r, rfl⟩ : ∃ r, rest = 32 :: r := by
      cases rest with
      | nil => simp at hr
      | cons b r => simp at hr; exact ⟨r, by rw [hr]⟩
    rw [Token.bareLength.eq_def]
    simp [Escape.backslash, Token.space]

/-! ## Reading a token back -/

/-- **A spelled token is read back.** Followed by the end of the line or by a space, it
stands for its byte string and spans its whole length. -/
theorem TokenSpelling.extract {t w : Bytes} (h : TokenSpelling t w) (pos : Nat) {rest : Bytes}
    (hr : rest = [] ∨ rest.head? = some 32) :
    Token.extract pos (w ++ rest) = .ok (t, w.length) := by
  cases h with
  | @quoted q t body hq hs =>
      have hq48 : q.toNat < 48 := by rcases hq with rfl | rfl <;> decide
      have hquote : Token.isQuote q = true := by rcases hq with rfl | rfl <;> rfl
      have hclose : Token.quotedBody q (q :: rest) = some 0 := by
        have : q ≠ Escape.backslash := by rcases hq with rfl | rfl <;> decide
        rw [Token.quotedBody.eq_def]
        simp [this]
      -- the scanner steps over the body and stops at the closing quote
      have hscan : Token.quotedBody q (body ++ q :: rest) = some body.length := by
        rw [hs.quotedBody hq48, hclose]
        simp
      rw [show q :: body ++ [q] ++ rest = q :: (body ++ q :: rest) by simp]
      simp only [Token.extract, hquote, if_true, hscan, List.take_left', hs.unescapeAt_eq]
      simp [Functor.map, Except.map]
  | bare hne hs h39 h34 =>
      -- a bare token does not start with a quote, so it is read as bare
      obtain ⟨b, w', rfl⟩ := List.exists_cons_of_ne_nil (hs.ne_nil hne)
      have hquote : Token.isQuote b = false := by
        simp at h39 h34
        simp [Token.isQuote, h39, h34]
      have hscan := hs.bareLength (bareLength_end hr)
      rw [List.cons_append] at hscan ⊢
      simp only [Token.extract, hquote, Bool.false_eq_true, if_false, hscan, Nat.zero_add]
      rw [← List.cons_append, List.take_left' rfl, hs.unescapeAt_eq]
      simp [Functor.map, Except.map]

end LineCommands.Spelling
