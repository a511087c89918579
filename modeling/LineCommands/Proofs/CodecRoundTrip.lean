import LineCommands.Proofs.TextBytes
/-!
# The code point codec reads back what it writes

`Utf8.encode` writes a code point up to `0x10FFFF`, surrogates included, as a lead octet
that announces the length of the form and then continuation octets of six value bits each;
`Utf8.decode` reads the first code point of a byte string by its lead octet alone. This module
proves the round trip over the whole range: every code point the codec accepts is written in
a form of the length `encodedLength?` gives, with a lead octet of that length class and
continuation octets `10xxxxxx` after it, and is read back from that form whatever bytes follow
it. Above the range the codec refuses the code point and gives it no length.

## What this module delivers

- `Utf8.IsLead`, `Utf8.IsContinuation` and `Utf8.Shaped`: the octet classes of a form.
- `Utf8.isLead_of_leadOf`: a lead octet the decoder reads is of the class of its length.
- `Utf8.decode_cons_append`: the decoder reads the octets a lead octet announces and ignores
  the rest.
- `Utf8.encode_round_trip`: each code point of the range is written in a shaped form that
  reads back.
- `Utf8.codec_round_trip`: the main statement, with the refusal above the range.
-/

namespace LineCommands.Utf8

/-! ## The octet classes of a form -/

/-- The lead octet of an `n`-octet form: `0xxxxxxx`, `110xxxxx`, `1110xxxx` or `11110xxx`. -/
def IsLead : Nat → UInt8 → Prop
  | 1, b => b.toNat < 0x80
  | 2, b => b.toNat / 32 = 0b110
  | 3, b => b.toNat / 16 = 0b1110
  | 4, b => b.toNat / 8 = 0b11110
  | _, _ => False

/-- A continuation octet, `10xxxxxx`. -/
def IsContinuation (b : UInt8) : Prop := b.toNat / 64 = 0b10

/-- An `n`-octet form: a lead octet of that length class, then `n - 1` continuation octets. -/
def Shaped (n : Nat) : Bytes → Prop
  | [] => False
  | b :: cs => IsLead n b ∧ cs.length + 1 = n ∧ ∀ c ∈ cs, IsContinuation c

/-- A lead octet the decoder reads announces the length of its class. -/
theorem isLead_of_leadOf {b : UInt8} {n bits : Nat} (h : leadOf b = some (n, bits)) :
    IsLead n b := by
  simp only [leadOf] at h
  split_ifs at h <;> cases h <;> simp only [IsLead] <;> omega

/-! ## Continuation octets -/

@[simp] theorem toNat_continuationOctet (x : Nat) :
    (continuationOctet x).toNat = 128 + x % 64 := by
  rw [continuationOctet, toNat_ofNat_of_lt (by omega), Nat.add_comm]

theorem isContinuation_continuationOctet (x : Nat) : IsContinuation (continuationOctet x) := by
  rw [IsContinuation, toNat_continuationOctet]
  omega

/-- The decoder takes the six value bits of a continuation octet. -/
@[simp] theorem gatherBits_continuationOctet (acc x : Nat) (cs : Bytes) :
    gatherBits acc (continuationOctet x :: cs) = gatherBits (acc * 64 + x % 64) cs := by
  rw [gatherBits, toNat_continuationOctet, show (128 + x % 64) % 64 = x % 64 by omega]

/-! ## Reading a form -/

/-- **The decoder reads what the lead octet announces**: the value bits of the octets after it,
and nothing of the bytes beyond them. -/
theorem decode_cons_append {b : UInt8} {n bits : Nat} {cs : Bytes}
    (h : leadOf b = some (n, bits)) (hn : cs.length + 1 = n) (rest : Bytes) :
    decode (b :: cs ++ rest) = .ok (gatherBits bits cs, n) := by
  subst hn
  simp [decode, h]

/-- A lead octet and continuation octets whose bits gather to `cp` make a form of the lead's
length that reads back as `cp`. -/
theorem form_of_lead {lead : UInt8} {cs : Bytes} {n bits cp : Nat}
    (hl : leadOf lead = some (n, bits)) (hn : cs.length + 1 = n)
    (hcs : ∀ c ∈ cs, IsContinuation c) (hv : gatherBits bits cs = cp) :
    Shaped n (lead :: cs) ∧ ∀ rest, decode (lead :: cs ++ rest) = .ok (cp, n) :=
  ⟨⟨isLead_of_leadOf hl, hn, hcs⟩, fun rest => hv ▸ decode_cons_append hl hn rest⟩

/-! ## The round trip -/

/-- **Every code point of the range is written in a shaped form that reads back**, as long as
`encodedLength?` says, whatever bytes follow the form. -/
theorem encode_round_trip {cp : Nat} (h : cp ≤ maxCodePoint) :
    ∃ bs, encode cp = .ok bs ∧ encodedLength? cp = some bs.length ∧ Shaped bs.length bs ∧
      ∀ rest, decode (bs ++ rest) = .ok (cp, bs.length) := by
  have hmax : maxCodePoint = 0x10FFFF := rfl
  unfold encode encodedLength?
  -- one case per length class; in each, the lead octet's value bits are the code point's
  -- high bits, and the continuation octets carry six bits each below them
  by_cases h₁ : cp ≤ 0x7F
  · have hb : (UInt8.ofNat cp).toNat = cp := toNat_ofNat_of_lt (by omega)
    have hl : leadOf (UInt8.ofNat cp) = some (1, cp) := by
      simp only [leadOf, hb]
      rw [if_pos (by omega)]
    simp only [h₁, if_true]
    exact ⟨_, rfl, rfl, form_of_lead hl rfl (by simp) rfl⟩
  by_cases h₂ : cp ≤ 0x7FF
  · have hb : (UInt8.ofNat (0xC0 + cp / 64 % 32)).toNat = 0xC0 + cp / 64 % 32 :=
      toNat_ofNat_of_lt (by omega)
    have hl : leadOf (UInt8.ofNat (0xC0 + cp / 64 % 32)) = some (2, cp / 64 % 32) := by
      simp only [leadOf, hb]
      rw [if_neg (by omega), if_pos (by omega), show (0xC0 + cp / 64 % 32) % 32 = cp / 64 % 32 by omega]
    simp only [h₁, h₂, if_true, if_false]
    exact ⟨_, rfl, rfl, form_of_lead hl rfl (by simp [isContinuation_continuationOctet])
      (by simp only [gatherBits, toNat_continuationOctet]; omega)⟩
  by_cases h₃ : cp ≤ 0xFFFF
  · have hb : (UInt8.ofNat (0xE0 + cp / 4096 % 16)).toNat = 0xE0 + cp / 4096 % 16 :=
      toNat_ofNat_of_lt (by omega)
    have hl : leadOf (UInt8.ofNat (0xE0 + cp / 4096 % 16)) = some (3, cp / 4096 % 16) := by
      simp only [leadOf, hb]
      rw [if_neg (by omega), if_neg (by omega), if_pos (by omega),
        show (0xE0 + cp / 4096 % 16) % 16 = cp / 4096 % 16 by omega]
    simp only [h₁, h₂, h₃, if_true, if_false]
    exact ⟨_, rfl, rfl, form_of_lead hl rfl (by simp [isContinuation_continuationOctet])
      (by simp only [gatherBits, toNat_continuationOctet]; omega)⟩
  · have hb : (UInt8.ofNat (0xF0 + cp / 262144 % 8)).toNat = 0xF0 + cp / 262144 % 8 :=
      toNat_ofNat_of_lt (by omega)
    have hl : leadOf (UInt8.ofNat (0xF0 + cp / 262144 % 8)) = some (4, cp / 262144 % 8) := by
      simp only [leadOf, hb]
      rw [if_neg (by omega), if_neg (by omega), if_neg (by omega), if_pos (by omega),
        show (0xF0 + cp / 262144 % 8) % 8 = cp / 262144 % 8 by omega]
    simp only [h₁, h₂, h₃, h, if_true, if_false]
    exact ⟨_, rfl, rfl, form_of_lead hl rfl (by simp [isContinuation_continuationOctet])
      (by simp only [gatherBits, toNat_continuationOctet]; omega)⟩

/-- Above the range the codec gives no length and refuses the code point. -/
theorem encode_above_range {cp : Nat} (h : maxCodePoint < cp) :
    encode cp = .error (.outOfRange cp) ∧ encodedLength? cp = none := by
  have hmax : maxCodePoint = 0x10FFFF := rfl
  have hl : encodedLength? cp = none := by
    rw [encodedLength?, if_neg (by omega), if_neg (by omega), if_neg (by omega), if_neg (by omega)]
  exact ⟨by rw [encode, hl], hl⟩

/-- **The codec reads back what it writes.** A code point up to `0x10FFFF`, surrogates
included, is written in as many octets as `encodedLength?` gives, a lead octet of that length
class and continuation octets after it, and the decoder reads the code point and that length
back from the form followed by any bytes. A code point above the range is refused as out of
range and has no length. -/
theorem codec_round_trip (cp : Nat) (rest : Bytes) :
    (cp ≤ maxCodePoint → ∃ bs, encode cp = .ok bs ∧ encodedLength? cp = some bs.length ∧
      Shaped bs.length bs ∧ decode (bs ++ rest) = .ok (cp, bs.length)) ∧
    (maxCodePoint < cp → encode cp = .error (.outOfRange cp) ∧ encodedLength? cp = none) := by
  refine ⟨fun h => ?_, encode_above_range⟩
  obtain ⟨bs, he, hl, hs, hd⟩ := encode_round_trip h
  exact ⟨bs, he, hl, hs, hd rest⟩

/-- The first surrogate, followed by a letter, and the first code point above the range. -/
theorem codec_round_trip_surrogate :
    0xD800 ≤ maxCodePoint ∧ maxCodePoint < 0x110000 ∧
      (∃ bs, encode 0xD800 = .ok bs ∧ encodedLength? 0xD800 = some bs.length ∧
        Shaped bs.length bs ∧ decode (bs ++ [0x41]) = .ok (0xD800, bs.length)) ∧
      encode 0x110000 = .error (.outOfRange 0x110000) ∧ encodedLength? 0x110000 = none := by
  have hin : 0xD800 ≤ maxCodePoint := by decide
  have hout : maxCodePoint < 0x110000 := by decide
  exact ⟨hin, hout, (codec_round_trip 0xD800 [0x41]).1 hin, (codec_round_trip 0x110000 []).2 hout⟩

end LineCommands.Utf8
