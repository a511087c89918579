import LineCommands.Error
import LineCommands.Text.Utf8
/-!
# Escape sequences

Inside a token a backslash starts an escape sequence. The sequences are:

* a backslash before one of `space " ' ? \` stands for that byte, and one before
  `a b f n r t v` for the control byte of the same name (bell, backspace, form feed,
  line feed, carriage return, tab, vertical tab);
* `\x` and exactly two hexadecimal digits stand for that byte;
* `\u` and exactly four hexadecimal digits stand for the UTF-8 octets of that code point,
  surrogates included;
* a backslash before three octal digits of value at most `0o377` stands for that byte.

Digits of either case count; no byte outside ASCII is a digit. `Escape.decode?` reads one
sequence after its backslash. `unescapeAt` expands a whole byte string; a backslash that
ends the input is `unexpectedEscape`, any other malformed sequence is `invalidEscape`, each
at the offset of its backslash, counted from `offset`.
-/

namespace LineCommands.Escape

/-- The escape byte. -/
def backslash : UInt8 := 92

/-- The byte that a one-character escape stands for. -/
def simple? (b : UInt8) : Option UInt8 :=
  match b.toNat with
  | 32 | 34 | 39 | 63 | 92 => some b
  | 97 => some 7
  | 98 => some 8
  | 102 => some 12
  | 110 => some 10
  | 114 => some 13
  | 116 => some 9
  | 118 => some 11
  | _ => none

/-- The value of an ASCII digit or letter in a radix up to 36, when it is below the radix. -/
def digitValue? (radix : Nat) (b : UInt8) : Option Nat :=
  let n := b.toNat
  let v :=
    if 48 ≤ n ∧ n ≤ 57 then n - 48
    else if 97 ≤ n ∧ n ≤ 122 then n - 87
    else if 65 ≤ n ∧ n ≤ 90 then n - 55
    else 36
  if v < radix then some v else none

/-- The value of a string of digits in `radix`, most significant first, added to
`acc` times the right power of the radix. -/
def digitsValue? (radix acc : Nat) : Bytes → Option Nat
  | [] => some acc
  | b :: bs => do
    let v ← digitValue? radix b
    digitsValue? radix (acc * radix + v) bs

/-- One escape sequence read from the bytes after its backslash: the bytes it stands for
and how many bytes it spans. -/
def decode? (seq : Bytes) : Option (Bytes × Nat) :=
  match seq with
  | [] => none
  | c :: rest =>
    match simple? c with
    | some b => some ([b], 1)
    | none =>
      if c.toNat = 120 then
        if rest.length < 2 then none
        else (digitsValue? 16 0 (rest.take 2)).map fun v => ([UInt8.ofNat v], 3)
      else if c.toNat = 117 then
        if rest.length < 4 then none
        else do
          let v ← digitsValue? 16 0 (rest.take 4)
          let bs ← (Utf8.encode v).toOption
          pure (bs, 5)
      else if seq.length < 3 then none
      else do
        let v ← digitsValue? 8 0 (seq.take 3)
        if v ≤ 255 then pure ([UInt8.ofNat v], 3) else none

theorem decode?_span_pos {seq out : Bytes} {n : Nat} (h : decode? seq = some (out, n)) :
    0 < n := by
  unfold decode? at h
  split at h
  · simp at h
  · split at h
    · simp at h; omega
    · split at h
      · split at h
        · simp at h
        · obtain ⟨v, _, hv⟩ := Option.map_eq_some_iff.1 h
          simp at hv; omega
      · split at h
        · split at h
          · simp at h
          · simp only [bind, Option.bind_eq_some_iff] at h
            obtain ⟨_, _, _, _, h⟩ := h
            simp [pure] at h; omega
        · split at h
          · simp at h
          · simp only [bind, Option.bind_eq_some_iff] at h
            obtain ⟨v, _, h⟩ := h
            split at h
            · simp [pure] at h; omega
            · simp at h

/-- Expands every escape sequence of a byte string whose first byte stands at `offset`
of the line. -/
def unescapeAt (offset : Nat) (bs : Bytes) : Except CommandError Bytes :=
  match bs with
  | [] => .ok []
  | b :: rest =>
    if b = backslash then
      if rest = [] then .error (.unexpectedEscape offset)
      else
        match h : decode? rest with
        | none => .error (.invalidEscape offset)
        | some (out, n) =>
          have := decode?_span_pos h
          (out ++ ·) <$> unescapeAt (offset + 1 + n) (rest.drop n)
    else (b :: ·) <$> unescapeAt (offset + 1) rest
termination_by bs.length
decreasing_by all_goals simp only [List.length_cons, List.length_drop]; omega

/-- Expands every escape sequence of a byte string, counting positions from zero. -/
def unescape (bs : Bytes) : Except CommandError Bytes := unescapeAt 0 bs

end LineCommands.Escape
