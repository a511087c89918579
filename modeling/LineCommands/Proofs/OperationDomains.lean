import LineCommands.Proofs.TokenScan
import LineCommands.Proofs.CodecRoundTrip
/-!
# The tokenizer stays inside the domains of its operations

Reading a token takes operations that are defined only on part of their inputs: the byte
where a token starts and the slice of its body must lie inside the line, the decoder of one
escape reads the byte after the backslash, the digits of an escape are summed in a 32-bit
word, the value of a `\x` escape is narrowed to a byte, the value of a `\u` escape is handed
to the code point codec, and the conversion of a token into a value has an arm that is
reserved for the kinds answered before it. The library's definitions are total: outside
these domains they still give some answer, and nothing in their results shows whether that
ever happens.

Here the same functions are written with every such operation checked (`Checked`): an
operation outside its domain gives the `Fault` it commits instead of a result. The checked
functions follow the library's call for call. The guard that keeps each operation inside its
domain sits in another function than the operation: the cursor's test that a token starts
before the end of the line, the decoder loop's test that a byte follows the backslash, the
fixed number of digits of each escape, and the early answers for raw text, the full rest and
the custom kind.

## What this module delivers

- `Fault` and the checked operations of `Checked`.
- `Escape.digitsValueChecked_eq`, `Escape.digitsValue?_lt`: a fold of `n` digits from
  `acc` stays below `(acc + 1) * radix ^ n`, so short folds fit a 32-bit word.
- `Escape.decodeChecked_eq`: one escape sequence after a backslash decodes without a fault.
- `Escape.unescapeAtChecked_eq`: a whole byte string does.
- `Token.extractChecked_eq`: a token that starts inside the line is extracted without a
  fault; `ArgValue.readChecked_eq`: a token of any kind but the full rest and the custom one
  is converted without one.
- `LineCursor.requests_stay_in_domain`: the main statement. From every cursor, every value
  and custom request runs without a fault and answers what the library's cursor answers.
-/

namespace LineCommands

/-- An operation of the tokenizer taken outside its domain. -/
inductive Fault where
  /-- The token or the rest read from an offset `pos` that is not before the end `len`. -/
  | pastEnd (pos len : Nat)
  /-- A slice `[lo, hi)` of a byte string of length `len` that does not lie inside it. -/
  | sliceOutside (lo hi len : Nat)
  /-- An escape sequence decoded from no bytes at all. -/
  | emptyEscape
  /-- A digit sum whose 32-bit accumulator would have to hold `value`. -/
  | digitOverflow (value : Nat)
  /-- A byte cast of a value that does not fit a byte. -/
  | lossyCast (value : Nat)
  /-- A `\u` value the code point codec refuses. -/
  | unencodable (codePoint : Nat)
  /-- A kind at the conversion arm reserved for the kinds answered before conversion. -/
  | unreachableKind (kind : ArgKind)
  deriving DecidableEq, Repr

/-! ## The checked operations -/

namespace Checked

/-- The byte at offset `i`. -/
def byteAt (bs : Bytes) (i : Nat) : Except Fault UInt8 :=
  match bs[i]? with
  | some b => .ok b
  | none => .error (.pastEnd i bs.length)

/-- The bytes from offset `i` on, read as the full rest: `i` must be before the end. -/
def restFrom (bs : Bytes) (i : Nat) : Except Fault Bytes :=
  if i < bs.length then .ok (bs.drop i) else .error (.pastEnd i bs.length)

/-- The bytes at offsets `lo` up to `hi`, excluded. -/
def slice (bs : Bytes) (lo hi : Nat) : Except Fault Bytes :=
  if lo ≤ hi ∧ hi ≤ bs.length then .ok ((bs.drop lo).take (hi - lo))
  else .error (.sliceOutside lo hi bs.length)

/-- A value stored in a 32-bit word. -/
def word (n : Nat) : Except Fault Nat :=
  if n < UInt32.size then .ok n else .error (.digitOverflow n)

/-- A value narrowed to a byte; no bit may be lost. -/
def toByte (v : Nat) : Except Fault UInt8 :=
  if v < 256 then .ok (UInt8.ofNat v) else .error (.lossyCast v)

/-- The codec's octets of a code point; the codec must accept it. -/
def encode (cp : Nat) : Except Fault Bytes :=
  match Utf8.encode cp with
  | .ok bs => .ok bs
  | .error _ => .error (.unencodable cp)

theorem byteAt_of_getElem? {bs : Bytes} {i : Nat} {b : UInt8} (h : bs[i]? = some b) :
    byteAt bs i = .ok b := by
  simp [byteAt, h]

theorem restFrom_of_lt {bs : Bytes} {i : Nat} (h : i < bs.length) :
    restFrom bs i = .ok (bs.drop i) := by
  simp [restFrom, h]

theorem slice_of_le {bs : Bytes} {lo hi : Nat} (hlo : lo ≤ hi) (hhi : hi ≤ bs.length) :
    slice bs lo hi = .ok ((bs.drop lo).take (hi - lo)) := by
  simp [slice, hlo, hhi]

theorem word_of_lt {n : Nat} (h : n < UInt32.size) : word n = .ok n := by
  simp [word, h]

theorem toByte_of_lt {v : Nat} (h : v < 256) : toByte v = .ok (UInt8.ofNat v) := by
  simp [toByte, h]

theorem encode_of_le {cp : Nat} (h : cp ≤ Utf8.maxCodePoint) :
    ∃ bs, Utf8.encode cp = .ok bs ∧ encode cp = .ok bs := by
  obtain ⟨bs, he, -⟩ := Utf8.encode_round_trip h
  exact ⟨bs, he, by simp [encode, he]⟩

end Checked

namespace Escape

/-! ## Summing digits in a 32-bit word -/

/-- `digitsValue?` as a 32-bit sum: each step multiplies the accumulator by the radix and
then adds the digit, and both results must fit the word. -/
def digitsValueChecked (radix acc : Nat) : Bytes → Except Fault (Option Nat)
  | [] => .ok (some acc)
  | b :: bs => do
    let shifted ← Checked.word (acc * radix)
    match digitValue? radix b with
    | none => pure none
    | some v =>
      let next ← Checked.word (shifted + v)
      digitsValueChecked radix next bs

theorem digitValue?_lt {radix v : Nat} {b : UInt8} (h : digitValue? radix b = some v) :
    v < radix := by
  unfold digitValue? at h
  simp only [Option.ite_none_right_eq_some, Option.some.injEq] at h
  obtain ⟨hlt, rfl⟩ := h
  exact hlt

/-- One more digit keeps the sum below the next multiple of the radix, also when both are
scaled by the bound of the digits after it. -/
theorem add_digit_mul_le {acc radix v : Nat} (hv : v < radix) (p : Nat) :
    (acc * radix + v + 1) * p ≤ (acc + 1) * radix * p := by
  apply Nat.mul_le_mul_right
  rw [Nat.succ_mul]
  omega

/-- The bound of a fold over `b :: bs` is the bound over `bs`, one radix further up. -/
theorem mul_pow_length_cons (k radix : Nat) (b : UInt8) (bs : Bytes) :
    k * Nat.pow radix (b :: bs).length = k * radix * Nat.pow radix bs.length := by
  rw [Nat.mul_assoc, Nat.mul_comm radix]
  rfl

theorem lt_of_succ_mul_le {x p bound : Nat} (hp : 0 < p) (h : (x + 1) * p ≤ bound) :
    x < bound :=
  Nat.lt_of_lt_of_le (Nat.lt_succ_self x) (Nat.le_trans (Nat.le_mul_of_pos_right _ hp) h)

/-- **A fold of `n` digits from `acc` stays below `(acc + 1) * radix ^ n`.** -/
theorem digitsValue?_lt {radix acc v : Nat} {ds : Bytes} (h : digitsValue? radix acc ds = some v) :
    v < (acc + 1) * Nat.pow radix ds.length := by
  induction ds generalizing acc with
  | nil =>
    rw [digitsValue?_nil_eq_some h]
    show acc < (acc + 1) * 1
    omega
  | cons b bs ih =>
    obtain ⟨d, hd, hrest⟩ := digitsValue?_cons_eq_some h
    calc v < (acc * radix + d + 1) * Nat.pow radix bs.length := ih hrest
      _ ≤ (acc + 1) * radix * Nat.pow radix bs.length := add_digit_mul_le (digitValue?_lt hd) _
      _ = (acc + 1) * Nat.pow radix (b :: bs).length := (mul_pow_length_cons _ _ b bs).symm

/-- **A short digit fold fits a 32-bit word**: when `(acc + 1) * radix ^ n` does, every
product and sum of the fold over `n` digits does, and the checked fold gives the value. -/
theorem digitsValueChecked_eq {radix acc : Nat} {ds : Bytes}
    (h : (acc + 1) * Nat.pow radix ds.length ≤ UInt32.size) :
    digitsValueChecked radix acc ds = .ok (digitsValue? radix acc ds) := by
  induction ds generalizing acc with
  | nil => rfl
  | cons b bs ih =>
    rw [mul_pow_length_cons] at h
    -- the product of this step is its sum with a zero digit, so it fits when a digit can follow
    have hprod : acc * radix < UInt32.size := by
      rcases Nat.eq_zero_or_pos radix with h0 | hpos
      · rw [h0, Nat.mul_zero]
        decide
      · exact lt_of_succ_mul_le (Nat.pow_pos hpos) (Nat.le_trans (add_digit_mul_le hpos _) h)
    simp only [digitsValueChecked, Checked.word_of_lt hprod, bind, Except.bind]
    cases hd : digitValue? radix b with
    | none => simp [digitsValue?, hd, pure, Except.pure]
    | some v =>
      have hv := digitValue?_lt hd
      have hnext := Nat.le_trans (add_digit_mul_le hv _) h
      have hsum := lt_of_succ_mul_le (Nat.pow_pos (Nat.lt_of_le_of_lt (Nat.zero_le v) hv)) hnext
      simp only [Checked.word_of_lt hsum]
      rw [Spelling.digitsValue?_cons hd]
      exact ih hnext

-- eight hexadecimal digits fill the word; a ninth overflows it at the product
example : digitsValueChecked 16 0 (List.replicate 8 70) = .ok (some 4294967295) ∧
    digitsValueChecked 16 0 (List.replicate 9 70) = .error (.digitOverflow 68719476720) :=
  ⟨rfl, rfl⟩

theorem digitsValueChecked_take {radix n : Nat} {ds : Bytes} (hn : n ≤ ds.length)
    (hB : Nat.pow radix n ≤ UInt32.size) :
    digitsValueChecked radix 0 (ds.take n) = .ok (digitsValue? radix 0 (ds.take n)) := by
  apply digitsValueChecked_eq
  rw [List.length_take_of_le hn, Nat.zero_add, Nat.one_mul]
  exact hB

theorem digitsValue?_take_lt {radix n v : Nat} {ds : Bytes} (hn : n ≤ ds.length)
    (h : digitsValue? radix 0 (ds.take n) = some v) : v < Nat.pow radix n := by
  have hlt := digitsValue?_lt h
  rwa [List.length_take_of_le hn, Nat.zero_add, Nat.one_mul] at hlt

/-! ## One escape sequence -/

/-- `decode?` with its operations checked: it reads the byte after the backslash, sums the
digits of a `\x`, `\u` or octal escape in a 32-bit word, narrows the value of a `\x`
escape to a byte and hands the value of a `\u` escape to the codec. -/
def decodeChecked (seq : Bytes) : Except Fault (Option (Bytes × Nat)) :=
  match seq with
  | [] => .error .emptyEscape
  | c :: rest =>
    match simple? c with
    | some b => pure (some ([b], 1))
    | none =>
      if c.toNat = 120 then
        if rest.length < 2 then pure none
        else do
          match ← digitsValueChecked 16 0 (rest.take 2) with
          | none => pure none
          | some v =>
            let b ← Checked.toByte v
            pure (some ([b], 3))
      else if c.toNat = 117 then
        if rest.length < 4 then pure none
        else do
          match ← digitsValueChecked 16 0 (rest.take 4) with
          | none => pure none
          | some v =>
            let bs ← Checked.encode v
            pure (some (bs, 5))
      else if seq.length < 3 then pure none
      else do
        match ← digitsValueChecked 8 0 (seq.take 3) with
        | none => pure none
        | some v => pure (if v ≤ 255 then some ([UInt8.ofNat v], 3) else none)

/-- **An escape sequence after a backslash decodes without a fault**: its two, four or three
digits fit the word, a `\x` value fits a byte, and the codec takes every `\u` value. -/
theorem decodeChecked_eq (c : UInt8) (rest : Bytes) :
    decodeChecked (c :: rest) = .ok (decode? (c :: rest)) := by
  cases hs : simple? c with
  | some b => simp [decodeChecked, decode?, hs, pure, Except.pure]
  | none =>
    simp only [decodeChecked, decode?, hs]
    split_ifs with hx hxlen hu hulen hoctlen
    · rfl
    · -- `\x` and two hexadecimal digits: at most `0xFF`
      have hlen : 2 ≤ rest.length := by omega
      rw [digitsValueChecked_take hlen (by decide)]
      cases hv : digitsValue? 16 0 (rest.take 2) with
      | none => rfl
      | some v =>
        have hlt : v < 256 := digitsValue?_take_lt hlen hv
        simp [Checked.toByte_of_lt hlt, bind, Except.bind, pure, Except.pure]
    · rfl
    · -- `\u` and four hexadecimal digits: at most `0xFFFF`, inside the codec's range
      have hlen : 4 ≤ rest.length := by omega
      rw [digitsValueChecked_take hlen (by decide)]
      cases hv : digitsValue? 16 0 (rest.take 4) with
      | none => rfl
      | some v =>
        have hlt : v < 65536 := digitsValue?_take_lt hlen hv
        have hcp : v ≤ Utf8.maxCodePoint := by
          unfold Utf8.maxCodePoint
          omega
        obtain ⟨bs, he, hc⟩ := Checked.encode_of_le hcp
        simp [hc, he, bind, Except.bind, pure, Except.pure, Except.toOption]
    · rfl
    · -- three octal digits: at most `0o777`
      have hlen : 3 ≤ (c :: rest).length := by omega
      rw [digitsValueChecked_take hlen (by decide)]
      cases hv : digitsValue? 8 0 ((c :: rest).take 3) with
      | none => rfl
      | some v => simp [bind, Except.bind, pure, Except.pure]

/-- What the checked decoder answers is what the decoder answers. -/
theorem decode?_of_decodeChecked {seq : Bytes} {r : Option (Bytes × Nat)}
    (h : decodeChecked seq = .ok r) : decode? seq = r := by
  cases seq with
  | nil => cases h
  | cons c rest =>
    rw [decodeChecked_eq] at h
    exact Except.ok.inj h

theorem decodeChecked_span_pos {seq out : Bytes} {n : Nat}
    (h : decodeChecked seq = .ok (some (out, n))) : 0 < n :=
  decode?_span_pos (decode?_of_decodeChecked h)

/-! ## A whole byte string -/

/-- `unescapeAt` with the decoding of each escape checked. -/
def unescapeAtChecked (offset : Nat) (bs : Bytes) : Except Fault (Except CommandError Bytes) :=
  match bs with
  | [] => pure (.ok [])
  | b :: rest =>
    if b = backslash then
      if rest = [] then pure (.error (.unexpectedEscape offset))
      else
        match h : decodeChecked rest with
        | .error f => .error f
        | .ok none => pure (.error (.invalidEscape offset))
        | .ok (some (out, n)) =>
          have := decodeChecked_span_pos h
          (fun r => (out ++ ·) <$> r) <$> unescapeAtChecked (offset + 1 + n) (rest.drop n)
    else (fun r => (b :: ·) <$> r) <$> unescapeAtChecked (offset + 1) rest
termination_by bs.length
decreasing_by all_goals simp only [List.length_cons, List.length_drop]; omega

/-- The decoder loop at a backslash that is not the last byte: it decodes one escape after
it and goes on after the escape. -/
theorem unescapeAt_backslash {rest : Bytes} (hr : rest ≠ []) (off : Nat) :
    unescapeAt off (backslash :: rest) =
      match decode? rest with
      | none => .error (.invalidEscape off)
      | some (out, n) => (out ++ ·) <$> unescapeAt (off + 1 + n) (rest.drop n) := by
  rw [unescapeAt, if_pos rfl, if_neg hr]
  split <;> rename_i h <;> simp only [h]

/-- **A byte string is unescaped without a fault**: the decoder is handed only the bytes
after a backslash that is not the last byte. -/
theorem unescapeAtChecked_eq (offset : Nat) (bs : Bytes) :
    unescapeAtChecked offset bs = .ok (unescapeAt offset bs) := by
  fun_induction unescapeAtChecked offset bs with
  | case1 off => rw [unescapeAt]; rfl
  | case2 off => rw [unescapeAt]; simp [pure, Except.pure]
  | case3 off rest hr f h =>
    -- bytes follow the backslash, so the decoder is not handed nothing
    obtain ⟨c, r, rfl⟩ := List.exists_cons_of_ne_nil hr
    rw [decodeChecked_eq] at h
    cases h
  | case4 off rest hr h =>
    rw [unescapeAt_backslash hr, decode?_of_decodeChecked h]
    rfl
  | case5 off rest hr out n h _ ih =>
    rw [unescapeAt_backslash hr, decode?_of_decodeChecked h, ih]
    rfl
  | case6 off b rest hb ih =>
    rw [ih, unescapeAt, if_neg hb]
    rfl

end Escape

namespace Token

/-! ## A token of the line -/

/-- `extract` as it runs on the bytes of the whole line: it reads the byte at `pos`, scans
the token from there, and slices the token's body out of the line before unescaping it. -/
def extractChecked (bytes : Bytes) (pos : Nat) :
    Except Fault (Except CommandError (Bytes × Nat)) := do
  let b ← Checked.byteAt bytes pos
  if isQuote b then
    match quotedBody b (bytes.drop (pos + 1)) with
    | none => pure (.error (.unclosedQuote pos))
    | some n =>
      -- the closing quote stands at offset `pos + 1 + n`
      let body ← Checked.slice bytes (pos + 1) (pos + 1 + n)
      let r ← Escape.unescapeAtChecked (pos + 1) body
      pure ((fun out => (out, n + 2)) <$> r)
  else
    match bareLength (bytes.drop pos) with
    | .error i => pure (.error (.unexpectedEscape (pos + i)))
    | .ok n =>
      let body ← Checked.slice bytes pos (pos + n)
      let r ← Escape.unescapeAtChecked pos body
      pure ((fun out => (out, n)) <$> r)

/-- **A token that starts inside the line is extracted without a fault**: its first byte is
in the line, and so is the body that either scan delimits. -/
theorem extractChecked_eq {bytes : Bytes} {pos : Nat} (h : pos < bytes.length) :
    extractChecked bytes pos = .ok (extract pos (bytes.drop pos)) := by
  have hsplit : bytes.drop pos = bytes[pos] :: bytes.drop (pos + 1) :=
    List.drop_eq_getElem_cons h
  simp only [extractChecked, Checked.byteAt_of_getElem? (List.getElem?_eq_getElem h), bind,
    Except.bind]
  rw [hsplit, extract]
  split_ifs with hq
  · -- a quoted token: its body ends before the closing quote, inside the line
    cases hn : quotedBody bytes[pos] (bytes.drop (pos + 1)) with
    | none => rfl
    | some n =>
      obtain ⟨body, rest, heq, rfl, -⟩ := quotedBody_eq_some hn
      have hle : pos + 1 + body.length ≤ bytes.length := by
        have hlen := congrArg List.length heq
        simp only [List.length_drop, List.length_append, List.length_cons] at hlen
        omega
      simp only [Checked.slice_of_le (Nat.le_add_right _ _) hle, Escape.unescapeAtChecked_eq,
        Nat.add_sub_cancel_left]
      rfl
  · -- a bare token ends at the end of the line at the latest
    cases hn : bareLength (bytes[pos] :: bytes.drop (pos + 1)) with
    | error i => rfl
    | ok n =>
      obtain ⟨body, rest, heq, rfl, -⟩ := bareLength_eq_ok hn
      have hle : pos + body.length ≤ bytes.length := by
        have hlen := congrArg List.length heq
        rw [← hsplit, List.length_drop, List.length_append] at hlen
        omega
      simp only [Checked.slice_of_le (Nat.le_add_right _ _) hle, Escape.unescapeAtChecked_eq,
        Nat.add_sub_cancel_left, hsplit]
      rfl

end Token

namespace ArgValue

/-! ## Converting a token -/

/-- `read` as the conversion runs: raw text is answered first, a token that is not UTF-8 is
refused, and the conversion proper has an arm for raw text, the full rest and the custom
kind, which must never be reached. -/
def readChecked (k : ArgKind) (token : Bytes) : Except Fault (Except CommandError ArgValue) :=
  if k = .text then pure (.ok (.text token))
  else
    match Utf8.toText? token with
    | none => pure (.error (.invalidArgument k (Utf8.lossy token)))
    | some s =>
      match k with
      | .text | .full | .custom => .error (.unreachableKind k)
      | _ => pure (readText k s)

/-- **A token of any kind but the full rest and the custom one is converted without
reaching the unreachable arm.** -/
theorem readChecked_eq {k : ArgKind} (hf : k ≠ .full) (hc : k ≠ .custom) (token : Bytes) :
    readChecked k token = .ok (read k token) := by
  cases k
  case full => exact absurd rfl hf
  case custom => exact absurd rfl hc
  -- raw text is answered before conversion, every other kind reaches its own arm
  all_goals
    unfold readChecked read
    cases Utf8.toText? token <;> rfl

end ArgValue

namespace LineCursor

/-! ## Requests -/

variable (c : LineCursor)

/-- `nextValue` with its operations checked: the full rest is read from the cursor's
position, a token is extracted there and converted. -/
def nextValueChecked (k : ArgKind) (required : Bool) :
    Except Fault (LineCursor × Except CommandError (Option ArgValue)) :=
  if k = .custom then pure (c, .error (.unknownCustomType ""))
  else if c.remainderTaken then pure (c, .error .argumentsAfterRemainder)
  else
    let c := c.skipSpaces
    if c.line.length ≤ c.pos then pure (c, missing required)
    else if k = .full then do
      let rest ← Checked.restFrom c.line c.pos
      match ← Escape.unescapeAtChecked c.pos rest with
      | .error e => pure (c, .error e)
      | .ok out =>
        pure ({ c with pos := c.line.length, argPos := c.argPos + 1, remainderTaken := true },
          .ok (some (.full out)))
    else do
      match ← Token.extractChecked c.line c.pos with
      | .error e => pure (c, .error e)
      | .ok (token, n) =>
        match ← ArgValue.readChecked k token with
        | .error e => pure (c, .error e)
        | .ok v => pure ({ c with pos := c.pos + n, argPos := c.argPos + 1 }, .ok (some v))

/-- `nextCustom` with its operations checked: a token is extracted at the cursor's position. -/
def nextCustomChecked (name : String) (required : Bool) :
    Except Fault (LineCursor × Except CommandError (Option String)) :=
  match c.types.bind (·.find? name) with
  | none => pure (c, .error (.unknownCustomType name))
  | some parser =>
    if c.remainderTaken then pure (c, .error .argumentsAfterRemainder)
    else
      let c := c.skipSpaces
      if c.line.length ≤ c.pos then pure (c, missing required)
      else do
        match ← Token.extractChecked c.line c.pos with
        | .error e => pure (c, .error e)
        | .ok (token, n) =>
          let text := Utf8.lossy token
          match parser text with
          | .error _ => pure (c, .error (.invalidArgument .custom text))
          | .ok v => pure ({ c with pos := c.pos + n, argPos := c.argPos + 1 }, .ok (some v))

/-- A value request runs without a fault: the full rest and a token are read only from a
position before the end of the line, and the custom kind and the full rest are answered
before conversion. -/
theorem nextValueChecked_eq (k : ArgKind) (r : Bool) :
    c.nextValueChecked k r = .ok (c.nextValue k r) := by
  unfold nextValueChecked nextValue restBytes
  dsimp only
  split_ifs with hk hr hend hfull
  · rfl
  · rfl
  · rfl
  · -- the full rest, read from a position before the end
    rw [Checked.restFrom_of_lt (Nat.lt_of_not_le hend)]
    simp only [bind, Except.bind, Escape.unescapeAtChecked_eq]
    cases Escape.unescapeAt c.skipSpaces.pos (c.skipSpaces.line.drop c.skipSpaces.pos) <;> rfl
  · -- a token, extracted at a position before the end and converted as a kind that
    -- conversion answers
    rw [Token.extractChecked_eq (Nat.lt_of_not_le hend)]
    simp only [bind, Except.bind]
    cases Token.extract c.skipSpaces.pos (c.skipSpaces.line.drop c.skipSpaces.pos) with
    | error e => rfl
    | ok p =>
      simp only [ArgValue.readChecked_eq hfull hk]
      cases ArgValue.read k p.1 <;> rfl

/-- A custom request runs without a fault: its token is read only from a position before the
end of the line. -/
theorem nextCustomChecked_eq (name : String) (r : Bool) :
    c.nextCustomChecked name r = .ok (c.nextCustom name r) := by
  unfold nextCustomChecked nextCustom restBytes
  cases c.types.bind (·.find? name) with
  | none => rfl
  | some parser =>
    dsimp only
    split_ifs with hr hend
    · rfl
    · rfl
    · -- a token, extracted at a position before the end
      rw [Token.extractChecked_eq (Nat.lt_of_not_le hend)]
      simp only [bind, Except.bind]
      cases Token.extract c.skipSpaces.pos (c.skipSpaces.line.drop c.skipSpaces.pos) with
      | error e => rfl
      | ok p =>
        obtain ⟨token, n⟩ := p
        dsimp only
        cases parser (Utf8.lossy token) <;> rfl

/-- **Every request of a line cursor keeps the tokenizer's operations inside their
domains.** From every cursor, and so at every step of every run of requests over every line,
a value request of any kind and a custom request of any name, required or not, run without a
fault and answer what the cursor answers: a token or the full rest is read only from a
position before the end of the line, and the slice of a token's body lies inside the line;
the escape decoder is handed only the bytes after a backslash that is not the last byte;
the digits of an escape are summed without leaving a 32-bit word; the value of a `\x` escape
fits a byte; the codec takes the value of every `\u` escape; and conversion never reaches the
arm of raw text, the full rest and the custom kind. -/
theorem requests_stay_in_domain (c : LineCursor) :
    (∀ k r, c.nextValueChecked k r = .ok (c.nextValue k r)) ∧
      ∀ name r, c.nextCustomChecked name r = .ok (c.nextCustom name r) :=
  ⟨c.nextValueChecked_eq, c.nextCustomChecked_eq⟩

end LineCursor

end LineCommands
