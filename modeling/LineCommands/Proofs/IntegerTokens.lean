import LineCommands.Proofs.FailedRequest
/-!
# Integer tokens

A token read as an integer kind must be UTF-8 text. Its text is then read as a decimal
literal `[+-]?[0-9]+` into the 128-bit signed range, and the value is checked against the
kind's range. This module classifies every token.

* A literal whose value lies in the kind's range is read as that value.
* The error is `outOfRange` with the token's text when the text is a literal whose value
  lies outside the kind's range, at any magnitude. It is also `outOfRange` when, after an
  optional sign, the digits in front of the first other character already leave the
  128-bit range: the literal reader stops there, before it sees that the text is no
  literal (`IntegerLiteral.Overflows`).
* Every other token is `invalidArgument`, showing the token's text with replacement
  characters.

## What this module delivers

- `IntegerLiteral.decimal`, `IntegerLiteral.Literal` and `IntegerLiteral.Overflows`: the
  shapes of a text.
- `IntegerLiteral.read_eq_ok_iff`, `IntegerLiteral.read_eq_overflow_iff`,
  `IntegerLiteral.read_eq_malformed_iff`: what the literal reader answers.
- `ArgValue.ofInt?_eq_some_iff`: the value of an integer kind holding an integer in its
  range.
- `ArgValue.read_integer_token`: the main statement.
- `ArgValue.long_digits_before_letter_are_out_of_range`: a token that is no literal and is
  still `outOfRange`.
-/

namespace LineCommands

namespace IntegerLiteral

/-! ## Decimal values and the shapes of a text -/

/-- The value of decimal digits, most significant first, read after the value `acc`. -/
def decimal (acc : Nat) (ds : List Char) : Nat := ds.foldl (fun n c => n * 10 + (c.toNat - 48)) acc

/-- Every character is an ASCII digit. -/
def AllDigits (ds : List Char) : Prop := ∀ c ∈ ds, c.isDigit

/-- `cs` is a decimal literal `[+-]?[0-9]+` and `v` its value. -/
inductive Literal : List Char → Int → Prop where
  | bare {ds : List Char} : ds ≠ [] → AllDigits ds → Literal ds (decimal 0 ds)
  | plus {ds : List Char} : ds ≠ [] → AllDigits ds → Literal ('+' :: ds) (decimal 0 ds)
  | minus {ds : List Char} : ds ≠ [] → AllDigits ds → Literal ('-' :: ds) (-(decimal 0 ds : Int))

/-- After an optional sign, the digits in front of the first other character (or of the
end) exceed the 128-bit signed range: `2 ^ 127 - 1`, or `2 ^ 127` after a minus sign. -/
inductive Overflows : List Char → Prop where
  | bare {cs : List Char} : bound false < decimal 0 (cs.takeWhile Char.isDigit) → Overflows cs
  | plus {body : List Char} : bound false < decimal 0 (body.takeWhile Char.isDigit) →
      Overflows ('+' :: body)
  | minus {body : List Char} : bound true < decimal 0 (body.takeWhile Char.isDigit) →
      Overflows ('-' :: body)

@[simp] theorem decimal_nil (acc : Nat) : decimal acc [] = acc := rfl

@[simp] theorem decimal_cons (acc : Nat) (c : Char) (ds : List Char) :
    decimal acc (c :: ds) = decimal (acc * 10 + (c.toNat - 48)) ds := by
  simp only [decimal, List.foldl_cons]

/-- Reading more digits never makes a value smaller. -/
theorem le_decimal (acc : Nat) (ds : List Char) : acc ≤ decimal acc ds := by
  induction ds generalizing acc with
  | nil => exact Nat.le_refl acc
  | cons c ds ih =>
    rw [decimal_cons]
    exact Nat.le_trans (by omega) (ih _)

theorem AllDigits.nil : AllDigits [] := by simp [AllDigits]

theorem AllDigits.cons_iff {c : Char} {ds : List Char} :
    AllDigits (c :: ds) ↔ c.isDigit ∧ AllDigits ds := by
  simp [AllDigits]

theorem allDigits_takeWhile (cs : List Char) : AllDigits (cs.takeWhile Char.isDigit) := by
  induction cs with
  | nil => exact AllDigits.nil
  | cons c cs ih =>
    by_cases hc : c.isDigit
    · rw [List.takeWhile_cons_of_pos hc]
      exact AllDigits.cons_iff.2 ⟨hc, ih⟩
    · rw [List.takeWhile_cons_of_neg hc]
      exact AllDigits.nil

theorem takeWhile_of_allDigits {ds : List Char} (hd : AllDigits ds) :
    ds.takeWhile Char.isDigit = ds := by
  induction ds with
  | nil => rfl
  | cons c ds ih =>
    obtain ⟨hc, hds⟩ := AllDigits.cons_iff.1 hd
    rw [List.takeWhile_cons_of_pos hc, ih hds]

/-! ## Reading digits -/

section Digits

variable {neg : Bool} {acc : Nat}

/-- Digits that keep the value within the bound are all read, whatever follows. -/
theorem digits_append_of_le {ds : List Char} (rest : List Char) (hd : AllDigits ds)
    (hle : decimal acc ds ≤ bound neg) :
    digits neg acc (ds ++ rest) = digits neg (decimal acc ds) rest := by
  induction ds generalizing acc with
  | nil => rfl
  | cons c ds ih =>
    obtain ⟨hc, hds⟩ := AllDigits.cons_iff.1 hd
    rw [decimal_cons] at hle
    -- the value after `c` is within the bound, since the later digits only add to it
    have hstep : ¬bound neg < acc * 10 + (c.toNat - 48) :=
      Nat.not_lt.2 (Nat.le_trans (le_decimal _ ds) hle)
    simp only [List.cons_append, digits, hc, if_true, hstep, if_false]
    exact ih hds hle

/-- Digits whose value passes the bound are an overflow, whatever follows them. -/
theorem digits_append_of_lt {ds : List Char} (rest : List Char) (hd : AllDigits ds)
    (hacc : acc ≤ bound neg) (hlt : bound neg < decimal acc ds) :
    digits neg acc (ds ++ rest) = .error .overflow := by
  induction ds generalizing acc with
  | nil => exact absurd hlt (Nat.not_lt.2 hacc)
  | cons c ds ih =>
    obtain ⟨hc, hds⟩ := AllDigits.cons_iff.1 hd
    simp only [List.cons_append, digits, hc, if_true]
    split
    · rfl
    · exact ih hds (Nat.le_of_not_lt ‹_›) hlt

/-- Within the bound, the digit run in front is read, and the text is a value exactly when
it is all digits; otherwise the first other character makes it malformed. -/
theorem digits_of_takeWhile_le (body : List Char)
    (hle : decimal 0 (body.takeWhile Char.isDigit) ≤ bound neg) :
    AllDigits body ∧ digits neg 0 body = .ok (decimal 0 body) ∨
      ¬AllDigits body ∧ digits neg 0 body = .error .malformed := by
  have hsplit := List.takeWhile_append_dropWhile (p := Char.isDigit) (l := body)
  have hread := digits_append_of_le (body.dropWhile Char.isDigit) (allDigits_takeWhile body) hle
  rw [hsplit] at hread
  cases hrest : body.dropWhile Char.isDigit with
  | nil =>
    rw [hrest, List.append_nil] at hsplit
    rw [hrest, hsplit] at hread
    refine .inl ⟨?_, ?_⟩
    · rw [← hsplit]
      exact allDigits_takeWhile body
    · rw [hread]
      rfl
  | cons c rest =>
    -- the first character after the digit run is no digit
    have hc : c.isDigit = false := by
      have := List.head_dropWhile_not Char.isDigit (l := body) (by simp [hrest])
      simpa [hrest] using this
    refine .inr ⟨fun hall => ?_, ?_⟩
    · have hmem : c ∈ body := by
        rw [← hsplit, hrest]
        simp
      simp [hall c hmem] at hc
    · rw [hread, hrest]
      simp [digits, hc]

/-- Past the bound, the digit run in front is an overflow. -/
theorem digits_of_bound_lt_takeWhile (body : List Char)
    (hlt : bound neg < decimal 0 (body.takeWhile Char.isDigit)) :
    digits neg 0 body = .error .overflow := by
  rw [← List.takeWhile_append_dropWhile (p := Char.isDigit) (l := body)]
  exact digits_append_of_lt _ (allDigits_takeWhile body) (Nat.zero_le _) hlt

end Digits

/-! ## The reader's three routes

A text that is empty or a lone sign is malformed. After a `+` or a `-` the rest is read as
digits; any other text is read as digits from its first character. -/

theorem read_plus {body : List Char} (hb : body ≠ []) :
    read ('+' :: body) = Int.ofNat <$> digits false 0 body := by
  match body, hb with
  | c :: body, _ => rfl

theorem read_minus {body : List Char} (hb : body ≠ []) :
    read ('-' :: body) = (fun n => -(n : Int)) <$> digits true 0 body := by
  match body, hb with
  | c :: body, _ => rfl

theorem read_bare {c : Char} {body : List Char} (hp : c ≠ '+') (hm : c ≠ '-') :
    read (c :: body) = Int.ofNat <$> digits false 0 (c :: body) := by
  unfold read
  split <;> simp_all

/-! ## What the reader answers -/

theorem ne_nil_of_bound_lt {neg : Bool} {ds : List Char} (h : bound neg < decimal 0 ds) :
    ds ≠ [] := by
  rintro rfl
  exact absurd h (Nat.not_lt_zero _)

theorem ne_sign_of_isDigit {c : Char} (hc : c.isDigit) : c ≠ '+' ∧ c ≠ '-' := by
  constructor <;> rintro rfl <;> exact absurd hc (by decide)

/-- Digits beyond the 128-bit range are an overflow, whatever follows them. -/
theorem Overflows.read {cs : List Char} (h : Overflows cs) : read cs = .error .overflow := by
  cases h with
  | bare hlt =>
    -- the digit run is not empty, so the text starts with a digit and not with a sign
    have hne := ne_nil_of_bound_lt hlt
    have hcs : cs ≠ [] := by
      rintro rfl
      exact hne rfl
    obtain ⟨c, body, rfl⟩ := List.exists_cons_of_ne_nil hcs
    have hc : c.isDigit := by
      cases hcd : c.isDigit
      · simp [List.takeWhile_cons_of_neg, hcd] at hne
      · rfl
    obtain ⟨hp, hm⟩ := ne_sign_of_isDigit hc
    rw [read_bare hp hm, digits_of_bound_lt_takeWhile _ hlt]
    rfl
  | @plus body hlt =>
    have hne : body ≠ [] := fun h => ne_nil_of_bound_lt hlt (by simp [h])
    rw [read_plus hne, digits_of_bound_lt_takeWhile _ hlt]
    rfl
  | @minus body hlt =>
    have hne : body ≠ [] := fun h => ne_nil_of_bound_lt hlt (by simp [h])
    rw [read_minus hne, digits_of_bound_lt_takeWhile _ hlt]
    rfl

theorem digits_of_allDigits {neg : Bool} {ds : List Char} (hd : AllDigits ds)
    (hle : decimal 0 ds ≤ bound neg) : digits neg 0 ds = .ok (decimal 0 ds) := by
  have := digits_append_of_le [] hd hle
  rwa [List.append_nil] at this

/-- A literal whose digits stay within the 128-bit range is read as its value. -/
theorem Literal.read {cs : List Char} {v : Int} (h : Literal cs v) (hno : ¬Overflows cs) :
    read cs = .ok v := by
  cases h with
  | bare hne hd =>
    have hle : decimal 0 cs ≤ bound false := Nat.le_of_not_lt fun hlt => hno
      (.bare (by rwa [takeWhile_of_allDigits hd]))
    obtain ⟨c, ds, rfl⟩ := List.exists_cons_of_ne_nil hne
    obtain ⟨hp, hm⟩ := ne_sign_of_isDigit (AllDigits.cons_iff.1 hd).1
    rw [read_bare hp hm, digits_of_allDigits hd hle]
    rfl
  | @plus ds hne hd =>
    have hle : decimal 0 ds ≤ bound false := Nat.le_of_not_lt fun hlt => hno
      (.plus (by rwa [takeWhile_of_allDigits hd]))
    rw [read_plus hne, digits_of_allDigits hd hle]
    rfl
  | @minus ds hne hd =>
    have hle : decimal 0 ds ≤ bound true := Nat.le_of_not_lt fun hlt => hno
      (.minus (by rwa [takeWhile_of_allDigits hd]))
    rw [read_minus hne, digits_of_allDigits hd hle]
    rfl

theorem digits_of_not_allDigits {neg : Bool} {body : List Char}
    (hno : ¬bound neg < decimal 0 (body.takeWhile Char.isDigit)) (hnd : ¬AllDigits body) :
    digits neg 0 body = .error .malformed :=
  ((digits_of_takeWhile_le body (Nat.le_of_not_lt hno)).resolve_left fun h => hnd h.1).2

/-- A text that is no literal and does not overflow is malformed. -/
theorem read_of_not_literal {cs : List Char} (hno : ¬Overflows cs) (hnl : ∀ v, ¬Literal cs v) :
    read cs = .error .malformed := by
  rcases cs with _ | ⟨c, body⟩
  · rfl
  -- the three routes: after `+`, after `-`, or from the first character
  by_cases hp : c = '+'
  · subst hp
    rcases body with _ | ⟨d, body⟩
    · rfl
    rw [read_plus (List.cons_ne_nil _ _), digits_of_not_allDigits
      (fun h => hno (.plus h)) (fun h => hnl _ (.plus (List.cons_ne_nil _ _) h))]
    rfl
  by_cases hm : c = '-'
  · subst hm
    rcases body with _ | ⟨d, body⟩
    · rfl
    rw [read_minus (List.cons_ne_nil _ _), digits_of_not_allDigits
      (fun h => hno (.minus h)) (fun h => hnl _ (.minus (List.cons_ne_nil _ _) h))]
    rfl
  rw [read_bare hp hm, digits_of_not_allDigits
    (fun h => hno (.bare h)) (fun h => hnl _ (.bare (List.cons_ne_nil _ _) h))]
  rfl

/-- **The reader overflows** exactly when, after an optional sign, digits already leave the
128-bit range. -/
theorem read_eq_overflow_iff {cs : List Char} : read cs = .error .overflow ↔ Overflows cs := by
  refine ⟨fun h => Classical.byContradiction fun hno => ?_, Overflows.read⟩
  by_cases hl : ∃ v, Literal cs v
  · obtain ⟨v, hv⟩ := hl
    rw [hv.read hno] at h
    cases h
  · rw [read_of_not_literal hno fun v hv => hl ⟨v, hv⟩] at h
    cases h

/-- **The reader gives a value** exactly for a literal that does not overflow. -/
theorem read_eq_ok_iff {cs : List Char} {v : Int} :
    read cs = .ok v ↔ Literal cs v ∧ ¬Overflows cs := by
  refine ⟨fun h => ?_, fun ⟨hv, hno⟩ => hv.read hno⟩
  have hno : ¬Overflows cs := fun ho => by rw [ho.read] at h; cases h
  by_cases hl : ∃ v, Literal cs v
  · obtain ⟨w, hw⟩ := hl
    rw [hw.read hno] at h
    cases h
    exact ⟨hw, hno⟩
  · rw [read_of_not_literal hno fun v hv => hl ⟨v, hv⟩] at h
    cases h

/-- **The reader finds the text malformed** exactly when it is no literal and does not
overflow. -/
theorem read_eq_malformed_iff {cs : List Char} :
    read cs = .error .malformed ↔ ¬Overflows cs ∧ ∀ v, ¬Literal cs v := by
  refine ⟨fun h => ⟨fun ho => ?_, fun v hv => ?_⟩, fun ⟨hno, hnl⟩ => read_of_not_literal hno hnl⟩
  · rw [ho.read] at h
    cases h
  · have hno : ¬Overflows cs := fun ho => by rw [ho.read] at h; cases h
    rw [hv.read hno] at h
    cases h

/-- A literal within the 128-bit signed range does not overflow. -/
theorem Literal.not_overflows {cs : List Char} {v : Int} (h : Literal cs v)
    (hlo : -(bound true : Int) ≤ v) (hhi : v ≤ bound false) : ¬Overflows cs := by
  intro ho
  cases h with
  | bare hne hd =>
    cases ho with
    | bare hlt =>
      rw [takeWhile_of_allDigits hd] at hlt
      omega
    | plus => exact absurd (AllDigits.cons_iff.1 hd).1 (by decide)
    | minus => exact absurd (AllDigits.cons_iff.1 hd).1 (by decide)
  | @plus ds hne hd =>
    cases ho with
    | bare hlt =>
      rw [List.takeWhile_cons_of_neg (by decide)] at hlt
      exact absurd hlt (Nat.not_lt_zero _)
    | plus hlt =>
      rw [takeWhile_of_allDigits hd] at hlt
      omega
  | @minus ds hne hd =>
    cases ho with
    | bare hlt =>
      rw [List.takeWhile_cons_of_neg (by decide)] at hlt
      exact absurd hlt (Nat.not_lt_zero _)
    | minus hlt =>
      rw [takeWhile_of_allDigits hd] at hlt
      omega

end IntegerLiteral

/-! ## Reading a token as an integer kind -/

/-- The text of well-formed UTF-8 is also its reading with replacement characters. -/
theorem Utf8.lossy_of_toText? {t : Bytes} {s : String} (h : Utf8.toText? t = some s) :
    Utf8.lossy t = s := by
  unfold Utf8.toText? at h
  obtain ⟨cs, hcs, rfl⟩ := Option.map_eq_some_iff.1 h
  clear h
  unfold Utf8.lossy
  congr 1
  -- every piece of well-formed text is a character, which the replacement keeps
  generalize Utf8.pieces t = ps at hcs
  induction ps generalizing cs with
  | nil =>
    simp only [List.mapM_nil, pure, Option.some.injEq] at hcs
    simp [← hcs]
  | cons p ps ih =>
    simp only [List.mapM_cons, id, bind, Option.bind_eq_some_iff, pure, Option.some.injEq] at hcs
    obtain ⟨a, rfl, as, has, rfl⟩ := hcs
    simp [ih as has]

/-- Bytes below `0x80` are text, each byte one character. -/
theorem Utf8.pieces_ascii {bs : Bytes} (h : ∀ b ∈ bs, b.toNat < 0x80) :
    Utf8.pieces bs = bs.map fun b => some (Char.ofNat b.toNat) := by
  induction bs with
  | nil => simp [Utf8.pieces]
  | cons b bs ih =>
    have hstep : Utf8.scalarStep b bs = (some (Char.ofNat b.toNat), bs) := by
      simp [Utf8.scalarStep, Utf8.scalarShape, h b (by simp), Utf8.continuation]
    rw [Utf8.pieces, hstep]
    simp [ih fun x hx => h x (by simp [hx])]

theorem Utf8.toText?_ascii {bs : Bytes} (h : ∀ b ∈ bs, b.toNat < 0x80) :
    Utf8.toText? bs = some (String.ofList (bs.map fun b => Char.ofNat b.toNat)) := by
  rw [Utf8.toText?, Utf8.pieces_ascii h]
  clear h
  induction bs with
  | nil => rfl
  | cons b bs ih =>
    simp only [List.map_cons, List.mapM_cons, id, bind, Option.bind_some, Option.map_eq_some_iff] at ih ⊢
    obtain ⟨cs, hcs, hs⟩ := ih
    refine ⟨Char.ofNat b.toNat :: cs, by simp [hcs, pure], ?_⟩
    simp only [String.ofList_cons, hs]

/-- The range of every integer kind lies within the 128-bit signed range. -/
theorem ArgKind.range_within_wide {k : ArgKind} (hk : k.isInteger = true) :
    -(IntegerLiteral.bound true : Int) ≤ k.lowerBound ∧
      k.upperBound ≤ IntegerLiteral.bound false := by
  cases k <;> simp [ArgKind.isInteger] at hk <;> decide

namespace ArgValue

theorem ofInt?_eq_some_iff {k : ArgKind} (hk : k.isInteger = true) {i : Int} {w : ArgValue} :
    ofInt? k i = some w ↔ (k.lowerBound ≤ i ∧ i ≤ k.upperBound) ∧ w.kind = k ∧ w.toInt? = some i := by
  unfold ofInt?
  split_ifs with hr
  · simp only [hr, true_and]
    -- per kind: the value stored is the one read back
    cases k <;> simp [ArgKind.isInteger] at hk <;> simp only [ArgKind.lowerBound, ArgKind.upperBound] at hr <;>
      cases w <;> simp [kind, toInt?]
    · exact ⟨fun h => h ▸ Int8.toInt_ofInt_of_le hr.1 (Int.le_sub_one_iff.1 hr.2),
        fun h => h ▸ Int8.ofInt_toInt _⟩
    · exact ⟨fun h => h ▸ Int16.toInt_ofInt_of_le hr.1 (Int.le_sub_one_iff.1 hr.2),
        fun h => h ▸ Int16.ofInt_toInt _⟩
    · exact ⟨fun h => h ▸ Int32.toInt_ofInt_of_le hr.1 (Int.le_sub_one_iff.1 hr.2),
        fun h => h ▸ Int32.ofInt_toInt _⟩
    · exact ⟨fun h => h ▸ Int64.toInt_ofInt_of_le hr.1 (Int.le_sub_one_iff.1 hr.2),
        fun h => h ▸ Int64.ofInt_toInt _⟩
    · have hn : i.toNat < UInt8.size := (Int.toNat_lt hr.1).2 (Int.le_sub_one_iff.1 hr.2)
      exact ⟨fun h => h ▸ by rw [UInt8.toNat_ofNat_of_lt' hn, Int.toNat_of_nonneg hr.1],
        fun h => h ▸ by rw [Int.toNat_natCast, UInt8.ofNat_toNat]⟩
    · have hn : i.toNat < UInt16.size := (Int.toNat_lt hr.1).2 (Int.le_sub_one_iff.1 hr.2)
      exact ⟨fun h => h ▸ by rw [UInt16.toNat_ofNat_of_lt' hn, Int.toNat_of_nonneg hr.1],
        fun h => h ▸ by rw [Int.toNat_natCast, UInt16.ofNat_toNat]⟩
    · have hn : i.toNat < UInt32.size := (Int.toNat_lt hr.1).2 (Int.le_sub_one_iff.1 hr.2)
      exact ⟨fun h => h ▸ by rw [UInt32.toNat_ofNat_of_lt' hn, Int.toNat_of_nonneg hr.1],
        fun h => h ▸ by rw [Int.toNat_natCast, UInt32.ofNat_toNat]⟩
    · have hn : i.toNat < UInt64.size := (Int.toNat_lt hr.1).2 (Int.le_sub_one_iff.1 hr.2)
      exact ⟨fun h => h ▸ by rw [UInt64.toNat_ofNat_of_lt' hn, Int.toNat_of_nonneg hr.1],
        fun h => h ▸ by rw [Int.toNat_natCast, UInt64.ofNat_toNat]⟩
  · simp [hr]

/-- An integer kind holds no value for an integer outside its range. -/
theorem ofInt?_eq_none_iff {k : ArgKind} (hk : k.isInteger = true) {i : Int} :
    ofInt? k i = none ↔ ¬(k.lowerBound ≤ i ∧ i ≤ k.upperBound) := by
  unfold ofInt?
  split_ifs with hr
  · cases k <;> simp_all [ArgKind.isInteger]
  · simp [hr]

/-- A token read as an integer kind: text, then a literal, then the kind's range. -/
theorem read_of_isInteger {k : ArgKind} (hk : k.isInteger = true) (t : Bytes) :
    read k t =
      match Utf8.toText? t with
      | none => .error (.invalidArgument k (Utf8.lossy t))
      | some s =>
        match IntegerLiteral.read s.toList with
        | .error .malformed => .error (.invalidArgument k s)
        | .error .overflow => .error (.outOfRange k s)
        | .ok i =>
          match ofInt? k i with
          | some v => .ok v
          | none => .error (.outOfRange k s) := by
  cases k <;> simp [ArgKind.isInteger] at hk <;> rfl

/-- How a token `t` reads as the integer kind `k`: the outcome `r`, by the shape of its text. -/
inductive IntegerOutcome (k : ArgKind) (t : Bytes) : Except CommandError ArgValue → Prop where
  /-- A literal within the kind's range is a value of the kind holding it. -/
  | value {s : String} {v : Int} {w : ArgValue} : Utf8.toText? t = some s →
      IntegerLiteral.Literal s.toList v → k.lowerBound ≤ v → v ≤ k.upperBound → w.kind = k →
      w.toInt? = some v → IntegerOutcome k t (.ok w)
  /-- A literal outside the kind's range, at any magnitude, is out of range. -/
  | outOfRange {s : String} {v : Int} : Utf8.toText? t = some s →
      IntegerLiteral.Literal s.toList v → ¬(k.lowerBound ≤ v ∧ v ≤ k.upperBound) →
      IntegerOutcome k t (.error (.outOfRange k s))
  /-- Leading digits beyond the 128-bit range are out of range, whatever follows them. -/
  | overflow {s : String} : Utf8.toText? t = some s → IntegerLiteral.Overflows s.toList →
      IntegerOutcome k t (.error (.outOfRange k s))
  /-- Anything else is an invalid argument showing the token's text. -/
  | invalid : (¬∃ s, Utf8.toText? t = some s ∧
        ((∃ v, IntegerLiteral.Literal s.toList v) ∨ IntegerLiteral.Overflows s.toList)) →
      IntegerOutcome k t (.error (.invalidArgument k (Utf8.lossy t)))

/-- The outcome `read` gives an integer token is one its text calls for. -/
theorem integerOutcome_read {k : ArgKind} (hk : k.isInteger = true) (t : Bytes) :
    IntegerOutcome k t (read k t) := by
  rw [read_of_isInteger hk]
  cases ht : Utf8.toText? t with
  | none => exact .invalid fun ⟨s, hs, _⟩ => by simp [ht] at hs
  | some s =>
    dsimp only
    cases hr : IntegerLiteral.read s.toList with
    | ok i =>
      dsimp only
      obtain ⟨hlit, -⟩ := IntegerLiteral.read_eq_ok_iff.1 hr
      cases hw : ofInt? k i with
      | some w =>
        dsimp only
        obtain ⟨⟨hlo, hhi⟩, hkind, hint⟩ := (ofInt?_eq_some_iff hk).1 hw
        exact .value ht hlit hlo hhi hkind hint
      | none =>
        dsimp only
        exact .outOfRange ht hlit ((ofInt?_eq_none_iff hk).1 hw)
    | error f =>
      cases f with
      | malformed =>
        dsimp only
        obtain ⟨hno, hnl⟩ := IntegerLiteral.read_eq_malformed_iff.1 hr
        have hinv := IntegerOutcome.invalid (k := k) (t := t) fun ⟨s', hs', hshape⟩ => by
          cases ht.symm.trans hs'
          exact hshape.elim (fun ⟨v, hv⟩ => hnl v hv) hno
        rwa [Utf8.lossy_of_toText? ht] at hinv
      | overflow =>
        dsimp only
        exact .overflow ht (IntegerLiteral.read_eq_overflow_iff.1 hr)

/-- An outcome a token's text calls for is the one `read` gives. -/
theorem IntegerOutcome.read_eq {k : ArgKind} (hk : k.isInteger = true) {t : Bytes}
    {r : Except CommandError ArgValue} (h : IntegerOutcome k t r) : read k t = r := by
  rw [read_of_isInteger hk]
  cases h with
  | value ht hlit hlo hhi hkind hint =>
    have hwide := ArgKind.range_within_wide hk
    have hr := IntegerLiteral.read_eq_ok_iff.2
      ⟨hlit, hlit.not_overflows (Int.le_trans hwide.1 hlo) (Int.le_trans hhi hwide.2)⟩
    simp only [ht, hr, (ofInt?_eq_some_iff hk).2 ⟨⟨hlo, hhi⟩, hkind, hint⟩]
  | @outOfRange s v ht hlit hout =>
    -- a literal beyond the 128-bit range overflows first; either way it is out of range
    by_cases ho : IntegerLiteral.Overflows s.toList
    · simp only [ht, IntegerLiteral.read_eq_overflow_iff.2 ho]
    · simp only [ht, IntegerLiteral.read_eq_ok_iff.2 ⟨hlit, ho⟩, (ofInt?_eq_none_iff hk).2 hout]
  | overflow ht ho => simp only [ht, IntegerLiteral.read_eq_overflow_iff.2 ho]
  | invalid hnot =>
    cases ht : Utf8.toText? t with
    | none => rfl
    | some s =>
      have hr := IntegerLiteral.read_eq_malformed_iff.2
        ⟨fun ho => hnot ⟨s, ht, .inr ho⟩, fun v hv => hnot ⟨s, ht, .inl ⟨v, hv⟩⟩⟩
      simp only [hr, Utf8.lossy_of_toText? ht]

/-- **How an integer token is classified.** Reading a token as an integer kind gives exactly
the outcome its text calls for: a value for a literal in the kind's range, `outOfRange` for
a literal outside it or for leading digits beyond the 128-bit range, and `invalidArgument`
for everything else. -/
theorem read_integer_token {k : ArgKind} (hk : k.isInteger = true) (t : Bytes)
    (r : Except CommandError ArgValue) : read k t = r ↔ IntegerOutcome k t r :=
  ⟨fun h => h ▸ integerOutcome_read hk t, fun h => h.read_eq hk⟩

/-- The token `-128` read as an `i8`: the least value of the kind. -/
theorem read_integer_token_minus_128 :
    ArgKind.isInteger .i8 = true ∧
      (read .i8 [45, 49, 50, 56] = .ok (.i8 (-128)) ↔
        IntegerOutcome .i8 [45, 49, 50, 56] (.ok (.i8 (-128)))) :=
  ⟨rfl, read_integer_token rfl _ _⟩

/-- A one and thirty-nine zeros, then a letter: no literal, and still out of range, since
the digits leave the 128-bit range before the letter is read. -/
theorem long_digits_before_letter_are_out_of_range :
    read .i8 (49 :: List.replicate 39 48 ++ [120]) =
      .error (.outOfRange .i8 (Utf8.lossy (49 :: List.replicate 39 48 ++ [120]))) := by
  have ht := @Utf8.toText?_ascii (49 :: List.replicate 39 48 ++ [120]) (by simp)
  rw [read_of_isInteger rfl, ht, Utf8.lossy_of_toText? ht]
  simp only [String.toList_ofList]
  rfl

end ArgValue

end LineCommands
