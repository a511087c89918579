import LineCommands.Text.Utf8
import Mathlib.Tactic.SplitIfs
import Mathlib.Tactic.IntervalCases
/-!
# The bytes of a text

A line arrives as a text and a cursor works on its bytes, `Bytes.ofString`: the characters'
UTF-8 forms one after another. This module ties the two views together.

The text reading reads the bytes of a text back to the text (`Utf8.lossy_ofString`): each
character's form is a well-formed scalar sequence, so no replacement character appears. A
byte below `0x80` is a character of its own, because every byte of a longer form is at least
`0x80`; so a text splits around each of its ASCII bytes (`Bytes.split_ofString_ascii`), and an
offset next to an ASCII byte falls between two characters.

## What this module delivers

- `Bytes.ofString_eq_flatMap`, `Bytes.ofString_append`, `Bytes.length_ofString`.
- `Utf8.scalarStep_utf8EncodeChar`, `Utf8.pieces_flatMap_utf8EncodeChar`,
  `Utf8.lossy_ofString` and `Utf8.toText?_ofString`: the text reading decodes every
  character's form.
- `Bytes.split_ofString_ascii`: a text splits around each of its ASCII bytes.
-/

namespace LineCommands

/-! ## A text's bytes, character by character -/

theorem ByteArray.toList_loop_eq (bs : ByteArray) (i : Nat) (r : List UInt8) :
    ByteArray.toList.loop bs i r = r.reverse ++ bs.data.toList.drop i := by
  fun_induction ByteArray.toList.loop bs i r with
  | case1 i r h ih =>
    have hi : i < bs.data.toList.length := by simpa using h
    rw [ih, List.drop_eq_getElem_cons hi]
    simp [ByteArray.get!, h]
  | case2 i r h =>
    rw [List.drop_eq_nil_of_le (by simpa using Nat.le_of_not_lt h)]
    simp

theorem ByteArray.toList_eq_data_toList (bs : ByteArray) : bs.toList = bs.data.toList := by
  simp [ByteArray.toList, ByteArray.toList_loop_eq]

namespace Bytes

/-- The bytes of a text are the UTF-8 forms of its characters, in order. -/
theorem ofString_eq_flatMap (s : String) :
    ofString s = s.toList.flatMap String.utf8EncodeChar := by
  rw [ofString, String.toUTF8_eq_toByteArray, ← String.utf8Encode_toList, List.utf8Encode,
    ByteArray.toList_eq_data_toList, List.toList_data_toByteArray]

theorem ofString_ofList (cs : List Char) :
    ofString (String.ofList cs) = cs.flatMap String.utf8EncodeChar := by
  rw [ofString_eq_flatMap, String.toList_ofList]

theorem ofString_append (s t : String) : ofString (s ++ t) = ofString s ++ ofString t := by
  simp only [ofString_eq_flatMap, String.toList_append, List.flatMap_append]

theorem length_ofString (s : String) : (ofString s).length = s.utf8ByteSize := by
  rw [ofString, String.toUTF8_eq_toByteArray, ByteArray.toList_eq_data_toList,
    Array.length_toList, ByteArray.size_data, String.size_toByteArray]

end Bytes

/-! ## Reading a character's form back -/

theorem List.mapM_map_some {α : Type} (l : List α) : (l.map some).mapM id = some l := by
  induction l with
  | nil => rfl
  | cons c l ih => simp [List.mapM_cons, ih]

namespace Utf8

theorem toNat_ofNat_of_lt {x : Nat} (h : x < 256) : (UInt8.ofNat x).toNat = x := by
  rw [UInt8.toNat_ofNat', Nat.mod_eq_of_lt h]

/-- A continuation octet carrying the low six bits of `x` is read as such. -/
theorem continuation_cons {n lo hi acc x : Nat} (rest : Bytes)
    (h : lo ≤ x % 64 + 128 ∧ x % 64 + 128 ≤ hi) :
    continuation (n + 1) lo hi acc (UInt8.ofNat (x % 64 + 128) :: rest) =
      continuation n 0x80 0xBF (acc * 64 + x % 64) rest := by
  have hx : (UInt8.ofNat (x % 64 + 128)).toNat = x % 64 + 128 := toNat_ofNat_of_lt (by omega)
  rw [continuation, hx, if_pos h, show (x % 64 + 128) % 64 = x % 64 by omega]

theorem scalarShape_two {b : Nat} (h₁ : 0xC2 ≤ b) (h₂ : b ≤ 0xDF) :
    scalarShape b = some (1, 0x80, 0xBF, b % 32) := by
  rw [scalarShape, if_neg (by omega), if_pos ⟨h₁, h₂⟩]

/-- The shape of a three-octet lead byte: after `E0` the first continuation octet is at least
`A0` (no overlong form), after `ED` at most `9F` (no surrogate). -/
theorem scalarShape_three {b : Nat} (h₁ : 0xE0 ≤ b) (h₂ : b ≤ 0xEF) :
    scalarShape b = some (2, if b = 0xE0 then 0xA0 else 0x80, if b = 0xED then 0x9F else 0xBF,
      b % 16) := by
  interval_cases b <;> decide

/-- The shape of a four-octet lead byte: after `F0` the first continuation octet is at least
`90` (no overlong form), after `F4` at most `8F` (nothing above `0x10FFFF`). -/
theorem scalarShape_four {b : Nat} (h₁ : 0xF0 ≤ b) (h₂ : b ≤ 0xF4) :
    scalarShape b = some (3, if b = 0xF0 then 0x90 else 0x80, if b = 0xF4 then 0x8F else 0xBF,
      b % 8) := by
  interval_cases b <;> decide

/-- **The text reading reads a character's form as that character**, whatever follows it. A
character is a scalar value, so its form is never overlong, never a surrogate and never above
`0x10FFFF`: the lead byte's narrowed range admits the first continuation octet. -/
theorem scalarStep_utf8EncodeChar (c : Char) (rest : Bytes) :
    ∃ b bs, String.utf8EncodeChar c = b :: bs ∧ scalarStep b (bs ++ rest) = (some c, rest) := by
  have hv : c.toNat < 0xd800 ∨ (0xdfff < c.toNat ∧ c.toNat < 0x110000) := c.valid
  have hc : Char.ofNat c.toNat = c := Char.ofNat_toNat c
  unfold String.utf8EncodeChar
  simp only [← Char.toNat.eq_1]
  generalize c.toNat = v at hv hc
  subst hc
  -- one case per length of the form
  split_ifs with h₁ h₂ h₃
  · refine ⟨_, _, rfl, ?_⟩
    simp only [scalarStep, toNat_ofNat_of_lt (show v < 256 by omega), List.nil_append]
    rw [scalarShape, if_pos (by omega)]
    simp [continuation]
  · refine ⟨_, _, rfl, ?_⟩
    simp only [scalarStep, toNat_ofNat_of_lt (show v / 64 % 32 + 192 < 256 by omega),
      List.cons_append, List.nil_append,
      scalarShape_two (show 0xC2 ≤ v / 64 % 32 + 192 by omega) (by omega)]
    rw [continuation_cons rest (by omega)]
    simp only [continuation, Option.map_some]
    congr 3
    omega
  · refine ⟨_, _, rfl, ?_⟩
    simp only [scalarStep, toNat_ofNat_of_lt (show v / 4096 % 16 + 224 < 256 by omega),
      List.cons_append, List.nil_append,
      scalarShape_three (show 0xE0 ≤ v / 4096 % 16 + 224 by omega) (by omega)]
    rw [continuation_cons _ (by split_ifs <;> omega), continuation_cons rest (by omega)]
    simp only [continuation, Option.map_some]
    congr 3
    omega
  · refine ⟨_, _, rfl, ?_⟩
    simp only [scalarStep, toNat_ofNat_of_lt (show v / 262144 % 8 + 240 < 256 by omega),
      List.cons_append, List.nil_append,
      scalarShape_four (show 0xF0 ≤ v / 262144 % 8 + 240 by omega) (by omega)]
    rw [continuation_cons _ (by split_ifs <;> omega), continuation_cons _ (by omega),
      continuation_cons rest (by omega)]
    simp only [continuation, Option.map_some]
    congr 3
    omega

/-- The text reading reads the forms of a list of characters as those characters. -/
theorem pieces_flatMap_utf8EncodeChar (cs : List Char) (rest : Bytes) :
    pieces (cs.flatMap String.utf8EncodeChar ++ rest) = cs.map some ++ pieces rest := by
  induction cs with
  | nil => rfl
  | cons c cs ih =>
    obtain ⟨b, bs, hform, hstep⟩ :=
      scalarStep_utf8EncodeChar c (cs.flatMap String.utf8EncodeChar ++ rest)
    rw [List.flatMap_cons, hform]
    simp only [List.cons_append, List.append_assoc]
    rw [pieces, hstep, ih]
    rfl

/-- **The text reading reads the bytes of a text back to the text.** -/
theorem lossy_ofString (s : String) : lossy (Bytes.ofString s) = s := by
  have h := pieces_flatMap_utf8EncodeChar s.toList []
  rw [List.append_nil, ← Bytes.ofString_eq_flatMap] at h
  rw [lossy, h, show pieces [] = [] by rw [pieces], List.append_nil, List.map_map]
  simp [String.ofList_toList]

/-- The text reading reads the bytes of a text as that text. -/
theorem toText?_ofString (s : String) : toText? (Bytes.ofString s) = some s := by
  have h := pieces_flatMap_utf8EncodeChar s.toList []
  rw [List.append_nil, ← Bytes.ofString_eq_flatMap, show pieces [] = [] by rw [pieces],
    List.append_nil] at h
  rw [toText?, h, List.mapM_map_some]
  simp

end Utf8

/-! ## ASCII bytes are characters of their own -/

namespace Bytes

/-- A byte below `0x80` in a character's form is the whole form: the forms of two octets or
more have every byte at or above `0x80`. -/
theorem utf8EncodeChar_of_ascii {c : Char} {b : UInt8} (hb : b ∈ String.utf8EncodeChar c)
    (hlt : b.toNat < 128) : String.utf8EncodeChar c = [b] ∧ Char.ofNat b.toNat = c := by
  have hc : Char.ofNat c.toNat = c := Char.ofNat_toNat c
  have hv : c.toNat < 0x110000 := by
    have : c.toNat < 0xd800 ∨ (0xdfff < c.toNat ∧ c.toNat < 0x110000) := c.valid
    omega
  unfold String.utf8EncodeChar at hb ⊢
  simp only [← Char.toNat.eq_1] at hb ⊢
  generalize c.toNat = v at hv hc hb
  subst hc
  split_ifs at hb ⊢ with h₁ h₂ h₃
  · -- a one-byte form is the character's own value
    rw [List.mem_singleton.1 hb, Utf8.toNat_ofNat_of_lt (by omega)]
    exact ⟨rfl, rfl⟩
  all_goals
    -- every byte of a longer form is a lead byte or a continuation octet
    simp only [List.mem_cons, List.not_mem_nil, or_false] at hb
    rcases hb with rfl | rfl | rfl | rfl <;> rw [Utf8.toNat_ofNat_of_lt (by omega)] at hlt <;>
      omega

/-- **A text splits around each of its ASCII bytes**: the bytes before it are the bytes of a
text, and so are the bytes after it. -/
theorem split_ofString_ascii {s : String} {A B : Bytes} {b : UInt8}
    (h : ofString s = A ++ b :: B) (hb : b.toNat < 128) :
    ∃ pre suf : String, s = pre ++ String.singleton (Char.ofNat b.toNat) ++ suf ∧
      ofString pre = A ∧ ofString suf = B := by
  rw [ofString_eq_flatMap] at h
  -- walk the characters until the one whose form holds the byte
  suffices key : ∀ (cs : List Char) (A : Bytes), cs.flatMap String.utf8EncodeChar = A ++ b :: B →
      ∃ cs₁ cs₂, cs = cs₁ ++ Char.ofNat b.toNat :: cs₂ ∧
        cs₁.flatMap String.utf8EncodeChar = A ∧ cs₂.flatMap String.utf8EncodeChar = B by
    obtain ⟨cs₁, cs₂, hcs, h₁, h₂⟩ := key s.toList A h
    refine ⟨String.ofList cs₁, String.ofList cs₂, ?_, by rw [ofString_ofList, h₁],
      by rw [ofString_ofList, h₂]⟩
    rw [← String.ofList_toList (s := s), hcs, String.singleton_eq_ofList, ← String.ofList_append,
      ← String.ofList_append, List.append_assoc, List.singleton_append]
  intro cs
  induction cs with
  | nil => intro A hA; simp at hA
  | cons c cs ih =>
    intro A hA
    rw [List.flatMap_cons, List.append_eq_append_iff] at hA
    rcases hA with ⟨A', rfl, hrest⟩ | ⟨C, hform, hB⟩
    · -- the byte lies after this character's form
      obtain ⟨cs₁, cs₂, rfl, h₁, h₂⟩ := ih A' hrest
      exact ⟨c :: cs₁, cs₂, rfl, by rw [List.flatMap_cons, h₁], h₂⟩
    · -- the byte lies in this character's form, which is then that byte alone
      cases C with
      | nil =>
        rw [List.append_nil] at hform
        subst hform
        obtain ⟨cs₁, cs₂, rfl, h₁, h₂⟩ := ih [] (by simpa using hB.symm)
        exact ⟨c :: cs₁, cs₂, rfl, by rw [List.flatMap_cons, h₁, List.append_nil], h₂⟩
      | cons b' C =>
        obtain ⟨hbb, hB'⟩ := List.cons.inj hB
        subst hbb
        have hmem : b ∈ String.utf8EncodeChar c := by rw [hform]; simp
        obtain ⟨hone, rfl⟩ := utf8EncodeChar_of_ascii hmem hb
        rw [hone] at hform
        obtain ⟨rfl, rfl⟩ : A = [] ∧ C = [] := by
          cases A with
          | nil => simpa using hform
          | cons a A => simp at hform
        exact ⟨[], cs, rfl, rfl, by simp [hB']⟩

end Bytes

end LineCommands
