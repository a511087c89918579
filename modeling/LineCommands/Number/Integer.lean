/-!
# Decimal integer literals

An integer literal is an optional `+` or `-` and one or more ASCII digits. It is read left
to right into a 128-bit signed integer: the first character that is no digit makes the
literal malformed, and the first digit that takes the value beyond the 128-bit range is an
overflow. So a malformed character after an overflowing prefix is never seen, and a
literal with a lone sign or no character at all is malformed.
-/

namespace LineCommands

/-- Why an integer literal was refused. -/
inductive IntegerFault where
  /-- A character that is not a digit, a lone sign, or nothing at all. -/
  | malformed
  /-- The value left the 128-bit signed range. -/
  | overflow
  deriving DecidableEq, Repr

namespace IntegerLiteral

/-- The magnitude bound of 128-bit signed integers: `2 ^ 127` for a negative value and
`2 ^ 127 - 1` for a positive one. -/
def bound (negative : Bool) : Nat := if negative then Nat.pow 2 127 else Nat.pow 2 127 - 1

/-- Folds digits into the magnitude `acc`, checking each character before the bound. -/
def digits (negative : Bool) (acc : Nat) : List Char → Except IntegerFault Nat
  | [] => .ok acc
  | c :: cs =>
    if c.isDigit then
      let acc' := acc * 10 + (c.toNat - 48)
      if bound negative < acc' then .error .overflow else digits negative acc' cs
    else .error .malformed

/-- Reads a decimal integer literal. -/
def read (cs : List Char) : Except IntegerFault Int :=
  match cs with
  | [] => .error .malformed
  | ['+'] | ['-'] => .error .malformed
  | '+' :: rest => Int.ofNat <$> digits false 0 rest
  | '-' :: rest => (fun n => -(n : Int)) <$> digits true 0 rest
  | _ => Int.ofNat <$> digits false 0 cs

end IntegerLiteral

end LineCommands
