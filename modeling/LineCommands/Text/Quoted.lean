import LineCommands.Bytes
import LineCommands.Text.GraphemeExtend
/-!
# Quoted text

Values inside messages are shown quoted: a double quote, the characters of the text, a
double quote. Inside, a backslash, a double quote, NUL, tab, carriage return and line feed
are written as two-character escapes; a grapheme extender or a character that is not
printable is written as `\u{h}` with the lowercase hexadecimal code and no leading zeros;
every other character, the apostrophe included, stands for itself.

`quoteChar` is the spelling of one character and `quote` is the spelling of a text; the
spelling of a concatenation is the concatenation of spellings (`quoteChars_append`).
-/

namespace LineCommands.Text

/-- The spelling of one character inside quoted text. -/
def quoteChar (c : Char) : List Char :=
  if c = '\\' then ['\\', '\\']
  else if c = '"' then ['\\', '"']
  else if c = '\x00' then ['\\', '0']
  else if c = '\t' then ['\\', 't']
  else if c = '\r' then ['\\', 'r']
  else if c = '\n' then ['\\', 'n']
  else if isGraphemeExtend c || !isPrintable c then
    ['\\', 'u', '\x7b'] ++ (hexOfNat c.toNat).toList ++ ['\x7d']
  else [c]

/-- The spelling of a list of characters inside quoted text. -/
def quoteChars (cs : List Char) : List Char := cs.flatMap quoteChar

theorem quoteChars_append (a b : List Char) :
    quoteChars (a ++ b) = quoteChars a ++ quoteChars b := by
  simp [quoteChars]

/-- A text between double quotes, each character spelled by `quoteChar`. -/
def quote (s : String) : String := String.ofList ('"' :: quoteChars s.toList ++ ['"'])

end LineCommands.Text
