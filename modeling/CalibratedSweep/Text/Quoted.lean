import CalibratedSweep.Unicode.Printable
/-!
Quoted text, as diagnostics show it: in double quotes, with quote and backslash escaped, line
ends, tabs and NUL as letters, and any other character that does not print as `\u{...}`.
-/

namespace CalibratedSweep.Text

def hexDigits (n : Nat) : List Char := Nat.toDigits 16 n

def quotedChar (c : Char) : List Char :=
  if c = '\x00' then ['\\', '0']
  else if c = '\t' then ['\\', 't']
  else if c = '\r' then ['\\', 'r']
  else if c = '\n' then ['\\', 'n']
  else if c = '\\' ∨ c = '\"' then ['\\', c]
  else if Unicode.isPrintable c then [c]
  else ['\\', 'u', '\x7b'] ++ hexDigits c.toNat ++ ['\x7d']

def quoted (s : String) : String := String.ofList ('\"' :: s.toList.flatMap quotedChar ++ ['\"'])

def quotedList (items : List String) : String := "[" ++ ", ".intercalate (items.map quoted) ++ "]"

end CalibratedSweep.Text
