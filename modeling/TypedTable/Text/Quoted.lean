import TypedTable.Text.Digits
import TypedTable.Text.Extender
import TypedTable.Text.Unprintable
/-!
# Quoted text

A text in a message is wrapped in double quotes, so that its ends and its invisible characters show:
a quote and a backslash get a backslash, tab, carriage return, line feed and the null character are
written as letters, and every other character that is unprintable or extends the one before is
written as its code point. All else stays as it is.
-/

namespace TypedTable.Text

/-- One character inside quotes. -/
def quotedCharacter (c : Char) : List Char :=
  if c = '"' ∨ c = '\\' then ['\\', c]
  else if c = '\t' then ['\\', 't']
  else if c = '\r' then ['\\', 'r']
  else if c = '\n' then ['\\', 'n']
  else if c = '\x00' then ['\\', '0']
  else if extenders.contains c || unprintable.contains c then
    ['\\', 'u', '\x7b'] ++ Nat.toDigits 16 c.toNat ++ ['\x7d']
  else [c]

/-- A text in double quotes. -/
def quoted (s : String) : String :=
  String.ofList ('"' :: s.toList.flatMap quotedCharacter ++ ['"'])

end TypedTable.Text
