/- digest: The form of text, lists and truth values in log records and descriptions. -/
import SmtpDialog.Text.Printable

set_option autoImplicit false
set_option relaxedAutoImplicit false

namespace SmtpDialog.Text

/-- The lower-case hexadecimal digits of a number, without leading zeros. -/
def hexDigits (n : Nat) : List Char := Nat.toDigits 16 n

def quotedChar (c : Char) : List Char :=
  if c = '"' then ['\\', '"']
  else if c = '\\' then ['\\', '\\']
  else if c = '\x00' then ['\\', '0']
  else if c = '\t' then ['\\', 't']
  else if c = '\r' then ['\\', 'r']
  else if c = '\n' then ['\\', 'n']
  else if isShown c then [c]
  else ['\\', 'u', '\x7b'] ++ hexDigits c.toNat ++ ['\x7d']

def quoted (t : String) : String :=
  String.ofList ('"' :: t.toList.flatMap quotedChar ++ ['"'])

def flag (b : Bool) : String := if b then "true" else "false"

/-- Quoted texts between the given brackets, separated by commas. -/
def quotedList (opening closing : String) (ts : List String) : String :=
  opening ++ ", ".intercalate (ts.map quoted) ++ closing

end SmtpDialog.Text
