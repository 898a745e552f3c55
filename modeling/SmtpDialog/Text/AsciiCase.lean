/- digest: Upper case and equality over the ASCII letters alone. -/

set_option autoImplicit false
set_option relaxedAutoImplicit false

namespace SmtpDialog.Text

def upper (t : String) : String := String.ofList (t.toList.map Char.toUpper)

/-- Equality without regard to the case of ASCII letters. -/
def sameLetters (a b : String) : Bool := upper a == upper b

def isLetter (lower c : Char) : Bool := c == lower || c == lower.toUpper

/-- The rest of a text after a keyword given in lower case, its letters in any case. -/
def afterKeyword : List Char → List Char → Option (List Char)
  | [], cs => some cs
  | _ :: _, [] => none
  | k :: ks, c :: cs => if isLetter k c then afterKeyword ks cs else none

example : afterKeyword ['t', 'o', ':'] ['T', 'o', ':', 'x'] = some ['x'] := by decide

end SmtpDialog.Text
