/- digest: The arguments of a command line, and the simple forms they take. -/
import SmtpDialog.Text.Blank

set_option autoImplicit false
set_option relaxedAutoImplicit false

namespace SmtpDialog.Grammar

def argumentChars (line : List Char) : List Char :=
  Text.trim Text.isGap ((Text.trimStart Text.isGap line).dropWhile (!Text.isGap ·))

/-- All that follows the first word of a line, without gaps around it. -/
def arguments (line : String) : String := String.ofList (argumentChars line.toList)

/-- The host name at the front of the arguments of HELO and EHLO. -/
def heloDomain? (args : String) : Option String :=
  match args.toList.takeWhile (!Text.isGap ·) with
  | [] => none
  | cs => some (String.ofList cs)

def isMechanismChar (c : Char) : Bool := c.isAlphanum || c == '-' || c == '_'

/-- Whether a text is a mechanism name: one to twenty such characters. -/
def isMechanismName (name : String) : Bool :=
  let cs := name.toList
  1 ≤ cs.length && cs.length ≤ 20 && cs.all isMechanismChar

end SmtpDialog.Grammar
