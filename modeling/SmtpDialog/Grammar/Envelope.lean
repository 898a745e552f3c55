/- digest: The arguments of MAIL and RCPT, a path in angle brackets and parameters behind it. -/
import SmtpDialog.Text.AsciiCase
import SmtpDialog.Text.Blank

/-!
Both commands name a path in angle brackets, after a keyword and at most one space. The path of MAIL
ends at the first closing bracket and may be empty. The path of RCPT may be preceded by a source
route, an at sign and everything to the first colon, which is dropped where what follows it is a
path again. No line feed may stand behind the bracket.
-/

set_option autoImplicit false
set_option relaxedAutoImplicit false

namespace SmtpDialog.Grammar

structure PathArguments where
  path : String
  parameters : String
  deriving DecidableEq

def afterOpening (keyword args : List Char) : Option (List Char) :=
  match Text.afterKeyword keyword args with
  | some (' ' :: '<' :: cs) => some cs
  | some ('<' :: cs) => some cs
  | _ => none

/-- The texts before and behind the first closing bracket, if no line feed stands behind it. -/
def closeBracket (cs : List Char) : Option (List Char × List Char) :=
  match cs.dropWhile (· != '>') with
  | [] => none
  | _ :: rest => if rest.contains '\n' then none else some (cs.takeWhile (· != '>'), rest)

def pathArguments (found : List Char × List Char) : PathArguments :=
  ⟨String.ofList found.1, String.ofList (Text.trim Text.isBlank found.2)⟩

/-- Two to the 64, above which a declared size is not taken. -/
def sizeBound : Nat := 18446744073709551616

/-- The number that a text of decimal digits denotes, if it is below the bound, which has twenty
digits. -/
def size? (digits : List Char) : Option Nat :=
  if digits.isEmpty || !digits.all Char.isDigit then none
  else
    let digits := digits.dropWhile (· == '0')
    if !(digits.drop 20).isEmpty then none
    else
      let n := digits.foldl (fun n c => n * 10 + (c.toNat - '0'.toNat)) 0
      if n < sizeBound then some n else none

/-- The value of a parameter of the form `SIZE=digits`. The keyword may be in any case, and its
first letter may also be the long s, which folds to the same letter. -/
def sizeParameter? (parameter : List Char) : Option Nat :=
  match parameter with
  | [] => none
  | c :: cs =>
    if Text.isLetter 's' c || c == 'ſ' then
      (Text.afterKeyword ['i', 'z', 'e', '='] cs).bind size?
    else none

def declaredSize? (parameters : String) : Option Nat :=
  (Text.pieces ' ' parameters.toList).findSome? sizeParameter?

def reversePath? (args : String) : Option PathArguments :=
  ((afterOpening ['f', 'r', 'o', 'm', ':'] args.toList).bind closeBracket).map pathArguments

def afterRoute : List Char → Option (List Char)
  | '@' :: c :: cs =>
    if c = ':' then none
    else match cs.dropWhile (· != ':') with
      | [] => none
      | _ :: rest => some rest
  | _ => none

/-- A path that is not empty, and what stands behind its closing bracket. -/
def closeNonempty (cs : List Char) : Option (List Char × List Char) :=
  match closeBracket cs with
  | some ([], _) => none
  | found => found

/-- The arguments of RCPT. A source route is left out if a path follows it. -/
def forwardPath? (args : String) : Option PathArguments :=
  ((afterOpening ['t', 'o', ':'] args.toList).bind fun cs =>
    ((afterRoute cs).bind closeNonempty).or (closeNonempty cs)).map pathArguments

example : forwardPath? "TO:<@relay,@hub:zim@irk> NOTIFY=NEVER " =
    some ⟨"zim@irk", "NOTIFY=NEVER"⟩ := by decide +kernel

end SmtpDialog.Grammar
