/- digest: The character classes at which texts are cut, and the cutting. -/

set_option autoImplicit false
set_option relaxedAutoImplicit false

namespace SmtpDialog.Text

/-- Space and tab, which separate a verb from its arguments. -/
def isGap (c : Char) : Bool := c == ' ' || c == '\t'

/-- The five blanks of ASCII: space, tab, line feed, form feed and carriage return. -/
def isAsciiBlank (c : Char) : Bool :=
  c == ' ' || c == '\t' || c == '\n' || c == '\x0c' || c == '\r'

/-- The Unicode property White_Space. -/
def isBlank (c : Char) : Bool :=
  let n := c.toNat
  (9 ≤ n && n ≤ 13) || n == 0x20 || n == 0x85 || n == 0xA0 || n == 0x1680 ||
    (0x2000 ≤ n && n ≤ 0x200A) || n == 0x2028 || n == 0x2029 || n == 0x202F ||
    n == 0x205F || n == 0x3000

/-- The general category Cc: the C0 and C1 controls and DEL. -/
def isControl (c : Char) : Bool :=
  let n := c.toNat
  n < 0x20 || (0x7F ≤ n && n ≤ 0x9F)

def trimStart (p : Char → Bool) (cs : List Char) : List Char := cs.dropWhile p

def trimEnd (p : Char → Bool) (cs : List Char) : List Char := (cs.reverse.dropWhile p).reverse

def trim (p : Char → Bool) (cs : List Char) : List Char := trimEnd p (trimStart p cs)

/-- The words between separators, the first one continuing `current` (kept in reverse). -/
def wordsFrom (p : Char → Bool) (current : List Char) : List Char → List (List Char)
  | [] => if current.isEmpty then [] else [current.reverse]
  | c :: cs =>
    if p c then
      if current.isEmpty then wordsFrom p [] cs else current.reverse :: wordsFrom p [] cs
    else wordsFrom p (c :: current) cs

/-- The maximal nonempty runs without a character that satisfies `p`. -/
def words (p : Char → Bool) (cs : List Char) : List (List Char) := wordsFrom p [] cs

/-- The pieces between the occurrences of a separator; there is always at least one. -/
def pieces {α : Type} [DecidableEq α] (separator : α) : List α → List (List α)
  | [] => [[]]
  | x :: xs =>
    if x = separator then [] :: pieces separator xs
    else match pieces separator xs with
      | [] => [[x]]
      | piece :: rest => (x :: piece) :: rest

example : words isAsciiBlank [' ', 'a', 'b', '\t', ' ', 'c'] = [['a', 'b'], ['c']] := by decide

example : pieces 0 [1, 0, 0, 2] = [[1], [], [2]] := by decide

end SmtpDialog.Text
