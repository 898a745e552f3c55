/- digest: The strings of TOML. -/

set_option autoImplicit false
set_option relaxedAutoImplicit false

namespace SmtpDialog.Toml

def isPlain (c : Char) : Bool := c == '\t' || (' ' ≤ c && c != '\x7f')

def ofHex? (cs : List Char) : Option Char :=
  let value (c : Char) : Option Nat :=
    if c.isDigit then some (c.toNat - 48)
    else if 'a' ≤ c && c ≤ 'f' then some (c.toNat - 87)
    else if 'A' ≤ c && c ≤ 'F' then some (c.toNat - 55)
    else none
  match cs.mapM value with
  | none => none
  | some vs =>
    let n := vs.foldl (fun n v => n * 16 + v) 0
    if n.isValidChar then some (Char.ofNat n) else none

/-- The character of so many hexadecimal digits, and what follows them. -/
def codePoint? (count : Nat) (cs : List Char) : Option (Char × List Char) :=
  let digits := cs.take count
  if digits.length < count then none else (ofHex? digits).map (·, cs.drop count)

/-- The character behind a backslash, and what follows its escape. -/
def escape? : List Char → Option (Char × List Char)
  | '"' :: cs => some ('"', cs)
  | '\\' :: cs => some ('\\', cs)
  | 'b' :: cs => some ('\x08', cs)
  | 'f' :: cs => some ('\x0c', cs)
  | 'n' :: cs => some ('\n', cs)
  | 'r' :: cs => some ('\r', cs)
  | 't' :: cs => some ('\t', cs)
  | 'u' :: cs => codePoint? 4 cs
  | 'U' :: cs => codePoint? 8 cs
  | _ => none

def isSpace (c : Char) : Bool := c == ' ' || c == '\t'

/-- What follows a backslash at the end of a line and the blanks of the lines below. -/
def afterContinuation? (cs : List Char) : Option (List Char) :=
  match cs.dropWhile isSpace with
  | '\n' :: rest => some (rest.dropWhile fun c => isSpace c || c == '\n')
  | _ => none

/-- The rest of a string on one line and what follows it. -/
def lineText (mark : Char) : Nat → List Char → Option (List Char × List Char)
  | 0, _ => none
  | _ + 1, [] => none
  | fuel + 1, c :: cs =>
    if c = mark then some ([], cs)
    else if c = '\\' && mark = '"' then
      match escape? cs with
      | some (c, cs) => (lineText mark fuel cs).map fun (t, rest) => (c :: t, rest)
      | none => none
    else if isPlain c then (lineText mark fuel cs).map fun (t, rest) => (c :: t, rest)
    else none

/-- The marks that a string of several lines ends with, of those behind its closing three. -/
def ownMarks (mark : Char) : List Char → List Char × List Char
  | a :: b :: cs =>
    if a = mark then if b = mark then ([a, b], cs) else ([a], b :: cs) else ([], a :: b :: cs)
  | [a] => if a = mark then ([a], []) else ([], [a])
  | [] => ([], [])

/-- The rest of a string of several lines and what follows it. -/
def linesText (mark : Char) : Nat → List Char → Option (List Char × List Char)
  | 0, _ => none
  | _ + 1, [] => none
  | fuel + 1, c :: cs =>
    if c = mark && cs.take 2 == [mark, mark] then some (ownMarks mark (cs.drop 2))
    else if c = '\\' && mark = '"' then
      match escape? cs with
      | some (c, cs) => (linesText mark fuel cs).map fun (t, rest) => (c :: t, rest)
      | none => (afterContinuation? cs).bind (linesText mark fuel)
    else if isPlain c || c = '\n' then
      (linesText mark fuel cs).map fun (t, rest) => (c :: t, rest)
    else none

def string? (fuel : Nat) : List Char → Option (String × Bool × List Char)
  | [] => none
  | mark :: cs =>
    if mark = '"' || mark = '\'' then
      if cs.take 2 == [mark, mark] then
        let body := match cs.drop 2 with
          | '\n' :: rest => rest
          | rest => rest
        (linesText mark fuel body).map fun (t, rest) => (String.ofList t, true, rest)
      else (lineText mark fuel cs).map fun (t, rest) => (String.ofList t, false, rest)
    else none

end SmtpDialog.Toml
