/- digest: Reading the lines of a TOML document. -/
import SmtpDialog.Toml.Number
import SmtpDialog.Toml.Text
import SmtpDialog.Toml.Value

set_option autoImplicit false
set_option relaxedAutoImplicit false

namespace SmtpDialog.Toml

def isWordChar (c : Char) : Bool := c.isAlphanum || c == '-' || c == '_'

def skipSpaces (cs : List Char) : List Char := cs.dropWhile isSpace

def word? (cs : List Char) : Option (List Char × List Char) :=
  match cs.takeWhile isWordChar with
  | [] => none
  | w => some (w, cs.dropWhile isWordChar)

def afterLineEnd? : List Char → Option (List Char)
  | [] => some []
  | '\n' :: cs => some cs
  | _ => none

/-- What follows the end of a line, before which a comment may stand. -/
def afterComment? (cs : List Char) : Option (List Char) :=
  match skipSpaces cs with
  | '#' :: rest => afterLineEnd? (rest.dropWhile fun c => c == '\t' || ' ' ≤ c)
  | rest => afterLineEnd? rest

def skipLines : Nat → List Char → Option (List Char)
  | 0, _ => none
  | fuel + 1, cs =>
    match skipSpaces cs with
    | '#' :: rest => (afterComment? ('#' :: rest)).bind (skipLines fuel)
    | '\n' :: rest => skipLines fuel rest
    | rest => some rest

/-- A part of a key: a word or a string on one line. -/
def keyPart? (fuel : Nat) (cs : List Char) : Option (String × List Char) :=
  match word? cs with
  | some (w, rest) => some (String.ofList w, rest)
  | none =>
    match string? fuel cs with
    | some (t, false, rest) => some (t, rest)
    | _ => none

def key? : Nat → List Char → Option (List String × List Char)
  | 0, _ => none
  | fuel + 1, cs =>
    match keyPart? (fuel + 1) cs with
    | none => none
    | some (part, rest) =>
      match skipSpaces rest with
      | '.' :: rest => (key? fuel (skipSpaces rest)).map fun (parts, rest) => (part :: parts, rest)
      | rest => some ([part], rest)

def afterWord? (cs : List Char) : Option (List Char) := (word? cs).map (·.2)

/-- What follows a sign and a word, if the sign is there. -/
def afterSignedWord? (sign : Char) (cs : List Char) : Option (List Char) :=
  match cs with
  | c :: rest => if c = sign then afterWord? rest else some cs
  | [] => some []

/-- What follows the rest of a moment in time, whose first word has been read, and perhaps the colon
behind it. A time may follow a date after one space. -/
def afterMoment? (colonRead : Bool) (cs : List Char) : Option (List Char) :=
  let cs := match cs with
    | ' ' :: rest => (afterWord? rest).getD cs
    | _ => cs
  let minutes := if colonRead then some cs else match cs with
    | ':' :: rest => some rest
    | _ => none
  match minutes with
  | none => some cs
  | some cs =>
    match afterWord? cs with
    | some (':' :: rest) =>
      (((afterWord? rest).bind (afterSignedWord? '.')).bind (afterSignedWord? '+')).bind
        (afterSignedWord? ':')
    | _ => none

/-- An exponent that stands behind a plus sign, if a word before it ends with the letter. -/
def plusExponent (before rest : List Char) : Option (List Char) × List Char :=
  match before.getLast?, rest with
  | some c, '+' :: after =>
    if c = 'e' || c = 'E' then
      match word? after with
      | some (w, rest) => (some w, rest)
      | none => (none, rest)
    else (none, rest)
  | _, _ => (none, rest)

def number? (w rest : List Char) : Option (Value × List Char) :=
  match w with
  | '0' :: 'x' :: ds => (integer? 16 false ds).map (.integer ·, rest)
  | '0' :: 'o' :: ds => (integer? 8 false ds).map (.integer ·, rest)
  | '0' :: 'b' :: ds => (integer? 2 false ds).map (.integer ·, rest)
  | _ =>
    if w.contains 'e' || w.contains 'E' then
      let (power, rest) := plusExponent w rest
      if isFloat w none power then some (.float, rest) else none
    else match rest with
      | '.' :: after =>
        match word? after with
        | none => none
        | some (fraction, rest) =>
          let (power, rest) := plusExponent fraction rest
          if isFloat w (some fraction) power then some (.float, rest) else none
      | _ =>
        if ["inf", "-inf", "nan", "-nan"].contains (String.ofList w) then some (.float, rest)
        else (integer? 10 true w).map (.integer ·, rest)

def isDate (w : List Char) : Bool :=
  w.contains 'T' || w.contains 't' ||
    ((w.drop 1).contains '-' && !hasPower 'e' w && !hasPower 'E' w)
where
  /-- Whether a letter stands directly before a hyphen. -/
  hasPower (letter : Char) : List Char → Bool
    | a :: b :: cs => (a == letter && b == '-') || hasPower letter (b :: cs)
    | _ => false

def wordValue? (w rest : List Char) : Option (Value × List Char) :=
  if w = ['t', 'r', 'u', 'e'] then some (.flag true, rest)
  else if w = ['f', 'a', 'l', 's', 'e'] then some (.flag false, rest)
  else if w = ['i', 'n', 'f'] || w = ['n', 'a', 'n'] ||
      w.head?.any (fun c => c == '-' || c.isDigit) then
    if isDate w then (afterMoment? false rest).map (.moment, ·)
    else match rest with
      | ':' :: after => (afterMoment? true after).map (.moment, ·)
      | _ => number? w rest
  else none

mutual

def value? : Nat → List Char → Option (Value × List Char)
  | 0, _ => none
  | fuel + 1, cs =>
    match cs with
    | '[' :: rest => (items? fuel rest).map fun (items, rest) => (.array items, rest)
    | '\x7b' :: rest =>
      match skipSpaces rest with
      | '\x7d' :: rest => some (.table [], rest)
      | rest =>
        (pairs? fuel rest).bind fun (pairs, rest) =>
          (table? pairs).map fun pairs => (.table pairs, rest)
    | '+' :: rest => (word? rest).bind fun (w, rest) => number? w rest
    | _ =>
      match word? cs with
      | some (w, rest) => wordValue? w rest
      | none => (string? (fuel + 1) cs).map fun (t, _, rest) => (.text t, rest)

/-- The items of an array through its closing bracket. -/
def items? : Nat → List Char → Option (List Value × List Char)
  | 0, _ => none
  | fuel + 1, cs =>
    match skipLines (fuel + 1) cs with
    | none => none
    | some (']' :: rest) => some ([], rest)
    | some cs =>
      match value? fuel cs with
      | none => none
      | some (item, rest) =>
        match skipLines fuel rest with
        | some (',' :: rest) => (items? fuel rest).map fun (items, rest) => (item :: items, rest)
        | some (']' :: rest) => some ([item], rest)
        | _ => none

/-- The pairs of a table between braces through its closing brace. -/
def pairs? : Nat → List Char → Option (Dotted Value × List Char)
  | 0, _ => none
  | fuel + 1, cs =>
    match key? (fuel + 1) cs with
    | some (key, '=' :: rest) =>
      match value? fuel (skipSpaces rest) with
      | none => none
      | some (value, rest) =>
        match skipSpaces rest with
        | '\x7d' :: rest => some ([(key, value)], rest)
        | ',' :: rest =>
          (pairs? fuel (skipSpaces rest)).map fun (pairs, rest) => ((key, value) :: pairs, rest)
        | _ => none
    | _ => none

end

inductive Statement
  | header (isArray : Bool) (path : List String)
  | pair (key : List String) (value : Value)

/-- The rest of a header behind its opening brackets, through the end of the line. -/
def header? (fuel : Nat) (isArray : Bool) (cs : List Char) : Option (Statement × List Char) :=
  match key? fuel (skipSpaces cs), isArray with
  | some (path, ']' :: rest), false => (afterComment? rest).map (.header false path, ·)
  | some (path, ']' :: ']' :: rest), true => (afterComment? rest).map (.header true path, ·)
  | _, _ => none

def pair? (fuel : Nat) (cs : List Char) : Option (Statement × List Char) :=
  match key? fuel cs with
  | some (key, '=' :: rest) =>
    match value? (2 * fuel) (skipSpaces rest) with
    | none => none
    | some (value, rest) => (afterComment? rest).map (.pair key value, ·)
  | _ => none

def statements? : Nat → List Char → Option (List Statement)
  | 0, _ => none
  | fuel + 1, cs =>
    match skipLines (fuel + 1) cs with
    | none => none
    | some [] => some []
    | some cs =>
      let read := match cs with
        | '[' :: '[' :: rest => header? (fuel + 1) true rest
        | '[' :: rest => header? (fuel + 1) false rest
        | _ => pair? (fuel + 1) cs
      match read with
      | none => none
      | some (statement, rest) => (statements? fuel rest).map (statement :: ·)

/-- The text with each CR LF as one line feed. -/
def joinLineEnds : List Char → List Char
  | '\r' :: '\n' :: cs => '\n' :: joinLineEnds cs
  | c :: cs => c :: joinLineEnds cs
  | [] => []

/-- The statements of a text, in front of which a byte order mark may stand. -/
def read? (text : String) : Option (List Statement) :=
  let cs := joinLineEnds text.toList
  let cs := match cs with
    | '\uFEFF' :: rest => rest
    | _ => cs
  statements? (cs.length + 1) cs

end SmtpDialog.Toml
