/- digest: The numbers of TOML. -/

set_option autoImplicit false
set_option relaxedAutoImplicit false

namespace SmtpDialog.Toml

def digit? (base : Nat) (c : Char) : Option Nat :=
  let v := if c.isDigit then some (c.toNat - 48)
    else if 'a' ≤ c && c ≤ 'f' then some (c.toNat - 87)
    else if 'A' ≤ c && c ≤ 'F' then some (c.toNat - 55)
    else none
  v.filter (· < base)

/-- Digits behind those already read, which are given in reverse, with single underscores between
them, and what follows. -/
def moreDigits (base : Nat) : List Nat → Bool → List Char → Option (List Nat × List Char)
  | ds, underscore, [] => if underscore then none else some (ds.reverse, [])
  | ds, underscore, c :: cs =>
    match digit? base c with
    | some d => moreDigits base (d :: ds) false cs
    | none =>
      if underscore then none
      else if c = '_' then moreDigits base ds true cs
      else some (ds.reverse, c :: cs)

/-- The digits of a number and what follows them. Unless it is allowed, no zero stands in front. -/
def digits? (base : Nat) (zerosAllowed : Bool) : List Char → Option (List Nat × List Char)
  | [] => none
  | c :: cs =>
    match digit? base c with
    | none => none
    | some d =>
      (moreDigits base [d] false cs).filter fun found =>
        zerosAllowed || d != 0 || (found.1.drop 1).isEmpty

/-- The number that digits denote, the greatest power first. -/
def ofDigits (base : Nat) (ds : List Nat) : Nat := ds.foldl (fun n d => n * base + d) 0

/-- The digits from the first that is not zero. -/
def significant (ds : List Nat) : List Nat := ds.dropWhile (· == 0)

def sign : List Char → Bool × List Char
  | '-' :: cs => (true, cs)
  | '+' :: cs => (false, cs)
  | cs => (false, cs)

/-- Two to the 63, the bound of integers. -/
def integerBound : Int := 9223372036854775808

/-- An integer of 64 bits, which has no more than 64 significant digits in any base. -/
def integer? (base : Nat) (signAllowed : Bool) (cs : List Char) : Option Int :=
  let (negative, cs) := if signAllowed then sign cs else (false, cs)
  match digits? base (base != 10) cs with
  | some (ds, []) =>
    let ds := significant ds
    if !(ds.drop 64).isEmpty then none
    else
      let n : Int := if negative then -(ofDigits base ds : Int) else ofDigits base ds
      if -integerBound ≤ n ∧ n < integerBound then some n else none
  | _ => none

/-- The least number that rounds to no finite float. It has 309 digits. -/
def overflow : Nat := Nat.pow 2 1024 - Nat.pow 2 970

/-- Whether digits, followed by `scale` zeros or with the point so many places before their end,
denote a number that rounds to a finite float. Only one with as many digits before the point as the
bound is compared with it. -/
def isFinite (digits : List Nat) (scale : Int) : Bool :=
  let ds := significant digits
  let whole : Int := ds.length + scale
  if ds.isEmpty || whole < 309 then true
  else if 309 < whole then false
  else ofDigits 10 ((ds ++ List.replicate 309 0).take 309) < overflow

/-- The number that the digits of an exponent denote. Behind the first ones that make up 65536 or
more, all others are passed over. -/
def exponentOf (ds : List Nat) : Nat :=
  ds.foldl (fun n d => if n < 65536 then n * 10 + d else n) 0

def exponent? (signAllowed : Bool) (cs : List Char) : Option Int :=
  let (negative, cs) := if signAllowed then sign cs else (false, cs)
  match digits? 10 true cs with
  | some (ds, []) => some (if negative then -(exponentOf ds : Int) else exponentOf ds)
  | _ => none

/-- A float in parts: the digits before the point with an optional sign, those behind it if there is
a point, and the exponent, which stands in a word of its own behind a plus sign. Only whether it is
a finite float is told. -/
def isFloat (whole : List Char) (fraction plusExponent : Option (List Char)) : Bool :=
  match digits? 10 false (sign whole).2 with
  | none => false
  | some (ds, rest) =>
    let withFraction : Option (List Nat × Nat × List Char) :=
      match fraction with
      | none => some (ds, 0, rest)
      | some cs =>
        if rest.isEmpty then
          (digits? 10 true cs).map fun (more, rest) => (ds ++ more, more.length, rest)
        else none
    match withFraction with
    | none => false
    | some (ds, places, []) => plusExponent.isNone && isFinite ds (-places)
    | some (ds, places, c :: cs) =>
      let exponent : Option Int :=
        if c = 'e' || c = 'E' then
          match cs, plusExponent with
          | [], some word => exponent? false word
          | _ :: _, none => exponent? true cs
          | _, _ => none
        else none
      exponent.any fun e => isFinite ds (e - places)

example : isFinite [1] 308 ∧ ¬ isFinite [1] 309 ∧ isFinite [1, 7, 9, 7] 305 ∧
    ¬ isFinite [1, 7, 9, 8] 305 ∧ isFinite [0, 0] 400 := by decide +kernel

example : exponentOf [7, 0, 0, 0, 0, 0] = 70000 ∧ exponentOf [6, 5, 5, 3, 5, 9] = 655359 := by
  decide

end SmtpDialog.Toml
