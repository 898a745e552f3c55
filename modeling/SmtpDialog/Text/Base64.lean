/- digest: Base64 over bytes, with padding optional on reading. -/
import SmtpDialog.Text.Utf8

/-!
The standard alphabet. Written text is always padded. Reading accepts missing or incomplete padding
and refuses, in this order: a length that leaves six bits over, a byte that has no place where it
stands, and bits in the last symbol that the decoded bytes would not hold.
-/

set_option autoImplicit false
set_option relaxedAutoImplicit false

namespace SmtpDialog.Base64

def symbol (n : Nat) : UInt8 :=
  if n < 26 then UInt8.ofNat (65 + n)
  else if n < 52 then UInt8.ofNat (71 + n)
  else if n < 62 then UInt8.ofNat (n - 4)
  else if n = 62 then 43
  else 47

def value? (b : UInt8) : Option Nat :=
  let n := b.toNat
  if 65 ≤ n && n ≤ 90 then some (n - 65)
  else if 97 ≤ n && n ≤ 122 then some (n - 71)
  else if 48 ≤ n && n ≤ 57 then some (n + 4)
  else if n = 43 then some 62
  else if n = 47 then some 63
  else none

def pad : UInt8 := 61

/-- Three bytes become four symbols; one or two bytes at the end are padded to four signs. -/
def encode : Bytes → Bytes
  | [] => []
  | [a] => [symbol (a.toNat / 4), symbol (a.toNat % 4 * 16), pad, pad]
  | [a, b] =>
    [symbol (a.toNat / 4), symbol (a.toNat % 4 * 16 + b.toNat / 16), symbol (b.toNat % 16 * 4), pad]
  | a :: b :: c :: rest =>
    symbol (a.toNat / 4) :: symbol (a.toNat % 4 * 16 + b.toNat / 16) ::
      symbol (b.toNat % 16 * 4 + c.toNat / 64) :: symbol (c.toNat % 64) :: encode rest

inductive Flaw
  | strayBits
  | badByte (byte : UInt8) (offset : Nat)
  | badLastSymbol (byte : UInt8) (offset : Nat)
  deriving DecidableEq

def Flaw.message : Flaw → String
  | .strayBits => "Encoded text cannot have a 6-bit remainder."
  | .badByte byte offset => s!"Invalid byte {byte.toNat}, offset {offset}."
  | .badLastSymbol byte offset => s!"Invalid last symbol {byte.toNat}, offset {offset}."

/-- The values of the symbols before the padding. Padding begins at an offset that is 2 or 3 modulo
4, reaches to the end of the text and stays in its group of four; any other sign of it is a bad
byte, and of several the first is reported. -/
def values (offset : Nat) : Bytes → Except Flaw (List Nat)
  | [] => .ok []
  | b :: bs =>
    match value? b with
    | some v => (values (offset + 1) bs).map (v :: ·)
    | none =>
      if b = pad ∧ 2 ≤ offset % 4 ∧ offset % 4 + bs.length ≤ 3 ∧ bs.all (· == pad) then .ok []
      else .error (.badByte b offset)

/-- The bytes of a list of six-bit values; the bits left over at the end are dropped. -/
def join : List Nat → Bytes
  | a :: b :: c :: d :: rest =>
    UInt8.ofNat (a * 4 + b / 16) :: UInt8.ofNat (b % 16 * 16 + c / 4) ::
      UInt8.ofNat (c % 4 * 64 + d) :: join rest
  | [a, b, c] => [UInt8.ofNat (a * 4 + b / 16), UInt8.ofNat (b % 16 * 16 + c / 4)]
  | [a, b] => [UInt8.ofNat (a * 4 + b / 16)]
  | _ => []

/-- Whether the bits that `join` drops at the end are all zero. -/
def tailClear (vs : List Nat) : Bool :=
  match vs.length % 4, vs.getLast? with
  | 2, some v => v % 16 == 0
  | 3, some v => v % 4 == 0
  | _, _ => true

def decode (bs : Bytes) : Except Flaw Bytes :=
  if bs.length % 4 = 1 then .error .strayBits
  else match values 0 bs with
    | .error flaw => .error flaw
    | .ok vs =>
      if tailClear vs then .ok (join vs)
      else .error (.badLastSymbol (bs.getD (vs.length - 1) 0) (vs.length - 1))

end SmtpDialog.Base64
