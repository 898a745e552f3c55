/- digest: UTF-8 over lists of bytes, strict and with replacement. -/

/-!
Texts travel as bytes. `encode` writes characters as UTF-8, `decode?` reads bytes that are
well-formed throughout, and `lossy` reads any bytes, putting one U+FFFD for each maximal ill-formed
subpart. Both readers are views of one scan.
-/

set_option autoImplicit false
set_option relaxedAutoImplicit false

namespace SmtpDialog

abbrev Bytes := List UInt8

namespace Utf8

def encode (cs : List Char) : Bytes := cs.flatMap String.utf8EncodeChar

def ofString (t : String) : Bytes := encode t.toList

/-- A character of which some bytes are still to come: the value of the bits read so far, how many
bytes are missing after the next one, and the range in which the next one must lie. -/
structure Unfinished where
  value : Nat
  missing : Nat
  low : UInt8
  high : UInt8
  deriving DecidableEq

/-- Reads a byte at a character boundary. The ranges of the second byte keep out overlong forms,
surrogates and values above U+10FFFF. -/
def start (b : UInt8) : List (Option Char) × Option Unfinished :=
  if b < 0x80 then ([some (Char.ofNat b.toNat)], none)
  else if b < 0xC2 then ([none], none)
  else if b < 0xE0 then ([], some ⟨b.toNat - 0xC0, 0, 0x80, 0xBF⟩)
  else if b = 0xE0 then ([], some ⟨0, 1, 0xA0, 0xBF⟩)
  else if b = 0xED then ([], some ⟨13, 1, 0x80, 0x9F⟩)
  else if b < 0xF0 then ([], some ⟨b.toNat - 0xE0, 1, 0x80, 0xBF⟩)
  else if b = 0xF0 then ([], some ⟨0, 2, 0x90, 0xBF⟩)
  else if b < 0xF4 then ([], some ⟨b.toNat - 0xF0, 2, 0x80, 0xBF⟩)
  else if b = 0xF4 then ([], some ⟨4, 2, 0x80, 0x8F⟩)
  else ([none], none)

/-- Reads one byte. An output of `none` stands for a maximal ill-formed subpart; a byte that cannot
continue the character begun ends that subpart and is read afresh. -/
def step (pending : Option Unfinished) (b : UInt8) : List (Option Char) × Option Unfinished :=
  match pending with
  | none => start b
  | some u =>
    if u.low ≤ b ∧ b ≤ u.high then
      let value := u.value * 64 + (b.toNat - 0x80)
      match u.missing with
      | 0 => ([some (Char.ofNat value)], none)
      | missing + 1 => ([], some ⟨value, missing, 0x80, 0xBF⟩)
    else (none :: (start b).1, (start b).2)

/-- The characters and ill-formed subparts of a byte list, in order. -/
def scan (pending : Option Unfinished) : Bytes → List (Option Char)
  | [] => if pending.isSome then [none] else []
  | b :: bs =>
    let (out, pending) := step pending b
    out ++ scan pending bs

/-- The characters of well-formed bytes; `none` if any part is ill-formed. -/
def decode? (bs : Bytes) : Option (List Char) :=
  (scan none bs).foldr (fun c cs => c.bind fun c => cs.map (c :: ·)) (some [])

/-- The characters of any bytes, with U+FFFD for each ill-formed subpart. -/
def lossy (bs : Bytes) : List Char := (scan none bs).map (·.getD '\uFFFD')

def toString? (bs : Bytes) : Option String := (decode? bs).map String.ofList

def toStringLossy (bs : Bytes) : String := String.ofList (lossy bs)

example : lossy [0x61, 0xF0, 0x9F, 0x92, 0x62, 0xED, 0xA0, 0x80] =
    ['a', '\uFFFD', 'b', '\uFFFD', '\uFFFD', '\uFFFD'] := by decide

example : decode? (encode ['ß', '€', '😀']) = some ['ß', '€', '😀'] := by decide

end Utf8
end SmtpDialog
