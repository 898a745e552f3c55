/- digest: Typed values that a session keeps under keys. -/
import SmtpDialog.Reply
import SmtpDialog.Sasl.Mechanism
import SmtpDialog.Table
import SmtpDialog.Text.Quoted

/-!
Consumers and handlers keep what they know about a session in its properties. A value is read as one
type: under the right key but of another type it is as good as absent, though taking it removes it.
-/

set_option autoImplicit false
set_option relaxedAutoImplicit false

namespace SmtpDialog

/-- An authentication exchange that has begun: its number on the connection and its mechanism. -/
structure Exchange where
  serial : Nat
  mechanism : Mechanism

/-- A value of a property. Words are counters of 64 bits, which wrap. -/
inductive Value
  | text (t : String)
  | word (n : UInt64)
  | count (n : Nat)
  | flag (b : Bool)
  | unit
  | reply (r : Reply)
  | exchange (e : Exchange)

namespace Value

def text? : Value → Option String
  | text t => some t
  | _ => none

def word? : Value → Option UInt64
  | word n => some n
  | _ => none

def count? : Value → Option Nat
  | count n => some n
  | _ => none

def flag? : Value → Option Bool
  | flag b => some b
  | _ => none

def unit? : Value → Option Unit
  | unit => some ()
  | _ => none

def reply? : Value → Option Reply
  | reply r => some r
  | _ => none

def exchange? : Value → Option Exchange
  | exchange e => some e
  | _ => none

end Value

abbrev Properties := Table Value

namespace Properties

/-- The value under a key, read as one type. -/
def read? {α : Type} (as : Value → Option α) (key : String) (p : Properties) : Option α :=
  (p.get? key).bind as

/-- Adds to the word under a key and gives the sum, if there is a word. -/
def addWord (key : String) (n : UInt64) (p : Properties) : Option UInt64 × Properties :=
  match read? Value.word? key p with
  | some m => (some (m + n), p.insert key (.word (m + n)))
  | none => (none, p)

def appendText (key suffix : String) (p : Properties) : Option String × Properties :=
  match read? Value.text? key p with
  | some t => (some (t ++ suffix), p.insert key (.text (t ++ suffix)))
  | none => (none, p)

def describe (p : Properties) : String := Text.quotedList "\x7b" "\x7d" p.keys

end Properties
end SmtpDialog
