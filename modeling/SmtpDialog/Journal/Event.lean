/- digest: What happened on a connection: log records and calls on collaborators. -/
import SmtpDialog.Mail
import SmtpDialog.Sasl.Mechanism

/-!
The journal of a session keeps, in order, the records that were logged and the calls that were made
on collaborators with their answers. Mail objects and mechanisms are told apart by their numbers.
Nothing in the library decides anything by the journal; collaborators may.
-/

set_option autoImplicit false
set_option relaxedAutoImplicit false

namespace SmtpDialog

inductive Level
  | error | warn | info | debug
  deriving DecidableEq

def Level.name : Level → String
  | error => "ERROR"
  | warn => "WARN"
  | info => "INFO"
  | debug => "DEBUG"

inductive Event
  | log (level : Level) (text : String)
  | mailOpened (mail : Nat) (peer : String)
  | mailCalled (mail : Nat) (call : MailCall) (answer : Except Fault Reply)
  | mailDisposed (mail : Nat)
  /-- A mechanism was created, which may send a password in the clear. -/
  | mechanismOpened (exchange : Nat) (name : String) (sendsPlaintext : Bool)
  | mechanismHeard (exchange : Nat) (response : Bytes) (reaction : Reaction)
  | mechanismDisposed (exchange : Nat)
  /-- A consumer or handler that is not of this library left a note. -/
  | remark (text : String)

end SmtpDialog
