/- digest: Mail objects, which receive one transaction each. -/
import SmtpDialog.Reply
import SmtpDialog.Fault

/-!
A mail object stands for one mail transaction on the far side of the library. How it answers a call
may depend on all calls made on it before; a behaviour is that dependence and nothing else.
Preparing for data and writing a line have nothing to say when they succeed, so the reply given with
such a success is not looked at.
-/

set_option autoImplicit false
set_option relaxedAutoImplicit false

namespace SmtpDialog

/-- A call on a mail object, other than the last one, which disposes of it. -/
inductive MailCall
  | mailFrom (path parameters : String)
  | rcptTo (path parameters : String)
  | prepare
  | writeLine (data : Bytes)
  | complete
  deriving DecidableEq

def MailCall.isWrite : MailCall → Bool
  | writeLine _ => true
  | _ => false

/-- The calls made on a mail object, the latest of them first, and the number of lines written. -/
structure MailHistory where
  calls : List MailCall := []
  lines : Nat := 0
  lines_eq : lines = calls.countP MailCall.isWrite := by rfl

def MailHistory.add (h : MailHistory) (c : MailCall) : MailHistory where
  calls := c :: h.calls
  lines := if c.isWrite then h.lines + 1 else h.lines
  lines_eq := by simp only [List.countP_cons, h.lines_eq]; split <;> rfl

/-- The answer to a call after the calls made before it. -/
abbrev MailBehaviour := MailHistory → MailCall → Except Fault Reply

/-- A mail object: its number on the connection, its behaviour and the calls made so far. -/
structure MailObject where
  serial : Nat
  behaviour : MailBehaviour
  history : MailHistory := {}

def MailObject.call (mail : MailObject) (c : MailCall) : Except Fault Reply × MailObject :=
  (mail.behaviour mail.history c, { mail with history := mail.history.add c })

@[simp] theorem MailObject.call_serial (mail : MailObject) (c : MailCall) :
    (mail.call c).2.serial = mail.serial := rfl

end SmtpDialog
