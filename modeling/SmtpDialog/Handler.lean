/- digest: Command handlers and line consumers, and what they may use of the server. -/
import SmtpDialog.Config
import SmtpDialog.Grammar.Arguments
import SmtpDialog.Session

/-!
A handler serves one verb and a hook stands in the chain of consumers. Both are given the session
and give it back, changed or not, with what they did about the event. A handler is only run where it
is valid; elsewhere the command is out of sequence.
-/

set_option autoImplicit false
set_option relaxedAutoImplicit false

namespace SmtpDialog

/-- A reply, and the state to move to if there is a move. -/
structure Answer where
  reply : Reply
  next : Option State
  deriving DecidableEq

/-- What became of an event that was offered. -/
inductive Verdict
  | declined
  | handled (t : Answer)
  deriving DecidableEq

abbrev Outcome (κ : Type) := Except Fault Verdict × Session κ

def Outcome.stay {κ : Type} (reply : Reply) (s : Session κ) : Outcome κ :=
  (.ok (.handled ⟨reply, none⟩), s)

def Outcome.goTo {κ : Type} (next : State) (reply : Reply) (s : Session κ) : Outcome κ :=
  (.ok (.handled ⟨reply, some next⟩), s)

/-- A line of the answer to EHLO: whether it is given to a session, and its text. -/
structure Offer (κ : Type) where
  isAvailable : Config → Session κ → Bool := fun _ _ => true
  advertisement : Config → Session κ → String

/-- What handlers and hooks may use of the server. -/
structure Site (κ : Type) where
  config : Config
  offers : List (Offer κ)
  /-- How a mail object asked for by a session will behave. -/
  newMail : Session κ → MailBehaviour

/-- Serves one verb, or the greeting of a connection, which has no line. -/
structure Handler (κ : Type) where
  validIn : State → Bool
  validFor : Session κ → Bool := fun s => validIn s.state
  run : Site κ → Session κ → Option String → Outcome κ

namespace Handler

variable {κ : Type}

def handle (handler : Handler κ) (site : Site κ) (s : Session κ) (line : Option String) :
    Outcome κ :=
  if handler.validFor s then handler.run site s line
  else Outcome.stay .badSequence s

def arguments (line : Option String) : String := (line.map Grammar.arguments).getD ""

end Handler

/-- A consumer of events. A hook may also change the line that later consumers see. -/
structure Hook (κ : Type) where
  onLine : Site κ → Session κ → Line → Except Fault Verdict × Session κ × Line
  onConnect : Site κ → Session κ → Outcome κ := fun _ s => (.ok .declined, s)

def Hook.reading {κ : Type} (onLine : Site κ → Session κ → Line → Outcome κ) : Hook κ where
  onLine site s line :=
    let (done, s) := onLine site s line
    (done, s, line)

end SmtpDialog
