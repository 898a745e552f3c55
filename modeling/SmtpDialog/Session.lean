/- digest: The state of one connection and what can be done to it. -/
import SmtpDialog.Chain
import SmtpDialog.Journal.Event
import SmtpDialog.Journal.LogPrefix
import SmtpDialog.Properties
import SmtpDialog.State

/-!
A session holds where the dialog stands, the open mail object, the properties, the TLS description
and the chain of consumers, together with the journal of all that was logged and asked of
collaborators. Consumers from outside the library are known by a code of type `κ`, which the server
interprets.
-/

set_option autoImplicit false
set_option relaxedAutoImplicit false

namespace SmtpDialog

inductive Consumer (κ : Type)
  /-- Dispatches lines to command handlers by verb. -/
  | dispatch
  | content
  /-- Receives the client's responses in an authentication exchange. -/
  | responses
  | custom (code : κ)

inductive Key
  | heloDomain | recipientCount | contentFault | contentSize | identity | authcid | exchange
  deriving DecidableEq

def Key.name : Key → String
  | heloDomain => "helo.domain"
  | recipientCount => "rcpt.count"
  | contentFault => "data.error"
  | contentSize => "data.size"
  | identity => "auth.identity"
  | authcid => "auth.authcid"
  | exchange => "auth.mechanism"

/-- The keys of the library's consumers in the chain. -/
inductive Place
  | dispatch | content | responses
  deriving DecidableEq

def Place.name : Place → String
  | dispatch => "router"
  | content => "smtp.data"
  | responses => "auth"

structure Session (κ : Type) where
  peerName : String
  logPrefix : LogPrefix
  state : State := .beforeConnect
  mail : Option MailObject := none
  properties : Properties := .empty
  /-- A description of the TLS session, once there is one. -/
  tls : Option String := none
  consumers : Chain (Consumer κ)
  mailsOpened : Nat := 0
  exchangesOpened : Nat := 0
  /-- What happened so far, the latest first. -/
  journal : List Event := []

namespace Session

variable {κ : Type}

def record (event : Event) (s : Session κ) : Session κ := { s with journal := event :: s.journal }

def log (level : Level) (text : String) (s : Session κ) : Session κ :=
  s.record (.log level (s.logPrefix.text ++ " " ++ text))

def logError (text : String) (s : Session κ) : Session κ := s.log .error text

def logWarn (text : String) (s : Session κ) : Session κ := s.log .warn text

def logInfo (text : String) (s : Session κ) : Session κ := s.log .info text

def logInfoIf (condition : Bool) (text : String) (s : Session κ) : Session κ :=
  if condition then s.logInfo text else s

/-- Moves to a state. A move to the present state is no move. -/
def moveTo (next : State) (s : Session κ) : Session κ :=
  if next = s.state then s
  else { s.log .debug ("State " ++ s.state.name ++ " => " ++ next.name) with state := next }

def isTls (s : Session κ) : Bool := s.tls.isSome

def hasMail (s : Session κ) : Bool := s.mail.isSome

def read? {α : Type} (as : Value → Option α) (key : Key) (s : Session κ) : Option α :=
  s.properties.read? as key.name

def hasProperty (key : Key) (s : Session κ) : Bool := s.properties.contains key.name

def setProperty (key : Key) (value : Value) (s : Session κ) : Session κ :=
  { s with properties := s.properties.insert key.name value }

def clearProperty (key : Key) (s : Session κ) : Session κ :=
  { s with properties := s.properties.erase key.name }

def install (place : Place) (consumer : Consumer κ) (s : Session κ) : Session κ :=
  { s with consumers := s.consumers.insert place.name consumer }

def uninstall (place : Place) (s : Session κ) : Session κ :=
  { s with consumers := s.consumers.erase place.name }

/-- Asks for a mail object, which is not yet that of the session. -/
def openMail (newMail : Session κ → MailBehaviour) (s : Session κ) : MailObject × Session κ :=
  let mail : MailObject := ⟨s.mailsOpened, newMail s, {}⟩
  (mail, { s.record (.mailOpened mail.serial s.peerName) with mailsOpened := s.mailsOpened + 1 })

/-- Makes a call on a mail object that need not be that of the session. -/
def callOn (mail : MailObject) (c : MailCall) (s : Session κ) :
    Except Fault Reply × MailObject × Session κ :=
  let answered := mail.call c
  (answered.1, answered.2, s.record (.mailCalled mail.serial c answered.1))

def callMail (c : MailCall) (s : Session κ) : Option (Except Fault Reply) × Session κ :=
  match s.mail with
  | none => (none, s)
  | some mail =>
    let (answer, mail, s) := s.callOn mail c
    (some answer, { s with mail := some mail })

def disposeMail (mail : MailObject) (s : Session κ) : Session κ :=
  s.record (.mailDisposed mail.serial)

def closeMail (s : Session κ) : Session κ :=
  match s.mail with
  | none => s
  | some mail => { s.disposeMail mail with mail := none }

/-- Makes a mail object that of the session, in place of any other. -/
def adoptMail (mail : MailObject) (s : Session κ) : Session κ :=
  { s.closeMail with mail := some mail }

def completeMail (s : Session κ) : Except Fault Reply × Session κ :=
  match s.mail with
  | none => (.error (.mail "No mail transaction in progress"), s)
  | some mail =>
    let (answer, mail, s) := s.callOn mail .complete
    (answer, { s.disposeMail mail with mail := none })

def disposeMechanism (e : Exchange) (s : Session κ) : Session κ :=
  s.record (.mechanismDisposed e.serial)

/-- Takes the exchange in progress out of the properties. Whatever else stood there is lost. -/
def takeExchange (s : Session κ) : Option Exchange × Session κ :=
  (s.read? Value.exchange? .exchange, s.clearProperty .exchange)

/-- Ends an exchange in progress without an answer to the client. -/
def abandonExchange (s : Session κ) : Session κ :=
  let (exchange, s) := s.takeExchange
  (match exchange with
    | some e => s.disposeMechanism e
    | none => s).uninstall .responses

/-- A TLS handshake has been made. All that the client said before is forgotten (RFC 3207). -/
def tlsEstablished (description : String) (s : Session κ) : Session κ :=
  let s := (s.logInfo ("TLS established: " ++ description)).closeMail.abandonExchange
  { s with
    properties := .empty
    logPrefix := s.logPrefix.clearUser
    tls := some description }.moveTo .connected

/-- Gives back what the session still holds of collaborators. -/
def release (s : Session κ) : Session κ := s.closeMail.abandonExchange

def connectionLost (s : Session κ) : Session κ :=
  (s.logInfoIf s.hasMail "Connection lost with a mail transaction in progress").release

/-- Makes the message being received fail with a reply, once its end arrives. There must be a
message and no failure before. -/
def failTransfer (reply : Reply) (s : Session κ) : Session κ :=
  if s.consumers.contains Place.content.name && !s.hasProperty .contentFault then
    s.setProperty .contentFault (.reply reply)
  else s

def describe (s : Session κ) : String :=
  "Session \x7b peer_name: " ++ Text.quoted s.peerName ++
    ", state: " ++ s.state.describe ++
    ", has_mail: " ++ Text.flag s.hasMail ++
    ", properties: " ++ s.properties.describe ++
    ", tls: " ++ (match s.tls with
      | none => "None"
      | some t => "Some(" ++ Text.quoted t ++ ")") ++
    ", consumers: " ++ s.consumers.describe ++ " \x7d"

end Session
end SmtpDialog
