/- digest: A server: its settings, commands, extensions and sessions. -/
import SmtpDialog.Command.Content
import SmtpDialog.Command.Greeting
import SmtpDialog.Command.Inquiry
import SmtpDialog.Extension
import SmtpDialog.Dispatch

/-!
A server holds all that sessions share. Its own commands are registered first and those of
extensions after them, so that the last contribution for a verb counts. An event is offered to the
consumers that stand in the chain when it arrives, the first of the chain first, until one handles
it; what they do to the chain governs the next event.
-/

set_option autoImplicit false
set_option relaxedAutoImplicit false

namespace SmtpDialog

structure Server (κ : Type) where
  config : Config
  commands : List (String × Handler κ) := []
  connectHandler : Option (Handler κ) := none
  extensions : List (Extension κ) := []
  newMail : Session κ → MailBehaviour
  /-- What the consumers from outside the library do. -/
  custom : κ → Hook κ

namespace Server

variable {κ : Type}

def command (verb : String) (handler : Handler κ) (server : Server κ) : Server κ :=
  let verb := Text.upper verb
  { server with commands := server.commands.filter (·.1 != verb) ++ [(verb, handler)] }

def withConnectHandler (handler : Option (Handler κ)) (server : Server κ) : Server κ :=
  { server with connectHandler := handler }

/-- Adds an extension; extensions are announced in the order in which they are added. -/
def extension (x : Extension κ) (server : Server κ) : Server κ :=
  { server with extensions := server.extensions ++ [x] }

def bare (config : Config) (newMail : Session κ → MailBehaviour) (custom : κ → Hook κ) : Server κ :=
  { config, newMail, custom }

def standardCommands : List (String × Handler κ) :=
  [("HELO", Command.helo), ("EHLO", Command.ehlo), ("MAIL", Command.mail), ("RCPT", Command.rcpt),
    ("DATA", Command.data), ("RSET", Command.rset), ("NOOP", Command.noop), ("VRFY", Command.vrfy),
    ("HELP", Command.help), ("QUIT", Command.quit)]

def standard (config : Config) (newMail : Session κ → MailBehaviour) (custom : κ → Hook κ) :
    Server κ :=
  standardCommands.foldl (fun server c => server.command c.1 c.2)
    ((bare config newMail custom).withConnectHandler (some Command.greeting))

/-- The dispatch of every session: the server's own commands, then those of the extensions. -/
def dispatch (server : Server κ) : Dispatch κ :=
  (server.commands ++ server.extensions.flatMap (·.commands)).foldl
    (fun d c => d.register c.1 c.2) { connectHandler := server.connectHandler }

def site (server : Server κ) : Site κ :=
  ⟨server.config, server.extensions.map (·.toOffer), server.newMail⟩

/-- The session of a new connection. The consumers of extensions stand before the dispatch, those of
the first extension in front. -/
def newSession (server : Server κ) (peerName : String) : Session κ where
  peerName := peerName
  logPrefix := ({ protocol := "smtp" } : LogPrefix).setPeer peerName
  consumers := server.extensions.foldr
    (fun x chain => match x.consumer with
      | some consumer => chain.insert x.name consumer
      | none => chain)
    (Chain.empty.insert Place.dispatch.name .dispatch)

def hook (server : Server κ) : Consumer κ → Hook κ
  | .dispatch => server.dispatch.hook
  | .content => Command.content
  | .responses => Command.responses
  | .custom code => server.custom code

/-- The end of an event that was handled: the move is made, and the reply is for the client. -/
def settle (t : Answer) (s : Session κ) : Except Fault Reply × Session κ :=
  (.ok t.reply, match t.next with
    | some next => s.moveTo next
    | none => s)

def offerConnect (server : Server κ) : List (Consumer κ) → Session κ → Outcome κ
  | [], s => (.ok .declined, s)
  | consumer :: rest, s =>
    match (server.hook consumer).onConnect server.site s with
    | (.ok .declined, s) => offerConnect server rest s
    | done => done

def connect (server : Server κ) (s : Session κ) : Except Fault Reply × Session κ :=
  let s := s.logInfo "Connection accepted"
  match server.offerConnect s.consumers.values s with
  | (.error fault, s) => (.error fault, s)
  | (.ok (.handled t), s) => settle t s
  | (.ok .declined, s) =>
    (.ok .serverError, s.logError "No connect handler accepted the connection")

/-- Offers a line to consumers in order. Each sees the line as those before it left it. -/
def offerLine (server : Server κ) :
    List (Consumer κ) → Session κ → Line → Except Fault Verdict × Session κ × Line
  | [], s, line => (.ok .declined, s, line)
  | consumer :: rest, s, line =>
    match (server.hook consumer).onLine server.site s line with
    | (.ok .declined, s, line) => offerLine server rest s line
    | done => done

def maxVerbShown : Nat := 64

def consume (server : Server κ) (s : Session κ) (line : Line) : Except Fault Reply × Session κ :=
  match server.offerLine s.consumers.values s line with
  | (.error fault, s, _) => (.error fault, s)
  | (.ok (.handled t), s, _) => settle t s
  | (.ok .declined, s, line) =>
    let shown := String.ofList (line.verb.toList.take maxVerbShown)
    (.ok .unrecognised, s.logWarn ("Unrecognised command " ++ Text.quoted shown))

def describe (server : Server κ) : String :=
  "Engine \x7b config: " ++ server.config.describe ++
    ", commands: " ++ Text.quotedList "[" "]" (server.commands.map (·.1)) ++
    ", extensions: " ++ Text.quotedList "[" "]" (server.extensions.map (·.name)) ++ " \x7d"

end Server
end SmtpDialog
