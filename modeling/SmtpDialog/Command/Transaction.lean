/- digest: MAIL, RCPT and RSET. -/
import SmtpDialog.Grammar.Envelope
import SmtpDialog.Handler

set_option autoImplicit false
set_option relaxedAutoImplicit false

namespace SmtpDialog.Command

variable {κ : Type}

def tooLarge (config : Config) : Reply :=
  .of .exceededStorageAllocation s!"Maximum message size is {config.maxMessageSize} bytes"

def exceedsLimit (config : Config) (sender : Grammar.PathArguments) : Bool :=
  0 < config.maxMessageSize &&
    config.maxMessageSize < (Grammar.declaredSize? sender.parameters).getD 0

def beginTransaction (site : Site κ) (sender : Grammar.PathArguments) (s : Session κ) : Outcome κ :=
  let s := s.closeMail.clearProperty .recipientCount
  let (mail, s) := s.openMail site.newMail
  let (answer, mail, s) := s.callOn mail (.mailFrom sender.path sender.parameters)
  match answer with
  | .error fault => (.error fault, s.disposeMail mail)
  | .ok reply =>
    if reply.isPositive then
      Outcome.goTo .afterMail reply ((s.adoptMail mail).logInfo "Start mail transaction")
    else
      let s := s.logWarn ("Sender " ++ Text.quoted sender.path ++ " rejected: " ++ reply.text)
      Outcome.stay reply (s.disposeMail mail)

def mail : Handler κ where
  validIn state := state == .afterEhlo
  run site s line :=
    match Grammar.reversePath? (Handler.arguments line) with
    | none => Outcome.stay (.syntaxError "Syntax: MAIL FROM:<address> [parameters]") s
    | some sender =>
      if exceedsLimit site.config sender then Outcome.stay (tooLarge site.config) s
      else beginTransaction site sender s

def recipientCount (s : Session κ) : Nat := (s.read? Value.count? .recipientCount).getD 0

def addRecipient (recipient : Grammar.PathArguments) (s : Session κ) : Outcome κ :=
  let count := recipientCount s
  match s.callMail (.rcptTo recipient.path recipient.parameters) with
  | (none, s) =>
    Outcome.goTo .afterEhlo .localError (s.logError "[BUG] In transaction without a mail object")
  | (some (.error fault), s) => (.error fault, s)
  | (some (.ok reply), s) =>
    if reply.isPositive then
      Outcome.goTo .afterRcpt reply (s.setProperty .recipientCount (.count (count + 1)))
    else
      Outcome.stay reply
        (s.logWarn ("Recipient " ++ Text.quoted recipient.path ++ " rejected: " ++ reply.text))

def rcpt : Handler κ where
  validIn := State.inTransaction
  run site s line :=
    match Grammar.forwardPath? (Handler.arguments line) with
    | none => Outcome.stay (.syntaxError "Syntax: RCPT TO:<address> [parameters]") s
    | some recipient =>
      if site.config.maxRecipients ≤ recipientCount s then
        Outcome.stay (.of .insufficientStorage "Too many recipients") s
      else addRecipient recipient s

def inDialog (state : State) : Bool := state == .connected || state.isGreeted

/-- Gives up a transaction. A client that has not greeted still has to. -/
def rset : Handler κ where
  validIn := inDialog
  run _ s _ :=
    let s := (s.logInfoIf s.hasMail "Mail transaction reset").closeMail
    Outcome.goTo (if s.state = .connected then .connected else .afterEhlo) .ok s

end SmtpDialog.Command
