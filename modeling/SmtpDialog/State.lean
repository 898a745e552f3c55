/- digest: Where a session stands in the dialog. -/
import SmtpDialog.Text.Quoted

set_option autoImplicit false
set_option relaxedAutoImplicit false

namespace SmtpDialog

inductive State
  /-- No greeting has been sent. -/
  | beforeConnect
  /-- The greeting has been sent; HELO or EHLO is awaited. -/
  | connected
  /-- HELO or EHLO was accepted and no mail transaction is open. -/
  | afterEhlo
  /-- MAIL was accepted; recipients are awaited. -/
  | afterMail
  /-- At least one recipient was accepted. -/
  | afterRcpt
  /-- Between DATA and the dot that ends the message. -/
  | readingData
  | endingSession
  /-- The connection was refused; only QUIT is allowed. -/
  | connectRejected
  | custom (name : String)
  deriving DecidableEq

namespace State

def name : State → String
  | beforeConnect => "before-connect"
  | connected => "connected"
  | afterEhlo => "after-ehlo"
  | afterMail => "after-mail"
  | afterRcpt => "after-rcpt"
  | readingData => "reading-data"
  | endingSession => "ending-session"
  | connectRejected => "connect-rejected"
  | custom name => name

def isGreeted : State → Bool
  | afterEhlo | afterMail | afterRcpt => true
  | _ => false

/-- Whether a transaction is open, from MAIL through RCPT. -/
def inTransaction : State → Bool
  | afterMail | afterRcpt => true
  | _ => false

def describe : State → String
  | beforeConnect => "BeforeConnect"
  | connected => "Connected"
  | afterEhlo => "AfterEhlo"
  | afterMail => "AfterMail"
  | afterRcpt => "AfterRcpt"
  | readingData => "ReadingData"
  | endingSession => "EndingSession"
  | connectRejected => "ConnectRejected"
  | custom name => "Custom(" ++ Text.quoted name ++ ")"

end State
end SmtpDialog
