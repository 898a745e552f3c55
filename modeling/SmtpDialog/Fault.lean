/- digest: What can go wrong, and its text. -/
import SmtpDialog.Line

/-!
A fault is a cause. Collaborators report most of them; a few arise in the dialog itself or on the
stream. An unterminated line is a breach of contract by whoever delivers lines, not an event of the
connection, and nothing is tidied up after it.
-/

set_option autoImplicit false
set_option relaxedAutoImplicit false

namespace SmtpDialog

inductive IoFault
  | connectionReset | interrupted | timedOut | unexpectedEof | brokenPipe | notFound | invalidData
  deriving DecidableEq

def IoFault.message : IoFault → String
  | connectionReset => "connection reset"
  | interrupted => "operation interrupted"
  | timedOut => "timed out"
  | unexpectedEof => "unexpected end of file"
  | brokenPipe => "broken pipe"
  | notFound => "entity not found"
  | invalidData => "invalid data"

inductive Fault
  | lineTooLong (limit : Nat)
  | mail (detail : String)
  | sasl (detail : String)
  | credentials (detail : String)
  | tlsUpgrade (detail : String)
  | pipelinedStartTls
  | io (cause : IoFault)
  | config
  | unterminated (line : Line)
  deriving DecidableEq

/-- The text of a fault in log records. A flawed configuration has no text of its own. -/
def Fault.message : Fault → String
  | lineTooLong limit => s!"Line exceeds the maximum length of {limit} bytes"
  | mail detail => "Mail object failure: " ++ detail
  | sasl detail => "SASL failure: " ++ detail
  | credentials detail => "Credential check failed: " ++ detail
  | tlsUpgrade detail => "TLS upgrade failed: " ++ detail
  | pipelinedStartTls => "Client sent data after STARTTLS before the handshake"
  | io cause => cause.message
  | config => ""
  | unterminated line => "Unterminated line passed to command router: " ++ line.describe

end SmtpDialog
