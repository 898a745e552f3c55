/- digest: The settings that all sessions of a server share. -/
import SmtpDialog.Text.Quoted

set_option autoImplicit false
set_option relaxedAutoImplicit false

namespace SmtpDialog

structure AuthConfig where
  /-- Mechanisms that send a password in the clear are only offered under TLS. -/
  requireTls : Bool := true
  /-- The names of the mechanisms, in the order in which they are advertised. -/
  mechanisms : List String := ["PLAIN", "LOGIN"]
  deriving DecidableEq

structure Config where
  /-- The host name that the server gives in its greetings. -/
  hostName : String := "localhost"
  /-- What follows the host name in the first greeting. -/
  greeting : String := "ESMTP ready"
  /-- The greatest length of a line in bytes, terminator included. -/
  maxLineLength : Nat := 1024
  /-- The greatest size of a message in bytes; zero for no limit. -/
  maxMessageSize : Nat := 0
  /-- The greatest number of recipients of one message. -/
  maxRecipients : Nat := 100
  offerStartTls : Bool := false
  auth : AuthConfig := {}
  deriving DecidableEq

def AuthConfig.describe (c : AuthConfig) : String :=
  "AuthConfig \x7b require_tls: " ++ Text.flag c.requireTls ++
    ", mechanisms: " ++ Text.quotedList "[" "]" c.mechanisms ++ " \x7d"

def Config.describe (c : Config) : String :=
  "SmtpConfig \x7b host_name: " ++ Text.quoted c.hostName ++
    ", greeting: " ++ Text.quoted c.greeting ++
    ", max_line_length: " ++ toString c.maxLineLength ++
    ", max_message_size: " ++ toString c.maxMessageSize ++
    ", max_recipients: " ++ toString c.maxRecipients ++
    ", offer_starttls: " ++ Text.flag c.offerStartTls ++
    ", auth: " ++ c.auth.describe ++ " \x7d"

end SmtpDialog
