/- digest: NOOP, VRFY, HELP and QUIT. -/
import SmtpDialog.Command.Transaction

set_option autoImplicit false
set_option relaxedAutoImplicit false

namespace SmtpDialog.Command

variable {κ : Type}

def fixed (reply : Reply) : Handler κ where
  validIn := inDialog
  run _ s _ := Outcome.stay reply s

def noop : Handler κ := fixed .ok

def vrfy : Handler κ :=
  fixed (.of .cannotVerify "Cannot VRFY user, but will accept message and attempt delivery")

def help : Handler κ :=
  fixed (.of .helpMessage "See RFC 5321 <https://tools.ietf.org/html/rfc5321>")

/-- Ends the dialog. It may also be ended after a refusal to greet. -/
def quit : Handler κ where
  validIn state := state != .beforeConnect && state != .endingSession
  run site s _ :=
    Outcome.goTo .endingSession
      (.of .serviceClosing (site.config.hostName ++ " Service closing transmission channel"))
      (s.logInfo "Client quit").closeMail

end SmtpDialog.Command
