/- digest: STARTTLS. -/
import SmtpDialog.Handler

set_option autoImplicit false
set_option relaxedAutoImplicit false

namespace SmtpDialog.Command

variable {κ : Type}

/-- The states in which a client may ask for TLS or authenticate. -/
def betweenTransactions : State → Bool
  | .connected | .afterEhlo => true
  | _ => false

def startTls : Handler κ where
  validIn := betweenTransactions
  run site s line :=
    if s.isTls then Outcome.stay (.of .badSequenceOfCommands "TLS already active") s
    else if !site.config.offerStartTls then
      Outcome.stay (.of .commandNotImplemented "STARTTLS not available")
        (s.logWarn "Rejected STARTTLS: not offered")
    else if Handler.arguments line ≠ "" then
      Outcome.stay (.syntaxError "Syntax: STARTTLS (no parameters allowed)") s
    else Outcome.stay (.startTls "Ready to start TLS") (s.logInfo "Starting TLS")

end SmtpDialog.Command
