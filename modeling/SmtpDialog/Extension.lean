/- digest: What a server can do beyond the standard commands. -/
import SmtpDialog.Command.Auth
import SmtpDialog.Handler

set_option autoImplicit false
set_option relaxedAutoImplicit false

namespace SmtpDialog

structure Extension (κ : Type) extends Offer κ where
  name : String
  commands : List (String × Handler κ) := []
  consumer : Option (Consumer κ) := none

namespace Extension

variable {κ : Type}

def keyword (name : String) : Extension κ where
  name := name
  advertisement _ _ := name

/-- Announces the greatest size of a message, if there is one (RFC 1870). -/
def size : Extension κ where
  name := "SIZE"
  isAvailable config _ := 0 < config.maxMessageSize
  advertisement config _ := s!"SIZE {config.maxMessageSize}"

/-- Offers STARTTLS where the settings allow it and TLS is not in use yet. -/
def startTls : Extension κ where
  name := "STARTTLS"
  isAvailable config s := config.offerStartTls && !s.isTls
  advertisement _ _ := "STARTTLS"
  commands := [("STARTTLS", Command.startTls)]

/-- Offers authentication by those mechanisms that may be used, if there are any. -/
def auth (policy : AuthPolicy) : Extension κ where
  name := "AUTH"
  isAvailable _ s := !(policy.available s).isEmpty
  advertisement _ s := " ".intercalate ("AUTH" :: (policy.available s).map (·.name))
  commands := [("AUTH", Command.auth policy)]

/-- The extensions that every server has, whether or not they are announced. -/
def standard : List (Extension κ) :=
  [keyword "8BITMIME", keyword "PIPELINING", size, startTls]

end Extension
end SmtpDialog
