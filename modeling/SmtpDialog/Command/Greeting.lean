/- digest: The first greeting, and HELO and EHLO. -/
import SmtpDialog.Handler

set_option autoImplicit false
set_option relaxedAutoImplicit false

namespace SmtpDialog.Command

variable {κ : Type}

def greeting : Handler κ where
  validIn state := state == .beforeConnect
  run site s _ :=
    Outcome.goTo .connected
      (.of .serviceReady (site.config.hostName ++ " " ++ site.config.greeting))
      (s.logInfo "Sending greeting")

def greetable : State → Bool
  | .connected | .afterEhlo | .afterMail | .afterRcpt => true
  | _ => false

def acceptDomain (command domain : String) (s : Session κ) : Session κ :=
  let s := (s.logInfoIf s.hasMail (command ++ " aborts mail transaction")).closeMail
  let s := { s with logPrefix := s.logPrefix.setHelo domain }
  (s.setProperty .heloDomain (.text domain)).logInfo ("SMTP " ++ command)

/-- The first line of the answer to HELO and EHLO. -/
def salutation (config : Config) (domain : String) : String :=
  config.hostName ++ " salutations, " ++ domain

/-- Serves HELO or EHLO, with the reply that the session then gets. -/
def greetingBy (command : String) (answer : Site κ → Session κ → String → Reply) : Handler κ where
  validIn := greetable
  run site s line :=
    match line.bind (Grammar.heloDomain? ∘ Grammar.arguments) with
    | none => Outcome.stay (.syntaxError ("Syntax: " ++ command ++ " hostname")) s
    | some domain =>
      let s := acceptDomain command domain s
      Outcome.goTo .afterEhlo (answer site s domain) s

def helo : Handler κ :=
  greetingBy "HELO" fun site _ domain => .of .ok (salutation site.config domain)

def offered (site : Site κ) (s : Session κ) : List String :=
  (site.offers.filter (·.isAvailable site.config s)).map (·.advertisement site.config s)

def ehlo : Handler κ :=
  greetingBy "EHLO" fun site s domain =>
    .multi Code.ok.number (salutation site.config domain :: offered site s)

end SmtpDialog.Command
