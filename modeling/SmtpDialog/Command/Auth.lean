/- digest: AUTH and the exchange that it begins. -/
import SmtpDialog.Command.StartTls
import SmtpDialog.Sasl.Registry
import SmtpDialog.Text.Base64

set_option autoImplicit false
set_option relaxedAutoImplicit false

namespace SmtpDialog

/-- The mechanisms of a server, and whether a password may be sent in the clear without TLS. -/
structure AuthPolicy where
  registry : Registry
  requireTls : Bool

def AuthPolicy.allows {κ : Type} (policy : AuthPolicy) (s : Session κ) (factory : Factory) : Bool :=
  !policy.requireTls || s.isTls || !factory.sendsPlaintext

def AuthPolicy.available {κ : Type} (policy : AuthPolicy) (s : Session κ) : List Factory :=
  policy.registry.factories.filter (policy.allows s)

namespace Command

variable {κ : Type}

def openExchange (factory : Factory) (s : Session κ) : Exchange × Session κ :=
  let e : Exchange := ⟨s.exchangesOpened, factory.create s.journal⟩
  (e, { s.record (.mechanismOpened e.serial e.mechanism.name factory.sendsPlaintext) with
    exchangesOpened := s.exchangesOpened + 1 })

def hear (e : Exchange) (response : Bytes) (s : Session κ) : Reaction × Exchange × Session κ :=
  let (reaction, mechanism) := e.mechanism.respond response
  (reaction, { e with mechanism := mechanism },
    s.record (.mechanismHeard e.serial response reaction))

def finishExchange (e : Exchange) (reaction : Reaction) (s : Session κ) : Outcome κ :=
  let s := s.disposeMechanism e
  match reaction.identity with
  | some identity =>
    let s := { s with logPrefix := s.logPrefix.setUser identity }
    let s := s.logInfo ("Authenticated with " ++ e.mechanism.name)
    let s := s.setProperty .identity (.text identity)
    let s := match reaction.authcid? with
      | some authcid => s.setProperty .authcid (.text authcid)
      | none => s
    Outcome.goTo .afterEhlo (.of .authenticationSucceeded "Authentication successful") s
  | none =>
    Outcome.stay (.of .authenticationCredentialsInvalid "Authentication credentials invalid")
      (s.logWarn ("Authentication with " ++ e.mechanism.name ++ " failed"))

def challengeReply (challenge : Bytes) : Reply :=
  .of .serverChallenge (Utf8.toStringLossy (Base64.encode challenge))

def continueExchange (e : Exchange) (response : Bytes) (s : Session κ) : Outcome κ :=
  let (reaction, e, s) := hear e response s
  match reaction.challenge with
  | .error fault =>
    let s := s.logError ("AUTH " ++ e.mechanism.name ++ " failed: " ++ fault.message)
    Outcome.stay .serverError ((s.disposeMechanism e).uninstall .responses)
  | .ok challenge =>
    if reaction.complete then finishExchange e reaction (s.uninstall .responses)
    else
      Outcome.stay (challengeReply challenge)
        ((s.setProperty .exchange (.exchange e)).install .responses .responses)

/-- The initial response of an AUTH command. An equals sign stands for the empty one. -/
def initialResponse? (token : List Char) : Except Base64.Flaw Bytes :=
  if token = ['='] then .ok [] else Base64.decode (Utf8.encode token)

def beginExchange (factory : Factory) (token : Option (List Char)) (s : Session κ) : Outcome κ :=
  match token with
  | none =>
    let (e, s) := openExchange factory s
    continueExchange e [] s
  | some token =>
    match initialResponse? token with
    | .error _ => Outcome.stay (.syntaxError "Invalid base64") s
    | .ok response =>
      if factory.allowsInitial then
        let (e, s) := openExchange factory s
        continueExchange e response s
      else
        Outcome.stay (.syntaxError (factory.name ++ " does not permit an initial response")) s

def AuthPolicy.find? (policy : AuthPolicy) (s : Session κ) (name : String) : Option Factory :=
  (policy.registry.get? name).filter fun factory =>
    Grammar.isMechanismName name && policy.allows s factory

def authenticate (policy : AuthPolicy) (name : String) (token : Option (List Char))
    (s : Session κ) : Outcome κ :=
  match AuthPolicy.find? policy s name with
  | some factory => beginExchange factory token s
  | none =>
    Outcome.stay (.parameterNotImplemented "Unsupported AUTH mechanism")
      (s.logWarn ("Rejected attempt to auth with method " ++ Text.quoted name))

def auth (policy : AuthPolicy) : Handler κ where
  validIn := betweenTransactions
  validFor s := betweenTransactions s.state && !s.hasProperty .identity
  run _ s line :=
    match Text.words Text.isAsciiBlank (Handler.arguments line).toList with
    | [name] => authenticate policy (String.ofList name) none s
    | [name, token] => authenticate policy (String.ofList name) (some token) s
    | _ =>
      Outcome.stay (.parameterNotImplemented "Syntax: AUTH mechanism [initial-response]") s

/-- Takes a line of the client as the next response of an exchange. -/
def takeResponse (e : Exchange) (line : Line) (s : Session κ) : Outcome κ :=
  let response := Text.trim Text.isBlank line.chars
  if response = ['*'] then
    let s := ((s.logInfo "Client aborted AUTH").disposeMechanism e).uninstall .responses
    Outcome.goTo .afterEhlo (.syntaxError "Authentication canceled") s
  else match Base64.decode (Utf8.encode response) with
    | .ok response => continueExchange e response s
    | .error flaw =>
      let s := s.logWarn ("Bad base64 in AUTH response: " ++ flaw.message)
      Outcome.stay .serverError ((s.disposeMechanism e).uninstall .responses)

/-- Receives the client's responses while an exchange is in progress. -/
def responses : Hook κ :=
  .reading fun _ s line =>
    match s.takeExchange with
    | (some e, s) => takeResponse e line s
    | (none, s) =>
      let s := s.logError "[BUG] AUTH consumer installed without a mechanism"
      Outcome.stay .localError (s.uninstall .responses)

end Command
end SmtpDialog
