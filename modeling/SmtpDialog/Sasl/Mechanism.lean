/- digest: SASL mechanisms and the credential check behind them. -/
import SmtpDialog.Fault

/-!
A mechanism answers the client's responses one after the other. What it does on a response may
depend on all responses before it; a behaviour is that dependence. Some mechanisms ask a credential
check, and what they asked is part of the reaction.
-/

set_option autoImplicit false
set_option relaxedAutoImplicit false

namespace SmtpDialog

/-- What a credential check finds: the identity under which the client acts, or nothing. -/
inductive Authorization
  | authorized (identity : String)
  | denied
  deriving DecidableEq

/-- Decides about an authorization identity, an authentication identity and a credential. -/
abbrev CredentialCheck := String → String → Bytes → Except Fault Authorization

structure CheckedCredentials where
  authzid : String
  authcid : String
  credential : Bytes
  answer : Except Fault Authorization

def CredentialCheck.ask (check : CredentialCheck) (authzid authcid : String) (credential : Bytes) :
    CheckedCredentials :=
  ⟨authzid, authcid, credential, check authzid authcid credential⟩

/-- What a mechanism does on one response. -/
structure Reaction where
  /-- The challenge to be sent, unless the exchange is complete. -/
  challenge : Except Fault Bytes
  complete : Bool
  /-- The identity under which the client acts from now on. -/
  identity : Option String
  /-- What else was settled, by name. -/
  negotiated : List (String × String)
  /-- The questions put to the credential check on this response. -/
  checks : List CheckedCredentials

namespace Reaction

def negotiated? (name : String) (r : Reaction) : Option String := r.negotiated.lookup name

def authcid? (r : Reaction) : Option String := r.negotiated? "authcid"

def idle : Reaction := ⟨.ok [], false, none, [], []⟩

end Reaction

/-- A mechanism in use: its name, its behaviour, and the responses heard so far, the latest of them
first. -/
structure Mechanism where
  name : String
  behaviour : List Bytes → Reaction
  heard : List Bytes := []

namespace Mechanism

def respond (m : Mechanism) (response : Bytes) : Reaction × Mechanism :=
  let heard := response :: m.heard
  (m.behaviour heard, { m with heard := heard })

/-- The mechanism that keeps a state from one response to the next. -/
def ofStates {σ : Type} (name : String) (first : σ) (step : σ → Bytes → σ × Reaction) :
    Mechanism where
  name := name
  behaviour heard :=
    (heard.foldr (fun response last => step last.1 response) (first, Reaction.idle)).2

def reactions (m : Mechanism) : List Bytes → List Reaction
  | [] => []
  | response :: rest =>
    let (reaction, m) := m.respond response
    reaction :: reactions m rest

end Mechanism
end SmtpDialog
