/- digest: The PLAIN mechanism. -/
import SmtpDialog.Sasl.Mechanism
import SmtpDialog.Text.Blank

set_option autoImplicit false
set_option relaxedAutoImplicit false

namespace SmtpDialog

inductive Plain.Stage
  | initial
  | awaitingMessage
  | complete
  deriving DecidableEq

structure Plain where
  stage : Plain.Stage := .initial
  identity : Option String := none
  authcid : Option String := none

namespace Plain

/-- The three parts of a message. -/
def message? (response : Bytes) : Except Fault (String × String × Bytes) :=
  match Text.pieces 0 response with
  | [authzid, authcid, password] =>
    match Utf8.toString? authzid, Utf8.toString? authcid with
    | some authzid, some authcid =>
      if authcid.isEmpty then .error (.sasl "Empty PLAIN authcid")
      else .ok (authzid, authcid, password)
    | _, _ => .error (.sasl "PLAIN identity is not UTF-8")
  | _ => .error (.sasl "Invalid PLAIN message")

def reaction (p : Plain) (challenge : Except Fault Bytes) (checks : List CheckedCredentials) :
    Reaction :=
  ⟨challenge, p.stage = .complete, p.identity, p.authcid.toList.map ("authcid", ·), checks⟩

/-- Judges a message, which ends the exchange. -/
def judge (check : CredentialCheck) (p : Plain) (response : Bytes) : Plain × Reaction :=
  let p := { p with stage := .complete }
  match message? response with
  | .error fault => (p, p.reaction (.error fault) [])
  | .ok (authzid, authcid, password) =>
    let asked := check.ask authzid authcid password
    match asked.answer with
    | .error fault => (p, p.reaction (.error fault) [asked])
    | .ok .denied => (p, p.reaction (.ok []) [asked])
    | .ok (.authorized identity) =>
      let p := { p with identity := some identity, authcid := some authcid }
      (p, p.reaction (.ok []) [asked])

def step (check : CredentialCheck) (p : Plain) (response : Bytes) : Plain × Reaction :=
  match p.stage, response with
  | .complete, _ => (p, p.reaction (.error (.sasl "PLAIN exchange already complete")) [])
  | .initial, [] =>
    let p := { p with stage := .awaitingMessage }
    (p, p.reaction (.ok []) [])
  | .awaitingMessage, [] =>
    let p := { p with stage := .complete }
    (p, p.reaction (.error (.sasl "The empty string is not valid for PLAIN")) [])
  | _, _ => judge check p response

def mechanism (check : CredentialCheck) : Mechanism := .ofStates "PLAIN" {} (step check)

end Plain
end SmtpDialog
