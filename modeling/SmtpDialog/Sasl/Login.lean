/- digest: The LOGIN mechanism. -/
import SmtpDialog.Sasl.Mechanism

set_option autoImplicit false
set_option relaxedAutoImplicit false

namespace SmtpDialog

inductive Login.Stage
  | start
  | awaitingUsername
  | awaitingPassword (username : String)
  | complete
  deriving DecidableEq

structure Login where
  stage : Login.Stage := .start
  identity : Option String := none
  authcid : Option String := none

namespace Login

def reaction (l : Login) (challenge : Except Fault Bytes) (checks : List CheckedCredentials) :
    Reaction :=
  ⟨challenge, l.stage = .complete, l.identity, l.authcid.toList.map ("authcid", ·), checks⟩

def fail (l : Login) (detail : String) : Login × Reaction :=
  let l := { l with stage := .complete }
  (l, l.reaction (.error (.sasl detail)) [])

def ask (l : Login) (stage : Stage) (challenge : String) : Login × Reaction :=
  let l := { l with stage := stage }
  (l, l.reaction (.ok (Utf8.ofString challenge)) [])

/-- Judges a user name and a password, which ends the exchange. -/
def judge (check : CredentialCheck) (l : Login) (username : String) (password : Bytes) :
    Login × Reaction :=
  let l := { l with stage := .complete }
  let asked := check.ask "" username password
  match asked.answer with
  | .error fault => (l, l.reaction (.error fault) [asked])
  | .ok .denied => (l, l.reaction (.ok []) [asked])
  | .ok (.authorized identity) =>
    let l := { l with identity := some identity, authcid := some username }
    (l, l.reaction (.ok []) [asked])

def step (check : CredentialCheck) (l : Login) (response : Bytes) : Login × Reaction :=
  match l.stage with
  | .start =>
    if response.isEmpty then l.ask .awaitingUsername "Username:"
    else l.fail "LOGIN does not take an initial response"
  | .awaitingUsername =>
    match Utf8.toString? response with
    | some username => l.ask (.awaitingPassword username) "Password:"
    | none => l.fail "LOGIN username is not UTF-8"
  | .awaitingPassword username => judge check l username response
  | .complete => l.fail "LOGIN exchange already complete"

def mechanism (check : CredentialCheck) : Mechanism := .ofStates "LOGIN" {} (step check)

end Login
end SmtpDialog
