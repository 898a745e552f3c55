/- digest: The mechanisms that a server knows, by name. -/
import SmtpDialog.Journal.Event
import SmtpDialog.Sasl.Plain
import SmtpDialog.Sasl.Login
import SmtpDialog.Text.AsciiCase
import SmtpDialog.Text.Quoted

set_option autoImplicit false
set_option relaxedAutoImplicit false

namespace SmtpDialog

/-- Makes mechanisms of one kind. What it makes may depend on what happened before, latest first. -/
structure Factory where
  name : String
  allowsInitial : Bool := true
  sendsPlaintext : Bool := false
  create : List Event → Mechanism

namespace Factory

def plain (check : CredentialCheck) : Factory where
  name := "PLAIN"
  sendsPlaintext := true
  create _ := Plain.mechanism check

def login (check : CredentialCheck) : Factory where
  name := "LOGIN"
  allowsInitial := false
  sendsPlaintext := true
  create _ := Login.mechanism check

def provided? (check : CredentialCheck) (name : String) : Option Factory :=
  if Text.sameLetters name "PLAIN" then some (plain check)
  else if Text.sameLetters name "LOGIN" then some (login check)
  else none

end Factory

/-- Factories in the order of their first registration. -/
structure Registry where
  factories : List Factory

namespace Registry

def empty : Registry := ⟨[]⟩

/-- Replaces the first factory of the same name, or adds the factory at the end. -/
def place (factory : Factory) : List Factory → List Factory
  | [] => [factory]
  | known :: rest =>
    if Text.sameLetters known.name factory.name then factory :: rest
    else known :: place factory rest

def register (factory : Factory) (registry : Registry) : Registry :=
  ⟨place factory registry.factories⟩

def get? (name : String) (registry : Registry) : Option Factory :=
  registry.factories.find? (Text.sameLetters ·.name name)

def names (registry : Registry) : List String := registry.factories.map (·.name)

/-- The registry with the provided mechanisms of the given names, in their order. -/
def ofNames (check : CredentialCheck) (names : List String) : Except Fault Registry :=
  names.foldlM
    (fun registry name =>
      match Factory.provided? check name with
      | some factory => .ok (registry.register factory)
      | none => .error (.sasl ("Unknown SASL mechanism " ++ Text.quoted name)))
    empty

def describe (registry : Registry) : String := Text.quotedList "[" "]" registry.names

end Registry
end SmtpDialog
