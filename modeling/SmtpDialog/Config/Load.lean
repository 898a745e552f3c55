/- digest: Settings from a TOML document. -/
import SmtpDialog.Config
import SmtpDialog.Fault
import SmtpDialog.Toml.Document

set_option autoImplicit false
set_option relaxedAutoImplicit false

namespace SmtpDialog

open Toml (Entry)

namespace Toml.Entry

def text? : Entry → Option String
  | .value (.text t) => some t
  | _ => none

def natural? : Entry → Option Nat
  | .value (.integer n) => if 0 ≤ n then some n.toNat else none
  | _ => none

def flag? : Entry → Option Bool
  | .value (.flag b) => some b
  | _ => none

def texts? : Entry → Option (List String)
  | .value (.array items) => items.mapM fun item => text? (.value item)
  | _ => none

def setting? {α : Type} (entries : List (String × Entry)) (key : String) (default : α)
    (read : Entry → Option α) : Option α :=
  match entries.filter (·.1 == key) with
  | [] => some default
  | [(_, entry)] => read entry
  | _ => none

end Toml.Entry

open Toml.Entry

namespace AuthConfig

def ofEntries? (entries : List (String × Entry)) : Option AuthConfig := do
  let requireTls ← setting? entries "require_tls" ({} : AuthConfig).requireTls flag?
  let mechanisms ← setting? entries "mechanisms" ({} : AuthConfig).mechanisms texts?
  return { requireTls, mechanisms }

def ofItems? : List Toml.Value → Option AuthConfig
  | [] => some {}
  | [requireTls] => (flag? (.value requireTls)).map fun b => { requireTls := b }
  | [requireTls, mechanisms] => do
    return ⟨← flag? (.value requireTls), ← texts? (.value mechanisms)⟩
  | _ => none

/-- Settings from what stands under their key. A moment in time has no keys that are known, so it
leaves all defaults. -/
def ofEntry? : Entry → Option AuthConfig
  | .value (.table pairs) => ofEntries? (pairs.map fun pair => (pair.1, .value pair.2))
  | .value (.array items) => ofItems? items
  | .value .moment => some {}
  | .value _ => none
  | .sections false ss => ofEntries? (Toml.entries ss)
  | .sections true _ => none

end AuthConfig

namespace Config

def initial : Config := {}

def ofEntries? (entries : List (String × Entry)) : Option Config := do
  let hostName ← setting? entries "host_name" initial.hostName text?
  let greeting ← setting? entries "greeting" initial.greeting text?
  let maxLineLength ← setting? entries "max_line_length" initial.maxLineLength natural?
  let maxMessageSize ← setting? entries "max_message_size" initial.maxMessageSize natural?
  let maxRecipients ← setting? entries "max_recipients" initial.maxRecipients natural?
  let offerStartTls ← setting? entries "offer_starttls" initial.offerStartTls flag?
  let auth ← setting? entries "auth" initial.auth AuthConfig.ofEntry?
  return { hostName, greeting, maxLineLength, maxMessageSize, maxRecipients, offerStartTls, auth }

def ofToml (text : String) : Except Fault Config :=
  match (Toml.document? text).bind ofEntries? with
  | some config => .ok config
  | none => .error .config

def ofFile : Option Bytes → Except Fault Config
  | none => .error (.io .notFound)
  | some bytes =>
    match Utf8.toString? bytes with
    | some text => ofToml text
    | none => .error (.io .invalidData)

end Config
end SmtpDialog
