/- digest: Dispatch of lines to command handlers. -/
import SmtpDialog.Handler
import SmtpDialog.Text.AsciiCase

set_option autoImplicit false
set_option relaxedAutoImplicit false

namespace SmtpDialog

/-- Handlers by verb in upper case, the latest first, and the handler of new connections. -/
structure Dispatch (κ : Type) where
  handlers : List (String × Handler κ) := []
  connectHandler : Option (Handler κ) := none

namespace Dispatch

variable {κ : Type}

def register (verb : String) (handler : Handler κ) (d : Dispatch κ) : Dispatch κ :=
  { d with handlers := (Text.upper verb, handler) :: d.handlers }

def get? (verb : String) (d : Dispatch κ) : Option (Handler κ) :=
  d.handlers.lookup (Text.upper verb)

def verbs (d : Dispatch κ) : List String :=
  ((d.handlers.map (·.1)).mergeSort fun a b => !(b < a)).eraseReps

def consume (d : Dispatch κ) (site : Site κ) (s : Session κ) (line : Line) : Outcome κ :=
  if line.isTerminated then
    match d.get? line.verb with
    | some handler => handler.handle site s (some line.text)
    | none => (.ok .declined, s)
  else (.error (.unterminated line), s)

def connect (d : Dispatch κ) (site : Site κ) (s : Session κ) : Outcome κ :=
  match d.connectHandler with
  | some handler => handler.handle site s none
  | none => (.ok .declined, s)

def hook (d : Dispatch κ) : Hook κ :=
  { Hook.reading d.consume with onConnect := d.connect }

def describe (d : Dispatch κ) : String :=
  "CommandRouter \x7b verbs: " ++ Text.quotedList "[" "]" d.verbs ++
    ", connect_handler: " ++ Text.flag d.connectHandler.isSome ++ " \x7d"

end Dispatch
end SmtpDialog
