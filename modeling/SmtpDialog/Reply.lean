/- digest: Replies and their form on the wire. -/
import SmtpDialog.Reply.Code
import SmtpDialog.Text.Utf8

set_option autoImplicit false
set_option relaxedAutoImplicit false

namespace SmtpDialog

/-- What the client is told about one event. -/
inductive Reply
  | silent
  | line (code : Nat) (text : String)
  | multi (code : Nat) (lines : List String)
  | startTls (text : String)
  deriving DecidableEq

namespace Reply

def of (code : Code) (text : String) : Reply := .line code.number text

def ok : Reply := of .ok "OK"

def badSequence : Reply := of .badSequenceOfCommands "Bad sequence of commands"

def unrecognised : Reply := of .commandSyntaxError "Unrecognised command"

def syntaxError (text : String) : Reply := of .parameterSyntaxError text

def parameterNotImplemented (text : String) : Reply := of .commandParameterNotImplemented text

/-- The answer where a collaborator failed. -/
def serverError : Reply := of .transactionFailed "Server error"

def localError : Reply := of .actionAborted "Local error in processing"

def shuttingDown : Reply :=
  of .serviceNotAvailableClosing "Service shutting down, closing transmission channel"

def code? : Reply → Option Nat
  | silent => none
  | line code _ => some code
  | multi code _ => some code
  | startTls _ => some Code.serviceReady.number

def isSilent : Reply → Bool
  | silent => true
  | _ => false

def isStartTls : Reply → Bool
  | startTls _ => true
  | _ => false

def isPositive (reply : Reply) : Bool := reply.code?.any Code.isPositive

def closes (reply : Reply) : Bool := reply.code?.any Code.closes

def text : Reply → String
  | silent => ""
  | line _ text => text
  | multi _ lines => lines.getLast?.getD ""
  | startTls text => text

def wireLine (code : Nat) (mark : Char) (text : String) : Bytes :=
  Utf8.encode ((toString code).toList ++ mark :: text.toList ++ ['\r', '\n'])

/-- Lines under one code, the last one marked by a space. No lines are sent as one without text. -/
def wireLines (code : Nat) : List String → Bytes
  | [] => wireLine code ' ' ""
  | [text] => wireLine code ' ' text
  | text :: next :: rest => wireLine code '-' text ++ wireLines code (next :: rest)

def wire : Reply → Bytes
  | silent => []
  | line code text => wireLine code ' ' text
  | multi code lines => wireLines code lines
  | startTls text => wireLine Code.serviceReady.number ' ' text

end Reply
end SmtpDialog
