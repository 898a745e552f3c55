/- digest: DATA and the content of a message. -/
import SmtpDialog.Command.Transaction

/-!
After DATA every line is content until a line that is a lone dot. A client cannot be interrupted
while it sends, so the first failure is kept and answered at the dot, and content after it is
dropped. Of a line that begins with a dot the first dot was added by the client (RFC 5321, section
4.5.2).
-/

set_option autoImplicit false
set_option relaxedAutoImplicit false

namespace SmtpDialog.Command

variable {κ : Type}

def beginContent (s : Session κ) : Outcome κ :=
  let s := (s.clearProperty .contentFault).setProperty .contentSize (.word 0)
  let s := s.install .content .content
  let (answer, s) := s.callMail .prepare
  match answer.getD (.error (.mail "No mail object at DATA")) with
  | .error fault =>
    let s := s.logWarn ("Failed to prepare for data: " ++ fault.message)
    let s := ((s.uninstall .content).clearProperty .contentSize).closeMail
    Outcome.goTo .afterEhlo .localError s
  | .ok _ =>
    Outcome.goTo .readingData
      (.of .startMailInput "Start mail input; end with <CRLF>.<CRLF>")
      (s.logInfo "Begin data transfer")

def data : Handler κ where
  validIn state := state == .afterRcpt
  run _ s line :=
    if Handler.arguments line = "" then beginContent s
    else Outcome.stay (.syntaxError "Syntax: DATA (no parameters allowed)") s

/-- A line without the dot that was added in front of it. -/
def unstuffed : Bytes → Bytes
  | 46 :: rest => rest
  | bytes => bytes

/-- Counts a line of content. Where no count is kept, the line stands for itself. -/
def countContent (length : Nat) (s : Session κ) : UInt64 × Session κ :=
  let size := UInt64.ofNat length
  let (total, properties) := s.properties.addWord Key.contentSize.name size
  (total.getD size, { s with properties := properties })

def writeContent (config : Config) (content : Bytes) (s : Session κ) : Session κ :=
  let (total, s) := countContent content.length s
  if 0 < config.maxMessageSize ∧ config.maxMessageSize < total.toNat then
    (s.logWarn s!"Message exceeds maximum size of {config.maxMessageSize} bytes").failTransfer
      (tooLarge config)
  else
    let (answer, s) := s.callMail (.writeLine content)
    match answer.getD (.error (.mail "No mail object during DATA")) with
    | .ok _ => s
    | .error fault =>
      (s.logWarn ("Failed to write message data: " ++ fault.message)).failTransfer .serverError

/-- Ends a message: answers the first failure, or else completes the mail object. -/
def endContent (s : Session κ) : Outcome κ :=
  let s := s.uninstall .content
  let size := (s.read? Value.word? .contentSize).getD 0
  let s := s.clearProperty .contentSize
  let failure := s.read? Value.reply? .contentFault
  let s := s.clearProperty .contentFault
  match failure with
  | some reply =>
    let s := s.logInfo ("Completed data transfer unsuccessfully: " ++ reply.text)
    Outcome.goTo .afterEhlo reply s.closeMail
  | none =>
    match s.completeMail with
    | (.ok reply, s) =>
      Outcome.goTo .afterEhlo reply
        (s.logInfo s!"Completed data transfer of {size.toNat} bytes")
    | (.error fault, s) =>
      Outcome.goTo .afterEhlo .serverError
        (s.logError ("Failed to complete message: " ++ fault.message))

def content : Hook κ :=
  .reading fun site s line =>
    if line.content = [46] then endContent s
    else
      Outcome.stay .silent
        (if s.hasProperty .contentFault then s
        else writeContent site.config (unstuffed line.bytes) s)

end SmtpDialog.Command
