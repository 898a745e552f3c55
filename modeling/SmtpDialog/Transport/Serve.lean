/- digest: Serving a connection from its greeting to its end. -/
import SmtpDialog.Server
import SmtpDialog.Transport.Wire

/-!
The transport reads lines, gives them to the session and sends what the session replies, until a
reply closes the connection, the client hangs up or something fails. When STARTTLS is accepted it
sends the reply and makes the handshake, unless the client has sent anything behind the command:
that would be read as if it had come over TLS.
-/

set_option autoImplicit false
set_option relaxedAutoImplicit false

namespace SmtpDialog

/-- Makes the server's part of a TLS handshake: a description of the TLS session, or a fault. -/
abbrev TlsUpgrader := Wire → Except Fault String

/-- A connection that has been served: how it ended, the session and the wire. -/
structure Served (κ : Type) where
  result : Except Fault Unit
  session : Session κ
  wire : Wire

namespace Server

variable {κ : Type}

/-- Answers a line that is too long; within a message the answer waits for its end. -/
def answerTooLong (limit : Nat) (s : Session κ) : Reply × Session κ :=
  let s := s.logWarn (Fault.lineTooLong limit).message
  let reply := Reply.of .commandSyntaxError "Line too long"
  if s.state = .readingData then (.silent, s.failTransfer reply) else (reply, s)

def startTls (upgrader : Option TlsUpgrader) (reply : Reply) (s : Session κ) (w : Wire) :
    Served κ :=
  match upgrader with
  | none =>
    let s := s.logError "[BUG] STARTTLS accepted without a TLS upgrader"
    let (result, w) := w.send .localError
    ⟨result, s, w⟩
  | some upgrade =>
    if !w.inbox.buffer.isEmpty then
      let s := s.logWarn "Client pipelined data after STARTTLS"
      ⟨.error .pipelinedStartTls, s, (w.send .shuttingDown).2⟩
    else match w.send reply with
      | (.error fault, w) => ⟨.error fault, s, w⟩
      | (.ok (), w) =>
        let w := w.beginHandshake
        match upgrade w with
        | .error fault => ⟨.error fault, s, w⟩
        | .ok description => ⟨.ok (), s.tlsEstablished description, w⟩

/-- What follows one line: the connection goes on, or it has ended. -/
inductive Turn (κ : Type)
  | goesOn (s : Session κ) (w : Wire)
  | ended (served : Served κ)

def answer (reply : Reply) (s : Session κ) (w : Wire) : Turn κ :=
  match w.send reply with
  | (.error fault, w) => .ended ⟨.error fault, s, w⟩
  | (.ok (), w) => if reply.closes then .ended ⟨.ok (), s, w⟩ else .goesOn s w

/-- Goes on after STARTTLS unless that failed. -/
def Turn.ofServed (served : Served κ) : Turn κ :=
  match served.result with
  | .ok () => .goesOn served.session served.wire
  | .error _ => .ended served

def serveLine (server : Server κ) (upgrader : Option TlsUpgrader) (line : Line) (s : Session κ)
    (w : Wire) : Turn κ :=
  match server.consume s line with
  | (.error (.unterminated line), s) => .ended ⟨.error (.unterminated line), s, w⟩
  | (.error fault, s) =>
    let s := s.logError ("Aborting connection after error: " ++ fault.message)
    .ended ⟨.error fault, s, (w.send .shuttingDown).2⟩
  | (.ok reply, s) =>
    if reply.isStartTls then .ofServed (startTls upgrader reply s w)
    else answer reply s w

def serveNext (server : Server κ) (upgrader : Option TlsUpgrader) (limit : Nat) (next : Inbox.Next)
    (s : Session κ) (w : Wire) : Turn κ :=
  match next with
  | .ended cause => .ended ⟨.error (.io cause), s, w⟩
  | .tooLong =>
    let (reply, s) := answerTooLong limit s
    match w.send reply with
    | (.error fault, w) => .ended ⟨.error fault, s, w⟩
    | (.ok (), w) => .goesOn s w
  | .line line => server.serveLine upgrader line s w

private def Turn.Within (turn : Turn κ) (size : Nat) : Prop :=
  ∀ s w, turn = .goesOn s w → w.inbox.size ≤ size

private theorem answer_within (reply : Reply) (s : Session κ) (w : Wire) :
    (answer reply s w).Within w.inbox.size := by
  intro s' w' h
  unfold answer at h
  have hin := w.send_inbox reply
  split at h
  · contradiction
  · rename_i hsend
    split at h
    · contradiction
    · cases h; simp [hsend] at hin; simp [hin]

private theorem startTls_within (upgrader : Option TlsUpgrader) (reply : Reply) (s : Session κ)
    (w : Wire) : (Turn.ofServed (startTls upgrader reply s w)).Within w.inbox.size := by
  intro s' w' h
  have hle : (startTls upgrader reply s w).wire.inbox.size ≤ w.inbox.size := by
    unfold startTls
    split
    · simp [Wire.send_inbox]
    · split
      · simp [Wire.send_inbox]
      · have hin := w.send_inbox reply
        split
        · rename_i hsend; simp [hsend] at hin; simp [hin]
        · rename_i hsend
          simp only [hsend] at hin
          simp only
          split <;> simp [Wire.beginHandshake, hin, Inbox.size]
  unfold Turn.ofServed at h
  split at h
  · cases h; exact hle
  · contradiction

private theorem serveNext_within (server : Server κ) (upgrader : Option TlsUpgrader) (limit : Nat)
    (next : Inbox.Next) (s : Session κ) (w : Wire) :
    (server.serveNext upgrader limit next s w).Within w.inbox.size := by
  unfold serveNext
  split
  · intro s' w' h; contradiction
  · intro s' w' h
    have hin := w.send_inbox (answerTooLong limit s).1
    simp only at h
    split at h
    · contradiction
    · rename_i hsend
      cases h; simp [hsend] at hin; simp [hin]
  · unfold serveLine
    split
    · intro s' w' h; contradiction
    · intro s' w' h; contradiction
    · split
      · exact startTls_within _ _ _ _
      · exact answer_within _ _ _

def serveLines (server : Server κ) (upgrader : Option TlsUpgrader) (limit : Nat) (s : Session κ)
    (wire : Wire) : Served κ :=
  match _ht : server.serveNext upgrader limit (wire.inbox.next limit).1 s
      { wire with inbox := (wire.inbox.next limit).2 } with
  | .ended served => served
  | .goesOn s w => serveLines server upgrader limit s w
termination_by wire.inbox.size
decreasing_by
  have hle := serveNext_within server upgrader limit _ _ _ _ _ _ht
  have hlt := Inbox.size_next_lt limit wire.inbox
    (fun cause hn => by rw [hn] at _ht; simp [serveNext] at _ht)
  exact Nat.lt_of_le_of_lt hle hlt

/-- The smallest limit on the length of a line, which leaves room for a terminator. -/
def minLineLength : Nat := 3

def serveDialog (server : Server κ) (upgrader : Option TlsUpgrader) (s : Session κ) (w : Wire) :
    Served κ :=
  match server.connect s with
  | (.error fault, s) => ⟨.error fault, s, w⟩
  | (.ok reply, s) =>
    match answer reply s w with
    | .ended served => served
    | .goesOn s w => server.serveLines upgrader (max server.config.maxLineLength minLineLength) s w

/-- Serves a connection. However it ends, the session is told; only after a breach of contract
nothing more happens. -/
def serve (server : Server κ) (upgrader : Option TlsUpgrader) (s : Session κ) (w : Wire) :
    Served κ :=
  let served := server.serveDialog upgrader s w
  match served.result with
  | .ok () =>
    { served with session := (served.session.logInfo "Normal client disconnect").connectionLost }
  | .error (.unterminated _) => served
  | .error fault =>
    { served with
      session := (served.session.logWarn
        ("Abnormal client disconnect: " ++ fault.message)).connectionLost }

end Server
end SmtpDialog
