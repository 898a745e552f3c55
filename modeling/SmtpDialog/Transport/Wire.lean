/- digest: A connection: what arrives on it and what is sent. -/
import SmtpDialog.Reply
import SmtpDialog.Transport.Inbox

set_option autoImplicit false
set_option relaxedAutoImplicit false

namespace SmtpDialog

inductive Sent
  | flushed (bs : Bytes)
  | handshake
  deriving DecidableEq

structure Wire where
  inbox : Inbox
  /-- How many more bytes can be written, if there is a limit. -/
  room : Option Nat := none
  unflushed : Bytes := []
  /-- What went out, the latest first. -/
  sent : List Sent := []

namespace Wire

def write (bs : Bytes) (w : Wire) : Except Fault Unit × Wire :=
  match w.room with
  | none => (.ok (), { w with unflushed := [], sent := .flushed (w.unflushed ++ bs) :: w.sent })
  | some room =>
    if bs.length ≤ room then
      (.ok (), { w with
        room := some (room - bs.length)
        unflushed := []
        sent := .flushed (w.unflushed ++ bs) :: w.sent })
    else
      (.error (.io .brokenPipe),
        { w with room := some 0, unflushed := w.unflushed ++ bs.take room })

/-- Sends a reply. Nothing at all is sent for a silent one. -/
def send (reply : Reply) (w : Wire) : Except Fault Unit × Wire :=
  if reply.isSilent then (.ok (), w) else w.write reply.wire

@[simp] theorem send_inbox (reply : Reply) (w : Wire) : (w.send reply).2.inbox = w.inbox := by
  unfold send write
  split
  · rfl
  · split
    · rfl
    · split <;> rfl

/-- Notes that a handshake begins, behind which reading starts with an empty buffer. -/
def beginHandshake (w : Wire) : Wire :=
  { w with inbox := { w.inbox with buffer := [] }, sent := .handshake :: w.sent }

end Wire
end SmtpDialog
