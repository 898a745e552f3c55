/- digest: Sessions apart from their log records. -/
import SmtpDialog.Session

set_option autoImplicit false
set_option relaxedAutoImplicit false

namespace SmtpDialog

def Event.isLog : Event → Bool
  | .log _ _ => true
  | _ => false

theorem Key.name_inj {k l : Key} : k.name = l.name ↔ k = l := by
  cases k <;> cases l <;> simp [Key.name]

namespace Session

variable {κ : Type}

/-- The session without its log records. -/
def unlogged (s : Session κ) : Session κ :=
  { s with journal := s.journal.filter fun e => !e.isLog }

@[simp] theorem unlogged_peerName (s : Session κ) : s.unlogged.peerName = s.peerName := rfl
@[simp] theorem unlogged_logPrefix (s : Session κ) : s.unlogged.logPrefix = s.logPrefix := rfl
@[simp] theorem unlogged_state (s : Session κ) : s.unlogged.state = s.state := rfl
@[simp] theorem unlogged_mail (s : Session κ) : s.unlogged.mail = s.mail := rfl
@[simp] theorem unlogged_properties (s : Session κ) : s.unlogged.properties = s.properties := rfl
@[simp] theorem unlogged_tls (s : Session κ) : s.unlogged.tls = s.tls := rfl
@[simp] theorem unlogged_consumers (s : Session κ) : s.unlogged.consumers = s.consumers := rfl
@[simp] theorem unlogged_mailsOpened (s : Session κ) : s.unlogged.mailsOpened = s.mailsOpened := rfl
@[simp] theorem unlogged_exchangesOpened (s : Session κ) :
    s.unlogged.exchangesOpened = s.exchangesOpened := rfl

@[simp] theorem unlogged_log (level : Level) (text : String) (s : Session κ) :
    (s.log level text).unlogged = s.unlogged := rfl

@[simp] theorem unlogged_logWarn (text : String) (s : Session κ) :
    (s.logWarn text).unlogged = s.unlogged := rfl

@[simp] theorem unlogged_logInfo (text : String) (s : Session κ) :
    (s.logInfo text).unlogged = s.unlogged := rfl

@[simp] theorem unlogged_logInfoIf (condition : Bool) (text : String) (s : Session κ) :
    (s.logInfoIf condition text).unlogged = s.unlogged := by
  cases condition <;> rfl

@[simp] theorem unlogged_moveTo (next : State) (s : Session κ) :
    (s.moveTo next).unlogged = { s.unlogged with state := next } := by
  unfold moveTo
  split
  · rename_i same
    rw [same]
    rfl
  · rfl

@[simp] theorem unlogged_failTransfer (reply : Reply) (s : Session κ) :
    (s.failTransfer reply).unlogged = s.unlogged.failTransfer reply := by
  by_cases h : (s.consumers.contains Place.content.name && !s.hasProperty .contentFault) = true
  · rw [failTransfer, failTransfer, if_pos h, if_pos (by exact h)]
    rfl
  · rw [failTransfer, failTransfer, if_neg h, if_neg (by exact h)]

theorem closeMail_eq (s : Session κ) :
    s.closeMail = { s with
      mail := none
      journal := (s.mail.elim [] fun mail => [.mailDisposed mail.serial]) ++ s.journal } := by
  unfold closeMail
  split
  · rename_i empty
    simp [empty]
    rw [← empty]
  · rename_i mail held
    rw [held]
    rfl

@[simp] theorem unlogged_closeMail (s : Session κ) :
    s.closeMail.unlogged = s.unlogged.closeMail := by
  rw [closeMail_eq, closeMail_eq]
  cases h : s.mail <;> simp [unlogged, h, Event.isLog]

theorem abandonExchange_eq (s : Session κ) :
    s.abandonExchange = { s with
      properties := s.properties.erase Key.exchange.name
      consumers := s.consumers.erase Place.responses.name
      journal := ((s.read? Value.exchange? .exchange).elim [] fun e =>
        [.mechanismDisposed e.serial]) ++ s.journal } := by
  unfold abandonExchange takeExchange
  cases s.read? Value.exchange? .exchange <;> rfl

@[simp] theorem unlogged_abandonExchange (s : Session κ) :
    s.abandonExchange.unlogged = s.unlogged.abandonExchange := by
  have same : s.unlogged.read? Value.exchange? .exchange = s.read? Value.exchange? .exchange := rfl
  rw [abandonExchange_eq, abandonExchange_eq, same]
  cases s.read? Value.exchange? .exchange <;> simp [unlogged, Event.isLog]

theorem unlogged_tlsEstablished (description : String) (s : Session κ) :
    (s.tlsEstablished description).unlogged = { s.unlogged.closeMail.abandonExchange with
      state := .connected
      properties := .empty
      logPrefix := s.logPrefix.clearUser
      tls := some description } := by
  rw [tlsEstablished, unlogged_moveTo, ← unlogged_logInfo ("TLS established: " ++ description) s,
    ← unlogged_closeMail, ← unlogged_abandonExchange, abandonExchange_eq, closeMail_eq]
  rfl

theorem closeMail_of_none {s : Session κ} (h : s.mail = none) : s.closeMail = s := by
  simp [closeMail, h]

theorem callMail_of_some {s : Session κ} {mail : MailObject} (h : s.mail = some mail)
    (c : MailCall) :
    s.callMail c = (some (mail.call c).1,
      { s.record (.mailCalled mail.serial c (mail.call c).1) with mail := some (mail.call c).2 }) := by
  simp [callMail, h, callOn]

theorem get?_insert (k l : Key) (value : Value) (p : Properties) :
    (p.insert k.name value).get? l.name = if k = l then some value else p.get? l.name := by
  simp [Table.get?_insert, Key.name_inj]

theorem get?_erase (k l : Key) (p : Properties) :
    (p.erase k.name).get? l.name = if k = l then none else p.get? l.name := by
  simp [Table.get?_erase, Key.name_inj]

end Session
end SmtpDialog
