/- digest: With TLS in use, no command invites to it again. -/
import SmtpDialog.Proofs.Answers
import SmtpDialog.Proofs.Lockstep

set_option autoImplicit false
set_option relaxedAutoImplicit false

namespace SmtpDialog

open Command

variable {κ : Type}

/-- Whether a mail object never answers with an invitation to TLS. -/
def MailBehaviour.Civil (behaviour : MailBehaviour) : Prop :=
  ∀ history call reply, behaviour history call = .ok reply → reply.isStartTls = false

/-- A session with TLS in use which holds nothing that could invite to it. -/
structure Session.Civil (s : Session κ) : Prop where
  tls : s.isTls = true
  mail : ∀ mail ∈ s.mail, mail.behaviour.Civil
  fault : ∀ reply ∈ s.read? Value.reply? .contentFault, reply.isStartTls = false

variable {s t : Session κ} {line : Line}

namespace Session.Civil

theorem keeps (h : s.Civil) : s.Keeps (·.isStartTls = false) := ⟨h.mail, h.fault⟩

theorem of_keeps (h : s.Civil) (tls : t.tls = s.tls) (keeps : t.Keeps (·.isStartTls = false)) :
    t.Civil where
  tls := by rw [isTls, tls]; exact h.tls
  mail := keeps.mail
  fault := keeps.fault

theorem ordinary (h : s.Civil) (ordinary : s.Ordinary (·.isStartTls = false) t) : t.Civil :=
  h.of_keeps ordinary.apart.tls ordinary.keeps

theorem log (h : s.Civil) (level : Level) (text : String) : (s.log level text).Civil :=
  h.ordinary ((Session.Ordinary.refl h.keeps).log level text)

end Session.Civil

namespace Server

variable {config : Config} {newMail : Session κ → MailBehaviour} {custom : κ → Hook κ}
  {features : List Feature}

theorem consume_civil (civil : ∀ s, (newMail s).Civil) (fits : s.Fits s.state) (h : s.Civil)
    (terminated : line.isTerminated = true) :
    invitesTls ((ofFeatures config newMail custom features).consume s line).1 = false ∧
      ((ofFeatures config newMail custom features).consume s line).2.Civil := by
  have refused : s.Invites (·.isStartTls = false) := by
    intro clear
    rw [h.tls] at clear
    contradiction
  have answers : (ofFeatures config newMail custom features).site.Answers (·.isStartTls = false)
      features := answers_of_lines (fun _ _ => rfl) civil
  obtain ⟨said, keeps⟩ :=
    consume_keeps answers fits h.keeps (fun _ _ => rfl) refused
      fun _ _ _ _ _ => ⟨rfl, fun _ => rfl⟩
  have effect : Effect config features line s
      ((ofFeatures config newMail custom features).consume s line).1 _ :=
    consume_effect fits terminated
  constructor
  · cases answered : ((ofFeatures config newMail custom features).consume s line).1 with
    | error fault => rfl
    | ok reply => exact said reply answered
  · refine h.of_keeps ?_ keeps
    rw [← Session.unlogged_tls, effect.tls]

private theorem answerTooLong_civil (h : s.Civil) (limit : Nat) :
    (answerTooLong limit s).2.Civil := by
  have warned := (Session.Ordinary.refl h.keeps).log .warn (Fault.lineTooLong limit).message
  simp only [answerTooLong]
  split
  · exact h.ordinary (warned.failTransfer rfl)
  · exact h.ordinary warned

private theorem answer_civil (h : s.Civil) (reply : Reply) (w : Wire) :
    (answer reply s w).session.Civil := by
  rw [answer]
  split
  · exact h
  · split <;> exact h

theorem turn_civil (civil : ∀ s, (newMail s).Civil) (fits : s.Fits s.state) (h : s.Civil)
    (upgrader : Option TlsUpgrader) (limit : Nat) (w : Wire) :
    ((ofFeatures config newMail custom features).turn upgrader limit s w).session.Civil := by
  rw [turn]
  cases read : (w.inbox.next limit).1 with
  | ended cause => exact h
  | tooLong =>
    have told := answerTooLong_civil h limit
    rw [serveNext]
    dsimp only
    split <;> exact told
  | line line =>
    have kept :
        invitesTls ((ofFeatures config newMail custom features).consume s line).1 = false ∧ _ :=
      consume_civil civil fits h (Inbox.isTerminated_of_next read)
    rw [serveNext, serveLine]
    generalize (ofFeatures config newMail custom features).consume s line = done at kept ⊢
    obtain ⟨told, t⟩ := done
    obtain ⟨plain, kept⟩ := kept
    cases told with
    | error fault =>
      cases fault with
      | unterminated line => exact kept
      | _ => exact kept.log _ _
    | ok reply =>
      have ordinary : reply.isStartTls = false := plain
      dsimp only
      rw [ordinary, if_neg Bool.false_ne_true]
      exact answer_civil kept reply _

/-- A connection that comes to a civil session goes on without an invitation. -/
theorem uninvited_of_civil {upgrade : TlsUpgrader} {peer : String} {w₀ w : Wire}
    (civil : ∀ s, (newMail s).Civil) (h : s.Civil)
    (comes : (ofFeatures config newMail custom features).Comes (some upgrade)
      ((ofFeatures config newMail custom features).newSession peer) w₀ s w) :
    (ofFeatures config newMail custom features).Uninvited upgrade s w := by
  intro n t v line came read
  have invariant : t.Civil ∧ (ofFeatures config newMail custom features).Comes (some upgrade)
      ((ofFeatures config newMail custom features).newSession peer) w₀ t v := by
    refine onward_induct (motive := fun t v => t.Civil ∧
      (ofFeatures config newMail custom features).Comes (some upgrade)
        ((ofFeatures config newMail custom features).newSession peer) w₀ t v) ?_ ?_ came
    · rintro _ _ ⟨⟩
      exact ⟨h, comes⟩
    · rintro x y t v ⟨earlier, reached⟩ turned
      have kept : (Turn.goesOn t v).session.Civil := by
        rw [← turned]
        exact turn_civil civil reached.fits earlier _ _ _
      exact ⟨kept, reached.next turned⟩
  exact (consume_civil civil invariant.2.fits invariant.1 (Inbox.isTerminated_of_next read)).1

end Server

end SmtpDialog
