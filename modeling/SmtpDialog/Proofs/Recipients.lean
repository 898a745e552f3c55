/- digest: How many recipients a transaction has, and the limit to them. -/
import SmtpDialog.Proofs.Run

set_option autoImplicit false
set_option relaxedAutoImplicit false

namespace SmtpDialog

open Command

def Event.acceptsRecipient (serial : Nat) : Event → Bool
  | .mailCalled mail (.rcptTo _ _) answer => mail == serial && isAcceptance answer
  | _ => false

variable {κ : Type} {config : Config} {features : List Feature} {s t : Session κ}

namespace Session

def acceptedRecipients (serial : Nat) (s : Session κ) : Nat :=
  s.journal.countP (Event.acceptsRecipient serial)

@[simp] private theorem countP_unlogged (serial : Nat) (s : Session κ) :
    s.unlogged.journal.countP (Event.acceptsRecipient serial) = s.acceptedRecipients serial := by
  rw [unlogged, acceptedRecipients, List.countP_filter]
  congr 1
  funext event
  cases event <;> simp [Event.acceptsRecipient, Event.isLog]

private theorem acceptedRecipients_closeMail (serial : Nat) (s : Session κ) :
    s.closeMail.acceptedRecipients serial = s.acceptedRecipients serial := by
  rw [closeMail_eq, acceptedRecipients, List.countP_append]
  cases s.mail <;> simp [acceptedRecipients, Event.acceptsRecipient]

private theorem acceptedRecipients_abandonExchange (serial : Nat) (s : Session κ) :
    s.abandonExchange.acceptedRecipients serial = s.acceptedRecipients serial := by
  rw [abandonExchange_eq, acceptedRecipients, List.countP_append]
  cases s.read? Value.exchange? .exchange <;> simp [acceptedRecipients, Event.acceptsRecipient]

private theorem recipientCount_eq (s : Session κ) :
    recipientCount s =
      ((s.properties.get? Key.recipientCount.name).bind Value.count?).getD 0 := rfl

/-- The number of recipients is that of the mail object, within the limit, and no recipient is ascribed
to a mail object that is still to come. -/
structure Counts (config : Config) (s : Session κ) : Prop where
  unborn : ∀ serial, s.mailsOpened ≤ serial → s.acceptedRecipients serial = 0
  latest : ∀ mail, s.mail = some mail → s.mailsOpened = mail.serial + 1
  agrees : ∀ mail, s.mail = some mail →
    recipientCount s = s.acceptedRecipients mail.serial ∧ recipientCount s ≤ config.maxRecipients
  bare : s.state = .afterMail → recipientCount s = 0

theorem Counts.idle (counts : s.Counts config) (opened : s.mailsOpened ≤ t.mailsOpened)
    (empty : t.mail = none) (moved : t.state ≠ .afterMail)
    (accepted : ∀ serial, t.acceptedRecipients serial = s.acceptedRecipients serial) :
    t.Counts config where
  unborn serial later := by rw [accepted, counts.unborn serial (by omega)]
  latest := by simp [empty]
  agrees := by simp [empty]
  bare state := absurd state moved

theorem Counts.goesOn (counts : s.Counts config) (opened : t.mailsOpened = s.mailsOpened)
    (mail : t.mail.map MailObject.serial = s.mail.map MailObject.serial)
    (count : t.properties.get? Key.recipientCount.name =
      s.properties.get? Key.recipientCount.name)
    (moved : t.state = .afterMail → s.state = .afterMail)
    (accepted : ∀ serial, t.acceptedRecipients serial = s.acceptedRecipients serial) :
    t.Counts config := by
  have same : recipientCount t = recipientCount s := by
    rw [recipientCount_eq, recipientCount_eq, count]
  have held {mail' : MailObject} (holds : t.mail = some mail') :
      ∃ mail, s.mail = some mail ∧ mail.serial = mail'.serial := by
    rw [holds] at mail
    exact Option.map_eq_some_iff.mp mail.symm
  refine ⟨?_, ?_, ?_, fun state => same.trans (counts.bare (moved state))⟩
  · rw [opened]
    exact fun serial later => (accepted serial).trans (counts.unborn serial later)
  · intro mail' holds
    obtain ⟨mail, before, serial⟩ := held holds
    rw [opened, ← serial]
    exact counts.latest mail before
  · intro mail' holds
    obtain ⟨mail, before, serial⟩ := held holds
    rw [same, accepted, ← serial]
    exact counts.agrees mail before

theorem Counts.begins (counts : s.Counts config) (opened : t.mailsOpened = s.mailsOpened + 1)
    (mail : t.mail.map MailObject.serial = some s.mailsOpened)
    (erased : t.properties.get? Key.recipientCount.name = none)
    (accepted : ∀ serial, t.acceptedRecipients serial = s.acceptedRecipients serial) :
    t.Counts config := by
  have zero : recipientCount t = 0 := by
    rw [recipientCount_eq, erased]
    rfl
  have numbered {mail' : MailObject} (holds : t.mail = some mail') :
      mail'.serial = s.mailsOpened := by
    rw [holds] at mail
    exact Option.some.inj mail
  refine ⟨fun serial later => ?_, fun mail' holds => ?_, fun mail' holds => ?_, fun _ => zero⟩
  · rw [accepted, counts.unborn serial (by omega)]
  · rw [numbered holds, opened]
  · rw [zero, accepted, numbered holds, counts.unborn s.mailsOpened (Nat.le_refl _)]
    exact ⟨rfl, Nat.zero_le _⟩

theorem Counts.admits (counts : s.Counts config) {mail : MailObject} (holds : s.mail = some mail)
    (room : recipientCount s < config.maxRecipients) (opened : t.mailsOpened = s.mailsOpened)
    (kept : t.mail.map MailObject.serial = some mail.serial)
    (count : t.properties.get? Key.recipientCount.name = some (.count (recipientCount s + 1)))
    (moved : t.state ≠ .afterMail)
    (accepted : ∀ serial, t.acceptedRecipients serial =
      s.acceptedRecipients serial + if mail.serial = serial then 1 else 0) :
    t.Counts config := by
  have latest := counts.latest mail holds
  have agrees := counts.agrees mail holds
  have one_more : recipientCount t = recipientCount s + 1 := by
    rw [recipientCount_eq, count]
    rfl
  have numbered {mail' : MailObject} (holds : t.mail = some mail') :
      mail'.serial = mail.serial := by
    rw [holds] at kept
    exact Option.some.inj kept
  refine ⟨fun serial later => ?_, fun mail' holds => ?_, fun mail' found => ?_,
    fun state => absurd state moved⟩
  · rw [opened] at later
    rw [accepted, counts.unborn serial later, if_neg (by omega)]
  · rw [numbered holds, opened]
    exact latest
  · rw [one_more, accepted, numbered found, if_pos rfl, ← agrees.1]
    exact ⟨rfl, room⟩

end Session

open Session

private theorem counts_taken {line : Line} {e : Exchange} {response : Bytes} {u : Session κ}
    (fits : s.Fits s.state) (counts : s.Counts config)
    (taken : Takes features line s e response u) (opened : t.mailsOpened = u.mailsOpened)
    (mail : t.mail = u.mail) (moved : t.state = u.state ∨ t.state = .afterEhlo)
    (accepted : ∀ serial, t.acceptedRecipients serial = u.acceptedRecipients serial) :
    t.Counts config := by
  have between : betweenTransactions s.state = true ∧ u.mailsOpened = s.mailsOpened ∧
      u.mail = s.mail ∧ ∀ serial, u.acceptedRecipients serial = s.acceptedRecipients serial := by
    cases taken with
    | opened verb offered between anonymous idle words found carried =>
      refine ⟨between, rfl, rfl, fun serial => ?_⟩
      rw [acceptedRecipients, List.countP_cons, countP_unlogged]
      rfl
    | resumed pending decoded =>
      exact ⟨(fits.exchange _ pending).2.1, rfl, rfl, fun serial => countP_unlogged serial s⟩
  obtain ⟨between, number, same, calls⟩ := between
  have empty := fits.mail_of_between between
  have other : s.state ≠ .afterMail := by
    intro begun
    rw [begun] at between
    exact absurd between (by decide)
  refine counts.idle (by omega) (by rw [mail, same, empty]) ?_ fun serial => ?_
  · rcases moved with stays | moves
    · rwa [stays, taken.state]
    · simp [moves]
  · rw [accepted, calls]

theorem Receipt.counts {line : Line} {answer : Except Fault Reply} (counts : s.Counts config)
    (valid : s.state = .readingData) (receipt : Receipt config line s answer t) :
    t.Counts config := by
  have quiet : s.state ≠ .afterMail := by simp [valid]
  cases receipt with
  | dropped | overflowed =>
    exact counts.goesOn rfl rfl (by simp [get?_insert]) id (by simp [acceptedRecipients])
  | written content sound size within holds asked | broken content sound size within holds asked =>
    refine counts.goesOn rfl (by simp [holds]) (by simp [get?_insert]) id fun serial => ?_
    simp [acceptedRecipients, Event.acceptsRecipient]
  | abandoned | completed =>
    refine counts.idle (Nat.le_refl _) rfl (by simp) fun serial => ?_
    simp [acceptedRecipients, Event.acceptsRecipient]

theorem Effect.counts {line : Line} {answer : Except Fault Reply} (fits : s.Fits s.state)
    (counts : s.Counts config) (effect : Effect config features line s answer t) :
    t.Counts config := by
  cases effect with
  | answered => exact counts.goesOn rfl rfl rfl id (by simp [acceptedRecipients])
  | greeted | reset | quit =>
    refine counts.idle (by simp [closeMail_eq]) (by simp [closeMail_eq]) ?_ fun serial => ?_
    · by_cases fresh : s.state = .connected <;> simp [fresh]
    · exact (acceptedRecipients_closeMail serial s.unlogged).trans (countP_unlogged serial s)
  | @senderRefused behaviour path parameters answer verb valid asked refused =>
    have empty : s.mail = none := fits.mail_of_between (by rw [valid]; rfl)
    refine counts.idle (Nat.le_succ _) empty (by simp [valid]) fun serial => ?_
    simp [acceptedRecipients, Event.acceptsRecipient]
  | senderAccepted =>
    refine counts.begins rfl rfl (by simp [get?_erase]) fun serial => ?_
    simp [acceptedRecipients, Event.acceptsRecipient]
  | recipientRefused verb valid holds asked refused =>
    refine counts.goesOn rfl (by simp [holds]) rfl id fun serial => ?_
    simp [acceptedRecipients, Event.acceptsRecipient, refused]
  | @recipientAccepted mail path parameters reply verb valid room holds asked accepted =>
    have accepts : isAcceptance (.ok reply) = true := accepted
    refine counts.admits holds room rfl rfl (by simp [get?_insert]) (by simp) fun serial => ?_
    simp [acceptedRecipients, List.countP_cons, Event.acceptsRecipient, accepts]
  | contentRefused =>
    refine counts.idle (Nat.le_refl _) rfl (by simp) fun serial => ?_
    simp [acceptedRecipients, Event.acceptsRecipient]
  | contentBegun verb valid holds asked =>
    refine counts.goesOn rfl (by simp [holds]) (by simp [get?_insert, get?_erase]) (by simp)
      fun serial => ?_
    simp [acceptedRecipients, Event.acceptsRecipient]
  | received valid receipt => exact receipt.counts counts valid
  | challenged taken | exchangeFailed taken | denied taken =>
    refine counts_taken fits counts taken rfl rfl (.inl rfl) fun serial => ?_
    simp [acceptedRecipients, Event.acceptsRecipient]
  | authenticated taken =>
    refine counts_taken fits counts taken rfl rfl (.inr rfl) fun serial => ?_
    simp [acceptedRecipients, Event.acceptsRecipient]
  | cancelled pending star =>
    have empty := fits.mail_of_between (fits.exchange _ pending).2.1
    refine counts.idle (Nat.le_refl _) empty (by simp) fun serial => ?_
    simp [acceptedRecipients, Event.acceptsRecipient]
  | undecodable pending encoded =>
    refine counts.goesOn rfl rfl (by simp [get?_erase]) id fun serial => ?_
    simp [acceptedRecipients, Event.acceptsRecipient]

theorem Change.counts {input : Input} {answer : Except Fault Reply} (fits : s.Fits s.state)
    (counts : s.Counts config) (change : Change config features s input answer t) :
    t.Counts config := by
  cases change with
  | welcomed valid =>
    have empty : s.mail = none := fits.mail_of_not_holds (by rw [valid]; rfl)
    exact counts.idle (Nat.le_refl _) empty (by simp) (by simp [acceptedRecipients])
  | line effect => exact effect.counts fits counts
  | unwelcome | complained | ignored =>
    exact counts.goesOn rfl rfl rfl id (by simp [acceptedRecipients])
  | failed => exact counts.goesOn rfl rfl (by simp [get?_insert]) id (by simp [acceptedRecipients])
  | secured =>
    refine counts.idle ?_ ?_ (by simp) fun serial => ?_
    · simp [abandonExchange_eq, closeMail_eq]
    · simp [abandonExchange_eq, closeMail_eq]
    · exact (acceptedRecipients_abandonExchange serial _).trans
        ((acceptedRecipients_closeMail serial _).trans (countP_unlogged serial s))

namespace Server

variable {newMail : Session κ → MailBehaviour} {custom : κ → Hook κ} {peer : String}
  {past : List (Passage κ)}

theorem Run.counts (run : Run (ofFeatures config newMail custom features) peer past s) :
    s.Counts config := by
  refine Run.induct (motive := fun _ s => s.Counts config) ?_ ?_ ?_ run
  · exact ⟨fun _ _ => rfl, nofun, nofun, nofun⟩
  · intro past s
    constructor
    · exact fun counts => counts.goesOn rfl rfl rfl id (by simp [acceptedRecipients])
    · exact fun counts => counts.goesOn rfl rfl rfl id (by simp [acceptedRecipients])
  · intro past s input answer t run fits counts change
    exact change.counts fits counts

section

variable {line : Line} {recipient : Grammar.PathArguments}

/-- A recipient is offered to the mail object once. Its answer is the reply, and decides whether the
recipient counts. -/
theorem addRecipient_conclude {mail : MailObject} (holds : s.mail = some mail) :
    let answer := (mail.call (.rcptTo recipient.path recipient.parameters)).1
    let done := Outcome.conclude line (addRecipient recipient s)
    done.1 = answer ∧
      done.2.unlogged.journal =
        .mailCalled mail.serial (.rcptTo recipient.path recipient.parameters) answer ::
          s.unlogged.journal ∧
      recipientCount done.2 = recipientCount s + if isAcceptance answer then 1 else 0 := by
  intro answer done
  have counted (u : Session κ) : recipientCount u = recipientCount u.unlogged := rfl
  simp only [done, addRecipient, callMail_of_some holds]
  cases told : (mail.call (.rcptTo recipient.path recipient.parameters)).1 with
  | error fault =>
    simp only [answer, told]
    exact ⟨rfl, rfl, rfl⟩
  | ok reply =>
    simp only [answer, told]
    cases accepted : reply.isPositive with
    | true =>
      have counts : isAcceptance (.ok reply) = true := accepted
      rw [if_pos rfl, if_pos counts]
      refine ⟨rfl, ?_, ?_⟩
      · simp only [Outcome.conclude, Outcome.goTo, settle, unlogged_moveTo]
        rfl
      · rw [counted]
        simp only [Outcome.conclude, Outcome.goTo, settle, unlogged_moveTo]
        simp [recipientCount_eq, setProperty, get?_insert, Value.count?]
    | false =>
      have refused : ¬isAcceptance (.ok reply) = true := by simp [isAcceptance, accepted]
      rw [if_neg Bool.false_ne_true, if_neg refused]
      exact ⟨rfl, rfl, rfl⟩

end

/-- In all runs the number of recipients is that of the recipients that the mail object of the transaction
has accepted, and it stays within the limit. At the limit a further recipient is refused and changes
nothing. Below it the recipient is offered to the mail object once, and counts if it is accepted. -/
theorem Run.recipients_within_limit
    (run : Run (ofFeatures config newMail custom features) peer past s) :
    (s.state.holdsMail = true → ∃ mail, s.mail = some mail ∧ s.mailsOpened = mail.serial + 1 ∧
      recipientCount s = s.acceptedRecipients mail.serial ∧
      recipientCount s ≤ config.maxRecipients) ∧
    (s.state = .afterMail → recipientCount s = 0) ∧
    ∀ (line : Line) (recipient : Grammar.PathArguments), s.state.inTransaction = true →
      line.isTerminated = true → Text.upper line.verb = "RCPT" →
      Grammar.forwardPath? (Grammar.arguments line.text) = some recipient →
        let after := (ofFeatures config newMail custom features).consume s line
        (recipientCount s = config.maxRecipients →
          after = (.ok (.of .insufficientStorage "Too many recipients"), s)) ∧
        (recipientCount s < config.maxRecipients → ∃ mail, s.mail = some mail ∧
          let answer := (mail.call (.rcptTo recipient.path recipient.parameters)).1
          after.1 = answer ∧
            after.2.unlogged.journal =
              .mailCalled mail.serial (.rcptTo recipient.path recipient.parameters) answer ::
                s.unlogged.journal ∧
            recipientCount after.2 = recipientCount s + if isAcceptance answer then 1 else 0) := by
  have counts := run.counts
  refine ⟨fun transacting => ?_, counts.bare, fun line recipient valid terminated verb named => ?_⟩
  · obtain ⟨mail, holds⟩ := run.fits.exists_mail transacting
    exact ⟨mail, holds, counts.latest mail holds, counts.agrees mail holds⟩
  · intro after
    have met : after = _ := consume_recipient run.fits valid terminated verb named
    constructor
    · intro full
      rw [met, if_pos (Nat.le_of_eq full.symm)]
    · intro room
      obtain ⟨mail, holds⟩ := run.fits.exists_mail (State.holdsMail_of_inTransaction valid)
      rw [met, if_neg (Nat.not_le_of_lt room)]
      exact ⟨mail, holds, addRecipient_conclude holds⟩

/-- The recipients of a transaction that was given up do not count in the next one. -/
theorem Run.recipients_within_limit_of_restarted :
    let server := accepting { maxRecipients := 1 } []
    let s := (server.replay "c.example" [.connect, .line (.ofText "EHLO c.example"),
      .line (.ofText "MAIL FROM:<>"), .line (.ofText "RCPT TO:<a@s.example>"),
      .line (.ofText "RSET"), .line (.ofText "MAIL FROM:<>"),
      .line (.ofText "RCPT TO:<b@s.example>")]).2
    s.mailsOpened = 2 ∧ recipientCount s = 1 ∧
      server.consume s (.ofText "rcpt to:<c@s.example>") =
        (.ok (.of .insufficientStorage "Too many recipients"), s) := by
  intro server s
  have run : Run server "c.example" _ s := run_replay _ _ _ (by decide +kernel)
  have reached : s.state.inTransaction = true ∧ s.mailsOpened = 2 ∧ recipientCount s = 1 := by
    decide +kernel
  obtain ⟨valid, second, full⟩ := reached
  have named : Grammar.forwardPath? (Grammar.arguments
      (Line.ofText "rcpt to:<c@s.example>").text) = some ⟨"c@s.example", ""⟩ := by
    decide +kernel
  exact ⟨second, full, ((Run.recipients_within_limit run).2.2 _ _ valid (by decide +kernel)
    (by decide +kernel) named).1 full⟩

end Server

end SmtpDialog
