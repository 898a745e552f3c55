/- digest: What all handlers leave alone that have no part in authentication, and what they reply. -/
import SmtpDialog.Proofs.Consume

set_option autoImplicit false
set_option relaxedAutoImplicit false

namespace SmtpDialog

open Command

variable {κ : Type}

def Event.isMechanism : Event → Bool
  | .mechanismOpened _ _ _ | .mechanismHeard _ _ _ | .mechanismDisposed _ => true
  | _ => false

namespace Text

/-- Whether a text stands on one line. -/
def isUnbroken (text : String) : Bool := text.toList.all fun c => c != '\r' && c != '\n'

theorem isUnbroken_ofList {cs : List Char} (each : cs.all (fun c => c != '\r' && c != '\n') = true) :
    isUnbroken (String.ofList cs) = true := by
  rw [isUnbroken, String.toList_ofList, each]

theorem isUnbroken_append {a b : String} :
    isUnbroken (a ++ b) = (isUnbroken a && isUnbroken b) := by
  simp [isUnbroken]

end Text

namespace Chain

variable {α : Type}

theorem erase_erase (key : String) (chain : Chain α) :
    (chain.erase key).erase key = chain.erase key := by
  simp [erase, List.filter_filter]

theorem erase_insert (key : String) (value : α) (chain : Chain α) :
    (chain.insert key value).erase key = chain.erase key := by
  simp [erase, insert, List.filter_filter]

theorem insert_erase (key : String) (value : α) (chain : Chain α) :
    (chain.erase key).insert key value = chain.insert key value := by
  rw [insert, insert, erase_erase]

theorem insert_insert (key : String) (value other : α) (chain : Chain α) :
    (chain.insert key other).insert key value = chain.insert key value := by
  rw [insert, erase_insert, insert]

theorem erase_of_not_contains {key : String} {chain : Chain α} (free : chain.contains key = false) :
    chain.erase key = chain := by
  rw [erase, List.filter_eq_self.mpr]
  intro entry member
  have other := List.any_eq_false.mp free entry member
  simpa using other

end Chain

namespace Session

def mechanismEvents (s : Session κ) : List Event := (s.journal.filter Event.isMechanism).reverse

theorem mechanismEvents_of_journal {s t : Session κ} (more : List Event)
    (journal : t.journal = more ++ s.journal) :
    t.mechanismEvents = s.mechanismEvents ++ (more.filter Event.isMechanism).reverse := by
  rw [mechanismEvents, journal, List.filter_append, List.reverse_append, mechanismEvents]

@[simp] theorem mechanismEvents_unlogged (s : Session κ) :
    s.unlogged.mechanismEvents = s.mechanismEvents := by
  rw [mechanismEvents, unlogged, List.filter_filter, mechanismEvents]
  congr 1
  apply List.filter_congr
  intro e _
  cases e <;> rfl

theorem mechanismEvents_record {event : Event} (quiet : event.isMechanism = false)
    (s : Session κ) : (s.record event).mechanismEvents = s.mechanismEvents := by
  rw [mechanismEvents_of_journal [event] rfl]
  simp [quiet]

/-- What an act leaves alone that has no part in authentication. -/
structure Apart (s t : Session κ) : Prop where
  exchange : t.properties.get? Key.exchange.name = s.properties.get? Key.exchange.name
  identity : t.properties.get? Key.identity.name = s.properties.get? Key.identity.name
  opened : t.exchangesOpened = s.exchangesOpened
  tls : t.tls = s.tls
  events : t.mechanismEvents = s.mechanismEvents
  chain : t.consumers = s.consumers ∨ t.consumers = s.consumers.erase Place.content.name ∨
    t.consumers = s.consumers.insert Place.content.name .content

end Session

/-- Whether all that a mail object replies is of a kind. -/
def MailBehaviour.Says (Q : Reply → Prop) (behaviour : MailBehaviour) : Prop :=
  ∀ history call reply, behaviour history call = .ok reply → Q reply

namespace Session

/-- Whether all that a session keeps for a reply is of a kind. -/
structure Keeps (Q : Reply → Prop) (s : Session κ) : Prop where
  mail : ∀ mail ∈ s.mail, mail.behaviour.Says Q
  fault : ∀ reply ∈ s.read? Value.reply? .contentFault, Q reply

/-- What acts make of a session that have no part in authentication. -/
structure Ordinary (Q : Reply → Prop) (s t : Session κ) : Prop where
  apart : s.Apart t
  keeps : t.Keeps Q

end Session

/-- What was done about an event has no part in authentication, and a reply to it is of a kind. -/
structure Outcome.Ordinary (Q : Reply → Prop) (s : Session κ) (done : Outcome κ) : Prop where
  reply : ∀ answer, done.1 = .ok (.handled answer) → Q answer.reply
  session : s.Ordinary Q done.2

/-- Whether all is of a kind that the library replies by itself and what mail objects say. An invitation
to TLS is left out, since it depends on the session, and so is the silence that meets content. -/
structure Site.Speaks (Q : Reply → Prop) (site : Site κ) : Prop where
  plain : ∀ code text, Text.isUnbroken text = true → Q (.of code text)
  greeting : Q (.of .serviceReady (site.config.hostName ++ " " ++ site.config.greeting))
  closing : Q (.of .serviceClosing
    (site.config.hostName ++ " Service closing transmission channel"))
  tooLarge : Q (Command.tooLarge site.config)
  mail : ∀ s, (site.newMail s).Says Q

/-- Whether a session may be invited to TLS, if it is not yet in use. -/
def Session.Invites (Q : Reply → Prop) (s : Session κ) : Prop :=
  s.isTls = false → Q (.startTls "Ready to start TLS")

/-- Whether the host name of a line may come back in the answer to HELO or EHLO. -/
def Site.Echoes (Q : Reply → Prop) (site : Site κ) (s : Session κ) (verb text : String) : Prop :=
  verb = "HELO" ∨ verb = "EHLO" → greetable s.state = true → ∀ domain,
    Grammar.heloDomain? (Grammar.arguments text) = some domain →
      Q (.of .ok (salutation site.config domain)) ∧
        ∀ t, Q (.multi Code.ok.number (salutation site.config domain :: offered site t))

variable {Q : Reply → Prop} {s t u : Session κ} {site : Site κ} {line : Line}

theorem Site.Speaks.literal (speaks : site.Speaks Q) {code : Code} {cs : List Char}
    (each : cs.all (fun c => c != '\r' && c != '\n') = true) : Q (.of code (String.ofList cs)) :=
  speaks.plain _ _ (Text.isUnbroken_ofList each)

namespace Session.Ordinary

theorem refl (keeps : s.Keeps Q) : s.Ordinary Q s := ⟨⟨rfl, rfl, rfl, rfl, rfl, .inl rfl⟩, keeps⟩

theorem same (h : s.Ordinary Q t) (properties : u.properties = t.properties)
    (mail : u.mail = t.mail) (opened : u.exchangesOpened = t.exchangesOpened)
    (tls : u.tls = t.tls) (events : u.mechanismEvents = t.mechanismEvents)
    (consumers : u.consumers = t.consumers) : s.Ordinary Q u where
  apart :=
    { exchange := by rw [properties, h.apart.exchange]
      identity := by rw [properties, h.apart.identity]
      opened := opened.trans h.apart.opened
      tls := tls.trans h.apart.tls
      events := events.trans h.apart.events
      chain := by rw [consumers]; exact h.apart.chain }
  keeps :=
    { mail := by rw [mail]; exact h.keeps.mail
      fault := by rw [read?, properties]; exact h.keeps.fault }

theorem of_unlogged (h : s.Ordinary Q t) (same : u.unlogged = t.unlogged) : s.Ordinary Q u := by
  refine h.same ?_ ?_ ?_ ?_ ?_ ?_
  · rw [← unlogged_properties u, same, unlogged_properties]
  · rw [← unlogged_mail u, same, unlogged_mail]
  · rw [← unlogged_exchangesOpened u, same, unlogged_exchangesOpened]
  · rw [← unlogged_tls u, same, unlogged_tls]
  · rw [← mechanismEvents_unlogged u, same, mechanismEvents_unlogged]
  · rw [← unlogged_consumers u, same, unlogged_consumers]

theorem record (h : s.Ordinary Q t) {event : Event} (quiet : event.isMechanism = false) :
    s.Ordinary Q (t.record event) :=
  h.same rfl rfl rfl rfl (mechanismEvents_record quiet t) rfl

theorem log (h : s.Ordinary Q t) (level : Level) (text : String) : s.Ordinary Q (t.log level text) :=
  h.record rfl

theorem logInfoIf (h : s.Ordinary Q t) (condition : Bool) (text : String) :
    s.Ordinary Q (t.logInfoIf condition text) :=
  h.of_unlogged (unlogged_logInfoIf condition text t)

theorem moveTo (h : s.Ordinary Q t) (next : State) : s.Ordinary Q (t.moveTo next) := by
  rw [Session.moveTo]
  split
  · exact h
  · exact (h.log _ _).same rfl rfl rfl rfl rfl rfl

theorem install (h : s.Ordinary Q t) : s.Ordinary Q (t.install .content .content) where
  apart := { h.apart with
    chain := by
      right; right
      simp only [Session.install]
      rcases h.apart.chain with chain | chain | chain <;> rw [chain]
      · exact Chain.insert_erase _ _ _
      · exact Chain.insert_insert _ _ _ _ }
  keeps := ⟨h.keeps.mail, h.keeps.fault⟩

theorem uninstall (h : s.Ordinary Q t) : s.Ordinary Q (t.uninstall .content) where
  apart := { h.apart with
    chain := by
      right; left
      simp only [Session.uninstall]
      rcases h.apart.chain with chain | chain | chain <;> rw [chain]
      · exact Chain.erase_erase _ _
      · exact Chain.erase_insert _ _ _ }
  keeps := ⟨h.keeps.mail, h.keeps.fault⟩

theorem setProperty (h : s.Ordinary Q t) (k : Key) (v : Value)
    (other : k ≠ .exchange ∧ k ≠ .identity ∧ k ≠ .contentFault) :
    s.Ordinary Q (t.setProperty k v) where
  apart := { h.apart with
    exchange := by simpa [Session.setProperty, get?_insert, other] using h.apart.exchange
    identity := by simpa [Session.setProperty, get?_insert, other] using h.apart.identity }
  keeps := by
    refine ⟨h.keeps.mail, ?_⟩
    have kept : (t.setProperty k v).read? Value.reply? .contentFault =
        t.read? Value.reply? .contentFault := by
      simp [read?, Session.setProperty, Properties.read?, get?_insert, other]
    rw [kept]
    exact h.keeps.fault

theorem setFault (h : s.Ordinary Q t) {reply : Reply} (kind : Q reply) :
    s.Ordinary Q (t.setProperty .contentFault (.reply reply)) where
  apart := { h.apart with
    exchange := by simpa [Session.setProperty, get?_insert] using h.apart.exchange
    identity := by simpa [Session.setProperty, get?_insert] using h.apart.identity }
  keeps := by
    refine ⟨h.keeps.mail, ?_⟩
    intro told found
    obtain rfl : reply = told := by
      simpa [read?, Session.setProperty, Properties.read?, get?_insert, Value.reply?] using found
    exact kind

theorem clearProperty (h : s.Ordinary Q t) (k : Key) (other : k ≠ .exchange ∧ k ≠ .identity) :
    s.Ordinary Q (t.clearProperty k) where
  apart := { h.apart with
    exchange := by simpa [Session.clearProperty, get?_erase, other] using h.apart.exchange
    identity := by simpa [Session.clearProperty, get?_erase, other] using h.apart.identity }
  keeps := by
    refine ⟨h.keeps.mail, ?_⟩
    intro reply found
    apply h.keeps.fault reply
    by_cases cleared : k = .contentFault
    · simp [read?, Session.clearProperty, Properties.read?, get?_erase, cleared] at found
    · simpa [read?, Session.clearProperty, Properties.read?, get?_erase, cleared] using found

theorem failTransfer (h : s.Ordinary Q t) {reply : Reply} (kind : Q reply) :
    s.Ordinary Q (t.failTransfer reply) := by
  rw [Session.failTransfer]
  split
  · exact h.setFault kind
  · exact h

theorem withMail (h : s.Ordinary Q t) {mail : Option MailObject}
    (keeps : ∀ m ∈ mail, m.behaviour.Says Q) : s.Ordinary Q { t with mail := mail } where
  apart := { h.apart with }
  keeps := ⟨keeps, h.keeps.fault⟩

theorem closeMail (h : s.Ordinary Q t) : s.Ordinary Q t.closeMail := by
  unfold Session.closeMail
  split
  · exact h
  · exact (h.record rfl).withMail nofun

theorem adoptMail (h : s.Ordinary Q t) {mail : MailObject} (keeps : mail.behaviour.Says Q) :
    s.Ordinary Q (t.adoptMail mail) := by
  apply h.closeMail.withMail
  rintro kept ⟨⟩
  exact keeps

theorem callMail (h : s.Ordinary Q t) (call : MailCall) :
    (∀ reply, (t.callMail call).1 = some (.ok reply) → Q reply) ∧
      s.Ordinary Q (t.callMail call).2 := by
  cases held : t.mail with
  | none =>
    rw [Session.callMail, held]
    exact ⟨by rintro _ ⟨⟩, h⟩
  | some mail =>
    have keeps := h.keeps.mail mail held
    rw [callMail_of_some held]
    refine ⟨fun reply answered => keeps _ _ _ (Option.some.inj answered), ?_⟩
    apply (h.record rfl).withMail
    rintro kept ⟨⟩
    exact keeps

theorem completeMail (h : s.Ordinary Q t) :
    (∀ reply, t.completeMail.1 = .ok reply → Q reply) ∧ s.Ordinary Q t.completeMail.2 := by
  rw [Session.completeMail]
  cases held : t.mail with
  | none => exact ⟨by rintro _ ⟨⟩, h⟩
  | some mail =>
    refine ⟨h.keeps.mail mail held _ _, ((h.record rfl).record rfl).withMail ?_⟩
    rintro _ ⟨⟩

end Session.Ordinary

namespace Outcome

theorem ordinary_stay {reply : Reply} (kind : Q reply) (h : s.Ordinary Q t) :
    Outcome.Ordinary Q s (Outcome.stay reply t) := by
  refine ⟨?_, h⟩
  rintro answer ⟨⟩
  exact kind

theorem ordinary_goTo (next : State) {reply : Reply} (kind : Q reply) (h : s.Ordinary Q t) :
    Outcome.Ordinary Q s (Outcome.goTo next reply t) := by
  refine ⟨?_, h⟩
  rintro answer ⟨⟩
  exact kind

theorem ordinary_error (fault : Fault) (h : s.Ordinary Q t) :
    Outcome.Ordinary Q s (.error fault, t) :=
  ⟨nofun, h⟩

theorem Ordinary.conclude {done : Outcome κ} (ordinary : done.Ordinary Q s)
    (unrecognised : Q .unrecognised) (line : Line) :
    (∀ reply, (done.conclude line).1 = .ok reply → Q reply) ∧
      s.Ordinary Q (done.conclude line).2 := by
  obtain ⟨verdict, t⟩ := done
  obtain ⟨kind, h⟩ := ordinary
  match verdict with
  | .error fault => exact ⟨nofun, h⟩
  | .ok .declined =>
    refine ⟨?_, h.log _ _⟩
    rintro reply ⟨⟩
    exact unrecognised
  | .ok (.handled ⟨reply, none⟩) =>
    refine ⟨?_, h⟩
    rintro told ⟨⟩
    exact kind _ rfl
  | .ok (.handled ⟨reply, some next⟩) =>
    refine ⟨?_, h.moveTo next⟩
    rintro told ⟨⟩
    exact kind _ rfl

end Outcome

open Outcome

private theorem ordinary_handle {handler : Handler κ} {text : Option String}
    (speaks : site.Speaks Q) (keeps : s.Keeps Q)
    (run : handler.validFor s = true → Outcome.Ordinary Q s (handler.run site s text)) :
    Outcome.Ordinary Q s (handler.handle site s text) := by
  rw [Handler.handle]
  split
  · rename_i valid
    exact run valid
  · exact ordinary_stay (speaks.literal rfl) (.refl keeps)

private theorem acceptDomain_ordinary (keeps : s.Keeps Q) (command domain : String) :
    s.Ordinary Q (acceptDomain command domain s) := by
  have closed := ((Session.Ordinary.refl keeps).logInfoIf s.hasMail
    (command ++ " aborts mail transaction")).closeMail
  apply Session.Ordinary.log
  apply Session.Ordinary.setProperty _ _ _ (by decide)
  exact closed.same rfl rfl rfl rfl rfl rfl

private theorem greetingBy_ordinary {command text : String}
    {answer : Site κ → Session κ → String → Reply} (speaks : site.Speaks Q) (keeps : s.Keeps Q)
    (single : Text.isUnbroken command = true)
    (echo : greetable s.state = true → ∀ domain,
      Grammar.heloDomain? (Grammar.arguments text) = some domain → ∀ t, Q (answer site t domain)) :
    Outcome.Ordinary Q s ((greetingBy command answer).handle site s (some text)) := by
  have front : Text.isUnbroken "Syntax: " = true := Text.isUnbroken_ofList rfl
  have back : Text.isUnbroken " hostname" = true := Text.isUnbroken_ofList rfl
  have refusal : Text.isUnbroken ("Syntax: " ++ command ++ " hostname") = true := by
    rw [Text.isUnbroken_append, Text.isUnbroken_append, front, single, back]
    rfl
  apply ordinary_handle speaks keeps
  intro valid
  simp only [greetingBy, Option.bind_some, Function.comp_apply]
  split
  · exact ordinary_stay (speaks.plain _ _ refusal) (.refl keeps)
  · rename_i domain named
    exact ordinary_goTo _ (echo valid domain named _) (acceptDomain_ordinary keeps _ _)

private theorem fixed_ordinary {reply : Reply} {text : Option String} (speaks : site.Speaks Q)
    (keeps : s.Keeps Q) (kind : Q reply) :
    Outcome.Ordinary Q s ((fixed reply).handle site s text) :=
  ordinary_handle speaks keeps fun _ => ordinary_stay kind (.refl keeps)

private theorem quit_ordinary {text : Option String} (speaks : site.Speaks Q) (keeps : s.Keeps Q) :
    Outcome.Ordinary Q s (quit.handle site s text) :=
  ordinary_handle speaks keeps fun _ =>
    ordinary_goTo _ speaks.closing ((Session.Ordinary.refl keeps).log _ _).closeMail

private theorem rset_ordinary {text : Option String} (speaks : site.Speaks Q) (keeps : s.Keeps Q) :
    Outcome.Ordinary Q s (rset.handle site s text) :=
  ordinary_handle speaks keeps fun _ =>
    ordinary_goTo _ (speaks.literal rfl)
      ((Session.Ordinary.refl keeps).logInfoIf _ _).closeMail

private theorem startTls_ordinary {text : Option String} (speaks : site.Speaks Q)
    (keeps : s.Keeps Q) (invites : s.Invites Q) :
    Outcome.Ordinary Q s (startTls.handle site s text) := by
  have still : s.Ordinary Q s := .refl keeps
  apply ordinary_handle speaks keeps
  intro _
  simp only [startTls]
  split
  · exact ordinary_stay (speaks.literal rfl) still
  · split
    · exact ordinary_stay (speaks.literal rfl) (still.log _ _)
    · split
      · exact ordinary_stay (speaks.literal rfl) still
      · rename_i clear _ _
        exact ordinary_stay (invites (Bool.eq_false_iff.mpr clear)) (still.log _ _)

private theorem beginTransaction_ordinary (speaks : site.Speaks Q) (keeps : s.Keeps Q)
    (sender : Grammar.PathArguments) : Outcome.Ordinary Q s (beginTransaction site sender s) := by
  have cleared := (Session.Ordinary.refl keeps).closeMail.clearProperty .recipientCount (by decide)
  simp only [beginTransaction, Session.openMail]
  generalize s.closeMail.clearProperty .recipientCount = u at cleared ⊢
  have keeps := speaks.mail u
  have called {answer : Except Fault Reply} : s.Ordinary Q
      ((u.record (.mailOpened u.mailsOpened u.peerName)).record
        (.mailCalled u.mailsOpened (.mailFrom sender.path sender.parameters) answer)) :=
    (cleared.record rfl).record rfl
  simp only [Session.callOn, MailObject.call]
  split
  · refine ordinary_error _ (Session.Ordinary.record ?_ rfl)
    exact called.same rfl rfl rfl rfl rfl rfl
  · rename_i reply answered
    have kind := keeps _ _ _ answered
    split
    · apply ordinary_goTo _ kind
      apply Session.Ordinary.log
      apply Session.Ordinary.adoptMail
      · exact called.same rfl rfl rfl rfl rfl rfl
      · exact keeps
    · refine ordinary_stay kind (Session.Ordinary.record (Session.Ordinary.log ?_ _ _) rfl)
      exact called.same rfl rfl rfl rfl rfl rfl

private theorem mail_ordinary {text : Option String} (speaks : site.Speaks Q) (keeps : s.Keeps Q) :
    Outcome.Ordinary Q s (mail.handle site s text) := by
  apply ordinary_handle speaks keeps
  intro _
  simp only [mail]
  split
  · exact ordinary_stay (speaks.literal rfl) (.refl keeps)
  · split
    · exact ordinary_stay speaks.tooLarge (.refl keeps)
    · exact beginTransaction_ordinary speaks keeps _

private theorem addRecipient_ordinary (speaks : site.Speaks Q) (keeps : s.Keeps Q)
    (recipient : Grammar.PathArguments) : Outcome.Ordinary Q s (addRecipient recipient s) := by
  obtain ⟨kind, called⟩ := (Session.Ordinary.refl keeps).callMail
    (.rcptTo recipient.path recipient.parameters)
  simp only [addRecipient]
  generalize s.callMail (.rcptTo recipient.path recipient.parameters) = told at kind called ⊢
  obtain ⟨answer, t⟩ := told
  rcases answer with _ | fault | reply
  · exact ordinary_goTo _ (speaks.literal rfl) (called.log _ _)
  · exact ordinary_error _ called
  · dsimp only
    split
    · exact ordinary_goTo _ (kind reply rfl) (called.setProperty _ _ (by decide))
    · exact ordinary_stay (kind reply rfl) (called.log _ _)

private theorem rcpt_ordinary {text : Option String} (speaks : site.Speaks Q) (keeps : s.Keeps Q) :
    Outcome.Ordinary Q s (rcpt.handle site s text) := by
  apply ordinary_handle speaks keeps
  intro _
  simp only [rcpt]
  split
  · exact ordinary_stay (speaks.literal rfl) (.refl keeps)
  · split
    · exact ordinary_stay (speaks.literal rfl) (.refl keeps)
    · exact addRecipient_ordinary speaks keeps _

private theorem data_ordinary {text : Option String} (speaks : site.Speaks Q) (keeps : s.Keeps Q) :
    Outcome.Ordinary Q s (data.handle site s text) := by
  apply ordinary_handle speaks keeps
  intro _
  simp only [data]
  split
  · have counted := ((Session.Ordinary.refl keeps).clearProperty .contentFault
      (by decide)).setProperty .contentSize (.word 0) (by decide)
    have begun := (counted.install.callMail .prepare).2
    simp only [beginContent]
    split
    · exact ordinary_goTo _ (speaks.literal rfl)
        ((begun.log _ _).uninstall.clearProperty _ (by decide)).closeMail
    · exact ordinary_goTo _ (speaks.literal rfl) (begun.log _ _)
  · exact ordinary_stay (speaks.literal rfl) (.refl keeps)

private theorem countContent_ordinary (keeps : s.Keeps Q) (length : Nat) :
    s.Ordinary Q (countContent length s).2 := by
  simp only [countContent, Properties.addWord]
  split
  · exact (Session.Ordinary.refl keeps).setProperty .contentSize (.word _) (by decide)
  · exact .refl keeps

private theorem writeContent_ordinary (speaks : site.Speaks Q) (keeps : s.Keeps Q)
    (content : Bytes) : s.Ordinary Q (writeContent site.config content s) := by
  have counted := countContent_ordinary keeps content.length
  simp only [writeContent]
  split
  · exact (counted.log _ _).failTransfer speaks.tooLarge
  · have called := (counted.callMail (.writeLine content)).2
    split
    · exact called
    · exact (called.log _ _).failTransfer (speaks.literal rfl)

private theorem endContent_ordinary (speaks : site.Speaks Q) (keeps : s.Keeps Q) :
    Outcome.Ordinary Q s (endContent s) := by
  have ended := (Session.Ordinary.refl keeps).uninstall.clearProperty .contentSize (by decide)
  have cleared := ended.clearProperty .contentFault (by decide)
  simp only [endContent]
  split
  · rename_i reply failed
    exact ordinary_goTo _ (ended.keeps.fault reply failed) (cleared.log _ _).closeMail
  · obtain ⟨kind, completed⟩ := cleared.completeMail
    generalize Session.completeMail
      (((s.uninstall .content).clearProperty .contentSize).clearProperty .contentFault) = told
      at kind completed ⊢
    obtain ⟨answer, t⟩ := told
    cases answer with
    | ok reply => exact ordinary_goTo _ (kind reply rfl) (completed.log _ _)
    | error fault => exact ordinary_goTo _ (speaks.literal rfl) (completed.log _ _)

theorem takeContent_ordinary (speaks : site.Speaks Q) (keeps : s.Keeps Q) (line : Line) :
    s.Ordinary Q (if s.hasProperty .contentFault then s
      else writeContent site.config (unstuffed line.bytes) s) := by
  split
  · exact .refl keeps
  · exact writeContent_ordinary speaks keeps _

theorem content_ordinary (speaks : site.Speaks Q) (keeps : s.Keeps Q) (line : Line)
    (silent : line.endsContent = false → Q .silent) :
    Outcome.Ordinary Q s
      (if line.content = [46] then endContent s
        else Outcome.stay .silent (if s.hasProperty .contentFault then s
          else writeContent site.config (unstuffed line.bytes) s)) := by
  split
  · exact endContent_ordinary speaks keeps
  · rename_i other
    exact ordinary_stay (silent (by simpa [Line.endsContent] using other))
      (takeContent_ordinary speaks keeps line)

theorem serves_ordinary {features : List Feature} {verb text : String} {handler : Handler κ}
    (speaks : site.Speaks Q) (keeps : s.Keeps Q) (invites : s.Invites Q)
    (echoes : site.Echoes Q s verb text)
    (other : verb ≠ "AUTH") (serves : Server.Serves features verb handler) :
    Outcome.Ordinary Q s (handler.handle site s (some text)) := by
  cases serves with
  | helo =>
    exact greetingBy_ordinary speaks keeps (Text.isUnbroken_ofList rfl) fun valid domain named _ =>
      (echoes (.inl rfl) valid domain named).1
  | ehlo =>
    exact greetingBy_ordinary speaks keeps (Text.isUnbroken_ofList rfl) fun valid domain named =>
      (echoes (.inr rfl) valid domain named).2
  | mail => exact mail_ordinary speaks keeps
  | rcpt => exact rcpt_ordinary speaks keeps
  | data => exact data_ordinary speaks keeps
  | rset => exact rset_ordinary speaks keeps
  | noop | vrfy | help => exact fixed_ordinary speaks keeps (speaks.literal rfl)
  | quit => exact quit_ordinary speaks keeps
  | startTls => exact startTls_ordinary speaks keeps invites
  | auth offered => contradiction

end SmtpDialog
