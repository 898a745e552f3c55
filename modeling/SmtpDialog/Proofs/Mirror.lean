/- digest: Sessions that differ only in what was before answer every line alike. -/
import SmtpDialog.Proofs.Consume
import SmtpDialog.Proofs.Run
import SmtpDialog.Proofs.Since

set_option autoImplicit false
set_option relaxedAutoImplicit false

namespace SmtpDialog

open Command

variable {κ : Type}

/-- Whether the mail service makes a mail object by what a session holds, whatever was logged, called or
counted before. -/
def Impartial (newMail : Session κ → MailBehaviour) : Prop :=
  ∀ (s : Session κ) (prefixed : LogPrefix) (mails exchanges : Nat) (journal : List Event),
    newMail { s with
      logPrefix := prefixed, mailsOpened := mails, exchangesOpened := exchanges, journal := journal } =
        newMail s

/-- Whether the mechanisms of a policy are made alike, whatever was before. -/
def AuthPolicy.Impartial (policy : AuthPolicy) : Prop :=
  ∀ factory ∈ policy.registry.factories, ∀ journal other : List Event,
    factory.create journal = factory.create other

/-- Two outcomes are the same, and the session of the second echoes that of the first. -/
structure Outcome.Agree (b : Base) (x y : Outcome κ) : Prop where
  same : y.1 = x.1
  echoes : Echoes b x.2 y.2

variable {b : Base} {c s : Session κ} {site : Site κ} {line : Line}

namespace Outcome

theorem agree_stay (reply : Reply) (h : Echoes b c s) :
    Agree b (Outcome.stay reply c) (Outcome.stay reply s) := ⟨rfl, h⟩

theorem agree_goTo (next : State) (reply : Reply) (h : Echoes b c s) :
    Agree b (Outcome.goTo next reply c) (Outcome.goTo next reply s) := ⟨rfl, h⟩

theorem Agree.conclude {x y : Outcome κ} (agree : Agree b x y) (line : Line) :
    (y.conclude line).1 = (x.conclude line).1 ∧
      Echoes b (x.conclude line).2 (y.conclude line).2 := by
  obtain ⟨done, c⟩ := x
  obtain ⟨other, s⟩ := y
  obtain ⟨same, h⟩ := agree
  obtain rfl : other = done := same
  match other with
  | .error fault => exact ⟨rfl, h⟩
  | .ok .declined => exact ⟨rfl, h.log _ _ _ _⟩
  | .ok (.handled ⟨reply, none⟩) => exact ⟨rfl, h⟩
  | .ok (.handled ⟨reply, some next⟩) => exact ⟨rfl, h.moveTo next⟩

end Outcome

open Outcome

private theorem agree_handle {handler : Handler κ} {text : Option String} (h : Echoes b c s)
    (valid : handler.validFor s = handler.validFor c)
    (run : Agree b (handler.run site c text) (handler.run site s text)) :
    Agree b (handler.handle site c text) (handler.handle site s text) := by
  rw [Handler.handle, Handler.handle, valid]
  split
  · exact run
  · exact agree_stay _ h

theorem Echoes.isTls (h : Echoes b c s) : s.isTls = c.isTls := by
  rw [Session.isTls, Session.isTls, h.tls]

theorem Echoes.hasMail (h : Echoes b c s) : s.hasMail = c.hasMail := by
  rw [Session.hasMail, Session.hasMail, h.mail, Option.isSome_map]

private theorem acceptDomain_echoes (h : Echoes b c s) (command domain : String) :
    Echoes b (acceptDomain command domain c) (acceptDomain command domain s) := by
  have closed := (h.logInfoIf h.hasMail (command ++ " aborts mail transaction")
    (command ++ " aborts mail transaction")).closeMail
  exact ((closed.withPrefix _ _).setProperty .heloDomain (.text domain) rfl).log _ _ _ _

private theorem greetingBy_agrees {command : String} {answer : Site κ → Session κ → String → Reply}
    {text : Option String} (h : Echoes b c s)
    (same : ∀ {c s : Session κ} (domain : String), Echoes b c s →
      answer site s domain = answer site c domain) :
    Agree b ((greetingBy command answer).handle site c text)
      ((greetingBy command answer).handle site s text) := by
  apply agree_handle h
  · exact congrArg greetable h.state
  · simp only [greetingBy]
    split
    · exact agree_stay _ h
    · rename_i domain _
      have accepted := acceptDomain_echoes h command domain
      rw [same domain accepted]
      exact agree_goTo _ _ accepted

private theorem offered_of_echoes {features : List Feature} (h : Echoes b c s)
    (offers : site.offers = (features.map Feature.extension).map (·.toOffer)) :
    offered site s = offered site c := by
  have available (policy : AuthPolicy) : policy.available s = policy.available c := by
    rw [AuthPolicy.available, AuthPolicy.available]
    congr 1
    funext factory
    rw [AuthPolicy.allows, AuthPolicy.allows, h.isTls]
  have alike : ∀ x ∈ site.offers, x.isAvailable site.config s = x.isAvailable site.config c ∧
      x.advertisement site.config s = x.advertisement site.config c := by
    intro x offered
    rw [offers, List.map_map] at offered
    obtain ⟨feature, -, rfl⟩ := List.mem_map.mp offered
    cases feature with
    | keyword | size => exact ⟨rfl, rfl⟩
    | startTls => exact ⟨congrArg (site.config.offerStartTls && !·) h.isTls, rfl⟩
    | auth policy =>
      simp only [Function.comp_apply, Feature.extension, Extension.auth, available, and_self]
  rw [offered, offered, List.filter_congr fun x offered => (alike x offered).1]
  exact List.map_congr_left fun x kept => (alike x (List.mem_filter.mp kept).1).2

private theorem fixed_agrees {reply : Reply} {text : Option String} (h : Echoes b c s) :
    Agree b ((fixed reply).handle site c text) ((fixed reply).handle site s text) :=
  agree_handle h (congrArg inDialog h.state) (agree_stay _ h)

private theorem quit_agrees {text : Option String} (h : Echoes b c s) :
    Agree b (quit.handle site c text) (quit.handle site s text) := by
  apply agree_handle h
  · simp only [quit, h.state]
  · exact agree_goTo _ _ (h.log _ _ _ _).closeMail

private theorem rset_agrees {text : Option String} (h : Echoes b c s) :
    Agree b (rset.handle site c text) (rset.handle site s text) := by
  apply agree_handle h (congrArg inDialog h.state)
  have closed := (h.logInfoIf h.hasMail "Mail transaction reset" "Mail transaction reset").closeMail
  simp only [rset, closed.state]
  exact agree_goTo _ _ closed

private theorem startTls_agrees {text : Option String} (h : Echoes b c s) :
    Agree b (startTls.handle site c text) (startTls.handle site s text) := by
  apply agree_handle h (congrArg betweenTransactions h.state)
  simp only [startTls, h.isTls]
  split
  · exact agree_stay _ h
  · split
    · exact agree_stay _ (h.log _ _ _ _)
    · split
      · exact agree_stay _ h
      · exact agree_stay _ (h.log _ _ _ _)

private theorem newMail_of_echoes {newMail : Session κ → MailBehaviour} (impartial : Impartial newMail)
    (h : Echoes b c s) (empty : c.mail = none)
    (idle : c.properties.get? Key.exchange.name = none) : newMail s = newMail c := by
  have none_held : s.mail = c.mail := by rw [h.mail, empty]; rfl
  have same : s = { c with
      logPrefix := s.logPrefix, mailsOpened := s.mailsOpened, exchangesOpened := s.exchangesOpened,
      journal := s.journal } := by
    rw [← h.peerName, ← h.state, ← none_held, ← h.properties_of_idle idle, ← h.tls, ← h.consumers]
  rw [same]
  exact impartial c _ _ _ _

private theorem beginTransaction_agrees (impartial : Impartial site.newMail) (h : Echoes b c s)
    (idle : c.properties.get? Key.exchange.name = none) (sender : Grammar.PathArguments) :
    Agree b (beginTransaction site sender c) (beginTransaction site sender s) := by
  have cleared := h.closeMail.clearProperty .recipientCount
  have quiet : (c.closeMail.clearProperty .recipientCount).properties.get? Key.exchange.name =
      none := by
    simpa [Session.clearProperty, Session.get?_erase, Session.closeMail_properties] using idle
  have made := newMail_of_echoes impartial cleared (Session.closeMail_mail c) quiet
  obtain ⟨numbered, opened⟩ := cleared.openMail made
  simp only [beginTransaction, numbered]
  generalize ((c.closeMail.clearProperty .recipientCount).openMail site.newMail) = first at opened ⊢
  generalize ((s.closeMail.clearProperty .recipientCount).openMail site.newMail).2 = t at opened ⊢
  obtain ⟨mail, u⟩ := first
  obtain ⟨answer, kept, called⟩ := opened.callOn mail (.mailFrom sender.path sender.parameters)
  simp only [answer, kept]
  split
  · exact ⟨rfl, called.disposeMail _⟩
  · split
    · exact agree_goTo _ _ ((called.adoptMail _).log _ _ _ _)
    · exact agree_stay _ ((called.log _ _ _ _).disposeMail _)

private theorem mail_agrees (impartial : Impartial site.newMail) (h : Echoes b c s)
    (idle : c.properties.get? Key.exchange.name = none) {text : Option String} :
    Agree b (mail.handle site c text) (mail.handle site s text) := by
  apply agree_handle h
  · simp only [mail, h.state]
  · simp only [mail]
    split
    · exact agree_stay _ h
    · split
      · exact agree_stay _ h
      · exact beginTransaction_agrees impartial h idle _

private theorem rcpt_agrees {text : Option String} (h : Echoes b c s) :
    Agree b (rcpt.handle site c text) (rcpt.handle site s text) := by
  have count : recipientCount s = recipientCount c := by
    rw [recipientCount, recipientCount, h.read? Value.count? (by decide)]
  apply agree_handle h (congrArg State.inTransaction h.state)
  simp only [rcpt, count]
  split
  · exact agree_stay _ h
  · rename_i recipient _
    split
    · exact agree_stay _ h
    · obtain ⟨answer, called⟩ := h.callMail (.rcptTo recipient.path recipient.parameters)
      simp only [addRecipient, count]
      generalize c.callMail (.rcptTo recipient.path recipient.parameters) = first at answer called ⊢
      generalize s.callMail (.rcptTo recipient.path recipient.parameters) = second at answer called ⊢
      obtain ⟨told, u⟩ := first
      obtain ⟨other, t⟩ := second
      obtain rfl : other = told := answer
      rcases other with _ | fault | reply
      · exact agree_goTo _ _ (called.log _ _ _ _)
      · exact ⟨rfl, called⟩
      · simp only
        split
        · exact agree_goTo _ _ (called.setProperty .recipientCount _ rfl)
        · exact agree_stay _ (called.log _ _ _ _)

private theorem data_agrees {text : Option String} (h : Echoes b c s) :
    Agree b (data.handle site c text) (data.handle site s text) := by
  apply agree_handle h
  · simp only [data, h.state]
  · simp only [data]
    split
    · have begun := (((h.clearProperty .contentFault).setProperty .contentSize (.word 0) rfl).install
        .content .content).callMail .prepare
      simp only [beginContent]
      rw [begun.1]
      split
      · exact agree_goTo _ _
          (((begun.2.log _ _ _ _).uninstall .content).clearProperty .contentSize).closeMail
      · exact agree_goTo _ _ (begun.2.log _ _ _ _)
    · exact agree_stay _ h

private theorem countContent_echoes (h : Echoes b c s) (length : Nat) :
    (countContent length s).1 = (countContent length c).1 ∧
      Echoes b (countContent length c).2 (countContent length s).2 := by
  have size : s.properties.read? Value.word? Key.contentSize.name =
      c.properties.read? Value.word? Key.contentSize.name :=
    h.read? Value.word? (k := .contentSize) (by decide)
  simp only [countContent, Properties.addWord, size]
  split
  · exact ⟨rfl, h.setProperty .contentSize (.word _) rfl⟩
  · exact ⟨rfl, h⟩

private theorem writeContent_echoes (h : Echoes b c s) (config : Config) (content : Bytes) :
    Echoes b (writeContent config content c) (writeContent config content s) := by
  obtain ⟨total, counted⟩ := countContent_echoes h content.length
  obtain ⟨answer, called⟩ := counted.callMail (.writeLine content)
  simp only [writeContent, total, answer]
  split
  · exact (counted.log _ _ _ _).failTransfer _
  · split
    · exact called
    · exact (called.log _ _ _ _).failTransfer _

private theorem endContent_agrees (h : Echoes b c s) : Agree b (endContent c) (endContent s) := by
  have ended := (h.uninstall .content).clearProperty .contentSize
  have failure := ended.read? Value.reply? (k := .contentFault) (by decide)
  have cleared := ended.clearProperty .contentFault
  obtain ⟨answer, completed⟩ := cleared.completeMail
  simp only [endContent, failure]
  split
  · exact agree_goTo _ _ (cleared.log _ _ _ _).closeMail
  · generalize Session.completeMail
      (((c.uninstall .content).clearProperty .contentSize).clearProperty .contentFault) = first
      at answer completed ⊢
    generalize Session.completeMail
      (((s.uninstall .content).clearProperty .contentSize).clearProperty .contentFault) = second
      at answer completed ⊢
    obtain ⟨told, u⟩ := first
    obtain ⟨other, t⟩ := second
    obtain rfl : other = told := answer
    cases other with
    | ok reply => exact agree_goTo _ _ (completed.log _ _ _ _)
    | error fault => exact agree_goTo _ _ (completed.log _ _ _ _)

private theorem content_agrees (h : Echoes b c s) (config : Config) :
    Agree b
      (if line.content = [46] then endContent c
        else Outcome.stay .silent (if c.hasProperty .contentFault then c
          else writeContent config (unstuffed line.bytes) c))
      (if line.content = [46] then endContent s
        else Outcome.stay .silent (if s.hasProperty .contentFault then s
          else writeContent config (unstuffed line.bytes) s)) := by
  split
  · exact endContent_agrees h
  · rw [h.hasProperty]
    split
    · exact agree_stay _ h
    · exact agree_stay _ (writeContent_echoes h _ _)

private theorem finishExchange_agrees (h : Echoes b c s) (e : Exchange) (reaction : Reaction) :
    Agree b (finishExchange e reaction c)
      (finishExchange (b.onto.onExchange e) reaction s) := by
  have disposed := h.disposeMechanism e
  simp only [finishExchange]
  split
  · rename_i identity _
    have known := ((disposed.withPrefix (c.logPrefix.setUser identity)
      (s.logPrefix.setUser identity)).log .info .info ("Authenticated with " ++ e.mechanism.name)
      ("Authenticated with " ++ e.mechanism.name)).setProperty .identity (.text identity) rfl
    apply agree_goTo
    split
    · exact known.setProperty .authcid _ rfl
    · exact known
  · exact agree_stay _ (disposed.log _ _ _ _)

private theorem continueExchange_agrees (h : Echoes b c s) (e : Exchange) (response : Bytes) :
    Agree b (continueExchange e response c)
      (continueExchange (b.onto.onExchange e) response s) := by
  have reaction : (b.onto.onExchange e).reaction response = e.reaction response := rfl
  have after : (b.onto.onExchange e).after response = b.onto.onExchange (e.after response) := rfl
  have heard := h.record (.mechanismHeard e.serial response (e.reaction response)) rfl
  rw [continueExchange_eq, continueExchange_eq, reaction, after]
  simp only
  split
  · exact agree_stay _ (((heard.log _ _ _ _).disposeMechanism _).uninstall .responses)
  · split
    · exact finishExchange_agrees (heard.uninstall .responses) _ _
    · exact agree_stay _ ((heard.setExchange _).install .responses .responses)

private theorem openExchange_echoes (h : Echoes b c s) {factory : Factory}
    (same : factory.create s.journal = factory.create c.journal) :
    (openExchange factory s).1 = b.onto.onExchange (openExchange factory c).1 ∧
      Echoes b (openExchange factory c).2 (openExchange factory s).2 := by
  have noted := h.record (.mechanismOpened c.exchangesOpened (factory.create c.journal).name
    factory.sendsPlaintext) rfl
  simp only [openExchange, same, h.exchangesOpened]
  exact ⟨rfl, { noted with exchangesOpened := rfl }⟩

private theorem beginExchange_agrees (h : Echoes b c s) {factory : Factory}
    (same : ∀ journal other : List Event, factory.create journal = factory.create other)
    (token : Option (List Char)) :
    Agree b (beginExchange factory token c) (beginExchange factory token s) := by
  obtain ⟨numbered, opened⟩ := openExchange_echoes h (same s.journal c.journal)
  cases token with
  | none =>
    simp only [beginExchange, numbered]
    exact continueExchange_agrees opened _ _
  | some token =>
    simp only [beginExchange, numbered]
    split
    · exact agree_stay _ h
    · split
      · exact continueExchange_agrees opened _ _
      · exact agree_stay _ h

private theorem authenticate_agrees {policy : AuthPolicy} (impartial : policy.Impartial)
    (h : Echoes b c s) (name : String) (token : Option (List Char)) :
    Agree b (authenticate policy name token c) (authenticate policy name token s) := by
  have allowed : policy.allows s = policy.allows c := by
    funext factory
    rw [AuthPolicy.allows, AuthPolicy.allows, h.isTls]
  have found : AuthPolicy.find? policy s name = AuthPolicy.find? policy c name := by
    rw [AuthPolicy.find?, AuthPolicy.find?, allowed]
  rw [authenticate, authenticate, found]
  split
  · rename_i factory chosen
    have known := (Option.filter_eq_some_iff.mp chosen).1
    exact beginExchange_agrees h (impartial factory (List.mem_of_find?_eq_some known)) token
  · exact agree_stay _ (h.log _ _ _ _)

private theorem auth_agrees {policy : AuthPolicy} (impartial : policy.Impartial)
    {text : Option String} (h : Echoes b c s) :
    Agree b ((auth policy).handle site c text) ((auth policy).handle site s text) := by
  apply agree_handle h
  · simp only [auth, h.state, h.hasProperty]
  · simp only [auth]
    split
    · exact authenticate_agrees impartial h _ _
    · exact authenticate_agrees impartial h _ _
    · exact agree_stay _ h

private theorem takeResponse_agrees (h : Echoes b c s) (e : Exchange) :
    Agree b (takeResponse e line c) (takeResponse (b.onto.onExchange e) line s) := by
  simp only [takeResponse]
  split
  · exact agree_goTo _ _ (((h.log _ _ _ _).disposeMechanism e).uninstall .responses)
  · split
    · exact continueExchange_agrees h _ _
    · exact agree_stay _ (((h.log _ _ _ _).disposeMechanism e).uninstall .responses)

private theorem serves_agrees {features : List Feature} {verb : String} {handler : Handler κ}
    {text : Option String} (impartial : Impartial site.newMail)
    (policies : ∀ policy, Feature.policy? features = some policy → policy.Impartial)
    (offers : site.offers = (features.map Feature.extension).map (·.toOffer)) (h : Echoes b c s)
    (idle : c.properties.get? Key.exchange.name = none)
    (serves : Server.Serves features verb handler) :
    Agree b (handler.handle site c text) (handler.handle site s text) := by
  cases serves with
  | helo => exact greetingBy_agrees h fun _ _ => rfl
  | ehlo =>
    apply greetingBy_agrees h
    intro c s domain h
    simp only [offered_of_echoes h offers]
  | mail => exact mail_agrees impartial h idle
  | rcpt => exact rcpt_agrees h
  | data => exact data_agrees h
  | rset => exact rset_agrees h
  | noop | vrfy | help => exact fixed_agrees h
  | quit => exact quit_agrees h
  | startTls => exact startTls_agrees h
  | auth offered => exact auth_agrees (policies _ offered) h

namespace Server

variable {config : Config} {newMail : Session κ → MailBehaviour} {custom : κ → Hook κ}
  {features : List Feature}

/-- A session that echoes another answers a line like it, and echoes it afterwards. -/
theorem consume_agrees (impartial : Impartial newMail)
    (policies : ∀ policy, Feature.policy? features = some policy → policy.Impartial)
    (sound : c.Fits c.state) (h : Echoes b c s) (terminated : line.isTerminated = true) :
    ((ofFeatures config newMail custom features).consume s line).1 =
        ((ofFeatures config newMail custom features).consume c line).1 ∧
      Echoes b ((ofFeatures config newMail custom features).consume c line).2
        ((ofFeatures config newMail custom features).consume s line).2 := by
  have fits := h.fits sound
  by_cases receiving : c.state = .readingData
  · rw [consume_of_receiving fits (h.state.trans receiving), consume_of_receiving sound receiving]
    exact (content_agrees h config).conclude line
  · cases found : c.properties.get? Key.exchange.name with
    | some v =>
      obtain ⟨⟨e, rfl⟩, -⟩ := sound.exchange v found
      have pending := h.get?_exchange
      rw [found] at pending
      rw [consume_of_pending fits pending, consume_of_pending sound found]
      exact (takeResponse_agrees (h.clearProperty .exchange) e).conclude line
    | none =>
      have idle : s.properties.get? Key.exchange.name = none := by
        rw [h.get?_exchange, found]
        rfl
      rw [consume_of_idle fits (h.state ▸ receiving) idle, consume_of_idle sound receiving found]
      apply Agree.conclude
      rw [Dispatch.consume, Dispatch.consume, if_pos terminated, if_pos terminated]
      split
      · rename_i handler served
        refine serves_agrees ?_ policies ?_ h found
          (serves_of_get? config newMail custom features served)
        · rw [ofFeatures_eq]
          exact impartial
        · rw [ofFeatures_eq]
          rfl
      · exact ⟨rfl, h⟩

theorem answerTooLong_agrees (h : Echoes b c s) (limit : Nat) :
    (answerTooLong limit s).1 = (answerTooLong limit c).1 ∧
      Echoes b (answerTooLong limit c).2 (answerTooLong limit s).2 := by
  have warned := h.log .warn .warn (Fault.lineTooLong limit).message
    (Fault.lineTooLong limit).message
  have state : (s.logWarn (Fault.lineTooLong limit).message).state =
      (c.logWarn (Fault.lineTooLong limit).message).state := h.state
  simp only [answerTooLong, state]
  split
  · exact ⟨rfl, warned.failTransfer _⟩
  · exact ⟨rfl, warned⟩

end Server

end SmtpDialog
