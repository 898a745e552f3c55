/- digest: What each handler logs, and that it is clean where the collaborators are. -/
import SmtpDialog.Proofs.Answers
import SmtpDialog.Proofs.Legible

set_option autoImplicit false
set_option relaxedAutoImplicit false

namespace SmtpDialog

open Command

variable {κ : Type}

/-- What was done about an event leaves clean records, and clean texts for those that follow. -/
structure Outcome.Notes (peer : String) (s : Session κ) (done : Outcome κ) : Prop where
  next : ∀ a next, done.1 = .ok (.handled a) → a.next = some next → Text.IsClean next.name
  fault : ∀ fault, done.1 = .error fault → Text.IsClean fault.message
  session : s.Notes peer done.2

namespace Outcome

variable {peer : String} {s t : Session κ}

theorem notes_declined (h : s.Notes peer t) : Outcome.Notes peer s (.ok .declined, t) where
  next := by
    rintro _ _ ⟨⟩
  fault := by
    rintro _ ⟨⟩
  session := h

theorem notes_stay (reply : Reply) (h : s.Notes peer t) :
    Outcome.Notes peer s (Outcome.stay reply t) where
  next a next handled moves := by
    obtain rfl := Verdict.handled.inj (Except.ok.inj handled)
    contradiction
  fault := nofun
  session := h

theorem notes_goTo (next : State) (clean : Text.IsClean next.name) (reply : Reply)
    (h : s.Notes peer t) : Outcome.Notes peer s (Outcome.goTo next reply t) where
  next a other handled moves := by
    obtain rfl := Verdict.handled.inj (Except.ok.inj handled)
    obtain rfl := Option.some.inj moves
    exact clean
  fault := nofun
  session := h

theorem notes_error {fault : Fault} (clean : Text.IsClean fault.message) (h : s.Notes peer t) :
    Outcome.Notes peer s (.error fault, t) where
  next := nofun
  fault := by
    rintro _ ⟨⟩
    exact clean
  session := h

theorem Notes.conclude {done : Outcome κ} (notes : done.Notes peer s) (line : Line) :
    (∀ fault, (done.conclude line).1 = .error fault → Text.IsClean fault.message) ∧
      s.Notes peer (done.conclude line).2 := by
  obtain ⟨verdict, t⟩ := done
  obtain ⟨moves, failed, h⟩ := notes
  match verdict with
  | .error fault =>
    refine ⟨?_, h⟩
    rintro _ ⟨⟩
    exact failed fault rfl
  | .ok .declined =>
    refine ⟨nofun, h.andThen fun legible => (Session.Steady.refl legible).log ?_ .warn⟩
    exact (Text.IsClean.literal rfl).append (.quoted _)
  | .ok (.handled ⟨reply, none⟩) => exact ⟨nofun, h⟩
  | .ok (.handled ⟨reply, some next⟩) =>
    exact ⟨nofun, h.andThen fun legible =>
      (Session.Steady.refl legible).moveTo (moves _ next rfl rfl)⟩

end Outcome

open Outcome Session

variable {peer : String} {s t : Session κ} {site : Site κ} {text : Option String}

private theorem notes_handle {handler : Handler κ} (legible : s.Legible peer)
    (run : handler.validFor s = true → Outcome.Notes peer s (handler.run site s text)) :
    Outcome.Notes peer s (handler.handle site s text) := by
  rw [Handler.handle]
  split
  · rename_i valid
    exact run valid
  · exact notes_stay _ (.steady (.refl legible))

private theorem acceptDomain_notes (legible : s.Legible peer) {command : String}
    (clean : Text.IsClean command) (domain : String) :
    s.Notes peer (acceptDomain command domain s) := by
  have aborts : Text.IsClean (command ++ " aborts mail transaction") := clean.append (.literal rfl)
  have closed := ((Steady.refl legible).logInfoIf aborts s.hasMail).closeMail
  have renamed := closed.rename (closed.legible.logPrefix.setHelo domain)
  refine .renamed closed _ ((renamed.setProperty .heloDomain (.text domain) (by decide)).log ?_ .info)
  exact (Text.IsClean.literal rfl).append clean

private theorem greetingBy_notes {command : String} (clean : Text.IsClean command)
    {answer : Site κ → Session κ → String → Reply} (legible : s.Legible peer) :
    Outcome.Notes peer s ((greetingBy command answer).handle site s text) := by
  apply notes_handle legible
  intro _
  simp only [greetingBy]
  split
  · exact notes_stay _ (.steady (.refl legible))
  · exact notes_goTo .afterEhlo (.literal rfl) _ (acceptDomain_notes legible clean _)

private theorem fixed_notes {reply : Reply} (legible : s.Legible peer) :
    Outcome.Notes peer s ((fixed reply).handle site s text) :=
  notes_handle legible fun _ => notes_stay _ (.steady (.refl legible))

private theorem quit_notes (legible : s.Legible peer) :
    Outcome.Notes peer s (quit.handle site s text) :=
  notes_handle legible fun _ => notes_goTo .endingSession (.literal rfl) _
    (.steady ((Steady.refl legible).log (.literal rfl) .info).closeMail)

private theorem rset_notes (legible : s.Legible peer) :
    Outcome.Notes peer s (rset.handle site s text) := by
  apply notes_handle legible
  intro _
  refine notes_goTo _ ?_ _ (.steady ((Steady.refl legible).logInfoIf (.literal rfl) _).closeMail)
  split <;> exact .literal rfl

private theorem startTls_notes (legible : s.Legible peer) :
    Outcome.Notes peer s (startTls.handle site s text) := by
  have still : s.Steady peer s := .refl legible
  apply notes_handle legible
  intro _
  simp only [startTls]
  split
  · exact notes_stay _ (.steady still)
  · split
    · exact notes_stay _ (.steady (still.log (.literal rfl) .warn))
    · split
      · exact notes_stay _ (.steady still)
      · exact notes_stay _ (.steady (still.log (.literal rfl) .info))

private theorem beginTransaction_notes (mails : ∀ s, (site.newMail s).Legible)
    (legible : s.Legible peer) (sender : Grammar.PathArguments) :
    Outcome.Notes peer s (beginTransaction site sender s) := by
  have cleared := (Steady.refl legible).closeMail.clearProperty .recipientCount
  simp only [beginTransaction, Session.openMail, Session.callOn, MailObject.call]
  generalize s.closeMail.clearProperty .recipientCount = u at cleared ⊢
  have answered := mails u {} (.mailFrom sender.path sender.parameters)
  have opened : s.Steady peer ({ u.record (.mailOpened u.mailsOpened u.peerName) with
      mailsOpened := u.mailsOpened + 1 }) :=
    (cleared.record rfl).same rfl rfl rfl rfl rfl
  generalize site.newMail u {} (.mailFrom sender.path sender.parameters) = answer at answered ⊢
  cases answer with
  | error fault => exact notes_error answered (.steady ((opened.record rfl).record rfl))
  | ok reply =>
    have asked : (Event.mailCalled u.mailsOpened (.mailFrom sender.path sender.parameters)
      (.ok reply)).isLog = false := rfl
    have called := opened.record asked
    dsimp only
    split
    · refine notes_goTo .afterMail (.literal rfl) _ (.steady (Steady.log ?_ (.literal rfl) .info))
      exact called.adoptMail (mails u)
    · have rejected : Text.IsClean
          ("Sender " ++ Text.quoted sender.path ++ " rejected: " ++ reply.text) :=
        (((Text.IsClean.literal rfl).append (.quoted _)).append (.literal rfl)).append answered
      exact notes_stay _ (.steady ((called.log rejected .warn).record rfl))

private theorem mail_notes (mails : ∀ s, (site.newMail s).Legible) (legible : s.Legible peer) :
    Outcome.Notes peer s (mail.handle site s text) := by
  have still : s.Steady peer s := .refl legible
  apply notes_handle legible
  intro _
  simp only [Command.mail]
  split
  · exact notes_stay _ (.steady still)
  · split
    · exact notes_stay _ (.steady still)
    · exact beginTransaction_notes mails legible _

private theorem addRecipient_notes (legible : s.Legible peer)
    (recipient : Grammar.PathArguments) :
    Outcome.Notes peer s (addRecipient recipient s) := by
  obtain ⟨clean, called⟩ := (Steady.refl legible).callMail
    (.rcptTo recipient.path recipient.parameters)
  simp only [addRecipient]
  generalize s.callMail (.rcptTo recipient.path recipient.parameters) = told at clean called ⊢
  obtain ⟨answer, t⟩ := told
  rcases answer with _ | fault | reply
  · exact notes_goTo .afterEhlo (.literal rfl) _ (.steady (called.log (.literal rfl) .error))
  · exact notes_error (clean _ rfl) (.steady called)
  · dsimp only
    split
    · exact notes_goTo .afterRcpt (.literal rfl) _
        (.steady (called.setProperty .recipientCount _ (by decide)))
    · have answered : Text.IsClean reply.text := clean _ rfl
      have rejected : Text.IsClean
          ("Recipient " ++ Text.quoted recipient.path ++ " rejected: " ++ reply.text) :=
        (((Text.IsClean.literal rfl).append (.quoted _)).append (.literal rfl)).append answered
      exact notes_stay _ (.steady (called.log rejected .warn))

private theorem rcpt_notes (legible : s.Legible peer) :
    Outcome.Notes peer s (rcpt.handle site s text) := by
  have still : s.Steady peer s := .refl legible
  apply notes_handle legible
  intro _
  simp only [rcpt]
  split
  · exact notes_stay _ (.steady still)
  · split
    · exact notes_stay _ (.steady still)
    · exact addRecipient_notes legible _

private theorem isCleanAnswer_getD {answer : Option (Except Fault Reply)} {cs : List Char}
    (clean : ∀ given ∈ answer, IsCleanAnswer given) (each : cs.all (!Text.isControl ·) = true) :
    IsCleanAnswer (answer.getD (.error (.mail (String.ofList cs)))) := by
  cases answer with
  | none => exact (Text.IsClean.literal rfl).append (.literal each)
  | some given => exact clean given rfl

private theorem data_notes (legible : s.Legible peer) :
    Outcome.Notes peer s (data.handle site s text) := by
  have still : s.Steady peer s := .refl legible
  apply notes_handle legible
  intro _
  simp only [data]
  split
  · have begun := ((still.clearProperty .contentFault).setProperty .contentSize (.word 0)
      (by decide)).install .content .content
    obtain ⟨clean, called⟩ := begun.callMail .prepare
    simp only [beginContent]
    generalize Session.callMail .prepare _ = told at clean called ⊢
    obtain ⟨answer, t⟩ := told
    have answered : IsCleanAnswer (answer.getD (.error (.mail "No mail object at DATA"))) :=
      isCleanAnswer_getD clean rfl
    dsimp only
    generalize answer.getD _ = given at answered ⊢
    cases given with
    | error fault =>
      have failed : Text.IsClean ("Failed to prepare for data: " ++ fault.message) :=
        (Text.IsClean.literal rfl).append answered
      exact notes_goTo .afterEhlo (.literal rfl) _ (.steady
        (((called.log failed .warn).uninstall .content).clearProperty .contentSize).closeMail)
    | ok reply =>
      exact notes_goTo .readingData (.literal rfl) _ (.steady (called.log (.literal rfl) .info))
  · exact notes_stay _ (.steady still)

private theorem tooLarge_clean (config : Config) : Text.IsClean (tooLarge config).text :=
  ((Text.IsClean.literal rfl).append (.toString config.maxMessageSize)).append (.literal rfl)

private theorem countContent_steady (legible : s.Legible peer) (length : Nat) :
    s.Steady peer (countContent length s).2 := by
  simp only [countContent, Properties.addWord]
  split
  · exact (Steady.refl legible).setProperty .contentSize (.word _) (by decide)
  · exact .refl legible

private theorem writeContent_steady (config : Config) (legible : s.Legible peer)
    (content : Bytes) : s.Steady peer (writeContent config content s) := by
  have counted := countContent_steady legible content.length
  simp only [writeContent]
  split
  · have exceeds : Text.IsClean s!"Message exceeds maximum size of {config.maxMessageSize} bytes" :=
      ((Text.IsClean.literal rfl).append (.toString config.maxMessageSize)).append (.literal rfl)
    exact (counted.log exceeds .warn).failTransfer (tooLarge_clean config)
  · obtain ⟨clean, called⟩ := counted.callMail (.writeLine content)
    generalize Session.callMail (.writeLine content) _ = told at clean called ⊢
    obtain ⟨answer, t⟩ := told
    have answered : IsCleanAnswer (answer.getD (.error (.mail "No mail object during DATA"))) :=
      isCleanAnswer_getD clean rfl
    dsimp only
    generalize answer.getD _ = given at answered ⊢
    cases given with
    | ok reply => exact called
    | error fault =>
      have failed : Text.IsClean ("Failed to write message data: " ++ fault.message) :=
        (Text.IsClean.literal rfl).append answered
      exact (called.log failed .warn).failTransfer (.literal rfl)

private theorem endContent_notes (legible : s.Legible peer) :
    Outcome.Notes peer s (endContent s) := by
  have ended := ((Steady.refl legible).uninstall .content).clearProperty .contentSize
  have cleared := ended.clearProperty .contentFault
  simp only [endContent]
  split
  · rename_i reply failed
    have clean : Text.IsClean ("Completed data transfer unsuccessfully: " ++ reply.text) :=
      (Text.IsClean.literal rfl).append (ended.legible.fault reply failed)
    exact notes_goTo .afterEhlo (.literal rfl) _ (.steady (cleared.log clean .info).closeMail)
  · obtain ⟨clean, completed⟩ := cleared.completeMail
    generalize Session.completeMail
      (((s.uninstall .content).clearProperty .contentSize).clearProperty .contentFault) = told
      at clean completed ⊢
    obtain ⟨answer, t⟩ := told
    cases answer with
    | ok reply =>
      have received (size : UInt64) : Text.IsClean s!"Completed data transfer of {size.toNat} bytes" :=
        ((Text.IsClean.literal rfl).append (.toString size.toNat)).append (.literal rfl)
      exact notes_goTo .afterEhlo (.literal rfl) _ (.steady (completed.log (received _) .info))
    | error fault =>
      have failed : Text.IsClean ("Failed to complete message: " ++ fault.message) :=
        (Text.IsClean.literal rfl).append clean
      exact notes_goTo .afterEhlo (.literal rfl) _ (.steady (completed.log failed .error))

private theorem content_notes (config : Config) (legible : s.Legible peer) (line : Line) :
    Outcome.Notes peer s
      (if line.content = [46] then endContent s
        else Outcome.stay .silent (if s.hasProperty .contentFault then s
          else writeContent config (unstuffed line.bytes) s)) := by
  split
  · exact endContent_notes legible
  · split
    · exact notes_stay _ (.steady (.refl legible))
    · exact notes_stay _ (.steady (writeContent_steady config legible _))

private theorem finishExchange_notes {e : Exchange} (h : s.Steady peer t)
    (clean : Text.IsClean e.mechanism.name) (reaction : Reaction) :
    Outcome.Notes peer s (finishExchange e reaction t) := by
  have disposed : s.Steady peer (t.disposeMechanism e) := h.record rfl
  simp only [finishExchange]
  split
  · rename_i identity found
    have renamed := disposed.rename (disposed.legible.logPrefix.setUser identity)
    have succeeded : Text.IsClean ("Authenticated with " ++ e.mechanism.name) :=
      (Text.IsClean.literal rfl).append clean
    have known := (renamed.log succeeded .info).setProperty .identity (.text identity) (by decide)
    refine notes_goTo .afterEhlo (.literal rfl) _
      (.renamed disposed ((t.disposeMechanism e).logPrefix.setUser identity) ?_)
    split
    · exact known.setProperty .authcid _ (by decide)
    · exact known
  · have denied : Text.IsClean ("Authentication with " ++ e.mechanism.name ++ " failed") :=
      ((Text.IsClean.literal rfl).append clean).append (.literal rfl)
    exact notes_stay _ (.steady (disposed.log denied .warn))

private theorem continueExchange_notes {e : Exchange} (h : s.Steady peer t)
    (legible : e.mechanism.Legible) (response : Bytes) :
    Outcome.Notes peer s (continueExchange e response t) := by
  have heard : s.Steady peer (t.record (.mechanismHeard e.serial response (e.reaction response))) :=
    h.record rfl
  rw [continueExchange_eq]
  dsimp only
  split
  · rename_i fault failed
    have broken : Text.IsClean
        ("AUTH " ++ (e.after response).mechanism.name ++ " failed: " ++ fault.message) :=
      (((Text.IsClean.literal rfl).append legible.name).append (.literal rfl)).append
        (legible.faults _ fault failed)
    have disposed : s.Steady peer (Session.disposeMechanism (e.after response) _) :=
      (heard.log broken .error).record rfl
    exact notes_stay _ (.steady (disposed.uninstall .responses))
  · split
    · exact finishExchange_notes (heard.uninstall .responses) legible.name _
    · have after : (e.after response).mechanism.Legible := ⟨legible.name, legible.faults⟩
      exact notes_stay _ (.steady ((heard.setExchange after).install .responses .responses))

private theorem authenticate_notes {policy : AuthPolicy}
    (mechanisms : ∀ factory ∈ policy.registry.factories, factory.Legible)
    (legible : s.Legible peer) (name : String) (token : Option (List Char)) :
    Outcome.Notes peer s (authenticate policy name token s) := by
  have still : s.Steady peer s := .refl legible
  simp only [authenticate]
  split
  · rename_i factory found
    have known : factory ∈ policy.registry.factories :=
      List.mem_of_find?_eq_some (Option.filter_eq_some_iff.mp found).1
    have made : (openExchange factory s).1.mechanism.Legible := (mechanisms factory known).create _
    have asked : (Event.mechanismOpened s.exchangesOpened (factory.create s.journal).name
      factory.sendsPlaintext).isLog = false := rfl
    have opened : s.Steady peer (openExchange factory s).2 :=
      (still.record asked).same rfl rfl rfl rfl rfl
    simp only [beginExchange]
    split
    · exact continueExchange_notes opened made []
    · split
      · exact notes_stay _ (.steady still)
      · split
        · exact continueExchange_notes opened made _
        · exact notes_stay _ (.steady still)
  · have unsupported : Text.IsClean ("Rejected attempt to auth with method " ++ Text.quoted name) :=
      (Text.IsClean.literal rfl).append (.quoted name)
    exact notes_stay _ (.steady (still.log unsupported .warn))

private theorem auth_notes {policy : AuthPolicy}
    (mechanisms : ∀ factory ∈ policy.registry.factories, factory.Legible)
    (legible : s.Legible peer) : Outcome.Notes peer s ((auth policy).handle site s text) := by
  apply notes_handle legible
  intro _
  simp only [auth]
  split
  · exact authenticate_notes mechanisms legible _ _
  · exact authenticate_notes mechanisms legible _ _
  · exact notes_stay _ (.steady (.refl legible))

private theorem takeResponse_notes {e : Exchange} (h : s.Steady peer t)
    (legible : e.mechanism.Legible) (line : Line) :
    Outcome.Notes peer s (takeResponse e line t) := by
  simp only [takeResponse]
  split
  · have aborted : s.Steady peer (t.logInfo "Client aborted AUTH") := h.log (.literal rfl) .info
    have disposed : s.Steady peer (Session.disposeMechanism e _) := aborted.record rfl
    exact notes_goTo .afterEhlo (.literal rfl) _ (.steady (disposed.uninstall .responses))
  · split
    · exact continueExchange_notes h legible _
    · rename_i flaw _
      have bad : Text.IsClean ("Bad base64 in AUTH response: " ++ flaw.message) :=
        (Text.IsClean.literal rfl).append flaw.isClean_message
      have disposed : s.Steady peer (Session.disposeMechanism e _) := (h.log bad .warn).record rfl
      exact notes_stay _ (.steady (disposed.uninstall .responses))

/-- All collaborators of a server with the given features are legible. -/
structure Feature.Legible (newMail : Session κ → MailBehaviour) (features : List Feature) :
    Prop where
  mail : ∀ s, (newMail s).Legible
  mechanisms : ∀ policy, .auth policy ∈ features → ∀ factory ∈ policy.registry.factories,
    factory.Legible

private theorem serves_notes {features : List Feature} {verb : String} {handler : Handler κ}
    (collaborators : Feature.Legible site.newMail features) (legible : s.Legible peer)
    (serves : Server.Serves features verb handler) :
    Outcome.Notes peer s (handler.handle site s text) := by
  cases serves with
  | helo | ehlo => exact greetingBy_notes (.literal rfl) legible
  | mail => exact mail_notes collaborators.mail legible
  | rcpt => exact rcpt_notes legible
  | data => exact data_notes legible
  | rset => exact rset_notes legible
  | noop | vrfy | help => exact fixed_notes legible
  | quit => exact quit_notes legible
  | startTls => exact startTls_notes legible
  | auth offered =>
    exact auth_notes (collaborators.mechanisms _ (Feature.mem_of_policy? offered)) legible

namespace Server

variable {config : Config} {newMail : Session κ → MailBehaviour} {custom : κ → Hook κ}
  {features : List Feature}

private theorem dispatch_notes (collaborators : Feature.Legible newMail features)
    (legible : s.Legible peer) (line : Line) :
    let server := ofFeatures config newMail custom features
    Outcome.Notes peer s (server.dispatch.consume server.site s line) := by
  intro server
  have site : Feature.Legible server.site.newMail features := by
    simpa only [server, ofFeatures_eq, Server.site] using collaborators
  rw [Dispatch.consume]
  split
  · split
    · rename_i handler served
      exact serves_notes site legible (serves_of_get? config newMail custom features served)
    · exact notes_declined (.steady (.refl legible))
  · have unterminated : Text.IsClean (Fault.unterminated line).message :=
      (Text.IsClean.literal rfl).append line.isClean_describe
    exact notes_error unterminated (.steady (.refl legible))

/-- What a line makes a session log is clean, and so is the text of a fault. -/
theorem consume_notes (collaborators : Feature.Legible newMail features) (fits : s.Fits s.state)
    (legible : s.Legible peer) (line : Line) :
    let done := (ofFeatures config newMail custom features).consume s line
    (∀ fault, done.1 = .error fault → Text.IsClean fault.message) ∧ s.Notes peer done.2 := by
  intro done
  by_cases receiving : s.state = .readingData
  · simp only [done, consume_of_receiving fits receiving]
    exact (content_notes config legible line).conclude line
  · cases found : s.properties.get? Key.exchange.name with
    | some v =>
      obtain ⟨⟨e, rfl⟩, -⟩ := fits.exchange v found
      have held : e ∈ s.read? Value.exchange? .exchange := by
        simp [Session.read?, Properties.read?, found, Value.exchange?]
      simp only [done, consume_of_pending fits found]
      exact (takeResponse_notes ((Steady.refl legible).clearProperty .exchange)
        (legible.exchange e held) line).conclude line
    | none =>
      simp only [done, consume_of_idle fits receiving found]
      exact (dispatch_notes collaborators legible line).conclude line
end Server

end SmtpDialog
