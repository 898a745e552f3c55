/- digest: Every line has one of the listed effects. -/
import SmtpDialog.Proofs.Step

set_option autoImplicit false
set_option relaxedAutoImplicit false

namespace SmtpDialog

open Command

variable {κ : Type}

/-- What becomes of a line once a consumer has dealt with it. -/
def Outcome.conclude (line : Line) (done : Outcome κ) : Except Fault Reply × Session κ :=
  match done with
  | (.error fault, s) => (.error fault, s)
  | (.ok (.handled t), s) => Server.settle t s
  | (.ok .declined, s) =>
    (.ok .unrecognised, s.logWarn ("Unrecognised command " ++ Text.quoted
      (String.ofList (line.verb.toList.take Server.maxVerbShown))))

/-- What a consumer has done is among the effects of a line. -/
def Outcome.Shows (config : Config) (features : List Feature) (line : Line) (s : Session κ)
    (done : Outcome κ) : Prop :=
  Effect config features line s (done.conclude line).1 (done.conclude line).2.unlogged

section

variable {config : Config} {features : List Feature} {line : Line} {s : Session κ}

private theorem shows_stay {reply : Reply} {t : Session κ}
    (h : Effect config features line s (.ok reply) t.unlogged) :
    Outcome.Shows config features line s (Outcome.stay reply t) := h

private theorem shows_goTo {next : State} {reply : Reply} {t : Session κ}
    (h : Effect config features line s (.ok reply) { t.unlogged with state := next }) :
    Outcome.Shows config features line s (Outcome.goTo next reply t) := by
  simpa [Outcome.Shows, Outcome.goTo, Outcome.conclude, Server.settle] using h

private theorem shows_error {fault : Fault} {t : Session κ}
    (h : Effect config features line s (.error fault) t.unlogged) :
    Outcome.Shows config features line s (.error fault, t) := h

private theorem shows_answered {reply : Reply} {t : Session κ} (same : t.unlogged = s.unlogged)
    (quiet : s.state ≠ .readingData) (idle : s.properties.get? Key.exchange.name = none)
    (code : reply.code? ≠ some Code.ok.number) (plain : reply.isStartTls = false)
    (other : reply.endsExchange = false) (apart : reply.favours = false) :
    Outcome.Shows config features line s (Outcome.stay reply t) := by
  apply shows_stay
  rw [same]
  exact .answered (fun _ => code) (by simp [plain]) other quiet idle apart

private theorem code?_syntaxError (text : String) :
    (Reply.syntaxError text).code? ≠ some Code.ok.number := by
  simp [Reply.syntaxError, Reply.of, Reply.code?, Code.number]

private theorem shows_handle {handler : Handler κ} {site : Site κ} {text : Option String}
    (quiet : s.state ≠ .readingData) (idle : s.properties.get? Key.exchange.name = none)
    (h : handler.validFor s = true →
      Outcome.Shows config features line s (handler.run site s text)) :
    Outcome.Shows config features line s (handler.handle site s text) := by
  unfold Handler.handle
  split
  · rename_i valid
    exact h valid
  · exact shows_answered rfl quiet idle (by decide) rfl rfl rfl

private theorem unlogged_acceptDomain (command domain : String) (s : Session κ) :
    (acceptDomain command domain s).unlogged =
      { s.unlogged.closeMail with
        logPrefix := s.logPrefix.setHelo domain
        properties := s.properties.insert Key.heloDomain.name (.text domain) } := by
  cases hs : s.hasMail <;> cases hm : s.mail <;>
    simp [acceptDomain, Session.logInfoIf, Session.closeMail, Session.disposeMail,
      Session.unlogged, Session.record, Session.log, Session.logInfo, Session.setProperty,
      Event.isLog, hs, hm]

private theorem greetingBy_shows {command : String}
    {answer : Site κ → Session κ → String → Reply} {site : Site κ}
    (code : ∀ t domain, (answer site t domain).code? = some Code.ok.number)
    (plain : ∀ t domain, (answer site t domain).isStartTls = false)
    (quiet : s.state ≠ .readingData) (idle : s.properties.get? Key.exchange.name = none)
    (verb : line.greets = true) :
    Outcome.Shows config features line s
      ((greetingBy command answer).handle site s (some line.text)) := by
  apply shows_handle quiet idle
  intro valid
  simp only [greetingBy, Option.bind_some, Function.comp_apply]
  split
  · exact shows_answered rfl quiet idle (code?_syntaxError _) rfl rfl rfl
  · rename_i domain named
    apply shows_goTo
    rw [unlogged_acceptDomain]
    exact .greeted verb valid named (code _ _) (plain _ _) idle

private theorem fixed_shows {reply : Reply} {site : Site κ} (quiet : s.state ≠ .readingData)
    (idle : s.properties.get? Key.exchange.name = none) (verb : line.greets = false)
    (plain : reply.isStartTls = false) (other : reply.endsExchange = false)
    (apart : reply.favours = false) :
    Outcome.Shows config features line s ((fixed reply).handle site s (some line.text)) := by
  apply shows_handle quiet idle
  intro _
  apply shows_stay
  exact .answered (by simp [verb]) (by simp [plain]) other quiet idle apart

private theorem quit_shows {site : Site κ} (quiet : s.state ≠ .readingData)
    (idle : s.properties.get? Key.exchange.name = none) (verb : Text.upper line.verb = "QUIT") :
    Outcome.Shows config features line s (quit.handle site s (some line.text)) := by
  apply shows_handle quiet idle
  intro _
  apply shows_goTo
  rw [Session.unlogged_closeMail, Session.unlogged_logInfo]
  exact .quit verb quiet idle

private theorem rset_shows {site : Site κ} (quiet : s.state ≠ .readingData)
    (idle : s.properties.get? Key.exchange.name = none) (verb : Text.upper line.verb = "RSET") :
    Outcome.Shows config features line s (rset.handle site s (some line.text)) := by
  apply shows_handle quiet idle
  intro valid
  have same : (s.logInfoIf s.hasMail "Mail transaction reset").closeMail.state = s.state := by
    cases hs : s.hasMail <;> cases hm : s.mail <;>
      simp [Session.logInfoIf, Session.closeMail, Session.disposeMail, Session.record,
        Session.log, Session.logInfo, hm]
  apply shows_goTo
  rw [same, Session.unlogged_closeMail, Session.unlogged_logInfoIf]
  exact .reset verb valid idle

private theorem startTls_shows {site : Site κ} (quiet : s.state ≠ .readingData)
    (idle : s.properties.get? Key.exchange.name = none) (verb : line.greets = false) :
    Outcome.Shows config features line s (startTls.handle site s (some line.text)) := by
  apply shows_handle quiet idle
  intro valid
  simp only [startTls]
  split
  · exact shows_answered rfl quiet idle (by decide) rfl rfl rfl
  · split
    · exact shows_answered (Session.unlogged_logWarn _ _) quiet idle (by decide) rfl rfl rfl
    · split
      · exact shows_answered rfl quiet idle (by decide) rfl rfl rfl
      · apply shows_stay
        rw [Session.unlogged_logInfo]
        exact .answered (by simp [verb]) (fun _ => valid) rfl quiet idle rfl

private theorem mail_shows {site : Site κ} (fits : s.Fits s.state)
    (quiet : s.state ≠ .readingData) (idle : s.properties.get? Key.exchange.name = none)
    (verb : Text.upper line.verb = "MAIL") :
    Outcome.Shows config features line s (mail.handle site s (some line.text)) := by
  apply shows_handle quiet idle
  intro valid
  have greeted : s.state = .afterEhlo := by simpa [mail] using valid
  have empty : s.mail = none := fits.mail_of_between (by rw [greeted]; rfl)
  simp only [mail]
  split
  · exact shows_answered rfl quiet idle (code?_syntaxError _) rfl rfl rfl
  · rename_i sender _
    split
    · have code : (tooLarge site.config).code? ≠ some Code.ok.number := by
        simp [tooLarge, Reply.of, Reply.code?, Code.number]
      exact shows_answered rfl quiet idle code rfl rfl rfl
    · simp only [beginTransaction, Session.closeMail_of_none empty, Session.openMail,
        Session.callOn, MailObject.call]
      generalize site.newMail (s.clearProperty .recipientCount) = behaviour
      cases asked : behaviour {} (.mailFrom sender.path sender.parameters) with
      | error fault => exact shows_error (.senderRefused verb greeted asked rfl idle)
      | ok reply =>
        simp only
        split
        · rename_i accepted
          apply shows_goTo
          simp only [Session.adoptMail]
          rw [Session.closeMail_of_none (by exact empty)]
          exact .senderAccepted verb greeted idle asked accepted
        · rename_i refused
          apply shows_stay
          exact .senderRefused verb greeted asked (by simpa [isAcceptance] using refused) idle

private theorem rcpt_shows {site : Site κ} (fits : s.Fits s.state)
    (quiet : s.state ≠ .readingData) (idle : s.properties.get? Key.exchange.name = none)
    (hconfig : site.config = config)
    (verb : Text.upper line.verb = "RCPT") :
    Outcome.Shows config features line s (rcpt.handle site s (some line.text)) := by
  apply shows_handle quiet idle
  intro valid
  obtain ⟨mail, holds⟩ := fits.exists_mail (State.holdsMail_of_inTransaction valid)
  simp only [rcpt]
  split
  · exact shows_answered rfl quiet idle (code?_syntaxError _) rfl rfl rfl
  · rename_i recipient _
    split
    · exact shows_answered rfl quiet idle (by decide) rfl rfl rfl
    · rename_i room
      rw [hconfig, Nat.not_le] at room
      simp only [addRecipient, Session.callMail_of_some holds]
      cases asked : (mail.call (.rcptTo recipient.path recipient.parameters)).1 with
      | error fault => exact shows_error (.recipientRefused verb valid holds asked rfl)
      | ok reply =>
        simp only
        split
        · rename_i accepted
          apply shows_goTo
          exact .recipientAccepted verb valid room holds asked accepted
        · rename_i refused
          apply shows_stay
          exact .recipientRefused verb valid holds asked (by simpa [isAcceptance] using refused)

private theorem data_shows {site : Site κ} (fits : s.Fits s.state)
    (quiet : s.state ≠ .readingData) (idle : s.properties.get? Key.exchange.name = none)
    (verb : Text.upper line.verb = "DATA") :
    Outcome.Shows config features line s (data.handle site s (some line.text)) := by
  apply shows_handle quiet idle
  intro valid
  have ready : s.state = .afterRcpt := by simpa [data] using valid
  obtain ⟨mail, holds⟩ := fits.exists_mail (by rw [ready]; rfl)
  simp only [data]
  split
  · simp only [beginContent]
    rw [Session.callMail_of_some (by exact holds)]
    cases asked : (mail.call .prepare).1 with
    | error fault =>
      apply shows_goTo
      refine (Effect.contentRefused verb ready holds asked).cast ?_
      have idle : s.consumers = ⟨[(Place.dispatch.name, .dispatch)]⟩ := by
        apply fits.consumers_of_idle
        · simp [ready]
        · exact fits.get?_exchange (by rw [ready]; rfl)
      simp [Session.unlogged, Session.closeMail, Session.clearProperty, Session.uninstall,
        Session.logWarn, Session.log, Session.record, Session.disposeMail, Session.install,
        Session.setProperty, Table.erase_insert, Event.isLog, idle, Chain.insert, Chain.erase,
        Place.name]
    | ok reply =>
      apply shows_goTo
      exact .contentBegun verb ready holds asked
  · exact shows_answered rfl quiet idle (code?_syntaxError _) rfl rfl rfl

private theorem failTransfer_of_sound {reply : Reply}
    (receiving : s.consumers = ⟨[(Place.content.name, .content), (Place.dispatch.name, .dispatch)]⟩)
    (sound : s.properties.get? Key.contentFault.name = none) :
    s.failTransfer reply = s.setProperty .contentFault (.reply reply) := by
  simp [Session.failTransfer, Chain.contains, receiving, Session.hasProperty, Table.contains,
    sound]

private theorem countContent_of_word {n : UInt64} (length : Nat)
    (size : s.properties.get? Key.contentSize.name = some (.word n)) :
    countContent length s = (n + UInt64.ofNat length,
      s.setProperty .contentSize (.word (n + UInt64.ofNat length))) := by
  simp [countContent, Properties.addWord, Properties.read?, size, Value.word?,
    Session.setProperty]

private theorem writeContent_receipt (fits : s.Fits s.state) (receiving : s.state = .readingData)
    (ongoing : line.endsContent = false)
    (sound : s.properties.get? Key.contentFault.name = none) :
    Receipt config line s (.ok .silent)
      (writeContent config (unstuffed line.bytes) s).unlogged := by
  obtain ⟨mail, holds⟩ := fits.exists_mail (by rw [receiving]; rfl)
  obtain ⟨n, size⟩ := fits.size receiving
  have chain := fits.consumers_of_readingData receiving
  have sound' (v : Value) :
      (s.properties.insert Key.contentSize.name v).get? Key.contentFault.name = none := by
    simpa [Session.get?_insert] using sound
  simp only [writeContent, countContent_of_word _ size]
  split
  · rename_i excess
    rw [failTransfer_of_sound (by exact chain) (by exact sound' _)]
    exact .overflowed ongoing sound size excess
  · rename_i within
    rw [Session.callMail_of_some (by exact holds)]
    cases asked : (mail.call (.writeLine (unstuffed line.bytes))).1 with
    | ok reply => exact .written ongoing sound size within holds asked
    | error fault =>
      simp only [Option.getD_some]
      rw [failTransfer_of_sound (by exact chain) (by exact sound' _)]
      exact .broken ongoing sound size within holds asked

private theorem receipt_goTo {next : State} {reply : Reply} {t : Session κ}
    (h : Receipt config line s (.ok reply) { t.unlogged with state := next }) :
    Receipt config line s (Outcome.conclude line (Outcome.goTo next reply t)).1
      (Outcome.conclude line (Outcome.goTo next reply t)).2.unlogged := by
  simpa [Outcome.goTo, Outcome.conclude, Server.settle] using h

private theorem endContent_receipt (fits : s.Fits s.state) (receiving : s.state = .readingData)
    (dot : line.endsContent = true) :
    Receipt config line s (Outcome.conclude line (endContent s)).1
      (Outcome.conclude line (endContent s)).2.unlogged := by
  obtain ⟨mail, holds⟩ := fits.exists_mail (by rw [receiving]; rfl)
  have failure : ((s.uninstall .content).clearProperty .contentSize).read? Value.reply?
      .contentFault = (s.properties.get? Key.contentFault.name).bind Value.reply? := by
    simp [Session.read?, Properties.read?, Session.clearProperty, Session.uninstall,
      Session.get?_erase]
  simp only [endContent, failure]
  cases found : s.properties.get? Key.contentFault.name with
  | some v =>
    obtain ⟨⟨reply, rfl⟩, -⟩ := fits.fault v found
    apply receipt_goTo
    refine (Receipt.abandoned dot found holds).cast ?_
    simp [Session.unlogged, Session.closeMail, Session.disposeMail, Session.record,
      Session.clearProperty, Session.uninstall, Session.logInfo, Session.log, holds, Event.isLog]
  | none =>
    simp only [Session.completeMail, Session.uninstall, Session.clearProperty, holds,
      Session.callOn]
    cases asked : (mail.call .complete).1 with
    | ok reply =>
      apply receipt_goTo
      exact .completed dot found holds asked
    | error fault =>
      apply receipt_goTo
      exact .completed dot found holds asked

private theorem content_receipt (fits : s.Fits s.state) (receiving : s.state = .readingData) :
    let done := Outcome.conclude line (if line.content = [46] then endContent s
      else Outcome.stay .silent
        (if s.hasProperty .contentFault then s
        else writeContent config (unstuffed line.bytes) s))
    Receipt config line s done.1 done.2.unlogged := by
  dsimp only
  split
  · rename_i dot
    exact endContent_receipt fits receiving (by simp [Line.endsContent, dot])
  · rename_i content
    have ongoing : line.endsContent = false := by simp [Line.endsContent, content]
    split
    · rename_i failed
      exact .dropped ongoing failed
    · rename_i sound
      exact writeContent_receipt fits receiving ongoing
        (by simpa [Session.hasProperty, Table.contains] using sound)

theorem continueExchange_eq (e : Exchange) (response : Bytes) (t : Session κ) :
    continueExchange e response t =
      let next := t.record (.mechanismHeard e.serial response (e.reaction response))
      match (e.reaction response).challenge with
      | .error fault =>
        Outcome.stay .serverError
          (((next.logError ("AUTH " ++ (e.after response).mechanism.name ++ " failed: " ++
            fault.message)).disposeMechanism (e.after response)).uninstall .responses)
      | .ok challenge =>
        if (e.reaction response).complete then
          finishExchange (e.after response) (e.reaction response) (next.uninstall .responses)
        else
          Outcome.stay (challengeReply challenge)
            ((next.setProperty .exchange (.exchange (e.after response))).install .responses
              .responses) := rfl

/-- What a mechanism does on a response decides what becomes of the exchange. -/
theorem continueExchange_continued (e : Exchange) (response : Bytes) (u : Session κ)
    (line : Line) :
    let done := Outcome.conclude line (continueExchange e response u)
    ∃ reply, done.1 = .ok reply ∧ Continued e response u reply done.2.unlogged := by
  rw [continueExchange_eq]
  dsimp only
  split
  · rename_i fault broke
    exact ⟨_, rfl, .failed broke⟩
  · rename_i challenge wants
    split
    · rename_i finished
      simp only [finishExchange]
      cases found : (e.reaction response).identity with
      | none => exact ⟨_, rfl, .denied wants finished found⟩
      | some identity =>
        refine ⟨_, rfl, ?_⟩
        simp only [Outcome.goTo, Outcome.conclude, Server.settle, Session.unlogged_moveTo]
        have succeeded : Continued e response u _ _ := .succeeded wants finished found
        cases named : (e.reaction response).authcid? <;> rw [named] at succeeded <;>
          exact succeeded
    · rename_i unfinished
      exact ⟨_, rfl, .asked wants (Bool.eq_false_iff.mpr unfinished)⟩

private theorem continueExchange_shows {e : Exchange} {response : Bytes} {u : Session κ}
    (taken : Takes features line s e response u.unlogged) (same : u.logPrefix = s.logPrefix) :
    Outcome.Shows config features line s (continueExchange e response u) := by
  obtain ⟨reply, answered, continued⟩ := continueExchange_continued e response u line
  rw [Outcome.Shows, answered]
  generalize (Outcome.conclude line (continueExchange e response u)).2.unlogged = t at continued ⊢
  cases continued with
  | asked wants unfinished => exact .challenged taken wants unfinished
  | failed broke => exact .exchangeFailed taken broke
  | denied wants finished nobody => exact .denied taken wants finished nobody
  | succeeded wants finished somebody =>
    rw [same]
    exact .authenticated taken wants finished somebody

private theorem endsExchange_of_no_initial (name : String) :
    (Reply.syntaxError (name ++ " does not permit an initial response")).endsExchange = false := by
  have differs : name ++ " does not permit an initial response" ≠ "Authentication canceled" := by
    intro same
    have last := congrArg (fun text => text.toList.getLast?) same
    simp at last
  simp [Reply.syntaxError, Reply.of, Reply.endsExchange, Code.number, differs]

/-- By which replies AUTH is refused where it is valid. -/
inductive Refused (policy : AuthPolicy) : Reply → Prop
  | form :
    Refused policy (.parameterNotImplemented "Syntax: AUTH mechanism [initial-response]")
  | unsupported : Refused policy (.parameterNotImplemented "Unsupported AUTH mechanism")
  | encoding : Refused policy (.syntaxError "Invalid base64")
  | early {factory : Factory} (known : factory ∈ policy.registry.factories) :
    Refused policy (.syntaxError (factory.name ++ " does not permit an initial response"))

/-- Where AUTH is valid it is refused, or the mechanism of a new exchange hears a first response. -/
theorem auth_run (site : Site κ) {policy : AuthPolicy}
    (valid : (auth policy : Handler κ).validFor s = true)
    (idle : s.properties.get? Key.exchange.name = none)
    (offered : Feature.policy? features = some policy) (verb : Text.upper line.verb = "AUTH") :
    (∃ reply t, Refused policy reply ∧ t.unlogged = s.unlogged ∧
      (auth policy).run site s (some line.text) = Outcome.stay reply t) ∨
    ∃ factory response, Takes features line s (openExchange factory s).1 response
        (openExchange factory s).2.unlogged ∧
      (auth policy).run site s (some line.text) =
        continueExchange (openExchange factory s).1 response (openExchange factory s).2 := by
  obtain ⟨between, anonymous⟩ : betweenTransactions s.state = true ∧
      s.properties.get? Key.identity.name = none := by
    simpa [auth, Session.hasProperty, Table.contains] using valid
  have begins {name : List Char} {rest : List (List Char)} {factory : Factory} {response : Bytes}
      (words : Text.words Text.isAsciiBlank (Grammar.arguments line.text).toList = name :: rest)
      (found : AuthPolicy.find? policy s (String.ofList name) = some factory)
      (carried : Carries factory (name :: rest) response) :
      Takes features line s (openExchange factory s).1 response
        (openExchange factory s).2.unlogged :=
    .opened verb offered between anonymous idle words found carried
  simp only [auth, Handler.arguments, Option.map_some, Option.getD_some]
  split
  · rename_i name words
    simp only [authenticate]
    split
    · rename_i factory found
      exact .inr ⟨factory, [], begins words found (.nothing name), rfl⟩
    · exact .inl ⟨_, _, .unsupported, Session.unlogged_logWarn _ _, rfl⟩
  · rename_i name token words
    simp only [authenticate]
    split
    · rename_i factory found
      simp only [beginExchange]
      split
      · exact .inl ⟨_, _, .encoding, rfl, rfl⟩
      · rename_i response decoded
        split
        · rename_i allowed
          exact .inr ⟨factory, response, begins words found (.initial name decoded allowed), rfl⟩
        · have known : factory ∈ policy.registry.factories :=
            List.mem_of_find?_eq_some (Option.filter_eq_some_iff.mp found).1
          exact .inl ⟨_, _, .early known, rfl, rfl⟩
    · exact .inl ⟨_, _, .unsupported, Session.unlogged_logWarn _ _, rfl⟩
  · exact .inl ⟨_, _, .form, rfl, rfl⟩

private theorem auth_shows {site : Site κ} {policy : AuthPolicy}
    (quiet : s.state ≠ .readingData) (idle : s.properties.get? Key.exchange.name = none)
    (offered : Feature.policy? features = some policy) (verb : Text.upper line.verb = "AUTH") :
    Outcome.Shows config features line s ((auth policy).handle site s (some line.text)) := by
  apply shows_handle quiet idle
  intro valid
  rcases auth_run site valid idle offered verb with
    ⟨reply, t, refused, same, done⟩ | ⟨factory, response, taken, done⟩
  · rw [done]
    cases refused with
    | form | unsupported | encoding =>
      exact shows_answered same quiet idle (by decide) rfl rfl rfl
    | early known =>
      exact shows_answered same quiet idle (code?_syntaxError _) rfl
        (endsExchange_of_no_initial _) rfl
  · rw [done]
    exact continueExchange_shows taken rfl

private theorem takeResponse_shows {e : Exchange}
    (pending : s.properties.get? Key.exchange.name = some (.exchange e)) :
    Outcome.Shows config features line s (takeResponse e line (s.clearProperty .exchange)) := by
  simp only [takeResponse]
  split
  · rename_i star
    exact shows_goTo (.cancelled pending star)
  · split
    · rename_i response decoded
      exact continueExchange_shows (.resumed pending decoded) rfl
    · rename_i flaw encoded
      exact shows_stay (.undecodable pending encoded)

private theorem serves_shows {site : Site κ} {handler : Handler κ} (fits : s.Fits s.state)
    (quiet : s.state ≠ .readingData) (idle : s.properties.get? Key.exchange.name = none)
    (hconfig : site.config = config)
    (serves : Server.Serves features (Text.upper line.verb) handler) :
    Outcome.Shows config features line s (handler.handle site s (some line.text)) := by
  have deaf {verb : String} (h : Text.upper line.verb = verb) (helo : verb ≠ "HELO")
      (ehlo : verb ≠ "EHLO") : line.greets = false := by
    simp [Line.greets, h, helo, ehlo]
  generalize hverb : Text.upper line.verb = verb at serves
  cases serves with
  | helo | ehlo =>
    exact greetingBy_shows (fun _ _ => rfl) (fun _ _ => rfl) quiet idle
      (by simp [Line.greets, hverb])
  | mail => exact mail_shows fits quiet idle hverb
  | rcpt => exact rcpt_shows fits quiet idle hconfig hverb
  | data => exact data_shows fits quiet idle hverb
  | rset => exact rset_shows quiet idle hverb
  | noop | vrfy | help =>
    exact fixed_shows quiet idle (deaf hverb (by decide) (by decide)) rfl rfl rfl
  | quit => exact quit_shows quiet idle hverb
  | startTls => exact startTls_shows quiet idle (deaf hverb (by decide) (by decide))
  | auth offered => exact auth_shows quiet idle offered hverb

end

namespace Server

theorem consume_of_front {server : Server κ} {s t : Session κ} {line : Line}
    {consumer : Consumer κ} {rest : List (Consumer κ)} {done : Except Fault Verdict}
    (front : s.consumers.values = consumer :: rest)
    (acts : (server.hook consumer).onLine server.site s line = (done, t, line))
    (decides : done ≠ .ok .declined) :
    server.consume s line = Outcome.conclude line (done, t) := by
  unfold consume
  rw [front]
  unfold offerLine
  rw [acts]
  match done, decides with
  | .error fault, _ => rfl
  | .ok (.handled a), _ => rfl

theorem consume_of_dispatch {server : Server κ} {s : Session κ} {line : Line}
    (alone : s.consumers.values = [.dispatch]) :
    server.consume s line =
      Outcome.conclude line (server.dispatch.consume server.site s line) := by
  unfold consume
  rw [alone]
  unfold offerLine
  simp only [hook, Dispatch.hook, Hook.reading]
  match server.dispatch.consume server.site s line with
  | (.error fault, t) => rfl
  | (.ok (.handled a), t) => rfl
  | (.ok .declined, t) => rfl

private theorem endContent_decides (s : Session κ) : (endContent s).1 ≠ .ok .declined := by
  simp only [endContent]
  split
  · simp [Outcome.goTo]
  · split <;> simp [Outcome.goTo]

private theorem content_decides (site : Site κ) (s : Session κ) (line : Line) :
    (if line.content = [46] then endContent s
    else Outcome.stay .silent
      (if s.hasProperty .contentFault then s
      else writeContent site.config (unstuffed line.bytes) s)).1 ≠ .ok .declined := by
  split
  · exact endContent_decides s
  · simp [Outcome.stay]

theorem continueExchange_decides (e : Exchange) (response : Bytes) (s : Session κ) :
    (continueExchange e response s).1 ≠ .ok .declined := by
  rw [continueExchange_eq]
  dsimp only
  split
  · simp [Outcome.stay]
  · split
    · simp only [finishExchange]
      split <;> simp [Outcome.stay, Outcome.goTo]
    · simp [Outcome.stay]

private theorem takeResponse_decides (e : Exchange) (line : Line) (s : Session κ) :
    (takeResponse e line s).1 ≠ .ok .declined := by
  simp only [takeResponse]
  split
  · simp [Outcome.goTo]
  · split
    · exact continueExchange_decides _ _ _
    · simp [Outcome.stay]

theorem consume_of_content {server : Server κ} {s : Session κ} {line : Line}
    {rest : List (Consumer κ)} (front : s.consumers.values = .content :: rest) :
    server.consume s line =
      Outcome.conclude line (if line.content = [46] then endContent s
        else Outcome.stay .silent
          (if s.hasProperty .contentFault then s
          else writeContent server.site.config (unstuffed line.bytes) s)) :=
  consume_of_front front rfl (content_decides server.site s line)

theorem consume_of_responses {server : Server κ} {s : Session κ} {line : Line}
    {rest : List (Consumer κ)} (front : s.consumers.values = .responses :: rest) {e : Exchange}
    (pending : s.properties.get? Key.exchange.name = some (.exchange e)) :
    server.consume s line =
      Outcome.conclude line (takeResponse e line (s.clearProperty .exchange)) := by
  have taken : s.takeExchange = (some e, s.clearProperty .exchange) := by
    simp [Session.takeExchange, Session.read?, Properties.read?, pending, Value.exchange?]
  rw [consume_of_front front (by
    simp only [hook, responses, Hook.reading, taken]
    rfl)]
  exact takeResponse_decides _ _ _

section

variable {config : Config} {newMail : Session κ → MailBehaviour} {custom : κ → Hook κ}
  {features : List Feature} {s : Session κ} {line : Line}

theorem ofFeatures_site_config :
    (ofFeatures config newMail custom features).site.config = config := by
  rw [ofFeatures_eq]
  rfl

theorem consume_of_receiving (fits : s.Fits s.state) (receiving : s.state = .readingData) :
    (ofFeatures config newMail custom features).consume s line =
      Outcome.conclude line (if line.content = [46] then endContent s
        else Outcome.stay .silent
          (if s.hasProperty .contentFault then s
          else writeContent config (unstuffed line.bytes) s)) := by
  have front : s.consumers.values = [.content, .dispatch] := by
    rw [fits.consumers_of_readingData receiving]
    rfl
  rw [consume_of_content front, ofFeatures_site_config]

theorem consume_of_pending (fits : s.Fits s.state) {e : Exchange}
    (pending : s.properties.get? Key.exchange.name = some (.exchange e)) :
    (ofFeatures config newMail custom features).consume s line =
      Outcome.conclude line (takeResponse e line (s.clearProperty .exchange)) := by
  have front : s.consumers.values = [.responses, .dispatch] := by
    rw [fits.consumers_of_exchange pending]
    rfl
  exact consume_of_responses front pending

theorem consume_of_idle (fits : s.Fits s.state) (quiet : s.state ≠ .readingData)
    (idle : s.properties.get? Key.exchange.name = none) :
    (ofFeatures config newMail custom features).consume s line =
      Outcome.conclude line ((ofFeatures config newMail custom features).dispatch.consume
        (ofFeatures config newMail custom features).site s line) := by
  apply consume_of_dispatch
  rw [fits.consumers_of_idle quiet idle]
  rfl

/-- While a message is received, every line is part of it. -/
theorem consume_receipt (fits : s.Fits s.state) (receiving : s.state = .readingData) :
    Receipt config line s
      ((ofFeatures config newMail custom features).consume s line).1
      ((ofFeatures config newMail custom features).consume s line).2.unlogged := by
  rw [consume_of_receiving fits receiving]
  exact content_receipt fits receiving

/-- A terminated line does to a session whose stores fit its state one of the listed things. -/
theorem consume_effect (fits : s.Fits s.state) (terminated : line.isTerminated = true) :
    Effect config features line s
      ((ofFeatures config newMail custom features).consume s line).1
      ((ofFeatures config newMail custom features).consume s line).2.unlogged := by
  by_cases receiving : s.state = .readingData
  · exact .received receiving (consume_receipt fits receiving)
  · cases found : s.properties.get? Key.exchange.name with
    | some v =>
      obtain ⟨⟨e, rfl⟩, -⟩ := fits.exchange v found
      rw [consume_of_pending fits found]
      exact takeResponse_shows found
    | none =>
      rw [consume_of_idle fits receiving found]
      unfold Dispatch.consume
      rw [if_pos terminated]
      split
      · rename_i handler served
        exact serves_shows fits receiving found ofFeatures_site_config
          (serves_of_get? config newMail custom features served)
      · refine (Effect.answered ?_ ?_ rfl receiving found rfl :
          Effect config features line s (.ok .unrecognised) _)
        · simp [Reply.unrecognised, Reply.of, Reply.code?, Code.number]
        · simp [Reply.unrecognised, Reply.of, Reply.isStartTls]

/-- Where nothing stands before the dispatch, a command of RFC 5321 is handled by its own handler. -/
theorem consume_of_standard (fits : s.Fits s.state) (quiet : s.state ≠ .readingData)
    (idle : s.properties.get? Key.exchange.name = none) (terminated : line.isTerminated = true)
    {c : String × Handler κ} (own : c ∈ standardCommands) (verb : Text.upper line.verb = c.1) :
    (ofFeatures config newMail custom features).consume s line =
      Outcome.conclude line (c.2.handle (ofFeatures config newMail custom features).site s
        (some line.text)) := by
  rw [consume_of_idle fits quiet idle, Dispatch.consume, if_pos terminated,
    dispatch_get?_of_standard config newMail custom features own verb]

theorem consume_sender {sender : Grammar.PathArguments} (fits : s.Fits s.state)
    (valid : s.state = .afterEhlo)
    (idle : s.properties.get? Key.exchange.name = none) (terminated : line.isTerminated = true)
    (verb : Text.upper line.verb = "MAIL")
    (named : Grammar.reversePath? (Grammar.arguments line.text) = some sender) :
    (ofFeatures config newMail custom features).consume s line =
      if exceedsLimit config sender = true then (.ok (tooLarge config), s)
      else Outcome.conclude line
        (beginTransaction (ofFeatures config newMail custom features).site sender s) := by
  have own : ("MAIL", (mail : Handler κ)) ∈ standardCommands := by simp [standardCommands]
  have here : (mail : Handler κ).validFor s = true := beq_iff_eq.mpr valid
  rw [consume_of_standard fits (by simp [valid]) idle terminated own verb, Handler.handle,
    if_pos here]
  simp only [mail, Handler.arguments, Option.map_some, Option.getD_some, named,
    ofFeatures_site_config]
  split <;> rfl

theorem consume_recipient {recipient : Grammar.PathArguments} (fits : s.Fits s.state)
    (valid : s.state.inTransaction = true)
    (terminated : line.isTerminated = true) (verb : Text.upper line.verb = "RCPT")
    (named : Grammar.forwardPath? (Grammar.arguments line.text) = some recipient) :
    (ofFeatures config newMail custom features).consume s line =
      if config.maxRecipients ≤ recipientCount s then
        (.ok (.of .insufficientStorage "Too many recipients"), s)
      else Outcome.conclude line (addRecipient recipient s) := by
  have own : ("RCPT", (rcpt : Handler κ)) ∈ standardCommands := by simp [standardCommands]
  have busy : betweenTransactions s.state = false ∧ s.state ≠ .readingData := by
    cases state : s.state <;> simp_all [State.inTransaction, betweenTransactions]
  have here : (rcpt : Handler κ).validFor s = true := valid
  rw [consume_of_standard fits busy.2 (fits.get?_exchange busy.1) terminated own verb,
    Handler.handle, if_pos here]
  simp only [rcpt, Handler.arguments, Option.map_some, Option.getD_some, named,
    ofFeatures_site_config]
  split <;> rfl

end

end Server

end SmtpDialog
