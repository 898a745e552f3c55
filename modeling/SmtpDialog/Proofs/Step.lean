/- digest: What one line can do to a session of a standard server. -/
import SmtpDialog.Proofs.Standard
import SmtpDialog.Proofs.Unlogged

/-!
`Session.Fits` says which mail object, properties and consumers go with a state. Where they fit, one
consumer alone decides about a line, and `Effect` lists what it can do: the answer and the session
afterwards, log records aside, with the conditions under which it comes to that. All laws of runs
are derived from this list.
-/

set_option autoImplicit false
set_option relaxedAutoImplicit false

namespace SmtpDialog

def State.holdsMail : State → Bool
  | afterMail | afterRcpt | readingData => true
  | _ => false

theorem State.holdsMail_of_inTransaction {state : State} (h : state.inTransaction = true) :
    state.holdsMail = true := by
  cases state <;> first | rfl | contradiction

theorem State.holdsMail_of_between {state : State}
    (h : Command.betweenTransactions state = true) : state.holdsMail = false := by
  cases state <;> first | rfl | contradiction

namespace Session

variable {κ : Type}

/-- What stands before the dispatch in the chain of a session in a state. -/
def transient (state : State) (s : Session κ) : List (String × Consumer κ) :=
  if state = .readingData then [(Place.content.name, .content)]
  else if s.hasProperty .exchange then [(Place.responses.name, .responses)]
  else []

/-- The mail object, the consumers and the properties of a session are those of a state. -/
structure Fits (state : State) (s : Session κ) : Prop where
  mail : s.mail.isSome = state.holdsMail
  consumers : s.consumers = ⟨s.transient state ++ [(Place.dispatch.name, .dispatch)]⟩
  exchange : ∀ v, s.properties.get? Key.exchange.name = some v →
    (∃ e, v = .exchange e) ∧ Command.betweenTransactions state = true ∧
      s.properties.get? Key.identity.name = none
  size : state = .readingData → ∃ n, s.properties.get? Key.contentSize.name = some (.word n)
  fault : ∀ v, s.properties.get? Key.contentFault.name = some v →
    (∃ r, v = .reply r) ∧ state = .readingData
  count : state = .afterRcpt ∨ state = .readingData →
    ∃ n, s.properties.get? Key.recipientCount.name = some (.count (n + 1))

namespace Fits

variable {state : State} {s : Session κ}

theorem exists_mail (fits : s.Fits state) (h : state.holdsMail = true) :
    ∃ mail, s.mail = some mail := by
  have present := fits.mail
  rw [h] at present
  exact Option.isSome_iff_exists.mp present

theorem mail_of_not_holds (fits : s.Fits state) (h : state.holdsMail = false) : s.mail = none := by
  have present := fits.mail
  rw [h] at present
  exact Option.not_isSome_iff_eq_none.mp (Bool.eq_false_iff.mp present)

theorem mail_of_between (fits : s.Fits state)
    (h : Command.betweenTransactions state = true) : s.mail = none :=
  fits.mail_of_not_holds (State.holdsMail_of_between h)

theorem get?_exchange (fits : s.Fits state) (h : Command.betweenTransactions state = false) :
    s.properties.get? Key.exchange.name = none := by
  cases found : s.properties.get? Key.exchange.name with
  | none => rfl
  | some v =>
    have between := (fits.exchange v found).2.1
    rw [h] at between
    contradiction

theorem consumers_of_readingData (fits : s.Fits state) (h : state = .readingData) :
    s.consumers = ⟨[(Place.content.name, .content), (Place.dispatch.name, .dispatch)]⟩ := by
  rw [fits.consumers, transient, if_pos h]
  rfl

theorem consumers_of_exchange (fits : s.Fits state) {e : Exchange}
    (h : s.properties.get? Key.exchange.name = some (.exchange e)) :
    s.consumers = ⟨[(Place.responses.name, .responses), (Place.dispatch.name, .dispatch)]⟩ := by
  have between := (fits.exchange _ h).2.1
  have quiet : state ≠ .readingData := by
    rintro rfl
    contradiction
  rw [fits.consumers, transient, if_neg quiet]
  simp [hasProperty, Table.contains, h]

theorem consumers_of_idle (fits : s.Fits state) (quiet : state ≠ .readingData)
    (idle : s.properties.get? Key.exchange.name = none) :
    s.consumers = ⟨[(Place.dispatch.name, .dispatch)]⟩ := by
  rw [fits.consumers, transient, if_neg quiet]
  simp [hasProperty, Table.contains, idle]

end Fits

end Session

/-- Whether an answer of a mail object accepts what it was offered. -/
def isAcceptance : Except Fault Reply → Bool
  | .ok reply => reply.isPositive
  | .error _ => false

def invitesTls : Except Fault Reply → Bool
  | .ok reply => reply.isStartTls
  | .error _ => false

/-- Whether a reply tells that an exchange has succeeded or was given up by the client. -/
def Reply.endsExchange : Reply → Bool
  | .line code text =>
    code == Code.authenticationSucceeded.number ||
      (code == Code.parameterSyntaxError.number && text == "Authentication canceled")
  | _ => false

/-- Whether a reply has the code by which an exchange goes on or succeeds. -/
def Reply.favours (reply : Reply) : Bool :=
  reply.code? == some Code.serverChallenge.number ||
    reply.code? == some Code.authenticationSucceeded.number

def Line.greets (line : Line) : Bool :=
  Text.upper line.verb == "HELO" || Text.upper line.verb == "EHLO"

def Line.endsContent (line : Line) : Bool := line.content == [46]

def Exchange.after (e : Exchange) (response : Bytes) : Exchange :=
  { e with mechanism := (e.mechanism.respond response).2 }

def Exchange.reaction (e : Exchange) (response : Bytes) : Reaction :=
  (e.mechanism.respond response).1

section

open Command

variable {κ : Type}

/-- The first response that an AUTH command carries, for a mechanism that takes it. -/
inductive Carries (factory : Factory) : List (List Char) → Bytes → Prop
  | nothing (name : List Char) : Carries factory [name] []
  | initial {token : List Char} {response : Bytes} (name : List Char)
      (decoded : initialResponse? token = .ok response) (allowed : factory.allowsInitial = true) :
      Carries factory [name, token] response

/-- The exchange that a line takes further, the response it brings and the session without that
exchange, which may be one that the line opens. -/
inductive Takes (features : List Feature) (line : Line) (s : Session κ) :
    Exchange → Bytes → Session κ → Prop
  | opened {policy : AuthPolicy} {factory : Factory} {name : List Char} {rest : List (List Char)}
      {response : Bytes} (verb : Text.upper line.verb = "AUTH")
      (offered : Feature.policy? features = some policy)
      (between : betweenTransactions s.state = true)
      (anonymous : s.properties.get? Key.identity.name = none)
      (idle : s.properties.get? Key.exchange.name = none)
      (words : Text.words Text.isAsciiBlank (Grammar.arguments line.text).toList = name :: rest)
      (found : AuthPolicy.find? policy s (String.ofList name) = some factory)
      (carried : Carries factory (name :: rest) response) :
      Takes features line s ⟨s.exchangesOpened, factory.create s.journal⟩ response
        { s.unlogged with
          exchangesOpened := s.exchangesOpened + 1
          journal := .mechanismOpened s.exchangesOpened (factory.create s.journal).name
            factory.sendsPlaintext :: s.unlogged.journal }
  | resumed {e : Exchange} {response : Bytes}
      (pending : s.properties.get? Key.exchange.name = some (.exchange e))
      (decoded : Base64.decode (Utf8.encode (Text.trim Text.isBlank line.chars)) = .ok response) :
      Takes features line s e response
        { s.unlogged with properties := s.properties.erase Key.exchange.name }

theorem Takes.state {features : List Feature} {line : Line} {s t : Session κ} {e : Exchange}
    {response : Bytes} (taken : Takes features line s e response t) : t.state = s.state := by
  cases taken <;> rfl

/-- What comes of a response that the mechanism of an exchange hears: the reply, and the session
after it, made from the one without that exchange. -/
inductive Continued (e : Exchange) (response : Bytes) (u : Session κ) : Reply → Session κ → Prop
  | asked {challenge : Bytes} (wants : (e.reaction response).challenge = .ok challenge)
      (unfinished : (e.reaction response).complete = false) :
      Continued e response u (challengeReply challenge)
        { u.unlogged with
          consumers := u.consumers.insert Place.responses.name .responses
          properties := u.properties.insert Key.exchange.name (.exchange (e.after response))
          journal := .mechanismHeard e.serial response (e.reaction response) ::
            u.unlogged.journal }
  | failed {fault : Fault} (broke : (e.reaction response).challenge = .error fault) :
      Continued e response u .serverError
        { u.unlogged with
          consumers := u.consumers.erase Place.responses.name
          journal := .mechanismDisposed e.serial ::
            .mechanismHeard e.serial response (e.reaction response) :: u.unlogged.journal }
  | denied {challenge : Bytes} (wants : (e.reaction response).challenge = .ok challenge)
      (finished : (e.reaction response).complete = true)
      (nobody : (e.reaction response).identity = none) :
      Continued e response u
        (.of .authenticationCredentialsInvalid "Authentication credentials invalid")
        { u.unlogged with
          consumers := u.consumers.erase Place.responses.name
          journal := .mechanismDisposed e.serial ::
            .mechanismHeard e.serial response (e.reaction response) :: u.unlogged.journal }
  | succeeded {challenge : Bytes} {identity : String}
      (wants : (e.reaction response).challenge = .ok challenge)
      (finished : (e.reaction response).complete = true)
      (somebody : (e.reaction response).identity = some identity) :
      Continued e response u (.of .authenticationSucceeded "Authentication successful")
        { u.unlogged with
          state := .afterEhlo
          logPrefix := u.logPrefix.setUser identity
          consumers := u.consumers.erase Place.responses.name
          properties := ((e.reaction response).authcid?.elim id fun authcid p =>
            p.insert Key.authcid.name (.text authcid))
            (u.properties.insert Key.identity.name (.text identity))
          journal := .mechanismDisposed e.serial ::
            .mechanismHeard e.serial response (e.reaction response) :: u.unlogged.journal }

/-- What a line can do to a session that receives a message, whose stores fit its state. -/
inductive Receipt (config : Config) (line : Line) (s : Session κ) :
    Except Fault Reply → Session κ → Prop
  /-- The message has failed before, and the line is dropped. -/
  | dropped (content : line.endsContent = false) (failed : s.hasProperty .contentFault = true) :
      Receipt config line s (.ok .silent) s.unlogged
  | overflowed {n : UInt64} (content : line.endsContent = false)
      (sound : s.properties.get? Key.contentFault.name = none)
      (size : s.properties.get? Key.contentSize.name = some (.word n))
      (excess : 0 < config.maxMessageSize ∧
        config.maxMessageSize < (n + UInt64.ofNat (unstuffed line.bytes).length).toNat) :
      Receipt config line s (.ok .silent)
        { s.unlogged with
          properties := (s.properties.insert Key.contentSize.name
            (.word (n + UInt64.ofNat (unstuffed line.bytes).length))).insert
            Key.contentFault.name (.reply (tooLarge config)) }
  | written {mail : MailObject} {n : UInt64} {reply : Reply} (content : line.endsContent = false)
      (sound : s.properties.get? Key.contentFault.name = none)
      (size : s.properties.get? Key.contentSize.name = some (.word n))
      (within : ¬(0 < config.maxMessageSize ∧
        config.maxMessageSize < (n + UInt64.ofNat (unstuffed line.bytes).length).toNat))
      (holds : s.mail = some mail)
      (asked : (mail.call (.writeLine (unstuffed line.bytes))).1 = .ok reply) :
      Receipt config line s (.ok .silent)
        { s.unlogged with
          mail := some (mail.call (.writeLine (unstuffed line.bytes))).2
          properties := s.properties.insert Key.contentSize.name
            (.word (n + UInt64.ofNat (unstuffed line.bytes).length))
          journal := .mailCalled mail.serial (.writeLine (unstuffed line.bytes)) (.ok reply) ::
            s.unlogged.journal }
  | broken {mail : MailObject} {n : UInt64} {fault : Fault} (content : line.endsContent = false)
      (sound : s.properties.get? Key.contentFault.name = none)
      (size : s.properties.get? Key.contentSize.name = some (.word n))
      (within : ¬(0 < config.maxMessageSize ∧
        config.maxMessageSize < (n + UInt64.ofNat (unstuffed line.bytes).length).toNat))
      (holds : s.mail = some mail)
      (asked : (mail.call (.writeLine (unstuffed line.bytes))).1 = .error fault) :
      Receipt config line s (.ok .silent)
        { s.unlogged with
          mail := some (mail.call (.writeLine (unstuffed line.bytes))).2
          properties := (s.properties.insert Key.contentSize.name
            (.word (n + UInt64.ofNat (unstuffed line.bytes).length))).insert
            Key.contentFault.name (.reply .serverError)
          journal := .mailCalled mail.serial (.writeLine (unstuffed line.bytes)) (.error fault) ::
            s.unlogged.journal }
  /-- The dot ends a message that has failed before. -/
  | abandoned {mail : MailObject} {reply : Reply} (dot : line.endsContent = true)
      (failed : s.properties.get? Key.contentFault.name = some (.reply reply))
      (holds : s.mail = some mail) :
      Receipt config line s (.ok reply)
        { s.unlogged with
          state := .afterEhlo
          mail := none
          consumers := s.consumers.erase Place.content.name
          properties := (s.properties.erase Key.contentSize.name).erase Key.contentFault.name
          journal := .mailDisposed mail.serial :: s.unlogged.journal }
  | completed {mail : MailObject} {answer : Except Fault Reply} (dot : line.endsContent = true)
      (sound : s.properties.get? Key.contentFault.name = none) (holds : s.mail = some mail)
      (asked : (mail.call .complete).1 = answer) :
      Receipt config line s (.ok (answer.toOption.getD .serverError))
        { s.unlogged with
          state := .afterEhlo
          mail := none
          consumers := s.consumers.erase Place.content.name
          properties := (s.properties.erase Key.contentSize.name).erase Key.contentFault.name
          journal := .mailDisposed mail.serial ::
            .mailCalled mail.serial .complete answer :: s.unlogged.journal }

/-- What a line can do to a session whose stores fit its state. -/
inductive Effect (config : Config) (features : List Feature) (line : Line) (s : Session κ) :
    Except Fault Reply → Session κ → Prop
  | answered {reply : Reply} (calm : line.greets = true → reply.code? ≠ some Code.ok.number)
      (tls : reply.isStartTls = true → betweenTransactions s.state = true)
      (other : reply.endsExchange = false) (quiet : s.state ≠ .readingData)
      (idle : s.properties.get? Key.exchange.name = none) (apart : reply.favours = false) :
      Effect config features line s (.ok reply) s.unlogged
  | greeted {domain : String} {reply : Reply} (verb : line.greets = true)
      (valid : greetable s.state = true)
      (named : Grammar.heloDomain? (Grammar.arguments line.text) = some domain)
      (code : reply.code? = some Code.ok.number) (plain : reply.isStartTls = false)
      (idle : s.properties.get? Key.exchange.name = none) :
      Effect config features line s (.ok reply)
        { s.unlogged.closeMail with
          state := .afterEhlo
          logPrefix := s.logPrefix.setHelo domain
          properties := s.properties.insert Key.heloDomain.name (.text domain) }
  | reset (verb : Text.upper line.verb = "RSET") (valid : inDialog s.state = true)
      (idle : s.properties.get? Key.exchange.name = none) :
      Effect config features line s (.ok .ok)
        { s.unlogged.closeMail with
          state := if s.state = .connected then .connected else .afterEhlo }
  | quit {text : String} (verb : Text.upper line.verb = "QUIT") (quiet : s.state ≠ .readingData)
      (idle : s.properties.get? Key.exchange.name = none) :
      Effect config features line s (.ok (.of .serviceClosing text))
        { s.unlogged.closeMail with state := .endingSession }
  /-- MAIL was not accepted, or the mail object failed, and it is gone. -/
  | senderRefused {behaviour : MailBehaviour} {path parameters : String}
      {answer : Except Fault Reply}
      (verb : Text.upper line.verb = "MAIL") (valid : s.state = .afterEhlo)
      (asked : behaviour {} (.mailFrom path parameters) = answer)
      (refused : isAcceptance answer = false)
      (idle : s.properties.get? Key.exchange.name = none) :
      Effect config features line s answer
        { s.unlogged with
          properties := s.properties.erase Key.recipientCount.name
          mailsOpened := s.mailsOpened + 1
          journal := .mailDisposed s.mailsOpened ::
            .mailCalled s.mailsOpened (.mailFrom path parameters) answer ::
            .mailOpened s.mailsOpened s.peerName :: s.unlogged.journal }
  | senderAccepted {behaviour : MailBehaviour} {path parameters : String} {reply : Reply}
      (verb : Text.upper line.verb = "MAIL") (valid : s.state = .afterEhlo)
      (idle : s.properties.get? Key.exchange.name = none)
      (asked : behaviour {} (.mailFrom path parameters) = .ok reply)
      (accepted : reply.isPositive = true) :
      Effect config features line s (.ok reply)
        { s.unlogged with
          state := .afterMail
          mail := some
            (MailObject.call ⟨s.mailsOpened, behaviour, {}⟩ (.mailFrom path parameters)).2
          properties := s.properties.erase Key.recipientCount.name
          mailsOpened := s.mailsOpened + 1
          journal := .mailCalled s.mailsOpened (.mailFrom path parameters) (.ok reply) ::
            .mailOpened s.mailsOpened s.peerName :: s.unlogged.journal }
  /-- RCPT was not accepted, or the mail object failed; it stays. -/
  | recipientRefused {mail : MailObject} {path parameters : String} {answer : Except Fault Reply}
      (verb : Text.upper line.verb = "RCPT") (valid : s.state.inTransaction = true)
      (holds : s.mail = some mail) (asked : (mail.call (.rcptTo path parameters)).1 = answer)
      (refused : isAcceptance answer = false) :
      Effect config features line s answer
        { s.unlogged with
          mail := some (mail.call (.rcptTo path parameters)).2
          journal := .mailCalled mail.serial (.rcptTo path parameters) answer ::
            s.unlogged.journal }
  | recipientAccepted {mail : MailObject} {path parameters : String} {reply : Reply}
      (verb : Text.upper line.verb = "RCPT") (valid : s.state.inTransaction = true)
      (room : recipientCount s < config.maxRecipients) (holds : s.mail = some mail)
      (asked : (mail.call (.rcptTo path parameters)).1 = .ok reply)
      (accepted : reply.isPositive = true) :
      Effect config features line s (.ok reply)
        { s.unlogged with
          state := .afterRcpt
          mail := some (mail.call (.rcptTo path parameters)).2
          properties := s.properties.insert Key.recipientCount.name
            (.count (recipientCount s + 1))
          journal := .mailCalled mail.serial (.rcptTo path parameters) (.ok reply) ::
            s.unlogged.journal }
  /-- The mail object could not prepare for a message, and it is gone. -/
  | contentRefused {mail : MailObject} {fault : Fault} (verb : Text.upper line.verb = "DATA")
      (valid : s.state = .afterRcpt) (holds : s.mail = some mail)
      (asked : (mail.call .prepare).1 = .error fault) :
      Effect config features line s (.ok .localError)
        { s.unlogged with
          state := .afterEhlo
          mail := none
          properties := (s.properties.erase Key.contentFault.name).erase Key.contentSize.name
          journal := .mailDisposed mail.serial ::
            .mailCalled mail.serial .prepare (.error fault) :: s.unlogged.journal }
  | contentBegun {mail : MailObject} {text : String} {reply : Reply}
      (verb : Text.upper line.verb = "DATA") (valid : s.state = .afterRcpt)
      (holds : s.mail = some mail) (asked : (mail.call .prepare).1 = .ok reply) :
      Effect config features line s (.ok (.of .startMailInput text))
        { s.unlogged with
          state := .readingData
          mail := some (mail.call .prepare).2
          consumers := s.consumers.insert Place.content.name .content
          properties := (s.properties.erase Key.contentFault.name).insert Key.contentSize.name
            (.word 0)
          journal := .mailCalled mail.serial .prepare (.ok reply) :: s.unlogged.journal }
  | received {answer : Except Fault Reply} {t : Session κ} (valid : s.state = .readingData)
      (receipt : Receipt config line s answer t) : Effect config features line s answer t
  | challenged {e : Exchange} {response challenge : Bytes} {t : Session κ}
      (taken : Takes features line s e response t)
      (asked : (e.reaction response).challenge = .ok challenge)
      (unfinished : (e.reaction response).complete = false) :
      Effect config features line s (.ok (challengeReply challenge))
        { t with
          consumers := t.consumers.insert Place.responses.name .responses
          properties := t.properties.insert Key.exchange.name (.exchange (e.after response))
          journal := .mechanismHeard e.serial response (e.reaction response) :: t.journal }
  | exchangeFailed {e : Exchange} {response : Bytes} {fault : Fault} {t : Session κ}
      (taken : Takes features line s e response t)
      (asked : (e.reaction response).challenge = .error fault) :
      Effect config features line s (.ok .serverError)
        { t with
          consumers := t.consumers.erase Place.responses.name
          journal := .mechanismDisposed e.serial ::
            .mechanismHeard e.serial response (e.reaction response) :: t.journal }
  | denied {e : Exchange} {response challenge : Bytes} {text : String} {t : Session κ}
      (taken : Takes features line s e response t)
      (asked : (e.reaction response).challenge = .ok challenge)
      (finished : (e.reaction response).complete = true)
      (nobody : (e.reaction response).identity = none) :
      Effect config features line s (.ok (.of .authenticationCredentialsInvalid text))
        { t with
          consumers := t.consumers.erase Place.responses.name
          journal := .mechanismDisposed e.serial ::
            .mechanismHeard e.serial response (e.reaction response) :: t.journal }
  | authenticated {e : Exchange} {response challenge : Bytes} {identity text : String}
      {t : Session κ} (taken : Takes features line s e response t)
      (asked : (e.reaction response).challenge = .ok challenge)
      (finished : (e.reaction response).complete = true)
      (somebody : (e.reaction response).identity = some identity) :
      Effect config features line s (.ok (.of .authenticationSucceeded text))
        { t with
          state := .afterEhlo
          logPrefix := s.logPrefix.setUser identity
          consumers := t.consumers.erase Place.responses.name
          properties := ((e.reaction response).authcid?.elim id fun authcid p =>
            p.insert Key.authcid.name (.text authcid))
            (t.properties.insert Key.identity.name (.text identity))
          journal := .mechanismDisposed e.serial ::
            .mechanismHeard e.serial response (e.reaction response) :: t.journal }
  | cancelled {e : Exchange} (pending : s.properties.get? Key.exchange.name = some (.exchange e))
      (star : Text.trim Text.isBlank line.chars = ['*']) :
      Effect config features line s (.ok (.syntaxError "Authentication canceled"))
        { s.unlogged with
          state := .afterEhlo
          consumers := s.consumers.erase Place.responses.name
          properties := s.properties.erase Key.exchange.name
          journal := .mechanismDisposed e.serial :: s.unlogged.journal }
  | undecodable {e : Exchange} {flaw : Base64.Flaw}
      (pending : s.properties.get? Key.exchange.name = some (.exchange e))
      (encoded : Base64.decode (Utf8.encode (Text.trim Text.isBlank line.chars)) = .error flaw) :
      Effect config features line s (.ok .serverError)
        { s.unlogged with
          consumers := s.consumers.erase Place.responses.name
          properties := s.properties.erase Key.exchange.name
          journal := .mechanismDisposed e.serial :: s.unlogged.journal }

theorem Receipt.cast {config : Config} {line : Line} {s t u : Session κ}
    {result : Except Fault Reply} (h : Receipt config line s result t) (same : t = u) :
    Receipt config line s result u :=
  same ▸ h

theorem Effect.cast {config : Config} {features : List Feature} {line : Line} {s t u : Session κ}
    {result : Except Fault Reply} (h : Effect config features line s result t) (same : t = u) :
    Effect config features line s result u :=
  same ▸ h

end

end SmtpDialog
