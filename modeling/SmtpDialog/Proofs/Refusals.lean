/- digest: A command that is refused before anybody is asked leaves the session as it was. -/
import SmtpDialog.Proofs.Serving

set_option autoImplicit false
set_option relaxedAutoImplicit false

namespace SmtpDialog

open Command

/-- Whether an event is a call that a collaborator answers. To dispose of an object is no such call. -/
def Event.isCall : Event → Bool
  | .mailOpened _ _ | .mailCalled _ _ _ | .mechanismOpened _ _ _ | .mechanismHeard _ _ _ => true
  | _ => false

/-- Whether the client is told that it was refused. After a fault it is told by the transport. -/
def refuses : Except Fault Reply → Bool
  | .ok reply => reply.code?.any (400 ≤ ·)
  | .error _ => true

variable {κ : Type}

namespace Session

/-- The calls that collaborators have answered, the latest first. -/
def requests (s : Session κ) : List Event := s.journal.filter Event.isCall

theorem requests_moveTo (next : State) (s : Session κ) :
    (s.moveTo next).requests = s.requests := by
  unfold moveTo
  split <;> rfl

theorem requests_closeMail (s : Session κ) : s.closeMail.requests = s.requests := by
  rw [closeMail_eq]
  cases s.mail <;> rfl

theorem requests_adoptMail (mail : MailObject) (s : Session κ) :
    (s.adoptMail mail).requests = s.requests :=
  requests_closeMail s

/-- Somebody was called between two moments. -/
def Asked (s t : Session κ) : Prop := ∃ call calls, t.requests = call :: calls ++ s.requests

theorem Asked.requests_ne {s t : Session κ} (asked : s.Asked t) : t.requests ≠ s.requests := by
  obtain ⟨call, calls, grown⟩ := asked
  intro same
  rw [grown, List.append_left_eq_self] at same
  exact List.cons_ne_nil call calls same

theorem requests_unlogged (s : Session κ) : s.unlogged.requests = s.requests := by
  simp only [requests, unlogged, List.filter_filter]
  congr 1
  funext event
  cases event <;> rfl

theorem requests_of_unlogged {s t : Session κ} (same : t.unlogged = s.unlogged) :
    t.requests = s.requests := by
  rw [← requests_unlogged t, same, requests_unlogged]

end Session

theorem Outcome.requests_conclude (line : Line) (done : Outcome κ) :
    (done.conclude line).2.requests = done.2.requests := by
  obtain ⟨fault | verdict, t⟩ := done
  · rfl
  · cases verdict with
    | declined => rfl
    | handled a =>
      obtain ⟨reply, next⟩ := a
      cases next with
      | none => rfl
      | some next => exact Session.requests_moveTo next t

/-- How a handler refuses a command that is valid, from its arguments, before anybody is asked. -/
inductive Declines (config : Config) (s : Session κ) (arguments : String) :
    Handler κ → Reply → Prop
  | domain {command : String} {answer : Site κ → Session κ → String → Reply}
      (unnamed : Grammar.heloDomain? arguments = none) :
      Declines config s arguments (greetingBy command answer)
        (.syntaxError ("Syntax: " ++ command ++ " hostname"))
  | sender (malformed : Grammar.reversePath? arguments = none) :
      Declines config s arguments mail (.syntaxError "Syntax: MAIL FROM:<address> [parameters]")
  | size {sender : Grammar.PathArguments} (named : Grammar.reversePath? arguments = some sender)
      (exceeds : exceedsLimit config sender = true) :
      Declines config s arguments mail (tooLarge config)
  | recipient (malformed : Grammar.forwardPath? arguments = none) :
      Declines config s arguments rcpt (.syntaxError "Syntax: RCPT TO:<address> [parameters]")
  | recipients {recipient : Grammar.PathArguments}
      (named : Grammar.forwardPath? arguments = some recipient)
      (full : config.maxRecipients ≤ recipientCount s) :
      Declines config s arguments rcpt (.of .insufficientStorage "Too many recipients")
  | content (more : arguments ≠ "") :
      Declines config s arguments data (.syntaxError "Syntax: DATA (no parameters allowed)")
  | secured (active : s.isTls = true) :
      Declines config s arguments startTls (.of .badSequenceOfCommands "TLS already active")
  | unavailable (plain : s.isTls = false) (withheld : config.offerStartTls = false) :
      Declines config s arguments startTls (.of .commandNotImplemented "STARTTLS not available")
  | invitation (plain : s.isTls = false) (offered : config.offerStartTls = true)
      (more : arguments ≠ "") :
      Declines config s arguments startTls
        (.syntaxError "Syntax: STARTTLS (no parameters allowed)")
  | form {policy : AuthPolicy}
      (malformed : ∀ name rest, Text.words Text.isAsciiBlank arguments.toList = name :: rest →
        2 ≤ rest.length) :
      Declines config s arguments (auth policy)
        (.parameterNotImplemented "Syntax: AUTH mechanism [initial-response]")
  | mechanism {policy : AuthPolicy} {name : List Char} {rest : List (List Char)}
      (named : Text.words Text.isAsciiBlank arguments.toList = name :: rest)
      (short : rest.length ≤ 1)
      (unknown : AuthPolicy.find? policy s (String.ofList name) = none) :
      Declines config s arguments (auth policy)
        (.parameterNotImplemented "Unsupported AUTH mechanism")
  | encoding {policy : AuthPolicy} {name token : List Char} {factory : Factory}
      {flaw : Base64.Flaw}
      (named : Text.words Text.isAsciiBlank arguments.toList = [name, token])
      (known : AuthPolicy.find? policy s (String.ofList name) = some factory)
      (encoded : initialResponse? token = .error flaw) :
      Declines config s arguments (auth policy) (.syntaxError "Invalid base64")
  | early {policy : AuthPolicy} {name token : List Char} {factory : Factory} {response : Bytes}
      (named : Text.words Text.isAsciiBlank arguments.toList = [name, token])
      (known : AuthPolicy.find? policy s (String.ofList name) = some factory)
      (decoded : initialResponse? token = .ok response)
      (barred : factory.allowsInitial = false) :
      Declines config s arguments (auth policy)
        (.syntaxError (factory.name ++ " does not permit an initial response"))

/-- How a server refuses a command before anybody is asked. -/
inductive Refusal (server : Server κ) (s : Session κ) (line : Line) : Reply → Prop
  | unknown (unserved : server.dispatch.get? line.verb = none) :
      Refusal server s line .unrecognised
  | sequence {handler : Handler κ} (served : server.dispatch.get? line.verb = some handler)
      (invalid : handler.validFor s = false) : Refusal server s line .badSequence
  | declined {handler : Handler κ} {reply : Reply}
      (served : server.dispatch.get? line.verb = some handler) (valid : handler.validFor s = true)
      (declines : Declines server.site.config s (Grammar.arguments line.text) handler reply) :
      Refusal server s line reply

section

variable {config : Config} {s : Session κ} {line : Line} {handler : Handler κ} {reply : Reply}
  {site : Site κ} {text : String}

theorem Declines.refuses {arguments : String}
    (declines : Declines config s arguments handler reply) : refuses (.ok reply) = true := by
  cases declines <;> rfl

private theorem auth_run_of_words {policy : AuthPolicy} {name : List Char}
    {rest : List (List Char)}
    (named : Text.words Text.isAsciiBlank (Grammar.arguments text).toList = name :: rest)
    (short : rest.length ≤ 1) :
    (auth policy).run site s (some text) =
      authenticate policy (String.ofList name) rest.head? s := by
  cases rest with
  | nil => simp [auth, Handler.arguments, named]
  | cons token more =>
    obtain rfl : more = [] := by simpa using short
    simp [auth, Handler.arguments, named]

theorem Declines.run_eq
    (declines : Declines site.config s (Grammar.arguments text) handler reply) :
    ∃ t : Session κ, t.unlogged = s.unlogged ∧
      handler.run site s (some text) = Outcome.stay reply t := by
  cases declines with
  | domain unnamed => exact ⟨s, rfl, by simp [greetingBy, unnamed]⟩
  | sender malformed => exact ⟨s, rfl, by simp [mail, Handler.arguments, malformed]⟩
  | size named exceeds => exact ⟨s, rfl, by simp [mail, Handler.arguments, named, exceeds]⟩
  | recipient malformed => exact ⟨s, rfl, by simp [rcpt, Handler.arguments, malformed]⟩
  | recipients named full => exact ⟨s, rfl, by simp [rcpt, Handler.arguments, named, full]⟩
  | content more => exact ⟨s, rfl, by simp [data, Handler.arguments, more]⟩
  | secured active => exact ⟨s, rfl, by simp [startTls, active]⟩
  | unavailable plain withheld =>
    exact ⟨_, Session.unlogged_logWarn _ _, by simp [startTls, plain, withheld]; rfl⟩
  | invitation plain offered more =>
    exact ⟨s, rfl, by simp [startTls, plain, offered, Handler.arguments, more]⟩
  | form malformed =>
    refine ⟨s, rfl, ?_⟩
    rcases found : Text.words Text.isAsciiBlank (Grammar.arguments text).toList with
      _ | ⟨name, _ | ⟨token, _ | ⟨_, _⟩⟩⟩
    · simp [auth, Handler.arguments, found]
    · simpa using malformed name [] found
    · simpa using malformed name [token] found
    · simp [auth, Handler.arguments, found]
  | mechanism named short unknown =>
    rw [auth_run_of_words named short, authenticate, unknown]
    exact ⟨_, Session.unlogged_logWarn _ _, rfl⟩
  | encoding named known encoded =>
    refine ⟨s, rfl, ?_⟩
    rw [auth_run_of_words named (Nat.le_refl _), authenticate, known]
    simp [beginExchange, encoded]
  | early named known decoded barred =>
    refine ⟨s, rfl, ?_⟩
    rw [auth_run_of_words named (Nat.le_refl _), authenticate, known]
    simp [beginExchange, decoded, barred]

/-- What was done was no refusal, or not without a call. -/
def Outcome.Grants (s : Session κ) (line : Line) (done : Outcome κ) : Prop :=
  SmtpDialog.refuses (done.conclude line).1 = true →
    (done.conclude line).2.requests ≠ s.requests

private theorem grants_of_asked {done : Outcome κ} (asked : s.Asked done.2) :
    done.Grants s line := by
  intro _
  rw [Outcome.requests_conclude]
  exact asked.requests_ne

private theorem grants_of_goTo {next : State} {t : Session κ}
    (accepts : SmtpDialog.refuses (.ok reply) = false) :
    (Outcome.goTo next reply t).Grants s line := fun refused => by
  rw [show (Outcome.conclude line (Outcome.goTo next reply t)).1 = .ok reply from rfl, accepts]
    at refused
  contradiction

private theorem grants_of_stay {t : Session κ}
    (accepts : SmtpDialog.refuses (.ok reply) = false) :
    (Outcome.stay reply t).Grants s line := fun refused => by
  rw [show (Outcome.conclude line (Outcome.stay reply t)).1 = .ok reply from rfl, accepts]
    at refused
  contradiction

/-- Declined, or granted at least so far that somebody is asked. -/
private def Judged (site : Site κ) (s : Session κ) (line : Line) (handler : Handler κ) : Prop :=
  (∃ reply, Declines site.config s (Grammar.arguments line.text) handler reply) ∨
    (handler.run site s (some line.text)).Grants s line

private theorem greetingBy_judged {command : String}
    {answer : Site κ → Session κ → String → Reply}
    (accepts : ∀ t domain, SmtpDialog.refuses (.ok (answer site t domain)) = false) :
    Judged site s line (greetingBy command answer) := by
  cases named : Grammar.heloDomain? (Grammar.arguments line.text) with
  | none => exact .inl ⟨_, .domain named⟩
  | some domain =>
    right
    simp only [greetingBy, Option.bind_some, Function.comp_apply, named]
    exact grants_of_goTo (accepts _ _)

theorem beginTransaction_asked (site : Site κ) (sender : Grammar.PathArguments)
    (s : Session κ) : s.Asked (beginTransaction site sender s).2 := by
  rw [Session.Asked, ← Session.requests_closeMail s]
  simp only [beginTransaction, Session.openMail, Session.callOn]
  split
  · exact ⟨_, [_], rfl⟩
  · split
    · exact ⟨_, [_], Session.requests_adoptMail _ _⟩
    · exact ⟨_, [_], rfl⟩

theorem addRecipient_asked {mail : MailObject} (recipient : Grammar.PathArguments)
    (holds : s.mail = some mail) : s.Asked (addRecipient recipient s).2 := by
  simp only [addRecipient, Session.callMail_of_some holds]
  cases (mail.call (.rcptTo recipient.path recipient.parameters)).1 with
  | error fault => exact ⟨_, [], rfl⟩
  | ok reply =>
    dsimp only
    split <;> exact ⟨_, [], rfl⟩

private theorem beginContent_asked {mail : MailObject} (holds : s.mail = some mail) :
    s.Asked (beginContent s).2 := by
  simp only [beginContent]
  rw [Session.callMail_of_some (by exact holds)]
  cases (mail.call .prepare).1 with
  | error fault => exact ⟨_, [], Session.requests_closeMail _⟩
  | ok reply => exact ⟨_, [], rfl⟩

private theorem mail_judged : Judged site s line mail := by
  cases named : Grammar.reversePath? (Grammar.arguments line.text) with
  | none => exact .inl ⟨_, .sender named⟩
  | some sender =>
    cases exceeds : exceedsLimit site.config sender with
    | true => exact .inl ⟨_, .size named exceeds⟩
    | false =>
      right
      simp only [mail, Handler.arguments, Option.map_some, Option.getD_some, named, exceeds]
      exact grants_of_asked (beginTransaction_asked site sender s)

private theorem rcpt_judged {mail : MailObject} (holds : s.mail = some mail) :
    Judged site s line rcpt := by
  cases named : Grammar.forwardPath? (Grammar.arguments line.text) with
  | none => exact .inl ⟨_, .recipient named⟩
  | some recipient =>
    by_cases full : site.config.maxRecipients ≤ recipientCount s
    · exact .inl ⟨_, .recipients named full⟩
    · right
      simp only [rcpt, Handler.arguments, Option.map_some, Option.getD_some, named, if_neg full]
      exact grants_of_asked (addRecipient_asked recipient holds)

private theorem data_judged {mail : MailObject} (holds : s.mail = some mail) :
    Judged site s line data := by
  by_cases more : Grammar.arguments line.text = ""
  · right
    have begun : data.run site s (some line.text) = beginContent s := by
      simp [data, Handler.arguments, more]
    rw [begun]
    exact grants_of_asked (beginContent_asked holds)
  · exact .inl ⟨_, .content more⟩

private theorem startTls_judged : Judged site s line startTls := by
  cases active : s.isTls with
  | true => exact .inl ⟨_, .secured active⟩
  | false =>
    cases offered : site.config.offerStartTls with
    | false => exact .inl ⟨_, .unavailable active offered⟩
    | true =>
      by_cases more : Grammar.arguments line.text = ""
      · right
        simp only [startTls, active, offered, Handler.arguments, Option.map_some,
          Option.getD_some, more]
        exact grants_of_stay rfl
      · exact .inl ⟨_, .invitation active offered more⟩

theorem requests_continueExchange (e : Exchange) (response : Bytes) (t : Session κ) :
    (continueExchange e response t).2.requests =
      .mechanismHeard e.serial response (e.reaction response) :: t.requests := by
  rw [continueExchange_eq]
  dsimp only
  split
  · rfl
  · split
    · simp only [finishExchange]
      cases (e.reaction response).identity with
      | none => rfl
      | some identity => cases (e.reaction response).authcid? <;> rfl
    · rfl

private theorem grants_of_exchange (factory : Factory) (response : Bytes) :
    (continueExchange (openExchange factory s).1 response (openExchange factory s).2).Grants s
      line := by
  exact grants_of_asked ⟨_, [_], requests_continueExchange _ _ _⟩

private theorem auth_judged {policy : AuthPolicy} : Judged site s line (auth policy) := by
  rcases named : Text.words Text.isAsciiBlank (Grammar.arguments line.text).toList with
    _ | ⟨name, _ | ⟨token, _ | ⟨further, rest⟩⟩⟩
  · exact .inl ⟨_, .form (by simp [named])⟩
  · cases known : AuthPolicy.find? policy s (String.ofList name) with
    | none => exact .inl ⟨_, .mechanism named (Nat.zero_le _) known⟩
    | some factory =>
      right
      rw [auth_run_of_words named (Nat.zero_le _), authenticate, known]
      exact grants_of_exchange factory []
  · cases known : AuthPolicy.find? policy s (String.ofList name) with
    | none => exact .inl ⟨_, .mechanism named (Nat.le_refl _) known⟩
    | some factory =>
      cases first : initialResponse? token with
      | error flaw => exact .inl ⟨_, .encoding named known first⟩
      | ok response =>
        cases allowed : factory.allowsInitial with
        | false => exact .inl ⟨_, .early named known first allowed⟩
        | true =>
          right
          rw [auth_run_of_words named (Nat.le_refl _), authenticate, known]
          simp only [beginExchange, List.head?_cons, first, allowed]
          exact grants_of_exchange factory response
  · refine .inl ⟨_, .form fun _ others same => ?_⟩
    obtain ⟨-, rfl⟩ := List.cons.inj (named.symm.trans same)
    simp

/-- A valid command of a standard server is declined, or it is granted so far that somebody is asked. -/
private theorem serves_judged {features : List Feature} {verb : String} (fits : s.Fits s.state)
    (serves : Server.Serves features verb handler) (valid : handler.validFor s = true) :
    Judged site s line handler := by
  cases serves with
  | helo | ehlo => exact greetingBy_judged fun _ _ => rfl
  | mail => exact mail_judged
  | rcpt =>
    obtain ⟨mail, holds⟩ := fits.exists_mail (State.holdsMail_of_inTransaction valid)
    exact rcpt_judged holds
  | data =>
    have ready : s.state = .afterRcpt := by simpa [data] using valid
    obtain ⟨mail, holds⟩ := fits.exists_mail (by rw [ready]; rfl)
    exact data_judged holds
  | rset | quit => exact .inr (grants_of_goTo rfl)
  | noop | vrfy | help => exact .inr (grants_of_stay rfl)
  | startTls => exact startTls_judged
  | auth offered => exact auth_judged

end

theorem Refusal.refuses {server : Server κ} {s : Session κ} {line : Line} {reply : Reply}
    (refusal : Refusal server s line reply) : refuses (.ok reply) = true := by
  cases refusal with
  | unknown | sequence => rfl
  | declined served valid declines => exact declines.refuses

namespace Server

variable {config : Config} {newMail : Session κ → MailBehaviour} {custom : κ → Hook κ}
  {features : List Feature} {s : Session κ} {line : Line}

theorem consume_of_invalid (fits : s.Fits s.state) (quiet : s.state ≠ .readingData)
    (idle : s.properties.get? Key.exchange.name = none) (terminated : line.isTerminated = true)
    {handler : Handler κ}
    (served : (ofFeatures config newMail custom features).dispatch.get? line.verb = some handler)
    (invalid : handler.validFor s = false) :
    (ofFeatures config newMail custom features).consume s line = (.ok .badSequence, s) := by
  rw [consume_of_idle fits quiet idle, Dispatch.consume, if_pos terminated, served]
  simp only [Handler.handle, invalid]
  rfl

/-- A command that is refused before anybody is asked leaves the session as it was. -/
theorem consume_of_refusal (fits : s.Fits s.state) (quiet : s.state ≠ .readingData)
    (idle : s.properties.get? Key.exchange.name = none) (terminated : line.isTerminated = true)
    {reply : Reply}
    (refusal : Refusal (ofFeatures config newMail custom features) s line reply) :
    let done := (ofFeatures config newMail custom features).consume s line
    done.1 = .ok reply ∧ done.2.unlogged = s.unlogged := by
  cases refusal with
  | unknown unserved =>
    rw [consume_of_idle fits quiet idle, Dispatch.consume, if_pos terminated, unserved]
    exact ⟨rfl, rfl⟩
  | sequence served invalid =>
    rw [consume_of_invalid fits quiet idle terminated served invalid]
    exact ⟨rfl, rfl⟩
  | declined served valid declines =>
    obtain ⟨t, same, run⟩ := declines.run_eq
    rw [consume_of_idle fits quiet idle, Dispatch.consume, if_pos terminated, served]
    simp only [Handler.handle, if_pos valid]
    rw [run]
    exact ⟨rfl, same⟩

/-- Whatever is refused without a call is among the listed refusals. -/
theorem refusal_of_uncalled (fits : s.Fits s.state) (quiet : s.state ≠ .readingData)
    (idle : s.properties.get? Key.exchange.name = none) (terminated : line.isTerminated = true)
    (refused : SmtpDialog.refuses ((ofFeatures config newMail custom features).consume s line).1 = true)
    (uncalled : ((ofFeatures config newMail custom features).consume s line).2.requests =
      s.requests) :
    ∃ reply, Refusal (ofFeatures config newMail custom features) s line reply := by
  cases found : (ofFeatures config newMail custom features).dispatch.get? line.verb with
  | none => exact ⟨_, .unknown found⟩
  | some handler =>
    cases valid : handler.validFor s with
    | false => exact ⟨_, .sequence found valid⟩
    | true =>
      have serves := serves_of_get? config newMail custom features found
      have judged : Judged (ofFeatures config newMail custom features).site s line handler :=
        serves_judged fits serves valid
      rcases judged with ⟨reply, declines⟩ | grants
      · exact ⟨reply, .declined found valid declines⟩
      · rw [consume_of_idle fits quiet idle, Dispatch.consume, if_pos terminated, found]
          at refused uncalled
        simp only [Handler.handle, if_pos valid] at refused uncalled
        exact absurd uncalled (grants refused)

/-- Outside of messages and exchanges, whatever is refused without a call on a mail object or a mechanism
leaves the session as it was, log records aside. These are the refusals that are listed, each with its
own reply. And a command out of sequence is answered, and there is not even a log record. -/
theorem refused_command_changes_nothing {peer : String}
    (reachable : (ofFeatures config newMail custom features).Reachable peer s)
    (quiet : s.state ≠ .readingData) (idle : s.properties.get? Key.exchange.name = none)
    (terminated : line.isTerminated = true) :
    let server := ofFeatures config newMail custom features
    let done := server.consume s line
    (refuses done.1 = true → done.2.requests = s.requests → done.2.unlogged = s.unlogged) ∧
      (∀ reply, Refusal server s line reply ↔
        done.1 = .ok reply ∧ refuses done.1 = true ∧ done.2.requests = s.requests) ∧
      ∀ handler, server.dispatch.get? line.verb = some handler → handler.validFor s = false →
        done = (.ok .badSequence, s) := by
  obtain ⟨past, run⟩ := reachable
  have fits := run.fits
  refine ⟨fun refused uncalled => ?_, fun reply => ⟨fun refusal => ?_, ?_⟩,
    fun handler => consume_of_invalid fits quiet idle terminated⟩
  · obtain ⟨reply, refusal⟩ := refusal_of_uncalled fits quiet idle terminated refused uncalled
    exact (consume_of_refusal fits quiet idle terminated refusal).2
  · obtain ⟨answered, same⟩ := consume_of_refusal fits quiet idle terminated refusal
    exact ⟨answered, answered ▸ refusal.refuses, Session.requests_of_unlogged same⟩
  · rintro ⟨answered, refused, uncalled⟩
    obtain ⟨other, refusal⟩ := refusal_of_uncalled fits quiet idle terminated refused uncalled
    obtain ⟨same, -⟩ := consume_of_refusal fits quiet idle terminated refusal
    obtain rfl : other = reply := Except.ok.inj (same.symm.trans answered)
    exact refusal

/-- A sender who declares too large a size is refused, and the session is still that after EHLO. -/
theorem refused_command_changes_nothing_of_size :
    let server := ofFeatures { maxMessageSize := 1000 } (fun _ _ _ => .ok .ok) Empty.elim
      Feature.standard
    let s := (server.replay "client.example" [.connect, .line (.ofText "EHLO client.example")]).2
    let done := server.consume s (.ofText "MAIL FROM:<zim@irk.example> SIZE=1001")
    s.state = .afterEhlo ∧ done.1 = .ok (tooLarge { maxMessageSize := 1000 }) ∧
      done.2.unlogged = s.unlogged := by
  intro server s done
  have ⟨state, quiet, vacant⟩ : s.state = .afterEhlo ∧ s.state ≠ .readingData ∧
      (s.properties.get? Key.exchange.name).isNone = true := by decide +kernel
  have run : server.Reachable "client.example" s :=
    ⟨_, run_replay server "client.example" _ (by decide +kernel)⟩
  have ⟨terminated, verb⟩ :
      (Line.ofText "MAIL FROM:<zim@irk.example> SIZE=1001").isTerminated = true ∧
        Text.upper (Line.ofText "MAIL FROM:<zim@irk.example> SIZE=1001").verb = "MAIL" := by
    decide +kernel
  have served : server.dispatch.get?
      (Line.ofText "MAIL FROM:<zim@irk.example> SIZE=1001").verb = some mail :=
    dispatch_get?_of_standard _ _ _ _ (List.mem_of_getElem? (i := 2) rfl) verb
  have declines : Declines server.site.config s
      (Grammar.arguments (Line.ofText "MAIL FROM:<zim@irk.example> SIZE=1001").text) mail
      (tooLarge { maxMessageSize := 1000 }) := by
    have named : Grammar.reversePath?
        (Grammar.arguments (Line.ofText "MAIL FROM:<zim@irk.example> SIZE=1001").text) =
          some ⟨"zim@irk.example", "SIZE=1001"⟩ := by decide +kernel
    exact .size named (by decide +kernel)
  have facts := refused_command_changes_nothing run quiet (Option.isNone_iff_eq_none.mp vacant)
    terminated
  obtain ⟨answered, refused, uncalled⟩ :=
    (facts.2.1 _).mp (.declined served (beq_iff_eq.mpr state) declines)
  exact ⟨state, answered, facts.1 refused uncalled⟩

end Server

end SmtpDialog
