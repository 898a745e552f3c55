/- digest: PLAIN and LOGIN are ways to the same end. -/
import SmtpDialog.Proofs.Consultation
import SmtpDialog.Proofs.Exchanges
import SmtpDialog.Proofs.Requests

/-!
A client may hand over a user name and a password by PLAIN, at once or when it is asked, or by LOGIN. Each
way is a conversation of its own, in which every reply of 334 is answered by the next response. Up to the
last response nothing but the exchange changes, and with it the same question is put to the check. Main
statement: in every session of a server of the library the three ways have the same reply and lead to the
same state, identity and log prefix, unless the user name is empty.
-/

set_option autoImplicit false
set_option relaxedAutoImplicit false

namespace SmtpDialog

open Command

variable {κ : Type}

/-- What a client that answers each 334 by its next line is told in the end, and the session then. -/
def Server.pursue (server : Server κ) (s : Session κ) (line : Line) :
    List Line → Except Fault Reply × Session κ
  | [] => server.consume s line
  | next :: rest =>
    match server.consume s line with
    | (.ok reply, t) =>
      if reply.code? = some Code.serverChallenge.number then pursue server t next rest
      else (.ok reply, t)
    | broken => broken

/-- The ways of handing over a user name and a password. -/
inductive LoginWay
  /-- PLAIN with its message as the initial response. -/
  | plain
  /-- PLAIN with its message after the empty challenge. -/
  | plainAsked
  | login

namespace LoginWay

def name : LoginWay → String
  | plain | plainAsked => "PLAIN"
  | login => "LOGIN"

theorem isMechanismName_name (way : LoginWay) : Grammar.isMechanismName way.name = true := by
  cases way <;> decide +kernel

def factory (check : CredentialCheck) : LoginWay → Factory
  | plain | plainAsked => .plain check
  | login => .login check

def message (user : String) (password : Bytes) : Bytes := 0 :: (Utf8.ofString user ++ 0 :: password)

def initial (user : String) (password : Bytes) : LoginWay → Option Bytes
  | plain => some (message user password)
  | plainAsked | login => none

def responses (user : String) (password : Bytes) : LoginWay → List Bytes
  | plain => []
  | plainAsked => [message user password]
  | login => [Utf8.ofString user, password]

end LoginWay

/-- What becomes of a client that hands over a user name and a password. -/
def Server.logIn (server : Server κ) (way : LoginWay) (user : String) (password : Bytes)
    (s : Session κ) : Except Fault Reply × Session κ :=
  server.pursue s (.asking way.name (way.initial user password))
    ((way.responses user password).map .bringing)

/-- Two sessions are alike in their state, in who the client is, and in what checks have been asked. -/
structure Session.Matches (s t : Session κ) : Prop where
  state : s.state = t.state
  identity : s.properties.get? Key.identity.name = t.properties.get? Key.identity.name
  authcid : s.properties.get? Key.authcid.name = t.properties.get? Key.authcid.name
  logPrefix : s.logPrefix = t.logPrefix
  questions : ∀ serial, s.questions serial = t.questions serial

namespace Session.Matches

variable {s t u : Session κ}

theorem refl (s : Session κ) : s.Matches s := ⟨rfl, rfl, rfl, rfl, fun _ => rfl⟩

theorem symm (h : s.Matches t) : t.Matches s :=
  ⟨h.state.symm, h.identity.symm, h.authcid.symm, h.logPrefix.symm, fun serial => (h.questions serial).symm⟩

theorem trans (h : s.Matches t) (h' : t.Matches u) : s.Matches u :=
  ⟨h.state.trans h'.state, h.identity.trans h'.identity, h.authcid.trans h'.authcid,
    h.logPrefix.trans h'.logPrefix, fun serial => (h.questions serial).trans (h'.questions serial)⟩

end Session.Matches

theorem Session.questions_unlogged (serial : Nat) (s : Session κ) :
    s.unlogged.questions serial = s.questions serial := by
  rw [questions, hearings_unlogged, questions]

theorem Session.matches_unlogged (s : Session κ) : s.unlogged.Matches s :=
  ⟨rfl, rfl, rfl, rfl, fun serial => questions_unlogged serial s⟩

theorem Session.matches_clearExchange (s : Session κ) : (s.clearProperty .exchange).Matches s :=
  ⟨rfl, by simp [clearProperty, get?_erase], by simp [clearProperty, get?_erase], rfl, fun _ => rfl⟩

theorem Session.questions_of_journal {s t : Session κ} (serial : Nat) (more : List Event)
    (journal : t.journal = more ++ s.journal) :
    t.questions serial =
      s.questions serial ++ (more.filterMap (Event.hearing? serial)).reverse.flatMap (·.2.checks) := by
  rw [questions, hearings_of_journal serial more journal, List.reverse_append, List.flatMap_append,
    questions]

/-- The reply to the answer of a check. -/
def CheckedCredentials.reply (question : CheckedCredentials) : Reply :=
  match question.answer with
  | .error _ => .serverError
  | .ok .denied => .of .authenticationCredentialsInvalid "Authentication credentials invalid"
  | .ok (.authorized _) => .of .authenticationSucceeded "Authentication successful"

/-- A check has been asked in an exchange, and the client is whom it authorizes, if anybody. -/
structure Session.Judged (serial : Nat) (question : CheckedCredentials) (s t : Session κ) : Prop where
  state : t.state = if question.identity?.isSome then .afterEhlo else s.state
  identity : t.properties.get? Key.identity.name =
    (question.identity?.map .text).or (s.properties.get? Key.identity.name)
  authcid : t.properties.get? Key.authcid.name =
    (question.authcid?.map .text).or (s.properties.get? Key.authcid.name)
  logPrefix : t.logPrefix = (question.identity?.map (s.logPrefix.setUser ·)).getD s.logPrefix
  questions : ∀ other, t.questions other =
    s.questions other ++ if serial = other then [question] else []

namespace Session.Judged

variable {serial : Nat} {question : CheckedCredentials} {s t u v : Session κ}

/-- The answer alone decides. -/
theorem agree (h : Judged serial question s t) (h' : Judged serial question s u) : t.Matches u :=
  ⟨h.state.trans h'.state.symm, h.identity.trans h'.identity.symm, h.authcid.trans h'.authcid.symm,
    h.logPrefix.trans h'.logPrefix.symm,
    fun other => (h.questions other).trans (h'.questions other).symm⟩

theorem congr (h : Judged serial question u v) (before : u.Matches s) (after : v.Matches t) :
    Judged serial question s t where
  state := by rw [← after.state, h.state, before.state]
  identity := by rw [← after.identity, h.identity, before.identity]
  authcid := by rw [← after.authcid, h.authcid, before.authcid]
  logPrefix := by rw [← after.logPrefix, h.logPrefix, before.logPrefix]
  questions other := by rw [← after.questions, h.questions, before.questions]

end Session.Judged

section

variable {e : Exchange} {response : Bytes} {u t : Session κ} {reply : Reply}

/-- A prompt changes nothing but the exchange, which the next line goes to. -/
theorem Continued.prompted {challenge : Bytes} {check : CredentialCheck}
    (continued : Continued e response u reply t)
    (prompts : e.reaction response = (Mechanism.Move.prompt challenge).reaction check) :
    reply.code? = some Code.serverChallenge.number ∧ t.Matches u ∧
      t.properties.get? Key.exchange.name = some (.exchange (e.after response)) ∧
      ∃ rest, t.consumers.values = .responses :: rest := by
  cases continued with
  | asked wants unfinished =>
    refine ⟨rfl, ⟨rfl, ?_, ?_, rfl, fun serial => ?_⟩, ?_, _, rfl⟩
    · simp [Session.get?_insert]
    · simp [Session.get?_insert]
    · rw [Session.questions_of_journal serial [_] rfl, Session.questions_unlogged, prompts]
      by_cases own : e.serial = serial <;>
        simp [Event.hearing?, own, Mechanism.Move.reaction, Reaction.idle]
    · simp [Session.get?_insert]
  | failed broke => simp [prompts, Mechanism.Move.reaction] at broke
  | denied wants finished nobody => simp [prompts, Mechanism.Move.reaction, Reaction.idle] at finished
  | succeeded wants finished somebody =>
    simp [prompts, Mechanism.Move.reaction, Reaction.idle] at finished

private theorem Mechanism.Move.reaction_ask (check : CredentialCheck) (authzid authcid : String)
    (credential : Bytes) :
    let question := check.ask authzid authcid credential
    (Mechanism.Move.ask authzid authcid credential).reaction check =
      ⟨question.answer.map fun _ => [], true, question.identity?,
        question.authcid?.toList.map ("authcid", ·), [question]⟩ := rfl

/-- Where the check is asked, its answer decides what becomes of the exchange. -/
theorem Continued.judged {check : CredentialCheck} {authzid authcid : String} {credential : Bytes}
    (continued : Continued e response u reply t)
    (asks : e.reaction response = (Mechanism.Move.ask authzid authcid credential).reaction check) :
    reply = (check.ask authzid authcid credential).reply ∧
      Session.Judged e.serial (check.ask authzid authcid credential) u t := by
  rw [Mechanism.Move.reaction_ask] at asks
  generalize check.ask authzid authcid credential = question at asks ⊢
  have heard {t : Session κ} (journal : t.journal = [.mechanismDisposed e.serial,
      .mechanismHeard e.serial response (e.reaction response)] ++ u.unlogged.journal) (other : Nat) :
      t.questions other = u.questions other ++ if e.serial = other then [question] else [] := by
    rw [Session.questions_of_journal other _ journal, Session.questions_unlogged, asks]
    by_cases own : e.serial = other
    · simp [Event.hearing?, own, List.filterMap_cons]
    · simp [Event.hearing?, own]
  have unmoved {t : Session κ} (nobody : question.identity? = none) (state : t.state = u.state)
      (properties : t.properties = u.properties) (logPrefix : t.logPrefix = u.logPrefix)
      (journal : t.journal = _) : Session.Judged e.serial question u t :=
    ⟨by rw [nobody, state]; rfl, by rw [nobody, properties]; rfl,
      by rw [CheckedCredentials.authcid?, nobody, properties]; rfl, by rw [nobody, logPrefix]; rfl,
      heard journal⟩
  cases continued with
  | asked wants unfinished => rw [asks] at unfinished; contradiction
  | failed broke =>
    cases answer : question.answer with
    | ok verdict => rw [asks, answer] at broke; contradiction
    | error fault =>
      refine ⟨by rw [CheckedCredentials.reply, answer], unmoved ?_ rfl rfl rfl rfl⟩
      rw [CheckedCredentials.identity?, answer]
  | denied wants finished nobody =>
    rw [asks] at wants nobody
    refine ⟨?_, unmoved nobody rfl rfl rfl rfl⟩
    rw [CheckedCredentials.reply]
    cases answer : question.answer with
    | error fault => rw [answer] at wants; contradiction
    | ok verdict =>
      cases verdict with
      | denied => rfl
      | authorized identity =>
        rw [CheckedCredentials.identity?_eq_some.mpr answer] at nobody
        contradiction
  | @succeeded _ identity wants finished somebody =>
    have known : question.identity? = some identity := by rw [← somebody, asks]
    have named : question.authcid? = some question.authcid := by
      rw [CheckedCredentials.authcid?, known, Option.map_some]
    have told : (e.reaction response).authcid? = some question.authcid := by
      rw [asks, named]
      rfl
    refine ⟨?_, ?_, ?_, ?_, ?_, heard rfl⟩
    · rw [CheckedCredentials.reply, CheckedCredentials.identity?_eq_some.mp known]
    · rw [known]
      rfl
    · simp [told, known, Session.get?_insert]
    · simp [told, named, Session.get?_insert]
    · rw [known]
      rfl

end

namespace Mechanism

/-- Whether a response and those after it lead from the ones before, prompt by prompt, to a move. -/
inductive Leads (moves : List Bytes → Move → Prop) (move : Move) :
    List Bytes → Bytes → List Bytes → Prop
  | last {heard : List Bytes} {response : Bytes} (called : moves (heard ++ [response]) move) :
      Leads moves move heard response []
  | prompted {heard : List Bytes} {response next : Bytes} {rest : List Bytes} {challenge : Bytes}
      (called : moves (heard ++ [response]) (.prompt challenge))
      (later : Leads moves move (heard ++ [response]) next rest) :
      Leads moves move heard response (next :: rest)

theorem Reacts.reaction_eq {m : Mechanism} {check : CredentialCheck}
    {moves : List Bytes → Move → Prop} {responses : List Bytes} {response : Bytes} {move : Move}
    (reacts : m.Reacts check moves responses response) (single : Single moves)
    (called : moves (responses ++ [response]) move) :
    m.lastReaction (responses ++ [response]) = move.reaction check := by
  cases reacts with
  | moved other opened called' reaction => rw [reaction, single called' called]
  | refused fault uncalled opened reaction => exact absurd called (uncalled move)
  | closed fault uncalled shut reaction => exact absurd called (uncalled move)

end Mechanism

theorem Exchange.reaction_afterAll (e : Exchange) (heard : List Bytes) (response : Bytes) :
    (e.afterAll heard).reaction response = e.mechanism.lastReaction (heard ++ [response]) := by
  rw [Mechanism.lastReaction, reactions_concat, List.getLast?_concat, Option.getD_some]

namespace Server

variable {server : Server κ} {s t u : Session κ} {line next : Line} {rest : List Line}

theorem pursue_of_prompted {reply : Reply} (answered : server.consume s line = (.ok reply, t))
    (code : reply.code? = some Code.serverChallenge.number) :
    server.pursue s line (next :: rest) = server.pursue t next rest := by
  rw [pursue, answered]
  exact if_pos code

theorem pursue_of_ended {reply : Reply} (answered : (server.consume s line).1 = .ok reply)
    (code : reply.code? ≠ some Code.serverChallenge.number) :
    server.pursue s line rest = server.consume s line := by
  cases rest with
  | nil => rfl
  | cons next rest =>
    have split : server.consume s line = (.ok reply, (server.consume s line).2) :=
      Prod.ext answered rfl
    rw [pursue, split]
    exact if_neg code

theorem matches_openExchange (factory : Factory) (s : Session κ) :
    (openExchange factory s).2.Matches s :=
  ⟨rfl, rfl, rfl, rfl, fun serial =>
    (Session.questions_of_journal serial [_] rfl).trans (List.append_nil _)⟩

/-- A conversation that leads to a question ends with its answer. -/
theorem pursue_of_leads {e : Exchange} {check : CredentialCheck}
    {moves : List Bytes → Mechanism.Move → Prop} {authzid authcid : String} {credential : Bytes}
    (single : Mechanism.Single moves)
    (reacts : ∀ responses response, e.mechanism.Reacts check moves responses response)
    {heard : List Bytes} {response : Bytes} {responses : List Bytes}
    (leads : Mechanism.Leads moves (.ask authzid authcid credential) heard response responses)
    (hears : server.consume t line =
      Outcome.conclude line (continueExchange (e.afterAll heard) response u))
    (before : u.Matches s) :
    let done := server.pursue t line (responses.map .bringing)
    done.1 = .ok (check.ask authzid authcid credential).reply ∧
      Session.Judged e.serial (check.ask authzid authcid credential) s done.2 := by
  -- The induction is on the responses that are left; the present one is heard in `u`.
  induction leads generalizing t u line with
  | @last heard response called =>
    have asks := (reacts heard response).reaction_eq single called
    rw [← Exchange.reaction_afterAll] at asks
    obtain ⟨reply, answered, continued⟩ :=
      continueExchange_continued (e.afterAll heard) response u line
    rw [List.map_nil, pursue, hears]
    obtain ⟨same, judged⟩ := continued.judged asks
    rw [Exchange.afterAll_serial] at judged
    exact ⟨by rw [answered, same], judged.congr before (Session.matches_unlogged _)⟩
  | @prompted heard response next rest challenge called later ih =>
    have prompts := (reacts heard response).reaction_eq single called
    rw [← Exchange.reaction_afterAll] at prompts
    obtain ⟨reply, answered, continued⟩ :=
      continueExchange_continued (e.afterAll heard) response u line
    rw [← hears] at answered continued
    obtain ⟨code, alike, pending, behind, front⟩ := continued.prompted prompts
    have split : server.consume t line = (.ok reply, (server.consume t line).2) :=
      Prod.ext answered rfl
    rw [List.map_cons, pursue_of_prompted split code]
    refine ih (u := (server.consume t line).2.clearProperty .exchange) ?_ ?_
    · have heard : server.consume (server.consume t line).2 (.bringing next) = _ :=
        consume_of_responses (s := (server.consume t line).2) front pending
      rw [heard, (Line.bringing_brings next).takeResponse_eq, Exchange.afterAll_concat]
    · exact (Session.matches_clearExchange _).trans
        ((Session.matches_unlogged _).symm.trans (alike.trans before))

theorem Begins.pursue {policy : AuthPolicy} {front : List (Consumer κ)} {factory : Factory}
    {initial : Option Bytes} {m : Mechanism} {check : CredentialCheck}
    {moves : List Bytes → Mechanism.Move → Prop} {authzid authcid : String} {credential : Bytes}
    {responses : List Bytes} (begins : server.Begins policy front factory initial s line)
    (named : Grammar.isMechanismName factory.name = true) (creates : factory.create s.journal = m)
    (single : Mechanism.Single moves)
    (reacts : ∀ responses response, m.Reacts check moves responses response)
    (leads : Mechanism.Leads moves (.ask authzid authcid credential) [] (initial.getD []) responses) :
    let done := server.pursue s line (responses.map .bringing)
    done.1 = .ok (check.ask authzid authcid credential).reply ∧
      Session.Judged s.exchangesOpened (check.ask authzid authcid credential) s done.2 := by
  subst creates
  exact pursue_of_leads (e := (openExchange factory s).1) single reacts leads
    (begins.consume_eq named) (matches_openExchange factory s)

end Server

theorem Receipt.matches {config : Config} {line : Line} {s t : Session κ}
    {answer : Except Fault Reply} (receipt : Receipt config line s answer t)
    (content : line.endsContent = false) : answer = .ok .silent ∧ t.Matches s := by
  have told (serial : Nat) (call : MailCall) (given : Except Fault Reply) (mail : Nat)
      {t : Session κ} (journal : t.journal = [.mailCalled mail call given] ++ s.unlogged.journal) :
      t.questions serial = s.questions serial := by
    rw [Session.questions_of_journal serial _ journal, Session.questions_unlogged]
    exact List.append_nil _
  cases receipt with
  | dropped => exact ⟨rfl, s.matches_unlogged⟩
  | overflowed =>
    exact ⟨rfl, rfl, by simp [Session.get?_insert], by simp [Session.get?_insert], rfl,
      fun serial => Session.questions_unlogged serial s⟩
  | written | broken =>
    exact ⟨rfl, rfl, by simp [Session.get?_insert], by simp [Session.get?_insert], rfl,
      fun serial => told serial _ _ _ rfl⟩
  | abandoned dot | completed dot =>
    rw [content] at dot
    contradiction

namespace Server

/-- Whether a line of AUTH may begin an exchange. -/
def Admits (policy : AuthPolicy) (s : Session κ) : Prop :=
  (Command.auth policy : Handler κ).validFor s = true ∧
    s.properties.get? Key.exchange.name = none

/-- The reply to a line of AUTH that may not begin an exchange. -/
def refusal (s : Session κ) : Reply :=
  if s.state = .readingData then .silent
  else if s.hasProperty .exchange then .serverError
  else .badSequence

private theorem code?_refusal_ne (s : Session κ) :
    (refusal s).code? ≠ some Code.serverChallenge.number := by
  rw [refusal]
  split
  · decide
  · split <;> decide

variable {config : Config} {newMail : Session κ → MailBehaviour} {custom : κ → Hook κ}
  {features : List Feature} {policy : AuthPolicy} {s : Session κ} {name : String}

/-- Where AUTH is not admitted, it is refused in the same way whatever the mechanism, and the check is not
asked. -/
theorem consume_asking_of_refused (fits : s.Fits s.state)
    (offered : Feature.policy? features = some policy)
    (named : Grammar.isMechanismName name = true) (initial : Option Bytes)
    (refused : ¬Admits policy s) :
    let done := (ofFeatures config newMail custom features).consume s (.asking name initial)
    done.1 = .ok (refusal s) ∧ done.2.Matches s := by
  intro done
  by_cases receiving : s.state = .readingData
  · have receipt : Receipt config (.asking name initial) s done.1 done.2.unlogged :=
      consume_receipt fits receiving
    obtain ⟨silent, alike⟩ := receipt.matches (Line.endsContent_asking name initial)
    rw [refusal, if_pos receiving]
    exact ⟨silent, (Session.matches_unlogged done.2).symm.trans alike⟩
  · cases pending : s.properties.get? Key.exchange.name with
    | some v =>
      obtain ⟨⟨e, rfl⟩, -⟩ := fits.exchange v pending
      obtain ⟨star, flaw, encoded⟩ := Line.exists_flaw_asking named initial
      have met : done = _ := consume_of_pending fits pending
      have taken : s.hasProperty .exchange = true := by
        rw [Session.hasProperty, Table.contains, pending]
        rfl
      simp only [takeResponse, if_neg star, encoded] at met
      rw [met, refusal, if_neg receiving, if_pos taken]
      exact ⟨rfl, rfl, Session.get?_erase .exchange .identity _, Session.get?_erase .exchange .authcid _,
        rfl, fun serial =>
          (Session.questions_of_journal serial [_, _] rfl).trans (List.append_nil _)⟩
    | none =>
      obtain ⟨terminated, verb, -⟩ := Line.read_asking offered named initial
      have barred : (Command.auth policy : Handler κ).validFor s = false :=
        Bool.eq_false_iff.mpr fun valid => refused ⟨valid, pending⟩
      have vacant : s.hasProperty .exchange = false := by
        rw [Session.hasProperty, Table.contains, pending]
        rfl
      have met : done = _ := consume_of_idle fits receiving pending
      rw [Dispatch.consume, if_pos terminated, dispatch_get?_auth config newMail custom features verb,
        offered, Option.map_some] at met
      simp only [Handler.handle, barred, Bool.false_eq_true, if_false] at met
      rw [met, refusal, if_neg receiving, if_neg (Bool.eq_false_iff.mp vacant)]
      exact ⟨rfl, .refl s⟩

variable {check : CredentialCheck} {user : String} {password : Bytes} {peer : String}

private theorem message_sent (named : user ≠ "") (free : 0 ∉ Utf8.ofString user ++ password) :
    Plain.Message (LoginWay.message user password) "" user password := by
  rw [List.mem_append, not_or] at free
  refine ⟨rfl, ?_, named⟩
  rw [LoginWay.message, List.count_cons_self, List.count_append, List.count_cons_self,
    List.count_eq_zero.mpr free.1, List.count_eq_zero.mpr free.2]

/-- Where AUTH is admitted, each way ends with the check's answer to the same question. -/
theorem logIn_judged (fits : s.Fits s.state) (offered : Feature.policy? features = some policy)
    (admits : Admits policy s) (way : LoginWay)
    (available : AuthPolicy.find? policy s way.name = some (way.factory check)) (named : user ≠ "")
    (free : 0 ∉ Utf8.ofString user ++ password) :
    let question := check.ask "" user password
    let done := (ofFeatures config newMail custom features).logIn way user password s
    done.1 = .ok question.reply ∧ Session.Judged s.exchangesOpened question s done.2 := by
  have sent := message_sent named free
  have valid := way.isMechanismName_name
  have begins : (ofFeatures config newMail custom features).Begins policy [] (way.factory check)
      (way.initial user password) s (.asking way.name (way.initial user password)) := by
    obtain ⟨registered, usable⟩ := Option.filter_eq_some_iff.mp available
    obtain ⟨-, allowed⟩ := Bool.and_eq_true_iff.mp usable
    obtain ⟨terminated, verb, args⟩ :=
      Line.read_asking offered valid (way.initial user password)
    refine begins_of_fits fits offered admits.2 admits.1 terminated verb ⟨way.name.toList, ?_, ?_⟩
      allowed ?_
    · rw [String.ofList_toList, registered]
    · rw [args, Line.words_request valid]
    · cases way <;> simp [LoginWay.initial, LoginWay.factory, Factory.plain]
  cases way with
  | plain =>
    exact begins.pursue valid rfl Plain.single_moves Plain.reacts (.last (.message sent))
  | plainAsked =>
    exact begins.pursue valid rfl Plain.single_moves Plain.reacts
      (.prompted .start (.last (.answer sent)))
  | login =>
    exact begins.pursue valid rfl Login.single_moves Login.reacts
      (.prompted .start (.prompted (.username user) (.last (.password user password))))

/-- A user name and a password have the same effect by every way. Where AUTH is admitted the check is asked
about them and its answer decides, unless the user name is empty; elsewhere AUTH is refused. -/
theorem logIn_agrees (reachable : (ofFeatures config newMail custom features).Reachable peer s)
    (offered : Feature.policy? features = some policy)
    (plain : AuthPolicy.find? policy s "PLAIN" = some (.plain check))
    (login : AuthPolicy.find? policy s "LOGIN" = some (.login check))
    (named : Admits policy s → user ≠ "") (free : 0 ∉ Utf8.ofString user ++ password)
    (way way' : LoginWay) :
    let server := ofFeatures config newMail custom features
    let done := server.logIn way user password s
    let done' := server.logIn way' user password s
    (done.1 = done'.1 ∧ done.2.Matches done'.2) ∧
      (Admits policy s → done.1 = .ok (check.ask "" user password).reply ∧
        Session.Judged s.exchangesOpened (check.ask "" user password) s done.2) ∧
      (¬Admits policy s → done.1 = .ok (refusal s) ∧ done.2.Matches s) := by
  obtain ⟨past, run⟩ := reachable
  intro server done done'
  have available (way : LoginWay) :
      AuthPolicy.find? policy s way.name = some (way.factory check) := by
    cases way with
    | plain | plainAsked => exact plain
    | login => exact login
  have judged (admits : Admits policy s) (way : LoginWay) :
      let question := check.ask "" user password
      let done := server.logIn way user password s
      done.1 = .ok question.reply ∧ Session.Judged s.exchangesOpened question s done.2 :=
    logIn_judged run.fits offered admits way (available way) (named admits) free
  have refused (bars : ¬Admits policy s) (way : LoginWay) :
      (server.logIn way user password s).1 = .ok (refusal s) ∧
        (server.logIn way user password s).2.Matches s := by
    have met : let done := server.consume s (.asking way.name (way.initial user password))
        done.1 = .ok (refusal s) ∧ done.2.Matches s :=
      consume_asking_of_refused run.fits offered way.isMechanismName_name _ bars
    rw [logIn, pursue_of_ended met.1 (code?_refusal_ne s)]
    exact met
  by_cases admits : Admits policy s
  · obtain ⟨same, mine⟩ := judged admits way
    obtain ⟨same', other⟩ := judged admits way'
    exact ⟨⟨same.trans same'.symm, mine.agree other⟩, fun _ => ⟨same, mine⟩, absurd admits⟩
  · obtain ⟨same, mine⟩ := refused admits way
    obtain ⟨same', other⟩ := refused admits way'
    exact ⟨⟨same.trans same'.symm, mine.trans other.symm⟩, (absurd · admits), fun _ => ⟨same, mine⟩⟩

/-- A user name of letters beyond ASCII and a password of any bytes. -/
theorem logIn_agrees_of_accents :
    let check : CredentialCheck := fun _ authcid _ => .ok (.authorized authcid)
    let policy : AuthPolicy := ⟨⟨[.plain check, .login check]⟩, false⟩
    let server := accepting {} [.size, .auth policy]
    let s := (server.replay "client.example" [.connect, .line (.ofText "EHLO client.example")]).2
    let done := server.logIn .plainAsked "Müller" [1, 255] s
    let done' := server.logIn .login "Müller" [1, 255] s
    done.1.toOption.bind Reply.code? = some 235 ∧
      done'.2.read? Value.text? .identity = some "Müller" ∧ done.1 = done'.1 ∧
      done.2.Matches done'.2 := by
  intro check policy server s done done'
  have run : server.Reachable "client.example" s :=
    ⟨_, run_replay server "client.example" [.connect, .line (.ofText "EHLO client.example")]
      (by decide +kernel)⟩
  have ⟨apart, same, same'⟩ : Text.sameLetters "PLAIN" "LOGIN" = false ∧
      Text.sameLetters "PLAIN" "PLAIN" = true ∧ Text.sameLetters "LOGIN" "LOGIN" = true := by
    decide +kernel
  have ⟨registered, registered'⟩ : policy.registry.get? "PLAIN" = some (.plain check) ∧
      policy.registry.get? "LOGIN" = some (.login check) := by
    simp [policy, Registry.get?, Factory.plain, Factory.login, apart, same, same']
  have plain : AuthPolicy.find? policy s "PLAIN" = some (.plain check) :=
    Option.filter_eq_some_iff.mpr ⟨registered, by decide +kernel⟩
  have login : AuthPolicy.find? policy s "LOGIN" = some (.login check) :=
    Option.filter_eq_some_iff.mpr ⟨registered', by decide +kernel⟩
  have named : "Müller" ≠ "" := by decide
  have free : 0 ∉ Utf8.ofString "Müller" ++ [1, 255] := by decide +kernel
  obtain ⟨agree, alike⟩ :=
    (logIn_agrees run rfl plain login (fun _ => named) free .plainAsked .login).1
  exact ⟨by decide +kernel, by decide +kernel, agree, alike⟩

/-- PLAIN does not accept an empty user name, whereas LOGIN asks the check about it. -/
theorem logIn_not_always_agrees :
    let check : CredentialCheck := fun _ _ _ => .ok .denied
    let policy : AuthPolicy := ⟨⟨[.plain check, .login check]⟩, false⟩
    let server := accepting {} [.size, .auth policy]
    let s := (server.replay "client.example" [.connect, .line (.ofText "EHLO client.example")]).2
    let done := server.logIn .plain "" [1, 255] s
    let done' := server.logIn .login "" [1, 255] s
    (policy.available s).map (·.name) = ["PLAIN", "LOGIN"] ∧
      done.1.toOption.bind Reply.code? = some 554 ∧ done'.1.toOption.bind Reply.code? = some 535 ∧
      (done.2.questions s.exchangesOpened).length = 0 ∧
      (done'.2.questions s.exchangesOpened).map (·.credential) = [[1, 255]] := by
  decide +kernel

end Server

end SmtpDialog
