/- digest: A session has the identity for which an exchange was answered with 235, and no other. -/
import SmtpDialog.Proofs.Exchanges

set_option autoImplicit false
set_option relaxedAutoImplicit false

namespace SmtpDialog

open Command Session

variable {κ : Type} {config : Config} {features : List Feature} {policy : AuthPolicy}
  {past : List (Passage κ)} {s t u : Session κ}

/-- The exchange that a line takes further is the one that the past tells, and nobody is known yet. -/
structure Presents (policy : AuthPolicy) (past : List (Passage κ)) (line : Line) (s : Session κ)
    (e : Exchange) (response : Bytes) (t : Session κ) (a : Attempt) : Prop where
  presented : presented policy (awaiting policy past) s line = some a
  serial : a.serial = e.serial
  exchange : a.exchange = e.after response
  reaction : a.reaction = e.reaction response
  hearings : a.hearings = (response, a.reaction) :: t.hearings e.serial
  early : e.serial < t.exchangesOpened
  unheard : ∀ serial, t.exchangesOpened ≤ serial → t.hearings serial = []
  nobody : granted policy past = []
  anonymous : t.properties.get? Key.identity.name = none
  unnamed : t.properties.get? Key.authcid.name = none
  idle : t.properties.get? Key.exchange.name = none

theorem Takes.presents {line : Line} {e : Exchange} {response : Bytes} (fits : s.Fits s.state)
    (offered : Feature.policy? features = some policy) (recalls : Recalls policy past s)
    (taken : Takes features line s e response t) :
    ∃ a, Presents policy past line s e response t a := by
  cases taken with
  | @opened other factory name rest response verb known between anonymous idle words found carried =>
    obtain rfl : policy = other := Option.some.inj (offered.symm.trans known)
    obtain ⟨nobody, unnamed⟩ := recalls.knows.of_anonymous anonymous
    have nothing : awaiting policy past = none :=
      Option.map_eq_none_iff.mp (recalls.pending.symm.trans idle)
    have silent (serial : Nat) : Session.hearings serial { s.unlogged with
        exchangesOpened := s.exchangesOpened + 1
        journal := .mechanismOpened s.exchangesOpened (factory.create s.journal).name
          factory.sendsPlaintext :: s.unlogged.journal } = s.hearings serial := by
      rw [hearings_of_journal (s := s.unlogged) serial [.mechanismOpened _ _ _] rfl]
      simp [Event.hearing?]
    refine ⟨⟨s.exchangesOpened, factory.create s.journal, [response]⟩, ?_, rfl, rfl, rfl, ?_,
      Nat.lt_succ_self _, ?_, nobody, anonymous, unnamed, idle⟩
    · rw [nothing, presented]
      exact Attempt.opened?_of_carries verb words found carried
    · rw [silent, recalls.unheard _ (Nat.le_refl _)]
      rfl
    · intro serial late
      rw [silent]
      exact recalls.unheard serial (Nat.le_of_succ_le late)
  | resumed pending decoded =>
    obtain ⟨a, current, same⟩ := Option.map_eq_some_iff.mp (recalls.pending.symm.trans pending)
    obtain rfl : a.exchange = e := Value.exchange.inj same
    obtain ⟨early, heard⟩ := recalls.heard a current
    have anonymous := (fits.exchange _ pending).2.2
    obtain ⟨nobody, unnamed⟩ := recalls.knows.of_anonymous anonymous
    refine ⟨a.hear response, ?_, rfl, rfl, rfl, ?_, early, ?_, nobody, ?_, ?_, ?_⟩
    · rw [current, presented, Attempt.resumed?, decoded]
      rfl
    · show _ :: a.hearings = _
      rw [← heard]
      exact congrArg _ (hearings_unlogged a.serial s).symm
    · intro serial late
      exact (hearings_unlogged serial s).trans (recalls.unheard serial late)
    · simpa [get?_erase] using anonymous
    · simpa [get?_erase] using unnamed
    · simp [get?_erase]

theorem Presents.heard {line : Line} {e : Exchange} {response : Bytes} {a : Attempt}
    (presents : Presents policy past line s e response t a) (more : List Event)
    (deaf : ∀ serial, more.filterMap (Event.hearing? serial) = [])
    (journal : u.journal =
      more ++ .mechanismHeard e.serial response (e.reaction response) :: t.journal) :
    u.hearings a.serial = a.hearings ∧
      ∀ serial, t.exchangesOpened ≤ serial → u.hearings serial = [] := by
  have added (serial : Nat) : u.hearings serial =
      (if e.serial = serial then [(response, a.reaction)] else []) ++ t.hearings serial := by
    have all : u.journal =
        (more ++ [.mechanismHeard e.serial response (e.reaction response)]) ++ t.journal := by
      simp [journal]
    rw [hearings_of_journal (s := t) serial _ all, List.filterMap_append, deaf, presents.reaction]
    split <;> simp [Event.hearing?, *]
  constructor
  · rw [added, presents.serial, if_pos rfl, presents.hearings]
    rfl
  · intro serial late
    have other : e.serial ≠ serial := Nat.ne_of_lt (Nat.lt_of_lt_of_le presents.early late)
    rw [added, if_neg other, presents.unheard serial late]
    rfl

section

variable {line : Line} {e : Exchange} {response : Bytes}

private theorem recalls_of_challenged {a : Attempt} (challenge : Bytes)
    (presents : Presents policy past line s e response t a)
    (opened : u.exchangesOpened = t.exchangesOpened)
    (properties : u.properties = t.properties.insert Key.exchange.name (.exchange (e.after response)))
    (journal : u.journal = .mechanismHeard e.serial response (e.reaction response) :: t.journal) :
    Recalls policy (⟨.line line, s, .ok (challengeReply challenge)⟩ :: past) u := by
  obtain ⟨awaits, grants⟩ := told_of_challenge policy past s line (challengeReply challenge) rfl
  rw [presents.presented] at awaits
  rw [presents.nobody] at grants
  obtain ⟨heard, unheard⟩ := presents.heard [] (fun _ => rfl) journal
  refine ⟨?_, ?_, ?_, ?_⟩
  · rw [awaits, properties, get?_insert, if_pos rfl, ← presents.exchange]
    rfl
  · intro b h
    obtain rfl : b = a := Option.some.inj (h.symm.trans awaits)
    refine ⟨?_, heard⟩
    rw [opened, presents.serial]
    exact presents.early
  · rwa [opened]
  · rw [grants]
    refine .nobody ?_ ?_
    · simpa [properties, get?_insert] using presents.anonymous
    · simpa [properties, get?_insert] using presents.unnamed

private theorem recalls_of_authenticated {a : Attempt} {challenge : Bytes} {identity : String}
    (text : String) (presents : Presents policy past line s e response t a)
    (asked : (e.reaction response).challenge = .ok challenge)
    (finished : (e.reaction response).complete = true)
    (somebody : (e.reaction response).identity = some identity)
    (opened : u.exchangesOpened = t.exchangesOpened)
    (properties : u.properties = ((e.reaction response).authcid?.elim id fun authcid p =>
      p.insert Key.authcid.name (.text authcid))
      (t.properties.insert Key.identity.name (.text identity)))
    (journal : u.journal = .mechanismDisposed e.serial ::
      .mechanismHeard e.serial response (e.reaction response) :: t.journal) :
    Recalls policy (⟨.line line, s, .ok (.of .authenticationSucceeded text)⟩ :: past) u := by
  obtain ⟨awaits, grants⟩ := told_of_success policy past s line
    (.of .authenticationSucceeded text) rfl
  rw [presents.presented, presents.nobody] at grants
  obtain ⟨heard, unheard⟩ := presents.heard [.mechanismDisposed e.serial]
    (fun _ => rfl) journal
  rw [← presents.reaction] at asked finished somebody properties
  refine ⟨?_, ?_, ?_, ?_⟩
  · rw [awaits, properties]
    cases a.reaction.authcid? <;> simpa [get?_insert] using presents.idle
  · intro b h
    rw [awaits] at h
    contradiction
  · rwa [opened]
  · rw [grants]
    refine .somebody asked finished somebody ?_ ?_ heard
    · rw [properties]
      cases a.reaction.authcid? <;> simp [get?_insert]
    · rw [properties]
      cases a.reaction.authcid? <;> simp [get?_insert, presents.unnamed]

private theorem recalls_of_over {reply : Reply} (cold : reply.favours = false)
    (nobody : granted policy past = [])
    (idle : u.properties.get? Key.exchange.name = none)
    (anonymous : u.properties.get? Key.identity.name = none)
    (unnamed : u.properties.get? Key.authcid.name = none)
    (unheard : ∀ serial, u.exchangesOpened ≤ serial → u.hearings serial = []) :
    Recalls policy (⟨.line line, s, .ok reply⟩ :: past) u := by
  obtain ⟨awaits, grants⟩ := told_of_apart policy past s line (.ok reply)
    (.inr (by rintro _ ⟨rfl⟩; exact cold))
  refine ⟨?_, ?_, unheard, ?_⟩
  · rw [awaits, idle]
    rfl
  · intro b h
    rw [awaits] at h
    contradiction
  · rw [grants, nobody]
    exact .nobody anonymous unnamed

private theorem recalls_of_failed {a : Attempt} {reply : Reply} (cold : reply.favours = false)
    (presents : Presents policy past line s e response t a)
    (opened : u.exchangesOpened = t.exchangesOpened) (properties : u.properties = t.properties)
    (journal : u.journal = .mechanismDisposed e.serial ::
      .mechanismHeard e.serial response (e.reaction response) :: t.journal) :
    Recalls policy (⟨.line line, s, .ok reply⟩ :: past) u := by
  obtain ⟨-, unheard⟩ := presents.heard [.mechanismDisposed e.serial]
    (fun _ => rfl) journal
  refine recalls_of_over cold presents.nobody ?_ ?_ ?_ (opened ▸ unheard)
  · rw [properties, presents.idle]
  · rw [properties, presents.anonymous]
  · rw [properties, presents.unnamed]

private theorem recalls_of_abandoned {reply : Reply} (cold : reply.favours = false)
    (fits : s.Fits s.state) (recalls : Recalls policy past s)
    (pending : s.properties.get? Key.exchange.name = some (.exchange e))
    (opened : u.exchangesOpened = s.exchangesOpened)
    (properties : u.properties = s.properties.erase Key.exchange.name)
    (journal : u.journal = .mechanismDisposed e.serial :: s.unlogged.journal) :
    Recalls policy (⟨.line line, s, .ok reply⟩ :: past) u := by
  have anonymous := (fits.exchange _ pending).2.2
  obtain ⟨nobody, unnamed⟩ := recalls.knows.of_anonymous anonymous
  refine recalls_of_over cold nobody ?_ ?_ ?_ ?_
  · simp [properties, get?_erase]
  · simpa [properties, get?_erase] using anonymous
  · simpa [properties, get?_erase] using unnamed
  · intro serial late
    rw [hearings_of_journal (s := s.unlogged) serial [.mechanismDisposed _] journal,
      hearings_unlogged, recalls.unheard serial (opened ▸ late)]
    rfl

end

private theorem aside_of_journal (more : List Event)
    (deaf : ∀ serial, more.filterMap (Event.hearing? serial) = [])
    (journal : t.journal = more ++ s.unlogged.journal)
    (opened : t.exchangesOpened = s.exchangesOpened)
    (same : ∀ k : Key, k = .exchange ∨ k = .identity ∨ k = .authcid →
      t.properties.get? k.name = s.properties.get? k.name) : Aside s t where
  exchange := same .exchange (.inl rfl)
  identity := same .identity (.inr (.inl rfl))
  authcid := same .authcid (.inr (.inr rfl))
  opened := opened
  hearings serial := by
    rw [hearings_of_journal (s := s.unlogged) serial more journal, deaf, hearings_unlogged]
    rfl

private theorem aside_of_closeMail (journal : t.journal = s.unlogged.closeMail.journal)
    (opened : t.exchangesOpened = s.unlogged.closeMail.exchangesOpened)
    (same : ∀ k : Key, k = .exchange ∨ k = .identity ∨ k = .authcid →
      t.properties.get? k.name = s.properties.get? k.name) : Aside s t := by
  rw [closeMail_eq] at journal opened
  refine aside_of_journal _ ?_ journal opened same
  intro serial
  cases s.unlogged.mail <;> rfl

theorem Receipt.aside {line : Line} {answer : Except Fault Reply}
    (receipt : Receipt config line s answer t) : Aside s t := by
  cases receipt with
  | dropped content failed => exact aside_of_journal [] (fun _ => rfl) rfl rfl fun _ _ => rfl
  | overflowed content sound size excess =>
    refine aside_of_journal [] (fun _ => rfl) rfl rfl ?_
    rintro _ (rfl | rfl | rfl) <;> simp [get?_insert]
  | written content sound size within holds asked =>
    refine aside_of_journal [.mailCalled _ _ _] (fun _ => rfl) rfl rfl ?_
    rintro _ (rfl | rfl | rfl) <;> simp [get?_insert]
  | broken content sound size within holds asked =>
    refine aside_of_journal [.mailCalled _ _ _] (fun _ => rfl) rfl rfl ?_
    rintro _ (rfl | rfl | rfl) <;> simp [get?_insert]
  | abandoned dot failed holds =>
    refine aside_of_journal [.mailDisposed _] (fun _ => rfl) rfl rfl ?_
    rintro _ (rfl | rfl | rfl) <;> simp [get?_erase]
  | completed dot sound holds asked =>
    refine aside_of_journal [.mailDisposed _, .mailCalled _ _ _] (fun _ => rfl) rfl rfl ?_
    rintro _ (rfl | rfl | rfl) <;> simp [get?_erase]

/-- Of the lines of a message only the dot is answered, and the dot is no AUTH. -/
private theorem deaf_of_receipt {line : Line} {answer : Except Fault Reply}
    (receipt : Receipt config line s answer t) (verb : Text.upper line.verb = "AUTH") :
    answer = .ok .silent := by
  have dotted (dot : line.endsContent = true) : answer = .ok .silent := by
    rw [Line.verb_of_endsContent dot] at verb
    exact absurd verb (by decide)
  cases receipt with
  | dropped | overflowed | written | broken => rfl
  | abandoned dot | completed dot => exact dotted dot

theorem Effect.recalls {line : Line} {answer : Except Fault Reply} (fits : s.Fits s.state)
    (offered : Feature.policy? features = some policy) (recalls : Recalls policy past s)
    (effect : Effect config features line s answer t) :
    Recalls policy (⟨.line line, s, answer⟩ :: past) t := by
  -- a line with the verb of another command
  have other {verb : String} (aside : Aside s t) (named : Text.upper line.verb = verb)
      (idle : s.properties.get? Key.exchange.name = none) (differs : verb ≠ "AUTH") :
      Recalls policy (⟨.line line, s, answer⟩ :: past) t :=
    recalls.apart aside idle fun auth => absurd (named.symm.trans auth) differs
  have idle_of_mail (valid : s.state.inTransaction = true) :
      s.properties.get? Key.exchange.name = none := by
    apply fits.get?_exchange
    cases h : s.state <;> rw [h] at valid <;> first | rfl | contradiction
  cases effect with
  | answered calm tls patient quiet idle apart =>
    refine recalls.apart (aside_of_journal [] (fun _ => rfl) rfl rfl fun _ _ => rfl) idle ?_
    rintro - _ ⟨rfl⟩
    exact apart
  | greeted verb valid named code plain idle =>
    refine recalls.apart (aside_of_closeMail rfl rfl ?_) idle ?_
    · rintro _ (rfl | rfl | rfl) <;> simp [get?_insert]
    · intro auth
      simp [Line.greets, auth] at verb
  | reset verb valid idle =>
    exact other (aside_of_closeMail rfl rfl fun _ _ => by rw [closeMail_properties]; rfl) verb idle
      (by decide)
  | quit verb quiet idle =>
    exact other (aside_of_closeMail rfl rfl fun _ _ => by rw [closeMail_properties]; rfl) verb idle
      (by decide)
  | senderRefused verb valid asked refused idle =>
    refine other (aside_of_journal [.mailDisposed _, .mailCalled _ _ _, .mailOpened _ _]
      (fun _ => rfl) rfl rfl ?_) verb idle (by decide)
    rintro _ (rfl | rfl | rfl) <;> simp [get?_erase]
  | senderAccepted verb valid idle asked accepted =>
    refine other (aside_of_journal [.mailCalled _ _ _, .mailOpened _ _] (fun _ => rfl) rfl rfl ?_)
      verb idle (by decide)
    rintro _ (rfl | rfl | rfl) <;> simp [get?_erase]
  | recipientRefused verb valid holds asked refused =>
    exact other (aside_of_journal [.mailCalled _ _ _] (fun _ => rfl) rfl rfl fun _ _ => rfl) verb
      (idle_of_mail valid) (by decide)
  | recipientAccepted verb valid room holds asked accepted =>
    refine other (aside_of_journal [.mailCalled _ _ _] (fun _ => rfl) rfl rfl ?_) verb
      (idle_of_mail valid) (by decide)
    rintro _ (rfl | rfl | rfl) <;> simp [get?_insert]
  | contentRefused verb valid holds asked =>
    refine other (aside_of_journal [.mailDisposed _, .mailCalled _ _ _] (fun _ => rfl) rfl rfl ?_)
      verb (idle_of_mail (by rw [valid]; rfl)) (by decide)
    rintro _ (rfl | rfl | rfl) <;> simp [get?_erase]
  | contentBegun verb valid holds asked =>
    refine other (aside_of_journal [.mailCalled _ _ _] (fun _ => rfl) rfl rfl ?_) verb
      (idle_of_mail (by rw [valid]; rfl)) (by decide)
    rintro _ (rfl | rfl | rfl) <;> simp [get?_insert, get?_erase]
  | received valid receipt =>
    refine recalls.apart receipt.aside (fits.get?_exchange (by rw [valid]; rfl)) ?_
    rintro auth reply answered
    rw [deaf_of_receipt receipt auth] at answered
    obtain rfl : .silent = reply := Except.ok.inj answered
    rfl
  | challenged taken asked unfinished =>
    obtain ⟨a, presents⟩ := taken.presents fits offered recalls
    exact recalls_of_challenged _ presents rfl rfl rfl
  | exchangeFailed taken asked =>
    obtain ⟨a, presents⟩ := taken.presents fits offered recalls
    exact recalls_of_failed rfl presents rfl rfl rfl
  | denied taken asked finished nobody =>
    obtain ⟨a, presents⟩ := taken.presents fits offered recalls
    exact recalls_of_failed rfl presents rfl rfl rfl
  | authenticated taken asked finished somebody =>
    obtain ⟨a, presents⟩ := taken.presents fits offered recalls
    exact recalls_of_authenticated _ presents asked finished somebody rfl rfl rfl
  | cancelled pending star => exact recalls_of_abandoned rfl fits recalls pending rfl rfl rfl
  | undecodable pending encoded => exact recalls_of_abandoned rfl fits recalls pending rfl rfl rfl

theorem Change.recalls {input : Input} {answer : Except Fault Reply} (fits : s.Fits s.state)
    (offered : Feature.policy? features = some policy) (recalls : Recalls policy past s)
    (change : Change config features s input answer t) :
    Recalls policy (⟨input, s, answer⟩ :: past) t := by
  have still {t : Session κ} (journal : t.journal = s.unlogged.journal)
      (opened : t.exchangesOpened = s.exchangesOpened) (same : t.properties = s.properties) :
      Aside s t :=
    aside_of_journal [] (fun _ => rfl) journal opened fun _ _ => by rw [same]
  cases change with
  | welcomed valid => exact recalls.aside (still rfl rfl rfl) rfl rfl
  | unwelcome invalid => exact recalls.aside (still rfl rfl rfl) rfl rfl
  | line effect => exact effect.recalls fits offered recalls
  | complained quiet plain => exact recalls.aside (still rfl rfl rfl) rfl rfl
  | ignored trouble moot =>
    cases input with
    | tooLong | abort => exact recalls.aside (still rfl rfl rfl) rfl rfl
    | connect | line | secured => contradiction
  | failed trouble receiving sound =>
    cases input with
    | tooLong | abort =>
      refine recalls.aside (aside_of_journal [] (fun _ => rfl) rfl rfl ?_) rfl rfl
      rintro _ (rfl | rfl | rfl) <;> simp [get?_insert]
    | connect | line | secured => contradiction
  | secured quiet =>
    refine ⟨rfl, by simp [awaiting], ?_, .nobody rfl rfl⟩
    intro serial late
    rw [abandonExchange_eq, closeMail_eq] at late
    show s.unlogged.closeMail.abandonExchange.hearings serial = []
    simpa using recalls.unheard serial late

/-- Whether the mechanism of an exchange has completed with an identity. -/
structure Attempt.Names (identity : String) (a : Attempt) : Prop where
  asked : ∃ challenge, a.reaction.challenge = .ok challenge
  complete : a.reaction.complete = true
  somebody : a.reaction.identity = some identity

namespace Knows

variable {attempts : List Attempt}

theorem length_le (knows : Knows s attempts) : attempts.length ≤ 1 := by
  cases knows with
  | nobody => exact Nat.zero_le 1
  | somebody => exact Nat.le_refl 1

theorem exists_names (knows : Knows s attempts) {a : Attempt} (h : a ∈ attempts) :
    ∃ identity, a.Names identity := by
  cases knows with
  | nobody => contradiction
  | somebody asked complete somebody =>
    obtain rfl := List.mem_singleton.mp h
    exact ⟨_, ⟨_, asked⟩, complete, somebody⟩

theorem hearings_eq (knows : Knows s attempts) {a : Attempt} (h : a ∈ attempts) :
    s.hearings a.serial = a.hearings := by
  cases knows with
  | nobody => contradiction
  | somebody asked complete somebody known named heard =>
    obtain rfl := List.mem_singleton.mp h
    exact heard

theorem identity_iff (knows : Knows s attempts) (v : Value) :
    s.properties.get? Key.identity.name = some v ↔
      ∃ a ∈ attempts, ∃ identity, a.Names identity ∧ v = .text identity := by
  cases knows with
  | nobody anonymous => simp [anonymous]
  | @somebody a challenge identity asked complete somebody known =>
    rw [known, Option.some.injEq]
    constructor
    · rintro rfl
      exact ⟨a, List.mem_singleton_self a, identity, ⟨⟨_, asked⟩, complete, somebody⟩, rfl⟩
    · rintro ⟨b, h, other, names, rfl⟩
      obtain rfl := List.mem_singleton.mp h
      rw [Option.some.inj (somebody.symm.trans names.somebody)]

theorem authcid_iff (knows : Knows s attempts) (v : Value) :
    s.properties.get? Key.authcid.name = some v ↔
      ∃ a ∈ attempts, ∃ authcid, a.reaction.authcid? = some authcid ∧ v = .text authcid := by
  cases knows with
  | nobody anonymous unnamed => simp [unnamed]
  | somebody asked complete somebody known named =>
    rw [named, Option.map_eq_some_iff]
    simp [eq_comm]

end Knows

namespace Attempt

variable {a : Attempt} {check : CredentialCheck} {identity : String}

private theorem questions_eq (heard : s.hearings a.serial = a.hearings) :
    s.questions a.serial = a.mechanism.checks a.responses := by
  rw [questions, heard, hearings, Mechanism.checks]

private theorem reaction_eq (fresh : a.mechanism.heard = []) :
    a.reaction = a.mechanism.behaviour a.responses := by
  rw [reaction, fresh, List.append_nil]

theorem Names.of_plain (names : a.Names identity) (heard : s.hearings a.serial = a.hearings)
    (made : a.mechanism = Plain.mechanism check) :
    ∃ authzid authcid password,
      (∃ response ∈ a.responses.head?, Plain.Sent response authzid authcid password) ∧
      check authzid authcid password = .ok (.authorized identity) ∧
      s.questions a.serial = [check.ask authzid authcid password] := by
  obtain ⟨⟨challenge, asked⟩, -, somebody⟩ := names
  rw [reaction_eq (by rw [made]; rfl), made] at asked somebody
  obtain ⟨authzid, authcid, password, sent, vouched⟩ := Plain.vouches asked somebody
  refine ⟨authzid, authcid, password, sent, vouched.authorized, ?_⟩
  rw [questions_eq heard, made]
  exact vouched.asked

theorem Names.of_login (names : a.Names identity) (heard : s.hearings a.serial = a.hearings)
    (made : a.mechanism = Login.mechanism check) :
    ∃ username password, a.responses = [password, Utf8.ofString username, []] ∧
      check "" username password = .ok (.authorized identity) ∧
      s.questions a.serial = [check.ask "" username password] := by
  obtain ⟨⟨challenge, asked⟩, -, somebody⟩ := names
  rw [reaction_eq (by rw [made]; rfl), made] at asked somebody
  obtain ⟨username, password, responses, vouched⟩ := Login.vouches asked somebody
  refine ⟨username, password, responses, vouched.authorized, ?_⟩
  rw [questions_eq heard, made]
  exact vouched.asked

end Attempt

theorem granted_eq_nil {p : Passage κ} (nobody : granted policy past = [])
    (code : p.code? ≠ some Code.authenticationSucceeded.number) : granted policy (p :: past) = [] := by
  rw [granted]
  split
  · rw [if_neg code, nobody]
  · rfl
  all_goals exact nobody

/-- How the identity of a client is accounted for by what has passed. -/
structure Accounts (server : Server κ) (policy : AuthPolicy) (past : List (Passage κ))
    (s : Session κ) : Prop where
  /-- At most one exchange has succeeded since the last handshake. -/
  single : (granted policy past).length ≤ 1
  completed : ∀ a ∈ granted policy past, ∃ identity, a.Names identity
  /-- The identity is the one with which the mechanism of that exchange has completed. -/
  identity : ∀ v, s.properties.get? Key.identity.name = some v ↔
    ∃ a ∈ granted policy past, ∃ identity, a.Names identity ∧ v = .text identity
  authcid : ∀ v, s.properties.get? Key.authcid.name = some v ↔
    ∃ a ∈ granted policy past, ∃ authcid, a.reaction.authcid? = some authcid ∧ v = .text authcid
  /-- The mechanism has heard the responses of the client in that exchange and no others. -/
  heard : ∀ a ∈ granted policy past, s.hearings a.serial = a.hearings
  /-- PLAIN has asked the credential check once, for the message of the client. -/
  plain : ∀ a ∈ granted policy past, ∀ check, a.mechanism = Plain.mechanism check →
    ∀ identity, a.Names identity → ∃ authzid authcid password,
      (∃ response ∈ a.responses.head?, Plain.Sent response authzid authcid password) ∧
      check authzid authcid password = .ok (.authorized identity) ∧
      s.questions a.serial = [check.ask authzid authcid password]
  /-- LOGIN has asked the credential check once, for the user name and the password of the client. -/
  login : ∀ a ∈ granted policy past, ∀ check, a.mechanism = Login.mechanism check →
    ∀ identity, a.Names identity → ∃ username password,
      a.responses = [password, Utf8.ofString username, []] ∧
      check "" username password = .ok (.authorized identity) ∧
      s.questions a.serial = [check.ask "" username password]
  /-- The exchange in progress is made of its own responses alone, and meanwhile nobody is known. -/
  pending : s.properties.get? Key.exchange.name =
      (awaiting policy past).map (fun a => .exchange a.exchange) ∧
    ∀ a ∈ awaiting policy past, s.hearings a.serial = a.hearings ∧
      s.properties.get? Key.identity.name = none
  /-- Nobody becomes known by an input that is not answered with 235. -/
  unearned : s.properties.get? Key.identity.name = none → ∀ input : Input, input.Follows past →
    (⟨input, s, (server.take s input).1⟩ : Passage κ).code? ≠
        some Code.authenticationSucceeded.number →
      (server.take s input).2.properties.get? Key.identity.name = none
  lost : s.connectionLost.properties.get? Key.identity.name = s.properties.get? Key.identity.name
  /-- Once somebody is known, AUTH is out of sequence and changes nothing. -/
  closed : (s.properties.get? Key.identity.name).isSome = true → ∀ line : Line,
    line.isTerminated = true → Text.upper line.verb = "AUTH" →
      server.dispatch.consume server.site s line = Outcome.stay .badSequence s ∧
      (s.state ≠ .readingData → server.consume s line = (.ok .badSequence, s))

theorem Session.get?_identity_connectionLost (s : Session κ) :
    s.connectionLost.properties.get? Key.identity.name = s.properties.get? Key.identity.name := by
  have same : (s.logInfoIf s.hasMail "Connection lost with a mail transaction in progress").properties =
      s.properties := by
    cases s.hasMail <;> rfl
  rw [connectionLost, release, abandonExchange_eq, get?_erase, if_neg (by decide), closeMail_properties,
    same]

namespace Server

variable {newMail : Session κ → MailBehaviour} {custom : κ → Hook κ} {line : Line}

private theorem dispatch_of_known (offered : Feature.policy? features = some policy)
    (known : (s.properties.get? Key.identity.name).isSome = true)
    (terminated : line.isTerminated = true) (verb : Text.upper line.verb = "AUTH") (site : Site κ) :
    (ofFeatures config newMail custom features).dispatch.consume site s line =
      Outcome.stay .badSequence s := by
  have invalid : (Command.auth policy : Handler κ).validFor s = false := by
    simp [Command.auth, hasProperty, Table.contains, known]
  rw [Dispatch.consume, if_pos terminated, dispatch_get?_auth config newMail custom features verb,
    offered]
  simp only [Option.map_some, Handler.handle, invalid, Bool.false_eq_true, if_false]

private theorem consume_of_known (fits : s.Fits s.state)
    (offered : Feature.policy? features = some policy)
    (known : (s.properties.get? Key.identity.name).isSome = true)
    (terminated : line.isTerminated = true) (verb : Text.upper line.verb = "AUTH")
    (quiet : s.state ≠ .readingData) :
    (ofFeatures config newMail custom features).consume s line = (.ok .badSequence, s) := by
  have idle : s.properties.get? Key.exchange.name = none := by
    cases found : s.properties.get? Key.exchange.name with
    | none => rfl
    | some v =>
      rw [(fits.exchange v found).2.2] at known
      contradiction
  rw [consume_of_idle fits quiet idle, dispatch_of_known offered known terminated verb]
  rfl

end Server

namespace Server.Run

variable {newMail : Session κ → MailBehaviour} {custom : κ → Hook κ} {peer : String}

theorem recalls (run : Run (ofFeatures config newMail custom features) peer past s)
    (offered : Feature.policy? features = some policy) : Recalls policy past s := by
  refine Run.induct (motive := Recalls policy) ?_ ?_ ?_ run
  · exact ⟨rfl, by simp [awaiting], fun _ _ => rfl, .nobody rfl rfl⟩
  · intro past s
    constructor
    · exact fun recalls => recalls.aside (Aside.unlogged s).symm rfl rfl
    · exact fun recalls => recalls.aside (Aside.unlogged s) rfl rfl
  · intro past s input answer t run fits recalls change
    exact change.recalls fits offered recalls

/-- The identity of a session is, at any time, the one with which the one exchange has completed that
was answered with 235 since the last handshake, and the credential check has vouched for it. -/
theorem identity_accounted (run : Run (ofFeatures config newMail custom features) peer past s)
    (offered : Feature.policy? features = some policy) :
    Accounts (ofFeatures config newMail custom features) policy past s := by
  have recalls := run.recalls offered
  have knows := recalls.knows
  refine ⟨knows.length_le, fun a h => knows.exists_names h, knows.identity_iff, knows.authcid_iff,
    fun a h => knows.hearings_eq h, ?_, ?_, ⟨recalls.pending, ?_⟩, ?_, ?_, ?_⟩
  · intro a h check made identity names
    exact names.of_plain (knows.hearings_eq h) made
  · intro a h check made identity names
    exact names.of_login (knows.hearings_eq h) made
  · intro a h
    have pending := recalls.pending
    rw [Option.mem_def.mp h] at pending
    exact ⟨(recalls.heard a h).2, (run.fits.exchange _ pending).2.2⟩
  · intro anonymous input follows code
    have next := ((run.step input follows).recalls offered).knows
    rw [granted_eq_nil (knows.of_anonymous anonymous).1 code] at next
    cases next with
    | nobody anonymous => exact anonymous
  · exact get?_identity_connectionLost s
  · intro known line terminated verb
    exact ⟨dispatch_of_known offered known terminated verb _,
      consume_of_known run.fits offered known terminated verb⟩

theorem identity_accounted_of_plain :
    let check : CredentialCheck := fun _ authcid _ => .ok (.authorized authcid)
    let policy : AuthPolicy := ⟨⟨[.plain check]⟩, false⟩
    let server := accepting {} [.size, .auth policy]
    let now := server.replay "client.example" [.connect, .line (.ofText "EHLO client.example"),
      .line (.ofText "AUTH PLAIN"), .line (.ofText "AGRpYgBodW50ZXIy")]
    now.2.read? Value.text? .identity = some "dib" ∧
      (granted policy now.1).map Attempt.responses = [[Utf8.ofString "\x00dib\x00hunter2", []]] ∧
      Accounts server policy now.1 now.2 :=
  ⟨by decide +kernel, by decide +kernel,
    identity_accounted (run_replay _ _ _ (by decide +kernel)) rfl⟩

end Server.Run

end SmtpDialog
