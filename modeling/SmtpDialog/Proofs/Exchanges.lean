/- digest: Authentication exchanges as the lines of a client and their answers tell them. -/
import SmtpDialog.Proofs.Credentials
import SmtpDialog.Proofs.Greeted

set_option autoImplicit false
set_option relaxedAutoImplicit false

namespace SmtpDialog

open Command

variable {κ : Type}

/-- What the mechanism of an exchange has heard in an event, and what it did. -/
def Event.hearing? (serial : Nat) : Event → Option (Bytes × Reaction)
  | .mechanismHeard other response reaction =>
    if other = serial then some (response, reaction) else none
  | _ => none

namespace Session

/-- What the mechanism of an exchange has heard in a session, and what it did, the latest first. -/
def hearings (serial : Nat) (s : Session κ) : List (Bytes × Reaction) :=
  s.journal.filterMap (Event.hearing? serial)

def questions (serial : Nat) (s : Session κ) : List CheckedCredentials :=
  (s.hearings serial).reverse.flatMap (·.2.checks)

variable {s t : Session κ}

theorem hearings_of_journal (serial : Nat) (more : List Event) (journal : t.journal = more ++ s.journal) :
    t.hearings serial = more.filterMap (Event.hearing? serial) ++ s.hearings serial := by
  rw [hearings, journal, List.filterMap_append, hearings]

@[simp] theorem hearings_unlogged (serial : Nat) (s : Session κ) :
    s.unlogged.hearings serial = s.hearings serial := by
  rw [hearings, unlogged, List.filterMap_filter, hearings]
  congr 1
  funext e
  cases e <;> rfl

@[simp] theorem hearings_closeMail (serial : Nat) (s : Session κ) :
    s.closeMail.hearings serial = s.hearings serial := by
  rw [closeMail_eq]
  cases s.mail <;> rfl

@[simp] theorem hearings_abandonExchange (serial : Nat) (s : Session κ) :
    s.abandonExchange.hearings serial = s.hearings serial := by
  rw [abandonExchange_eq]
  cases s.read? Value.exchange? .exchange <;> rfl

end Session

/-- An exchange as a client has conducted it: its number, the mechanism as it was created and the
responses, the latest first. -/
structure Attempt where
  serial : Nat
  mechanism : Mechanism
  responses : List Bytes

namespace Attempt

def hear (response : Bytes) (a : Attempt) : Attempt :=
  { a with responses := response :: a.responses }

def reaction (a : Attempt) : Reaction := a.mechanism.behaviour (a.responses ++ a.mechanism.heard)

def hearings (a : Attempt) : List (Bytes × Reaction) := a.mechanism.hearings a.responses

def exchange (a : Attempt) : Exchange :=
  ⟨a.serial, { a.mechanism with heard := a.responses ++ a.mechanism.heard }⟩

def begun? (policy : AuthPolicy) (s : Session κ) (name : List Char) (response : Bytes) :
    Option Attempt :=
  (AuthPolicy.find? policy s (String.ofList name)).map fun factory =>
    ⟨s.exchangesOpened, factory.create s.journal, [response]⟩

/-- The exchange that an AUTH command would begin. -/
def opened? (policy : AuthPolicy) (s : Session κ) (line : Line) : Option Attempt :=
  if Text.upper line.verb = "AUTH" then
    match Text.words Text.isAsciiBlank (Grammar.arguments line.text).toList with
    | [name] => begun? policy s name []
    | [name, token] => (initialResponse? token).toOption.bind (begun? policy s name)
    | _ => none
  else none

/-- The exchange with a line as the next response. -/
def resumed? (line : Line) (a : Attempt) : Option Attempt :=
  (Base64.decode (Utf8.encode (Text.trim Text.isBlank line.chars))).toOption.map (a.hear ·)

end Attempt

/-- The exchange to which a line belongs, as it is with that line. -/
def presented (policy : AuthPolicy) (current : Option Attempt) (s : Session κ) (line : Line) :
    Option Attempt :=
  match current with
  | some a => a.resumed? line
  | none => Attempt.opened? policy s line

def Passage.code? (p : Passage κ) : Option Nat := p.answer.toOption.bind Reply.code?

/-- The exchange in which a further response is awaited. -/
def awaiting (policy : AuthPolicy) : List (Passage κ) → Option Attempt
  | [] => none
  | p :: past =>
    match p.input with
    | .line line =>
      if p.code? = some Code.serverChallenge.number then
        presented policy (awaiting policy past) p.before line
      else none
    | .secured _ => none
    | .connect | .tooLong _ | .abort _ => awaiting policy past

/-- The exchanges that were answered with 235 since the last TLS handshake, the latest first. -/
def granted (policy : AuthPolicy) : List (Passage κ) → List Attempt
  | [] => []
  | p :: past =>
    match p.input with
    | .line line =>
      if p.code? = some Code.authenticationSucceeded.number then
        (presented policy (awaiting policy past) p.before line).toList ++ granted policy past
      else granted policy past
    | .secured _ => []
    | .connect | .tooLong _ | .abort _ => granted policy past

section

variable {policy : AuthPolicy} {past : List (Passage κ)} {s : Session κ} {line : Line}

private theorem awaiting_line (line : Line) (s : Session κ) (answer : Except Fault Reply) :
    awaiting policy (⟨.line line, s, answer⟩ :: past) =
      if answer.toOption.bind Reply.code? = some Code.serverChallenge.number then
        presented policy (awaiting policy past) s line
      else none := rfl

private theorem granted_line (line : Line) (s : Session κ) (answer : Except Fault Reply) :
    granted policy (⟨.line line, s, answer⟩ :: past) =
      if answer.toOption.bind Reply.code? = some Code.authenticationSucceeded.number then
        (presented policy (awaiting policy past) s line).toList ++ granted policy past
      else granted policy past := rfl

variable (policy past s line)

theorem told_of_challenge (reply : Reply) (code : reply.code? = some Code.serverChallenge.number) :
    awaiting policy (⟨.line line, s, .ok reply⟩ :: past) =
        presented policy (awaiting policy past) s line ∧
      granted policy (⟨.line line, s, .ok reply⟩ :: past) = granted policy past := by
  rw [awaiting_line, granted_line]
  simp [Except.toOption, code, Code.number]

theorem told_of_success (reply : Reply)
    (code : reply.code? = some Code.authenticationSucceeded.number) :
    awaiting policy (⟨.line line, s, .ok reply⟩ :: past) = none ∧
      granted policy (⟨.line line, s, .ok reply⟩ :: past) =
        (presented policy (awaiting policy past) s line).toList ++ granted policy past := by
  rw [awaiting_line, granted_line]
  simp [Except.toOption, code, Code.number]

/-- A line that belongs to no exchange, or whose answer has another code, ends the account of one. -/
theorem told_of_apart (answer : Except Fault Reply)
    (apart : presented policy (awaiting policy past) s line = none ∨
      ∀ reply, answer = .ok reply → reply.favours = false) :
    awaiting policy (⟨.line line, s, answer⟩ :: past) = none ∧
      granted policy (⟨.line line, s, answer⟩ :: past) = granted policy past := by
  rw [awaiting_line, granted_line]
  rcases apart with nobody | cold
  · simp [nobody]
  · cases answer with
    | error fault => exact ⟨rfl, rfl⟩
    | ok reply =>
      have other : reply.code? ≠ some Code.serverChallenge.number ∧
          reply.code? ≠ some Code.authenticationSucceeded.number := by
        simpa [Reply.favours] using cold reply rfl
      exact ⟨if_neg other.1, if_neg other.2⟩

variable {policy s line}

theorem Attempt.opened?_of_carries {factory : Factory} {name : List Char} {rest : List (List Char)}
    {response : Bytes} (verb : Text.upper line.verb = "AUTH")
    (words : Text.words Text.isAsciiBlank (Grammar.arguments line.text).toList = name :: rest)
    (found : AuthPolicy.find? policy s (String.ofList name) = some factory)
    (carried : Carries factory (name :: rest) response) :
    Attempt.opened? policy s line =
      some ⟨s.exchangesOpened, factory.create s.journal, [response]⟩ := by
  rw [opened?, if_pos verb, words]
  cases carried with
  | nothing => simp [begun?, found]
  | initial name decoded allowed => simp [begun?, found, decoded, Except.toOption]

end

/-- The identity of a session is that of the one exchange that has succeeded, if there is one. -/
inductive Knows (s : Session κ) : List Attempt → Prop
  | nobody (anonymous : s.properties.get? Key.identity.name = none)
      (unnamed : s.properties.get? Key.authcid.name = none) : Knows s []
  | somebody {a : Attempt} {challenge : Bytes} {identity : String}
      (asked : a.reaction.challenge = .ok challenge) (complete : a.reaction.complete = true)
      (somebody : a.reaction.identity = some identity)
      (known : s.properties.get? Key.identity.name = some (.text identity))
      (named : s.properties.get? Key.authcid.name = a.reaction.authcid?.map .text)
      (heard : s.hearings a.serial = a.hearings) : Knows s [a]

/-- The exchange and the identity of a session are those that a past tells. -/
structure Recalls (policy : AuthPolicy) (past : List (Passage κ)) (s : Session κ) : Prop where
  pending : s.properties.get? Key.exchange.name =
    (awaiting policy past).map fun a => .exchange a.exchange
  heard : ∀ a ∈ awaiting policy past,
    a.serial < s.exchangesOpened ∧ s.hearings a.serial = a.hearings
  unheard : ∀ serial, s.exchangesOpened ≤ serial → s.hearings serial = []
  knows : Knows s (granted policy past)

/-- Whether a session is as good as another as far as exchanges and identities go. -/
structure Aside (s t : Session κ) : Prop where
  exchange : t.properties.get? Key.exchange.name = s.properties.get? Key.exchange.name
  identity : t.properties.get? Key.identity.name = s.properties.get? Key.identity.name
  authcid : t.properties.get? Key.authcid.name = s.properties.get? Key.authcid.name
  opened : t.exchangesOpened = s.exchangesOpened
  hearings : ∀ serial, t.hearings serial = s.hearings serial

section

variable {policy : AuthPolicy} {past : List (Passage κ)} {s t : Session κ}

theorem Knows.aside {attempts : List Attempt} (knows : Knows s attempts) (aside : Aside s t) :
    Knows t attempts := by
  cases knows with
  | nobody anonymous unnamed =>
    exact .nobody (aside.identity.trans anonymous) (aside.authcid.trans unnamed)
  | somebody asked complete somebody known named heard =>
    exact .somebody asked complete somebody (aside.identity.trans known) (aside.authcid.trans named)
      ((aside.hearings _).trans heard)

theorem Knows.of_anonymous {attempts : List Attempt} (knows : Knows s attempts)
    (anonymous : s.properties.get? Key.identity.name = none) :
    attempts = [] ∧ s.properties.get? Key.authcid.name = none := by
  cases knows with
  | nobody anonymous unnamed => exact ⟨rfl, unnamed⟩
  | somebody asked complete somebody known =>
    rw [known] at anonymous
    contradiction

theorem Aside.unlogged (s : Session κ) : Aside s s.unlogged :=
  ⟨rfl, rfl, rfl, rfl, fun serial => Session.hearings_unlogged serial s⟩

theorem Aside.symm (aside : Aside s t) : Aside t s :=
  ⟨aside.exchange.symm, aside.identity.symm, aside.authcid.symm, aside.opened.symm,
    fun serial => (aside.hearings serial).symm⟩

theorem Recalls.aside {next : List (Passage κ)} (recalls : Recalls policy past s) (aside : Aside s t)
    (awaits : awaiting policy next = awaiting policy past)
    (grants : granted policy next = granted policy past) : Recalls policy next t where
  pending := by rw [awaits, aside.exchange, recalls.pending]
  heard a h := by
    rw [awaits] at h
    rw [aside.opened, aside.hearings]
    exact recalls.heard a h
  unheard serial late := by
    rw [aside.hearings]
    exact recalls.unheard serial (aside.opened ▸ late)
  knows := by
    rw [grants]
    exact recalls.knows.aside aside

theorem Recalls.apart {line : Line} {answer : Except Fault Reply} (recalls : Recalls policy past s)
    (aside : Aside s t) (idle : s.properties.get? Key.exchange.name = none)
    (deaf : Text.upper line.verb = "AUTH" → ∀ reply, answer = .ok reply → reply.favours = false) :
    Recalls policy (⟨.line line, s, answer⟩ :: past) t := by
  have nothing : awaiting policy past = none :=
    Option.map_eq_none_iff.mp (recalls.pending.symm.trans idle)
  have told := told_of_apart policy past s line answer (by
      by_cases verb : Text.upper line.verb = "AUTH"
      · exact .inr (deaf verb)
      · exact .inl (by rw [nothing, presented, Attempt.opened?, if_neg verb]))
  exact recalls.aside aside (told.1.trans nothing.symm) told.2

end

end SmtpDialog
