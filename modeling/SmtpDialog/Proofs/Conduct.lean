/- digest: An authentication exchange is a run of its mechanism. -/
import Mathlib.Data.List.Forall2
import SmtpDialog.Proofs.Base64
import SmtpDialog.Proofs.Tenures

set_option autoImplicit false
set_option relaxedAutoImplicit false

namespace SmtpDialog

open Command

variable {κ : Type}

def Reaction.succeeds (reaction : Reaction) : Bool :=
  reaction.challenge.isOk && reaction.complete && reaction.identity.isSome

/-- What a client is told of a reaction: the challenge in base64, or how the exchange has ended. -/
inductive Reaction.Told (reaction : Reaction) : Reply → Prop
  | asked {challenge : Bytes} {text : String} (wants : reaction.challenge = .ok challenge)
      (unfinished : reaction.complete = false)
      (encoded : Base64.decode (Utf8.ofString text) = .ok challenge) :
      Told reaction (.line Code.serverChallenge.number text)
  | failed {fault : Fault} (broke : reaction.challenge = .error fault) :
      Told reaction (.of .transactionFailed "Server error")
  | denied {challenge : Bytes} (wants : reaction.challenge = .ok challenge)
      (finished : reaction.complete = true) (nobody : reaction.identity = none) :
      Told reaction (.of .authenticationCredentialsInvalid "Authentication credentials invalid")
  | succeeded {challenge : Bytes} {identity : String} (wants : reaction.challenge = .ok challenge)
      (finished : reaction.complete = true) (somebody : reaction.identity = some identity) :
      Told reaction (.of .authenticationSucceeded "Authentication successful")

theorem Reaction.Told.code?_mem {reaction : Reaction} {reply : Reply} (told : reaction.Told reply) :
    reply.code? ∈ [some 334, some 235, some 535, some 554] := by
  cases told <;> simp [Reply.code?, Reply.of, Code.number]

def Reaction.Answered (reaction : Reaction) (answer : Except Fault Reply) : Prop :=
  ∃ reply, answer = .ok reply ∧ reaction.Told reply

namespace Exchange

def afterAll (e : Exchange) (heard : List Bytes) : Exchange := heard.foldl after e

/-- The calls that are made for some responses, in order. -/
def calls (e : Exchange) (heard : List Bytes) : List Event :=
  (heard.zip (e.mechanism.reactions heard)).map fun h => .mechanismHeard e.serial h.1 h.2

theorem afterAll_serial (e : Exchange) (heard : List Bytes) :
    (e.afterAll heard).serial = e.serial := by
  induction heard generalizing e with
  | nil => rfl
  | cons response rest ih => exact ih (e.after response)

theorem afterAll_concat (e : Exchange) (heard : List Bytes) (response : Bytes) :
    e.afterAll (heard ++ [response]) = (e.afterAll heard).after response :=
  List.foldl_append

theorem reactions_concat (e : Exchange) (heard : List Bytes) (response : Bytes) :
    e.mechanism.reactions (heard ++ [response]) =
      e.mechanism.reactions heard ++ [(e.afterAll heard).reaction response] := by
  induction heard generalizing e with
  | nil => rfl
  | cons first rest ih => exact congrArg (e.reaction first :: ·) (ih (e.after first))

theorem length_reactions (m : Mechanism) (heard : List Bytes) :
    (m.reactions heard).length = heard.length := by
  induction heard generalizing m with
  | nil => rfl
  | cons response rest ih => exact congrArg (· + 1) (ih _)

theorem calls_concat (e : Exchange) (heard : List Bytes) (response : Bytes) :
    e.calls (heard ++ [response]) =
      e.calls heard ++
        [.mechanismHeard e.serial response ((e.afterAll heard).reaction response)] := by
  rw [calls, reactions_concat, List.zip_append (length_reactions _ _).symm, List.map_append]
  rfl

end Exchange

namespace Session

/-- All responses to the mechanism of an exchange that was begun in `s` have been heard, and a further
one is awaited. -/
structure Waits (factory : Factory) (heard : List Bytes) (s t : Session κ) : Prop where
  state : t.state = s.state
  consumers : t.consumers = s.consumers.insert Place.responses.name .responses
  exchange : t.properties.get? Key.exchange.name =
    some (.exchange ((openExchange factory s).1.afterAll heard))
  journal : t.unlogged.journal = ((openExchange factory s).1.calls heard).reverse ++
    (openExchange factory s).2.unlogged.journal

/-- All responses to the mechanism of an exchange that was begun in `s` have been heard, and with the
last reaction the exchange is over. -/
structure Parted (factory : Factory) (heard : List Bytes) (last : Reaction) (s t : Session κ) :
    Prop where
  state : t.state = if last.succeeds then .afterEhlo else s.state
  consumers : t.consumers = s.consumers
  exchange : t.properties.get? Key.exchange.name = none
  journal : t.unlogged.journal = .mechanismDisposed s.exchangesOpened ::
    (((openExchange factory s).1.calls heard).reverse ++ (openExchange factory s).2.unlogged.journal)

/-- The mechanism of an exchange that was begun in `s` has heard some responses and is about to hear
another. -/
private structure Hearing (factory : Factory) (heard : List Bytes) (s u : Session κ) : Prop where
  state : u.state = s.state
  installed : u.consumers.insert Place.responses.name .responses =
    s.consumers.insert Place.responses.name .responses
  uninstalled : u.consumers.erase Place.responses.name = s.consumers
  idle : u.properties.get? Key.exchange.name = none
  journal : u.unlogged.journal = ((openExchange factory s).1.calls heard).reverse ++
    (openExchange factory s).2.unlogged.journal

/-- What the exchange comes to with its last reaction. -/
structure Comes (factory : Factory) (heard : List Bytes) (last : Reaction) (s t : Session κ) : Prop where
  waits : last.isOpen = true → s.Waits factory heard t
  parted : last.isOpen = false → s.Parted factory heard last t

variable {factory : Factory} {heard : List Bytes} {last : Reaction} {s t u : Session κ}

private theorem Comes.of_waits (still : last.isOpen = true) (waits : s.Waits factory heard t) :
    s.Comes factory heard last t :=
  ⟨fun _ => waits, fun shut => absurd still (Bool.eq_false_iff.mp shut)⟩

private theorem Comes.of_parted (shut : last.isOpen = false) (parted : s.Parted factory heard last t) :
    s.Comes factory heard last t :=
  ⟨fun still => absurd still (Bool.eq_false_iff.mp shut), fun _ => parted⟩

private theorem Hearing.hears (hearing : Hearing factory heard s u) {response : Bytes} {line : Line}
    {answer : Except Fault Reply} {e : Exchange} (same : (openExchange factory s).1.afterAll heard = e)
    (done : Outcome.conclude line (continueExchange e response u) = (answer, t)) :
    (e.reaction response).Answered answer ∧
      s.Comes factory (heard ++ [response]) (e.reaction response) t := by
  obtain ⟨reply, answered, continued⟩ := continueExchange_continued e response u line
  rw [done] at answered continued
  have serial : s.exchangesOpened = e.serial := by rw [← same, Exchange.afterAll_serial]; rfl
  have calls : ((openExchange factory s).1.calls (heard ++ [response])).reverse ++
      (openExchange factory s).2.unlogged.journal =
        .mechanismHeard e.serial response (e.reaction response) :: u.unlogged.journal := by
    rw [Exchange.calls_concat, same, List.reverse_append, hearing.journal, ← serial]
    rfl
  generalize after : Session.unlogged t = v at continued
  -- The three ways in which an exchange ends differ only in the state and the properties.
  have parted (gone : v.consumers = u.consumers.erase Place.responses.name)
      (idle : v.properties.get? Key.exchange.name = none)
      (told : v.journal = .mechanismDisposed e.serial ::
        .mechanismHeard e.serial response (e.reaction response) :: u.unlogged.journal)
      (moved : v.state = if (e.reaction response).succeeds then .afterEhlo else s.state) :
      s.Parted factory (heard ++ [response]) (e.reaction response) t := by
    refine ⟨?_, ?_, ?_, ?_⟩
    · rw [← unlogged_state, after, moved]
    · rw [← unlogged_consumers, after, gone, hearing.uninstalled]
    · rw [← unlogged_properties, after, idle]
    · rw [after, told, calls, serial]
  cases continued with
  | asked wants unfinished =>
    have waits : (e.reaction response).isOpen = true := by
      rw [Reaction.isOpen, wants, unfinished]
      rfl
    refine ⟨⟨_, answered, .asked wants unfinished (Base64.decode_ofString_text _)⟩,
      .of_waits waits ⟨?_, ?_, ?_, ?_⟩⟩
    · rw [← unlogged_state, after]
      exact hearing.state
    · rw [← unlogged_consumers, after]
      exact hearing.installed
    · rw [← unlogged_properties, after, Exchange.afterAll_concat, same]
      exact (get?_insert .exchange .exchange _ _).trans (if_pos rfl)
    · rw [after, calls]
  | failed broke =>
    have shut : (e.reaction response).isOpen = false := by rw [Reaction.isOpen, broke]; rfl
    have fails : (e.reaction response).succeeds = false := by rw [Reaction.succeeds, broke]; rfl
    refine ⟨⟨_, answered, .failed broke⟩, .of_parted shut (parted rfl hearing.idle rfl ?_)⟩
    rw [fails]
    exact hearing.state
  | denied wants finished nobody =>
    have shut : (e.reaction response).isOpen = false := by rw [Reaction.isOpen, wants, finished]; rfl
    have fails : (e.reaction response).succeeds = false := by simp [Reaction.succeeds, nobody]
    refine ⟨⟨_, answered, .denied wants finished nobody⟩,
      .of_parted shut (parted rfl hearing.idle rfl ?_)⟩
    rw [fails]
    exact hearing.state
  | succeeded wants finished somebody =>
    have shut : (e.reaction response).isOpen = false := by rw [Reaction.isOpen, wants, finished]; rfl
    have succeeds : (e.reaction response).succeeds = true := by
      rw [Reaction.succeeds, wants, finished, somebody]
      rfl
    refine ⟨⟨_, answered, .succeeded wants finished somebody⟩,
      .of_parted shut (parted rfl ?_ rfl ?_)⟩
    · cases (e.reaction response).authcid? <;> simpa [get?_insert] using hearing.idle
    · rw [succeeds]
      rfl

end Session

def initialToken (response : Bytes) : List Char :=
  if response = [] then ['='] else Base64.text response

theorem initialResponse?_initialToken (response : Bytes) :
    initialResponse? (initialToken response) = .ok response := by
  rw [initialToken]
  split
  · rename_i empty
    rw [empty]
    rfl
  · rw [initialResponse?, if_neg (Base64.text_ne_singleton response '=' (by decide)),
      Base64.encode_text, Base64.decode_encode]

def Line.Brings (line : Line) (response : Bytes) : Prop := line.content = Base64.encode response

instance {line : Line} {response : Bytes} : Decidable (line.Brings response) :=
  inferInstanceAs (Decidable (_ = _))

theorem Text.trim_of_none {p : Char → Bool} {cs : List Char} (none : ∀ c ∈ cs, p c = false) :
    Text.trim p cs = cs := by
  have whole {cs : List Char} (none : ∀ c ∈ cs, p c = false) : cs.dropWhile p = cs := by
    cases cs with
    | nil => rfl
    | cons c cs => rw [List.dropWhile_cons, none c List.mem_cons_self, if_neg Bool.false_ne_true]
  have behind : ∀ c ∈ cs.reverse, p c = false := fun c h => none c (List.mem_reverse.mp h)
  rw [Text.trim, Text.trimStart, whole none, Text.trimEnd, whole behind, List.reverse_reverse]

theorem Line.Brings.trim_chars {line : Line} {response : Bytes} (brings : line.Brings response) :
    Text.trim Text.isBlank line.chars = Base64.text response := by
  rw [Line.chars, brings]
  exact Text.trim_of_none Base64.not_isBlank_of_mem_text

theorem Line.Brings.takeResponse_eq {line : Line} {response : Bytes} (brings : line.Brings response)
    (e : Exchange) (s : Session κ) : takeResponse e line s = continueExchange e response s := by
  simp only [takeResponse, brings.trim_chars]
  rw [if_neg (Base64.text_ne_singleton response '*' (by decide)), Base64.encode_text,
    Base64.decode_encode]

theorem Grammar.isMechanismChar_toUpper (c : Char) :
    isMechanismChar c.toUpper = isMechanismChar c := by
  by_cases lower : c.val ≥ 'a'.val ∧ c.val ≤ 'z'.val
  · have all : ∀ n : Fin 26, isMechanismChar (Char.ofNat (97 + n)).toUpper =
        isMechanismChar (Char.ofNat (97 + n)) := by decide
    have low : 97 ≤ c.toNat := lower.1
    have high : c.toNat ≤ 122 := lower.2
    have own := all ⟨c.toNat - 97, by omega⟩
    rwa [Nat.add_sub_cancel' low, Char.ofNat_toNat] at own
  · have same : c.toUpper = c := dif_neg lower
    rw [same]

theorem Grammar.isMechanismName_of_sameLetters {a b : String} (same : Text.sameLetters a b = true) :
    isMechanismName a = isMechanismName b := by
  have letters : a.toList.map Char.toUpper = b.toList.map Char.toUpper := by
    have same := eq_of_beq same
    rw [Text.upper, Text.upper] at same
    exact String.ofList_injective same
  have length : a.toList.length = b.toList.length := by
    simpa using congrArg List.length letters
  have all {t : String} :
      t.toList.all isMechanismChar = (t.toList.map Char.toUpper).all isMechanismChar := by
    rw [List.all_map]
    congr 1
    funext c
    exact (isMechanismChar_toUpper c).symm
  simp only [isMechanismName, length, all, letters]

theorem Registry.get?_singleton {name : String} {factory : Factory}
    (same : Text.sameLetters factory.name name = true) :
    Registry.get? name ⟨[factory]⟩ = some factory :=
  List.find?_cons_of_pos same

namespace Server

/-- A consumer leaves a line to those behind it, and everything as it is. -/
def Declines (server : Server κ) (s : Session κ) (line : Line) (consumer : Consumer κ) : Prop :=
  (server.hook consumer).onLine server.site s line = (.ok .declined, s, line)

/-- A line comes to the dispatch if the consumers in front of it decline it. -/
theorem consume_of_declines {server : Server κ} {s : Session κ} {line : Line}
    {front back : List (Consumer κ)} (chain : s.consumers.values = front ++ .dispatch :: back)
    (declined : ∀ c ∈ front, server.Declines s line c)
    (decides : (server.dispatch.consume server.site s line).1 ≠ .ok .declined) :
    server.consume s line =
      Outcome.conclude line (server.dispatch.consume server.site s line) := by
  have offered : server.offerLine (front ++ .dispatch :: back) s line =
      server.offerLine (.dispatch :: back) s line := by
    clear chain
    induction front with
    | nil => rfl
    | cons c rest ih =>
      rw [List.cons_append, offerLine, declined c List.mem_cons_self]
      exact ih fun c h => declined c (List.mem_cons_of_mem _ h)
  rw [consume, chain, offered, offerLine]
  simp only [hook, Dispatch.hook, Hook.reading]
  generalize server.dispatch.consume server.site s line = done at decides
  obtain ⟨answer, t⟩ := done
  rcases answer with fault | verdict
  · rfl
  · cases verdict with
    | declined => exact absurd rfl decides
    | handled decision => rfl

/-- A line of AUTH asks for a mechanism that may be used, in a session where this is permitted. -/
structure Begins (server : Server κ) (policy : AuthPolicy) (front : List (Consumer κ))
    (factory : Factory) (initial : Option Bytes) (s : Session κ) (line : Line) : Prop where
  terminated : line.isTerminated = true
  served : server.dispatch.get? line.verb = some (Command.auth policy)
  registered : ∃ name, policy.registry.get? (String.ofList name) = some factory ∧
    Text.words Text.isAsciiBlank (Grammar.arguments line.text).toList =
      name :: (initial.map initialToken).toList
  available : policy.allows s factory = true
  permitted : initial.isSome = true → factory.allowsInitial = true
  gate : (Command.auth policy : Handler κ).validFor s = true
  idle : s.properties.get? Key.exchange.name = none
  free : s.consumers.contains Place.responses.name = false
  chain : ∃ back, s.consumers.values = front ++ .dispatch :: back
  declined : ∀ c ∈ front, server.Declines s line c

variable {server : Server κ} {policy : AuthPolicy} {front : List (Consumer κ)} {factory : Factory}
  {initial : Option Bytes} {s t u : Session κ} {line : Line} {heard : List Bytes}

private theorem Begins.dispatched (begins : server.Begins policy front factory initial s line)
    (named : Grammar.isMechanismName factory.name = true) :
    server.dispatch.consume server.site s line =
      continueExchange (openExchange factory s).1 (initial.getD []) (openExchange factory s).2 := by
  obtain ⟨name, registered, words⟩ := begins.registered
  have found : AuthPolicy.find? policy s (String.ofList name) = some factory := by
    have found := registered
    rw [Registry.get?] at found
    have same := List.find?_some found
    have letters := Grammar.isMechanismName_of_sameLetters same
    rw [AuthPolicy.find?, registered, Option.filter_some, ← letters, named, begins.available]
    rfl
  rw [Dispatch.consume, if_pos begins.terminated, begins.served]
  simp only [Handler.handle, begins.gate, if_true]
  simp only [auth, Handler.arguments, Option.map_some, Option.getD_some, words]
  cases initial with
  | none => simp only [Option.map_none, Option.toList_none, authenticate, found]; rfl
  | some response =>
    simp only [Option.map_some, Option.toList_some, authenticate, found, beginExchange,
      initialResponse?_initialToken, begins.permitted rfl, if_true, Option.getD_some]

theorem Begins.erase (begins : server.Begins policy front factory initial s line) :
    s.consumers.erase Place.responses.name = s.consumers :=
  Chain.erase_of_not_contains begins.free

theorem Begins.consume_eq (begins : server.Begins policy front factory initial s line)
    (named : Grammar.isMechanismName factory.name = true) :
    server.consume s line = Outcome.conclude line
      (continueExchange (openExchange factory s).1 (initial.getD []) (openExchange factory s).2) := by
  obtain ⟨back, chain⟩ := begins.chain
  have consumed := consume_of_declines chain begins.declined (by
    rw [begins.dispatched named]
    exact continueExchange_decides _ _ _)
  rw [consumed, begins.dispatched named]

private theorem Begins.consume (begins : server.Begins policy front factory initial s line)
    (named : Grammar.isMechanismName factory.name = true) :
    let e := (openExchange factory s).1
    (e.reaction (initial.getD [])).Answered (server.consume s line).1 ∧
      s.Comes factory [initial.getD []] (e.reaction (initial.getD [])) (server.consume s line).2 := by
  have hearing : s.Hearing factory [] (openExchange factory s).2 :=
    ⟨rfl, rfl, begins.erase, begins.idle, rfl⟩
  rw [begins.consume_eq named]
  exact hearing.hears rfl rfl

private theorem waits_consume (server : Server κ)
    (erase : s.consumers.erase Place.responses.name = s.consumers)
    (waits : s.Waits factory heard t) {response : Bytes} (brings : line.Brings response) :
    let e := (openExchange factory s).1.afterAll heard
    (e.reaction response).Answered (server.consume t line).1 ∧
      s.Comes factory (heard ++ [response]) (e.reaction response) (server.consume t line).2 := by
  have hearing : s.Hearing factory heard (t.clearProperty .exchange) := by
    refine ⟨waits.state, ?_, ?_, (Session.get?_erase .exchange .exchange _).trans (if_pos rfl),
      waits.journal⟩
    · exact (congrArg (Chain.insert Place.responses.name .responses) waits.consumers).trans
        (Chain.insert_insert _ _ _ _)
    · exact (congrArg (Chain.erase Place.responses.name) waits.consumers).trans
        ((Chain.erase_insert _ _ _).trans erase)
  have front : t.consumers.values = .responses :: s.consumers.values := by
    rw [waits.consumers, Chain.insert, erase]
    rfl
  rw [consume_of_responses front waits.exchange, brings.takeResponse_eq]
  exact hearing.hears rfl rfl

/-- What becomes of some lines, one after the other: the answers, and the session. -/
def consumeAll (server : Server κ) (s : Session κ) : List Line →
    List (Except Fault Reply) × Session κ
  | [] => ([], s)
  | line :: rest =>
    let (answer, s) := server.consume s line
    let (answers, s) := consumeAll server s rest
    (answer :: answers, s)

/-- Where each response but the last is answered by asking for a further one, all are heard. -/
private theorem consumeAll_comes (erase : s.consumers.erase Place.responses.name = s.consumers)
    {lines : List Line} {responses : List Bytes} (brings : List.Forall₂ Line.Brings lines responses)
    {response : Bytes} {e : Exchange} (same : (openExchange factory s).1.afterAll heard = e)
    (first : (e.reaction response).Answered (server.consume t line).1 ∧
      s.Comes factory (heard ++ [response]) (e.reaction response) (server.consume t line).2)
    (awaited : ∀ reaction ∈ (e.mechanism.reactions (response :: responses)).dropLast,
      reaction.isOpen = true) :
    let done := server.consumeAll t (line :: lines)
    List.Forall₂ Reaction.Answered (e.mechanism.reactions (response :: responses)) done.1 ∧
      ∀ last ∈ (e.mechanism.reactions (response :: responses)).getLast?,
        s.Comes factory (heard ++ response :: responses) last done.2 := by
  -- The induction is on the lines after the present one, which was dealt with by AUTH or the consumer.
  induction brings generalizing heard t line response e with
  | nil =>
    refine ⟨.cons first.1 .nil, ?_⟩
    rintro last ⟨⟩
    exact first.2
  | @cons next reply lines responses here brings ih =>
    have asked : (e.reaction response).isOpen = true := awaited _ List.mem_cons_self
    have after : (openExchange factory s).1.afterAll (heard ++ [response]) = e.after response := by
      rw [Exchange.afterAll_concat, same]
    have second := waits_consume server erase (first.2.waits asked) here
    rw [after] at second
    obtain ⟨answered, comes⟩ := ih after second fun reaction h =>
      awaited reaction (List.mem_cons_of_mem _ h)
    refine ⟨.cons first.1 answered, fun last h => ?_⟩
    rw [List.append_cons]
    exact comes last h

/-- In the sessions of a server of the library nothing stands in the way of AUTH between two commands. -/
theorem begins_of_fits {config : Config} {newMail : Session κ → MailBehaviour} {custom : κ → Hook κ}
    {features : List Feature} (fits : s.Fits s.state)
    (offered : Feature.policy? features = some policy)
    (idle : s.properties.get? Key.exchange.name = none)
    (gate : (Command.auth policy : Handler κ).validFor s = true)
    (terminated : line.isTerminated = true) (verb : Text.upper line.verb = "AUTH")
    (registered : ∃ name, policy.registry.get? (String.ofList name) = some factory ∧
      Text.words Text.isAsciiBlank (Grammar.arguments line.text).toList =
        name :: (initial.map initialToken).toList)
    (available : policy.allows s factory = true)
    (permitted : initial.isSome = true → factory.allowsInitial = true) :
    (ofFeatures config newMail custom features).Begins policy [] factory initial s line := by
  have between : betweenTransactions s.state = true := (Bool.and_eq_true_iff.mp gate).1
  have quiet : s.state ≠ .readingData := by
    intro receiving
    rw [receiving] at between
    contradiction
  have chain := fits.consumers_of_idle quiet idle
  refine ⟨terminated, ?_, registered, available, permitted, gate, idle, ?_, ⟨[], ?_⟩, nofun⟩
  · rw [dispatch_get?_auth config newMail custom features verb, offered]
    rfl
  · rw [chain]
    rfl
  · rw [chain]
    rfl

/-- An exchange is a run of its mechanism. A client that may use a mechanism asks for it, perhaps with an
initial response, and then sends a line for each 334. The mechanism, which is known by a name that a
mechanism can have, hears the initial response, or the empty one, and after it those of the lines; what
the client is told of each reaction is decided by that alone. As long as a further response is awaited
the state stays; when the exchange is over, it has moved only if there is an identity, nothing is left of
the exchange, and the next line goes to the dispatch as before. -/
theorem exchange_refines_mechanism (begins : server.Begins policy front factory initial s line)
    (named : Grammar.isMechanismName factory.name = true) {lines : List Line}
    {responses : List Bytes} (brings : List.Forall₂ Line.Brings lines responses)
    (awaited : ∀ reaction ∈ ((factory.create s.journal).reactions
      (initial.getD [] :: responses)).dropLast, reaction.isOpen = true) :
    let heard := initial.getD [] :: responses
    let reactions := (factory.create s.journal).reactions heard
    let done := server.consumeAll s (line :: lines)
    List.Forall₂ Reaction.Answered reactions done.1 ∧ ∃ last ∈ reactions.getLast?,
      (last.isOpen = true → s.Waits factory heard done.2) ∧
      (last.isOpen = false → s.Parted factory heard last done.2 ∧
        ∀ next, (∀ c ∈ front, server.Declines done.2 next c) →
          (server.dispatch.consume server.site done.2 next).1 ≠ .ok .declined →
            server.consume done.2 next =
              Outcome.conclude next (server.dispatch.consume server.site done.2 next)) := by
  intro heard reactions done
  have same : (openExchange factory s).1.afterAll [] = (openExchange factory s).1 := rfl
  obtain ⟨answered, comes⟩ := consumeAll_comes begins.erase brings same (begins.consume named) awaited
  obtain ⟨back, chain⟩ := begins.chain
  have nonempty : reactions ≠ [] := nofun
  have last : reactions.getLast nonempty ∈ reactions.getLast? :=
    List.getLast?_eq_some_getLast nonempty
  refine ⟨answered, _, last, (comes _ last).waits, fun shut => ?_⟩
  have parted := (comes _ last).parted shut
  have same : done.2.consumers.values = front ++ .dispatch :: back := by rw [parted.consumers, chain]
  exact ⟨parted, fun next declined decides => consume_of_declines same declined decides⟩

/-- A mechanism that repeats what it hears is asked for with an empty initial response, and ends with the
third response it hears. -/
theorem exchange_refines_mechanism_of_three :
    let echo : Factory :=
      { name := "X-ECHO"
        create := fun _ => ⟨"X-ECHO", fun heard =>
          ⟨.ok (heard.headD []), heard.length == 3, some "dib", [], []⟩, []⟩ }
    let policy : AuthPolicy := ⟨⟨[echo]⟩, true⟩
    let server := ofFeatures {} (fun _ _ _ => .ok .ok) Empty.elim [.auth policy]
    let s := (server.replay "client.example" [.connect, .line (.ofText "EHLO client.example")]).2
    let done := server.consumeAll s [.ofText "AUTH x-echo =", .ofText "Af8=", .ofText ""]
    server.Begins policy [] echo (some []) s (.ofText "AUTH x-echo =") ∧
      List.Forall₂ Reaction.Answered
        ((echo.create s.journal).reactions [[], [1, 255], []]) done.1 ∧
      s.Parted echo [[], [1, 255], []] ⟨.ok [], true, some "dib", [], []⟩ done.2 := by
  intro echo policy server s done
  have run := run_replay server "client.example"
    [.connect, .line (.ofText "EHLO client.example")] (by decide +kernel)
  have ⟨idle, gate⟩ : (s.properties.get? Key.exchange.name).isNone = true ∧
      (Command.auth policy : Handler Empty).validFor s = true := by decide +kernel
  have words : Text.words Text.isAsciiBlank
      (Grammar.arguments (Line.ofText "AUTH x-echo =").text).toList =
        "x-echo".toList :: [initialToken []] := by decide +kernel
  have same : Text.sameLetters echo.name (String.ofList "x-echo".toList) = true := by decide +kernel
  have begins : server.Begins policy [] echo (some []) s (.ofText "AUTH x-echo =") :=
    begins_of_fits run.fits rfl (Option.isNone_iff_eq_none.mp idle) gate (by decide +kernel)
      (by decide +kernel) ⟨_, Registry.get?_singleton same, words⟩ (by decide +kernel) fun _ => rfl
  have brings : List.Forall₂ Line.Brings [.ofText "Af8=", .ofText ""] [[1, 255], []] :=
    .cons (by decide +kernel) (.cons (by decide +kernel) .nil)
  have facts := exchange_refines_mechanism begins (by decide +kernel) brings (by decide +kernel)
  obtain ⟨answered, _, ⟨⟩, -, shut⟩ := facts
  exact ⟨begins, answered, (shut rfl).1⟩

/-- A mechanism under a name that no mechanism can have is offered to nobody, though it is registered and
may be used. -/
theorem exchange_not_begun_of_dotted :
    let ask : Factory := { name := "X.ASK", create := fun _ => ⟨"X.ASK", fun _ => .idle, []⟩ }
    let policy : AuthPolicy := ⟨⟨[ask]⟩, true⟩
    let server := ofFeatures {} (fun _ _ _ => .ok .ok) Empty.elim [.auth policy]
    let s := (server.replay "client.example" [.connect, .line (.ofText "EHLO client.example")]).2
    let line : Line := .ofText "AUTH X.ASK"
    server.Begins policy [] ask none s line ∧
      ¬ (((ask.create s.journal).respond []).1.Answered (server.consume s line).1) := by
  intro ask policy server s line
  have run := run_replay server "client.example"
    [.connect, .line (.ofText "EHLO client.example")] (by decide +kernel)
  have ⟨idle, gate⟩ : (s.properties.get? Key.exchange.name).isNone = true ∧
      (Command.auth policy : Handler Empty).validFor s = true := by decide +kernel
  have words : Text.words Text.isAsciiBlank
      (Grammar.arguments line.text).toList = ["X.ASK".toList] := by decide +kernel
  have same : Text.sameLetters ask.name (String.ofList "X.ASK".toList) = true := by decide +kernel
  have begins : server.Begins policy [] ask none s line :=
    begins_of_fits run.fits rfl (Option.isNone_iff_eq_none.mp idle) gate (by decide +kernel)
      (by decide +kernel) ⟨_, Registry.get?_singleton same, words⟩ (by decide +kernel) nofun
  refine ⟨begins, ?_⟩
  rintro ⟨reply, answered, told⟩
  have refused : (server.consume s line).1.toOption.bind Reply.code? = some 504 := by
    decide +kernel
  rw [answered] at refused
  have code : reply.code? = some 504 := refused
  exact absurd (code ▸ told.code?_mem) (by decide)

end Server

end SmtpDialog
