/- digest: All that can happen to a session, in any order, and what it does to exchanges. -/
import SmtpDialog.Proofs.Ordinary
import SmtpDialog.Proofs.Serving

/-!
A session can be told anything at any time: a handshake in the middle of a message or an exchange, lines
without their terminator, the loss of the connection more than once. Its state says little then of what
it holds, but the chain still tells which consumer meets the next line, and an exchange is in progress
just if its consumer stands in front. `Dealing` lists what an occurrence does to exchanges: nothing, or
the mechanism of one hears a response, or the one in progress is over.
-/

set_option autoImplicit false
set_option relaxedAutoImplicit false

namespace SmtpDialog

open Command

variable {κ : Type}

inductive Occurrence
  | told (input : Input)
  | lost
  | logged (level : Level) (text : String)

namespace Server

/-- The session after an occurrence. -/
def befall (server : Server κ) (s : Session κ) : Occurrence → Session κ
  | .told input => (server.take s input).2
  | .lost => s.connectionLost
  | .logged level text => s.log level text

def through (server : Server κ) (s : Session κ) (occurrences : List Occurrence) : Session κ :=
  occurrences.foldl server.befall s

theorem through_append (server : Server κ) (s : Session κ) (front back : List Occurrence) :
    server.through s (front ++ back) = server.through (server.through s front) back :=
  List.foldl_append

theorem through_concat (server : Server κ) (s : Session κ) (front : List Occurrence)
    (occurrence : Occurrence) :
    server.through s (front ++ [occurrence]) = server.befall (server.through s front) occurrence :=
  through_append server s front [occurrence]

/-- What every occurrence keeps holds after any number of them. -/
theorem through_induct {server : Server κ} {motive : Session κ → Prop} {s : Session κ}
    (start : motive s) (step : ∀ s occurrence, motive s → motive (server.befall s occurrence))
    (occurrences : List Occurrence) : motive (server.through s occurrences) := by
  induction occurrences generalizing s with
  | nil => exact start
  | cons occurrence rest ih => exact ih (step s occurrence start)

/-- Runs are special cases, and so is what a transport does. -/
theorem Reachable.exists_through {server : Server κ} {peer : String} {s : Session κ}
    (reachable : server.Reachable peer s) :
    ∃ occurrences, s = server.through (server.newSession peer) occurrences := by
  obtain ⟨past, run⟩ := reachable
  induction run with
  | start => exact ⟨[], rfl⟩
  | step run input follows ih =>
    obtain ⟨occurrences, rfl⟩ := ih
    exact ⟨_, (through_concat server _ occurrences (.told input)).symm⟩
  | logged run level text ih =>
    obtain ⟨occurrences, rfl⟩ := ih
    exact ⟨_, (through_concat server _ occurrences (.logged level text)).symm⟩

theorem serve_exists_through (server : Server κ) (peer : String) (upgrader : Option TlsUpgrader)
    (w : Wire) :
    ∃ occurrences, (server.serve upgrader (server.newSession peer) w).session =
      server.through (server.newSession peer) occurrences := by
  obtain ⟨s, reachable, final⟩ := serve_session server peer upgrader w
  obtain ⟨occurrences, rfl⟩ := reachable.exists_through
  rcases final with lost | ⟨kept, -⟩
  · exact ⟨_, lost.trans (through_concat server _ occurrences .lost).symm⟩
  · exact ⟨occurrences, kept⟩

end Server

namespace Session

/-- The consumers of a session, and the exchange that is in progress if one is. -/
inductive Attended (s : Session κ) : Prop
  | commands (chain : s.consumers = ⟨[(Place.dispatch.name, .dispatch)]⟩)
      (idle : s.properties.get? Key.exchange.name = none)
  | content (chain : s.consumers =
        ⟨[(Place.content.name, .content), (Place.dispatch.name, .dispatch)]⟩)
      (idle : s.properties.get? Key.exchange.name = none)
  | exchange {e : Exchange} (chain : s.consumers =
        ⟨[(Place.responses.name, .responses), (Place.dispatch.name, .dispatch)]⟩)
      (pending : s.properties.get? Key.exchange.name = some (.exchange e))

/-- The exchange in progress is over, if there is one, and its mechanism is disposed of. -/
structure Ends (s t : Session κ) : Prop where
  exchange : t.properties.get? Key.exchange.name = none
  identity : t.properties.get? Key.identity.name = s.properties.get? Key.identity.name ∨
    t.properties.get? Key.identity.name = none
  opened : t.exchangesOpened = s.exchangesOpened
  tls : s.isTls = true → t.isTls = true
  events : t.mechanismEvents = s.mechanismEvents ++
    (s.read? Value.exchange? .exchange).elim [] fun e => [.mechanismDisposed e.serial]
  chain : t.consumers = s.consumers.erase Place.responses.name

variable {s t u : Session κ}

namespace Attended

theorem same (attended : s.Attended) (consumers : t.consumers = s.consumers)
    (exchange : t.properties.get? Key.exchange.name = s.properties.get? Key.exchange.name) :
    t.Attended := by
  cases attended with
  | commands chain idle => exact .commands (consumers.trans chain) (exchange.trans idle)
  | content chain idle => exact .content (consumers.trans chain) (exchange.trans idle)
  | exchange chain pending => exact .exchange (consumers.trans chain) (exchange.trans pending)

theorem consumers_of_idle (attended : s.Attended)
    (idle : s.properties.get? Key.exchange.name = none) :
    s.consumers = ⟨[(Place.dispatch.name, .dispatch)]⟩ ∨
      s.consumers = ⟨[(Place.content.name, .content), (Place.dispatch.name, .dispatch)]⟩ := by
  cases attended with
  | commands chain _ => exact .inl chain
  | content chain _ => exact .inr chain
  | exchange _ pending =>
    rw [idle] at pending
    contradiction

theorem apart (attended : s.Attended) (idle : s.properties.get? Key.exchange.name = none)
    (apart : s.Apart t) : t.Attended := by
  have still : t.properties.get? Key.exchange.name = none := apart.exchange.trans idle
  rcases apart.chain with chain | chain | chain
  · exact attended.same chain apart.exchange
  · apply Attended.commands _ still
    rcases attended.consumers_of_idle idle with before | before <;> rw [chain, before] <;> rfl
  · apply Attended.content _ still
    rcases attended.consumers_of_idle idle with before | before <;> rw [chain, before] <;> rfl

theorem ends (attended : s.Attended) (ends : s.Ends t) : t.Attended := by
  cases attended with
  | commands before _ | exchange before _ =>
    exact .commands (by rw [ends.chain, before]; rfl) ends.exchange
  | content before _ => exact .content (by rw [ends.chain, before]; rfl) ends.exchange

theorem exists_front (attended : s.Attended) :
    ∃ front : List (Consumer κ), s.consumers.values = front ++ [.dispatch] ∧
      ∀ c ∈ front, c = .content ∨ c = .responses := by
  cases attended with
  | commands chain _ => exact ⟨[], by rw [chain]; rfl, by simp⟩
  | content chain _ => exact ⟨[.content], by rw [chain]; rfl, by simp⟩
  | exchange chain _ => exact ⟨[.responses], by rw [chain]; rfl, by simp⟩

end Attended

end Session

theorem Continued.attended {e : Exchange} {response : Bytes} {u t : Session κ} {reply : Reply}
    (chain : u.consumers.erase Place.responses.name = ⟨[(Place.dispatch.name, .dispatch)]⟩)
    (idle : u.properties.get? Key.exchange.name = none)
    (continued : Continued e response u reply t) : t.Attended := by
  cases continued with
  | asked wants unfinished =>
    refine .exchange (e := e.after response) ?_ (by simp [Session.get?_insert])
    exact congrArg (fun c : Chain (Consumer κ) =>
      (⟨(Place.responses.name, .responses) :: c.entries⟩ : Chain (Consumer κ))) chain
  | failed broke => exact .commands chain idle
  | denied wants finished nobody => exact .commands chain idle
  | succeeded wants finished somebody =>
    refine .commands chain ?_
    cases (e.reaction response).authcid? <;> simpa [Session.get?_insert] using idle

/-- What an occurrence can do to the exchanges of a session. -/
inductive Dealing (features : List Feature) (s : Session κ) : Session κ → Prop
  | apart {t : Session κ} (apart : s.Apart t) : Dealing features s t
  | heard {line : Line} {e : Exchange} {response : Bytes} {reply : Reply} {t u : Session κ}
      (taken : Takes features line s e response u.unlogged)
      (continued : Continued e response u reply t.unlogged) : Dealing features s t
  | ended {t : Session κ} (ends : s.Ends t) : Dealing features s t

section

variable {features : List Feature} {s t u : Session κ}

open Session

private theorem ends_closeMail (ends : s.closeMail.Ends t) : s.Ends t := by
  have quiet : s.closeMail.mechanismEvents = s.mechanismEvents := by
    rw [closeMail_eq, mechanismEvents, List.filter_append, mechanismEvents]
    cases s.mail <;> rfl
  rw [closeMail_eq] at quiet ends
  exact { ends with events := by rw [ends.events, quiet]; rfl }

private theorem ends_abandonExchange (s : Session κ) : s.Ends s.abandonExchange := by
  rw [abandonExchange_eq]
  refine ⟨by simp [get?_erase], .inl (by simp [get?_erase]), rfl, id, ?_, rfl⟩
  rw [mechanismEvents_of_journal (s := s) _ rfl]
  cases s.read? Value.exchange? .exchange <;> rfl

theorem Session.release_ends (s : Session κ) : s.Ends s.release :=
  ends_closeMail (ends_abandonExchange s.closeMail)

private theorem connectionLost_ends (s : Session κ) : s.Ends s.connectionLost := by
  unfold connectionLost logInfoIf
  split
  · have ends := release_ends (s.logInfo "Connection lost with a mail transaction in progress")
    exact { ends with
      events := ends.events.trans (congrArg (· ++ _) (mechanismEvents_record rfl s)) }
  · exact release_ends s

theorem Session.tlsEstablished_ends (description : String) (s : Session κ) :
    s.Ends (s.tlsEstablished description) := by
  have ends := ends_closeMail (ends_abandonExchange s.unlogged.closeMail)
  have final := unlogged_tlsEstablished description s
  generalize s.tlsEstablished description = t at final
  refine ⟨?_, .inr ?_, ?_, ?_, ?_, ?_⟩
  · rw [← unlogged_properties, final]
    rfl
  · rw [← unlogged_properties, final]
    rfl
  · rw [← unlogged_exchangesOpened, final]
    exact ends.opened
  · rw [isTls, isTls, ← unlogged_tls t, final]
    exact fun _ => rfl
  · rw [← mechanismEvents_unlogged t, final, ← mechanismEvents_unlogged s]
    exact ends.events
  · rw [← unlogged_consumers, final]
    exact ends.chain

private theorem ends_moveTo (ends : s.Ends t) (next : State) : s.Ends (t.moveTo next) := by
  rw [moveTo]
  split
  · exact ends
  · exact { ends with events := (mechanismEvents_record rfl t).trans ends.events }

private theorem speaks_anything (site : Site κ) : site.Speaks fun _ => True :=
  ⟨fun _ _ _ => trivial, trivial, trivial, trivial, fun _ _ _ _ _ => trivial⟩

private theorem keeps_anything (s : Session κ) : s.Keeps fun _ => True :=
  ⟨fun _ _ _ _ _ _ => trivial, fun _ _ => trivial⟩

private theorem echoes_anything (site : Site κ) (s : Session κ) (verb text : String) :
    site.Echoes (fun _ => True) s verb text :=
  fun _ _ _ _ => ⟨trivial, fun _ => trivial⟩

private theorem dealing_of_ordinary {line : Line} {done : Outcome κ} (attended : s.Attended)
    (idle : s.properties.get? Key.exchange.name = none)
    (ordinary : done.Ordinary (fun _ => True) s) :
    (done.conclude line).2.Attended ∧ Dealing features s (done.conclude line).2 := by
  have apart := (ordinary.conclude trivial line).2.apart
  exact ⟨attended.apart idle apart, .apart apart⟩

private theorem dealing_of_continued {line : Line} {e : Exchange} {response : Bytes}
    (chain : u.consumers.erase Place.responses.name = ⟨[(Place.dispatch.name, .dispatch)]⟩)
    (idle : u.properties.get? Key.exchange.name = none)
    (taken : Takes features line s e response u.unlogged) :
    let t := ((continueExchange e response u).conclude line).2
    t.Attended ∧ Dealing features s t := by
  obtain ⟨reply, -, continued⟩ := continueExchange_continued e response u line
  exact ⟨(continued.attended chain idle).same rfl rfl, .heard taken continued⟩

private theorem takeResponse_dealing {line : Line} {e : Exchange}
    (chain : s.consumers =
      ⟨[(Place.responses.name, .responses), (Place.dispatch.name, .dispatch)]⟩)
    (pending : s.properties.get? Key.exchange.name = some (.exchange e)) :
    let t := ((takeResponse e line (s.clearProperty .exchange)).conclude line).2
    t.Attended ∧ Dealing features s t := by
  have attended : s.Attended := .exchange chain pending
  have ends (level : Level) (text : String) : s.Ends
      ((((s.clearProperty .exchange).log level text).disposeMechanism e).uninstall .responses) := by
    have found : s.read? Value.exchange? .exchange = some e := by
      rw [read?, Properties.read?, pending]
      rfl
    have gone := get?_erase .exchange .exchange s.properties
    have kept := get?_erase .exchange .identity s.properties
    refine ⟨gone.trans (if_pos rfl), .inl (kept.trans (if_neg (by decide))), rfl, id, ?_, rfl⟩
    rw [mechanismEvents_of_journal (s := s) [.mechanismDisposed e.serial, .log level _] rfl, found]
    rfl
  rw [takeResponse]
  dsimp only
  split
  · have cancelled := ends_moveTo (ends .info "Client aborted AUTH") .afterEhlo
    exact ⟨attended.ends cancelled, .ended cancelled⟩
  · split
    · rename_i response decoded
      refine dealing_of_continued (u := s.clearProperty .exchange) ?_ ?_ (.resumed pending decoded)
      · exact (congrArg (·.erase Place.responses.name) chain).trans rfl
      · simp [clearProperty, get?_erase]
    · rename_i flaw encoded
      have dropped := ends .warn ("Bad base64 in AUTH response: " ++ flaw.message)
      exact ⟨attended.ends dropped, .ended dropped⟩

namespace Server

variable {config : Config} {newMail : Session κ → MailBehaviour} {custom : κ → Hook κ}

private theorem dispatch_dealing (line : Line)
    (chain : s.consumers = ⟨[(Place.dispatch.name, .dispatch)]⟩)
    (idle : s.properties.get? Key.exchange.name = none) :
    let server := ofFeatures config newMail custom features
    let t := ((server.dispatch.consume server.site s line).conclude line).2
    t.Attended ∧ Dealing features s t := by
  have attended : s.Attended := .commands chain idle
  have still : s.Ordinary (fun _ => True) s := .refl (keeps_anything s)
  dsimp only
  rw [Dispatch.consume]
  split
  · split
    · rename_i handler served
      by_cases auth : Text.upper line.verb = "AUTH"
      · rw [dispatch_get?_auth config newMail custom features auth] at served
        obtain ⟨policy, offered, rfl⟩ := Option.map_eq_some_iff.mp served
        rw [Handler.handle]
        split
        · rename_i valid
          rcases auth_run _ valid idle offered auth with
            ⟨reply, t, -, same, done⟩ | ⟨factory, response, taken, done⟩
          · rw [done]
            exact dealing_of_ordinary attended idle
              (Outcome.ordinary_stay trivial (still.of_unlogged same))
          · rw [done]
            exact dealing_of_continued (u := (openExchange factory s).2)
              (congrArg (·.erase Place.responses.name) chain) idle taken
        · exact dealing_of_ordinary attended idle (Outcome.ordinary_stay trivial still)
      · exact dealing_of_ordinary attended idle (serves_ordinary (speaks_anything _)
          (keeps_anything s) (fun _ => trivial) (echoes_anything _ _ _ _) auth
          (serves_of_get? config newMail custom features served))
    · exact dealing_of_ordinary attended idle ⟨by rintro _ ⟨⟩, still⟩
  · exact dealing_of_ordinary attended idle (Outcome.ordinary_error _ still)

private theorem consume_dealing (attended : s.Attended) (line : Line) :
    let t := ((ofFeatures config newMail custom features).consume s line).2
    t.Attended ∧ Dealing features s t := by
  cases attended with
  | commands chain idle =>
    rw [consume_of_dispatch (by rw [chain]; rfl)]
    exact dispatch_dealing line chain idle
  | content chain idle =>
    have front : s.consumers.values = [.content, .dispatch] := by rw [chain]; rfl
    rw [consume_of_content front]
    exact dealing_of_ordinary (.content chain idle) idle
      (content_ordinary (speaks_anything _) (keeps_anything s) line fun _ => trivial)
  | exchange chain pending =>
    have front : s.consumers.values = [.responses, .dispatch] := by rw [chain]; rfl
    rw [consume_of_responses front pending]
    exact takeResponse_dealing chain pending

private theorem dealing_of_kept (attended : s.Attended)
    (ordinary : s.Ordinary (fun _ => True) t) (consumers : t.consumers = s.consumers) :
    t.Attended ∧ Dealing features s t :=
  ⟨attended.same consumers ordinary.apart.exchange, .apart ordinary.apart⟩

private theorem failTransfer_dealing (attended : s.Attended) (ordinary : s.Ordinary (fun _ => True) t)
    (consumers : t.consumers = s.consumers) (reply : Reply) :
    (t.failTransfer reply).Attended ∧ Dealing features s (t.failTransfer reply) := by
  refine dealing_of_kept attended (ordinary.failTransfer trivial) ?_
  rw [failTransfer]
  split <;> exact consumers

variable (config newMail custom)

/-- Whatever happens, the exchange in progress has its consumer in front, and one thing is done. -/
theorem befall_dealing (features : List Feature) (attended : s.Attended) (occurrence : Occurrence) :
    let t := (ofFeatures config newMail custom features).befall s occurrence
    t.Attended ∧ Dealing features s t := by
  have still : s.Ordinary (fun _ => True) s := .refl (keeps_anything s)
  match occurrence with
  | .told .connect =>
    obtain ⟨front, chain, deaf⟩ := attended.exists_front
    have handler : (ofFeatures config newMail custom features).connectHandler = some greeting := by
      rw [ofFeatures_eq]
    simp only [befall, take]
    rw [connect_of_deaf chain deaf handler]
    split
    · refine dealing_of_kept attended (((still.log _ _).log _ _).moveTo .connected) ?_
      rw [moveTo]
      split <;> rfl
    · exact dealing_of_kept attended (still.log _ _) rfl
  | .told (.line line) => exact consume_dealing attended line
  | .told (.tooLong limit) =>
    simp only [befall, take, answerTooLong]
    split
    · exact failTransfer_dealing attended (still.log _ _) rfl _
    · exact dealing_of_kept attended (still.log _ _) rfl
  | .told (.abort reply) => exact failTransfer_dealing attended still rfl reply
  | .told (.secured description) =>
    have ends := tlsEstablished_ends description s
    exact ⟨attended.ends ends, .ended ends⟩
  | .lost =>
    have ends := connectionLost_ends s
    exact ⟨attended.ends ends, .ended ends⟩
  | .logged level text => exact dealing_of_kept attended (still.log level text) rfl

theorem newSession_attended (features : List Feature) (peer : String) :
    ((ofFeatures config newMail custom features).newSession peer).Attended :=
  .commands (ofFeatures_newSession_consumers config newMail custom features peer) rfl

end Server

end

end SmtpDialog
