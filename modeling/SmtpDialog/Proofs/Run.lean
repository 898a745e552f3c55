/- digest: Runs of a session, and that its stores fit its state in all of them. -/
import SmtpDialog.Proofs.Consume
import SmtpDialog.Proofs.Fits
import SmtpDialog.Transport.Serve

/-!
A run gives a new session connections, terminated lines, lines that were too long, failures of the
message being received, and TLS handshakes where the answer before was the invitation to one. What
an answer was does not matter otherwise: a run goes on after a fault. `Change` lists what one input
does to a session whose stores fit its state, all sessions of a run are such, and `Run.induct` is the
induction by which every law of runs is proved.
-/

set_option autoImplicit false
set_option relaxedAutoImplicit false

namespace SmtpDialog

/-- What a session is told. -/
inductive Input
  | connect
  | line (line : Line)
  | tooLong (limit : Nat)
  /-- The message being received is made to fail. -/
  | abort (reply : Reply)
  | secured (description : String)

/-- One input of a run: what was told, the session before and the answer. -/
structure Passage (κ : Type) where
  input : Input
  before : Session κ
  answer : Except Fault Reply

/-- Whether an input may follow a past, the latest passage first. -/
def Input.Follows {κ : Type} (past : List (Passage κ)) : Input → Prop
  | .line l => l.isTerminated = true
  | .secured _ => ∃ p ∈ past.head?, invitesTls p.answer = true
  | _ => True

/-- What the dot is answered if an input spoils the message being received. -/
def Input.trouble? : Input → Option Reply
  | .tooLong _ => some (.of .commandSyntaxError "Line too long")
  | .abort reply => some reply
  | _ => none

/-- Whether an input may follow any past. -/
def Input.isFree : Input → Bool
  | .line l => l.isTerminated
  | .secured _ => false
  | _ => true

theorem Input.follows_of_isFree {κ : Type} {input : Input} (free : input.isFree = true)
    (past : List (Passage κ)) : input.Follows past := by
  cases input with
  | line l => exact free
  | secured description => contradiction
  | connect | tooLong | abort => trivial

def Line.ofText (text : String) : Line := ⟨Utf8.encode (text.toList ++ ['\r', '\n'])⟩

namespace Server

variable {κ : Type}

/-- Tells a session an input. Where it says nothing, the answer is silent. -/
def take (server : Server κ) (s : Session κ) : Input → Except Fault Reply × Session κ
  | .connect => server.connect s
  | .line line => server.consume s line
  | .tooLong limit => (.ok (answerTooLong limit s).1, (answerTooLong limit s).2)
  | .abort reply => (.ok .silent, s.failTransfer reply)
  | .secured description => (.ok .silent, s.tlsEstablished description)

/-- The pasts, the latest passage first, and the sessions that they lead to. Whatever is logged in
between is no part of a past. -/
inductive Run (server : Server κ) (peer : String) : List (Passage κ) → Session κ → Prop
  | start : Run server peer [] (server.newSession peer)
  | step {past : List (Passage κ)} {s : Session κ} (run : Run server peer past s) (input : Input)
      (follows : input.Follows past) :
      Run server peer (⟨input, s, (server.take s input).1⟩ :: past) (server.take s input).2
  | logged {past : List (Passage κ)} {s : Session κ} (run : Run server peer past s)
      (level : Level) (text : String) : Run server peer past (s.log level text)

end Server

/-- What an input can do to a session whose stores fit its state. -/
inductive Change {κ : Type} (config : Config) (features : List Feature) (s : Session κ) :
    Input → Except Fault Reply → Session κ → Prop
  | welcomed {text : String} (valid : s.state = .beforeConnect) :
      Change config features s .connect (.ok (.of .serviceReady text))
        { s.unlogged with state := .connected }
  | unwelcome (invalid : s.state ≠ .beforeConnect) :
      Change config features s .connect (.ok .badSequence) s.unlogged
  | line {line : Line} {answer : Except Fault Reply} {t : Session κ}
      (effect : Effect config features line s answer t) :
      Change config features s (.line line) answer t
  | complained {limit : Nat} {reply : Reply} (quiet : s.state ≠ .readingData)
      (plain : reply.isStartTls = false) :
      Change config features s (.tooLong limit) (.ok reply) s.unlogged
  /-- The message being received has failed before, or there is none. -/
  | ignored {input : Input} (trouble : input.trouble?.isSome = true)
      (moot : s.state = .readingData → s.hasProperty .contentFault = true) :
      Change config features s input (.ok .silent) s.unlogged
  | failed {input : Input} {reply : Reply} (trouble : input.trouble? = some reply)
      (receiving : s.state = .readingData)
      (sound : s.properties.get? Key.contentFault.name = none) :
      Change config features s input (.ok .silent)
        { s.unlogged with
          properties := s.properties.insert Key.contentFault.name (.reply reply) }
  | secured {description : String} (quiet : s.state ≠ .readingData) :
      Change config features s (.secured description) (.ok .silent)
        { s.unlogged.closeMail.abandonExchange with
          state := .connected
          properties := .empty
          logPrefix := s.logPrefix.clearUser
          tls := some description }

theorem Change.cast {κ : Type} {config : Config} {features : List Feature} {s t u : Session κ}
    {input : Input} {answer : Except Fault Reply} (h : Change config features s input answer t)
    (same : t = u) : Change config features s input answer u :=
  same ▸ h

section

open Command Session

variable {κ : Type} {config : Config} {features : List Feature} {s t : Session κ}

theorem Session.Fits.chain_contains_content (fits : s.Fits s.state) :
    s.consumers.contains Place.content.name = decide (s.state = .readingData) := by
  rw [fits.consumers, transient]
  by_cases receiving : s.state = .readingData
  · simp [receiving, Chain.contains]
  · rw [if_neg receiving]
    cases s.hasProperty .exchange <;> simp [receiving, Chain.contains, Place.name]

private theorem failTransfer_change {input : Input} {reply : Reply}
    (trouble : input.trouble? = some reply) (fits : s.Fits s.state) :
    Change config features s input (.ok .silent) (s.failTransfer reply).unlogged := by
  unfold failTransfer
  rw [fits.chain_contains_content]
  split
  · rename_i due
    obtain ⟨receiving, sound⟩ : s.state = .readingData ∧
        s.properties.get? Key.contentFault.name = none := by
      simpa [hasProperty, Table.contains] using due
    exact .failed trouble receiving sound
  · rename_i due
    apply Change.ignored (Option.isSome_of_eq_some trouble)
    intro receiving
    simpa [receiving] using due

private theorem answerTooLong_change (fits : s.Fits s.state) (limit : Nat) :
    Change config features s (.tooLong limit) (.ok (Server.answerTooLong limit s).1)
      (Server.answerTooLong limit s).2.unlogged := by
  unfold Server.answerTooLong
  dsimp only
  split
  · rw [unlogged_failTransfer, unlogged_logWarn, ← unlogged_failTransfer]
    exact failTransfer_change rfl fits
  · rename_i quiet
    exact .complained quiet rfl

theorem offerConnect_of_deaf {server : Server κ} {front : List (Consumer κ)}
    (deaf : ∀ c ∈ front, c = .content ∨ c = .responses) (s : Session κ) :
    server.offerConnect (front ++ [.dispatch]) s = server.dispatch.connect server.site s := by
  induction front with
  | nil =>
    simp only [List.nil_append, Server.offerConnect, Server.hook, Dispatch.hook, Hook.reading]
    rcases server.dispatch.connect server.site s with ⟨fault | done, t⟩
    · rfl
    · cases done <;> rfl
  | cons c rest ih =>
    have front_deaf := ih fun c h => deaf c (List.mem_cons_of_mem _ h)
    rcases deaf c List.mem_cons_self with rfl | rfl <;> exact front_deaf

theorem Server.connect_of_deaf {server : Server κ} {front : List (Consumer κ)}
    (chain : s.consumers.values = front ++ [.dispatch])
    (deaf : ∀ c ∈ front, c = .content ∨ c = .responses)
    (handler : server.connectHandler = some greeting) :
    server.connect s =
      if s.state = .beforeConnect then
        (.ok (.of .serviceReady (server.config.hostName ++ " " ++ server.config.greeting)),
          ((s.logInfo "Connection accepted").logInfo "Sending greeting").moveTo .connected)
      else (.ok .badSequence, s.logInfo "Connection accepted") := by
  have offered : server.offerConnect s.consumers.values (s.logInfo "Connection accepted") =
      greeting.handle server.site (s.logInfo "Connection accepted") none := by
    rw [chain, offerConnect_of_deaf deaf, Dispatch.connect, Server.dispatch_connectHandler, handler]
  have consumers : (s.logInfo "Connection accepted").consumers = s.consumers := rfl
  rw [Server.connect, consumers, offered]
  by_cases fresh : s.state = .beforeConnect
  · rw [Handler.handle, if_pos (by exact beq_iff_eq.mpr fresh), if_pos fresh]
    rfl
  · rw [Handler.handle, if_neg (by exact fun valid => fresh (beq_iff_eq.mp valid)), if_neg fresh]
    rfl

theorem Server.connect_newSession (config : Config) (newMail : Session κ → MailBehaviour)
    (custom : κ → Hook κ) (features : List Feature) (peer : String) :
    let server := ofFeatures config newMail custom features
    server.connect (server.newSession peer) =
      (.ok (.of .serviceReady (config.hostName ++ " " ++ config.greeting)),
        (((server.newSession peer).logInfo "Connection accepted").logInfo
          "Sending greeting").moveTo .connected) := by
  intro server
  have chain : (server.newSession peer).consumers.values = [] ++ [.dispatch] := by
    rw [ofFeatures_newSession_consumers]
    rfl
  have handler : server.connectHandler = some greeting := by
    simp only [server, ofFeatures_eq]
  have settings : server.config = config := by
    simp only [server, ofFeatures_eq]
  have fresh : (server.newSession peer).state = .beforeConnect := rfl
  rw [connect_of_deaf chain nofun handler, if_pos fresh, settings]

theorem transient_deaf (state : State) (s : Session κ) :
    ∀ c ∈ (s.transient state).map (·.2), c = .content ∨ c = .responses := by
  unfold transient
  split
  · simp
  · split <;> simp

private theorem connect_change {newMail : Session κ → MailBehaviour} {custom : κ → Hook κ}
    (fits : s.Fits s.state) :
    Change config features s .connect
      ((Server.ofFeatures config newMail custom features).connect s).1
      ((Server.ofFeatures config newMail custom features).connect s).2.unlogged := by
  have handler : (Server.ofFeatures config newMail custom features).connectHandler =
      some greeting := by
    rw [Server.ofFeatures_eq]
  have chain : s.consumers.values = (s.transient s.state).map (·.2) ++ [.dispatch] := by
    rw [fits.consumers]
    simp [Chain.values]
  rw [Server.connect_of_deaf chain (transient_deaf _ _) handler]
  split
  · rename_i fresh
    refine (Change.welcomed fresh : Change config features s _ _ _).cast ?_
    exact (unlogged_moveTo .connected
      ((s.logInfo "Connection accepted").logInfo "Sending greeting")).symm
  · rename_i fresh
    exact .unwelcome fresh

namespace Server

variable (newMail : Session κ → MailBehaviour) (custom : κ → Hook κ)

/-- An input does to a session whose stores fit its state one of the listed things. -/
theorem take_change {past : List (Passage κ)} {input : Input} (fits : s.Fits s.state)
    (follows : input.Follows past)
    (quiet : (∃ p ∈ past.head?, invitesTls p.answer = true) → s.state ≠ .readingData) :
    Change config features s input
      ((ofFeatures config newMail custom features).take s input).1
      ((ofFeatures config newMail custom features).take s input).2.unlogged := by
  cases input with
  | connect => exact connect_change fits
  | line line => exact .line (consume_effect fits follows)
  | tooLong limit => exact answerTooLong_change fits limit
  | abort reply => exact failTransfer_change rfl fits
  | secured description =>
    exact (Change.secured (quiet follows) : Change config features s _ _ _).cast
      (unlogged_tlsEstablished description s).symm

end Server

theorem Change.fits {input : Input} {answer : Except Fault Reply} (fits : s.Fits s.state)
    (change : Change config features s input answer t) : t.Fits t.state := by
  cases change with
  | welcomed valid =>
    have busy : betweenTransactions s.state = false := by rw [valid]; rfl
    apply Fits.idle
    · simp
    · simpa [valid, State.holdsMail] using fits.mail
    · exact fits.consumers_of_idle (by simp [valid]) (fits.get?_exchange busy)
    · exact fits.get?_exchange busy
    · exact fits.get?_fault (by simp [valid])
    · simp
  | unwelcome invalid => exact fits.same rfl rfl rfl
  | line effect => exact effect.fits fits
  | complained quiet plain => exact fits.same rfl rfl rfl
  | ignored trouble moot => exact fits.same rfl rfl rfl
  | failed trouble receiving sound =>
    apply fits.goesOn receiving
    · simpa [receiving, State.holdsMail] using fits.mail
    · rfl
    · simpa [get?_insert] using fits.size receiving
    · rintro v h
      exact ⟨_, by simpa [get?_insert, eq_comm] using h⟩
    · intro k _ fault
      simp [get?_insert, fault.symm]
  | secured quiet =>
    apply Fits.idle
    · simp
    · simp [abandonExchange_eq, State.holdsMail]
    · simp [abandonExchange_eq, closeMail_consumers, fits.erase_responses_of_between quiet]
    · simp
    · simp
    · simp

theorem Change.quiet {input : Input} {answer : Except Fault Reply}
    (change : Change config features s input answer t) (invites : invitesTls answer = true) :
    t.state ≠ .readingData := by
  cases change with
  | line effect => exact effect.quiet invites
  | complained quiet plain => simpa using quiet
  | welcomed | unwelcome | ignored | failed | secured =>
    simp [invitesTls, Reply.isStartTls, Reply.of, Reply.badSequence] at invites

namespace Server

section

variable (config : Config) (newMail : Session κ → MailBehaviour) (custom : κ → Hook κ)
  (features : List Feature) (peer : String)

theorem newSession_fits :
    ((ofFeatures config newMail custom features).newSession peer).Fits .beforeConnect := by
  apply Fits.idle
  · simp
  · rfl
  · exact ofFeatures_newSession_consumers config newMail custom features peer
  · rfl
  · rfl
  · simp

end

namespace Run

variable {newMail : Session κ → MailBehaviour} {custom : κ → Hook κ} {peer : String}
  {past : List (Passage κ)}

private theorem sound (run : Run (ofFeatures config newMail custom features) peer past s) :
    s.Fits s.state ∧
      ((∃ p ∈ past.head?, invitesTls p.answer = true) → s.state ≠ .readingData) := by
  -- A handshake forgets all properties at once, which no message being received would survive.
  -- So the two claims need each other.
  induction run with
  | start => exact ⟨newSession_fits config newMail custom features peer, by simp⟩
  | logged run level text ih => exact ⟨ih.1.same rfl rfl rfl, ih.2⟩
  | step run input follows ih =>
    have change : Change config features _ _ _ _ :=
      take_change newMail custom ih.1 follows ih.2
    refine ⟨(Change.fits ih.1 change).same rfl rfl rfl, ?_⟩
    simpa using Change.quiet change

theorem fits (run : Run (ofFeatures config newMail custom features) peer past s) :
    s.Fits s.state := run.sound.1

theorem quiet (run : Run (ofFeatures config newMail custom features) peer past s)
    (invited : ∃ p ∈ past.head?, invitesTls p.answer = true) : s.state ≠ .readingData :=
  run.sound.2 invited

/-- The next input of a run does one of the listed things. -/
theorem change (run : Run (ofFeatures config newMail custom features) peer past s) {input : Input}
    (follows : input.Follows past) :
    Change config features s input
      ((ofFeatures config newMail custom features).take s input).1
      ((ofFeatures config newMail custom features).take s input).2.unlogged :=
  take_change newMail custom run.sound.1 follows run.sound.2

theorem effect (run : Run (ofFeatures config newMail custom features) peer past s) {line : Line}
    (terminated : line.isTerminated = true) :
    Effect config features line s
      ((ofFeatures config newMail custom features).consume s line).1
      ((ofFeatures config newMail custom features).consume s line).2.unlogged :=
  consume_effect run.fits terminated

theorem receipt (run : Run (ofFeatures config newMail custom features) peer past s)
    (receiving : s.state = .readingData) (line : Line) :
    Receipt config line s
      ((ofFeatures config newMail custom features).consume s line).1
      ((ofFeatures config newMail custom features).consume s line).2.unlogged :=
  consume_receipt run.fits receiving

/-- What holds of a new session and passes each change of a session whose stores fit its state holds
in every run. It must not depend on what is logged. -/
theorem induct {motive : List (Passage κ) → Session κ → Prop}
    (start : motive [] ((ofFeatures config newMail custom features).newSession peer))
    (unlogged : ∀ past s, motive past s.unlogged ↔ motive past s)
    (step : ∀ past s input answer t,
      Run (ofFeatures config newMail custom features) peer past s → s.Fits s.state →
        motive past s → Change config features s input answer t →
        motive (⟨input, s, answer⟩ :: past) t)
    (run : Run (ofFeatures config newMail custom features) peer past s) : motive past s := by
  induction run with
  | start => exact start
  | @logged past s run level text ih =>
    exact (unlogged past (s.log level text)).mp ((unlogged past s).mpr ih)
  | step run input follows ih =>
    exact (unlogged _ _).mp (step _ _ _ _ _ run run.fits ih (run.change follows))

end Run

def advance (server : Server κ) (now : List (Passage κ) × Session κ) (input : Input) :
    List (Passage κ) × Session κ :=
  (⟨input, now.2, (server.take now.2 input).1⟩ :: now.1, (server.take now.2 input).2)

def replay (server : Server κ) (peer : String) (inputs : List Input) :
    List (Passage κ) × Session κ :=
  inputs.foldl server.advance ([], server.newSession peer)

theorem Run.advance {server : Server κ} {peer : String} {now : List (Passage κ) × Session κ}
    (run : Run server peer now.1 now.2) {inputs : List Input}
    (free : ∀ input ∈ inputs, input.isFree = true) :
    Run server peer (inputs.foldl server.advance now).1 (inputs.foldl server.advance now).2 := by
  induction inputs generalizing now with
  | nil => exact run
  | cons input rest ih =>
    have next : Run server peer (server.advance now input).1 (server.advance now input).2 :=
      run.step input (Input.follows_of_isFree (free input List.mem_cons_self) now.1)
    exact ih next fun input h => free input (List.mem_cons_of_mem _ h)

theorem run_replay (server : Server κ) (peer : String) (inputs : List Input)
    (free : ∀ input ∈ inputs, input.isFree = true) :
    Run server peer (server.replay peer inputs).1 (server.replay peer inputs).2 :=
  Run.advance .start free

/-- A server whose mail objects accept everything. -/
def accepting (config : Config) (features : List Feature) : Server Empty :=
  ofFeatures config (fun _ _ _ => .ok .ok) nofun features

end Server

end

end SmtpDialog
