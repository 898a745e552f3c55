/- digest: A connection that was refused or has ended is served nothing, whatever the client sends. -/
import SmtpDialog.Proofs.Conduct

set_option autoImplicit false
set_option relaxedAutoImplicit false

namespace SmtpDialog

/-- Whether no command at all is valid in a state. -/
def State.isShut : State → Bool
  | beforeConnect | endingSession => true
  | _ => false

/-- Whether no command is valid in a state but perhaps QUIT. -/
def State.isDead (state : State) : Bool := state.isShut || state == .connectRejected

def State.isArrival : State → Bool
  | connected | connectRejected | endingSession => true
  | _ => false

def Input.isConnect : Input → Bool
  | connect => true
  | _ => false

def Line.quits (line : Line) : Bool := Text.upper line.verb == "QUIT"

/-- A handler that answers a new connection and leaves its session alone, but for log records. -/
structure Handler.Receives {κ : Type} (handler : Handler κ) : Prop where
  keeps (site : Site κ) (s : Session κ) : (handler.run site s none).2.unlogged = s.unlogged
  moves (site : Site κ) (s : Session κ) (a : Answer) (next : State) :
    (handler.run site s none).1 = .ok (.handled a) → a.next = some next → next.isArrival = true

theorem Session.stores_of_unlogged {κ : Type} {t u : Session κ} (same : t.unlogged = u) :
    t.state = u.state ∧ t.mail = u.mail ∧ t.consumers = u.consumers := by
  rw [← same]
  exact ⟨rfl, rfl, rfl⟩

/-- A dead session for which nothing was begun since. -/
structure Session.Inert {κ : Type} (s t : Session κ) : Prop where
  dead : t.state.isDead = true
  mail : t.mail = none
  mailsOpened : t.mailsOpened = s.mailsOpened
  exchangesOpened : t.exchangesOpened = s.exchangesOpened
  tls : t.tls = s.tls
  journal : t.unlogged.journal = s.unlogged.journal

theorem Session.Inert.of_unlogged {κ : Type} {s t : Session κ} {next : State} (empty : s.mail = none)
    (dead : next.isDead = true) (same : t.unlogged = { s.unlogged with state := next }) :
    s.Inert t := by
  have journal := congrArg Session.journal same
  have opened := congrArg (fun u => (u.mailsOpened, u.exchangesOpened, u.tls)) same
  obtain ⟨mails, exchanges, tls⟩ := by simpa only [Prod.mk.injEq] using opened
  obtain ⟨state, mail, -⟩ := stores_of_unlogged same
  exact ⟨state ▸ dead, mail.trans empty, mails, exchanges, tls, journal⟩

namespace Session.Fits

variable {κ : Type} {s t : Session κ}

theorem of_unlogged (fits : s.Fits s.state) (same : t.unlogged = s) : t.Fits t.state := by
  rw [← same] at fits
  exact fits.same rfl rfl rfl

theorem alone (fits : s.Fits s.state) (dead : s.state.isDead = true) :
    s.mail = none ∧ s.properties.get? Key.exchange.name = none ∧
      s.consumers = ⟨[(Place.dispatch.name, .dispatch)]⟩ := by
  have quiet : s.state ≠ .readingData := quiet_of State.isDead dead rfl
  have busy : Command.betweenTransactions s.state = false := by
    cases h : s.state <;> simp_all [State.isDead, State.isShut, Command.betweenTransactions]
  have holds : s.state.holdsMail = false := by
    cases h : s.state <;> simp_all [State.isDead, State.isShut, State.holdsMail]
  have idle := fits.get?_exchange busy
  exact ⟨fits.mail_of_not_holds holds, idle, fits.consumers_of_idle quiet idle⟩

theorem arrived (fits : s.Fits s.state) (fresh : s.state = .beforeConnect) {next : State}
    (arrival : next.isArrival = true) : { s.unlogged with state := next }.Fits next := by
  obtain ⟨empty, idle, alone⟩ := fits.alone (by rw [fresh]; rfl)
  apply Fits.idle (quiet_of State.isArrival arrival rfl)
  · have none : ({ s.unlogged with state := next } : Session κ).mail = none := empty
    rw [none]
    cases next <;> first | rfl | contradiction
  · exact alone
  · exact idle
  · exact fits.get?_fault (by simp [fresh])
  · rintro rfl
    contradiction

end Session.Fits

namespace Server

variable {κ : Type}

/-- Whether a connection may be announced to a session: it is new, or its handler is not valid. -/
def Announces (server : Server κ) (s : Session κ) : Prop :=
  s.state = .beforeConnect ∨ ∀ handler ∈ server.connectHandler, ∀ t : Session κ,
    t.unlogged = s.unlogged → handler.validFor t = false

/-- What a line is told where no command is valid. -/
def rebuff (server : Server κ) (line : Line) : Reply :=
  if (server.dispatch.get? line.verb).isSome then .badSequence else .unrecognised

theorem code?_rebuff (server : Server κ) (line : Line) :
    (server.rebuff line).code? = some 500 ∨ (server.rebuff line).code? = some 503 := by
  unfold rebuff
  split
  · exact .inr rfl
  · exact .inl rfl

theorem rebuff_not_startTls (server : Server κ) (line : Line) :
    invitesTls (.ok (server.rebuff line)) = false := by
  unfold rebuff
  split <;> rfl

section

variable (handler : Option (Handler κ)) (server : Server κ)

theorem dispatch_handlers_withConnectHandler :
    (server.withConnectHandler handler).dispatch.handlers = server.dispatch.handlers := by
  rw [dispatch, dispatch, foldl_register_handlers, foldl_register_handlers]
  rfl

theorem dispatch_get?_withConnectHandler (verb : String) :
    (server.withConnectHandler handler).dispatch.get? verb = server.dispatch.get? verb := by
  rw [Dispatch.get?, dispatch_handlers_withConnectHandler]
  rfl

theorem onLine_withConnectHandler (consumer : Consumer κ) :
    ((server.withConnectHandler handler).hook consumer).onLine = (server.hook consumer).onLine := by
  cases consumer with
  | dispatch =>
    funext site s line
    simp only [hook, Dispatch.hook, Hook.reading, Dispatch.consume, dispatch_get?_withConnectHandler]
  | content | responses | custom => rfl

theorem offerLine_withConnectHandler (consumers : List (Consumer κ)) (s : Session κ) (line : Line) :
    (server.withConnectHandler handler).offerLine consumers s line =
      server.offerLine consumers s line := by
  induction consumers generalizing s line with
  | nil => rfl
  | cons consumer rest ih =>
    simp only [offerLine, onLine_withConnectHandler, ih]
    rfl

theorem consume_withConnectHandler (s : Session κ) (line : Line) :
    (server.withConnectHandler handler).consume s line = server.consume s line := by
  unfold consume
  rw [offerLine_withConnectHandler]

theorem take_withConnectHandler (s : Session κ) {input : Input} (other : input.isConnect = false) :
    (server.withConnectHandler handler).take s input = server.take s input := by
  cases input with
  | connect => contradiction
  | line line => exact consume_withConnectHandler handler server s line
  | tooLong | abort | secured => rfl

theorem consumeAll_withConnectHandler (s : Session κ) (lines : List Line) :
    (server.withConnectHandler handler).consumeAll s lines = server.consumeAll s lines := by
  induction lines generalizing s with
  | nil => rfl
  | cons line rest ih => simp only [consumeAll, consume_withConnectHandler, ih]

theorem rebuff_withConnectHandler (line : Line) :
    (server.withConnectHandler handler).rebuff line = server.rebuff line := by
  rw [rebuff, dispatch_get?_withConnectHandler]
  rfl

end

section

variable {server : Server κ} {s : Session κ}

/-- A new connection is moved on, or the session is left alone. -/
theorem connect_cases (receives : ∀ handler ∈ server.connectHandler, handler.Receives)
    (fits : s.Fits s.state) (announces : server.Announces s) :
    ((server.connect s).2.unlogged = s.unlogged ∧
        (invitesTls (server.connect s).1 = true → s.state = .beforeConnect)) ∨
      (s.state = .beforeConnect ∧ ∃ next : State, next.isArrival = true ∧
        (server.connect s).2.unlogged = { s.unlogged with state := next }) := by
  have chain : s.consumers.values = (s.transient s.state).map (·.2) ++ [.dispatch] := by
    rw [fits.consumers]
    simp [Chain.values]
  have offered : server.offerConnect s.consumers.values (s.logInfo "Connection accepted") =
      server.dispatch.connect server.site (s.logInfo "Connection accepted") := by
    rw [chain, offerConnect_of_deaf (transient_deaf _ _)]
  have consumers : (s.logInfo "Connection accepted").consumers = s.consumers := rfl
  rw [connect, consumers, offered, Dispatch.connect, dispatch_connectHandler]
  cases given : server.connectHandler with
  | none => exact .inl ⟨rfl, fun invites => absurd invites Bool.false_ne_true⟩
  | some handler =>
    rw [given] at receives
    have receives := receives handler rfl
    simp only [Handler.handle]
    by_cases valid : handler.validFor (s.logInfo "Connection accepted") = true
    · have fresh : s.state = .beforeConnect := by
        rcases announces with fresh | invalid
        · exact fresh
        · rw [invalid handler given (s.logInfo "Connection accepted") rfl] at valid
          contradiction
      rw [if_pos valid]
      have keeps := receives.keeps server.site (s.logInfo "Connection accepted")
      have moves := receives.moves server.site (s.logInfo "Connection accepted")
      revert keeps moves
      generalize handler.run server.site (s.logInfo "Connection accepted") none = done
      obtain ⟨fault | verdict, t⟩ := done
      · exact fun keeps _ => .inl ⟨keeps, fun _ => fresh⟩
      · intro keeps moves
        cases verdict with
        | declined => exact .inl ⟨keeps, fun _ => fresh⟩
        | handled a =>
          obtain ⟨reply, _ | next⟩ := a
          · exact .inl ⟨keeps, fun _ => fresh⟩
          · refine .inr ⟨fresh, next, moves _ next rfl rfl, ?_⟩
            exact (Session.unlogged_moveTo next t).trans (by rw [keeps]; rfl)
    · rw [if_neg valid]
      exact .inl ⟨rfl, fun invites => absurd invites Bool.false_ne_true⟩

end

namespace Run

variable {config : Config} {newMail : Session κ → MailBehaviour} {custom : κ → Hook κ}
  {features : List Feature} {handler : Option (Handler κ)} {peer : String}
  {past : List (Passage κ)} {s : Session κ}

theorem fits_of_receives (receives : ∀ h ∈ handler, Handler.Receives h)
    (run : Run ((ofFeatures config newMail custom features).withConnectHandler handler) peer past s)
    (announced : ∀ p ∈ past, p.input.isConnect = true →
      ((ofFeatures config newMail custom features).withConnectHandler handler).Announces p.before) :
    s.Fits s.state ∧
      ((∃ p ∈ past.head?, invitesTls p.answer = true) → s.state ≠ .readingData) := by
  induction run with
  | start => exact ⟨newSession_fits config newMail custom features peer, by simp⟩
  | logged run level text ih =>
    obtain ⟨fits, quiet⟩ := ih announced
    exact ⟨fits.same rfl rfl rfl, quiet⟩
  | @step past s run input follows ih =>
    obtain ⟨fits, quiet⟩ := ih fun p earlier => announced p (List.mem_cons_of_mem _ earlier)
    cases connects : input.isConnect with
    | true =>
      obtain rfl : input = .connect := by cases input <;> first | rfl | contradiction
      rcases connect_cases receives fits (announced _ List.mem_cons_self rfl) with
        ⟨same, invites⟩ | ⟨fresh, next, arrival, moved⟩
      · have kept : s.unlogged.Fits s.unlogged.state := fits.same rfl rfl rfl
        refine ⟨kept.of_unlogged same, fun ⟨p, latest, invited⟩ => ?_⟩
        obtain rfl := Option.some.inj latest
        have state := congrArg Session.state same
        rw [Session.unlogged_state, Session.unlogged_state, invites invited] at state
        exact state.trans_ne State.noConfusion
      · refine ⟨(fits.arrived fresh arrival).of_unlogged moved, fun _ => ?_⟩
        have state := congrArg Session.state moved
        exact state.trans_ne (Session.Fits.quiet_of State.isArrival arrival rfl)
    | false =>
      rw [take_withConnectHandler handler _ s connects]
      have change : Change config features s input _ _ := take_change newMail custom fits follows quiet
      refine ⟨(Change.fits fits change).same rfl rfl rfl, ?_⟩
      simpa using Change.quiet change

end Run

theorem Serves.not_validIn_of_dead {features : List Feature} {verb : String} {handler : Handler κ}
    {state : State} (serves : Serves features verb handler) (dead : state.isDead = true)
    (other : state.isShut = true ∨ verb ≠ "QUIT") : handler.validIn state = false := by
  cases serves with
  | quit =>
    have shut := other.resolve_right (absurd rfl)
    cases state <;> first | rfl | contradiction
  | _ => cases state <;> first | rfl | contradiction

theorem Serves.validIn_of_validFor {features : List Feature} {verb : String} {handler : Handler κ}
    {s : Session κ} (serves : Serves features verb handler) (valid : handler.validFor s = true) :
    handler.validIn s.state = true := by
  cases serves with
  | auth offered => exact (Bool.and_eq_true_iff.mp valid).1
  | _ => exact valid

section

variable (config : Config) (newMail : Session κ → MailBehaviour) (custom : κ → Hook κ)
  (features : List Feature) {s : Session κ} {line : Line}

/-- A line is turned away where its command is not valid, and where it has none. -/
theorem consume_of_dead (alone : s.consumers = ⟨[(Place.dispatch.name, .dispatch)]⟩)
    (dead : s.state.isDead = true) (terminated : line.isTerminated = true)
    (other : s.state.isShut = true ∨ line.quits = false) :
    ∃ t, (ofFeatures config newMail custom features).consume s line =
        (.ok ((ofFeatures config newMail custom features).rebuff line), t) ∧
      t.unlogged = s.unlogged := by
  have values : s.consumers.values = [.dispatch] := by rw [alone]; rfl
  rw [consume_of_dispatch values, Dispatch.consume, if_pos terminated, rebuff]
  cases found : (ofFeatures config newMail custom features).dispatch.get? line.verb with
  | none => exact ⟨_, rfl, rfl⟩
  | some handler =>
    have serves := serves_of_get? config newMail custom features found
    have barred : handler.validIn s.state = false :=
      serves.not_validIn_of_dead dead (other.imp_right beq_eq_false_iff_ne.mp)
    have invalid : ¬ handler.validFor s = true := fun valid =>
      Bool.false_ne_true (barred.symm.trans (serves.validIn_of_validFor valid))
    simp only [Handler.handle, if_neg invalid]
    exact ⟨s, rfl, rfl⟩

theorem consume_of_rejected (alone : s.consumers = ⟨[(Place.dispatch.name, .dispatch)]⟩)
    (empty : s.mail = none) (rejected : s.state = .connectRejected)
    (terminated : line.isTerminated = true) (quits : line.quits = true) :
    ∃ t, (ofFeatures config newMail custom features).consume s line =
        (.ok (.of .serviceClosing (config.hostName ++ " Service closing transmission channel")), t) ∧
      t.unlogged = { s.unlogged with state := .endingSession } := by
  have values : s.consumers.values = [.dispatch] := by rw [alone]; rfl
  have served := dispatch_get?_of_standard config newMail custom features
    (c := ("QUIT", Command.quit)) (by simp [standardCommands]) (beq_iff_eq.mp quits)
  have valid : (Command.quit : Handler κ).validFor s = true := by
    have state : (Command.quit : Handler κ).validIn s.state = true := by
      rw [rejected]
      rfl
    exact state
  have closed : (s.logInfo "Client quit").closeMail = s.logInfo "Client quit" :=
    Session.closeMail_of_none empty
  rw [consume_of_dispatch values, Dispatch.consume, if_pos terminated, served]
  simp only [Handler.handle, if_pos valid]
  simp only [Command.quit, Outcome.goTo, closed, ofFeatures_site_config]
  refine ⟨_, rfl, ?_⟩
  rw [Session.unlogged_moveTo, Session.unlogged_logInfo]

theorem consumeAll_append (server : Server κ) (s : Session κ) (front rest : List Line) :
    server.consumeAll s (front ++ rest) =
      ((server.consumeAll s front).1 ++ (server.consumeAll (server.consumeAll s front).2 rest).1,
        (server.consumeAll (server.consumeAll s front).2 rest).2) := by
  induction front generalizing s with
  | nil => rfl
  | cons line front ih => simp only [List.cons_append, consumeAll, ih]

theorem consumeAll_of_dead {lines : List Line}
    (alone : s.consumers = ⟨[(Place.dispatch.name, .dispatch)]⟩) (dead : s.state.isDead = true)
    (terminated : ∀ line ∈ lines, line.isTerminated = true)
    (other : s.state.isShut = true ∨ ∀ line ∈ lines, line.quits = false) :
    ∃ t, (ofFeatures config newMail custom features).consumeAll s lines =
        (lines.map fun line => .ok ((ofFeatures config newMail custom features).rebuff line), t) ∧
      t.unlogged = s.unlogged := by
  induction lines generalizing s with
  | nil => exact ⟨s, rfl, rfl⟩
  | cons line rest ih =>
    obtain ⟨t, answered, same⟩ := consume_of_dead config newMail custom features alone dead
      (terminated line List.mem_cons_self) (other.imp_right fun others => others line List.mem_cons_self)
    obtain ⟨state, -, consumers⟩ := Session.stores_of_unlogged same
    rw [Session.unlogged_state] at state
    rw [← state] at dead other
    obtain ⟨u, further, still⟩ := ih (consumers.trans alone) dead
      (fun later member => terminated later (List.mem_cons_of_mem _ member))
      (other.imp_right fun others later member => others later (List.mem_cons_of_mem _ member))
    refine ⟨u, ?_, still.trans same⟩
    rw [consumeAll, answered]
    simp only [further, List.map_cons]

/-- The lines of a refused connection before its QUIT, the QUIT and the lines behind it. -/
theorem consumeAll_of_rejected {front rest : List Line} {quit : Line}
    (alone : s.consumers = ⟨[(Place.dispatch.name, .dispatch)]⟩) (empty : s.mail = none)
    (rejected : s.state = .connectRejected)
    (terminated : ∀ line ∈ front ++ quit :: rest, line.isTerminated = true)
    (others : ∀ line ∈ front, line.quits = false) (quits : quit.quits = true) :
    let server := ofFeatures config newMail custom features
    ∃ t, server.consumeAll s (front ++ quit :: rest) =
        ((front.map fun line => .ok (server.rebuff line)) ++
          .ok (.of .serviceClosing (config.hostName ++ " Service closing transmission channel")) ::
            rest.map fun line => .ok (server.rebuff line), t) ∧
      t.unlogged = { s.unlogged with state := .endingSession } := by
  intro server
  obtain ⟨t, before, same⟩ := consumeAll_of_dead config newMail custom features alone
    (by rw [rejected]; rfl) (fun line early => terminated line (List.mem_append_left _ early))
    (.inr others)
  obtain ⟨state, mail, consumers⟩ := Session.stores_of_unlogged same
  obtain ⟨u, answered, moved⟩ := consume_of_rejected config newMail custom features
    (consumers.trans alone) (mail.trans empty) (state.trans rejected)
    (terminated quit (List.mem_append_right _ List.mem_cons_self)) quits
  rw [same] at moved
  obtain ⟨ended, -, still⟩ := Session.stores_of_unlogged moved
  obtain ⟨v, after, kept⟩ := consumeAll_of_dead config newMail custom features
    (still.trans alone) (by rw [ended]; rfl)
    (fun line late => terminated line (List.mem_append_right _ (List.mem_cons_of_mem _ late)))
    (.inl (by rw [ended]; rfl))
  refine ⟨v, ?_, kept.trans moved⟩
  simp only [server, consumeAll_append, before, consumeAll, answered, after]

theorem exists_first_quit (lines : List Line) :
    (∀ line ∈ lines, line.quits = false) ∨ ∃ front quit rest, lines = front ++ quit :: rest ∧
      (∀ line ∈ front, line.quits = false) ∧ quit.quits = true := by
  cases found : lines.find? Line.quits with
  | none => exact .inl fun line member => by simpa using List.find?_eq_none.mp found line member
  | some quit =>
    obtain ⟨quits, front, rest, parts, others⟩ := List.find?_eq_some_iff_append.mp found
    exact .inr ⟨front, quit, rest, parts, fun line early => by simpa using others line early, quits⟩

theorem plain_of_rebuffed (server : Server κ) (lines : List Line) :
    ∀ answer ∈ lines.map fun line => Except.ok (server.rebuff line), invitesTls answer = false := by
  intro answer member
  obtain ⟨line, -, rfl⟩ := List.mem_map.mp member
  exact server.rebuff_not_startTls line

/-- Nothing is begun in a dead state, nor is TLS, whatever lines come. -/
theorem inert_of_dead (fits : s.Fits s.state) (dead : s.state.isDead = true) {lines : List Line}
    (terminated : ∀ line ∈ lines, line.isTerminated = true) :
    let done := (ofFeatures config newMail custom features).consumeAll s lines
    s.Inert done.2 ∧ ∀ answer ∈ done.1, invitesTls answer = false := by
  intro done
  obtain ⟨empty, -, alone⟩ := fits.alone dead
  have turned (other : s.state.isShut = true ∨ ∀ line ∈ lines, line.quits = false) :
      s.Inert done.2 ∧ ∀ answer ∈ done.1, invitesTls answer = false := by
    obtain ⟨t, answered, same⟩ :=
      consumeAll_of_dead config newMail custom features alone dead terminated other
    simp only [done, answered]
    exact ⟨.of_unlogged empty dead same, plain_of_rebuffed _ lines⟩
  rcases Bool.or_eq_true_iff.mp dead with shut | rejected
  · exact turned (.inl shut)
  · rcases exists_first_quit lines with others | ⟨front, quit, rest, parts, others, quits⟩
    · exact turned (.inr others)
    · obtain ⟨t, answered, moved⟩ := consumeAll_of_rejected config newMail custom features alone empty
        (beq_iff_eq.mp rejected) (parts ▸ terminated) others quits
      simp only [done, parts, answered]
      refine ⟨.of_unlogged empty rfl moved, fun answer member => ?_⟩
      rcases List.mem_append.mp member with early | member
      · exact plain_of_rebuffed _ front answer early
      · rcases List.mem_cons.mp member with rfl | late
        · rfl
        · exact plain_of_rebuffed _ rest answer late

end

/-- Dead states stay dead. Before a connection is announced and once it has ended, every line is turned
away and changes nothing; where it was refused, this is so until QUIT, which ends it. So nothing is
begun. -/
theorem nothing_served_of_dead {config : Config} {newMail : Session κ → MailBehaviour}
    {custom : κ → Hook κ} {features : List Feature} {handler : Option (Handler κ)} {peer : String}
    {past : List (Passage κ)} {s : Session κ} (receives : ∀ h ∈ handler, Handler.Receives h)
    (run : Run ((ofFeatures config newMail custom features).withConnectHandler handler) peer past s)
    (announced : ∀ p ∈ past, p.input.isConnect = true →
      ((ofFeatures config newMail custom features).withConnectHandler handler).Announces p.before)
    {lines : List Line} (terminated : ∀ line ∈ lines, line.isTerminated = true) :
    let server := (ofFeatures config newMail custom features).withConnectHandler handler
    let refused (lines : List Line) : List (Except Fault Reply) :=
      lines.map fun line => .ok (server.rebuff line)
    let done := server.consumeAll s lines
    (∀ line, (server.rebuff line).code? = some 500 ∨ (server.rebuff line).code? = some 503) ∧
      (s.state.isShut = true ∨ s.state = .connectRejected ∧ (∀ line ∈ lines, line.quits = false) →
        done.1 = refused lines ∧ done.2.unlogged = s.unlogged) ∧
      (s.state = .connectRejected → ∀ front quit rest, lines = front ++ quit :: rest →
        (∀ line ∈ front, line.quits = false) → quit.quits = true →
          ∃ farewell, farewell.code? = some 221 ∧
            done.1 = refused front ++ .ok farewell :: refused rest ∧
            done.2.unlogged = { s.unlogged with state := .endingSession }) ∧
      (s.state.isDead = true →
        s.Inert done.2 ∧ ∀ answer ∈ done.1, invitesTls answer = false) := by
  intro server refused done
  obtain ⟨fits, -⟩ := run.fits_of_receives receives announced
  have refused_eq (lines : List Line) : refused lines =
      lines.map fun line => .ok ((ofFeatures config newMail custom features).rebuff line) := by
    simp only [refused, server, rebuff_withConnectHandler]
  have done_eq : done = (ofFeatures config newMail custom features).consumeAll s lines :=
    consumeAll_withConnectHandler handler _ s lines
  refine ⟨server.code?_rebuff, fun others => ?_, fun rejected front quit rest parts others quits => ?_,
    fun dead => ?_⟩
  · have dead : s.state.isDead = true := by
      rcases others with shut | ⟨rejected, -⟩
      · rw [State.isDead, shut, Bool.true_or]
      · rw [rejected]
        rfl
    obtain ⟨t, answered, same⟩ := consumeAll_of_dead config newMail custom features
      (fits.alone dead).2.2 dead terminated (others.imp_right And.right)
    rw [done_eq, answered, refused_eq]
    exact ⟨rfl, same⟩
  · obtain ⟨empty, -, alone⟩ := fits.alone (by rw [rejected]; rfl)
    obtain ⟨t, answered, moved⟩ := consumeAll_of_rejected config newMail custom features alone empty
      rejected (parts ▸ terminated) others quits
    rw [done_eq, parts, answered, refused_eq, refused_eq]
    exact ⟨_, rfl, rfl, moved⟩
  · rw [done_eq]
    exact inert_of_dead config newMail custom features fits dead terminated

def refusing : Handler Empty where
  validIn state := state == .beforeConnect
  run _ s _ := Outcome.goTo .connectRejected (.of .transactionFailed "No service for you") s

theorem refusing_receives : refusing.Receives where
  keeps _ _ := rfl
  moves _ _ a next := by
    rintro ⟨⟩ ⟨⟩
    rfl

/-- A refused connection gets its QUIT and no more, though the client sends on. -/
theorem nothing_served_of_refused :
    let server := (ofFeatures {} (fun _ _ _ => .ok .ok) Empty.elim
      [.startTls, .auth ⟨⟨[]⟩, true⟩]).withConnectHandler (some refusing)
    let s := (server.replay "client.example" [.connect]).2
    let lines := ["EHLO client.example", "AUTH PLAIN", "STARTTLS", "HELLO", "QUIT",
      "MAIL FROM:<dib@client.example>", "QUIT"].map Line.ofText
    let done := server.consumeAll s lines
    done.1.map (fun answer => answer.toOption.bind Reply.code?) =
        [some 503, some 503, some 503, some 500, some 221, some 503, some 503] ∧
      done.2.unlogged = { s.unlogged with state := .endingSession } ∧ s.Inert done.2 := by
  intro server s lines done
  have run := run_replay server "client.example" [.connect] (by decide)
  have announced : ∀ p ∈ (server.replay "client.example" [.connect]).1,
      p.input.isConnect = true → server.Announces p.before := by
    intro p member _
    obtain rfl := List.mem_singleton.mp member
    exact .inl rfl
  have receives : ∀ h ∈ some refusing, Handler.Receives h := by
    rintro _ ⟨⟩
    exact refusing_receives
  have terminated : ∀ line ∈ lines, line.isTerminated = true := by decide +kernel
  obtain ⟨-, -, quitted, inert⟩ := nothing_served_of_dead receives run announced terminated
  obtain ⟨_, -, -, moved⟩ := quitted (by decide +kernel) (lines.take 4) (lines.getD 4 ⟨[]⟩)
    (lines.drop 5) (by decide +kernel) (by decide +kernel) (by decide +kernel)
  exact ⟨by decide +kernel, moved, (inert (by decide +kernel)).1⟩

end Server

end SmtpDialog
