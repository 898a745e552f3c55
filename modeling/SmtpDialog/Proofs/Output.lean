/- digest: What a server writes is lines of replies, and what a client can do to that. -/
import SmtpDialog.Proofs.Answers
import SmtpDialog.Proofs.Turns

set_option autoImplicit false
set_option relaxedAutoImplicit false

namespace SmtpDialog

variable {κ : Type}

namespace Wire

variable {Q : Reply → Prop} {barred : List Char} {u v w : Wire}

theorem send_cases (reply : Reply) (w : Wire) :
    w.send reply = (.ok (), w) ∨
    (∃ room, (w.room = none → room = none) ∧ w.send reply = (.ok (), { w with
      room := room
      unflushed := []
      sent := .flushed (w.unflushed ++ reply.wire) :: w.sent })) ∨
    ∃ count, w.room ≠ none ∧ w.send reply = (.error (.io .brokenPipe), { w with
      room := some 0
      unflushed := w.unflushed ++ reply.wire.take count }) := by
  rw [send]
  split
  · exact .inl rfl
  · right
    rw [write]
    cases w.room with
    | none => exact .inl ⟨none, fun _ => rfl, rfl⟩
    | some room =>
      dsimp only
      split
      · exact .inl ⟨some (room - reply.wire.length), by simp, rfl⟩
      · exact .inr ⟨room, by simp, rfl⟩

/-- What may be written in one turn: nothing, or a reply of a kind, behind which a handshake may begin. -/
inductive Tells (Q : Reply → Prop) (w : Wire) : Wire → Prop
  | nothing (inbox : Inbox) : Tells Q w { w with inbox := inbox }
  | reply {reply : Reply} (kind : Q reply) (inbox : Inbox) :
      Tells Q w { (w.send reply).2 with inbox := inbox }
  | handshake {reply : Reply} (kind : Q reply) (inbox : Inbox) :
      Tells Q w { (w.send reply).2 with
        inbox := inbox
        sent := .handshake :: (w.send reply).2.sent }

/-- All that was written stands on lines of replies whose texts are without some bytes. What is not
flushed is the beginning of such lines. -/
structure OnLines (barred : Bytes) (w : Wire) : Prop where
  flushed : ∀ bs, .flushed bs ∈ w.sent → AreReplyLines barred bs
  unflushed : ∃ rest, AreReplyLines barred (w.unflushed ++ rest)

theorem unflushed_of_sent {reply : Reply} (sent : (w.send reply).1 = .ok ())
    (clear : w.unflushed = []) : (w.send reply).2.unflushed = [] := by
  rcases w.send_cases reply with same | ⟨room, -, same⟩ | ⟨count, -, same⟩
  · rw [same]
    exact clear
  · rw [same]
  · rw [same] at sent
    contradiction

theorem send_onLines (breaks : barred ⊆ ['\r', '\n']) {reply : Reply} (sound : reply.Sound barred)
    (clear : w.unflushed = []) (lines : w.OnLines (Utf8.encode barred)) :
    (w.send reply).2.OnLines (Utf8.encode barred) := by
  have wire := sound.areReplyLines breaks
  rcases w.send_cases reply with same | ⟨room, -, same⟩ | ⟨count, -, same⟩
  · rw [same]
    exact lines
  · rw [same, clear]
    refine ⟨fun bs sent => ?_, [], .nil⟩
    rcases List.mem_cons.mp sent with now | before
    · rw [Sent.flushed.inj now]
      exact wire
    · exact lines.flushed bs before
  · rw [same, clear]
    refine ⟨lines.flushed, reply.wire.drop count, ?_⟩
    simpa using wire

theorem Tells.onLines (tells : w.Tells (Reply.Sound barred) v) (breaks : barred ⊆ ['\r', '\n'])
    (clear : w.unflushed = []) (lines : w.OnLines (Utf8.encode barred)) :
    v.OnLines (Utf8.encode barred) := by
  cases tells with
  | nothing inbox => exact ⟨lines.flushed, lines.unflushed⟩
  | reply kind inbox =>
    have written := send_onLines breaks kind clear lines
    exact ⟨written.flushed, written.unflushed⟩
  | handshake kind inbox =>
    have written := send_onLines breaks kind clear lines
    refine ⟨fun bs sent => written.flushed bs ?_, written.unflushed⟩
    exact (List.mem_cons.mp sent).resolve_left nofun

theorem Tells.sent_subset (tells : w.Tells Q v) : w.sent ⊆ v.sent := by
  have kept (reply : Reply) : w.sent ⊆ (w.send reply).2.sent := by
    rcases w.send_cases reply with same | ⟨room, -, same⟩ | ⟨count, -, same⟩
    · rw [same]
      exact List.Subset.refl _
    · rw [same]
      exact List.subset_cons_self _ _
    · rw [same]
      exact List.Subset.refl _
  cases tells with
  | nothing inbox => exact List.Subset.refl _
  | reply kind inbox => exact kept _
  | handshake kind inbox => exact List.Subset.trans (kept _) (List.subset_cons_self _ _)

theorem Tells.unlimited (tells : w.Tells Q v) (unlimited : w.room = none) (clear : w.unflushed = []) :
    v.room = none ∧ v.unflushed = [] := by
  have kept (reply : Reply) : (w.send reply).2.room = none ∧ (w.send reply).2.unflushed = [] := by
    rcases w.send_cases reply with same | ⟨room, limit, same⟩ | ⟨count, limited, same⟩
    · rw [same]
      exact ⟨unlimited, clear⟩
    · rw [same]
      exact ⟨limit unlimited, rfl⟩
    · exact absurd unlimited limited
  cases tells with
  | nothing inbox => exact ⟨unlimited, clear⟩
  | reply kind inbox => exact kept _
  | handshake kind inbox => exact kept _

theorem Tells.of_inbox {inbox : Inbox} (tells : Tells Q { w with inbox := inbox } v) : w.Tells Q v := by
  cases tells with
  | nothing later => exact .nothing later
  | reply kind later =>
    rw [send_with_inbox]
    exact .reply kind later
  | handshake kind later =>
    rw [send_with_inbox]
    exact .handshake kind later

end Wire

/-- A turn writes replies of a kind. If the connection goes on, it leaves nothing unflushed. -/
structure Turn.Tells (Q : Reply → Prop) (w : Wire) (now : Server.Turn κ) : Prop where
  wire : w.Tells Q now.wire
  clear : now.isOver = false → w.unflushed = [] → now.wire.unflushed = []

namespace Server

variable {Q : Reply → Prop} {server : Server κ} {upgrader : Option TlsUpgrader} {s t s₀ : Session κ}
  {w v w₀ : Wire} {line : Line}

private theorem tells_of_send {reply : Reply} (kind : Q reply) {now : Turn κ}
    (wire : now.wire = (w.send reply).2)
    (sent : now.isOver = false → (w.send reply).1 = .ok ()) : Turn.Tells Q w now where
  wire := by
    rw [wire]
    exact .reply kind (w.send reply).2.inbox
  clear goesOn clear := by
    rw [wire]
    exact Wire.unflushed_of_sent (sent goesOn) clear

private theorem answer_tells {reply : Reply} (kind : Q reply) (s : Session κ) (w : Wire) :
    Turn.Tells Q w (answer reply s w) := by
  apply tells_of_send kind
  · unfold answer
    split
    · simp [Turn.wire, *]
    · split <;> simp [Turn.wire, *]
  · unfold answer
    split
    · exact nofun
    · simp [*]

private theorem startTls_tells (plain : ∀ code text, Text.isUnbroken text = true → Q (.of code text))
    {reply : Reply} (kind : Q reply) (upgrader : Option TlsUpgrader) (s : Session κ) (w : Wire) :
    Turn.Tells Q w (.ofServed (startTls upgrader reply s w)) := by
  unfold startTls
  split
  · apply tells_of_send (plain .actionAborted "Local error in processing" (Text.isUnbroken_ofList rfl))
    · unfold Turn.ofServed
      split <;> rfl
    · unfold Turn.ofServed
      split
      · rename_i sent
        exact fun _ => sent
      · exact nofun
  · split
    · exact tells_of_send (plain _ _ (Text.isUnbroken_ofList rfl)) rfl nofun
    · split
      · rename_i same
        exact tells_of_send kind (by rw [same]; rfl) nofun
      · rename_i v same
        have secured : w.Tells Q v.beginHandshake := by
          have begun := Wire.Tells.handshake (w := w) kind (w.send reply).2.beginHandshake.inbox
          rwa [same] at begun
        dsimp only
        split
        · exact ⟨secured, nofun⟩
        · refine ⟨secured, fun _ clear => ?_⟩
          have flushed : (w.send reply).2.unflushed = [] :=
            Wire.unflushed_of_sent (by rw [same]) clear
          rwa [same] at flushed

private theorem serveLine_tells (plain : ∀ code text, Text.isUnbroken text = true → Q (.of code text))
    (said : ∀ reply, (server.consume s line).1 = .ok reply → Q reply)
    (upgrader : Option TlsUpgrader) (w : Wire) :
    Turn.Tells Q w (server.serveLine upgrader line s w) := by
  unfold serveLine
  split
  · exact ⟨.nothing w.inbox, nofun⟩
  · exact ⟨.reply (plain _ _ (Text.isUnbroken_ofList rfl)) (w.send .shuttingDown).2.inbox, nofun⟩
  · rename_i reply t consumed
    have kind : Q reply := said reply (by rw [consumed])
    split
    · exact startTls_tells plain kind upgrader t w
    · exact answer_tells kind t w

theorem turn_tells (plain : ∀ code text, Text.isUnbroken text = true → Q (.of code text)) {limit : Nat}
    (silent : Q .silent)
    (said : ∀ line, (w.inbox.next limit).1 = .line line → ∀ reply,
      (server.consume s line).1 = .ok reply → Q reply) (upgrader : Option TlsUpgrader) :
    Turn.Tells Q w (server.turn upgrader limit s w) := by
  suffices Turn.Tells Q { w with inbox := (w.inbox.next limit).2 } (server.turn upgrader limit s w) from
    ⟨this.wire.of_inbox, this.clear⟩
  rw [turn]
  generalize (w.inbox.next limit).1 = next at said
  generalize { w with inbox := (w.inbox.next limit).2 } = w
  cases next with
  | ended cause => exact ⟨.nothing w.inbox, by rintro ⟨⟩⟩
  | tooLong =>
    have kind : Q (answerTooLong limit s).1 := by
      unfold answerTooLong
      dsimp only
      split
      · exact silent
      · exact plain _ _ (Text.isUnbroken_ofList rfl)
    apply tells_of_send kind
    · unfold serveNext
      dsimp only
      split <;> simp [Turn.wire, *]
    · unfold serveNext
      dsimp only
      split
      · rintro ⟨⟩
      · simp [*]
  | line line => exact serveLine_tells plain (said line rfl) upgrader w

theorem opening_tells (said : ∀ reply, (server.connect s).1 = .ok reply → Q reply) (w : Wire) :
    Turn.Tells Q w (server.opening s w) := by
  unfold opening
  split
  · exact ⟨.nothing w.inbox, nofun⟩
  · rename_i reply t same
    exact answer_tells (said reply (by rw [same])) t w

private theorem turn_tells_any (server : Server κ) (upgrader : Option TlsUpgrader) (s : Session κ)
    (w : Wire) : Turn.Tells (fun _ => True) w (server.turn upgrader server.lineLimit s w) :=
  turn_tells (fun _ _ _ => trivial) trivial (fun _ _ _ _ => trivial) upgrader

private theorem opening_tells_any (server : Server κ) (s : Session κ) (w : Wire) :
    Turn.Tells (fun _ => True) w (server.opening s w) :=
  opening_tells (fun _ _ => trivial) w

theorem connect_keeps (config : Config) (newMail : Session κ → MailBehaviour) (custom : κ → Hook κ)
    (features : List Feature) (peer : String) :
    ((ofFeatures config newMail custom features).connect
      ((ofFeatures config newMail custom features).newSession peer)).2.Keeps Q := by
  have first : ((ofFeatures config newMail custom features).newSession peer).Keeps Q := ⟨nofun, nofun⟩
  rw [connect_newSession]
  exact Session.Keeps.moveTo (((Session.Ordinary.refl first).log _ _).log _ _).keeps .connected

theorem tlsEstablished_keeps (description : String) (s : Session κ) :
    (s.tlsEstablished description).Keeps Q := by
  have final := Session.unlogged_tlsEstablished description s
  have gone : (s.unlogged.closeMail.abandonExchange).mail = none := by
    rw [Session.abandonExchange_eq]
    exact Session.closeMail_mail _
  rw [← Session.keeps_unlogged, final]
  refine ⟨fun mail held => ?_, nofun⟩
  nomatch gone.symm.trans held

private theorem startTls_keeps (keeps : s.Keeps Q) (upgrader : Option TlsUpgrader) (reply : Reply)
    (w : Wire) : (Turn.ofServed (startTls upgrader reply s w)).session.Keeps Q := by
  have same (served : Served κ) : (Turn.ofServed served).session = served.session := by
    unfold Turn.ofServed
    split <;> rfl
  rw [same]
  unfold startTls
  split
  · exact keeps.same rfl rfl
  · split
    · exact keeps.same rfl rfl
    · split
      · exact keeps
      · dsimp only
        split
        · exact keeps
        · exact tlsEstablished_keeps _ _

theorem turn_keeps (late : Q (.of .commandSyntaxError "Line too long")) {limit : Nat}
    (keeps : s.Keeps Q)
    (kept : ∀ line, (w.inbox.next limit).1 = .line line → (server.consume s line).2.Keeps Q)
    (upgrader : Option TlsUpgrader) : (server.turn upgrader limit s w).session.Keeps Q := by
  rw [turn]
  generalize (w.inbox.next limit).1 = next at kept
  generalize { w with inbox := (w.inbox.next limit).2 } = w
  cases next with
  | ended cause => exact keeps
  | tooLong =>
    have told : (answerTooLong limit s).2.Keeps Q := by
      unfold answerTooLong
      dsimp only
      split
      · exact (((Session.Ordinary.refl keeps).log _ _).failTransfer late).keeps
      · exact keeps.same rfl rfl
    unfold serveNext
    dsimp only
    split <;> exact told
  | line line =>
    have consumed := kept line rfl
    unfold serveNext serveLine
    dsimp only
    split
    · rename_i same
      rwa [same] at consumed
    · rename_i same
      rw [same] at consumed
      exact consumed.same rfl rfl
    · rename_i reply t same
      rw [same] at consumed
      split
      · exact startTls_keeps consumed upgrader reply w
      · unfold answer
        split
        · exact consumed
        · split <;> exact consumed

/-- The sessions that a connection comes to include the one before its last turn. -/
theorem Comes.exists_last_turn (comes : server.Comes upgrader s₀ w₀ s w) :
    ∃ t v, server.Comes upgrader s₀ w₀ t v ∧ server.turn upgrader server.lineLimit t v =
      .ended (server.serveLines upgrader server.lineLimit s w) := by
  fun_induction serveLines server upgrader server.lineLimit s w with
  | case1 s w served ended => exact ⟨s, w, comes, ended⟩
  | case2 s w t v next ih => exact ih (comes.next next)

private theorem serveLines_keeps {P : Wire → Prop}
    (step : ∀ w v, P w → w.Tells (fun _ => True) v → P v) (now : P w) :
    P (server.serveLines upgrader server.lineLimit s w).wire := by
  fun_induction serveLines server upgrader server.lineLimit s w with
  | case1 s w served ended =>
    have told := (turn_tells_any server upgrader s w).wire
    rw [turn, ended] at told
    exact step _ _ now told
  | case2 s w t v next ih =>
    have told := (turn_tells_any server upgrader s w).wire
    rw [turn, next] at told
    exact ih (step _ _ now told)

theorem Comes.sent_subset (comes : server.Comes upgrader s₀ w₀ s w) :
    (server.turn upgrader server.lineLimit s w).wire.sent ⊆
      (server.serve upgrader s₀ w₀).wire.sent := by
  rw [serve_eq, comes.serveDialog_eq]
  cases turned : server.turn upgrader server.lineLimit s w with
  | ended served =>
    rw [serveLines_of_ended turned]
    exact List.Subset.refl _
  | goesOn t v =>
    rw [serveLines_of_goesOn turned]
    exact serveLines_keeps (P := fun u => v.sent ⊆ u.sent)
      (fun _ _ before told => List.Subset.trans before told.sent_subset) (List.Subset.refl _)

theorem Comes.unlimited (unlimited : w₀.room = none) (clear : w₀.unflushed = [])
    (comes : server.Comes upgrader s₀ w₀ s w) : w.room = none ∧ w.unflushed = [] := by
  refine Comes.induct (motive := fun _ w => w.room = none ∧ w.unflushed = []) ?_ ?_ comes
  · intro s w greeted
    have told := (opening_tells_any server s₀ w₀).wire
    rw [greeted] at told
    exact told.unlimited unlimited clear
  · intro s w t v _ before turned
    have told := (turn_tells_any server upgrader s w).wire
    rw [turned] at told
    exact told.unlimited before.1 before.2

theorem unflushed_serve (unlimited : w₀.room = none) (clear : w₀.unflushed = []) :
    (server.serve upgrader s₀ w₀).wire.unflushed = [] := by
  have first := (opening_tells_any server s₀ w₀).wire.unlimited unlimited clear
  rw [serve_eq]
  cases opened : server.opening s₀ w₀ with
  | ended served =>
    rw [opened] at first
    rw [serveDialog_of_ended opened]
    exact first.2
  | goesOn s w =>
    have comes : server.Comes upgrader s₀ w₀ s w := ⟨0, opened⟩
    rw [opened] at first
    rw [comes.serveDialog_eq]
    exact (serveLines_keeps (P := fun u => u.room = none ∧ u.unflushed = [])
      (fun _ _ before told => told.unlimited before.1 before.2) first).2

/-- The answer to a line is sent in the same turn. -/
theorem turn_sends (unlimited : w.room = none) (clear : w.unflushed = [])
    (read : (w.inbox.next server.lineLimit).1 = .line line) {reply : Reply}
    (answered : (server.consume s line).1 = .ok reply) (loud : reply.isSilent = false)
    (plain : reply.isStartTls = false) :
    .flushed reply.wire ∈ (server.turn upgrader server.lineLimit s w).wire.sent := by
  have sent : w.send reply = (.ok (),
      { w with unflushed := [], sent := .flushed (w.unflushed ++ reply.wire) :: w.sent }) := by
    simp [Wire.send, Wire.write, loud, unlimited]
  have first : .flushed reply.wire ∈ (w.send reply).2.sent := by
    rw [sent, clear]
    exact List.mem_cons_self
  obtain ⟨t, consumed⟩ : ∃ t, server.consume s line = (.ok reply, t) :=
    ⟨_, Prod.ext answered rfl⟩
  rw [turn, read, serveNext, serveLine_of_ok consumed,
    respond_of_sent upgrader t _ plain (congrArg Prod.fst sent)]
  split <;> exact first

/-- Whatever a connection comes to, what is replied in it is of a kind. -/
structure Replies (Q : Reply → Prop) (server : Server κ) (upgrader : Option TlsUpgrader)
    (s₀ : Session κ) (w₀ : Wire) : Prop where
  silent : Q .silent
  plain : ∀ code text, Text.isUnbroken text = true → Q (.of code text)
  greeting : ∀ reply, (server.connect s₀).1 = .ok reply → Q reply
  greeted : (server.connect s₀).2.Keeps Q
  said : ∀ s w line, server.Comes upgrader s₀ w₀ s w → s.Keeps Q →
    (w.inbox.next server.lineLimit).1 = .line line →
      (∀ reply, (server.consume s line).1 = .ok reply → Q reply) ∧ (server.consume s line).2.Keeps Q

namespace Replies

variable {barred : List Char}

private theorem opening_says (replies : server.Replies Q upgrader s₀ w₀) :
    Turn.Tells Q w₀ (server.opening s₀ w₀) ∧ (server.opening s₀ w₀).session.Keeps Q := by
  refine ⟨opening_tells replies.greeting w₀, ?_⟩
  rw [session_opening]
  exact replies.greeted

private theorem turn_says (replies : server.Replies Q upgrader s₀ w₀)
    (comes : server.Comes upgrader s₀ w₀ s w) (keeps : s.Keeps Q) :
    Turn.Tells Q w (server.turn upgrader server.lineLimit s w) ∧
      (server.turn upgrader server.lineLimit s w).session.Keeps Q := by
  have said (line : Line) (read : (w.inbox.next server.lineLimit).1 = .line line) :=
    replies.said s w line comes keeps read
  exact ⟨turn_tells replies.plain replies.silent (fun line read => (said line read).1) upgrader,
    turn_keeps (replies.plain _ _ (Text.isUnbroken_ofList rfl)) keeps (fun line read => (said line read).2)
      upgrader⟩

/-- Between two turns all that was written stands on lines. -/
private theorem comes_onLines (replies : server.Replies (Reply.Sound barred) upgrader s₀ w₀)
    (breaks : barred ⊆ ['\r', '\n']) (clear : w₀.unflushed = [])
    (fresh : w₀.OnLines (Utf8.encode barred)) (comes : server.Comes upgrader s₀ w₀ s w) :
    s.Keeps (Reply.Sound barred) ∧ w.unflushed = [] ∧ w.OnLines (Utf8.encode barred) := by
  refine Comes.induct (motive := fun s w => s.Keeps (Reply.Sound barred) ∧ w.unflushed = [] ∧
    w.OnLines (Utf8.encode barred)) ?_ ?_ comes
  · intro s w greeted
    obtain ⟨told, keeps⟩ := replies.opening_says
    rw [greeted] at told keeps
    exact ⟨keeps, told.clear rfl clear, told.wire.onLines breaks clear fresh⟩
  · rintro s w t v comes ⟨keeps, clear, lines⟩ turned
    obtain ⟨told, keeps⟩ := replies.turn_says comes keeps
    rw [turned] at told keeps
    exact ⟨keeps, told.clear rfl clear, told.wire.onLines breaks clear lines⟩

theorem serve_onLines (replies : server.Replies (Reply.Sound barred) upgrader s₀ w₀)
    (breaks : barred ⊆ ['\r', '\n']) (clear : w₀.unflushed = [])
    (fresh : w₀.OnLines (Utf8.encode barred)) :
    (server.serve upgrader s₀ w₀).wire.OnLines (Utf8.encode barred) := by
  rw [serve_eq]
  cases opened : server.opening s₀ w₀ with
  | ended served =>
    have told := replies.opening_says.1
    rw [opened] at told
    have same : server.serveDialog upgrader s₀ w₀ = served := serveDialog_of_ended opened
    rw [same]
    exact told.wire.onLines breaks clear fresh
  | goesOn s w =>
    have comes : server.Comes upgrader s₀ w₀ s w := ⟨0, opened⟩
    obtain ⟨t, v, last, ended⟩ := comes.exists_last_turn
    obtain ⟨keeps, clear, lines⟩ := replies.comes_onLines breaks clear fresh last
    have told := (replies.turn_says last keeps).1
    rw [ended] at told
    rw [comes.serveDialog_eq]
    exact told.wire.onLines breaks clear lines

end Replies

/-- Whether a host name in which a character stands is accepted, and so comes back. -/
def Repeats (server : Server κ) (upgrader : Option TlsUpgrader) (s₀ : Session κ) (w₀ : Wire)
    (c : Char) : Prop :=
  ∃ s w line domain, server.Comes upgrader s₀ w₀ s w ∧
    (w.inbox.next server.lineLimit).1 = .line line ∧
    Passage.greets ⟨.line line, s, (server.consume s line).1⟩ = true ∧
    Grammar.heloDomain? (Grammar.arguments line.text) = some domain ∧ c ∈ domain.toList

theorem not_repeats_feed : ¬ server.Repeats upgrader s₀ w₀ '\n' := by
  rintro ⟨s, w, line, domain, -, read, -, named, member⟩
  have read : w.inbox.next server.lineLimit = (.line line, (w.inbox.next server.lineLimit).2) := by
    rw [← read]
  exact Line.not_mem_domain (Inbox.isTerminated_of_next (by rw [read])) (Inbox.dropLast_of_next read)
    named member

section

variable {config : Config} {newMail : Session κ → MailBehaviour} {custom : κ → Hook κ}
  {features : List Feature} {peer : String} {barred : List Char}

private theorem greets_of_verb (verb : Text.upper line.verb = "HELO" ∨ Text.upper line.verb = "EHLO") :
    line.greets = true := by
  simpa [Line.greets] using verb

private theorem Comes.consumes (unbroken : Unbroken config newMail features)
    (breaks : barred ⊆ ['\r', '\n'])
    (calm : ∀ c ∈ barred, ¬ (ofFeatures config newMail custom features).Repeats upgrader
      ((ofFeatures config newMail custom features).newSession peer) w₀ c)
    (comes : (ofFeatures config newMail custom features).Comes upgrader
      ((ofFeatures config newMail custom features).newSession peer) w₀ s w)
    (keeps : s.Keeps (Reply.Sound barred))
    (read : (w.inbox.next (ofFeatures config newMail custom features).lineLimit).1 = .line line) :
    (∀ reply, ((ofFeatures config newMail custom features).consume s line).1 = .ok reply →
        reply.Sound barred) ∧
      ((ofFeatures config newMail custom features).consume s line).2.Keeps (Reply.Sound barred) := by
  obtain ⟨past, run⟩ := comes.reachable
  have terminated := Inbox.isTerminated_of_next read
  refine consume_keeps (unbroken.answers breaks) run.fits keeps (fun _ _ => ⟨nofun, nofun⟩)
    (fun _ => Reply.sound_startTls breaks) fun idle =>
      unbroken.echoes breaks fun verb valid domain named => ?_
  rw [Text.avoids_iff]
  intro c member inside
  have greets := greets_of_verb verb
  obtain ⟨reply, answered, code, -⟩ :=
    consume_of_greeting config newMail custom features run.fits valid idle terminated greets named
  refine calm c inside ⟨s, w, line, domain, comes, read, ?_, named, member⟩
  simp [Passage.greets, answered, greets, code]

private theorem Unbroken.replies (unbroken : Unbroken config newMail features)
    (breaks : barred ⊆ ['\r', '\n'])
    (calm : ∀ c ∈ barred, ¬ (ofFeatures config newMail custom features).Repeats upgrader
      ((ofFeatures config newMail custom features).newSession peer) w₀ c) :
    (ofFeatures config newMail custom features).Replies (Reply.Sound barred) upgrader
      ((ofFeatures config newMail custom features).newSession peer) w₀ := by
  have answers : (ofFeatures config newMail custom features).site.Answers (Reply.Sound barred)
      features := unbroken.answers breaks
  refine ⟨⟨nofun, nofun⟩, answers.plain, ?_, connect_keeps _ _ _ _ _, fun s w line comes keeps read =>
    comes.consumes unbroken breaks calm keeps read⟩
  rw [connect_newSession]
  rintro reply ⟨⟩
  have greeting := answers.greeting
  rwa [ofFeatures_site_config] at greeting

private theorem exists_answer {domain : String} (fits : s.Fits s.state)
    (terminated : line.isTerminated = true)
    (greets : Passage.greets
      ⟨.line line, s, ((ofFeatures config newMail custom features).consume s line).1⟩ = true)
    (named : Grammar.heloDomain? (Grammar.arguments line.text) = some domain) :
    ∃ reply, ((ofFeatures config newMail custom features).consume s line).1 = .ok reply ∧
      reply.code? = some Code.ok.number ∧ Command.salutation config domain ∈ reply.texts := by
  rw [Passage.greets] at greets
  split at greets
  · rename_i other reply same answered
    obtain rfl := Input.line.inj same
    obtain ⟨greets, code⟩ : line.greets = true ∧ reply.code? = some Code.ok.number := by
      simpa using greets
    have effect : Effect config features line s
        ((ofFeatures config newMail custom features).consume s line).1 _ :=
      consume_effect fits terminated
    obtain ⟨valid, idle, -⟩ := effect.exists_domain answered greets code
    exact consume_of_greeting config newMail custom features fits valid idle terminated greets named
  · exact absurd greets Bool.false_ne_true

/-- A carriage return that comes back breaks the line on which it stands. -/
private theorem Replies.not_onLines
    (replies : (ofFeatures config newMail custom features).Replies (Reply.Sound ['\n']) upgrader
      ((ofFeatures config newMail custom features).newSession peer) w₀)
    (repeats : (ofFeatures config newMail custom features).Repeats upgrader
      ((ofFeatures config newMail custom features).newSession peer) w₀ '\r')
    (unlimited : w₀.room = none) (clear : w₀.unflushed = []) (fresh : w₀.OnLines [10]) :
    ¬ ((ofFeatures config newMail custom features).serve upgrader
      ((ofFeatures config newMail custom features).newSession peer) w₀).wire.OnLines [13, 10] := by
  intro lines
  obtain ⟨s, w, line, domain, comes, read, greets, named, member⟩ := repeats
  obtain ⟨past, run⟩ := comes.reachable
  obtain ⟨reply, answered, code, told⟩ :=
    exists_answer run.fits (Inbox.isTerminated_of_next read) greets named
  obtain ⟨loud, plain⟩ : reply.isSilent = false ∧ reply.isStartTls = false := by
    cases reply with
    | line | multi => exact ⟨rfl, rfl⟩
    | silent => nomatch code
    | startTls => exact absurd (Option.some.inj code) (by decide)
  obtain ⟨keeps, -, -⟩ := replies.comes_onLines (List.subset_cons_self _ _) clear fresh comes
  have sound : reply.Sound ['\n'] := (replies.said s w line comes keeps read).1 reply answered
  have limits := comes.unlimited unlimited clear
  have sent := comes.sent_subset (turn_sends limits.1 limits.2 read answered loud plain)
  have whole := (Reply.areReplyLines_iff sound).mp (lines.flushed _ sent)
  have inside : '\r' ∈ (Command.salutation config domain).toList := by
    rw [Command.salutation, String.toList_append]
    exact List.mem_append_right _ member
  exact Text.avoids_iff.mp (whole.texts _ told) _ inside List.mem_cons_self

/-- What a client is sent is lines of replies, each of a code with three digits, a mark and a text, if what
a server is set up with is. No text holds a line feed, and a text holds a carriage return just if a host
name with one in it is accepted. -/
theorem serve_on_reply_lines (unbroken : Unbroken config newMail features) (custom : κ → Hook κ)
    (peer : String) (upgrader : Option TlsUpgrader) (inbox : Inbox) (room : Option Nat) :
    let server := ofFeatures config newMail custom features
    let s₀ := server.newSession peer
    let w₀ : Wire := { inbox := inbox, room := room }
    let served := server.serve upgrader s₀ w₀
    served.wire.OnLines [10] ∧
      (¬ server.Repeats upgrader s₀ w₀ '\r' → served.wire.OnLines [13, 10]) ∧
      (room = none → served.wire.unflushed = [] ∧
        (served.wire.OnLines [13, 10] → ¬ server.Repeats upgrader s₀ w₀ '\r')) := by
  intro server s₀ w₀ served
  have feeds : ['\n'] ⊆ ['\r', '\n'] := List.subset_cons_self _ _
  have calm : ∀ c ∈ ['\n'], ¬ server.Repeats upgrader s₀ w₀ c := by
    intro c member
    rw [List.mem_singleton.mp member]
    exact not_repeats_feed
  have replies : server.Replies (Reply.Sound ['\n']) upgrader s₀ w₀ := unbroken.replies feeds calm
  have fresh (barred : Bytes) : w₀.OnLines barred := ⟨nofun, [], .nil⟩
  refine ⟨replies.serve_onLines feeds rfl (fresh _), fun calm => ?_, fun unlimited => ⟨?_, ?_⟩⟩
  · have breaks : ∀ c ∈ ['\r', '\n'], ¬ server.Repeats upgrader s₀ w₀ c := by
      intro c member
      rcases List.mem_cons.mp member with rfl | feed
      · exact calm
      · rw [List.mem_singleton.mp feed]
        exact not_repeats_feed
    have all := List.Subset.refl ['\r', '\n']
    exact (unbroken.replies all breaks).serve_onLines all rfl (fresh _)
  · exact unflushed_serve unlimited rfl
  · exact fun lines repeats => replies.not_onLines repeats unlimited rfl (fresh _) lines

private theorem salutes_return :
    let server := ofFeatures {} (fun _ _ _ => .ok .ok) Empty.elim Feature.standard
    let w₀ : Wire := { inbox := { arrivals := [.bytes (Utf8.ofString "EHLO a\rb\r\nQUIT\r\n")] } }
    .flushed (Utf8.ofString "250-localhost salutations, a\rb\r\n250-8BITMIME\r\n250 PIPELINING\r\n") ∈
      (server.serve none (server.newSession "client.example") w₀).wire.sent := by
  intro server w₀
  have still : (server.opening (server.newSession "client.example") w₀).isOver = false := by
    decide +kernel
  have comes : server.Comes none (server.newSession "client.example") w₀ _ _ :=
    ⟨0, Turn.eq_goesOn still⟩
  apply comes.sent_subset
  decide +kernel

private theorem not_lines_of_return (before after : Bytes) :
    ¬ AreReplyLines [13, 10] (before ++ Utf8.ofString
      "250-localhost salutations, a\rb\r\n250-8BITMIME\r\n250 PIPELINING\r\n" ++ after) := by
  have parts : Utf8.ofString
      "250-localhost salutations, a\rb\r\n250-8BITMIME\r\n250 PIPELINING\r\n" =
        Utf8.ofString "250-localhost salutations, a" ++ 13 :: 98 ::
          Utf8.ofString "\r\n250-8BITMIME\r\n250 PIPELINING\r\n" := by
    decide +kernel
  rw [parts, ← List.append_assoc, List.append_assoc _ _ after]
  exact not_areReplyLines List.mem_cons_self (by simp)

private theorem unbroken_standard :
    Unbroken {} (fun (_ : Session Empty) _ _ => .ok .ok) Feature.standard where
  hostName := Text.isUnbroken_ofList rfl
  greeting := Text.isUnbroken_ofList rfl
  keywords name offered := by
    have known : name = "8BITMIME" ∨ name = "PIPELINING" := by
      simpa [Feature.standard] using offered
    rcases known with rfl | rfl <;> exact Text.isUnbroken_ofList rfl
  mechanisms policy offered := by
    simp [Feature.standard] at offered
  mail := by
    rintro s history call reply ⟨⟩
    exact Reply.sound_line (Text.isUnbroken_iff.mp (Text.isUnbroken_ofList rfl))

/-- A client of the standard server is sent a name with a carriage return back. -/
theorem serve_on_reply_lines_of_return :
    let server := ofFeatures {} (fun _ _ _ => .ok .ok) Empty.elim Feature.standard
    let s₀ := server.newSession "client.example"
    let w₀ : Wire := { inbox := { arrivals := [.bytes (Utf8.ofString "EHLO a\rb\r\nQUIT\r\n")] } }
    (server.serve none s₀ w₀).wire.OnLines [10] ∧ (server.serve none s₀ w₀).wire.unflushed = [] ∧
      server.Repeats none s₀ w₀ '\r' := by
  intro server s₀ w₀
  have facts := serve_on_reply_lines unbroken_standard Empty.elim "client.example" none
    { arrivals := [.bytes (Utf8.ofString "EHLO a\rb\r\nQUIT\r\n")] } none
  refine ⟨facts.1, (facts.2.2 rfl).1, Classical.byContradiction fun calm => ?_⟩
  have lines := (facts.2.1 calm).flushed _ salutes_return
  exact not_lines_of_return [] [] (by simpa using lines)

/-- A client can place a carriage return inside a reply, though all that the server is set up with stands
on one line each. Whatever is sent before and after, this is no sequence of lines of replies. -/
theorem return_inside_reply :
    let server := ofFeatures {} (fun _ _ _ => .ok .ok) Empty.elim Feature.standard
    let w₀ : Wire := { inbox := { arrivals := [.bytes (Utf8.ofString "EHLO a\rb\r\nQUIT\r\n")] } }
    Unbroken {} (fun (_ : Session Empty) _ _ => .ok .ok) Feature.standard ∧
      ∃ bs, .flushed bs ∈ (server.serve none (server.newSession "client.example") w₀).wire.sent ∧
        ∀ before after, ¬ AreReplyLines [13, 10] (before ++ bs ++ after) :=
  ⟨unbroken_standard, _, salutes_return, not_lines_of_return⟩

end

end Server

end SmtpDialog
