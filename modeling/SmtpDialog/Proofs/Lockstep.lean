/- digest: Connections of which one echoes the other go on alike. -/
import SmtpDialog.Proofs.Mirror
import SmtpDialog.Proofs.Turns

set_option autoImplicit false
set_option relaxedAutoImplicit false

namespace SmtpDialog

variable {κ : Type}

namespace Wire

/-- A wire on which the same can be sent as on another, with other things sent before. -/
structure Echoes (before : List Sent) (u w : Wire) : Prop where
  room : w.room = u.room
  unflushed : w.unflushed = u.unflushed
  sent : w.sent = u.sent ++ before

variable {before : List Sent} {u w : Wire}

theorem Echoes.send (h : Echoes before u w) (reply : Reply) :
    (w.send reply).1 = (u.send reply).1 ∧ Echoes before (u.send reply).2 (w.send reply).2 := by
  rw [Wire.send, Wire.send]
  split
  · exact ⟨rfl, h⟩
  · rw [Wire.write, Wire.write, h.room, h.unflushed]
    cases u.room with
    | none => exact ⟨rfl, rfl, rfl, congrArg _ h.sent⟩
    | some room =>
      dsimp only
      split
      · exact ⟨rfl, rfl, rfl, congrArg _ h.sent⟩
      · exact ⟨rfl, rfl, rfl, h.sent⟩

theorem Echoes.send_cases (h : Echoes before u w) (reply : Reply) :
    (∃ fault u' w', u.send reply = (.error fault, u') ∧ w.send reply = (.error fault, w') ∧
      Echoes before u' w') ∨
    ∃ u' w', u.send reply = (.ok (), u') ∧ w.send reply = (.ok (), w') ∧ Echoes before u' w' ∧
      u'.inbox = u.inbox ∧ w'.inbox = w.inbox := by
  obtain ⟨same, carried⟩ := h.send reply
  have first : u.send reply = ((u.send reply).1, (u.send reply).2) := rfl
  have second : w.send reply = ((u.send reply).1, (w.send reply).2) := Prod.ext same rfl
  cases sent : (u.send reply).1 with
  | error fault =>
    rw [sent] at first second
    exact .inl ⟨fault, _, _, first, second, carried⟩
  | ok done =>
    rw [sent] at first second
    exact .inr ⟨_, _, first, second, carried, u.send_inbox reply, w.send_inbox reply⟩

theorem Echoes.beginHandshake (h : Echoes before u w) :
    Echoes before u.beginHandshake w.beginHandshake :=
  ⟨h.room, h.unflushed, congrArg _ h.sent⟩

end Wire

/-- Whether the same bytes arrive, and by the same reads if they are to be exact. -/
def Inbox.Agrees (strict : Bool) (i j : Inbox) : Prop :=
  i.merged = j.merged ∧ (strict = true → i = j)

theorem Inbox.Agrees.next {strict : Bool} {i j : Inbox} (h : i.Agrees strict j) (limit : Nat) :
    (j.next limit).1 = (i.next limit).1 ∧ (i.next limit).2.Agrees strict (j.next limit).2 := by
  obtain ⟨same, left⟩ := next_congr h.1 limit
  exact ⟨same.symm, left, fun same => by rw [h.2 same]⟩

/-- Whether a TLS upgrade depends on what can be read and written, not on what was sent before. -/
def TlsUpgrader.Impartial (upgrade : TlsUpgrader) : Prop :=
  ∀ (w : Wire) (unflushed : Bytes) (sent : List Sent),
    upgrade { w with unflushed := unflushed, sent := sent } = upgrade w

namespace Server

/-- A turn that does to a connection what another does to the one that it echoes. -/
inductive Turn.Mirrors (b : Base) (before : List Sent) (strict : Bool) : Turn κ → Turn κ → Prop
  | goesOn {c s : Session κ} {u w : Wire} (sound : c.Fits c.state) (echoes : Echoes b c s)
      (wires : u.Echoes before w) (inboxes : u.inbox.Agrees strict w.inbox) :
      Mirrors b before strict (.goesOn c u) (.goesOn s w)
  | ended {result : Except Fault Unit} {c s : Session κ} {u w : Wire} (echoes : Echoes b c s)
      (wires : u.Echoes before w) :
      Mirrors b before strict (.ended ⟨result, c, u⟩) (.ended ⟨result, s, w⟩)

variable {b : Base} {before : List Sent} {strict : Bool} {c s : Session κ} {u w : Wire}

private theorem answer_mirrors (sound : c.Fits c.state) (echoes : Echoes b c s)
    (wires : u.Echoes before w) (inboxes : u.inbox.Agrees strict w.inbox) (reply : Reply) :
    Turn.Mirrors b before strict (answer reply c u) (answer reply s w) := by
  rw [answer, answer]
  obtain ⟨fault, u', w', first, second, carried⟩ |
    ⟨u', w', first, second, carried, left, right⟩ := wires.send_cases reply
  · rw [first, second]
    exact .ended echoes carried
  · rw [first, second]
    rw [← left, ← right] at inboxes
    dsimp only
    split
    · exact .ended echoes carried
    · exact .goesOn sound echoes carried inboxes

/-- What is buffered decides about the handshake, so the reads must be the same here. -/
private theorem startTls_mirrors {upgrade : TlsUpgrader} (impartial : upgrade.Impartial)
    (sound : ∀ description, (c.tlsEstablished description).Fits (c.tlsEstablished description).state)
    (echoes : Echoes b c s) (wires : u.Echoes before w) (inboxes : w.inbox = u.inbox)
    (reply : Reply) :
    Turn.Mirrors b before strict (Turn.ofServed (startTls (some upgrade) reply c u))
      (Turn.ofServed (startTls (some upgrade) reply s w)) := by
  rw [startTls, startTls]
  simp only [inboxes]
  split
  · exact .ended (echoes.log _ _ _ _) (wires.send .shuttingDown).2
  · obtain ⟨fault, u', w', first, second, carried⟩ |
      ⟨u', w', first, second, carried, left, right⟩ := wires.send_cases reply
    · rw [first, second]
      exact .ended echoes carried
    · rw [first, second]
      have same : w'.inbox = u'.inbox := right.trans (inboxes.trans left.symm)
      have begun := carried.beginHandshake
      have asked : w'.beginHandshake = { u'.beginHandshake with
          unflushed := w'.unflushed, sent := .handshake :: w'.sent } := by
        rw [Wire.beginHandshake, Wire.beginHandshake, carried.room, same]
      have upgraded : upgrade w'.beginHandshake = upgrade u'.beginHandshake := by
        rw [asked]
        exact impartial _ _ _
      simp only [upgraded]
      split
      · exact .ended echoes begun
      · rename_i description _
        refine .goesOn (sound description) (echoes.tlsEstablished description) begun ?_
        have inbox : w'.beginHandshake.inbox = u'.beginHandshake.inbox := by
          rw [asked]
        exact ⟨congrArg _ inbox.symm, fun _ => inbox.symm⟩

private theorem respond_mirrors {upgrade : TlsUpgrader} (upgrades : strict = true → upgrade.Impartial)
    {reply : Reply} (civil : strict = false → reply.isStartTls = false) (sound : c.Fits c.state)
    (secured : reply.isStartTls = true → ∀ description,
      (c.tlsEstablished description).Fits (c.tlsEstablished description).state)
    (echoes : Echoes b c s) (wires : u.Echoes before w) (inboxes : u.inbox.Agrees strict w.inbox) :
    Turn.Mirrors b before strict (respond (some upgrade) reply c u)
      (respond (some upgrade) reply s w) := by
  rw [respond, respond]
  split
  · rename_i invites
    cases strict with
    | false =>
      rw [civil rfl] at invites
      contradiction
    | true =>
      exact startTls_mirrors (upgrades rfl) (secured invites) echoes wires (inboxes.2 rfl).symm reply
  · exact answer_mirrors sound echoes wires inboxes reply

private theorem serveLine_mirrors {server : Server κ} {upgrader : Option TlsUpgrader} {line : Line}
    (answered : (server.consume s line).1 = (server.consume c line).1)
    (echoes : Echoes b (server.consume c line).2 (server.consume s line).2)
    (wires : u.Echoes before w)
    (responds : ∀ reply, (server.consume c line).1 = .ok reply →
      Turn.Mirrors b before strict (respond upgrader reply (server.consume c line).2 u)
        (respond upgrader reply (server.consume s line).2 w)) :
    Turn.Mirrors b before strict (server.serveLine upgrader line c u)
      (server.serveLine upgrader line s w) := by
  have second : server.consume s line = ((server.consume c line).1, (server.consume s line).2) :=
    Prod.ext answered rfl
  cases told : (server.consume c line).1 with
  | error fault =>
    rw [told] at second
    rw [serveLine, serveLine, second, show server.consume c line = (.error fault, _) from
      Prod.ext told rfl]
    cases fault with
    | unterminated line => exact .ended echoes wires
    | _ => exact .ended (echoes.log _ _ _ _) (wires.send .shuttingDown).2
  | ok reply =>
    rw [told] at second
    rw [serveLine_of_ok second, serveLine_of_ok (Prod.ext told rfl)]
    exact responds reply told

private theorem tooLong_mirrors {server : Server κ} {upgrader : Option TlsUpgrader} (limit : Nat)
    (sound : (answerTooLong limit c).2.Fits (answerTooLong limit c).2.state)
    (echoes : Echoes b c s) (wires : u.Echoes before w) (inboxes : u.inbox.Agrees strict w.inbox) :
    Turn.Mirrors b before strict (server.serveNext upgrader limit .tooLong c u)
      (server.serveNext upgrader limit .tooLong s w) := by
  obtain ⟨reply, told⟩ := answerTooLong_agrees echoes limit
  rw [serveNext, serveNext]
  simp only [reply]
  obtain ⟨fault, u', w', first, second, carried⟩ |
    ⟨u', w', first, second, carried, left, right⟩ := wires.send_cases (answerTooLong limit c).1
  · rw [first, second]
    exact .ended told carried
  · rw [first, second]
    rw [← left, ← right] at inboxes
    exact .goesOn sound told carried inboxes

section

variable {config : Config} {newMail : Session κ → MailBehaviour} {custom : κ → Hook κ}
  {features : List Feature}

private theorem take_fits (past : List (Passage κ)) {input : Input} (sound : c.Fits c.state)
    (follows : input.Follows past)
    (quiet : (∃ p ∈ past.head?, invitesTls p.answer = true) → c.state ≠ .readingData) :
    ((ofFeatures config newMail custom features).take c input).2.Fits
      ((ofFeatures config newMail custom features).take c input).2.state := by
  have change : Change config features c input _ _ := take_change newMail custom sound follows quiet
  exact (Change.fits sound change).same rfl rfl rfl

/-- One turn keeps the stores in step and the connections alike. An invitation to TLS needs the same
reads. -/
theorem turn_mirrors {upgrade : TlsUpgrader} (impartial : Impartial newMail)
    (policies : ∀ policy, Feature.policy? features = some policy → policy.Impartial)
    (upgrades : strict = true → upgrade.Impartial) (limit : Nat)
    (polite : strict = false → ∀ line, (u.inbox.next limit).1 = .line line →
      invitesTls ((ofFeatures config newMail custom features).consume c line).1 = false ∨
        invitesTls ((ofFeatures config newMail custom features).consume s line).1 = false)
    (sound : c.Fits c.state) (echoes : Echoes b c s) (wires : u.Echoes before w)
    (inboxes : u.inbox.Agrees strict w.inbox) :
    Turn.Mirrors b before strict
      ((ofFeatures config newMail custom features).turn (some upgrade) limit c u)
      ((ofFeatures config newMail custom features).turn (some upgrade) limit s w) := by
  obtain ⟨same, left⟩ := inboxes.next limit
  rw [turn, turn, same]
  have wired : Wire.Echoes before { u with inbox := (u.inbox.next limit).2 }
      { w with inbox := (w.inbox.next limit).2 } := ⟨wires.room, wires.unflushed, wires.sent⟩
  cases found : (u.inbox.next limit).1 with
  | ended cause => exact .ended echoes wired
  | tooLong =>
    have kept : ((ofFeatures config newMail custom features).take c (.tooLong limit)).2.Fits _ :=
      take_fits [] sound trivial (by simp)
    exact tooLong_mirrors limit kept echoes wired left
  | line line =>
    have terminated := Inbox.isTerminated_of_next found
    have kept : ((ofFeatures config newMail custom features).take c (.line line)).2.Fits _ :=
      take_fits [] sound terminated (by simp)
    obtain ⟨answered, told⟩ := consume_agrees impartial policies sound echoes terminated
    refine serveLine_mirrors answered told wired ?_
    intro reply replied
    have invited (invites : reply.isStartTls = true) :
        invitesTls ((ofFeatures config newMail custom features).consume c line).1 = true := by
      rw [replied]
      exact invites
    have civil (loose : strict = false) : reply.isStartTls = false := by
      have either := polite loose line found
      rw [answered, or_self, replied] at either
      exact either
    have secured (invites : reply.isStartTls = true) (description : String) :
        ((ofFeatures config newMail custom features).take
          ((ofFeatures config newMail custom features).consume c line).2
          (.secured description)).2.Fits _ :=
      take_fits [⟨.line line, c, _⟩] kept ⟨_, rfl, invited invites⟩ fun _ =>
        (consume_effect sound terminated).quiet (invited invites)
    exact respond_mirrors upgrades civil kept secured told wired left

end

section

variable {server : Server κ} {upgrader : Option TlsUpgrader} {t : Session κ} {v : Wire}
  {served : Served κ}

private theorem onward_succ (server : Server κ) (upgrader : Option TlsUpgrader) (s : Session κ)
    (w : Wire) (n : Nat) :
    server.onward upgrader (.goesOn s w) (n + 1) =
      server.onward upgrader (server.turn upgrader server.lineLimit s w) n := by
  induction n with
  | zero => rfl
  | succ n ih => rw [onward, ih, onward]

theorem onward_ended (served : Served κ) (n : Nat) :
    server.onward upgrader (.ended served) n = .ended served := by
  induction n with
  | zero => rfl
  | succ n ih => rw [onward, ih]; rfl

theorem onward_add (server : Server κ) (upgrader : Option TlsUpgrader) (now : Turn κ) (m n : Nat) :
    server.onward upgrader now (m + n) =
      server.onward upgrader (server.onward upgrader now m) n := by
  induction n with
  | zero => rfl
  | succ n ih => rw [← Nat.add_assoc, onward, ih, onward]

theorem exists_onward_ended (server : Server κ) (upgrader : Option TlsUpgrader) (s : Session κ)
    (w : Wire) : ∃ n, server.onward upgrader (.goesOn s w) n =
      .ended (server.serveLines upgrader server.lineLimit s w) := by
  fun_induction serveLines server upgrader server.lineLimit s w with
  | case1 s w served ended =>
    refine ⟨1, ?_⟩
    rw [onward_succ]
    exact ended
  | case2 s w t v next ih =>
    obtain ⟨n, finished⟩ := ih
    refine ⟨n + 1, ?_⟩
    rw [onward_succ, turn, next]
    exact finished

theorem serveLines_of_onward {n : Nat}
    (finished : server.onward upgrader (.goesOn s w) n = .ended served) :
    server.serveLines upgrader server.lineLimit s w = served := by
  induction n generalizing s w with
  | zero => contradiction
  | succ n ih =>
    rw [onward_succ] at finished
    cases turned : server.turn upgrader server.lineLimit s w with
    | ended last =>
      rw [turned, onward_ended] at finished
      rw [serveLines_of_ended turned, Turn.ended.inj finished]
    | goesOn t v =>
      rw [turned] at finished
      rw [serveLines_of_goesOn turned, ih finished]

theorem exists_onward_serveDialog (server : Server κ) (upgrader : Option TlsUpgrader)
    (s : Session κ) (w : Wire) : ∃ n, server.onward upgrader (server.opening s w) n =
      .ended (server.serveDialog upgrader s w) := by
  cases opened : server.opening s w with
  | ended served => exact ⟨0, congrArg Turn.ended (serveDialog_of_ended opened).symm⟩
  | goesOn t v =>
    have comes : server.Comes upgrader s w t v := ⟨0, opened⟩
    rw [comes.serveDialog_eq]
    exact exists_onward_ended server upgrader t v

theorem serveDialog_of_onward {n : Nat}
    (finished : server.onward upgrader (server.opening s w) n = .ended served) :
    server.serveDialog upgrader s w = served := by
  cases opened : server.opening s w with
  | ended first =>
    rw [opened, onward_ended] at finished
    rw [serveDialog_of_ended opened, Turn.ended.inj finished]
  | goesOn t v =>
    have comes : server.Comes upgrader s w t v := ⟨0, opened⟩
    rw [opened] at finished
    rw [comes.serveDialog_eq, serveLines_of_onward finished]

/-- Connections that echo each other turn by turn end alike. -/
theorem serveLines_mirrors {upgrade : TlsUpgrader}
    (mirrors : ∀ n, Turn.Mirrors b before strict (server.onward (some upgrade) (.goesOn c u) n)
      (server.onward (some upgrade) (.goesOn s w) n)) :
    Turn.Mirrors b before strict (.ended (server.serveLines (some upgrade) server.lineLimit c u))
      (.ended (server.serveLines (some upgrade) server.lineLimit s w)) := by
  obtain ⟨n, finished⟩ := exists_onward_ended server (some upgrade) c u
  have last := mirrors n
  rw [finished] at last
  generalize came : server.onward (some upgrade) (.goesOn s w) n = now at last
  generalize server.serveLines (some upgrade) server.lineLimit c u = first at last ⊢
  cases now with
  | goesOn t v => cases last
  | ended served =>
    rw [serveLines_of_onward came]
    exact last

theorem farewell_echoes (echoes : Echoes b c s) (result : Except Fault Unit) :
    Echoes b (farewell result c) (farewell result s) := by
  rcases result with fault | ⟨⟩
  · cases fault with
    | unterminated line => exact echoes
    | _ => exact (echoes.log _ _ _ _).connectionLost
  · exact (echoes.log _ _ _ _).connectionLost

/-- Whether no line is answered by an invitation to TLS from some moment on. -/
def Uninvited (server : Server κ) (upgrade : TlsUpgrader) (s : Session κ) (w : Wire) : Prop :=
  ∀ n t v line, server.onward (some upgrade) (.goesOn s w) n = .goesOn t v →
    (v.inbox.next server.lineLimit).1 = .line line → invitesTls (server.consume t line).1 = false

end

section

variable {config : Config} {newMail : Session κ → MailBehaviour} {custom : κ → Hook κ}
  {features : List Feature} {upgrade : TlsUpgrader}

theorem onward_mirrors (impartial : Impartial newMail)
    (policies : ∀ policy, Feature.policy? features = some policy → policy.Impartial)
    (upgrades : strict = true → upgrade.Impartial)
    (polite : strict = false → (ofFeatures config newMail custom features).Uninvited upgrade c u ∨
      (ofFeatures config newMail custom features).Uninvited upgrade s w)
    (sound : c.Fits c.state) (echoes : Echoes b c s) (wires : u.Echoes before w)
    (inboxes : u.inbox.Agrees strict w.inbox) (n : Nat) :
    Turn.Mirrors b before strict
      ((ofFeatures config newMail custom features).onward (some upgrade) (.goesOn c u) n)
      ((ofFeatures config newMail custom features).onward (some upgrade) (.goesOn s w) n) := by
  induction n with
  | zero => exact .goesOn sound echoes wires inboxes
  | succ n ih =>
    rw [onward, onward]
    generalize came : (ofFeatures config newMail custom features).onward (some upgrade)
      (.goesOn c u) n = first at ih ⊢
    generalize came' : (ofFeatures config newMail custom features).onward (some upgrade)
      (.goesOn s w) n = second at ih ⊢
    cases ih with
    | ended echoes wires => exact .ended echoes wires
    | @goesOn d t x y sound echoes wires inboxes =>
      refine turn_mirrors impartial policies upgrades _ ?_ sound echoes wires inboxes
      intro loose line read
      rcases polite loose with civil | civil
      · exact .inl (civil n d x line came read)
      · exact .inr (civil n t y line came' ((inboxes.next _).1.trans read))

end

end Server

end SmtpDialog
