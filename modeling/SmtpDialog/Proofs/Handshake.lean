/- digest: After a TLS handshake nothing is left of what was before it. -/
import SmtpDialog.Proofs.Civil
import SmtpDialog.Proofs.MailLife

/-!
Two connections that are secured may have had any past. Each of them then goes on like a connection
that begins with TLS in use: turn by turn the sessions echo that of the latter, and the same is sent.
So what can be seen of them from there on is the same. Nor does a byte get past the handshake: what is
buffered behind the invitation ends the connection, and else the handshake begins right behind the
line.
-/

set_option autoImplicit false
set_option relaxedAutoImplicit false

namespace SmtpDialog

variable {κ : Type}

/-- What can be seen of a connection since a moment: how it has ended, the session with the calls on
collaborators in its journal, and what was sent, with what stands of a reply that could not be written
and the room for more. -/
structure Account (κ : Type) where
  result : Option (Except Fault Unit)
  session : Session κ
  sent : List Sent
  unflushed : Bytes
  room : Option Nat

def Wire.behind (limit : Nat) (w : Wire) : Wire := { w with inbox := (w.inbox.next limit).2 }

/-- The wire that an upgrade is given: the invitation has been sent and the handshake begins. -/
def Wire.offerHandshake (invitation : Reply) (w : Wire) : Wire :=
  (w.send invitation).2.beginHandshake

theorem Wire.offerHandshake_inbox (invitation : Reply) (w : Wire) (empty : w.inbox.buffer = []) :
    (w.offerHandshake invitation).inbox = w.inbox := by
  rw [offerHandshake, beginHandshake, send_inbox]
  generalize w.inbox = inbox at empty ⊢
  obtain ⟨buffer, arrivals⟩ := inbox
  obtain rfl : buffer = [] := empty
  rfl

theorem Wire.unflushed_offerHandshake {invitation : Reply} {w : Wire}
    (loud : invitation.isStartTls = true) (sent : (w.send invitation).1 = .ok ()) :
    (w.offerHandshake invitation).unflushed = [] := by
  have heard : invitation.isSilent = false := by
    cases invitation <;> first | rfl | contradiction
  rw [send, heard, if_neg Bool.false_ne_true, write] at sent
  rw [offerHandshake, beginHandshake, send, heard, if_neg Bool.false_ne_true, write]
  cases found : w.room with
  | none => rfl
  | some room =>
    simp only [found] at sent ⊢
    split
    · rfl
    · rename_i short
      rw [if_neg short] at sent
      contradiction

theorem Wire.handshakes_send (reply : Reply) (w : Wire) :
    (w.send reply).2.sent.count .handshake = w.sent.count .handshake := by
  rw [send, write]
  split
  · rfl
  · cases w.room with
    | none => simp
    | some room =>
      dsimp only
      split <;> simp

theorem Inbox.merged_congr {i j : Inbox} (ready : i.ready = j.ready)
    (behind : Inbox.behind i.arrivals = Inbox.behind j.arrivals) : i.merged = j.merged := by
  rw [merged, merged, ready, behind]

namespace Server

variable {b : Base} {before : List Sent} {strict : Bool} {upgrade : TlsUpgrader} {peer : String}
  {s t t₁ t₂ : Session κ} {w v v₁ v₂ w₀ w₁ w₂ : Wire} {line : Line}

namespace Turn

def result? : Turn κ → Option (Except Fault Unit)
  | .ended served => some served.result
  | .goesOn _ _ => none

def account (b : Base) (before : List Sent) (now : Turn κ) : Account κ where
  result := now.result?
  session := now.session.since b
  sent := now.wire.sent.take (now.wire.sent.length - before.length)
  unflushed := now.wire.unflushed
  room := now.wire.room

/-- Whether an account has everything: what was there at the moment still is, behind what is told. -/
structure Complete (b : Base) (before : List Sent) (now : Turn κ) : Prop where
  calls : now.session.calls = (now.account b before).session.journal.map b.onto.onEvent ++ b.calls
  sent : now.wire.sent = (now.account b before).sent ++ before

/-- Whether two connections, each since its own moment, cannot be told apart. -/
structure Alike (b : Base) (before : List Sent) (x : Turn κ) (b' : Base) (before' : List Sent)
    (y : Turn κ) : Prop where
  same : x.account b before = y.account b' before'
  first : x.Complete b before
  second : y.Complete b' before'

theorem Mirrors.result?_eq {x y : Turn κ} (mirrors : Mirrors b before strict x y) :
    y.result? = x.result? := by
  cases mirrors <;> rfl

theorem Mirrors.echoes {x y : Turn κ} (mirrors : Mirrors b before strict x y) :
    Echoes b x.session y.session := by
  cases mirrors <;> assumption

theorem Mirrors.wires {x y : Turn κ} (mirrors : Mirrors b before strict x y) :
    x.wire.Echoes before y.wire := by
  cases mirrors <;> assumption

theorem Mirrors.account_eq {x y : Turn κ} (mirrors : Mirrors b before strict x y) :
    y.account b before =
      ⟨x.result?, { x.session with logPrefix := { protocol := "" }, journal := x.session.calls },
        x.wire.sent, x.wire.unflushed, x.wire.room⟩ := by
  rw [account, mirrors.result?_eq, mirrors.echoes.since_eq, mirrors.wires.sent,
    mirrors.wires.unflushed, mirrors.wires.room]
  simp

theorem Mirrors.complete {x y : Turn κ} (mirrors : Mirrors b before strict x y) :
    y.Complete b before where
  calls := by
    rw [mirrors.account_eq]
    exact mirrors.echoes.calls
  sent := by
    rw [mirrors.account_eq]
    exact mirrors.wires.sent

theorem Mirrors.told {x y : Served κ} (mirrors : Mirrors b before strict (.ended x) (.ended y)) :
    Mirrors b before strict (.ended { x with session := farewell x.result x.session })
      (.ended { y with session := farewell y.result y.session }) := by
  cases mirrors with
  | ended echoes wires => exact .ended (farewell_echoes echoes _) wires

theorem Mirrors.alike {b' : Base} {before' : List Sent} {strict' : Bool} {x y z : Turn κ}
    (first : Mirrors b before strict x y) (second : Mirrors b' before' strict' x z) :
    Alike b before y b' before' z :=
  ⟨first.account_eq.trans second.account_eq.symm, first.complete, second.complete⟩

end Turn

/-- Whether the next line of a connection is answered by an invitation to TLS. -/
structure Invites (server : Server κ) (s : Session κ) (w : Wire) (line : Line) (reply : Reply) :
    Prop where
  read : (w.inbox.next server.lineLimit).1 = .line line
  answered : (server.consume s line).1 = .ok reply
  invitation : reply.isStartTls = true

/-- Whether a connection comes, by a TLS handshake, to a session and a wire. -/
def Secures (server : Server κ) (upgrade : TlsUpgrader) (peer : String) (w₀ : Wire) (t : Session κ)
    (v : Wire) : Prop :=
  ∃ s w line reply, server.Comes (some upgrade) (server.newSession peer) w₀ s w ∧
    server.Invites s w line reply ∧ server.turn (some upgrade) server.lineLimit s w = .goesOn t v

section

variable {server : Server κ} {reply : Reply}

theorem Secures.of_turns (n : Nat) (line : Line)
    (invited : let now := server.onward (some upgrade) (server.opening (server.newSession peer) w₀) n
      now.isOver = false ∧ (now.wire.inbox.next server.lineLimit).1 = .line line ∧
        invitesTls (server.consume now.session line).1 = true)
    (on : (server.onward (some upgrade) (server.opening (server.newSession peer) w₀)
      (n + 1)).isOver = false) :
    let now := server.onward (some upgrade) (server.opening (server.newSession peer) w₀) (n + 1)
    server.Secures upgrade peer w₀ now.session now.wire := by
  obtain ⟨came, read, invitation⟩ := invited
  rw [onward] at on ⊢
  generalize now :
    server.onward (some upgrade) (server.opening (server.newSession peer) w₀) n = before
    at came read invitation on ⊢
  cases before with
  | ended served => contradiction
  | goesOn s w =>
    cases answered : (server.consume s line).1 with
    | error fault =>
      rw [Turn.session, answered] at invitation
      contradiction
    | ok reply =>
      rw [Turn.session, answered] at invitation
      exact ⟨s, w, line, reply, ⟨n, now⟩, ⟨read, answered, invitation⟩, Turn.eq_goesOn on⟩

theorem Invites.turn_eq (invites : server.Invites s w line reply) (upgrader : Option TlsUpgrader) :
    server.turn upgrader server.lineLimit s w =
      .ofServed (startTls upgrader reply (server.consume s line).2
        (w.behind server.lineLimit)) := by
  have consumed : server.consume s line = (.ok reply, (server.consume s line).2) := by
    rw [← invites.answered]
  rw [turn, invites.read]
  show server.serveLine upgrader line s _ = _
  rw [serveLine_of_ok consumed, respond, if_pos invites.invitation]
  rfl

private theorem startTls_of_pipelined (q : Session κ) (x : Wire) (pipelined : x.inbox.buffer ≠ []) :
    Turn.ofServed (startTls (some upgrade) reply q x) =
      .ended ⟨.error .pipelinedStartTls, q.logWarn "Client pipelined data after STARTTLS",
        (x.send .shuttingDown).2⟩ := by
  have more : (!x.inbox.buffer.isEmpty) = true := by simpa using pipelined
  rw [startTls]
  simp only [more, if_true]
  rfl

private theorem startTls_of_clear (q : Session κ) (x : Wire) (clear : x.inbox.buffer = [])
    (sent : (x.send reply).1 = .ok ()) :
    Turn.ofServed (startTls (some upgrade) reply q x) =
      match upgrade (x.offerHandshake reply) with
      | .ok description => .goesOn (q.tlsEstablished description) (x.offerHandshake reply)
      | .error fault => .ended ⟨.error fault, q, x.offerHandshake reply⟩ := by
  have written : x.send reply = (.ok (), (x.send reply).2) := by rw [← sent]
  rw [startTls, Wire.offerHandshake]
  simp only [clear, List.isEmpty_nil, Bool.not_true, Bool.false_eq_true, if_false]
  rw [written]
  dsimp only
  cases upgrade (x.send reply).2.beginHandshake <;> rfl

private theorem sent_of_startTls {q : Session κ} {x : Wire} (clear : x.inbox.buffer = [])
    (turned : Turn.ofServed (startTls (some upgrade) reply q x) = .goesOn t v) :
    (x.send reply).1 = .ok () := by
  rw [startTls] at turned
  simp only [clear, List.isEmpty_nil, Bool.not_true, Bool.false_eq_true, if_false] at turned
  generalize x.send reply = out at turned ⊢
  obtain ⟨fault | done, y⟩ := out
  · contradiction
  · rfl

/-- With anything buffered behind the line there is no handshake. -/
theorem Invites.turn_of_pipelined (upgrade : TlsUpgrader)
    (invites : server.Invites s w line reply)
    (pipelined : (w.behind server.lineLimit).inbox.buffer ≠ []) :
    server.turn (some upgrade) server.lineLimit s w =
      .ended ⟨.error .pipelinedStartTls,
        (server.consume s line).2.logWarn "Client pipelined data after STARTTLS",
        ((w.behind server.lineLimit).send .shuttingDown).2⟩ := by
  rw [invites.turn_eq]
  exact startTls_of_pipelined _ _ pipelined

/-- A handshake is made with the stream right behind the line, and then the upgrade decides. -/
theorem Invites.turn_of_sent (invites : server.Invites s w line reply)
    (clear : (w.behind server.lineLimit).inbox.buffer = [])
    (sent : ((w.behind server.lineLimit).send reply).1 = .ok ()) :
    server.turn (some upgrade) server.lineLimit s w =
      match upgrade ((w.behind server.lineLimit).offerHandshake reply) with
      | .ok description => .goesOn ((server.consume s line).2.tlsEstablished description)
          ((w.behind server.lineLimit).offerHandshake reply)
      | .error fault => .ended ⟨.error fault, (server.consume s line).2,
          (w.behind server.lineLimit).offerHandshake reply⟩ := by
  rw [invites.turn_eq]
  exact startTls_of_clear _ _ clear sent

theorem Invites.secured (invites : server.Invites s w line reply)
    (turned : server.turn (some upgrade) server.lineLimit s w = .goesOn t v) :
    v.inbox.buffer = [] ∧ v.unflushed = [] ∧
      ∃ description, t = (server.consume s line).2.tlsEstablished description := by
  by_cases clear : (w.behind server.lineLimit).inbox.buffer = []
  · have sent : ((w.behind server.lineLimit).send reply).1 = .ok () := by
      rw [invites.turn_eq] at turned
      exact sent_of_startTls clear turned
    rw [invites.turn_of_sent clear sent] at turned
    split at turned
    · rename_i description upgraded
      obtain ⟨rfl, rfl⟩ := Turn.goesOn.inj turned
      exact ⟨rfl, Wire.unflushed_offerHandshake invites.invitation sent, description, rfl⟩
    · contradiction
  · rw [invites.turn_of_pipelined upgrade clear] at turned
    contradiction

end

/-- A session that is connected with TLS in use and to which nothing else has happened. -/
def secured (peer description : String) : Session κ where
  peerName := peer
  logPrefix := { protocol := "" }
  state := .connected
  tls := some description
  consumers := ⟨[(Place.dispatch.name, .dispatch)]⟩

theorem secured_fits (peer description : String) :
    (secured peer description : Session κ).Fits (secured peer description : Session κ).state := by
  apply Session.Fits.idle
  · simp [secured]
  · rfl
  · rfl
  · rfl
  · rfl
  · simp [secured]

section

open Session

variable {config : Config} {newMail : Session κ → MailBehaviour} {custom : κ → Hook κ}
  {features : List Feature}

/-- A handshake leaves nothing of what was before but the numbers and the journal. -/
theorem Invited.secured_echoes (invited : (ofFeatures config newMail custom features).Invited peer s)
    (description : String) :
    Echoes (s.tlsEstablished description).base (secured peer description)
      (s.tlsEstablished description) := by
  obtain ⟨past, run, invites⟩ := invited
  obtain ⟨lives, current, tells⟩ :=
    Run.tells _ _ _ _ _ (run.step (.secured description) invites)
  have alone := run.fits.erase_responses_of_between (run.quiet invites)
  have closed := unlogged_tlsEstablished description s
  refine ⟨tells.named, (congrArg Session.state closed).trans rfl, ?_,
    (congrArg Session.properties closed).trans rfl, (congrArg Session.tls closed).trans rfl, ?_, rfl,
    rfl, rfl⟩
  · refine (congrArg Session.mail closed).trans ?_
    simp [abandonExchange_eq, secured]
  · refine (congrArg Session.consumers closed).trans ?_
    simp only [abandonExchange_eq, closeMail_consumers, unlogged_consumers]
    exact alone

/-- What a handshake comes to echoes a connection that begins with TLS in use. -/
theorem Secures.exists_echo
    (secures : (ofFeatures config newMail custom features).Secures upgrade peer w₀ t v) :
    ∃ description, Echoes t.base (secured peer description) t ∧
      (∀ inbox, Wire.Echoes v.sent { inbox := inbox, room := v.room } v) ∧ v.inbox.buffer = [] := by
  obtain ⟨s, w, line, reply, comes, invites, turned⟩ := secures
  obtain ⟨empty, flushed, description, rfl⟩ := invites.secured turned
  have invited := comes.reachable.invited (Inbox.isTerminated_of_next invites.read)
    (Prod.ext invites.answered rfl) invites.invitation
  exact ⟨description, invited.secured_echoes description, fun inbox => ⟨rfl, flushed, rfl⟩,
    empty⟩

theorem Secures.serve_eq
    (secures : (ofFeatures config newMail custom features).Secures upgrade peer w₀ t v) :
    (ofFeatures config newMail custom features).serve (some upgrade)
        ((ofFeatures config newMail custom features).newSession peer) w₀ =
      let served := (ofFeatures config newMail custom features).serveLines (some upgrade)
        (ofFeatures config newMail custom features).lineLimit t v
      { served with session := farewell served.result served.session } := by
  obtain ⟨s, w, line, reply, comes, invites, turned⟩ := secures
  rw [Server.serve_eq, (comes.next turned).serveDialog_eq]

theorem Secures.uninvited
    (secures : (ofFeatures config newMail custom features).Secures upgrade peer w₀ t v)
    (civil : ∀ s, (newMail s).Civil) :
    (ofFeatures config newMail custom features).Uninvited upgrade t v := by
  obtain ⟨description, echoes, -, -⟩ := secures.exists_echo
  have fresh : t.Civil := by
    refine ⟨?_, ?_, ?_⟩
    · rw [isTls, echoes.tls]
      rfl
    · rw [echoes.mail]
      rintro _ ⟨⟩
    · rw [echoes.read? Value.reply? (by decide)]
      rintro _ ⟨⟩
  obtain ⟨s, w, line, reply, comes, invites, turned⟩ := secures
  exact uninvited_of_civil civil fresh (comes.next turned)

theorem Uninvited.of_mirrors {c : Session κ} {u : Wire} (impartial : Impartial newMail)
    (policies : ∀ policy, Feature.policy? features = some policy → policy.Impartial)
    (uninvited : (ofFeatures config newMail custom features).Uninvited upgrade s w)
    (mirrors : ∀ n, Turn.Mirrors b before strict
      ((ofFeatures config newMail custom features).onward (some upgrade) (.goesOn c u) n)
      ((ofFeatures config newMail custom features).onward (some upgrade) (.goesOn s w) n)) :
    (ofFeatures config newMail custom features).Uninvited upgrade c u := by
  intro n d x line came read
  have mirror := mirrors n
  rw [came] at mirror
  generalize came' :
    (ofFeatures config newMail custom features).onward (some upgrade) (.goesOn s w) n = now at mirror
  cases mirror with
  | goesOn sound echoes wires inboxes =>
    have read' := (inboxes.next _).1.trans read
    rw [← (consume_agrees impartial policies sound echoes (Inbox.isTerminated_of_next read)).1]
    exact uninvited n _ _ line came' read'

/-- Whether the same arrives on two connections: by the same reads, or in any pieces unless there is
a further invitation, whose fate would hang on how much was read at once. Only a mail object could
give one. -/
inductive SameStream (server : Server κ) (upgrade : TlsUpgrader) (t₁ : Session κ) (v₁ v₂ : Wire) :
    Prop
  | reads (same : v₁.inbox.arrivals = v₂.inbox.arrivals) (impartial : upgrade.Impartial)
  | bytes (same : v₁.inbox.merged = v₂.inbox.merged) (uninvited : server.Uninvited upgrade t₁ v₁)

/-- Behind their handshakes, two connections echo one and the same. -/
theorem exists_mirrors (impartial : Impartial newMail)
    (policies : ∀ policy, Feature.policy? features = some policy → policy.Impartial)
    (first : (ofFeatures config newMail custom features).Secures upgrade peer w₁ t₁ v₁)
    (second : (ofFeatures config newMail custom features).Secures upgrade peer w₂ t₂ v₂)
    (described : t₁.tls = t₂.tls) (room : v₁.room = v₂.room)
    (stream : (ofFeatures config newMail custom features).SameStream upgrade t₁ v₁ v₂) :
    ∃ strict c u, ∀ n,
      Turn.Mirrors t₁.base v₁.sent strict
        ((ofFeatures config newMail custom features).onward (some upgrade) (.goesOn c u) n)
        ((ofFeatures config newMail custom features).onward (some upgrade) (.goesOn t₁ v₁) n) ∧
      Turn.Mirrors t₂.base v₂.sent strict
        ((ofFeatures config newMail custom features).onward (some upgrade) (.goesOn c u) n)
        ((ofFeatures config newMail custom features).onward (some upgrade) (.goesOn t₂ v₂) n) := by
  obtain ⟨description, echoes₁, wires₁, empty₁⟩ := first.exists_echo
  obtain ⟨other, echoes₂, wires₂, empty₂⟩ := second.exists_echo
  obtain rfl : description = other :=
    Option.some.inj (echoes₁.tls.symm.trans (described.trans echoes₂.tls))
  have sound : (secured peer description : Session κ).Fits _ := secured_fits peer description
  rw [← room] at wires₂
  cases stream with
  | reads arrivals upgrades =>
    have same : v₁.inbox = v₂.inbox := by
      rw [show v₁.inbox = ⟨v₁.inbox.buffer, v₁.inbox.arrivals⟩ from rfl, empty₁, arrivals, ← empty₂]
    refine ⟨true, secured peer description, { inbox := v₁.inbox, room := v₁.room },
      fun n => ⟨?_, ?_⟩⟩
    · exact onward_mirrors impartial policies (fun _ => upgrades) (by simp) sound echoes₁ (wires₁ _)
        ⟨rfl, fun _ => rfl⟩ n
    · exact onward_mirrors impartial policies (fun _ => upgrades) (by simp) sound echoes₂ (wires₂ _)
        ⟨congrArg _ same, fun _ => same⟩ n
  | bytes same uninvited =>
    have mirrors (n : Nat) : Turn.Mirrors t₁.base v₁.sent false
        ((ofFeatures config newMail custom features).onward (some upgrade)
          (.goesOn (secured peer description) { inbox := v₁.inbox, room := v₁.room }) n)
        ((ofFeatures config newMail custom features).onward (some upgrade) (.goesOn t₁ v₁) n) :=
      onward_mirrors impartial policies (by simp) (fun _ => .inr uninvited) sound echoes₁
        (wires₁ v₁.inbox) ⟨rfl, by simp⟩ n
    have civil := uninvited.of_mirrors impartial policies mirrors
    refine ⟨false, secured peer description, { inbox := v₁.inbox, room := v₁.room },
      fun n => ⟨mirrors n, ?_⟩⟩
    exact onward_mirrors impartial policies (by simp) (fun _ => .inl civil) sound echoes₂ (wires₂ _)
      ⟨same, by simp⟩ n

/-- What is so of an invitation to TLS: with anything buffered behind its line the connection ends
without a handshake, and else the upgrade is given the stream right behind the line. -/
structure Separates (server : Server κ) (upgrade : TlsUpgrader) (peer : String) (w₀ : Wire)
    (s : Session κ) (w : Wire) (line : Line) (reply : Reply) : Prop where
  pipelined : (w.behind server.lineLimit).inbox.buffer ≠ [] →
    let served := server.serve (some upgrade) (server.newSession peer) w₀
    served.result = .error .pipelinedStartTls ∧ served.session.tls = s.tls ∧
      served.wire.sent.count .handshake = w.sent.count .handshake
  clear : (w.behind server.lineLimit).inbox.buffer = [] →
    ((w.behind server.lineLimit).send reply).1 = .ok () →
      let asked := (w.behind server.lineLimit).offerHandshake reply
      asked.inbox.buffer = [] ∧ w.inbox.upcoming = line.bytes ++ asked.inbox.upcoming ∧
        server.turn (some upgrade) server.lineLimit s w =
          match upgrade asked with
          | .ok description =>
            .goesOn ((server.consume s line).2.tlsEstablished description) asked
          | .error fault => .ended ⟨.error fault, (server.consume s line).2, asked⟩

theorem tls_farewell (result : Except Fault Unit) (s : Session κ) :
    (farewell result s).tls = s.tls := by
  have lost (s : Session κ) : s.connectionLost.tls = s.tls := by
    rw [connectionLost, release, abandonExchange_eq, closeMail_eq, logInfoIf]
    split <;> rfl
  rcases result with fault | ⟨⟩
  · cases fault <;> first | rfl | exact lost _
  · exact lost _

theorem Invites.separates {line : Line} {reply : Reply}
    (comes : (ofFeatures config newMail custom features).Comes (some upgrade)
      ((ofFeatures config newMail custom features).newSession peer) w₀ s w)
    (invites : (ofFeatures config newMail custom features).Invites s w line reply) :
    (ofFeatures config newMail custom features).Separates upgrade peer w₀ s w line reply where
  pipelined more := by
    have last := serveLines_of_ended (invites.turn_of_pipelined upgrade more)
    dsimp only
    rw [serve_eq, comes.serveDialog_eq, last]
    refine ⟨rfl, ?_, Wire.handshakes_send _ _⟩
    obtain ⟨past, run⟩ := comes.reachable
    have kept : _ = s.tls := (run.effect (Inbox.isTerminated_of_next invites.read)).tls
    exact (tls_farewell _ _).trans kept
  clear empty sent := by
    have placed := Wire.offerHandshake_inbox reply _ empty
    refine ⟨rfl, ?_, invites.turn_of_sent empty sent⟩
    rw [placed]
    exact Inbox.upcoming_of_next (Prod.ext invites.read rfl)

/-- What was on a connection before its handshake shows in nothing that comes after it, turn by turn
and at the end, and no byte gets past a handshake. -/
theorem serve_after_handshake (impartial : Impartial newMail)
    (policies : ∀ policy, Feature.policy? features = some policy → policy.Impartial)
    (first : (ofFeatures config newMail custom features).Secures upgrade peer w₁ t₁ v₁)
    (second : (ofFeatures config newMail custom features).Secures upgrade peer w₂ t₂ v₂)
    (described : t₁.tls = t₂.tls) (room : v₁.room = v₂.room)
    (stream : (ofFeatures config newMail custom features).SameStream upgrade t₁ v₁ v₂) :
    let server := ofFeatures config newMail custom features
    (∀ n, Turn.Alike t₁.base v₁.sent (server.onward (some upgrade) (.goesOn t₁ v₁) n)
      t₂.base v₂.sent (server.onward (some upgrade) (.goesOn t₂ v₂) n)) ∧
    Turn.Alike t₁.base v₁.sent
      (.ended (server.serve (some upgrade) (server.newSession peer) w₁))
      t₂.base v₂.sent (.ended (server.serve (some upgrade) (server.newSession peer) w₂)) ∧
    ∀ w₀ s w line reply, server.Comes (some upgrade) (server.newSession peer) w₀ s w →
      server.Invites s w line reply → server.Separates upgrade peer w₀ s w line reply := by
  obtain ⟨strict, c, u, mirrors⟩ :=
    exists_mirrors impartial policies first second described room stream
  refine ⟨fun n => (mirrors n).1.alike (mirrors n).2, ?_, fun _ _ _ _ _ comes invites =>
    invites.separates comes⟩
  have ended₁ := (serveLines_mirrors fun n => (mirrors n).1).told
  have ended₂ := (serveLines_mirrors fun n => (mirrors n).2).told
  rw [first.serve_eq, second.serve_eq]
  exact ended₁.alike ended₂

end

theorem serve_after_handshake_of_mail :
    let server := accepting { offerStartTls := true } [.size, .startTls]
    let upgrade : TlsUpgrader := fun _ => .ok "TLS"
    let bytes (texts : List String) : Bytes := texts.flatMap fun text => (Line.ofText text).bytes
    let w₁ : Wire := { inbox := ⟨[], [.bytes (bytes ["EHLO a.example"]),
      .bytes (bytes ["MAIL FROM:<b@a.example>", "RSET", "STARTTLS"]),
      .bytes (bytes ["EHLO c.example", "MAIL FROM:<d@c.example>", "QUIT"])]⟩ }
    let w₂ : Wire := { inbox := ⟨[], [.bytes (bytes ["EHLO e.example", "STARTTLS"]),
      .bytes (bytes ["EHLO c.example"]), .bytes (bytes ["MAIL FROM:<d@c.example>", "QUIT"])]⟩ }
    let s := server.newSession "client.example"
    let now₁ := server.onward (some upgrade) (server.opening s w₁) 4
    let now₂ := server.onward (some upgrade) (server.opening s w₂) 2
    now₁.session.mailsOpened = 1 ∧ now₂.session.mailsOpened = 0 ∧
      Turn.Alike now₁.session.base now₁.wire.sent (.ended (server.serve (some upgrade) s w₁))
        now₂.session.base now₂.wire.sent (.ended (server.serve (some upgrade) s w₂)) := by
  intro server upgrade bytes w₁ w₂ s now₁ now₂
  have first : server.Secures upgrade "client.example" w₁ now₁.session now₁.wire :=
    .of_turns 3 (.ofText "STARTTLS") (by decide +kernel) (by decide +kernel)
  have second : server.Secures upgrade "client.example" w₂ now₂.session now₂.wire :=
    .of_turns 1 (.ofText "STARTTLS") (by decide +kernel) (by decide +kernel)
  have described : now₁.session.tls = now₂.session.tls := by decide +kernel
  have room : now₁.wire.room = now₂.wire.room := by decide +kernel
  have same : now₁.wire.inbox.merged = now₂.wire.inbox.merged :=
    Inbox.merged_congr (by decide +kernel) (by decide +kernel)
  have uninvited := first.uninvited (by
    rintro _ _ _ _ ⟨⟩
    rfl)
  refine ⟨by decide +kernel, by decide +kernel, ?_⟩
  exact (serve_after_handshake (fun _ _ _ _ _ => rfl) (by simp [Feature.policy?]) first second
    described room (.bytes same uninvited)).2.1

end Server

end SmtpDialog
