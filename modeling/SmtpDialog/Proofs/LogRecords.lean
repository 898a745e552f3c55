/- digest: Every log record stands behind the log prefix and holds no control character. -/
import SmtpDialog.Proofs.Lockstep
import SmtpDialog.Proofs.Notes

set_option autoImplicit false
set_option relaxedAutoImplicit false

namespace SmtpDialog

open Session

variable {κ : Type} {peer : String} {s t : Session κ}

def Event.record? : Event → Option (Level × String)
  | log level text => some (level, text)
  | _ => none

namespace Server

variable {config : Config} {newMail : Session κ → MailBehaviour} {custom : κ → Hook κ}
  {features : List Feature}

theorem logPrefix_of_invites {line : Line} {answer : Except Fault Reply}
    (effect : Effect config features line s answer t) (invites : invitesTls answer = true) :
    t.logPrefix = s.logPrefix := by
  cases effect with
  | greeted verb valid named code plain => simp [invitesTls, plain] at invites
  | authenticated => simp [invitesTls, Reply.isStartTls, Reply.of] at invites
  | received valid receipt => cases receipt <;> rfl
  | reset | quit => simp [closeMail_eq]
  | challenged taken | exchangeFailed taken | denied taken => cases taken <;> rfl
  | _ => rfl

theorem isClean_of_send {w : Wire} {reply : Reply} {fault : Fault}
    (failed : (w.send reply).1 = .error fault) : Text.IsClean fault.message := by
  unfold Wire.send Wire.write at failed
  split at failed
  · contradiction
  · split at failed
    · contradiction
    · split at failed
      · contradiction
      · obtain rfl := Except.error.inj failed
        exact .literal rfl

/-- A turn leaves clean records, and a clean text of the fault that may have ended it. -/
structure Turn.Notes (peer : String) (s : Session κ) (turn : Turn κ) : Prop where
  session : s.Notes peer turn.session
  fault : ∀ served, turn = .ended served → ∀ fault, served.result = .error fault →
    Text.IsClean fault.message

namespace Turn.Notes

theorem goesOn (h : s.Notes peer t) (w : Wire) : (Turn.goesOn t w).Notes peer s :=
  ⟨h, fun _ ended => by contradiction⟩

theorem done (h : s.Notes peer t) (w : Wire) : (Turn.ended ⟨.ok (), t, w⟩).Notes peer s := by
  refine ⟨h, ?_⟩
  rintro _ ⟨⟩ _ failed
  contradiction

theorem failed (h : s.Notes peer t) {fault : Fault} (clean : Text.IsClean fault.message) (w : Wire) :
    (Turn.ended ⟨.error fault, t, w⟩).Notes peer s := by
  refine ⟨h, ?_⟩
  rintro _ ⟨⟩ _ ⟨⟩
  exact clean

end Turn.Notes

theorem answer_notes (h : s.Notes peer t) (reply : Reply) (w : Wire) :
    (answer reply t w).Notes peer s := by
  rw [answer]
  split
  · rename_i broken
    exact .failed h (isClean_of_send (congrArg Prod.fst broken)) _
  · split
    · exact .done h _
    · exact .goesOn h _

theorem tlsEstablished_notes (h : s.Steady peer t) {description : String}
    (clean : Text.IsClean description) : s.Notes peer (t.tlsEstablished description) := by
  have established : Text.IsClean ("TLS established: " ++ description) :=
    (Text.IsClean.literal rfl).append clean
  have closed : s.Steady peer
      (t.logInfo ("TLS established: " ++ description)).closeMail.abandonExchange :=
    (h.log established .info).closeMail.abandonExchange
  have connected : Text.IsClean State.connected.name := .literal rfl
  simp only [Session.tlsEstablished]
  generalize Session.abandonExchange _ = u at closed ⊢
  have renamed := closed.rename closed.legible.logPrefix.clearUser
  have forgotten : Steady peer { u with logPrefix := u.logPrefix.clearUser } { u with
      properties := .empty
      logPrefix := u.logPrefix.clearUser
      tls := some description } :=
    renamed.keep rfl rfl { renamed.legible with
      fault := by
        rintro _ ⟨⟩
      exchange := by
        rintro _ ⟨⟩ }
  exact .renamed closed _ (forgotten.moveTo connected)

private theorem startTls_turn (h : s.Steady peer t) {upgrader : Option TlsUpgrader}
    (legible : ∀ upgrade ∈ upgrader, TlsUpgrader.Legible upgrade) (reply : Reply) (w : Wire) :
    (Turn.ofServed (startTls upgrader reply t w)).Notes peer s := by
  cases upgrader with
  | none =>
    have logged : s.Steady peer (t.logError "[BUG] STARTTLS accepted without a TLS upgrader") :=
      h.log (.literal rfl) .error
    simp only [startTls]
    rcases sent : w.send .localError with ⟨fault | ⟨⟩, v⟩
    · exact .failed (.steady logged) (isClean_of_send (congrArg Prod.fst sent)) v
    · exact .goesOn (.steady logged) v
  | some upgrade =>
    rw [startTls]
    split
    · have pipelined : Text.IsClean Fault.pipelinedStartTls.message := .literal rfl
      exact .failed (.steady (h.log (.literal rfl) .warn)) pipelined _
    · split
      · rename_i broken
        exact .failed (.steady h) (isClean_of_send (congrArg Prod.fst broken)) _
      · rename_i v _
        have said := legible upgrade rfl v.beginHandshake
        dsimp only
        split
        · rename_i refused
          rw [refused] at said
          exact .failed (.steady h) said _
        · rename_i made
          rw [made] at said
          exact .goesOn (tlsEstablished_notes h said) _

theorem serveLine_notes (collaborators : Feature.Legible newMail features) (fits : s.Fits s.state)
    (legible : s.Legible peer) {upgrader : Option TlsUpgrader}
    (handshakes : ∀ upgrade ∈ upgrader, TlsUpgrader.Legible upgrade) {line : Line}
    (terminated : line.isTerminated = true) (w : Wire) :
    ((ofFeatures config newMail custom features).serveLine upgrader line s w).Notes peer s := by
  obtain ⟨clean, notes⟩ : (∀ fault, ((ofFeatures config newMail custom features).consume s line).1 =
      .error fault → Text.IsClean fault.message) ∧ s.Notes peer _ :=
    consume_notes collaborators fits legible line
  have effect : Effect config features line s
      ((ofFeatures config newMail custom features).consume s line).1 _ :=
    consume_effect fits terminated
  unfold serveLine
  generalize (ofFeatures config newMail custom features).consume s line = done at clean notes effect ⊢
  obtain ⟨fault | reply, t⟩ := done
  · have told := clean fault rfl
    have aborts : Text.IsClean ("Aborting connection after error: " ++ fault.message) :=
      (Text.IsClean.literal rfl).append told
    have logged := notes.andThen fun legible => (Steady.refl legible).log aborts .error
    cases fault with
    | unterminated line => exact .failed notes told w
    | _ => exact .failed logged told _
  · dsimp only
    split
    · rename_i invites
      have same : t.unlogged.logPrefix = s.logPrefix := logPrefix_of_invites effect invites
      exact startTls_turn (notes.steady_of_same same) handshakes reply w
    · exact answer_notes notes reply w

/-- What one line makes a session log. -/
theorem serveNext_notes (collaborators : Feature.Legible newMail features) (fits : s.Fits s.state)
    (legible : s.Legible peer) {upgrader : Option TlsUpgrader}
    (handshakes : ∀ upgrade ∈ upgrader, TlsUpgrader.Legible upgrade) {next : Inbox.Next}
    (terminated : ∀ line, next = .line line → line.isTerminated = true) (limit : Nat) (w : Wire) :
    ((ofFeatures config newMail custom features).serveNext upgrader limit next s w).Notes peer s := by
  cases next with
  | line line =>
    exact serveLine_notes collaborators fits legible handshakes (terminated line rfl) w
  | ended cause =>
    have clean : Text.IsClean (Fault.io cause).message := cause.isClean_message
    exact .failed (.steady (.refl legible)) clean w
  | tooLong =>
    have exceeds : Text.IsClean (Fault.lineTooLong limit).message :=
      ((Text.IsClean.literal rfl).append (.toString limit)).append (.literal rfl)
    have logged := (Steady.refl legible).log exceeds .warn
    have told : s.Steady peer (answerTooLong limit s).2 := by
      rw [answerTooLong]
      split
      · exact logged.failTransfer (.literal rfl)
      · exact logged
    simp only [serveNext]
    split
    · rename_i broken
      exact .failed (.steady told) (isClean_of_send (congrArg Prod.fst broken)) _
    · exact .goesOn (.steady told) _

theorem turn_notes (collaborators : Feature.Legible newMail features) (fits : s.Fits s.state)
    (legible : s.Legible peer) {upgrader : Option TlsUpgrader}
    (handshakes : ∀ upgrade ∈ upgrader, TlsUpgrader.Legible upgrade) (limit : Nat) (w : Wire) :
    ((ofFeatures config newMail custom features).turn upgrader limit s w).Notes peer s :=
  serveNext_notes collaborators fits legible handshakes (fun _ => Inbox.isTerminated_of_next) limit _

theorem newSession_legible (server : Server κ) (peer : String) :
    (server.newSession peer).Legible peer :=
  ⟨.new peer, .literal rfl, nofun, nofun, nofun⟩

theorem opening_notes (config : Config) (newMail : Session κ → MailBehaviour)
    (custom : κ → Hook κ) (features : List Feature) (peer : String) (w : Wire) :
    let server := ofFeatures config newMail custom features
    (server.opening (server.newSession peer) w).Notes peer (server.newSession peer) := by
  intro server
  have still : (server.newSession peer).Steady peer (server.newSession peer) :=
    .refl (newSession_legible server peer)
  have greeted : (server.newSession peer).Steady peer
      (((server.newSession peer).logInfo "Connection accepted").logInfo "Sending greeting") :=
    (still.log (.literal rfl) .info).log (.literal rfl) .info
  have connected : Text.IsClean State.connected.name := .literal rfl
  rw [opening, connect_newSession]
  exact answer_notes (.steady (greeted.moveTo connected)) _ w

theorem farewell_steady {result : Except Fault Unit} (legible : s.Legible peer)
    (clean : ∀ fault, result = .error fault → Text.IsClean fault.message) :
    s.Steady peer (farewell result s) := by
  have still : s.Steady peer s := .refl legible
  unfold farewell
  split
  · exact (still.log (.literal rfl) .info).connectionLost
  · exact still
  · rename_i fault _
    have abnormal : Text.IsClean ("Abnormal client disconnect: " ++ fault.message) :=
      (Text.IsClean.literal rfl).append (clean fault rfl)
    exact (still.log abnormal .warn).connectionLost

/-- The greeting, the turns and the end of a connection, with the sessions before and after them. -/
inductive Act (server : Server κ) (upgrader : Option TlsUpgrader) (s₀ : Session κ) (w₀ : Wire) :
    Session κ → Session κ → Prop
  | opening : Act server upgrader s₀ w₀ s₀ (server.opening s₀ w₀).session
  | turn {s : Session κ} {w : Wire} (comes : server.Comes upgrader s₀ w₀ s w) :
      Act server upgrader s₀ w₀ s (server.turn upgrader server.lineLimit s w).session
  | ending :
      Act server upgrader s₀ w₀ (server.serveDialog upgrader s₀ w₀).session
        (server.serve upgrader s₀ w₀).session

/-- A record of a connection that is clean and stands behind the log prefix of the session, as it was
before the act in which it was logged or as it was after it. -/
structure Logged (server : Server κ) (upgrader : Option TlsUpgrader) (peer : String) (w₀ : Wire)
    (level : Level) (text : String) (earlier : List Event) : Prop where
  clean : Text.IsClean text
  behind : ∃ s t, server.Act upgrader (server.newSession peer) w₀ s t ∧ s.journal <:+ earlier ∧
    .log level text :: earlier <:+ t.journal ∧
    ∃ p, (p = s.logPrefix ∨ p = t.logPrefix) ∧ (∃ rest, text = p.text ++ " " ++ rest) ∧
      p.Sound peer ∧ ∀ part ∈ p.peer.toList ++ p.user.toList ++ p.helo.toList,
        Text.IsClean part ∧ part.length ≤ 64

private def Accounted (server : Server κ) (upgrader : Option TlsUpgrader) (peer : String) (w₀ : Wire)
    (s : Session κ) : Prop := ∀ later level text earlier,
  s.journal = later ++ .log level text :: earlier →
    server.Logged upgrader peer w₀ level text earlier

variable {server : Server κ} {upgrader : Option TlsUpgrader} {w₀ : Wire}

private theorem Accounted.act (accounted : Accounted server upgrader peer w₀ s)
    (legible : s.Legible peer) (notes : s.Notes peer t)
    (act : server.Act upgrader (server.newSession peer) w₀ s t) :
    Accounted server upgrader peer w₀ t := by
  obtain ⟨more, journal, heads⟩ := notes.behind
  intro later level text earlier split
  rw [journal] at split
  rcases List.append_eq_append_iff.mp split with ⟨between, -, before⟩ | ⟨between, within, after⟩
  · exact accounted between level text earlier before
  · cases between with
    | nil => exact accounted [] level text earlier after.symm
    | cons event between =>
      obtain ⟨rfl, rfl⟩ := List.cons.inj after
      obtain ⟨clean, p, known, behind⟩ := heads level text (by simp [within])
      have sound : p.Sound peer := by
        rcases known with rfl | rfl
        · exact legible.logPrefix
        · exact notes.legible.logPrefix
      refine ⟨clean, s, t, act, ⟨between, rfl⟩, ⟨later, ?_⟩, p, known, behind, sound, sound.parts⟩
      rw [journal, within, List.append_assoc]
      rfl

private structure Kept (server : Server κ) (upgrader : Option TlsUpgrader) (peer : String) (w₀ : Wire)
    (now : Turn κ) : Prop where
  legible : now.session.Legible peer
  accounted : Accounted server upgrader peer w₀ now.session
  fault : ∀ served, now = .ended served → ∀ fault, served.result = .error fault →
    Text.IsClean fault.message

private theorem Kept.of_notes {now : Turn κ} (notes : now.Notes peer s) (legible : s.Legible peer)
    (accounted : Accounted server upgrader peer w₀ s)
    (act : server.Act upgrader (server.newSession peer) w₀ s now.session) :
    Kept server upgrader peer w₀ now :=
  ⟨notes.session.legible, accounted.act legible notes.session act, notes.fault⟩

private theorem onward_kept (collaborators : Feature.Legible newMail features)
    (handshakes : ∀ upgrade ∈ upgrader, TlsUpgrader.Legible upgrade) (n : Nat) :
    let server := ofFeatures config newMail custom features
    Kept server upgrader peer w₀
      (server.onward upgrader (server.opening (server.newSession peer) w₀) n) := by
  intro server
  induction n with
  | zero =>
    have nothing : Accounted server upgrader peer w₀ (server.newSession peer) := by
      intro later level text earlier split
      exact absurd split.symm (by simp [newSession])
    exact .of_notes (opening_notes config newMail custom features peer w₀)
      (newSession_legible server peer) nothing .opening
  | succ n ih =>
    rw [onward]
    cases came : server.onward upgrader (server.opening (server.newSession peer) w₀) n with
    | ended served =>
      rw [came] at ih
      exact ih
    | goesOn s w =>
      rw [came] at ih
      have comes : server.Comes upgrader (server.newSession peer) w₀ s w := ⟨n, came⟩
      exact .of_notes (turn_notes collaborators comes.fits ih.legible handshakes _ w)
        ih.legible ih.accounted (.turn comes)

/-- No record of a connection holds a control character, and each one stands behind the log prefix, of
which the foreign parts are clean and short: if the collaborators put no control characters into what
they say, then whatever the client sends and whoever it is. -/
theorem log_records_of_serve (config : Config) {newMail : Session κ → MailBehaviour}
    (custom : κ → Hook κ) {features : List Feature}
    (collaborators : Feature.Legible newMail features) {upgrader : Option TlsUpgrader}
    (handshakes : ∀ upgrade ∈ upgrader, upgrade.Legible) (peer : String) (w : Wire)
    {later earlier : List Event} {level : Level} {text : String} :
    let server := ofFeatures config newMail custom features
    (server.serve upgrader (server.newSession peer) w).session.journal =
        later ++ .log level text :: earlier →
      server.Logged upgrader peer w level text earlier := by
  intro server logged
  obtain ⟨n, finished⟩ := exists_onward_serveDialog server upgrader (server.newSession peer) w
  have kept : Kept server upgrader peer w _ := onward_kept collaborators handshakes n
  rw [finished] at kept
  have told : (server.serveDialog upgrader (server.newSession peer) w).session.Steady peer
      (server.serve upgrader (server.newSession peer) w).session := by
    rw [serve_eq]
    exact farewell_steady kept.legible (kept.fault _ rfl)
  exact kept.accounted.act kept.legible (.steady told) .ending later level text earlier logged

/-- The client and the check of its credentials both send control characters. -/
theorem log_records_of_serve_of_control_characters :
    let check : CredentialCheck := fun _ authcid _ => .ok (.authorized (authcid ++ "\nERROR root"))
    let policy : AuthPolicy := ⟨⟨[.plain check]⟩, false⟩
    let server := ofFeatures {} (fun _ _ _ => .ok .ok) Empty.elim [.auth policy]
    let peer := "203.0.113.9\x1b[2J"
    let input := ["EHLO a\x07.example", "AUTH PLAIN AGRpYgBodW50ZXIy", "X\x00", "QUIT"].flatMap
      fun text => (Line.ofText text).bytes
    let w : Wire := { inbox := { arrivals := [.bytes input] } }
    let text := "smtp:203.0.113.9[2J[dibERROR root helo=a.example] Unrecognised command \"X\\0\""
    ∃ later earlier, (server.serve none (server.newSession peer) w).session.journal =
      later ++ .log .warn text :: earlier ∧ server.Logged none peer w .warn text earlier := by
  intro check policy server peer input w text
  have listed : (Level.warn, text) ∈
      (server.serve none (server.newSession peer) w).session.journal.filterMap Event.record? := by
    decide +kernel
  obtain ⟨event, member, found⟩ := List.mem_filterMap.mp listed
  obtain rfl : event = .log .warn text := by
    cases event <;> simp_all [Event.record?]
  obtain ⟨later, earlier, split⟩ := List.append_of_mem member
  have accepts : CredentialCheck.Legible check := nofun
  have collaborators :
      Feature.Legible (fun _ : Session Empty => fun _ _ => .ok .ok) [.auth policy] := by
    refine ⟨fun _ _ _ => Text.IsClean.literal rfl, fun other offered factory known => ?_⟩
    obtain rfl : other = policy := by simpa using offered
    obtain rfl := List.mem_singleton.mp known
    exact .plain accepts
  exact ⟨later, earlier, split,
    log_records_of_serve {} Empty.elim collaborators (by simp) peer w split⟩

end Server

end SmtpDialog
