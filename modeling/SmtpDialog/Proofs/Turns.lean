/- digest: The turns of a connection and where they lead. -/
import SmtpDialog.Proofs.Reading
import SmtpDialog.Proofs.Serving

set_option autoImplicit false
set_option relaxedAutoImplicit false

namespace SmtpDialog

namespace Wire

/-- Whether some replies can all be written. -/
def Carries (w : Wire) (replies : List Reply) : Prop :=
  ∀ room ∈ w.room, (replies.flatMap Reply.wire).length ≤ room

def sendAll (replies : List Reply) (w : Wire) : Wire :=
  replies.foldl (fun w reply => (w.send reply).2) w

theorem send_with_inbox (w : Wire) (inbox : Inbox) (reply : Reply) :
    ({ w with inbox := inbox }.send reply) =
      ((w.send reply).1, { (w.send reply).2 with inbox := inbox }) := by
  cases silent : reply.isSilent with
  | true => simp [send, silent]
  | false =>
    simp only [send, silent, write, if_neg Bool.false_ne_true]
    cases w.room with
    | none => rfl
    | some room => dsimp only; split <;> rfl

theorem sendAll_with_inbox (w : Wire) (inbox : Inbox) (replies : List Reply) :
    ({ w with inbox := inbox }.sendAll replies) = { w.sendAll replies with inbox := inbox } := by
  induction replies generalizing w with
  | nil => rfl
  | cons reply rest ih =>
    have next := ih (w.send reply).2
    simp only [sendAll, List.foldl_cons, send_with_inbox] at next ⊢
    exact next

theorem send_of_carries {w : Wire} {reply : Reply} {rest : List Reply}
    (carries : w.Carries (reply :: rest)) :
    w.send reply = (.ok (), (w.send reply).2) ∧ (w.send reply).2.Carries rest := by
  cases silent : reply.isSilent with
  | true =>
    have nothing : reply.wire = [] := by cases reply <;> first | rfl | contradiction
    simpa [send, silent, Carries, nothing] using carries
  | false =>
    simp only [send, silent, write]
    cases limit : w.room with
    | none => simp [Carries]
    | some room =>
      have both : reply.wire.length + (rest.flatMap Reply.wire).length ≤ room := by
        simpa [List.length_flatMap] using carries room limit
      have fits : reply.wire.length ≤ room := by omega
      have left : (rest.flatMap Reply.wire).length ≤ room - reply.wire.length := by omega
      simpa [Carries, fits] using left

end Wire

namespace Server

variable {κ : Type} {server : Server κ} {upgrader : Option TlsUpgrader} {limit : Nat}
  {s t s₀ : Session κ} {w v w₀ : Wire} {served : Served κ}

/-- One turn: a line is read and served. -/
def turn (server : Server κ) (upgrader : Option TlsUpgrader) (limit : Nat) (s : Session κ)
    (w : Wire) : Turn κ :=
  server.serveNext upgrader limit (w.inbox.next limit).1 s
    { w with inbox := (w.inbox.next limit).2 }

theorem serveLines_of_ended (ended : server.turn upgrader limit s w = .ended served) :
    server.serveLines upgrader limit s w = served := by
  rw [turn] at ended
  rw [serveLines]
  split <;> simp_all

theorem serveLines_of_goesOn (next : server.turn upgrader limit s w = .goesOn t v) :
    server.serveLines upgrader limit s w = server.serveLines upgrader limit t v := by
  rw [turn] at next
  rw [serveLines]
  split <;> simp_all

theorem turn_line (server : Server κ) (upgrader : Option TlsUpgrader) (s : Session κ)
    {content rest : Bytes} (ready : w.inbox.ready = content ++ 10 :: rest)
    (unbroken : 10 ∉ content) (fits : content.length + 1 ≤ limit) :
    ∃ left : Inbox, left.merged = w.inbox.remaining rest ∧
      server.turn upgrader limit s w =
        server.serveLine upgrader ⟨content ++ [10]⟩ s { w with inbox := left } := by
  obtain ⟨line, left⟩ := Inbox.read_line ready unbroken fits
  refine ⟨_, left, ?_⟩
  rw [turn, line]
  rfl

theorem turn_tooLong (server : Server κ) (upgrader : Option TlsUpgrader)
    {content rest : Bytes} (ready : w.inbox.ready = content ++ 10 :: rest)
    (unbroken : 10 ∉ content) (positive : 0 < limit) (exceeds : limit ≤ content.length)
    (sent : (w.send (answerTooLong limit s).1).1 = .ok ()) :
    ∃ left : Inbox, left.merged = w.inbox.remaining rest ∧
      server.turn upgrader limit s w = .goesOn (answerTooLong limit s).2
        { (w.send (answerTooLong limit s).1).2 with inbox := left } := by
  obtain ⟨line, left⟩ := Inbox.read_tooLong ready unbroken positive exceeds
  refine ⟨_, left, ?_⟩
  rw [turn, line, serveNext]
  simp only [Wire.send_with_inbox, sent]

/-- What follows the reply to a line. -/
def respond (upgrader : Option TlsUpgrader) (reply : Reply) (s : Session κ) (w : Wire) : Turn κ :=
  if reply.isStartTls then .ofServed (startTls upgrader reply s w) else answer reply s w

theorem serveLine_of_ok {line : Line} {reply : Reply}
    (consumed : server.consume s line = (.ok reply, t)) :
    server.serveLine upgrader line s w = respond upgrader reply t w := by
  rw [serveLine, consumed]
  rfl

theorem respond_of_sent (upgrader : Option TlsUpgrader) {reply : Reply} (s : Session κ)
    (inbox : Inbox) (plain : reply.isStartTls = false) (sent : (w.send reply).1 = .ok ()) :
    respond upgrader reply s { w with inbox := inbox } =
      if reply.closes then .ended ⟨.ok (), s, { (w.send reply).2 with inbox := inbox }⟩
      else .goesOn s { (w.send reply).2 with inbox := inbox } := by
  rw [respond, plain, if_neg Bool.false_ne_true, answer, Wire.send_with_inbox, sent]

/-- The limit on the length of a line, terminator included. -/
def lineLimit (server : Server κ) : Nat := max server.config.maxLineLength minLineLength

theorem minLineLength_le_lineLimit (server : Server κ) : minLineLength ≤ server.lineLimit :=
  Nat.le_max_right _ _

theorem lineLimit_pos (server : Server κ) : 0 < server.lineLimit :=
  Nat.lt_of_lt_of_le (by decide) server.minLineLength_le_lineLimit

/-- The greeting, after which the connection may be over. -/
def opening (server : Server κ) (s : Session κ) (w : Wire) : Turn κ :=
  match server.connect s with
  | (.error fault, s) => .ended ⟨.error fault, s, w⟩
  | (.ok reply, s) => answer reply s w

def Turn.andThen (next : Session κ → Wire → Turn κ) : Turn κ → Turn κ
  | .ended served => .ended served
  | .goesOn s w => next s w

def Turn.session : Turn κ → Session κ
  | .ended served => served.session
  | .goesOn s _ => s

def Turn.wire : Turn κ → Wire
  | .ended served => served.wire
  | .goesOn _ w => w

def Turn.isOver : Turn κ → Bool
  | .ended _ => true
  | .goesOn _ _ => false

theorem session_answer (reply : Reply) (s : Session κ) (w : Wire) :
    (answer reply s w).session = s := by
  rw [answer]
  split
  · rfl
  · split <;> rfl

theorem session_opening (server : Server κ) (s : Session κ) (w : Wire) :
    (server.opening s w).session = (server.connect s).2 := by
  rw [opening]
  rcases server.connect s with ⟨fault | reply, t⟩
  · rfl
  · exact session_answer reply t w

theorem Turn.eq_goesOn {now : Turn κ} (still : now.isOver = false) :
    now = .goesOn now.session now.wire := by
  cases now with
  | ended served => contradiction
  | goesOn s w => rfl

/-- What some more turns make of a connection. -/
def onward (server : Server κ) (upgrader : Option TlsUpgrader) (now : Turn κ) : Nat → Turn κ
  | 0 => now
  | n + 1 => (onward server upgrader now n).andThen (server.turn upgrader server.lineLimit)

/-- The sessions and wires to which the turns of a connection lead before it is over. -/
def Comes (server : Server κ) (upgrader : Option TlsUpgrader) (s₀ : Session κ) (w₀ : Wire)
    (s : Session κ) (w : Wire) : Prop :=
  ∃ n, server.onward upgrader (server.opening s₀ w₀) n = .goesOn s w

theorem Comes.next (comes : server.Comes upgrader s₀ w₀ s w)
    (turned : server.turn upgrader server.lineLimit s w = .goesOn t v) :
    server.Comes upgrader s₀ w₀ t v := by
  obtain ⟨n, came⟩ := comes
  refine ⟨n + 1, ?_⟩
  rw [onward, came]
  exact turned

/-- What holds at some moment and passes each turn holds at every later one. -/
theorem onward_induct {motive : Session κ → Wire → Prop} {now : Turn κ}
    (start : ∀ s w, now = .goesOn s w → motive s w)
    (turned : ∀ s w t v, motive s w → server.turn upgrader server.lineLimit s w = .goesOn t v →
      motive t v)
    {n : Nat} (came : server.onward upgrader now n = .goesOn s w) : motive s w := by
  induction n generalizing s w with
  | zero => exact start s w came
  | succ n ih =>
    rw [onward] at came
    cases before : server.onward upgrader now n with
    | ended served =>
      rw [before] at came
      contradiction
    | goesOn t v =>
      rw [before] at came
      exact turned t v s w (ih before) came

/-- What holds of a connection that was greeted and passes each turn holds wherever it comes to. -/
theorem Comes.induct {motive : Session κ → Wire → Prop}
    (greeted : ∀ s w, server.opening s₀ w₀ = .goesOn s w → motive s w)
    (turned : ∀ s w t v, server.Comes upgrader s₀ w₀ s w → motive s w →
      server.turn upgrader server.lineLimit s w = .goesOn t v → motive t v)
    (comes : server.Comes upgrader s₀ w₀ s w) : motive s w := by
  obtain ⟨n, came⟩ := comes
  -- That the turns lead there goes along, for what is known of such sessions.
  refine (onward_induct (motive := fun s w => server.Comes upgrader s₀ w₀ s w ∧ motive s w)
    ?_ ?_ came).2
  · intro s w opened
    exact ⟨⟨0, opened⟩, greeted s w opened⟩
  · rintro s w t v ⟨comes, before⟩ next
    exact ⟨comes.next next, turned s w t v comes before next⟩

theorem serveDialog_of_ended (ended : server.opening s₀ w₀ = .ended served) :
    server.serveDialog upgrader s₀ w₀ = served := by
  rw [opening] at ended
  rw [serveDialog]
  rcases connected : server.connect s₀ with ⟨fault | reply, t⟩
  · rw [connected] at ended
    exact Turn.ended.inj ended
  · simp only [connected] at ended ⊢
    rw [ended]

theorem Comes.serveDialog_eq (comes : server.Comes upgrader s₀ w₀ s w) :
    server.serveDialog upgrader s₀ w₀ = server.serveLines upgrader server.lineLimit s w := by
  refine Comes.induct (motive := fun s w => server.serveDialog upgrader s₀ w₀ =
    server.serveLines upgrader server.lineLimit s w) ?_ ?_ comes
  · intro s w greeted
    rw [opening] at greeted
    rw [serveDialog]
    rcases connected : server.connect s₀ with ⟨fault | reply, t⟩
    · rw [connected] at greeted
      contradiction
    · simp only [connected] at greeted ⊢
      rw [greeted]
      rfl
  · intro s w t v _ before turned
    rw [before, serveLines_of_goesOn turned]

theorem Comes.reachable {peer : String}
    (comes : server.Comes upgrader (server.newSession peer) w₀ s w) : server.Reachable peer s := by
  refine Comes.induct (motive := fun s _ => server.Reachable peer s) ?_ ?_ comes
  · intro s w greeted
    have connected : server.Reachable peer (server.connect (server.newSession peer)).2 :=
      Reachable.take ⟨[], .start⟩ .connect rfl
    rw [opening] at greeted
    rcases found : server.connect (server.newSession peer) with ⟨fault | reply, t⟩
    · rw [found] at greeted
      contradiction
    · rw [found] at connected
      have reached := answer_reaches connected reply w₀
      simp only [found] at greeted
      rw [greeted] at reached
      exact reached
  · intro s w t v _ before turned
    have reached := turn_reaches before upgrader server.lineLimit w
    rw [turn] at turned
    rw [turned] at reached
    exact reached

theorem Comes.fits {config : Config} {newMail : Session κ → MailBehaviour} {custom : κ → Hook κ}
    {features : List Feature} {peer : String}
    (comes : (ofFeatures config newMail custom features).Comes upgrader
      ((ofFeatures config newMail custom features).newSession peer) w₀ s w) : s.Fits s.state := by
  obtain ⟨past, run⟩ := comes.reachable
  exact run.fits

/-- A session that is told how its connection ended. Nothing is told after a breach of contract. -/
def farewell (result : Except Fault Unit) (s : Session κ) : Session κ :=
  match result with
  | .ok () => (s.logInfo "Normal client disconnect").connectionLost
  | .error (.unterminated _) => s
  | .error fault => (s.logWarn ("Abnormal client disconnect: " ++ fault.message)).connectionLost

theorem serve_eq (server : Server κ) (upgrader : Option TlsUpgrader) (s : Session κ) (w : Wire) :
    server.serve upgrader s w =
      { server.serveDialog upgrader s w with
        session := farewell (server.serveDialog upgrader s w).result
          (server.serveDialog upgrader s w).session } := by
  unfold serve farewell
  generalize server.serveDialog upgrader s w = served
  obtain ⟨result, t, v⟩ := served
  rcases result with fault | ⟨⟩
  · cases fault <;> rfl
  · rfl

end Server

end SmtpDialog
