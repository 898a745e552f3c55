/- digest: Serving a connection is a run of its session. -/
import SmtpDialog.Proofs.Run

set_option autoImplicit false
set_option relaxedAutoImplicit false

namespace SmtpDialog

variable {κ : Type}

theorem Inbox.isTerminated_of_next {limit : Nat} {inbox : Inbox} {line : Line}
    (h : (inbox.next limit).1 = .line line) : line.isTerminated = true := by
  unfold next at h
  split at h
  · contradiction
  · rename_i got rest gathered
    split at h
    · rename_i ends
      obtain rfl : (⟨got⟩ : Line) = line := Next.line.inj h
      obtain ⟨front, rfl⟩ := List.getLast?_eq_some_iff.mp (eq_of_beq ends)
      simp only [Line.isTerminated, Line.terminatorLength, List.reverse_append,
        List.reverse_singleton, List.singleton_append]
      split <;> simp_all
    · split at h
      · contradiction
      · split at h <;> contradiction

namespace Server

/-- A session that some past leads to. -/
def Reachable (server : Server κ) (peer : String) (s : Session κ) : Prop :=
  ∃ past, Run server peer past s

/-- A session that some past leads to whose last answer is the invitation to TLS. -/
def Invited (server : Server κ) (peer : String) (s : Session κ) : Prop :=
  ∃ past, Run server peer past s ∧ ∃ p ∈ past.head?, invitesTls p.answer = true

section

variable {server : Server κ} {peer : String} {s : Session κ}

theorem Reachable.log (h : server.Reachable peer s) (level : Level) (text : String) :
    server.Reachable peer (s.log level text) := by
  obtain ⟨past, run⟩ := h
  exact ⟨past, run.logged level text⟩

theorem Reachable.take (h : server.Reachable peer s) (input : Input)
    (free : input.isFree = true) : server.Reachable peer (server.take s input).2 := by
  obtain ⟨past, run⟩ := h
  exact ⟨_, run.step input (Input.follows_of_isFree free past)⟩

theorem Invited.reachable (h : server.Invited peer s) : server.Reachable peer s := by
  obtain ⟨past, run, -⟩ := h
  exact ⟨past, run⟩

theorem Invited.tlsEstablished (h : server.Invited peer s) (description : String) :
    server.Reachable peer (s.tlsEstablished description) := by
  obtain ⟨past, run, invited⟩ := h
  exact ⟨_, run.step (.secured description) invited⟩

theorem Reachable.invited (h : server.Reachable peer s) {line : Line} {reply : Reply}
    {t : Session κ} (terminated : line.isTerminated = true)
    (consumed : server.consume s line = (.ok reply, t)) (invites : reply.isStartTls = true) :
    server.Invited peer t := by
  obtain ⟨past, run⟩ := h
  have next := run.step (.line line) terminated
  simp only [Server.take, consumed] at next
  exact ⟨_, next, _, rfl, invites⟩

/-- What a turn leaves is reachable, whether the connection goes on or not. -/
def Turn.Reaches (server : Server κ) (peer : String) : Turn κ → Prop
  | .goesOn s _ => server.Reachable peer s
  | .ended served => server.Reachable peer served.session

theorem answer_reaches (h : server.Reachable peer s) (reply : Reply) (w : Wire) :
    (answer reply s w).Reaches server peer := by
  unfold answer
  split
  · exact h
  · split <;> exact h

private theorem startTls_reaches (h : server.Invited peer s) (upgrader : Option TlsUpgrader)
    (reply : Reply) (w : Wire) :
    (Turn.ofServed (startTls upgrader reply s w)).Reaches server peer := by
  have served : server.Reachable peer (startTls upgrader reply s w).session := by
    unfold startTls
    split
    · exact h.reachable.log _ _
    · split
      · exact h.reachable.log _ _
      · split
        · exact h.reachable
        · dsimp only
          split
          · exact h.reachable
          · exact h.tlsEstablished _
  unfold Turn.ofServed
  split <;> exact served

private theorem serveLine_reaches (h : server.Reachable peer s) {line : Line}
    (terminated : line.isTerminated = true) (upgrader : Option TlsUpgrader) (w : Wire) :
    (server.serveLine upgrader line s w).Reaches server peer := by
  have consumed : server.Reachable peer (server.consume s line).2 :=
    h.take (.line line) terminated
  unfold serveLine
  split
  · rename_i found
    rw [found] at consumed
    exact consumed
  · rename_i found
    rw [found] at consumed
    exact consumed.log _ _
  · rename_i reply t found
    rw [found] at consumed
    split
    · rename_i invites
      exact startTls_reaches (h.invited terminated found invites) _ _ _
    · exact answer_reaches consumed _ _

private theorem serveNext_reaches (h : server.Reachable peer s) {next : Inbox.Next}
    (terminated : ∀ line, next = .line line → line.isTerminated = true)
    (upgrader : Option TlsUpgrader) (limit : Nat) (w : Wire) :
    (server.serveNext upgrader limit next s w).Reaches server peer := by
  cases next with
  | ended cause => exact h
  | tooLong =>
    have told : server.Reachable peer (answerTooLong limit s).2 :=
      h.take (.tooLong limit) rfl
    unfold serveNext
    dsimp only
    split <;> exact told
  | line line => exact serveLine_reaches h (terminated line rfl) upgrader w

theorem turn_reaches (h : server.Reachable peer s) (upgrader : Option TlsUpgrader)
    (limit : Nat) (w : Wire) :
    (server.serveNext upgrader limit (w.inbox.next limit).1 s
      { w with inbox := (w.inbox.next limit).2 }).Reaches server peer :=
  serveNext_reaches h (fun _ => Inbox.isTerminated_of_next) upgrader limit _

private theorem serveLines_reaches (h : server.Reachable peer s)
    (upgrader : Option TlsUpgrader) (limit : Nat) (w : Wire) :
    server.Reachable peer (server.serveLines upgrader limit s w).session := by
  fun_induction serveLines server upgrader limit s w with
  | case1 s w served turn =>
    have reached := turn_reaches h upgrader limit w
    rw [turn] at reached
    exact reached
  | case2 s w t v turn ih =>
    have reached := turn_reaches h upgrader limit w
    rw [turn] at reached
    exact ih reached

/-- The session of a connection is reachable up to the moment when the connection is over. -/
theorem serveDialog_reachable (server : Server κ) (peer : String) (upgrader : Option TlsUpgrader)
    (w : Wire) :
    server.Reachable peer (server.serveDialog upgrader (server.newSession peer) w).session := by
  have greeted : server.Reachable peer (server.connect (server.newSession peer)).2 :=
    Reachable.take ⟨[], .start⟩ .connect rfl
  unfold serveDialog
  split
  · rename_i found
    rw [found] at greeted
    exact greeted
  · rename_i reply t found
    rw [found] at greeted
    have reached := answer_reaches greeted reply w
    split
    · rename_i turn
      rw [turn] at reached
      exact reached
    · rename_i turn
      rw [turn] at reached
      exact serveLines_reaches reached _ _ _

/-- When a connection is over, its session has been told, unless a breach of contract ended it. -/
theorem serve_session (server : Server κ) (peer : String) (upgrader : Option TlsUpgrader)
    (w : Wire) :
    let served := server.serve upgrader (server.newSession peer) w
    ∃ s, server.Reachable peer s ∧
      (served.session = s.connectionLost ∨
        served.session = s ∧ ∃ line, served.result = .error (.unterminated line)) := by
  have reached := serveDialog_reachable server peer upgrader w
  unfold serve
  dsimp only
  split
  · exact ⟨_, reached.log _ _, .inl rfl⟩
  · rename_i line broken
    exact ⟨_, reached, .inr ⟨rfl, line, broken⟩⟩
  · exact ⟨_, reached.log _ _, .inl rfl⟩

end

end Server

end SmtpDialog
