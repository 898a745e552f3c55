/- digest: One reply for every line that is no content, and how client and server keep in step by it. -/
import SmtpDialog.Proofs.Dialog
import SmtpDialog.Proofs.Handshake
import SmtpDialog.Proofs.Output

/-!
A `Reception` is a line as it was taken from the input, with the reply that it is due. After each turn of
a connection what was written is the greeting and the replies to the lines taken so far, one for each
line that is no content of a message; those of a message are due none. The session decides about this
when it consumes a line and the transport when a line is too long, and both mean the same by content.
-/

set_option autoImplicit false
set_option relaxedAutoImplicit false

namespace SmtpDialog

variable {κ : Type}

theorem cutLines_append {content : Bytes} (unbroken : 10 ∉ content) (rest : Bytes) :
    cutLines (content ++ 10 :: rest) = (content ++ [10]) :: cutLines rest := by
  induction content with
  | nil => rfl
  | cons b content ih =>
    obtain ⟨hb, hcontent⟩ : 10 ≠ b ∧ 10 ∉ content := by simpa using unbroken
    rw [List.cons_append, cutLines, if_neg hb.symm, ih hcontent]
    rfl

namespace Inbox

def taken (limit : Nat) (bytes : Bytes) : Next :=
  if bytes.length ≤ limit then .line ⟨bytes⟩ else .tooLong

/-- What is read next is the next line of the input. -/
theorem taken_next {limit : Nat} {inbox : Inbox} (on : ∀ cause, (inbox.next limit).1 ≠ .ended cause) :
    (cutLines inbox.upcoming).map (taken limit) =
      (inbox.next limit).1 :: (cutLines (inbox.next limit).2.upcoming).map (taken limit) := by
  rcases read : inbox.next limit with ⟨line | ⟨⟩ | cause, left⟩
  · obtain ⟨content, unbroken, whole⟩ := exists_content_of_next read
    have fits : taken limit (content ++ [10]) = .line line := by
      rw [← whole]
      exact if_pos (length_of_next read)
    rw [upcoming_of_next read, whole, List.append_assoc, List.singleton_append,
      cutLines_append unbroken, List.map_cons, fits]
  · obtain ⟨content, unbroken, long, whole⟩ := upcoming_of_tooLong read
    have exceeds : taken limit (content ++ [10]) = .tooLong := by
      rw [taken, if_neg]
      rw [List.length_append, List.length_singleton]
      omega
    rw [whole, cutLines_append unbroken, List.map_cons, exceeds]
  · exact absurd (congrArg Prod.fst read) (on cause)

end Inbox

namespace Wire

/-- What was written and flushed at a time, the earliest first. -/
def replies (w : Wire) : List Bytes :=
  w.sent.reverse.filterMap fun
    | .flushed bs => some bs
    | .handshake => none

theorem replies_send {w : Wire} {reply : Reply} (sent : (w.send reply).1 = .ok ())
    (clear : w.unflushed = []) :
    (w.send reply).2.replies = w.replies ++ if reply.isSilent then [] else [reply.wire] := by
  cases silent : reply.isSilent with
  | true => simp [send, silent]
  | false =>
    have written : (w.send reply).2.sent = .flushed reply.wire :: w.sent := by
      rw [send, silent, if_neg Bool.false_ne_true, write] at sent ⊢
      cases limit : w.room with
      | none => simp [clear]
      | some room =>
        simp only [limit] at sent ⊢
        split
        · simp [clear]
        · rename_i short
          rw [if_neg short] at sent
          cases sent
    simp [replies, written]

theorem replies_beginHandshake (w : Wire) : w.beginHandshake.replies = w.replies := by
  simp [replies, beginHandshake]

end Wire

/-- A line that was taken from the input, the session that met it, and the reply that it is due. -/
structure Reception (κ : Type) where
  line : Inbox.Next
  session : Session κ
  reply : Reply

/-- Whether a line is content: while a message is received, each line but the lone dot is. -/
def Reception.isContent (r : Reception κ) : Bool :=
  r.session.state == .readingData && match r.line with
    | .line line => !line.endsContent
    | _ => true

namespace Server

def invitation (upgrader : Option TlsUpgrader) (reply : Reply) (w : Wire) : Reply :=
  match upgrader with
  | none => .localError
  | some _ => if w.inbox.buffer.isEmpty then reply else .shuttingDown

/-- The reply by which an answer of a session is passed on: that of the session, or in place of a fault
that the server shuts down. A breach of contract leaves nobody to reply. -/
def relayed (upgrader : Option TlsUpgrader) (answer : Except Fault Reply) (w : Wire) : Option Reply :=
  match answer with
  | .ok reply => some (if reply.isStartTls then invitation upgrader reply w else reply)
  | .error (.unterminated _) => none
  | .error _ => some .shuttingDown

/-- The reply that is due for what is read next. None is due for the end of the input. -/
def due (server : Server κ) (upgrader : Option TlsUpgrader) (s : Session κ) (w : Wire) : Option Reply :=
  match (w.inbox.next server.lineLimit).1 with
  | .ended _ => none
  | .tooLong => some (answerTooLong server.lineLimit s).1
  | .line line => relayed upgrader (server.consume s line).1 (w.behind server.lineLimit)

/-- What one turn takes from the input: a line, if a reply is due for what is read. -/
def received (server : Server κ) (upgrader : Option TlsUpgrader) (s : Session κ) (w : Wire) :
    List (Reception κ) :=
  (server.due upgrader s w).toList.map fun reply => ⟨(w.inbox.next server.lineLimit).1, s, reply⟩

/-- The lines that were taken within some turns, in order. -/
def receptions (server : Server κ) (upgrader : Option TlsUpgrader) (s₀ : Session κ) (w₀ : Wire) :
    Nat → List (Reception κ)
  | 0 => []
  | n + 1 => receptions server upgrader s₀ w₀ n ++
      match server.onward upgrader (server.opening s₀ w₀) n with
      | .ended _ => []
      | .goesOn s w => server.received upgrader s w

/-- Whether no write fails on a connection: the greeting can be sent, and each reply that is due. -/
structure Delivers (server : Server κ) (upgrader : Option TlsUpgrader) (s₀ : Session κ) (w₀ : Wire) :
    Prop where
  greeting : ∀ reply, (server.connect s₀).1 = .ok reply → (w₀.send reply).1 = .ok ()
  due : ∀ s w reply, server.Comes upgrader s₀ w₀ s w → server.due upgrader s w = some reply →
    ((w.behind server.lineLimit).send reply).1 = .ok ()

variable {server : Server κ} {upgrader : Option TlsUpgrader} {s t s₀ : Session κ} {w v w₀ : Wire}

theorem delivers_of_unlimited (unlimited : w₀.room = none) (clear : w₀.unflushed = []) :
    server.Delivers upgrader s₀ w₀ := by
  have carries (w : Wire) (unlimited : w.room = none) (reply : Reply) : (w.send reply).1 = .ok () := by
    rw [Wire.send]
    split
    · rfl
    · rw [Wire.write, unlimited]
  exact ⟨fun reply _ => carries w₀ unlimited reply, fun s w reply comes _ =>
    carries (w.behind server.lineLimit) (comes.unlimited unlimited clear).1 reply⟩

private theorem wire_ofServed (served : Served κ) : (Turn.ofServed served).wire = served.wire := by
  rw [Turn.ofServed]
  split <;> rfl

private theorem wire_answer (reply : Reply) (s : Session κ) (w : Wire) :
    (answer reply s w).wire = (w.send reply).2 := by
  rw [answer]
  split
  · rename_i same
    rw [same]
    rfl
  · rename_i same
    rw [same]
    split <;> rfl

/-- Whether a reply was sent, and behind it at most a handshake was begun with nothing in the buffer. -/
def Told (reply : Reply) (w v : Wire) : Prop :=
  v = (w.send reply).2 ∨ w.inbox.buffer = [] ∧ v = w.offerHandshake reply

private theorem startTls_told (reply : Reply) (s : Session κ) (w : Wire)
    (sent : (w.send (invitation upgrader reply w)).1 = .ok ()) :
    Told (invitation upgrader reply w) w (startTls upgrader reply s w).wire := by
  cases upgrader with
  | none => exact .inl rfl
  | some upgrade =>
    simp only [invitation] at sent ⊢
    rw [startTls]
    cases empty : w.inbox.buffer.isEmpty with
    | false => exact .inl rfl
    | true =>
      simp only [empty, if_true] at sent
      simp only [Bool.not_true, Bool.false_eq_true, if_false, if_true]
      refine .inr ⟨List.isEmpty_iff.mp empty, ?_⟩
      rw [Wire.offerHandshake]
      generalize w.send reply = done at sent
      obtain ⟨result, v⟩ := done
      obtain rfl : result = .ok () := sent
      dsimp only
      split <;> rfl

theorem turn_told {reply : Reply} (due : server.due upgrader s w = some reply)
    (sent : ((w.behind server.lineLimit).send reply).1 = .ok ()) :
    Told reply (w.behind server.lineLimit) (server.turn upgrader server.lineLimit s w).wire := by
  rw [Server.due] at due
  rw [turn]
  change Told reply _ (server.serveNext upgrader server.lineLimit (w.inbox.next server.lineLimit).1 s
    (w.behind server.lineLimit)).wire
  generalize (w.inbox.next server.lineLimit).1 = next at due
  generalize w.behind server.lineLimit = v at due sent
  cases next with
  | ended cause => cases due
  | tooLong =>
    obtain rfl := Option.some.inj due
    rw [serveNext]
    dsimp only
    have given : v.send (answerTooLong server.lineLimit s).1 = (.ok (), _) := Prod.ext sent rfl
    rw [given]
    exact .inl rfl
  | line line =>
    dsimp only at due
    rw [serveNext]
    rcases consumed : server.consume s line with ⟨fault | answered, t⟩
    · rw [consumed] at due
      rw [serveLine, consumed]
      cases fault with
      | unterminated line => cases due
      | _ =>
        obtain rfl := Option.some.inj due
        exact .inl rfl
    · rw [consumed] at due
      obtain rfl := Option.some.inj due
      rw [serveLine_of_ok consumed, respond]
      split at sent
      · rename_i invites
        rw [if_pos invites, if_pos invites, wire_ofServed]
        exact startTls_told answered t v sent
      · rename_i plain
        rw [if_neg plain, if_neg plain, wire_answer]
        exact .inl rfl

theorem turn_of_no_due (none_due : server.due upgrader s w = none) :
    ∃ result t, server.turn upgrader server.lineLimit s w =
      .ended ⟨result, t, w.behind server.lineLimit⟩ := by
  rw [Server.due] at none_due
  rw [turn]
  change ∃ result t, server.serveNext upgrader server.lineLimit (w.inbox.next server.lineLimit).1 s
    (w.behind server.lineLimit) = _
  generalize (w.inbox.next server.lineLimit).1 = next at none_due
  cases next with
  | ended cause => exact ⟨_, _, rfl⟩
  | tooLong => cases none_due
  | line line =>
    dsimp only at none_due
    rw [serveNext, serveLine]
    rcases consumed : server.consume s line with ⟨fault | answered, t⟩
    · rw [consumed] at none_due
      cases fault with
      | unterminated line => exact ⟨_, _, rfl⟩
      | _ => cases none_due
    · rw [consumed] at none_due
      cases none_due

theorem Told.replies {reply : Reply} (told : Told reply w v) (sent : (w.send reply).1 = .ok ())
    (clear : w.unflushed = []) :
    v.replies = w.replies ++ (if reply.isSilent then [] else [reply.wire]) ∧ v.unflushed = [] := by
  have flushed := Wire.unflushed_of_sent sent clear
  rcases told with rfl | ⟨-, rfl⟩
  · exact ⟨Wire.replies_send sent clear, flushed⟩
  · rw [Wire.offerHandshake, Wire.replies_beginHandshake]
    exact ⟨Wire.replies_send sent clear, flushed⟩

theorem Told.inbox {reply : Reply} (told : Told reply w v) : v.inbox = w.inbox := by
  rcases told with rfl | ⟨empty, rfl⟩
  · exact w.send_inbox reply
  · exact w.offerHandshake_inbox reply empty

theorem isSilent_answerTooLong (limit : Nat) (s : Session κ) :
    (answerTooLong limit s).1.isSilent = (s.state == .readingData) := by
  have state : (s.logWarn (Fault.lineTooLong limit).message).state = s.state := rfl
  rw [answerTooLong, state]
  split
  · rename_i receiving
    rw [receiving]
    rfl
  · rename_i other
    exact (beq_false_of_ne other).symm

theorem isSilent_of_relayed {answer : Except Fault Reply} {reply : Reply}
    (told : relayed upgrader answer w = some reply) :
    reply.isSilent = true ↔ answer = .ok .silent := by
  rcases answer with fault | answered
  · refine iff_of_false (fun silent => ?_) (by simp)
    cases fault with
    | unterminated line => cases told
    | _ =>
      obtain rfl := Option.some.inj told
      cases silent
  · obtain rfl := Option.some.inj told
    cases answered with
    | silent => exact iff_of_true rfl rfl
    | line | multi => simp [Reply.isStartTls, Reply.isSilent]
    | startTls text =>
      refine iff_of_false (fun silent => ?_) (by simp)
      simp only [Reply.isStartTls, if_true, invitation] at silent
      split at silent
      · cases silent
      · split at silent <;> cases silent

section

variable {config : Config} {newMail : Session κ → MailBehaviour} {custom : κ → Hook κ}
  {features : List Feature} {peer : String}

/-- The lines of a message, and no others, are met with silence. -/
theorem consume_silent_iff (vocal : ∀ s, (newMail s).Says (·.isSilent = false))
    (fits : s.Fits s.state) (keeps : s.Keeps (·.isSilent = false)) (line : Line) :
    (((ofFeatures config newMail custom features).consume s line).1 = .ok .silent ↔
        s.state = .readingData ∧ line.endsContent = false) ∧
      ((ofFeatures config newMail custom features).consume s line).2.Keeps (·.isSilent = false) := by
  have answers : (ofFeatures config newMail custom features).site.Answers (·.isSilent = false)
      features := answers_of_lines (fun _ _ => rfl) vocal
  by_cases content : s.state = .readingData ∧ line.endsContent = false
  · obtain ⟨silent, kept⟩ := consume_content answers.toSpeaks fits keeps content.1 content.2
    exact ⟨iff_of_true silent content, kept⟩
  · obtain ⟨loud, kept⟩ := consume_keeps answers fits keeps
      (fun receiving ongoing => absurd ⟨receiving, ongoing⟩ content) (fun _ => rfl)
      fun _ _ _ _ _ => ⟨rfl, fun _ => rfl⟩
    refine ⟨iff_of_false (fun silent => ?_) content, kept⟩
    exact absurd (loud _ silent) (by simp [Reply.isSilent])

theorem Comes.vocal (vocal : ∀ s, (newMail s).Says (·.isSilent = false))
    (comes : (ofFeatures config newMail custom features).Comes upgrader
      ((ofFeatures config newMail custom features).newSession peer) w₀ s w) :
    s.Keeps (·.isSilent = false) := by
  refine Comes.induct (motive := fun s _ => s.Keeps (·.isSilent = false)) ?_ ?_ comes
  · intro s w greeted
    have session := session_opening (ofFeatures config newMail custom features)
      ((ofFeatures config newMail custom features).newSession peer) w₀
    rw [greeted] at session
    rw [show s = _ from session]
    exact connect_keeps _ _ _ _ _
  · intro s w t v comes keeps turned
    have kept : ((ofFeatures config newMail custom features).turn upgrader
        (ofFeatures config newMail custom features).lineLimit s w).session.Keeps
          (·.isSilent = false) :=
      turn_keeps (Q := (·.isSilent = false)) rfl keeps
        (fun line _ => (consume_silent_iff vocal comes.fits keeps line).2) upgrader
    rwa [turned] at kept

theorem isSilent_of_due (vocal : ∀ s, (newMail s).Says (·.isSilent = false)) (fits : s.Fits s.state)
    (keeps : s.Keeps (·.isSilent = false)) {reply : Reply}
    (due : (ofFeatures config newMail custom features).due upgrader s w = some reply) :
    reply.isSilent = Reception.isContent
      ⟨(w.inbox.next (ofFeatures config newMail custom features).lineLimit).1, s, reply⟩ := by
  rw [Server.due] at due
  generalize (w.inbox.next (ofFeatures config newMail custom features).lineLimit).1 = next at due ⊢
  cases next with
  | ended cause => cases due
  | tooLong =>
    obtain rfl := Option.some.inj due
    rw [isSilent_answerTooLong, Reception.isContent, Bool.and_true]
  | line line =>
    have silent : ((ofFeatures config newMail custom features).consume s line).1 = .ok .silent ↔ _ :=
      (consume_silent_iff vocal fits keeps line).1
    rw [Bool.eq_iff_iff, isSilent_of_relayed due, silent]
    simp [Reception.isContent]

end

/-- Whether what was written keeps in step with the lines that were taken: these are the first lines of
the input, and of the replies the first is the greeting and each later one that to the next line which is
no content. -/
structure InStep (limit : Nat) (input : Bytes) (greeting : Reply) (taken : List (Reception κ))
    (w : Wire) : Prop where
  lines : taken.map (·.line) <+: (cutLines input).map (Inbox.taken limit)
  replies : w.replies = greeting.wire :: (taken.filter (!·.isContent)).map (·.reply.wire)
  silence : ∀ r ∈ taken, r.reply.isSilent = r.isContent
  flushed : w.unflushed = []

/-- One more line keeps what was written in step. -/
theorem InStep.receive {limit : Nat} {input : Bytes} {greeting : Reply} {taken : List (Reception κ)}
    (inStep : InStep limit input greeting taken w) {r : Reception κ}
    (silence : r.reply.isSilent = r.isContent)
    (lines : (taken ++ [r]).map (·.line) <+: (cutLines input).map (Inbox.taken limit))
    (told : v.replies = w.replies ++ (if r.reply.isSilent then [] else [r.reply.wire]) ∧
      v.unflushed = []) : InStep limit input greeting (taken ++ [r]) v where
  lines := lines
  replies := by
    rw [told.1, inStep.replies, silence, List.filter_append, List.map_append, List.cons_append]
    cases content : r.isContent <;> simp [content]
  silence other member := by
    rcases List.mem_append.mp member with before | now
    · exact inStep.silence other before
    · rw [List.mem_singleton.mp now, silence]
  flushed := told.2

section

variable {config : Config} {newMail : Session κ → MailBehaviour} {custom : κ → Hook κ}
  {features : List Feature} {peer : String}

private theorem wire_opening (w : Wire) :
    ((ofFeatures config newMail custom features).opening
      ((ofFeatures config newMail custom features).newSession peer) w).wire =
      (w.send (.of .serviceReady (config.hostName ++ " " ++ config.greeting))).2 := by
  rw [opening, connect_newSession]
  exact wire_answer _ _ _

private theorem greeted_inStep {w : Wire} {greeting : Reply} (loud : greeting.isSilent = false)
    (fresh : w.sent = []) (clear : w.unflushed = []) (sent : (w.send greeting).1 = .ok ())
    (limit : Nat) (input : Bytes) :
    InStep limit input greeting ([] : List (Reception κ)) (w.send greeting).2 where
  lines := List.nil_prefix
  replies := by
    have nothing : w.replies = [] := by rw [Wire.replies, fresh]; rfl
    rw [Wire.replies_send sent clear, nothing, loud]
    rfl
  silence r member := absurd member List.not_mem_nil
  flushed := Wire.unflushed_of_sent sent clear

private def Leaves (limit : Nat) (input : Bytes) (taken : List (Reception κ)) (w : Wire) : Prop :=
  (cutLines input).map (Inbox.taken limit) =
    taken.map (·.line) ++ (cutLines w.inbox.upcoming).map (Inbox.taken limit)

private theorem turn_inStep (vocal : ∀ s, (newMail s).Says (·.isSilent = false))
    (delivers : (ofFeatures config newMail custom features).Delivers upgrader
      ((ofFeatures config newMail custom features).newSession peer) w₀)
    (comes : (ofFeatures config newMail custom features).Comes upgrader
      ((ofFeatures config newMail custom features).newSession peer) w₀ s w)
    {input : Bytes} {greeting : Reply} {before : List (Reception κ)} :
    let server := ofFeatures config newMail custom features
    let now := server.turn upgrader server.lineLimit s w
    let after := before ++ server.received upgrader s w
    InStep server.lineLimit input greeting before w → Leaves server.lineLimit input before w →
      InStep server.lineLimit input greeting after now.wire ∧
        (now.isOver = false → after.length = before.length + 1 ∧
          Leaves server.lineLimit input after now.wire) := by
  intro server now after inStep leaves
  simp only [now, after, received]
  cases found : server.due upgrader s w with
  | none =>
    obtain ⟨result, t, ended⟩ := turn_of_no_due found
    rw [ended, Option.toList_none, List.map_nil, List.append_nil]
    refine ⟨⟨inStep.lines, inStep.replies, inStep.silence, inStep.flushed⟩, fun still => ?_⟩
    cases still
  | some reply =>
    have sent := delivers.due s w reply comes found
    have told := turn_told found sent
    generalize server.turn upgrader server.lineLimit s w = now at told
    rw [Option.toList_some, List.map_singleton]
    generalize taken : (⟨(w.inbox.next server.lineLimit).1, s, reply⟩ : Reception κ) = r
    have line : (w.inbox.next server.lineLimit).1 = r.line := congrArg Reception.line taken
    have due : reply = r.reply := congrArg Reception.reply taken
    have silence : r.reply.isSilent = r.isContent := by
      rw [← taken]
      exact isSilent_of_due vocal comes.fits (comes.vocal vocal) found
    have on : ∀ cause, (w.inbox.next server.lineLimit).1 ≠ .ended cause := by
      intro cause ended
      rw [Server.due, ended] at found
      cases found
    have left : Leaves server.lineLimit input (before ++ [r]) now.wire := by
      rw [Leaves, leaves, told.inbox, List.map_append, List.append_assoc, Inbox.taken_next on, line]
      rfl
    have written := told.replies sent inStep.flushed
    rw [due] at written
    exact ⟨inStep.receive silence ⟨_, left.symm⟩ written, fun _ => ⟨List.length_append, left⟩⟩

/-- After each turn what was written is in step with the lines taken. As long as the connection goes on
every turn takes a line, and the other lines are still to be read. -/
private theorem onward_inStep (vocal : ∀ s, (newMail s).Says (·.isSilent = false))
    (fresh : w₀.sent = []) (clear : w₀.unflushed = [])
    (delivers : (ofFeatures config newMail custom features).Delivers upgrader
      ((ofFeatures config newMail custom features).newSession peer) w₀) (n : Nat) :
    let server := ofFeatures config newMail custom features
    let now := server.onward upgrader (server.opening (server.newSession peer) w₀) n
    let lines := server.receptions upgrader (server.newSession peer) w₀ n
    InStep server.lineLimit w₀.inbox.upcoming
        (.of .serviceReady (config.hostName ++ " " ++ config.greeting)) lines now.wire ∧
      (now.isOver = false → lines.length = n ∧
        Leaves server.lineLimit w₀.inbox.upcoming lines now.wire) := by
  intro server
  induction n with
  | zero =>
    have sent := delivers.greeting _ (by rw [connect_newSession])
    dsimp only [onward, receptions]
    rw [wire_opening]
    refine ⟨greeted_inStep rfl fresh clear sent _ _, fun _ => ⟨rfl, ?_⟩⟩
    rw [Leaves, w₀.send_inbox]
    rfl
  | succ n ih =>
    dsimp only at ih ⊢
    rw [onward, receptions]
    cases came : server.onward upgrader (server.opening (server.newSession peer) w₀) n with
    | ended served =>
      rw [came] at ih
      simp only [Turn.andThen, List.append_nil]
      refine ⟨ih.1, fun still => ?_⟩
      cases still
    | goesOn s w =>
      rw [came] at ih
      obtain ⟨inStep, on⟩ := ih
      obtain ⟨count, leaves⟩ := on rfl
      have next := turn_inStep vocal delivers ⟨n, came⟩ inStep leaves
      rw [count] at next
      exact next

/-- A client never gets out of step. If mail objects are never silent and no write fails, then after any
number of turns what was written is the greeting and one reply for each line taken from the input so far,
those aside which are content of a message and met with silence. As long as a connection goes on every
turn takes a line, and in the end it has been served just so. The session answers by silence just where
it is given a line of content. -/
theorem serve_in_step (vocal : ∀ s, (newMail s).Says (·.isSilent = false)) (custom : κ → Hook κ)
    (features : List Feature) (peer : String) (upgrader : Option TlsUpgrader) (inbox : Inbox)
    (room : Option Nat) :
    let server := ofFeatures config newMail custom features
    let s₀ := server.newSession peer
    let w₀ : Wire := { inbox := inbox, room := room }
    let greeting : Reply := .of .serviceReady (config.hostName ++ " " ++ config.greeting)
    (server.Delivers upgrader s₀ w₀ →
      (∀ n, let now := server.onward upgrader (server.opening s₀ w₀) n
        let lines := server.receptions upgrader s₀ w₀ n
        InStep server.lineLimit inbox.upcoming greeting lines now.wire ∧
          (now.isOver = false → lines.length = n)) ∧
      ∃ n, let now := server.onward upgrader (server.opening s₀ w₀) n
        now.isOver = true ∧ now.wire = (server.serve upgrader s₀ w₀).wire) ∧
    ∀ s w line, server.Comes upgrader s₀ w₀ s w →
      ((server.consume s line).1 = .ok .silent ↔
        s.state = .readingData ∧ line.endsContent = false) := by
  intro server s₀ w₀ greeting
  refine ⟨fun delivers => ⟨fun n => ?_, ?_⟩, fun s w line comes => ?_⟩
  · obtain ⟨inStep, on⟩ := onward_inStep vocal rfl rfl delivers n
    exact ⟨inStep, fun still => (on still).1⟩
  · obtain ⟨n, finished⟩ := exists_onward_serveDialog server upgrader s₀ w₀
    refine ⟨n, ?_⟩
    dsimp only
    rw [finished, serve_eq]
    exact ⟨rfl, rfl⟩
  · exact (consume_silent_iff vocal comes.fits (comes.vocal vocal) line).1

/-- Nine lines at once, of which the fifth and the sixth are content and the sixth and the eighth too
long. After the greeting there are seven replies. -/
theorem serve_in_step_of_message :
    let server := ofFeatures { maxLineLength := 32 } (fun _ _ _ => .ok .ok) Empty.elim
      Feature.standard
    let s₀ := server.newSession "client.example"
    let input := ["EHLO client.example", "MAIL FROM:<a@a.example>", "RCPT TO:<b@b.example>", "DATA",
      "NOOP", "..and here more than 32 bytes of text", ".", "NOOP and more than 32 bytes of text",
      "QUIT"].flatMap fun text => (Line.ofText text).bytes
    let w₀ : Wire := { inbox := { arrivals := [.bytes input] } }
    let now := server.onward none (server.opening s₀ w₀) 9
    let lines := server.receptions none s₀ w₀ 9
    now.isOver = true ∧ now.wire.replies.length = 8 ∧
      lines.map (·.isContent) = [false, false, false, false, true, true, false, false, false] ∧
      InStep server.lineLimit w₀.inbox.upcoming
        (.of .serviceReady ("localhost" ++ " " ++ "ESMTP ready")) lines now.wire := by
  intro server s₀ input w₀ now lines
  have vocal : ∀ _ : Session Empty, MailBehaviour.Says (·.isSilent = false) fun _ _ => .ok .ok := by
    rintro s history call reply ⟨⟩
    rfl
  have delivers : server.Delivers none s₀ w₀ := delivers_of_unlimited rfl rfl
  have facts := @serve_in_step Empty { maxLineLength := 32 } _ vocal Empty.elim Feature.standard
    "client.example" none w₀.inbox none
  exact ⟨by decide +kernel, by decide +kernel, by decide +kernel, ((facts.1 delivers).1 9).1⟩

end

end Server

end SmtpDialog
