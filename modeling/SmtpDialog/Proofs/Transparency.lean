/- digest: A message reaches the mail object as the client wrote it. -/
import SmtpDialog.Proofs.Transfer
import SmtpDialog.Proofs.Turns
import SmtpDialog.Proofs.Utf8

set_option autoImplicit false
set_option relaxedAutoImplicit false

namespace SmtpDialog

open Command

namespace Line

theorem content_of_crlf (front : Bytes) : (⟨front ++ [13, 10]⟩ : Line).content = front := by
  simp [content, terminatorLength]

theorem content_of_lf {front : Bytes} (bare : front.getLast? ≠ some 13) :
    (⟨front ++ [10]⟩ : Line).content = front := by
  rcases List.eq_nil_or_concat front with rfl | ⟨before, last, rfl⟩
  · rfl
  · have other : last ≠ 13 := by simpa using bare
    have one : (⟨before.concat last ++ [10]⟩ : Line).terminatorLength = 1 := by
      simp only [terminatorLength, List.concat_eq_append, List.reverse_append,
        List.reverse_singleton, List.singleton_append]
      split <;> simp_all
    rw [content, one, List.length_append, List.length_singleton, Nat.add_sub_cancel]
    exact List.take_left

theorem ofText_eq (text : String) : ofText text = ⟨Utf8.encode text.toList ++ [13, 10]⟩ := by
  rw [ofText, Utf8.encode, List.flatMap_append]
  rfl

theorem chars_ofText (text : String) : (ofText text).chars = text.toList := by
  rw [ofText_eq, chars, content_of_crlf, Utf8.lossy_encode]

theorem eq_of_endsContent {front : Bytes} (dot : (⟨front ++ [10]⟩ : Line).endsContent = true) :
    front = [46] ∨ front = [46, 13] := by
  have lone : (⟨front ++ [10]⟩ : Line).content = [46] := by simpa [endsContent] using dot
  by_cases cr : front.getLast? = some 13
  · obtain ⟨before, rfl⟩ := List.getLast?_eq_some_iff.mp cr
    rw [List.append_assoc] at lone
    rw [show before = [46] from (content_of_crlf before).symm.trans lone]
    exact .inr rfl
  · rw [content_of_lf cr] at lone
    exact .inl lone

end Line

inductive Ending
  | crlf | lf
  deriving DecidableEq

def Ending.bytes : Ending → Bytes
  | crlf => [13, 10]
  | lf => [10]

structure TextLine where
  content : Bytes
  ending : Ending
  unbroken : 10 ∉ content

namespace TextLine

def bytes (l : TextLine) : Bytes := l.content ++ l.ending.bytes

/-- The line as it is transmitted (RFC 5321, section 4.5.2). -/
def transmitted (l : TextLine) : Bytes :=
  if l.content.head? = some 46 then 46 :: l.bytes else l.bytes

def input (l : TextLine) : Input := .line ⟨l.transmitted⟩

theorem exists_transmitted (l : TextLine) :
    ∃ front, 10 ∉ front ∧ l.transmitted = front ++ [10] := by
  obtain ⟨front, unbroken, cut⟩ : ∃ front, 10 ∉ front ∧ l.bytes = front ++ [10] := by
    cases ending : l.ending with
    | crlf => exact ⟨l.content ++ [13], by simpa using l.unbroken, by simp [bytes, ending, Ending.bytes]⟩
    | lf => exact ⟨l.content, l.unbroken, by simp [bytes, ending, Ending.bytes]⟩
  rw [transmitted, cut]
  split
  · exact ⟨46 :: front, by simpa using unbroken, rfl⟩
  · exact ⟨front, unbroken, rfl⟩

theorem head?_bytes (l : TextLine) : l.bytes.head? = some 46 ↔ l.content.head? = some 46 := by
  rw [bytes]
  cases l.content with
  | nil => cases l.ending <;> simp [Ending.bytes]
  | cons b rest => simp

/-- What the mail object is given is the line of the message. -/
theorem unstuffed_transmitted (l : TextLine) : unstuffed l.transmitted = l.bytes := by
  rw [transmitted]
  split
  · rfl
  · rename_i other
    rw [← head?_bytes] at other
    cases shape : l.bytes with
    | nil => rfl
    | cons b rest =>
      rw [shape] at other
      unfold unstuffed
      split
      · rename_i same
        simp_all
      · rfl

/-- No line of a message is taken for the dot that ends it. -/
theorem endsContent_transmitted (l : TextLine) :
    (⟨l.transmitted⟩ : Line).endsContent = false := by
  obtain ⟨front, -, cut⟩ := l.exists_transmitted
  cases dot : (⟨l.transmitted⟩ : Line).endsContent with
  | false => rfl
  | true =>
    rw [cut] at dot
    have lone : l.transmitted = [46, 10] ∨ l.transmitted = [46, 13, 10] := by
      rcases Line.eq_of_endsContent dot with rfl | rfl
      · exact .inl cut
      · exact .inr cut
    -- Behind a dot that was added there is the dot of the line, and a dot of its own would have had
    -- one added in front.
    rw [transmitted] at lone
    split at lone
    · rename_i stuffed
      rw [← head?_bytes] at stuffed
      rcases lone with lone | lone <;> simp [(List.cons_eq_cons.mp lone).2] at stuffed
    · rename_i other
      rw [← head?_bytes] at other
      rcases lone with lone | lone <;> simp [lone] at other

end TextLine

def writesOf (message : List TextLine) : List MailCall :=
  message.map fun l => .writeLine l.bytes

theorem filterMap_content?_inputs (message : List TextLine) :
    (message.map TextLine.input).filterMap Input.content? = message.map TextLine.bytes := by
  induction message with
  | nil => rfl
  | cons l rest ih =>
    simp [TextLine.input, Input.content?, l.unstuffed_transmitted, ih]

theorem writes_inputs (message : List TextLine) :
    writes (message.map TextLine.input) = writesOf message := by
  rw [writes, filterMap_content?_inputs, writesOf, List.map_map]
  rfl

theorem contentSize_inputs (message : List TextLine) :
    contentSize (message.map TextLine.input) = (message.flatMap TextLine.bytes).length := by
  rw [contentSize, filterMap_content?_inputs, List.flatMap_def]

namespace MailObject

def Succeeds (mail : MailObject) : List MailCall → Prop
  | [] => True
  | c :: rest => (mail.call c).1.isOk = true ∧ (mail.call c).2.Succeeds rest

instance decidableSucceeds (mail : MailObject) :
    (calls : List MailCall) → Decidable (mail.Succeeds calls)
  | [] => inferInstanceAs (Decidable True)
  | c :: rest =>
    have := decidableSucceeds (mail.call c).2 rest
    inferInstanceAs (Decidable ((mail.call c).1.isOk = true ∧ (mail.call c).2.Succeeds rest))

theorem exists_reply {mail : MailObject} {c : MailCall} (ok : (mail.call c).1.isOk = true) :
    ∃ reply, (mail.call c).1 = .ok reply := by
  cases answer : (mail.call c).1 with
  | ok reply => exact ⟨reply, rfl⟩
  | error fault =>
    rw [answer] at ok
    contradiction

theorem succeeds_append {mail : MailObject} {front back : List MailCall} :
    mail.Succeeds (front ++ back) ↔ mail.Succeeds front ∧ (mail.after front).Succeeds back := by
  induction front generalizing mail with
  | nil => simp [Succeeds, after]
  | cons c rest ih =>
    rw [List.cons_append, Succeeds, Succeeds, ih, and_assoc]
    rfl

end MailObject

/-- A message that is not too large does not fail with a mail object that takes its lines. -/
theorem unfailed_of_succeeds {config : Config} {mail : MailObject} {message : List TextLine}
    (small : config.maxMessageSize = 0 ∨
      (message.flatMap TextLine.bytes).length ≤ config.maxMessageSize)
    (succeeds : mail.Succeeds (writesOf message)) :
    Unfailed config mail (message.map TextLine.input) := by
  intro front event rest split
  obtain ⟨before, later, rfl, rfl, next⟩ := List.map_eq_append_iff.mp split
  obtain ⟨l, after, rfl, rfl, rfl⟩ := List.map_eq_cons_iff.mp next
  have within : ¬overflows config (before.map TextLine.input ++ [l.input]) := by
    rintro ⟨limited, excess⟩
    have count : contentSize (before.map TextLine.input ++ [l.input]) =
        ((before ++ [l]).flatMap TextLine.bytes).length := by
      rw [← contentSize_inputs, List.map_append]
      rfl
    have part : ((before ++ [l]).flatMap TextLine.bytes).length ≤
        ((before ++ l :: after).flatMap TextLine.bytes).length := by
      simp only [List.flatMap_append, List.flatMap_cons, List.length_append]
      simp
    have wrapped := Nat.mod_le (contentSize (before.map TextLine.input ++ [l.input])) UInt64.size
    omega
  obtain ⟨-, one⟩ : _ ∧ (mail.after (writesOf before)).Succeeds (writesOf (l :: after)) := by
    rw [← MailObject.succeeds_append, writesOf, writesOf, ← List.map_append]
    exact succeeds
  obtain ⟨reply, asked⟩ := MailObject.exists_reply one.1
  rw [TextLine.input, failure?, if_neg (by exact within), writes_inputs, l.unstuffed_transmitted,
    asked]

namespace Server

variable {κ : Type} {config : Config} {features : List Feature} {newMail : Session κ → MailBehaviour}
  {custom : κ → Hook κ} {peer : String} {s t : Session κ} {w : Wire} {mail : MailObject}

def startMailInput : Reply :=
  .of .startMailInput "Start mail input; end with <CRLF>.<CRLF>"

private theorem beginContent_eq (holds : s.mail = some mail) {reply : Reply}
    (prepared : (mail.call .prepare).1 = .ok reply) :
    ∃ t, beginContent s = Outcome.goTo .readingData startMailInput t ∧
      t.unlogged = { s.unlogged with
        mail := some (mail.call .prepare).2
        consumers := s.consumers.insert Place.content.name .content
        properties := (s.properties.erase Key.contentFault.name).insert Key.contentSize.name
          (.word 0)
        journal := .mailCalled mail.serial .prepare (.ok reply) :: s.unlogged.journal } := by
  simp only [beginContent]
  rw [Session.callMail_of_some (by exact holds), prepared]
  exact ⟨_, rfl, rfl⟩

private theorem data_begins
    (reachable : (ofFeatures config newMail custom features).Reachable peer s)
    (valid : s.state = .afterRcpt) (holds : s.mail = some mail) {line : Line}
    (terminated : line.isTerminated = true) (verb : Text.upper line.verb = "DATA")
    (bare : Grammar.arguments line.text = "") {reply : Reply}
    (prepared : (mail.call .prepare).1 = .ok reply) :
    ∃ t, (ofFeatures config newMail custom features).consume s line = (.ok startMailInput, t) ∧
      t.state = .readingData ∧ Receiving t.unlogged (mail.call .prepare).2 [] t.unlogged ∧
      ∀ calls, t.unlogged.afterMessage (mail.call .prepare).2 calls =
        s.unlogged.afterMessage mail (.prepare :: calls) := by
  obtain ⟨past, run⟩ := reachable
  have quiet : s.state ≠ .readingData := by rw [valid]; decide
  have idle := run.fits.get?_exchange (by rw [valid]; rfl)
  have own : ("DATA", data) ∈ (standardCommands : List (String × Handler κ)) := by
    simp [standardCommands]
  have ready : (data : Handler κ).validFor s = true := beq_iff_eq.mpr valid
  have handled : data.handle (ofFeatures config newMail custom features).site s (some line.text) =
      beginContent s := by
    have none_given : Handler.arguments (some line.text) = "" := bare
    rw [Handler.handle, if_pos ready]
    simp only [data]
    rw [if_pos none_given]
  obtain ⟨t, begun, same⟩ := beginContent_eq holds prepared
  have moved : (t.moveTo .readingData).unlogged = { t.unlogged with state := .readingData } :=
    Session.unlogged_moveTo _ _
  refine ⟨t.moveTo .readingData, ?_, congrArg Session.state moved, ⟨⟨?_, rfl⟩, ?_, ?_⟩, ?_⟩
  · rw [consume_of_standard run.fits quiet idle terminated own verb, handled, begun]
    rfl
  · rw [moved, same]
    rfl
  · rw [moved, same]
    simp [Session.get?_insert, contentSize]
  · rw [moved, same]
    simp [Session.get?_insert, Session.get?_erase]
  · intro calls
    have chain : (s.consumers.insert Place.content.name .content).erase Place.content.name =
        s.consumers.erase Place.content.name := by
      simp [Chain.insert, Chain.erase, List.filter_filter]
    rw [moved, same]
    simp [Session.afterMessage, MailObject.records, prepared, chain, Table.erase_insert,
      Table.erase_comm Key.contentFault.name, Table.erase_erase]

variable {upgrader : Option TlsUpgrader} {w₀ : Wire} {rest : Bytes}

private theorem turn_content (upgrader : Option TlsUpgrader) {front : List Input} {l : TextLine}
    (reachable : (ofFeatures config newMail custom features).Reachable peer s)
    (begun : t.state = .readingData) (now : Receiving t mail front s.unlogged)
    (fine : failure? config mail front l.input = none)
    (arrives : w.inbox.ready = l.transmitted ++ rest)
    (fits : l.transmitted.length ≤ (ofFeatures config newMail custom features).lineLimit) :
    ∃ u left, (ofFeatures config newMail custom features).turn upgrader
        (ofFeatures config newMail custom features).lineLimit s w =
          .goesOn u { w with inbox := left } ∧
      left.ready = rest ∧ Receiving t mail (front ++ [l.input]) u.unlogged := by
  obtain ⟨past, run⟩ := reachable
  obtain ⟨content, unbroken, cut⟩ := l.exists_transmitted
  have receiving : s.state = .readingData := (congrArg Session.state now.rest).trans begun
  obtain ⟨silent, hears⟩ := now.line l.endsContent_transmitted (run.receipt receiving _)
  rw [cut] at fits
  have ready : w.inbox.ready = content ++ 10 :: rest := by simpa [cut] using arrives
  obtain ⟨left, remains, turned⟩ := turn_line (ofFeatures config newMail custom features)
    upgrader s ready unbroken (by simpa using fits)
  rw [← cut] at turned
  refine ⟨((ofFeatures config newMail custom features).consume s ⟨l.transmitted⟩).2, left, ?_,
    congrArg Inbox.buffer remains, ?_⟩
  · rw [turned, serveLine_of_ok (Prod.ext silent rfl), respond_of_sent upgrader _ left rfl rfl]
    rfl
  · cases hears with
    | goesOn _ now => exact now
    | fails failure =>
      rw [TextLine.input] at fine
      rw [fine] at failure
      contradiction

private theorem comes_through (front : List TextLine) {message : List TextLine}
    (comes : (ofFeatures config newMail custom features).Comes upgrader
      ((ofFeatures config newMail custom features).newSession peer) w₀ s w)
    (begun : t.state = .readingData)
    (now : Receiving t mail (front.map TextLine.input) s.unlogged)
    (fine : Unfailed config mail ((front ++ message).map TextLine.input))
    (arrives : w.inbox.ready = message.flatMap TextLine.transmitted ++ rest)
    (fits : ∀ l ∈ message,
      l.transmitted.length ≤ (ofFeatures config newMail custom features).lineLimit) :
    ∃ u left, (ofFeatures config newMail custom features).Comes upgrader
        ((ofFeatures config newMail custom features).newSession peer) w₀ u
        { w with inbox := left } ∧
      left.ready = rest ∧ Receiving t mail ((front ++ message).map TextLine.input) u.unlogged := by
  induction message generalizing front s w with
  | nil => exact ⟨s, w.inbox, comes, by simpa using arrives, by simpa using now⟩
  | cons l message ih =>
    have one : failure? config mail (front.map TextLine.input) l.input = none :=
      fine _ _ (message.map TextLine.input) (by simp)
    obtain ⟨u, left, turned, remains, next⟩ := turn_content upgrader comes.reachable begun
      now one (by simpa using arrives) (fits l List.mem_cons_self)
    rw [← List.map_singleton, ← List.map_append] at next
    rw [List.append_cons] at fine ⊢
    exact ih (front ++ [l]) (w := { w with inbox := left }) (comes.next turned) next fine remains
      fun k h => fits k (List.mem_cons_of_mem _ h)

private theorem turn_dot (upgrader : Option TlsUpgrader) {front : List Input} {completed : Reply}
    (reachable : (ofFeatures config newMail custom features).Reachable peer s)
    (begun : t.state = .readingData) (now : Receiving t mail front s.unlogged)
    (completes : ((mail.after (writes front)).call .complete).1 = .ok completed)
    (arrives : w.inbox.ready = 46 :: 13 :: 10 :: rest) :
    ∃ u left, (ofFeatures config newMail custom features).turn upgrader
        (ofFeatures config newMail custom features).lineLimit s w =
          respond upgrader completed u { w with inbox := left } ∧
      left.ready = rest ∧ u.unlogged = t.afterMessage mail (writes front ++ [.complete]) := by
  obtain ⟨past, run⟩ := reachable
  have receiving : s.state = .readingData := (congrArg Session.state now.rest).trans begun
  have dot : (⟨[46, 13, 10]⟩ : Line).endsContent = true := by decide
  have ready : w.inbox.ready = [46, 13] ++ 10 :: rest := arrives
  obtain ⟨answer, told⟩ := now.dot dot (run.receipt receiving _)
  rw [completes] at answer
  obtain ⟨left, remains, turned⟩ := turn_line (ofFeatures config newMail custom features)
    upgrader s ready (by decide)
    (ofFeatures config newMail custom features).minLineLength_le_lineLimit
  exact ⟨_, left, turned.trans (serveLine_of_ok (Prod.ext answer rfl)), congrArg Inbox.buffer remains,
    told⟩

/-- A message that is not too large arrives as the client wrote it, whatever its lines are and however
the bytes are cut into reads. The mail object is asked to prepare, given the lines of the message one by
one, and asked to complete it. Nothing is replied between the invitation to send the message and the
answer to the lone dot, and behind the dot the session reads commands again. -/
theorem message_transparent {command : Bytes} {message : List TextLine}
    (comes : (ofFeatures config newMail custom features).Comes upgrader
      ((ofFeatures config newMail custom features).newSession peer) w₀ s w)
    (valid : s.state = .afterRcpt) (holds : s.mail = some mail) (unbroken : 10 ∉ command)
    (verb : Text.upper (Line.mk (command ++ [10])).verb = "DATA")
    (bare : Grammar.arguments (Line.mk (command ++ [10])).text = "")
    (arrives : w.inbox.ready = command ++ 10 :: (message.flatMap TextLine.transmitted ++
      46 :: 13 :: 10 :: rest))
    (fits : command.length + 1 ≤ (ofFeatures config newMail custom features).lineLimit)
    (fit : ∀ l ∈ message,
      l.transmitted.length ≤ (ofFeatures config newMail custom features).lineLimit)
    (small : config.maxMessageSize = 0 ∨
      (message.flatMap TextLine.bytes).length ≤ config.maxMessageSize)
    (succeeds : mail.Succeeds (.prepare :: writesOf message ++ [.complete]))
    (room : w.Carries [startMailInput]) :
    let server := ofFeatures config newMail custom features
    ∃ completed u x t left,
      ((mail.after (.prepare :: writesOf message)).call .complete).1 = .ok completed ∧
      server.Comes upgrader (server.newSession peer) w₀ u x ∧
      server.turn upgrader server.lineLimit u x =
        respond upgrader completed t { (w.send startMailInput).2 with inbox := left } ∧
      t.unlogged = s.unlogged.afterMessage mail (.prepare :: writesOf message ++ [.complete]) ∧
      left.ready = rest ∧
      (completed.isStartTls = false → completed.closes = false →
        w.Carries [startMailInput, completed] →
        server.Comes upgrader (server.newSession peer) w₀ t
          { ((w.send startMailInput).2.send completed).2 with inbox := left }) := by
  intro server
  obtain ⟨⟨preparing, writing⟩, completing, -⟩ := MailObject.succeeds_append.mp succeeds
  obtain ⟨reply, prepared⟩ := MailObject.exists_reply preparing
  obtain ⟨completed, completes⟩ := MailObject.exists_reply completing
  -- DATA
  have terminated : (Line.mk (command ++ [10])).isTerminated = true := by
    simp only [Line.isTerminated, Line.terminatorLength, List.reverse_append,
      List.reverse_singleton, List.singleton_append]
    split <;> simp_all
  obtain ⟨t₁, consumed, begun, receiving, records⟩ :=
    data_begins comes.reachable valid holds terminated verb bare prepared
  obtain ⟨sent, -⟩ := Wire.send_of_carries room
  obtain ⟨left₁, remains₁, turned⟩ := turn_line server upgrader s arrives unbroken fits
  rw [serveLine_of_ok consumed, respond_of_sent upgrader t₁ left₁ rfl (congrArg Prod.fst sent),
    if_neg (by decide)] at turned
  -- the lines
  obtain ⟨u, left₂, through, remains₂, heard⟩ := comes_through [] (t := t₁.unlogged)
    (comes.next turned) begun receiving (unfailed_of_succeeds small writing)
    (congrArg Inbox.buffer remains₁) fit
  -- the lone dot
  have completes' : (((mail.call .prepare).2.after (writes (message.map TextLine.input))).call
      .complete).1 = .ok completed := by
    rw [writes_inputs]
    exact completes
  obtain ⟨t, left, ended, remains, told⟩ := turn_dot upgrader (t := t₁.unlogged)
    (w := { (w.send startMailInput).2 with inbox := left₂ }) through.reachable begun heard
    completes' remains₂
  rw [List.nil_append, writes_inputs, records] at told
  refine ⟨completed, u, _, t, left, completes, through, ended, told, remains, ?_⟩
  intro plain open' further
  obtain ⟨-, more⟩ := Wire.send_of_carries further
  obtain ⟨again, -⟩ := Wire.send_of_carries more
  apply through.next
  rw [ended, respond_of_sent upgrader t left plain (congrArg Prod.fst again), open',
    if_neg Bool.false_ne_true]

theorem message_transparent_of_commands :
    let server := accepting { maxMessageSize := 64 } [.size]
    let s₀ := server.newSession "client.example"
    let message : List TextLine :=
      [⟨Utf8.ofString "QUIT", .crlf, by decide⟩, ⟨[46], .lf, by decide⟩, ⟨[], .crlf, by decide⟩,
        ⟨[46, 46, 13], .lf, by decide⟩]
    let ofTexts (texts : List String) : Bytes := texts.flatMap fun text => (Line.ofText text).bytes
    let input := ofTexts ["EHLO client.example", "MAIL FROM:<a@client.example>",
      "RCPT TO:<b@server.example>", "data"] ++ message.flatMap TextLine.transmitted ++
      ofTexts [".", "RSET"]
    let w₀ : Wire := { inbox := ⟨[], [.bytes (input.take 80), .bytes (input.drop 80)]⟩ }
    ∃ s w mail t v, server.Comes none s₀ w₀ s w ∧ s.state = .afterRcpt ∧ s.mail = some mail ∧
      server.Comes none s₀ w₀ t v ∧ t.unlogged.journal = .mailDisposed mail.serial ::
        mail.records (.prepare :: writesOf message ++ [.complete]) ++ s.unlogged.journal ∧
      v.inbox.ready = ofTexts ["RSET"] := by
  intro server s₀ message ofTexts input w₀
  obtain ⟨s, w, mail, comes, valid, holds, succeeds, answers, unlimited, arrives⟩ :
      ∃ (s : Session Empty) (w : Wire) (mail : MailObject), server.Comes none s₀ w₀ s w ∧
        s.state = .afterRcpt ∧ s.mail = some mail ∧
        mail.Succeeds (.prepare :: writesOf message ++ [.complete]) ∧
        ((mail.after (.prepare :: writesOf message)).call .complete).1.toOption = some .ok ∧
        w.room = none ∧ w.inbox.ready = Utf8.ofString "data\r" ++ 10 ::
          (message.flatMap TextLine.transmitted ++ 46 :: 13 :: 10 :: ofTexts ["RSET"]) := by
    let now := server.onward none (server.opening s₀ w₀) 3
    let mail := now.session.mail.get (by decide +kernel)
    refine ⟨now.session, now.wire, mail, ⟨3, Turn.eq_goesOn ?_⟩, ?_, (Option.some_get _).symm, ?_,
      ?_, ?_, ?_⟩ <;> decide +kernel
  have room (replies : List Reply) : w.Carries replies := by
    intro limit limited
    rw [unlimited] at limited
    contradiction
  obtain ⟨completed, u, x, t, left, completes, -, -, told, remains, further⟩ :=
    message_transparent comes valid holds (by decide +kernel) (by decide +kernel)
      (by decide +kernel) arrives (by decide +kernel) (by decide +kernel) (by decide +kernel)
      succeeds (room _)
  rw [completes] at answers
  obtain rfl : completed = .ok := Option.some.inj answers
  exact ⟨s, w, mail, t, _, comes, valid, holds, further rfl rfl (room _),
    congrArg Session.journal told, remains⟩

end Server

end SmtpDialog
