/- digest: However bytes arrive, a connection is a dialog about the lines of its input. -/
import SmtpDialog.Proofs.Turns

set_option autoImplicit false
set_option relaxedAutoImplicit false

namespace SmtpDialog

/-- The lines of some bytes, each with its line feed. What follows the last of them is no line. -/
def cutLines : Bytes → List Bytes
  | [] => []
  | b :: bs =>
    if b = 10 then [b] :: cutLines bs
    else match cutLines bs with
      | [] => []
      | line :: rest => (b :: line) :: rest

theorem cutLines_cases (bs : Bytes) :
    (10 ∉ bs ∧ cutLines bs = []) ∨
      ∃ content rest, 10 ∉ content ∧ bs = content ++ 10 :: rest ∧
        cutLines bs = (content ++ [10]) :: cutLines rest := by
  induction bs with
  | nil => exact .inl ⟨by simp, rfl⟩
  | cons b bs ih =>
    by_cases hb : b = 10
    · exact .inr ⟨[], bs, by simp, by simp [hb], by simp [cutLines, hb]⟩
    · rcases ih with ⟨unbroken, none_left⟩ | ⟨content, rest, unbroken, rfl, lines⟩
      · exact .inl ⟨by simp [unbroken, Ne.symm hb], by simp [cutLines, hb, none_left]⟩
      · refine .inr ⟨b :: content, rest, by simp [unbroken, Ne.symm hb], rfl, ?_⟩
        simp [cutLines, hb, lines]

example : cutLines [104, 105, 13, 10, 10, 104] = [[104, 105, 13, 10], [10]] := by decide

theorem not_mem_of_cutLines {bs : Bytes} (lines : cutLines bs = []) : 10 ∉ bs := by
  rcases cutLines_cases bs with ⟨unbroken, -⟩ | ⟨content, rest, -, -, split⟩
  · exact unbroken
  · rw [lines] at split
    contradiction

/-- The first line goes through the first line feed, and the others are those of what follows. -/
theorem exists_of_cutLines {bs line : Bytes} {more : List Bytes}
    (lines : cutLines bs = line :: more) :
    ∃ content rest, 10 ∉ content ∧ bs = content ++ 10 :: rest ∧ line = content ++ [10] ∧
      more = cutLines rest := by
  rcases cutLines_cases bs with ⟨-, nothing⟩ | ⟨content, rest, unbroken, cut, split⟩
  · rw [lines] at nothing
    contradiction
  · rw [lines] at split
    obtain ⟨first, others⟩ := List.cons_eq_cons.mp split
    exact ⟨content, rest, unbroken, cut, first, others⟩

/-- How a dialog went: the replies, how it ended, and the session. -/
structure Dialog (κ : Type) where
  replies : List Reply
  result : Except Fault Unit
  session : Session κ

def Dialog.after {κ : Type} (reply : Reply) (d : Dialog κ) : Dialog κ :=
  { d with replies := reply :: d.replies }

namespace Server

variable {κ : Type}

/-- The dialog about some lines, of which those above the limit are only complained of. It ends with
a reply that closes the connection, with a fault, or with the lines. -/
def converse (server : Server κ) (limit : Nat) : List Bytes → Session κ → Dialog κ
  | [], s => ⟨[], .error (.io .unexpectedEof), s⟩
  | bytes :: rest, s =>
    if bytes.length ≤ limit then
      match server.consume s ⟨bytes⟩ with
      | (.ok reply, s) =>
        if reply.closes then ⟨[reply], .ok (), s⟩
        else (converse server limit rest s).after reply
      | (.error (.unterminated line), s) => ⟨[], .error (.unterminated line), s⟩
      | (.error fault, s) =>
        ⟨[.shuttingDown], .error fault,
          s.logError ("Aborting connection after error: " ++ fault.message)⟩
    else (converse server limit rest (answerTooLong limit s).2).after (answerTooLong limit s).1

def discuss (server : Server κ) (input : Bytes) (s : Session κ) : Dialog κ :=
  match server.connect s with
  | (.error fault, s) => ⟨[], .error fault, s⟩
  | (.ok reply, s) =>
    if reply.closes then ⟨[reply], .ok (), s⟩
    else (server.converse server.lineLimit (cutLines input) s).after reply

variable {server : Server κ} {limit : Nat} {s : Session κ} {w : Wire} {served : Served κ}

/-- Whether a connection was served as a dialog says. What it leaves unread is not told. -/
def Follows (served : Served κ) (w : Wire) (d : Dialog κ) : Prop :=
  ∃ inbox, served = ⟨d.result, d.session, { w.sendAll d.replies with inbox := inbox }⟩

/-- A connection that has written a reply goes on as a dialog after it. -/
theorem Follows.after {inbox : Inbox} {reply : Reply} {d : Dialog κ}
    (follows : Follows served { (w.send reply).2 with inbox := inbox } d) :
    Follows served w (d.after reply) := by
  obtain ⟨left, rfl⟩ := follows
  refine ⟨left, ?_⟩
  rw [Wire.sendAll_with_inbox]
  rfl

private theorem serveLines_follows (positive : 0 < limit) {bs : Bytes}
    (all : w.inbox.merged = ⟨bs, []⟩) (upgrader : Option TlsUpgrader)
    (plain : ∀ reply ∈ (server.converse limit (cutLines bs) s).replies,
      reply.isStartTls = false)
    (carries : w.Carries (server.converse limit (cutLines bs) s).replies) :
    Follows (server.serveLines upgrader limit s w) w (server.converse limit (cutLines bs) s) := by
  -- By induction on the lines: a turn uses up the first of them and leaves an inbox from which the
  -- bytes of the others can be read, whatever the reads were.
  induction lines : cutLines bs generalizing bs s w with
  | nil =>
    have unbroken : 10 ∉ bs := not_mem_of_cutLines lines
    refine ⟨(w.inbox.next limit).2, serveLines_of_ended ?_⟩
    rw [turn, Inbox.read_open all unbroken]
    rfl
  | cons line more ih =>
    obtain ⟨content, rest, unbroken, rfl, rfl, rfl⟩ := exists_of_cutLines lines
    have ready : w.inbox.ready = content ++ 10 :: rest := congrArg Inbox.buffer all
    have left_over : w.inbox.remaining rest = ⟨rest, []⟩ :=
      congrArg (Inbox.mk rest) (congrArg Inbox.arrivals all)
    rw [lines] at plain carries
    rw [converse] at plain carries ⊢
    by_cases fits : (content ++ [10]).length ≤ limit
    · rw [if_pos fits] at plain carries ⊢
      rw [List.length_append, List.length_singleton] at fits
      obtain ⟨inbox, left, turned⟩ := turn_line server upgrader s ready unbroken fits
      rw [left_over] at left
      rcases consumed : server.consume s ⟨content ++ [10]⟩ with ⟨fault | reply, t⟩
      · rw [serveLine, consumed] at turned
        cases fault with
        | unterminated line => exact ⟨_, serveLines_of_ended turned⟩
        | _ =>
          simp only [Wire.send_with_inbox] at turned
          exact ⟨_, serveLines_of_ended turned⟩
      · simp only [consumed] at plain carries ⊢
        by_cases closes : reply.closes = true
        · rw [if_pos closes] at plain carries ⊢
          obtain ⟨sent, -⟩ := Wire.send_of_carries carries
          rw [serveLine_of_ok consumed, respond_of_sent _ t inbox (plain reply List.mem_cons_self)
            (congrArg Prod.fst sent), if_pos closes] at turned
          exact ⟨_, serveLines_of_ended turned⟩
        · rw [if_neg closes] at plain carries ⊢
          obtain ⟨sent, further⟩ := Wire.send_of_carries carries
          rw [serveLine_of_ok consumed, respond_of_sent _ t inbox (plain reply List.mem_cons_self)
            (congrArg Prod.fst sent), if_neg closes] at turned
          rw [serveLines_of_goesOn turned]
          exact .after (ih left (fun r h => plain r (List.mem_cons_of_mem _ h)) further rfl)
    · rw [if_neg fits] at plain carries ⊢
      have exceeds : limit ≤ content.length := by
        rw [List.length_append, List.length_singleton] at fits
        omega
      obtain ⟨sent, further⟩ := Wire.send_of_carries carries
      obtain ⟨inbox, left, turned⟩ := turn_tooLong server upgrader ready unbroken positive
        exceeds (congrArg Prod.fst sent)
      rw [left_over] at left
      rw [serveLines_of_goesOn turned]
      exact .after (ih left (fun r h => plain r (List.mem_cons_of_mem _ h)) further rfl)

private theorem serveDialog_follows {bs : Bytes} (all : w.inbox.merged = ⟨bs, []⟩)
    (upgrader : Option TlsUpgrader)
    (plain : ∀ reply ∈ (server.discuss bs s).replies, reply.isStartTls = false)
    (carries : w.Carries (server.discuss bs s).replies) :
    Follows (server.serveDialog upgrader s w) w (server.discuss bs s) := by
  rw [serveDialog]
  rw [discuss] at plain carries ⊢
  rcases connected : server.connect s with ⟨fault | reply, t⟩
  · exact ⟨w.inbox, rfl⟩
  · simp only [connected] at plain carries ⊢
    rw [answer]
    by_cases closes : reply.closes = true
    · rw [if_pos closes] at carries ⊢
      obtain ⟨sent, -⟩ := Wire.send_of_carries carries
      rw [sent]
      simp only [if_pos closes]
      exact ⟨(w.send reply).2.inbox, rfl⟩
    · rw [if_neg closes] at plain carries ⊢
      obtain ⟨sent, further⟩ := Wire.send_of_carries carries
      rw [sent]
      simp only [if_neg closes]
      have still : (w.send reply).2.inbox.merged = ⟨bs, []⟩ := by rw [Wire.send_inbox, all]
      have rest := serveLines_follows server.lineLimit_pos still upgrader
        (fun r h => plain r (List.mem_cons_of_mem _ h)) further
      exact Follows.after rest

/-- However the input of a connection is cut into reads, the connection is served as the dialog about
the lines of the input says. -/
theorem serve_follows_discuss (server : Server κ) (upgrader : Option TlsUpgrader) (s : Session κ)
    {w : Wire} {reads : List Bytes} (given : w.inbox = ⟨[], reads.map .bytes⟩)
    (nonempty : ∀ r ∈ reads, r ≠ [])
    (plain : ∀ reply ∈ (server.discuss reads.flatten s).replies, reply.isStartTls = false)
    (carries : w.Carries (server.discuss reads.flatten s).replies) :
    let d := server.discuss reads.flatten s
    Follows (server.serve upgrader s w) w { d with session := farewell d.result d.session } := by
  intro d
  have all : w.inbox.merged = ⟨reads.flatten, []⟩ := by
    rw [given]
    exact Inbox.merged_of_reads nonempty []
  obtain ⟨inbox, served⟩ := serveDialog_follows all upgrader plain carries
  refine ⟨inbox, ?_⟩
  rw [serve_eq, served]

theorem serve_follows_discuss_in_pieces :
    let server := accepting { maxLineLength := 32 } []
    let s := server.newSession "client.example"
    let input := ["EHLO client.example", "NOOP and more than 32 bytes of text", "QUIT",
      "NOOP"].flatMap fun text => (Line.ofText text).bytes
    let reads := [input.take 7, (input.drop 7).take 30, (input.drop 37).take 23, input.drop 60]
    let w : Wire := { inbox := ⟨[], reads.map .bytes⟩ }
    let d := server.discuss input s
    d.replies.map Reply.code? = [some 220, some 250, some 500, some 221] ∧
      d.result.toOption = some () ∧
      Follows (server.serve none s w) w { d with session := farewell d.result d.session } := by
  intro server s input reads w d
  have whole : reads.flatten = input := by decide +kernel
  have nonempty : ∀ r ∈ reads, r ≠ [] := by decide +kernel
  have plain : ∀ reply ∈ d.replies, reply.isStartTls = false := by decide +kernel
  have follows := serve_follows_discuss server none s (w := w) rfl nonempty
    (by rw [whole]; exact plain) (by intro room limited; contradiction)
  rw [whole] at follows
  exact ⟨by decide +kernel, by decide +kernel, follows⟩

end Server

end SmtpDialog
