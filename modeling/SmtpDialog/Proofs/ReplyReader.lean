/- digest: A client reads the replies back from what was written, whatever their texts look like. -/
import SmtpDialog.Proofs.InStep

set_option autoImplicit false
set_option relaxedAutoImplicit false

namespace SmtpDialog

/-- What is heard of one reply: its code and the texts of its lines. -/
structure HeardReply where
  code : Nat
  texts : List String
  deriving DecidableEq

/-- A line of a reply: its code, the character behind the code, and its text. -/
structure ReplyLine where
  code : Nat
  mark : Char
  text : String

/-- The lines that CR LF ends. Nothing may stand behind the last of them. -/
def crlfLines? : List Char → Option (List (List Char))
  | [] => some []
  | '\r' :: '\n' :: rest => (crlfLines? rest).map ([] :: ·)
  | c :: rest =>
    match crlfLines? rest with
    | some (line :: lines) => some ((c :: line) :: lines)
    | _ => none

def ReplyLine.ofChars? : List Char → Option ReplyLine
  | a :: b :: c :: mark :: text =>
    if [a, b, c].all Char.isDigit then
      some ⟨Nat.ofDigitChars 10 [a, b, c] 0, mark, String.ofList text⟩
    else none
  | _ => none

/-- Some lines as one reply. All of them must have the same code. -/
def HeardReply.ofLines? : List ReplyLine → Option HeardReply
  | [] => none
  | line :: lines =>
    if lines.all (·.code == line.code) then some ⟨line.code, (line :: lines).map (·.text)⟩
    else none

/-- Takes lines until one whose mark is a space, which ends a reply, and goes on with the next reply.
Some lines of the first reply may have been taken already. -/
def hearFrom? (taken : List ReplyLine) : List ReplyLine → Option (List HeardReply)
  | [] => if taken.isEmpty then some [] else none
  | line :: rest =>
    if line.mark = ' ' then do
      let reply ← HeardReply.ofLines? (taken ++ [line])
      let others ← hearFrom? [] rest
      return reply :: others
    else hearFrom? (taken ++ [line]) rest

/-- The replies that a client finds in what it has received. -/
def heard? (bs : Bytes) : Option (List HeardReply) := do
  let lines ← crlfLines? (← Utf8.decode? bs)
  hearFrom? [] (← lines.mapM ReplyLine.ofChars?)

/-- What there is to be heard of a reply. A reply of no lines is heard as one without text. -/
def Reply.heard? : Reply → Option HeardReply
  | silent => none
  | line code text => some ⟨code, [text]⟩
  | multi code [] => some ⟨code, [""]⟩
  | multi code (text :: texts) => some ⟨code, text :: texts⟩
  | startTls text => some ⟨220, [text]⟩

namespace ReplyLine

def chars (l : ReplyLine) : List Char := (toString l.code).toList ++ l.mark :: l.text.toList

theorem ofChars?_chars {l : ReplyLine} (low : 100 ≤ l.code) (high : l.code ≤ 999) :
    ofChars? l.chars = some l := by
  have written : (toString l.code).toList = Nat.toDigits 10 l.code := by simp
  have number := Nat.ofDigitChars_toDigits (b := 10) (n := l.code) (by decide) (by decide)
  have digit {c : Char} (member : c ∈ Nat.toDigits 10 l.code) : c.isDigit = true :=
    Nat.isDigit_of_mem_toDigits (by decide) (by decide) member
  have three : (Nat.toDigits 10 l.code).length = 3 := by
    have most := Nat.length_toDigits_le_iff (b := 10) (n := l.code) (k := 3) (by decide) (by decide)
    have least := Nat.length_toDigits_le_iff (b := 10) (n := l.code) (k := 2) (by decide) (by decide)
    omega
  obtain ⟨a, b, c, digits⟩ : ∃ a b c, Nat.toDigits 10 l.code = [a, b, c] := by
    match Nat.toDigits 10 l.code, three with
    | [a, b, c], _ => exact ⟨a, b, c, rfl⟩
  rw [digits] at number digit
  have all : [a, b, c].all Char.isDigit = true := List.all_eq_true.mpr fun _ member => digit member
  rw [chars, written, digits]
  simp only [List.cons_append, List.nil_append, ofChars?]
  rw [if_pos all, number, String.ofList_toList]

/-- The line that is cut off first is the one that was written first. -/
theorem crlfLines?_append {line : List Char} (calm : '\r' ∉ line) (rest : List Char) :
    crlfLines? (line ++ '\r' :: '\n' :: rest) = (crlfLines? rest).map (line :: ·) := by
  induction line with
  | nil => rfl
  | cons c line ih =>
    obtain ⟨other, calm⟩ : '\r' ≠ c ∧ '\r' ∉ line := by simpa using calm
    rw [List.cons_append, crlfLines?, ih calm]
    · cases crlfLines? rest <;> rfl
    · rintro _ rfl
      exact absurd rfl other

theorem not_mem_chars {l : ReplyLine} (mark : l.mark = ' ' ∨ l.mark = '-')
    (free : Text.avoids ['\r', '\n'] l.text = true) : '\r' ∉ l.chars := by
  have number := Text.avoids_iff.mp (Text.isUnbroken_iff.mp (Text.isUnbroken_toString l.code))
  intro member
  rcases List.mem_append.mp member with inside | behind
  · exact number _ inside List.mem_cons_self
  · rcases List.mem_cons.mp behind with same | inside
    · rw [← same] at mark
      exact absurd mark (by decide)
    · exact Text.avoids_iff.mp free _ inside List.mem_cons_self

end ReplyLine

namespace Reply

def linesOf (code : Nat) : List String → List ReplyLine
  | [] => [⟨code, ' ', ""⟩]
  | [text] => [⟨code, ' ', text⟩]
  | text :: next :: rest => ⟨code, '-', text⟩ :: linesOf code (next :: rest)

def lines : Reply → List ReplyLine
  | silent => []
  | line code text => [⟨code, ' ', text⟩]
  | multi code texts => linesOf code texts
  | startTls text => [⟨Code.serviceReady.number, ' ', text⟩]

def stream (ls : List ReplyLine) : List Char := ls.flatMap fun l => l.chars ++ ['\r', '\n']

theorem stream_append (ls more : List ReplyLine) : stream (ls ++ more) = stream ls ++ stream more :=
  List.flatMap_append

private theorem wireLine_eq (code : Nat) (mark : Char) (text : String) :
    wireLine code mark text = Utf8.encode (stream [⟨code, mark, text⟩]) := by
  simp [wireLine, stream, ReplyLine.chars]

private theorem wireLines_eq (code : Nat) (texts : List String) :
    wireLines code texts = Utf8.encode (stream (linesOf code texts)) := by
  induction texts with
  | nil => exact wireLine_eq code ' ' ""
  | cons text rest ih =>
    cases rest with
    | nil => exact wireLine_eq code ' ' text
    | cons next rest =>
      rw [wireLines, ih, wireLine_eq, linesOf, Utf8.encode, Utf8.encode, Utf8.encode,
        ← List.flatMap_append, ← stream_append, List.singleton_append]

theorem wire_eq (reply : Reply) : reply.wire = Utf8.encode (stream reply.lines) := by
  cases reply with
  | silent => rfl
  | line code text => exact wireLine_eq code ' ' text
  | multi code texts => exact wireLines_eq code texts
  | startTls text => exact wireLine_eq Code.serviceReady.number ' ' text

theorem flatMap_wire (replies : List Reply) :
    replies.flatMap wire = Utf8.encode (stream (replies.flatMap lines)) := by
  induction replies with
  | nil => rfl
  | cons reply rest ih =>
    rw [List.flatMap_cons, List.flatMap_cons, ih, wire_eq, stream_append, Utf8.encode, Utf8.encode,
      Utf8.encode, List.flatMap_append]

/-- A line of a reply has a code of three digits, one of two marks and a text of the reply. -/
structure Spoken (l : ReplyLine) : Prop where
  low : 100 ≤ l.code
  high : l.code ≤ 999
  mark : l.mark = ' ' ∨ l.mark = '-'
  free : Text.avoids ['\r', '\n'] l.text = true

private theorem spoken_linesOf {code : Nat} (bounds : 100 ≤ code ∧ code ≤ 999)
    {texts : List String} (free : ∀ text ∈ texts, Text.avoids ['\r', '\n'] text = true) :
    ∀ l ∈ linesOf code texts, Spoken l := by
  induction texts with
  | nil =>
    intro l member
    obtain rfl := List.mem_singleton.mp member
    exact ⟨bounds.1, bounds.2, .inl rfl, rfl⟩
  | cons text rest ih =>
    have first := free text List.mem_cons_self
    cases rest with
    | nil =>
      intro l member
      obtain rfl := List.mem_singleton.mp member
      exact ⟨bounds.1, bounds.2, .inl rfl, first⟩
    | cons next rest =>
      intro l member
      rcases List.mem_cons.mp member with rfl | later
      · exact ⟨bounds.1, bounds.2, .inr rfl, first⟩
      · exact ih (fun text h => free text (List.mem_cons_of_mem _ h)) l later

instance (barred : List Char) (reply : Reply) : Decidable (reply.Sound barred) :=
  decidable_of_iff ((∀ code ∈ reply.code?, 100 ≤ code ∧ code ≤ 999) ∧
      ∀ text ∈ reply.texts, Text.avoids barred text = true)
    ⟨fun ⟨code, texts⟩ => ⟨code, texts⟩, fun sound => ⟨sound.code, sound.texts⟩⟩

theorem Sound.spoken {reply : Reply} (sound : reply.Sound ['\r', '\n']) :
    ∀ l ∈ reply.lines, Spoken l := by
  cases reply with
  | silent => exact nofun
  | line code text =>
    intro l member
    obtain rfl := List.mem_singleton.mp member
    have bounds := sound.code code rfl
    exact ⟨bounds.1, bounds.2, .inl rfl, sound.texts text List.mem_cons_self⟩
  | multi code texts => exact spoken_linesOf (sound.code code rfl) sound.texts
  | startTls text =>
    intro l member
    obtain rfl := List.mem_singleton.mp member
    have bounds : 100 ≤ Code.serviceReady.number ∧ Code.serviceReady.number ≤ 999 := by decide
    exact ⟨bounds.1, bounds.2, .inl rfl, sound.texts text List.mem_cons_self⟩

theorem crlfLines?_stream {ls : List ReplyLine} (spoken : ∀ l ∈ ls, Spoken l) :
    crlfLines? (stream ls) = some (ls.map ReplyLine.chars) := by
  induction ls with
  | nil => rfl
  | cons l rest ih =>
    have here := spoken l List.mem_cons_self
    have calm := ReplyLine.not_mem_chars here.mark here.free
    have parts : stream (l :: rest) = l.chars ++ '\r' :: '\n' :: stream rest := by simp [stream]
    rw [parts, ReplyLine.crlfLines?_append calm, ih fun l h => spoken l (List.mem_cons_of_mem _ h)]
    rfl

theorem mapM_ofChars? {ls : List ReplyLine} (spoken : ∀ l ∈ ls, Spoken l) :
    (ls.map ReplyLine.chars).mapM ReplyLine.ofChars? = some ls := by
  induction ls with
  | nil => rfl
  | cons l rest ih =>
    have here := spoken l List.mem_cons_self
    rw [List.map_cons, List.mapM_cons, ReplyLine.ofChars?_chars here.low here.high,
      ih fun l h => spoken l (List.mem_cons_of_mem _ h)]
    rfl

private theorem hearFrom?_linesOf {code : Nat} {taken : List ReplyLine}
    (same : ∀ l ∈ taken, l.code = code) (text : String) (texts : List String)
    (rest : List ReplyLine) :
    hearFrom? taken (linesOf code (text :: texts) ++ rest) =
      (hearFrom? [] rest).map (⟨code, taken.map (·.text) ++ text :: texts⟩ :: ·) := by
  induction texts generalizing taken text with
  | nil =>
    have joined : HeardReply.ofLines? (taken ++ [⟨code, ' ', text⟩]) =
        some ⟨code, taken.map (·.text) ++ [text]⟩ := by
      cases taken with
      | nil => rfl
      | cons first others =>
        obtain ⟨rfl, later⟩ := List.forall_mem_cons.mp same
        have agree : (others ++ [(⟨first.code, ' ', text⟩ : ReplyLine)]).all
            (·.code == first.code) = true := by
          simpa [List.all_eq_true] using later
        simp only [List.cons_append, HeardReply.ofLines?]
        rw [if_pos agree]
        simp
    simp only [linesOf, List.cons_append, List.nil_append, hearFrom?, joined]
    cases hearFrom? [] rest <;> rfl
  | cons next texts ih =>
    have further : ∀ l ∈ taken ++ [(⟨code, '-', text⟩ : ReplyLine)], l.code = code := by
      intro l member
      rcases List.mem_append.mp member with before | now
      · exact same l before
      · rw [List.mem_singleton.mp now]
    have open_mark : ¬('-' = ' ') := by decide
    rw [linesOf, List.cons_append, hearFrom?, if_neg open_mark, ih further]
    simp

/-- The lines of a reply are heard as that reply, whatever follows. -/
theorem hearFrom?_lines (reply : Reply) (rest : List ReplyLine) :
    hearFrom? [] (reply.lines ++ rest) =
      (hearFrom? [] rest).map (reply.heard?.toList ++ ·) := by
  have several (code : Nat) (text : String) (texts : List String) (rest : List ReplyLine) :
      hearFrom? [] (linesOf code (text :: texts) ++ rest) =
        (hearFrom? [] rest).map (⟨code, text :: texts⟩ :: ·) :=
    hearFrom?_linesOf (by simp) text texts rest
  cases reply with
  | silent => simp [lines, heard?]
  | line code text => exact several code text [] rest
  | multi code texts =>
    cases texts with
    | nil => exact several code "" [] rest
    | cons text texts => exact several code text texts rest
  | startTls text => exact several 220 text [] rest

theorem hearFrom?_flatMap (replies : List Reply) :
    hearFrom? [] (replies.flatMap lines) = some (replies.filterMap heard?) := by
  induction replies with
  | nil => rfl
  | cons reply rest ih =>
    rw [List.flatMap_cons, hearFrom?_lines, ih]
    cases told : reply.heard? <;> simp [told]

end Reply

/-- The bytes that were written, handshakes left out. -/
def Wire.written (w : Wire) : Bytes := w.replies.flatten

theorem Wire.written_sendAll {replies : List Reply} {w : Wire} (carries : w.Carries replies)
    (clear : w.unflushed = []) :
    (w.sendAll replies).written = w.written ++ replies.flatMap Reply.wire := by
  induction replies generalizing w with
  | nil => simp [Wire.sendAll]
  | cons reply rest ih =>
    obtain ⟨sent, further⟩ := send_of_carries carries
    have sent_ok : (w.send reply).1 = .ok () := congrArg Prod.fst sent
    have first : (w.send reply).2.written = w.written ++ reply.wire := by
      rw [Wire.written, replies_send sent_ok clear, List.flatten_append]
      cases reply <;> simp [Wire.written, Reply.isSilent, Reply.wire]
    have others := ih further (unflushed_of_sent sent_ok clear)
    rw [first, List.append_assoc] at others
    rw [List.flatMap_cons]
    exact others

/-- Whatever replies are written one after the other, a client hears each that is not silent, in order,
with its code and all of its texts. -/
theorem heard?_of_replies {replies : List Reply}
    (sound : ∀ reply ∈ replies, reply.Sound ['\r', '\n']) :
    heard? (replies.flatMap Reply.wire) = some (replies.filterMap Reply.heard?) ∧
      ∀ inbox room, let w : Wire := { inbox, room }
        w.Carries replies →
          heard? (w.sendAll replies).written = some (replies.filterMap Reply.heard?) := by
  have spoken : ∀ l ∈ replies.flatMap Reply.lines, Reply.Spoken l := by
    intro l member
    obtain ⟨reply, told, member⟩ := List.mem_flatMap.mp member
    exact (sound reply told).spoken l member
  have heard : heard? (replies.flatMap Reply.wire) = some (replies.filterMap Reply.heard?) := by
    rw [Reply.flatMap_wire, heard?, Utf8.decode?_encode]
    simp only [Option.bind_eq_bind, Option.bind_some, Reply.crlfLines?_stream spoken,
      Reply.mapM_ofChars? spoken, Reply.hearFrom?_flatMap]
  refine ⟨heard, ?_⟩
  intro inbox room w carries
  rw [Wire.written_sendAll carries rfl]
  exact heard

/-- Texts that look like lines of other replies are heard as texts. -/
theorem heard?_of_replies_of_disguised :
    let replies : List Reply :=
      [.multi 250 ["a", "250 b", "-c", ""], .silent, .startTls "Go", .multi 354 [], .line 235 "250-d"]
    let heard : List HeardReply :=
      [⟨250, ["a", "250 b", "-c", ""]⟩, ⟨220, ["Go"]⟩, ⟨354, [""]⟩, ⟨235, ["250-d"]⟩]
    let w : Wire := { inbox := ⟨[], []⟩, room := some 60 }
    (∀ reply ∈ replies, reply.Sound ['\r', '\n']) ∧ w.Carries replies ∧
      heard? (replies.flatMap Reply.wire) = some heard ∧
      heard? (w.sendAll replies).written = some heard := by
  intro replies heard w
  have sound : ∀ reply ∈ replies, reply.Sound ['\r', '\n'] := by decide
  have carries : w.Carries replies := by
    intro room limit
    obtain rfl := Option.some.inj limit
    decide +kernel
  have both := heard?_of_replies sound
  exact ⟨sound, carries, both.1, both.2 w.inbox w.room carries⟩

end SmtpDialog
