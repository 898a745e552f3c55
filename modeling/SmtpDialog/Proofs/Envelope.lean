/- digest: What a client writes on the envelope is what the mail object is told. -/
import Mathlib.Data.List.Induction
import SmtpDialog.Proofs.Brackets
import SmtpDialog.Proofs.Recipients
import SmtpDialog.Proofs.Refusals
import SmtpDialog.Proofs.Transparency
import SmtpDialog.Proofs.Utf8

set_option autoImplicit false
set_option relaxedAutoImplicit false

namespace SmtpDialog

open Command

namespace Text

variable {p q : Char → Bool} {xs ys : List Char}

theorem trimStart_append (all : ∀ c ∈ xs, p c = true) (stops : ∀ c ∈ ys.head?, p c = false) :
    trimStart p (xs ++ ys) = ys := by
  rw [trimStart, List.dropWhile_append_of_pos all]
  cases ys with
  | nil => rfl
  | cons c ys => rw [List.dropWhile_cons_of_neg (by simp [stops c rfl])]

theorem trimEnd_append_cons {c : Char} (fails : p c = false) (xs ys : List Char) :
    trimEnd p (xs ++ c :: ys) = xs ++ c :: trimEnd p ys := by
  have stops : List.dropWhile p (c :: xs.reverse) = c :: xs.reverse :=
    List.dropWhile_cons_of_neg (by simp [fails])
  rw [trimEnd, List.reverse_append, List.reverse_cons, List.append_assoc, List.singleton_append,
    List.dropWhile_append, stops, trimEnd]
  cases List.dropWhile p ys.reverse <;> simp

theorem trimEnd_append_of_all (all : ∀ c ∈ ys, p c = true) :
    trimEnd p (xs ++ ys) = trimEnd p xs := by
  rw [trimEnd, List.reverse_append, List.dropWhile_append_of_pos (by simpa using all), trimEnd]

theorem exists_trimEnd (p : Char → Bool) (cs : List Char) :
    ∃ gap, cs = trimEnd p cs ++ gap ∧ ∀ c ∈ gap, p c = true := by
  refine ⟨(cs.reverse.takeWhile p).reverse, ?_, fun c member => ?_⟩
  · rw [trimEnd, ← List.reverse_append, List.takeWhile_append_dropWhile, List.reverse_reverse]
  · exact List.all_eq_true.mp List.all_takeWhile c (List.mem_reverse.mp member)

theorem trim_append_of_all (all : ∀ c ∈ ys, p c = true) : trim p (xs ++ ys) = trim p xs := by
  have gone : ys.dropWhile p = [] := by
    rw [← List.append_nil ys, List.dropWhile_append_of_pos all, List.dropWhile_nil]
  rw [trim, trimStart, List.dropWhile_append, gone]
  split
  · rename_i empty
    rw [trim, trimStart, List.isEmpty_iff.mp empty]
  · rw [trimEnd_append_of_all all, trim, trimStart]

theorem trim_trimEnd (weaker : ∀ c, p c = true → q c = true) (cs : List Char) :
    trim q (trimEnd p cs) = trim q cs := by
  obtain ⟨gap, parts, all⟩ := exists_trimEnd p cs
  conv =>
    rhs
    rw [parts, trim_append_of_all fun c member => weaker c (all c member)]

theorem isBlank_of_isGap (c : Char) (gap : isGap c = true) : isBlank c = true := by
  rw [isGap, Bool.or_eq_true, beq_iff_eq, beq_iff_eq] at gap
  rcases gap with rfl | rfl <;> decide

end Text

namespace Grammar

inductive PathCommand
  | mail | rcpt

def PathCommand.verb : PathCommand → String
  | mail => "MAIL"
  | rcpt => "RCPT"

def PathCommand.keyword : PathCommand → String
  | mail => "FROM:"
  | rcpt => "TO:"

/-- Whether a text is a command with a path in angle brackets: verb and keyword in any case, gaps in
front of the verb and behind it, at most one space in front of the bracket, and the parameters. -/
def Spelled (command : PathCommand) (cs path rest : List Char) : Prop :=
  ∃ lead word gap front,
    cs = lead ++ (word ++ (gap ++ (front ++ '<' :: (path ++ '>' :: rest)))) ∧
    (∀ c ∈ lead, Text.isGap c = true) ∧ word.map Char.toUpper = command.verb.toList ∧
    gap ≠ [] ∧ (∀ c ∈ gap, Text.isGap c = true) ∧ Opens command.keyword.toList front ∧ '>' ∉ path

variable {command : PathCommand} {cs path rest lead word gap args front : List Char}

/-- No gap is the capital of another character, or has a capital of its own. -/
theorem free_of_toUpper (solid : (word.map Char.toUpper).any Text.isGap = false) :
    ∀ c ∈ word, Text.isGap c = false := by
  intro c member
  refine Bool.eq_false_iff.mpr fun blank => ?_
  have capital := List.any_eq_false.mp solid _ (List.mem_map_of_mem (f := Char.toUpper) member)
  rw [Text.isGap, Bool.or_eq_true, beq_iff_eq, beq_iff_eq] at blank
  rcases blank with rfl | rfl <;> exact absurd capital (by decide)

/-- The words of a line that begins with a word, behind gaps at most. -/
theorem words_of_parts (leads : ∀ c ∈ lead, Text.isGap c = true) (some : word ≠ [])
    (solid : ∀ c ∈ word, Text.isGap c = false) (between : gap ≠ [])
    (gaps : ∀ c ∈ gap, Text.isGap c = true) (begins : ∀ c ∈ args.head?, Text.isGap c = false) :
    (Text.trimStart Text.isGap (lead ++ (word ++ (gap ++ args)))).takeWhile (!Text.isGap ·) = word ∧
      argumentChars (lead ++ (word ++ (gap ++ args))) = Text.trimEnd Text.isGap args := by
  obtain ⟨w, ws, rfl⟩ := List.exists_cons_of_ne_nil some
  obtain ⟨g, gs, rfl⟩ := List.exists_cons_of_ne_nil between
  have body : Text.trimStart Text.isGap (lead ++ (w :: ws ++ (g :: gs ++ args))) =
      w :: ws ++ (g :: gs ++ args) :=
    Text.trimStart_append leads fun c first => by
      obtain rfl : w = c := by simpa using first
      exact solid w List.mem_cons_self
  have passes : ∀ c ∈ w :: ws, (!Text.isGap c) = true := fun c member => by simp [solid c member]
  have stops : ¬(!Text.isGap g) = true := by simp [gaps g List.mem_cons_self]
  constructor
  · have ends : (g :: gs ++ args).takeWhile (!Text.isGap ·) = [] :=
      List.takeWhile_cons_of_neg stops
    rw [body, List.takeWhile_append_of_pos passes, ends, List.append_nil]
  · have behind : (g :: gs ++ args).dropWhile (!Text.isGap ·) = g :: gs ++ args :=
      List.dropWhile_cons_of_neg stops
    rw [argumentChars, body, List.dropWhile_append_of_pos passes, behind, Text.trim,
      Text.trimStart_append gaps begins]

/-- Every line with arguments is a word and the arguments, with gaps around them. -/
theorem exists_parts (some : argumentChars cs ≠ []) :
    ∃ lead gap trail, cs = lead ++ ((Text.trimStart Text.isGap cs).takeWhile (!Text.isGap ·) ++
        (gap ++ (argumentChars cs ++ trail))) ∧
      (∀ c ∈ lead, Text.isGap c = true) ∧ gap ≠ [] ∧ (∀ c ∈ gap, Text.isGap c = true) ∧
      ∀ c ∈ trail, Text.isGap c = true := by
  generalize body : Text.trimStart Text.isGap cs = front
  generalize behind : front.dropWhile (!Text.isGap ·) = back
  obtain ⟨trail, ends, trails⟩ :=
    Text.exists_trimEnd Text.isGap (Text.trimStart Text.isGap back)
  have args : argumentChars cs = Text.trimEnd Text.isGap (Text.trimStart Text.isGap back) := by
    rw [argumentChars, body, behind, Text.trim]
  have parts : cs = cs.takeWhile Text.isGap ++ (front.takeWhile (!Text.isGap ·) ++
      (back.takeWhile Text.isGap ++ (argumentChars cs ++ trail))) := by
    rw [args, ← ends, Text.trimStart, List.takeWhile_append_dropWhile, ← behind,
      List.takeWhile_append_dropWhile, ← body, Text.trimStart, List.takeWhile_append_dropWhile]
  refine ⟨_, _, trail, parts, fun c => List.all_eq_true.mp List.all_takeWhile c, ?_,
    fun c => List.all_eq_true.mp List.all_takeWhile c, trails⟩
  cases back with
  | nil => exact absurd args some
  | cons c back =>
    have fails := List.head?_dropWhile_not (!Text.isGap ·) front
    rw [behind] at fails
    have gap : Text.isGap c = true := by simpa using fails
    rw [List.takeWhile_cons_of_pos gap]
    exact List.cons_ne_nil _ _

theorem Opens.congr {keyword other : List Char}
    (same : keyword.map Char.toUpper = other.map Char.toUpper) :
    Opens keyword front ↔ Opens other front := by
  rw [Opens, Opens, same]

private theorem Opens.begins (opens : Opens command.keyword.toList front) (more : List Char) :
    ∀ c ∈ (front ++ more).head?, Text.isGap c = false := by
  obtain ⟨word, gap, spelled, -, rfl⟩ := opens
  have solid : ∀ c ∈ word, Text.isGap c = false := by
    apply free_of_toUpper
    rw [spelled]
    cases command <;> decide
  cases word with
  | nil => cases command <;> exact absurd spelled (by decide)
  | cons w ws =>
    intro c first
    obtain rfl : w = c := by simpa using first
    exact solid w List.mem_cons_self

theorem Spelled.bracketed (spelled : Spelled command cs path rest) :
    ∃ front, Bracketed cs front path rest := by
  obtain ⟨lead, word, gap, front, rfl, leads, verb, -, gaps, opens, free⟩ := spelled
  have blank {cs : List Char} (all : ∀ c ∈ cs, Text.isGap c = true) : '<' ∉ cs :=
    fun member => absurd (all _ member) (by decide)
  have word_free : '<' ∉ word := by
    intro member
    have inside := List.mem_map_of_mem (f := Char.toUpper) member
    rw [verb] at inside
    revert inside
    cases command <;> decide
  have front_free : '<' ∉ front := opens.free (by cases command <;> decide)
  refine ⟨lead ++ (word ++ (gap ++ front)), by simp, ?_, free⟩
  simp [blank leads, blank gaps, word_free, front_free]

/-- A text is spelled in one way. -/
theorem Spelled.unique {path' rest' : List Char} (spelled : Spelled command cs path rest)
    (spelled' : Spelled command cs path' rest') : path = path' ∧ rest = rest' := by
  obtain ⟨front, cut⟩ := spelled.bracketed
  obtain ⟨front', cut'⟩ := spelled'.bracketed
  exact (cut.unique cut').2

theorem Spelled.words (spelled : Spelled command cs path rest) :
    ((Text.trimStart Text.isGap cs).takeWhile (!Text.isGap ·)).map Char.toUpper =
        command.verb.toList ∧
      ∃ front, Opens command.keyword.toList front ∧
        Bracketed (argumentChars cs) front path (Text.trimEnd Text.isGap rest) := by
  obtain ⟨lead, word, gap, front, rfl, leads, verb, between, gaps, opens, free⟩ := spelled
  have solid : ∀ c ∈ word, Text.isGap c = false := by
    apply free_of_toUpper
    rw [verb]
    cases command <;> decide
  have some : word ≠ [] := by
    rintro rfl
    cases command <;> exact absurd verb (by decide)
  obtain ⟨first, args⟩ := words_of_parts leads some solid between gaps (opens.begins _)
  refine ⟨by rw [first, verb], front, opens, ?_, opens.free (by cases command <;> decide), free⟩
  rw [args, ← List.cons_append, ← List.append_assoc,
    Text.trimEnd_append_cons (by decide), List.append_assoc, List.cons_append]

theorem Spelled.of_words
    (verb : ((Text.trimStart Text.isGap cs).takeWhile (!Text.isGap ·)).map Char.toUpper =
      command.verb.toList)
    (opens : Opens command.keyword.toList front)
    (cut : Bracketed (argumentChars cs) front path rest) :
    ∃ trail, Spelled command cs path (rest ++ trail) ∧ ∀ c ∈ trail, Text.isGap c = true := by
  have some : argumentChars cs ≠ [] := by simp [cut.parts]
  obtain ⟨lead, gap, trail, parts, leads, between, gaps, trails⟩ := exists_parts some
  refine ⟨trail, ⟨lead, _, gap, front, ?_, leads, verb, between, gaps, opens, cut.inner⟩, trails⟩
  rw [cut.parts] at parts
  simpa using parts

theorem pathArguments_trimEnd (path rest : List Char) :
    pathArguments (path, Text.trimEnd Text.isGap rest) = pathArguments (path, rest) := by
  rw [pathArguments, pathArguments, Text.trim_trimEnd Text.isBlank_of_isGap]

theorem Spelled.of_cr (spelled : Spelled command (cs ++ ['\r']) path rest) :
    ∃ front, rest = front ++ ['\r'] ∧ Spelled command cs path front := by
  obtain ⟨lead, word, gap, front, parts, others⟩ := spelled
  cases rest using List.reverseRecOn with
  | nil =>
    have ends : cs ++ ['\r'] = lead ++ (word ++ (gap ++ (front ++ '<' :: path))) ++ ['>'] := by
      simpa using parts
    exact absurd (List.append_inj' ends rfl).2 (by decide)
  | append_singleton before last =>
    have ends : cs ++ ['\r'] =
        lead ++ (word ++ (gap ++ (front ++ '<' :: (path ++ '>' :: before)))) ++ [last] := by
      simpa using parts
    obtain ⟨rfl, same⟩ := List.append_inj' ends rfl
    obtain rfl : '\r' = last := List.head_eq_of_cons_eq same
    exact ⟨before, rfl, lead, word, gap, front, rfl, others⟩

end Grammar

namespace Line

open Grammar

variable {line : Line} {command : PathCommand} {cs path rest : List Char}

theorem upper_verb {verb : String} :
    Text.upper line.verb = verb ↔
      ((Text.trimStart Text.isGap line.chars).takeWhile (!Text.isGap ·)).map Char.toUpper =
        verb.toList := by
  rw [← String.toList_inj, Text.upper, Line.verb, Line.body, String.toList_ofList,
    String.toList_ofList]

theorem toList_arguments : (Grammar.arguments line.text).toList = argumentChars line.chars := by
  rw [Grammar.arguments, text, String.toList_ofList, String.toList_ofList]

/-- MAIL is given a sender just by the lines that spell one. -/
theorem sender_iff {sender : PathArguments} :
    (Text.upper line.verb = "MAIL" ∧ reversePath? (Grammar.arguments line.text) = some sender) ↔
      ∃ path rest, Spelled .mail line.chars path rest ∧ '\n' ∉ rest ∧
        sender = pathArguments (path, rest) := by
  have same : "FROM:".toList.map Char.toUpper = ['f', 'r', 'o', 'm', ':'].map Char.toUpper := by
    decide
  rw [upper_verb, reversePath?_eq_some, toList_arguments]
  constructor
  · rintro ⟨verb, front, path, rest, cut, opens, one, rfl⟩
    have opens' : Opens PathCommand.mail.keyword.toList front := (Opens.congr same).mpr opens
    obtain ⟨trail, spelled, gaps⟩ := Spelled.of_words verb opens' cut
    refine ⟨path, rest ++ trail, spelled, ?_, ?_⟩
    · rw [List.mem_append, not_or]
      exact ⟨one, fun member => absurd (gaps _ member) (by decide)⟩
    · rw [pathArguments, pathArguments,
        Text.trim_append_of_all fun c member => Text.isBlank_of_isGap c (gaps c member)]
  · rintro ⟨path, rest, spelled, one, rfl⟩
    obtain ⟨verb, front, opens, cut⟩ := spelled.words
    refine ⟨verb, front, path, _, cut, (Opens.congr same).mp opens, fun member => one ?_,
      (pathArguments_trimEnd path rest).symm⟩
    obtain ⟨gap, parts, -⟩ := Text.exists_trimEnd Text.isGap rest
    rw [parts]
    exact List.mem_append_left gap member

theorem recipient_of_spelled (spelled : Spelled .rcpt line.chars path rest) (one : '\n' ∉ rest)
    (named : path ≠ []) (unrouted : path.head? ≠ some '@') :
    Text.upper line.verb = "RCPT" ∧
      forwardPath? (Grammar.arguments line.text) = some (pathArguments (path, rest)) := by
  obtain ⟨verb, front, opens, cut⟩ := spelled.words
  refine ⟨upper_verb.mpr verb, ?_⟩
  have opened : afterOpening ['t', 'o', ':'] (Grammar.arguments line.text).toList =
      some (path ++ '>' :: Text.trimEnd Text.isGap rest) := by
    rw [toList_arguments]
    exact (afterOpening_eq_some (by decide)).mpr
      ⟨front, (Opens.congr (by decide)).mp opens, cut.parts⟩
  have bare : afterRoute (path ++ '>' :: Text.trimEnd Text.isGap rest) = none := by
    refine Option.eq_none_iff_forall_not_mem.mpr fun tail routed => unrouted ?_
    obtain ⟨_, ⟨hosts, rfl, -⟩, parts⟩ := afterRoute_eq_some.mp routed
    obtain ⟨c, cs, rfl⟩ := List.exists_cons_of_ne_nil named
    obtain ⟨rfl, -⟩ := List.cons_eq_cons.mp parts
    rfl
  have closed : closeNonempty (path ++ '>' :: Text.trimEnd Text.isGap rest) =
      some (path, Text.trimEnd Text.isGap rest) := by
    refine closeNonempty_eq_some.mpr ⟨rfl, cut.inner, fun member => one ?_, named⟩
    obtain ⟨gap, parts, -⟩ := Text.exists_trimEnd Text.isGap rest
    rw [parts]
    exact List.mem_append_left gap member
  rw [forwardPath?, opened, Option.bind_some, bare, Option.bind_none, Option.none_or, closed,
    Option.map_some, pathArguments_trimEnd]

theorem isTerminated_of_ending (front : Bytes) (ending : Ending) :
    (⟨front ++ ending.bytes⟩ : Line).isTerminated = true := by
  cases ending with
  | crlf => simp [isTerminated, terminatorLength, Ending.bytes]
  | lf =>
    rw [isTerminated, terminatorLength]
    simp only [Ending.bytes, List.reverse_append, List.reverse_singleton, List.singleton_append]
    split <;> simp_all

theorem chars_of_ending (cs : List Char) (ending : Ending) :
    (⟨Utf8.encode cs ++ ending.bytes⟩ : Line).chars = cs ∨
      ∃ front, cs = front ++ ['\r'] ∧
        (⟨Utf8.encode cs ++ ending.bytes⟩ : Line).chars = front := by
  cases ending with
  | crlf => exact .inl (by rw [chars, Ending.bytes, content_of_crlf, Utf8.lossy_encode])
  | lf =>
    rw [Ending.bytes]
    by_cases cr : (Utf8.encode cs).getLast? = some 13
    · right
      obtain ⟨front, last, rfl⟩ : ∃ front last, cs = front ++ [last] := by
        cases cs using List.reverseRecOn with
        | nil => contradiction
        | append_singleton front last => exact ⟨front, last, rfl⟩
      have split : Utf8.encode (front ++ [last]) = Utf8.encode front ++ Utf8.encode [last] := by
        rw [Utf8.encode, List.flatMap_append]
        rfl
      have written : Utf8.encode [last] ≠ [] := by
        intro none
        have read := Utf8.lossy_encode [last]
        rw [none] at read
        contradiction
      rw [split, List.getLast?_append, Option.or_eq_some_iff] at cr
      have ends := cr.resolve_right fun none => written (List.getLast?_eq_none_iff.mp none.1)
      obtain rfl : '\r' = last :=
        List.mem_singleton.mp
          (Utf8.mem_of_mem_encode (by decide : (13 : UInt8) < 0x80) (List.mem_of_getLast? ends))
      refine ⟨front, rfl, ?_⟩
      have carriage : Utf8.encode (front ++ ['\r']) ++ [10] = Utf8.encode front ++ [13, 10] := by
        rw [split, List.append_assoc]
        rfl
      rw [carriage, chars, content_of_crlf, Utf8.lossy_encode]
    · left
      rw [chars, content_of_lf cr, Utf8.lossy_encode]

/-- Whatever its ending, a line that is written as a spelled command is read as one. -/
theorem spelled_of_bytes {ending : Ending} (bytes : line.bytes = Utf8.encode cs ++ ending.bytes)
    (spelled : Spelled command cs path rest) (one : '\n' ∉ rest) :
    line.isTerminated = true ∧ ∃ rest', Spelled command line.chars path rest' ∧ '\n' ∉ rest' ∧
      pathArguments (path, rest') = pathArguments (path, rest) := by
  obtain rfl : line = ⟨Utf8.encode cs ++ ending.bytes⟩ := by rw [← bytes]
  refine ⟨isTerminated_of_ending _ ending, ?_⟩
  rcases chars_of_ending cs ending with whole | ⟨front, rfl, less⟩
  · rw [whole]
    exact ⟨rest, spelled, one, rfl⟩
  · obtain ⟨before, rfl, fewer⟩ := spelled.of_cr
    rw [less]
    refine ⟨before, fewer, fun member => one (List.mem_append_left _ member), ?_⟩
    rw [pathArguments, pathArguments, Text.trim_append_of_all (List.all_eq_true.mp (by decide))]

end Line

def Event.namesSender : Event → Bool
  | .mailCalled _ (.mailFrom _ _) _ => true
  | _ => false

variable {κ : Type} {config : Config} {features : List Feature} {s t : Session κ} {line : Line}

private def Silent (s t : Session κ) : Prop :=
  ∃ events, t.journal = events ++ s.unlogged.journal ∧ events.any Event.namesSender = false

private theorem silent_of_closeMail (kept : t.journal = s.unlogged.closeMail.journal) :
    Silent s t := by
  rw [Session.closeMail_eq] at kept
  refine ⟨_, kept, ?_⟩
  cases s.unlogged.mail <;> rfl

private theorem silent_of_takes {e : Exchange} {response : Bytes} {u : Session κ}
    (taken : Takes features line s e response u) (events : List Event)
    (quiet : events.any Event.namesSender = false) (kept : t.journal = events ++ u.journal) :
    Silent s t := by
  cases taken with
  | opened =>
    refine ⟨events ++ [_], kept.trans (List.append_cons _ _ _), ?_⟩
    rw [List.any_append, quiet]
    rfl
  | resumed => exact ⟨events, kept, quiet⟩

private theorem silent_of_receipt {answer : Except Fault Reply}
    (receipt : Receipt config line s answer t) : Silent s t := by
  cases receipt with
  | dropped | overflowed => exact ⟨[], rfl, rfl⟩
  | written | broken => exact ⟨[_], rfl, rfl⟩
  | abandoned => exact ⟨[_], rfl, rfl⟩
  | completed => exact ⟨[_, _], rfl, rfl⟩

private theorem Silent.requests (silent : Silent s t.unlogged) :
    ∃ calls, t.requests = calls ++ s.requests ∧ calls.any Event.namesSender = false := by
  obtain ⟨events, grown, quiet⟩ := silent
  refine ⟨events.filter Event.isCall, ?_, ?_⟩
  · rw [← Session.requests_unlogged, ← Session.requests_unlogged s, Session.requests, grown,
      List.filter_append, Session.requests]
  · exact List.any_eq_false.mpr fun event member =>
      List.any_eq_false.mp quiet event (List.mem_filter.mp member).1

private theorem Effect.silent {answer : Except Fault Reply}
    (effect : Effect config features line s answer t) :
    Silent s t ∨ (Text.upper line.verb = "MAIL" ∧ s.state = .afterEhlo ∧
      s.properties.get? Key.exchange.name = none) := by
  cases effect with
  | answered => exact .inl ⟨[], rfl, rfl⟩
  | greeted | reset | quit => exact .inl (silent_of_closeMail rfl)
  | senderRefused verb valid asked refused idle => exact .inr ⟨verb, valid, idle⟩
  | senderAccepted verb valid idle => exact .inr ⟨verb, valid, idle⟩
  | recipientRefused | recipientAccepted => exact .inl ⟨[_], rfl, rfl⟩
  | contentRefused => exact .inl ⟨[_, _], rfl, rfl⟩
  | contentBegun => exact .inl ⟨[_], rfl, rfl⟩
  | received valid receipt => exact .inl (silent_of_receipt receipt)
  | challenged taken => exact .inl (silent_of_takes taken [_] rfl rfl)
  | exchangeFailed taken | denied taken | authenticated taken =>
    exact .inl (silent_of_takes taken [_, _] rfl rfl)
  | cancelled | undecodable => exact .inl ⟨[_], rfl, rfl⟩

namespace Server

variable {newMail : Session κ → MailBehaviour} {custom : κ → Hook κ} {peer : String}
  {past : List (Passage κ)} {sender : Grammar.PathArguments}

theorem beginTransaction_conclude (line : Line) (site : Site κ) (sender : Grammar.PathArguments)
    (s : Session κ) :
    let done := Outcome.conclude line (beginTransaction site sender s)
    done.2.requests =
      .mailCalled s.mailsOpened (.mailFrom sender.path sender.parameters) done.1 ::
        .mailOpened s.mailsOpened s.peerName :: s.requests := by
  intro done
  have closed : s.closeMail.mailsOpened = s.mailsOpened ∧ s.closeMail.peerName = s.peerName := by
    rw [Session.closeMail_eq]
    exact ⟨rfl, rfl⟩
  rw [Outcome.requests_conclude, ← Session.requests_closeMail s, ← closed.1, ← closed.2]
  simp only [done, beginTransaction, Session.openMail, Session.callOn]
  split
  · rename_i told
    rw [told]
    rfl
  · rename_i told
    rw [told]
    split
    · exact Session.requests_adoptMail _ _
    · rfl

theorem requests_addRecipient {recipient : Grammar.PathArguments} {mail : MailObject}
    (holds : s.mail = some mail) :
    let done := Outcome.conclude line (addRecipient recipient s)
    done.2.requests =
      .mailCalled mail.serial (.rcptTo recipient.path recipient.parameters) done.1 ::
        s.requests := by
  intro done
  have told : done.1 = _ ∧ done.2.unlogged.journal = _ ∧ _ := addRecipient_conclude holds
  rw [told.1, ← Session.requests_unlogged, Session.requests, told.2.1,
    ← Session.requests_unlogged s]
  rfl

theorem silent_of_pending {v : Value}
    (run : Run (ofFeatures config newMail custom features) peer past s)
    (terminated : line.isTerminated = true)
    (pending : s.properties.get? Key.exchange.name = some v) :
    ∃ calls, ((ofFeatures config newMail custom features).consume s line).2.requests =
      calls ++ s.requests ∧ calls.any Event.namesSender = false := by
  rcases (run.effect terminated).silent with silent | ⟨-, -, idle⟩
  · exact silent.requests
  · rw [idle] at pending
    contradiction

private theorem spelled_of_told (run : Run (ofFeatures config newMail custom features) peer past s)
    (terminated : line.isTerminated = true) :
    ∃ calls, ((ofFeatures config newMail custom features).consume s line).2.requests =
        calls ++ s.requests ∧
      ∀ serial path parameters answer,
        Event.mailCalled serial (.mailFrom path parameters) answer ∈ calls →
          ∃ p r, Grammar.Spelled .mail line.chars p r ∧ '\n' ∉ r ∧
            path = String.ofList p ∧ parameters = String.ofList (Text.trim Text.isBlank r) := by
  have fits := run.fits
  rcases (run.effect terminated).silent with silent | ⟨verb, valid, idle⟩
  · obtain ⟨calls, grown, quiet⟩ := silent.requests
    exact ⟨calls, grown, fun serial path parameters answer told =>
      absurd rfl (List.any_eq_false.mp quiet _ told)⟩
  · cases named : Grammar.reversePath? (Grammar.arguments line.text) with
    | none =>
      have own : ("MAIL", (mail : Handler κ)) ∈ standardCommands := by simp [standardCommands]
      have served := dispatch_get?_of_standard config newMail custom features own verb
      have refusal : Refusal (ofFeatures config newMail custom features) s line _ :=
        .declined served (beq_iff_eq.mpr valid) (.sender named)
      have same := (consume_of_refusal fits (by simp [valid]) idle terminated refusal).2
      exact ⟨[], Session.requests_of_unlogged same,
        fun _ _ _ _ told => absurd told List.not_mem_nil⟩
    | some sender =>
      rw [consume_sender fits valid idle terminated verb named]
      split
      · exact ⟨[], rfl, fun _ _ _ _ told => absurd told List.not_mem_nil⟩
      · refine ⟨[_, _], beginTransaction_conclude line _ sender s,
          fun serial path parameters _ told => ?_⟩
        obtain ⟨p, r, spelled, one, rfl⟩ := Line.sender_iff.mp ⟨verb, named⟩
        simp only [List.mem_cons, Event.mailCalled.injEq, MailCall.mailFrom.injEq, reduceCtorEq,
          List.not_mem_nil, or_false] at told
        exact ⟨p, r, spelled, one, told.2.1.1, told.2.1.2⟩

/-- The mail object of a transaction is told of sender and recipients as the client spells them. Nobody
is told of a sender by any other line, and a text spells one path and one list of parameters. -/
theorem envelope_told (reachable : (ofFeatures config newMail custom features).Reachable peer s) :
    let server := ofFeatures config newMail custom features
    (∀ (line : Line) (cs p r : List Char) (ending : Ending),
      line.bytes = Utf8.encode cs ++ ending.bytes → Grammar.Spelled .mail cs p r → '\n' ∉ r →
      s.state = .afterEhlo → s.properties.get? Key.exchange.name = none →
      config.maxMessageSize = 0 →
        let done := server.consume s line
        done.2.requests =
          .mailCalled s.mailsOpened
              (.mailFrom (String.ofList p) (String.ofList (Text.trim Text.isBlank r))) done.1 ::
            .mailOpened s.mailsOpened s.peerName :: s.requests) ∧
    (∀ (line : Line) (cs p r : List Char) (ending : Ending),
      line.bytes = Utf8.encode cs ++ ending.bytes → Grammar.Spelled .rcpt cs p r → '\n' ∉ r →
      p ≠ [] → p.head? ≠ some '@' →
      s.state.inTransaction = true → recipientCount s < config.maxRecipients →
        let done := server.consume s line
        ∃ mail, s.mail = some mail ∧ done.2.requests =
          .mailCalled mail.serial
              (.rcptTo (String.ofList p) (String.ofList (Text.trim Text.isBlank r))) done.1 ::
            s.requests) ∧
    (∀ line : Line, line.isTerminated = true →
      ∃ calls, (server.consume s line).2.requests = calls ++ s.requests ∧
        ∀ serial path parameters answer,
          Event.mailCalled serial (.mailFrom path parameters) answer ∈ calls →
            ∃ p r, Grammar.Spelled .mail line.chars p r ∧ '\n' ∉ r ∧
              (10 ∉ line.content → '\n' ∉ p) ∧ path = String.ofList p ∧
              parameters = String.ofList (Text.trim Text.isBlank r)) ∧
    ∀ command cs p r p' r', Grammar.Spelled command cs p r → Grammar.Spelled command cs p' r' →
      p = p' ∧ r = r' := by
  obtain ⟨past, run⟩ := reachable
  intro server
  refine ⟨?_, ?_, ?_, fun command cs p r p' r' spelled => spelled.unique⟩
  · intro line cs p r ending bytes spelled one valid idle unlimited
    obtain ⟨terminated, r', read, one', same⟩ := Line.spelled_of_bytes bytes spelled one
    obtain ⟨verb, named⟩ := Line.sender_iff.mpr ⟨p, r', read, one', rfl⟩
    have within : exceedsLimit config (Grammar.pathArguments (p, r')) = false := by
      simp [exceedsLimit, unlimited]
    intro done
    have met : done = _ := consume_sender run.fits valid idle terminated verb named
    rw [within, if_neg Bool.false_ne_true] at met
    rw [met, beginTransaction_conclude, same]
    rfl
  · intro line cs p r ending bytes spelled one named unrouted valid room
    obtain ⟨terminated, r', read, one', same⟩ := Line.spelled_of_bytes bytes spelled one
    obtain ⟨verb, path⟩ := Line.recipient_of_spelled read one' named unrouted
    rw [same] at path
    obtain ⟨mail, holds⟩ := run.fits.exists_mail (State.holdsMail_of_inTransaction valid)
    intro done
    have met : done = _ := consume_recipient run.fits valid terminated verb path
    rw [if_neg (Nat.not_le_of_lt room)] at met
    refine ⟨mail, holds, ?_⟩
    rw [met]
    exact requests_addRecipient holds
  · intro line terminated
    obtain ⟨calls, grown, told⟩ := spelled_of_told run terminated
    refine ⟨calls, grown, fun serial path parameters answer member => ?_⟩
    obtain ⟨p, r, spelled, one, same⟩ := told serial path parameters answer member
    refine ⟨p, r, spelled, one, fun unbroken broken => unbroken ?_, same⟩
    have inside : '\n' ∈ line.chars := by
      obtain ⟨front, cut⟩ := spelled.bracketed
      simp [cut.parts, broken]
    exact Utf8.subset_of_mem_lossy inside (by decide) (by decide)

/-- Tabs, a bracket, a carriage return in front of a bare line feed, characters of several bytes and a
blank that is no gap are all told as they should be. -/
theorem envelope_told_of_odd_sender :
    let server := accepting {} Feature.standard
    let s := (server.replay "client.example" [.connect, .line (.ofText "EHLO client.example")]).2
    let line : Line :=
      ⟨Utf8.encode " \tmAiL\t From: <a <ß\r €>\u00A0BODY=8BITMIME\t\r".toList ++ Ending.lf.bytes⟩
    let done := server.consume s line
    done.2.requests =
        .mailCalled 0 (.mailFrom "a <ß\r €" "BODY=8BITMIME") done.1 ::
          .mailOpened 0 "client.example" :: s.requests ∧
      done.1.toOption = some .ok := by
  intro server s line done
  have run : server.Reachable "client.example" s :=
    ⟨_, run_replay server "client.example" _ (by decide +kernel)⟩
  have spelled : Grammar.Spelled .mail
      " \tmAiL\t From: <a <ß\r €>\u00A0BODY=8BITMIME\t\r".toList "a <ß\r €".toList
      "\u00A0BODY=8BITMIME\t\r".toList :=
    ⟨" \t".toList, "mAiL".toList, "\t ".toList, "From: ".toList, by decide +kernel,
      List.all_eq_true.mp (by decide +kernel), by decide +kernel, nofun,
      List.all_eq_true.mp (by decide +kernel),
      ⟨"From:".toList, [' '], by decide +kernel, .inr rfl, by decide +kernel⟩, by decide +kernel⟩
  have ⟨valid, vacant, told, opened, named⟩ : s.state = .afterEhlo ∧
      (s.properties.get? Key.exchange.name).isNone = true ∧
      String.ofList (Text.trim Text.isBlank "\u00A0BODY=8BITMIME\t\r".toList) = "BODY=8BITMIME" ∧
      s.mailsOpened = 0 ∧ s.peerName = "client.example" := by decide +kernel
  have facts := (envelope_told run).1 line _ _ _ .lf rfl spelled (by decide +kernel) valid
    (Option.isNone_iff_eq_none.mp vacant) rfl
  rw [told, opened, named, String.ofList_toList] at facts
  exact ⟨facts, by decide +kernel⟩

/-- While an exchange is in progress a spelled sender is a response of the client, and a line that holds a
line feed within its path names a sender by it. -/
theorem envelope_not_always_told :
    (let server := accepting {}
        [.auth ⟨⟨[.login fun _ authcid _ => .ok (.authorized authcid)]⟩, false⟩]
      let s := (server.replay "client.example" [.connect, .line (.ofText "EHLO client.example"),
        .line (.ofText "AUTH LOGIN")]).2
      let done := server.consume s (.ofText "MAIL FROM:<a@b.example>")
      Grammar.Spelled .mail (Line.ofText "MAIL FROM:<a@b.example>").chars "a@b.example".toList [] ∧
        s.state = .afterEhlo ∧ done.1.toOption = some .serverError ∧
        done.2.requests.any Event.namesSender = false) ∧
    (let server := accepting {} []
      let s := (server.replay "client.example" [.connect, .line (.ofText "EHLO client.example")]).2
      let line := Line.ofText "MAIL FROM:<a\nb>"
      let done := server.consume s line
      line.isTerminated = true ∧ done.2.mail.map (·.history.calls) = some [.mailFrom "a\nb" ""] ∧
        ¬∃ p r, Grammar.Spelled .mail line.chars p r ∧ '\n' ∉ p) := by
  have spelled {cs path : List Char}
      (same : cs = "MAIL FROM:<".toList ++ (path ++ ['>'])) (free : '>' ∉ path) :
      Grammar.Spelled .mail cs path [] :=
    ⟨[], "MAIL".toList, [' '], "FROM:".toList, by rw [same]; rfl, nofun, by decide +kernel, nofun,
      List.all_eq_true.mp (by decide), ⟨"FROM:".toList, [], by decide +kernel, .inl rfl, rfl⟩, free⟩
  refine ⟨⟨spelled (Line.chars_ofText _) (by decide +kernel), by decide +kernel, by decide +kernel,
    by decide +kernel⟩, by decide +kernel, by decide +kernel, ?_⟩
  rintro ⟨p, r, other, unbroken⟩
  have whole : Grammar.Spelled .mail (Line.ofText "MAIL FROM:<a\nb>").chars ['a', '\n', 'b'] [] :=
    spelled (Line.chars_ofText _) (by decide)
  obtain ⟨rfl, -⟩ := whole.unique other
  exact unbroken (by decide)

end Server

end SmtpDialog
