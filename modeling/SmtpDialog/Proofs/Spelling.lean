/- digest: How a client spells a command does not matter. -/
import SmtpDialog.Proofs.Envelope
import SmtpDialog.Proofs.Registry
import SmtpDialog.Proofs.Serving

set_option autoImplicit false
set_option relaxedAutoImplicit false

namespace SmtpDialog

open Command

variable {κ : Type}

namespace Handler

/-- Whether a handler reads nothing of a line but its arguments. -/
def ReadsArguments (handler : Handler κ) : Prop :=
  ∀ (site : Site κ) (s : Session κ) {text other : String},
    Grammar.arguments text = Grammar.arguments other →
      handler.run site s (some text) = handler.run site s (some other)

/-- Whether a handler never leaves a line to others. -/
def Decides (handler : Handler κ) : Prop :=
  ∀ (site : Site κ) (s : Session κ) (line : Option String),
    (handler.run site s line).1 ≠ .ok .declined

end Handler

theorem Outcome.stay_decides (reply : Reply) (s : Session κ) :
    (Outcome.stay reply s).1 ≠ .ok .declined := by
  simp [Outcome.stay]

theorem Outcome.goTo_decides (next : State) (reply : Reply) (s : Session κ) :
    (Outcome.goTo next reply s).1 ≠ .ok .declined := by
  simp [Outcome.goTo]

private theorem beginTransaction_decides (site : Site κ) (sender : Grammar.PathArguments)
    (s : Session κ) : (beginTransaction site sender s).1 ≠ .ok .declined := by
  simp only [beginTransaction]
  split
  · simp
  · split
    · exact Outcome.goTo_decides _ _ _
    · exact Outcome.stay_decides _ _

private theorem addRecipient_decides (recipient : Grammar.PathArguments) (s : Session κ) :
    (addRecipient recipient s).1 ≠ .ok .declined := by
  simp only [addRecipient]
  split
  · exact Outcome.goTo_decides _ _ _
  · simp
  · split
    · exact Outcome.goTo_decides _ _ _
    · exact Outcome.stay_decides _ _

private theorem beginContent_decides (s : Session κ) :
    (beginContent s).1 ≠ .ok .declined := by
  simp only [beginContent]
  split <;> exact Outcome.goTo_decides _ _ _

private theorem authenticate_decides (policy : AuthPolicy) (name : String)
    (token : Option (List Char)) (s : Session κ) :
    (authenticate policy name token s).1 ≠ .ok .declined := by
  simp only [authenticate]
  split
  · simp only [beginExchange]
    split
    · exact Server.continueExchange_decides _ _ _
    · split
      · exact Outcome.stay_decides _ _
      · split
        · exact Server.continueExchange_decides _ _ _
        · exact Outcome.stay_decides _ _
  · exact Outcome.stay_decides _ _

section

variable {features : List Feature} {verb : String} {handler : Handler κ}

theorem Server.Serves.readsArguments (serves : Server.Serves features verb handler) :
    handler.ReadsArguments := by
  intro site s text other same
  cases serves with
  | helo | ehlo =>
    simp only [Command.helo, Command.ehlo, greetingBy, Option.bind_some, Function.comp_apply, same]
  | mail | rcpt | data | startTls | auth _ =>
    have read : Handler.arguments (some text) = Handler.arguments (some other) := same
    simp only [Command.mail, Command.rcpt, Command.data, Command.startTls, Command.auth]
    rw [read]
  | rset | noop | vrfy | help | quit => rfl

theorem Server.Serves.decides (serves : Server.Serves features verb handler) :
    handler.Decides := by
  intro site s line
  cases serves with
  | helo | ehlo =>
    simp only [Command.helo, Command.ehlo, greetingBy]
    split
    · exact Outcome.stay_decides _ _
    · exact Outcome.goTo_decides _ _ _
  | mail =>
    simp only [Command.mail]
    split
    · exact Outcome.stay_decides _ _
    · split
      · exact Outcome.stay_decides _ _
      · exact beginTransaction_decides _ _ _
  | rcpt =>
    simp only [Command.rcpt]
    split
    · exact Outcome.stay_decides _ _
    · split
      · exact Outcome.stay_decides _ _
      · exact addRecipient_decides _ _
  | data =>
    simp only [Command.data]
    split
    · exact beginContent_decides _
    · exact Outcome.stay_decides _ _
  | rset | quit => exact Outcome.goTo_decides _ _ _
  | noop | vrfy | help => exact Outcome.stay_decides _ _
  | startTls =>
    simp only [Command.startTls]
    repeat' split
    all_goals exact Outcome.stay_decides _ _
  | auth offered =>
    simp only [Command.auth]
    split
    · exact authenticate_decides _ _ _ _
    · exact authenticate_decides _ _ _ _
    · exact Outcome.stay_decides _ _

theorem Server.Serves.solid (serves : Server.Serves features verb handler) :
    verb.toList ≠ [] ∧ verb.toList.any Text.isGap = false ∧ '\r' ∉ verb.toList := by
  cases serves <;> decide +kernel

end

/-- Whether a line spells a command: gaps, the verb in letters of either case, a gap, the arguments, gaps
and an ending. The gap behind the verb may be missing only where there are no arguments. -/
def Line.Spells (line : Line) (verb args : String) : Prop :=
  ∃ (lead word gap trail : List Char) (ending : Ending),
    line.bytes = Utf8.encode (lead ++ (word ++ (gap ++ (args.toList ++ trail)))) ++ ending.bytes ∧
      (∀ c ∈ lead, Text.isGap c = true) ∧ Text.sameLetters (String.ofList word) verb = true ∧
      (args ≠ "" → gap ≠ []) ∧ (∀ c ∈ gap, Text.isGap c = true) ∧
      ∀ c ∈ trail, Text.isGap c = true

/-- Whether arguments neither begin nor end with what is taken off a line. -/
structure Bare (args : String) : Prop where
  front : ∀ c ∈ args.toList.head?, Text.isGap c = false
  back : ∀ c ∈ args.toList.getLast?, Text.isGap c = false ∧ c ≠ '\r'

theorem Line.spells_canonical (verb args : String) :
    (ofText (Text.upper verb ++ " " ++ args)).Spells verb args := by
  refine ⟨[], (Text.upper verb).toList, [' '], [], .crlf, ?_, nofun, ?_, fun _ => nofun,
    List.all_eq_true.mp (by decide), nofun⟩
  · rw [ofText_eq]
    simp [Ending.bytes, String.toList_append]
  · rw [String.ofList_toList, Text.sameLetters, Text.upper_upper, beq_self_eq_true]

section

variable {lead word gap trail args : List Char}

private theorem words_of_bare (leads : ∀ c ∈ lead, Text.isGap c = true)
    (solid : ∀ c ∈ word, Text.isGap c = false) :
    (Text.trimStart Text.isGap (lead ++ word)).takeWhile (!Text.isGap ·) = word ∧
      Grammar.argumentChars (lead ++ word) = [] := by
  have passes : ∀ c ∈ word, (!Text.isGap c) = true := fun c member => by simp [solid c member]
  have body : Text.trimStart Text.isGap (lead ++ word) = word :=
    Text.trimStart_append leads fun c first => solid c (List.mem_of_mem_head? first)
  constructor
  · rw [body, ← List.append_nil word, List.takeWhile_append_of_pos passes, List.takeWhile_nil]
  · have behind : word.dropWhile (!Text.isGap ·) = [] := by
      rw [← List.append_nil word, List.dropWhile_append_of_pos passes, List.dropWhile_nil]
    rw [Grammar.argumentChars, body, behind]
    rfl

private theorem words_of_spelling (leads : ∀ c ∈ lead, Text.isGap c = true) (some : word ≠ [])
    (solid : ∀ c ∈ word, Text.isGap c = false) (between : args ≠ [] → gap ≠ [])
    (gaps : ∀ c ∈ gap, Text.isGap c = true) (trails : ∀ c ∈ trail, Text.isGap c = true)
    (front : ∀ c ∈ args.head?, Text.isGap c = false)
    (back : ∀ c ∈ args.getLast?, Text.isGap c = false) :
    let cs := lead ++ (word ++ (gap ++ (args ++ trail)))
    (Text.trimStart Text.isGap cs).takeWhile (!Text.isGap ·) = word ∧
      Grammar.argumentChars cs = args := by
  intro cs
  by_cases none : args = []
  · subst none
    have blank : ∀ c ∈ gap ++ trail, Text.isGap c = true := fun c member =>
      (List.mem_append.mp member).elim (gaps c) (trails c)
    have parts : cs = lead ++ (word ++ ((gap ++ trail) ++ [])) := by simp [cs]
    rw [parts]
    by_cases joined : gap ++ trail = []
    · rw [joined, List.append_nil, List.append_nil]
      exact words_of_bare leads solid
    · exact Grammar.words_of_parts leads some solid joined blank nofun
  · have begins : ∀ c ∈ (args ++ trail).head?, Text.isGap c = false := by
      obtain ⟨a, rest, rfl⟩ := List.exists_cons_of_ne_nil none
      exact front
    obtain ⟨first, read⟩ := Grammar.words_of_parts leads some solid (between none) gaps begins
    refine ⟨first, ?_⟩
    rw [read, Text.trimEnd_append_of_all trails]
    obtain ⟨before, last, rfl⟩ := (List.eq_nil_or_concat args).resolve_left none
    rw [List.concat_eq_append] at back ⊢
    exact Text.trimEnd_append_cons (back last (by simp)) before []

end

private theorem getLast?_append_ne {c : Char} {xs ys : List Char} (first : xs.getLast? ≠ some c)
    (second : ys.getLast? ≠ some c) : (xs ++ ys).getLast? ≠ some c := by
  rw [List.getLast?_append, ne_eq, Option.or_eq_some_iff]
  rintro (last | ⟨-, last⟩)
  · exact second last
  · exact first last

private theorem Line.chars_of_getLast?_ne {cs : List Char} (ends : cs.getLast? ≠ some '\r')
    (ending : Ending) : (⟨Utf8.encode cs ++ ending.bytes⟩ : Line).chars = cs := by
  rcases chars_of_ending cs ending with whole | ⟨front, rfl, -⟩
  · exact whole
  · exact absurd List.getLast?_concat ends

/-- Where a verb is served, the lines that spell it are read as they are spelled. -/
theorem Line.Spells.read {features : List Feature} {line : Line} {verb args : String}
    {handler : Handler κ} (serves : Server.Serves features (Text.upper verb) handler)
    (bare : Bare args) (spells : line.Spells verb args) :
    line.isTerminated = true ∧ Text.upper line.verb = Text.upper verb ∧
      Grammar.arguments line.text = args := by
  obtain ⟨lead, word, gap, trail, ending, bytes, leads, letters, between, gaps, trails⟩ := spells
  obtain ⟨some, solid, smooth⟩ := serves.solid
  obtain rfl : line = ⟨_⟩ := congrArg Line.mk bytes
  have capital : word.map Char.toUpper = (Text.upper verb).toList := by
    rw [← Text.sameLetters_iff.mp letters, Text.upper, String.toList_ofList, String.toList_ofList]
  rw [← capital] at some solid smooth
  have ends : (lead ++ (word ++ (gap ++ (args.toList ++ trail)))).getLast? ≠ Option.some '\r' := by
    have blank {cs : List Char} (all : ∀ c ∈ cs, Text.isGap c = true) :
        cs.getLast? ≠ Option.some '\r' := fun last =>
      absurd (all _ (List.mem_of_getLast? last)) (by decide)
    have verbal : word.getLast? ≠ Option.some '\r' := fun last =>
      smooth (List.mem_map_of_mem (f := Char.toUpper) (List.mem_of_getLast? last))
    have closed : args.toList.getLast? ≠ Option.some '\r' := fun last => (bare.back _ last).2 rfl
    exact getLast?_append_ne (blank leads) (getLast?_append_ne verbal
      (getLast?_append_ne (blank gaps) (getLast?_append_ne closed (blank trails))))
  have chars := Line.chars_of_getLast?_ne ends ending
  obtain ⟨first, read⟩ := words_of_spelling leads (by simpa using some)
    (Grammar.free_of_toUpper solid) (fun more => between (by simpa using more)) gaps trails
    bare.front fun c last => (bare.back c last).1
  refine ⟨Line.isTerminated_of_ending _ ending, ?_, ?_⟩
  · rw [Line.upper_verb, chars, first, capital]
  · rw [← String.toList_inj, Line.toList_arguments, chars, read]

private theorem Outcome.conclude_of_decided (line other : Line) {done : Outcome κ}
    (decided : done.1 ≠ .ok .declined) : done.conclude line = done.conclude other := by
  obtain ⟨verdict, s⟩ := done
  cases verdict with
  | error fault => rfl
  | ok verdict =>
    cases verdict with
    | declined => exact absurd rfl decided
    | handled t => rfl

namespace Server

/-- A handler that decides and reads the arguments alone cannot tell two lines of its verb with the same
arguments apart. -/
theorem consume_of_readsArguments {server : Server κ} {s : Session κ} {line other : Line}
    {handler : Handler κ} (alone : s.consumers.values = [.dispatch])
    (found : server.dispatch.get? line.verb = some handler) (reads : handler.ReadsArguments)
    (decides : handler.Decides) (terminated : line.isTerminated = true)
    (terminated' : other.isTerminated = true)
    (verb : Text.upper line.verb = Text.upper other.verb)
    (args : Grammar.arguments line.text = Grammar.arguments other.text) :
    server.consume s line = server.consume s other := by
  have found' : server.dispatch.get? other.verb = some handler := by
    rw [← found, Dispatch.get?, Dispatch.get?, verb]
  have same : handler.handle server.site s (some line.text) =
      handler.handle server.site s (some other.text) := by
    rw [Handler.handle, Handler.handle, reads server.site s args]
  have decided : (handler.handle server.site s (some other.text)).1 ≠ .ok .declined := by
    rw [Handler.handle]
    split
    · exact decides _ _ _
    · exact Outcome.stay_decides _ _
  rw [consume_of_dispatch alone, consume_of_dispatch alone, Dispatch.consume, Dispatch.consume,
    if_pos terminated, if_pos terminated', found, found']
  dsimp only
  rw [same]
  exact Outcome.conclude_of_decided line other decided

variable {config : Config} {newMail : Session κ → MailBehaviour} {custom : κ → Hook κ}
  {features : List Feature} {s : Session κ} {line : Line} {peer verb args : String}

/-- However a command is spelled, it has the result of the canonical spelling. -/
theorem consume_of_spelled
    (reachable : (ofFeatures config newMail custom features).Reachable peer s)
    (quiet : s.state ≠ .readingData) (idle : s.properties.get? Key.exchange.name = none)
    (registered : ((ofFeatures config newMail custom features).dispatch.get? verb).isSome = true)
    (bare : Bare args) (spells : line.Spells verb args) :
    let server := ofFeatures config newMail custom features
    server.consume s line = server.consume s (.ofText (Text.upper verb ++ " " ++ args)) := by
  obtain ⟨past, run⟩ := reachable
  obtain ⟨handler, found⟩ := Option.isSome_iff_exists.mp registered
  have serves := serves_of_get? config newMail custom features found
  have alone : s.consumers.values = [.dispatch] := by
    rw [run.fits.consumers_of_idle quiet idle]
    rfl
  obtain ⟨terminated, named, given⟩ := spells.read serves bare
  obtain ⟨terminated', named', given'⟩ := (Line.spells_canonical verb args).read serves bare
  have same : (ofFeatures config newMail custom features).dispatch.get? line.verb =
      some handler := by
    rw [← found, Dispatch.get?, Dispatch.get?, named]
  exact consume_of_readsArguments alone same serves.readsArguments serves.decides terminated
    terminated' (named.trans named'.symm) (given.trans given'.symm)

/-- Tabs around every part, letters of both cases and a bare line feed. -/
theorem consume_of_spelled_of_odd_sender :
    let server := accepting {} Feature.standard
    let s := (server.replay "client.example" [.connect, .line (.ofText "EHLO client.example")]).2
    let line : Line := ⟨Utf8.encode " \tmAiL\t FROM:<a@b.example> SIZE=1 \t".toList ++ [10]⟩
    (server.consume s line).1.toOption = some .ok ∧
      server.consume s line = server.consume s (.ofText "MAIL FROM:<a@b.example> SIZE=1") := by
  intro server s line
  have run : server.Reachable "client.example" s :=
    ⟨_, run_replay server "client.example" [.connect, .line (.ofText "EHLO client.example")]
      (by decide +kernel)⟩
  have ⟨quiet, vacant⟩ : s.state ≠ .readingData ∧
      (s.properties.get? Key.exchange.name).isNone = true := by decide +kernel
  have spells : line.Spells "Mail" "FROM:<a@b.example> SIZE=1" :=
    ⟨" \t".toList, "mAiL".toList, "\t ".toList, " \t".toList, .lf, by decide +kernel,
      List.all_eq_true.mp (by decide +kernel), by decide +kernel, fun _ => by decide +kernel,
      List.all_eq_true.mp (by decide +kernel), List.all_eq_true.mp (by decide +kernel)⟩
  have bare : Bare "FROM:<a@b.example> SIZE=1" := by
    have ⟨first, last⟩ : "FROM:<a@b.example> SIZE=1".toList.head? = some 'F' ∧
        "FROM:<a@b.example> SIZE=1".toList.getLast? = some '1' := by decide +kernel
    constructor
    · intro c front
      obtain rfl : 'F' = c := Option.some.inj (first.symm.trans front)
      decide
    · intro c back
      obtain rfl : '1' = c := Option.some.inj (last.symm.trans back)
      decide
  have same := consume_of_spelled run quiet (Option.isNone_iff_eq_none.mp vacant)
    (by decide +kernel) bare spells
  have canonical : Text.upper "Mail" ++ " " ++ "FROM:<a@b.example> SIZE=1" =
      "MAIL FROM:<a@b.example> SIZE=1" := by decide +kernel
  rw [canonical] at same
  exact ⟨by decide +kernel, same⟩

end Server

end SmtpDialog
