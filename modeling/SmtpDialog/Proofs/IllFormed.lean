/- digest: Command lines that are no UTF-8, and when they are refused. -/
import SmtpDialog.Proofs.Answers
import SmtpDialog.Proofs.Refusals
import SmtpDialog.Proofs.Transparency

set_option autoImplicit false
set_option relaxedAutoImplicit false

namespace SmtpDialog

open Command

/-- Whether a reply refuses for good, by a code of the form 5yz. -/
def Reply.isPermanent (reply : Reply) : Bool := reply.code?.any fun n => 500 ≤ n && n ≤ 599

/-- The line with the replacement spelled out for all that is ill-formed in it. -/
def Line.repaired (line : Line) : Line := ⟨Utf8.encode line.chars ++ [13, 10]⟩

variable {κ : Type} {config : Config} {features : List Feature} {s : Session κ} {line : Line}

/-- Whether a greeting or an envelope command gets past the checks on its place and its form, and MAIL
past the one on the declared size. -/
inductive Admitted (config : Config) (s : Session κ) (line : Line) : Prop
  | greeting (verb : line.greets = true) (valid : greetable s.state = true)
  | sender {sender : Grammar.PathArguments} (verb : Text.upper line.verb = "MAIL")
      (valid : s.state = .afterEhlo)
      (named : Grammar.reversePath? (Grammar.arguments line.text) = some sender)
      (within : exceedsLimit config sender = false)
  | recipient {recipient : Grammar.PathArguments} (verb : Text.upper line.verb = "RCPT")
      (valid : s.state.inTransaction = true)
      (named : Grammar.forwardPath? (Grammar.arguments line.text) = some recipient)

namespace Line

theorem content_repaired (line : Line) : line.repaired.content = Utf8.encode line.chars :=
  content_of_crlf _

theorem isTerminated_repaired (line : Line) : line.repaired.isTerminated = true := by
  simp [repaired, isTerminated, terminatorLength]

theorem chars_repaired (line : Line) : line.repaired.chars = line.chars := by
  rw [chars, content_repaired, Utf8.lossy_encode]

/-- The repaired line is UTF-8, and reads as the line itself. -/
theorem decode?_content_repaired (line : Line) :
    Utf8.decode? line.repaired.content = some line.chars := by
  rw [content_repaired, Utf8.decode?_encode]

end Line

private theorem not_mem_verb {verb : String} (named : Text.upper line.verb = verb)
    (ascii : '\uFFFD' ∉ verb.toList) : '\uFFFD' ∉ line.verb.toList := by
  intro member
  have inside : '\uFFFD'.toUpper ∈ (Text.upper line.verb).toList := by
    rw [Text.upper, String.toList_ofList]
    exact List.mem_map_of_mem member
  rw [named] at inside
  exact ascii inside

private theorem mem_dropWhile {p : Char → Bool} {c : Char} {cs : List Char} (member : c ∈ cs)
    (fails : p c = false) : c ∈ cs.dropWhile p := by
  induction cs with
  | nil => contradiction
  | cons d cs ih =>
    rw [List.dropWhile_cons]
    split
    · rename_i holds
      apply ih
      rcases List.mem_cons.mp member with rfl | later
      · rw [fails] at holds
        contradiction
      · exact later
    · exact member

private theorem head?_trim {p : Char → Bool} {c : Char} {cs : List Char} (member : c ∈ cs)
    (fails : p c = false) : ∃ first rest, Text.trim p cs = first :: rest ∧ p first = false := by
  have inside : c ∈ Text.trimStart p cs := mem_dropWhile member fails
  have stops := List.head?_dropWhile_not p cs
  rw [Text.trim]
  rw [← Text.trimStart] at stops
  cases found : Text.trimStart p cs with
  | nil =>
    rw [found] at inside
    contradiction
  | cons first rest =>
    rw [found] at stops
    have keeps : p first = false := stops
    refine ⟨first, Text.trimEnd p rest, ?_, keeps⟩
    rw [Text.trimEnd, Text.trimEnd, List.reverse_cons, List.dropWhile_append]
    cases List.dropWhile p rest.reverse <;> simp [keeps]

/-- An ill-formed line has an argument, so the host name of a greeting is never missing. -/
private theorem exists_domain (illFormed : Utf8.decode? line.content = none)
    (greets : line.greets = true) :
    ∃ domain, Grammar.heloDomain? (Grammar.arguments line.text) = some domain := by
  have replaced : '\uFFFD' ∈ line.body :=
    mem_dropWhile (Utf8.mem_lossy_of_ill_formed illFormed) (by decide)
  have outside : '\uFFFD' ∉ line.body.takeWhile (!Text.isGap ·) := by
    have verb : '\uFFFD' ∉ line.verb.toList := by
      rw [Line.greets, Bool.or_eq_true, beq_iff_eq, beq_iff_eq] at greets
      rcases greets with named | named
      · exact not_mem_verb named (by decide)
      · exact not_mem_verb named (by decide)
    rwa [Line.verb, String.toList_ofList] at verb
  have behind : '\uFFFD' ∈ line.body.dropWhile (!Text.isGap ·) := by
    rw [← List.takeWhile_append_dropWhile (p := (!Text.isGap ·)) (l := line.body)] at replaced
    exact (List.mem_append.mp replaced).resolve_left outside
  obtain ⟨first, rest, trimmed, visible⟩ := head?_trim behind (by decide : Text.isGap _ = false)
  have arguments : (Grammar.arguments line.text).toList = first :: rest := by
    rw [Grammar.arguments, String.toList_ofList, Grammar.argumentChars, Line.text,
      String.toList_ofList]
    exact trimmed
  rw [Grammar.heloDomain?, arguments, List.takeWhile_cons, if_pos (by simp [visible])]
  exact ⟨_, rfl⟩

namespace Server

variable {newMail : Session κ → MailBehaviour} {custom : κ → Hook κ}

/-- Outside of messages only the characters of a line count. -/
theorem consume_congr {other : Line} (fits : s.Fits s.state) (quiet : s.state ≠ .readingData)
    (terminated : line.isTerminated = true) (terminated' : other.isTerminated = true)
    (same : other.chars = line.chars) :
    (ofFeatures config newMail custom features).consume s other =
      (ofFeatures config newMail custom features).consume s line := by
  have verb : other.verb = line.verb := by rw [Line.verb, Line.verb, Line.body, Line.body, same]
  have text : other.text = line.text := by rw [Line.text, Line.text, same]
  have conclude (done : Outcome κ) : done.conclude other = done.conclude line := by
    simp only [Outcome.conclude, verb]
  cases found : s.properties.get? Key.exchange.name with
  | some v =>
    obtain ⟨⟨e, rfl⟩, -⟩ := fits.exchange v found
    rw [consume_of_pending fits found, consume_of_pending fits found, conclude, takeResponse,
      takeResponse, same]
  | none =>
    rw [consume_of_idle fits quiet found, consume_of_idle fits quiet found, conclude,
      Dispatch.consume, Dispatch.consume, if_pos terminated, if_pos terminated', verb, text]

private theorem unlogged_ne_of_asked {done : Outcome κ} (asked : s.Asked done.2) :
    (done.conclude line).2.unlogged ≠ s.unlogged := by
  intro same
  have calls := Session.requests_of_unlogged same
  rw [Outcome.requests_conclude] at calls
  exact asked.requests_ne calls

private theorem not_refused_of_admitted (fits : s.Fits s.state)
    (idle : s.properties.get? Key.exchange.name = none) (terminated : line.isTerminated = true)
    (illFormed : Utf8.decode? line.content = none) (admitted : Admitted config s line) {reply : Reply}
    (answered : ((ofFeatures config newMail custom features).consume s line).1 = .ok reply)
    (permanent : reply.isPermanent = true) :
    ((ofFeatures config newMail custom features).consume s line).2.unlogged ≠ s.unlogged := by
  cases admitted with
  | greeting greets valid =>
    obtain ⟨domain, named⟩ := exists_domain illFormed greets
    obtain ⟨welcome, accepted, code, -⟩ := consume_of_greeting config newMail custom features fits
      valid idle terminated greets named
    obtain rfl : welcome = reply := Except.ok.inj (accepted.symm.trans answered)
    rw [Reply.isPermanent, code] at permanent
    exact absurd permanent (by decide)
  | sender verb valid named within =>
    rw [consume_sender fits valid idle terminated verb named, if_neg (by simp [within])]
    exact unlogged_ne_of_asked (beginTransaction_asked _ _ s)
  | @recipient recipient verb valid named =>
    obtain ⟨mail, holds⟩ := fits.exists_mail (State.holdsMail_of_inTransaction valid)
    rw [consume_recipient fits valid terminated verb named] at answered ⊢
    split at answered
    · obtain rfl := Except.ok.inj answered
      exact absurd permanent (by decide)
    · rename_i room
      rw [if_neg room]
      exact unlogged_ne_of_asked (addRecipient_asked recipient holds)

private theorem refused_of_not_admitted (fits : s.Fits s.state) (quiet : s.state ≠ .readingData)
    (idle : s.properties.get? Key.exchange.name = none) (terminated : line.isTerminated = true)
    (verb : Text.upper line.verb ∈ ["HELO", "EHLO", "MAIL", "RCPT"])
    (barred : ¬Admitted config s line) :
    ∃ reply, ((ofFeatures config newMail custom features).consume s line).1 = .ok reply ∧
      reply.isPermanent = true ∧
      ((ofFeatures config newMail custom features).consume s line).2.unlogged = s.unlogged := by
  have refused {reply : Reply} (permanent : reply.isPermanent = true)
      (refusal : Refusal (ofFeatures config newMail custom features) s line reply) :
      ∃ reply, ((ofFeatures config newMail custom features).consume s line).1 = .ok reply ∧
        reply.isPermanent = true ∧
        ((ofFeatures config newMail custom features).consume s line).2.unlogged = s.unlogged := by
    obtain ⟨answered, same⟩ := consume_of_refusal fits quiet idle terminated refusal
    exact ⟨reply, answered, permanent, same⟩
  have served {name : String} {handler : Handler κ} (own : (name, handler) ∈ standardCommands)
      (named : Text.upper line.verb = name) :
      (ofFeatures config newMail custom features).dispatch.get? line.verb = some handler :=
    dispatch_get?_of_standard config newMail custom features own named
  have greeting {name : String} {handler : Handler κ} (own : (name, handler) ∈ standardCommands)
      (named : Text.upper line.verb = name) (greets : line.greets = true)
      (gate : handler.validFor s = greetable s.state) :
      ∃ reply, ((ofFeatures config newMail custom features).consume s line).1 = .ok reply ∧
        reply.isPermanent = true ∧
        ((ofFeatures config newMail custom features).consume s line).2.unlogged = s.unlogged := by
    cases valid : greetable s.state with
    | true => exact absurd (.greeting greets valid) barred
    | false => exact refused rfl (.sequence (served own named) (gate.trans valid))
  simp only [List.mem_cons, List.not_mem_nil, or_false] at verb
  rcases verb with named | named | named | named
  · exact greeting (by simp [standardCommands]) named (by simp [Line.greets, named])
      (rfl : helo.validFor s = greetable s.state)
  · exact greeting (by simp [standardCommands]) named (by simp [Line.greets, named])
      (rfl : ehlo.validFor s = greetable s.state)
  · have own : ("MAIL", (mail : Handler κ)) ∈ standardCommands := by simp [standardCommands]
    cases valid : (mail : Handler κ).validFor s with
    | false => exact refused rfl (.sequence (served own named) valid)
    | true =>
      cases path : Grammar.reversePath? (Grammar.arguments line.text) with
      | none => exact refused rfl (.declined (served own named) valid (.sender path))
      | some sender =>
        cases exceeds : exceedsLimit config sender with
        | true =>
          have tooLong : exceedsLimit (ofFeatures config newMail custom features).site.config
              sender = true := by rwa [ofFeatures_site_config]
          exact refused (by rfl) (.declined (served own named) valid (.size path tooLong))
        | false => exact absurd (.sender named (beq_iff_eq.mp valid) path exceeds) barred
  · have own : ("RCPT", (rcpt : Handler κ)) ∈ standardCommands := by simp [standardCommands]
    cases valid : (rcpt : Handler κ).validFor s with
    | false => exact refused rfl (.sequence (served own named) valid)
    | true =>
      cases path : Grammar.forwardPath? (Grammar.arguments line.text) with
      | none => exact refused rfl (.declined (served own named) valid (.recipient path))
      | some recipient => exact absurd (.recipient named valid path) barred

/-- A response changes the session in any case, for it is heard or the exchange is over. -/
theorem unlogged_ne_of_pending {e : Exchange}
    (pending : s.properties.get? Key.exchange.name = some (.exchange e)) :
    (Outcome.conclude line (takeResponse e line (s.clearProperty .exchange))).2.unlogged ≠
      s.unlogged := by
  have lost {t : Session κ}
      (erased : t.unlogged.properties = s.properties.erase Key.exchange.name) :
      t.unlogged ≠ s.unlogged := by
    intro same
    have gone : t.unlogged.properties.get? Key.exchange.name = none := by
      rw [erased, Session.get?_erase, if_pos rfl]
    rw [same, Session.unlogged_properties, pending] at gone
    contradiction
  simp only [takeResponse]
  split
  · apply lost
    simp only [Outcome.goTo, Outcome.conclude, Server.settle, Session.unlogged_moveTo]
    rfl
  · split
    · exact unlogged_ne_of_asked ⟨_, [], requests_continueExchange _ _ _⟩
    · exact lost rfl

private theorem not_permanent_of_receipt {answer : Except Fault Reply} {t : Session κ}
    (illFormed : Utf8.decode? line.content = none) (receipt : Receipt config line s answer t)
    {reply : Reply} (answered : answer = .ok reply) : reply.isPermanent = false := by
  have ongoing : line.endsContent = false := by
    rw [Line.endsContent, beq_eq_false_iff_ne]
    intro dot
    rw [dot] at illFormed
    exact absurd illFormed (by decide)
  cases receipt with
  | dropped | overflowed | written | broken =>
    obtain rfl := Except.ok.inj answered
    rfl
  | abandoned dot | completed dot =>
    rw [ongoing] at dot
    contradiction

/-- A line with one of the four verbs that is no UTF-8 is refused for good without any trace just where
commands are taken and the line that spells the replacement out does not pass the checks; the two lines
are not told apart. -/
theorem ill_formed_refused_iff {peer : String}
    (reachable : (ofFeatures config newMail custom features).Reachable peer s)
    (terminated : line.isTerminated = true) (illFormed : Utf8.decode? line.content = none)
    (verb : Text.upper line.verb ∈ ["HELO", "EHLO", "MAIL", "RCPT"]) :
    let server := ofFeatures config newMail custom features
    let done := server.consume s line
    ((∃ reply, done.1 = .ok reply ∧ reply.isPermanent = true ∧ done.2.unlogged = s.unlogged) ↔
      s.state ≠ .readingData ∧ s.properties.get? Key.exchange.name = none ∧
        ¬Admitted config s line) ∧
    (s.state ≠ .readingData → Utf8.decode? line.repaired.content = some line.chars ∧
      server.consume s line.repaired = done) := by
  obtain ⟨past, run⟩ := reachable
  have fits := run.fits
  refine ⟨⟨?_, ?_⟩, fun quiet => ⟨line.decode?_content_repaired, ?_⟩⟩
  · rintro ⟨reply, answered, permanent, same⟩
    have quiet : s.state ≠ .readingData := by
      intro receiving
      have receipt := run.receipt receiving line
      rw [not_permanent_of_receipt illFormed receipt answered] at permanent
      exact Bool.false_ne_true permanent
    have idle : s.properties.get? Key.exchange.name = none := by
      cases found : s.properties.get? Key.exchange.name with
      | none => rfl
      | some v =>
        obtain ⟨⟨e, rfl⟩, -⟩ := fits.exchange v found
        rw [consume_of_pending fits found] at same
        exact absurd same (unlogged_ne_of_pending found)
    refine ⟨quiet, idle, fun admitted => ?_⟩
    exact not_refused_of_admitted fits idle terminated illFormed admitted answered permanent same
  · rintro ⟨quiet, idle, barred⟩
    exact refused_of_not_admitted fits quiet idle terminated verb barred
  · exact consume_congr fits quiet terminated line.isTerminated_repaired line.chars_repaired

/-- A sender without brackets is refused, though its only byte is no UTF-8 either. -/
theorem ill_formed_refused_iff_of_bare_sender :
    let server := accepting {} Feature.standard
    let s := (server.replay "client.example" [.connect, .line (.ofText "EHLO client.example")]).2
    let done := server.consume s ⟨Utf8.ofString "MAIL FROM:" ++ [255, 13, 10]⟩
    ∃ reply, done.1 = .ok reply ∧ reply.isPermanent = true ∧ done.2.unlogged = s.unlogged := by
  intro server s done
  have run : server.Reachable "client.example" s :=
    ⟨_, run_replay server "client.example" _ (by decide +kernel)⟩
  have ⟨quiet, vacant⟩ : s.state ≠ .readingData ∧
      (s.properties.get? Key.exchange.name).isNone = true := by decide +kernel
  have facts := ill_formed_refused_iff run
    (by decide +kernel :
      (⟨Utf8.ofString "MAIL FROM:" ++ [255, 13, 10]⟩ : Line).isTerminated = true)
    (by decide +kernel) (by decide +kernel)
  refine facts.1.mpr ⟨quiet, Option.isNone_iff_eq_none.mp vacant, ?_⟩
  rintro (⟨verb, -⟩ | ⟨-, -, named, -⟩ | ⟨verb, -, -⟩)
  · revert verb
    decide +kernel
  · rw [show Grammar.reversePath? _ = none by decide +kernel] at named
    nomatch named
  · revert verb
    decide +kernel

/-- Two senders that are no UTF-8, and not the same bytes, are both accepted, and the mail object is told
the same path for both, which neither client has sent. -/
theorem ill_formed_senders_accepted :
    let server := accepting {} Feature.standard
    let s := (server.replay "client.example" [.connect, .line (.ofText "EHLO client.example")]).2
    server.Reachable "client.example" s ∧ ∀ b ∈ [(254 : UInt8), 255],
      let line : Line := ⟨Utf8.ofString "MAIL FROM:<" ++ b :: Utf8.ofString ">\r\n"⟩
      let done := server.consume s line
      (line.isTerminated = true ∧ Utf8.decode? line.content = none ∧ Text.upper line.verb = "MAIL") ∧
        done.1.toOption = some .ok ∧ done.2.state = .afterMail ∧
        done.2.mail.map (·.history.calls) = some [.mailFrom "\uFFFD" ""] := by
  intro server s
  refine ⟨⟨_, run_replay server "client.example" _ (by decide +kernel)⟩, fun b member => ?_⟩
  rcases List.mem_cons.mp member with rfl | last
  · decide +kernel
  · obtain rfl := List.mem_singleton.mp last
    decide +kernel

end Server

end SmtpDialog
