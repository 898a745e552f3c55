/- digest: Whom a log prefix names, and when the name is one that the session still holds. -/
import SmtpDialog.Proofs.Greeted

set_option autoImplicit false
set_option relaxedAutoImplicit false

namespace SmtpDialog

open Command Session

variable {κ : Type}

/-- The host name that a client gives in an accepted greeting. -/
def Passage.domain? (p : Passage κ) : Option String :=
  match p.input with
  | .line line => if p.greets then Grammar.heloDomain? (Grammar.arguments line.text) else none
  | _ => none

def lastDomain (past : List (Passage κ)) : Option String := past.findSome? Passage.domain?

/-- Whether a part of a log prefix shows what stands under a key, and is missing if nothing does. -/
def Session.Shows (part : Option String) (key : Key) (s : Session κ) : Prop :=
  ∃ known : Option String,
    s.properties.get? key.name = known.map Value.text ∧ part = known.map LogPrefix.sanitised

/-- What the client has told, as the session knows it and as its log prefix shows it. -/
structure Attributes (peer : String) (past : List (Passage κ)) (s : Session κ) : Prop where
  fixed : s.logPrefix.protocol = "smtp" ∧ s.logPrefix.peer = some (LogPrefix.sanitised peer)
  user : s.Shows s.logPrefix.user .identity
  shown : s.logPrefix.helo = (lastDomain past).map LogPrefix.sanitised
  named : s.properties.get? Key.heloDomain.name = (lastDomain (sinceTls past)).map Value.text
  told : ∀ p ∈ past, p.greets = true → p.domain?.isSome = true

section

variable {p : Passage κ} {past : List (Passage κ)}

theorem lastDomain_cons (p : Passage κ) (past : List (Passage κ)) :
    lastDomain (p :: past) = p.domain?.or (lastDomain past) := by
  rw [lastDomain, List.findSome?_cons]
  cases p.domain? <;> rfl

theorem lastDomain_sinceTls_cons (calm : p.secures = false) :
    lastDomain (sinceTls (p :: past)) = p.domain?.or (lastDomain (sinceTls past)) := by
  rw [sinceTls, List.takeWhile_cons_of_pos (by simp [calm]), lastDomain_cons]
  rfl

theorem domain?_of_not_greets (silent : p.greets = false) : p.domain? = none := by
  unfold Passage.domain?
  split
  · rw [silent]
    rfl
  · rfl

theorem lastDomain_of_sinceTls {domain : String} (last : lastDomain (sinceTls past) = some domain) :
    lastDomain past = some domain := by
  have parts : past = sinceTls past ++ past.dropWhile (!·.secures) :=
    List.takeWhile_append_dropWhile.symm
  rw [lastDomain] at last
  rw [lastDomain, parts, List.findSome?_append, last]
  rfl

theorem isSome_lastDomain (told : ∀ p ∈ past, p.greets = true → p.domain?.isSome = true) :
    (lastDomain past).isSome = past.any Passage.greets := by
  induction past with
  | nil => rfl
  | cons p rest ih =>
    rw [List.forall_mem_cons] at told
    rw [lastDomain_cons, List.any_cons, ← ih told.2, Option.isSome_or]
    cases greets : p.greets with
    | true => rw [told.1 greets]
    | false => rw [domain?_of_not_greets greets]; rfl

end

variable {config : Config} {features : List Feature} {s t : Session κ}

/-- The log prefix and what it is made from are as they were. -/
structure Session.Unmoved (s t : Session κ) : Prop where
  logPrefix : t.logPrefix = s.logPrefix
  named : t.properties.get? Key.heloDomain.name = s.properties.get? Key.heloDomain.name
  known : t.properties.get? Key.identity.name = s.properties.get? Key.identity.name

/-- What a session learns about its client from an input, a handshake apart. -/
inductive Learns (p : Passage κ) (s t : Session κ) : Prop
  | greeting {domain : String} (told : p.domain? = some domain)
      (shown : t.logPrefix = s.logPrefix.setHelo domain)
      (named : t.properties = s.properties.insert Key.heloDomain.name (.text domain))
  | identity {identity : String} (untold : p.greets = false)
      (shown : t.logPrefix = s.logPrefix.setUser identity)
      (named : t.properties.get? Key.heloDomain.name = s.properties.get? Key.heloDomain.name)
      (known : t.properties.get? Key.identity.name = some (.text identity))
  | nothing (untold : p.greets = false) (unmoved : s.Unmoved t)

theorem Takes.unmoved {line : Line} {e : Exchange} {response : Bytes}
    (taken : Takes features line s e response t) : s.Unmoved t := by
  cases taken with
  | opened => exact ⟨rfl, rfl, rfl⟩
  | resumed => exact ⟨rfl, by simp [get?_erase], by simp [get?_erase]⟩

theorem Receipt.learns {line : Line} {answer : Except Fault Reply}
    (receipt : Receipt config line s answer t) :
    (⟨.line line, s, answer⟩ : Passage κ).greets = false ∧ s.Unmoved t := by
  cases receipt with
  | dropped => exact ⟨by simp [Passage.greets, Reply.code?], rfl, rfl, rfl⟩
  | overflowed | written | broken =>
    exact ⟨by simp [Passage.greets, Reply.code?], rfl, by simp [get?_insert], by simp [get?_insert]⟩
  | abandoned dot | completed dot =>
    have quiet := Line.greets_of_endsContent dot
    exact ⟨by simp [Passage.greets, quiet], rfl, by simp [get?_erase], by simp [get?_erase]⟩

private theorem untold_of_verb {line : Line} {verb : String} {answer : Except Fault Reply}
    (own : Text.upper line.verb = verb) (helo : verb ≠ "HELO") (ehlo : verb ≠ "EHLO") :
    (⟨.line line, s, answer⟩ : Passage κ).greets = false := by
  have deaf : line.greets = false := by simp [Line.greets, own, helo, ehlo]
  cases answer <;> simp [Passage.greets, deaf]

private theorem untold_of_code {line : Line} {reply : Reply}
    (other : reply.code? ≠ some Code.ok.number) :
    (⟨.line line, s, .ok reply⟩ : Passage κ).greets = false := by
  simp [Passage.greets, other]

theorem Effect.learns {line : Line} {answer : Except Fault Reply}
    (effect : Effect config features line s answer t) : Learns ⟨.line line, s, answer⟩ s t := by
  cases effect with
  | @answered reply calm =>
    refine .nothing ?_ ⟨rfl, rfl, rfl⟩
    cases greets : line.greets with
    | true => exact untold_of_code (calm greets)
    | false => simp [Passage.greets, greets]
  | greeted verb valid named code =>
    refine .greeting ?_ rfl rfl
    simp [Passage.domain?, Passage.greets, verb, code, named]
  | reset verb | quit verb =>
    refine .nothing (untold_of_verb verb (by decide) (by decide)) ⟨?_, ?_, ?_⟩
    · simp [closeMail_eq]
    · simp [closeMail_properties]
    · simp [closeMail_properties]
  | senderRefused verb | senderAccepted verb | recipientRefused verb | recipientAccepted verb
  | contentRefused verb | contentBegun verb =>
    refine .nothing (untold_of_verb verb (by decide) (by decide)) ⟨rfl, ?_, ?_⟩
    · simp [get?_insert, get?_erase]
    · simp [get?_insert, get?_erase]
  | received valid receipt =>
    have learns := receipt.learns
    exact .nothing learns.1 learns.2
  | challenged taken asked unfinished =>
    have unmoved := taken.unmoved
    refine .nothing (untold_of_code ?_) ⟨unmoved.logPrefix, ?_, ?_⟩
    · simp [challengeReply, Reply.of, Reply.code?, Code.number]
    · simpa [get?_insert] using unmoved.named
    · simpa [get?_insert] using unmoved.known
  | exchangeFailed taken =>
    have unmoved := taken.unmoved
    exact .nothing (untold_of_code (by decide)) ⟨unmoved.logPrefix, unmoved.named, unmoved.known⟩
  | denied taken =>
    have unmoved := taken.unmoved
    refine .nothing (untold_of_code ?_) ⟨unmoved.logPrefix, unmoved.named, unmoved.known⟩
    simp [Reply.of, Reply.code?, Code.number]
  | @authenticated e response challenge identity text u taken =>
    have unmoved := taken.unmoved
    have apart : Key.authcid ≠ .heloDomain ∧ Key.authcid ≠ .identity := by decide
    refine .identity (untold_of_code ?_) rfl ?_ ?_
    · simp [Reply.of, Reply.code?, Code.number]
    · rw [← unmoved.named]
      cases (e.reaction response).authcid? <;> simp [get?_insert]
    · cases (e.reaction response).authcid? <;> simp [get?_insert]
  | cancelled | undecodable =>
    refine .nothing (untold_of_code (by decide)) ⟨rfl, ?_, ?_⟩
    · simp [get?_erase]
    · simp [get?_erase]

private theorem Attributes.learns {peer : String} {past : List (Passage κ)} {p : Passage κ}
    (attributes : Attributes peer past s) (calm : p.secures = false) (learns : Learns p s t) :
    Attributes peer (p :: past) t := by
  have told (now : p.greets = true → p.domain?.isSome = true) :
      ∀ q ∈ p :: past, q.greets = true → q.domain?.isSome = true :=
    List.forall_mem_cons.mpr ⟨now, attributes.told⟩
  cases learns with
  | @greeting domain greeting shown named =>
    have identity : t.properties.get? Key.identity.name = s.properties.get? Key.identity.name := by
      simp [named, get?_insert]
    refine ⟨?_, ?_, ?_, ?_, told fun _ => by rw [greeting]; rfl⟩
    · rw [shown]
      exact attributes.fixed
    · rw [shown, Session.Shows, identity]
      exact attributes.user
    · rw [shown, lastDomain_cons, greeting]
      rfl
    · rw [named, lastDomain_sinceTls_cons calm, greeting, get?_insert, if_pos rfl]
      rfl
  | @identity identity untold shown named known =>
    have silent := domain?_of_not_greets untold
    refine ⟨?_, ⟨some identity, known, by rw [shown]; rfl⟩, ?_, ?_, told (by simp [untold])⟩
    · rw [shown]
      exact attributes.fixed
    · rw [shown, lastDomain_cons, silent]
      exact attributes.shown
    · rw [named, lastDomain_sinceTls_cons calm, silent]
      exact attributes.named
  | nothing untold unmoved =>
    have silent := domain?_of_not_greets untold
    refine ⟨?_, ?_, ?_, ?_, told (by simp [untold])⟩
    · rw [unmoved.logPrefix]
      exact attributes.fixed
    · rw [unmoved.logPrefix, Session.Shows, unmoved.known]
      exact attributes.user
    · rw [unmoved.logPrefix, lastDomain_cons, silent]
      exact attributes.shown
    · rw [unmoved.named, lastDomain_sinceTls_cons calm, silent]
      exact attributes.named

theorem Change.attributes {peer : String} {past : List (Passage κ)} {input : Input}
    {answer : Except Fault Reply} (attributes : Attributes peer past s)
    (change : Change config features s input answer t) :
    Attributes peer (⟨input, s, answer⟩ :: past) t := by
  cases change with
  | welcomed | unwelcome | complained =>
    exact attributes.learns rfl (.nothing rfl ⟨rfl, rfl, rfl⟩)
  | line effect => exact attributes.learns rfl effect.learns
  | ignored trouble =>
    cases input with
    | tooLong | abort => exact attributes.learns rfl (.nothing rfl ⟨rfl, rfl, rfl⟩)
    | connect | line | secured => contradiction
  | failed trouble =>
    have unmoved (v : Value) :
        s.Unmoved { s.unlogged with
          properties := s.properties.insert Key.contentFault.name v } :=
      ⟨rfl, by simp [get?_insert], by simp [get?_insert]⟩
    cases input with
    | tooLong | abort => exact attributes.learns rfl (.nothing rfl (unmoved _))
    | connect | line | secured => contradiction
  | @secured description quiet =>
    have nothing : (sinceTls (⟨.secured description, s, .ok .silent⟩ :: past) :
        List (Passage κ)) = [] := by simp [sinceTls, Passage.secures]
    refine ⟨attributes.fixed, ⟨none, rfl, rfl⟩, ?_, ?_, ?_⟩
    · rw [lastDomain_cons]
      exact attributes.shown
    · rw [nothing]
      rfl
    · exact List.forall_mem_cons.mpr
        ⟨fun greets => absurd greets Bool.false_ne_true, attributes.told⟩

/-- The host name is shown as the session knows it just if none was given before the last handshake only. -/
theorem Attributes.shows_iff {peer : String} {past : List (Passage κ)}
    (attributes : Attributes peer past s) :
    s.Shows s.logPrefix.helo .heloDomain ↔
      ((∃ p ∈ past, p.greets = true) → greeted past = true) := by
  have ever : (lastDomain past).isSome = past.any Passage.greets :=
    isSome_lastDomain attributes.told
  have recently : (lastDomain (sinceTls past)).isSome = greeted past :=
    isSome_lastDomain fun p h => attributes.told p (List.takeWhile_subset _ h)
  rw [Session.Shows, attributes.shown, attributes.named]
  constructor
  · rintro ⟨known, named, shown⟩ given
    rw [← List.any_eq_true, ← ever] at given
    rw [← recently]
    have present : known.isSome = true := by
      rw [← Option.isSome_map (f := LogPrefix.sanitised), ← shown, Option.isSome_map, given]
    rw [← Option.isSome_map (f := Value.text), named, Option.isSome_map, present]
  · intro renewed
    cases last : lastDomain (sinceTls past) with
    | some domain => exact ⟨some domain, rfl, by rw [lastDomain_of_sinceTls last]⟩
    | none =>
      have missing : greeted past = false := by rw [← recently, last]; rfl
      have never : lastDomain past = none := by
        rw [← Option.not_isSome_iff_eq_none, ever, List.any_eq_true]
        intro given
        exact Bool.false_ne_true (missing.symm.trans (renewed given))
      exact ⟨none, rfl, by rw [never]⟩

namespace Server.Run

variable {newMail : Session κ → MailBehaviour} {custom : κ → Hook κ} {peer : String}
  {past : List (Passage κ)}

theorem attributes (run : Run (ofFeatures config newMail custom features) peer past s) :
    Attributes peer past s := by
  refine Run.induct (motive := Attributes peer) ?_ ?_ ?_ run
  · exact ⟨⟨rfl, rfl⟩, ⟨none, rfl, rfl⟩, rfl, rfl, by simp⟩
  · intro past s
    constructor
    · exact fun told => ⟨told.fixed, told.user, told.shown, told.named, told.told⟩
    · exact fun told => ⟨told.fixed, told.user, told.shown, told.named, told.told⟩
  · intro past s input answer t run fits attributes change
    exact change.attributes attributes

/-- In all runs the log prefix shows the identity of the session, and the host name of the last greeting
that was ever accepted. The session knows the host name of the last greeting since the last handshake, so
the prefix shows what the session knows just if that greeting has come again or never came. -/
theorem prefix_shows_iff (run : Run (ofFeatures config newMail custom features) peer past s) :
    (s.logPrefix.protocol = "smtp" ∧ s.logPrefix.peer = some (LogPrefix.sanitised peer)) ∧
      s.Shows s.logPrefix.user .identity ∧
      s.logPrefix.helo = (lastDomain past).map LogPrefix.sanitised ∧
      s.properties.get? Key.heloDomain.name = (lastDomain (sinceTls past)).map Value.text ∧
      (s.Shows s.logPrefix.helo .heloDomain ↔
        ((∃ p ∈ past, p.greets = true) → greeted past = true)) :=
  ⟨run.attributes.fixed, run.attributes.user, run.attributes.shown, run.attributes.named,
    run.attributes.shows_iff⟩

private theorem run_handshake (server : Server κ) (peer : String) (inputs : List Input)
    (description : String) (free : ∀ input ∈ inputs, input.isFree = true)
    (invited : ((server.replay peer inputs).1.head?.any (invitesTls ·.answer)) = true) :
    let now := server.advance (server.replay peer inputs) (.secured description)
    Run server peer now.1 now.2 := by
  obtain ⟨p, last, invites⟩ := (Option.any_eq_true _ _).mp invited
  exact (run_replay server peer inputs free).step (.secured description) ⟨p, last, invites⟩

/-- The prefix still shows the host name that was given before the handshake. -/
theorem prefix_shows_iff_of_handshake :
    let server := accepting { offerStartTls := true } [.startTls]
    let now := server.advance (server.replay "client.example" [.connect,
      .line (.ofText "EHLO a.example"), .line (.ofText "STARTTLS")]) (.secured "TLSv1.3")
    now.2.logPrefix.text = "smtp:client.example[helo=a.example]" ∧
      now.2.hasProperty .heloDomain = false ∧ now.2.Shows now.2.logPrefix.user .identity ∧
      ¬now.2.Shows now.2.logPrefix.helo .heloDomain := by
  intro server now
  have run : Run server "client.example" now.1 now.2 :=
    run_handshake server _ _ _ (by decide +kernel) (by decide +kernel)
  obtain ⟨-, user, -, -, iff⟩ := prefix_shows_iff run
  have early : now.1.any Passage.greets = true ∧ greeted now.1 = false := by decide +kernel
  refine ⟨by decide +kernel, by decide +kernel, user, fun shows => ?_⟩
  have again := iff.mp shows (List.any_eq_true.mp early.1)
  exact Bool.false_ne_true (early.2.symm.trans again)

/-- The host name in the prefix can be one that the session has forgotten. -/
theorem prefix_not_always_true :
    ¬ ∀ (config : Config) (newMail : Session Empty → MailBehaviour) (custom : Empty → Hook Empty)
      (features : List Feature) (policy : AuthPolicy) (peer : String)
      (past : List (Passage Empty)) (s : Session Empty),
      Feature.policy? features = some policy →
        Run (ofFeatures config newMail custom features) peer past s →
          s.Shows s.logPrefix.helo .heloDomain ∧ s.Shows s.logPrefix.user .identity := by
  intro always
  let check : CredentialCheck := fun _ authcid _ => .ok (.authorized authcid)
  let features : List Feature := Feature.standard ++ [.auth ⟨⟨[.plain check]⟩, true⟩]
  let server := accepting { offerStartTls := true } features
  let now := server.advance (server.replay "client.example" [.connect,
    .line (.ofText "EHLO a.example"), .line (.ofText "STARTTLS")]) (.secured "TLSv1.3")
  have run : Run server "client.example" now.1 now.2 :=
    run_handshake server _ _ _ (by decide +kernel) (by decide +kernel)
  obtain ⟨known, named, shown⟩ := (always _ _ _ features _ _ _ _ rfl run).1
  have apart : now.2.hasProperty .heloDomain = false ∧ now.2.logPrefix.helo.isSome = true := by
    decide +kernel
  have forgotten : known = none := by
    have nothing : now.2.properties.get? Key.heloDomain.name = none := by
      simpa [hasProperty, Table.contains] using apart.1
    rw [nothing] at named
    exact Option.map_eq_none_iff.mp named.symm
  rw [shown, forgotten] at apart
  exact absurd apart.2 (by decide)

end Server.Run

end SmtpDialog
