/- digest: What the answer to EHLO announces is what the session grants. -/
import SmtpDialog.Proofs.Answers
import SmtpDialog.Proofs.Registrations
import SmtpDialog.Proofs.Transparency

set_option autoImplicit false
set_option relaxedAutoImplicit false

namespace SmtpDialog

open Command Session

variable {κ : Type} {config : Config} {policy : AuthPolicy} {features : List Feature} {s t : Session κ}
  {newMail : Session κ → MailBehaviour} {custom : κ → Hook κ}

/-- The mechanisms that a line of the answer to EHLO names, if it is about AUTH. -/
def namedMechanisms? (text : String) : Option (List String) :=
  match Text.words Text.isAsciiBlank text.toList with
  | [] => none
  | first :: names => if first = "AUTH".toList then some (names.map String.ofList) else none

/-- Whether some lines of the answer to EHLO name a mechanism, in any letter case. -/
def Names (lines : List String) (name : String) : Prop :=
  ∃ names ∈ lines.filterMap namedMechanisms?, ∃ known ∈ names, Text.sameLetters known name = true

instance (lines : List String) (name : String) : Decidable (Names lines name) :=
  inferInstanceAs (Decidable (∃ names ∈ lines.filterMap namedMechanisms?, ∃ known ∈ names,
    Text.sameLetters known name = true))

/-- A line is AUTH with one argument. -/
structure Line.AsksFor (name : String) (line : Line) : Prop where
  terminated : line.isTerminated = true
  verb : Text.upper line.verb = "AUTH"
  words : Text.words Text.isAsciiBlank (Grammar.arguments line.text).toList = [name.toList]

/-- Whether a line is answered by a reply of another code than 504. -/
def Server.Grants (server : Server κ) (s : Session κ) (line : Line) : Prop :=
  ∃ reply, (server.consume s line).1 = .ok reply ∧
    reply.code? ≠ some Code.commandParameterNotImplemented.number

/-- A name is one of the words of a mechanism's name, which mechanisms cannot have. -/
def Factory.Misleads (factory : Factory) (name : String) : Prop :=
  Grammar.isMechanismName factory.name = false ∧
    ∃ word ∈ Text.words Text.isAsciiBlank factory.name.toList,
      Text.sameLetters (String.ofList word) name = true

/-- What was announced in the answer to EHLO is what a session grants. -/
structure Redeems (server : Server κ) (policy : AuthPolicy) (lines : List String) (s : Session κ) :
    Prop where
  /-- Granted is what may be used, under a name that mechanisms can have. -/
  granted : ∀ name line, line.AsksFor name →
    (server.Grants s line ↔ Grammar.isMechanismName name = true ∧
      ∃ known ∈ policy.available s, Text.sameLetters known.name name = true)
  refused : ∀ name line, line.AsksFor name → ¬server.Grants s line →
    (server.consume s line).1 = .ok (.parameterNotImplemented "Unsupported AUTH mechanism")
  named : ∀ name line, line.AsksFor name → server.Grants s line → Names lines name
  /-- Nothing is announced in vain, except under a name that mechanisms cannot have. -/
  kept : ∀ name line, line.AsksFor name → Names lines name →
    server.Grants s line ∨ ∃ known ∈ policy.available s, known.Misleads name
  present : lines.filterMap namedMechanisms? ≠ [] ↔
    (∃ name line, line.AsksFor name ∧ server.Grants s line) ∨
      ∃ known ∈ policy.available s, Grammar.isMechanismName known.name = false
  startTls : ∀ line : Line, line.isTerminated = true → Text.upper line.verb = "STARTTLS" →
    Grammar.arguments line.text = "" →
      ("STARTTLS" ∈ lines ↔ ∃ text, (server.consume s line).1 = .ok (.startTls text))

/-- What a feature announces to a session, if it is available. -/
def Feature.announcement? (config : Config) (s : Session κ) : Feature → Option String
  | .keyword name => some name
  | .size => if 0 < config.maxMessageSize then some s!"SIZE {config.maxMessageSize}" else none
  | .startTls => if config.offerStartTls && !s.isTls then some "STARTTLS" else none
  | .auth policy =>
    if (policy.available s).isEmpty then none
    else some (" ".intercalate ("AUTH" :: (policy.available s).map (·.name)))

theorem offered_eq (config : Config) (newMail : Session κ → MailBehaviour) (custom : κ → Hook κ)
    (features : List Feature) (s : Session κ) :
    offered (Server.ofFeatures config newMail custom features).site s =
      features.filterMap (Feature.announcement? config s) := by
  rw [Server.ofFeatures_site, offered]
  induction features with
  | nil => rfl
  | cons x rest ih =>
    have one : ((x.extension : Extension κ).isAvailable config s = true ∧
          Feature.announcement? config s x = some (x.extension.advertisement config s)) ∨
        ((x.extension : Extension κ).isAvailable config s = false ∧
          Feature.announcement? config s x = none) := by
      cases x with
      | keyword name => exact .inl ⟨rfl, rfl⟩
      | size =>
        by_cases limited : 0 < config.maxMessageSize
        · exact .inl ⟨decide_eq_true limited, if_pos limited⟩
        · exact .inr ⟨decide_eq_false limited, if_neg limited⟩
      | startTls =>
        cases open_still : config.offerStartTls && !s.isTls with
        | true => exact .inl ⟨open_still, if_pos open_still⟩
        | false => exact .inr ⟨open_still, if_neg (by rw [open_still]; exact Bool.false_ne_true)⟩
      | auth policy =>
        cases none_left : (policy.available s).isEmpty with
        | true => exact .inr ⟨by simp [Feature.extension, Extension.auth, none_left], if_pos none_left⟩
        | false =>
          exact .inl ⟨by simp [Feature.extension, Extension.auth, none_left],
            if_neg (by rw [none_left]; exact Bool.false_ne_true)⟩
    simp only [List.map_cons, List.filter_cons, List.filterMap_cons]
    rcases one with ⟨available, announced⟩ | ⟨missing, silent⟩
    · rw [if_pos available, announced, List.map_cons, ih]
    · rw [if_neg (by rw [missing]; exact Bool.false_ne_true), silent, ih]

theorem Feature.announcement?_congr (same : t.tls = s.tls) (x : Feature) :
    announcement? config t x = announcement? config s x := by
  have tls : t.isTls = s.isTls := by rw [isTls, isTls, same]
  have available (policy : AuthPolicy) : policy.available t = policy.available s := by
    rw [AuthPolicy.available, AuthPolicy.available]
    congr 1
    funext factory
    rw [AuthPolicy.allows, AuthPolicy.allows, tls]
  cases x with
  | keyword | size => rfl
  | startTls => rw [announcement?, announcement?, tls]
  | auth policy => rw [announcement?, announcement?, available]

private theorem namedMechanisms?_of_other {text : String} {first : List Char}
    {rest : List (List Char)} (words : Text.words Text.isAsciiBlank text.toList = first :: rest)
    (other : first ≠ "AUTH".toList) : namedMechanisms? text = none := by
  rw [namedMechanisms?, words]
  exact if_neg other

private theorem namedMechanisms?_of_standard {x : Feature} (own : x ∈ Feature.standard)
    {text : String} (announced : x.announcement? config s = some text) :
    namedMechanisms? text = none := by
  simp only [Feature.standard, List.mem_cons, List.not_mem_nil, or_false] at own
  rcases own with rfl | rfl | rfl | rfl
  · obtain rfl := Option.some.inj announced
    exact namedMechanisms?_of_other (by decide +kernel : _ = ["8BITMIME".toList]) (by decide)
  · obtain rfl := Option.some.inj announced
    exact namedMechanisms?_of_other (by decide +kernel : _ = ["PIPELINING".toList]) (by decide)
  · rw [Feature.announcement?] at announced
    split at announced
    · obtain rfl : "SIZE " ++ toString config.maxMessageSize = text := Option.some.inj announced
      have first : Text.words Text.isAsciiBlank "SIZE".toList = ["SIZE".toList] := by decide +kernel
      have words := Text.words_append (p := Text.isAsciiBlank) (c := ' ') rfl "SIZE".toList
        (toString config.maxMessageSize).toList
      rw [first] at words
      exact namedMechanisms?_of_other ((congrArg _ String.toList_append).trans words) (by decide)
    · contradiction
  · rw [Feature.announcement?] at announced
    split at announced
    · obtain rfl := Option.some.inj announced
      exact namedMechanisms?_of_other (by decide +kernel : _ = ["STARTTLS".toList]) (by decide)
    · contradiction

private theorem namedMechanisms?_of_auth (names : List String) :
    namedMechanisms? (" ".intercalate ("AUTH" :: names)) =
      some ((names.flatMap fun name => Text.words Text.isAsciiBlank name.toList).map
        String.ofList) := by
  have first : Text.words Text.isAsciiBlank "AUTH".toList = ["AUTH".toList] := by decide +kernel
  rw [namedMechanisms?, Text.words_intercalate, List.flatMap_cons, first]
  exact if_pos rfl

section

variable (newMail custom) (complete : features.Perm (.auth policy :: Feature.standard))

include complete

private theorem filterMap_offered (s : Session κ) :
    (offered (Server.ofFeatures config newMail custom features).site s).filterMap namedMechanisms? =
      ((Feature.auth policy).announcement? config s).toList.filterMap namedMechanisms? := by
  have standard : ∀ x ∈ Feature.standard,
      (x.announcement? config s).bind namedMechanisms? = none := by
    intro x own
    cases announced : x.announcement? config s with
    | none => rfl
    | some text => exact namedMechanisms?_of_standard own announced
  have same := complete.filterMap fun x => (x.announcement? config s).bind namedMechanisms?
  rw [List.filterMap_cons, List.filterMap_eq_nil_iff.mpr standard] at same
  rw [offered_eq, List.filterMap_filterMap]
  cases announced : (Feature.auth policy).announcement? config s with
  | none =>
    rw [announced] at same
    exact same.eq_nil
  | some text =>
    rw [announced] at same
    cases named : namedMechanisms? text with
    | none =>
      simp only [Option.bind_some, named] at same
      simp [same.eq_nil, named]
    | some names =>
      simp only [Option.bind_some, named] at same
      simp [List.perm_singleton.mp same, named]

/-- What is named are the words in the names of the mechanisms that may be used. -/
theorem names_offered_iff (s : Session κ) (name : String) :
    Names (offered (Server.ofFeatures config newMail custom features).site s) name ↔
      ∃ known ∈ policy.available s, ∃ word ∈ Text.words Text.isAsciiBlank known.name.toList,
        Text.sameLetters (String.ofList word) name = true := by
  rw [Names, filterMap_offered newMail custom complete, Feature.announcement?]
  by_cases nothing : (policy.available s).isEmpty = true
  · rw [if_pos nothing]
    simp [List.isEmpty_iff.mp nothing]
  · rw [if_neg nothing]
    simp only [Option.toList_some, List.filterMap_cons, namedMechanisms?_of_auth,
      List.filterMap_nil, List.mem_singleton, exists_eq_left, List.mem_map, List.mem_flatMap]
    constructor
    · rintro ⟨_, ⟨word, ⟨_, ⟨known, available, rfl⟩, member⟩, rfl⟩, same⟩
      exact ⟨known, available, word, member, same⟩
    · rintro ⟨known, available, word, member, same⟩
      exact ⟨_, ⟨word, ⟨_, ⟨known, available, rfl⟩, member⟩, rfl⟩, same⟩

theorem filterMap_offered_ne_nil_iff (s : Session κ) :
    (offered (Server.ofFeatures config newMail custom features).site s).filterMap
      namedMechanisms? ≠ [] ↔ policy.available s ≠ [] := by
  rw [filterMap_offered newMail custom complete, Feature.announcement?]
  by_cases nothing : (policy.available s).isEmpty = true
  · rw [if_pos nothing]
    simp [List.isEmpty_iff.mp nothing]
  · rw [if_neg nothing]
    simpa [namedMechanisms?_of_auth] using nothing

theorem startTls_offered_iff (s : Session κ) :
    "STARTTLS" ∈ offered (Server.ofFeatures config newMail custom features).site s ↔
      config.offerStartTls = true ∧ s.isTls = false := by
  rw [offered_eq, List.mem_filterMap]
  constructor
  · rintro ⟨x, chosen, announced⟩
    rcases List.mem_cons.mp (complete.mem_iff.mp chosen) with rfl | own
    · rw [Feature.announcement?] at announced
      split at announced
      · contradiction
      · have named := namedMechanisms?_of_auth ((policy.available s).map (·.name))
        rw [Option.some.inj announced] at named
        have silent : namedMechanisms? "STARTTLS" = none := by decide +kernel
        rw [silent] at named
        contradiction
    · simp only [Feature.standard, List.mem_cons, List.not_mem_nil, or_false] at own
      rcases own with rfl | rfl | rfl | rfl
      · exact absurd (Option.some.inj announced) (by decide)
      · exact absurd (Option.some.inj announced) (by decide)
      · rw [Feature.announcement?] at announced
        split at announced
        · have text : "SIZE " ++ toString config.maxMessageSize = "STARTTLS" :=
            Option.some.inj announced
          have second := congrArg (fun text => text.toList[1]?) text
          simp at second
        · contradiction
      · rw [Feature.announcement?] at announced
        split at announced
        · rename_i here
          simpa using here
        · contradiction
  · rintro ⟨allowed, plain⟩
    refine ⟨.startTls, complete.mem_iff.mpr (by simp [Feature.standard]), ?_⟩
    rw [Feature.announcement?, if_pos (by simp [allowed, plain])]

theorem policy?_of_complete : Feature.policy? features = some policy := by
  have only : ∀ other, Feature.auth other ∈ features → other = policy := by
    intro other chosen
    simpa [Feature.standard] using complete.mem_iff.mp chosen
  have stays {step : Option AuthPolicy → Feature → Option AuthPolicy}
      (keeps : ∀ own x, (step (some own) x).isSome = true) {own : AuthPolicy} {rest : List Feature} :
      (rest.foldl step (some own)).isSome = true := by
    induction rest generalizing own with
    | nil => rfl
    | cons x rest ih =>
      obtain ⟨next, same⟩ := Option.isSome_iff_exists.mp (keeps own x)
      rw [List.foldl_cons, same]
      exact ih
  have given : (Feature.policy? features).isSome = true := by
    have chosen : Feature.auth policy ∈ features := complete.mem_iff.mpr List.mem_cons_self
    obtain ⟨front, back, parts⟩ := List.append_of_mem chosen
    rw [parts, Feature.policy?, List.foldl_append, List.foldl_cons]
    exact stays fun own x => by cases x <;> rfl
  obtain ⟨own, found⟩ := Option.isSome_iff_exists.mp given
  rw [found, only own (Feature.mem_of_policy? found)]

end

theorem Line.asksFor_ofText {name : String} (valid : Grammar.isMechanismName name = true) :
    (Line.ofText ("AUTH " ++ name)).AsksFor name := by
  have chars : (Line.ofText ("AUTH " ++ name)).chars = "AUTH ".toList ++ name.toList := by
    rw [chars_ofText, String.toList_append]
  have solid : Text.trim Text.isGap name.toList = name.toList := by
    apply Text.trim_of_none
    intro c member
    have letter := (Grammar.isMechanismName_iff.mp valid).2 c member
    have dark := Grammar.isAsciiBlank_of_isMechanismChar letter
    simp only [Text.isAsciiBlank, Bool.or_eq_false_iff] at dark
    simp [Text.isGap, dark]
  have arguments : Grammar.argumentChars ("AUTH ".toList ++ name.toList) =
      Text.trim Text.isGap name.toList := by
    simp [Grammar.argumentChars, Text.trim, Text.trimStart, Text.isGap]
  refine ⟨?_, ?_, ?_⟩
  · rw [ofText_eq]
    simp [isTerminated, terminatorLength]
  · have verb : (Line.ofText ("AUTH " ++ name)).verb = "AUTH" := by
      rw [verb, body, chars]
      simp [Text.trimStart, Text.isGap]
    rw [verb]
    decide +kernel
  · rw [Grammar.arguments, text, chars, String.toList_ofList, String.toList_ofList, arguments, solid]
    exact Grammar.words_of_isMechanismName valid

namespace Server

/-- A session that has been greeted, in which nobody has authenticated and no exchange is in progress. -/
structure Ready (s : Session κ) : Prop where
  fits : s.Fits s.state
  state : s.state = .afterEhlo
  anonymous : s.properties.get? Key.identity.name = none
  idle : s.properties.get? Key.exchange.name = none

section

variable {line : Line} {name : String}

theorem Ready.consume_auth (ready : Ready s) (known : Feature.policy? features = some policy)
    (asks : line.AsksFor name) :
    (ofFeatures config newMail custom features).consume s line =
      Outcome.conclude line (authenticate policy name none s) := by
  have valid : (auth policy : Handler κ).validFor s = true := by
    simp [auth, ready.state, betweenTransactions, hasProperty, Table.contains, ready.anonymous]
  rw [consume_of_idle ready.fits (by simp [ready.state]) ready.idle, Dispatch.consume,
    if_pos asks.terminated, dispatch_get?_auth config newMail custom features asks.verb, known]
  simp only [Option.map_some]
  rw [Handler.handle, if_pos valid]
  simp only [auth, Handler.arguments, Option.map_some, Option.getD_some, asks.words,
    String.ofList_toList]

theorem Ready.grants_iff (ready : Ready s) (known : Feature.policy? features = some policy)
    (asks : line.AsksFor name) :
    ((ofFeatures config newMail custom features).Grants s line ↔
      (AuthPolicy.find? policy s name).isSome = true) ∧
    (¬(ofFeatures config newMail custom features).Grants s line →
      ((ofFeatures config newMail custom features).consume s line).1 =
        .ok (.parameterNotImplemented "Unsupported AUTH mechanism")) := by
  rw [Grants, ready.consume_auth known asks, authenticate]
  cases found : AuthPolicy.find? policy s name with
  | none =>
    refine ⟨⟨?_, fun chosen => absurd chosen Bool.false_ne_true⟩, fun _ => rfl⟩
    rintro ⟨reply, answered, other⟩
    obtain rfl : Reply.parameterNotImplemented "Unsupported AUTH mechanism" = reply :=
      Except.ok.inj answered
    exact absurd rfl other
  | some factory =>
    simp only [beginExchange]
    obtain ⟨reply, answered, continued⟩ :=
      continueExchange_continued (openExchange factory s).1 [] (openExchange factory s).2 line
    have other : reply.code? ≠ some Code.commandParameterNotImplemented.number := by
      generalize (Outcome.conclude line _).2.unlogged = after at continued
      cases continued <;>
        simp [challengeReply, Reply.serverError, Reply.of, Reply.code?, Code.number]
    have granted : ∃ reply, (Outcome.conclude line (continueExchange (openExchange factory s).1 []
        (openExchange factory s).2)).1 = .ok reply ∧
          reply.code? ≠ some Code.commandParameterNotImplemented.number := ⟨reply, answered, other⟩
    exact ⟨⟨fun _ => rfl, fun _ => granted⟩, fun refused => absurd granted refused⟩

theorem Ready.startTls_iff (ready : Ready s) (chosen : Feature.startTls ∈ features)
    (terminated : line.isTerminated = true) (verb : Text.upper line.verb = "STARTTLS")
    (alone : Grammar.arguments line.text = "") :
    (∃ text, ((ofFeatures config newMail custom features).consume s line).1 = .ok (.startTls text)) ↔
      config.offerStartTls = true ∧ s.isTls = false := by
  have served : (ofFeatures config newMail custom features).dispatch.get? line.verb =
      some Command.startTls := by
    have contributed : ("STARTTLS", (Command.startTls : Handler κ)) ∈
        (ofFeatures config newMail custom features).commands ++
          (ofFeatures config newMail custom features).extensions.flatMap (·.commands) := by
      rw [ofFeatures_eq]
      refine List.mem_append_right _ (List.mem_flatMap.mpr ⟨_, List.mem_map_of_mem chosen, ?_⟩)
      exact List.mem_singleton_self _
    have upper : Text.upper line.verb = Text.upper "STARTTLS" := by rw [verb]; decide +kernel
    obtain ⟨handler, found⟩ := exists_dispatch_get? contributed upper
    have own {verb : String} {handler : Handler κ} (serves : Serves features verb handler)
        (same : verb = "STARTTLS") : handler = Command.startTls := by
      cases serves <;> first | rfl | exact absurd same (by decide)
    rw [found, own (serves_of_get? config newMail custom features found) verb]
  have valid : (Command.startTls : Handler κ).validFor s = true := by
    simp [Command.startTls, ready.state, betweenTransactions]
  rw [consume_of_idle ready.fits (by simp [ready.state]) ready.idle, Dispatch.consume,
    if_pos terminated, served]
  dsimp only
  rw [Handler.handle, if_pos valid]
  simp only [Command.startTls, Handler.arguments, Option.map_some, Option.getD_some, alone,
    ofFeatures_site_config]
  cases s.isTls <;> cases config.offerStartTls <;>
    simp [Outcome.stay, Outcome.conclude, settle, Reply.of]

/-- Whatever is offered to such a session is what it grants. -/
theorem Ready.redeems (ready : Ready s) (built : policy.registry.Built)
    (complete : features.Perm (.auth policy :: Feature.standard)) :
    Redeems (ofFeatures config newMail custom features) policy
      (offered (ofFeatures config newMail custom features).site s) s := by
  have policy? := policy?_of_complete complete
  have granted (name : String) (line : Line) (asks : line.AsksFor name) :
      (ofFeatures config newMail custom features).Grants s line ↔
        Grammar.isMechanismName name = true ∧
          ∃ known ∈ policy.available s, Text.sameLetters known.name name = true :=
    (ready.grants_iff policy? asks).1.trans (isSome_find?_iff built.distinct s name)
  refine ⟨granted, fun name line asks => (ready.grants_iff policy? asks).2, ?_, ?_, ?_, ?_⟩
  · intro name line asks grants
    obtain ⟨valid, known, available, same⟩ := (granted name line asks).mp grants
    rw [← Grammar.isMechanismName_of_sameLetters same] at valid
    refine (names_offered_iff newMail custom complete s name).mpr
      ⟨known, available, known.name.toList, ?_, ?_⟩
    · rw [Grammar.words_of_isMechanismName valid]
      exact List.mem_singleton_self _
    · rwa [String.ofList_toList]
  · intro name line asks named
    obtain ⟨known, available, word, member, same⟩ :=
      (names_offered_iff newMail custom complete s name).mp named
    cases valid : Grammar.isMechanismName known.name with
    | false => exact .inr ⟨known, available, valid, word, member, same⟩
    | true =>
      rw [Grammar.words_of_isMechanismName valid, List.mem_singleton] at member
      rw [member, String.ofList_toList] at same
      rw [Grammar.isMechanismName_of_sameLetters same] at valid
      exact .inl ((granted name line asks).mpr ⟨valid, known, available, same⟩)
  · rw [filterMap_offered_ne_nil_iff newMail custom complete]
    constructor
    · intro some_left
      obtain ⟨known, available⟩ := List.exists_mem_of_ne_nil _ some_left
      cases valid : Grammar.isMechanismName known.name with
      | false => exact .inr ⟨known, available, valid⟩
      | true =>
        have asks := Line.asksFor_ofText valid
        exact .inl ⟨known.name, _, asks, (granted _ _ asks).mpr
          ⟨valid, known, available, Text.sameLetters_iff.mpr rfl⟩⟩
    · rintro (⟨name, line, asks, grants⟩ | ⟨known, available, -⟩)
      · obtain ⟨-, known, available, -⟩ := (granted name line asks).mp grants
        exact List.ne_nil_of_mem available
      · exact List.ne_nil_of_mem available
  · intro line terminated verb alone
    have chosen : Feature.startTls ∈ features :=
      complete.mem_iff.mpr (by simp [Feature.standard])
    rw [startTls_offered_iff newMail custom complete]
    exact (ready.startTls_iff chosen terminated verb alone).symm

end

end Server

def Passage.announces (p : Passage κ) : Bool :=
  match p.input with
  | .line line => Text.upper line.verb == "EHLO" && p.greets
  | _ => false

theorem Passage.exists_of_announces {p : Passage κ} (announces : p.announces = true) :
    ∃ line reply, p.input = .line line ∧ p.answer = .ok reply ∧ Text.upper line.verb = "EHLO" ∧
      line.greets = true ∧ reply.code? = some Code.ok.number := by
  obtain ⟨input, before, answer⟩ := p
  cases input with
  | line line =>
    cases answer with
    | ok reply =>
      simp only [Passage.announces, Passage.greets, Bool.and_eq_true, beq_iff_eq] at announces
      obtain ⟨verb, greets, code⟩ := announces
      exact ⟨line, reply, rfl, rfl, verb, greets, code⟩
    | error => simp [Passage.announces, Passage.greets] at announces
  | connect | tooLong | abort | secured => exact absurd announces Bool.false_ne_true

theorem Change.tls {input : Input} {answer : Except Fault Reply}
    (change : Change config features s input answer t)
    (calm : (⟨input, s, answer⟩ : Passage κ).secures = false) : t.tls = s.tls := by
  cases change with
  | line effect => exact effect.tls
  | secured => contradiction
  | welcomed | unwelcome | complained | ignored | failed => rfl

namespace Server

theorem offered_congr (same : t.tls = s.tls) :
    offered (ofFeatures config newMail custom features).site t =
      offered (ofFeatures config newMail custom features).site s := by
  rw [offered_eq, offered_eq]
  exact List.filterMap_congr fun x _ => Feature.announcement?_congr same x

private theorem tls_acceptDomain (command domain : String) (s : Session κ) :
    (acceptDomain command domain s).tls = s.tls := by
  have closed (u : Session κ) : u.closeMail.tls = u.tls := by rw [closeMail_eq]
  have logged (condition : Bool) (text : String) : (s.logInfoIf condition text).tls = s.tls := by
    rw [← unlogged_tls, unlogged_logInfoIf, unlogged_tls]
  exact (closed _).trans (logged _ _)

theorem consume_of_ehlo {line : Line} {domain : String} (fits : s.Fits s.state)
    (valid : greetable s.state = true) (idle : s.properties.get? Key.exchange.name = none)
    (terminated : line.isTerminated = true) (verb : Text.upper line.verb = "EHLO")
    (named : Grammar.heloDomain? (Grammar.arguments line.text) = some domain) :
    ((ofFeatures config newMail custom features).consume s line).1 =
      .ok (.multi Code.ok.number (salutation config domain ::
        offered (ofFeatures config newMail custom features).site s)) := by
  have quiet : s.state ≠ .readingData := by
    intro receiving
    rw [receiving] at valid
    contradiction
  have own : ("EHLO", (ehlo : Handler κ)) ∈ standardCommands := by simp [standardCommands]
  rw [consume_of_standard fits quiet idle terminated own verb, ehlo, greetingBy_handle valid named,
    offered_congr (tls_acceptDomain "EHLO" domain s), ofFeatures_site_config]
  rfl

namespace Run

variable {peer : String} {past : List (Passage κ)}

/-- As long as no handshake comes between, a session is offered what has been announced to it. -/
theorem announced (run : Run (ofFeatures config newMail custom features) peer past s) :
    ∀ p ∈ sinceTls past, p.announces = true → ∃ domain, p.answer =
      .ok (.multi Code.ok.number (salutation config domain ::
        offered (ofFeatures config newMail custom features).site s)) := by
  induction run with
  | start => simp [sinceTls]
  | @logged past s run level text ih =>
    have same : (s.log level text).tls = s.tls := rfl
    rw [offered_congr same]
    exact ih
  | @step past s run input follows ih =>
    have change := run.change follows
    cases secures : (⟨input, s, ((ofFeatures config newMail custom features).take s input).1⟩ :
        Passage κ).secures with
    | true => simp [sinceTls, secures]
    | false =>
      have same : ((ofFeatures config newMail custom features).take s input).2.tls = s.tls :=
        change.tls secures
      rw [offered_congr same, sinceTls, List.takeWhile_cons_of_pos (by simp [secures]),
        List.forall_mem_cons]
      refine ⟨fun announces => ?_, ih⟩
      obtain ⟨line, reply, told, answered, verb, greets, code⟩ := Passage.exists_of_announces announces
      obtain rfl : input = .line line := told
      obtain ⟨valid, idle, domain, named⟩ :=
        (run.effect follows).exists_domain answered greets code
      exact ⟨domain, consume_of_ehlo run.fits valid idle follows verb named⟩

/-- Of a session that has been greeted, in which nobody has authenticated and no exchange is in progress:
the answer to EHLO, the one it would be given now as well as each it was given since the last handshake,
announces what the session grants. -/
theorem announced_is_granted (run : Run (ofFeatures config newMail custom features) peer past s)
    (built : policy.registry.Built) (complete : features.Perm (.auth policy :: Feature.standard))
    (state : s.state = .afterEhlo) (anonymous : s.properties.get? Key.identity.name = none)
    (idle : s.properties.get? Key.exchange.name = none) :
    ∃ lines, Redeems (ofFeatures config newMail custom features) policy lines s ∧
      (∀ p ∈ sinceTls past, p.announces = true →
        ∃ domain, p.answer = .ok (.multi Code.ok.number (salutation config domain :: lines))) ∧
      ∀ (line : Line) (domain : String), line.isTerminated = true → Text.upper line.verb = "EHLO" →
        Grammar.heloDomain? (Grammar.arguments line.text) = some domain →
          ((ofFeatures config newMail custom features).consume s line).1 =
            .ok (.multi Code.ok.number (salutation config domain :: lines)) := by
  have ready : Ready s := ⟨run.fits, state, anonymous, idle⟩
  refine ⟨_, ready.redeems built complete, run.announced, ?_⟩
  intro line domain terminated verb named
  have valid : greetable s.state = true := by rw [state]; rfl
  exact consume_of_ehlo run.fits valid idle terminated verb named

/-- Without TLS a password may not be sent, and the mechanisms that need one are not announced. -/
theorem announced_is_granted_of_registered :
    let check : CredentialCheck := fun _ authcid _ => .ok (.authorized authcid)
    let echo : Factory := { name := "X-ECHO", create := fun _ => ⟨"X-ECHO", fun _ => .idle, []⟩ }
    let policy : AuthPolicy := ⟨Registry.register echo ⟨[.plain check]⟩, true⟩
    let server := accepting { offerStartTls := true } (Feature.standard ++ [.auth policy])
    let now := server.replay "client.example" [.connect, .line (.ofText "EHLO a.example")]
    Redeems server policy ["8BITMIME", "PIPELINING", "STARTTLS", "AUTH X-ECHO"] now.2 ∧
      server.Grants now.2 (.ofText "AUTH x-echo") ∧ ¬server.Grants now.2 (.ofText "AUTH PLAIN") := by
  intro check echo policy server now
  have run := run_replay server "client.example"
    [.connect, .line (.ofText "EHLO a.example")] (by decide +kernel)
  have built : policy.registry.Built :=
    .registered (.configured (rfl : Registry.ofNames check ["PLAIN"] = .ok ⟨[.plain check]⟩)) echo
  have ⟨anonymous, idle⟩ :
      now.2.hasProperty .identity = false ∧ now.2.hasProperty .exchange = false := by decide +kernel
  obtain ⟨lines, redeems, -, next⟩ : ∃ lines, Redeems server policy lines now.2 ∧ _ ∧ _ :=
    announced_is_granted run built List.perm_append_comm (by decide +kernel)
      (Option.not_isSome_iff_eq_none.mp (Bool.eq_false_iff.mp anonymous))
      (Option.not_isSome_iff_eq_none.mp (Bool.eq_false_iff.mp idle))
  have again : (server.consume now.2 (.ofText "EHLO b.example")).1 =
      .ok (.multi 250 ("localhost salutations, b.example" :: lines)) :=
    next _ "b.example" (by decide +kernel) (by decide +kernel) (by decide +kernel)
  have told : (server.consume now.2 (.ofText "EHLO b.example")).1.toOption =
      some (.multi 250 ["localhost salutations, b.example", "8BITMIME", "PIPELINING", "STARTTLS",
        "AUTH X-ECHO"]) := by decide +kernel
  rw [again] at told
  obtain ⟨-, rfl⟩ := List.cons.inj (Reply.multi.inj (Option.some.inj told)).2
  refine ⟨redeems, ?_, fun grants => ?_⟩
  · have echoed : (server.consume now.2 (.ofText "AUTH x-echo")).1.toOption.bind Reply.code? =
        some 334 := by decide +kernel
    by_contra refused
    have asks : (Line.ofText "AUTH x-echo").AsksFor "x-echo" := Line.asksFor_ofText (by decide)
    rw [redeems.refused "x-echo" _ asks refused] at echoed
    exact absurd echoed (by decide)
  · have asks : (Line.ofText "AUTH PLAIN").AsksFor "PLAIN" := Line.asksFor_ofText (by decide)
    exact absurd (redeems.named "PLAIN" _ asks grants) (by decide +kernel)

/-- A mechanism under a name that mechanisms cannot have is announced, and refused. -/
theorem announced_not_granted_of_dotted :
    ¬ ∀ (config : Config) (newMail : Session Empty → MailBehaviour) (custom : Empty → Hook Empty)
      (features : List Feature) (policy : AuthPolicy) (peer : String)
      (past : List (Passage Empty)) (s : Session Empty),
      Run (ofFeatures config newMail custom features) peer past s → policy.registry.Built →
        features.Perm (.auth policy :: Feature.standard) → s.state = .afterEhlo →
          s.hasProperty .identity = false → s.hasProperty .exchange = false →
            ∀ p ∈ sinceTls past, ∀ first lines,
              p.answer.toOption = some (.multi Code.ok.number (first :: lines)) →
                ∀ name (line : Line), line.AsksFor name →
                  (Names lines name ↔ (ofFeatures config newMail custom features).Grants s line) := by
  intro always
  let check : CredentialCheck := fun _ authcid _ => .ok (.authorized authcid)
  let dotted : Factory := { name := "X.ECHO", create := fun _ => ⟨"X.ECHO", fun _ => .idle, []⟩ }
  let policy : AuthPolicy := ⟨Registry.register dotted ⟨[.plain check]⟩, false⟩
  let server := accepting {} (Feature.standard ++ [.auth policy])
  let now := server.replay "client.example" [.connect, .line (.ofText "EHLO a.example")]
  have run := run_replay server "client.example"
    [.connect, .line (.ofText "EHLO a.example")] (by decide +kernel)
  have built : policy.registry.Built :=
    .registered (.configured (rfl : Registry.ofNames check ["PLAIN"] = .ok ⟨[.plain check]⟩)) dotted
  have asks : (Line.ofText "AUTH X.ECHO").AsksFor "X.ECHO" :=
    ⟨by decide +kernel, by decide +kernel, by decide +kernel⟩
  have announced := always _ _ _ _ policy _ _ _ run built List.perm_append_comm (by decide +kernel)
    (by decide +kernel) (by decide +kernel) _ List.mem_cons_self "localhost salutations, a.example"
    ["8BITMIME", "PIPELINING", "AUTH PLAIN X.ECHO"] (by decide +kernel) "X.ECHO" _ asks
  have grants : server.Grants now.2 (.ofText "AUTH X.ECHO") := announced.mp (by decide +kernel)
  obtain ⟨reply, answered, other⟩ := grants
  have refused : (server.consume now.2 (.ofText "AUTH X.ECHO")).1.toOption.bind Reply.code? =
      some 504 := by decide +kernel
  rw [answered] at refused
  exact other refused

end Run

end Server

end SmtpDialog
