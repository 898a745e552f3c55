/- digest: What the answers of a server are made of, and where the client's words come back in them. -/
import SmtpDialog.Proofs.Greeted
import SmtpDialog.Proofs.ReplyLines
import SmtpDialog.Proofs.Base64

set_option autoImplicit false
set_option relaxedAutoImplicit false

namespace SmtpDialog

open Command

variable {κ : Type}

/-- Whether all is of a kind that a server says without quoting the client, about authentication too. -/
structure Site.Answers (Q : Reply → Prop) (features : List Feature) (site : Site κ) : Prop
    extends site.Speaks Q where
  challenge : ∀ c, Q (challengeReply c)
  early : ∀ policy, Feature.policy? features = some policy → ∀ factory ∈ policy.registry.factories,
    Q (.syntaxError (factory.name ++ " does not permit an initial response"))

section

variable {Q : Reply → Prop} {features : List Feature} {site : Site κ} {s t u : Session κ} {line : Line}

namespace Session

theorem Keeps.same (keeps : s.Keeps Q) (mail : t.mail = s.mail)
    (fault : t.properties.get? Key.contentFault.name = s.properties.get? Key.contentFault.name) :
    t.Keeps Q where
  mail := by rw [mail]; exact keeps.mail
  fault := by
    rw [read?, Properties.read?, fault]
    exact keeps.fault

theorem keeps_unlogged : s.unlogged.Keeps Q ↔ s.Keeps Q :=
  ⟨fun keeps => keeps.same rfl rfl, fun keeps => keeps.same rfl rfl⟩

theorem Keeps.of_unlogged (keeps : s.Keeps Q) (same : t.unlogged = s.unlogged) : t.Keeps Q := by
  rw [← keeps_unlogged, same]
  exact keeps_unlogged.mpr keeps

theorem Keeps.moveTo (keeps : s.Keeps Q) (next : State) : (s.moveTo next).Keeps Q :=
  ((Ordinary.refl keeps).moveTo next).keeps

end Session

private def Says (Q : Reply → Prop) (done : Except Fault Reply × Session κ) : Prop :=
  (∀ reply, done.1 = .ok reply → Q reply) ∧ done.2.Keeps Q

private theorem says_stay {reply : Reply} (kind : Q reply) (keeps : t.Keeps Q) :
    Says Q ((Outcome.stay reply t).conclude line) := by
  refine ⟨?_, keeps⟩
  rintro told ⟨⟩
  exact kind

private theorem says_goTo (next : State) {reply : Reply} (kind : Q reply) (keeps : t.Keeps Q) :
    Says Q ((Outcome.goTo next reply t).conclude line) := by
  refine ⟨?_, keeps.moveTo next⟩
  rintro told ⟨⟩
  exact kind

private theorem says_of_ordinary {done : Outcome κ} (answers : site.Answers Q features)
    (ordinary : done.Ordinary Q s) : Says Q (done.conclude line) := by
  obtain ⟨kind, h⟩ := ordinary.conclude (answers.literal rfl) line
  exact ⟨kind, h.keeps⟩

private theorem continueExchange_says (answers : site.Answers Q features) (keeps : u.Keeps Q)
    (e : Exchange) (response : Bytes) :
    Says Q ((continueExchange e response u).conclude line) := by
  obtain ⟨reply, answered, continued⟩ := continueExchange_continued e response u line
  generalize (continueExchange e response u).conclude line = done at answered continued
  obtain ⟨answer, t⟩ := done
  suffices Q reply ∧ t.unlogged.Keeps Q by
    refine ⟨?_, Session.keeps_unlogged.mp this.2⟩
    rintro told same
    obtain rfl : reply = told := Except.ok.inj (answered.symm.trans same)
    exact this.1
  dsimp only at continued
  generalize t.unlogged = v at continued
  cases continued with
  | asked wants unfinished =>
    exact ⟨answers.challenge _, keeps.same rfl (by simp [Session.get?_insert])⟩
  | failed broke => exact ⟨answers.literal rfl, keeps.same rfl rfl⟩
  | denied wants finished nobody =>
    exact ⟨answers.literal rfl, keeps.same rfl rfl⟩
  | succeeded wants finished somebody =>
    refine ⟨answers.literal rfl, keeps.same rfl ?_⟩
    cases (e.reaction response).authcid? <;> simp [Session.get?_insert]

private theorem takeResponse_says (answers : site.Answers Q features) (keeps : s.Keeps Q)
    (e : Exchange) : Says Q ((takeResponse e line (s.clearProperty .exchange)).conclude line) := by
  have cleared : (s.clearProperty .exchange).Keeps Q :=
    keeps.same rfl (by simp [Session.clearProperty, Session.get?_erase])
  rw [takeResponse]
  dsimp only
  split
  · exact says_goTo _ (answers.literal rfl) (cleared.same rfl rfl)
  · split
    · exact continueExchange_says answers cleared e _
    · exact says_stay (answers.literal rfl) (cleared.same rfl rfl)

private theorem auth_says {policy : AuthPolicy} (answers : site.Answers Q features) (keeps : s.Keeps Q)
    (idle : s.properties.get? Key.exchange.name = none)
    (offered : Feature.policy? features = some policy) (verb : Text.upper line.verb = "AUTH") :
    Says Q (((auth policy).handle site s (some line.text)).conclude line) := by
  rw [Handler.handle]
  split
  · rename_i valid
    rcases auth_run site valid idle offered verb with
      ⟨reply, t, refused, same, done⟩ | ⟨factory, response, taken, done⟩
    · rw [done]
      refine says_stay ?_ (keeps.of_unlogged same)
      cases refused with
      | form | unsupported | encoding => exact answers.literal rfl
      | early known => exact answers.early policy offered _ known
    · have begun : (openExchange factory s).2.Keeps Q := keeps.same rfl rfl
      rw [done]
      exact continueExchange_says answers begun _ _
  · exact says_stay (answers.literal rfl) keeps

namespace Server

variable {config : Config} {newMail : Session κ → MailBehaviour} {custom : κ → Hook κ}

/-- All answers to lines are of a kind if what the server says by itself is, and so is the answer in
which the host name of the line comes back. -/
theorem consume_keeps (answers : (ofFeatures config newMail custom features).site.Answers Q features)
    (fits : s.Fits s.state) (keeps : s.Keeps Q)
    (silent : s.state = .readingData → line.endsContent = false → Q .silent) (invites : s.Invites Q)
    (echoes : s.properties.get? Key.exchange.name = none →
      (ofFeatures config newMail custom features).site.Echoes Q s (Text.upper line.verb) line.text) :
    (∀ reply, ((ofFeatures config newMail custom features).consume s line).1 = .ok reply → Q reply) ∧
      ((ofFeatures config newMail custom features).consume s line).2.Keeps Q := by
  by_cases receiving : s.state = .readingData
  · have content := content_ordinary answers.toSpeaks keeps line (silent receiving)
    rw [ofFeatures_site_config] at content
    rw [consume_of_receiving fits receiving]
    exact says_of_ordinary answers content
  · cases found : s.properties.get? Key.exchange.name with
    | some v =>
      obtain ⟨⟨e, rfl⟩, -⟩ := fits.exchange v found
      rw [consume_of_pending fits found]
      exact takeResponse_says answers keeps e
    | none =>
      have still : s.Ordinary Q s := .refl keeps
      rw [consume_of_idle fits receiving found, Dispatch.consume]
      split
      · split
        · rename_i handler served
          by_cases verb : Text.upper line.verb = "AUTH"
          · rw [dispatch_get?_auth config newMail custom features verb] at served
            obtain ⟨policy, offered, rfl⟩ := Option.map_eq_some_iff.mp served
            exact auth_says answers keeps found offered verb
          · exact says_of_ordinary answers (serves_ordinary answers.toSpeaks keeps invites
              (echoes found) verb (serves_of_get? config newMail custom features served))
        · exact says_of_ordinary answers ⟨by rintro _ ⟨⟩, still⟩
      · exact says_of_ordinary answers (Outcome.ordinary_error _ still)

theorem consume_content (speaks : (ofFeatures config newMail custom features).site.Speaks Q)
    (fits : s.Fits s.state) (keeps : s.Keeps Q) (receiving : s.state = .readingData)
    (content : line.endsContent = false) :
    ((ofFeatures config newMail custom features).consume s line).1 = .ok .silent ∧
      ((ofFeatures config newMail custom features).consume s line).2.Keeps Q := by
  have kept := takeContent_ordinary speaks keeps line
  have other : line.content ≠ [46] := by simpa [Line.endsContent] using content
  rw [ofFeatures_site_config] at kept
  rw [consume_of_receiving fits receiving, if_neg other]
  exact ⟨rfl, kept.keeps⟩

theorem greetingBy_handle {command text domain : String}
    {answer : Site κ → Session κ → String → Reply} (valid : greetable s.state = true)
    (named : Grammar.heloDomain? (Grammar.arguments text) = some domain) :
    (greetingBy command answer).handle site s (some text) =
      Outcome.goTo .afterEhlo (answer site (acceptDomain command domain s) domain)
        (acceptDomain command domain s) := by
  have here : (greetingBy command answer).validFor s = true := valid
  rw [Handler.handle, if_pos here]
  simp only [greetingBy, Option.bind_some, Function.comp_apply, named]

theorem consume_of_greeting (config : Config) (newMail : Session κ → MailBehaviour)
    (custom : κ → Hook κ) (features : List Feature) (fits : s.Fits s.state)
    (valid : greetable s.state = true)
    (idle : s.properties.get? Key.exchange.name = none) (terminated : line.isTerminated = true)
    (greets : line.greets = true) {domain : String}
    (named : Grammar.heloDomain? (Grammar.arguments line.text) = some domain) :
    ∃ reply, ((ofFeatures config newMail custom features).consume s line).1 = .ok reply ∧
      reply.code? = some Code.ok.number ∧ salutation config domain ∈ reply.texts := by
  have quiet : s.state ≠ .readingData := by
    intro receiving
    rw [receiving] at valid
    exact Bool.false_ne_true valid
  rw [Line.greets, Bool.or_eq_true, beq_iff_eq, beq_iff_eq] at greets
  rcases greets with verb | verb
  · have own : ("HELO", (helo : Handler κ)) ∈ standardCommands := by simp [standardCommands]
    rw [consume_of_standard fits quiet idle terminated own verb, helo, greetingBy_handle valid named,
      ofFeatures_site_config]
    exact ⟨_, rfl, rfl, List.mem_cons_self⟩
  · have own : ("EHLO", (ehlo : Handler κ)) ∈ standardCommands := by simp [standardCommands]
    rw [consume_of_standard fits quiet idle terminated own verb, ehlo, greetingBy_handle valid named,
      ofFeatures_site_config]
    exact ⟨_, rfl, rfl, List.mem_cons_self⟩

end Server

private theorem not_greets {verb : String} (other : Text.upper line.verb = verb) (helo : verb ≠ "HELO")
    (ehlo : verb ≠ "EHLO") : line.greets ≠ true := by
  simp [Line.greets, other, helo, ehlo]

theorem Effect.exists_domain {config : Config} {answer : Except Fault Reply} {reply : Reply}
    (effect : Effect config features line s answer t) (answered : answer = .ok reply)
    (greets : line.greets = true) (code : reply.code? = some Code.ok.number) :
    greetable s.state = true ∧ s.properties.get? Key.exchange.name = none ∧
      ∃ domain, Grammar.heloDomain? (Grammar.arguments line.text) = some domain := by
  cases effect with
  | greeted verb valid named code plain idle => exact ⟨valid, idle, _, named⟩
  | answered calm =>
    obtain rfl := Except.ok.inj answered
    exact absurd code (calm greets)
  | reset verb | quit verb | senderRefused verb | senderAccepted verb | recipientRefused verb
  | recipientAccepted verb | contentRefused verb | contentBegun verb =>
    exact absurd greets (not_greets verb (by decide) (by decide))
  | received valid receipt =>
    cases receipt with
    | dropped | overflowed | written | broken =>
      obtain rfl := Except.ok.inj answered
      nomatch code
    | abandoned dot | completed dot =>
      rw [Line.greets_of_endsContent dot] at greets
      exact absurd greets Bool.false_ne_true
  | challenged | exchangeFailed | denied | authenticated | cancelled | undecodable =>
    obtain rfl := Except.ok.inj answered
    exact absurd (Option.some.inj code) (by decide)

theorem Code.three_digits (code : Code) : 100 ≤ code.number ∧ code.number ≤ 999 := by
  cases code <;> decide

namespace Reply

variable {barred : List Char}

theorem sound_line {code : Code} {text : String} (free : Text.avoids barred text = true) :
    (Reply.of code text).Sound barred where
  code := by
    rintro _ ⟨⟩
    exact code.three_digits
  texts := by
    rintro _ ⟨⟩
    · exact free
    · contradiction

theorem sound_startTls (breaks : barred ⊆ ['\r', '\n']) :
    (Reply.startTls "Ready to start TLS").Sound barred where
  code := by decide
  texts := by
    intro text member
    obtain rfl := List.mem_singleton.mp member
    exact Text.avoids_of_isUnbroken breaks (Text.isUnbroken_ofList rfl)

theorem Sound.weaken (breaks : barred ⊆ ['\r', '\n']) {reply : Reply}
    (sound : reply.Sound ['\r', '\n']) : reply.Sound barred where
  code := sound.code
  texts text member :=
    Text.avoids_of_isUnbroken breaks (Text.isUnbroken_iff.mpr (sound.texts text member))

end Reply

theorem Feature.mem_of_policy? {policy : AuthPolicy}
    (offered : Feature.policy? features = some policy) : Feature.auth policy ∈ features := by
  have from_last {step : Option AuthPolicy → Feature → Option AuthPolicy}
      (each : ∀ last x, step last x = last ∨ ∃ own, x = .auth own ∧ step last x = some own)
      {last : Option AuthPolicy} {rest : List Feature} (found : rest.foldl step last = some policy) :
      last = some policy ∨ Feature.auth policy ∈ rest := by
    induction rest generalizing last with
    | nil => exact .inl found
    | cons x rest ih =>
      rcases ih found with now | later
      · rcases each last x with same | ⟨own, rfl, same⟩
        · exact .inl (same.symm.trans now)
        · obtain rfl := Option.some.inj (same.symm.trans now)
          exact .inr List.mem_cons_self
      · exact .inr (List.mem_cons_of_mem _ later)
  rw [Feature.policy?] at offered
  refine (from_last ?_ offered).resolve_left (by simp)
  intro last x
  cases x <;> simp

theorem Base64.isUnbroken_text (bs : Bytes) : Text.isUnbroken (String.ofList (text bs)) = true := by
  rw [Text.isUnbroken, String.toList_ofList, List.all_eq_true]
  intro c member
  have dark := not_isBlank_of_mem_text c member
  have other {d : Char} (blank : Text.isBlank d = true) : c ≠ d := by
    rintro rfl
    exact Bool.false_ne_true (dark.symm.trans blank)
  simp [other (d := '\r') rfl, other (d := '\n') rfl]

namespace Server

/-- What a server is set up with stands on one line each, and what mail objects reply is sound. -/
structure Unbroken (config : Config) (newMail : Session κ → MailBehaviour) (features : List Feature) :
    Prop where
  hostName : Text.isUnbroken config.hostName = true
  greeting : Text.isUnbroken config.greeting = true
  keywords : ∀ name, Feature.keyword name ∈ features → Text.isUnbroken name = true
  mechanisms : ∀ policy, Feature.auth policy ∈ features → ∀ factory ∈ policy.registry.factories,
    Text.isUnbroken factory.name = true
  mail : ∀ s, (newMail s).Says (Reply.Sound ['\r', '\n'])

variable {config : Config} {newMail : Session κ → MailBehaviour} {custom : κ → Hook κ}
  {barred : List Char}

theorem ofFeatures_site : (ofFeatures config newMail custom features).site =
    ⟨config, (features.map Feature.extension).map (·.toOffer), newMail⟩ := by
  rw [ofFeatures_eq]
  rfl

/-- Where a kind takes in every reply of one line, only mail objects can say anything else. -/
theorem answers_of_lines (lines : ∀ code text, Q (.of code text)) (mail : ∀ s, (newMail s).Says Q) :
    (ofFeatures config newMail custom features).site.Answers Q features := by
  rw [ofFeatures_site]
  exact
    { plain := fun code text _ => lines code text
      greeting := lines _ _
      closing := lines _ _
      tooLarge := lines _ _
      mail := mail
      challenge := fun _ => lines _ _
      early := fun _ _ _ _ => lines _ _ }

theorem Unbroken.offered (unbroken : Unbroken config newMail features) (s : Session κ)
    {text : String} (member : text ∈ offered (ofFeatures config newMail custom features).site s) :
    Text.isUnbroken text = true := by
  rw [ofFeatures_site, Command.offered] at member
  obtain ⟨offer, available, rfl⟩ := List.mem_map.mp member
  obtain ⟨x, known, rfl⟩ := List.mem_map.mp (List.mem_filter.mp available).1
  obtain ⟨feature, chosen, rfl⟩ := List.mem_map.mp known
  cases feature with
  | keyword name => exact unbroken.keywords name chosen
  | size =>
    have number := Text.isUnbroken_toString config.maxMessageSize
    have same : s!"SIZE {config.maxMessageSize}" = "SIZE " ++ toString config.maxMessageSize := rfl
    show Text.isUnbroken s!"SIZE {config.maxMessageSize}" = true
    rw [same, Text.isUnbroken_append, number]
    rfl
  | startTls =>
    exact Text.isUnbroken_ofList rfl
  | auth policy =>
    apply Text.isUnbroken_intercalate (Text.isUnbroken_ofList rfl)
    intro name listed
    rcases List.mem_cons.mp listed with rfl | listed
    · exact Text.isUnbroken_ofList rfl
    · obtain ⟨factory, allowed, rfl⟩ := List.mem_map.mp listed
      exact unbroken.mechanisms policy chosen factory (List.mem_filter.mp allowed).1

theorem Unbroken.answers (unbroken : Unbroken config newMail features)
    (breaks : barred ⊆ ['\r', '\n']) :
    (ofFeatures config newMail custom features).site.Answers (Reply.Sound barred) features := by
  have plain (code : Code) (text : String) (single : Text.isUnbroken text = true) :
      (Reply.of code text).Sound barred :=
    Reply.sound_line (Text.avoids_of_isUnbroken breaks single)
  rw [ofFeatures_site]
  refine
    { plain := plain
      greeting := plain _ _ ?greeting
      closing := plain _ _ ?closing
      tooLarge := plain _ _ ?tooLarge
      mail := fun s history call reply answered =>
        (unbroken.mail s history call reply answered).weaken breaks
      challenge := fun c => plain _ _ (Base64.isUnbroken_text c)
      early := fun policy offered factory known => plain _ _ ?early }
  case greeting =>
    have gap : Text.isUnbroken " " = true := Text.isUnbroken_ofList rfl
    simp only [Text.isUnbroken_append, unbroken.hostName, unbroken.greeting, gap, Bool.and_self]
  case closing =>
    have farewell : Text.isUnbroken " Service closing transmission channel" = true :=
      Text.isUnbroken_ofList rfl
    rw [Text.isUnbroken_append, unbroken.hostName, farewell]
    rfl
  case tooLarge =>
    have number := Text.isUnbroken_toString config.maxMessageSize
    have same : s!"Maximum message size is {config.maxMessageSize} bytes" =
        "Maximum message size is " ++ toString config.maxMessageSize ++ " bytes" := rfl
    have front : Text.isUnbroken "Maximum message size is " = true := Text.isUnbroken_ofList rfl
    have back : Text.isUnbroken " bytes" = true := Text.isUnbroken_ofList rfl
    rw [same, Text.isUnbroken_append, Text.isUnbroken_append, front, number, back]
    rfl
  case early =>
    have name := unbroken.mechanisms policy (Feature.mem_of_policy? offered) factory known
    have back : Text.isUnbroken " does not permit an initial response" = true :=
      Text.isUnbroken_ofList rfl
    rw [Text.isUnbroken_append, name, back]
    rfl

/-- The host name of a line comes back in a sound answer unless it holds what is barred. -/
theorem Unbroken.echoes (unbroken : Unbroken config newMail features)
    (breaks : barred ⊆ ['\r', '\n']) {verb text : String}
    (free : verb = "HELO" ∨ verb = "EHLO" → greetable s.state = true → ∀ domain,
      Grammar.heloDomain? (Grammar.arguments text) = some domain →
        Text.avoids barred domain = true) :
    (ofFeatures config newMail custom features).site.Echoes (Reply.Sound barred) s verb text := by
  intro greets valid domain named
  have fixed : Text.isUnbroken (config.hostName ++ " salutations, ") = true := by
    have greeting : Text.isUnbroken " salutations, " = true := Text.isUnbroken_ofList rfl
    rw [Text.isUnbroken_append, unbroken.hostName, greeting]
    rfl
  have first : Text.avoids barred (salutation config domain) = true := by
    rw [salutation, Text.avoids_append, Text.avoids_of_isUnbroken breaks fixed]
    exact free greets valid domain named
  rw [ofFeatures_site_config]
  refine ⟨Reply.sound_line first, fun t => ⟨by rintro _ ⟨⟩; decide, fun text member => ?_⟩⟩
  rcases List.mem_cons.mp member with rfl | listed
  · exact first
  · exact Text.avoids_of_isUnbroken breaks (unbroken.offered t listed)

end Server

theorem Line.not_mem_content {line : Line} (terminated : line.isTerminated = true)
    (only : 10 ∉ line.bytes.dropLast) : 10 ∉ line.content := by
  have positive : 0 < line.terminatorLength := by
    simpa [isTerminated, Nat.pos_iff_ne_zero] using terminated
  intro member
  apply only
  rw [List.dropLast_eq_take]
  exact List.take_subset_take_left _ (by omega) member

theorem Text.trim_subset (p : Char → Bool) (cs : List Char) : Text.trim p cs ⊆ cs := by
  intro c member
  rw [Text.trim, Text.trimEnd, List.mem_reverse] at member
  have inner := (List.dropWhile_sublist p).subset member
  exact (List.dropWhile_sublist p).subset (List.mem_reverse.mp inner)

theorem Grammar.subset_of_heloDomain? {text domain : String}
    (named : heloDomain? (arguments text) = some domain) : domain.toList ⊆ text.toList := by
  rw [heloDomain?] at named
  generalize taken : (arguments text).toList.takeWhile (!Text.isGap ·) = cs at named
  cases cs with
  | nil => nomatch named
  | cons first rest =>
    obtain rfl := Option.some.inj named
    rw [String.toList_ofList, ← taken]
    intro c member
    have argument := (List.takeWhile_sublist _).subset member
    rw [arguments, String.toList_ofList, argumentChars] at argument
    have behind := (List.dropWhile_sublist _).subset (Text.trim_subset _ _ argument)
    exact (List.dropWhile_sublist _).subset behind

theorem Line.not_mem_domain {domain : String} (terminated : line.isTerminated = true)
    (only : 10 ∉ line.bytes.dropLast)
    (named : Grammar.heloDomain? (Grammar.arguments line.text) = some domain) :
    '\n' ∉ domain.toList := by
  intro member
  have inside := Grammar.subset_of_heloDomain? named member
  rw [Line.text, String.toList_ofList] at inside
  have bytes := Utf8.subset_of_mem_lossy inside (by decide)
  exact Line.not_mem_content terminated only (bytes (by decide))

end

end SmtpDialog
