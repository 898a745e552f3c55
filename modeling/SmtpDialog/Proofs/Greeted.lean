/- digest: Which runs reach the states after the greeting without a greeting, and that no others do. -/
import SmtpDialog.Proofs.Run

/-!
The states after HELO or EHLO are meant for clients that have greeted. An exchange that succeeds or is
given up moves there as well, from wherever it was begun, and AUTH may be used before the greeting.
`Server.Run.greeted_iff` says that this is the only way around the greeting: a run is without it just
if the states after the greeting are only met by clients that have greeted since the last handshake.
-/

set_option autoImplicit false
set_option relaxedAutoImplicit false

namespace SmtpDialog

variable {κ : Type}

/-- Whether a state is met only after the greeting of the client, while the dialog goes on. -/
def State.pastGreeting (state : State) : Bool := state.isGreeted || state == .readingData

theorem State.isGreeted_of_inTransaction {state : State} (h : state.inTransaction = true) :
    state.isGreeted = true := by
  cases state <;> first | rfl | contradiction

namespace Passage

/-- Whether HELO or EHLO was accepted. -/
def greets (p : Passage κ) : Bool :=
  match p.input, p.answer with
  | .line line, .ok reply => line.greets && reply.code? == some Code.ok.number
  | _, _ => false

/-- Whether an exchange that was begun before the greeting has succeeded or was given up. -/
def skips (p : Passage κ) : Bool :=
  match p.input, p.answer with
  | .line _, .ok reply => p.before.state == .connected && reply.endsExchange
  | _, _ => false

def secures (p : Passage κ) : Bool :=
  match p.input with
  | .secured _ => true
  | _ => false

end Passage

def sinceTls (past : List (Passage κ)) : List (Passage κ) := past.takeWhile (!·.secures)

def greeted (past : List (Passage κ)) : Bool := (sinceTls past).any Passage.greets

def skipped (past : List (Passage κ)) : Bool := (sinceTls past).any Passage.skips

/-- The sessions before the passages of a past, each with its own past. -/
def earlier : List (Passage κ) → List (List (Passage κ) × Session κ)
  | [] => []
  | p :: rest => (rest, p.before) :: earlier rest

/-- Whether the client has greeted since the last handshake if the state is one after the greeting. -/
def Honours (past : List (Passage κ)) (s : Session κ) : Prop :=
  s.state.isGreeted = true → greeted past = true ∧ s.hasProperty .heloDomain = true

section

variable {p : Passage κ} {past : List (Passage κ)}

theorem greeted_cons (calm : p.secures = false) :
    greeted (p :: past) = (p.greets || greeted past) := by
  simp [greeted, sinceTls, calm]

theorem skipped_cons (calm : p.secures = false) :
    skipped (p :: past) = (p.skips || skipped past) := by
  simp [skipped, sinceTls, calm]

theorem greeted_of_secures (secures : p.secures = true) : greeted (p :: past) = false := by
  simp [greeted, sinceTls, secures]

theorem skipped_of_secures (secures : p.secures = true) : skipped (p :: past) = false := by
  simp [skipped, sinceTls, secures]

theorem skipped_eq_false (none_skips : ∀ p ∈ past, p.skips = false) : skipped past = false := by
  rw [skipped, List.any_eq_false]
  intro p h
  simpa using none_skips p (List.takeWhile_subset _ h)

end

theorem Line.verb_of_endsContent {line : Line} (dot : line.endsContent = true) :
    line.verb = "." := by
  have content : line.content = [46] := eq_of_beq dot
  unfold Line.verb Line.body Line.chars
  rw [content]
  decide

theorem Line.greets_of_endsContent {line : Line} (dot : line.endsContent = true) :
    line.greets = false := by
  rw [Line.greets, Line.verb_of_endsContent dot]
  decide

theorem Reply.code?_of_endsExchange {reply : Reply} (ends : reply.endsExchange = true) :
    reply.code? ≠ some Code.ok.number := by
  cases reply with
  | line code text =>
    intro same
    obtain rfl : code = Code.ok.number := Option.some.inj same
    simp [Reply.endsExchange, Code.number] at ends
  | silent | multi | startTls => contradiction

/-- What a line means for the greeting. -/
inductive Progress (line : Line) (s : Session κ) (answer : Except Fault Reply) (t : Session κ) : Prop
  | greeting {reply : Reply} (answered : answer = .ok reply) (greets : line.greets = true)
      (code : reply.code? = some Code.ok.number) (state : t.state = .afterEhlo)
      (named : t.hasProperty .heloDomain = true)
  | skip {reply : Reply} (answered : answer = .ok reply) (early : s.state = .connected)
      (ends : reply.endsExchange = true) (state : t.state = .afterEhlo)
      (same : t.hasProperty .heloDomain = s.hasProperty .heloDomain)
  | other (calm : ∀ reply, answer = .ok reply → line.greets = true →
        reply.code? ≠ some Code.ok.number)
      (patient : ∀ reply, answer = .ok reply → s.state = .connected → reply.endsExchange = false)
      (state : t.state = s.state ∨ t.state = .endingSession ∨
        s.state.pastGreeting = true ∧ t.state.pastGreeting = true)
      (same : t.hasProperty .heloDomain = s.hasProperty .heloDomain)

open Command Session

variable {config : Config} {features : List Feature} {s t : Session κ}

theorem Takes.progress {line : Line} {e : Exchange} {response : Bytes} (fits : s.Fits s.state)
    (taken : Takes features line s e response t) :
    t.state = s.state ∧ betweenTransactions s.state = true ∧
      t.hasProperty .heloDomain = s.hasProperty .heloDomain := by
  cases taken with
  | opened verb offered between anonymous idle words found carried => exact ⟨rfl, between, rfl⟩
  | resumed pending decoded =>
    refine ⟨rfl, (fits.exchange _ pending).2.1, ?_⟩
    simp [hasProperty, Table.contains, get?_erase]

private theorem deaf {line : Line} {verb : String} (h : Text.upper line.verb = verb)
    (helo : verb ≠ "HELO") (ehlo : verb ≠ "EHLO") : line.greets = false := by
  simp [Line.greets, h, helo, ehlo]

private theorem progress_of_ends {line : Line} {reply : Reply}
    (between : betweenTransactions s.state = true) (ends : reply.endsExchange = true)
    (state : t.state = .afterEhlo)
    (same : t.hasProperty .heloDomain = s.hasProperty .heloDomain) :
    Progress line s (.ok reply) t := by
  by_cases early : s.state = .connected
  · exact .skip rfl early ends state same
  · refine .other ?_ ?_ (.inr (.inr ⟨?_, by rw [state]; rfl⟩)) same
    · rintro _ ⟨rfl⟩ _
      exact Reply.code?_of_endsExchange ends
    · exact fun _ _ h => absurd h early
    · cases h : s.state <;> simp_all [betweenTransactions, State.pastGreeting, State.isGreeted]

private theorem progress_of_stays {line : Line} {reply : Reply}
    (code : reply.code? ≠ some Code.ok.number) (goesOn : reply.endsExchange = false)
    (state : t.state = s.state)
    (same : t.hasProperty .heloDomain = s.hasProperty .heloDomain) :
    Progress line s (.ok reply) t := by
  refine .other ?_ ?_ (.inl state) same
  · rintro _ ⟨rfl⟩ _
    exact code
  · rintro _ ⟨rfl⟩ _
    exact goesOn

private theorem progress_of_silent {line : Line} (valid : s.state = .readingData)
    (state : t.state = s.state)
    (same : t.hasProperty .heloDomain = s.hasProperty .heloDomain) :
    Progress line s (.ok .silent) t := by
  refine .other ?_ (by simp [valid]) (.inl state) same
  rintro _ ⟨rfl⟩ _
  simp [Reply.code?]

private theorem progress_of_dot {line : Line} {answer : Except Fault Reply}
    (valid : s.state = .readingData) (dot : line.endsContent = true) (state : t.state = .afterEhlo)
    (same : t.hasProperty .heloDomain = s.hasProperty .heloDomain) : Progress line s answer t := by
  refine .other ?_ (by simp [valid]) (.inr (.inr ⟨by rw [valid]; rfl, by rw [state]; rfl⟩)) same
  intro _ _ greets
  rw [Line.greets_of_endsContent dot] at greets
  contradiction

theorem Receipt.progress {line : Line} {answer : Except Fault Reply}
    (valid : s.state = .readingData) (receipt : Receipt config line s answer t) :
    Progress line s answer t := by
  cases receipt with
  | dropped => exact progress_of_silent valid rfl rfl
  | overflowed | written | broken =>
    exact progress_of_silent valid rfl (by simp [hasProperty, Table.contains, get?_insert])
  | abandoned dot | completed dot =>
    exact progress_of_dot valid dot rfl (by simp [hasProperty, Table.contains, get?_erase])

private theorem progress_of_mail {line : Line} {verb : String} {answer : Except Fault Reply}
    (named : Text.upper line.verb = verb) (helo : verb ≠ "HELO") (ehlo : verb ≠ "EHLO")
    (before : s.state.isGreeted = true) (after : t.state.pastGreeting = true)
    (same : t.hasProperty .heloDomain = s.hasProperty .heloDomain) : Progress line s answer t := by
  refine .other ?_ ?_ (.inr (.inr ⟨by simp [State.pastGreeting, before], after⟩)) same
  · intro _ _ greets
    rw [deaf named helo ehlo] at greets
    exact (Bool.false_ne_true greets).elim
  · intro _ _ early
    rw [early] at before
    exact (Bool.false_ne_true before).elim

theorem Effect.progress {line : Line} {answer : Except Fault Reply} (fits : s.Fits s.state)
    (effect : Effect config features line s answer t) : Progress line s answer t := by
  cases effect with
  | answered calm tls other quiet =>
    refine .other ?_ ?_ (.inl rfl) rfl
    · rintro _ ⟨rfl⟩
      exact calm
    · rintro _ ⟨rfl⟩ _
      exact other
  | greeted verb valid named code plain =>
    exact .greeting rfl verb code rfl (by simp [hasProperty, Table.contains, get?_insert])
  | reset verb valid =>
    refine .other ?_ ?_ ?_ (by simp [hasProperty, closeMail_properties])
    · intro _ _ greets
      simp [deaf verb] at greets
    · rintro _ ⟨rfl⟩ _
      rfl
    · by_cases early : s.state = .connected
      · exact .inl (by simp [early])
      · refine .inr (.inr ⟨?_, by simp [early, State.pastGreeting, State.isGreeted]⟩)
        simpa [inDialog, early, State.pastGreeting] using Or.inl valid
  | quit verb quiet idle =>
    refine .other ?_ ?_ (.inr (.inl rfl)) (by simp [hasProperty, closeMail_properties])
    · intro _ _ greets
      simp [deaf verb] at greets
    · rintro _ ⟨rfl⟩ _
      rfl
  | senderRefused verb valid asked refused =>
    have before : s.state.isGreeted = true := by rw [valid]; rfl
    exact progress_of_mail verb (by decide) (by decide) before (by simp [State.pastGreeting, before])
      (by simp [hasProperty, Table.contains, get?_erase])
  | senderAccepted verb valid idle asked accepted =>
    exact progress_of_mail verb (by decide) (by decide) (by rw [valid]; rfl) rfl
      (by simp [hasProperty, Table.contains, get?_erase])
  | recipientRefused verb valid holds asked refused =>
    have before := State.isGreeted_of_inTransaction valid
    exact progress_of_mail verb (by decide) (by decide) before (by simp [State.pastGreeting, before])
      rfl
  | recipientAccepted verb valid room holds asked accepted =>
    exact progress_of_mail verb (by decide) (by decide) (State.isGreeted_of_inTransaction valid) rfl
      (by simp [hasProperty, Table.contains, get?_insert])
  | contentRefused verb valid holds asked =>
    exact progress_of_mail verb (by decide) (by decide) (by rw [valid]; rfl) rfl
      (by simp [hasProperty, Table.contains, get?_erase])
  | contentBegun verb valid holds asked =>
    exact progress_of_mail verb (by decide) (by decide) (by rw [valid]; rfl) rfl
      (by simp [hasProperty, Table.contains, get?_erase, get?_insert])
  | received valid receipt => exact receipt.progress valid
  | challenged taken asked unfinished =>
    obtain ⟨state, -, same⟩ := taken.progress fits
    refine progress_of_stays (by simp [challengeReply, Reply.of, Reply.code?, Code.number]) rfl
      state (Eq.trans ?_ same)
    simp [hasProperty, Table.contains, get?_insert]
  | exchangeFailed taken asked =>
    obtain ⟨state, -, same⟩ := taken.progress fits
    exact progress_of_stays (by decide) rfl state same
  | denied taken asked finished nobody =>
    obtain ⟨state, -, same⟩ := taken.progress fits
    exact progress_of_stays (by simp [Reply.of, Reply.code?, Code.number]) rfl state same
  | authenticated taken asked finished somebody =>
    obtain ⟨-, between, same⟩ := taken.progress fits
    refine progress_of_ends between rfl rfl (Eq.trans ?_ same)
    cases (Exchange.reaction _ _).authcid? <;> simp [hasProperty, Table.contains, get?_insert]
  | cancelled pending star =>
    refine progress_of_ends (fits.exchange _ pending).2.1 rfl rfl ?_
    simp [hasProperty, Table.contains, get?_erase]
  | undecodable pending encoded =>
    refine progress_of_stays (by decide) rfl rfl ?_
    simp [hasProperty, Table.contains, get?_erase]

/-- How a past tells of the greeting. -/
structure Tracks (past : List (Passage κ)) (s : Session κ) : Prop where
  named : s.hasProperty .heloDomain = greeted past
  earned : s.state.pastGreeting = true → greeted past = true ∨ skipped past = true
  kept : greeted past = true ∨ skipped past = true →
    s.state.pastGreeting = true ∨ s.state = .endingSession
  /-- Right after it was skipped, the greeting is still missing. -/
  missing : ∀ p ∈ past.head?, p.skips = true →
    s.state = .afterEhlo ∧ greeted past = false ∧ skipped past = true

private theorem Tracks.idle {past : List (Passage κ)} {p : Passage κ} (tracks : Tracks past s)
    (calm : p.secures = false) (greets : p.greets = false) (skips : p.skips = false)
    (same : t.hasProperty .heloDomain = s.hasProperty .heloDomain)
    (up : t.state.pastGreeting = true → s.state.pastGreeting = true)
    (down : s.state.pastGreeting = true ∨ s.state = .endingSession →
      t.state.pastGreeting = true ∨ t.state = .endingSession) :
    Tracks (p :: past) t := by
  have greeted_same : greeted (p :: past) = greeted past := by rw [greeted_cons calm, greets]; rfl
  have skipped_same : skipped (p :: past) = skipped past := by rw [skipped_cons calm, skips]; rfl
  refine ⟨?_, ?_, ?_, ?_⟩
  · rw [same, tracks.named, greeted_same]
  · rw [greeted_same, skipped_same]
    exact fun late => tracks.earned (up late)
  · rw [greeted_same, skipped_same]
    exact fun reached => down (tracks.kept reached)
  · intro q h skipping
    obtain rfl : p = q := Option.some.inj h
    rw [skips] at skipping
    contradiction

private theorem Tracks.line {past : List (Passage κ)} {line : Line} {answer : Except Fault Reply}
    (tracks : Tracks past s) (progress : Progress line s answer t) :
    Tracks (⟨.line line, s, answer⟩ :: past) t := by
  cases progress with
  | @greeting reply answered greets code state named =>
    subst answered
    have now : greeted (⟨.line line, s, .ok reply⟩ :: past) = true := by
      rw [greeted_cons rfl]
      simp [Passage.greets, greets, code]
    refine ⟨by rw [named, now], fun _ => .inl now, fun _ => .inl (by rw [state]; rfl), ?_⟩
    rintro _ ⟨rfl⟩ skips
    have ends : reply.endsExchange = true := by
      simp only [Passage.skips, Bool.and_eq_true] at skips
      exact skips.2
    exact absurd code (Reply.code?_of_endsExchange ends)
  | @skip reply answered early ends state same =>
    subst answered
    have none_before : greeted past = false := by
      cases met : greeted past with
      | false => rfl
      | true =>
        have late := tracks.kept (.inl met)
        simp [early, State.pastGreeting, State.isGreeted] at late
    have still : greeted (⟨.line line, s, .ok reply⟩ :: past) = false := by
      rw [greeted_cons rfl, none_before]
      simp [Passage.greets, Reply.code?_of_endsExchange ends]
    have now : skipped (⟨.line line, s, .ok reply⟩ :: past) = true := by
      rw [skipped_cons rfl]
      simp [Passage.skips, early, ends]
    refine ⟨?_, fun _ => .inr now, fun _ => .inl (by rw [state]; rfl), ?_⟩
    · rw [same, tracks.named, none_before, still]
    · exact fun _ _ _ => ⟨state, still, now⟩
  | other calm patient state same =>
    have greets : (⟨.line line, s, answer⟩ : Passage κ).greets = false := by
      cases answer with
      | error fault => rfl
      | ok reply => simpa [Passage.greets] using calm reply rfl
    have skips : (⟨.line line, s, answer⟩ : Passage κ).skips = false := by
      cases answer with
      | error fault => rfl
      | ok reply => simpa [Passage.skips] using patient reply rfl
    apply tracks.idle rfl greets skips same
    · intro late
      rcases state with state | state | ⟨before, -⟩
      · exact state ▸ late
      · rw [state] at late
        contradiction
      · exact before
    · intro reached
      rcases state with state | state | ⟨-, after⟩
      · rwa [state]
      · exact .inr state
      · exact .inl after

theorem Tracks.step {past : List (Passage κ)} {input : Input} {answer : Except Fault Reply}
    (fits : s.Fits s.state) (tracks : Tracks past s)
    (change : Change config features s input answer t) :
    Tracks (⟨input, s, answer⟩ :: past) t := by
  cases change with
  | welcomed valid =>
    refine tracks.idle rfl rfl rfl rfl ?_ ?_
    · intro late
      contradiction
    · intro reached
      simp [valid, State.pastGreeting, State.isGreeted] at reached
  | unwelcome invalid => exact tracks.idle rfl rfl rfl rfl id id
  | line effect => exact tracks.line (effect.progress fits)
  | complained quiet plain => exact tracks.idle rfl rfl rfl rfl id id
  | ignored trouble moot =>
    cases input with
    | tooLong | abort => exact tracks.idle rfl rfl rfl rfl id id
    | connect | line | secured => contradiction
  | failed trouble receiving sound =>
    have same (v : Value) :
        (s.properties.insert Key.contentFault.name v).contains Key.heloDomain.name =
          s.properties.contains Key.heloDomain.name := by
      simp [Table.contains, get?_insert]
    cases input with
    | tooLong | abort => exact tracks.idle rfl rfl rfl (same _) id id
    | connect | line | secured => contradiction
  | secured quiet =>
    refine ⟨?_, ?_, ?_, ?_⟩
    · rw [greeted_of_secures rfl]
      rfl
    · intro late
      contradiction
    · rw [greeted_of_secures rfl, skipped_of_secures rfl]
      simp
    · rintro _ ⟨rfl⟩ skips
      contradiction

theorem Tracks.honours_iff {p : Passage κ} {past : List (Passage κ)} (tracks : Tracks (p :: past) s)
    (before : ∀ q ∈ past, q.skips = false) : Honours (p :: past) s ↔ p.skips = false := by
  constructor
  · intro honours
    cases skips : p.skips with
    | false => rfl
    | true =>
      obtain ⟨state, missing, -⟩ := tracks.missing p rfl skips
      have met := (honours (by rw [state]; rfl)).1
      rw [missing] at met
      contradiction
  · intro skips late
    have nothing : skipped (p :: past) = false :=
      skipped_eq_false fun q h => (List.mem_cons.mp h).elim (· ▸ skips) (before q)
    have met : greeted (p :: past) = true := by
      rcases tracks.earned (by simp [State.pastGreeting, late]) with met | skip
      · exact met
      · rw [nothing] at skip
        contradiction
    exact ⟨met, tracks.named.trans met⟩

namespace Server.Run

variable {newMail : Session κ → MailBehaviour} {custom : κ → Hook κ} {peer : String}
  {past : List (Passage κ)}

theorem tracks (run : Run (ofFeatures config newMail custom features) peer past s) :
    Tracks past s := by
  refine Run.induct (motive := Tracks) ?_ ?_ ?_ run
  · exact ⟨rfl, by simp [newSession, State.pastGreeting, State.isGreeted],
      by simp [greeted, skipped, sinceTls], by simp⟩
  · intro past s
    constructor
    · intro tracks
      exact ⟨tracks.named, tracks.earned, tracks.kept, tracks.missing⟩
    · intro tracks
      exact ⟨tracks.named, tracks.earned, tracks.kept, tracks.missing⟩
  · intro past s input answer t run fits tracks change
    exact tracks.step fits change

/-- The host name is kept just as long as the client has greeted since the last handshake. A run meets
the states after the greeting only where the client has greeted, unless an exchange that was begun
before the greeting has succeeded or was given up; then it does not. -/
theorem greeted_iff (run : Run (ofFeatures config newMail custom features) peer past s) :
    s.hasProperty .heloDomain = greeted past ∧
      ((∀ point ∈ (past, s) :: earlier past, Honours point.1 point.2) ↔
        ∀ p ∈ past, p.skips = false) := by
  refine ⟨run.tracks.named, ?_⟩
  -- Each step adds one point on the left and one passage on the right, and they agree as long as
  -- nothing was skipped before.
  induction run with
  | start => simp [earlier, Honours, newSession, State.isGreeted]
  | logged run level text ih =>
    rw [List.forall_mem_cons] at ih ⊢
    exact ih
  | step run input follows ih =>
    have tracks := (run.step input follows).tracks
    rw [List.forall_mem_cons, earlier, ih, List.forall_mem_cons]
    constructor
    · rintro ⟨honours, before⟩
      exact ⟨(tracks.honours_iff before).mp honours, before⟩
    · rintro ⟨skips, before⟩
      exact ⟨(tracks.honours_iff before).mpr skips, before⟩

theorem greeted_iff_after_mail :
    let now := (accepting {} [.size]).replay "client.example" [.connect,
      .line (.ofText "EHLO client.example"), .line (.ofText "MAIL FROM:<a@client.example>")]
    now.2.state = .afterMail ∧ now.2.hasProperty .heloDomain = greeted now.1 ∧
      ((∀ point ∈ now :: earlier now.1, Honours point.1 point.2) ↔
        ∀ p ∈ now.1, p.skips = false) :=
  ⟨by decide +kernel, greeted_iff (run_replay _ _ _ (by decide +kernel))⟩

/-- The states after the greeting can be met without one: AUTH is enough. -/
theorem not_always_greeted :
    ¬ ∀ (config : Config) (newMail : Session Empty → MailBehaviour) (custom : Empty → Hook Empty)
      (features : List Feature) (peer : String) (past : List (Passage Empty)) (s : Session Empty),
      Run (ofFeatures config newMail custom features) peer past s →
        s.state.isGreeted = true → greeted past = true := by
  intro always
  have met := always {} (fun _ _ _ => .ok .ok) Empty.elim
    [.auth ⟨⟨[.plain fun _ authcid _ => .ok (.authorized authcid)]⟩, false⟩] "client.example" _ _
    (run_replay _ _ [.connect, .line (.ofText "AUTH PLAIN AGRpYgBodW50ZXIy")] (by decide +kernel))
    (by decide +kernel)
  exact absurd met (by decide +kernel)

end Server.Run

end SmtpDialog
