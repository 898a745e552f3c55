/- digest: What becomes of a message between DATA and the dot. -/
import SmtpDialog.Proofs.Serving

/-!
Between DATA and the dot a session is told lines of content, lines that were too long and failures from
outside. `failure?` says whether one of these makes a message fail that has not failed before, and
`attempt` what it asks of the mail object. Two invariants carry the proof: `Receiving` until the first
failure, `Spoiled` from then on.
-/

set_option autoImplicit false
set_option relaxedAutoImplicit false

namespace SmtpDialog

open Command

variable {κ : Type}

namespace MailObject

def after (mail : MailObject) (calls : List MailCall) : MailObject :=
  calls.foldl (fun mail c => (mail.call c).2) mail

/-- The events of some calls, the latest first. -/
def records (mail : MailObject) : List MailCall → List Event
  | [] => []
  | c :: rest => (mail.call c).2.records rest ++ [.mailCalled mail.serial c (mail.call c).1]

theorem after_concat (mail : MailObject) (calls : List MailCall) (c : MailCall) :
    mail.after (calls ++ [c]) = ((mail.after calls).call c).2 := by
  simp [after]

theorem after_serial (mail : MailObject) (calls : List MailCall) :
    (mail.after calls).serial = mail.serial := by
  induction calls generalizing mail with
  | nil => rfl
  | cons c rest ih => exact ih (mail.call c).2

theorem records_concat (mail : MailObject) (calls : List MailCall) (c : MailCall) :
    mail.records (calls ++ [c]) =
      .mailCalled mail.serial c ((mail.after calls).call c).1 :: mail.records calls := by
  induction calls generalizing mail with
  | nil => rfl
  | cons d rest ih =>
    have tail := ih (mail.call d).2
    rw [List.cons_append, records, tail]
    rfl

end MailObject

namespace Input

/-- Whether an input can come between DATA and the dot. -/
def isContent : Input → Bool
  | .line l => l.isTerminated && !l.endsContent
  | .tooLong _ | .abort _ => true
  | _ => false

/-- The content of a line, terminator included, without a dot in front. -/
def content? : Input → Option Bytes
  | .line l => some (unstuffed l.bytes)
  | _ => none

theorem isFree_of_isContent {input : Input} (content : input.isContent = true) :
    input.isFree = true := by
  cases input with
  | line l => exact (Bool.and_eq_true_iff.mp content).1
  | tooLong | abort => rfl
  | connect | secured => contradiction

end Input

def writes (events : List Input) : List MailCall :=
  (events.filterMap Input.content?).map MailCall.writeLine

def contentSize (events : List Input) : Nat :=
  (events.filterMap Input.content?).flatten.length

/-- Whether content is over the limit of the server, if there is one. It is counted in 64 bits. -/
def overflows (config : Config) (events : List Input) : Prop :=
  0 < config.maxMessageSize ∧ config.maxMessageSize < contentSize events % UInt64.size

instance (config : Config) (events : List Input) : Decidable (overflows config events) :=
  inferInstanceAs (Decidable (_ ∧ _))

/-- The answer that the dot will get if an input is the first one to make the message fail. -/
def failure? (config : Config) (mail : MailObject) (before : List Input) : Input → Option Reply
  | .line line =>
    if overflows config (before ++ [.line line]) then some (tooLarge config)
    else match ((mail.after (writes before)).call (.writeLine (unstuffed line.bytes))).1 with
      | .ok _ => none
      | .error _ => some .serverError
  | event => event.trouble?

/-- What an input asks of the mail object as long as nothing has made the message fail. -/
def attempt (config : Config) (before : List Input) : Input → List MailCall
  | .line line =>
    if overflows config (before ++ [.line line]) then [] else [.writeLine (unstuffed line.bytes)]
  | _ => []

def Unfailed (config : Config) (mail : MailObject) (events : List Input) : Prop :=
  ∀ front event rest, events = front ++ event :: rest → failure? config mail front event = none

def Server.hears (server : Server κ) (s : Session κ) (events : List Input) : Session κ :=
  events.foldl (fun s event => (server.take s event).2) s

/-- The session after a message, for the mail object that it began with and the calls made on it. -/
def Session.afterMessage (s : Session κ) (mail : MailObject) (calls : List MailCall) : Session κ :=
  { s with
    state := .afterEhlo
    mail := none
    consumers := s.consumers.erase Place.content.name
    properties := (s.properties.erase Key.contentSize.name).erase Key.contentFault.name
    journal := .mailDisposed mail.serial :: mail.records calls ++ s.journal }

theorem writes_concat (events : List Input) (event : Input) :
    writes (events ++ [event]) = writes events ++ writes [event] := by
  simp [writes]

theorem contentSize_concat (events : List Input) (event : Input) :
    contentSize (events ++ [event]) = contentSize events + contentSize [event] := by
  simp [contentSize]

/-- The count in 64 bits is the number of bytes, for any content of less than 2⁶⁴ bytes. -/
theorem overflows_iff_of_lt {config : Config} {events : List Input}
    (small : contentSize events < UInt64.size) :
    overflows config events ↔
      0 < config.maxMessageSize ∧ config.maxMessageSize < contentSize events := by
  rw [overflows, Nat.mod_eq_of_lt small]

theorem ofNat_contentSize_concat (events : List Input) (line : Line) :
    UInt64.ofNat (contentSize (events ++ [.line line])) =
      UInt64.ofNat (contentSize events) + UInt64.ofNat (unstuffed line.bytes).length := by
  have one : contentSize [.line line] = (unstuffed line.bytes).length := by
    simp [contentSize, Input.content?]
  rw [contentSize_concat, one, UInt64.ofNat_add]

/-- A session between DATA and the dot, after some calls on the mail object. It is compared with the
session `t` at the beginning of the message, and both without their log records. -/
structure Amid (t : Session κ) (mail : MailObject) (calls : List MailCall) (v : Session κ) :
    Prop where
  rest : v = { t with
    mail := some (mail.after calls)
    properties := v.properties
    journal := mail.records calls ++ t.journal }
  kept : (v.properties.erase Key.contentSize.name).erase Key.contentFault.name =
    (t.properties.erase Key.contentSize.name).erase Key.contentFault.name

/-- None of the inputs so far made the message fail. -/
structure Receiving (t : Session κ) (mail : MailObject) (front : List Input) (v : Session κ) : Prop
    extends Amid t mail (writes front) v where
  size : v.properties.get? Key.contentSize.name = some (.word (UInt64.ofNat (contentSize front)))
  sound : v.properties.get? Key.contentFault.name = none

/-- The message has failed, and the reply to the dot is known. -/
structure Spoiled (t : Session κ) (mail : MailObject) (calls : List MailCall) (reply : Reply)
    (v : Session κ) : Prop extends Amid t mail calls v where
  fault : v.properties.get? Key.contentFault.name = some (.reply reply)

open Session

variable {config : Config} {features : List Feature} {mail : MailObject} {front : List Input}
  {event : Input} {s t u : Session κ}

private theorem kept_of_size {p q : Properties} {value : Value}
    (kept : (p.erase Key.contentSize.name).erase Key.contentFault.name = q) :
    ((p.insert Key.contentSize.name value).erase Key.contentSize.name).erase
      Key.contentFault.name = q := by
  rw [Table.erase_insert, kept]

private theorem kept_of_fault {p q : Properties} {value : Value}
    (kept : (p.erase Key.contentSize.name).erase Key.contentFault.name = q) :
    ((p.insert Key.contentFault.name value).erase Key.contentSize.name).erase
      Key.contentFault.name = q := by
  rw [Table.erase_comm, Table.erase_insert, Table.erase_comm, kept]

private theorem Amid.holds {calls : List MailCall} (now : Amid t mail calls s.unlogged) :
    s.mail = some (mail.after calls) := congrArg (fun v => v.mail) now.rest

private theorem Amid.consumers {calls : List MailCall} (now : Amid t mail calls s.unlogged) :
    s.consumers = t.consumers := congrArg (fun v => v.consumers) now.rest

/-- A message that has not failed goes on after one more input, or fails by it. -/
inductive Hears (config : Config) (t : Session κ) (mail : MailObject) (front : List Input)
    (event : Input) (u : Session κ) : Prop
  | goesOn (fine : failure? config mail front event = none)
      (now : Receiving t mail (front ++ [event]) u) : Hears config t mail front event u
  | fails {reply : Reply} (failure : failure? config mail front event = some reply)
      (now : Spoiled t mail (writes front ++ attempt config front event) reply u) :
      Hears config t mail front event u

private theorem counted {n : UInt64} (now : Receiving t mail front s.unlogged)
    (size : s.properties.get? Key.contentSize.name = some (.word n)) (line : Line) :
    n + UInt64.ofNat (unstuffed line.bytes).length =
      UInt64.ofNat (contentSize (front ++ [.line line])) := by
  have found := now.size
  rw [unlogged_properties, size] at found
  obtain rfl : n = UInt64.ofNat (contentSize front) := Value.word.inj (Option.some.inj found)
  rw [ofNat_contentSize_concat]

private theorem overflows_iff {n : UInt64} (now : Receiving t mail front s.unlogged)
    (size : s.properties.get? Key.contentSize.name = some (.word n)) (line : Line) :
    overflows config (front ++ [.line line]) ↔ 0 < config.maxMessageSize ∧
      config.maxMessageSize < (n + UInt64.ofNat (unstuffed line.bytes).length).toNat := by
  rw [counted now size line, UInt64.toNat_ofNat']
  exact Iff.rfl

/-- What a line of content makes of a message that has not failed. -/
theorem Receiving.line {line : Line} {answer : Except Fault Reply}
    (now : Receiving t mail front s.unlogged) (content : line.endsContent = false)
    (receipt : Receipt config line s answer u) :
    answer = .ok .silent ∧ Hears config t mail front (.line line) u := by
  have one : writes (front ++ [.line line]) = writes front ++ [.writeLine (unstuffed line.bytes)] :=
    writes_concat front _
  cases receipt with
  | dropped _ failed =>
    have sound := now.sound
    rw [unlogged_properties] at sound
    simp [hasProperty, Table.contains, sound] at failed
  | @overflowed n _ sound size excess =>
    have large : overflows config (front ++ [.line line]) := (overflows_iff now size line).mpr excess
    have failure : failure? config mail front (.line line) = some (tooLarge config) := if_pos large
    refine ⟨rfl, .fails failure ⟨⟨?_, kept_of_fault (kept_of_size now.kept)⟩, ?_⟩⟩
    · rw [attempt, if_pos large, List.append_nil, now.rest]
    · simp [get?_insert]
  | @written object n reply _ sound size within held asked =>
    have small : ¬overflows config (front ++ [.line line]) := fun large =>
      within ((overflows_iff now size line).mp large)
    obtain rfl : mail.after (writes front) = object := Option.some.inj (now.holds.symm.trans held)
    have fine : failure? config mail front (.line line) = none := by
      rw [failure?, if_neg small, asked]
    refine ⟨rfl, .goesOn fine ⟨⟨?_, kept_of_size now.kept⟩, ?_, ?_⟩⟩
    · rw [one, MailObject.after_concat, MailObject.records_concat, asked, now.rest,
        MailObject.after_serial]
      rfl
    · simp [get?_insert, counted now size line]
    · simpa [get?_insert] using sound
  | @broken object n fault _ sound size within held asked =>
    have small : ¬overflows config (front ++ [.line line]) := fun large =>
      within ((overflows_iff now size line).mp large)
    obtain rfl : mail.after (writes front) = object := Option.some.inj (now.holds.symm.trans held)
    have failure : failure? config mail front (.line line) = some .serverError := by
      rw [failure?, if_neg small, asked]
    refine ⟨rfl, .fails failure ⟨⟨?_, kept_of_fault (kept_of_size now.kept)⟩, ?_⟩⟩
    · rw [attempt, if_neg small, MailObject.after_concat, MailObject.records_concat, asked,
        now.rest, MailObject.after_serial]
      rfl
    · simp [get?_insert]
  | abandoned dot =>
    rw [content] at dot
    contradiction
  | completed dot =>
    rw [content] at dot
    contradiction

theorem Receiving.trouble {answer : Except Fault Reply} (receiving : s.state = .readingData)
    (now : Receiving t mail front s.unlogged) {reply : Reply}
    (trouble : event.trouble? = some reply) (change : Change config features s event answer u) :
    answer = .ok .silent ∧ Hears config t mail front event u := by
  have same : failure? config mail front event = some reply := by
    cases event <;> first | exact trouble | contradiction
  have nothing : attempt config front event = [] := by
    cases event <;> first | rfl | contradiction
  cases change with
  | welcomed | unwelcome | line | secured => contradiction
  | complained quiet => exact absurd receiving quiet
  | ignored _ moot =>
    have failed := moot receiving
    have sound := now.sound
    rw [unlogged_properties] at sound
    simp [hasProperty, Table.contains, sound] at failed
  | @failed _ other known _ sound =>
    obtain rfl : other = reply := Option.some.inj (known.symm.trans trouble)
    refine ⟨rfl, .fails same ⟨⟨?_, kept_of_fault now.kept⟩, ?_⟩⟩
    · rw [nothing, List.append_nil, now.rest]
    · simp [get?_insert]

/-- Once a message has failed, lines and further failures change nothing. -/
theorem Spoiled.line {calls : List MailCall} {reply : Reply} {line : Line}
    {answer : Except Fault Reply} (now : Spoiled t mail calls reply s.unlogged)
    (content : line.endsContent = false) (receipt : Receipt config line s answer u) :
    answer = .ok .silent ∧ Spoiled t mail calls reply u := by
  have failed := now.fault
  rw [unlogged_properties] at failed
  cases receipt with
  | dropped => exact ⟨rfl, now⟩
  | overflowed _ sound | written _ sound | broken _ sound =>
    rw [failed] at sound
    contradiction
  | abandoned dot | completed dot =>
    rw [content] at dot
    contradiction

theorem Spoiled.trouble {calls : List MailCall} {reply : Reply} {answer : Except Fault Reply}
    (receiving : s.state = .readingData) (now : Spoiled t mail calls reply s.unlogged)
    (trouble : event.trouble?.isSome = true) (change : Change config features s event answer u) :
    answer = .ok .silent ∧ Spoiled t mail calls reply u := by
  cases change with
  | welcomed | unwelcome | line | secured => contradiction
  | complained quiet => exact absurd receiving quiet
  | ignored => exact ⟨rfl, now⟩
  | failed _ _ sound =>
    have failed := now.fault
    rw [unlogged_properties, sound] at failed
    contradiction

theorem Receiving.dot {line : Line} {answer : Except Fault Reply}
    (now : Receiving t mail front s.unlogged) (dot : line.endsContent = true)
    (receipt : Receipt config line s answer u) :
    answer = .ok (((mail.after (writes front)).call .complete).1.toOption.getD .serverError) ∧
      u = t.afterMessage mail (writes front ++ [.complete]) := by
  have sound := now.sound
  rw [unlogged_properties] at sound
  cases receipt with
  | dropped content | overflowed content | written content | broken content =>
    rw [content] at dot
    contradiction
  | abandoned _ failed =>
    rw [sound] at failed
    contradiction
  | @completed object result _ _ held asked =>
    obtain rfl : mail.after (writes front) = object := Option.some.inj (now.holds.symm.trans held)
    refine ⟨by rw [asked], ?_⟩
    have properties := now.kept
    rw [unlogged_properties] at properties
    rw [afterMessage, MailObject.records_concat, asked, properties, now.consumers, now.rest,
      MailObject.after_serial]
    rfl

theorem Spoiled.dot {calls : List MailCall} {reply : Reply} {line : Line}
    {answer : Except Fault Reply} (now : Spoiled t mail calls reply s.unlogged)
    (dot : line.endsContent = true) (receipt : Receipt config line s answer u) :
    answer = .ok reply ∧ u = t.afterMessage mail calls := by
  have fault := now.fault
  rw [unlogged_properties] at fault
  cases receipt with
  | dropped content | overflowed content | written content | broken content =>
    rw [content] at dot
    contradiction
  | completed _ sound =>
    rw [fault] at sound
    contradiction
  | @abandoned object other _ failed held =>
    obtain rfl : mail.after calls = object := Option.some.inj (now.holds.symm.trans held)
    obtain rfl : reply = other := Value.reply.inj (Option.some.inj (fault.symm.trans failed))
    refine ⟨rfl, ?_⟩
    have properties := now.kept
    rw [unlogged_properties] at properties
    rw [afterMessage, properties, now.consumers, now.rest, MailObject.after_serial]
    rfl

private theorem split_concat {earlier later : List Input} {other : Input}
    (split : front ++ [event] = earlier ++ other :: later) :
    (front = earlier ∧ event = other) ∨ ∃ between, front = earlier ++ other :: between := by
  rcases List.eq_nil_or_concat later with rfl | ⟨between, last, rfl⟩
  · obtain ⟨same, one⟩ := List.append_inj' split rfl
    exact .inl ⟨same, List.head_eq_of_cons_eq one⟩
  · rw [List.concat_eq_append, ← List.cons_append, ← List.append_assoc] at split
    exact .inr ⟨between, (List.append_inj' split rfl).1⟩

theorem Unfailed.concat (fine : Unfailed config mail front)
    (next : failure? config mail front event = none) : Unfailed config mail (front ++ [event]) := by
  intro earlier other later split
  rcases split_concat split with ⟨rfl, rfl⟩ | ⟨between, before⟩
  · exact next
  · exact fine earlier other between before

theorem unfailed_nil (config : Config) (mail : MailObject) : Unfailed config mail [] := by
  intro front event rest split
  simp at split

theorem exists_first_failure (config : Config) (mail : MailObject) (events : List Input) :
    Unfailed config mail events ∨
      ∃ front event rest reply, events = front ++ event :: rest ∧
        Unfailed config mail front ∧ failure? config mail front event = some reply := by
  suffices extended : ∀ rest front, Unfailed config mail front →
      Unfailed config mail (front ++ rest) ∨
        ∃ earlier event later reply, front ++ rest = earlier ++ event :: later ∧
          Unfailed config mail earlier ∧ failure? config mail earlier event = some reply from
    extended events [] (unfailed_nil config mail)
  -- By induction on what is still to come, behind a part that is known not to fail.
  intro rest
  induction rest with
  | nil =>
    intro front fine
    exact .inl (by simpa using fine)
  | cons event rest ih =>
    intro front fine
    cases next : failure? config mail front event with
    | some reply => exact .inr ⟨front, event, rest, reply, rfl, fine, next⟩
    | none => simpa using ih (front ++ [event]) (fine.concat next)

/-- What the inputs of a message make of a session. -/
structure Heard (config : Config) (t : Session κ) (mail : MailObject) (events : List Input)
    (v : Session κ) : Prop where
  fine : Unfailed config mail events → Receiving t mail events v
  fails : ∀ front event rest reply, events = front ++ event :: rest →
    Unfailed config mail front → failure? config mail front event = some reply →
    Spoiled t mail (writes front ++ attempt config front event) reply v

namespace Heard

theorem state {events : List Input} (heard : Heard config t mail events u) :
    u.state = t.state := by
  rcases exists_first_failure config mail events with fine | ⟨_, _, _, _, split, fine, fails⟩
  · exact congrArg (fun v => v.state) (heard.fine fine).rest
  · exact congrArg (fun v => v.state) (heard.fails _ _ _ _ split fine fails).rest

/-- One more input, if it does the right thing both to a message that has not failed and to one that
has. -/
theorem concat {answer : Except Fault Reply} {v : Session κ} (heard : Heard config t mail front v)
    (sound : Receiving t mail front v →
      answer = .ok .silent ∧ Hears config t mail front event u)
    (spoiled : ∀ calls reply, Spoiled t mail calls reply v →
      answer = .ok .silent ∧ Spoiled t mail calls reply u) :
    answer = .ok .silent ∧ Heard config t mail (front ++ [event]) u := by
  -- Up to the first failure the new input decides, behind it nothing changes any more.
  rcases exists_first_failure config mail front with
    fine | ⟨first, cause, later, reply, split, fine, fails⟩
  · obtain ⟨silent, hears⟩ := sound (heard.fine fine)
    refine ⟨silent, ?_, ?_⟩
    · intro still
      cases hears with
      | goesOn _ now => exact now
      | fails failure =>
        rw [still front event [] rfl] at failure
        contradiction
    · intro earlier other rest reply split before fails
      rcases split_concat split with ⟨rfl, rfl⟩ | ⟨between, inside⟩
      · cases hears with
        | goesOn fine =>
          rw [fine] at fails
          contradiction
        | fails failure now =>
          obtain rfl := Option.some.inj (failure.symm.trans fails)
          exact now
      · rw [fine earlier other between inside] at fails
        contradiction
  · have failed := heard.fails first cause later reply split fine fails
    refine ⟨(spoiled _ _ failed).1, ?_, ?_⟩
    · intro still
      have contrary := still first cause (later ++ [event]) (by simp [split])
      rw [fails] at contrary
      contradiction
    · intro earlier other rest answered again before failing
      rcases split_concat again with ⟨rfl, rfl⟩ | ⟨between, inside⟩
      · have contrary := before first cause later split
        rw [fails] at contrary
        contradiction
      · exact (spoiled _ _ (heard.fails earlier other between answered inside before failing)).2

end Heard

theorem Effect.begins {line : Line} {answer : Except Fault Reply}
    (effect : Effect config features line s answer u) (quiet : s.state ≠ .readingData)
    (begun : u.state = .readingData) :
    ∃ mail, u.mail = some mail ∧ Receiving u mail [] u := by
  cases effect with
  | contentBegun verb valid holds asked =>
    refine ⟨_, rfl, ⟨rfl, rfl⟩, ?_, ?_⟩
    · simp [get?_insert, contentSize]
    · simp [get?_insert, get?_erase]
  | received valid => exact absurd valid quiet
  | answered | senderRefused | recipientRefused | undecodable => exact absurd begun quiet
  | challenged taken | exchangeFailed taken | denied taken =>
    exact absurd (taken.state.symm.trans begun) quiet
  | reset =>
    dsimp only at begun
    split at begun <;> exact nomatch begun
  | greeted | quit | senderAccepted | recipientAccepted | contentRefused | authenticated
    | cancelled => exact nomatch begun

namespace Server

variable {newMail : Session κ → MailBehaviour} {custom : κ → Hook κ} {peer : String}

theorem Reachable.hear (reachable : (ofFeatures config newMail custom features).Reachable peer s)
    (begun : t.state = .readingData) (heard : Heard config t mail front s.unlogged)
    (content : event.isContent = true) :
    ((ofFeatures config newMail custom features).take s event).1 = .ok .silent ∧
      Heard config t mail (front ++ [event])
        ((ofFeatures config newMail custom features).take s event).2.unlogged := by
  obtain ⟨past, run⟩ := reachable
  have receiving : s.state = .readingData := heard.state.trans begun
  have follows := Input.follows_of_isFree (Input.isFree_of_isContent content) past
  cases event with
  | line line =>
    obtain ⟨-, other⟩ : line.isTerminated = true ∧ line.endsContent = false := by
      simpa [Input.isContent] using content
    have receipt := run.receipt receiving line
    exact heard.concat (fun now => now.line other receipt) fun _ _ now => now.line other receipt
  | tooLong | abort =>
    have change := run.change follows
    exact heard.concat (fun now => now.trouble receiving rfl change)
      fun _ _ now => now.trouble receiving rfl change
  | connect | secured => contradiction

theorem Reachable.hears (reachable : (ofFeatures config newMail custom features).Reachable peer s)
    (begun : t.state = .readingData) (heard : Heard config t mail front s.unlogged)
    {events : List Input} (content : ∀ event ∈ events, event.isContent = true) :
    (ofFeatures config newMail custom features).Reachable peer
        ((ofFeatures config newMail custom features).hears s events) ∧
      Heard config t mail (front ++ events)
        ((ofFeatures config newMail custom features).hears s events).unlogged := by
  induction events generalizing s front with
  | nil => exact ⟨reachable, by simpa [Server.hears] using heard⟩
  | cons event rest ih =>
    have first := content event List.mem_cons_self
    have next := ih (reachable.take event (Input.isFree_of_isContent first))
      (reachable.hear begun heard first).2 fun e h => content e (List.mem_cons_of_mem _ h)
    rwa [List.append_assoc] at next

/-- What becomes of a message. Whatever comes before the dot is silent and leaves the session reading
data. The dot gets the answer of the first input that made the message fail, and if there is none, that
of the mail object. All that has happened meanwhile is the calls on the mail object: one for each line
before the first failure, one for the line whose own call fails, one to complete the message if it did
not fail, and the disposal. -/
theorem message_outcome
    (reachable : (ofFeatures config newMail custom features).Reachable peer s)
    (quiet : s.state ≠ .readingData) {data dot : Line} (terminated : data.isTerminated = true)
    (begins : ((ofFeatures config newMail custom features).consume s data).2.state = .readingData)
    {events : List Input} (content : ∀ event ∈ events, event.isContent = true)
    (ends : dot.endsContent = true) :
    let server := ofFeatures config newMail custom features
    let t := (server.consume s data).2
    let answer := (server.consume (server.hears t events) dot).1
    let u := (server.consume (server.hears t events) dot).2
    ∃ mail, t.mail = some mail ∧
      (∀ front event rest, events = front ++ event :: rest →
        (server.hears t front).state = .readingData ∧
          (server.take (server.hears t front) event).1 = .ok .silent) ∧
      (server.hears t events).state = .readingData ∧
      (Unfailed config mail events →
        answer = .ok (((mail.after (writes events)).call .complete).1.toOption.getD
          .serverError) ∧
          u.unlogged = t.unlogged.afterMessage mail (writes events ++ [.complete])) ∧
      ∀ front event rest reply, events = front ++ event :: rest →
        Unfailed config mail front → failure? config mail front event = some reply →
          answer = .ok reply ∧
            u.unlogged = t.unlogged.afterMessage mail
              (writes front ++ attempt config front event) := by
  intro server t answer u
  have started : server.Reachable peer t := reachable.take (.line data) terminated
  have begun : t.unlogged.state = .readingData := begins
  obtain ⟨mail, holds, receiving⟩ : ∃ mail, t.unlogged.mail = some mail ∧
      Receiving t.unlogged mail [] t.unlogged := by
    obtain ⟨past, run⟩ := reachable
    exact (run.effect terminated).begins quiet begins
  have heard : Heard config t.unlogged mail [] t.unlogged :=
    ⟨fun _ => receiving, by intro front event rest reply split; simp at split⟩
  obtain ⟨⟨past, run⟩, last⟩ := started.hears begun heard content
  have receipt := run.receipt (last.state.trans begun) dot
  refine ⟨mail, holds, ?_, last.state.trans begun, ?_, ?_⟩
  · rintro front event rest rfl
    have inside : ∀ e ∈ front, e.isContent = true := fun e h =>
      content e (List.mem_append_left _ h)
    obtain ⟨before, now⟩ := started.hears begun heard inside
    exact ⟨now.state.trans begun, (before.hear begun now (content event (by simp))).1⟩
  · intro fine
    exact (last.fine fine).dot ends receipt
  · intro front event rest reply split fine fails
    exact (last.fails front event rest reply split fine fails).dot ends receipt

theorem message_outcome_of_long_line :
    let server := accepting { maxMessageSize := 64 } [.size]
    let s := (server.replay "client.example" [.connect, .line (.ofText "EHLO client.example"),
      .line (.ofText "MAIL FROM:<a@client.example>"),
      .line (.ofText "RCPT TO:<b@server.example>")]).2
    let t := (server.consume s (.ofText "DATA")).2
    let u := server.hears t [.line (.ofText "..Hello"), .tooLong 512, .line (.ofText "QUIT")]
    (server.consume u (.ofText ".")).1 = .ok (.of .commandSyntaxError "Line too long") ∧
      ∃ mail, t.mail = some mail ∧ (server.consume u (.ofText ".")).2.unlogged =
        t.unlogged.afterMessage mail [.writeLine (Line.ofText ".Hello").bytes] := by
  intro server s t u
  have reachable : server.Reachable "client.example" s :=
    ⟨_, run_replay server "client.example" _ (by decide +kernel)⟩
  have quiet : s.state ≠ .readingData := by decide +kernel
  have terminated : (Line.ofText "DATA").isTerminated = true := by decide +kernel
  have begins : t.state = .readingData := by decide +kernel
  have content : ∀ event ∈ [Input.line (.ofText "..Hello"), .tooLong 512,
      .line (.ofText "QUIT")], event.isContent = true := by decide +kernel
  have ends : (Line.ofText ".").endsContent = true := by decide +kernel
  have heard : (t.mail.bind fun mail =>
      (mail.call (.writeLine (Line.ofText ".Hello").bytes)).1.toOption) = some .ok := by
    decide +kernel
  have bytes : unstuffed (Line.ofText "..Hello").bytes = (Line.ofText ".Hello").bytes := by
    decide +kernel
  -- From here on the session is any with these properties.
  clear_value s
  obtain ⟨mail, holds, -, -, -, fails⟩ :=
    message_outcome reachable quiet terminated begins content ends
  have held : t.mail = some mail := holds
  have eight : contentSize [.line (.ofText "..Hello")] = 8 := by decide +kernel
  have within : ¬overflows { maxMessageSize := 64 } [.line (.ofText "..Hello")] := by
    rw [overflows_iff_of_lt (by rw [eight]; decide), eight]
    decide
  have fine : failure? { maxMessageSize := 64 } mail [] (.line (.ofText "..Hello")) = none := by
    rw [failure?, List.nil_append, if_neg within, bytes]
    rw [held, Option.bind_some] at heard
    generalize asked : (mail.call (.writeLine (Line.ofText ".Hello").bytes)).1 = answer at heard
    cases answer with
    | error fault => contradiction
    | ok reply =>
      rw [show mail.after (writes []) = mail from rfl, asked]
  have calls : writes [.line (.ofText "..Hello")] ++
      attempt { maxMessageSize := 64 } [.line (.ofText "..Hello")] (.tooLong 512) =
        [.writeLine (Line.ofText ".Hello").bytes] := congrArg (fun b => [MailCall.writeLine b]) bytes
  have outcome := fails [.line (.ofText "..Hello")] (.tooLong 512) [.line (.ofText "QUIT")] _ rfl
    ((unfailed_nil _ _).concat fine) rfl
  rw [calls] at outcome
  exact ⟨outcome.1, mail, held, outcome.2⟩

end Server

end SmtpDialog
