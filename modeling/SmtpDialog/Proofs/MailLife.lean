/- digest: The mail objects of a connection live one after the other, each through ordered calls. -/
import SmtpDialog.Proofs.Serving

/-!
A `MailLife` is all that is ever asked of one mail object: the sender, recipients, and perhaps a message
with its lines. The journal of a session tells the lives of its mail objects one after the other;
while a transaction is open, the last of them is still growing. `Session.Tells` is this invariant.
-/

set_option autoImplicit false
set_option relaxedAutoImplicit false

namespace SmtpDialog

variable {κ : Type}

/-- What a mail object was asked about one message, with the answers. -/
structure Transfer where
  prepared : Except Fault Reply
  written : List (Bytes × Except Fault Reply) := []
  completed : Option (Except Fault Reply) := none

namespace Transfer

def calls (t : Transfer) : List (MailCall × Except Fault Reply) :=
  (.prepare, t.prepared) :: t.written.map (fun w => (.writeLine w.1, w.2)) ++
    t.completed.toList.map fun answer => (.complete, answer)

/-- Nothing is written before a successful preparation, and what is completed was written whole. -/
structure Ordered (t : Transfer) : Prop where
  prepared : t.written ≠ [] ∨ t.completed.isSome = true → t.prepared.isOk = true
  written : t.completed.isSome = true → ∀ w ∈ t.written, w.2.isOk = true

end Transfer

/-- What a mail object was asked, with the answers. A recipient is a path, parameters and the answer. -/
structure MailLife where
  path : String
  parameters : String
  answer : Except Fault Reply
  recipients : List (String × String × Except Fault Reply) := []
  transfer : Option Transfer := none

namespace MailLife

def calls (life : MailLife) : List (MailCall × Except Fault Reply) :=
  (.mailFrom life.path life.parameters, life.answer) ::
    life.recipients.map (fun r => (.rcptTo r.1 r.2.1, r.2.2)) ++
    life.transfer.elim [] Transfer.calls

/-- There are recipients only for an accepted sender, and a message only for an accepted recipient. -/
structure Ordered (life : MailLife) : Prop where
  recipients : life.recipients ≠ [] → isAcceptance life.answer = true
  transfer : ∀ t, life.transfer = some t →
    t.Ordered ∧ ∃ r ∈ life.recipients, isAcceptance r.2.2 = true

/-- The events of a mail object that is not yet disposed of. -/
def begun (peer : String) (serial : Nat) (life : MailLife) : List Event :=
  .mailOpened serial peer :: life.calls.map fun c => .mailCalled serial c.1 c.2

def events (peer : String) (serial : Nat) (life : MailLife) : List Event :=
  life.begun peer serial ++ [.mailDisposed serial]

/-- The events of mail objects one after the other. -/
def inTurn (peer : String) (lives : List MailLife) : List Event :=
  lives.zipIdx.flatMap fun numbered => numbered.1.events peer numbered.2

theorem inTurn_concat (peer : String) (lives : List MailLife) (life : MailLife) :
    inTurn peer (lives ++ [life]) = inTurn peer lives ++ life.events peer lives.length := by
  simp [inTurn, List.zipIdx_append]

theorem begun_of_calls {peer : String} {serial : Nat} {life next : MailLife}
    {more : List (MailCall × Except Fault Reply)} (calls : next.calls = life.calls ++ more) :
    next.begun peer serial =
      life.begun peer serial ++ more.map fun c => .mailCalled serial c.1 c.2 := by
  simp [begun, calls]

/-- How far the life of the mail object of a session has come. -/
structure Stands (life : MailLife) (s : Session κ) : Prop where
  accepted : isAcceptance life.answer = true
  addressing : s.state.inTransaction = true → life.transfer = none
  reached : s.state = .afterRcpt → ∃ r ∈ life.recipients, isAcceptance r.2.2 = true
  receiving : s.state = .readingData → ∃ t, life.transfer = some t ∧ t.prepared.isOk = true ∧
    t.completed = none ∧
    (s.properties.get? Key.contentFault.name = none → ∀ w ∈ t.written, w.2.isOk = true)

theorem Stands.same {life : MailLife} {s t : Session κ} (stands : life.Stands s)
    (state : t.state = s.state)
    (sound : t.properties.get? Key.contentFault.name = none →
      s.properties.get? Key.contentFault.name = none) : life.Stands t where
  accepted := stands.accepted
  addressing h := stands.addressing (state ▸ h)
  reached h := stands.reached (state ▸ h)
  receiving h := by
    obtain ⟨transfer, found, prepared, ongoing, written⟩ := stands.receiving (state ▸ h)
    exact ⟨transfer, found, prepared, ongoing, fun h => written (sound h)⟩

end MailLife

def Event.isMail : Event → Bool
  | .mailOpened _ _ | .mailCalled _ _ _ | .mailDisposed _ => true
  | _ => false

namespace Session

def mailEvents (s : Session κ) : List Event := (s.journal.filter Event.isMail).reverse

/-- All mail objects of a session have lived one after the other, through ordered calls. -/
def LivedInOrder (peer : String) (s : Session κ) : Prop :=
  ∃ lives : List MailLife, lives.length = s.mailsOpened ∧ (∀ life ∈ lives, life.Ordered) ∧
    s.mailEvents = MailLife.inTurn peer lives

theorem mailEvents_of_journal {s t : Session κ} (more : List Event)
    (journal : t.journal = more ++ s.unlogged.journal) :
    t.mailEvents = s.mailEvents ++ (more.filter Event.isMail).reverse := by
  have quiet : s.unlogged.journal.filter Event.isMail = s.journal.filter Event.isMail := by
    rw [unlogged, List.filter_filter]
    apply List.filter_congr
    intro e _
    cases e <;> rfl
  rw [mailEvents, journal, List.filter_append, quiet, List.reverse_append, mailEvents]

theorem mailEvents_unlogged (s : Session κ) : s.unlogged.mailEvents = s.mailEvents := by
  rw [mailEvents_of_journal (s := s) [] rfl]
  simp

theorem mailEvents_of_quiet {s t : Session κ} (more : List Event)
    (quiet : ∀ e ∈ more, e.isMail = false) (journal : t.journal = more ++ s.journal) :
    t.mailEvents = s.mailEvents := by
  have none_left : more.filter Event.isMail = [] := by
    simpa [List.filter_eq_nil_iff] using quiet
  rw [mailEvents, journal, List.filter_append, none_left, List.nil_append, mailEvents]

theorem mailEvents_closeMail (s : Session κ) :
    s.closeMail.mailEvents =
      s.mailEvents ++ s.mail.elim [] fun mail => [.mailDisposed mail.serial] := by
  rw [closeMail_eq, mailEvents, List.filter_append, List.reverse_append]
  cases s.mail <;> rfl

/-- A session tells the lives of its mail objects: those that are over, and perhaps one that is not. -/
structure Tells (peer : String) (lives : List MailLife) (current : Option MailLife)
    (s : Session κ) : Prop where
  named : s.peerName = peer
  opened : s.mailsOpened = lives.length + current.toList.length
  ordered : ∀ life ∈ lives ++ current.toList, life.Ordered
  events : s.mailEvents =
    MailLife.inTurn peer lives ++ current.elim [] (·.begun peer lives.length)
  mail : s.mail.map MailObject.serial = current.map fun _ => lives.length
  stands : ∀ life ∈ current, life.Stands s

namespace Tells

variable {peer : String} {lives : List MailLife} {current : Option MailLife} {life : MailLife}
  {s t : Session κ}

theorem current_eq_none (tells : s.Tells peer lives current) (empty : s.mail = none) :
    current = none := by
  have mail := tells.mail
  rw [empty] at mail
  exact Option.map_eq_none_iff.mp mail.symm

theorem current_eq_some (tells : s.Tells peer lives current) {mail : MailObject}
    (holds : s.mail = some mail) : ∃ life, current = some life ∧ mail.serial = lives.length := by
  have same := tells.mail
  rw [holds] at same
  cases current with
  | none => contradiction
  | some life => exact ⟨life, rfl, Option.some.inj same⟩

private theorem ordered_concat (tells : s.Tells peer lives current) (ordered : life.Ordered) :
    ∀ other ∈ lives ++ [life], other.Ordered := by
  intro other h
  rcases List.mem_append.mp h with past | present
  · exact tells.ordered other (List.mem_append_left _ past)
  · obtain rfl := List.mem_singleton.mp present
    exact ordered

theorem same (tells : s.Tells peer lives current) (peerName : t.peerName = s.peerName)
    (opened : t.mailsOpened = s.mailsOpened) (mail : t.mail = s.mail)
    (events : t.mailEvents = s.mailEvents) (state : t.state = s.state)
    (sound : t.properties.get? Key.contentFault.name = none →
      s.properties.get? Key.contentFault.name = none) : t.Tells peer lives current where
  named := peerName.trans tells.named
  opened := opened.trans tells.opened
  ordered := tells.ordered
  events := events.trans tells.events
  mail := by rw [mail, tells.mail]
  stands life h := (tells.stands life h).same state sound

theorem idle (tells : s.Tells peer lives current) (empty : s.mail = none)
    (peerName : t.peerName = s.peerName) (opened : t.mailsOpened = s.mailsOpened)
    (mail : t.mail = none) (events : t.mailEvents = s.mailEvents) : t.Tells peer lives none := by
  obtain rfl := tells.current_eq_none empty
  exact {
    named := peerName.trans tells.named
    opened := opened.trans tells.opened
    ordered := tells.ordered
    events := events.trans tells.events
    mail := by simp [mail]
    stands := by simp }

theorem extend (tells : s.Tells peer lives (some life)) (next : MailLife)
    (more : List (MailCall × Except Fault Reply)) (ordered : next.Ordered)
    (calls : next.calls = life.calls ++ more) (peerName : t.peerName = s.peerName)
    (opened : t.mailsOpened = s.mailsOpened)
    (mail : t.mail.map MailObject.serial = s.mail.map MailObject.serial)
    (events : t.mailEvents =
      s.mailEvents ++ more.map fun c => .mailCalled lives.length c.1 c.2)
    (stands : next.Stands t) : t.Tells peer lives (some next) where
  named := peerName.trans tells.named
  opened := opened.trans tells.opened
  ordered := tells.ordered_concat ordered
  events := by
    rw [events, tells.events]
    simp [MailLife.begun_of_calls calls]
  mail := mail.trans tells.mail
  stands := by
    rintro _ ⟨rfl⟩
    exact stands

theorem finish (tells : s.Tells peer lives (some life)) (last : MailLife)
    (more : List (MailCall × Except Fault Reply)) (ordered : last.Ordered)
    (calls : last.calls = life.calls ++ more) (peerName : t.peerName = s.peerName)
    (opened : t.mailsOpened = s.mailsOpened) (mail : t.mail = none)
    (events : t.mailEvents = s.mailEvents ++
      ((more.map fun c => .mailCalled lives.length c.1 c.2) ++ [.mailDisposed lives.length])) :
    t.Tells peer (lives ++ [last]) none where
  named := peerName.trans tells.named
  opened := by
    rw [opened, tells.opened]
    simp
  ordered := by simpa using tells.ordered_concat ordered
  events := by
    rw [events, tells.events, MailLife.inTurn_concat]
    simp [MailLife.events, MailLife.begun_of_calls calls]
  mail := by simp [mail]
  stands := by simp

theorem refuse (tells : s.Tells peer lives none) (life : MailLife) (ordered : life.Ordered)
    (peerName : t.peerName = s.peerName) (opened : t.mailsOpened = s.mailsOpened + 1)
    (mail : t.mail = none)
    (events : t.mailEvents = s.mailEvents ++ life.events peer lives.length) :
    t.Tells peer (lives ++ [life]) none where
  named := peerName.trans tells.named
  opened := by
    rw [opened, tells.opened]
    simp
  ordered := by simpa using tells.ordered_concat ordered
  events := by
    rw [events, tells.events, MailLife.inTurn_concat]
    simp
  mail := by simp [mail]
  stands := by simp

theorem begin (tells : s.Tells peer lives none) (life : MailLife) (ordered : life.Ordered)
    (peerName : t.peerName = s.peerName) (opened : t.mailsOpened = s.mailsOpened + 1)
    (mail : t.mail.map MailObject.serial = some lives.length)
    (events : t.mailEvents = s.mailEvents ++ life.begun peer lives.length)
    (stands : life.Stands t) : t.Tells peer lives (some life) where
  named := peerName.trans tells.named
  opened := by
    rw [opened, tells.opened]
    simp
  ordered := tells.ordered_concat ordered
  events := by
    rw [events, tells.events]
    simp
  mail := mail
  stands := by
    rintro _ ⟨rfl⟩
    exact stands

theorem close (tells : s.Tells peer lives current) (peerName : t.peerName = s.peerName)
    (opened : t.mailsOpened = s.mailsOpened) (mail : t.mail = none)
    (events : t.mailEvents = s.unlogged.closeMail.mailEvents) :
    ∃ lives, t.Tells peer lives none := by
  rw [mailEvents_closeMail, mailEvents_unlogged, unlogged_mail] at events
  cases holds : s.mail with
  | none =>
    rw [holds] at events
    exact ⟨lives, tells.idle holds peerName opened mail (by simpa using events)⟩
  | some object =>
    obtain ⟨life, rfl, serial⟩ := tells.current_eq_some holds
    rw [holds, Option.elim_some, serial] at events
    have ordered := tells.ordered life (by simp)
    exact ⟨_, tells.finish life [] ordered (List.append_nil _).symm peerName opened mail events⟩

end Tells

end Session

open Command Session

variable {config : Config} {features : List Feature} {peer : String} {lives : List MailLife}
  {current : Option MailLife} {s t : Session κ}

theorem Session.Tells.held (tells : s.Tells peer lives current) {mail : MailObject}
    (holds : s.mail = some mail) :
    ∃ life : MailLife, current = some life ∧ mail.serial = lives.length ∧ life.Ordered ∧
      life.Stands s := by
  obtain ⟨life, rfl, serial⟩ := tells.current_eq_some holds
  exact ⟨life, rfl, serial, tells.ordered life (by simp), tells.stands life rfl⟩

private theorem tells_recipient (tells : s.Tells peer lives current) {mail : MailObject}
    (holds : s.mail = some mail) (valid : s.state.inTransaction = true) {path parameters : String}
    {answer : Except Fault Reply} (peerName : t.peerName = s.peerName)
    (opened : t.mailsOpened = s.mailsOpened)
    (kept : t.mail = some (mail.call (.rcptTo path parameters)).2)
    (journal : t.journal =
      .mailCalled mail.serial (.rcptTo path parameters) answer :: s.unlogged.journal)
    (quiet : t.state ≠ .readingData)
    (reached : t.state = .afterRcpt → s.state = .afterRcpt ∨ isAcceptance answer = true) :
    ∃ lives current, t.Tells peer lives current := by
  obtain ⟨life, rfl, serial, ordered, stands⟩ := tells.held holds
  have addressing := stands.addressing valid
  refine ⟨_, _, tells.extend
    { life with recipients := life.recipients ++ [(path, parameters, answer)] }
    [(.rcptTo path parameters, answer)] ?_ ?_ peerName opened ?_ ?_ ?_⟩
  · exact ⟨fun _ => stands.accepted, by simp [addressing]⟩
  · simp [MailLife.calls, addressing]
  · simp [kept, holds]
  · rw [mailEvents_of_journal [_] journal]
    simp [Event.isMail, serial]
  · refine ⟨stands.accepted, fun _ => addressing, ?_, fun receiving => absurd receiving quiet⟩
    intro now
    rcases reached now with before | accepted
    · obtain ⟨r, h, accepted⟩ := stands.reached before
      exact ⟨r, List.mem_append_left _ h, accepted⟩
    · exact ⟨_, List.mem_append_right _ List.mem_cons_self, accepted⟩

private theorem tells_write (tells : s.Tells peer lives current) {mail : MailObject}
    (holds : s.mail = some mail) (valid : s.state = .readingData)
    (sound : s.properties.get? Key.contentFault.name = none) {content : Bytes}
    {answer : Except Fault Reply} (peerName : t.peerName = s.peerName)
    (opened : t.mailsOpened = s.mailsOpened)
    (kept : t.mail = some (mail.call (.writeLine content)).2)
    (journal : t.journal =
      .mailCalled mail.serial (.writeLine content) answer :: s.unlogged.journal)
    (state : t.state = s.state)
    (fine : t.properties.get? Key.contentFault.name = none → answer.isOk = true) :
    ∃ lives current, t.Tells peer lives current := by
  obtain ⟨life, rfl, serial, ordered, stands⟩ := tells.held holds
  obtain ⟨transfer, found, prepared, ongoing, written⟩ := stands.receiving valid
  -- A line is only written while no failure is known, so all lines before it were written well.
  have whole := written sound
  refine ⟨_, _, tells.extend
    { life with transfer := some { transfer with written := transfer.written ++ [(content, answer)] } }
    [(.writeLine content, answer)] ?_ ?_ peerName opened ?_ ?_ ?_⟩
  · refine ⟨ordered.recipients, ?_⟩
    rintro _ ⟨rfl⟩
    refine ⟨⟨fun _ => prepared, ?_⟩, (ordered.transfer transfer found).2⟩
    simp [ongoing]
  · simp [MailLife.calls, Transfer.calls, found, ongoing]
  · simp [kept, holds]
  · rw [mailEvents_of_journal [_] journal]
    simp [Event.isMail, serial]
  · refine ⟨stands.accepted, ?_, ?_, ?_⟩
    · simp [state, valid, State.inTransaction]
    · simp [state, valid]
    · refine fun _ => ⟨_, rfl, prepared, ongoing, fun healthy w h => ?_⟩
      rcases List.mem_append.mp h with past | present
      · exact whole w past
      · obtain rfl := List.mem_singleton.mp present
        exact fine healthy

private theorem tells_taken {line : Line} {e : Exchange} {response : Bytes} {u : Session κ}
    (fits : s.Fits s.state) (tells : s.Tells peer lives current)
    (taken : Takes features line s e response u) (more : List Event)
    (quiet : ∀ e ∈ more, e.isMail = false) (peerName : t.peerName = u.peerName)
    (opened : t.mailsOpened = u.mailsOpened) (mail : t.mail = u.mail)
    (journal : t.journal = more ++ u.journal) : ∃ lives current, t.Tells peer lives current := by
  have events : t.mailEvents = u.mailEvents := mailEvents_of_quiet more quiet journal
  cases taken with
  | opened verb offered between anonymous idle words found carried =>
    have empty := fits.mail_of_between between
    refine ⟨_, none, tells.idle empty peerName opened (mail.trans empty) (events.trans ?_)⟩
    rw [mailEvents_of_journal [.mechanismOpened _ _ _] rfl]
    simp [Event.isMail]
  | resumed pending decoded =>
    have empty := fits.mail_of_between (fits.exchange _ pending).2.1
    exact ⟨_, none, tells.idle empty peerName opened (mail.trans empty)
      (events.trans (mailEvents_unlogged s))⟩

private theorem told (h : ∃ lives, t.Tells peer lives none) :
    ∃ lives current, t.Tells peer lives current :=
  h.imp fun _ tells => ⟨none, tells⟩

theorem Receipt.tells {line : Line} {answer : Except Fault Reply}
    (tells : s.Tells peer lives current) (valid : s.state = .readingData)
    (receipt : Receipt config line s answer t) : ∃ lives current, t.Tells peer lives current := by
  have still := mailEvents_unlogged s
  cases receipt with
  | dropped content failed =>
    exact ⟨_, _, tells.same rfl rfl rfl still rfl id⟩
  | overflowed content sound size excess =>
    exact ⟨_, _, tells.same rfl rfl rfl still rfl fun _ => sound⟩
  | written content sound size within holds asked =>
    exact tells_write tells holds valid sound rfl rfl rfl rfl rfl fun _ => rfl
  | broken content sound size within holds asked =>
    refine tells_write tells holds valid sound rfl rfl rfl rfl rfl fun healthy => ?_
    simp [get?_insert] at healthy
  | @abandoned mail reply dot failed holds =>
    obtain ⟨life, rfl, serial, ordered, stands⟩ := tells.held holds
    refine ⟨_, none, tells.finish life [] ordered (List.append_nil _).symm rfl rfl rfl ?_⟩
    rw [mailEvents_of_journal [.mailDisposed _] rfl]
    simp [Event.isMail, serial]
  | @completed mail answer dot sound holds asked =>
    obtain ⟨life, rfl, serial, ordered, stands⟩ := tells.held holds
    obtain ⟨transfer, found, prepared, ongoing, written⟩ := stands.receiving valid
    refine ⟨_, none, tells.finish
      { life with transfer := some { transfer with completed := some answer } }
      [(.complete, answer)] ?_ ?_ rfl rfl rfl ?_⟩
    · refine ⟨ordered.recipients, ?_⟩
      rintro _ ⟨rfl⟩
      exact ⟨⟨fun _ => prepared, fun _ => written sound⟩, (ordered.transfer transfer found).2⟩
    · simp [MailLife.calls, Transfer.calls, found, ongoing]
    · rw [mailEvents_of_journal [.mailDisposed _, .mailCalled _ _ _] rfl]
      simp [Event.isMail, serial]

theorem Effect.tells {line : Line} {answer : Except Fault Reply} (fits : s.Fits s.state)
    (tells : s.Tells peer lives current) (effect : Effect config features line s answer t) :
    ∃ lives current, t.Tells peer lives current := by
  have still := mailEvents_unlogged s
  cases effect with
  | answered calm tls other quiet => exact ⟨_, _, tells.same rfl rfl rfl still rfl id⟩
  | greeted verb valid named code plain =>
    exact told (tells.close (by simp [closeMail_eq]) (by simp [closeMail_eq]) (by simp) rfl)
  | reset verb valid =>
    exact told (tells.close (by simp [closeMail_eq]) (by simp [closeMail_eq]) (by simp) rfl)
  | quit verb quiet idle =>
    exact told (tells.close (by simp [closeMail_eq]) (by simp [closeMail_eq]) (by simp) rfl)
  | @senderRefused behaviour path parameters _ verb valid asked refused =>
    have empty : s.mail = none := fits.mail_of_between (by rw [valid]; rfl)
    obtain rfl := tells.current_eq_none empty
    have serial : s.mailsOpened = lives.length := tells.opened
    refine ⟨_, none, tells.refuse ⟨path, parameters, answer, [], none⟩ ?_ rfl rfl empty ?_⟩
    · exact ⟨by simp, by simp⟩
    · rw [mailEvents_of_journal [.mailDisposed _, .mailCalled _ _ _, .mailOpened _ _] rfl]
      simp [Event.isMail, MailLife.events, MailLife.begun, MailLife.calls, serial, tells.named]
  | @senderAccepted behaviour path parameters reply verb valid idle asked accepted =>
    have empty : s.mail = none := fits.mail_of_between (by rw [valid]; rfl)
    obtain rfl := tells.current_eq_none empty
    have serial : s.mailsOpened = lives.length := tells.opened
    refine ⟨_, _, tells.begin ⟨path, parameters, .ok reply, [], none⟩ ?_ rfl rfl ?_ ?_ ?_⟩
    · exact ⟨by simp, by simp⟩
    · simp [serial]
    · rw [mailEvents_of_journal [.mailCalled _ _ _, .mailOpened _ _] rfl]
      simp [Event.isMail, MailLife.begun, MailLife.calls, serial, tells.named]
    · exact ⟨accepted, by simp, by simp, by simp⟩
  | recipientRefused verb valid holds asked refused =>
    exact tells_recipient tells holds valid rfl rfl rfl rfl (Fits.quiet_of _ valid rfl) .inl
  | recipientAccepted verb valid room holds asked accepted =>
    exact tells_recipient tells holds valid rfl rfl rfl rfl (by simp) fun _ => .inr accepted
  | @contentRefused mail fault verb valid holds asked =>
    obtain ⟨life, rfl, serial, ordered, stands⟩ := tells.held holds
    have addressing := stands.addressing (by rw [valid]; rfl)
    refine ⟨_, none, tells.finish { life with transfer := some ⟨.error fault, [], none⟩ }
      [(.prepare, .error fault)] ?_ ?_ rfl rfl rfl ?_⟩
    · refine ⟨ordered.recipients, ?_⟩
      rintro _ ⟨rfl⟩
      exact ⟨⟨by simp, by simp⟩, stands.reached valid⟩
    · simp [MailLife.calls, Transfer.calls, addressing]
    · rw [mailEvents_of_journal [.mailDisposed _, .mailCalled _ _ _] rfl]
      simp [Event.isMail, serial]
  | @contentBegun mail text reply verb valid holds asked =>
    obtain ⟨life, rfl, serial, ordered, stands⟩ := tells.held holds
    have addressing := stands.addressing (by rw [valid]; rfl)
    refine ⟨_, _, tells.extend { life with transfer := some ⟨.ok reply, [], none⟩ }
      [(.prepare, .ok reply)] ?_ ?_ rfl rfl ?_ ?_ ?_⟩
    · refine ⟨ordered.recipients, ?_⟩
      rintro _ ⟨rfl⟩
      exact ⟨⟨by simp, by simp⟩, stands.reached valid⟩
    · simp [MailLife.calls, Transfer.calls, addressing]
    · simp [holds]
    · rw [mailEvents_of_journal [.mailCalled _ _ _] rfl]
      simp [Event.isMail, serial]
    · exact ⟨stands.accepted, by simp [State.inTransaction], by simp,
        fun _ => ⟨_, rfl, rfl, rfl, by simp⟩⟩
  | received valid receipt => exact receipt.tells tells valid
  | challenged taken asked unfinished =>
    exact tells_taken fits tells taken [.mechanismHeard _ _ _] (by simp [Event.isMail]) rfl rfl rfl rfl
  | exchangeFailed taken asked | denied taken asked | authenticated taken asked =>
    exact tells_taken fits tells taken [.mechanismDisposed _, .mechanismHeard _ _ _]
      (by simp [Event.isMail]) rfl rfl rfl rfl
  | cancelled pending star =>
    have empty := fits.mail_of_between (fits.exchange _ pending).2.1
    refine ⟨_, none, tells.idle empty rfl rfl empty (Eq.trans ?_ still)⟩
    exact mailEvents_of_quiet [.mechanismDisposed _] (by simp [Event.isMail]) rfl
  | undecodable pending encoded =>
    have empty := fits.mail_of_between (fits.exchange _ pending).2.1
    refine ⟨_, none, tells.idle empty rfl rfl empty (Eq.trans ?_ still)⟩
    exact mailEvents_of_quiet [.mechanismDisposed _] (by simp [Event.isMail]) rfl

private theorem mailEvents_abandonExchange (s : Session κ) :
    s.abandonExchange.mailEvents = s.mailEvents := by
  rw [abandonExchange_eq]
  apply mailEvents_of_quiet _ _ rfl
  cases s.read? Value.exchange? .exchange <;> simp [Event.isMail]

theorem Change.tells {input : Input} {answer : Except Fault Reply} (fits : s.Fits s.state)
    (tells : s.Tells peer lives current) (change : Change config features s input answer t) :
    ∃ lives current, t.Tells peer lives current := by
  have still := mailEvents_unlogged s
  cases change with
  | welcomed valid =>
    have empty : s.mail = none := fits.mail_of_not_holds (by rw [valid]; rfl)
    exact ⟨_, none, tells.idle empty rfl rfl empty still⟩
  | unwelcome invalid => exact ⟨_, _, tells.same rfl rfl rfl still rfl id⟩
  | line effect => exact effect.tells fits tells
  | complained quiet plain => exact ⟨_, _, tells.same rfl rfl rfl still rfl id⟩
  | ignored trouble moot => exact ⟨_, _, tells.same rfl rfl rfl still rfl id⟩
  | failed trouble receiving sound => exact ⟨_, _, tells.same rfl rfl rfl still rfl fun _ => sound⟩
  | secured quiet =>
    refine told (tells.close ?_ ?_ ?_ ?_)
    · simp [abandonExchange_eq, closeMail_eq]
    · simp [abandonExchange_eq, closeMail_eq]
    · simp [abandonExchange_eq]
    · exact mailEvents_abandonExchange _

namespace Session.Tells

theorem log (tells : s.Tells peer lives current) (level : Level) (text : String) :
    (s.log level text).Tells peer lives current :=
  tells.same rfl rfl rfl (mailEvents_of_quiet [.log _ _] (by simp [Event.isMail]) rfl) rfl id

theorem release (tells : s.Tells peer lives current) :
    ∃ lives, s.release.Tells peer lives none := by
  have kept : s.release.mailEvents = s.unlogged.closeMail.mailEvents := by
    rw [← unlogged_closeMail, mailEvents_unlogged]
    exact mailEvents_abandonExchange s.closeMail
  refine tells.close ?_ ?_ ?_ kept
  · simp [Session.release, abandonExchange_eq, closeMail_eq]
  · simp [Session.release, abandonExchange_eq, closeMail_eq]
  · simp [Session.release, abandonExchange_eq]

theorem connectionLost (tells : s.Tells peer lives current) :
    ∃ lives, s.connectionLost.Tells peer lives none := by
  unfold Session.connectionLost logInfoIf
  split
  · exact (tells.log _ _).release
  · exact tells.release

theorem livedInOrder (tells : s.Tells peer lives none) : s.LivedInOrder peer := by
  refine ⟨lives, tells.opened.symm, ?_, ?_⟩
  · simpa using tells.ordered
  · simpa using tells.events

end Session.Tells

namespace Server

section

variable (config : Config) (newMail : Session κ → MailBehaviour) (custom : κ → Hook κ)
  (features : List Feature) (peer : String)

theorem Run.tells {past : List (Passage κ)}
    (run : Run (ofFeatures config newMail custom features) peer past s) :
    ∃ lives current, s.Tells peer lives current := by
  refine Run.induct (motive := fun _ s => ∃ lives current, s.Tells peer lives current)
    ?_ ?_ ?_ run
  · exact ⟨[], none, rfl, rfl, by simp, rfl, rfl, by simp⟩
  · intro past s
    constructor
    · rintro ⟨lives, current, tells⟩
      exact ⟨lives, current, tells.same rfl rfl rfl (mailEvents_unlogged s).symm rfl id⟩
    · rintro ⟨lives, current, tells⟩
      exact ⟨lives, current, tells.same rfl rfl rfl (mailEvents_unlogged s) rfl id⟩
  · rintro past s input answer t run fits ⟨lives, current, tells⟩ change
    exact change.tells fits tells

/-- However a connection goes and ends, its mail objects have lived one after the other, each through
ordered calls. This holds of every run that is told of its end or given up or both, and of every
connection served; only after a breach of contract the session must still be given up. -/
theorem mail_objects_live_in_order :
    (∀ past s, Run (ofFeatures config newMail custom features) peer past s →
      ∀ ended ∈ [s.connectionLost, s.release, s.connectionLost.release],
        ended.LivedInOrder peer) ∧
    ∀ upgrader wire, let server := ofFeatures config newMail custom features
      let served := server.serve upgrader (server.newSession peer) wire
      served.session.release.LivedInOrder peer ∧
        ((∀ line, served.result ≠ .error (.unterminated line)) →
          served.session.LivedInOrder peer) := by
  dsimp only
  constructor
  · intro past s run ended h
    obtain ⟨lives, current, tells⟩ := Run.tells config newMail custom features peer run
    obtain ⟨_, lost⟩ := tells.connectionLost
    obtain ⟨_, released⟩ := tells.release
    obtain ⟨_, both⟩ := lost.release
    simp only [List.mem_cons, List.not_mem_nil, or_false] at h
    rcases h with rfl | rfl | rfl
    · exact lost.livedInOrder
    · exact released.livedInOrder
    · exact both.livedInOrder
  · intro upgrader wire
    obtain ⟨s, ⟨past, run⟩, final⟩ :=
      serve_session (ofFeatures config newMail custom features) peer upgrader wire
    obtain ⟨lives, current, tells⟩ := Run.tells config newMail custom features peer run
    rcases final with told | ⟨kept, line, broken⟩
    · obtain ⟨_, lost⟩ := tells.connectionLost
      obtain ⟨_, both⟩ := lost.release
      rw [told]
      exact ⟨both.livedInOrder, fun _ => lost.livedInOrder⟩
    · obtain ⟨_, released⟩ := tells.release
      rw [kept]
      exact ⟨released.livedInOrder, fun sound => absurd broken (sound line)⟩

theorem mail_objects_live_in_order_twice :
    let s := ((accepting {} [.size]).replay "client.example" [.connect,
      .line (.ofText "EHLO client.example"), .line (.ofText "MAIL FROM:<a@client.example>"),
      .line (.ofText "RCPT TO:<b@server.example>"), .line (.ofText "DATA"),
      .line (.ofText "Hello"), .line (.ofText "."),
      .line (.ofText "MAIL FROM:<a@client.example>")]).2
    s.mailsOpened = 2 ∧ s.connectionLost.LivedInOrder "client.example" :=
  ⟨by decide +kernel, (mail_objects_live_in_order {} _ _ _ _).1 _ _
    (run_replay _ _ _ (by decide +kernel)) _ List.mem_cons_self⟩

end

end Server

end SmtpDialog
