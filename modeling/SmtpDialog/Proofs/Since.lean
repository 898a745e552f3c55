/- digest: What a session has done since a moment, with its objects numbered from there. -/
import SmtpDialog.Proofs.Fits

/-!
Mail objects and exchanges are numbered over a whole connection, and the journal keeps all of it. What a
session is and does from some moment on is therefore known only up to these numbers and up to what was
there before. `Session.since` takes both away, and the log records with them. `Echoes` says that a
session is another one behind a base; it passes each operation on sessions.
-/

set_option autoImplicit false
set_option relaxedAutoImplicit false

namespace SmtpDialog

namespace Table

variable {α : Type}

def mapAt (key : String) (f : α → α) (table : Table α) : Table α :=
  ⟨table.entries.map fun e => if e.1 = key then (e.1, f e.2) else e⟩

private theorem place_map (key other : String) (f : α → α) (value : α)
    (entries : List (String × α)) :
    place other (if other = key then f value else value)
        (entries.map fun e => if e.1 = key then (e.1, f e.2) else e) =
      (place other value entries).map fun e => if e.1 = key then (e.1, f e.2) else e := by
  induction entries with
  | nil => by_cases h : other = key <;> simp [place, h]
  | cons e rest ih =>
    have first : (if e.1 = key then (e.1, f e.2) else e).1 = e.1 := by split <;> rfl
    rw [List.map_cons, place, place, first]
    by_cases less : other < e.1
    · rw [if_pos less, if_pos less]
      by_cases h : other = key <;> simp [h]
    · rw [if_neg less, if_neg less, List.map_cons, ih]

private theorem filter_map (key other : String) (f : α → α) (entries : List (String × α)) :
    (entries.map fun e => if e.1 = key then (e.1, f e.2) else e).filter (·.1 != other) =
      (entries.filter (·.1 != other)).map fun e => if e.1 = key then (e.1, f e.2) else e := by
  rw [List.filter_map]
  congr 2
  funext e
  by_cases h : e.1 = key <;> simp [h]

theorem mapAt_erase (key other : String) (f : α → α) (table : Table α) :
    (table.erase other).mapAt key f = (table.mapAt key f).erase other := by
  rw [mapAt, erase, erase, mapAt, filter_map]

theorem mapAt_insert (key other : String) (f : α → α) (value : α) (table : Table α) :
    (table.insert other value).mapAt key f =
      (table.mapAt key f).insert other (if other = key then f value else value) := by
  rw [insert, insert, ← mapAt_erase, mapAt, mapAt, place_map]

theorem get?_mapAt (key other : String) (f : α → α) (table : Table α) :
    (table.mapAt key f).get? other =
      if other = key then (table.get? other).map f else table.get? other := by
  have same : ((fun e : String × α => e.1 == other) ∘ fun e =>
      if e.1 = key then (e.1, f e.2) else e) = fun e => e.1 == other := by
    funext e
    by_cases here : e.1 = key <;> simp [here]
  rw [get?, mapAt, List.find?_map, same, get?]
  cases found : table.entries.find? (·.1 == other) with
  | none => simp
  | some e =>
    obtain rfl : e.1 = other := by simpa using List.find?_some found
    by_cases here : e.1 = key <;> simp [here]

theorem mapAt_mapAt (key : String) (f g : α → α) (inverse : ∀ x, g (f x) = x) (table : Table α) :
    (table.mapAt key f).mapAt key g = table := by
  obtain ⟨entries⟩ := table
  simp only [mapAt, List.map_map, mk.injEq]
  refine (List.map_congr_left ?_).trans (List.map_id entries)
  intro e _
  by_cases here : e.1 = key <;> simp [here, inverse]
  rw [← here]

theorem mapAt_of_none {key : String} {table : Table α} (absent : table.get? key = none)
    (f : α → α) : table.mapAt key f = table := by
  obtain ⟨entries⟩ := table
  have none_there : ∀ e ∈ entries, e.1 ≠ key := by
    intro e h same
    have found := List.find?_eq_none.mp (Option.map_eq_none_iff.mp absent) e h
    simp [same] at found
  simp only [mapAt, mk.injEq]
  refine (List.map_congr_left ?_).trans (List.map_id entries)
  intro e h
  rw [if_neg (none_there e h)]
  rfl

end Table

/-- Other numbers for mail objects and exchanges. -/
structure Numbering where
  mail : Nat → Nat
  exchange : Nat → Nat

namespace Numbering

def onMail (r : Numbering) (m : MailObject) : MailObject := { m with serial := r.mail m.serial }

def onExchange (r : Numbering) (e : Exchange) : Exchange := { e with serial := r.exchange e.serial }

def onValue (r : Numbering) : Value → Value
  | .exchange e => .exchange (r.onExchange e)
  | v => v

/-- Only the exchange in progress has a number. -/
def onProperties (r : Numbering) (p : Properties) : Properties := p.mapAt Key.exchange.name r.onValue

def onEvent (r : Numbering) : Event → Event
  | .mailOpened n peer => .mailOpened (r.mail n) peer
  | .mailCalled n call answer => .mailCalled (r.mail n) call answer
  | .mailDisposed n => .mailDisposed (r.mail n)
  | .mechanismOpened n name plaintext => .mechanismOpened (r.exchange n) name plaintext
  | .mechanismHeard n response reaction => .mechanismHeard (r.exchange n) response reaction
  | .mechanismDisposed n => .mechanismDisposed (r.exchange n)
  | e => e

variable {r q : Numbering}

@[simp] theorem isLog_onEvent (e : Event) : (r.onEvent e).isLog = e.isLog := by
  cases e <;> rfl

section

variable (mail : ∀ n, q.mail (r.mail n) = n) (exchange : ∀ n, q.exchange (r.exchange n) = n)

include mail in
theorem onMail_onMail (m : MailObject) : q.onMail (r.onMail m) = m := by
  simp [onMail, mail]

include exchange in
theorem onProperties_onProperties (p : Properties) : q.onProperties (r.onProperties p) = p := by
  apply Table.mapAt_mapAt
  intro v
  cases v <;> simp [onValue, onExchange, exchange]

include mail exchange in
theorem onEvent_onEvent (e : Event) : q.onEvent (r.onEvent e) = e := by
  cases e <;> simp [onEvent, mail, exchange]

end

end Numbering

/-- What was on a connection before some moment: the numbers of mail objects and exchanges, and the
calls on collaborators. -/
structure Base where
  mails : Nat
  exchanges : Nat
  calls : List Event

namespace Base

/-- From numbers since the moment to numbers on the connection. -/
def onto (b : Base) : Numbering := ⟨(b.mails + ·), (b.exchanges + ·)⟩

def back (b : Base) : Numbering := ⟨(· - b.mails), (· - b.exchanges)⟩

end Base

namespace Session

variable {κ : Type}

/-- The calls on collaborators, the latest first. -/
def calls (s : Session κ) : List Event := s.journal.filter fun e => !e.isLog

theorem calls_record (s : Session κ) {e : Event} (call : e.isLog = false) :
    (s.record e).calls = e :: s.calls := by
  simp [calls, record, call]

/-- The present as a moment to look back to. -/
def base (s : Session κ) : Base := ⟨s.mailsOpened, s.exchangesOpened, s.calls⟩

/-- All that a session holds, with the calls since a moment and the numbers from there, and nothing of
the log. -/
def since (b : Base) (s : Session κ) : Session κ where
  peerName := s.peerName
  logPrefix := { protocol := "" }
  state := s.state
  mail := s.mail.map b.back.onMail
  properties := b.back.onProperties s.properties
  tls := s.tls
  consumers := s.consumers
  mailsOpened := s.mailsOpened - b.mails
  exchangesOpened := s.exchangesOpened - b.exchanges
  journal := (s.calls.take (s.calls.length - b.calls.length)).map b.back.onEvent

end Session

variable {κ : Type} {b : Base} {c s : Session κ}

/-- A session is another one behind a base, whatever was logged. -/
structure Echoes (b : Base) (c s : Session κ) : Prop where
  peerName : s.peerName = c.peerName
  state : s.state = c.state
  mail : s.mail = c.mail.map b.onto.onMail
  properties : s.properties = b.onto.onProperties c.properties
  tls : s.tls = c.tls
  consumers : s.consumers = c.consumers
  mailsOpened : s.mailsOpened = b.mails + c.mailsOpened
  exchangesOpened : s.exchangesOpened = b.exchanges + c.exchangesOpened
  calls : s.calls = c.calls.map b.onto.onEvent ++ b.calls

namespace Echoes

open Session

/-- What a session shows since a base is known from the session that it echoes. -/
theorem since_eq (h : Echoes b c s) :
    s.since b = { c with logPrefix := { protocol := "" }, journal := c.calls } := by
  have mails (n : Nat) : b.back.mail (b.onto.mail n) = n := Nat.add_sub_cancel_left _ _
  have exchanges (n : Nat) : b.back.exchange (b.onto.exchange n) = n := Nat.add_sub_cancel_left _ _
  have events : b.back.onEvent ∘ b.onto.onEvent = id :=
    funext (Numbering.onEvent_onEvent mails exchanges)
  have objects : b.back.onMail ∘ b.onto.onMail = id := funext (Numbering.onMail_onMail mails)
  rw [since, h.peerName, h.state, h.mail, h.properties, h.tls, h.consumers, h.mailsOpened,
    h.exchangesOpened, h.calls, Numbering.onProperties_onProperties exchanges]
  simp [events, objects]

theorem get?_of_ne (h : Echoes b c s) {k : Key} (other : k ≠ .exchange) :
    s.properties.get? k.name = c.properties.get? k.name := by
  rw [h.properties, Numbering.onProperties, Table.get?_mapAt, if_neg (by simpa [Key.name_inj])]

theorem get?_exchange (h : Echoes b c s) :
    s.properties.get? Key.exchange.name =
      (c.properties.get? Key.exchange.name).map b.onto.onValue := by
  rw [h.properties, Numbering.onProperties, Table.get?_mapAt, if_pos rfl]

theorem hasProperty (h : Echoes b c s) (k : Key) : s.hasProperty k = c.hasProperty k := by
  rw [Session.hasProperty, Session.hasProperty, Table.contains, Table.contains]
  by_cases other : k = .exchange
  · rw [other, h.get?_exchange, Option.isSome_map]
  · rw [h.get?_of_ne other]

theorem read? {α : Type} (h : Echoes b c s) (as : Value → Option α) {k : Key}
    (other : k ≠ .exchange) : s.read? as k = c.read? as k := by
  rw [Session.read?, Session.read?, Properties.read?, Properties.read?, h.get?_of_ne other]

theorem read?_exchange (h : Echoes b c s) :
    s.read? Value.exchange? .exchange =
      (c.read? Value.exchange? .exchange).map b.onto.onExchange := by
  rw [Session.read?, Session.read?, Properties.read?, Properties.read?, h.get?_exchange]
  cases c.properties.get? Key.exchange.name with
  | none => rfl
  | some v => cases v <;> rfl

theorem properties_of_idle (h : Echoes b c s)
    (idle : c.properties.get? Key.exchange.name = none) : s.properties = c.properties := by
  rw [h.properties, Numbering.onProperties, Table.mapAt_of_none idle]

theorem setProperty (h : Echoes b c s) (k : Key) (v : Value) (plain : b.onto.onValue v = v) :
    Echoes b (c.setProperty k v) (s.setProperty k v) := by
  refine { h with properties := ?_ }
  show s.properties.insert _ _ = b.onto.onProperties (c.properties.insert _ _)
  rw [h.properties, Numbering.onProperties, Numbering.onProperties, Table.mapAt_insert, plain,
    ite_self]

theorem setExchange (h : Echoes b c s) (e : Exchange) :
    Echoes b (c.setProperty .exchange (.exchange e))
      (s.setProperty .exchange (.exchange (b.onto.onExchange e))) := by
  refine { h with properties := ?_ }
  show s.properties.insert _ _ = b.onto.onProperties (c.properties.insert _ _)
  rw [h.properties, Numbering.onProperties, Numbering.onProperties, Table.mapAt_insert, if_pos rfl]
  rfl

theorem clearProperty (h : Echoes b c s) (k : Key) :
    Echoes b (c.clearProperty k) (s.clearProperty k) := by
  refine { h with properties := ?_ }
  show s.properties.erase _ = b.onto.onProperties (c.properties.erase _)
  rw [h.properties, Numbering.onProperties, Numbering.onProperties, Table.mapAt_erase]

theorem log (h : Echoes b c s) (l m : Level) (x y : String) :
    Echoes b (c.log l x) (s.log m y) := { h with }

theorem logInfoIf (h : Echoes b c s) {i j : Bool} (same : j = i) (x y : String) :
    Echoes b (c.logInfoIf i x) (s.logInfoIf j y) := by
  subst same
  cases j with
  | false => exact h
  | true => exact h.log _ _ _ _

theorem withPrefix (h : Echoes b c s) (p q : LogPrefix) :
    Echoes b { c with logPrefix := p } { s with logPrefix := q } := { h with }

theorem record (h : Echoes b c s) (e : Event) (call : e.isLog = false) :
    Echoes b (c.record e) (s.record (b.onto.onEvent e)) := by
  refine { h with calls := ?_ }
  rw [calls_record c call, calls_record s ((Numbering.isLog_onEvent e).trans call), h.calls]
  rfl

theorem withState (h : Echoes b c s) (next : State) :
    Echoes b { c with state := next } { s with state := next } :=
  { h with state := rfl }

theorem moveTo (h : Echoes b c s) (next : State) : Echoes b (c.moveTo next) (s.moveTo next) := by
  rw [Session.moveTo, Session.moveTo, h.state]
  split
  · exact h
  · exact (h.log _ _ _ _).withState next

theorem install (h : Echoes b c s) (place : Place) (consumer : Consumer κ) :
    Echoes b (c.install place consumer) (s.install place consumer) :=
  { h with consumers := congrArg (·.insert place.name consumer) h.consumers }

theorem uninstall (h : Echoes b c s) (place : Place) :
    Echoes b (c.uninstall place) (s.uninstall place) :=
  { h with consumers := congrArg (·.erase place.name) h.consumers }

theorem failTransfer (h : Echoes b c s) (reply : Reply) :
    Echoes b (c.failTransfer reply) (s.failTransfer reply) := by
  rw [Session.failTransfer, Session.failTransfer, h.consumers, h.hasProperty]
  split
  · exact h.setProperty _ _ rfl
  · exact h

theorem withMail (h : Echoes b c s) (mail : Option MailObject) :
    Echoes b { c with mail := mail } { s with mail := mail.map b.onto.onMail } :=
  { h with mail := rfl }

theorem callOn (h : Echoes b c s) (mail : MailObject) (call : MailCall) :
    (s.callOn (b.onto.onMail mail) call).1 = (c.callOn mail call).1 ∧
      (s.callOn (b.onto.onMail mail) call).2.1 = b.onto.onMail (c.callOn mail call).2.1 ∧
      Echoes b (c.callOn mail call).2.2 (s.callOn (b.onto.onMail mail) call).2.2 :=
  ⟨rfl, rfl, h.record (.mailCalled mail.serial call (mail.call call).1) rfl⟩

theorem callMail (h : Echoes b c s) (call : MailCall) :
    (s.callMail call).1 = (c.callMail call).1 ∧ Echoes b (c.callMail call).2 (s.callMail call).2 := by
  rw [Session.callMail, Session.callMail, h.mail]
  cases c.mail with
  | none => exact ⟨rfl, h⟩
  | some mail => exact ⟨rfl, (h.callOn mail call).2.2.withMail (some (mail.call call).2)⟩

theorem disposeMail (h : Echoes b c s) (mail : MailObject) :
    Echoes b (c.disposeMail mail) (s.disposeMail (b.onto.onMail mail)) :=
  h.record (.mailDisposed mail.serial) rfl

theorem closeMail (h : Echoes b c s) : Echoes b c.closeMail s.closeMail := by
  rw [Session.closeMail, Session.closeMail, h.mail]
  cases c.mail with
  | none => exact h
  | some mail => exact (h.disposeMail mail).withMail none

theorem openMail (h : Echoes b c s) {newMail : Session κ → MailBehaviour}
    (same : newMail s = newMail c) :
    (s.openMail newMail).1 = b.onto.onMail (c.openMail newMail).1 ∧
      Echoes b (c.openMail newMail).2 (s.openMail newMail).2 := by
  have noted := h.record (.mailOpened c.mailsOpened c.peerName) rfl
  rw [Session.openMail, Session.openMail, same, h.mailsOpened, h.peerName]
  exact ⟨rfl, { noted with mailsOpened := rfl }⟩

theorem adoptMail (h : Echoes b c s) (mail : MailObject) :
    Echoes b (c.adoptMail mail) (s.adoptMail (b.onto.onMail mail)) :=
  h.closeMail.withMail (some mail)

theorem completeMail (h : Echoes b c s) :
    s.completeMail.1 = c.completeMail.1 ∧ Echoes b c.completeMail.2 s.completeMail.2 := by
  rw [Session.completeMail, Session.completeMail, h.mail]
  cases c.mail with
  | none => exact ⟨rfl, h⟩
  | some mail =>
    exact ⟨rfl, ((h.callOn mail .complete).2.2.disposeMail (mail.call .complete).2).withMail none⟩

theorem disposeMechanism (h : Echoes b c s) (e : Exchange) :
    Echoes b (c.disposeMechanism e) (s.disposeMechanism (b.onto.onExchange e)) :=
  h.record (.mechanismDisposed e.serial) rfl

theorem abandonExchange (h : Echoes b c s) : Echoes b c.abandonExchange s.abandonExchange := by
  rw [Session.abandonExchange, Session.abandonExchange, takeExchange, takeExchange, h.read?_exchange]
  cases c.read? Value.exchange? .exchange with
  | none => exact (h.clearProperty .exchange).uninstall .responses
  | some e => exact ((h.clearProperty .exchange).disposeMechanism e).uninstall .responses

theorem tlsEstablished (h : Echoes b c s) (description : String) :
    Echoes b (c.tlsEstablished description) (s.tlsEstablished description) := by
  apply Echoes.moveTo
  have closed := ((h.log .info .info ("TLS established: " ++ description)
    ("TLS established: " ++ description)).closeMail).abandonExchange
  exact { closed with properties := rfl, tls := rfl }

theorem connectionLost (h : Echoes b c s) : Echoes b c.connectionLost s.connectionLost := by
  have same : s.hasMail = c.hasMail := by rw [hasMail, hasMail, h.mail, Option.isSome_map]
  exact ((h.logInfoIf same _ _).closeMail).abandonExchange

/-- The stores of a session fit its state just as those of the session that it echoes. -/
theorem fits (h : Echoes b c s) (sound : c.Fits c.state) : s.Fits s.state := by
  rw [h.state]
  refine ⟨?_, ?_, ?_, ?_, ?_, ?_⟩
  · rw [h.mail, Option.isSome_map]
    exact sound.mail
  · rw [h.consumers, sound.consumers, transient, transient, h.hasProperty]
  · intro v found
    rw [h.get?_exchange] at found
    obtain ⟨w, held, rfl⟩ := Option.map_eq_some_iff.mp found
    obtain ⟨⟨e, rfl⟩, between, anonymous⟩ := sound.exchange w held
    exact ⟨⟨_, rfl⟩, between, (h.get?_of_ne (by decide)).trans anonymous⟩
  · rw [h.get?_of_ne (by decide)]
    exact sound.size
  · rw [h.get?_of_ne (by decide)]
    exact sound.fault
  · rw [h.get?_of_ne (by decide)]
    exact sound.count

end Echoes

end SmtpDialog
