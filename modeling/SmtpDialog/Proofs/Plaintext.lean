/- digest: A mechanism that takes a password in the clear is only asked under TLS. -/
import SmtpDialog.Proofs.Tenures

/-!
Whether a mechanism may be used is tested when AUTH begins an exchange; the responses that follow are
not tested again. But TLS is never given up, and a handshake ends the exchange in progress. So under a
policy that keeps passwords to TLS, a mechanism whose factory sends them in the clear is not even made
before, and one that was made for an exchange before the handshake hears nothing after it.
-/

set_option autoImplicit false
set_option relaxedAutoImplicit false

namespace SmtpDialog

open Command

variable {κ : Type}

namespace Session

/-- The mechanism of an exchange was made by a factory that sends passwords in the clear, or does not. -/
def Opened (serial : Nat) (plaintext : Bool) (s : Session κ) : Prop :=
  ∃ name, .mechanismOpened serial name plaintext ∈ s.journal

/-- Nothing has come of a mechanism that takes a password in the clear: none was made, and whichever
was asked, waits for a response or has given the session its identity is another. -/
structure Discreet (s : Session κ) : Prop where
  unopened : ∀ serial, ¬s.Opened serial true
  heard : ∀ serial, s.hearings serial ≠ [] → s.Opened serial false
  waiting : ∀ e, s.properties.get? Key.exchange.name = some (.exchange e) → s.Opened e.serial false
  identity : ∀ v, s.properties.get? Key.identity.name = some v →
    ∃ tenure : Tenure, s.Opened tenure.serial false ∧
      ∃ identity, v = .text identity ∧ tenure.Grants identity

variable {features : List Feature} {policy : AuthPolicy} {past : List Tenure}
  {current : Option Tenure} {tenure : Tenure} {s t : Session κ}

theorem mem_mechanismEvents {event : Event} :
    event ∈ s.mechanismEvents ↔ event ∈ s.journal ∧ event.isMechanism = true := by
  rw [mechanismEvents, List.mem_reverse, List.mem_filter]

theorem hearings_eq_of_mechanismEvents (serial : Nat) (s : Session κ) :
    s.hearings serial = s.mechanismEvents.reverse.filterMap (Event.hearing? serial) := by
  rw [hearings, mechanismEvents, List.reverse_reverse, List.filterMap_filter]
  congr 1
  funext e
  cases e <;> rfl

namespace Recounts

theorem exists_tenure (recounts : s.Recounts features past current) {event : Event}
    (happened : event ∈ s.mechanismEvents) :
    ∃ tenure ∈ past ++ current.toList, event ∈ tenure.events := by
  rw [recounts.events] at happened
  rcases List.mem_append.mp happened with earlier | now
  · obtain ⟨tenure, member, told⟩ := List.mem_flatMap.mp earlier
    exact ⟨tenure, List.mem_append_left _ member, told⟩
  · cases current with
    | none => contradiction
    | some tenure => exact ⟨tenure, by simp, List.mem_append_left _ now⟩

theorem opened (recounts : s.Recounts features past current)
    (member : tenure ∈ past ++ current.toList) :
    s.Opened tenure.serial tenure.factory.sendsPlaintext := by
  refine ⟨tenure.attempt.mechanism.name, (mem_mechanismEvents.mp ?_).1⟩
  rw [recounts.events]
  rcases List.mem_append.mp member with earlier | now
  · exact List.mem_append_left _ (List.mem_flatMap.mpr ⟨tenure, earlier, List.mem_cons_self⟩)
  · obtain rfl := Option.mem_toList.mp now
    exact List.mem_append_right _ List.mem_cons_self

theorem exists_plaintext (recounts : s.Recounts features past current) {serial : Nat}
    (opened : s.Opened serial true) :
    ∃ tenure ∈ past ++ current.toList, tenure.factory.sendsPlaintext = true := by
  obtain ⟨name, made⟩ := opened
  obtain ⟨tenure, member, told⟩ := recounts.exists_tenure (mem_mechanismEvents.mpr ⟨made, rfl⟩)
  refine ⟨tenure, member, ?_⟩
  simp only [Tenure.events, Tenure.begun, List.cons_append, List.mem_cons, List.mem_append,
    List.mem_map, reduceCtorEq, and_false, exists_false, List.not_mem_nil, or_false] at told
  exact (Event.mechanismOpened.inj told).2.2.symm

theorem exists_hearing (recounts : s.Recounts features past current) {serial : Nat}
    (heard : s.hearings serial ≠ []) : ∃ tenure ∈ past ++ current.toList, tenure.serial = serial := by
  obtain ⟨hearing, member⟩ := List.exists_mem_of_ne_nil _ heard
  rw [hearings_eq_of_mechanismEvents] at member
  obtain ⟨event, happened, same⟩ := List.mem_filterMap.mp member
  obtain ⟨tenure, member, told⟩ := recounts.exists_tenure (List.mem_reverse.mp happened)
  refine ⟨tenure, member, ?_⟩
  simp only [Tenure.events, Tenure.begun, List.cons_append, List.mem_cons, List.mem_append,
    List.mem_map, List.not_mem_nil, or_false] at told
  rcases told with rfl | ⟨h, -, rfl⟩ | rfl <;> simp [Event.hearing?] at same
  exact same.1

theorem isTls_of_plaintext (recounts : s.Recounts features past current)
    (offered : Feature.policy? features = some policy) (strict : policy.requireTls = true)
    (member : tenure ∈ past ++ current.toList)
    (plaintext : tenure.factory.sendsPlaintext = true) : s.isTls = true := by
  obtain ⟨other, known, lawful⟩ := recounts.lawful tenure member
  obtain rfl : policy = other := Option.some.inj (offered.symm.trans known)
  exact lawful.allowed strict plaintext

theorem discreet (recounts : s.Recounts features past current)
    (offered : Feature.policy? features = some policy) (strict : policy.requireTls = true)
    (clear : s.isTls = false) : s.Discreet := by
  have secret {tenure : Tenure} (member : tenure ∈ past ++ current.toList) :
      tenure.factory.sendsPlaintext = false := by
    cases plaintext : tenure.factory.sendsPlaintext with
    | false => rfl
    | true =>
      rw [recounts.isTls_of_plaintext offered strict member plaintext] at clear
      contradiction
  have other {tenure : Tenure} (member : tenure ∈ past ++ current.toList) :
      s.Opened tenure.serial false :=
    secret member ▸ recounts.opened member
  constructor
  · intro serial opened
    obtain ⟨tenure, member, plain⟩ := recounts.exists_plaintext opened
    rw [secret member] at plain
    contradiction
  · intro serial heard
    obtain ⟨tenure, member, rfl⟩ := recounts.exists_hearing heard
    exact other member
  · intro e pending
    obtain ⟨tenure, rfl, same⟩ := Option.map_eq_some_iff.mp (recounts.pending.symm.trans pending)
    obtain rfl := Value.exchange.inj same
    exact other (List.mem_append_right _ List.mem_cons_self)
  · intro v known
    obtain ⟨tenure, member, granted⟩ := recounts.known v known
    exact ⟨tenure, other (List.mem_append_left _ member), granted⟩

end Recounts

end Session

open Session

section

variable {features : List Feature} {s t u : Session κ} {e : Exchange} {response : Bytes}

theorem Continued.hearings {reply : Reply} (continued : Continued e response u reply t)
    (serial : Nat) :
    t.hearings serial = (if e.serial = serial then [(response, e.reaction response)] else []) ++
      u.hearings serial := by
  have added {journal : List Event} (more : List Event)
      (deaf : more.filterMap (Event.hearing? serial) = []) (same : journal =
        more ++ .mechanismHeard e.serial response (e.reaction response) :: u.unlogged.journal) :
      journal.filterMap (Event.hearing? serial) =
        (if e.serial = serial then [(response, e.reaction response)] else []) ++
          u.hearings serial := by
    rw [same, List.filterMap_append, deaf, ← hearings_unlogged, Session.hearings]
    by_cases own : e.serial = serial <;> simp [Event.hearing?, own]
  cases continued with
  | asked wants unfinished => exact added [] rfl rfl
  | failed broke | denied wants finished nobody | succeeded wants finished somebody =>
    exact added [.mechanismDisposed e.serial] rfl rfl

theorem Continued.tls {reply : Reply} (continued : Continued e response u reply t) :
    t.tls = u.tls := by
  cases continued <;> rfl

theorem Continued.opened {reply : Reply} (continued : Continued e response u reply t) :
    t.exchangesOpened = u.exchangesOpened := by
  cases continued <;> rfl

/-- An exchange is in progress, or it has yet to begin. -/
def Session.Engages (serial : Nat) (s : Session κ) : Prop :=
  s.exchangesOpened ≤ serial ∨
    ∃ e, s.properties.get? Key.exchange.name = some (.exchange e) ∧ e.serial = serial

/-- What a line does to the exchange that it takes further, before the mechanism is asked. -/
structure Takes.Frame (s u : Session κ) (e : Exchange) : Prop where
  tls : u.tls = s.tls
  idle : u.properties.get? Key.exchange.name = none
  opened : s.exchangesOpened ≤ u.exchangesOpened
  engaged : s.Engages e.serial
  hearings : ∀ serial, u.hearings serial = s.hearings serial

theorem Takes.frame {line : Line} (taken : Takes features line s e response u) :
    Takes.Frame s u e := by
  cases taken with
  | @opened policy factory name rest response verb offered between anonymous idle words found carried =>
    refine ⟨rfl, idle, Nat.le_succ _, .inl (Nat.le_refl _), fun serial => ?_⟩
    rw [hearings_of_journal (s := s.unlogged) serial [.mechanismOpened _ _ _] rfl]
    exact hearings_unlogged serial s
  | resumed pending decoded =>
    exact ⟨rfl, (get?_erase .exchange .exchange _).trans (if_pos rfl), Nat.le_refl _,
      .inr ⟨e, pending, rfl⟩, fun serial => hearings_unlogged serial s⟩

theorem Continued.exchange {reply : Reply} (continued : Continued e response u reply t)
    (idle : u.properties.get? Key.exchange.name = none) :
    ∀ other, t.properties.get? Key.exchange.name = some (.exchange other) →
      other.serial = e.serial := by
  intro other pending
  cases continued with
  | asked wants unfinished =>
    have here : some (Value.exchange (e.after response)) = some (.exchange other) :=
      ((get?_insert .exchange .exchange _ _).trans (if_pos rfl)).symm.trans pending
    obtain rfl := Value.exchange.inj (Option.some.inj here)
    rfl
  | failed broke | denied wants finished nobody => nomatch idle.symm.trans pending
  | succeeded wants finished somebody =>
    cases named : (e.reaction response).authcid? <;> simp [get?_insert, named, idle] at pending

theorem Session.Ends.hearings (ends : s.Ends t) (serial : Nat) :
    t.hearings serial = s.hearings serial := by
  have deaf (exchange : Option Exchange) : (exchange.elim [] fun e =>
      [Event.mechanismDisposed e.serial]).reverse.filterMap (Event.hearing? serial) = [] := by
    cases exchange <;> rfl
  rw [hearings_eq_of_mechanismEvents, ends.events, List.reverse_append, List.filterMap_append,
    deaf, List.nil_append, ← hearings_eq_of_mechanismEvents]

namespace Dealing

/-- What an occurrence adds to the hearings of an exchange is heard in the one in progress or in a new
one, and TLS is in use or not as before. -/
theorem of_changed {serial : Nat} (dealing : Dealing features s t)
    (changed : t.hearings serial ≠ s.hearings serial) : t.isTls = s.isTls ∧ s.Engages serial := by
  cases dealing with
  | apart apart =>
    rw [hearings_eq_of_mechanismEvents, apart.events, ← hearings_eq_of_mechanismEvents] at changed
    contradiction
  | ended ends => exact absurd (ends.hearings serial) changed
  | @heard line e response reply _ u taken continued =>
    have frame := taken.frame
    constructor
    · rw [isTls, isTls, ← frame.tls, ← unlogged_tls t, continued.tls, unlogged_tls]
    · by_cases own : e.serial = serial
      · exact own ▸ frame.engaged
      · rw [← hearings_unlogged, continued.hearings, if_neg own, ← frame.hearings,
          hearings_unlogged] at changed
        contradiction

/-- An exchange that waits for a response is the one that was in progress or a new one. -/
theorem engages (dealing : Dealing features s t) :
    ∀ e, t.properties.get? Key.exchange.name = some (.exchange e) → s.Engages e.serial := by
  intro e pending
  cases dealing with
  | apart apart => exact .inr ⟨e, apart.exchange.symm.trans pending, rfl⟩
  | ended ends =>
    rw [ends.exchange] at pending
    contradiction
  | heard taken continued =>
    rw [continued.exchange taken.frame.idle e pending]
    exact taken.frame.engaged

theorem opened_le (dealing : Dealing features s t) : s.exchangesOpened ≤ t.exchangesOpened := by
  cases dealing with
  | apart apart => exact Nat.le_of_eq apart.opened.symm
  | ended ends => exact Nat.le_of_eq ends.opened.symm
  | @heard line e response reply _ u taken continued =>
    rw [← unlogged_exchangesOpened t, continued.opened]
    exact taken.frame.opened

end Dealing

/-- The exchanges before some number are over, and their mechanisms have heard nothing more since. -/
structure Session.Closed (s t : Session κ) : Prop where
  opened : s.exchangesOpened ≤ t.exchangesOpened
  exchange : ∀ e, t.properties.get? Key.exchange.name = some (.exchange e) →
    s.exchangesOpened ≤ e.serial
  hearings : ∀ serial < s.exchangesOpened, t.hearings serial = s.hearings serial

theorem Session.Closed.dealing {before : Session κ} (closed : before.Closed s)
    (dealing : Dealing features s t) : before.Closed t := by
  have later {serial : Nat} (engages : s.Engages serial) : before.exchangesOpened ≤ serial := by
    rcases engages with fresh | ⟨e, pending, rfl⟩
    · exact Nat.le_trans closed.opened fresh
    · exact closed.exchange e pending
  refine ⟨Nat.le_trans closed.opened dealing.opened_le, ?_, ?_⟩
  · exact fun e pending => later (dealing.engages e pending)
  · intro serial early
    rw [← closed.hearings serial early]
    refine Classical.byContradiction fun changed => ?_
    exact Nat.not_le_of_lt early (later (dealing.of_changed changed).2)

end

namespace Server

variable (config : Config) (newMail : Session κ → MailBehaviour) (custom : κ → Hook κ)
  (features : List Feature) (peer : String)

/-- Under a policy that keeps passwords to TLS, a mechanism whose factory sends them in the clear, as
those of PLAIN and LOGIN do, hears a response only under TLS; until then none has been made and no
identity was obtained through one. And when a handshake is made, the exchange in progress is over, and no
mechanism that was made before it hears anything after it, whatever happens. -/
theorem plaintext_only_under_tls {policy : AuthPolicy}
    (offered : Feature.policy? features = some policy) (strict : policy.requireTls = true)
    (occurrences : List Occurrence) :
    let server := ofFeatures config newMail custom features
    let s := server.through (server.newSession peer) occurrences
    (∀ occurrence serial, let t := server.befall s occurrence
      t.Opened serial true → t.hearings serial ≠ s.hearings serial →
        s.isTls = true ∧ t.isTls = true) ∧
    (s.isTls = false → s.Discreet) ∧
    ∀ description later, let t := server.through (s.tlsEstablished description) later
      (s.tlsEstablished description).properties.get? Key.exchange.name = none ∧
        ∀ serial < s.exchangesOpened, t.hearings serial = s.hearings serial := by
  dsimp only
  obtain ⟨attended, past, current, recounts⟩ :=
    through_recounts config newMail custom features peer occurrences
  generalize (ofFeatures config newMail custom features).through
    ((ofFeatures config newMail custom features).newSession peer) occurrences = s
    at attended recounts
  refine ⟨?_, recounts.discreet offered strict, ?_⟩
  · intro occurrence serial opened changed
    obtain ⟨-, dealing⟩ := befall_dealing config newMail custom features attended occurrence
    obtain ⟨_, _, after⟩ := recounts.dealing dealing
    obtain ⟨tenure, member, plain⟩ := after.exists_plaintext opened
    have secured := after.isTls_of_plaintext offered strict member plain
    exact ⟨(dealing.of_changed changed).1.symm.trans secured, secured⟩
  · intro description later
    have ends := s.tlsEstablished_ends description
    have closed : s.Closed (s.tlsEstablished description) := by
      refine ⟨Nat.le_of_eq ends.opened.symm, fun e pending => ?_, fun serial _ => ends.hearings serial⟩
      nomatch ends.exchange.symm.trans pending
    refine ⟨ends.exchange, ?_⟩
    -- The chain goes along, since it tells what an occurrence can do.
    refine (through_induct (motive := fun t => t.Attended ∧ s.Closed t)
      ⟨attended.ends ends, closed⟩ ?_ later).2.hearings
    rintro t occurrence ⟨there, closed⟩
    obtain ⟨next, dealing⟩ := befall_dealing config newMail custom features there occurrence
    exact ⟨next, closed.dealing dealing⟩

/-- PLAIN is refused before the handshake, and an exchange that was begun then is not heard after it. -/
theorem plaintext_only_under_tls_of_two :
    let ask : Factory := { name := "X-ASK", create := fun _ => ⟨"X-ASK", fun _ => .idle, []⟩ }
    let policy : AuthPolicy := ⟨⟨[.plain fun _ authcid _ => .ok (.authorized authcid), ask]⟩, true⟩
    let server := ofFeatures {} (fun _ _ _ => .ok .ok) Empty.elim [.startTls, .auth policy]
    let s := server.through (server.newSession "client.example")
      [.told .connect, .told (.line (.ofText "EHLO client.example")),
        .told (.line (.ofText "AUTH PLAIN AGRpYgBodW50ZXIy")), .told (.line (.ofText "AUTH X-ASK"))]
    s.exchangesOpened = 1 ∧ (s.hearings 0).length = 1 ∧ s.Discreet ∧
      ∀ later, (server.through (s.tlsEstablished "TLSv1.3") later).hearings 0 = s.hearings 0 := by
  intro ask policy server s
  have facts := plaintext_only_under_tls {} (fun _ _ _ => .ok .ok) Empty.elim
    [.startTls, .auth policy] "client.example" rfl rfl
    [.told .connect, .told (.line (.ofText "EHLO client.example")),
      .told (.line (.ofText "AUTH PLAIN AGRpYgBodW50ZXIy")), .told (.line (.ofText "AUTH X-ASK"))]
  have ⟨opened, heard, clear⟩ :
      s.exchangesOpened = 1 ∧ (s.hearings 0).length = 1 ∧ s.isTls = false := by decide +kernel
  refine ⟨opened, heard, facts.2.1 clear, fun later => ?_⟩
  exact (facts.2.2 "TLSv1.3" later).2 0 (Nat.lt_of_lt_of_eq Nat.zero_lt_one opened.symm)

end Server

end SmtpDialog
