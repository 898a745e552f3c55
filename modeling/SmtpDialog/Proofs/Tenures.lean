/- digest: The mechanisms of a session serve one after the other, and each is disposed of once. -/
import SmtpDialog.Proofs.Exchanges
import SmtpDialog.Proofs.Occurrences

/-!
A `Tenure` is all that becomes of one mechanism: the factory that made it, and the responses it heard.
Whatever happens to a session, its journal tells the tenures of its mechanisms one after the other, and
while an exchange is in progress the last of them goes on. `Session.Recounts` is this invariant; with it
goes what the tenures had to be allowed by, and which of them has given the session its identity.
-/

set_option autoImplicit false
set_option relaxedAutoImplicit false

namespace SmtpDialog

open Command

variable {κ : Type}

/-- Whether a mechanism asks for a further response. -/
def Reaction.isOpen (reaction : Reaction) : Bool := reaction.challenge.isOk && !reaction.complete

/-- What one mechanism has served for. -/
structure Tenure where
  factory : Factory
  attempt : Attempt

namespace Tenure

def serial (tenure : Tenure) : Nat := tenure.attempt.serial

/-- The events of a mechanism that is not yet disposed of. -/
def begun (tenure : Tenure) : List Event :=
  .mechanismOpened tenure.serial tenure.attempt.mechanism.name tenure.factory.sendsPlaintext ::
    tenure.attempt.hearings.reverse.map fun h => .mechanismHeard tenure.serial h.1 h.2

def events (tenure : Tenure) : List Event := tenure.begun ++ [.mechanismDisposed tenure.serial]

/-- A mechanism hears nothing more once it has completed or failed. -/
def Ordered (tenure : Tenure) : Prop := ∀ h ∈ tenure.attempt.hearings.tail, h.2.isOpen = true

/-- The mechanism was made by a factory of the policy, under TLS where that was needed. -/
structure Lawful (policy : AuthPolicy) (tls : Bool) (tenure : Tenure) : Prop where
  registered : tenure.factory ∈ policy.registry.factories
  made : ∃ before, tenure.attempt.mechanism = tenure.factory.create before
  allowed : policy.requireTls = true → tenure.factory.sendsPlaintext = true → tls = true

/-- The tenure has ended with an identity. -/
structure Grants (tenure : Tenure) (identity : String) : Prop where
  answered : tenure.attempt.reaction.challenge.isOk = true
  complete : tenure.attempt.reaction.complete = true
  identity : tenure.attempt.reaction.identity = some identity

theorem Lawful.mono {policy : AuthPolicy} {tls later : Bool} {tenure : Tenure}
    (lawful : tenure.Lawful policy tls) (lasts : tls = true → later = true) :
    tenure.Lawful policy later where
  registered := lawful.registered
  made := lawful.made
  allowed strict plaintext := lasts (lawful.allowed strict plaintext)

def first (factory : Factory) (response : Bytes) (s : Session κ) : Tenure :=
  ⟨factory, ⟨s.exchangesOpened, factory.create s.journal, [response]⟩⟩

def hear (response : Bytes) (tenure : Tenure) : Tenure :=
  { tenure with attempt := tenure.attempt.hear response }

theorem begun_hear (response : Bytes) (tenure : Tenure) :
    (tenure.hear response).begun = tenure.begun ++
      [.mechanismHeard tenure.serial response (tenure.attempt.exchange.reaction response)] := by
  have added : (tenure.hear response).attempt.hearings =
      (response, tenure.attempt.exchange.reaction response) :: tenure.attempt.hearings := rfl
  rw [begun, begun, added]
  simp [hear, serial, Attempt.hear]

end Tenure

namespace Session

/-- The mechanisms of a session have served one after the other, each until it was disposed of. -/
def ServedInTurn (s : Session κ) : Prop :=
  ∃ tenures : List Tenure, tenures.map Tenure.serial = List.range s.exchangesOpened ∧
    (∀ tenure ∈ tenures, tenure.Ordered) ∧ s.mechanismEvents = tenures.flatMap Tenure.events

/-- A session recounts the tenures that are over, and perhaps one that is not. -/
structure Recounts (features : List Feature) (past : List Tenure) (current : Option Tenure)
    (s : Session κ) : Prop where
  serials : (past ++ current.toList).map Tenure.serial = List.range s.exchangesOpened
  ordered : ∀ tenure ∈ past ++ current.toList, tenure.Ordered
  lawful : ∀ tenure ∈ past ++ current.toList, ∃ policy ∈ Feature.policy? features,
    tenure.Lawful policy s.isTls
  events : s.mechanismEvents = past.flatMap Tenure.events ++ current.elim [] Tenure.begun
  pending : s.properties.get? Key.exchange.name =
    current.map fun tenure => .exchange tenure.attempt.exchange
  waiting : ∀ tenure ∈ current, ∀ h ∈ tenure.attempt.hearings, h.2.isOpen = true
  known : ∀ v, s.properties.get? Key.identity.name = some v →
    ∃ tenure ∈ past, ∃ identity, v = .text identity ∧ tenure.Grants identity

namespace Recounts

variable {features : List Feature} {past : List Tenure} {current : Option Tenure}
  {tenure : Tenure} {s t u : Session κ}

theorem apart (recounts : s.Recounts features past current) (apart : s.Apart t) :
    t.Recounts features past current where
  serials := by rw [apart.opened]; exact recounts.serials
  ordered := recounts.ordered
  lawful := by rw [isTls, apart.tls]; exact recounts.lawful
  events := apart.events.trans recounts.events
  pending := apart.exchange.trans recounts.pending
  waiting := recounts.waiting
  known v known := recounts.known v (apart.identity.symm.trans known)

theorem ends (recounts : s.Recounts features past current) (ends : s.Ends t) :
    t.Recounts features (past ++ current.toList) none where
  serials := by
    rw [ends.opened]
    simpa using recounts.serials
  ordered := by simpa using recounts.ordered
  lawful := by
    intro tenure h
    obtain ⟨policy, offered, lawful⟩ := recounts.lawful tenure (by simpa using h)
    exact ⟨policy, offered, lawful.mono ends.tls⟩
  events := by
    have found : s.read? Value.exchange? .exchange =
        current.map fun tenure => tenure.attempt.exchange := by
      rw [read?, Properties.read?, recounts.pending]
      cases current <;> rfl
    rw [ends.events, recounts.events, found]
    cases current with
    | none => simp
    | some tenure =>
      simp only [Option.elim_some, Option.map_some, Option.elim_none, Option.toList_some,
        List.flatMap_append, List.flatMap_singleton, List.append_nil, List.append_assoc]
      rfl
  pending := ends.exchange
  waiting := nofun
  known v known := by
    rcases ends.identity with kept | gone
    · obtain ⟨tenure, h, granted⟩ := recounts.known v (kept.symm.trans known)
      exact ⟨tenure, List.mem_append_left _ h, granted⟩
    · rw [gone] at known
      contradiction

end Recounts

/-- An exchange has been taken up with a response, which its mechanism is about to hear; `tenure` is the
one that goes on by it. -/
structure TakesUp (features : List Feature) (past : List Tenure) (tenure : Tenure) (e : Exchange)
    (response : Bytes) (u : Session κ) : Prop where
  serials : (past ++ [tenure]).map Tenure.serial = List.range u.exchangesOpened
  ordered : ∀ other ∈ past ++ [tenure], other.Ordered
  lawful : ∀ other ∈ past ++ [tenure], ∃ policy ∈ Feature.policy? features,
    other.Lawful policy u.isTls
  events : u.mechanismEvents ++ [.mechanismHeard e.serial response (e.reaction response)] =
    past.flatMap Tenure.events ++ tenure.begun
  exchange : tenure.attempt.exchange = e.after response
  reaction : tenure.attempt.reaction = e.reaction response
  heard : tenure.attempt.hearings.head? = some (response, e.reaction response)
  idle : u.properties.get? Key.exchange.name = none
  known : ∀ v, u.properties.get? Key.identity.name = some v →
    ∃ other ∈ past, ∃ identity, v = .text identity ∧ other.Grants identity

end Session

open Session

variable {features : List Feature} {past : List Tenure} {current : Option Tenure}
  {s t u : Session κ} {line : Line} {e : Exchange} {response : Bytes}

theorem Takes.takesUp (recounts : s.Recounts features past current)
    (taken : Takes features line s e response u) :
    ∃ tenure, u.TakesUp features past tenure e response := by
  cases taken with
  | @opened policy factory name rest response verb offered between anonymous idle words found carried =>
    obtain rfl : current = none := Option.map_eq_none_iff.mp (recounts.pending.symm.trans idle)
    have events := recounts.events
    have serials := recounts.serials
    have ordered := recounts.ordered
    have lawful := recounts.lawful
    simp only [Option.toList_none, List.append_nil, Option.elim_none] at events serials ordered lawful
    obtain ⟨known, allowed⟩ := Option.filter_eq_some_iff.mp found
    refine ⟨.first factory response s, ?_, ?_, ?_, ?_, rfl, rfl, rfl, idle, recounts.known⟩
    · rw [List.map_append, serials]
      exact List.range_succ.symm
    · intro other h
      rcases List.mem_append.mp h with earlier | now
      · exact ordered other earlier
      · obtain rfl := List.mem_singleton.mp now
        exact nofun
    · intro other h
      rcases List.mem_append.mp h with earlier | now
      · exact lawful other earlier
      · obtain rfl := List.mem_singleton.mp now
        refine ⟨policy, offered, List.mem_of_find?_eq_some known, ⟨_, rfl⟩, ?_⟩
        intro strict plaintext
        have permitted : policy.allows s factory = true := (Bool.and_eq_true_iff.mp allowed).2
        have plain : factory.sendsPlaintext = true := plaintext
        have secured : s.isTls = true := by
          simpa [AuthPolicy.allows, strict, plain] using permitted
        exact secured
    · rw [mechanismEvents_of_journal (s := s.unlogged) [.mechanismOpened _ _ _] rfl,
        mechanismEvents_unlogged, events, List.append_assoc]
      rfl
  | resumed pending decoded =>
    obtain ⟨tenure, rfl, same⟩ := Option.map_eq_some_iff.mp (recounts.pending.symm.trans pending)
    obtain rfl : tenure.attempt.exchange = e := Value.exchange.inj same
    have going : tenure ∈ past ++ (some tenure).toList := by simp
    have both {P : Tenure → Prop} (all : ∀ other ∈ past ++ (some tenure).toList, P other)
        (next : P (tenure.hear response)) : ∀ other ∈ past ++ [tenure.hear response], P other := by
      intro other h
      rcases List.mem_append.mp h with earlier | now
      · exact all other (List.mem_append_left _ earlier)
      · obtain rfl := List.mem_singleton.mp now
        exact next
    refine ⟨tenure.hear response, ?_, ?_, ?_, ?_, rfl, rfl, rfl, ?_, ?_⟩
    · exact (by simp [Tenure.hear, Tenure.serial, Attempt.hear] :
        _ = (past ++ (some tenure).toList).map Tenure.serial).trans recounts.serials
    · exact both recounts.ordered (recounts.waiting tenure rfl)
    · apply both recounts.lawful
      obtain ⟨policy, offered, lawful⟩ := recounts.lawful tenure going
      exact ⟨policy, offered, lawful.registered, lawful.made, lawful.allowed⟩
    · have same : s.unlogged.mechanismEvents = s.mechanismEvents := mechanismEvents_unlogged s
      rw [Tenure.begun_hear, ← List.append_assoc]
      exact congrArg (· ++ _) (same.trans recounts.events)
    · exact (get?_erase .exchange .exchange _).trans (if_pos rfl)
    · intro v known
      exact recounts.known v (((get?_erase .exchange .identity _).trans (if_neg nofun)).symm.trans known)

namespace Session.TakesUp

variable {tenure : Tenure}

private theorem waiting (takesUp : u.TakesUp features past tenure e response)
    (open_ : (e.reaction response).isOpen = true) :
    ∀ h ∈ tenure.attempt.hearings, h.2.isOpen = true := by
  have earlier := takesUp.ordered tenure (by simp)
  obtain ⟨older, hearings⟩ := List.head?_eq_some_iff.mp takesUp.heard
  rw [Tenure.Ordered, hearings, List.tail_cons] at earlier
  rw [hearings]
  intro h member
  rcases List.mem_cons.mp member with rfl | old
  · exact open_
  · exact earlier h old

private theorem closes (takesUp : u.TakesUp features past tenure e response)
    (opened : t.exchangesOpened = u.exchangesOpened) (tls : t.tls = u.tls)
    (journal : t.journal = .mechanismDisposed e.serial ::
      .mechanismHeard e.serial response (e.reaction response) :: u.unlogged.journal)
    (idle : t.properties.get? Key.exchange.name = none)
    (known : ∀ v, t.properties.get? Key.identity.name = some v →
      u.properties.get? Key.identity.name = some v ∨
        ∃ identity, v = .text identity ∧ tenure.Grants identity) :
    t.Recounts features (past ++ [tenure]) none where
  serials := by
    rw [opened, Option.toList_none, List.append_nil]
    exact takesUp.serials
  ordered := by simpa using takesUp.ordered
  lawful := by
    rw [isTls, tls, Option.toList_none, List.append_nil]
    exact takesUp.lawful
  events := by
    have serial : tenure.serial = e.serial := congrArg Exchange.serial takesUp.exchange
    rw [mechanismEvents_of_journal (s := u.unlogged) [.mechanismDisposed e.serial,
      .mechanismHeard e.serial response (e.reaction response)] journal, mechanismEvents_unlogged]
    have closed := congrArg (· ++ [Event.mechanismDisposed e.serial]) takesUp.events
    show u.mechanismEvents ++ [.mechanismHeard e.serial response (e.reaction response),
      .mechanismDisposed e.serial] = _
    simpa [Tenure.events, serial] using closed
  pending := idle
  waiting := nofun
  known v now := by
    rcases known v now with before | ⟨identity, same, grants⟩
    · obtain ⟨other, member, granted⟩ := takesUp.known v before
      exact ⟨other, List.mem_append_left _ member, granted⟩
    · exact ⟨tenure, by simp, identity, same, grants⟩

/-- A tenure goes on or is over, as the mechanism has decided. -/
theorem recounts {reply : Reply} (takesUp : u.TakesUp features past tenure e response)
    (continued : Continued e response u reply t) :
    ∃ past current, t.Recounts features past current := by
  have isOk {challenge : Bytes} (wants : (e.reaction response).challenge = .ok challenge) :
      (e.reaction response).challenge.isOk = true := by
    rw [wants]
    rfl
  cases continued with
  | asked wants unfinished =>
    refine ⟨past, some tenure, takesUp.serials, takesUp.ordered, takesUp.lawful, ?_, ?_, ?_, ?_⟩
    · rw [mechanismEvents_of_journal (s := u.unlogged) [.mechanismHeard _ _ _] rfl,
        mechanismEvents_unlogged]
      exact takesUp.events
    · rw [Option.map_some, takesUp.exchange]
      exact (get?_insert .exchange .exchange _ _).trans (if_pos rfl)
    · rintro _ ⟨rfl⟩
      apply takesUp.waiting
      rw [Reaction.isOpen, isOk wants, unfinished]
      rfl
    · intro v known
      exact takesUp.known v
        (((get?_insert .exchange .identity _ _).trans (if_neg nofun)).symm.trans known)
  | failed broke => exact ⟨_, none, takesUp.closes rfl rfl rfl takesUp.idle fun _ => .inl⟩
  | denied wants finished nobody =>
    exact ⟨_, none, takesUp.closes rfl rfl rfl takesUp.idle fun _ => .inl⟩
  | @succeeded challenge identity wants finished somebody =>
    refine ⟨_, none, takesUp.closes rfl rfl rfl ?_ fun v known => .inr ⟨identity, ?_, ?_⟩⟩
    · cases (e.reaction response).authcid? <;> simpa [get?_insert] using takesUp.idle
    · cases named : (e.reaction response).authcid? <;>
        simpa [get?_insert, named, eq_comm] using known
    · rw [← takesUp.reaction] at finished somebody
      exact ⟨takesUp.reaction ▸ isOk wants, finished, somebody⟩

end Session.TakesUp

theorem Session.Recounts.dealing (recounts : s.Recounts features past current)
    (dealing : Dealing features s t) : ∃ past current, t.Recounts features past current := by
  cases dealing with
  | apart apart => exact ⟨_, _, recounts.apart apart⟩
  | @heard line e response reply _ u taken continued =>
    obtain ⟨tenure, takesUp⟩ := taken.takesUp recounts
    have here : u.TakesUp features past tenure e response :=
      { takesUp with events := mechanismEvents_unlogged u ▸ takesUp.events }
    obtain ⟨past, current, after⟩ := here.recounts continued
    have unlogged : t.unlogged.Apart t :=
      ⟨rfl, rfl, rfl, rfl, (mechanismEvents_unlogged t).symm, .inl rfl⟩
    exact ⟨past, current, after.apart unlogged⟩
  | ended ends => exact ⟨_, none, recounts.ends ends⟩

theorem Session.Recounts.servedInTurn (recounts : s.Recounts features past none) :
    s.ServedInTurn := by
  refine ⟨past, ?_, ?_, ?_⟩
  · simpa using recounts.serials
  · simpa using recounts.ordered
  · simpa using recounts.events

namespace Server

variable (config : Config) (newMail : Session κ → MailBehaviour) (custom : κ → Hook κ)
  (features : List Feature) (peer : String)

/-- Whatever has happened, the session recounts the tenures of its mechanisms. -/
theorem through_recounts (occurrences : List Occurrence) :
    let server := ofFeatures config newMail custom features
    let s := server.through (server.newSession peer) occurrences
    s.Attended ∧ ∃ past current, s.Recounts features past current := by
  refine through_induct (motive := fun s => s.Attended ∧
    ∃ past current, s.Recounts features past current) ?_ ?_ occurrences
  · refine ⟨newSession_attended config newMail custom features peer, [], none, ?_⟩
    exact ⟨rfl, nofun, nofun, rfl, rfl, nofun, nofun⟩
  · rintro s occurrence ⟨attended, past, current, recounts⟩
    obtain ⟨next, dealing⟩ :=
      befall_dealing config newMail custom features attended occurrence
    exact ⟨next, recounts.dealing dealing⟩

private theorem release_servedInTurn (occurrences : List Occurrence) :
    let server := ofFeatures config newMail custom features
    (server.through (server.newSession peer) occurrences).release.ServedInTurn := by
  obtain ⟨-, past, current, recounts⟩ :=
    through_recounts config newMail custom features peer occurrences
  exact (recounts.ends (release_ends _)).servedInTurn

/-- However a session goes and whenever it is given up, its mechanisms have served one after the other:
each was opened, heard responses of which at most the last completed it or made it fail, and then was
disposed of, before the next one was opened. The same holds of every connection that is served. -/
theorem mechanisms_served_in_turn (occurrences : List Occurrence) (upgrader : Option TlsUpgrader)
    (wire : Wire) :
    let server := ofFeatures config newMail custom features
    (server.through (server.newSession peer) occurrences).release.ServedInTurn ∧
      (server.serve upgrader (server.newSession peer) wire).session.release.ServedInTurn := by
  refine ⟨release_servedInTurn config newMail custom features peer occurrences, ?_⟩
  obtain ⟨told, served⟩ :=
    serve_exists_through (ofFeatures config newMail custom features) peer upgrader wire
  rw [served]
  exact release_servedInTurn config newMail custom features peer told

end Server

end SmtpDialog
