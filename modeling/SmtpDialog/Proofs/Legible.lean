/- digest: What collaborators say without control characters, and sessions that keep nothing else. -/
import SmtpDialog.Proofs.CleanText
import SmtpDialog.Proofs.Standard
import SmtpDialog.Proofs.Unlogged
import SmtpDialog.Transport.Serve

set_option autoImplicit false
set_option relaxedAutoImplicit false

namespace SmtpDialog

variable {κ : Type}

/-- The text that an answer has in log records is clean. -/
def IsCleanAnswer : Except Fault Reply → Prop
  | .ok reply => Text.IsClean reply.text
  | .error fault => Text.IsClean fault.message

/-- The replies and the faults of a mail object are clean. -/
def MailBehaviour.Legible (behaviour : MailBehaviour) : Prop :=
  ∀ history call, IsCleanAnswer (behaviour history call)

def CredentialCheck.Legible (check : CredentialCheck) : Prop := ∀ authzid authcid credential fault,
  check authzid authcid credential = .error fault → Text.IsClean fault.message

structure Mechanism.Legible (m : Mechanism) : Prop where
  name : Text.IsClean m.name
  faults : ∀ heard fault, (m.behaviour heard).challenge = .error fault → Text.IsClean fault.message

/-- The library's own factories with a legible check, and those of legible mechanisms. -/
inductive Factory.Legible : Factory → Prop
  | plain {check : CredentialCheck} (legible : check.Legible) : Legible (.plain check)
  | login {check : CredentialCheck} (legible : check.Legible) : Legible (.login check)
  | foreign {factory : Factory} (legible : ∀ past, (factory.create past).Legible) :
      Legible factory

/-- The descriptions and the faults of a handshake are clean. -/
def TlsUpgrader.Legible (upgrade : TlsUpgrader) : Prop := ∀ w,
  match upgrade w with
  | .ok description => Text.IsClean description
  | .error fault => Text.IsClean fault.message

theorem Mechanism.legible_ofStates {σ : Type} {name : String} {first : σ}
    {step : σ → Bytes → σ × Reaction} (clean : Text.IsClean name)
    (faults : ∀ state response fault, (step state response).2.challenge = .error fault →
      Text.IsClean fault.message) : (Mechanism.ofStates name first step).Legible where
  name := clean
  faults heard fault failed := by
    cases heard with
    | nil => contradiction
    | cons response heard => exact faults _ response fault failed

theorem Fault.isClean_sasl {cs : List Char} (each : cs.all (!Text.isControl ·) = true) :
    Text.IsClean (Fault.sasl (String.ofList cs)).message :=
  (Text.IsClean.literal rfl).append (.literal each)

theorem Plain.isClean_of_message? {response : Bytes} {fault : Fault}
    (refused : message? response = .error fault) : Text.IsClean fault.message := by
  unfold message? at refused
  split at refused
  · split at refused
    · split at refused
      · obtain rfl := Except.error.inj refused
        exact Fault.isClean_sasl rfl
      · contradiction
    · obtain rfl := Except.error.inj refused
      exact Fault.isClean_sasl rfl
  · obtain rfl := Except.error.inj refused
    exact Fault.isClean_sasl rfl

theorem Plain.legible {check : CredentialCheck} (legible : check.Legible) :
    (Plain.mechanism check).Legible := by
  apply Mechanism.legible_ofStates (.literal rfl)
  intro p response fault failed
  unfold Plain.step at failed
  split at failed
  · obtain rfl := Except.error.inj failed
    exact Fault.isClean_sasl rfl
  · contradiction
  · obtain rfl := Except.error.inj failed
    exact Fault.isClean_sasl rfl
  · simp only [judge, CredentialCheck.ask] at failed
    split at failed
    · rename_i refused
      obtain rfl := Except.error.inj failed
      exact isClean_of_message? refused
    · split at failed
      · rename_i asked
        obtain rfl := Except.error.inj failed
        exact legible _ _ _ _ asked
      · contradiction
      · contradiction

theorem Login.legible {check : CredentialCheck} (legible : check.Legible) :
    (Login.mechanism check).Legible := by
  apply Mechanism.legible_ofStates (.literal rfl)
  intro l response fault failed
  unfold Login.step at failed
  split at failed
  · split at failed
    · contradiction
    · obtain rfl := Except.error.inj failed
      exact Fault.isClean_sasl rfl
  · split at failed
    · contradiction
    · obtain rfl := Except.error.inj failed
      exact Fault.isClean_sasl rfl
  · simp only [judge, CredentialCheck.ask] at failed
    split at failed
    · rename_i asked
      obtain rfl := Except.error.inj failed
      exact legible _ _ _ _ asked
    · contradiction
    · contradiction
  · obtain rfl := Except.error.inj failed
    exact Fault.isClean_sasl rfl

theorem Factory.Legible.create {factory : Factory} (legible : factory.Legible)
    (past : List Event) : (factory.create past).Legible := by
  cases legible with
  | plain legible => exact Plain.legible legible
  | login legible => exact Login.legible legible
  | foreign legible => exact legible past

/-- Whether the records among some events are clean and stand behind a prefix. -/
def LogPrefix.Heads (p : LogPrefix) (events : List Event) : Prop := ∀ level text,
  .log level text ∈ events → Text.IsClean text ∧ ∃ rest, text = p.text ++ " " ++ rest

namespace LogPrefix.Heads

variable {p : LogPrefix} {events more : List Event}

theorem nil : p.Heads [] := nofun

theorem append (later : p.Heads more) (earlier : p.Heads events) : p.Heads (more ++ events) := by
  intro level text member
  exact (List.mem_append.mp member).elim (later level text) (earlier level text)

theorem other {event : Event} (unlogged : event.isLog = false) : p.Heads [event] := by
  intro level text member
  rw [← List.mem_singleton.mp member] at unlogged
  contradiction

theorem record {peer text : String} (sound : p.Sound peer) (clean : Text.IsClean text)
    (level : Level) : p.Heads [.log level (p.text ++ " " ++ text)] := by
  intro level text member
  obtain ⟨rfl, rfl⟩ := Event.log.inj (List.mem_singleton.mp member)
  exact ⟨(sound.isClean_text.append (.literal rfl)).append clean, _, rfl⟩

end LogPrefix.Heads

namespace Session

/-- A session with the log prefix of a dialog, which keeps nothing that is not legible. -/
structure Legible (peer : String) (s : Session κ) : Prop where
  logPrefix : s.logPrefix.Sound peer
  state : Text.IsClean s.state.name
  mail : ∀ mail ∈ s.mail, mail.behaviour.Legible
  fault : ∀ reply ∈ s.read? Value.reply? .contentFault, Text.IsClean reply.text
  exchange : ∀ e ∈ s.read? Value.exchange? .exchange, e.mechanism.Legible

/-- What is logged on the way from one session to the other stands behind their common prefix. -/
structure Steady (peer : String) (s t : Session κ) : Prop where
  logPrefix : t.logPrefix = s.logPrefix
  journal : ∃ more, t.journal = more ++ s.journal ∧ s.logPrefix.Heads more
  legible : t.Legible peer

/-- On the way the prefix may change, once. -/
inductive Notes (peer : String) (s : Session κ) : Session κ → Prop
  | steady {t : Session κ} (steady : s.Steady peer t) : Notes peer s t
  | renamed {t u : Session κ} (before : s.Steady peer t) (p : LogPrefix)
      (after : { t with logPrefix := p }.Steady peer u) : Notes peer s u

variable {peer : String} {s t u : Session κ}

theorem Legible.same (legible : s.Legible peer) (logPrefix : t.logPrefix = s.logPrefix)
    (state : t.state = s.state) (mail : t.mail = s.mail) (properties : t.properties = s.properties) :
    t.Legible peer where
  logPrefix := logPrefix ▸ legible.logPrefix
  state := state ▸ legible.state
  mail := mail ▸ legible.mail
  fault := by
    rw [read?, properties]
    exact legible.fault
  exchange := by
    rw [read?, properties]
    exact legible.exchange

theorem read?_setProperty {α : Type} (as : Value → Option α) (k l : Key) (v : Value)
    (s : Session κ) : (s.setProperty k v).read? as l = if k = l then as v else s.read? as l := by
  simp only [read?, setProperty, Properties.read?, get?_insert]
  split <;> rfl

theorem read?_clearProperty {α : Type} (as : Value → Option α) (k l : Key) (s : Session κ) :
    (s.clearProperty k).read? as l = if k = l then none else s.read? as l := by
  simp only [read?, clearProperty, Properties.read?, get?_erase]
  split <;> rfl

namespace Steady

theorem refl (legible : s.Legible peer) : s.Steady peer s :=
  ⟨rfl, ⟨[], rfl, .nil⟩, legible⟩

theorem trans (h : s.Steady peer t) (k : t.Steady peer u) : s.Steady peer u := by
  obtain ⟨earlier, before, heads⟩ := h.journal
  obtain ⟨later, after, heads'⟩ := k.journal
  rw [h.logPrefix] at heads'
  refine ⟨k.logPrefix.trans h.logPrefix, ⟨later ++ earlier, ?_, heads'.append heads⟩, k.legible⟩
  rw [after, before, List.append_assoc]

theorem same (h : s.Steady peer t) (logPrefix : u.logPrefix = t.logPrefix)
    (journal : u.journal = t.journal) (state : u.state = t.state) (mail : u.mail = t.mail)
    (properties : u.properties = t.properties) : s.Steady peer u :=
  h.trans ⟨logPrefix, ⟨[], journal, .nil⟩, h.legible.same logPrefix state mail properties⟩

theorem keep (h : s.Steady peer t) (logPrefix : u.logPrefix = t.logPrefix)
    (journal : u.journal = t.journal) (legible : u.Legible peer) : s.Steady peer u :=
  h.trans ⟨logPrefix, ⟨[], journal, .nil⟩, legible⟩

theorem record (h : s.Steady peer t) {event : Event} (unlogged : event.isLog = false) :
    s.Steady peer (t.record event) :=
  h.trans ⟨rfl, ⟨[event], rfl, .other unlogged⟩, h.legible.same rfl rfl rfl rfl⟩

theorem log (h : s.Steady peer t) {text : String} (clean : Text.IsClean text) (level : Level) :
    s.Steady peer (t.log level text) :=
  h.trans ⟨rfl, ⟨[_], rfl, .record h.legible.logPrefix clean level⟩, h.legible.same rfl rfl rfl rfl⟩

theorem logInfoIf (h : s.Steady peer t) {text : String} (clean : Text.IsClean text)
    (condition : Bool) : s.Steady peer (t.logInfoIf condition text) := by
  cases condition with
  | true => exact h.log clean .info
  | false => exact h

theorem moveTo (h : s.Steady peer t) {next : State} (clean : Text.IsClean next.name) :
    s.Steady peer (t.moveTo next) := by
  rw [Session.moveTo]
  split
  · exact h
  · have text : Text.IsClean ("State " ++ t.state.name ++ " => " ++ next.name) :=
      (((Text.IsClean.literal rfl).append h.legible.state).append (.literal rfl)).append clean
    have logged := h.log text .debug
    exact logged.keep rfl rfl { logged.legible with state := clean }

theorem install (h : s.Steady peer t) (place : Place) (consumer : Consumer κ) :
    s.Steady peer (t.install place consumer) :=
  h.same rfl rfl rfl rfl rfl

theorem uninstall (h : s.Steady peer t) (place : Place) : s.Steady peer (t.uninstall place) :=
  h.same rfl rfl rfl rfl rfl

theorem setProperty (h : s.Steady peer t) (k : Key) (v : Value)
    (other : k ≠ .contentFault ∧ k ≠ .exchange) : s.Steady peer (t.setProperty k v) := by
  refine h.keep rfl rfl { h.legible with fault := ?_, exchange := ?_ }
  · rw [read?_setProperty, if_neg other.1]
    exact h.legible.fault
  · rw [read?_setProperty, if_neg other.2]
    exact h.legible.exchange

theorem setFault (h : s.Steady peer t) {reply : Reply} (clean : Text.IsClean reply.text) :
    s.Steady peer (t.setProperty .contentFault (.reply reply)) := by
  refine h.keep rfl rfl { h.legible with fault := ?_, exchange := ?_ }
  · rw [read?_setProperty, if_pos rfl]
    rintro _ ⟨⟩
    exact clean
  · rw [read?_setProperty, if_neg (by decide)]
    exact h.legible.exchange

theorem setExchange (h : s.Steady peer t) {e : Exchange} (legible : e.mechanism.Legible) :
    s.Steady peer (t.setProperty .exchange (.exchange e)) := by
  refine h.keep rfl rfl { h.legible with fault := ?_, exchange := ?_ }
  · rw [read?_setProperty, if_neg (by decide)]
    exact h.legible.fault
  · rw [read?_setProperty, if_pos rfl]
    rintro _ ⟨⟩
    exact legible

theorem clearProperty (h : s.Steady peer t) (k : Key) : s.Steady peer (t.clearProperty k) := by
  have kept {α : Type} (as : Value → Option α) {l : Key} {value : α}
      (found : value ∈ (t.clearProperty k).read? as l) : value ∈ t.read? as l := by
    rw [read?_clearProperty] at found
    split at found
    · contradiction
    · exact found
  exact h.keep rfl rfl { h.legible with
    fault := fun reply found => h.legible.fault reply (kept _ found)
    exchange := fun e found => h.legible.exchange e (kept _ found) }

theorem failTransfer (h : s.Steady peer t) {reply : Reply} (clean : Text.IsClean reply.text) :
    s.Steady peer (t.failTransfer reply) := by
  rw [Session.failTransfer]
  split
  · exact h.setFault clean
  · exact h

theorem withMail (h : s.Steady peer t) {mail : Option MailObject}
    (legible : ∀ m ∈ mail, m.behaviour.Legible) : s.Steady peer { t with mail := mail } :=
  h.keep rfl rfl { h.legible with mail := legible }

theorem closeMail (h : s.Steady peer t) : s.Steady peer t.closeMail := by
  unfold Session.closeMail
  split
  · exact h
  · exact (h.record rfl).withMail nofun

theorem adoptMail (h : s.Steady peer t) {mail : MailObject} (legible : mail.behaviour.Legible) :
    s.Steady peer (t.adoptMail mail) := by
  apply h.closeMail.withMail
  rintro kept ⟨⟩
  exact legible

theorem takeExchange (h : s.Steady peer t) : s.Steady peer t.takeExchange.2 :=
  h.clearProperty .exchange

theorem abandonExchange (h : s.Steady peer t) : s.Steady peer t.abandonExchange := by
  rw [Session.abandonExchange]
  have taken := h.takeExchange
  generalize t.takeExchange = held at taken ⊢
  obtain ⟨e | e, u⟩ := held
  · exact taken.uninstall .responses
  · exact (taken.record rfl).uninstall .responses

theorem connectionLost (h : s.Steady peer t) : s.Steady peer t.connectionLost :=
  (h.logInfoIf (.literal rfl) t.hasMail).closeMail.abandonExchange

theorem callMail (h : s.Steady peer t) (call : MailCall) :
    (∀ answer ∈ (t.callMail call).1, IsCleanAnswer answer) ∧
      s.Steady peer (t.callMail call).2 := by
  cases held : t.mail with
  | none =>
    rw [Session.callMail, held]
    refine ⟨fun answer given => ?_, h⟩
    simp at given
  | some mail =>
    have legible := h.legible.mail mail held
    rw [callMail_of_some held]
    constructor
    · rintro _ ⟨⟩
      exact legible _ _
    · apply (h.record rfl).withMail
      rintro _ ⟨⟩
      exact legible

theorem completeMail (h : s.Steady peer t) :
    IsCleanAnswer t.completeMail.1 ∧ s.Steady peer t.completeMail.2 := by
  rw [Session.completeMail]
  cases held : t.mail with
  | none => exact ⟨(Text.IsClean.literal rfl).append (.literal rfl), h⟩
  | some mail =>
    exact ⟨h.legible.mail mail held _ _, ((h.record rfl).record rfl).withMail nofun⟩

theorem rename (h : s.Steady peer t) {p : LogPrefix} (sound : p.Sound peer) :
    { t with logPrefix := p }.Steady peer { t with logPrefix := p } :=
  .refl { h.legible with logPrefix := sound }

end Steady

namespace Notes

theorem andThen (h : s.Notes peer t) (k : t.Legible peer → t.Steady peer u) : s.Notes peer u := by
  cases h with
  | steady before => exact .steady (before.trans (k before.legible))
  | renamed before p after => exact .renamed before p (after.trans (k after.legible))

theorem legible (h : s.Notes peer t) : t.Legible peer := by
  cases h with
  | steady before => exact before.legible
  | renamed before p after => exact after.legible

/-- The prefix did not change if it is the same in the end. -/
theorem steady_of_same (h : s.Notes peer t) (same : t.logPrefix = s.logPrefix) :
    s.Steady peer t := by
  cases h with
  | steady before => exact before
  | @renamed u t before p after =>
    obtain rfl : p = u.logPrefix := by rw [before.logPrefix, ← same, after.logPrefix]
    exact before.trans after

/-- What is logged on the way stands behind the first prefix or behind the last one. -/
theorem behind (h : s.Notes peer t) : ∃ more, t.journal = more ++ s.journal ∧
    ∀ level text, .log level text ∈ more → Text.IsClean text ∧
      ∃ p, (p = s.logPrefix ∨ p = t.logPrefix) ∧ ∃ rest, text = p.text ++ " " ++ rest := by
  cases h with
  | steady before =>
    obtain ⟨more, journal, heads⟩ := before.journal
    refine ⟨more, journal, fun level text member => ?_⟩
    obtain ⟨clean, behind⟩ := heads level text member
    exact ⟨clean, _, .inl rfl, behind⟩
  | renamed before p after =>
    obtain ⟨earlier, first, heads⟩ := before.journal
    obtain ⟨later, second, heads'⟩ := after.journal
    refine ⟨later ++ earlier, ?_, fun level text member => ?_⟩
    · rw [second, first, List.append_assoc]
    · rcases List.mem_append.mp member with last | member
      · obtain ⟨clean, behind⟩ := heads' level text last
        exact ⟨clean, p, .inr after.logPrefix.symm, behind⟩
      · obtain ⟨clean, behind⟩ := heads level text member
        exact ⟨clean, _, .inl rfl, behind⟩

end Notes

end Session

end SmtpDialog
