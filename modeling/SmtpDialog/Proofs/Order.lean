/- digest: In every run the state tells what the session holds, and no branch for the rest is met. -/
import SmtpDialog.Proofs.Run

/-!
State, mail object, properties and chain are four stores that handlers write one by one. In every
run each of them can be told from the state: `Session.InOrder` says how. Some branches are there for
sessions in which a store is missing; `Session.Supplied` says that none of them is met.
-/

set_option autoImplicit false
set_option relaxedAutoImplicit false

namespace SmtpDialog

open Command

variable {κ : Type}

namespace Session

/-- What a session holds is what its state tells. -/
structure InOrder (s : Session κ) : Prop where
  mail : s.mail.isSome = true ↔
    s.state = .afterMail ∨ s.state = .afterRcpt ∨ s.state = .readingData
  content : s.consumers.contains Place.content.name = true ↔ s.state = .readingData
  contentFirst : s.state = .readingData →
    s.consumers.entries.head? = some (Place.content.name, .content)
  size : s.state = .readingData → ∃ n, s.properties.get? Key.contentSize.name = some (.word n)
  fault : s.hasProperty .contentFault = true → s.state = .readingData
  responses : s.consumers.contains Place.responses.name = true ↔
    ∃ e, s.properties.get? Key.exchange.name = some (.exchange e)
  responsesFirst : s.consumers.contains Place.responses.name = true →
    s.consumers.entries.head? = some (Place.responses.name, .responses)
  exchange : s.consumers.contains Place.responses.name = true →
    (s.state = .connected ∨ s.state = .afterEhlo) ∧ s.hasProperty .identity = false
  recipients : s.state = .afterRcpt ∨ s.state = .readingData → 1 ≤ recipientCount s

/-- Where a handler or consumer needs a mail object or an exchange, there is one. The sessions here
are those at which RCPT, DATA, a line of content, the dot and a response look for it. -/
structure Supplied (s : Session κ) : Prop where
  recipient : s.state.inTransaction = true →
    ∀ path parameters, (s.callMail (.rcptTo path parameters)).1 ≠ none
  preparation : s.state = .afterRcpt →
    ((((s.clearProperty .contentFault).setProperty .contentSize (.word 0)).install .content
      .content).callMail .prepare).1 ≠ none
  writing : s.state = .readingData →
    ∀ content, ((countContent content.length s).2.callMail (.writeLine content)).1 ≠ none
  completion : s.state = .readingData →
    (((s.uninstall .content).clearProperty .contentSize).clearProperty .contentFault).mail ≠ none
  response : s.consumers.contains Place.responses.name = true → s.takeExchange.1 ≠ none

namespace Fits

variable {s : Session κ}

theorem contains_responses (fits : s.Fits s.state) :
    s.consumers.contains Place.responses.name = s.hasProperty .exchange := by
  rw [fits.consumers, transient]
  by_cases receiving : s.state = .readingData
  · have idle := fits.get?_exchange (by rw [receiving]; rfl)
    simp [receiving, Chain.contains, hasProperty, Table.contains, idle, Place.name]
  · rw [if_neg receiving]
    cases s.hasProperty .exchange <;> simp [Chain.contains, Place.name]

theorem toInOrder (fits : s.Fits s.state) : s.InOrder where
  mail := by
    rw [fits.mail]
    cases s.state <;> simp [State.holdsMail]
  content := by simp [fits.chain_contains_content]
  contentFirst receiving := by rw [fits.consumers_of_readingData receiving]; rfl
  size := fits.size
  fault := by
    intro failed
    obtain ⟨v, found⟩ := Option.isSome_iff_exists.mp failed
    exact (fits.fault v found).2
  responses := by
    rw [fits.contains_responses]
    constructor
    · intro pending
      obtain ⟨v, found⟩ := Option.isSome_iff_exists.mp pending
      obtain ⟨⟨e, rfl⟩, -⟩ := fits.exchange v found
      exact ⟨e, found⟩
    · rintro ⟨e, found⟩
      simp [hasProperty, Table.contains, found]
  responsesFirst pending := by
    rw [fits.contains_responses] at pending
    obtain ⟨v, found⟩ := Option.isSome_iff_exists.mp pending
    obtain ⟨⟨e, rfl⟩, -⟩ := fits.exchange v found
    rw [fits.consumers_of_exchange found]
    rfl
  exchange pending := by
    rw [fits.contains_responses] at pending
    obtain ⟨v, found⟩ := Option.isSome_iff_exists.mp pending
    obtain ⟨-, between, anonymous⟩ := fits.exchange v found
    refine ⟨?_, by simp [hasProperty, Table.contains, anonymous]⟩
    cases h : s.state <;> simp_all [betweenTransactions]
  recipients reached := by
    obtain ⟨n, found⟩ := fits.count reached
    simp [recipientCount, read?, Properties.read?, found, Value.count?]

private theorem mail_ne_none (fits : s.Fits s.state) (holds : s.state.holdsMail = true) :
    s.mail ≠ none := by
  exact Option.ne_none_iff_exists'.mpr (fits.exists_mail holds)

private theorem callMail_ne_none {t : Session κ} (present : t.mail ≠ none) (c : MailCall) :
    (t.callMail c).1 ≠ none := by
  obtain ⟨mail, holds⟩ := Option.ne_none_iff_exists'.mp present
  simp [callMail_of_some holds]

theorem supplied (fits : s.Fits s.state) : s.Supplied where
  recipient valid path parameters :=
    callMail_ne_none (fits.mail_ne_none (State.holdsMail_of_inTransaction valid)) _
  preparation ready := by
    have present := fits.mail_ne_none (by rw [ready]; rfl)
    exact callMail_ne_none (by exact present) _
  writing receiving content := by
    have present := fits.mail_ne_none (by rw [receiving]; rfl)
    exact callMail_ne_none (by exact present) _
  completion receiving := fits.mail_ne_none (by rw [receiving]; rfl)
  response pending := by
    obtain ⟨e, found⟩ := fits.toInOrder.responses.mp pending
    simp [takeExchange, read?, Properties.read?, found, Value.exchange?]

end Fits

end Session

namespace Server.Run

variable {config : Config} {newMail : Session κ → MailBehaviour} {custom : κ → Hook κ}
  {features : List Feature} {peer : String} {past : List (Passage κ)} {s : Session κ}

/-- In every run the session is in order, and nothing is missing where it is needed. -/
theorem inOrder (run : Run (ofFeatures config newMail custom features) peer past s) :
    s.InOrder ∧ s.Supplied :=
  ⟨run.fits.toInOrder, run.fits.supplied⟩

theorem inOrder_within_message :
    let s := ((accepting {} [.size]).replay "client.example" [.connect,
      .line (.ofText "EHLO client.example"), .line (.ofText "MAIL FROM:<a@client.example>"),
      .line (.ofText "RCPT TO:<b@server.example>"), .line (.ofText "DATA")]).2
    s.state = .readingData ∧ s.InOrder ∧ s.Supplied :=
  ⟨by decide +kernel, inOrder (run_replay _ _ _ (by decide +kernel))⟩

end Server.Run

end SmtpDialog
