/- digest: Every effect of a line leaves the stores of a session in step with its state. -/
import SmtpDialog.Proofs.Step

set_option autoImplicit false
set_option relaxedAutoImplicit false

namespace SmtpDialog

open Command

variable {κ : Type}

namespace Session.Fits

variable {state next : State} {s t : Session κ}

theorem quiet_of (p : State → Bool) (h : p state = true) (off : p .readingData = false) :
    state ≠ .readingData := by
  rintro rfl
  rw [off] at h
  contradiction

theorem get?_fault (fits : s.Fits state) (quiet : state ≠ .readingData) :
    s.properties.get? Key.contentFault.name = none := by
  cases found : s.properties.get? Key.contentFault.name with
  | none => rfl
  | some v => exact absurd (fits.fault v found).2 quiet

theorem same (fits : s.Fits state) (mail : t.mail.isSome = s.mail.isSome)
    (consumers : t.consumers = s.consumers) (properties : t.properties = s.properties) :
    t.Fits state where
  mail := mail.trans fits.mail
  consumers := by
    rw [consumers, fits.consumers, transient, transient, hasProperty, hasProperty, properties]
  exchange := by rw [properties]; exact fits.exchange
  size := by rw [properties]; exact fits.size
  fault := by rw [properties]; exact fits.fault
  count := by rw [properties]; exact fits.count

theorem idle (quiet : next ≠ .readingData) (mail : t.mail.isSome = next.holdsMail)
    (consumers : t.consumers = ⟨[(Place.dispatch.name, .dispatch)]⟩)
    (exchange : t.properties.get? Key.exchange.name = none)
    (fault : t.properties.get? Key.contentFault.name = none)
    (count : next = .afterRcpt →
      ∃ n, t.properties.get? Key.recipientCount.name = some (.count (n + 1))) :
    t.Fits next where
  mail := mail
  consumers := by
    rw [consumers, transient, if_neg quiet]
    simp [hasProperty, Table.contains, exchange]
  exchange := by simp [exchange]
  size h := absurd h quiet
  fault := by simp [fault]
  count h := count (h.resolve_right quiet)

private theorem receiving (mail : t.mail.isSome = true)
    (consumers : t.consumers =
      ⟨[(Place.content.name, .content), (Place.dispatch.name, .dispatch)]⟩)
    (exchange : t.properties.get? Key.exchange.name = none)
    (size : ∃ n, t.properties.get? Key.contentSize.name = some (.word n))
    (fault : ∀ v, t.properties.get? Key.contentFault.name = some v → ∃ r, v = .reply r)
    (count : ∃ n, t.properties.get? Key.recipientCount.name = some (.count (n + 1))) :
    t.Fits .readingData where
  mail := mail
  consumers := by rw [consumers, transient, if_pos rfl]; rfl
  exchange := by simp [exchange]
  size _ := size
  fault v h := ⟨fault v h, rfl⟩
  count _ := count

private theorem between (fits : s.Fits state) (quiet : state ≠ .readingData)
    (awake : betweenTransactions next = true) (mail : t.mail = none)
    (consumers : t.consumers = s.consumers)
    (same : ∀ k : Key, k ≠ .heloDomain → k ≠ .recipientCount →
      t.properties.get? k.name = s.properties.get? k.name) :
    t.Fits next where
  mail := by rw [mail, State.holdsMail_of_between awake]; rfl
  consumers := by
    have exchange : t.hasProperty .exchange = s.hasProperty .exchange :=
      congrArg Option.isSome (same .exchange (by decide) (by decide))
    rw [consumers, fits.consumers, transient, transient, if_neg quiet,
      if_neg (quiet_of _ awake rfl), exchange]
  exchange v h := by
    rw [same .exchange (by decide) (by decide)] at h
    obtain ⟨held, -, anonymous⟩ := fits.exchange v h
    exact ⟨held, awake, (same .identity (by decide) (by decide)).trans anonymous⟩
  size h := absurd h (quiet_of _ awake rfl)
  fault v h := by
    rw [same .contentFault (by decide) (by decide), fits.get?_fault quiet] at h
    contradiction
  count h := by
    rcases h with rfl | rfl <;> contradiction

private theorem name_ne {place : Place} (front : place ≠ .dispatch) :
    Place.dispatch.name ≠ place.name := by
  cases place with
  | dispatch => contradiction
  | content | responses => simp [Place.name]

private theorem erase_of_alone {place : Place} (front : place ≠ .dispatch) :
    (⟨[(Place.dispatch.name, .dispatch)]⟩ : Chain (Consumer κ)).erase place.name =
      ⟨[(Place.dispatch.name, .dispatch)]⟩ := by
  simp [Chain.erase, name_ne front]

private theorem erase_front {place : Place} (front : place ≠ .dispatch) (consumer : Consumer κ) :
    (⟨[(place.name, consumer), (Place.dispatch.name, .dispatch)]⟩ :
      Chain (Consumer κ)).erase place.name = ⟨[(Place.dispatch.name, .dispatch)]⟩ := by
  simp [Chain.erase, name_ne front]

private theorem insert_front {place : Place} (front : place ≠ .dispatch) (consumer : Consumer κ) :
    (⟨[(Place.dispatch.name, .dispatch)]⟩ : Chain (Consumer κ)).insert place.name consumer =
      ⟨[(place.name, consumer), (Place.dispatch.name, .dispatch)]⟩ := by
  rw [Chain.insert, erase_of_alone front]

theorem erase_responses_of_between (fits : s.Fits state)
    (quiet : state ≠ .readingData) :
    s.consumers.erase Place.responses.name = ⟨[(Place.dispatch.name, .dispatch)]⟩ := by
  cases found : s.properties.get? Key.exchange.name with
  | none => rw [fits.consumers_of_idle quiet found, erase_of_alone (by decide)]
  | some v =>
    obtain ⟨⟨e, rfl⟩, -⟩ := fits.exchange v found
    rw [fits.consumers_of_exchange found, erase_front (by decide)]

/-- What a session is while a line takes an exchange further. -/
private structure Between (s t : Session κ) : Prop where
  state : t.state = s.state
  between : betweenTransactions s.state = true
  mail : t.mail = none
  consumers : t.consumers.erase Place.responses.name = ⟨[(Place.dispatch.name, .dispatch)]⟩
  exchange : t.properties.get? Key.exchange.name = none
  fault : t.properties.get? Key.contentFault.name = none
  anonymous : t.properties.get? Key.identity.name = none

private theorem between_of_pending {e : Exchange} (fits : s.Fits s.state)
    (pending : s.properties.get? Key.exchange.name = some (.exchange e)) :
    Between s { s.unlogged with properties := s.properties.erase Key.exchange.name } := by
  obtain ⟨-, between, anonymous⟩ := fits.exchange _ pending
  exact {
    state := rfl
    between := between
    mail := fits.mail_of_between between
    consumers := fits.erase_responses_of_between (quiet_of _ between rfl)
    exchange := by simp [get?_erase]
    fault := by simpa [get?_erase] using fits.get?_fault (quiet_of _ between rfl)
    anonymous := by simpa [get?_erase] using anonymous }

private theorem between_of_takes {features : List Feature} {line : Line} {e : Exchange}
    {response : Bytes} (fits : s.Fits s.state) (taken : Takes features line s e response t) :
    Between s t := by
  cases taken with
  | opened verb offered between anonymous idle words found carried =>
    exact {
      state := rfl
      between := between
      mail := fits.mail_of_between between
      consumers := fits.erase_responses_of_between (quiet_of _ between rfl)
      exchange := idle
      fault := fits.get?_fault (quiet_of _ between rfl)
      anonymous := anonymous }
  | resumed pending decoded => exact fits.between_of_pending pending

namespace Between

private theorem ended {u : Session κ} (taken : Between s t)
    (awake : betweenTransactions next = true) (mail : u.mail = t.mail)
    (consumers : u.consumers = t.consumers.erase Place.responses.name)
    (same : ∀ k : Key, k ≠ .identity → k ≠ .authcid →
      u.properties.get? k.name = t.properties.get? k.name) : u.Fits next := by
  apply idle (quiet_of _ awake rfl)
  · rw [mail, taken.mail, State.holdsMail_of_between awake]
    rfl
  · rw [consumers, taken.consumers]
  · rw [same .exchange (by decide) (by decide), taken.exchange]
  · rw [same .contentFault (by decide) (by decide), taken.fault]
  · rintro rfl
    contradiction

private theorem pending {u : Session κ} {e : Exchange} (taken : Between s t)
    (mail : u.mail = t.mail)
    (consumers : u.consumers = t.consumers.insert Place.responses.name .responses)
    (properties : u.properties = t.properties.insert Key.exchange.name (.exchange e)) :
    u.Fits s.state := by
  have quiet := quiet_of _ taken.between rfl
  have exchange : u.properties.get? Key.exchange.name = some (.exchange e) := by
    rw [properties, get?_insert, if_pos rfl]
  have other (k : Key) (h : .exchange ≠ k) :
      u.properties.get? k.name = t.properties.get? k.name := by
    rw [properties, get?_insert, if_neg h]
  exact {
    mail := by rw [mail, taken.mail, State.holdsMail_of_between taken.between]; rfl
    consumers := by
      rw [consumers, Chain.insert, taken.consumers, transient, if_neg quiet]
      simp [hasProperty, Table.contains, exchange]
    exchange := by
      rw [exchange]
      rintro v ⟨rfl⟩
      exact ⟨⟨e, rfl⟩, taken.between, (other .identity (by decide)).trans taken.anonymous⟩
    size := fun h => absurd h quiet
    fault := by
      rw [other .contentFault (by decide), taken.fault]
      simp
    count := by
      have := taken.between
      rintro (h | h) <;> rw [h] at this <;> contradiction }

end Between

theorem goesOn (fits : s.Fits state) (ongoing : state = .readingData) (mail : t.mail.isSome = true)
    (consumers : t.consumers = s.consumers)
    (size : ∃ n, t.properties.get? Key.contentSize.name = some (.word n))
    (fault : ∀ v, t.properties.get? Key.contentFault.name = some v → ∃ r, v = .reply r)
    (same : ∀ k : Key, k ≠ .contentSize → k ≠ .contentFault →
      t.properties.get? k.name = s.properties.get? k.name) :
    t.Fits state := by
  subst ongoing
  apply receiving mail
  · rw [consumers, fits.consumers_of_readingData rfl]
  · rw [same .exchange (by decide) (by decide), fits.get?_exchange rfl]
  · exact size
  · exact fault
  · rw [same .recipientCount (by decide) (by decide)]
    exact fits.count (.inr rfl)

private theorem spoiled (fits : s.Fits state) (ongoing : state = .readingData)
    (mail : t.mail.isSome = true) (consumers : t.consumers = s.consumers) {n : UInt64} {reply : Reply}
    (properties : t.properties = (s.properties.insert Key.contentSize.name (.word n)).insert
      Key.contentFault.name (.reply reply)) :
    t.Fits state := by
  apply fits.goesOn ongoing mail consumers
  · exact ⟨n, by simp [properties, get?_insert]⟩
  · rintro v found
    exact ⟨reply, by simpa [properties, get?_insert, eq_comm] using found⟩
  · intro k size fault
    simp [properties, get?_insert, size.symm, fault.symm]

private theorem ended (fits : s.Fits .readingData) (mail : t.mail = none)
    (consumers : t.consumers = s.consumers.erase Place.content.name)
    (properties : t.properties =
      (s.properties.erase Key.contentSize.name).erase Key.contentFault.name) :
    t.Fits .afterEhlo := by
  apply idle
  · simp
  · rw [mail]
    rfl
  · rw [consumers, fits.consumers_of_readingData rfl, erase_front (by decide)]
  · simpa [properties, get?_erase] using fits.get?_exchange rfl
  · simp [properties, get?_erase]
  · simp

end Session.Fits

open Session

variable {config : Config} {features : List Feature} {s t : Session κ}

@[simp] theorem Session.closeMail_mail (s : Session κ) : s.closeMail.mail = none := by
  rw [closeMail_eq]

theorem Session.closeMail_consumers (s : Session κ) : s.closeMail.consumers = s.consumers := by
  rw [closeMail_eq]

theorem Session.closeMail_properties (s : Session κ) : s.closeMail.properties = s.properties := by
  rw [closeMail_eq]

theorem Receipt.fits {line : Line} {answer : Except Fault Reply} (fits : s.Fits s.state)
    (valid : s.state = .readingData) (receipt : Receipt config line s answer t) :
    t.Fits t.state := by
  cases receipt with
  | dropped content failed => exact fits.same rfl rfl rfl
  | overflowed content sound size excess =>
    have present : s.mail.isSome = true := by simpa [valid, State.holdsMail] using fits.mail
    exact fits.spoiled valid present rfl rfl
  | written content sound size within holds asked =>
    apply fits.goesOn valid
    · rfl
    · rfl
    · exact ⟨_, by simp [get?_insert]; rfl⟩
    · simp [get?_insert, sound]
    · intro k size _
      simp [get?_insert, size.symm]
  | broken content sound size within holds asked => exact fits.spoiled valid rfl rfl rfl
  | abandoned dot failed holds =>
    rw [valid] at fits
    exact fits.ended rfl rfl rfl
  | completed dot sound holds asked =>
    rw [valid] at fits
    exact fits.ended rfl rfl rfl

theorem Effect.fits {line : Line} {answer : Except Fault Reply} (fits : s.Fits s.state)
    (effect : Effect config features line s answer t) : t.Fits t.state := by
  cases effect with
  | answered calm tls other quiet => exact fits.same rfl rfl rfl
  | greeted verb valid named code plain =>
    apply fits.between
    · exact Fits.quiet_of _ valid rfl
    · rfl
    · simp
    · simp [closeMail_consumers]
    · intro k h _
      simp [get?_insert, h.symm]
  | reset verb valid =>
    apply fits.between
    · exact Fits.quiet_of _ valid rfl
    · dsimp only
      split <;> rfl
    · simp
    · simp [closeMail_consumers]
    · simp [closeMail_properties]
  | quit verb quiet idle =>
    apply Fits.idle
    · simp
    · simp [State.holdsMail]
    · simp [closeMail_consumers, fits.consumers_of_idle quiet idle]
    · simpa [closeMail_properties] using idle
    · simpa [closeMail_properties] using fits.get?_fault quiet
    · simp
  | senderRefused verb valid asked refused =>
    apply fits.between (Fits.quiet_of (· == .afterEhlo) (by simp [valid]) rfl)
    · simp [valid, betweenTransactions]
    · exact fits.mail_of_between (by simp [valid, betweenTransactions])
    · rfl
    · intro k _ h
      simp [get?_erase, h.symm]
  | senderAccepted verb valid idle asked accepted =>
    apply Fits.idle
    · simp
    · rfl
    · exact fits.consumers_of_idle (by simp [valid]) idle
    · simpa [get?_erase] using idle
    · simpa [get?_erase] using fits.get?_fault (by simp [valid])
    · simp
  | recipientRefused verb valid holds asked refused => exact fits.same (by simp [holds]) rfl rfl
  | recipientAccepted verb valid room holds asked accepted =>
    have quiet : s.state ≠ .readingData := Fits.quiet_of _ valid rfl
    have busy : betweenTransactions s.state = false := by
      cases h : s.state <;> simp_all [State.inTransaction, betweenTransactions]
    apply Fits.idle
    · simp
    · rfl
    · exact fits.consumers_of_idle quiet (fits.get?_exchange busy)
    · simpa [get?_insert] using fits.get?_exchange busy
    · simpa [get?_insert] using fits.get?_fault quiet
    · exact fun _ => ⟨_, by simp [get?_insert]; rfl⟩
  | contentRefused verb valid holds asked =>
    apply Fits.idle
    · simp
    · rfl
    · exact fits.consumers_of_idle (by simp [valid]) (fits.get?_exchange (by rw [valid]; rfl))
    · simpa [get?_erase] using fits.get?_exchange (by rw [valid]; rfl)
    · simp [get?_erase]
    · simp
  | contentBegun verb valid holds asked =>
    have idle := fits.get?_exchange (by rw [valid]; rfl)
    apply Fits.receiving
    · rfl
    · rw [fits.consumers_of_idle (by simp [valid]) idle]
      exact Fits.insert_front (by decide) _
    · simpa [get?_insert, get?_erase] using idle
    · exact ⟨0, by simp [get?_insert]⟩
    · simp [get?_insert, get?_erase]
    · simpa [get?_insert, get?_erase] using fits.count (.inl valid)
  | received valid receipt => exact receipt.fits fits valid
  | challenged taken asked unfinished =>
    have between := fits.between_of_takes taken
    exact between.state ▸ between.pending rfl rfl rfl
  | exchangeFailed taken asked =>
    have between := fits.between_of_takes taken
    exact between.ended (between.state ▸ between.between) rfl rfl (fun _ _ _ => rfl)
  | denied taken asked finished nobody =>
    have between := fits.between_of_takes taken
    exact between.ended (between.state ▸ between.between) rfl rfl (fun _ _ _ => rfl)
  | authenticated taken asked finished somebody =>
    apply Fits.Between.ended (fits.between_of_takes taken)
    · rfl
    · rfl
    · rfl
    intro k identity authcid
    cases (Exchange.reaction _ _).authcid? <;>
      simp [get?_insert, identity.symm, authcid.symm]
  | cancelled pending star =>
    exact (fits.between_of_pending pending).ended rfl rfl rfl (fun _ _ _ => rfl)
  | undecodable pending encoded =>
    have between := fits.between_of_pending pending
    exact between.ended between.between rfl rfl (fun _ _ _ => rfl)

private theorem never {reply : Reply} (invites : invitesTls (.ok reply) = true)
    (plain : reply.isStartTls = false) : False := by
  simp [invitesTls, plain] at invites

theorem Receipt.quiet {line : Line} {answer : Except Fault Reply}
    (receipt : Receipt config line s answer t) (invites : invitesTls answer = true) :
    t.state ≠ .readingData := by
  cases receipt with
  | dropped | overflowed | written | broken => exact (never invites rfl).elim
  | abandoned | completed => simp

theorem Effect.quiet {line : Line} {answer : Except Fault Reply}
    (effect : Effect config features line s answer t) (invites : invitesTls answer = true) :
    t.state ≠ .readingData := by
  cases effect with
  | answered calm tls other quiet => exact Fits.quiet_of _ (tls invites) rfl
  | greeted verb valid named code plain => exact (never invites plain).elim
  | reset | quit | contentBegun | challenged | exchangeFailed | denied | undecodable =>
    exact (never invites rfl).elim
  | senderRefused verb valid => simp [valid]
  | recipientRefused verb valid => exact Fits.quiet_of _ valid rfl
  | senderAccepted | recipientAccepted | contentRefused | authenticated | cancelled => simp
  | received valid receipt => exact receipt.quiet invites

theorem Effect.tls {line : Line} {answer : Except Fault Reply}
    (effect : Effect config features line s answer t) : t.tls = s.tls := by
  cases effect with
  | received valid receipt => cases receipt <;> rfl
  | greeted | reset | quit => simp [closeMail_eq]
  | challenged taken | exchangeFailed taken | denied taken | authenticated taken =>
    cases taken <;> rfl
  | _ => rfl

end SmtpDialog
