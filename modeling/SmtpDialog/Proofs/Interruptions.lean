/- digest: Interrupted reads, and where they show. -/
import SmtpDialog.Proofs.Lockstep

/-!
While a line is gathered, an interrupted read is tried again; while the rest of a line that is too long
is skipped, it ends the connection. `Inbox.Trips` says of an inbox that an interruption comes behind a
full line that has not ended, and `Server.Stumbles` that a connection gets to such an inbox. Where none
does, it is served as if the reads had never been interrupted.
-/

set_option autoImplicit false
set_option relaxedAutoImplicit false

namespace SmtpDialog

namespace Arrival

def isInterruption : Arrival → Bool
  | .fault .interrupted => true
  | _ => false

def content : Arrival → Bytes
  | .bytes bs => bs
  | .fault _ => []

/-- Whether reading may go on behind a read: it gave something or was interrupted. -/
def goesOn : Arrival → Bool
  | .bytes bs => !bs.isEmpty
  | .fault cause => cause == .interrupted

end Arrival

namespace Inbox

def calm (arrivals : List Arrival) : List Arrival := arrivals.filter (!·.isInterruption)

def calmed (inbox : Inbox) : Inbox := { inbox with arrivals := calm inbox.arrivals }

/-- Whether an interruption comes behind `limit` bytes of a line, its line feed still to come. -/
def Trips (limit : Nat) (inbox : Inbox) : Prop :=
  ∃ before after, inbox.arrivals = before ++ .fault .interrupted :: after ∧
    before.all Arrival.goesOn = true ∧ 10 ∉ inbox.buffer ++ before.flatMap Arrival.content ∧
    limit ≤ (inbox.buffer ++ before.flatMap Arrival.content).length

variable {limit : Nat} {buffer : Bytes}

theorem gather_cons (short : ¬Suffices limit (cutLine limit buffer).1) {arrival : Arrival}
    (on : arrival.goesOn = true) (rest : List Arrival) :
    gather limit buffer (arrival :: rest) = gather limit (buffer ++ arrival.content) rest := by
  rw [gather_append short, gather_of_not_suffices short]
  rcases arrival with (_ | ⟨b, bs⟩) | cause
  · cases on
  · rfl
  · obtain rfl : cause = .interrupted := beq_iff_eq.mp on
    rfl

theorem gather_calm (limit : Nat) (buffer : Bytes) (arrivals : List Arrival) :
    gather limit buffer (calm arrivals) =
      ((gather limit buffer arrivals).1, (gather limit buffer arrivals).2.calmed) := by
  induction arrivals generalizing buffer with
  | nil =>
    by_cases done : Suffices limit (cutLine limit buffer).1
    · rw [gather_of_suffices done, gather_of_suffices done]
      rfl
    · rw [gather_of_not_suffices done, gather_of_not_suffices done]
      rfl
  | cons arrival rest ih =>
    by_cases done : Suffices limit (cutLine limit buffer).1
    · rw [gather_of_suffices done, gather_of_suffices done]
      rfl
    · rcases arrival with (_ | ⟨b, bs⟩) | cause
      · rw [gather_of_not_suffices done, gather_of_not_suffices done]
        rfl
      · have kept : calm (.bytes (b :: bs) :: rest) = .bytes (b :: bs) :: calm rest := rfl
        rw [kept, gather_cons done rfl, gather_cons done rfl, ih]
      · cases cause with
        | interrupted =>
          have dropped : calm (.fault .interrupted :: rest) = calm rest := rfl
          have nothing : buffer ++ Arrival.content (.fault .interrupted) = buffer :=
            List.append_nil buffer
          rw [dropped, gather_cons done rfl, nothing, ih]
        | _ =>
          rw [gather_of_not_suffices done, gather_of_not_suffices done]
          rfl

theorem skip_calm {arrivals : List Arrival}
    (unharmed : (skip buffer arrivals).1 ≠ .error .interrupted) :
    skip buffer (calm arrivals) =
      ((skip buffer arrivals).1, (skip buffer arrivals).2.calmed) := by
  induction arrivals generalizing buffer with
  | nil =>
    cases found : afterLine buffer with
    | some left =>
      rw [skip_of_some found, skip_of_some found]
      rfl
    | none =>
      rw [skip_of_unended found, skip_of_unended found]
      rfl
  | cons arrival rest ih =>
    cases found : afterLine buffer with
    | some left =>
      rw [skip_of_some found, skip_of_some found]
      rfl
    | none =>
      rw [skip_of_unended found] at unharmed ⊢
      rw [skip_of_unended found]
      rcases arrival with (_ | ⟨b, bs⟩) | cause
      · rfl
      · exact ih unharmed
      · cases cause with
        | interrupted => exact absurd rfl unharmed
        | _ => rfl

theorem not_trips_nil : ¬(⟨buffer, []⟩ : Inbox).Trips limit := by
  rintro ⟨before, after, split, -⟩
  simp at split

theorem not_trips_of_mem {arrivals : List Arrival} (ended : 10 ∈ buffer) :
    ¬(⟨buffer, arrivals⟩ : Inbox).Trips limit := by
  rintro ⟨before, after, -, -, unended, -⟩
  exact unended (List.mem_append_left _ ended)

theorem trips_cons {arrival : Arrival} {rest : List Arrival} :
    (⟨buffer, arrival :: rest⟩ : Inbox).Trips limit ↔
      (arrival = .fault .interrupted ∧ 10 ∉ buffer ∧ limit ≤ buffer.length) ∨
        (arrival.goesOn = true ∧ (⟨buffer ++ arrival.content, rest⟩ : Inbox).Trips limit) := by
  constructor
  · rintro ⟨before, after, split, flows, unended, full⟩
    cases before with
    | nil =>
      obtain ⟨rfl, -⟩ := List.cons_eq_cons.mp split
      exact .inl ⟨rfl, by simpa using unended, by simpa using full⟩
    | cons first before =>
      obtain ⟨rfl, rfl⟩ := List.cons_eq_cons.mp split
      obtain ⟨on, flows⟩ : arrival.goesOn = true ∧ before.all Arrival.goesOn = true := by
        simpa using flows
      rw [List.flatMap_cons, ← List.append_assoc] at unended full
      exact .inr ⟨on, before, after, rfl, flows, unended, full⟩
  · rintro (⟨rfl, unended, full⟩ | ⟨on, before, after, split, flows, unended, full⟩)
    · exact ⟨[], rest, rfl, rfl, by simpa using unended, by simpa using full⟩
    · refine ⟨arrival :: before, after, congrArg (arrival :: ·) split, ?_, ?_, ?_⟩
      · simp only [List.all_cons, on, flows, Bool.and_self]
      · rw [List.flatMap_cons, ← List.append_assoc]
        exact unended
      · rw [List.flatMap_cons, ← List.append_assoc]
        exact full

/-- What has been read of a line without its end only makes the line shorter. -/
theorem trips_append {got left : Bytes} {arrivals : List Arrival} (unended : 10 ∉ got)
    (most : limit ≤ got.length) :
    (⟨got ++ left, arrivals⟩ : Inbox).Trips limit ↔ (⟨left, arrivals⟩ : Inbox).Trips 0 := by
  constructor
  · rintro ⟨before, after, split, flows, still, -⟩
    refine ⟨before, after, split, flows, ?_, Nat.zero_le _⟩
    rw [List.append_assoc, List.mem_append] at still
    exact fun member => still (.inr member)
  · rintro ⟨before, after, split, flows, still, -⟩
    refine ⟨before, after, split, flows, ?_, ?_⟩
    · rw [List.append_assoc, List.mem_append]
      exact fun member => member.elim unended still
    · simp only [List.append_assoc, List.length_append]
      omega

theorem skip_eq_interrupted_iff {arrivals : List Arrival} :
    (skip buffer arrivals).1 = .error .interrupted ↔ (⟨buffer, arrivals⟩ : Inbox).Trips 0 := by
  induction arrivals generalizing buffer with
  | nil =>
    refine iff_of_false (fun broken => ?_) not_trips_nil
    cases found : afterLine buffer with
    | some left =>
      rw [skip_of_some found] at broken
      cases broken
    | none =>
      rw [skip_of_unended found] at broken
      cases broken
  | cons arrival rest ih =>
    cases found : afterLine buffer with
    | some left =>
      have ended : 10 ∈ buffer := by
        refine Classical.byContradiction fun absent => ?_
        rw [afterLine_eq_none_iff.mpr absent] at found
        cases found
      rw [skip_of_some found]
      exact iff_of_false (by simp) (not_trips_of_mem ended)
    | none =>
      have unended := afterLine_eq_none_iff.mp found
      rw [trips_cons, skip_of_unended found]
      rcases arrival with (_ | ⟨b, bs⟩) | cause
      · simp [Arrival.goesOn]
      · have further : (⟨buffer ++ (b :: bs), rest⟩ : Inbox).Trips 0 ↔
            (⟨b :: bs, rest⟩ : Inbox).Trips 0 := trips_append unended (Nat.zero_le _)
        simpa [Arrival.goesOn, Arrival.content, further] using ih
      · cases cause with
        | interrupted => simp [unended]
        | _ => simp [Arrival.goesOn]

private theorem next_eq_interrupted_of_suffices (positive : 0 < limit)
    (done : Suffices limit (cutLine limit buffer).1) {arrivals : List Arrival} :
    (next limit ⟨buffer, arrivals⟩).1 = .ended .interrupted ↔
      (⟨buffer, arrivals⟩ : Inbox).Trips limit := by
  have whole := cutLine_append limit buffer
  have calm := dropLast_cutLine limit buffer
  have gathered := gather_of_suffices done arrivals
  generalize cutLine limit buffer = cut at done whole calm gathered
  obtain ⟨got, left⟩ := cut
  subst whole
  cases ends : endsLine got with
  | true =>
    have ended : 10 ∈ got := List.mem_of_getLast? (eq_of_beq ends)
    simp only [next, gathered, ends]
    exact iff_of_false (by simp) (not_trips_of_mem (List.mem_append_left _ ended))
  | false =>
    have unended : 10 ∉ got := not_mem_of_dropLast calm ends
    have full : got.length = limit := done.resolve_left (by simp [ends])
    have long : ¬(got.isEmpty || decide (got.length < limit)) = true := by
      simp [List.isEmpty_iff, ← List.length_eq_zero_iff, full]
      omega
    rw [trips_append unended (Nat.le_of_eq full.symm), ← skip_eq_interrupted_iff]
    simp only [next, gathered, ends, if_neg long]
    rcases skip left arrivals with ⟨cause | ⟨⟩, after⟩ <;> simp

private theorem next_cons (short : ¬Suffices limit (cutLine limit buffer).1) {arrival : Arrival}
    (on : arrival.goesOn = true) (rest : List Arrival) :
    next limit ⟨buffer, arrival :: rest⟩ = next limit ⟨buffer ++ arrival.content, rest⟩ := by
  simp only [next, gather_cons short on]

/-- Reading a line is broken off by an interruption just where the inbox trips. -/
theorem next_eq_interrupted_iff (positive : 0 < limit) {arrivals : List Arrival} :
    (next limit ⟨buffer, arrivals⟩).1 = .ended .interrupted ↔
      (⟨buffer, arrivals⟩ : Inbox).Trips limit := by
  induction arrivals generalizing buffer with
  | nil =>
    by_cases done : Suffices limit (cutLine limit buffer).1
    · exact next_eq_interrupted_of_suffices positive done
    · obtain ⟨-, shorter, unended, -⟩ := cutLine_append_of_not_suffices done
      refine iff_of_false ?_ not_trips_nil
      simp [next, gather_of_not_suffices done, unended, shorter]
  | cons arrival rest ih =>
    by_cases done : Suffices limit (cutLine limit buffer).1
    · exact next_eq_interrupted_of_suffices positive done
    · obtain ⟨-, shorter, unended, -⟩ := cutLine_append_of_not_suffices done
      rw [trips_cons]
      cases on : arrival.goesOn with
      | true =>
        rw [next_cons done on, ih]
        simp [Nat.not_le.mpr shorter]
      | false =>
        rcases arrival with (_ | ⟨b, bs⟩) | cause
        · simp [next, gather_of_not_suffices done, unended, shorter]
        · cases on
        · cases cause with
          | interrupted => cases on
          | _ => simp [next, gather_of_not_suffices done]

/-- Unless an interruption breaks it off, reading gives the line of the calmed inbox. -/
theorem next_calmed {inbox : Inbox} (unharmed : (inbox.next limit).1 ≠ .ended .interrupted) :
    inbox.calmed.next limit = ((inbox.next limit).1, (inbox.next limit).2.calmed) := by
  have same := gather_calm limit inbox.buffer inbox.arrivals
  unfold next at unharmed ⊢
  simp only [calmed] at same ⊢
  rw [same]
  generalize gather limit inbox.buffer inbox.arrivals = gathered at unharmed ⊢
  obtain ⟨cause | got, left⟩ := gathered
  · rfl
  dsimp only at unharmed ⊢
  by_cases ends : endsLine got = true
  · simp only [if_pos ends]
  simp only [if_neg ends] at unharmed ⊢
  by_cases short : (got.isEmpty || decide (got.length < limit)) = true
  · simp only [if_pos short]
  simp only [if_neg short] at unharmed ⊢
  have skipped : (skip left.buffer left.arrivals).1 ≠ .error .interrupted := by
    intro broken
    generalize skip left.buffer left.arrivals = done at broken unharmed
    obtain ⟨cause | ⟨⟩, after⟩ := done
    · obtain rfl := Except.error.inj broken
      exact unharmed rfl
    · cases broken
  have alike := skip_calm skipped
  simp only [calmed] at alike
  rw [alike]
  rcases skip left.buffer left.arrivals with ⟨cause | ⟨⟩, after⟩ <;> rfl

theorem not_trips_calmed (inbox : Inbox) : ¬inbox.calmed.Trips limit := by
  rintro ⟨before, after, split, -⟩
  have inside : Arrival.fault .interrupted ∈ inbox.calmed.arrivals := by
    rw [split]
    simp
  have kept := (List.mem_filter.mp inside).2
  cases kept

end Inbox

def Wire.calmed (w : Wire) : Wire := { w with inbox := w.inbox.calmed }

theorem Wire.send_calmed (w : Wire) (reply : Reply) :
    w.calmed.send reply = ((w.send reply).1, (w.send reply).2.calmed) := by
  rw [calmed, send_with_inbox, calmed, send_inbox]

/-- A handshake that does not depend on interruptions of what is still to be read. -/
def TlsUpgrader.Steady (upgrade : TlsUpgrader) : Prop := ∀ w : Wire, upgrade w.calmed = upgrade w

variable {κ : Type}

def Served.calmed (served : Served κ) : Served κ := { served with wire := served.wire.calmed }

namespace Server

def Turn.calmed : Turn κ → Turn κ
  | .ended served => .ended served.calmed
  | .goesOn s w => .goesOn s w.calmed

variable {server : Server κ} {upgrader : Option TlsUpgrader} {limit : Nat} {s t s₀ : Session κ}
  {w v w₀ : Wire}

theorem answer_calmed (reply : Reply) (s : Session κ) (w : Wire) :
    answer reply s w.calmed = (answer reply s w).calmed := by
  rw [answer, answer, Wire.send_calmed]
  rcases w.send reply with ⟨fault | ⟨⟩, v⟩
  · rfl
  · dsimp only
    split <;> rfl

private theorem startTls_calmed (steady : ∀ upgrade ∈ upgrader, upgrade.Steady) (reply : Reply)
    (s : Session κ) (w : Wire) :
    startTls upgrader reply s w.calmed = (startTls upgrader reply s w).calmed := by
  cases upgrader with
  | none =>
    simp only [startTls, Wire.send_calmed]
    rfl
  | some upgrade =>
    have buffer : w.calmed.inbox.buffer = w.inbox.buffer := rfl
    simp only [startTls, buffer, Wire.send_calmed]
    split
    · rfl
    · rcases w.send reply with ⟨fault | ⟨⟩, v⟩
      · rfl
      · have begun : v.calmed.beginHandshake = v.beginHandshake.calmed := rfl
        dsimp only
        rw [begun, steady upgrade rfl]
        split <;> rfl

private theorem serveNext_calmed (server : Server κ)
    (steady : ∀ upgrade ∈ upgrader, upgrade.Steady) (next : Inbox.Next) (s : Session κ) (w : Wire) :
    server.serveNext upgrader limit next s w.calmed =
      (server.serveNext upgrader limit next s w).calmed := by
  cases next with
  | ended cause => rfl
  | tooLong =>
    simp only [serveNext, Wire.send_calmed]
    rcases w.send (answerTooLong limit s).1 with ⟨fault | ⟨⟩, v⟩ <;> rfl
  | line line =>
    simp only [serveNext, serveLine]
    split
    · rfl
    · rw [Wire.send_calmed]
      rfl
    · split
      · rw [startTls_calmed steady]
        rcases startTls upgrader _ _ w with ⟨fault | ⟨⟩, u, v⟩ <;> rfl
      · exact answer_calmed _ _ _

theorem turn_calmed (steady : ∀ upgrade ∈ upgrader, upgrade.Steady)
    (unharmed : (w.inbox.next limit).1 ≠ .ended .interrupted) :
    server.turn upgrader limit s w.calmed = (server.turn upgrader limit s w).calmed := by
  have read : w.calmed.inbox.next limit =
      ((w.inbox.next limit).1, (w.inbox.next limit).2.calmed) := Inbox.next_calmed unharmed
  rw [turn, turn, read]
  exact serveNext_calmed server steady _ s { w with inbox := (w.inbox.next limit).2 }

/-- Whether a connection gets to an inbox that trips. -/
def Stumbles (server : Server κ) (upgrader : Option TlsUpgrader) (s₀ : Session κ) (w₀ : Wire) : Prop :=
  ∃ s w, server.Comes upgrader s₀ w₀ s w ∧ w.inbox.Trips server.lineLimit

theorem opening_calmed (server : Server κ) (s : Session κ) (w : Wire) :
    server.opening s w.calmed = (server.opening s w).calmed := by
  rw [opening, opening]
  rcases server.connect s with ⟨fault | reply, t⟩
  · rfl
  · exact answer_calmed reply t w

/-- As long as no inbox has tripped, the turns are those on the calmed wire. -/
theorem onward_calmed (steady : ∀ upgrade ∈ upgrader, upgrade.Steady) {n : Nat}
    (unharmed : ∀ m < n, ∀ s w, server.onward upgrader (server.opening s₀ w₀) m = .goesOn s w →
      ¬w.inbox.Trips server.lineLimit) :
    server.onward upgrader (server.opening s₀ w₀.calmed) n =
      (server.onward upgrader (server.opening s₀ w₀) n).calmed := by
  induction n with
  | zero => exact opening_calmed server s₀ w₀
  | succ n ih =>
    rw [onward, onward, ih fun m earlier => unharmed m (Nat.lt_succ_of_lt earlier)]
    cases came : server.onward upgrader (server.opening s₀ w₀) n with
    | ended served => rfl
    | goesOn s w =>
      have clear : (w.inbox.next server.lineLimit).1 ≠ .ended .interrupted := fun broken =>
        unharmed n (Nat.lt_succ_self n) s w came
          ((Inbox.next_eq_interrupted_iff server.lineLimit_pos).mp broken)
      exact turn_calmed steady clear

private theorem turn_of_trips (server : Server κ) (upgrader : Option TlsUpgrader) (s : Session κ)
    (trips : w.inbox.Trips server.lineLimit) :
    server.turn upgrader server.lineLimit s w =
      .ended ⟨.error (.io .interrupted), s,
        { w with inbox := (w.inbox.next server.lineLimit).2 }⟩ := by
  have broken : (w.inbox.next server.lineLimit).1 = .ended .interrupted :=
    (Inbox.next_eq_interrupted_iff server.lineLimit_pos).mpr trips
  rw [turn, broken]
  rfl

private theorem not_trips_before {n : Nat}
    (came : server.onward upgrader (server.opening s₀ w₀) n = .goesOn t v) {m : Nat}
    (earlier : m < n) (before : server.onward upgrader (server.opening s₀ w₀) m = .goesOn s w) :
    ¬w.inbox.Trips server.lineLimit := by
  intro trips
  obtain ⟨k, rfl⟩ : ∃ k, n = m + 1 + k := Nat.exists_eq_add_of_le earlier
  rw [onward_add, onward, before, Turn.andThen, turn_of_trips server upgrader s trips,
    onward_ended] at came
  cases came

/-- A connection that stumbles ends by the interruption. -/
theorem serveDialog_of_trips (comes : server.Comes upgrader s₀ w₀ s w)
    (trips : w.inbox.Trips server.lineLimit) :
    server.serveDialog upgrader s₀ w₀ =
      ⟨.error (.io .interrupted), s, { w with inbox := (w.inbox.next server.lineLimit).2 }⟩ := by
  rw [comes.serveDialog_eq]
  exact serveLines_of_ended (turn_of_trips server upgrader s trips)

/-- A connection that does not stumble is served as if no read had been interrupted: the result, the
session with all calls made, and all that is written are the same. One that stumbles ends with the
interruption, while without interruptions it gets to the same point and reads on. -/
theorem serve_of_interruptions (server : Server κ) (upgrader : Option TlsUpgrader)
    (steady : ∀ upgrade ∈ upgrader, upgrade.Steady) (s₀ : Session κ) (w₀ : Wire) :
    (¬server.Stumbles upgrader s₀ w₀ →
      server.serve upgrader s₀ w₀.calmed = (server.serve upgrader s₀ w₀).calmed) ∧
    (server.Stumbles upgrader s₀ w₀ →
      (server.serve upgrader s₀ w₀).result = .error (.io .interrupted) ∧
        ∃ s w, server.Comes upgrader s₀ w₀ s w ∧ server.Comes upgrader s₀ w₀.calmed s w.calmed ∧
          w.inbox.Trips server.lineLimit ∧
          (w.calmed.inbox.next server.lineLimit).1 ≠ .ended .interrupted) := by
  constructor
  · intro steadily
    obtain ⟨n, finished⟩ := exists_onward_serveDialog server upgrader s₀ w₀
    have alike := onward_calmed steady (n := n) fun m _ s w came trips =>
      steadily ⟨s, w, ⟨m, came⟩, trips⟩
    rw [finished] at alike
    rw [serve_eq, serve_eq, serveDialog_of_onward alike]
    rfl
  · rintro ⟨s, w, ⟨n, came⟩, trips⟩
    have comes : server.Comes upgrader s₀ w₀ s w := ⟨n, came⟩
    refine ⟨?_, s, w, comes, ⟨n, ?_⟩, trips, fun broken => ?_⟩
    · rw [serve_eq, serveDialog_of_trips comes trips]
    · rw [onward_calmed steady fun m earlier _ _ before => not_trips_before came earlier before, came]
      rfl
    · exact Inbox.not_trips_calmed w.inbox
        ((Inbox.next_eq_interrupted_iff server.lineLimit_pos).mp broken)

/-- Reads that are interrupted within a line and within the part of a long line that is gathered. -/
theorem serve_of_interruptions_within_lines :
    let server := accepting { maxLineLength := 16 } Feature.standard
    let s := server.newSession "client.example"
    let w : Wire :=
      { inbox :=
          { arrivals := [.fault .interrupted, .bytes (Utf8.ofString "NO"), .fault .interrupted,
              .bytes (Utf8.ofString "OP\r\nNOOP aaaa"), .fault .interrupted,
              .bytes (Utf8.ofString "aaaaaaaaaaaaaaaa\r\nQUIT\r\n")] } }
    server.serve none s w.calmed = (server.serve none s w).calmed := by
  intro server s w
  refine (serve_of_interruptions server none nofun s w).1 ?_
  rintro ⟨t, v, ⟨n, came⟩, trips⟩
  have ended : (server.onward none (server.opening s w) 3).isOver = true := by decide +kernel
  have clear : ∀ m < 3, ((server.onward none (server.opening s w) m).wire.inbox.next
      server.lineLimit).1 ≠ .ended .interrupted := by decide +kernel
  by_cases early : n < 3
  · have broken := clear n early
    rw [came] at broken
    exact broken ((Inbox.next_eq_interrupted_iff server.lineLimit_pos).mpr trips)
  · obtain ⟨k, rfl⟩ := Nat.exists_eq_add_of_le (Nat.not_lt.mp early)
    rw [onward_add] at came
    generalize server.onward none (server.opening s w) 3 = now at ended came
    cases now with
    | goesOn t v => cases ended
    | ended served =>
      rw [onward_ended] at came
      cases came

/-- An interruption after 31 bytes of a line that may have 16 ends the connection. Without it the line is
refused and the client can take its leave. -/
theorem interruption_ends_connection :
    let server := accepting { maxLineLength := 16 } Feature.standard
    let s := server.newSession "client.example"
    let w : Wire :=
      { inbox :=
          { arrivals := [.bytes (Utf8.ofString "NOOP aaaaaaaaaaaaaaaaaaaaaaaaaa"),
              .fault .interrupted, .bytes (Utf8.ofString "aaa\r\nQUIT\r\n")] } }
    (server.serve none s w).result = .error (.io .interrupted) ∧
      (server.serve none s w).wire.sent.length = 1 ∧
      (server.serve none s w.calmed).result = .ok () ∧
      (server.serve none s w.calmed).wire.sent.length = 3 := by
  intro server s w
  have opened : server.onward none (server.opening s w) 0 =
      .goesOn (server.opening s w).session (server.opening s w).wire :=
    Turn.eq_goesOn (by decide +kernel)
  have trips : (server.opening s w).wire.inbox.Trips server.lineLimit :=
    (Inbox.next_eq_interrupted_iff server.lineLimit_pos).mp (by decide +kernel)
  have stumbled := serveDialog_of_trips ⟨0, opened⟩ trips
  have greeted : (server.opening s w).wire.sent.length = 1 := by decide +kernel
  have ⟨left, answered⟩ : (match server.onward none (server.opening s w.calmed) 2 with
        | .ended served => served.result.toOption
        | .goesOn _ _ => none) = some () ∧
      (server.onward none (server.opening s w.calmed) 2).wire.sent.length = 3 := by decide +kernel
  cases finished : server.onward none (server.opening s w.calmed) 2 with
  | goesOn t v =>
    rw [finished] at left
    cases left
  | ended served =>
    obtain ⟨result, t, v⟩ := served
    rw [finished] at left answered
    cases result with
    | error fault => cases left
    | ok done =>
      rw [serve_eq, serve_eq, stumbled, serveDialog_of_onward finished]
      exact ⟨rfl, greeted, rfl, answered⟩

end Server

end SmtpDialog
