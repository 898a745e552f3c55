/- digest: Reading lines of bounded length from a stream that arrives in pieces. -/
import SmtpDialog.Fault

/-!
A stream delivers bytes by reads: each gives some bytes, or none when the client has hung up, or a
fault. What a read gave and was not used yet is kept in a buffer, and the stream is only read when
the buffer is empty. A line ends with a line feed; one that does not end within the limit is skipped
up to and including its line feed.
-/

set_option autoImplicit false
set_option relaxedAutoImplicit false

namespace SmtpDialog

/-- What one read gives. A read of no bytes tells the end of the stream. -/
inductive Arrival
  | bytes (bs : Bytes)
  | fault (cause : IoFault)
  deriving DecidableEq

namespace Arrival

def capacity : Nat := 8192

/-- The reads that it takes to get bytes which are there at once. -/
def ofBytes (bs : Bytes) : List Arrival :=
  if (bs.drop capacity).isEmpty then [.bytes bs]
  else .bytes (bs.take capacity) :: ofBytes (bs.drop capacity)
termination_by bs.length
decreasing_by simp [capacity] at *; omega

def size : Arrival → Nat
  | bytes bs => bs.length + 1
  | fault _ => 1

end Arrival

/-- What has been read and not used, and what is still to be read. After the last arrival the stream
is at its end. -/
structure Inbox where
  buffer : Bytes := []
  arrivals : List Arrival

namespace Inbox

def size (inbox : Inbox) : Nat :=
  inbox.buffer.length + inbox.arrivals.foldr (fun a n => a.size + n) 0

/-- The bytes through the first line feed, but at most `limit` of them, and the rest. -/
def cutLine : Nat → Bytes → Bytes × Bytes
  | 0, bs => ([], bs)
  | _ + 1, [] => ([], [])
  | limit + 1, b :: bs =>
    if b = 10 then ([b], bs)
    else
      let (taken, rest) := cutLine limit bs
      (b :: taken, rest)

def endsLine (bs : Bytes) : Bool := bs.getLast? == some 10

/-- The bytes through the next line feed, but at most `limit` of them, fewer only at the end of the
stream. An interrupted read is tried again. -/
def gather (limit : Nat) (buffer : Bytes) (arrivals : List Arrival) :
    Except IoFault Bytes × Inbox :=
  let (got, left) := cutLine limit buffer
  if endsLine got || got.length == limit then (.ok got, ⟨left, arrivals⟩)
  else match arrivals with
    | [] => (.ok got, ⟨[], []⟩)
    | .bytes [] :: rest => (.ok got, ⟨[], rest⟩)
    | .bytes (b :: bs) :: rest =>
      let more := gather (limit - got.length) (b :: bs) rest
      (more.1.map (got ++ ·), more.2)
    | .fault .interrupted :: rest =>
      let more := gather (limit - got.length) [] rest
      (more.1.map (got ++ ·), more.2)
    | .fault cause :: rest => (.error cause, ⟨[], rest⟩)

def afterLine : Bytes → Option Bytes
  | [] => none
  | b :: bs => if b = 10 then some bs else afterLine bs

/-- Drops everything through the next line feed. Here an interruption is a fault like any other. -/
def skip (buffer : Bytes) (arrivals : List Arrival) : Except IoFault Unit × Inbox :=
  match afterLine buffer with
  | some rest => (.ok (), ⟨rest, arrivals⟩)
  | none =>
    match arrivals with
    | [] => (.error .unexpectedEof, ⟨[], []⟩)
    | .bytes [] :: rest => (.error .unexpectedEof, ⟨[], rest⟩)
    | .bytes (b :: bs) :: rest => skip (b :: bs) rest
    | .fault cause :: rest => (.error cause, ⟨[], rest⟩)

inductive Next
  | line (line : Line)
  | tooLong
  | ended (cause : IoFault)
  deriving DecidableEq

/-- Reads the next line, which has at most `limit` bytes. -/
def next (limit : Nat) (inbox : Inbox) : Next × Inbox :=
  match gather limit inbox.buffer inbox.arrivals with
  | (.error cause, inbox) => (.ended cause, inbox)
  | (.ok got, inbox) =>
    if endsLine got then (.line ⟨got⟩, inbox)
    else if got.isEmpty || got.length < limit then (.ended .unexpectedEof, inbox)
    else match skip inbox.buffer inbox.arrivals with
      | (.ok (), inbox) => (.tooLong, inbox)
      | (.error cause, inbox) => (.ended cause, inbox)

private theorem cutLine_length (limit : Nat) (bs : Bytes) :
    (cutLine limit bs).1.length + (cutLine limit bs).2.length = bs.length := by
  induction bs generalizing limit with
  | nil => cases limit <;> simp [cutLine]
  | cons b bs ih =>
    cases limit with
    | zero => simp [cutLine]
    | succ limit =>
      by_cases h : b = 10
      · simp [cutLine, h]; omega
      · have := ih limit
        simp [cutLine, h]; omega

theorem gather_size (limit : Nat) (buffer : Bytes) (arrivals : List Arrival) :
    ∀ got rest, gather limit buffer arrivals = (.ok got, rest) →
      got.length + rest.size ≤ (⟨buffer, arrivals⟩ : Inbox).size := by
  induction arrivals generalizing limit buffer with
  | nil =>
    intro got rest h
    have hlen := cutLine_length limit buffer
    unfold gather at h
    simp only at h
    split at h
    · cases h; simp [size]; omega
    · cases h; simp [size]; omega
  | cons a rest ih =>
    intro got final h
    have hlen := cutLine_length limit buffer
    unfold gather at h
    simp only at h
    split at h
    · cases h; simp [size]; omega
    · split at h
      · contradiction
      · rename_i heq
        cases heq
        cases h; simp [size, Arrival.size]; omega
      · rename_i b bs tail heq
        cases heq
        cases hm : gather (limit - (cutLine limit buffer).1.length) (b :: bs) rest with
        | mk answer inbox =>
          rw [hm] at h
          cases answer with
          | error _ => simp [Except.map] at h
          | ok more =>
            have := ih _ _ _ _ hm
            simp only [Except.map, Prod.mk.injEq, Except.ok.injEq] at h
            obtain ⟨rfl, rfl⟩ := h
            simp [size, Arrival.size] at this ⊢
            omega
      · rename_i heq
        cases heq
        cases hm : gather (limit - (cutLine limit buffer).1.length) [] rest with
        | mk answer inbox =>
          rw [hm] at h
          cases answer with
          | error _ => simp [Except.map] at h
          | ok more =>
            have := ih _ _ _ _ hm
            simp only [Except.map, Prod.mk.injEq, Except.ok.injEq] at h
            obtain ⟨rfl, rfl⟩ := h
            simp [size, Arrival.size] at this ⊢
            omega
      · simp at h

private theorem afterLine_length {bs rest : Bytes} (h : afterLine bs = some rest) :
    rest.length ≤ bs.length := by
  induction bs with
  | nil => simp [afterLine] at h
  | cons b bs ih =>
    by_cases hb : b = 10
    · simp [afterLine, hb] at h; subst h; simp
    · simp [afterLine, hb] at h
      have := ih h
      simp; omega

theorem skip_size (buffer : Bytes) (arrivals : List Arrival) :
    ∀ rest, skip buffer arrivals = (.ok (), rest) →
      rest.size ≤ (⟨buffer, arrivals⟩ : Inbox).size := by
  induction arrivals generalizing buffer with
  | nil =>
    intro rest h
    unfold skip at h
    split at h
    · rename_i found
      cases h
      have := afterLine_length found
      simp [size]; omega
    · simp at h
  | cons a arrivals ih =>
    intro rest h
    unfold skip at h
    split at h
    · rename_i found
      cases h
      have := afterLine_length found
      simp [size]; omega
    · split at h
      · contradiction
      · simp at h
      · rename_i heq
        cases heq
        have := ih _ _ h
        simp [size, Arrival.size] at this ⊢
        omega
      · simp at h

/-- After a line, or one that was too long, less is left than before. -/
theorem size_next_lt (limit : Nat) (inbox : Inbox)
    (hn : ∀ cause, (inbox.next limit).1 ≠ .ended cause) :
    (inbox.next limit).2.size < inbox.size := by
  revert hn
  unfold next
  split
  · intro hn; exact absurd rfl (hn _)
  · rename_i got after hg
    have hsize := gather_size _ _ _ _ _ hg
    have hin : (⟨inbox.buffer, inbox.arrivals⟩ : Inbox).size = inbox.size := rfl
    rw [hin] at hsize
    split
    · rename_i hends
      intro _
      have : 0 < got.length := by
        cases got with
        | nil => simp [endsLine] at hends
        | cons _ _ => simp
      simp only
      omega
    · split
      · intro hn; exact absurd rfl (hn _)
      · rename_i hfull
        have : 0 < got.length := by
          cases got with
          | nil => simp at hfull
          | cons _ _ => simp
        split
        · rename_i hs
          intro _
          have := skip_size _ _ _ hs
          have hin : (⟨after.buffer, after.arrivals⟩ : Inbox).size = after.size := rfl
          simp only
          omega
        · intro hn; exact absurd rfl (hn _)

end Inbox
end SmtpDialog
