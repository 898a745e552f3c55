/- digest: What is read as a line does not depend on how the bytes arrive. -/
import SmtpDialog.Transport.Inbox

set_option autoImplicit false
set_option relaxedAutoImplicit false

namespace SmtpDialog

namespace Inbox

theorem endsLine_append {front back : Bytes} (more : back ≠ []) :
    endsLine (front ++ back) = endsLine back := by
  obtain ⟨last, found⟩ := Option.isSome_iff_exists.mp (List.getLast?_isSome.mpr more)
  simp [endsLine, found]

theorem endsLine_of_not_mem {bs : Bytes} (unbroken : 10 ∉ bs) : endsLine bs = false := by
  rw [endsLine, beq_eq_false_iff_ne]
  intro last
  exact unbroken (List.mem_of_getLast? last)

theorem cutLine_of_not_mem {bs : Bytes} (unbroken : 10 ∉ bs) (limit : Nat) :
    cutLine limit bs = (bs.take limit, bs.drop limit) := by
  induction bs generalizing limit with
  | nil => cases limit <;> rfl
  | cons b bs ih =>
    obtain ⟨hb, hbs⟩ : 10 ≠ b ∧ 10 ∉ bs := by simpa using unbroken
    cases limit with
    | zero => rfl
    | succ limit => simp [cutLine, hb.symm, ih hbs limit]

theorem cutLine_of_fits {content : Bytes} (unbroken : 10 ∉ content) {limit : Nat}
    (fits : content.length + 1 ≤ limit) (rest : Bytes) :
    cutLine limit (content ++ 10 :: rest) = (content ++ [10], rest) := by
  induction content generalizing limit with
  | nil =>
    obtain ⟨limit, rfl⟩ : ∃ k, limit = k + 1 := ⟨limit - 1, by simp at fits; omega⟩
    rfl
  | cons b content ih =>
    obtain ⟨hb, hcontent⟩ : 10 ≠ b ∧ 10 ∉ content := by simpa using unbroken
    rw [List.length_cons] at fits
    obtain ⟨limit, rfl⟩ : ∃ k, limit = k + 1 := ⟨limit - 1, by omega⟩
    have shorter : content.length + 1 ≤ limit := by omega
    simp [cutLine, hb.symm, ih hcontent shorter]

theorem cutLine_of_exceeds {content : Bytes} (unbroken : 10 ∉ content) {limit : Nat}
    (exceeds : limit ≤ content.length) (rest : Bytes) :
    cutLine limit (content ++ 10 :: rest) =
      (content.take limit, content.drop limit ++ 10 :: rest) := by
  induction content generalizing limit with
  | nil =>
    obtain rfl : limit = 0 := by simpa using exceeds
    rfl
  | cons b content ih =>
    obtain ⟨hb, hcontent⟩ : 10 ≠ b ∧ 10 ∉ content := by simpa using unbroken
    cases limit with
    | zero => rfl
    | succ limit =>
      have shorter : limit ≤ content.length := by simpa using exceeds
      simp [cutLine, hb.symm, ih hcontent shorter]

/-- Whether no more bytes are needed for a line. -/
def Suffices (limit : Nat) (got : Bytes) : Prop := endsLine got = true ∨ got.length = limit

theorem suffices_cons {limit : Nat} {b : UInt8} (hb : b ≠ 10) (got : Bytes) :
    Suffices (limit + 1) (b :: got) ↔ Suffices limit got := by
  cases got with
  | nil =>
    have same : 1 = limit + 1 ↔ 0 = limit := by omega
    simpa [Suffices, endsLine, hb] using same
  | cons c rest => simp [Suffices, endsLine]

theorem cutLine_append_of_suffices {limit : Nat} {front : Bytes}
    (done : Suffices limit (cutLine limit front).1) (back : Bytes) :
    cutLine limit (front ++ back) =
      ((cutLine limit front).1, (cutLine limit front).2 ++ back) := by
  induction front generalizing limit with
  | nil =>
    cases limit with
    | zero => rfl
    | succ limit => simp [Suffices, cutLine, endsLine] at done
  | cons b front ih =>
    cases limit with
    | zero => rfl
    | succ limit =>
      by_cases hb : b = 10
      · simp [cutLine, hb]
      · have inner : Suffices limit (cutLine limit front).1 := by
          simpa [cutLine, hb, suffices_cons] using done
        simp [cutLine, hb, ih inner]

theorem cutLine_append_of_not_suffices {limit : Nat} {front : Bytes}
    (short : ¬Suffices limit (cutLine limit front).1) :
    cutLine limit front = (front, []) ∧ front.length < limit ∧ endsLine front = false ∧ ∀ back,
      cutLine limit (front ++ back) =
        (front ++ (cutLine (limit - front.length) back).1,
          (cutLine (limit - front.length) back).2) := by
  induction front generalizing limit with
  | nil =>
    cases limit with
    | zero => simp [Suffices, cutLine] at short
    | succ limit => simp [cutLine, endsLine]
  | cons b front ih =>
    cases limit with
    | zero => simp [Suffices, cutLine] at short
    | succ limit =>
      by_cases hb : b = 10
      · simp [Suffices, cutLine, hb, endsLine] at short
      · have inner : ¬Suffices limit (cutLine limit front).1 := by
          simpa [cutLine, hb, suffices_cons] using short
        obtain ⟨cut, shorter, unended, further⟩ := ih inner
        refine ⟨by simp [cutLine, hb, cut], by simpa using shorter, ?_, ?_⟩
        · cases front with
          | nil => simp [endsLine, hb]
          | cons c rest => simpa [endsLine] using unended
        · intro back
          simp [cutLine, hb, further back]

theorem afterLine_of_not_mem {bs : Bytes} (unbroken : 10 ∉ bs) : afterLine bs = none := by
  induction bs with
  | nil => rfl
  | cons b bs ih =>
    obtain ⟨hb, hbs⟩ : 10 ≠ b ∧ 10 ∉ bs := by simpa using unbroken
    simp [afterLine, hb.symm, ih hbs]

theorem afterLine_eq_none_iff {bs : Bytes} : afterLine bs = none ↔ 10 ∉ bs := by
  refine ⟨fun unbroken member => ?_, afterLine_of_not_mem⟩
  induction bs with
  | nil => nomatch member
  | cons b bs ih =>
    by_cases feed : b = 10
    · simp [afterLine, feed] at unbroken
    · rw [afterLine, if_neg feed] at unbroken
      exact ih unbroken ((List.mem_cons.mp member).resolve_left (Ne.symm feed))

theorem afterLine_of_mem {content : Bytes} (unbroken : 10 ∉ content) (rest : Bytes) :
    afterLine (content ++ 10 :: rest) = some rest := by
  induction content with
  | nil => rfl
  | cons b content ih =>
    obtain ⟨hb, hcontent⟩ : 10 ≠ b ∧ 10 ∉ content := by simpa using unbroken
    simp [afterLine, hb.symm, ih hcontent]

theorem afterLine_append (front back : Bytes) :
    afterLine (front ++ back) = ((afterLine front).map (· ++ back)).or (afterLine back) := by
  induction front with
  | nil => simp [afterLine]
  | cons b front ih =>
    by_cases hb : b = 10
    · simp [afterLine, hb]
    · simp [afterLine, hb, ih]

/-- The bytes of the reads before the stream ends or fails. -/
def front : List Arrival → Bytes
  | .bytes (b :: bs) :: rest => b :: bs ++ front rest
  | _ => []

/-- What arrives behind them, which begins with the end of the stream or a fault. -/
def behind : List Arrival → List Arrival
  | .bytes (_ :: _) :: rest => behind rest
  | arrivals => arrivals

def ready (inbox : Inbox) : Bytes := inbox.buffer ++ front inbox.arrivals

/-- The inbox to which all bytes that are ready have come at once. -/
def merged (inbox : Inbox) : Inbox := ⟨inbox.ready, behind inbox.arrivals⟩

theorem front_behind (arrivals : List Arrival) : front (behind arrivals) = [] := by
  fun_induction behind arrivals with
  | case1 b bs rest ih => exact ih
  | case2 arrivals other => fun_cases front arrivals <;> simp_all

theorem behind_behind (arrivals : List Arrival) : behind (behind arrivals) = behind arrivals := by
  fun_induction behind arrivals with
  | case1 b bs rest ih => exact ih
  | case2 arrivals other => fun_cases behind arrivals <;> simp_all

@[simp] theorem merged_behind (buffer : Bytes) (arrivals : List Arrival) :
    (⟨buffer, behind arrivals⟩ : Inbox).merged = ⟨buffer, behind arrivals⟩ := by
  simp [merged, ready, front_behind, behind_behind]

theorem merged_of_reads {reads : List Bytes} (nonempty : ∀ r ∈ reads, r ≠ []) (buffer : Bytes) :
    (⟨buffer, reads.map .bytes⟩ : Inbox).merged = ⟨buffer ++ reads.flatten, []⟩ := by
  have all : front (reads.map .bytes) = reads.flatten ∧ behind (reads.map .bytes) = [] := by
    induction reads with
    | nil => exact ⟨rfl, rfl⟩
    | cons r rest ih =>
      obtain ⟨before, after⟩ := ih fun r h => nonempty r (List.mem_cons_of_mem _ h)
      obtain ⟨b, bs, rfl⟩ := List.exists_cons_of_ne_nil (nonempty r List.mem_cons_self)
      simp [front, behind, before, after]
  simp [merged, ready, all]

theorem suffices_append {limit : Nat} {buffer : Bytes} (shorter : buffer.length < limit)
    (unended : endsLine buffer = false) (got : Bytes) :
    Suffices limit (buffer ++ got) ↔ Suffices (limit - buffer.length) got := by
  have lengths : (buffer ++ got).length = limit ↔ got.length = limit - buffer.length := by
    rw [List.length_append]
    omega
  have ends : endsLine (buffer ++ got) = endsLine got := by
    cases got with
    | nil => simpa [endsLine] using unended
    | cons b rest => exact endsLine_append (by simp)
  rw [Suffices, Suffices, ends, lengths]

theorem gather_of_suffices {limit : Nat} {buffer : Bytes}
    (done : Suffices limit (cutLine limit buffer).1) (arrivals : List Arrival) :
    gather limit buffer arrivals =
      (.ok (cutLine limit buffer).1, ⟨(cutLine limit buffer).2, arrivals⟩) := by
  rw [gather.eq_def]
  exact if_pos (by simpa [Suffices] using done)

theorem gather_of_not_suffices {limit : Nat} {buffer : Bytes}
    (short : ¬Suffices limit (cutLine limit buffer).1) (arrivals : List Arrival) :
    gather limit buffer arrivals =
      match arrivals with
      | [] => (.ok buffer, ⟨[], []⟩)
      | .bytes [] :: rest => (.ok buffer, ⟨[], rest⟩)
      | .bytes (b :: bs) :: rest =>
        ((gather (limit - buffer.length) (b :: bs) rest).1.map (buffer ++ ·),
          (gather (limit - buffer.length) (b :: bs) rest).2)
      | .fault .interrupted :: rest =>
        ((gather (limit - buffer.length) [] rest).1.map (buffer ++ ·),
          (gather (limit - buffer.length) [] rest).2)
      | .fault cause :: rest => (.error cause, ⟨[], rest⟩) := by
  obtain ⟨cut, -⟩ := cutLine_append_of_not_suffices short
  rw [cut] at short
  have undone : ¬(endsLine buffer || buffer.length == limit) = true := by
    simpa [Suffices] using short
  rw [gather.eq_def limit buffer arrivals]
  cases arrivals with
  | nil => simp only [cut, if_neg undone]
  | cons arrival rest =>
    cases arrival with
    | bytes bs => cases bs <;> simp only [cut, if_neg undone]
    | fault cause => cases cause <;> simp only [cut, if_neg undone]

theorem gather_append {limit : Nat} {buffer : Bytes}
    (short : ¬Suffices limit (cutLine limit buffer).1) (more : Bytes) (arrivals : List Arrival) :
    gather limit (buffer ++ more) arrivals =
      ((gather (limit - buffer.length) more arrivals).1.map (buffer ++ ·),
        (gather (limit - buffer.length) more arrivals).2) := by
  obtain ⟨-, shorter, unended, further⟩ := cutLine_append_of_not_suffices short
  have both := suffices_append shorter unended
  by_cases done : Suffices (limit - buffer.length) (cutLine (limit - buffer.length) more).1
  · have done' : Suffices limit (cutLine limit (buffer ++ more)).1 := by
      rw [further]
      exact (both _).mpr done
    rw [gather_of_suffices done, gather_of_suffices done', further]
    rfl
  · have short' : ¬Suffices limit (cutLine limit (buffer ++ more)).1 := by
      rw [further]
      exact fun h => done ((both _).mp h)
    have left : limit - (buffer ++ more).length = limit - buffer.length - more.length := by
      rw [List.length_append]
      omega
    have map_map (answer : Except IoFault Bytes) :
        answer.map (buffer ++ more ++ ·) = (answer.map (more ++ ·)).map (buffer ++ ·) := by
      cases answer <;> simp [Except.map]
    rw [gather_of_not_suffices done, gather_of_not_suffices short', left]
    split
    · rfl
    · rfl
    · rw [map_map]
    · rw [map_map]
    · rfl

/-- What is got, and what can then still be read, does not depend on how the bytes arrive. -/
theorem gather_merged (limit : Nat) (buffer : Bytes) (arrivals : List Arrival) :
    let got := gather limit buffer arrivals
    let got' := gather limit (buffer ++ front arrivals) (behind arrivals)
    got.1 = got'.1 ∧ got.2.merged = got'.2.merged := by
  induction arrivals generalizing limit buffer with
  | nil => simp [front, behind]
  | cons arrival rest ih =>
    match arrival with
    | .fault cause => simp [front, behind]
    | .bytes [] => simp [front, behind]
    | .bytes (b :: bs) =>
      simp only [front, behind]
      by_cases done : Suffices limit (cutLine limit buffer).1
      · have cut := cutLine_append_of_suffices done (b :: bs ++ front rest)
        have done' : Suffices limit (cutLine limit (buffer ++ (b :: bs ++ front rest))).1 := by
          rw [cut]
          exact done
        rw [gather_of_suffices done, gather_of_suffices done', cut, merged_behind]
        simp [merged, ready, front, behind]
      · obtain ⟨same, left⟩ := ih (limit - buffer.length) (b :: bs)
        rw [gather_of_not_suffices done, gather_append done]
        exact ⟨congrArg (Except.map (buffer ++ ·)) same, left⟩

theorem skip_of_some {buffer rest : Bytes} (found : afterLine buffer = some rest)
    (arrivals : List Arrival) : skip buffer arrivals = (.ok (), ⟨rest, arrivals⟩) := by
  rw [skip.eq_def, found]

theorem skip_of_unended {buffer : Bytes} (unended : afterLine buffer = none)
    (arrivals : List Arrival) :
    skip buffer arrivals =
      match arrivals with
      | [] => (.error .unexpectedEof, ⟨[], []⟩)
      | .bytes [] :: rest => (.error .unexpectedEof, ⟨[], rest⟩)
      | .bytes (b :: bs) :: rest => skip (b :: bs) rest
      | .fault cause :: rest => (.error cause, ⟨[], rest⟩) := by
  rcases arrivals with _ | ⟨⟨_ | ⟨b, bs⟩⟩ | cause, rest⟩ <;> rw [skip.eq_def, unended]

theorem skip_of_none {buffer more : Bytes} (unbroken : afterLine buffer = none)
    (arrivals : List Arrival) : skip (buffer ++ more) arrivals = skip more arrivals := by
  rw [skip.eq_def, skip.eq_def more, afterLine_append, unbroken]
  rfl

theorem skip_merged (buffer : Bytes) (arrivals : List Arrival) :
    let done := skip buffer arrivals
    let done' := skip (buffer ++ front arrivals) (behind arrivals)
    done.1 = done'.1 ∧ done.2.merged = done'.2.merged := by
  induction arrivals generalizing buffer with
  | nil => simp [front, behind]
  | cons arrival rest ih =>
    match arrival with
    | .fault cause => simp [front, behind]
    | .bytes [] => simp [front, behind]
    | .bytes (b :: bs) =>
      simp only [front, behind]
      cases found : afterLine buffer with
      | some left =>
        have further : afterLine (buffer ++ (b :: bs ++ front rest)) =
            some (left ++ (b :: bs ++ front rest)) := by
          rw [afterLine_append, found]
          rfl
        rw [skip_of_some found, skip_of_some further, merged_behind]
        simp [merged, ready, front, behind]
      | none =>
        rw [skip_of_none found, skip.eq_def buffer, found]
        exact ih (b :: bs)

theorem skip_congr {a b : Inbox} (same : a.merged = b.merged) :
    (skip a.buffer a.arrivals).1 = (skip b.buffer b.arrivals).1 ∧
      (skip a.buffer a.arrivals).2.merged = (skip b.buffer b.arrivals).2.merged := by
  obtain ⟨done, left⟩ := skip_merged a.buffer a.arrivals
  obtain ⟨done', left'⟩ := skip_merged b.buffer b.arrivals
  have buffers : a.buffer ++ front a.arrivals = b.buffer ++ front b.arrivals :=
    congrArg Inbox.buffer same
  have arrivals : behind a.arrivals = behind b.arrivals := congrArg Inbox.arrivals same
  rw [buffers, arrivals] at done left
  exact ⟨done.trans done'.symm, left.trans left'.symm⟩

private theorem next_merged (inbox : Inbox) (limit : Nat) :
    (inbox.next limit).1 = (inbox.merged.next limit).1 ∧
      (inbox.next limit).2.merged = (inbox.merged.next limit).2.merged := by
  obtain ⟨same, left⟩ := gather_merged limit inbox.buffer inbox.arrivals
  simp only [next, merged, ready]
  generalize gather limit inbox.buffer inbox.arrivals = got at same left
  generalize gather limit (inbox.buffer ++ front inbox.arrivals) (behind inbox.arrivals) = got'
    at same left
  obtain ⟨answer, after⟩ := got
  obtain ⟨answer', after'⟩ := got'
  obtain rfl : answer = answer' := same
  cases answer with
  | error cause => exact ⟨rfl, left⟩
  | ok bytes =>
    dsimp only
    split
    · exact ⟨rfl, left⟩
    · split
      · exact ⟨rfl, left⟩
      · obtain ⟨skipped, remains⟩ := skip_congr left
        generalize skip after.buffer after.arrivals = done at skipped remains
        generalize skip after'.buffer after'.arrivals = done' at skipped remains
        obtain ⟨outcome, inbox₁⟩ := done
        obtain ⟨outcome', inbox₂⟩ := done'
        obtain rfl : outcome = outcome' := skipped
        cases outcome <;> exact ⟨rfl, remains⟩

/-- Two inboxes from which the same bytes can be read give the same line, and the same then. -/
theorem next_congr {a b : Inbox} (same : a.merged = b.merged) (limit : Nat) :
    (a.next limit).1 = (b.next limit).1 ∧
      (a.next limit).2.merged = (b.next limit).2.merged := by
  obtain ⟨line, left⟩ := next_merged a limit
  obtain ⟨line', left'⟩ := next_merged b limit
  rw [same] at line left
  exact ⟨line.trans line'.symm, left.trans left'.symm⟩

/-- A line that fits is read whole, and what follows it stays. -/
theorem next_of_fits {content rest : Bytes} (unbroken : 10 ∉ content) {limit : Nat}
    (fits : content.length + 1 ≤ limit) (arrivals : List Arrival) :
    next limit ⟨content ++ 10 :: rest, arrivals⟩ =
      (.line ⟨content ++ [10]⟩, ⟨rest, arrivals⟩) := by
  have cut := cutLine_of_fits unbroken fits rest
  have ends : endsLine (content ++ [10]) = true := by simp [endsLine]
  have done : Suffices limit (cutLine limit (content ++ 10 :: rest)).1 := by
    rw [cut]
    exact .inl ends
  simp [next, gather_of_suffices done, cut, ends]

/-- A line that does not fit is skipped, and what follows it stays. -/
theorem next_of_exceeds {content rest : Bytes} (unbroken : 10 ∉ content) {limit : Nat}
    (positive : 0 < limit) (exceeds : limit ≤ content.length) (arrivals : List Arrival) :
    next limit ⟨content ++ 10 :: rest, arrivals⟩ = (.tooLong, ⟨rest, arrivals⟩) := by
  have cut := cutLine_of_exceeds unbroken exceeds rest
  have full : (content.take limit).length = limit := by
    rw [List.length_take]
    omega
  have unended : endsLine (content.take limit) = false :=
    endsLine_of_not_mem fun h => unbroken (List.mem_of_mem_take h)
  have done : Suffices limit (cutLine limit (content ++ 10 :: rest)).1 := by
    rw [cut]
    exact .inr full
  have remaining : 10 ∉ content.drop limit := fun h => unbroken (List.mem_of_mem_drop h)
  have more : ¬((content.take limit).isEmpty || decide ((content.take limit).length < limit)) =
      true := by
    rw [full]
    simp [List.isEmpty_iff, ← List.length_eq_zero_iff]
    omega
  simp only [next, gather_of_suffices done, cut, unended, if_neg more,
    skip_of_some (afterLine_of_mem remaining rest)]
  rfl

/-- Bytes without a line feed at the end of the stream are no line. -/
theorem next_of_open {bs : Bytes} (unbroken : 10 ∉ bs) (limit : Nat) :
    (next limit ⟨bs, []⟩).1 = .ended .unexpectedEof := by
  by_cases done : Suffices limit (cutLine limit bs).1
  · have cut := cutLine_of_not_mem unbroken limit
    have unended : endsLine (bs.take limit) = false :=
      endsLine_of_not_mem fun h => unbroken (List.mem_of_mem_take h)
    have nothing : afterLine (bs.drop limit) = none :=
      afterLine_of_not_mem fun h => unbroken (List.mem_of_mem_drop h)
    have lost : skip (bs.drop limit) [] = (.error .unexpectedEof, ⟨[], []⟩) := by
      rw [skip.eq_def, nothing]
    simp only [next, gather_of_suffices done, cut, unended, lost, if_neg Bool.false_ne_true]
    split <;> rfl
  · obtain ⟨-, shorter, unended, -⟩ := cutLine_append_of_not_suffices done
    simp [next, gather_of_not_suffices done, unended, shorter]

variable {inbox : Inbox} {content rest : Bytes} {limit : Nat}

/-- The merged inbox with some bytes to be read in place of those there are. -/
def remaining (rest : Bytes) (inbox : Inbox) : Inbox := ⟨rest, behind inbox.arrivals⟩

theorem merged_eq (ready : inbox.ready = rest) : inbox.merged = inbox.remaining rest := by
  rw [merged, remaining, ready]

theorem read_line (ready : inbox.ready = content ++ 10 :: rest) (unbroken : 10 ∉ content)
    (fits : content.length + 1 ≤ limit) :
    (inbox.next limit).1 = .line ⟨content ++ [10]⟩ ∧
      (inbox.next limit).2.merged = inbox.remaining rest := by
  obtain ⟨line, left⟩ := next_merged inbox limit
  rw [merged_eq ready, remaining, next_of_fits unbroken fits] at line left
  exact ⟨line, left.trans (merged_behind _ _)⟩

theorem read_tooLong (ready : inbox.ready = content ++ 10 :: rest) (unbroken : 10 ∉ content)
    (positive : 0 < limit) (exceeds : limit ≤ content.length) :
    (inbox.next limit).1 = .tooLong ∧
      (inbox.next limit).2.merged = inbox.remaining rest := by
  obtain ⟨line, left⟩ := next_merged inbox limit
  rw [merged_eq ready, remaining, next_of_exceeds unbroken positive exceeds] at line left
  exact ⟨line, left.trans (merged_behind _ _)⟩

theorem read_open (all : inbox.merged = ⟨rest, []⟩) (unbroken : 10 ∉ rest) (limit : Nat) :
    (inbox.next limit).1 = .ended .unexpectedEof := by
  rw [(next_merged inbox limit).1, all]
  exact next_of_open unbroken limit

/-- The bytes of the reads before the stream ends or fails, interruptions aside. -/
def stream : List Arrival → Bytes
  | .bytes (b :: bs) :: rest => b :: bs ++ stream rest
  | .fault .interrupted :: rest => stream rest
  | _ => []

/-- All bytes that are still to be read, interruptions aside. -/
def upcoming (inbox : Inbox) : Bytes := inbox.buffer ++ stream inbox.arrivals

theorem cutLine_append (limit : Nat) (bs : Bytes) :
    (cutLine limit bs).1 ++ (cutLine limit bs).2 = bs := by
  induction bs generalizing limit with
  | nil => cases limit <;> rfl
  | cons b bs ih =>
    cases limit with
    | zero => rfl
    | succ limit =>
      by_cases feed : b = 10
      · simp [cutLine, feed]
      · simp [cutLine, feed, ih]

theorem length_cutLine (limit : Nat) (bs : Bytes) : (cutLine limit bs).1.length ≤ limit := by
  induction bs generalizing limit with
  | nil => cases limit <;> simp [cutLine]
  | cons b bs ih =>
    cases limit with
    | zero => simp [cutLine]
    | succ limit =>
      by_cases feed : b = 10
      · simp [cutLine, feed]
      · simpa [cutLine, feed] using ih limit

theorem dropLast_cutLine (limit : Nat) (bs : Bytes) : 10 ∉ (cutLine limit bs).1.dropLast := by
  induction bs generalizing limit with
  | nil => cases limit <;> simp [cutLine]
  | cons b bs ih =>
    cases limit with
    | zero => simp [cutLine]
    | succ limit =>
      by_cases feed : b = 10
      · simp [cutLine, feed]
      · have later := ih limit
        cases rest : (cutLine limit bs).1 with
        | nil => simp [cutLine, feed, rest]
        | cons c cs =>
          rw [rest] at later
          simpa [cutLine, feed, rest, Ne.symm feed] using later

theorem not_mem_of_dropLast {bs : Bytes} (calm : 10 ∉ bs.dropLast)
    (unended : endsLine bs = false) : 10 ∉ bs := by
  intro member
  have nonempty := List.ne_nil_of_mem member
  rw [← List.dropLast_concat_getLast nonempty] at member
  rcases List.mem_append.mp member with before | last
  · exact calm before
  · rw [endsLine, List.getLast?_eq_some_getLast nonempty, ← List.mem_singleton.mp last] at unended
    contradiction

private inductive Gathers : Nat → Bytes → List Arrival → Bytes → Inbox → Prop
  | enough {limit : Nat} {buffer : Bytes} (done : Suffices limit (cutLine limit buffer).1)
      (arrivals : List Arrival) :
      Gathers limit buffer arrivals (cutLine limit buffer).1 ⟨(cutLine limit buffer).2, arrivals⟩
  | short {limit : Nat} {buffer : Bytes} (short : ¬Suffices limit (cutLine limit buffer).1)
      (arrivals rest : List Arrival) : Gathers limit buffer arrivals buffer ⟨[], rest⟩
  | further {limit : Nat} {buffer first got : Bytes} {arrivals rest : List Arrival} {left : Inbox}
      (short : ¬Suffices limit (cutLine limit buffer).1)
      (arrived : stream arrivals = first ++ stream rest)
      (more : Gathers (limit - buffer.length) first rest got left) :
      Gathers limit buffer arrivals (buffer ++ got) left

private theorem gathers_of_gather {limit : Nat} {buffer got : Bytes} {arrivals : List Arrival}
    {left : Inbox} (gathered : gather limit buffer arrivals = (.ok got, left)) :
    Gathers limit buffer arrivals got left := by
  induction arrivals generalizing limit buffer got with
  | nil =>
    by_cases done : Suffices limit (cutLine limit buffer).1
    · rw [gather_of_suffices done] at gathered
      cases gathered
      exact .enough done _
    · rw [gather_of_not_suffices done] at gathered
      cases gathered
      exact .short done _ _
  | cons arrival rest ih =>
    by_cases done : Suffices limit (cutLine limit buffer).1
    · rw [gather_of_suffices done] at gathered
      cases gathered
      exact .enough done _
    · rw [gather_of_not_suffices done] at gathered
      have further (first : Bytes) (arrived : stream (arrival :: rest) = first ++ stream rest)
          (next : ((gather (limit - buffer.length) first rest).1.map (buffer ++ ·),
            (gather (limit - buffer.length) first rest).2) = (.ok got, left)) :
          Gathers limit buffer (arrival :: rest) got left := by
        rcases found : gather (limit - buffer.length) first rest with ⟨cause | more, after⟩
        · rw [found] at next
          cases next
        · rw [found] at next
          cases next
          exact .further done arrived (ih found)
      match arrival with
      | .bytes [] =>
        cases gathered
        exact .short done _ _
      | .bytes (b :: bs) => exact further (b :: bs) rfl gathered
      | .fault cause =>
        cases cause with
        | interrupted => exact further [] rfl gathered
        | _ => cases gathered

namespace Gathers

variable {limit : Nat} {buffer got : Bytes} {arrivals : List Arrival} {left : Inbox}

private theorem length_le (gathers : Gathers limit buffer arrivals got left) :
    got.length ≤ limit := by
  induction gathers with
  | @enough limit buffer done => exact length_cutLine limit buffer
  | short short =>
    obtain ⟨-, shorter, -⟩ := cutLine_append_of_not_suffices short
    exact Nat.le_of_lt shorter
  | further short arrived more ih =>
    obtain ⟨-, shorter, -⟩ := cutLine_append_of_not_suffices short
    rw [List.length_append]
    omega

private theorem upcoming (gathers : Gathers limit buffer arrivals got left)
    (enough : endsLine got = true ∨ limit ≤ got.length) :
    buffer ++ stream arrivals = got ++ left.upcoming := by
  induction gathers with
  | enough done => rw [Inbox.upcoming, ← List.append_assoc, cutLine_append]
  | short short =>
    obtain ⟨-, shorter, unended, -⟩ := cutLine_append_of_not_suffices short
    simp [unended, Nat.not_le.mpr shorter] at enough
  | @further limit buffer first got arrivals rest left short arrived more ih =>
    obtain ⟨-, shorter, unended, -⟩ := cutLine_append_of_not_suffices short
    -- what is got behind the buffer ends the line or fills it up
    have some_more : got ≠ [] := by
      rintro rfl
      simp [unended, Nat.not_le.mpr shorter] at enough
    rw [endsLine_append some_more, List.length_append, ← Nat.sub_le_iff_le_add'] at enough
    rw [arrived, ih enough, List.append_assoc]

private theorem not_mem_dropLast (gathers : Gathers limit buffer arrivals got left) :
    10 ∉ got.dropLast := by
  have whole {limit : Nat} {buffer : Bytes} (short : ¬Suffices limit (cutLine limit buffer).1) :
      10 ∉ buffer.dropLast := by
    obtain ⟨whole, -⟩ := cutLine_append_of_not_suffices short
    have first := dropLast_cutLine limit buffer
    rwa [whole] at first
  induction gathers with
  | enough done => exact dropLast_cutLine _ _
  | short short => exact whole short
  | @further limit buffer first got arrivals rest left short arrived more ih =>
    obtain ⟨-, -, unended, -⟩ := cutLine_append_of_not_suffices short
    cases got with
    | nil =>
      rw [List.append_nil]
      exact whole short
    | cons b got =>
      rw [List.dropLast_append_of_ne_nil (List.cons_ne_nil b got), List.mem_append]
      exact fun member => member.elim (not_mem_of_dropLast (whole short) unended) ih

end Gathers

private theorem gathers_of_next {limit : Nat} {inbox left : Inbox} {line : Line}
    (read : inbox.next limit = (.line line, left)) :
    Gathers limit inbox.buffer inbox.arrivals line.bytes left ∧ endsLine line.bytes = true := by
  unfold next at read
  split at read
  · cases read
  · rename_i got after gathered
    split at read
    · rename_i ends
      cases read
      exact ⟨gathers_of_gather gathered, ends⟩
    · split at read
      · cases read
      · split at read <;> cases read

/-- What is still to be read behind a line is what was to be read, less the line. -/
theorem upcoming_of_next {limit : Nat} {inbox left : Inbox} {line : Line}
    (read : inbox.next limit = (.line line, left)) :
    inbox.upcoming = line.bytes ++ left.upcoming := by
  obtain ⟨gathers, ends⟩ := gathers_of_next read
  exact gathers.upcoming (.inl ends)

theorem length_of_next {limit : Nat} {inbox left : Inbox} {line : Line}
    (read : inbox.next limit = (.line line, left)) : line.bytes.length ≤ limit :=
  (gathers_of_next read).1.length_le

theorem dropLast_of_next {limit : Nat} {inbox left : Inbox} {line : Line}
    (read : inbox.next limit = (.line line, left)) : 10 ∉ line.bytes.dropLast :=
  (gathers_of_next read).1.not_mem_dropLast

theorem exists_content_of_next {limit : Nat} {inbox left : Inbox} {line : Line}
    (read : inbox.next limit = (.line line, left)) :
    ∃ content, 10 ∉ content ∧ line.bytes = content ++ [10] := by
  obtain ⟨front, whole⟩ := List.getLast?_eq_some_iff.mp (eq_of_beq (gathers_of_next read).2)
  have unbroken := dropLast_of_next read
  rw [whole, List.dropLast_concat] at unbroken
  exact ⟨front, unbroken, whole⟩

theorem eq_of_afterLine {bs rest : Bytes} (found : afterLine bs = some rest) :
    ∃ content, 10 ∉ content ∧ bs = content ++ 10 :: rest := by
  induction bs with
  | nil => nomatch found
  | cons b bs ih =>
    by_cases feed : b = 10
    · rw [afterLine, if_pos feed] at found
      obtain rfl := Option.some.inj found
      exact ⟨[], by simp, by simp [feed]⟩
    · rw [afterLine, if_neg feed] at found
      obtain ⟨content, unbroken, rfl⟩ := ih found
      exact ⟨b :: content, by simp [unbroken, Ne.symm feed], rfl⟩

private theorem upcoming_of_skip {buffer : Bytes} {arrivals : List Arrival} {left : Inbox}
    (skipped : skip buffer arrivals = (.ok (), left)) :
    ∃ content, 10 ∉ content ∧ buffer ++ stream arrivals = content ++ 10 :: left.upcoming := by
  have at_once {buffer rest : Bytes} (found : afterLine buffer = some rest) (arrivals : List Arrival)
      (skipped : skip buffer arrivals = (.ok (), left)) :
      ∃ content, 10 ∉ content ∧ buffer ++ stream arrivals = content ++ 10 :: left.upcoming := by
    rw [skip_of_some found] at skipped
    cases skipped
    obtain ⟨content, unbroken, rfl⟩ := eq_of_afterLine found
    exact ⟨content, unbroken, by simp [upcoming]⟩
  induction arrivals generalizing buffer with
  | nil =>
    cases found : afterLine buffer with
    | some rest => exact at_once found _ skipped
    | none =>
      rw [skip_of_unended found] at skipped
      nomatch skipped
  | cons arrival arrivals ih =>
    cases found : afterLine buffer with
    | some rest => exact at_once found _ skipped
    | none =>
      rw [skip_of_unended found] at skipped
      match arrival with
      | .bytes [] => nomatch skipped
      | .bytes (b :: bs) =>
        obtain ⟨content, unbroken, same⟩ := ih skipped
        refine ⟨buffer ++ content, ?_, ?_⟩
        · rw [List.mem_append]
          exact fun member => member.elim (afterLine_eq_none_iff.mp found) unbroken
        · rw [stream, same, List.append_assoc]
      | .fault cause => nomatch skipped

/-- What is still to be read behind a line that was too long is what was to be read, less the line. -/
theorem upcoming_of_tooLong {limit : Nat} {inbox left : Inbox}
    (read : inbox.next limit = (.tooLong, left)) : ∃ content, 10 ∉ content ∧
      limit ≤ content.length ∧ inbox.upcoming = content ++ 10 :: left.upcoming := by
  unfold next at read
  split at read
  · cases read
  · rename_i got after gathered
    split at read
    · cases read
    · rename_i ends
      have unended : endsLine got = false := Bool.eq_false_iff.mpr ends
      have unbroken : 10 ∉ got :=
        not_mem_of_dropLast (gathers_of_gather gathered).not_mem_dropLast unended
      split at read
      · cases read
      · rename_i long
        have full : limit ≤ got.length := by
          rw [Bool.or_eq_true, decide_eq_true_eq] at long
          exact Nat.not_lt.mp fun shorter => long (.inr shorter)
        split at read
        · rename_i skipped
          cases read
          obtain ⟨content, calm, same⟩ := upcoming_of_skip skipped
          refine ⟨got ++ content, ?_, ?_, ?_⟩
          · rw [List.mem_append]
            exact fun member => member.elim unbroken calm
          · rw [List.length_append]
            exact Nat.le_add_right_of_le full
          · rw [upcoming, (gathers_of_gather gathered).upcoming (.inr full), upcoming, same,
              List.append_assoc]
        · cases read

end Inbox

end SmtpDialog
