/- digest: Texts without control characters: what is quoted, sanitised or written by the library. -/
import SmtpDialog.Fault
import SmtpDialog.Journal.LogPrefix
import SmtpDialog.Line
import SmtpDialog.Text.Base64

set_option autoImplicit false
set_option relaxedAutoImplicit false

namespace SmtpDialog

namespace Text

/-- A text without control characters. -/
def IsClean (text : String) : Prop := ∀ c ∈ text.toList, isControl c = false

instance (text : String) : Decidable (IsClean text) :=
  inferInstanceAs (Decidable (∀ c ∈ text.toList, isControl c = false))

variable {a b : String}

theorem IsClean.literal {cs : List Char} (each : cs.all (!isControl ·) = true) :
    IsClean (String.ofList cs) := by
  intro c member
  rw [String.toList_ofList] at member
  simpa using List.all_eq_true.mp each c member

theorem IsClean.append (front : IsClean a) (back : IsClean b) : IsClean (a ++ b) := by
  intro c member
  rw [String.toList_append, List.mem_append] at member
  exact member.elim (front c) (back c)

theorem isControl_digitChar (n : Nat) : isControl n.digitChar = false := by
  match n with
  | 0 | 1 | 2 | 3 | 4 | 5 | 6 | 7 | 8 | 9 | 10 | 11 | 12 | 13 | 14 | 15 => rfl
  | n + 16 =>
    have star : (n + 16).digitChar = '*' := by simp [Nat.digitChar]
    rw [star]
    rfl

theorem isControl_of_mem_toDigits {base n : Nat} {c : Char} (large : 1 < base)
    (member : c ∈ Nat.toDigits base n) : isControl c = false := by
  induction n using Nat.strongRecOn with
  | ind n ih =>
    rw [Nat.toDigits_eq_if large] at member
    split at member
    · rw [List.mem_singleton.mp member]
      exact isControl_digitChar n
    · rename_i several
      rcases List.mem_append.mp member with front | last
      · exact ih (n / base) (Nat.div_lt_self (by omega) large) front
      · rw [List.mem_singleton.mp last]
        exact isControl_digitChar _

theorem IsClean.toString (n : Nat) : IsClean (toString n) := by
  intro c member
  have digits : (ToString.toString n).toList = Nat.toDigits 10 n := by simp
  rw [digits] at member
  exact isControl_of_mem_toDigits (by decide) member

/-- A control character is never shown as it is. -/
theorem isControl_of_isShown {c : Char} (shown : isShown c = true) : isControl c = false := by
  rw [isShown] at shown
  simp only [isControl, Bool.or_eq_false_iff, Bool.and_eq_false_iff, decide_eq_false_iff_not]
  split at shown
  · contradiction
  · split at shown
    · omega
    · split at shown
      · contradiction
      · omega

theorem isControl_of_mem_quotedChar {c d : Char} (member : d ∈ quotedChar c) :
    isControl d = false := by
  have fixed {cs : List Char} (each : cs.all (!isControl ·) = true) (within : d ∈ cs) :
      isControl d = false := by
    simpa using List.all_eq_true.mp each d within
  unfold quotedChar at member
  split at member
  · exact fixed rfl member
  split at member
  · exact fixed rfl member
  split at member
  · exact fixed rfl member
  split at member
  · exact fixed rfl member
  split at member
  · exact fixed rfl member
  split at member
  · exact fixed rfl member
  split at member
  · rename_i shown
    rw [List.mem_singleton.mp member]
    exact isControl_of_isShown shown
  · rcases List.mem_append.mp member with front | back
    · rcases List.mem_append.mp front with front | digit
      · exact fixed rfl front
      · exact isControl_of_mem_toDigits (by decide) digit
    · exact fixed rfl back

/-- Quoted, every text is clean. -/
theorem IsClean.quoted (text : String) : IsClean (quoted text) := by
  intro d member
  rw [Text.quoted, String.toList_ofList] at member
  have mark : isControl '"' = false := rfl
  rcases List.mem_cons.mp member with rfl | member
  · exact mark
  · rcases List.mem_append.mp member with within | last
    · obtain ⟨c, -, within⟩ := List.mem_flatMap.mp within
      exact isControl_of_mem_quotedChar within
    · rw [List.mem_singleton.mp last]
      exact mark

end Text

namespace LogPrefix

theorem isClean_sanitised (t : String) : Text.IsClean (sanitised t) := by
  intro c member
  rw [sanitised, String.toList_ofList] at member
  simpa using (List.mem_filter.mp (List.mem_of_mem_take member)).2

theorem length_sanitised_le (t : String) : (sanitised t).length ≤ maxShown := by
  rw [sanitised, String.length_ofList]
  exact List.length_take_le _ _

/-- A prefix of a session of the dialog with a peer: whatever it shows of others is sanitised. -/
structure Sound (peer : String) (p : LogPrefix) : Prop where
  protocol : p.protocol = "smtp"
  peer : p.peer = some (sanitised peer)
  user : ∀ shown ∈ p.user, ∃ identity, shown = sanitised identity
  helo : ∀ shown ∈ p.helo, ∃ domain, shown = sanitised domain

namespace Sound

variable {peer : String} {p : LogPrefix}

theorem new (peer : String) : (({ protocol := "smtp" } : LogPrefix).setPeer peer).Sound peer :=
  ⟨rfl, rfl, nofun, nofun⟩

theorem setUser (sound : p.Sound peer) (identity : String) : (p.setUser identity).Sound peer where
  protocol := sound.protocol
  peer := sound.peer
  user := by
    rintro _ ⟨⟩
    exact ⟨identity, rfl⟩
  helo := sound.helo

theorem clearUser (sound : p.Sound peer) : p.clearUser.Sound peer :=
  ⟨sound.protocol, sound.peer, nofun, sound.helo⟩

theorem setHelo (sound : p.Sound peer) (domain : String) : (p.setHelo domain).Sound peer where
  protocol := sound.protocol
  peer := sound.peer
  user := sound.user
  helo := by
    rintro _ ⟨⟩
    exact ⟨domain, rfl⟩

theorem parts (sound : p.Sound peer) :
    ∀ part ∈ p.peer.toList ++ p.user.toList ++ p.helo.toList,
      Text.IsClean part ∧ part.length ≤ maxShown := by
  intro part member
  suffices foreign : ∃ t, part = sanitised t by
    obtain ⟨t, rfl⟩ := foreign
    exact ⟨isClean_sanitised t, length_sanitised_le t⟩
  rcases List.mem_append.mp member with member | helo
  · rcases List.mem_append.mp member with shown | user
    · rw [sound.peer] at shown
      exact ⟨peer, List.mem_singleton.mp shown⟩
    · exact sound.user part (Option.mem_toList.mp user)
  · exact sound.helo part (Option.mem_toList.mp helo)

theorem isClean_text (sound : p.Sound peer) : Text.IsClean p.text := by
  have clean := fun part member => (sound.parts part member).1
  obtain ⟨protocol, shown, user, helo⟩ := p
  obtain rfl : protocol = "smtp" := sound.protocol
  obtain rfl : shown = some (sanitised peer) := sound.peer
  have front : Text.IsClean ("smtp" ++ (":" ++ sanitised peer)) :=
    (Text.IsClean.literal rfl).append ((Text.IsClean.literal rfl).append (isClean_sanitised peer))
  have opening : Text.IsClean "[" := .literal rfl
  have closing : Text.IsClean "]" := .literal rfl
  have label : Text.IsClean "helo=" := .literal rfl
  have gap : Text.IsClean " " := .literal rfl
  cases user with
  | none =>
    cases helo with
    | none => exact front.append (.literal rfl)
    | some helo =>
      have named := clean helo (by simp)
      exact front.append ((opening.append (label.append named)).append closing)
  | some user =>
    have known := clean user (by simp)
    cases helo with
    | none => exact front.append ((opening.append known).append closing)
    | some helo =>
      have named := clean helo (by simp)
      have both := (known.append gap).append (label.append named)
      exact front.append ((opening.append both).append closing)

end Sound

end LogPrefix

theorem IoFault.isClean_message (cause : IoFault) : Text.IsClean cause.message := by
  cases cause <;> exact .literal rfl

theorem Base64.Flaw.isClean_message (flaw : Flaw) : Text.IsClean flaw.message := by
  cases flaw with
  | strayBits => exact .literal rfl
  | badByte byte offset =>
    exact ((((Text.IsClean.literal rfl).append (.toString byte.toNat)).append (.literal rfl)).append
      (.toString offset)).append (.literal rfl)
  | badLastSymbol byte offset =>
    exact ((((Text.IsClean.literal rfl).append (.toString byte.toNat)).append (.literal rfl)).append
      (.toString offset)).append (.literal rfl)

theorem Line.isClean_describe (line : Line) : Text.IsClean line.describe :=
  ((Text.IsClean.literal rfl).append (.quoted _)).append (.literal rfl)

end SmtpDialog
