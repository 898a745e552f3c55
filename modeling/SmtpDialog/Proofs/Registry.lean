/- digest: What a registry finds under a name, and the words of a line of names. -/
import SmtpDialog.Proofs.Conduct

set_option autoImplicit false
set_option relaxedAutoImplicit false

namespace SmtpDialog

namespace Text

theorem sameLetters_iff {a b : String} : sameLetters a b = true ↔ upper a = upper b := beq_iff_eq

theorem sameLetters_congr_left {a b c : String} (same : sameLetters a b = true) :
    sameLetters a c = sameLetters b c := by
  rw [sameLetters, sameLetters, sameLetters_iff.mp same]

theorem sameLetters_congr_right {a b c : String} (same : sameLetters a b = true) :
    sameLetters c a = sameLetters c b := by
  rw [sameLetters, sameLetters, sameLetters_iff.mp same]

variable {p : Char → Bool}

private theorem wordsFrom_append {c : Char} (blank : p c = true) (current xs ys : List Char) :
    wordsFrom p current (xs ++ c :: ys) = wordsFrom p current xs ++ words p ys := by
  induction xs generalizing current with
  | nil =>
    simp only [List.nil_append, wordsFrom, blank, if_true, words]
    split <;> rfl
  | cons x xs ih =>
    simp only [List.cons_append, wordsFrom]
    split
    · split
      · exact ih []
      · rw [ih []]
        rfl
    · exact ih (x :: current)

theorem words_append {c : Char} (blank : p c = true) (xs ys : List Char) :
    words p (xs ++ c :: ys) = words p xs ++ words p ys :=
  wordsFrom_append blank [] xs ys

private theorem wordsFrom_of_free {current word : List Char} (nonempty : current ++ word ≠ [])
    (free : ∀ c ∈ word, p c = false) : wordsFrom p current word = [current.reverse ++ word] := by
  induction word generalizing current with
  | nil =>
    rw [List.append_nil] at nonempty
    simp [wordsFrom, nonempty]
  | cons c word ih =>
    obtain ⟨here, later⟩ := List.forall_mem_cons.mp free
    rw [wordsFrom, here, if_neg Bool.false_ne_true, ih (by simp) later]
    simp

theorem words_of_free {word : List Char} (nonempty : word ≠ []) (free : ∀ c ∈ word, p c = false) :
    words p word = [word] :=
  wordsFrom_of_free nonempty free

/-- The words of a line of parts between spaces are those of its parts. -/
theorem words_intercalate (parts : List String) :
    words isAsciiBlank (" ".intercalate parts).toList =
      parts.flatMap fun part => words isAsciiBlank part.toList := by
  rw [String.toList_intercalate]
  induction parts with
  | nil => rfl
  | cons part rest ih =>
    cases rest with
    | nil => simp [List.intercalate]
    | cons next rest =>
      have cut : (" ".toList.intercalate ((part :: next :: rest).map String.toList)) =
          part.toList ++ ' ' :: " ".toList.intercalate ((next :: rest).map String.toList) := by
        simp [List.intercalate]
      rw [cut, words_append rfl, ih]
      rfl

end Text

theorem Grammar.isAsciiBlank_of_isMechanismChar {c : Char} (letter : isMechanismChar c = true) :
    Text.isAsciiBlank c = false := by
  -- Over all characters of a list, not over all characters that are in it: those are too many to decide.
  have apart : [' ', '\t', '\n', '\x0c', '\r'].all (!isMechanismChar ·) = true := by decide
  rw [← Bool.not_eq_true]
  intro blank
  have listed : c ∈ [' ', '\t', '\n', '\x0c', '\r'] := by
    simpa [Text.isAsciiBlank, Bool.or_eq_true, or_assoc] using blank
  have dark := List.all_eq_true.mp apart c listed
  rw [letter] at dark
  contradiction

theorem Grammar.isMechanismName_iff {name : String} :
    isMechanismName name = true ↔ (1 ≤ name.toList.length ∧ name.toList.length ≤ 20) ∧
      ∀ c ∈ name.toList, isMechanismChar c = true := by
  simp only [isMechanismName, Bool.and_eq_true, decide_eq_true_eq, List.all_eq_true]

theorem Grammar.words_of_isMechanismName {name : String} (valid : isMechanismName name = true) :
    Text.words Text.isAsciiBlank name.toList = [name.toList] := by
  obtain ⟨⟨least, -⟩, letters⟩ := isMechanismName_iff.mp valid
  apply Text.words_of_free
  · intro empty
    rw [empty] at least
    contradiction
  · exact fun c member => isAsciiBlank_of_isMechanismChar (letters c member)

namespace Registry

/-- The registries that can be made: from the names in the settings, and by registering mechanisms. -/
inductive Built : Registry → Prop
  | configured {check : CredentialCheck} {names : List String} {registry : Registry}
      (known : ofNames check names = .ok registry) : Built registry
  | registered {registry : Registry} (built : Built registry) (factory : Factory) :
      Built (registry.register factory)

def Distinct (registry : Registry) : Prop :=
  registry.factories.Pairwise fun f g => Text.sameLetters f.name g.name = false

theorem Distinct.get?_eq {registry : Registry} (distinct : registry.Distinct) {factory : Factory}
    (member : factory ∈ registry.factories) {name : String}
    (same : Text.sameLetters factory.name name = true) : registry.get? name = some factory := by
  obtain ⟨known⟩ := registry
  rw [Distinct] at distinct
  rw [get?]
  induction known with
  | nil => contradiction
  | cons f rest ih =>
    obtain ⟨others, apart⟩ := List.pairwise_cons.mp distinct
    rcases List.mem_cons.mp member with rfl | later
    · exact List.find?_cons_of_pos same
    · have other : Text.sameLetters f.name name = false := by
        rw [← Text.sameLetters_congr_right same]
        exact others factory later
      simp only [List.find?_cons, other]
      exact ih apart later

end Registry

open Command

/-- AUTH finds a mechanism just if one that may be used has the name, and mechanisms can have it. -/
theorem isSome_find?_iff {κ : Type} {policy : AuthPolicy} (distinct : policy.registry.Distinct)
    (s : Session κ) (name : String) :
    (AuthPolicy.find? policy s name).isSome = true ↔
      Grammar.isMechanismName name = true ∧
        ∃ known ∈ policy.available s, Text.sameLetters known.name name = true := by
  constructor
  · intro found
    obtain ⟨factory, found⟩ := Option.isSome_iff_exists.mp found
    obtain ⟨registered, usable⟩ := Option.filter_eq_some_iff.mp found
    obtain ⟨valid, allowed⟩ := Bool.and_eq_true_iff.mp usable
    have member := List.mem_of_find?_eq_some registered
    rw [Registry.get?] at registered
    have same := List.find?_some registered
    exact ⟨valid, factory, List.mem_filter.mpr ⟨member, allowed⟩, same⟩
  · rintro ⟨valid, factory, available, same⟩
    obtain ⟨member, allowed⟩ := List.mem_filter.mp available
    rw [AuthPolicy.find?, distinct.get?_eq member same, Option.filter_some, valid, allowed]
    rfl

end SmtpDialog
