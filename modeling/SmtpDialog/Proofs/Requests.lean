/- digest: The lines that a client sends to be authenticated. -/
import SmtpDialog.Proofs.Conduct
import SmtpDialog.Proofs.Spelling

set_option autoImplicit false
set_option relaxedAutoImplicit false

namespace SmtpDialog

open Command

def Line.bringing (response : Bytes) : Line := .ofText (String.ofList (Base64.text response))

/-- What AUTH is given: the name of a mechanism, and perhaps an initial response. -/
def Line.request (name : String) (initial : Option Bytes) : String :=
  name ++ (initial.elim "" fun response => " " ++ String.ofList (initialToken response))

def Line.asking (name : String) (initial : Option Bytes) : Line :=
  .ofText ("AUTH" ++ " " ++ request name initial)

theorem Line.bringing_brings (response : Bytes) : (bringing response).Brings response := by
  rw [Brings, bringing, ofText_eq, content_of_crlf, String.toList_ofList, Base64.encode_text]

theorem Text.trim_of_ends {p : Char → Bool} {cs : List Char} (front : ∀ c ∈ cs.head?, p c = false)
    (back : ∀ c ∈ cs.getLast?, p c = false) : trim p cs = cs := by
  have start : trimStart p cs = cs := by
    cases cs with
    | nil => rfl
    | cons c cs => exact List.dropWhile_cons_of_neg (Bool.eq_false_iff.mp (front c rfl))
  rw [trim, start]
  rcases List.eq_nil_or_concat cs with rfl | ⟨before, last, rfl⟩
  · rfl
  · rw [List.concat_eq_append] at back ⊢
    exact trimEnd_append_cons (back last (by simp)) before []

theorem Base64.isWritten_of_values {offset : Nat} {bs : Bytes} {vs : List Nat}
    (read : values offset bs = .ok vs) : ∀ b ∈ bs, isWritten b = true := by
  induction bs generalizing offset vs with
  | nil => exact fun _ member => absurd member List.not_mem_nil
  | cons b bs ih =>
    rw [values] at read
    split at read
    · rename_i v value
      cases others : values (offset + 1) bs with
      | error flaw => rw [others] at read; contradiction
      | ok rest => exact List.forall_mem_cons.mpr ⟨by rw [isWritten, value]; rfl, ih others⟩
    · split at read
      · rename_i pads
        have padded : ∀ c ∈ bs, isWritten c = true := fun c member => by
          rw [isWritten, List.all_eq_true.mp pads.2.2.2 c member, Bool.or_true]
        exact List.forall_mem_cons.mpr ⟨by rw [pads.1]; rfl, padded⟩
      · contradiction

theorem Base64.exists_flaw {bs : Bytes} {b : UInt8} (member : b ∈ bs) (foreign : isWritten b = false) :
    ∃ flaw, decode bs = .error flaw := by
  rw [decode]
  split
  · exact ⟨_, rfl⟩
  · split
    · exact ⟨_, rfl⟩
    · rename_i read
      rw [isWritten_of_values read b member] at foreign
      contradiction

theorem Text.isBlank_of_isAsciiBlank {c : Char} (blank : isAsciiBlank c = true) : isBlank c = true := by
  simp only [isAsciiBlank, Bool.or_eq_true, beq_iff_eq] at blank
  rcases blank with (((rfl | rfl) | rfl) | rfl) | rfl <;> decide

theorem Grammar.isBlank_of_isMechanismChar {c : Char} (letter : isMechanismChar c = true) :
    Text.isBlank c = false := by
  have range : (48 ≤ c.toNat ∧ c.toNat ≤ 57) ∨ (65 ≤ c.toNat ∧ c.toNat ≤ 90) ∨
      (97 ≤ c.toNat ∧ c.toNat ≤ 122) ∨ c.toNat = 45 ∨ c.toNat = 95 := by
    rw [isMechanismChar, Bool.or_eq_true, Bool.or_eq_true, beq_iff_eq, beq_iff_eq] at letter
    rcases letter with (letter | rfl) | rfl
    · delta Char.isAlphanum Char.isAlpha Char.isUpper Char.isLower Char.isDigit at letter
      simp [UInt32.le_iff_toNat_le] at letter
      omega
    · decide
    · decide
  rw [Bool.eq_false_iff]
  simp only [Text.isBlank, ne_eq, Bool.or_eq_true, Bool.and_eq_true, decide_eq_true_eq, beq_iff_eq]
  omega

private theorem initialToken_ne_nil (response : Bytes) : initialToken response ≠ [] := by
  rw [initialToken]
  split
  · exact List.cons_ne_nil _ _
  · rename_i some
    intro none
    have empty := Base64.encode_text response
    rw [none] at empty
    have read := Base64.decode_encode response
    rw [← empty] at read
    exact some (Except.ok.inj read).symm

private theorem not_isBlank_of_mem_initialToken {response : Bytes} :
    ∀ c ∈ initialToken response, Text.isBlank c = false := by
  rw [initialToken]
  split
  · exact List.forall_mem_singleton.mpr (by decide)
  · exact Base64.not_isBlank_of_mem_text

namespace Line

variable {name : String} {initial : Option Bytes}

theorem toList_request (name : String) (initial : Option Bytes) :
    (request name initial).toList =
      name.toList ++ (initial.elim [] fun response => ' ' :: initialToken response) := by
  rw [request, String.toList_append]
  cases initial with
  | none => rfl
  | some response => simp [String.toList_append]

theorem words_request (named : Grammar.isMechanismName name = true) (initial : Option Bytes) :
    Text.words Text.isAsciiBlank (request name initial).toList =
      name.toList :: (initial.map initialToken).toList := by
  have first := Grammar.words_of_isMechanismName named
  rw [toList_request]
  cases initial with
  | none => rw [Option.elim_none, List.append_nil, first]; rfl
  | some response =>
    have second : Text.words Text.isAsciiBlank (initialToken response) = [initialToken response] := by
      refine Text.words_of_free (initialToken_ne_nil response) fun c member => ?_
      have dark := not_isBlank_of_mem_initialToken c member
      exact Bool.eq_false_iff.mpr fun blank =>
        absurd (Text.isBlank_of_isAsciiBlank blank) (Bool.eq_false_iff.mp dark)
    rw [Option.elim_some, Text.words_append rfl, first, second]
    rfl

theorem not_isBlank_of_getLast?_request (named : Grammar.isMechanismName name = true)
    (initial : Option Bytes) : ∀ c ∈ (request name initial).toList.getLast?, Text.isBlank c = false := by
  intro c last
  have inside := List.mem_of_getLast? last
  rw [toList_request] at inside last
  cases initial with
  | none =>
    rw [Option.elim_none, List.append_nil] at inside
    exact Grammar.isBlank_of_isMechanismChar ((Grammar.isMechanismName_iff.mp named).2 c inside)
  | some response =>
    rw [Option.elim_some, List.append_cons,
      List.getLast?_append_of_ne_nil _ (initialToken_ne_nil response)] at last
    exact not_isBlank_of_mem_initialToken c (List.mem_of_getLast? last)

theorem bare_request (named : Grammar.isMechanismName name = true) (initial : Option Bytes) :
    Bare (request name initial) where
  front := by
    intro c first
    obtain ⟨⟨least, -⟩, letters⟩ := Grammar.isMechanismName_iff.mp named
    rw [toList_request] at first
    cases shape : name.toList with
    | nil => rw [shape] at least; contradiction
    | cons d ds =>
      rw [shape] at first letters
      obtain rfl : d = c := by simpa using first
      have dark := Grammar.isBlank_of_isMechanismChar (letters d List.mem_cons_self)
      exact Bool.eq_false_iff.mpr fun gap =>
        absurd (Text.isBlank_of_isGap d gap) (Bool.eq_false_iff.mp dark)
  back := by
    intro c last
    have dark := not_isBlank_of_getLast?_request named initial c last
    refine ⟨Bool.eq_false_iff.mpr fun gap =>
      absurd (Text.isBlank_of_isGap c gap) (Bool.eq_false_iff.mp dark), ?_⟩
    rintro rfl
    contradiction

/-- A line of AUTH is read as it was made. -/
theorem read_asking {features : List Feature} {policy : AuthPolicy}
    (offered : Feature.policy? features = some policy)
    (named : Grammar.isMechanismName name = true) (initial : Option Bytes) :
    (asking name initial).isTerminated = true ∧ Text.upper (asking name initial).verb = "AUTH" ∧
      Grammar.arguments (asking name initial).text = request name initial := by
  have upper : Text.upper "AUTH" = "AUTH" := by decide +kernel
  have serves : Server.Serves features (Text.upper "AUTH") (Command.auth policy : Handler Empty) := by
    rw [upper]
    exact .auth offered
  have spells := spells_canonical "AUTH" (request name initial)
  rw [upper] at spells
  have read := spells.read serves (bare_request named initial)
  rwa [upper] at read

theorem chars_asking (name : String) (initial : Option Bytes) :
    (asking name initial).chars = "AUTH".toList ++ ' ' :: (request name initial).toList := by
  rw [asking, chars_ofText, String.toList_append, String.toList_append, List.append_assoc]
  rfl

/-- No line of AUTH can be taken for a response. -/
theorem exists_flaw_asking (named : Grammar.isMechanismName name = true) (initial : Option Bytes) :
    let response := Text.trim Text.isBlank (asking name initial).chars
    response ≠ ['*'] ∧ ∃ flaw, Base64.decode (Utf8.encode response) = .error flaw := by
  intro response
  have whole : response = "AUTH".toList ++ ' ' :: (request name initial).toList := by
    rw [← chars_asking]
    refine Text.trim_of_ends (fun c first => ?_) fun c last => ?_
    · rw [chars_asking] at first
      obtain rfl : 'A' = c := by simpa using first
      decide
    · have some : (request name initial).toList ≠ [] := by
        intro none
        have words := words_request named initial
        rw [none] at words
        contradiction
      rw [chars_asking, List.append_cons, List.getLast?_append_of_ne_nil _ some] at last
      exact not_isBlank_of_getLast?_request named initial c last
  have blank : ' ' ∈ response := by
    rw [whole]
    exact List.mem_append_right _ List.mem_cons_self
  refine ⟨fun star => by rw [star] at blank; exact absurd blank (by decide), ?_⟩
  exact Base64.exists_flaw (List.mem_flatMap.mpr ⟨' ', blank, by decide⟩) (b := 32) (by decide)

theorem endsContent_asking (name : String) (initial : Option Bytes) :
    (asking name initial).endsContent = false := by
  rw [endsContent, beq_eq_false_iff_ne]
  intro dot
  have read := chars_asking name initial
  rw [chars, dot] at read
  have first : (Utf8.lossy [46]).head? = some '.' := by decide
  rw [read] at first
  exact absurd first (by simp)

end Line

end SmtpDialog
