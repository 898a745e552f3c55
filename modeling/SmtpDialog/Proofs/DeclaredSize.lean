/- digest: The size that a client declares for its message, against the limit of the server. -/
import Mathlib.Data.Nat.Digits.Defs
import SmtpDialog.Proofs.Envelope
import SmtpDialog.Proofs.IllFormed

/-!
A sender may declare the size of its message in decimal, as one of the parameters of MAIL. A numeral has
a value, however long it is, and leading zeros do not count. The server passes over a value from two to
the 64 on as if nothing were declared, and it takes a parameter that begins with the long s for a size as
well. Main statement: the declared size is honoured just where commands are taken and the first size that
is taken is on the same side of the limit; with no long s in the way, where it is below that bound or
within the limit.
-/

set_option autoImplicit false
set_option relaxedAutoImplicit false

namespace SmtpDialog

open Command

namespace Grammar

def digitValue (c : Char) : Nat := c.toNat - '0'.toNat

/-- The number that a list of decimal digits denotes. -/
def numeral (digits : List Char) : Nat := Nat.ofDigits 10 (digits.reverse.map digitValue)

/-- Whether a parameter declares a size by the given digits, with its keyword in any case. -/
def Declares (parameter digits : List Char) : Prop :=
  (∃ word, word.map Char.toUpper = "SIZE=".toList ∧ parameter = word ++ digits) ∧
    digits ≠ [] ∧ ∀ c ∈ digits, c.isDigit = true

def DeclareOnce (parameters : String) (digits : List Char) : Prop :=
  ∃ before parameter after, Text.pieces ' ' parameters.toList = before ++ parameter :: after ∧
    Declares parameter digits ∧ ∀ other ∈ before ++ after, ∀ others, ¬Declares other others

theorem numeral_cons (c : Char) (cs : List Char) :
    numeral (c :: cs) = digitValue c * 10 ^ cs.length + numeral cs := by
  rw [numeral, List.reverse_cons, List.map_append, Nat.ofDigits_append, numeral]
  simp [Nat.add_comm, Nat.mul_comm]

theorem foldl_eq_numeral (digits : List Char) (first : Nat) :
    digits.foldl (fun n c => n * 10 + (c.toNat - '0'.toNat)) first =
      first * 10 ^ digits.length + numeral digits := by
  induction digits generalizing first with
  | nil => simp [numeral]
  | cons c cs ih =>
    rw [List.foldl_cons, ih, numeral_cons, digitValue, List.length_cons, Nat.pow_succ]
    ring

theorem numeral_dropWhile (digits : List Char) :
    numeral (digits.dropWhile (· == '0')) = numeral digits := by
  induction digits with
  | nil => rfl
  | cons c cs ih =>
    rw [List.dropWhile_cons]
    split
    · rename_i zero
      obtain rfl : c = '0' := beq_iff_eq.mp zero
      rw [ih, numeral_cons]
      simp [digitValue]
    · rfl

/-- A numeral of more than twenty digits is not below the bound, unless it begins with a zero. -/
theorem sizeBound_le_numeral {digits : List Char} (all : ∀ c ∈ digits, c.isDigit = true)
    (first : ∀ c ∈ digits.head?, c ≠ '0') (long : 20 < digits.length) :
    sizeBound ≤ numeral digits := by
  cases digits with
  | nil => exact absurd long (Nat.not_lt_zero 20)
  | cons c cs =>
    have digit : 1 ≤ digitValue c := by
      have above : '0'.toNat ≤ c.toNat := by
        have range := all c List.mem_cons_self
        simp only [Char.isDigit, Bool.and_eq_true, decide_eq_true_eq] at range
        exact UInt32.le_iff_toNat_le.mp range.1
      have other : c.toNat ≠ '0'.toNat := fun same => first c rfl (Char.toNat_inj.mp same)
      rw [digitValue]
      omega
    have enough : 20 ≤ cs.length := Nat.le_of_lt_succ long
    calc sizeBound ≤ 10 ^ 20 := by decide
      _ ≤ 10 ^ cs.length := Nat.pow_le_pow_right (by decide) enough
      _ ≤ digitValue c * 10 ^ cs.length := Nat.le_mul_of_pos_left _ digit
      _ ≤ numeral (c :: cs) := by
        rw [numeral_cons]
        exact Nat.le_add_right _ _

/-- A numeral is taken if its value is below the bound. -/
theorem size?_eq {digits : List Char} (filled : digits ≠ [])
    (all : ∀ c ∈ digits, c.isDigit = true) :
    size? digits = if numeral digits < sizeBound then some (numeral digits) else none := by
  have plain : (digits.isEmpty || !digits.all Char.isDigit) = false := by
    simpa [filled] using all
  have fold := foldl_eq_numeral (digits.dropWhile (· == '0')) 0
  rw [Nat.zero_mul, Nat.zero_add, numeral_dropWhile] at fold
  rw [size?, plain, if_neg Bool.false_ne_true]
  dsimp only
  rw [fold]
  split
  · rename_i long
    have longer : 20 < (digits.dropWhile (· == '0')).length := by simpa using long
    have large := sizeBound_le_numeral
      (fun c member => all c ((List.dropWhile_sublist _).subset member))
      (fun c member => by
        have stops := List.head?_dropWhile_not (· == '0') digits
        rw [Option.mem_def.mp member] at stops
        simpa using stops) longer
    rw [numeral_dropWhile] at large
    rw [if_neg (Nat.not_lt_of_le large)]
  · rfl

theorem digits_of_size? {digits : List Char} {n : Nat} (taken : size? digits = some n) :
    digits ≠ [] ∧ ∀ c ∈ digits, c.isDigit = true := by
  unfold size? at taken
  split at taken
  · contradiction
  · rename_i plain
    simpa using plain

variable {parameter digits : List Char} {parameters : String}

private theorem ize_small : ['i', 'z', 'e', '='].any Char.isUpper = false := by decide

theorem sizeParameter?_of_declares (declares : Declares parameter digits) :
    sizeParameter? parameter =
      if numeral digits < sizeBound then some (numeral digits) else none := by
  obtain ⟨⟨word, spelled, rfl⟩, filled, all⟩ := declares
  cases word with
  | nil => exact absurd spelled (by decide)
  | cons c word =>
    obtain ⟨first, others⟩ := List.cons_eq_cons.mp spelled
    have letter : Text.isLetter 's' c = true := (Text.isLetter_iff (by decide)).mpr first
    have behind : Text.afterKeyword ['i', 'z', 'e', '='] (word ++ digits) = some digits :=
      (Text.afterKeyword_eq_some ize_small).mpr ⟨word, others, rfl⟩
    rw [List.cons_append, sizeParameter?, if_pos (by simp [letter]), behind, Option.bind_some,
      size?_eq filled all]

theorem declares_of_sizeParameter? {n : Nat} (taken : sizeParameter? parameter = some n) :
    (∃ digits, Declares parameter digits) ∨ parameter.head? = some 'ſ' := by
  unfold sizeParameter? at taken
  split at taken
  · contradiction
  · rename_i c cs
    split at taken
    · rename_i begins
      obtain ⟨digits, behind, denotes⟩ := Option.bind_eq_some_iff.mp taken
      obtain ⟨word, spelled, rfl⟩ := (Text.afterKeyword_eq_some ize_small).mp behind
      rcases Bool.or_eq_true_iff.mp begins with letter | long
      · have first := (Text.isLetter_iff (by decide)).mp letter
        refine .inl ⟨digits, ⟨c :: word, ?_, rfl⟩, digits_of_size? denotes⟩
        rw [List.map_cons, first, spelled]
        decide
      · exact .inr (by rw [beq_iff_eq.mp long]; rfl)
    · contradiction

/-- Where one parameter declares a size, and none begins with the long s, the server takes that size if
it is below the bound. -/
theorem declaredSize?_of_once (once : DeclareOnce parameters digits)
    (plain : ∀ other ∈ Text.pieces ' ' parameters.toList, other.head? ≠ some 'ſ') :
    declaredSize? parameters =
      if numeral digits < sizeBound then some (numeral digits) else none := by
  obtain ⟨before, parameter, after, parts, declares, alone⟩ := once
  have none_taken {others : List (List Char)} (sub : ∀ other ∈ others, other ∈ before ++ after) :
      others.findSome? sizeParameter? = none := by
    refine List.findSome?_eq_none_iff.mpr fun other member => ?_
    cases taken : sizeParameter? other with
    | none => rfl
    | some n =>
      have inside := sub other member
      have listed : other ∈ Text.pieces ' ' parameters.toList := by
        rw [parts]
        rcases List.mem_append.mp inside with early | late
        · exact List.mem_append_left _ early
        · exact List.mem_append_right _ (List.mem_cons_of_mem _ late)
      rcases declares_of_sizeParameter? taken with ⟨digits, declares⟩ | long
      · exact absurd declares (alone other inside digits)
      · exact absurd long (plain other listed)
  rw [declaredSize?, parts, List.findSome?_append,
    none_taken fun other member => List.mem_append_left _ member, Option.none_or,
    List.findSome?_cons, sizeParameter?_of_declares declares,
    none_taken fun other member => List.mem_append_right _ member]
  split
  · rename_i taken
    exact taken.symm
  · rename_i taken
    exact taken.symm

end Grammar

namespace Server

variable {κ : Type} {config : Config} {features : List Feature} {s : Session κ} {line : Line}
  {newMail : Session κ → MailBehaviour} {custom : κ → Hook κ} {peer : String}

/-- Whether a server honours a declared size: a greater one than the limit is refused and leaves the
session as it was, and up to the limit a mail object is told of the sender and its answer is the reply. -/
structure HonoursSize (server : Server κ) (s : Session κ) (line : Line) (size : Nat) : Prop where
  above : server.config.maxMessageSize < size →
    ∃ reply, reply.code? = some 552 ∧ server.consume s line = (.ok reply, s)
  within : size ≤ server.config.maxMessageSize → ∃ path parameters,
    (server.consume s line).2.requests =
      .mailCalled s.mailsOpened (.mailFrom path parameters) (server.consume s line).1 ::
        .mailOpened s.mailsOpened s.peerName :: s.requests

private theorem idle_of_honoursSize {past : List (Passage κ)} {size : Nat}
    (run : Run (ofFeatures config newMail custom features) peer past s)
    (terminated : line.isTerminated = true)
    (honours : HonoursSize (ofFeatures config newMail custom features) s line size) :
    s.properties.get? Key.exchange.name = none := by
  cases pending : s.properties.get? Key.exchange.name with
  | none => rfl
  | some v =>
    exfalso
    obtain ⟨⟨e, rfl⟩, -⟩ := run.fits.exchange v pending
    rcases Nat.lt_or_ge (ofFeatures config newMail custom features).config.maxMessageSize size with
      larger | fitting
    · obtain ⟨reply, -, refused⟩ := honours.above larger
      have changed :
          (Outcome.conclude line (takeResponse e line (s.clearProperty .exchange))).2.unlogged ≠
            s.unlogged := unlogged_ne_of_pending pending
      rw [← consume_of_pending run.fits pending, refused] at changed
      exact changed rfl
    · obtain ⟨path, parameters, told⟩ := honours.within fitting
      obtain ⟨calls, grown, quiet⟩ := silent_of_pending run terminated pending
      obtain rfl : calls = [_, _] := List.append_cancel_right (grown.symm.trans told)
      exact Bool.false_ne_true (quiet.symm.trans rfl)

private theorem honoursSize_iff {sender : Grammar.PathArguments} {past : List (Passage κ)}
    (run : Run (ofFeatures config newMail custom features) peer past s)
    (valid : s.state = .afterEhlo) (terminated : line.isTerminated = true)
    (verb : Text.upper line.verb = "MAIL")
    (named : Grammar.reversePath? (Grammar.arguments line.text) = some sender) (size : Nat) :
    HonoursSize (ofFeatures config newMail custom features) s line size ↔
      s.properties.get? Key.exchange.name = none ∧
        (config.maxMessageSize < size ↔ exceedsLimit config sender = true) := by
  have settings : (ofFeatures config newMail custom features).config = config :=
    ofFeatures_site_config
  constructor
  · intro honours
    have idle := idle_of_honoursSize run terminated honours
    obtain ⟨above, within⟩ := honours
    rw [settings] at above within
    have met : (ofFeatures config newMail custom features).consume s line = _ :=
      consume_sender run.fits valid idle terminated verb named
    refine ⟨idle, fun larger => ?_, fun exceeds => ?_⟩
    · obtain ⟨reply, -, refused⟩ := above larger
      refine Decidable.byContradiction fun small => ?_
      have told := beginTransaction_conclude line (ofFeatures config newMail custom features).site
        sender s
      rw [met, if_neg small] at refused
      rw [refused] at told
      have asked : s.Asked s := ⟨_, [_], told⟩
      exact asked.requests_ne rfl
    · refine Nat.lt_of_not_le fun fitting => ?_
      obtain ⟨path, parameters, told⟩ := within fitting
      rw [met, if_pos exceeds] at told
      have asked : s.Asked s := ⟨_, [_], told⟩
      exact asked.requests_ne rfl
  · rintro ⟨idle, same⟩
    have met : (ofFeatures config newMail custom features).consume s line = _ :=
      consume_sender run.fits valid idle terminated verb named
    refine ⟨fun larger => ?_, fun fitting => ?_⟩
    · rw [settings] at larger
      exact ⟨tooLarge config, rfl, by rw [met, if_pos (same.mp larger)]⟩
    · rw [settings] at fitting
      have small : ¬exceedsLimit config sender = true :=
        fun exceeds => Nat.not_lt_of_le fitting (same.mpr exceeds)
      rw [met, if_neg small]
      exact ⟨_, _, beginTransaction_conclude line _ sender s⟩

/-- A size that is declared once is honoured just where commands are taken and the first size that the
server takes is on the same side of the limit. If no parameter begins with the long s, that is where its
value is below the bound or within the limit. -/
theorem size_honoured_iff {p r digits : List Char}
    (reachable : (ofFeatures config newMail custom features).Reachable peer s)
    (valid : s.state = .afterEhlo) (limited : 0 < config.maxMessageSize)
    (terminated : line.isTerminated = true) (spelled : Grammar.Spelled .mail line.chars p r)
    (one : '\n' ∉ r)
    (once : Grammar.DeclareOnce (String.ofList (Text.trim Text.isBlank r)) digits) :
    let server := ofFeatures config newMail custom features
    let parameters := String.ofList (Text.trim Text.isBlank r)
    let size := Grammar.numeral digits
    (HonoursSize server s line size ↔
      s.properties.get? Key.exchange.name = none ∧ (config.maxMessageSize < size ↔
        ∃ taken, Grammar.declaredSize? parameters = some taken ∧ config.maxMessageSize < taken)) ∧
    ((∀ parameter ∈ Text.pieces ' ' parameters.toList, parameter.head? ≠ some 'ſ') →
      (HonoursSize server s line size ↔
        s.properties.get? Key.exchange.name = none ∧
          (size < Grammar.sizeBound ∨ size ≤ config.maxMessageSize))) := by
  obtain ⟨past, run⟩ := reachable
  obtain ⟨verb, named⟩ := Line.sender_iff.mpr ⟨p, r, spelled, one, rfl⟩
  intro server parameters size
  have honours : HonoursSize server s line size ↔ _ :=
    honoursSize_iff run valid terminated verb named size
  have exceeds : exceedsLimit config (Grammar.pathArguments (p, r)) = true ↔
      ∃ taken, Grammar.declaredSize? parameters = some taken ∧ config.maxMessageSize < taken := by
    rw [exceedsLimit, Bool.and_eq_true, decide_eq_true_eq, decide_eq_true_eq,
      and_iff_right limited, show (Grammar.pathArguments (p, r)).parameters = parameters from rfl]
    cases Grammar.declaredSize? parameters <;> simp
  rw [exceeds] at honours
  refine ⟨honours, fun plain => honours.trans (and_congr_right fun _ => ?_)⟩
  rw [Grammar.declaredSize?_of_once once plain]
  by_cases small : Grammar.numeral digits < Grammar.sizeBound
  · simp [size, small]
  · simp [size, small]

/-- A size of one byte too many is refused however many zeros stand before it. -/
theorem size_honoured_iff_of_padded :
    let server := accepting { maxMessageSize := 1000 } Feature.standard
    let s := (server.replay "c.example" [.connect, .line (.ofText "EHLO c.example")]).2
    let digits := "0000000000000000000000001001".toList
    let line := Line.ofText
      (String.ofList ("mail From: <z@s.example> BODY=8BITMIME sIzE=".toList ++ digits))
    Grammar.numeral digits = 1001 ∧
      ∃ reply, reply.code? = some 552 ∧ server.consume s line = (.ok reply, s) := by
  intro server s digits line
  have run : server.Reachable "c.example" s :=
    ⟨_, run_replay server "c.example" _ (by decide +kernel)⟩
  have value : Grammar.numeral digits = 1001 := by decide +kernel
  have spelled : Grammar.Spelled .mail line.chars "z@s.example".toList
      (" BODY=8BITMIME sIzE=".toList ++ digits) :=
    ⟨[], "mail".toList, [' '], "From: ".toList, by rw [Line.chars_ofText]; decide +kernel, nofun,
      by decide +kernel, nofun,
      List.all_eq_true.mp (by decide),
      ⟨"From:".toList, [' '], by decide +kernel, .inr rfl, by decide +kernel⟩, by decide +kernel⟩
  have once : Grammar.DeclareOnce (String.ofList (Text.trim Text.isBlank
      (" BODY=8BITMIME sIzE=".toList ++ digits))) digits := by
    refine ⟨["BODY=8BITMIME".toList], "sIzE=".toList ++ digits, [], by decide +kernel,
      ⟨⟨"sIzE=".toList, by decide +kernel, rfl⟩, by decide +kernel,
        List.all_eq_true.mp (by decide +kernel)⟩, ?_⟩
    rintro other member others ⟨⟨word, keyword, parts⟩, -⟩
    obtain rfl : other = "BODY=8BITMIME".toList := by simpa using member
    cases word with
    | nil => exact absurd keyword (by decide +kernel)
    | cons c word =>
      obtain rfl : 'B' = c := (List.cons_eq_cons.mp parts).1
      exact absurd (List.cons_eq_cons.mp keyword).1 (by decide)
  have ⟨valid, vacant⟩ : s.state = .afterEhlo ∧
      (s.properties.get? Key.exchange.name).isNone = true := by decide +kernel
  have facts := size_honoured_iff run valid (by decide) (by decide +kernel) spelled
    (by decide +kernel) once
  have honours := (facts.2 (by decide +kernel)).mpr
    ⟨Option.isNone_iff_eq_none.mp vacant, .inl (by decide +kernel)⟩
  exact ⟨value, honours.above (by rw [value]; decide)⟩

/-- A size of two to the 64 bytes is let through under a limit of a thousand, and so is one above the limit
behind a parameter with the long s. -/
theorem size_not_always_honoured :
    let server := accepting { maxMessageSize := 1000 } Feature.standard
    let s := (server.replay "c.example" [.connect, .line (.ofText "EHLO c.example")]).2
    server.Reachable "c.example" s ∧ s.state = .afterEhlo ∧
      (s.properties.get? Key.exchange.name).isNone = true ∧
      ∀ sent ∈ [([], "18446744073709551616"), (["ſIZE=1".toList], "1001")],
        let parameters := (sent.1 ++ ["SIZE=".toList ++ sent.2.toList]).flatMap (' ' :: ·)
        let line := Line.ofText (String.ofList ("MAIL FROM:<z@s.example>".toList ++ parameters))
        1000 < Grammar.numeral sent.2.toList ∧
          (server.consume s line).1.toOption = some .ok ∧
          (server.consume s line).2.state = .afterMail ∧
          ¬HonoursSize server s line (Grammar.numeral sent.2.toList) := by
  intro server s
  have run : server.Reachable "c.example" s :=
    ⟨_, run_replay server "c.example" _ (by decide +kernel)⟩
  have ⟨valid, vacant⟩ : s.state = .afterEhlo ∧
      (s.properties.get? Key.exchange.name).isNone = true := by decide +kernel
  refine ⟨run, valid, vacant, ?_⟩
  intro sent member parameters line
  have accepted : 1000 < Grammar.numeral sent.2.toList ∧
      (server.consume s line).1.toOption = some .ok ∧
      (server.consume s line).2.state = .afterMail := by
    rcases List.mem_cons.mp member with rfl | last
    · decide +kernel
    · obtain rfl := List.mem_singleton.mp last
      decide +kernel
  refine ⟨accepted.1, accepted.2.1, accepted.2.2, fun honours => ?_⟩
  obtain ⟨reply, code, refused⟩ := honours.above accepted.1
  have answered := accepted.2.1
  rw [refused] at answered
  obtain rfl : reply = .ok := Option.some.inj answered
  exact absurd code (by decide)

end Server

end SmtpDialog
