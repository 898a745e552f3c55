/- digest: What PLAIN and LOGIN do on any responses, and what they ask a credential check. -/
import Mathlib.Data.List.Induction
import SmtpDialog.Proofs.Credentials

/-!
A client may send a mechanism any responses, and go on when the exchange has failed or is over. The
moves of a mechanism say after which responses it prompts for another one and after which it asks a
credential check. A mechanism follows them if it does nothing else: it asks once at most, refuses whatever
leads to no move, and lets no later response change what was settled. PLAIN and LOGIN follow theirs for
every check.
-/

set_option autoImplicit false
set_option relaxedAutoImplicit false

namespace SmtpDialog

namespace CheckedCredentials

def identity? (question : CheckedCredentials) : Option String :=
  match question.answer with
  | .ok (.authorized identity) => some identity
  | _ => none

def authcid? (question : CheckedCredentials) : Option String :=
  question.identity?.map fun _ => question.authcid

theorem identity?_eq_some {question : CheckedCredentials} {identity : String} :
    question.identity? = some identity ↔ question.answer = .ok (.authorized identity) := by
  unfold identity?
  split
  · rename_i same
    rw [same, Option.some.injEq, Except.ok.injEq, Authorization.authorized.injEq]
  · rename_i differs
    exact ⟨nofun, fun same => absurd same (differs identity)⟩

theorem authcid?_eq_some {question : CheckedCredentials} {authcid : String} :
    question.authcid? = some authcid ↔
      question.authcid = authcid ∧ ∃ identity, question.answer = .ok (.authorized identity) := by
  simp only [authcid?, Option.map_eq_some_iff, identity?_eq_some]
  exact ⟨fun ⟨identity, answer, same⟩ => ⟨same, identity, answer⟩,
    fun ⟨same, identity, answer⟩ => ⟨identity, answer, same⟩⟩

end CheckedCredentials

namespace Reaction

/-- Whether a reaction ends the exchange: it refuses the response, or a check has judged. -/
def Ends (reaction : Reaction) : Prop :=
  (∃ fault, reaction.challenge = .error fault) ∨ reaction.checks ≠ []

end Reaction

namespace Mechanism

def lastReaction (m : Mechanism) (responses : List Bytes) : Reaction :=
  (m.reactions responses).getLast?.getD .idle

/-- The questions put to a credential check over some responses. -/
def questions (m : Mechanism) (responses : List Bytes) : List CheckedCredentials :=
  (m.reactions responses).flatMap (·.checks)

private theorem reactions_snoc (m : Mechanism) (responses : List Bytes) (response : Bytes) :
    m.reactions (responses ++ [response]) =
      m.reactions responses ++ [m.behaviour (response :: (responses.reverse ++ m.heard))] := by
  induction responses generalizing m with
  | nil => rfl
  | cons first rest ih =>
    rw [List.reverse_cons, List.append_assoc]
    exact congrArg (m.behaviour (first :: m.heard) :: ·) (ih (m.respond first).2)

theorem lastReaction_concat (m : Mechanism) (responses : List Bytes) (response : Bytes) :
    m.lastReaction (responses ++ [response]) =
      m.behaviour (response :: (responses.reverse ++ m.heard)) := by
  rw [lastReaction, reactions_snoc, List.getLast?_concat, Option.getD_some]

theorem reactions_concat (m : Mechanism) (responses : List Bytes) (response : Bytes) :
    m.reactions (responses ++ [response]) =
      m.reactions responses ++ [m.lastReaction (responses ++ [response])] := by
  rw [lastReaction_concat, reactions_snoc]

theorem questions_concat (m : Mechanism) (responses : List Bytes) (response : Bytes) :
    m.questions (responses ++ [response]) =
      m.questions responses ++ (m.lastReaction (responses ++ [response])).checks := by
  rw [questions, reactions_concat, List.flatMap_append, List.flatMap_singleton, questions]

/-- What a mechanism does on a response that its exchange calls for. -/
inductive Move
  | prompt (challenge : Bytes)
  | ask (authzid authcid : String) (credential : Bytes)

/-- A mechanism makes the moves that belong to the responses so far, and does nothing else. -/
structure Follows (m : Mechanism) (check : CredentialCheck) (moves : List Bytes → Move → Prop) :
    Prop where
  /-- The check is asked once at most. -/
  once : ∀ responses, (m.questions responses).length ≤ 1
  /-- It is asked just where that is the move, and about what the move says. -/
  asks : ∀ responses question, question ∈ (m.lastReaction responses).checks ↔
    ∃ authzid authcid credential, moves responses (.ask authzid authcid credential) ∧
      question = check.ask authzid authcid credential
  /-- Only a prompt or an answer of the check goes to the client; any other reaction is a fault. -/
  answers : ∀ responses challenge, responses ≠ [] →
    ((m.lastReaction responses).challenge = .ok challenge ↔
      moves responses (.prompt challenge) ∨
        (challenge = [] ∧ ∃ question ∈ (m.lastReaction responses).checks,
          ∃ verdict, question.answer = .ok verdict))
  /-- The identity is the one that the check has authorized, from then on. -/
  identity : ∀ responses identity, (m.lastReaction responses).identity = some identity ↔
    ∃ question ∈ m.questions responses, question.answer = .ok (.authorized identity)
  /-- The authentication identity is the one about which the check was asked then. -/
  authcid : ∀ responses authcid, (m.lastReaction responses).authcid? = some authcid ↔
    ∃ question ∈ m.questions responses, question.authcid = authcid ∧
      ∃ identity, question.answer = .ok (.authorized identity)
  /-- The first fault or judgment completes the exchange. -/
  completes : ∀ responses, (m.lastReaction responses).complete ↔
    ∃ reaction ∈ m.reactions responses, reaction.Ends
  /-- From then on every response is refused, and nothing else changes. -/
  shut : ∀ responses response, (m.lastReaction responses).complete →
    ∃ fault, m.lastReaction (responses ++ [response]) =
      { m.lastReaction responses with challenge := .error fault, checks := [] }

def Move.reaction (check : CredentialCheck) : Move → Reaction
  | .prompt challenge => { Reaction.idle with challenge := .ok challenge }
  | .ask authzid authcid credential =>
    let question := check.ask authzid authcid credential
    { challenge := question.answer.map fun _ => []
      complete := true
      identity := question.identity?
      negotiated := question.authcid?.toList.map ("authcid", ·)
      checks := [question] }

def Single (moves : List Bytes → Move → Prop) : Prop :=
  ∀ ⦃responses move other⦄, moves responses move → moves responses other → move = other

/-- Whether an exchange is still open behind some responses. -/
def Open (moves : List Bytes → Move → Prop) (responses : List Bytes) : Prop :=
  responses = [] ∨ ∃ challenge, moves responses (.prompt challenge)

/-- What a mechanism may do on a response, for an exchange that is open and for one that is over. -/
inductive Reacts (m : Mechanism) (check : CredentialCheck) (moves : List Bytes → Move → Prop)
    (responses : List Bytes) (response : Bytes) : Prop
  | moved (move : Move) (opened : Open moves responses) (called : moves (responses ++ [response]) move)
    (reaction : m.lastReaction (responses ++ [response]) = move.reaction check)
  | refused (fault : Fault) (uncalled : ∀ move, ¬ moves (responses ++ [response]) move)
    (opened : Open moves responses)
    (reaction : m.lastReaction (responses ++ [response]) =
      { Reaction.idle with challenge := .error fault, complete := true })
  | closed (fault : Fault) (uncalled : ∀ move, ¬ moves (responses ++ [response]) move)
    (shut : ¬ Open moves responses)
    (reaction : m.lastReaction (responses ++ [response]) =
      { m.lastReaction responses with challenge := .error fault, checks := [] })

/-- How an exchange stands behind some responses. -/
structure Stands (m : Mechanism) (moves : List Bytes → Move → Prop) (responses : List Bytes) :
    Prop where
  complete : (m.lastReaction responses).complete ↔ ¬ Open moves responses
  ended : (∃ reaction ∈ m.reactions responses, reaction.Ends) ↔ ¬ Open moves responses
  /-- The one question, if it was asked, has settled the identities. -/
  settled : ∃ asked : Option CheckedCredentials, m.questions responses = asked.toList ∧
    (m.lastReaction responses).identity = asked.bind (·.identity?) ∧
    (m.lastReaction responses).negotiated =
      (asked.bind (·.authcid?)).toList.map ("authcid", ·)

variable {m : Mechanism} {check : CredentialCheck} {moves : List Bytes → Move → Prop}
  {responses : List Bytes} {response : Bytes}

theorem Move.ends_reaction (move : Move) :
    (move.reaction check).Ends ↔ ∀ challenge, move ≠ .prompt challenge := by
  cases move with
  | prompt challenge => exact ⟨fun ends => by rcases ends with ⟨_, h⟩ | h <;> contradiction,
      fun other => absurd rfl (other challenge)⟩
  | ask authzid authcid credential => exact ⟨fun _ _ => nofun, fun _ => .inr nofun⟩

theorem Move.reaction_by_answer (check : CredentialCheck) (authzid authcid : String)
    (credential : Bytes) :
    Move.reaction check (.ask authzid authcid credential) =
      let question := check.ask authzid authcid credential
      match question.answer with
      | .error fault => ⟨.error fault, true, none, [], [question]⟩
      | .ok .denied => ⟨.ok [], true, none, [], [question]⟩
      | .ok (.authorized identity) =>
        ⟨.ok [], true, some identity, [("authcid", authcid)], [question]⟩ := by
  simp only [Move.reaction, CheckedCredentials.authcid?, CheckedCredentials.identity?]
  rcases (check.ask authzid authcid credential).answer with fault | identity | _ <;> rfl

theorem Stands.nil : m.Stands moves [] where
  complete := ⟨nofun, fun shut => absurd (.inl rfl) shut⟩
  ended := ⟨nofun, fun shut => absurd (.inl rfl) shut⟩
  settled := ⟨none, rfl, rfl, rfl⟩

theorem Stands.questions_of_open (stands : m.Stands moves responses)
    (opened : Open moves responses) : m.questions responses = [] := by
  refine List.flatMap_eq_nil_iff.mpr fun reaction found => ?_
  exact Decidable.byContradiction fun asked =>
    stands.ended.mp ⟨reaction, found, .inr asked⟩ opened

private theorem exists_ends_concat :
    (∃ reaction ∈ m.reactions (responses ++ [response]), reaction.Ends) ↔
      (∃ reaction ∈ m.reactions responses, reaction.Ends) ∨
        (m.lastReaction (responses ++ [response])).Ends := by
  rw [reactions_concat]
  simp only [List.mem_append, List.mem_singleton, or_and_right, exists_or, exists_eq_left]

private theorem not_open_concat (uncalled : ∀ move, ¬ moves (responses ++ [response]) move) :
    ¬ Open moves (responses ++ [response]) := by
  rintro (none | ⟨challenge, called⟩)
  · exact List.concat_ne_nil _ _ none
  · exact uncalled _ called

/-- A reaction takes an exchange from one standing to the next. -/
theorem Stands.concat (unique : Single moves)
    (stands : m.Stands moves responses) (reacts : m.Reacts check moves responses response) :
    m.Stands moves (responses ++ [response]) := by
  cases reacts with
  | moved move opened called reaction =>
    have quiet := stands.questions_of_open opened
    have continues : ¬ Open moves (responses ++ [response]) ↔
        ∀ challenge, move ≠ .prompt challenge := by
      constructor
      · rintro shut challenge rfl
        exact shut (.inr ⟨challenge, called⟩)
      · rintro other (none | ⟨challenge, prompts⟩)
        · exact List.concat_ne_nil _ _ none
        · exact other challenge (unique called prompts)
    refine ⟨?_, ?_, ?_⟩
    · rw [reaction, continues]
      cases move with
      | prompt challenge => exact ⟨nofun, fun other => absurd rfl (other challenge)⟩
      | ask authzid authcid credential => exact ⟨fun _ _ => nofun, fun _ => rfl⟩
    · rw [exists_ends_concat, reaction, Move.ends_reaction, continues]
      exact or_iff_right fun ended => stands.ended.mp ended opened
    · rw [questions_concat, quiet, reaction]
      cases move with
      | prompt challenge => exact ⟨none, rfl, rfl, rfl⟩
      | ask authzid authcid credential => exact ⟨some _, rfl, rfl, rfl⟩
  | refused fault uncalled opened reaction =>
    have shut := not_open_concat uncalled
    refine ⟨?_, ?_, none, ?_, ?_, ?_⟩
    · rw [reaction]
      exact iff_of_true rfl shut
    · rw [exists_ends_concat, reaction]
      exact iff_of_true (.inr (.inl ⟨fault, rfl⟩)) shut
    · rw [questions_concat, stands.questions_of_open opened, reaction]
      rfl
    · rw [reaction]
      rfl
    · rw [reaction]
      rfl
  | closed fault uncalled shut reaction =>
    have still := not_open_concat uncalled
    obtain ⟨asked, questions, identity, negotiated⟩ := stands.settled
    refine ⟨?_, ?_, asked, ?_, ?_, ?_⟩
    · rw [reaction]
      exact iff_of_true (stands.complete.mpr shut) still
    · rw [exists_ends_concat]
      exact iff_of_true (.inl (stands.ended.mpr shut)) still
    · rw [questions_concat, questions, reaction, List.append_nil]
    · rw [reaction, ← identity]
    · rw [reaction, ← negotiated]

section Follows

variable (unique : Single moves)
  (reacts : ∀ responses response, m.Reacts check moves responses response)
include unique reacts

theorem Stands.of_reacts (responses : List Bytes) : m.Stands moves responses := by
  induction responses using List.reverseRecOn with
  | nil => exact .nil
  | append_singleton responses response ih => exact ih.concat unique (reacts responses response)

private theorem mem_checks_concat {question : CheckedCredentials} :
    question ∈ (m.lastReaction (responses ++ [response])).checks ↔
      ∃ authzid authcid credential,
        moves (responses ++ [response]) (.ask authzid authcid credential) ∧
          question = check.ask authzid authcid credential := by
  cases reacts responses response with
  | moved move opened called reaction =>
    rw [reaction]
    cases move with
    | prompt challenge =>
      exact iff_of_false List.not_mem_nil fun ⟨_, _, _, asks, _⟩ => nomatch unique called asks
    | ask authzid authcid credential =>
      refine List.mem_singleton.trans ⟨fun same => ⟨_, _, _, called, same⟩, ?_⟩
      rintro ⟨_, _, _, asks, rfl⟩
      cases unique called asks
      rfl
  | refused fault uncalled opened reaction =>
    rw [reaction]
    exact iff_of_false List.not_mem_nil fun ⟨_, _, _, asks, _⟩ => uncalled _ asks
  | closed fault uncalled shut reaction =>
    rw [reaction]
    exact iff_of_false List.not_mem_nil fun ⟨_, _, _, asks, _⟩ => uncalled _ asks

private theorem challenge_concat {challenge : Bytes} :
    (m.lastReaction (responses ++ [response])).challenge = .ok challenge ↔
      moves (responses ++ [response]) (.prompt challenge) ∨
        (challenge = [] ∧ ∃ question ∈ (m.lastReaction (responses ++ [response])).checks,
          ∃ verdict, question.answer = .ok verdict) := by
  have refusal (uncalled : ∀ move, ¬ moves (responses ++ [response]) move) :
      ¬ (moves (responses ++ [response]) (.prompt challenge) ∨
        (challenge = [] ∧ ∃ question ∈ ([] : List CheckedCredentials),
          ∃ verdict, question.answer = .ok verdict)) := by
    rintro (prompts | ⟨-, _, asked, -⟩)
    · exact uncalled _ prompts
    · exact List.not_mem_nil asked
  cases reacts responses response with
  | moved move opened called reaction =>
    rw [reaction]
    cases move with
    | prompt own =>
      constructor
      · intro same
        obtain rfl : own = challenge := Except.ok.inj same
        exact .inl called
      · rintro (prompts | ⟨-, _, asked, -⟩)
        · cases unique called prompts
          rfl
        · exact absurd asked List.not_mem_nil
    | ask authzid authcid credential =>
      have never : ¬ moves (responses ++ [response]) (.prompt challenge) :=
        fun prompts => nomatch unique called prompts
      rw [or_iff_right never]
      simp only [Move.reaction, List.mem_singleton, exists_eq_left]
      cases check.ask authzid authcid credential |>.answer with
      | error fault => exact iff_of_false nofun fun ⟨_, _, same⟩ => nomatch same
      | ok verdict =>
        rw [Except.map, Except.ok.injEq]
        exact ⟨fun same => ⟨same.symm, verdict, rfl⟩, fun ⟨same, _⟩ => same.symm⟩
  | refused fault uncalled opened reaction =>
    rw [reaction]
    exact iff_of_false nofun (refusal uncalled)
  | closed fault uncalled shut reaction =>
    rw [reaction]
    exact iff_of_false nofun (refusal uncalled)

/-- A mechanism follows its moves if it does so on each single response. -/
theorem follows_of_reacts (silent : ∀ move, ¬ moves [] move) : m.Follows check moves where
  once responses := by
    obtain ⟨asked, questions, -⟩ := (Stands.of_reacts unique reacts responses).settled
    rw [questions]
    exact Option.length_toList_le
  asks responses question := by
    cases responses using List.reverseRecOn with
    | nil => exact iff_of_false List.not_mem_nil fun ⟨_, _, _, asks, _⟩ => silent _ asks
    | append_singleton responses response => exact mem_checks_concat unique reacts
  answers responses challenge some := by
    cases responses using List.reverseRecOn with
    | nil => contradiction
    | append_singleton responses response => exact challenge_concat unique reacts
  identity responses identity := by
    obtain ⟨asked, questions, same, -⟩ := (Stands.of_reacts unique reacts responses).settled
    rw [same, questions]
    simp only [Option.bind_eq_some_iff, CheckedCredentials.identity?_eq_some, Option.mem_toList]
  authcid responses authcid := by
    obtain ⟨asked, questions, -, same⟩ := (Stands.of_reacts unique reacts responses).settled
    have named : (m.lastReaction responses).authcid? = asked.bind (·.authcid?) := by
      rw [Reaction.authcid?, Reaction.negotiated?, same]
      cases asked.bind (·.authcid?) <;> rfl
    rw [named, questions]
    simp only [Option.bind_eq_some_iff, CheckedCredentials.authcid?_eq_some, Option.mem_toList]
  completes responses :=
    let stands := Stands.of_reacts unique reacts responses
    stands.complete.trans stands.ended.symm
  shut responses response complete := by
    have shut := (Stands.of_reacts unique reacts responses).complete.mp complete
    cases reacts responses response with
    | moved move opened => exact absurd opened shut
    | refused fault uncalled opened => exact absurd opened shut
    | closed fault uncalled _ reaction => exact ⟨fault, reaction⟩

end Follows

end Mechanism

theorem Text.length_pieces {α : Type} [DecidableEq α] (separator : α) (xs : List α) :
    (pieces separator xs).length = xs.count separator + 1 := by
  induction xs with
  | nil => rfl
  | cons x xs ih =>
    rw [pieces]
    split
    · rename_i same
      rw [List.length_cons, ih, same, List.count_cons_self]
    · rename_i differs
      rw [List.count_cons_of_ne differs]
      cases found : pieces separator xs with
      | nil => rw [found] at ih; contradiction
      | cons piece rest => rw [found] at ih; exact ih

theorem Text.pieces_of_free {α : Type} [DecidableEq α] {separator : α} {xs : List α}
    (free : separator ∉ xs) : pieces separator xs = [xs] := by
  induction xs with
  | nil => rfl
  | cons x xs ih =>
    rw [List.mem_cons, not_or] at free
    rw [pieces, if_neg (Ne.symm free.1), ih free.2]

theorem Text.pieces_append_cons {α : Type} [DecidableEq α] {separator : α} {piece rest : List α}
    (free : separator ∉ piece) :
    pieces separator (piece ++ separator :: rest) = piece :: pieces separator rest := by
  induction piece with
  | nil => rw [List.nil_append, pieces, if_pos rfl]
  | cons x xs ih =>
    rw [List.mem_cons, not_or] at free
    rw [List.cons_append, pieces, if_neg (Ne.symm free.1), ih free.2]

theorem Utf8.toString?_ofString (text : String) : toString? (ofString text) = some text := by
  rw [toString?, ofString, decode?_encode, Option.map_some, String.ofList_toList]

theorem Utf8.ofString_injective {text other : String} (same : ofString text = ofString other) :
    text = other := by
  have read := toString?_ofString text
  rw [same, toString?_ofString, Option.some.injEq] at read
  exact read.symm

theorem Mechanism.lastReaction_ofStates {σ : Type} (name : String) (first : σ)
    (step : σ → Bytes → σ × Reaction) (responses : List Bytes) (response : Bytes) :
    (ofStates name first step).lastReaction (responses ++ [response]) =
      (step (after first step responses.reverse).1 response).2 := by
  rw [lastReaction_concat, ← ofStates_behaviour_cons name]
  exact congrArg (fun heard => (ofStates name first step).behaviour (response :: heard))
    (List.append_nil _)

/-- If each reaction shows the state that it leaves, so does the last one. -/
theorem Mechanism.lastReaction_shows {σ : Type} {name : String} {first : σ}
    {step : σ → Bytes → σ × Reaction}
    (view : σ → Except Fault Bytes → List CheckedCredentials → Reaction)
    (idle : Reaction.idle = view first (.ok []) [])
    (shows : ∀ state response, (step state response).2 = view (step state response).1
      (step state response).2.challenge (step state response).2.checks)
    (responses : List Bytes) :
    (ofStates name first step).lastReaction responses =
      view (after first step responses.reverse).1
        ((ofStates name first step).lastReaction responses).challenge
        ((ofStates name first step).lastReaction responses).checks := by
  cases responses using List.reverseRecOn with
  | nil => exact idle
  | append_singleton responses response =>
    rw [lastReaction_ofStates, List.reverse_concat]
    exact shows _ _

namespace Plain

/-- Whether a response is a message that PLAIN can put to a check: two NULs in it, a name before the
first, a name that is not empty before the second. -/
structure Message (response : Bytes) (authzid authcid : String) (password : Bytes) : Prop where
  parts : response = Utf8.ofString authzid ++ 0 :: (Utf8.ofString authcid ++ 0 :: password)
  nuls : response.count 0 = 2
  named : authcid ≠ ""

/-- An empty response asks for the message, and a first message may come without it. -/
inductive Moves : List Bytes → Mechanism.Move → Prop
  | start : Moves [[]] (.prompt [])
  | message {response : Bytes} {authzid authcid : String} {password : Bytes}
    (sent : Message response authzid authcid password) :
    Moves [response] (.ask authzid authcid password)
  | answer {response : Bytes} {authzid authcid : String} {password : Bytes}
    (sent : Message response authzid authcid password) :
    Moves [[], response] (.ask authzid authcid password)

theorem message?_eq_ok {response password : Bytes} {authzid authcid : String} :
    message? response = .ok (authzid, authcid, password) ↔
      Message response authzid authcid password := by
  constructor
  · intro read
    refine ⟨(sent_of_message? read).message, ?_, ?_⟩
    · rw [message?] at read
      split at read
      · rename_i cut
        exact Nat.succ.inj ((Text.length_pieces 0 response).symm.trans (congrArg List.length cut))
      · contradiction
    · rintro rfl
      rw [message?] at read
      split at read
      · split at read
        · split at read
          · contradiction
          · rename_i named
            simp only [Except.ok.injEq, Prod.mk.injEq] at read
            rw [read.2.1] at named
            exact named rfl
        · contradiction
      · contradiction
  · rintro ⟨parts, nuls, named⟩
    have free : 0 ∉ Utf8.ofString authzid ∧ 0 ∉ Utf8.ofString authcid ∧ 0 ∉ password := by
      simp only [parts, List.count_append, List.count_cons_self] at nuls
      simp only [← List.count_eq_zero]
      omega
    have filled : authcid.isEmpty = false := by simpa [String.isEmpty_iff] using named
    have cut : Text.pieces 0 response =
        [Utf8.ofString authzid, Utf8.ofString authcid, password] := by
      rw [parts, Text.pieces_append_cons free.1, Text.pieces_append_cons free.2.1,
        Text.pieces_of_free free.2.2]
    simp only [message?, cut, Utf8.toString?_ofString, filled, Bool.false_eq_true, if_false]

theorem Message.ne_nil {response password : Bytes} {authzid authcid : String}
    (sent : Message response authzid authcid password) : response ≠ [] := by
  rintro rfl
  exact absurd sent.nuls (by decide)

theorem single_moves : Mechanism.Single Moves := by
  have same {response : Bytes} {authzid authcid authzid' authcid' : String}
      {password password' : Bytes} (sent : Message response authzid authcid password)
      (other : Message response authzid' authcid' password') :
      Mechanism.Move.ask authzid authcid password = .ask authzid' authcid' password' := by
    have read := message?_eq_ok.mpr sent
    rw [message?_eq_ok.mpr other, Except.ok.injEq, Prod.mk.injEq, Prod.mk.injEq] at read
    obtain ⟨rfl, rfl, rfl⟩ := read
    rfl
  intro responses move other made made'
  cases made with
  | start =>
    cases made' with
    | start => rfl
    | message sent => exact absurd rfl sent.ne_nil
  | message sent =>
    cases made' with
    | start => exact absurd rfl sent.ne_nil
    | message sent' => exact same sent sent'
  | answer sent =>
    cases made' with
    | answer sent' => exact same sent sent'

variable {check : CredentialCheck}

private theorem lastReaction_concat (responses : List Bytes) (response : Bytes) :
    (mechanism check).lastReaction (responses ++ [response]) =
      (step check (now check responses.reverse) response).2 :=
  Mechanism.lastReaction_ofStates _ _ _ _ _

private theorem step_of_complete {p : Plain} (closed : p.stage = .complete) (response : Bytes) :
    step check p response =
      (p, p.reaction (.error (.sasl "PLAIN exchange already complete")) []) := by
  obtain ⟨stage, identity, authcid⟩ := p
  obtain rfl : stage = .complete := closed
  rfl

private theorem reaction_step (p : Plain) (response : Bytes) :
    (step check p response).2 = (step check p response).1.reaction
      (step check p response).2.challenge (step check p response).2.checks := by
  unfold step
  split
  · rfl
  · rfl
  · rfl
  · unfold judge
    dsimp only
    split
    · rfl
    · split <;> rfl

private theorem lastReaction_eq (responses : List Bytes) :
    (mechanism check).lastReaction responses = (now check responses.reverse).reaction
      ((mechanism check).lastReaction responses).challenge
      ((mechanism check).lastReaction responses).checks :=
  Mechanism.lastReaction_shows reaction rfl reaction_step responses

private theorem judge_cases {p : Plain} (nobody : p.identity = none) (unnamed : p.authcid = none)
    (response : Bytes) :
    (∃ authzid authcid password, Message response authzid authcid password ∧
      (judge check p response).2 = Mechanism.Move.reaction check (.ask authzid authcid password)) ∨
    ((∀ authzid authcid password, ¬ Message response authzid authcid password) ∧
      ∃ fault, (judge check p response).2 =
        { Reaction.idle with challenge := .error fault, complete := true }) := by
  cases read : message? response with
  | error fault =>
    refine .inr ⟨fun authzid authcid password sent => ?_, fault, ?_⟩
    · rw [message?_eq_ok.mpr sent] at read
      contradiction
    · simp only [judge, read, reaction, nobody, unnamed]
      rfl
  | ok parts =>
    obtain ⟨authzid, authcid, password⟩ := parts
    refine .inl ⟨authzid, authcid, password, message?_eq_ok.mp read, ?_⟩
    rw [Mechanism.Move.reaction_by_answer]
    simp only [judge, read, reaction, nobody, unnamed]
    rcases (check.ask authzid authcid password).answer with fault | identity | _ <;> rfl

private theorem reacts_of_judge {responses : List Bytes} {response : Bytes} {p : Plain}
    (before : now check responses.reverse = p) (nobody : p.identity = none)
    (unnamed : p.authcid = none) (acts : step check p response = judge check p response)
    (opened : Mechanism.Open Moves responses)
    (called : ∀ move, Moves (responses ++ [response]) move ↔ ∃ authzid authcid password,
      Message response authzid authcid password ∧ move = .ask authzid authcid password) :
    (mechanism check).Reacts check Moves responses response := by
  have last : (mechanism check).lastReaction (responses ++ [response]) =
      (judge check p response).2 := by
    rw [lastReaction_concat, before, acts]
  rcases judge_cases nobody unnamed response with
    ⟨authzid, authcid, password, sent, reaction⟩ | ⟨unsent, fault, reaction⟩
  · exact .moved _ opened ((called _).mpr ⟨_, _, _, sent, rfl⟩) (last.trans reaction)
  · refine .refused fault (fun move made => ?_) opened (last.trans reaction)
    obtain ⟨_, _, _, sent, -⟩ := (called move).mp made
    exact unsent _ _ _ sent

private theorem open_of_moves {responses : List Bytes} {response : Bytes} {move : Mechanism.Move}
    (made : Moves (responses ++ [response]) move) : Mechanism.Open Moves responses := by
  generalize whole : responses ++ [response] = all at made
  cases made with
  | start => exact .inl (List.append_inj_left' whole rfl)
  | message sent => exact .inl (List.append_inj_left' whole rfl)
  | answer sent =>
    obtain rfl : responses = [[]] := List.append_inj_left' whole rfl
    exact .inr ⟨_, .start⟩

private theorem stage_of_open {responses : List Bytes} (opened : Mechanism.Open Moves responses) :
    (now check responses.reverse).stage ≠ .complete := by
  rcases opened with rfl | ⟨challenge, made⟩
  · nofun
  · cases made
    nofun

theorem reacts (responses : List Bytes) (response : Bytes) :
    (mechanism check).Reacts check Moves responses response := by
  rcases now_cases check responses.reverse with ⟨none, before⟩ | ⟨one, before⟩ | closed
  · obtain rfl := List.reverse_eq_nil_iff.mp none
    cases response with
    | nil => exact .moved _ (.inl rfl) .start rfl
    | cons b bs =>
      refine reacts_of_judge before rfl rfl rfl (.inl rfl) fun move => ⟨?_, ?_⟩
      · rintro (_ | sent)
        exact ⟨_, _, _, sent, rfl⟩
      · rintro ⟨_, _, _, sent, rfl⟩
        exact .message sent
  · obtain rfl : responses = [[]] := List.reverse_eq_iff.mp one
    cases response with
    | nil =>
      refine .refused _ (fun move made => ?_) (.inr ⟨[], .start⟩) rfl
      cases made with
      | answer sent => exact sent.ne_nil rfl
    | cons b bs =>
      refine reacts_of_judge before rfl rfl rfl (.inr ⟨[], .start⟩) fun move => ⟨?_, ?_⟩
      · rintro (_ | _ | sent)
        exact ⟨_, _, _, sent, rfl⟩
      · rintro ⟨_, _, _, sent, rfl⟩
        exact .answer sent
  · refine .closed (.sasl "PLAIN exchange already complete") (fun move made => ?_)
      (fun opened => stage_of_open opened closed) ?_
    · exact stage_of_open (open_of_moves made) closed
    · rw [lastReaction_eq responses, lastReaction_concat, step_of_complete closed]
      rfl

end Plain

namespace Login

/-- An empty response asks for the user name, a text for the password, and anything may be that. -/
inductive Moves : List Bytes → Mechanism.Move → Prop
  | start : Moves [[]] (.prompt (Utf8.ofString "Username:"))
  | username (username : String) :
    Moves [[], Utf8.ofString username] (.prompt (Utf8.ofString "Password:"))
  | password (username : String) (password : Bytes) :
    Moves [[], Utf8.ofString username, password] (.ask "" username password)

theorem single_moves : Mechanism.Single Moves := by
  intro responses move other made made'
  cases made with
  | start =>
    cases made' with
    | start => rfl
  | username username =>
    generalize whole : [[], Utf8.ofString username] = responses at made'
    cases made' with
    | start => cases whole
    | username => rfl
    | password => exact nomatch congrArg List.length whole
  | password username password =>
    generalize whole : [[], Utf8.ofString username, password] = responses at made'
    cases made' with
    | start => cases whole
    | username => exact nomatch congrArg List.length whole
    | password other password' =>
      simp only [List.cons.injEq, true_and, and_true] at whole
      obtain ⟨same, rfl⟩ := whole
      rw [Utf8.ofString_injective same]

variable {check : CredentialCheck}

private theorem lastReaction_concat (responses : List Bytes) (response : Bytes) :
    (mechanism check).lastReaction (responses ++ [response]) =
      (step check (now check responses.reverse) response).2 :=
  Mechanism.lastReaction_ofStates _ _ _ _ _

private theorem reaction_step (l : Login) (response : Bytes) :
    (step check l response).2 = (step check l response).1.reaction
      (step check l response).2.challenge (step check l response).2.checks := by
  unfold step
  split
  · split <;> rfl
  · split <;> rfl
  · unfold judge
    dsimp only
    split <;> rfl
  · rfl

private theorem lastReaction_eq (responses : List Bytes) :
    (mechanism check).lastReaction responses = (now check responses.reverse).reaction
      ((mechanism check).lastReaction responses).challenge
      ((mechanism check).lastReaction responses).checks :=
  Mechanism.lastReaction_shows reaction rfl reaction_step responses

private theorem judge_eq {l : Login} (nobody : l.identity = none) (unnamed : l.authcid = none)
    (username : String) (password : Bytes) :
    (judge check l username password).2 =
      Mechanism.Move.reaction check (.ask "" username password) := by
  rw [Mechanism.Move.reaction_by_answer]
  simp only [judge, reaction, nobody, unnamed]
  rcases (check.ask "" username password).answer with fault | identity | _ <;> rfl

private theorem step_of_complete {l : Login} (closed : l.stage = .complete) (response : Bytes) :
    step check l response =
      (l, l.reaction (.error (.sasl "LOGIN exchange already complete")) []) := by
  obtain ⟨stage, identity, authcid⟩ := l
  obtain rfl : stage = .complete := closed
  rfl

private theorem open_of_moves {responses : List Bytes} {response : Bytes} {move : Mechanism.Move}
    (made : Moves (responses ++ [response]) move) : Mechanism.Open Moves responses := by
  generalize whole : responses ++ [response] = all at made
  cases made with
  | start => exact .inl (List.append_inj_left' whole rfl)
  | username username =>
    obtain rfl : responses = [[]] := List.append_inj_left' whole rfl
    exact .inr ⟨_, .start⟩
  | password username password =>
    obtain rfl : responses = [[], Utf8.ofString username] := List.append_inj_left' whole rfl
    exact .inr ⟨_, .username username⟩

private theorem stage_of_open {responses : List Bytes} (opened : Mechanism.Open Moves responses) :
    (now check responses.reverse).stage ≠ .complete := by
  intro closed
  rcases opened with rfl | ⟨challenge, made⟩
  · contradiction
  · cases made with
    | start => contradiction
    | username username =>
      have waiting : (step check { stage := .awaitingUsername } (Utf8.ofString username)).1.stage =
          .awaitingPassword username := by
        rw [step, Utf8.toString?_ofString]
        rfl
      exact Stage.noConfusion (waiting.symm.trans closed)

theorem reacts (responses : List Bytes) (response : Bytes) :
    (mechanism check).Reacts check Moves responses response := by
  rcases now_cases check responses.reverse with ⟨none, before⟩ | ⟨one, before⟩ |
    ⟨username, two, before⟩ | closed
  · obtain rfl := List.reverse_eq_nil_iff.mp none
    cases response with
    | nil => exact .moved _ (.inl rfl) .start rfl
    | cons b bs => exact .refused _ (fun move made => nomatch made) (.inl rfl) rfl
  · obtain rfl : responses = [[]] := List.reverse_eq_iff.mp one
    have opened : Mechanism.Open Moves [[]] := .inr ⟨_, .start⟩
    have last : (mechanism check).lastReaction ([[]] ++ [response]) = _ :=
      lastReaction_concat [[]] response
    rw [before, step] at last
    dsimp only at last
    split at last
    · rename_i username read
      rw [← Utf8.ofString_of_toString? read] at last ⊢
      exact .moved _ opened (.username username) last
    · rename_i unread
      refine .refused _ (fun move made => ?_) opened last
      generalize whole : [[]] ++ [response] = all at made
      cases made with
      | start => cases whole
      | username username =>
        obtain rfl : response = Utf8.ofString username := by simpa using whole
        rw [Utf8.toString?_ofString] at unread
        contradiction
      | password => cases whole
  · obtain rfl : responses = [[], Utf8.ofString username] := List.reverse_eq_iff.mp two
    refine .moved _ (.inr ⟨_, .username username⟩) (.password username response) ?_
    rw [lastReaction_concat, before]
    exact judge_eq rfl rfl username response
  · refine .closed (.sasl "LOGIN exchange already complete") (fun move made => ?_)
      (fun opened => stage_of_open opened closed) ?_
    · exact stage_of_open (open_of_moves made) closed
    · rw [lastReaction_eq responses, lastReaction_concat, step_of_complete closed]
      rfl

end Login

/-- PLAIN and LOGIN follow their moves for every credential check. -/
theorem follows_moves (check : CredentialCheck) :
    (Plain.mechanism check).Follows check Plain.Moves ∧
      (Login.mechanism check).Follows check Login.Moves :=
  ⟨Mechanism.follows_of_reacts Plain.single_moves Plain.reacts nofun,
    Mechanism.follows_of_reacts Login.single_moves Login.reacts nofun⟩

end SmtpDialog
