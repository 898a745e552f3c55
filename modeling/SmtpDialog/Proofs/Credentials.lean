/- digest: What PLAIN and LOGIN have asked a credential check when they name an identity. -/
import SmtpDialog.Proofs.Utf8
import SmtpDialog.Sasl.Login
import SmtpDialog.Sasl.Plain

set_option autoImplicit false
set_option relaxedAutoImplicit false

namespace SmtpDialog

namespace Mechanism

/-- The responses that a mechanism hears and what it does on each, the latest first. -/
def hearings (m : Mechanism) : List Bytes → List (Bytes × Reaction)
  | [] => []
  | response :: rest => (response, m.behaviour (response :: rest ++ m.heard)) :: hearings m rest

def checks (m : Mechanism) (responses : List Bytes) : List CheckedCredentials :=
  (m.hearings responses).reverse.flatMap (·.2.checks)

theorem checks_cons (m : Mechanism) (fresh : m.heard = []) (response : Bytes)
    (responses : List Bytes) :
    m.checks (response :: responses) =
      m.checks responses ++ (m.behaviour (response :: responses)).checks := by
  rw [checks, hearings, List.reverse_cons, List.flatMap_append, List.flatMap_singleton, fresh,
    List.append_nil, checks]

/-- The state after some responses, the latest first, and the last reaction. -/
def after {σ : Type} (first : σ) (step : σ → Bytes → σ × Reaction) (responses : List Bytes) :
    σ × Reaction :=
  responses.foldr (fun response last => step last.1 response) (first, Reaction.idle)

theorem ofStates_behaviour_cons {σ : Type} (name : String) (first : σ)
    (step : σ → Bytes → σ × Reaction) (response : Bytes) (responses : List Bytes) :
    (ofStates name first step).behaviour (response :: responses) =
      (step (after first step responses).1 response).2 := rfl

end Mechanism

/-- What is known of an exchange in which a mechanism has asked once and was told an identity. -/
structure Vouched (check : CredentialCheck) (m : Mechanism) (responses : List Bytes)
    (identity authzid authcid : String) (credential : Bytes) : Prop where
  asked : m.checks responses = [check.ask authzid authcid credential]
  authorized : check authzid authcid credential = .ok (.authorized identity)
  authcid : (m.behaviour responses).authcid? = some authcid

/-- A mechanism that has not asked before the last response vouches by what it does on that. -/
theorem Vouched.of_last {check : CredentialCheck} {m : Mechanism} {response credential : Bytes}
    {rest : List Bytes} {identity authzid authcid : String} (fresh : m.heard = [])
    (silent : m.checks rest = [])
    (asked : (m.behaviour (response :: rest)).checks = [check.ask authzid authcid credential])
    (authorized : check authzid authcid credential = .ok (.authorized identity))
    (named : (m.behaviour (response :: rest)).authcid? = some authcid) :
    Vouched check m (response :: rest) identity authzid authcid credential where
  asked := by rw [Mechanism.checks_cons m fresh, silent, asked, List.nil_append]
  authorized := authorized
  authcid := named

theorem Text.pieces_eq_cons {α : Type} [DecidableEq α] {separator : α} {xs piece : List α}
    {rest : List (List α)} (cut : pieces separator xs = piece :: rest) :
    separator ∉ piece ∧ ((xs = piece ∧ rest = []) ∨
      ∃ back, xs = piece ++ separator :: back ∧ pieces separator back = rest) := by
  induction xs generalizing piece with
  | nil =>
    obtain ⟨rfl, rfl⟩ := List.cons_eq_cons.mp cut
    exact ⟨List.not_mem_nil, .inl ⟨rfl, rfl⟩⟩
  | cons x xs ih =>
    rw [pieces] at cut
    split at cut
    · rename_i same
      obtain ⟨rfl, others⟩ := List.cons_eq_cons.mp cut
      exact ⟨List.not_mem_nil, .inr ⟨xs, by rw [same]; rfl, others⟩⟩
    · rename_i differs
      cases found : pieces separator xs with
      | nil =>
        rw [found] at cut
        obtain ⟨rfl, rfl⟩ := List.cons_eq_cons.mp cut
        cases xs with
        | nil => exact ⟨by simpa [eq_comm] using differs, .inl ⟨rfl, rfl⟩⟩
        | cons y ys =>
          rw [pieces] at found
          split at found
          · contradiction
          · split at found <;> contradiction
      | cons first others =>
        rw [found] at cut
        obtain ⟨rfl, rfl⟩ := List.cons_eq_cons.mp cut
        obtain ⟨free, shape⟩ := ih found
        refine ⟨by simpa [eq_comm] using And.intro differs free, ?_⟩
        rcases shape with ⟨rfl, rfl⟩ | ⟨back, rfl, same⟩
        · exact .inl ⟨rfl, rfl⟩
        · exact .inr ⟨back, rfl, same⟩

theorem Text.eq_of_three_pieces {α : Type} [DecidableEq α] {separator : α} {xs a b c : List α}
    (cut : pieces separator xs = [a, b, c]) :
    xs = a ++ separator :: (b ++ separator :: c) ∧ separator ∉ a ∧ separator ∉ b := by
  obtain ⟨freeA, ⟨-, absurd⟩ | ⟨ys, rfl, cut₁⟩⟩ := pieces_eq_cons cut
  · contradiction
  obtain ⟨freeB, ⟨-, absurd⟩ | ⟨zs, rfl, cut₂⟩⟩ := pieces_eq_cons cut₁
  · contradiction
  obtain ⟨-, ⟨rfl, -⟩ | ⟨ws, -, cut₃⟩⟩ := pieces_eq_cons cut₂
  · exact ⟨rfl, freeA, freeB⟩
  · cases ws with
    | nil => contradiction
    | cons w ws =>
      rw [pieces] at cut₃
      split at cut₃
      · contradiction
      · split at cut₃ <;> contradiction

namespace Plain

variable {check : CredentialCheck}

/-- Whether a response is the message of a client (RFC 4616). A NUL ends each of the names, which have
none, so that no response is two messages. -/
structure Sent (response : Bytes) (authzid authcid : String) (password : Bytes) : Prop where
  message : response = Utf8.ofString authzid ++ 0 :: (Utf8.ofString authcid ++ 0 :: password)
  authzid : 0 ∉ Utf8.ofString authzid
  authcid : 0 ∉ Utf8.ofString authcid

theorem sent_of_message? {response password : Bytes} {authzid authcid : String}
    (read : message? response = .ok (authzid, authcid, password)) :
    Sent response authzid authcid password := by
  rw [message?] at read
  split at read
  · rename_i a b c cut
    split at read
    · rename_i readA readB
      split at read
      · contradiction
      · simp only [Except.ok.injEq, Prod.mk.injEq] at read
        obtain ⟨rfl, rfl, rfl⟩ := read
        obtain ⟨message, freeA, freeB⟩ := Text.eq_of_three_pieces cut
        rw [← Utf8.ofString_of_toString? readA, ← Utf8.ofString_of_toString? readB] at message
        rw [← Utf8.ofString_of_toString? readA] at freeA
        rw [← Utf8.ofString_of_toString? readB] at freeB
        exact ⟨message, freeA, freeB⟩
    · contradiction
  · contradiction

def now (check : CredentialCheck) (responses : List Bytes) : Plain :=
  (Mechanism.after {} (step check) responses).1

theorem behaviour_cons (response : Bytes) (responses : List Bytes) :
    (mechanism check).behaviour (response :: responses) =
      (step check (now check responses) response).2 :=
  Mechanism.ofStates_behaviour_cons _ _ _ _ _

private theorem stage_judge (p : Plain) (response : Bytes) :
    (judge check p response).1.stage = .complete := by
  unfold judge
  dsimp only
  split
  · rfl
  · split <;> rfl

private theorem stage_step (check : CredentialCheck) (p : Plain) (response : Bytes) :
    (step check p response).1.stage = .complete ∨
      (p.stage = .initial ∧ response = [] ∧
        (step check p response).1 = { p with stage := .awaitingMessage }) := by
  unfold step
  split
  · rename_i closed
    exact .inl closed
  · rename_i fresh
    exact .inr ⟨fresh, rfl, rfl⟩
  · exact .inl rfl
  · exact .inl (stage_judge p _)

theorem now_cases (check : CredentialCheck) (responses : List Bytes) :
    (responses = [] ∧ now check responses = {}) ∨
      (responses = [[]] ∧ now check responses = { stage := .awaitingMessage }) ∨
      (now check responses).stage = .complete := by
  induction responses with
  | nil => exact .inl ⟨rfl, rfl⟩
  | cons response rest ih =>
    have next : now check (response :: rest) = (step check (now check rest) response).1 := rfl
    rw [next]
    rcases stage_step check (now check rest) response with closed | ⟨fresh, rfl, awaits⟩
    · exact .inr (.inr closed)
    · rcases ih with ⟨rfl, first⟩ | ⟨-, waiting⟩ | closed
      · exact .inr (.inl ⟨rfl, by rw [awaits, first]⟩)
      · rw [waiting] at fresh
        contradiction
      · rw [closed] at fresh
        contradiction

private theorem judge_vouches {p : Plain} {response challenge : Bytes} {identity : String}
    (nobody : p.identity = none)
    (asked : (judge check p response).2.challenge = .ok challenge)
    (somebody : (judge check p response).2.identity = some identity) :
    ∃ authzid authcid password, Sent response authzid authcid password ∧
      check authzid authcid password = .ok (.authorized identity) ∧
      (judge check p response).2.checks = [check.ask authzid authcid password] ∧
      (judge check p response).2.authcid? = some authcid := by
  unfold judge at asked somebody ⊢
  dsimp only at asked somebody ⊢
  cases read : message? response with
  | error fault =>
    rw [read] at asked
    contradiction
  | ok parts =>
    obtain ⟨authzid, authcid, password⟩ := parts
    simp only [read, CredentialCheck.ask] at asked somebody ⊢
    cases answer : check authzid authcid password with
    | error fault =>
      rw [answer] at asked
      contradiction
    | ok verdict =>
      simp only [answer] at somebody ⊢
      cases verdict with
      | denied =>
        have same : p.identity = some identity := somebody
        rw [nobody] at same
        contradiction
      | authorized other =>
        obtain rfl : other = identity := Option.some.inj somebody
        refine ⟨authzid, authcid, password, sent_of_message? read, answer, ?_, rfl⟩
        rw [answer]
        rfl

/-- PLAIN names an identity only where the check has authorized it for the message of the client. -/
theorem vouches {responses : List Bytes} {challenge : Bytes} {identity : String}
    (asked : ((mechanism check).behaviour responses).challenge = .ok challenge)
    (somebody : ((mechanism check).behaviour responses).identity = some identity) :
    ∃ authzid authcid password, (∃ response ∈ responses.head?, Sent response authzid authcid password) ∧
      Vouched check (mechanism check) responses identity authzid authcid password := by
  cases responses with
  | nil => contradiction
  | cons response rest =>
    rw [behaviour_cons] at asked somebody
    -- On the last response the check is asked once, and never on those before it.
    have judged {p : Plain} (before : now check rest = p) (nobody : p.identity = none)
        (acts : step check p response = judge check p response)
        (silent : (mechanism check).checks rest = []) :
        ∃ authzid authcid password,
          (∃ last ∈ (response :: rest).head?, Sent last authzid authcid password) ∧
          Vouched check (mechanism check) (response :: rest) identity authzid authcid password := by
      have last : (mechanism check).behaviour (response :: rest) = (judge check p response).2 := by
        rw [behaviour_cons, before, acts]
      rw [before, acts] at asked somebody
      obtain ⟨authzid, authcid, password, sent, authorized, checks, named⟩ :=
        judge_vouches nobody asked somebody
      rw [← last] at checks named
      exact ⟨authzid, authcid, password, ⟨response, rfl, sent⟩,
        .of_last rfl silent checks authorized named⟩
    rcases now_cases check rest with ⟨rfl, before⟩ | ⟨rfl, before⟩ | closed
    · cases response with
      | nil =>
        rw [before] at somebody
        contradiction
      | cons b bs => exact judged before rfl rfl rfl
    · cases response with
      | nil =>
        rw [before] at asked
        contradiction
      | cons b bs => exact judged before rfl rfl rfl
    · have refused : (step check (now check rest) response).2.challenge =
          .error (.sasl "PLAIN exchange already complete") := by
        unfold step
        rw [closed]
        rfl
      rw [refused] at asked
      contradiction

end Plain

namespace Login

variable {check : CredentialCheck}

def now (check : CredentialCheck) (responses : List Bytes) : Login :=
  (Mechanism.after {} (step check) responses).1

theorem behaviour_cons (response : Bytes) (responses : List Bytes) :
    (mechanism check).behaviour (response :: responses) =
      (step check (now check responses) response).2 :=
  Mechanism.ofStates_behaviour_cons _ _ _ _ _

private theorem stage_judge (l : Login) (username : String) (password : Bytes) :
    (judge check l username password).1.stage = .complete := by
  unfold judge
  dsimp only
  split <;> rfl

theorem now_cases (check : CredentialCheck) (responses : List Bytes) :
    (responses = [] ∧ now check responses = {}) ∨
      (responses = [[]] ∧ now check responses = { stage := .awaitingUsername }) ∨
      (∃ username, responses = [Utf8.ofString username, []] ∧
        now check responses = { stage := .awaitingPassword username }) ∨
      (now check responses).stage = .complete := by
  induction responses with
  | nil => exact .inl ⟨rfl, rfl⟩
  | cons response rest ih =>
    have next : now check (response :: rest) = (step check (now check rest) response).1 := rfl
    rw [next]
    rcases ih with ⟨rfl, first⟩ | ⟨rfl, asked⟩ | ⟨username, -, asked⟩ | closed
    · rw [first]
      cases response with
      | nil => exact .inr (.inl ⟨rfl, rfl⟩)
      | cons b bs => exact .inr (.inr (.inr rfl))
    · rw [asked, step]
      dsimp only
      split
      · rename_i username read
        refine .inr (.inr (.inl ⟨username, ?_, rfl⟩))
        rw [Utf8.ofString_of_toString? read]
      · exact .inr (.inr (.inr rfl))
    · rw [asked]
      exact .inr (.inr (.inr (stage_judge _ _ _)))
    · rw [step, closed]
      exact .inr (.inr (.inr rfl))

private theorem silent (username : Bytes) : (mechanism check).checks [username, []] = [] := by
  have first : (mechanism check).checks [[]] = [] := rfl
  have second : ((mechanism check).behaviour [username, []]).checks = [] := by
    show (step check { stage := .awaitingUsername } username).2.checks = []
    rw [step]
    dsimp only
    split <;> rfl
  rw [Mechanism.checks_cons _ rfl, first, second]
  rfl

private theorem judge_vouches {l : Login} {username identity : String} {password challenge : Bytes}
    (nobody : l.identity = none)
    (asked : (judge check l username password).2.challenge = .ok challenge)
    (somebody : (judge check l username password).2.identity = some identity) :
    check "" username password = .ok (.authorized identity) ∧
      (judge check l username password).2.checks = [check.ask "" username password] ∧
      (judge check l username password).2.authcid? = some username := by
  simp only [judge, CredentialCheck.ask] at asked somebody ⊢
  cases answer : check "" username password with
  | error fault =>
    rw [answer] at asked
    contradiction
  | ok verdict =>
    simp only [answer] at somebody ⊢
    cases verdict with
    | denied =>
      have same : l.identity = some identity := somebody
      rw [nobody] at same
      contradiction
    | authorized other =>
      obtain rfl : other = identity := Option.some.inj somebody
      exact ⟨rfl, rfl, rfl⟩

/-- LOGIN names an identity only where the check has authorized it for the user name and the password
of the client. -/
theorem vouches {responses : List Bytes} {challenge : Bytes} {identity : String}
    (asked : ((mechanism check).behaviour responses).challenge = .ok challenge)
    (somebody : ((mechanism check).behaviour responses).identity = some identity) :
    ∃ username password, responses = [password, Utf8.ofString username, []] ∧
      Vouched check (mechanism check) responses identity "" username password := by
  cases responses with
  | nil => contradiction
  | cons response rest =>
    rw [behaviour_cons] at asked somebody
    rcases now_cases check rest with ⟨rfl, before⟩ | ⟨rfl, before⟩ |
      ⟨username, rfl, before⟩ | closed
    · rw [before] at somebody
      cases response <;> contradiction
    · rw [before, step] at somebody
      dsimp only at somebody
      split at somebody <;> contradiction
    · have last : (mechanism check).behaviour [response, Utf8.ofString username, []] =
          (judge check { stage := .awaitingPassword username } username response).2 := by
        rw [behaviour_cons, before]
        rfl
      rw [← behaviour_cons, last] at asked somebody
      obtain ⟨authorized, checks, named⟩ := judge_vouches rfl asked somebody
      rw [← last] at checks named
      exact ⟨username, response, rfl, .of_last rfl (silent _) checks authorized named⟩
    · have refused : (step check (now check rest) response).2.challenge =
          .error (.sasl "LOGIN exchange already complete") := by
        rw [step, closed]
        rfl
      rw [refused] at asked
      contradiction

end Login

end SmtpDialog
