/- digest: One pass of a line over the chain of consumers. -/
import Mathlib.Data.List.Induction
import SmtpDialog.Proofs.Consume
import SmtpDialog.Proofs.Views

/-!
A line is offered to the consumers that stand in the chain when it arrives. Any of them may add consumers
and take them away, itself and later ones too, change the session and rewrite the line. `Pass` says who
is visited by a line, in terms of what each visited consumer finds and leaves and without the walk over
the chain. Main statement: every line makes one pass, the outcome is that of its last visit, and the chain
behind it is the chain before it with all that was added and taken away in between. What is remembered of
the line on its way makes no difference.
-/

set_option autoImplicit false
set_option relaxedAutoImplicit false

namespace SmtpDialog

variable {κ : Type}

/-- A consumer that is offered a line: what it finds, what it says and what it leaves. -/
structure Visit (κ : Type) where
  consumer : Consumer κ
  before : Session κ
  seen : Line
  verdict : Except Fault Verdict
  after : Session κ
  left : Line

namespace Visit

/-- Whether a consumer does what it is recorded to have done. -/
def Genuine (server : Server κ) (v : Visit κ) : Prop :=
  (server.hook v.consumer).onLine server.site v.before v.seen = (v.verdict, v.after, v.left)

/-- What visits leave behind, and what is there without any. -/
def leave (visits : List (Visit κ)) (start : Session κ × Line) : Session κ × Line :=
  (visits.getLast?.map fun v => (v.after, v.left)).getD start

/-- The line that remembers, after each of the consumers has used it in its way. -/
def hand (uses : Visit κ → LineUse (Outcome κ)) (visits : List (Visit κ)) (m : RememberingLine) :
    RememberingLine :=
  visits.foldl (fun m v => ((uses v).runRemembering m).2) m

def make (server : Server κ) (consumer : Consumer κ) (s : Session κ) (line : Line) : Visit κ :=
  let done := (server.hook consumer).onLine server.site s line
  ⟨consumer, s, line, done.1, done.2.1, done.2.2⟩

end Visit

/-- The visits that a line pays to consumers in order. Each consumer finds what the one before has left,
and after one that does not decline there are no others. -/
structure Pass (server : Server κ) (consumers : List (Consumer κ)) (s : Session κ) (line : Line)
    (visits : List (Visit κ)) : Prop where
  order : visits.map (·.consumer) <+: consumers
  genuine : ∀ v ∈ visits, v.Genuine server
  found : ∀ earlier v later, visits = earlier ++ v :: later →
    (v.before, v.seen) = Visit.leave earlier (s, line)
  passed : ∀ v ∈ visits.dropLast, v.verdict = .ok .declined
  ended : visits.map (·.consumer) = consumers ∨
    ∃ v ∈ visits.getLast?, v.verdict ≠ .ok .declined

namespace Pass

variable {server : Server κ} {consumer : Consumer κ} {consumers rest : List (Consumer κ)}
  {s : Session κ} {line : Line} {v : Visit κ} {visits visits' later : List (Visit κ)}

theorem leave_cons (v : Visit κ) (visits : List (Visit κ)) (start : Session κ × Line) :
    Visit.leave (v :: visits) start = Visit.leave visits (v.after, v.left) := by
  rw [Visit.leave, Visit.leave, List.getLast?_cons]
  cases visits.getLast? <;> rfl

theorem leave_concat (visits : List (Visit κ)) (v : Visit κ) (start : Session κ × Line) :
    Visit.leave (visits ++ [v]) start = (v.after, v.left) := by
  rw [Visit.leave, List.getLast?_concat]
  rfl

theorem nil_iff : Pass server [] s line visits ↔ visits = [] := by
  constructor
  · exact fun pass => List.map_eq_nil_iff.mp (List.prefix_nil.mp pass.order)
  · rintro rfl
    exact ⟨List.nil_prefix, fun _ member => absurd member List.not_mem_nil,
      fun earlier _ _ parts => by simp at parts, fun _ member => absurd member List.not_mem_nil,
      .inl rfl⟩

theorem exists_later (pass : Pass server (consumer :: rest) s line visits) :
    ∃ later, visits = Visit.make server consumer s line :: later := by
  cases visits with
  | nil => rcases pass.ended with whole | ⟨v, none, -⟩ <;> contradiction
  | cons v later =>
    have genuine := pass.genuine v List.mem_cons_self
    obtain ⟨named, -⟩ := List.cons_prefix_cons.mp pass.order
    obtain ⟨begins, reads⟩ := Prod.mk.inj (pass.found [] v later rfl)
    obtain ⟨c, t, seen, verdict, after, left⟩ := v
    subst named begins reads
    rw [Visit.Genuine] at genuine
    exact ⟨later, by rw [Visit.make, genuine]⟩

theorem tail (pass : Pass server (consumer :: rest) s line (v :: later))
    (declined : v.verdict = .ok .declined) : Pass server rest v.after v.left later where
  order := (List.cons_prefix_cons.mp pass.order).2
  genuine w member := pass.genuine w (List.mem_cons_of_mem _ member)
  found earlier w others parts := by
    rw [pass.found (v :: earlier) w others (by rw [parts]; rfl), leave_cons]
  passed := by
    cases later with
    | nil => exact fun _ member => absurd member List.not_mem_nil
    | cons w later => exact fun u member => pass.passed u (List.mem_cons_of_mem _ member)
  ended := by
    rcases pass.ended with whole | ⟨w, last, decided⟩
    · exact .inl (List.cons.inj whole).2
    · cases later with
      | nil =>
        obtain rfl : v = w := by simpa using last
        exact absurd declined decided
      | cons u later => exact .inr ⟨w, last, decided⟩

theorem tail_eq_nil (pass : Pass server consumers s line (v :: later))
    (decided : v.verdict ≠ .ok .declined) : later = [] := by
  cases later with
  | nil => rfl
  | cons w later => exact absurd (pass.passed v List.mem_cons_self) decided

private theorem found_cons {u w : Visit κ} {earlier more : List (Visit κ)}
    (start : (u.before, u.seen) = (s, line))
    (others : ∀ earlier w more, later = earlier ++ w :: more →
      (w.before, w.seen) = Visit.leave earlier (u.after, u.left))
    (parts : u :: later = earlier ++ w :: more) :
    (w.before, w.seen) = Visit.leave earlier (s, line) := by
  cases earlier with
  | nil =>
    obtain ⟨rfl, -⟩ := List.cons.inj parts
    exact start
  | cons x earlier =>
    obtain ⟨rfl, same⟩ := List.cons.inj parts
    rw [leave_cons]
    exact others earlier w more same

theorem of_declined (declined : (Visit.make server consumer s line).verdict = .ok .declined)
    (others : Pass server rest (Visit.make server consumer s line).after
      (Visit.make server consumer s line).left later) :
    Pass server (consumer :: rest) s line (Visit.make server consumer s line :: later) where
  order := List.cons_prefix_cons.mpr ⟨rfl, others.order⟩
  genuine := List.forall_mem_cons.mpr ⟨rfl, others.genuine⟩
  found _ _ _ parts := found_cons rfl others.found parts
  passed := by
    cases later with
    | nil => exact fun _ member => absurd member List.not_mem_nil
    | cons w later => exact List.forall_mem_cons.mpr ⟨declined, others.passed⟩
  ended := by
    rcases others.ended with whole | ⟨w, last, decided⟩
    · exact .inl (congrArg (consumer :: ·) whole)
    · cases later with
      | nil => contradiction
      | cons u later => exact .inr ⟨w, last, decided⟩

theorem of_decided (rest : List (Consumer κ))
    (decided : (Visit.make server consumer s line).verdict ≠ .ok .declined) :
    Pass server (consumer :: rest) s line [Visit.make server consumer s line] where
  order := List.cons_prefix_cons.mpr ⟨rfl, List.nil_prefix⟩
  genuine := List.forall_mem_singleton.mpr rfl
  found _ _ _ parts := found_cons rfl (fun earlier _ _ none => by simp at none) parts
  passed := fun _ member => absurd member List.not_mem_nil
  ended := .inr ⟨_, rfl, decided⟩

theorem exists_visits (server : Server κ) (consumers : List (Consumer κ)) (s : Session κ)
    (line : Line) : ∃ visits, Pass server consumers s line visits := by
  induction consumers generalizing s line with
  | nil => exact ⟨[], nil_iff.mpr rfl⟩
  | cons consumer rest ih =>
    by_cases declined : (Visit.make server consumer s line).verdict = .ok .declined
    · obtain ⟨later, others⟩ := ih (Visit.make server consumer s line).after
        (Visit.make server consumer s line).left
      exact ⟨_, of_declined declined others⟩
    · exact ⟨_, of_decided rest declined⟩

theorem unique (pass : Pass server consumers s line visits)
    (pass' : Pass server consumers s line visits') : visits = visits' := by
  induction consumers generalizing s line visits visits' with
  | nil => rw [nil_iff.mp pass, nil_iff.mp pass']
  | cons consumer rest ih =>
    obtain ⟨later, rfl⟩ := pass.exists_later
    obtain ⟨later', rfl⟩ := pass'.exists_later
    by_cases declined : (Visit.make server consumer s line).verdict = .ok .declined
    · rw [ih (pass.tail declined) (pass'.tail declined)]
    · rw [pass.tail_eq_nil declined, pass'.tail_eq_nil declined]

/-- The walk over the chain ends with the last visit. -/
theorem offerLine_eq (pass : Pass server consumers s line visits) :
    server.offerLine consumers s line =
      ((visits.getLast?.map (·.verdict)).getD (.ok .declined), Visit.leave visits (s, line)) := by
  induction consumers generalizing s line visits with
  | nil =>
    rw [nil_iff.mp pass]
    rfl
  | cons consumer rest ih =>
    obtain ⟨later, rfl⟩ := pass.exists_later
    have acts : (server.hook consumer).onLine server.site s line =
        ((Visit.make server consumer s line).verdict, (Visit.make server consumer s line).after,
          (Visit.make server consumer s line).left) := rfl
    rw [Server.offerLine, acts, leave_cons, List.getLast?_cons]
    by_cases declined : (Visit.make server consumer s line).verdict = .ok .declined
    · rw [declined]
      dsimp only
      rw [ih (pass.tail declined)]
      cases later.getLast? with
      | none => rw [Option.getD_none, Option.map_some, declined]; rfl
      | some w => rfl
    · obtain rfl := pass.tail_eq_nil declined
      generalize Visit.make server consumer s line = v at declined ⊢
      match verdict : v.verdict, declined with
      | .error fault, _ => simp [Visit.leave, verdict]
      | .ok (.handled a), _ => simp [Visit.leave, verdict]

/-- What a line remembers of itself is true of what each of the consumers finds. -/
theorem upToDate_hand (pass : Pass server consumers s line visits)
    {uses : Visit κ → LineUse (Outcome κ)}
    (does : ∀ v ∈ visits, (uses v).run v.seen = ((v.verdict, v.after), v.left))
    {m : RememberingLine} (current : m.UpToDate line) {earlier : List (Visit κ)}
    (parts : visits = earlier ++ v :: later) : (Visit.hand uses earlier m).UpToDate v.seen := by
  induction earlier using List.reverseRecOn generalizing v later with
  | nil =>
    obtain ⟨-, seen⟩ := Prod.mk.inj (pass.found [] v later parts)
    rw [seen]
    exact current
  | append_singleton earlier w ih =>
    have found := pass.found (earlier ++ [w]) v later parts
    rw [leave_concat] at found
    obtain ⟨-, seen⟩ := Prod.mk.inj found
    rw [List.append_assoc, List.singleton_append] at parts
    have member : w ∈ visits := by
      rw [parts]
      exact List.mem_append_right _ List.mem_cons_self
    obtain ⟨-, left⟩ := (uses w).runRemembering_eq (ih parts)
    rw [does w member] at left
    rw [Visit.hand, List.foldl_append, seen]
    exact left

end Pass

/-- A change of the chain by a consumer. -/
inductive Edit (κ : Type)
  | add (key : String) (consumer : Consumer κ)
  | remove (key : String)

def Edit.apply : Edit κ → Chain (Consumer κ) → Chain (Consumer κ)
  | add key consumer, chain => chain.insert key consumer
  | remove key, chain => chain.erase key

/-- The chain after changes, the first one made first. -/
def Chain.edited (chain : Chain (Consumer κ)) (edits : List (Edit κ)) : Chain (Consumer κ) :=
  edits.foldl (fun chain edit => edit.apply chain) chain

theorem Chain.edited_append (chain : Chain (Consumer κ)) (edits more : List (Edit κ)) :
    chain.edited (edits ++ more) = (chain.edited edits).edited more :=
  List.foldl_append

/-- What the visited consumers do to the chain is done to it, one after the other. -/
theorem Pass.consumers_leave {server : Server κ} {consumers : List (Consumer κ)} {s : Session κ}
    {line : Line} {visits : List (Visit κ)} (pass : Pass server consumers s line visits)
    {edits : Visit κ → List (Edit κ)}
    (made : ∀ v ∈ visits, v.after.consumers = v.before.consumers.edited (edits v)) :
    (Visit.leave visits (s, line)).1.consumers = s.consumers.edited (visits.flatMap edits) := by
  induction consumers generalizing s line visits with
  | nil =>
    rw [nil_iff.mp pass]
    rfl
  | cons consumer rest ih =>
    obtain ⟨later, rfl⟩ := pass.exists_later
    obtain ⟨first, others⟩ := List.forall_mem_cons.mp made
    have start : (Visit.make server consumer s line).before = s := rfl
    rw [start] at first
    rw [List.flatMap_cons, Chain.edited_append, leave_cons, ← first]
    by_cases declined : (Visit.make server consumer s line).verdict = .ok .declined
    · exact ih (pass.tail declined) others
    · rw [pass.tail_eq_nil declined]
      rfl

namespace Server

theorem consumers_settle (t : Answer) (s : Session κ) :
    (settle t s).2.consumers = s.consumers := by
  rw [settle]
  split
  · rw [Session.moveTo]
    split <;> rfl
  · rfl

variable (server : Server κ) (s : Session κ) (line : Line)

private theorem consumers_consume :
    (server.consume s line).2.consumers =
      (server.offerLine s.consumers.values s line).2.1.consumers := by
  rw [consume]
  split
  · rename_i offered
    rw [offered]
  · rename_i offered
    rw [offered, consumers_settle]
  · rename_i offered
    rw [offered]
    rfl

private theorem dispatch_of_genuine {v : Visit κ} (genuine : v.Genuine server)
    (dispatched : v.consumer = .dispatch) :
    v.left = v.seen ∧ (v.verdict, v.after) = server.dispatch.consume server.site v.before v.seen := by
  rw [Visit.Genuine, dispatched] at genuine
  obtain ⟨verdict, others⟩ := Prod.mk.inj genuine
  obtain ⟨after, left⟩ := Prod.mk.inj others
  exact ⟨left.symm, Prod.ext verdict.symm after.symm⟩

/-- A line makes one pass over the chain as it stands when the line arrives. A fault is all that comes of
the line, an answer of the last visit is settled, and a line that all decline is unknown. The chain behind
the pass is the one before it with the changes that were made on the way, and goes for the next line.
Each consumer reads off the line what its bytes say by then, also if the line remembers what was read. -/
theorem consume_pass :
    ∃ visits, Pass server s.consumers.values s line visits ∧
      (∀ visits', Pass server s.consumers.values s line visits' → visits' = visits) ∧
      (∀ v fault, visits.getLast? = some v → v.verdict = .error fault →
        server.consume s line = (.error fault, v.after)) ∧
      (∀ v t, visits.getLast? = some v → v.verdict = .ok (.handled t) →
        server.consume s line = settle t v.after) ∧
      ((∀ v ∈ visits, v.verdict = .ok .declined) →
        let (t, left) := Visit.leave visits (s, line)
        server.consume s line = (.ok .unrecognised, t.logWarn ("Unrecognised command " ++
          Text.quoted (String.ofList (left.verb.toList.take maxVerbShown))))) ∧
      (∀ v ∈ visits, v.consumer = .dispatch → v.left = v.seen ∧
        (v.verdict, v.after) = server.dispatch.consume server.site v.before v.seen) ∧
      (∀ (uses : Visit κ → LineUse (Outcome κ)) (m : RememberingLine), m.UpToDate line →
        (∀ v ∈ visits, (uses v).run v.seen = ((v.verdict, v.after), v.left)) →
        ∀ earlier v later, visits = earlier ++ v :: later →
          let handed := Visit.hand uses earlier m
          handed.bytes = v.seen.bytes ∧ (∀ view, handed.view view = v.seen.view view) ∧
            ((uses v).runRemembering handed).1 = (v.verdict, v.after)) ∧
      ∀ edits : Visit κ → List (Edit κ),
        (∀ v ∈ visits, v.after.consumers = v.before.consumers.edited (edits v)) →
          let done := (server.consume s line).2
          done.consumers = s.consumers.edited (visits.flatMap edits) ∧
            ∀ next visits', Pass server done.consumers.values done next visits' →
              visits'.map (·.consumer) <+: (s.consumers.edited (visits.flatMap edits)).values := by
  obtain ⟨visits, pass⟩ := Pass.exists_visits server s.consumers.values s line
  have walked := pass.offerLine_eq
  have left {v : Visit κ} (last : visits.getLast? = some v) :
      server.offerLine s.consumers.values s line = (v.verdict, v.after, v.left) := by
    rw [walked, Visit.leave, last]
    rfl
  refine ⟨visits, pass, fun visits' pass' => pass'.unique pass, fun v fault last failed => ?_,
    fun v t last answered => ?_, fun declined => ?_, fun v visited dispatched =>
      dispatch_of_genuine server (pass.genuine v visited) dispatched,
    fun uses m current does earlier v later parts => ?_, fun edits made => ?_⟩
  · rw [consume, left last, failed]
  · rw [consume, left last, answered]
  · have none : (visits.getLast?.map (·.verdict)).getD (.ok .declined) = .ok .declined := by
      cases last : visits.getLast? with
      | none => rfl
      | some v => exact declined v (List.mem_of_getLast? last)
    rw [consume, walked, none]
  · have handed := pass.upToDate_hand does current parts
    have member : v ∈ visits := by
      rw [parts]
      exact List.mem_append_right _ List.mem_cons_self
    obtain ⟨same, -⟩ := (uses v).runRemembering_eq handed
    rw [does v member] at same
    exact ⟨handed.bytes, handed.view, same⟩
  · have kept := server.consumers_consume s line
    rw [walked] at kept
    have chain := kept.trans (pass.consumers_leave made)
    exact ⟨chain, fun next visits' pass' => chain ▸ pass'.order⟩

end Server

/-- What a consumer from outside the library does with a line, step by step. -/
inductive Script (κ : Type)
  | finish (verdict : Except Fault Verdict)
  | edit (e : Edit κ) (rest : Script κ)
  /-- Changes anything in the session but the chain. -/
  | change (f : Session κ → Session κ) (rest : Script κ)
  | look (rest : Site κ → Session κ → Script κ)
  | read (view : View) (rest : String → Script κ)
  | rewrite (f : Bytes → Bytes) (rest : Script κ)

namespace Script

def use (site : Site κ) : Script κ → Session κ → LineUse (Outcome κ)
  | finish verdict, s => .done (verdict, s)
  | edit e rest, s => rest.use site { s with consumers := e.apply s.consumers }
  | change f rest, s => rest.use site { f s with consumers := s.consumers }
  | look rest, s => (rest site s).use site s
  | read view rest, s => .read view fun words => (rest words).use site s
  | rewrite f rest, s => .rewrite f (rest.use site s)

def edits (site : Site κ) : Script κ → Session κ → Line → List (Edit κ)
  | finish _, _, _ => []
  | edit e rest, s, line => e :: rest.edits site { s with consumers := e.apply s.consumers } line
  | change f rest, s, line => rest.edits site { f s with consumers := s.consumers } line
  | look rest, s, line => (rest site s).edits site s line
  | read view rest, s, line => (rest (line.view view)).edits site s line
  | rewrite f rest, s, line => rest.edits site s (line.mapBytes f)

def hook (script : Script κ) : Hook κ where
  onLine site s line :=
    let ((verdict, s), line) := (script.use site s).run line
    (verdict, s, line)

theorem consumers_run (site : Site κ) (script : Script κ) (s : Session κ) (line : Line) :
    ((script.use site s).run line).1.2.consumers = s.consumers.edited (script.edits site s line) := by
  induction script generalizing s line with
  | finish verdict => rfl
  | edit e rest ih => exact ih _ _
  | change f rest ih => exact ih _ _
  | look rest ih => exact ih _ _ _ _
  | read view rest ih => exact ih _ _ _
  | rewrite f rest ih => exact ih _ _

end Script

theorem Visit.Genuine.scripted {server : Server κ} {v : Visit κ} (genuine : v.Genuine server)
    {code : κ} (named : v.consumer = .custom code) {script : Script κ}
    (scripted : server.custom code = script.hook) :
    (script.use server.site v.before).run v.seen = ((v.verdict, v.after), v.left) ∧
      v.after.consumers = v.before.consumers.edited (script.edits server.site v.before v.seen) := by
  rw [Visit.Genuine, named, Server.hook, scripted] at genuine
  have ran : (script.use server.site v.before).run v.seen = ((v.verdict, v.after), v.left) := by
    obtain ⟨verdict, others⟩ := Prod.mk.inj genuine
    obtain ⟨after, left⟩ := Prod.mk.inj others
    exact Prod.ext (Prod.ext verdict after) left
  exact ⟨ran, by rw [← script.consumers_run, ran]⟩

/-- A consumer that reads the verb, takes away itself and a later one, adds a third and rewrites the line.
The later one is visited all the same, and reads the new verb; the next line is for the third alone. -/
theorem Server.consume_pass_of_reshaping :
    let scripts : Nat → Script Nat
      | 0 => .read .verb fun _ => .edit (.remove "first") (.edit (.remove "second")
          (.edit (.add "third" (.custom 2))
            (.rewrite (fun _ => Utf8.ofString "PONG\r\n") (.finish (.ok .declined)))))
      | _ => .read .verb fun verb => .finish
          (if verb = "PONG" then .ok (.handled ⟨.ok, some .afterEhlo⟩) else .ok .declined)
    let server := bare {} (fun _ _ _ => .ok .ok) fun code => (scripts code).hook
    let s := { server.newSession "client.example" with
      consumers := ⟨[("first", .custom 0), ("second", .custom 1)]⟩ }
    let line : Line := ⟨Utf8.ofString "PING\r\n"⟩
    let uses (v : Visit Nat) := match v.consumer with
      | .custom code => (scripts code).use server.site v.before
      | _ => .done (v.verdict, v.after)
    (∃ first second, Pass server s.consumers.values s line [first, second] ∧
      first.consumer = .custom 0 ∧ second.consumer = .custom 1 ∧
      (Visit.hand uses [first] (.fresh line)).view .verb = "PONG") ∧
    (server.consume s line).1 = .ok .ok ∧ (server.consume s line).2.state = .afterEhlo ∧
      (server.consume s line).2.consumers = s.consumers.edited
        [.remove "first", .remove "second", .add "third" (.custom 2)] ∧
      (server.consume s line).2.consumers.keys = ["third"] := by
  intro scripts server s line uses
  obtain ⟨visits, pass, unique, -, answered, -, -, reads, chain⟩ := server.consume_pass s line
  let first := Visit.make server (.custom 0) s line
  let second := Visit.make server (.custom 1) first.after first.left
  have verb : first.left.view .verb = "PONG" := by decide +kernel
  have heard : second.verdict = .ok (.handled ⟨.ok, some .afterEhlo⟩) := by
    have told : second.verdict.toOption = some (.handled ⟨.ok, some .afterEhlo⟩) := by decide +kernel
    cases verdict : second.verdict with
    | error fault => rw [verdict] at told; contradiction
    | ok t => rw [verdict] at told; exact congrArg Except.ok (Option.some.inj told)
  have two : Pass server s.consumers.values s line [first, second] :=
    .of_declined rfl (.of_decided [] (by
      show second.verdict ≠ _
      rw [heard]
      nofun))
  obtain rfl := unique _ two
  have faithful {v : Visit Nat} (member : v ∈ [first, second]) {code : Nat}
      (named : v.consumer = .custom code) :
      ((scripts code).use server.site v.before).run v.seen = ((v.verdict, v.after), v.left) ∧
        v.after.consumers =
          v.before.consumers.edited ((scripts code).edits server.site v.before v.seen) :=
    (two.genuine v member).scripted named rfl
  obtain ⟨used, edited⟩ := faithful List.mem_cons_self rfl
  obtain ⟨used', edited'⟩ := faithful (List.mem_cons_of_mem _ List.mem_cons_self) rfl
  obtain ⟨-, seen, -⟩ := reads uses _ (.fresh line)
    (List.forall_mem_cons.mpr ⟨used, List.forall_mem_singleton.mpr used'⟩) [first] second [] rfl
  have settled := answered second _ rfl heard
  obtain ⟨whole, -⟩ := chain
    (fun v => match v.consumer with
      | .custom code => (scripts code).edits server.site v.before v.seen
      | _ => [])
    (List.forall_mem_cons.mpr ⟨edited, List.forall_mem_singleton.mpr edited'⟩)
  have told : (Visit.hand uses [first] (.fresh line)).view .verb = "PONG" := (seen .verb).trans verb
  have left : (server.consume s line).2.consumers.keys = ["third"] := by
    rw [whole]
    decide +kernel
  rw [settled] at whole left ⊢
  exact ⟨⟨first, second, two, rfl, rfl, told⟩, rfl, rfl, whole, left⟩

end SmtpDialog
