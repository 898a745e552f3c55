/- digest: A registry holds the latest factory under each name, in the order in which names came up. -/
import Mathlib.Data.List.Forall2
import SmtpDialog.Proofs.Registry

set_option autoImplicit false
set_option relaxedAutoImplicit false

namespace SmtpDialog

namespace Factory

variable {check : CredentialCheck} {name : String} {factory : Factory}

/-- A name in the settings stands for the factory of a provided mechanism. -/
inductive Provides (check : CredentialCheck) : String → Factory → Prop
  | plain {name : String} (same : Text.sameLetters name "PLAIN" = true) :
    Provides check name (plain check)
  | login {name : String} (same : Text.sameLetters name "LOGIN" = true) :
    Provides check name (login check)

theorem provides_of_provided? (found : provided? check name = some factory) :
    Provides check name factory := by
  rw [provided?] at found
  split at found
  · rename_i same
    obtain rfl := Option.some.inj found
    exact .plain same
  · split at found
    · rename_i same
      obtain rfl := Option.some.inj found
      exact .login same
    · contradiction

theorem provided?_eq_none_iff :
    provided? check name = none ↔
      Text.sameLetters name "PLAIN" = false ∧ Text.sameLetters name "LOGIN" = false := by
  rw [provided?]
  split <;> simp_all

end Factory

namespace Registry

open Text (sameLetters)

def registerAll (factories : List Factory) (registry : Registry) : Registry :=
  factories.foldl (fun registry factory => registry.register factory) registry

/-- Settings are refused for the first of their names that no provided mechanism has. Without such a name
the provided factories are registered in the order of the names. -/
theorem ofNames_cases (check : CredentialCheck) (names : List String) :
    (∃ before name after, names = before ++ name :: after ∧
      (∀ known ∈ before, Factory.provided? check known ≠ none) ∧ Factory.provided? check name = none ∧
        ofNames check names = .error (.sasl ("Unknown SASL mechanism " ++ Text.quoted name))) ∨
    ∃ configured, List.Forall₂ (Factory.Provides check) names configured ∧
      (∀ known ∈ names, Factory.provided? check known ≠ none) ∧
        ofNames check names = .ok (empty.registerAll configured) := by
  rw [ofNames]
  generalize empty = registry
  induction names generalizing registry with
  | nil => exact .inr ⟨[], .nil, nofun, rfl⟩
  | cons name rest ih =>
    rw [List.foldlM_cons]
    cases found : Factory.provided? check name with
    | none => exact .inl ⟨[], name, rest, rfl, nofun, found, rfl⟩
    | some factory =>
      have known : Factory.provided? check name ≠ none := found ▸ nofun
      rcases ih (registry.register factory) with
        ⟨before, other, after, rfl, others, unknown, refused⟩ | ⟨configured, provides, others, made⟩
      · exact .inl ⟨name :: before, other, after, rfl, List.forall_mem_cons.mpr ⟨known, others⟩,
          unknown, refused⟩
      · exact .inr ⟨factory :: configured, .cons (Factory.provides_of_provided? found) provides,
          List.forall_mem_cons.mpr ⟨known, others⟩, made⟩

theorem ofNames_refused_iff {check : CredentialCheck} {names : List String} :
    (∃ fault, ofNames check names = .error fault) ↔
      ∃ name ∈ names, Factory.provided? check name = none := by
  rcases ofNames_cases check names with
    ⟨before, name, after, rfl, -, unknown, refused⟩ | ⟨configured, -, known, made⟩
  · exact iff_of_true ⟨_, refused⟩ ⟨name, List.mem_append_right _ List.mem_cons_self, unknown⟩
  · refine iff_of_false ?_ ?_
    · rintro ⟨fault, refused⟩
      rw [made] at refused
      contradiction
    · rintro ⟨name, member, unknown⟩
      exact known name member unknown

/-- A registration puts the factory in the place of the first one of its name, or behind all others. -/
theorem place_cases (factory : Factory) (known : List Factory) :
    (∃ before old after, known = before ++ old :: after ∧
      (∀ f ∈ before, sameLetters f.name factory.name = false) ∧
        sameLetters old.name factory.name = true ∧ place factory known = before ++ factory :: after) ∨
    ((∀ f ∈ known, sameLetters f.name factory.name = false) ∧
      place factory known = known ++ [factory]) := by
  induction known with
  | nil => exact .inr ⟨nofun, rfl⟩
  | cons f rest ih =>
    rw [place]
    cases same : sameLetters f.name factory.name with
    | true => exact .inl ⟨[], f, rest, rfl, nofun, same, rfl⟩
    | false =>
      rw [if_neg Bool.false_ne_true]
      rcases ih with ⟨before, old, after, rfl, others, again, placed⟩ | ⟨others, placed⟩
      · exact .inl ⟨f :: before, old, after, rfl, List.forall_mem_cons.mpr ⟨same, others⟩, again,
          by rw [placed, List.cons_append]⟩
      · exact .inr ⟨List.forall_mem_cons.mpr ⟨same, others⟩, by rw [placed, List.cons_append]⟩

variable {registry : Registry} {registered : List Factory} {factory : Factory} {name : String}

private theorem find?_of_others {known : List Factory}
    (others : ∀ f ∈ known, sameLetters f.name factory.name = false)
    (same : sameLetters factory.name name = true) :
    known.find? (sameLetters ·.name name) = none := by
  refine List.find?_eq_none.mpr fun f member => Bool.eq_false_iff.mp ?_
  rw [← Text.sameLetters_congr_right same]
  exact others f member

/-- A factory is found under its name once it is registered, and other names find what they found. -/
theorem get?_register (registry : Registry) (factory : Factory) (name : String) :
    (registry.register factory).get? name =
      if sameLetters factory.name name = true then some factory else registry.get? name := by
  rw [get?, get?, register]
  rcases place_cases factory registry.factories with
    ⟨before, old, after, split, others, again, placed⟩ | ⟨others, placed⟩
  · have alike : sameLetters old.name name = sameLetters factory.name name :=
      Text.sameLetters_congr_left again
    rw [placed, split]
    simp only [List.find?_append, List.find?_cons, alike]
    cases same : sameLetters factory.name name with
    | true => rw [find?_of_others others same, Option.none_or, if_pos rfl]
    | false => rw [if_neg Bool.false_ne_true]
  · rw [placed]
    simp only [List.find?_append, List.find?_cons, List.find?_nil]
    cases same : sameLetters factory.name name with
    | true => rw [find?_of_others others same, Option.none_or, if_pos rfl]
    | false => rw [Option.or_none, if_neg Bool.false_ne_true]

/-- The factory registered last under a name in letters of either case. -/
def latest? (name : String) (registered : List Factory) : Option Factory :=
  (registered.filter (sameLetters ·.name name)).getLast?

/-- The place of the first factory registered under a name in letters of either case. -/
def firstPlace (registered : List Factory) (name : String) : Nat :=
  registered.findIdx (sameLetters ·.name name)

theorem latest?_append (name : String) (earlier later : List Factory) :
    latest? name (earlier ++ later) = (latest? name later).or (latest? name earlier) := by
  rw [latest?, List.filter_append, List.getLast?_append]
  rfl

theorem latest?_concat (name : String) (registered : List Factory) (factory : Factory) :
    latest? name (registered ++ [factory]) =
      if sameLetters factory.name name = true then some factory else latest? name registered := by
  rw [latest?_append, latest?, List.filter_singleton]
  split <;> simp_all

theorem latest?_eq_none_iff :
    latest? name registered = none ↔ ∀ f ∈ registered, sameLetters f.name name = false := by
  simp [latest?]

theorem firstPlace_concat (came : latest? name registered ≠ none) (factory : Factory) :
    firstPlace registered name < registered.length ∧
      firstPlace (registered ++ [factory]) name = firstPlace registered name := by
  have within : firstPlace registered name < registered.length := by
    refine Nat.lt_of_le_of_ne List.findIdx_le_length fun absent => came ?_
    exact latest?_eq_none_iff.mpr (List.findIdx_eq_length.mp absent)
  exact ⟨within, List.findIdx_append.trans (if_pos within)⟩

theorem firstPlace_concat_of_new (new : latest? factory.name registered = none) :
    firstPlace (registered ++ [factory]) factory.name = registered.length := by
  have absent : registered.findIdx (sameLetters ·.name factory.name) = registered.length :=
    List.findIdx_eq_length.mpr (latest?_eq_none_iff.mp new)
  have own : sameLetters factory.name factory.name = true := Text.sameLetters_iff.mpr rfl
  rw [firstPlace, List.findIdx_append, absent, if_neg (Nat.lt_irrefl _), List.findIdx_cons, own]
  exact Nat.zero_add _

theorem firstPlace_congr {f g : Factory} (same : sameLetters f.name g.name = true) :
    firstPlace registered f.name = firstPlace registered g.name := by
  simp only [firstPlace, Text.sameLetters_congr_right same]

/-- A registry has each name that was registered once, in the order in which the names came up, and under
it what was registered last. -/
structure Reflects (registry : Registry) (registered : List Factory) : Prop where
  distinct : registry.Distinct
  ordered : registry.factories.Pairwise fun f g =>
    firstPlace registered f.name < firstPlace registered g.name
  get?_eq : ∀ name, registry.get? name = latest? name registered

theorem distinct_of_ordered
    (ordered : registry.factories.Pairwise fun f g =>
      firstPlace registered f.name < firstPlace registered g.name) : registry.Distinct := by
  refine ordered.imp fun {f g} earlier => Bool.eq_false_iff.mpr fun same => ?_
  exact Nat.ne_of_lt earlier (firstPlace_congr same)

namespace Reflects

theorem empty : Registry.empty.Reflects [] where
  distinct := .nil
  ordered := .nil
  get?_eq _ := rfl

theorem latest?_ne_none (reflects : registry.Reflects registered) {f : Factory}
    (member : f ∈ registry.factories) : latest? f.name registered ≠ none := by
  rw [← reflects.get?_eq, get?]
  intro absent
  exact List.find?_eq_none.mp absent f member (Text.sameLetters_iff.mpr rfl)

private theorem ordered_concat (reflects : registry.Reflects registered) (factory : Factory) :
    registry.factories.Pairwise fun f g =>
      firstPlace (registered ++ [factory]) f.name < firstPlace (registered ++ [factory]) g.name := by
  refine reflects.ordered.imp_of_mem fun {f g} here there earlier => ?_
  rw [(firstPlace_concat (reflects.latest?_ne_none here) factory).2,
    (firstPlace_concat (reflects.latest?_ne_none there) factory).2]
  exact earlier

private theorem ordered_register (reflects : registry.Reflects registered) (factory : Factory) :
    (registry.register factory).factories.Pairwise fun f g =>
      firstPlace (registered ++ [factory]) f.name < firstPlace (registered ++ [factory]) g.name := by
  have ordered := reflects.ordered_concat factory
  rw [Registry.register]
  rcases place_cases factory registry.factories with
    ⟨before, old, after, split, -, again, placed⟩ | ⟨others, placed⟩
  · -- The name of the factory came up where that of the old one did, so the places are the same list.
    rw [split, ← List.pairwise_map, List.map_append, List.map_cons, firstPlace_congr again] at ordered
    rwa [placed, ← List.pairwise_map, List.map_append, List.map_cons]
  · have new : latest? factory.name registered = none := by
      rw [← reflects.get?_eq, get?]
      exact List.find?_eq_none.mpr fun f member => Bool.eq_false_iff.mp (others f member)
    rw [placed]
    refine List.pairwise_append.mpr ⟨ordered, List.pairwise_singleton _ _, fun f member g last => ?_⟩
    obtain rfl := List.mem_singleton.mp last
    obtain ⟨within, stays⟩ := firstPlace_concat (reflects.latest?_ne_none member) g
    rw [stays, firstPlace_concat_of_new new]
    exact within

theorem register (reflects : registry.Reflects registered) (factory : Factory) :
    (registry.register factory).Reflects (registered ++ [factory]) where
  distinct := distinct_of_ordered (reflects.ordered_register factory)
  ordered := reflects.ordered_register factory
  get?_eq name := by rw [get?_register, latest?_concat, reflects.get?_eq]

theorem registerAll (reflects : registry.Reflects registered) (later : List Factory) :
    (registry.registerAll later).Reflects (registered ++ later) := by
  induction later generalizing registry registered with
  | nil =>
    rw [List.append_nil]
    exact reflects
  | cons factory rest ih =>
    rw [List.append_cons]
    exact ih (reflects.register factory)

end Reflects

theorem reflects_ofNames {check : CredentialCheck} {names : List String}
    (accepted : ofNames check names = .ok registry) :
    ∃ configured, List.Forall₂ (Factory.Provides check) names configured ∧
      registry.Reflects configured := by
  rcases ofNames_cases check names with ⟨_, _, _, -, -, -, refused⟩ | ⟨configured, provides, -, made⟩
  · rw [refused] at accepted
    contradiction
  · obtain rfl := Except.ok.inj (accepted.symm.trans made)
    exact ⟨configured, provides, Reflects.empty.registerAll configured⟩

/-- Whatever way a registry is made, it reflects what was registered. -/
theorem Built.reflects (built : registry.Built) : ∃ registered, registry.Reflects registered := by
  induction built with
  | configured known =>
    obtain ⟨configured, -, reflects⟩ := reflects_ofNames known
    exact ⟨configured, reflects⟩
  | registered built factory ih =>
    obtain ⟨registered, reflects⟩ := ih
    exact ⟨_, reflects.register factory⟩

theorem Built.distinct (built : registry.Built) : registry.Distinct := by
  obtain ⟨registered, reflects⟩ := built.reflects
  exact reflects.distinct

/-- Settings are refused just where they name what is neither PLAIN nor LOGIN in letters of either case.
Otherwise the registry reflects what the names stand for and all that is registered after them. -/
theorem registry_of_registrations (check : CredentialCheck) (names : List String)
    (later : List Factory) :
    ((∃ fault, ofNames check names = .error fault) ↔
        ∃ name ∈ names, sameLetters name "PLAIN" = false ∧ sameLetters name "LOGIN" = false) ∧
      ∀ registry, ofNames check names = .ok registry →
        ∃ configured, List.Forall₂ (Factory.Provides check) names configured ∧
          (registry.registerAll later).Reflects (configured ++ later) := by
  constructor
  · rw [ofNames_refused_iff]
    simp only [Factory.provided?_eq_none_iff]
  · intro registry accepted
    obtain ⟨configured, provides, reflects⟩ := reflects_ofNames accepted
    exact ⟨configured, provides, reflects.registerAll later⟩

/-- LOGIN is named twice and keeps its place, PLAIN gives way to a factory that spells it in small letters,
and so does the first of two factories of a new name. -/
theorem registry_of_registrations_of_respelled :
    let check : CredentialCheck := fun _ authcid _ => .ok (.authorized authcid)
    let own (name : String) : Factory := { name, create := fun _ => ⟨name, fun _ => .idle, []⟩ }
    let later := [own "X-Token", own "plain", own "x-TOKEN"]
    (∃ fault, ofNames check ["login", "CRAM-MD5"] = .error fault) ∧
      ∃ registry, ofNames check ["login", "PLAIN", "Login"] = .ok registry ∧
        (registry.registerAll later).names = ["LOGIN", "plain", "x-TOKEN"] ∧
        (registry.registerAll later).Distinct ∧
        (registry.registerAll later).get? "Plain" = some (own "plain") ∧
        (registry.registerAll later).get? "X-Token" = some (own "x-TOKEN") := by
  intro check own later
  have refused : ∃ fault, ofNames check ["login", "CRAM-MD5"] = .error fault :=
    (registry_of_registrations check _ []).1.mpr ⟨"CRAM-MD5", by simp, by decide +kernel⟩
  have provided : sameLetters "PLAIN" "PLAIN" = true ∧ sameLetters "login" "PLAIN" = false ∧
      sameLetters "login" "LOGIN" = true ∧ sameLetters "Login" "PLAIN" = false ∧
      sameLetters "Login" "LOGIN" = true ∧ sameLetters "LOGIN" "PLAIN" = false ∧
      sameLetters "LOGIN" "LOGIN" = true := by
    decide +kernel
  have accepted : ofNames check ["login", "PLAIN", "Login"] = .ok ⟨[.login check, .plain check]⟩ := by
    simp [ofNames, Factory.provided?, provided, bind, Except.bind, register, place, empty,
      Factory.plain, Factory.login, pure, Except.pure]
  obtain ⟨configured, -, reflects⟩ := (registry_of_registrations check _ later).2 _ accepted
  have letters : sameLetters "X-Token" "Plain" = false ∧ sameLetters "plain" "Plain" = true ∧
      sameLetters "x-TOKEN" "Plain" = false ∧ sameLetters "x-TOKEN" "X-Token" = true := by
    decide +kernel
  refine ⟨refused, _, accepted, by decide +kernel, reflects.distinct, ?_, ?_⟩
  · rw [reflects.get?_eq, latest?_append]
    simp [latest?, later, own, letters]
  · rw [reflects.get?_eq, latest?_append]
    simp [latest?, later, own, letters]

end Registry

end SmtpDialog
