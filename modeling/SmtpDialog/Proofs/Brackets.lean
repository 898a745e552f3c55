/- digest: What MAIL and RCPT take from between their angle brackets. -/
import SmtpDialog.Grammar.Envelope

/-!
The arguments of MAIL and RCPT have an opening bracket and a first closing one behind it. MAIL takes the
path from between the two and the parameters from behind them. RCPT does so too, and leaves out a source
route, with two exceptions. A route that is not closed by a colon before the bracket runs on to the first
colon behind it, and a path that is closed by another bracket there is taken for the recipient. And a
route with nothing behind it is taken for the recipient itself. Main statement: apart from these two, the
recipient comes from inside of the brackets.
-/

set_option autoImplicit false
set_option relaxedAutoImplicit false

namespace SmtpDialog

namespace Text

variable {α : Type} [DecidableEq α] {separator : α} {front back front' back' : List α}

theorem takeWhile_of_free (free : separator ∉ front) :
    (front ++ separator :: back).takeWhile (· != separator) = front := by
  have passes : ∀ a ∈ front, (a != separator) = true :=
    fun a member => bne_iff_ne.mpr (ne_of_mem_of_not_mem member free)
  rw [List.takeWhile_append_of_pos passes, List.takeWhile_cons_of_neg (by simp), List.append_nil]

theorem dropWhile_of_free (free : separator ∉ front) :
    (front ++ separator :: back).dropWhile (· != separator) = separator :: back := by
  have passes : ∀ a ∈ front, (a != separator) = true :=
    fun a member => bne_iff_ne.mpr (ne_of_mem_of_not_mem member free)
  rw [List.dropWhile_append_of_pos passes, List.dropWhile_cons_of_neg (by simp)]

theorem dropWhile_of_not_mem {xs : List α} (free : separator ∉ xs) :
    xs.dropWhile (· != separator) = [] := by
  have passes : ∀ a ∈ xs, (a != separator) = true :=
    fun a member => bne_iff_ne.mpr (ne_of_mem_of_not_mem member free)
  rw [← List.append_nil xs, List.dropWhile_append_of_pos passes, List.dropWhile_nil]

theorem cut_unique (free : separator ∉ front) (free' : separator ∉ front')
    (same : front ++ separator :: back = front' ++ separator :: back') :
    front = front' ∧ back = back' := by
  have fronts := congrArg (List.takeWhile (· != separator)) same
  rw [takeWhile_of_free free, takeWhile_of_free free'] at fronts
  subst fronts
  exact ⟨rfl, List.tail_eq_of_cons_eq (List.append_cancel_left same)⟩

theorem count_trim {p : Char → Bool} {c : Char} (fails : p c = false) (cs : List Char) :
    (trim p cs).count c = cs.count c := by
  have kept (cs : List Char) : (cs.dropWhile p).count c = cs.count c := by
    have none : (cs.takeWhile p).count c = 0 := by
      refine List.count_eq_zero.mpr fun member => ?_
      rw [List.all_eq_true.mp List.all_takeWhile c member] at fails
      contradiction
    rw [← List.takeWhile_append_dropWhile (p := p) (l := cs), List.count_append, none]
    simp
  rw [trim, trimEnd, List.count_reverse, kept, List.count_reverse, trimStart, kept]

theorem toNat_toUpper (c : Char) :
    c.toUpper.toNat = if 97 ≤ c.toNat ∧ c.toNat ≤ 122 then c.toNat - 32 else c.toNat := by
  have least : 'a'.val ≤ c.val ↔ 97 ≤ c.toNat := UInt32.le_iff_toNat_le
  have most : c.val ≤ 'z'.val ↔ c.toNat ≤ 122 := UInt32.le_iff_toNat_le
  delta Char.toUpper
  simp only [least, most]
  split
  · show (c.val + ('A'.val - 'a'.val)).toNat = _
    have wraps : ('A'.val - 'a'.val).toNat = 2 ^ 32 - 32 := by decide
    have value : c.val.toNat = c.toNat := rfl
    rw [UInt32.toNat_add]
    omega
  · rfl

theorem upper_upper (t : String) : upper (upper t) = upper t := by
  have capital (c : Char) : c.toUpper.toUpper = c.toUpper := by
    have small : ¬(97 ≤ c.toUpper.toNat ∧ c.toUpper.toNat ≤ 122) := by
      rw [toNat_toUpper]
      split <;> omega
    rw [← Char.toNat_inj, toNat_toUpper c.toUpper, if_neg small]
  simp only [upper, String.toList_ofList, List.map_map, Function.comp_def, capital]

theorem isLetter_iff {lower c : Char} (small : lower.isUpper = false) :
    isLetter lower c = true ↔ c.toUpper = lower.toUpper := by
  have outside : ¬(65 ≤ lower.toNat ∧ lower.toNat ≤ 90) := by
    delta Char.isUpper at small
    simpa [UInt32.le_iff_toNat_le] using small
  rw [isLetter, Bool.or_eq_true, beq_iff_eq, beq_iff_eq]
  simp only [← Char.toNat_inj, toNat_toUpper]
  split <;> split <;> omega

theorem afterKeyword_eq_some {keyword cs rest : List Char}
    (small : keyword.any Char.isUpper = false) :
    afterKeyword keyword cs = some rest ↔
      ∃ word, word.map Char.toUpper = keyword.map Char.toUpper ∧ cs = word ++ rest := by
  induction keyword generalizing cs with
  | nil => simp [afterKeyword, eq_comm]
  | cons k ks ih =>
    obtain ⟨first, others⟩ := Bool.or_eq_false_iff.mp small
    cases cs with
    | nil =>
      refine iff_of_false nofun ?_
      rintro ⟨word, spelled, none⟩
      obtain ⟨rfl, -⟩ := List.append_eq_nil_iff.mp none.symm
      contradiction
    | cons c cs =>
      rw [afterKeyword]
      constructor
      · intro found
        split at found
        · rename_i letter
          obtain ⟨word, spelled, rfl⟩ := (ih others).mp found
          refine ⟨c :: word, ?_, rfl⟩
          rw [List.map_cons, List.map_cons, spelled, (isLetter_iff first).mp letter]
        · contradiction
      · rintro ⟨word, spelled, parts⟩
        cases word with
        | nil => contradiction
        | cons d word =>
          obtain ⟨rfl, rfl⟩ := List.cons_eq_cons.mp parts
          obtain ⟨letter, spelled⟩ := List.cons_eq_cons.mp spelled
          rw [if_pos ((isLetter_iff first).mpr letter)]
          exact (ih others).mpr ⟨word, spelled, rfl⟩

end Text

namespace Grammar

/-- A text with its first opening bracket and the first closing one behind that. -/
structure Bracketed (args front inner rest : List Char) : Prop where
  parts : args = front ++ '<' :: (inner ++ '>' :: rest)
  front : '<' ∉ front
  inner : '>' ∉ inner

/-- A source route: an at sign and all to the next colon. -/
def IsRoute (route : List Char) : Prop :=
  ∃ hosts, route = '@' :: (hosts ++ [':']) ∧ hosts ≠ [] ∧ ':' ∉ hosts

/-- Whether a path comes from inside of the brackets, and the parameters from behind them. -/
structure Inside (inner rest : List Char) (found : PathArguments) : Prop where
  named : found.path ≠ ""
  suffix : found.path.toList <:+ inner
  /-- Without a source route the path is all that stands there. -/
  whole : (∀ route, IsRoute route → ¬route <+: inner) → found.path.toList = inner
  routed : ∀ route tail, IsRoute route → inner = route ++ tail → found.path.toList = tail
  parameters : found.parameters.toList = Text.trim Text.isBlank rest

/-- A source route that is not closed inside of the brackets, but behind them, where another path
follows it. -/
structure Overrun (inner rest path behind : List Char) : Prop where
  begun : inner.head? = some '@'
  unclosed : ':' ∉ inner
  parts : ∃ hosts, ':' ∉ hosts ∧ rest = hosts ++ ':' :: (path ++ '>' :: behind)
  named : path ≠ []
  closed : '>' ∉ path
  ends : '\n' ∉ behind

def Overruns (inner rest : List Char) : Prop := ∃ path behind, Overrun inner rest path behind

/-- What RCPT takes for the path and for the parameters. -/
inductive Taken (inner rest : List Char) : List Char → List Char → Prop
  | routed {route path : List Char} (isRoute : IsRoute route) (parts : inner = route ++ path)
    (named : path ≠ []) : Taken inner rest path rest
  | overrun {path behind : List Char} (past : Overrun inner rest path behind) :
    Taken inner rest path behind
  | whole (named : inner ≠ []) (within : ¬Overruns inner rest)
    (bare : ∀ route tail, IsRoute route → inner = route ++ tail → tail = []) :
    Taken inner rest inner rest

variable {args cs inner rest tail path behind front : List Char}

theorem closeBracket_of_free (free : '>' ∉ inner) :
    closeBracket (inner ++ '>' :: rest) =
      if rest.contains '\n' then none else some (inner, rest) := by
  rw [closeBracket, Text.dropWhile_of_free free, Text.takeWhile_of_free free]

theorem closeBracket_eq_some :
    closeBracket cs = some (inner, rest) ↔
      cs = inner ++ '>' :: rest ∧ '>' ∉ inner ∧ '\n' ∉ rest := by
  constructor
  · intro found
    have closed : '>' ∈ cs := by
      refine Decidable.byContradiction fun free => ?_
      rw [closeBracket, Text.dropWhile_of_not_mem free] at found
      contradiction
    obtain ⟨front, back, rfl, free⟩ := List.eq_append_cons_of_mem closed
    rw [closeBracket_of_free free] at found
    split at found
    · contradiction
    · rename_i one
      obtain ⟨rfl, rfl⟩ := Prod.mk.inj (Option.some.inj found)
      exact ⟨rfl, free, by simpa using one⟩
  · rintro ⟨rfl, free, one⟩
    rw [closeBracket_of_free free, if_neg (by simpa using one)]

theorem closeNonempty_eq_some :
    closeNonempty cs = some (inner, rest) ↔
      cs = inner ++ '>' :: rest ∧ '>' ∉ inner ∧ '\n' ∉ rest ∧ inner ≠ [] := by
  have nonempty : closeNonempty cs = some (inner, rest) ↔
      closeBracket cs = some (inner, rest) ∧ inner ≠ [] := by
    unfold closeNonempty
    split
    · rename_i empty
      rw [empty]
      exact ⟨nofun, fun ⟨same, named⟩ => absurd (Prod.mk.inj (Option.some.inj same)).1.symm named⟩
    · rename_i filled
      refine ⟨fun found => ⟨found, ?_⟩, And.left⟩
      rintro rfl
      exact filled _ found
  rw [nonempty, closeBracket_eq_some, and_assoc, and_assoc]

theorem afterRoute_eq_some :
    afterRoute cs = some tail ↔ ∃ route, IsRoute route ∧ cs = route ++ tail := by
  constructor
  · intro found
    unfold afterRoute at found
    split at found
    · rename_i c cs
      split at found
      · contradiction
      · rename_i first
        have colon : ':' ∈ cs := by
          refine Decidable.byContradiction fun free => ?_
          rw [Text.dropWhile_of_not_mem free] at found
          contradiction
        obtain ⟨hosts, back, rfl, free⟩ := List.eq_append_cons_of_mem colon
        rw [Text.dropWhile_of_free free] at found
        obtain rfl : back = tail := Option.some.inj found
        refine ⟨'@' :: (c :: hosts ++ [':']), ⟨c :: hosts, rfl, nofun, ?_⟩, ?_⟩
        · rw [List.mem_cons, not_or]
          exact ⟨Ne.symm first, free⟩
        · simp
    · contradiction
  · rintro ⟨_, ⟨hosts, rfl, some, free⟩, rfl⟩
    cases hosts with
    | nil => contradiction
    | cons c hosts =>
      rw [List.mem_cons, not_or] at free
      simp only [List.cons_append, List.append_assoc, List.nil_append, afterRoute,
        if_neg (Ne.symm free.1), Text.dropWhile_of_free free.2]

/-- A keyword in any case and at most one space. -/
def Opens (keyword front : List Char) : Prop :=
  ∃ word gap, word.map Char.toUpper = keyword.map Char.toUpper ∧ (gap = [] ∨ gap = [' ']) ∧
    front = word ++ gap

theorem afterOpening_eq_some {keyword : List Char} (small : keyword.any Char.isUpper = false) :
    afterOpening keyword args = some cs ↔
      ∃ front, Opens keyword front ∧ args = front ++ '<' :: cs := by
  constructor
  · intro found
    unfold afterOpening at found
    split at found
    · rename_i cs' after
      obtain rfl := Option.some.inj found
      obtain ⟨word, spelled, rfl⟩ := (Text.afterKeyword_eq_some small).mp after
      exact ⟨word ++ [' '], ⟨word, [' '], spelled, .inr rfl, rfl⟩, by simp⟩
    · rename_i cs' after
      obtain rfl := Option.some.inj found
      obtain ⟨word, spelled, rfl⟩ := (Text.afterKeyword_eq_some small).mp after
      exact ⟨word, ⟨word, [], spelled, .inl rfl, by simp⟩, rfl⟩
    · contradiction
  · rintro ⟨_, ⟨word, gap, spelled, short, rfl⟩, rfl⟩
    have after : Text.afterKeyword keyword (word ++ gap ++ '<' :: cs) = some (gap ++ '<' :: cs) :=
      (Text.afterKeyword_eq_some small).mpr ⟨word, spelled, List.append_assoc _ _ _⟩
    rw [afterOpening, after]
    rcases short with rfl | rfl <;> rfl

theorem Opens.free {keyword : List Char} (opens : Opens keyword front)
    (plain : '<' ∉ keyword.map Char.toUpper) : '<' ∉ front := by
  obtain ⟨word, gap, spelled, short, rfl⟩ := opens
  rw [List.mem_append, not_or]
  constructor
  · intro member
    rw [← spelled] at plain
    exact plain (List.mem_map_of_mem (f := Char.toUpper) member)
  · rcases short with rfl | rfl <;> decide

/-- A text has its first two brackets in one way. -/
theorem Bracketed.unique {front' inner' rest' : List Char} (cut : Bracketed args front inner rest)
    (cut' : Bracketed args front' inner' rest') :
    front = front' ∧ inner = inner' ∧ rest = rest' := by
  obtain ⟨rfl, same⟩ := Text.cut_unique cut.front cut'.front (cut.parts.symm.trans cut'.parts)
  obtain ⟨rfl, rfl⟩ := Text.cut_unique cut.inner cut'.inner same
  exact ⟨rfl, rfl, rfl⟩

/-- MAIL takes the path from between the brackets and the parameters from behind them. -/
theorem reversePath?_eq_some {args : String} {found : PathArguments} :
    reversePath? args = some found ↔
      ∃ front inner rest, Bracketed args.toList front inner rest ∧
        Opens ['f', 'r', 'o', 'm', ':'] front ∧ '\n' ∉ rest ∧
        found = pathArguments (inner, rest) := by
  have small : ['f', 'r', 'o', 'm', ':'].any Char.isUpper = false := by decide
  simp only [reversePath?, Option.map_eq_some_iff, Option.bind_eq_some_iff, Prod.exists,
    closeBracket_eq_some, afterOpening_eq_some small]
  constructor
  · rintro ⟨inner, rest, ⟨_, ⟨front, opens, parts⟩, rfl, free, one⟩, rfl⟩
    exact ⟨front, inner, rest, ⟨parts, opens.free (by decide), free⟩, opens, one, rfl⟩
  · rintro ⟨front, inner, rest, cut, opens, one, rfl⟩
    exact ⟨inner, rest, ⟨_, ⟨front, opens, cut.parts⟩, rfl, cut.inner, one⟩, rfl⟩

theorem IsRoute.cut {route : List Char} (isRoute : IsRoute route) :
    ∃ hosts, route = hosts ++ [':'] ∧ ':' ∉ hosts ∧ hosts.head? = some '@' := by
  obtain ⟨hosts, rfl, -, free⟩ := isRoute
  refine ⟨'@' :: hosts, rfl, ?_, rfl⟩
  rw [List.mem_cons, not_or]
  exact ⟨by decide, free⟩

theorem Overrun.afterRoute (past : Overrun inner rest path behind) :
    Grammar.afterRoute (inner ++ '>' :: rest) = some (path ++ '>' :: behind) := by
  obtain ⟨hosts, free, rfl⟩ := past.parts
  obtain ⟨more, rfl⟩ := List.head?_eq_some_iff.mp past.begun
  have unclosed := past.unclosed
  rw [List.mem_cons, not_or] at unclosed
  refine afterRoute_eq_some.mpr ⟨'@' :: (more ++ '>' :: hosts ++ [':']), ⟨_, rfl, by simp, ?_⟩, ?_⟩
  · simp [unclosed.2, free]
  · simp

/-- What the text behind the opening bracket is read as. -/
theorem taken_of_or {found : List Char × List Char} (closed : '>' ∉ inner)
    (read : ((afterRoute (inner ++ '>' :: rest)).bind closeNonempty).or
      (closeNonempty (inner ++ '>' :: rest)) = some found) : Taken inner rest found.1 found.2 := by
  obtain ⟨path, behind⟩ := found
  rcases Option.or_eq_some_iff.mp read with routed | ⟨unrouted, plain⟩
  · obtain ⟨tail, behindRoute, taken⟩ := Option.bind_eq_some_iff.mp routed
    obtain ⟨rfl, free, one, named⟩ := closeNonempty_eq_some.mp taken
    obtain ⟨route, isRoute, same⟩ := afterRoute_eq_some.mp behindRoute
    obtain ⟨hosts, rfl, colonless, begun⟩ := isRoute.cut
    rw [List.append_assoc, List.singleton_append] at same
    by_cases colon : ':' ∈ inner
    · -- The route ends inside of the brackets, at the same colon.
      obtain ⟨front, back, rfl, free'⟩ := List.eq_append_cons_of_mem colon
      rw [List.append_assoc, List.cons_append] at same
      obtain ⟨rfl, tails⟩ := Text.cut_unique free' colonless same
      have closed' : '>' ∉ back := fun member => closed (by simp [member])
      obtain ⟨rfl, rfl⟩ := Text.cut_unique closed' free tails
      exact .routed isRoute (by simp) named
    · -- The route ends at the first colon behind the closing bracket.
      have later : ':' ∈ rest := by
        have member : ':' ∈ inner ++ '>' :: rest := by simp [same]
        simpa [colon] using member
      obtain ⟨front, back, rfl, free'⟩ := List.eq_append_cons_of_mem later
      have whole : (inner ++ '>' :: front) ++ ':' :: back = hosts ++ ':' :: (path ++ '>' :: behind) := by
        simpa using same
      obtain ⟨rfl, rfl⟩ := Text.cut_unique (by simp [colon, free']) colonless whole
      have head : inner.head? = some '@' := by
        cases inner with
        | nil => exact absurd begun (by simp)
        | cons c cs => exact begun
      exact .overrun ⟨head, colon, ⟨front, free', rfl⟩, named, free, one⟩
  · obtain ⟨same, free, one, named⟩ := closeNonempty_eq_some.mp plain
    obtain ⟨rfl, rfl⟩ := Text.cut_unique closed free same
    refine .whole named ?_ fun route tail isRoute parts => ?_
    · rintro ⟨path, behind, past⟩
      have taken := closeNonempty_eq_some.mpr ⟨rfl, past.closed, past.ends, past.named⟩
      rw [past.afterRoute, Option.bind_some, taken] at unrouted
      contradiction
    · refine Decidable.byContradiction fun named' => ?_
      subst parts
      have behindRoute := afterRoute_eq_some.mpr
        ⟨route, isRoute, List.append_assoc route tail ('>' :: rest)⟩
      have free' : '>' ∉ tail := fun member => closed (by simp [member])
      have taken := closeNonempty_eq_some.mpr ⟨rfl, free', one, named'⟩
      rw [behindRoute, Option.bind_some, taken] at unrouted
      contradiction

theorem taken_of_forwardPath? {args : String} {found : PathArguments}
    (accepted : forwardPath? args = some found) :
    ∃ front inner rest path behind, Bracketed args.toList front inner rest ∧
      Taken inner rest path behind ∧ found = pathArguments (path, behind) := by
  obtain ⟨taken, read, rfl⟩ := Option.map_eq_some_iff.mp accepted
  obtain ⟨cs, opened, read⟩ := Option.bind_eq_some_iff.mp read
  obtain ⟨front, opens, parts⟩ := (afterOpening_eq_some (by decide)).mp opened
  have closes : '>' ∈ cs := by
    rcases Option.or_eq_some_iff.mp read with routed | ⟨-, plain⟩
    · obtain ⟨tail, behindRoute, plain⟩ := Option.bind_eq_some_iff.mp routed
      obtain ⟨rfl, -⟩ := closeNonempty_eq_some.mp plain
      obtain ⟨route, -, rfl⟩ := afterRoute_eq_some.mp behindRoute
      simp
    · obtain ⟨rfl, -⟩ := closeNonempty_eq_some.mp plain
      simp
  obtain ⟨inner, rest, rfl, free⟩ := List.eq_append_cons_of_mem closes
  exact ⟨front, inner, rest, taken.1, taken.2, ⟨parts, opens.free (by decide), free⟩,
    taken_of_or free read, rfl⟩

theorem IsRoute.unique {route route' tail' : List Char} (isRoute : IsRoute route)
    (isRoute' : IsRoute route') (same : route ++ tail = route' ++ tail') : tail = tail' := by
  obtain ⟨hosts, rfl, free, -⟩ := isRoute.cut
  obtain ⟨hosts', rfl, free', -⟩ := isRoute'.cut
  rw [List.append_assoc, List.append_assoc] at same
  exact (Text.cut_unique free free' same).2

theorem Taken.inside (taken : Taken inner rest path behind) (bare : ¬IsRoute inner)
    (within : ¬Overruns inner rest) : Inside inner rest (pathArguments (path, behind)) := by
  have path_toList : (pathArguments (path, behind)).path.toList = path := String.toList_ofList
  have parameters : (pathArguments (path, behind)).parameters.toList =
      Text.trim Text.isBlank behind := String.toList_ofList
  have filled (named : path ≠ []) : (pathArguments (path, behind)).path ≠ "" := by
    intro empty
    rw [empty] at path_toList
    exact named path_toList.symm
  cases taken with
  | @routed route _ isRoute parts named =>
    refine ⟨filled named, ⟨route, by rw [path_toList, parts]⟩, fun unrouted => ?_,
      fun route' tail isRoute' parts' => ?_, parameters⟩
    · exact absurd ⟨path, parts.symm⟩ (unrouted route isRoute)
    · rw [path_toList]
      exact isRoute.unique isRoute' (parts.symm.trans parts')
  | overrun past => exact absurd ⟨path, behind, past⟩ within
  | whole named _ lone =>
    refine ⟨filled named, ⟨[], by rw [path_toList, List.nil_append]⟩, fun _ => path_toList,
      fun route tail isRoute parts => ?_, parameters⟩
    obtain rfl := lone route tail isRoute parts
    rw [List.append_nil] at parts
    exact absurd (parts ▸ isRoute) bare

/-- What is taken where the route runs on has another text behind it, with a bracket less. -/
theorem Taken.not_inside_of_overruns (taken : Taken inner rest path behind)
    (overruns : Overruns inner rest) : ¬Inside inner rest (pathArguments (path, behind)) := by
  intro inside
  cases taken with
  | routed isRoute parts =>
    obtain ⟨_, _, past⟩ := overruns
    obtain ⟨hosts, rfl, -⟩ := isRoute.cut
    exact past.unclosed (by simp [parts])
  | overrun past =>
    obtain ⟨hosts, -, rfl⟩ := past.parts
    have same := congrArg (List.count '>') inside.parameters
    rw [pathArguments, String.toList_ofList, Text.count_trim (by decide),
      Text.count_trim (by decide)] at same
    simp only [List.count_append, List.count_cons_self, List.count_cons] at same
    omega
  | whole _ within => exact within overruns

/-- The recipient comes from inside of the brackets, unless there is only a route in them or the route
runs past the closing one. The path of MAIL is always all that is inside of them. -/
theorem forward_path_inside_iff {args : String} {found : PathArguments}
    (accepted : forwardPath? args = some found) :
    (∃ front inner rest, Bracketed args.toList front inner rest) ∧
    (∀ front inner rest, Bracketed args.toList front inner rest →
      (Inside inner rest found ↔ ¬IsRoute inner ∧ ¬Overruns inner rest)) ∧
    ∀ text sender, reversePath? text = some sender →
      ∃ front inner rest, Bracketed text.toList front inner rest ∧
        sender.path.toList = inner ∧ sender.parameters.toList = Text.trim Text.isBlank rest := by
  obtain ⟨front, inner, rest, path, behind, cut, taken, rfl⟩ := taken_of_forwardPath? accepted
  refine ⟨⟨front, inner, rest, cut⟩, fun front' inner' rest' cut' => ?_, fun text sender read => ?_⟩
  · obtain ⟨rfl, rfl, rfl⟩ := cut.unique cut'
    refine ⟨fun inside => ⟨fun isRoute => ?_, fun overruns => ?_⟩,
      fun ⟨bare, within⟩ => taken.inside bare within⟩
    · have empty := inside.routed inner [] isRoute (List.append_nil _).symm
      exact inside.named (String.toList_eq_nil_iff.mp empty)
    · exact taken.not_inside_of_overruns overruns inside
  · obtain ⟨front, inner, rest, cut, -, -, rfl⟩ := reversePath?_eq_some.mp read
    exact ⟨front, inner, rest, cut, String.toList_ofList, String.toList_ofList⟩

/-- Brackets and colons among the parameters do no harm where the route is closed by its own colon. -/
theorem forward_path_inside_iff_of_closed_route :
    let args := "to: <@hub,@relay:zim@irk.example> ORCPT=<a:b>"
    let found : PathArguments := ⟨"zim@irk.example", "ORCPT=<a:b>"⟩
    forwardPath? args = some found ∧
      Bracketed args.toList "to: ".toList "@hub,@relay:zim@irk.example".toList
        " ORCPT=<a:b>".toList ∧
      Inside "@hub,@relay:zim@irk.example".toList " ORCPT=<a:b>".toList found := by
  have accepted : forwardPath? "to: <@hub,@relay:zim@irk.example> ORCPT=<a:b>" =
      some ⟨"zim@irk.example", "ORCPT=<a:b>"⟩ := by decide +kernel
  have cut : Bracketed "to: <@hub,@relay:zim@irk.example> ORCPT=<a:b>".toList "to: ".toList
      "@hub,@relay:zim@irk.example".toList " ORCPT=<a:b>".toList :=
    ⟨by decide +kernel, by decide +kernel, by decide +kernel⟩
  refine ⟨accepted, cut,
    ((forward_path_inside_iff accepted).2.1 _ _ _ cut).mpr ⟨?_, ?_⟩⟩
  · rintro ⟨hosts, route, -⟩
    have last := congrArg List.getLast? route
    rw [← List.cons_append, List.getLast?_concat] at last
    exact absurd last (by decide +kernel)
  · rintro ⟨_, _, past⟩
    exact past.unclosed (by decide +kernel)

/-- A colon and a bracket among the parameters make a recipient of what stands between them, and a route
alone is a recipient. -/
theorem forward_path_outside :
    forwardPath? "TO:<@a> x:victim@b>" = some ⟨"victim@b", ""⟩ ∧
    Bracketed "TO:<@a> x:victim@b>".toList "TO:".toList "@a".toList " x:victim@b>".toList ∧
    ¬Inside "@a".toList " x:victim@b>".toList ⟨"victim@b", ""⟩ ∧
    forwardPath? "TO:<@a:>" = some ⟨"@a:", ""⟩ ∧
    Bracketed "TO:<@a:>".toList "TO:".toList "@a:".toList [] ∧ ¬Inside "@a:".toList [] ⟨"@a:", ""⟩ := by
  refine ⟨by decide +kernel, ⟨by decide +kernel, by decide +kernel, by decide +kernel⟩,
    fun inside => ?_, by decide +kernel, ⟨by decide +kernel, by decide +kernel, by decide +kernel⟩,
    fun inside => ?_⟩
  · exact absurd inside.suffix (by decide +kernel)
  · have gone := inside.routed "@a:".toList [] ⟨['a'], by decide +kernel, by decide, by decide⟩
      (List.append_nil _).symm
    exact absurd gone (by decide +kernel)

end Grammar

end SmtpDialog
