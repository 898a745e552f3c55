/- digest: A chain holds what its history has left standing, the latest addition first. -/
import Mathlib.Data.List.Induction
import SmtpDialog.Chain

set_option autoImplicit false
set_option relaxedAutoImplicit false

namespace SmtpDialog.Chain

inductive Act (α : Type)
  | add (key : String) (value : α)
  | remove (key : String)
  | snapshot

variable {α : Type}

def Act.key? : Act α → Option String
  | add key _ => some key
  | remove key => some key
  | snapshot => none

def Act.isSnapshot : Act α → Bool
  | snapshot => true
  | _ => false

/-- A chain and the snapshots that were kept of it, the earliest first. -/
structure Holding (α : Type) where
  chain : Chain α := .empty
  snapshots : List (List α) := []

def Holding.perform (h : Holding α) : Act α → Holding α
  | .add key value => { h with chain := h.chain.insert key value }
  | .remove key => { h with chain := (h.chain.remove key).2 }
  | .snapshot => { h with snapshots := h.snapshots ++ [h.chain.values] }

/-- What acts make of an empty chain, the first one done first. -/
def Holding.ofActs (acts : List (Act α)) : Holding α := acts.foldl Holding.perform {}

/-- Whether the last act about a key is the one at a position, and adds a value under it. -/
structure Standing (acts : List (Act α)) (key : String) (value : α) (position : Nat) : Prop where
  added : acts[position]? = some (.add key value)
  last : ∀ later act, position < later → acts[later]? = some act → act.key? ≠ some key

section

variable {acts : List (Act α)} {act : Act α} {key : String} {value : α} {position : Nat}

theorem Standing.position_lt (standing : Standing acts key value position) :
    position < acts.length :=
  (List.getElem?_eq_some_iff.mp standing.added).1

/-- An addition stands once it is made, and until there is an act about its key. -/
theorem standing_concat :
    Standing (acts ++ [act]) key value position ↔
      (position = acts.length ∧ act = .add key value) ∨
        (act.key? ≠ some key ∧ Standing acts key value position) := by
  have newest : (acts ++ [act])[acts.length]? = some act := List.getElem?_concat_length
  constructor
  · rintro ⟨added, last⟩
    rcases Nat.lt_or_ge position acts.length with early | late
    · right
      rw [List.getElem?_append_left early] at added
      refine ⟨last acts.length act early newest, added, fun later other after found => ?_⟩
      have within : later < acts.length := (List.getElem?_eq_some_iff.mp found).1
      exact last later other after ((List.getElem?_append_left within).trans found)
    · left
      have within : position < (acts ++ [act]).length := (List.getElem?_eq_some_iff.mp added).1
      obtain rfl : position = acts.length := by
        rw [List.length_append, List.length_singleton] at within
        omega
      exact ⟨rfl, Option.some.inj (newest.symm.trans added)⟩
  · rintro (⟨rfl, rfl⟩ | ⟨other, standing⟩)
    · refine ⟨newest, fun later act after found => ?_⟩
      have within := (List.getElem?_eq_some_iff.mp found).1
      rw [List.length_append, List.length_singleton] at within
      omega
    · have early := standing.position_lt
      refine ⟨(List.getElem?_append_left early).trans standing.added, ?_⟩
      intro later found after present
      rcases Nat.lt_or_ge later acts.length with within | beyond
      · rw [List.getElem?_append_left within] at present
        exact standing.last later found after present
      · have bound := (List.getElem?_eq_some_iff.mp present).1
        obtain rfl : later = acts.length := by
          rw [List.length_append, List.length_singleton] at bound
          omega
        rw [newest] at present
        obtain rfl := Option.some.inj present
        exact other

theorem Holding.ofActs_concat (acts : List (Act α)) (act : Act α) :
    Holding.ofActs (acts ++ [act]) = (Holding.ofActs acts).perform act :=
  List.foldl_append

theorem mem_entries_erase {chain : Chain α} {k : String} :
    (key, value) ∈ (chain.erase k).entries ↔ k ≠ key ∧ (key, value) ∈ chain.entries := by
  rw [erase, List.mem_filter, and_comm, bne_iff_ne, ne_comm]

/-- The entries of a chain are the additions that stand, the latest first. -/
structure Mirrors (chain : Chain α) (acts : List (Act α)) : Prop where
  mem_iff : ∀ key value, (key, value) ∈ chain.entries ↔ ∃ position, Standing acts key value position
  unique : chain.keys.Nodup
  ordered : chain.entries.Pairwise fun newer older => ∀ i j,
    Standing acts newer.1 newer.2 i → Standing acts older.1 older.2 j → j < i

namespace Mirrors

variable {chain : Chain α}

private theorem ordered_of_subset (mirrors : chain.Mirrors acts) {entries : List (String × α)}
    (sublist : entries.Sublist chain.entries)
    (apart : ∀ entry ∈ entries, act.key? ≠ some entry.1) :
    entries.Pairwise fun newer older => ∀ i j, Standing (acts ++ [act]) newer.1 newer.2 i →
      Standing (acts ++ [act]) older.1 older.2 j → j < i := by
  have before {entry : String × α} (member : entry ∈ entries) {i : Nat}
      (standing : Standing (acts ++ [act]) entry.1 entry.2 i) :
      Standing acts entry.1 entry.2 i := by
    rcases standing_concat.mp standing with ⟨-, rfl⟩ | ⟨-, standing⟩
    · exact absurd rfl (apart entry member)
    · exact standing
  refine (mirrors.ordered.sublist sublist).imp_of_mem ?_
  intro newer older here there earlier i j first second
  exact earlier i j (before here first) (before there second)

theorem erase (mirrors : chain.Mirrors acts) (k : String) :
    (chain.erase k).Mirrors (acts ++ [.remove k]) where
  mem_iff key value := by
    simp only [mem_entries_erase, mirrors.mem_iff, standing_concat, Act.key?, reduceCtorEq,
      and_false, false_or, ne_eq, Option.some.injEq, exists_and_left]
  unique := mirrors.unique.sublist (List.filter_sublist.map Prod.fst)
  ordered := mirrors.ordered_of_subset List.filter_sublist fun entry member => by
    simpa [Act.key?, ne_comm] using (List.mem_filter.mp member).2

theorem insert (mirrors : chain.Mirrors acts) (k : String) (v : α) :
    (chain.insert k v).Mirrors (acts ++ [.add k v]) where
  mem_iff key value := by
    simp only [Chain.insert, List.mem_cons, mem_entries_erase, mirrors.mem_iff, standing_concat,
      Act.key?, Act.add.injEq, Prod.mk.injEq, ne_eq, Option.some.injEq, exists_or,
      exists_and_left, exists_eq_left, eq_comm]
  unique := by
    refine List.nodup_cons.mpr ⟨fun member => ?_, ?_⟩
    · obtain ⟨entry, kept, same⟩ := List.mem_map.mp member
      have other := (List.mem_filter.mp kept).2
      simp [same] at other
    · exact mirrors.unique.sublist (List.filter_sublist.map Prod.fst)
  ordered := by
    refine List.pairwise_cons.mpr ⟨fun entry member i j first second => ?_, ?_⟩
    · have other : entry.1 ≠ k := by simpa using (List.mem_filter.mp member).2
      have latest : i = acts.length := by
        rcases standing_concat.mp first with ⟨here, -⟩ | ⟨apart, -⟩
        · exact here
        · exact absurd rfl apart
      rcases standing_concat.mp second with ⟨-, same⟩ | ⟨-, standing⟩
      · exact absurd (Act.add.inj same).1.symm other
      · exact latest ▸ standing.position_lt
    · exact mirrors.ordered_of_subset List.filter_sublist fun entry member => by
        simpa [Act.key?, ne_comm] using (List.mem_filter.mp member).2

theorem watched (mirrors : chain.Mirrors acts) : chain.Mirrors (acts ++ [.snapshot]) where
  mem_iff key value := by
    simp [mirrors.mem_iff, standing_concat, Act.key?]
  unique := mirrors.unique
  ordered := mirrors.ordered_of_subset (List.Sublist.refl _) nofun

end Mirrors

theorem mirrors_ofActs (acts : List (Act α)) : (Holding.ofActs acts).chain.Mirrors acts := by
  induction acts using List.reverseRecOn with
  | nil => exact ⟨fun key value => by simpa [Holding.ofActs, empty] using nofun, List.nodup_nil, .nil⟩
  | append_singleton acts act ih =>
    rw [Holding.ofActs_concat]
    cases act with
    | add key value => exact ih.insert key value
    | remove key => exact ih.erase key
    | snapshot => exact ih.watched

section

variable {chain : Chain α} {key : String} {value : α}

theorem get?_eq_some_iff (unique : chain.keys.Nodup) :
    chain.get? key = some value ↔ (key, value) ∈ chain.entries := by
  rw [get?, Option.map_eq_some_iff]
  constructor
  · rintro ⟨⟨k, v⟩, found, rfl⟩
    obtain rfl : k = key := by simpa using List.find?_some found
    exact List.mem_of_find?_eq_some found
  · intro member
    obtain ⟨before, after, split⟩ := List.mem_iff_append.mp member
    refine ⟨(key, value), List.find?_eq_some_iff_append.mpr ⟨by simp, before, after, split, ?_⟩, rfl⟩
    intro other earlier
    rw [keys, split, List.map_append, List.map_cons] at unique
    have apart := (List.nodup_append.mp unique).2.2 other.1 (List.mem_map_of_mem earlier) key
      List.mem_cons_self
    simpa using apart

theorem contains_iff : chain.contains key = true ↔ key ∈ chain.keys := by
  simp [contains, keys]

theorem remove_found_iff : (chain.remove key).1 = true ↔ key ∈ chain.keys := by
  have all : (chain.erase key).entries.length = chain.entries.length ↔
      ∀ entry ∈ chain.entries, (entry.1 != key) = true := List.length_filter_eq_length_iff
  rw [remove, bne_iff_ne, ne_eq, all]
  simp [keys]

end

theorem Holding.snapshots_ofActs_concat (acts : List (Act α)) (act : Act α) :
    (Holding.ofActs acts).snapshots <+: (Holding.ofActs (acts ++ [act])).snapshots := by
  rw [Holding.ofActs_concat]
  cases act with
  | snapshot => exact List.prefix_append _ _
  | add | remove => exact List.prefix_rfl

theorem Holding.snapshots_prefix (before after : List (Act α)) :
    (Holding.ofActs before).snapshots <+: (Holding.ofActs (before ++ after)).snapshots := by
  induction after using List.reverseRecOn with
  | nil => simp
  | append_singleton after act ih =>
    rw [← List.append_assoc]
    exact ih.trans (Holding.snapshots_ofActs_concat _ act)

theorem Holding.length_snapshots (acts : List (Act α)) :
    (Holding.ofActs acts).snapshots.length = acts.countP Act.isSnapshot := by
  induction acts using List.reverseRecOn with
  | nil => rfl
  | append_singleton acts act ih =>
    rw [Holding.ofActs_concat, List.countP_append, ← ih]
    cases act <;> simp [Holding.perform, Act.isSnapshot]

/-- A snapshot stays what was read when it was taken. -/
theorem Holding.snapshot_stays (before after : List (Act α)) :
    (Holding.ofActs (before ++ .snapshot :: after)).snapshots[before.countP Act.isSnapshot]? =
      some (Holding.ofActs before).chain.values := by
  have taken : (Holding.ofActs (before ++ [.snapshot])).snapshots =
      (Holding.ofActs before).snapshots ++ [(Holding.ofActs before).chain.values] := by
    rw [Holding.ofActs_concat]
    rfl
  obtain ⟨more, later⟩ := Holding.snapshots_prefix (before ++ [.snapshot]) after
  rw [List.append_assoc, List.singleton_append] at later
  rw [← later, taken, ← Holding.length_snapshots, List.append_assoc, List.singleton_append,
    List.getElem?_append_right (Nat.le_refl _), Nat.sub_self, List.getElem?_cons_zero]

/-- A chain is what its history has left standing. Each key occurs once, the latest addition first, and
what is found, counted, listed or taken away is read off that list; a snapshot no longer changes. -/
theorem chain_of_history (acts : List (Act α)) :
    let held := Holding.ofActs acts
    held.chain.Mirrors acts ∧
      (∀ key value, held.chain.get? key = some value ↔ ∃ position, Standing acts key value position) ∧
      (∀ key, held.chain.contains key = true ↔ ∃ value position, Standing acts key value position) ∧
      held.chain.keys = held.chain.entries.map Prod.fst ∧
      held.chain.values = held.chain.entries.map Prod.snd ∧
      held.chain.size = held.chain.entries.length ∧
      (∀ key, (held.chain.remove key).1 = true ↔ key ∈ held.chain.keys) ∧
      (∀ key, (held.chain.remove key).2.entries.Sublist held.chain.entries ∧
        ∀ entry, entry ∈ (held.chain.remove key).2.entries ↔ entry.1 ≠ key ∧ entry ∈ held.chain.entries) ∧
      ∀ before after, acts = before ++ .snapshot :: after →
        held.snapshots[before.countP Act.isSnapshot]? = some (Holding.ofActs before).chain.values := by
  intro held
  have mirrors : held.chain.Mirrors acts := mirrors_ofActs acts
  refine ⟨mirrors, fun key value => ?_, fun key => ?_, rfl, rfl, rfl, fun key => remove_found_iff,
    fun key => ⟨List.filter_sublist, fun entry => ?_⟩, ?_⟩
  · rw [get?_eq_some_iff mirrors.unique, mirrors.mem_iff]
  · rw [contains_iff, keys, List.mem_map]
    constructor
    · rintro ⟨⟨k, value⟩, member, rfl⟩
      exact ⟨value, (mirrors.mem_iff k value).mp member⟩
    · rintro ⟨value, standing⟩
      exact ⟨(key, value), (mirrors.mem_iff key value).mpr standing, rfl⟩
  · rw [ne_comm]
    exact mem_entries_erase
  · rintro before after rfl
    exact Holding.snapshot_stays before after

end

end SmtpDialog.Chain
