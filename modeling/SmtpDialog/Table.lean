/- digest: A table of values under keys, ordered by key. -/

set_option autoImplicit false
set_option relaxedAutoImplicit false

namespace SmtpDialog

structure Table (α : Type) where
  entries : List (String × α)

namespace Table

variable {α : Type}

def empty : Table α := ⟨[]⟩

def erase (key : String) (table : Table α) : Table α :=
  ⟨table.entries.filter (·.1 != key)⟩

/-- Places an entry before the first one with a greater key. -/
def place (key : String) (value : α) : List (String × α) → List (String × α)
  | [] => [(key, value)]
  | entry :: rest =>
    if key < entry.1 then (key, value) :: entry :: rest else entry :: place key value rest

def insert (key : String) (value : α) (table : Table α) : Table α :=
  ⟨place key value (table.erase key).entries⟩

def get? (key : String) (table : Table α) : Option α :=
  (table.entries.find? (·.1 == key)).map (·.2)

def contains (key : String) (table : Table α) : Bool := (table.get? key).isSome

def keys (table : Table α) : List String := table.entries.map (·.1)

private theorem find?_place (key other : String) (value : α) (entries : List (String × α)) :
    (∀ e ∈ entries, e.1 ≠ key) →
      (place key value entries).find? (·.1 == other) =
        if key = other then some (key, value) else entries.find? (·.1 == other) := by
  intro fresh
  induction entries with
  | nil => by_cases h : key = other <;> simp [place, h]
  | cons e rest ih =>
    have hrest := ih fun e he => fresh e (List.mem_cons_of_mem _ he)
    have hhead : e.1 ≠ key := fresh e List.mem_cons_self
    unfold place
    split
    · by_cases h : key = other <;> simp [h]
    · by_cases h : key = other
      · subst h
        simp [hrest, hhead]
      · simp [List.find?_cons, hrest, h]

private theorem filter_place (key : String) (value : α) (entries : List (String × α)) :
    (place key value entries).filter (·.1 != key) = entries.filter (·.1 != key) := by
  induction entries with
  | nil => simp [place]
  | cons e rest ih =>
    unfold place
    split
    · simp
    · simp [List.filter_cons, ih]

private theorem find?_filter (key other : String) (entries : List (String × α)) :
    (entries.filter (·.1 != key)).find? (·.1 == other) =
      if key = other then none else entries.find? (·.1 == other) := by
  induction entries with
  | nil => simp
  | cons e rest ih =>
    by_cases he : e.1 = key
    · by_cases h : key = other
      · simp [he, h]
      · simp [he, ih, h]
    · by_cases h : key = other
      · subst h
        simp [he]
      · simp [List.find?_cons, he, ih, h]

theorem get?_erase (key other : String) (table : Table α) :
    (table.erase key).get? other = if key = other then none else table.get? other := by
  unfold get? erase
  rw [find?_filter]
  split <;> rfl

theorem get?_insert (key other : String) (value : α) (table : Table α) :
    (table.insert key value).get? other =
      if key = other then some value else table.get? other := by
  unfold get? insert
  have fresh : ∀ e ∈ (table.erase key).entries, e.1 ≠ key := by
    intro e he
    simpa using (List.mem_filter.mp he).2
  rw [find?_place key other value _ fresh]
  by_cases h : key = other
  · simp [h]
  · simp only [h, if_false, erase]
    rw [find?_filter, if_neg h]

theorem erase_insert (key : String) (value : α) (table : Table α) :
    (table.insert key value).erase key = table.erase key := by
  unfold insert erase
  simp only [filter_place, List.filter_filter, Bool.and_self]

theorem erase_erase (key : String) (table : Table α) :
    (table.erase key).erase key = table.erase key := by
  unfold erase
  simp only [List.filter_filter, Bool.and_self]

theorem erase_comm (key other : String) (table : Table α) :
    (table.erase key).erase other = (table.erase other).erase key := by
  unfold erase
  simp only [List.filter_filter, Bool.and_comm]

@[simp] theorem get?_empty (key : String) : (empty : Table α).get? key = none := rfl

end Table
end SmtpDialog
