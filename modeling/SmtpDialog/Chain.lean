/- digest: A chain of keyed entries, the latest first. -/
import SmtpDialog.Text.Quoted

set_option autoImplicit false
set_option relaxedAutoImplicit false

namespace SmtpDialog

/-- Entries under keys, in the order in which they are asked. -/
structure Chain (α : Type) where
  entries : List (String × α)

namespace Chain

variable {α : Type}

def empty : Chain α := ⟨[]⟩

def erase (key : String) (chain : Chain α) : Chain α :=
  ⟨chain.entries.filter (·.1 != key)⟩

/-- Takes away the entry under a key, and tells whether there was one. -/
def remove (key : String) (chain : Chain α) : Bool × Chain α :=
  ((chain.erase key).entries.length != chain.entries.length, chain.erase key)

/-- Puts an entry in front, in place of any other under the same key. -/
def insert (key : String) (value : α) (chain : Chain α) : Chain α :=
  ⟨(key, value) :: (chain.erase key).entries⟩

def contains (key : String) (chain : Chain α) : Bool := chain.entries.any (·.1 == key)

def get? (key : String) (chain : Chain α) : Option α :=
  (chain.entries.find? (·.1 == key)).map (·.2)

def keys (chain : Chain α) : List String := chain.entries.map (·.1)

def values (chain : Chain α) : List α := chain.entries.map (·.2)

def size (chain : Chain α) : Nat := chain.entries.length

def isEmpty (chain : Chain α) : Bool := chain.entries.isEmpty

def describe (chain : Chain α) : String := Text.quotedList "[" "]" chain.keys

end Chain
end SmtpDialog
