/- digest: Things under dotted keys, gathered by the parts of their keys. -/

set_option autoImplicit false
set_option relaxedAutoImplicit false

namespace SmtpDialog.Toml

/-- Things under dotted keys, in the order in which they were written. -/
abbrev Dotted (α : Type) := List (List String × α)

namespace Dotted

variable {α : Type}

def depth (xs : Dotted α) : Nat := xs.foldl (fun n x => max n x.1.length) 0

/-- The things whose keys have no part left. -/
def here (xs : Dotted α) : List α :=
  xs.filterMap fun x => if x.1.isEmpty then some x.2 else none

/-- The things whose keys have a part left, each beside the first part and what it leaves. -/
def further (xs : Dotted α) : List (String × List String × α) :=
  xs.filterMap fun x => match x.1 with
    | [] => none
    | part :: parts => some (part, parts, x.2)

/-- For every part that comes first in a key, what stands under it. -/
def groups (xs : Dotted α) : List (String × Dotted α) :=
  let sorted := (further xs).mergeSort fun x y => !(y.1 < x.1)
  (sorted.splitBy fun x y => x.1 == y.1).filterMap fun
    | [] => none
    | x :: rest => some (x.1, (x :: rest).map (·.2))

example : groups [(["b"], 1), (["a", "c"], 2), ([], 3), (["b", "d"], 4)] =
    [("a", [(["c"], 2)]), ("b", [([], 1), (["d"], 4)])] := by cbv

end Dotted
end SmtpDialog.Toml
