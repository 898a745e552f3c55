/- digest: The values of a TOML document. -/
import SmtpDialog.Toml.Dotted

set_option autoImplicit false
set_option relaxedAutoImplicit false

namespace SmtpDialog.Toml

inductive Value
  | text (t : String)
  | integer (n : Int)
  | float
  | flag (b : Bool)
  | moment
  | array (items : List Value)
  | table (pairs : List (String × Value))

/-- Keys with their values. A key that was given twice is kept twice, for the reader of the table to
judge. -/
abbrev Pairs := List (String × Value)

/-- The table that pairs under dotted keys of at most `depth` parts make up. Of the pairs whose keys
begin alike the first decides: unless its key goes on, no other may. -/
def nest? : Nat → Dotted Value → Option Pairs
  | 0, pairs => if pairs.isEmpty then some [] else none
  | depth + 1, pairs => do
    let parts ← pairs.groups.mapM fun (key, group) =>
      let values := group.here.map (key, ·)
      let deeper := group.filter (!·.1.isEmpty)
      match group with
      | ([], _) :: _ => if deeper.isEmpty then some values else none
      | _ => (nest? depth deeper).map fun inner => (key, Value.table inner) :: values
    return parts.flatten

def table? (pairs : Dotted Value) : Option Pairs := nest? pairs.depth pairs

end SmtpDialog.Toml
