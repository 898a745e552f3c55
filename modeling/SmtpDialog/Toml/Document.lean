/- digest: The tables of a TOML document, as one table sees them. -/
import SmtpDialog.Toml.Reader

/-!
The pairs behind a header belong to the table that it names. A table sees its own pairs and, under
each key, the tables whose names continue its name by that key. A name may be given by several
headers only if all of them add an element to an array of tables; what follows an element belongs to
it up to the next one.
-/

set_option autoImplicit false
set_option relaxedAutoImplicit false

namespace SmtpDialog.Toml

structure Section where
  isArray : Bool
  pairs : Pairs

/-- Parts statements at the headers: the pairs before the first one, then each header with the pairs
behind it. -/
def split : List Statement → Dotted Value × Dotted (Bool × Dotted Value)
  | [] => ([], [])
  | .pair key value :: statements =>
    let (pairs, sections) := split statements
    ((key, value) :: pairs, sections)
  | .header isArray path :: statements =>
    let (pairs, sections) := split statements
    ([], (path, isArray, pairs) :: sections)

/-- The sections of a document. Pairs before the first header belong to the whole document. -/
def sections? (statements : List Statement) : Option (Dotted Section) :=
  let (pairs, sections) := split statements
  (([], false, pairs) :: sections).mapM fun (path, isArray, pairs) =>
    (table? pairs).map fun pairs => (path, ⟨isArray, pairs⟩)

/-- What stands under a key: a value, or the sections of a table or of an array of tables. -/
inductive Entry
  | value (v : Value)
  | sections (isArray : Bool) (ss : Dotted Section)

/-- Whether a section is that of an element of an array of tables, and not of a table inside one. -/
def opensElement (s : List String × Section) : Bool := s.1.isEmpty && s.2.isArray

/-- Whether sections under one key make up an array of tables, which the first of them decides. -/
def isArrayOfTables (ss : Dotted Section) : Bool := ss.head?.any opensElement

/-- Cuts the sections of an array of tables at its elements. -/
def elements : Dotted Section → List (Dotted Section)
  | [] => []
  | s :: ss =>
    match elements ss with
    | [] => [[s]]
    | element :: rest =>
      if isArrayOfTables element then [s] :: element :: rest else (s :: element) :: rest

mutual

/-- Whether the sections of a table name nothing twice. The path of an element's own section counts
as the table's own. -/
def tableOk : Nat → Bool → Dotted Section → Bool
  | 0, _, _ => false
  | fuel + 1, isElement, ss =>
    let own := ss.here
    own.length ≤ 1 && (isElement || own.all (!·.isArray)) && ss.groups.all (groupOk fuel ·.2)

/-- Whether the sections under one key name nothing twice. -/
def groupOk : Nat → Dotted Section → Bool
  | 0, _ => false
  | fuel + 1, ss =>
    if isArrayOfTables ss then (elements ss).all (tableOk fuel true)
    else tableOk fuel false ss

end

/-- What a table sees: its own pairs, and the sections under each further key. -/
def entries (ss : Dotted Section) : List (String × Entry) :=
  ss.here.flatMap (·.pairs.map fun pair => (pair.1, .value pair.2)) ++
    ss.groups.map fun (key, group) => (key, .sections (isArrayOfTables group) group)

def document? (text : String) : Option (List (String × Entry)) :=
  ((read? text).bind sections?).bind fun ss =>
    if tableOk (2 * ss.depth + 2) false ss then some (entries ss) else none

end SmtpDialog.Toml
