/- digest: Every byte offset at which a line is cut lies between two of its characters. -/
import Mathlib.Data.List.TakeWhile
import SmtpDialog.Grammar.Arguments
import SmtpDialog.Proofs.Utf8
import SmtpDialog.Proofs.Views

set_option autoImplicit false
set_option relaxedAutoImplicit false

namespace SmtpDialog

namespace Utf8

/-- A text in two at a byte offset; `none` behind the end of the text and inside a character. -/
def cutAt? : Nat → List Char → Option (List Char × List Char)
  | 0, cs => some ([], cs)
  | _ + 1, [] => none
  | n + 1, c :: cs =>
    if (String.utf8EncodeChar c).length ≤ n + 1 then
      (cutAt? (n + 1 - (String.utf8EncodeChar c).length) cs).map fun (front, rest) => (c :: front, rest)
    else none

/-- The byte offset of the first character with a property, or of the end of the text. -/
def offsetOf (p : Char → Bool) : List Char → Nat
  | [] => 0
  | c :: cs => if p c then 0 else (String.utf8EncodeChar c).length + offsetOf p cs

/-- The bytes that stand for a space and a tab. -/
def isGapByte (b : UInt8) : Bool := b == 0x20 || b == 0x09

section

variable {cs front rest : List Char} {p : Char → Bool} {n : Nat}

theorem encode_cons (c : Char) (cs : List Char) :
    encode (c :: cs) = String.utf8EncodeChar c ++ encode cs :=
  List.flatMap_cons

theorem encodeChar_length_pos (c : Char) : 0 < (String.utf8EncodeChar c).length := by
  rw [String.length_utf8EncodeChar]
  exact c.utf8Size_pos

theorem cutAt?_eq_some_iff :
    cutAt? n cs = some (front, rest) ↔ cs = front ++ rest ∧ (encode front).length = n := by
  fun_induction cutAt? n cs generalizing front with
  | case1 cs =>
    constructor
    · rintro ⟨⟩
      exact ⟨rfl, rfl⟩
    · rintro ⟨rfl, size⟩
      cases front with
      | nil => rfl
      | cons c front =>
        have positive := encodeChar_length_pos c
        rw [encode_cons, List.length_append] at size
        omega
  | case2 n =>
    refine ⟨nofun, fun ⟨parts, size⟩ => ?_⟩
    obtain ⟨rfl, rfl⟩ := List.append_eq_nil_iff.mp parts.symm
    exact absurd size (Nat.succ_ne_zero n).symm
  | case3 n c cs within ih =>
    rw [Option.map_eq_some_iff]
    constructor
    · rintro ⟨⟨front, rest⟩, cut, ⟨⟩⟩
      obtain ⟨rfl, length⟩ := ih.mp cut
      refine ⟨rfl, ?_⟩
      rw [encode_cons, List.length_append, length]
      exact Nat.add_sub_cancel' within
    · rintro ⟨parts, length⟩
      cases front with
      | nil => exact absurd length (Nat.succ_ne_zero n).symm
      | cons d front =>
        obtain ⟨rfl, rfl⟩ := List.cons.inj parts
        rw [encode_cons, List.length_append] at length
        exact ⟨(front, rest), ih.mpr ⟨rfl, by omega⟩, rfl⟩
  | case4 n c cs beyond =>
    refine ⟨nofun, fun ⟨parts, length⟩ => ?_⟩
    cases front with
    | nil => exact absurd length (Nat.succ_ne_zero n).symm
    | cons d front =>
      obtain ⟨rfl, rfl⟩ := List.cons.inj parts
      rw [encode_cons, List.length_append] at length
      omega

theorem offsetOf_eq (p : Char → Bool) (cs : List Char) :
    offsetOf p cs = (encode (cs.takeWhile (!p ·))).length := by
  induction cs with
  | nil => rfl
  | cons c cs ih =>
    rw [offsetOf, List.takeWhile_cons]
    cases p c with
    | true => rfl
    | false => simp [encode_cons, ih]

theorem cutAt?_offsetOf (p : Char → Bool) (cs : List Char) :
    cutAt? (offsetOf p cs) cs = some (cs.takeWhile (!p ·), cs.dropWhile (!p ·)) :=
  cutAt?_eq_some_iff.mpr ⟨List.takeWhile_append_dropWhile.symm, (offsetOf_eq p cs).symm⟩

theorem isGapByte_of_mem {c : Char} {b : UInt8} (written : b ∈ String.utf8EncodeChar c)
    (other : Text.isGap c = false) : isGapByte b = false := by
  have alone : b ∈ encode [c] := by
    rw [encode_cons]
    exact List.mem_append_left _ written
  rw [isGapByte, Bool.or_eq_false_iff, beq_eq_false_iff_ne, beq_eq_false_iff_ne]
  constructor
  · rintro rfl
    obtain rfl : ' ' = c := List.mem_singleton.mp (mem_of_mem_encode (by decide) alone)
    exact absurd other (by decide)
  · rintro rfl
    obtain rfl : '\t' = c := List.mem_singleton.mp (mem_of_mem_encode (by decide) alone)
    exact absurd other (by decide)

/-- Looking for the byte of a gap finds the offset of the first character that is one. -/
theorem findIdx_isGapByte (cs : List Char) :
    (encode cs).findIdx isGapByte = offsetOf Text.isGap cs := by
  induction cs with
  | nil => rfl
  | cons c cs ih =>
    rw [encode_cons, offsetOf]
    cases gap : Text.isGap c with
    | true =>
      have kind : c = ' ' ∨ c = '\t' := by simpa [Text.isGap] using gap
      rcases kind with rfl | rfl <;> rfl
    | false =>
      have none : (String.utf8EncodeChar c).findIdx isGapByte = (String.utf8EncodeChar c).length :=
        List.findIdx_eq_length.mpr fun b written => isGapByte_of_mem written gap
      rw [List.findIdx_append, none, ih, if_neg (Nat.lt_irrefl _), Nat.add_comm]
      rfl

end

end Utf8

namespace Line

/-- What a line ends with: CR LF, a bare LF, or nothing. -/
def terminator (line : Line) : Bytes :=
  if [13, 10] <:+ line.bytes then [13, 10] else if [10] <:+ line.bytes then [10] else []

theorem length_terminator (line : Line) : line.terminator.length = line.terminatorLength := by
  have crlf : [13, 10] <:+ line.bytes ↔ [10, 13] <+: line.bytes.reverse := List.reverse_prefix.symm
  have lf : [10] <:+ line.bytes ↔ [10] <+: line.bytes.reverse := List.reverse_prefix.symm
  rw [terminator, terminatorLength]
  simp only [crlf, lf]
  cases line.bytes.reverse with
  | nil => rfl
  | cons last before =>
    by_cases ends : last = 10
    · subst ends
      cases before with
      | nil => rfl
      | cons c rest =>
        by_cases feed : c = 13
        · subst feed
          simp
        · simp [feed, Ne.symm feed]
    · simp [ends, Ne.symm ends]

theorem content_append_terminator (line : Line) : line.content ++ line.terminator = line.bytes := by
  have ends : line.terminator <:+ line.bytes := by
    rw [terminator]
    split
    · assumption
    · split
      · assumption
      · exact List.nil_suffix
  obtain ⟨front, parts⟩ := ends
  rw [content, ← length_terminator, ← parts, List.length_append, Nat.add_sub_cancel, List.take_left]

end Line

namespace RememberingLine

/-- What stands before the terminator, unless that were longer than the line. -/
def content? (m : RememberingLine) : Option Bytes :=
  let size := (Line.mk m.bytes).terminatorLength
  if size ≤ m.bytes.length then some (m.bytes.take (m.bytes.length - size)) else none

def readText? (m : RememberingLine) : Option (String × RememberingLine) :=
  match m.text? with
  | some text => some (text, m)
  | none => do
    let content ← m.content?
    let text := Utf8.toStringLossy content
    return (text, { m with text? := some text })

/-- The verb ends before the first byte of a gap. -/
def readVerb? (m : RememberingLine) : Option (String × RememberingLine) :=
  match m.verb? with
  | some verb => some (verb, m)
  | none => do
    let (text, m) ← m.readText?
    let body := Text.trimStart Text.isGap text.toList
    let (front, _) ← Utf8.cutAt? ((Utf8.encode body).findIdx Utf8.isGapByte) body
    let verb := String.ofList front
    return (verb, { m with verb? := some verb })

/-- The arguments begin behind as many bytes as the verb has. -/
def readArguments? (m : RememberingLine) : Option (String × RememberingLine) := do
  let (text, m) ← m.readText?
  let body := Text.trimStart Text.isGap text.toList
  let (verb, m) ← m.readVerb?
  let (_, rest) ← Utf8.cutAt? (Utf8.ofString verb).length body
  return (String.ofList (Text.trimStart Text.isGap rest), m)

/-- A view and the line that remembers it; `none` if a piece of the text cannot be cut out. -/
def read? (m : RememberingLine) : View → Option (String × RememberingLine)
  | .text => m.readText?
  | .verb => m.readVerb?
  | .arguments => m.readArguments?

namespace UpToDate

variable {m : RememberingLine} {line : Line}

theorem content? (current : m.UpToDate line) : m.content? = some line.content := by
  obtain ⟨bytes, text?, verb?⟩ := m
  obtain rfl : bytes = line.bytes := current.bytes
  have within : line.terminatorLength ≤ line.bytes.length := by
    have whole := congrArg List.length line.content_append_terminator
    rw [List.length_append, line.length_terminator] at whole
    omega
  exact if_pos within

theorem readText? (current : m.UpToDate line) : m.readText? = some (m.text, m.rememberText) := by
  have content := current.content?
  obtain ⟨bytes, text?, verb?⟩ := m
  obtain rfl : bytes = line.bytes := current.bytes
  cases text? with
  | some text => rfl
  | none =>
    rw [RememberingLine.readText?, content]
    rfl

theorem readVerb? (current : m.UpToDate line) : m.readVerb? = some (m.verb, m.rememberVerb) := by
  rw [RememberingLine.readVerb?, RememberingLine.rememberVerb, RememberingLine.verb]
  cases known : m.verb? with
  | some verb => rfl
  | none =>
    simp only [current.readText?, Option.bind_eq_bind, Option.bind_some, Utf8.findIdx_isGapByte,
      Utf8.cutAt?_offsetOf]
    rfl

theorem readArguments? (current : m.UpToDate line) :
    m.readArguments? = some (m.arguments, m.rememberText.rememberVerb) := by
  have remembered := current.rememberText
  have body : Text.trimStart Text.isGap m.text.toList = line.body := current.body
  have parts : line.body = line.verb.toList ++ line.body.dropWhile (!Text.isGap ·) := by
    rw [Line.verb, String.toList_ofList, List.takeWhile_append_dropWhile]
  have cut : Utf8.cutAt? (Utf8.ofString line.verb).length line.body =
      some (line.verb.toList, line.body.dropWhile (!Text.isGap ·)) :=
    Utf8.cutAt?_eq_some_iff.mpr ⟨parts, rfl⟩
  simp only [RememberingLine.readArguments?, current.readText?, remembered.readVerb?,
    remembered.verb, current.arguments, body, cut, Option.bind_eq_bind, Option.bind_some]
  rfl

theorem read? (current : m.UpToDate line) (view : View) :
    m.read? view = some (m.view view, m.remember view) := by
  cases view with
  | text => exact current.readText?
  | verb => exact current.readVerb?
  | arguments => exact current.readArguments?

end UpToDate

end RememberingLine

namespace LineUse

variable {α : Type}

/-- The use of a line whose views are cut out of its text; `none` once a cut fails. -/
def runSliced : LineUse α → RememberingLine → Option (α × RememberingLine)
  | done result, m => some (result, m)
  | bytes rest, m => (rest m.bytes).runSliced m
  | read view rest, m => do
    let (text, m) ← m.read? view
    (rest text).runSliced m
  | rewrite f rest, m => rest.runSliced (m.rewrite f)

/-- No use of a line fails. -/
theorem runSliced_eq {m : RememberingLine} {line : Line} (use : LineUse α)
    (current : m.UpToDate line) : use.runSliced m = some (use.runRemembering m) := by
  induction use generalizing m line with
  | done result => rfl
  | bytes rest ih => exact ih m.bytes current
  | read view rest ih =>
    rw [runSliced, current.read?, Option.bind_eq_bind, Option.bind_some]
    exact ih (m.view view) (current.remember view)
  | rewrite f rest ih => exact ih (current.rewrite f)

end LineUse

/-- The arguments of a command line, cut out behind the first gap; `none` if the cut fails. -/
def Grammar.arguments? (line : String) : Option String := do
  let body := Text.trimStart Text.isGap line.toList
  let (_, rest) ← Utf8.cutAt? (Utf8.offsetOf Text.isGap body) body
  return String.ofList (Text.trim Text.isGap rest)

theorem Grammar.arguments?_eq (line : String) :
    Grammar.arguments? line = some (Grammar.arguments line) := by
  rw [arguments?, Utf8.cutAt?_offsetOf]
  rfl

namespace Line

/-- What the views of a line are to each other. -/
structure Parts (line : Line) (text verb arguments : String) : Prop where
  decoded : text = Utf8.toStringLossy line.content
  joined : ∃ lead gap, text.toList = lead ++ verb.toList ++ gap ++ arguments.toList ∧
    (∀ c ∈ lead ++ gap, Text.isGap c = true) ∧ (gap = [] → arguments = "")
  unbroken : ∀ c ∈ verb.toList, Text.isGap c = false
  blank : verb = "" → arguments = ""
  flush : ∀ c ∈ arguments.toList.head?, Text.isGap c = false
  reread : Grammar.arguments? text =
    some (String.ofList (Text.trimEnd Text.isGap arguments.toList))

private theorem not_of_head?_dropWhile {p : Char → Bool} {cs : List Char} {c : Char}
    (first : c ∈ (cs.dropWhile p).head?) : p c = false := by
  have stopped := List.head?_dropWhile_not p cs
  rwa [Option.mem_def.mp first] at stopped

private theorem dropWhile_eq_nil {p q : Char → Bool} {cs : List Char}
    (either : ∀ c, p c = false → q c = true) (none : (cs.dropWhile p).takeWhile q = []) :
    cs.dropWhile p = [] := by
  cases left : cs.dropWhile p with
  | nil => rfl
  | cons c rest =>
    have first : c ∈ (cs.dropWhile p).head? := by
      rw [left]
      rfl
    have stopped := not_of_head?_dropWhile first
    rw [left, List.takeWhile_cons, if_pos (either c stopped)] at none
    exact absurd none (List.cons_ne_nil _ _)

theorem parts (line : Line) : line.Parts line.text line.verb line.arguments where
  decoded := rfl
  joined := by
    refine ⟨line.chars.takeWhile Text.isGap,
      (line.body.dropWhile (!Text.isGap ·)).takeWhile Text.isGap, ?_, ?_, ?_⟩
    · calc line.text.toList
        _ = line.chars.takeWhile Text.isGap ++ line.body := by
          rw [text, String.toList_ofList, body, Text.trimStart, List.takeWhile_append_dropWhile]
        _ = line.chars.takeWhile Text.isGap ++
            (line.verb.toList ++ line.body.dropWhile (!Text.isGap ·)) := by
          rw [verb, String.toList_ofList, List.takeWhile_append_dropWhile]
        _ = _ := by
          rw [arguments, String.toList_ofList, Text.trimStart, List.append_assoc, List.append_assoc,
            List.takeWhile_append_dropWhile]
    · intro c member
      rcases List.mem_append.mp member with lead | gap
      · exact List.mem_takeWhile_imp lead
      · exact List.mem_takeWhile_imp gap
    · intro none
      rw [arguments, dropWhile_eq_nil (by simp) none]
      rfl
  unbroken c member := by
    rw [verb, String.toList_ofList] at member
    simpa using List.mem_takeWhile_imp member
  blank none := by
    have wordless : line.body.takeWhile (!Text.isGap ·) = [] := String.ofList_eq_empty_iff.mp none
    have bodiless : line.body = [] := dropWhile_eq_nil (fun c stopped => by simp [stopped]) wordless
    rw [arguments, bodiless]
    rfl
  flush c first := by
    rw [arguments, String.toList_ofList] at first
    exact not_of_head?_dropWhile first
  reread := by
    rw [Grammar.arguments?_eq, Grammar.arguments, arguments, text, String.toList_ofList,
      String.toList_ofList]
    rfl

end Line

/-- The views of a line are its parts. After any use of a line all its views can be read, are those of its
bytes, and make up its text. -/
theorem LineUse.views_of_bytes {α : Type} (use : LineUse α) (line : Line) :
    ∃ m, use.runSliced (.fresh line) = some ((use.run line).1, m) ∧
      let now := (use.run line).2
      m.bytes = now.bytes ∧
      m.content? = some now.content ∧
      now.content ++ now.terminator = now.bytes ∧
      (∀ view, (m.read? view).map Prod.fst = some (now.view view)) ∧
      (∀ view, ((RememberingLine.fresh now).read? view).map Prod.fst = some (now.view view)) ∧
      now.Parts now.text now.verb now.arguments := by
  obtain ⟨result, current⟩ := use.runRemembering_eq (RememberingLine.UpToDate.fresh line)
  have fresh := RememberingLine.UpToDate.fresh (use.run line).2
  refine ⟨(use.runRemembering (.fresh line)).2, ?_, current.bytes, current.content?,
    Line.content_append_terminator _, fun view => ?_, fun view => ?_, Line.parts _⟩
  · rw [use.runSliced_eq (RememberingLine.UpToDate.fresh line), ← result]
  · rw [current.read?, Option.map_some, current.view]
  · rw [fresh.read?, Option.map_some, fresh.view]

end SmtpDialog
