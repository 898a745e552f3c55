/- digest: What is remembered of a line is what is read off its bytes. -/
import SmtpDialog.Line

set_option autoImplicit false
set_option relaxedAutoImplicit false

namespace SmtpDialog

/-- What can be read off a line besides its bytes. -/
inductive View
  | text
  | verb
  | arguments
  deriving DecidableEq

def Line.view (line : Line) : View → String
  | .text => line.text
  | .verb => line.verb
  | .arguments => line.arguments

/-- A line that remembers its text and its verb. -/
structure RememberingLine where
  bytes : Bytes
  text? : Option String := none
  verb? : Option String := none

namespace RememberingLine

def fresh (line : Line) : RememberingLine := { bytes := line.bytes }

def text (m : RememberingLine) : String := m.text?.getD (Line.mk m.bytes).text

def body (m : RememberingLine) : List Char := Text.trimStart Text.isGap m.text.toList

def verb (m : RememberingLine) : String :=
  m.verb?.getD (String.ofList (m.body.takeWhile (!Text.isGap ·)))

/-- All behind the verb, by its length. -/
def arguments (m : RememberingLine) : String :=
  String.ofList (Text.trimStart Text.isGap (m.body.drop m.verb.length))

def view (m : RememberingLine) : View → String
  | .text => m.text
  | .verb => m.verb
  | .arguments => m.arguments

def rememberText (m : RememberingLine) : RememberingLine := { m with text? := some m.text }

/-- The text has to be read only for a verb that is not known yet. -/
def rememberVerb (m : RememberingLine) : RememberingLine :=
  match m.verb? with
  | some _ => m
  | none => { m.rememberText with verb? := some m.verb }

def remember (m : RememberingLine) : View → RememberingLine
  | .text => m.rememberText
  | .verb => m.rememberVerb
  | .arguments => m.rememberText.rememberVerb

/-- Whatever is rewritten is forgotten. -/
def rewrite (f : Bytes → Bytes) (m : RememberingLine) : RememberingLine := { bytes := f m.bytes }

/-- What is remembered is true of the bytes. -/
structure UpToDate (m : RememberingLine) (line : Line) : Prop where
  bytes : m.bytes = line.bytes
  text? : ∀ text ∈ m.text?, text = line.text
  verb? : ∀ verb ∈ m.verb?, verb = line.verb

namespace UpToDate

variable {m : RememberingLine} {line : Line}

theorem fresh (line : Line) : (RememberingLine.fresh line).UpToDate line := ⟨rfl, nofun, nofun⟩

theorem text (current : m.UpToDate line) : m.text = line.text := by
  rw [RememberingLine.text]
  cases known : m.text? with
  | none => rw [current.bytes, Option.getD_none]
  | some text => exact current.text? text known

theorem body (current : m.UpToDate line) : m.body = line.body := by
  rw [RememberingLine.body, current.text, Line.text, String.toList_ofList, Line.body]

theorem verb (current : m.UpToDate line) : m.verb = line.verb := by
  rw [RememberingLine.verb]
  cases known : m.verb? with
  | none => rw [current.body, Option.getD_none, Line.verb]
  | some verb => exact current.verb? verb known

theorem arguments (current : m.UpToDate line) : m.arguments = line.arguments := by
  have parts : line.body.takeWhile (!Text.isGap ·) ++ line.body.dropWhile (!Text.isGap ·) = line.body :=
    List.takeWhile_append_dropWhile
  have behind : line.body.drop line.verb.length = line.body.dropWhile (!Text.isGap ·) :=
    calc line.body.drop line.verb.length
      _ = (line.body.takeWhile (!Text.isGap ·) ++ line.body.dropWhile (!Text.isGap ·)).drop
          (line.body.takeWhile (!Text.isGap ·)).length := by
        rw [parts, Line.verb, String.length_ofList]
      _ = line.body.dropWhile (!Text.isGap ·) := List.drop_left
  rw [RememberingLine.arguments, current.body, current.verb, behind, Line.arguments]

theorem view (current : m.UpToDate line) (view : View) : m.view view = line.view view := by
  cases view with
  | text => exact current.text
  | verb => exact current.verb
  | arguments => exact current.arguments

theorem rememberText (current : m.UpToDate line) : m.rememberText.UpToDate line where
  bytes := current.bytes
  text? := by
    rintro _ ⟨⟩
    exact current.text
  verb? := current.verb?

theorem rememberVerb (current : m.UpToDate line) : m.rememberVerb.UpToDate line := by
  rw [RememberingLine.rememberVerb]
  split
  · exact current
  · refine ⟨current.bytes, current.rememberText.text?, ?_⟩
    rintro _ ⟨⟩
    exact current.verb

theorem remember (current : m.UpToDate line) (view : View) : (m.remember view).UpToDate line := by
  cases view with
  | text => exact current.rememberText
  | verb => exact current.rememberVerb
  | arguments => exact current.rememberText.rememberVerb

theorem rewrite (current : m.UpToDate line) (f : Bytes → Bytes) :
    (m.rewrite f).UpToDate (line.mapBytes f) :=
  ⟨congrArg f current.bytes, nofun, nofun⟩

end UpToDate

end RememberingLine

/-- What is done with a line until there is a result. -/
inductive LineUse (α : Type)
  | done (result : α)
  | bytes (rest : Bytes → LineUse α)
  | read (view : View) (rest : String → LineUse α)
  | rewrite (f : Bytes → Bytes) (rest : LineUse α)

namespace LineUse

variable {α : Type}

def run : LineUse α → Line → α × Line
  | done result, line => (result, line)
  | bytes rest, line => (rest line.bytes).run line
  | read view rest, line => (rest (line.view view)).run line
  | rewrite f rest, line => rest.run (line.mapBytes f)

/-- What a use comes to where the line remembers what was read. -/
def runRemembering : LineUse α → RememberingLine → α × RememberingLine
  | done result, m => (result, m)
  | bytes rest, m => (rest m.bytes).runRemembering m
  | read view rest, m => (rest (m.view view)).runRemembering (m.remember view)
  | rewrite f rest, m => rest.runRemembering (m.rewrite f)

/-- It makes no difference what a line remembers. -/
theorem runRemembering_eq {m : RememberingLine} {line : Line} (use : LineUse α)
    (current : m.UpToDate line) :
    (use.runRemembering m).1 = (use.run line).1 ∧
      (use.runRemembering m).2.UpToDate (use.run line).2 := by
  induction use generalizing m line with
  | done result => exact ⟨rfl, current⟩
  | bytes rest ih =>
    rw [runRemembering, run, current.bytes]
    exact ih line.bytes current
  | read view rest ih =>
    rw [runRemembering, run, current.view]
    exact ih (line.view view) (current.remember view)
  | rewrite f rest ih => exact ih (current.rewrite f)

end LineUse

end SmtpDialog
