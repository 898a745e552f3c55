/- digest: A line of the dialog and the views that commands take of it. -/
import SmtpDialog.Text.Utf8
import SmtpDialog.Text.Blank
import SmtpDialog.Text.Quoted

set_option autoImplicit false
set_option relaxedAutoImplicit false

namespace SmtpDialog

structure Line where
  bytes : Bytes
  deriving DecidableEq

namespace Line

/-- Two for CR LF, one for a bare LF, none without a line feed at the end. -/
def terminatorLength (line : Line) : Nat :=
  match line.bytes.reverse with
  | 10 :: 13 :: _ => 2
  | 10 :: _ => 1
  | _ => 0

def isTerminated (line : Line) : Bool := line.terminatorLength != 0

def content (line : Line) : Bytes := line.bytes.take (line.bytes.length - line.terminatorLength)

def chars (line : Line) : List Char := Utf8.lossy line.content

def text (line : Line) : String := String.ofList line.chars

def body (line : Line) : List Char := Text.trimStart Text.isGap line.chars

def verb (line : Line) : String := String.ofList (line.body.takeWhile (!Text.isGap ·))

def arguments (line : Line) : String :=
  String.ofList (Text.trimStart Text.isGap (line.body.dropWhile (!Text.isGap ·)))

def mapBytes (f : Bytes → Bytes) (line : Line) : Line := ⟨f line.bytes⟩

def describe (line : Line) : String := "Line(" ++ Text.quoted (Utf8.toStringLossy line.bytes) ++ ")"

end Line
end SmtpDialog
