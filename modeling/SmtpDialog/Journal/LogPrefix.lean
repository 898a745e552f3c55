/- digest: The text in front of every log record of a session. -/
import SmtpDialog.Text.Blank

set_option autoImplicit false
set_option relaxedAutoImplicit false

namespace SmtpDialog

structure LogPrefix where
  protocol : String
  peer : Option String := none
  user : Option String := none
  helo : Option String := none
  deriving DecidableEq

namespace LogPrefix

def maxShown : Nat := 64

/-- A foreign text without control characters, cut to `maxShown` characters. -/
def sanitised (t : String) : String :=
  String.ofList ((t.toList.filter (!Text.isControl ·)).take maxShown)

def setPeer (peer : String) (p : LogPrefix) : LogPrefix := { p with peer := some (sanitised peer) }

def setUser (user : String) (p : LogPrefix) : LogPrefix := { p with user := some (sanitised user) }

def clearUser (p : LogPrefix) : LogPrefix := { p with user := none }

def setHelo (helo : String) (p : LogPrefix) : LogPrefix := { p with helo := some (sanitised helo) }

def client (p : LogPrefix) : List String :=
  p.user.toList ++ (p.helo.map ("helo=" ++ ·)).toList

def text (p : LogPrefix) : String :=
  p.protocol ++ ((p.peer.map (":" ++ ·)).getD "") ++
    (match p.client with
      | [] => ""
      | parts => "[" ++ " ".intercalate parts ++ "]")

end LogPrefix

/-- Prefixes and the handles under which they are held; a handle is its position. -/
structure LogPrefixes where
  held : List LogPrefix
  handles : List Nat

namespace LogPrefixes

def single (p : LogPrefix) : LogPrefixes := ⟨[p], [0]⟩

def get? (handle : Nat) (store : LogPrefixes) : Option LogPrefix :=
  (store.handles[handle]?).bind fun place => store.held[place]?

/-- Changes the prefix that a handle shows, for all handles on it. -/
def update (handle : Nat) (f : LogPrefix → LogPrefix) (store : LogPrefixes) : LogPrefixes :=
  match store.handles[handle]? with
  | some place => { store with held := store.held.modify place f }
  | none => store

/-- A further handle on the prefix that a handle shows. -/
def share (handle : Nat) (store : LogPrefixes) : LogPrefixes :=
  match store.handles[handle]? with
  | some place => { store with handles := store.handles ++ [place] }
  | none => store

/-- A handle on a copy of the prefix that a handle shows. -/
def copy (handle : Nat) (store : LogPrefixes) : LogPrefixes :=
  match store.get? handle with
  | some p => ⟨store.held ++ [p], store.handles ++ [store.held.length]⟩
  | none => store

def texts (store : LogPrefixes) : List String :=
  store.handles.map fun place => ((store.held[place]?).map LogPrefix.text).getD ""

end LogPrefixes
end SmtpDialog
