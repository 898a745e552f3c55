/- digest: Of all handlers contributed for a verb the last one serves it. -/
import Mathlib.Data.List.Induction
import SmtpDialog.Proofs.Brackets
import SmtpDialog.Proofs.Consume
import SmtpDialog.Proofs.Registry

/-!
A server is assembled of commands, extensions and perhaps a handler of new connections, in any order and
with verbs in any letter case. What is contributed for a verb is replaced twice over, among the commands of
the server and again in its dispatch, each time after its verb has been put in upper case. Main statement:
all this comes to one rule. The commands count before those of extensions, and the last contribution whose
verb has the letters of the line's serves it; nothing else that was contributed has a say.
-/

set_option autoImplicit false
set_option relaxedAutoImplicit false

namespace SmtpDialog

variable {κ : Type}

namespace Server

/-- What a server can be made of. -/
inductive Part (κ : Type)
  | command (verb : String) (handler : Handler κ)
  | extension (x : Extension κ)
  | connectHandler (handler : Option (Handler κ))

namespace Part

def addTo : Part κ → Server κ → Server κ
  | command verb handler => Server.command verb handler
  | extension x => Server.extension x
  | connectHandler handler => withConnectHandler handler

def commands (parts : List (Part κ)) : List (String × Handler κ) :=
  parts.filterMap fun part => match part with
    | command verb handler => some (verb, handler)
    | _ => none

def extensions (parts : List (Part κ)) : List (Extension κ) :=
  parts.filterMap fun part => match part with
    | extension x => some x
    | _ => none

/-- The handlers that are contributed: all commands, and behind them those of the extensions. -/
def contributed (parts : List (Part κ)) : List (String × Handler κ) :=
  commands parts ++ (extensions parts).flatMap (·.commands)

end Part

def assemble (config : Config) (newMail : Session κ → MailBehaviour) (custom : κ → Hook κ)
    (parts : List (Part κ)) : Server κ :=
  parts.foldl (fun server part => part.addTo server) (bare config newMail custom)

/-- The last of the handlers that are contributed for a verb in letters of either case. -/
def lastFor? (verb : String) (contributed : List (String × Handler κ)) : Option (Handler κ) :=
  (contributed.filter fun c => Text.sameLetters c.1 verb).getLast?.map (·.2)

theorem lastFor?_append (verb : String) (xs ys : List (String × Handler κ)) :
    lastFor? verb (xs ++ ys) = (lastFor? verb ys).or (lastFor? verb xs) := by
  rw [lastFor?, List.filter_append, List.getLast?_append, Option.map_or]
  rfl

theorem lastFor?_singleton (verb own : String) (handler : Handler κ) :
    lastFor? verb [(own, handler)] =
      if Text.sameLetters own verb = true then some handler else none := by
  rw [lastFor?, List.filter_singleton]
  split <;> simp_all

/-- The dispatch finds what was contributed last. -/
theorem dispatch_get?_eq_lastFor? (server : Server κ) (verb : String) :
    server.dispatch.get? verb =
      lastFor? verb (server.commands ++ server.extensions.flatMap (·.commands)) := by
  rw [Dispatch.get?, dispatch, foldl_register_handlers, List.append_nil]
  generalize server.commands ++ server.extensions.flatMap (·.commands) = contributed
  induction contributed using List.reverseRecOn with
  | nil => rfl
  | append_singleton xs x ih =>
    rw [List.map_append, List.reverse_append, List.map_singleton, List.reverse_singleton,
      List.singleton_append, List.lookup_cons, ih, lastFor?_append, lastFor?_singleton]
    cases same : Text.sameLetters x.1 verb with
    | true =>
      have found : (Text.upper verb == Text.upper x.1) = true := by
        rw [BEq.comm]
        exact same
      simp [found]
    | false =>
      have other : (Text.upper verb == Text.upper x.1) = false := by
        rw [BEq.comm]
        exact same
      simp [other]

theorem lastFor?_command (server : Server κ) (verb own : String) (handler : Handler κ) :
    lastFor? verb (server.command own handler).commands =
      (lastFor? verb [(own, handler)]).or (lastFor? verb server.commands) := by
  have same : Text.sameLetters (Text.upper own) verb = Text.sameLetters own verb := by
    rw [Text.sameLetters, Text.sameLetters, Text.upper_upper]
  rw [command, lastFor?_append, lastFor?_singleton, lastFor?_singleton, same]
  split
  · rfl
  · rename_i other
    -- What gives way to the command has its verb, so it does not have the one that is asked for.
    have kept : (server.commands.filter (·.1 != Text.upper own)).filter
          (fun c => Text.sameLetters c.1 verb) =
        server.commands.filter fun c => Text.sameLetters c.1 verb := by
      rw [List.filter_filter]
      refine List.filter_congr fun c _ => ?_
      cases asked : Text.sameLetters c.1 verb with
      | false => rfl
      | true =>
        rw [Bool.true_and, bne_iff_ne]
        intro replaced
        rw [replaced, same] at asked
        exact other asked
    rw [lastFor?, kept]
    rfl

section

variable (config : Config) (newMail : Session κ → MailBehaviour) (custom : κ → Hook κ)

theorem assemble_append_single (parts : List (Part κ)) (part : Part κ) :
    assemble config newMail custom (parts ++ [part]) =
      part.addTo (assemble config newMail custom parts) := by
  simp only [assemble, List.foldl_append, List.foldl_cons, List.foldl_nil]

/-- Whatever is put together, the own commands of a server and its extensions are those of its parts. -/
theorem assemble_contributed (parts : List (Part κ)) (verb : String) :
    lastFor? verb (assemble config newMail custom parts).commands =
        lastFor? verb (Part.commands parts) ∧
      (assemble config newMail custom parts).extensions = Part.extensions parts := by
  induction parts using List.reverseRecOn with
  | nil => exact ⟨rfl, rfl⟩
  | append_singleton parts part ih =>
    obtain ⟨own, added⟩ := ih
    rw [assemble_append_single, Part.commands, Part.extensions, List.filterMap_append,
      List.filterMap_append, ← Part.commands, ← Part.extensions, lastFor?_append, ← own, ← added]
    cases part with
    | command own handler => exact ⟨lastFor?_command _ _ _ _, (List.append_nil _).symm⟩
    | extension x => exact ⟨rfl, rfl⟩
    | connectHandler handler => exact ⟨rfl, (List.append_nil _).symm⟩

theorem dispatch_get?_assemble (parts : List (Part κ)) (verb : String) :
    (assemble config newMail custom parts).dispatch.get? verb =
      lastFor? verb (Part.contributed parts) := by
  obtain ⟨own, added⟩ := assemble_contributed config newMail custom parts verb
  rw [dispatch_get?_eq_lastFor?, lastFor?_append, own, added, Part.contributed, lastFor?_append]

/-- The standard servers are assembled, too. -/
theorem ofFeatures_eq_assemble (features : List Feature) :
    ofFeatures config newMail custom features =
      assemble config newMail custom (.connectHandler (some Command.greeting) ::
        standardCommands.map (fun c => .command c.1 c.2) ++
          features.map (fun x => .extension x.extension)) := by
  rw [assemble, List.cons_append, List.foldl_cons, List.foldl_append, List.foldl_map,
    List.foldl_map]
  rfl

end

/-- Whether two handlers cannot be told apart where they are asked about a line: both are missing, or both
refuse the session, or both do the same with the text of the line. -/
inductive Alike (site : Site κ) (s : Session κ) (text : String) :
    Option (Handler κ) → Option (Handler κ) → Prop
  | missing : Alike site s text none none
  | refusing {handler other : Handler κ} (bars : handler.validFor s = false)
      (bars' : other.validFor s = false) : Alike site s text (some handler) (some other)
  | running {handler other : Handler κ} (valid : handler.validFor s = true)
      (valid' : other.validFor s = true)
      (same : handler.run site s (some text) = other.run site s (some text)) :
      Alike site s text (some handler) (some other)

theorem Alike.refl (site : Site κ) (s : Session κ) (text : String) (handler : Option (Handler κ)) :
    Alike site s text handler handler := by
  cases handler with
  | none => exact .missing
  | some handler =>
    cases valid : handler.validFor s with
    | false => exact .refusing valid valid
    | true => exact .running valid valid rfl

variable {config : Config} {newMail : Session κ → MailBehaviour} {custom : κ → Hook κ}
  {parts : List (Part κ)} {s : Session κ} {line : Line}

private theorem consume_of_alone (alone : s.consumers.values = [.dispatch])
    (terminated : line.isTerminated = true) :
    (assemble config newMail custom parts).consume s line =
      Outcome.conclude line ((lastFor? line.verb (Part.contributed parts)).elim (.ok .declined, s)
        fun handler =>
          handler.handle (assemble config newMail custom parts).site s (some line.text)) := by
  rw [consume_of_dispatch alone, Dispatch.consume, if_pos terminated, dispatch_get?_assemble]
  cases lastFor? line.verb (Part.contributed parts) <;> rfl

private theorem consume_of_alike {parts' : List (Part κ)}
    (alone : s.consumers.values = [.dispatch]) (terminated : line.isTerminated = true)
    (site : (assemble config newMail custom parts').site =
      (assemble config newMail custom parts).site)
    (alike : Alike (assemble config newMail custom parts).site s line.text
      (lastFor? line.verb (Part.contributed parts))
      (lastFor? line.verb (Part.contributed parts'))) :
    (assemble config newMail custom parts').consume s line =
      (assemble config newMail custom parts).consume s line := by
  rw [consume_of_alone alone terminated, consume_of_alone alone terminated, site]
  generalize lastFor? line.verb (Part.contributed parts) = found at alike ⊢
  generalize lastFor? line.verb (Part.contributed parts') = found' at alike ⊢
  cases alike with
  | missing => rfl
  | refusing bars bars' => simp [Handler.handle, bars, bars']
  | running valid valid' same => simp [Handler.handle, valid, valid', same]

private theorem site_assemble (parts : List (Part κ)) :
    (assemble config newMail custom parts).site =
      ⟨config, (Part.extensions parts).map (·.toOffer), newMail⟩ := by
  have settings : (assemble config newMail custom parts).config = config ∧
      (assemble config newMail custom parts).newMail = newMail := by
    induction parts using List.reverseRecOn with
    | nil => exact ⟨rfl, rfl⟩
    | append_singleton parts part ih =>
      rw [assemble_append_single]
      cases part <;> exact ih
  rw [site, settings.1, settings.2, (assemble_contributed config newMail custom parts "").2]

/-- What has no say about a verb: commands for others, and what is done with new connections. -/
inductive Part.Foreign (verb : String) : Part κ → Prop
  | command {own : String} (other : Text.sameLetters own verb = false) (handler : Handler κ) :
      Foreign verb (.command own handler)
  | connectHandler (handler : Option (Handler κ)) : Foreign verb (.connectHandler handler)

private theorem Part.Foreign.ignored {verb : String} {part : Part κ} (foreign : part.Foreign verb)
    (before after : List (Part κ)) :
    extensions (before ++ part :: after) = extensions (before ++ after) ∧
      lastFor? verb (contributed (before ++ part :: after)) =
        lastFor? verb (contributed (before ++ after)) := by
  have same : extensions (before ++ part :: after) = extensions (before ++ after) := by
    cases foreign <;> simp [extensions]
  refine ⟨same, ?_⟩
  rw [contributed, contributed, same, lastFor?_append, lastFor?_append]
  congr 1
  rw [commands, commands, List.filterMap_append, List.filterMap_append, lastFor?_append,
    lastFor?_append]
  cases foreign with
  | @command own other handler =>
    have others : lastFor? verb (commands after) =
        lastFor? verb ([(own, handler)] ++ commands after) := by
      rw [lastFor?_append, lastFor?_singleton, other, if_neg Bool.false_ne_true, Option.or_none]
    exact congrArg (Option.or · _) others.symm
  | connectHandler handler => rfl

/-- A line is for the handler that was contributed last for its verb: it is run on the stripped line where
it is valid, and elsewhere the command is out of sequence. Without a handler the verb is unknown. What other
handlers do does not matter, nor what that one does with anything else, nor what else is put in between. -/
theorem consume_of_parts (alone : s.consumers.values = [.dispatch])
    (terminated : line.isTerminated = true) :
    let server := assemble config newMail custom parts
    (∀ handler, lastFor? line.verb (Part.contributed parts) = some handler →
      server.consume s line =
        if handler.validFor s = true then
          Outcome.conclude line (handler.run server.site s (some line.text))
        else (.ok .badSequence, s)) ∧
    (lastFor? line.verb (Part.contributed parts) = none →
      (server.consume s line).1 = .ok .unrecognised ∧
        (server.consume s line).2.unlogged = s.unlogged) ∧
    (∀ parts', (Part.extensions parts').map (·.toOffer) = (Part.extensions parts).map (·.toOffer) →
      Alike server.site s line.text (lastFor? line.verb (Part.contributed parts))
        (lastFor? line.verb (Part.contributed parts')) →
      (assemble config newMail custom parts').consume s line = server.consume s line) ∧
    ∀ before part after, parts = before ++ after → Part.Foreign line.verb part →
      (assemble config newMail custom (before ++ part :: after)).consume s line =
        server.consume s line := by
  intro server
  have consumed : server.consume s line = _ := consume_of_alone alone terminated
  refine ⟨fun handler last => ?_, fun none => ?_, fun parts' offers alike => ?_, ?_⟩
  · rw [consumed, last, Option.elim_some, Handler.handle]
    split <;> rfl
  · rw [consumed, none]
    exact ⟨rfl, Session.unlogged_logWarn _ _⟩
  · refine consume_of_alike alone terminated ?_ alike
    rw [site_assemble, site_assemble, offers]
  · rintro before part after rfl foreign
    obtain ⟨extensions, last⟩ := foreign.ignored before after
    refine consume_of_alike alone terminated ?_ ?_
    · rw [site_assemble, site_assemble, extensions]
    · rw [last]
      exact .refl _ _ _ _

/-- A command that is replaced in another letter case, and an extension that counts though it was added
before: VRFY's handler answers NOOP. A verb that nobody serves stays unknown. -/
theorem consume_of_parts_of_mixed_letters :
    let parts : List (Part Empty) :=
      [.command "Noop" Command.help,
        .extension { name := "X", advertisement := fun _ _ => "X", commands := [("nOOP", Command.vrfy)] },
        .command "NOOP" Command.noop, .connectHandler (some Command.greeting)]
    let server := assemble {} (fun _ _ _ => .ok .ok) nofun parts
    let s := { server.newSession "client.example" with state := .connected }
    let line := Line.ofText "noop x"
    server.consume s line =
        Outcome.conclude line (Command.vrfy.run server.site s (some line.text)) ∧
      (server.consume s (.ofText "RSET")).1 = .ok .unrecognised ∧
      (assemble {} (fun _ _ _ => .ok .ok) nofun (.command "RSET" Command.rset :: parts)).consume s line =
        server.consume s line := by
  intro parts server s line
  have alone : s.consumers.values = [.dispatch] := rfl
  have facts (line : Line) := @consume_of_parts Empty {} (fun _ _ _ => .ok .ok) nofun parts s line alone
  have last : lastFor? line.verb (Part.contributed parts) = some Command.vrfy := by
    have verb : line.verb = "noop" := by decide +kernel
    have letters : Text.sameLetters "nOOP" "noop" = true := by decide +kernel
    rw [verb, Part.contributed, lastFor?_append]
    simp [parts, Part.extensions, lastFor?_singleton, letters]
  have none : lastFor? (Line.ofText "RSET").verb (Part.contributed parts) = none := by
    have verb : (Line.ofText "RSET").verb = "RSET" := by decide +kernel
    have letters : Text.sameLetters "Noop" "RSET" = false ∧ Text.sameLetters "NOOP" "RSET" = false ∧
        Text.sameLetters "nOOP" "RSET" = false := by decide +kernel
    rw [verb]
    simp [parts, Part.contributed, Part.commands, Part.extensions, lastFor?, letters]
  exact ⟨(facts line (by decide +kernel)).1 _ last, ((facts _ (by decide +kernel)).2.1 none).1,
    (facts line (by decide +kernel)).2.2.2 [] _ parts rfl (.command (by decide +kernel) _)⟩

end Server

end SmtpDialog
