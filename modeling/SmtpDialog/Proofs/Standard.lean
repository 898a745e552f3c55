/- digest: Servers of the standard commands and the library's extensions. -/
import SmtpDialog.Server

set_option autoImplicit false
set_option relaxedAutoImplicit false

namespace SmtpDialog

/-- An extension that the library provides. -/
inductive Feature
  | keyword (name : String)
  | size
  | startTls
  | auth (policy : AuthPolicy)

def Feature.extension {κ : Type} : Feature → Extension κ
  | keyword name => .keyword name
  | size => .size
  | startTls => .startTls
  | auth policy => .auth policy

/-- The policy for AUTH; of several the last one counts. -/
def Feature.policy? (features : List Feature) : Option AuthPolicy :=
  features.foldl (fun last x => match x with
    | auth policy => some policy
    | _ => last) none

/-- The features of `Extension.standard`. -/
def Feature.standard : List Feature := [keyword "8BITMIME", keyword "PIPELINING", size, startTls]

theorem Feature.map_extension_standard {κ : Type} :
    (Feature.standard.map Feature.extension : List (Extension κ)) = Extension.standard := rfl

namespace Server

variable {κ : Type}

/-- A server of the standard commands and the given features. -/
def ofFeatures (config : Config) (newMail : Session κ → MailBehaviour) (custom : κ → Hook κ)
    (features : List Feature) : Server κ :=
  features.foldl (fun server x => server.extension x.extension)
    (standard config newMail custom)

section

variable (config : Config) (newMail : Session κ → MailBehaviour) (custom : κ → Hook κ)
  (features : List Feature)

private theorem foldl_extension (server : Server κ) :
    features.foldl (fun server x => server.extension x.extension) server =
      { server with extensions := server.extensions ++ features.map Feature.extension } := by
  induction features generalizing server with
  | nil => simp
  | cons x rest ih =>
    rw [List.foldl_cons, ih]
    simp [extension]

private theorem upper_verbs :
    ∀ verb ∈ ["HELO", "EHLO", "MAIL", "RCPT", "DATA", "RSET", "NOOP", "VRFY", "HELP", "QUIT",
      "STARTTLS", "AUTH"], Text.upper verb = verb := by
  decide +kernel

private theorem standard_eq :
    standard config newMail custom =
      { config, newMail, custom, commands := standardCommands,
        connectHandler := some Command.greeting } := by
  simp [standard, standardCommands, command, bare, withConnectHandler, upper_verbs]

theorem ofFeatures_eq :
    ofFeatures config newMail custom features =
      { config, newMail, custom, commands := standardCommands,
        connectHandler := some Command.greeting,
        extensions := features.map Feature.extension } := by
  unfold ofFeatures
  rw [foldl_extension, standard_eq]
  simp

theorem foldl_register_handlers (contributed : List (String × Handler κ))
    (d : Dispatch κ) :
    (contributed.foldl (fun d c => d.register c.1 c.2) d).handlers =
      (contributed.map fun c => (Text.upper c.1, c.2)).reverse ++ d.handlers := by
  induction contributed generalizing d with
  | nil => rfl
  | cons c rest ih =>
    rw [List.foldl_cons, ih]
    simp [Dispatch.register]

private theorem foldl_register_connectHandler (contributed : List (String × Handler κ))
    (d : Dispatch κ) :
    (contributed.foldl (fun d c => d.register c.1 c.2) d).connectHandler = d.connectHandler := by
  induction contributed generalizing d with
  | nil => rfl
  | cons c rest ih =>
    rw [List.foldl_cons, ih]
    rfl

private theorem mem_of_lookup {α : Type} {key : String} {value : α}
    {entries : List (String × α)} (h : entries.lookup key = some value) :
    (key, value) ∈ entries := by
  induction entries with
  | nil => simp at h
  | cons e rest ih =>
    rw [List.lookup_cons] at h
    split at h
    · rename_i same
      obtain rfl := Option.some.inj h
      obtain rfl := eq_of_beq same
      exact List.mem_cons_self
    · exact List.mem_cons_of_mem _ (ih h)

/-- What the dispatch finds under a verb was contributed for it by a command or an extension. -/
theorem mem_of_dispatch_get? {server : Server κ} {verb : String} {handler : Handler κ}
    (h : server.dispatch.get? verb = some handler) :
    ∃ c ∈ server.commands ++ server.extensions.flatMap (·.commands),
      Text.upper c.1 = Text.upper verb ∧ c.2 = handler := by
  have found := mem_of_lookup h
  unfold dispatch at found
  rw [foldl_register_handlers, List.append_nil, List.mem_reverse] at found
  obtain ⟨c, hc, same⟩ := List.mem_map.mp found
  exact ⟨c, hc, congrArg Prod.fst same, congrArg Prod.snd same⟩

theorem dispatch_connectHandler (server : Server κ) :
    server.dispatch.connectHandler = server.connectHandler :=
  foldl_register_connectHandler _ _

/-- Which handler serves which verb in upper case. -/
inductive Serves (features : List Feature) : String → Handler κ → Prop
  | helo : Serves features "HELO" Command.helo
  | ehlo : Serves features "EHLO" Command.ehlo
  | mail : Serves features "MAIL" Command.mail
  | rcpt : Serves features "RCPT" Command.rcpt
  | data : Serves features "DATA" Command.data
  | rset : Serves features "RSET" Command.rset
  | noop : Serves features "NOOP" Command.noop
  | vrfy : Serves features "VRFY" Command.vrfy
  | help : Serves features "HELP" Command.help
  | quit : Serves features "QUIT" Command.quit
  | startTls : Serves features "STARTTLS" Command.startTls
  | auth {policy : AuthPolicy} (offered : Feature.policy? features = some policy) :
      Serves features "AUTH" (Command.auth policy)

private theorem lookup_auth_of_features {d : Dispatch κ} {last : Option AuthPolicy}
    (before : d.handlers.lookup "AUTH" = last.map Command.auth) :
    (((features.map Feature.extension).flatMap (·.commands)).foldl
        (fun d c => d.register c.1 c.2) d).handlers.lookup "AUTH" =
      (features.foldl (fun last x => match x with
        | .auth policy => some policy
        | _ => last) last).map Command.auth := by
  induction features generalizing d last with
  | nil => exact before
  | cons x rest ih =>
    rw [List.map_cons, List.flatMap_cons, List.foldl_append, List.foldl_cons]
    cases x with
    | keyword | size => exact ih before
    | startTls =>
      apply ih
      have other : ("AUTH" == Text.upper "STARTTLS") = false := by decide +kernel
      simpa [Feature.extension, Extension.startTls, Dispatch.register, List.lookup_cons, other]
        using before
    | auth policy =>
      apply ih
      have own : ("AUTH" == Text.upper "AUTH") = true := by decide +kernel
      simp [Feature.extension, Extension.auth, Dispatch.register, List.lookup_cons, own]

theorem dispatch_get?_auth {verb : String} (same : Text.upper verb = "AUTH") :
    (ofFeatures config newMail custom features).dispatch.get? verb =
      (Feature.policy? features).map Command.auth := by
  rw [Dispatch.get?, same, ofFeatures_eq, dispatch, List.foldl_append]
  apply lookup_auth_of_features
  rw [foldl_register_handlers]
  simp only [standardCommands, List.map_cons, List.map_nil]
  simp [upper_verbs]

theorem serves_of_get? {verb : String} {handler : Handler κ}
    (h : (ofFeatures config newMail custom features).dispatch.get? verb = some handler) :
    Serves features (Text.upper verb) handler := by
  obtain ⟨c, hc, hverb, rfl⟩ := mem_of_dispatch_get? h
  rw [← hverb]
  rw [ofFeatures_eq] at hc
  rcases List.mem_append.mp hc with own | added
  · simp only [standardCommands, List.mem_cons, List.not_mem_nil, or_false] at own
    rcases own with rfl | rfl | rfl | rfl | rfl | rfl | rfl | rfl | rfl | rfl <;>
      · rw [upper_verbs _ (by simp)]
        constructor
  · obtain ⟨x, hx, hc⟩ := List.mem_flatMap.mp added
    obtain ⟨feature, offered, rfl⟩ := List.mem_map.mp hx
    cases feature with
    | keyword name => simp [Feature.extension, Extension.keyword] at hc
    | size => simp [Feature.extension, Extension.size] at hc
    | startTls =>
      obtain rfl := List.mem_singleton.mp hc
      rw [upper_verbs _ (by simp)]
      exact .startTls
    | auth other =>
      obtain rfl := List.mem_singleton.mp hc
      have upper : Text.upper "AUTH" = "AUTH" := upper_verbs _ (by simp)
      -- The contribution that is found is the last one, whichever this is.
      rw [dispatch_get?_auth config newMail custom features (hverb.symm.trans upper)] at h
      obtain ⟨policy, known, same⟩ := Option.map_eq_some_iff.mp h
      rw [upper, ← same]
      exact .auth known

private theorem exists_lookup_of_mem {α : Type} {key : String} {value : α}
    {entries : List (String × α)} (h : (key, value) ∈ entries) :
    ∃ found, entries.lookup key = some found := by
  induction entries with
  | nil => contradiction
  | cons e rest ih =>
    rw [List.lookup_cons]
    split
    · exact ⟨_, rfl⟩
    · rename_i other
      apply ih
      rcases List.mem_cons.mp h with rfl | later
      · simp at other
      · exact later

theorem exists_dispatch_get? {server : Server κ} {c : String × Handler κ}
    (contributed : c ∈ server.commands ++ server.extensions.flatMap (·.commands)) {verb : String}
    (same : Text.upper verb = Text.upper c.1) :
    ∃ handler, server.dispatch.get? verb = some handler := by
  apply exists_lookup_of_mem
  unfold dispatch
  rw [foldl_register_handlers, List.append_nil, List.mem_reverse, same]
  exact List.mem_map_of_mem contributed

private theorem Serves.eq_of_standard {c : String × Handler κ} (own : c ∈ standardCommands)
    {verb : String} {handler : Handler κ} (serves : Serves features verb handler)
    (same : verb = c.1) : handler = c.2 := by
  simp only [standardCommands, List.mem_cons, List.not_mem_nil, or_false] at own
  rcases own with rfl | rfl | rfl | rfl | rfl | rfl | rfl | rfl | rfl | rfl <;>
    cases serves <;> first | rfl | exact absurd same (by simp)

/-- No extension takes the place of a command of RFC 5321. -/
theorem dispatch_get?_of_standard {c : String × Handler κ} (own : c ∈ standardCommands)
    {verb : String} (same : Text.upper verb = c.1) :
    (ofFeatures config newMail custom features).dispatch.get? verb = some c.2 := by
  have contributed : c ∈ (ofFeatures config newMail custom features).commands ++
      (ofFeatures config newMail custom features).extensions.flatMap (·.commands) := by
    rw [ofFeatures_eq]
    exact List.mem_append_left _ own
  have upper : Text.upper c.1 = c.1 := by
    apply upper_verbs
    simp only [standardCommands, List.mem_cons, List.not_mem_nil, or_false] at own
    rcases own with rfl | rfl | rfl | rfl | rfl | rfl | rfl | rfl | rfl | rfl <;> simp
  obtain ⟨handler, found⟩ := exists_dispatch_get? contributed (same.trans upper.symm)
  have serves := serves_of_get? config newMail custom features found
  rw [found, Serves.eq_of_standard features own serves same]

private theorem foldr_fixed {α β : Type} {f : α → β → β} {xs : List α}
    (fixed : ∀ x ∈ xs, ∀ b, f x b = b) (b : β) : xs.foldr f b = b := by
  induction xs with
  | nil => rfl
  | cons x rest ih =>
    rw [List.foldr_cons, ih fun y h => fixed y (List.mem_cons_of_mem _ h)]
    exact fixed x List.mem_cons_self b

theorem ofFeatures_newSession_consumers (peer : String) :
    ((ofFeatures config newMail custom features).newSession peer).consumers =
      ⟨[(Place.dispatch.name, .dispatch)]⟩ := by
  rw [ofFeatures_eq, newSession]
  apply foldr_fixed
  intro x offered chain
  obtain ⟨feature, -, rfl⟩ := List.mem_map.mp offered
  cases feature <;> rfl

end

end Server
end SmtpDialog
