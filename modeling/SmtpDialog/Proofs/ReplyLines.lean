/- digest: The form of replies on the wire, and which texts break it. -/
import SmtpDialog.Proofs.Ordinary
import SmtpDialog.Proofs.Utf8

set_option autoImplicit false
set_option relaxedAutoImplicit false

namespace SmtpDialog

namespace Text

def avoids (barred : List Char) (text : String) : Bool := text.toList.all fun c => !barred.contains c

variable {barred : List Char} {a b : String}

theorem avoids_iff : avoids barred a = true ↔ ∀ c ∈ a.toList, c ∉ barred := by
  simp [avoids]

theorem isUnbroken_iff : isUnbroken a = true ↔ avoids ['\r', '\n'] a = true := by
  simp [isUnbroken, avoids_iff]

theorem avoids_of_isUnbroken (breaks : barred ⊆ ['\r', '\n']) (unbroken : isUnbroken a = true) :
    avoids barred a = true := by
  rw [avoids_iff]
  intro c member within
  exact avoids_iff.mp (isUnbroken_iff.mp unbroken) c member (breaks within)

theorem avoids_append : avoids barred (a ++ b) = (avoids barred a && avoids barred b) := by
  simp [avoids]

theorem isUnbroken_toString (n : Nat) : isUnbroken (toString n) = true := by
  have digits : (toString n).toList = Nat.toDigits 10 n := by simp
  rw [isUnbroken, digits, List.all_eq_true]
  intro c member
  have digit := Nat.isDigit_of_mem_toDigits (by decide) (by decide) member
  have other {d : Char} (odd : d.isDigit = false) : c ≠ d := by
    rintro rfl
    rw [odd] at digit
    contradiction
  simp [other (d := '\r') rfl, other (d := '\n') rfl]

private theorem mem_intersperse {separator part : List Char} {parts : List (List Char)}
    (within : part ∈ parts.intersperse separator) : part = separator ∨ part ∈ parts := by
  induction parts with
  | nil => contradiction
  | cons first rest ih =>
    cases rest with
    | nil => exact .inr within
    | cons next rest =>
      rw [List.intersperse_cons_cons, List.mem_cons, List.mem_cons] at within
      rcases within with rfl | rfl | later
      · exact .inr List.mem_cons_self
      · exact .inl rfl
      · exact (ih later).imp_right (List.mem_cons_of_mem _)

theorem isUnbroken_intercalate {separator : String} (single : isUnbroken separator = true)
    {texts : List String} (each : ∀ t ∈ texts, isUnbroken t = true) :
    isUnbroken (separator.intercalate texts) = true := by
  rw [isUnbroken, String.toList_intercalate, List.all_eq_true]
  intro c member
  obtain ⟨part, within, member⟩ := List.mem_flatten.mp member
  rcases mem_intersperse within with rfl | within
  · exact List.all_eq_true.mp single c member
  · obtain ⟨t, known, rfl⟩ := List.mem_map.mp within
    exact List.all_eq_true.mp (each t known) c member

end Text

/-- A line of a reply: three digits, a space or a hyphen, a text without some bytes, and CR LF. -/
inductive IsReplyLine (barred : Bytes) : Bytes → Prop
  | mk {code : Bytes} {mark : UInt8} {text : Bytes} (three : code.length = 3)
      (digits : ∀ d ∈ code, 48 ≤ d ∧ d ≤ 57) (marked : mark = 32 ∨ mark = 45)
      (free : ∀ b ∈ text, b ∉ barred) : IsReplyLine barred (code ++ mark :: text ++ [13, 10])

/-- Some bytes are lines of replies, one after the other. -/
inductive AreReplyLines (barred : Bytes) : Bytes → Prop
  | nil : AreReplyLines barred []
  | cons {line rest : Bytes} (first : IsReplyLine barred line) (others : AreReplyLines barred rest) :
      AreReplyLines barred (line ++ rest)

theorem AreReplyLines.of_line {barred line : Bytes} (single : IsReplyLine barred line) :
    AreReplyLines barred line := by
  have lines := AreReplyLines.cons single .nil
  rwa [List.append_nil] at lines

/-- Whether LF follows on each CR. -/
def returnsFeed : Bytes → Bool
  | [] => true
  | b :: rest => (b != 13 || rest.head? == some 10) && returnsFeed rest

theorem returnsFeed_append {front : Bytes} (calm : 13 ∉ front) (back : Bytes) :
    returnsFeed (front ++ back) = returnsFeed back := by
  induction front with
  | nil => rfl
  | cons b front ih =>
    obtain ⟨other, calm⟩ : 13 ≠ b ∧ 13 ∉ front := by simpa using calm
    simp [returnsFeed, other.symm, ih calm]

theorem AreReplyLines.returnsFeed {barred bs : Bytes} (bars : 13 ∈ barred)
    (lines : AreReplyLines barred bs) : returnsFeed bs = true := by
  induction lines with
  | nil => rfl
  | @cons line rest first others ih =>
    cases first with
    | @mk code mark text three digits marked free =>
      have calm : 13 ∉ code ++ mark :: text := by
        rw [List.mem_append, List.mem_cons]
        rintro (digit | same | member)
        · exact absurd (digits _ digit).1 (by decide)
        · rcases marked with rfl | rfl <;> contradiction
        · exact free _ member bars
      rw [List.append_assoc, returnsFeed_append calm]
      simpa [SmtpDialog.returnsFeed] using ih

/-- After a CR that no LF follows the form is lost. -/
theorem not_areReplyLines {barred front back : Bytes} (bars : 13 ∈ barred)
    (lone : back.head? ≠ some 10) : ¬ AreReplyLines barred (front ++ 13 :: back) := by
  intro lines
  have feeds := lines.returnsFeed bars
  clear lines
  induction front with
  | nil => simp [returnsFeed, lone] at feeds
  | cons b front ih => exact ih (Bool.and_eq_true_iff.mp feeds).2

namespace Reply

def texts : Reply → List String
  | silent => []
  | line _ text => [text]
  | multi _ lines => lines
  | startTls text => [text]

/-- The code of a reply has three digits, and its texts are without some characters. -/
structure Sound (barred : List Char) (reply : Reply) : Prop where
  code : ∀ code ∈ reply.code?, 100 ≤ code ∧ code ≤ 999
  texts : ∀ text ∈ reply.texts, Text.avoids barred text = true

variable {barred : List Char}

private theorem digits_of_code {code : Nat} (low : 100 ≤ code) (high : code ≤ 999) :
    (Utf8.encode (toString code).toList).length = 3 ∧
      ∀ d ∈ Utf8.encode (toString code).toList, 48 ≤ d ∧ d ≤ 57 := by
  have written : (toString code).toList = Nat.toDigits 10 code := by simp
  have digit {c : Char} (member : c ∈ Nat.toDigits 10 code) : 48 ≤ c.toNat ∧ c.toNat ≤ 57 := by
    have digit := Nat.isDigit_of_mem_toDigits (by decide) (by decide) member
    simpa [Char.isDigit, UInt32.le_iff_toNat_le] using digit
  rw [written, Utf8.encode_of_ascii fun c h => Nat.lt_of_le_of_lt (digit h).2 (by decide)]
  refine ⟨?_, fun d member => ?_⟩
  · have three := Nat.length_toDigits_le_iff (b := 10) (n := code) (k := 3) (by decide) (by decide)
    have two := Nat.length_toDigits_le_iff (b := 10) (n := code) (k := 2) (by decide) (by decide)
    rw [List.length_map]
    omega
  · obtain ⟨c, inside, rfl⟩ := List.mem_map.mp member
    have range := digit inside
    have same : (UInt8.ofNat c.toNat).toNat = c.toNat :=
      UInt8.toNat_ofNat_of_lt' (Nat.lt_of_le_of_lt range.2 (by decide))
    rw [UInt8.le_iff_toNat_le, UInt8.le_iff_toNat_le, same]
    exact range

private theorem wireLine_isReplyLine (breaks : barred ⊆ ['\r', '\n']) {code : Nat}
    (code_bounds : 100 ≤ code ∧ code ≤ 999) {mark : Char} (marked : mark = ' ' ∨ mark = '-')
    {text : String} (free : Text.avoids barred text = true) :
    IsReplyLine (Utf8.encode barred) (wireLine code mark text) := by
  obtain ⟨three, digits⟩ := digits_of_code code_bounds.1 code_bounds.2
  have unbroken : ∀ b ∈ Utf8.encode text.toList, b ∉ Utf8.encode barred := by
    intro b written bars
    have ascii : b < 0x80 ∧ Char.ofNat b.toNat ∈ barred := by
      obtain ⟨c, member, bars⟩ := List.mem_flatMap.mp bars
      rcases List.mem_cons.mp (breaks member) with rfl | other
      · obtain rfl := List.mem_singleton.mp bars
        exact ⟨by decide, member⟩
      · obtain rfl := List.mem_singleton.mp other
        obtain rfl := List.mem_singleton.mp bars
        exact ⟨by decide, member⟩
    exact Text.avoids_iff.mp free _ (Utf8.mem_of_mem_encode ascii.1 written) ascii.2
  have line : wireLine code mark text = Utf8.encode (toString code).toList ++
      (String.utf8EncodeChar mark ++ Utf8.encode text.toList) ++ [13, 10] := by
    simp [wireLine, Utf8.encode, String.utf8EncodeChar]
  rw [line]
  rcases marked with rfl | rfl
  · exact .mk three digits (.inl rfl) unbroken
  · exact .mk three digits (.inr rfl) unbroken

private theorem wireLines_areReplyLines (breaks : barred ⊆ ['\r', '\n']) {code : Nat}
    (bounds : 100 ≤ code ∧ code ≤ 999) {texts : List String}
    (free : ∀ text ∈ texts, Text.avoids barred text = true) :
    AreReplyLines (Utf8.encode barred) (wireLines code texts) := by
  induction texts with
  | nil => exact .of_line (wireLine_isReplyLine breaks bounds (.inl rfl) rfl)
  | cons text rest ih =>
    have first := free text List.mem_cons_self
    cases rest with
    | nil => exact .of_line (wireLine_isReplyLine breaks bounds (.inl rfl) first)
    | cons next rest =>
      exact .cons (wireLine_isReplyLine breaks bounds (.inr rfl) first)
        (ih fun text h => free text (List.mem_cons_of_mem _ h))

/-- A sound reply is written as lines. -/
theorem Sound.areReplyLines (breaks : barred ⊆ ['\r', '\n']) {reply : Reply}
    (sound : reply.Sound barred) : AreReplyLines (Utf8.encode barred) reply.wire := by
  cases reply with
  | silent => exact .nil
  | line code text =>
    exact .of_line (wireLine_isReplyLine breaks (sound.code code rfl) (.inl rfl)
      (sound.texts text List.mem_cons_self))
  | multi code lines => exact wireLines_areReplyLines breaks (sound.code code rfl) sound.texts
  | startTls text =>
    exact .of_line (wireLine_isReplyLine breaks (by decide) (.inl rfl)
      (sound.texts text List.mem_cons_self))

private theorem wireLine_of_return {code : Nat} {mark : Char} {text : String}
    (broken : '\r' ∈ text.toList) (calm : '\n' ∉ text.toList) :
    ∃ front back, wireLine code mark text = front ++ 13 :: back ∧
      ∀ more, (back ++ more).head? ≠ some 10 := by
  obtain ⟨before, after, parts⟩ := List.append_of_mem broken
  refine ⟨Utf8.encode ((toString code).toList ++ mark :: before),
    Utf8.encode (after ++ ['\r', '\n']), ?_, ?_⟩
  · rw [wireLine, parts]
    simp [Utf8.encode, String.utf8EncodeChar]
  · intro more
    cases after with
    | nil => simp [Utf8.encode, String.utf8EncodeChar]
    | cons c after =>
      rw [parts] at calm
      have other : c ≠ '\n' := by
        rintro rfl
        simp at calm
      rw [List.cons_append, Utf8.encode, List.flatMap_cons, List.append_assoc]
      cases written : String.utf8EncodeChar c with
      | nil => simp at written
      | cons b rest =>
        intro same
        obtain rfl : b = 10 := by simpa using same
        have member : 10 ∈ Utf8.encode [c] := by simp [Utf8.encode, written]
        exact other (List.mem_singleton.mp (Utf8.mem_of_mem_encode (by decide) member)).symm

private theorem exists_wireLine {code : Nat} {texts : List String} {text : String}
    (member : text ∈ texts) :
    ∃ before mark after, wireLines code texts = before ++ wireLine code mark text ++ after := by
  induction texts with
  | nil => contradiction
  | cons first rest ih =>
    cases rest with
    | nil =>
      obtain rfl := List.mem_singleton.mp member
      exact ⟨[], ' ', [], by rw [wireLines, List.nil_append, List.append_nil]⟩
    | cons next rest =>
      rw [wireLines]
      rcases List.mem_cons.mp member with rfl | later
      · exact ⟨[], '-', _, by rw [List.nil_append]⟩
      · obtain ⟨before, mark, after, lines⟩ := ih later
        exact ⟨wireLine code '-' first ++ before, mark, after, by rw [lines]; simp⟩

private theorem wire_of_mem {reply : Reply} {text : String} (member : text ∈ reply.texts) :
    ∃ code before mark after, reply.wire = before ++ wireLine code mark text ++ after := by
  cases reply with
  | silent => contradiction
  | line code own =>
    obtain rfl := List.mem_singleton.mp member
    exact ⟨code, [], ' ', [], by simp [wire]⟩
  | startTls own =>
    obtain rfl := List.mem_singleton.mp member
    exact ⟨Code.serviceReady.number, [], ' ', [], by simp [wire]⟩
  | multi code lines => exact ⟨code, exists_wireLine member⟩

/-- Where LF is out of the question, a reply has its form just if no text in it holds a CR either. -/
theorem areReplyLines_iff {reply : Reply} (sound : reply.Sound ['\n']) :
    AreReplyLines (Utf8.encode ['\r', '\n']) reply.wire ↔ reply.Sound ['\r', '\n'] := by
  refine ⟨fun lines => ⟨sound.code, fun text member => ?_⟩,
    fun sound => sound.areReplyLines (List.Subset.refl _)⟩
  have calm : '\n' ∉ text.toList := fun feed =>
    Text.avoids_iff.mp (sound.texts text member) _ feed List.mem_cons_self
  rw [Text.avoids_iff]
  intro c inside barred
  rcases List.mem_cons.mp barred with rfl | other
  · obtain ⟨code, before, mark, after, wire⟩ := wire_of_mem member
    obtain ⟨front, back, line, lone⟩ := wireLine_of_return inside calm
    have broken : reply.wire = (before ++ front) ++ 13 :: (back ++ after) := by
      rw [wire, line]
      simp
    rw [broken] at lines
    exact not_areReplyLines (by decide) (lone after) lines
  · obtain rfl := List.mem_singleton.mp other
    exact calm inside

end Reply

end SmtpDialog
