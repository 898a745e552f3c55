/- digest: Bytes and the text that is read from them. -/
import SmtpDialog.Text.Utf8

/-!
The scan keeps of a character that is not finished only what is needed to finish it. `Begun` says of the
bytes read so far that they are the beginning of the encoding of any character it can become. So the
bytes of a text that was read are those of the text, and no text is read from two lists of bytes. Where
some bytes are ill-formed, this is still so of each single character. Text that was written is read
again.
-/

set_option autoImplicit false
set_option relaxedAutoImplicit false

namespace SmtpDialog.Utf8

section

variable {n : Nat}

private theorem toNat_ofNat (valid : n.isValidChar) : (Char.ofNat n).val.toNat = n := by
  rw [Char.ofNat, dif_pos valid]
  rfl

theorem encodeChar_one (small : n < 0x80) :
    String.utf8EncodeChar (Char.ofNat n) = [UInt8.ofNat n] := by
  rw [String.utf8EncodeChar, toNat_ofNat (.inl (by omega))]
  exact if_pos (by omega)

private theorem encodeChar_two (low : 0x80 ≤ n) (high : n < 0x800) :
    String.utf8EncodeChar (Char.ofNat n) =
      [UInt8.ofNat (n / 64 + 0xC0), UInt8.ofNat (n % 64 + 0x80)] := by
  rw [String.utf8EncodeChar, toNat_ofNat (.inl (by omega))]
  have small : n / 64 % 32 = n / 64 := Nat.mod_eq_of_lt (by omega)
  simp only [small, if_neg (show ¬n ≤ 127 by omega), if_pos (show n ≤ 2047 by omega)]

private theorem encodeChar_three (valid : n.isValidChar) (low : 0x800 ≤ n) (high : n < 0x10000) :
    String.utf8EncodeChar (Char.ofNat n) =
      [UInt8.ofNat (n / 4096 + 0xE0), UInt8.ofNat (n / 64 % 64 + 0x80),
        UInt8.ofNat (n % 64 + 0x80)] := by
  rw [String.utf8EncodeChar, toNat_ofNat valid]
  have small : n / 4096 % 16 = n / 4096 := Nat.mod_eq_of_lt (by omega)
  simp only [small, if_neg (show ¬n ≤ 127 by omega), if_neg (show ¬n ≤ 2047 by omega),
    if_pos (show n ≤ 65535 by omega)]

private theorem encodeChar_four (low : 0x10000 ≤ n) (high : n < 0x110000) :
    String.utf8EncodeChar (Char.ofNat n) =
      [UInt8.ofNat (n / 262144 + 0xF0), UInt8.ofNat (n / 4096 % 64 + 0x80),
        UInt8.ofNat (n / 64 % 64 + 0x80), UInt8.ofNat (n % 64 + 0x80)] := by
  rw [String.utf8EncodeChar, toNat_ofNat (.inr (by omega))]
  have small : n / 262144 % 8 = n / 262144 := Nat.mod_eq_of_lt (by omega)
  simp only [small, if_neg (show ¬n ≤ 127 by omega), if_neg (show ¬n ≤ 2047 by omega),
    if_neg (show ¬n ≤ 65535 by omega)]

end

theorem ofNat_eq {n : Nat} {b : UInt8} (same : n = b.toNat) : UInt8.ofNat n = b := by
  rw [same]
  exact UInt8.ofNat_toNat

/-- Whether some bytes begin the encoding of every character that an unfinished one can become. -/
def Begun (front : Bytes) (value : Nat) (low high : UInt8) : Nat → Prop
  | 0 => ∀ b, low ≤ b → b ≤ high →
    String.utf8EncodeChar (Char.ofNat (value * 64 + (b.toNat - 0x80))) = front ++ [b]
  | missing + 1 => ∀ b, low ≤ b → b ≤ high →
    Begun (front ++ [b]) (value * 64 + (b.toNat - 0x80)) 0x80 0xBF missing

private theorem begun_two {b : UInt8} (low : 0xC2 ≤ b.toNat) (high : b.toNat < 0xE0) :
    Begun [b] (b.toNat - 0xC0) 0x80 0xBF 0 := by
  intro c above below
  rw [UInt8.le_iff_toNat_le] at above below
  have least : 0x80 ≤ c.toNat := above
  have most : c.toNat ≤ 0xBF := below
  rw [encodeChar_two (by omega) (by omega)]
  simp only [List.singleton_append, List.cons.injEq, and_true]
  exact ⟨ofNat_eq (by omega), ofNat_eq (by omega)⟩

/-- The range of the second byte keeps out overlong forms and surrogates. -/
private theorem begun_three {b low high : UInt8} (first : 0xE0 ≤ b.toNat) (last : b.toNat < 0xF0)
    (least : 0x80 ≤ low.toNat) (most : high.toNat ≤ 0xBF)
    (short : b.toNat = 0xE0 → 0xA0 ≤ low.toNat) (scalar : b.toNat = 0xED → high.toNat ≤ 0x9F) :
    Begun [b] (b.toNat - 0xE0) low high 1 := by
  intro c above below d above' below'
  rw [UInt8.le_iff_toNat_le] at above below above' below'
  have least' : 0x80 ≤ d.toNat := above'
  have most' : d.toNat ≤ 0xBF := below'
  have valid : (((b.toNat - 0xE0) * 64 + (c.toNat - 0x80)) * 64 + (d.toNat - 0x80)).isValidChar := by
    show _ < 55296 ∨ 57343 < _ ∧ _ < 1114112
    omega
  rw [encodeChar_three valid (by omega) (by omega)]
  simp only [List.cons_append, List.nil_append, List.cons.injEq, and_true]
  exact ⟨ofNat_eq (by omega), ofNat_eq (by omega), ofNat_eq (by omega)⟩

private theorem begun_four {b low high : UInt8} (first : 0xF0 ≤ b.toNat) (last : b.toNat < 0xF5)
    (least : 0x80 ≤ low.toNat) (most : high.toNat ≤ 0xBF)
    (short : b.toNat = 0xF0 → 0x90 ≤ low.toNat) (scalar : b.toNat = 0xF4 → high.toNat ≤ 0x8F) :
    Begun [b] (b.toNat - 0xF0) low high 2 := by
  intro c above below d above' below' e above'' below''
  rw [UInt8.le_iff_toNat_le] at above below above' below' above'' below''
  have least' : 0x80 ≤ d.toNat ∧ 0x80 ≤ e.toNat := ⟨above', above''⟩
  have most' : d.toNat ≤ 0xBF ∧ e.toNat ≤ 0xBF := ⟨below', below''⟩
  rw [encodeChar_four (by omega) (by omega)]
  simp only [List.cons_append, List.nil_append, List.cons.injEq, and_true]
  exact ⟨ofNat_eq (by omega), ofNat_eq (by omega), ofNat_eq (by omega), ofNat_eq (by omega)⟩

private theorem start_toNat (b : UInt8) :
    start b =
      if b.toNat < 0x80 then ([some (Char.ofNat b.toNat)], none)
      else if b.toNat < 0xC2 then ([none], none)
      else if b.toNat < 0xE0 then ([], some ⟨b.toNat - 0xC0, 0, 0x80, 0xBF⟩)
      else if b.toNat = 0xE0 then ([], some ⟨0, 1, 0xA0, 0xBF⟩)
      else if b.toNat = 0xED then ([], some ⟨13, 1, 0x80, 0x9F⟩)
      else if b.toNat < 0xF0 then ([], some ⟨b.toNat - 0xE0, 1, 0x80, 0xBF⟩)
      else if b.toNat = 0xF0 then ([], some ⟨0, 2, 0x90, 0xBF⟩)
      else if b.toNat < 0xF4 then ([], some ⟨b.toNat - 0xF0, 2, 0x80, 0xBF⟩)
      else if b.toNat = 0xF4 then ([], some ⟨4, 2, 0x80, 0x8F⟩)
      else ([none], none) := by
  simp only [start, UInt8.lt_iff_toNat_lt, ← UInt8.toNat_inj, UInt8.reduceToNat]

private def Starts (b : UInt8) (read : List (Option Char) × Option Unfinished) : Prop :=
  (∃ c, read = ([some c], none) ∧ String.utf8EncodeChar c = [b]) ∨ read = ([none], none) ∨
    ∃ u, read = ([], some u) ∧ Begun [b] u.value u.low u.high u.missing

private theorem start_cases (b : UInt8) : Starts b (start b) := by
  have begins {value missing : Nat} {low high : UInt8} (begun : Begun [b] value low high missing) :
      Starts b ([], some ⟨value, missing, low, high⟩) := .inr (.inr ⟨_, rfl, begun⟩)
  rw [start_toNat]
  split
  · rename_i ascii
    refine .inl ⟨_, rfl, ?_⟩
    rw [encodeChar_one ascii, UInt8.ofNat_toNat]
  rename_i ascii
  split
  · exact .inr (.inl rfl)
  rename_i continuing
  split
  · rename_i two
    exact begins (begun_two (by omega) two)
  rename_i two
  split
  · rename_i isE0
    have begun : Begun [b] (b.toNat - 0xE0) 0xA0 0xBF 1 := begun_three (by omega) (by omega)
      (by decide) (by decide) (fun _ => by decide) (by omega)
    rw [isE0] at begun
    exact begins begun
  rename_i notE0
  split
  · rename_i isED
    have begun : Begun [b] (b.toNat - 0xE0) 0x80 0x9F 1 := begun_three (by omega) (by omega)
      (by decide) (by decide) (by omega) (fun _ => by decide)
    rw [isED] at begun
    exact begins begun
  rename_i notED
  split
  · rename_i three
    exact begins (begun_three (by omega) three (by decide) (by decide) (by omega) (by omega))
  rename_i three
  split
  · rename_i isF0
    have begun : Begun [b] (b.toNat - 0xF0) 0x90 0xBF 2 := begun_four (by omega) (by omega)
      (by decide) (by decide) (fun _ => by decide) (by omega)
    rw [isF0] at begun
    exact begins begun
  rename_i notF0
  split
  · rename_i four
    exact begins (begun_four (by omega) (by omega) (by decide) (by decide) (by omega)
      (by omega))
  rename_i four
  split
  · rename_i isF4
    have begun : Begun [b] (b.toNat - 0xF0) 0x80 0x8F 2 := begun_four (by omega) (by omega)
      (by decide) (by decide) (by omega) (fun _ => by decide)
    rw [isF4] at begun
    exact begins begun
  · exact .inr (.inl rfl)

private theorem encode_of_scan {bs : Bytes} {cs : List Char} :
    (scan none bs = cs.map some → encode cs = bs) ∧
      ∀ front u, Begun front u.value u.low u.high u.missing →
        scan (some u) bs = cs.map some → encode cs = front ++ bs := by
  -- By induction on the bytes, for both states of the scan at once.
  induction bs generalizing cs with
  | nil =>
    constructor
    · intro scanned
      have empty : cs = [] := by simpa [scan] using scanned.symm
      rw [empty]
      rfl
    · intro front u begun scanned
      cases cs <;> simp [scan] at scanned
  | cons b bs ih =>
    -- what a byte at a boundary does
    have boundary {cs : List Char}
        (scanned : (start b).1 ++ scan (start b).2 bs = cs.map some) : encode cs = b :: bs := by
      rcases start_cases b with ⟨c, started, encoded⟩ | started | ⟨u, started, begun⟩
      · rw [started] at scanned
        obtain ⟨d, rest, rfl⟩ : ∃ d rest, cs = d :: rest := by
          cases cs with
          | nil => simp at scanned
          | cons d rest => exact ⟨d, rest, rfl⟩
        obtain ⟨first, others⟩ := List.cons_eq_cons.mp scanned
        obtain rfl : c = d := Option.some.inj first
        have tail : encode rest = bs := ih.1 others
        rw [encode, List.flatMap_cons, encoded, ← encode, tail]
        rfl
      · rw [started] at scanned
        cases cs <;> simp at scanned
      · rw [started] at scanned
        exact ih.2 [b] u begun scanned
    constructor
    · exact boundary
    · intro front u begun scanned
      by_cases range : u.low ≤ b ∧ b ≤ u.high
      · cases missing : u.missing with
        | zero =>
          simp only [scan, step, if_pos range, missing] at scanned
          obtain ⟨d, rest, rfl⟩ : ∃ d rest, cs = d :: rest := by
            cases cs with
            | nil => simp at scanned
            | cons d rest => exact ⟨d, rest, rfl⟩
          obtain ⟨first, others⟩ := List.cons_eq_cons.mp scanned
          have encoded := Option.some.inj first
          rw [missing] at begun
          rw [encode, List.flatMap_cons, ← encoded, begun b range.1 range.2, ← encode, ih.1 others]
          simp
        | succ more =>
          simp only [scan, step, if_pos range, missing] at scanned
          rw [missing] at begun
          have further := begun b range.1 range.2
          rw [ih.2 (front ++ [b]) ⟨u.value * 64 + (b.toNat - 0x80), more, 0x80, 0xBF⟩ further scanned]
          simp
      · simp only [scan, step, if_neg range] at scanned
        cases cs <;> simp at scanned

private theorem decode?_eq_some {bs : Bytes} {cs : List Char} (decoded : decode? bs = some cs) :
    scan none bs = cs.map some := by
  rw [decode?] at decoded
  generalize scan none bs = found at decoded
  induction found generalizing cs with
  | nil =>
    obtain rfl : [] = cs := Option.some.inj decoded
    rfl
  | cons c rest ih =>
    rw [List.foldr_cons] at decoded
    cases c with
    | none => contradiction
    | some c =>
      obtain ⟨others, tail, rfl⟩ := Option.map_eq_some_iff.mp decoded
      rw [ih tail]
      rfl

/-- The bytes of a text are its encoding. -/
theorem ofString_of_toString? {bs : Bytes} {text : String} (read : toString? bs = some text) :
    ofString text = bs := by
  obtain ⟨cs, decoded, rfl⟩ := Option.map_eq_some_iff.mp read
  rw [ofString, String.toList_ofList]
  exact encode_of_scan.1 (decode?_eq_some decoded)

private theorem subset_of_mem_scan {bs : Bytes} {c : Char} :
    (some c ∈ scan none bs → String.utf8EncodeChar c ⊆ bs) ∧
      ∀ front u, Begun front u.value u.low u.high u.missing →
        some c ∈ scan (some u) bs → String.utf8EncodeChar c ⊆ front ++ bs := by
  induction bs with
  | nil => exact ⟨nofun, fun front u begun found => by simp [scan] at found⟩
  | cons b bs ih =>
    have boundary (found : some c ∈ (start b).1 ++ scan (start b).2 bs) :
        String.utf8EncodeChar c ⊆ b :: bs := by
      rcases start_cases b with ⟨d, started, encoded⟩ | started | ⟨u, started, begun⟩
      · rw [started] at found
        rcases List.mem_cons.mp found with same | later
        · rw [Option.some.inj same, encoded]
          simp
        · exact List.Subset.trans (ih.1 later) (List.subset_cons_self _ _)
      · rw [started] at found
        exact List.Subset.trans (ih.1 (by simpa using found)) (List.subset_cons_self _ _)
      · rw [started] at found
        exact ih.2 [b] u begun found
    refine ⟨boundary, fun front u begun found => ?_⟩
    have behind {part : Bytes} (within : part ⊆ b :: bs) : part ⊆ front ++ b :: bs :=
      List.Subset.trans within (List.subset_append_right _ _)
    by_cases range : u.low ≤ b ∧ b ≤ u.high
    · cases missing : u.missing with
      | zero =>
        simp only [scan, step, if_pos range, missing] at found
        rw [missing] at begun
        rcases List.mem_cons.mp found with same | later
        · rw [Option.some.inj same, begun b range.1 range.2]
          exact List.append_subset.mpr ⟨List.subset_append_left _ _, behind (by simp)⟩
        · exact behind (List.Subset.trans (ih.1 later) (List.subset_cons_self _ _))
      | succ more =>
        simp only [scan, step, if_pos range, missing] at found
        rw [missing] at begun
        have further := begun b range.1 range.2
        have inside := ih.2 (front ++ [b]) ⟨u.value * 64 + (b.toNat - 0x80), more, 0x80, 0xBF⟩
          further found
        simpa using inside
    · simp only [scan, step, if_neg range] at found
      rcases List.mem_cons.mp found with same | later
      · contradiction
      · exact behind (boundary later)

/-- Whatever bytes are read, a character of the text stands among them, unless it is the one that is put
for what is ill-formed. -/
theorem subset_of_mem_lossy {bs : Bytes} {c : Char} (found : c ∈ lossy bs) (other : c ≠ '\uFFFD') :
    String.utf8EncodeChar c ⊆ bs := by
  obtain ⟨read, member, same⟩ := List.mem_map.mp found
  cases read with
  | none => exact absurd same.symm other
  | some d =>
    obtain rfl : d = c := same
    exact subset_of_mem_scan.1 member

theorem encode_of_ascii {cs : List Char} (ascii : ∀ c ∈ cs, c.toNat < 0x80) :
    encode cs = cs.map fun c => UInt8.ofNat c.toNat := by
  induction cs with
  | nil => rfl
  | cons c cs ih =>
    have one := encodeChar_one (ascii c List.mem_cons_self)
    rw [Char.ofNat_toNat] at one
    rw [encode, List.flatMap_cons, one, ← encode, ih fun c h => ascii c (List.mem_cons_of_mem _ h)]
    rfl

theorem mem_of_mem_encode {cs : List Char} {b : UInt8} (ascii : b < 0x80) (written : b ∈ encode cs) :
    Char.ofNat b.toNat ∈ cs := by
  obtain ⟨c, member, written⟩ := List.mem_flatMap.mp written
  have small : b.toNat < 128 := ascii
  have toNat {n : Nat} (same : b = UInt8.ofNat n) : b.toNat = n % 256 := by
    rw [same, UInt8.toNat_ofNat']
  suffices same : c.toNat = b.toNat by rwa [← same, Char.ofNat_toNat]
  show c.val.toNat = b.toNat
  have large := c.val.toNat_lt
  rw [String.utf8EncodeChar] at written
  split at written
  · have same := toNat (List.mem_singleton.mp written)
    omega
  · split at written
    · simp only [List.mem_cons, List.not_mem_nil, or_false] at written
      rcases written with same | same <;>
        · have same := toNat same
          omega
    · split at written
      · simp only [List.mem_cons, List.not_mem_nil, or_false] at written
        rcases written with same | same | same <;>
          · have same := toNat same
            omega
      · simp only [List.mem_cons, List.not_mem_nil, or_false] at written
        rcases written with same | same | same | same <;>
          · have same := toNat same
            omega

section

variable {value m : Nat} {low high : UInt8}

private theorem in_range (small : m < 64) (least : low.toNat ≤ m + 0x80)
    (most : m + 0x80 ≤ high.toNat) :
    (low ≤ UInt8.ofNat (m + 0x80) ∧ UInt8.ofNat (m + 0x80) ≤ high) ∧
      (UInt8.ofNat (m + 0x80)).toNat = m + 0x80 := by
  have same : (UInt8.ofNat (m + 0x80)).toNat = m + 0x80 :=
    UInt8.toNat_ofNat_of_lt (show _ < 256 by omega)
  rw [UInt8.le_iff_toNat_le, UInt8.le_iff_toNat_le, same]
  exact ⟨⟨least, most⟩, rfl⟩

private theorem scan_further (small : m < 64) (least : low.toNat ≤ m + 0x80)
    (most : m + 0x80 ≤ high.toNat) (missing : Nat) (bs : Bytes) :
    scan (some ⟨value, missing + 1, low, high⟩) (UInt8.ofNat (m + 0x80) :: bs) =
      scan (some ⟨value * 64 + m, missing, 0x80, 0xBF⟩) bs := by
  obtain ⟨range, same⟩ := in_range small least most
  simp only [scan, step, if_pos range, same, Nat.add_sub_cancel, List.nil_append]

private theorem scan_last (small : m < 64) (least : low.toNat ≤ m + 0x80)
    (most : m + 0x80 ≤ high.toNat) (bs : Bytes) :
    scan (some ⟨value, 0, low, high⟩) (UInt8.ofNat (m + 0x80) :: bs) =
      some (Char.ofNat (value * 64 + m)) :: scan none bs := by
  obtain ⟨range, same⟩ := in_range small least most
  simp only [scan, step, if_pos range, same, Nat.add_sub_cancel, List.cons_append, List.nil_append]

end

private theorem start_two {n : Nat} (low : 0x80 ≤ n) (high : n < 0x800) :
    start (UInt8.ofNat (n / 64 + 0xC0)) = ([], some ⟨n / 64, 0, 0x80, 0xBF⟩) := by
  have same : (UInt8.ofNat (n / 64 + 0xC0)).toNat = n / 64 + 0xC0 :=
    UInt8.toNat_ofNat_of_lt (show _ < 256 by omega)
  rw [start_toNat, same, if_neg (by omega), if_neg (by omega), if_pos (by omega),
    Nat.add_sub_cancel]

private theorem start_three {n : Nat} (valid : n.isValidChar) (low : 0x800 ≤ n)
    (high : n < 0x10000) :
    ∃ least most : UInt8, start (UInt8.ofNat (n / 4096 + 0xE0)) =
        ([], some ⟨n / 4096, 1, least, most⟩) ∧
      least.toNat ≤ n / 64 % 64 + 0x80 ∧ n / 64 % 64 + 0x80 ≤ most.toNat := by
  have same : (UInt8.ofNat (n / 4096 + 0xE0)).toNat = n / 4096 + 0xE0 :=
    UInt8.toNat_ofNat_of_lt (show _ < 256 by omega)
  have scalar : n < 0xD800 ∨ 0xDFFF < n := valid.imp_right And.left
  rw [start_toNat, same, if_neg (by omega), if_neg (by omega), if_neg (by omega)]
  split
  · have zero : n / 4096 = 0 := by omega
    refine ⟨0xA0, 0xBF, by rw [zero], ?_, ?_⟩
    · show 160 ≤ n / 64 % 64 + 128
      omega
    · show n / 64 % 64 + 128 ≤ 191
      omega
  split
  · have thirteen : n / 4096 = 13 := by omega
    refine ⟨0x80, 0x9F, by rw [thirteen], Nat.le_add_left _ _, ?_⟩
    show n / 64 % 64 + 128 ≤ 159
    omega
  rw [if_pos (by omega), Nat.add_sub_cancel]
  refine ⟨0x80, 0xBF, rfl, Nat.le_add_left _ _, ?_⟩
  show n / 64 % 64 + 128 ≤ 191
  omega

private theorem start_four {n : Nat} (low : 0x10000 ≤ n) (high : n < 0x110000) :
    ∃ least most : UInt8, start (UInt8.ofNat (n / 262144 + 0xF0)) =
        ([], some ⟨n / 262144, 2, least, most⟩) ∧
      least.toNat ≤ n / 4096 % 64 + 0x80 ∧ n / 4096 % 64 + 0x80 ≤ most.toNat := by
  have same : (UInt8.ofNat (n / 262144 + 0xF0)).toNat = n / 262144 + 0xF0 :=
    UInt8.toNat_ofNat_of_lt (show _ < 256 by omega)
  rw [start_toNat, same, if_neg (by omega), if_neg (by omega), if_neg (by omega),
    if_neg (by omega), if_neg (by omega), if_neg (by omega), Nat.add_sub_cancel]
  split
  · have zero : n / 262144 = 0 := by omega
    refine ⟨0x90, 0xBF, by rw [zero], ?_, ?_⟩
    · show 144 ≤ n / 4096 % 64 + 128
      omega
    · show n / 4096 % 64 + 128 ≤ 191
      omega
  split
  · refine ⟨0x80, 0xBF, rfl, Nat.le_add_left _ _, ?_⟩
    show n / 4096 % 64 + 128 ≤ 191
    omega
  have four : n / 262144 = 4 := by omega
  rw [if_pos (by omega)]
  refine ⟨0x80, 0x8F, by rw [four], Nat.le_add_left _ _, ?_⟩
  show n / 4096 % 64 + 128 ≤ 143
  omega

private theorem scan_encodeChar (c : Char) (bs : Bytes) :
    scan none (String.utf8EncodeChar c ++ bs) = some c :: scan none bs := by
  obtain ⟨n, valid, rfl⟩ : ∃ n : Nat, n.isValidChar ∧ c = Char.ofNat n :=
    ⟨c.toNat, c.valid, (Char.ofNat_toNat c).symm⟩
  have large : n < 0x110000 := by
    rcases valid with low | ⟨_, high⟩ <;> omega
  have least (m : Nat) : (0x80 : UInt8).toNat ≤ m + 0x80 := Nat.le_add_left _ m
  have most (m : Nat) : m % 64 + 0x80 ≤ (0xBF : UInt8).toNat := by
    show m % 64 + 128 ≤ 191
    omega
  have digit (m : Nat) : m % 64 < 64 := Nat.mod_lt m (by decide)
  by_cases one : n < 0x80
  · have ascii : start (UInt8.ofNat n) = ([some (Char.ofNat n)], none) := by
      have same : (UInt8.ofNat n).toNat = n := UInt8.toNat_ofNat_of_lt (show _ < 256 by omega)
      rw [start_toNat, same, if_pos one]
    rw [encodeChar_one one, List.singleton_append, scan, step, ascii]
    rfl
  by_cases two : n < 0x800
  · rw [encodeChar_two (by omega) two, List.cons_append, scan, step, start_two (by omega) two]
    simp only [List.nil_append, List.cons_append]
    rw [scan_last (digit _) (least _) (most _), show n / 64 * 64 + n % 64 = n by omega]
  by_cases three : n < 0x10000
  · obtain ⟨low, high, started, above, below⟩ := start_three valid (by omega) three
    rw [encodeChar_three valid (by omega) three, List.cons_append, scan, step, started]
    simp only [List.nil_append, List.cons_append]
    rw [scan_further (digit _) above below, scan_last (digit _) (least _) (most _),
      show (n / 4096 * 64 + n / 64 % 64) * 64 + n % 64 = n by omega]
  · obtain ⟨low, high, started, above, below⟩ := start_four (by omega) large
    rw [encodeChar_four (by omega) large, List.cons_append, scan, step, started]
    simp only [List.nil_append, List.cons_append]
    rw [scan_further (digit _) above below, scan_further (digit _) (least _) (most _),
      scan_last (digit _) (least _) (most _),
      show ((n / 262144 * 64 + n / 4096 % 64) * 64 + n / 64 % 64) * 64 + n % 64 = n by omega]

private theorem scan_encode (cs : List Char) : scan none (encode cs) = cs.map some := by
  induction cs with
  | nil => rfl
  | cons c cs ih => rw [encode, List.flatMap_cons, ← encode, scan_encodeChar, ih, List.map_cons]

theorem decode?_encode (cs : List Char) : decode? (encode cs) = some cs := by
  rw [decode?, scan_encode]
  induction cs with
  | nil => rfl
  | cons c cs ih => rw [List.map_cons, List.foldr_cons, ih]; rfl

theorem lossy_encode (cs : List Char) : lossy (encode cs) = cs := by
  rw [lossy, scan_encode, List.map_map]
  exact List.map_id cs

/-- Where bytes are no text, a character is read that stands for what is ill-formed. -/
theorem mem_lossy_of_ill_formed {bs : Bytes} (illFormed : decode? bs = none) :
    '\uFFFD' ∈ lossy bs := by
  rw [decode?] at illFormed
  rw [lossy]
  generalize scan none bs = found at illFormed
  induction found with
  | nil => contradiction
  | cons c rest ih =>
    cases c with
    | none => exact List.mem_cons_self
    | some c => exact List.mem_cons_of_mem _ (ih (by simpa using illFormed))

end SmtpDialog.Utf8
