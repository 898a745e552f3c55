/- digest: Reading what was written in base64, and the ASCII text that it is. -/
import SmtpDialog.Command.Auth
import SmtpDialog.Proofs.Utf8

set_option autoImplicit false
set_option relaxedAutoImplicit false

namespace SmtpDialog

namespace Utf8

/-- The characters of bytes that each stand for one. -/
def ofAscii (bs : Bytes) : List Char := bs.map fun b => Char.ofNat b.toNat

theorem lossy_of_ascii {bs : Bytes} (ascii : ∀ b ∈ bs, b < 0x80) : lossy bs = ofAscii bs := by
  unfold lossy
  induction bs with
  | nil => rfl
  | cons b bs ih =>
    have small : start b = ([some (Char.ofNat b.toNat)], none) := if_pos (ascii b List.mem_cons_self)
    rw [scan, step, small]
    exact congrArg _ (ih fun b h => ascii b (List.mem_cons_of_mem _ h))

theorem encode_ofAscii {bs : Bytes} (ascii : ∀ b ∈ bs, b < 0x80) : encode (ofAscii bs) = bs := by
  induction bs with
  | nil => rfl
  | cons b bs ih =>
    have small : b.toNat < 0x80 := ascii b List.mem_cons_self
    have rest : encode (ofAscii bs) = bs := ih fun b h => ascii b (List.mem_cons_of_mem _ h)
    rw [encode, ofAscii, List.map_cons, List.flatMap_cons, encodeChar_one small, UInt8.ofNat_toNat]
    exact congrArg (b :: ·) rest

end Utf8

namespace Base64

theorem value?_symbol {n : Nat} (small : n < 64) : value? (symbol n) = some n := by
  have all : ∀ n : Fin 64, value? (symbol n) = some n.val := by decide
  exact all ⟨n, small⟩

/-- The bytes of which written text consists: symbols and padding. -/
def isWritten (b : UInt8) : Bool := (value? b).isSome || b == pad

theorem isWritten_symbol {n : Nat} (small : n < 64) : isWritten (symbol n) = true := by
  rw [isWritten, value?_symbol small]
  rfl

theorem isWritten_of_mem_encode {bs : Bytes} : ∀ b ∈ encode bs, isWritten b = true := by
  fun_induction encode bs with
  | case1 => simp
  | case2 a =>
    have := a.toNat_lt
    simp only [List.mem_cons, List.not_mem_nil, or_false, forall_eq_or_imp, forall_eq]
    exact ⟨isWritten_symbol (by omega), isWritten_symbol (by omega), rfl, rfl⟩
  | case3 a b =>
    have := a.toNat_lt
    have := b.toNat_lt
    simp only [List.mem_cons, List.not_mem_nil, or_false, forall_eq_or_imp, forall_eq]
    exact ⟨isWritten_symbol (by omega), isWritten_symbol (by omega), isWritten_symbol (by omega), rfl⟩
  | case4 a b c rest ih =>
    have := a.toNat_lt
    have := b.toNat_lt
    have := c.toNat_lt
    simp only [List.mem_cons, forall_eq_or_imp]
    exact ⟨isWritten_symbol (by omega), isWritten_symbol (by omega), isWritten_symbol (by omega),
      isWritten_symbol (by omega), ih⟩

theorem length_encode (bs : Bytes) : (encode bs).length % 4 = 0 := by
  fun_induction encode bs with
  | case1 | case2 | case3 => simp
  | case4 a b c rest ih =>
    simp only [List.length_cons]
    omega

/-- The values of the symbols that are written for some bytes. -/
def sextets : Bytes → List Nat
  | [] => []
  | [a] => [a.toNat / 4, a.toNat % 4 * 16]
  | [a, b] => [a.toNat / 4, a.toNat % 4 * 16 + b.toNat / 16, b.toNat % 16 * 4]
  | a :: b :: c :: rest =>
    a.toNat / 4 :: (a.toNat % 4 * 16 + b.toNat / 16) ::
      (b.toNat % 16 * 4 + c.toNat / 64) :: c.toNat % 64 :: sextets rest

private theorem values_symbol {n : Nat} (small : n < 64) (offset : Nat) (bs : Bytes) :
    values offset (symbol n :: bs) = (values (offset + 1) bs).map (n :: ·) := by
  rw [values, value?_symbol small]

private theorem values_pads {offset : Nat} (bs : Bytes) (place : 2 ≤ offset % 4)
    (within : offset % 4 + bs.length ≤ 3) (pads : bs.all (· == pad) = true) :
    values offset (pad :: bs) = .ok [] := by
  have none_left : value? pad = none := rfl
  rw [values, none_left]
  exact if_pos ⟨rfl, place, within, pads⟩

theorem values_encode (bs : Bytes) {offset : Nat} (aligned : offset % 4 = 0) :
    values offset (encode bs) = .ok (sextets bs) := by
  induction bs using encode.induct generalizing offset with
  | case1 => rfl
  | case2 a =>
    have := a.toNat_lt
    rw [encode, values_symbol (by omega), values_symbol (by omega),
      values_pads [pad] (by omega) (by simp; omega) rfl]
    rfl
  | case3 a b =>
    have := a.toNat_lt
    have := b.toNat_lt
    rw [encode, values_symbol (by omega), values_symbol (by omega), values_symbol (by omega),
      values_pads [] (by omega) (by simp; omega) rfl]
    rfl
  | case4 a b c rest ih =>
    have := a.toNat_lt
    have := b.toNat_lt
    have := c.toNat_lt
    rw [encode, values_symbol (by omega), values_symbol (by omega), values_symbol (by omega),
      values_symbol (by omega), ih (by omega)]
    rfl

theorem join_sextets (bs : Bytes) : join (sextets bs) = bs := by
  fun_induction sextets bs with
  | case1 => rfl
  | case2 a =>
    have first : UInt8.ofNat (a.toNat / 4 * 4 + a.toNat % 4 * 16 / 16) = a := Utf8.ofNat_eq (by omega)
    rw [join, first]
  | case3 a b =>
    have := b.toNat_lt
    have first : UInt8.ofNat (a.toNat / 4 * 4 + (a.toNat % 4 * 16 + b.toNat / 16) / 16) = a :=
      Utf8.ofNat_eq (by omega)
    have second : UInt8.ofNat ((a.toNat % 4 * 16 + b.toNat / 16) % 16 * 16 + b.toNat % 16 * 4 / 4) = b :=
      Utf8.ofNat_eq (by omega)
    rw [join, first, second]
  | case4 a b c rest ih =>
    have := b.toNat_lt
    have := c.toNat_lt
    have first : UInt8.ofNat (a.toNat / 4 * 4 + (a.toNat % 4 * 16 + b.toNat / 16) / 16) = a :=
      Utf8.ofNat_eq (by omega)
    have second : UInt8.ofNat ((a.toNat % 4 * 16 + b.toNat / 16) % 16 * 16 +
        (b.toNat % 16 * 4 + c.toNat / 64) / 4) = b :=
      Utf8.ofNat_eq (by omega)
    have third : UInt8.ofNat ((b.toNat % 16 * 4 + c.toNat / 64) % 4 * 64 + c.toNat % 64) = c :=
      Utf8.ofNat_eq (by omega)
    rw [join, first, second, third, ih]

private theorem tailClear_group (a b c d : Nat) (vs : List Nat) :
    tailClear (a :: b :: c :: d :: vs) = tailClear vs := by
  cases vs with
  | nil => simp [tailClear]
  | cons v vs =>
    have length : (a :: b :: c :: d :: v :: vs).length % 4 = (v :: vs).length % 4 := by
      simp only [List.length_cons]
      omega
    rw [tailClear, tailClear, length]
    rfl

theorem tailClear_sextets (bs : Bytes) : tailClear (sextets bs) = true := by
  fun_induction sextets bs with
  | case1 => rfl
  | case2 a => simp [tailClear]
  | case3 a b => simp [tailClear]
  | case4 a b c rest ih => rw [tailClear_group, ih]

/-- What was written is read again. -/
theorem decode_encode (bs : Bytes) : decode (encode bs) = .ok bs := by
  have length : ¬(encode bs).length % 4 = 1 := by
    rw [length_encode]
    decide
  rw [decode, if_neg length, values_encode bs rfl]
  simp only [tailClear_sextets, if_true, join_sextets]

theorem isWritten_cases {b : UInt8} (written : isWritten b = true) :
    b < 0x80 ∧ Text.isBlank (Char.ofNat b.toNat) = false := by
  have all : ∀ n : Fin 256, isWritten (UInt8.ofNat n) = true →
      UInt8.ofNat n < 0x80 ∧ Text.isBlank (Char.ofNat (UInt8.ofNat n).toNat) = false := by
    decide +kernel
  have own := all ⟨b.toNat, b.toNat_lt⟩
  rw [UInt8.ofNat_toNat] at own
  exact own written

theorem ascii_encode (bs : Bytes) : ∀ b ∈ encode bs, b < 0x80 :=
  fun b h => (isWritten_cases (isWritten_of_mem_encode b h)).1

def text (bs : Bytes) : List Char := Utf8.lossy (encode bs)

theorem encode_text (bs : Bytes) : Utf8.encode (text bs) = encode bs := by
  rw [text, Utf8.lossy_of_ascii (ascii_encode bs), Utf8.encode_ofAscii (ascii_encode bs)]

theorem not_isBlank_of_mem_text {bs : Bytes} : ∀ c ∈ text bs, Text.isBlank c = false := by
  intro c h
  rw [text, Utf8.lossy_of_ascii (ascii_encode bs)] at h
  obtain ⟨b, member, rfl⟩ := List.mem_map.mp h
  exact (isWritten_cases (isWritten_of_mem_encode b member)).2

theorem text_ne_singleton (bs : Bytes) (c : Char) (ascii : c.toNat < 0x80) : text bs ≠ [c] := by
  intro same
  have length := length_encode bs
  have one : Utf8.encode [c] = [UInt8.ofNat c.toNat] := by
    have char : Char.ofNat c.toNat = c := Char.ofNat_toNat c
    rw [Utf8.encode, List.flatMap_singleton, ← char, Utf8.encodeChar_one ascii, char]
  rw [← encode_text, same, one] at length
  contradiction

theorem decode_ofString_text (bs : Bytes) :
    decode (Utf8.ofString (String.ofList (text bs))) = .ok bs := by
  rw [Utf8.ofString, String.toList_ofList, encode_text, decode_encode]

end Base64

end SmtpDialog
