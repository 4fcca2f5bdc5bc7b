import Rulebook.Text.Percent

/-! Percent-encoded texts are read back, whichever of their characters were encoded and
in whichever case the digits were written, as long as every percent sign was encoded. -/

namespace Rulebook
namespace Percent

def IsHexDigit (n : Nat) (c : Char) : Prop := c = Nat.digitChar n ∨ c = hexDigit n

/-- Bytes that are each written as a percent sign and two hexadecimal digits. -/
inductive Escapes : List UInt8 → List Char → Prop where
  | nil : Escapes [] []
  | cons {b : UInt8} {bytes : List UInt8} {high low : Char} {encoded : List Char}
      (hh : IsHexDigit (b.toNat / 16) high) (hl : IsHexDigit (b.toNat % 16) low)
      (h : Escapes bytes encoded) : Escapes (b :: bytes) ('%' :: high :: low :: encoded)

/-- A text in which some characters are written as they are, but no percent sign, and the
others by the escapes of their UTF-8 bytes. -/
inductive Writes : List Char → List Char → Prop where
  | nil : Writes [] []
  | plain {c : Char} {text encoded : List Char} (hc : c ≠ '%') (h : Writes text encoded) :
      Writes (c :: text) (c :: encoded)
  | escaped {c : Char} {text escapes encoded : List Char}
      (he : Escapes (String.utf8EncodeChar c) escapes) (h : Writes text encoded) :
      Writes (c :: text) (escapes ++ encoded)

theorem escapes_escapeByte (bytes : List UInt8) : Escapes bytes (bytes.flatMap escapeByte) := by
  induction bytes with
  | nil => exact .nil
  | cons b rest ih => exact .cons (.inr rfl) (.inr rfl) ih

/-- Encoding any set of characters with the percent sign in it writes a text. -/
theorem writes_encode {needed : Char → Bool} (h : needed '%') (text : List Char) :
    Writes text (encode needed text) := by
  induction text with
  | nil => exact .nil
  | cons c rest ih =>
    rw [encode, List.flatMap_cons, encodeChar, ← encode]
    split
    · exact .escaped (escapes_escapeByte _) ih
    · rename_i hc
      refine .plain ?_ ih
      rintro rfl
      exact hc h

theorem hexValue_of_isHexDigit {n : Nat} {c : Char} (hn : n < 16) (h : IsHexDigit n c) :
    hexValue c = some n := by
  have hvalues : ∀ m < 16,
      hexValue (Nat.digitChar m) = some m ∧ hexValue (hexDigit m) = some m := by
    decide
  rcases h with rfl | rfl
  · exact (hvalues n hn).1
  · exact (hvalues n hn).2

theorem decodeBytes_cons_of_ne {c : Char} (hc : c ≠ '%') (rest : List Char) :
    decodeBytes (c :: rest) = String.utf8EncodeChar c ++ decodeBytes rest := by
  rw [decodeBytes]
  rintro _ _ _ rfl
  exact absurd rfl hc

theorem decodeBytes_append_of_escapes {bytes : List UInt8} {escapes : List Char}
    (h : Escapes bytes escapes) (rest : List Char) :
    decodeBytes (escapes ++ rest) = bytes ++ decodeBytes rest := by
  induction h with
  | nil => rfl
  | @cons b _ _ _ _ hh hl _ ih =>
    have hb : b.toNat < 256 := b.toNat_lt
    have hbyte : UInt8.ofNat (16 * (b.toNat / 16) + b.toNat % 16) = b := by
      rw [Nat.div_add_mod, UInt8.ofNat_toNat]
    simp only [List.cons_append, decodeBytes, hexValue_of_isHexDigit (by omega) hh,
      hexValue_of_isHexDigit (by omega) hl, hbyte, ih]

/-- The bytes that a written text stands for are those of the text. -/
theorem decodeBytes_of_writes {text encoded : List Char} (h : Writes text encoded) :
    decodeBytes encoded = text.flatMap String.utf8EncodeChar := by
  induction h with
  | nil => rfl
  | plain hc _ ih => rw [decodeBytes_cons_of_ne hc, ih, List.flatMap_cons]
  | escaped he _ ih => rw [decodeBytes_append_of_escapes he, ih, List.flatMap_cons]

/-- A written text is read back. -/
theorem decode?_of_writes {text encoded : List Char} (h : Writes text encoded) :
    decode? (String.ofList encoded) = some (String.ofList text) := by
  have hbytes : (⟨(text.flatMap String.utf8EncodeChar).toArray⟩ : ByteArray) =
      (String.ofList text).toByteArray := by
    rw [String.toByteArray_ofList, List.utf8Encode]
    exact ByteArray.ext List.data_toByteArray.symm
  rw [decode?, String.toList_ofList, decodeBytes_of_writes h, hbytes, String.fromUTF8?,
    dif_pos (String.ofList text).isValidUTF8]
  rfl

theorem ne_slash_of_isHexDigit {n : Nat} {c : Char} (hn : n < 16) (h : IsHexDigit n c) :
    c ≠ '/' := by
  rintro rfl
  have hvalue := hexValue_of_isHexDigit hn h
  simp [hexValue] at hvalue

theorem slash_notMem_of_escapes {bytes : List UInt8} {escapes : List Char}
    (h : Escapes bytes escapes) : '/' ∉ escapes := by
  induction h with
  | nil => simp
  | @cons b _ _ _ _ hh hl _ ih =>
    have hb : b.toNat < 256 := b.toNat_lt
    have hhigh := ne_slash_of_isHexDigit (by omega) hh
    have hlow := ne_slash_of_isHexDigit (by omega) hl
    simp [hhigh.symm, hlow.symm, ih]

/-- Encoding brings no slashes into a text. -/
theorem slash_notMem_of_writes {text encoded : List Char} (h : Writes text encoded)
    (ht : '/' ∉ text) : '/' ∉ encoded := by
  induction h with
  | nil => simp
  | plain _ _ ih =>
    obtain ⟨hc, hrest⟩ := List.ne_and_not_mem_of_not_mem_cons ht
    exact List.not_mem_cons_of_ne_of_not_mem hc (ih hrest)
  | escaped he _ ih =>
    obtain ⟨-, hrest⟩ := List.ne_and_not_mem_of_not_mem_cons ht
    rw [List.mem_append, not_or]
    exact ⟨slash_notMem_of_escapes he, ih hrest⟩

end Percent
end Rulebook
