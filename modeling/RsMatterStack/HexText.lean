import Mathlib.Tactic.Common

set_option autoImplicit false

/-! Bytes as hexadecimal text, two upper-case digits each, and back. -/

namespace HexText

/-- The digit of a value below sixteen. -/
def digit (value : Nat) : Char :=
  if value < 10 then Char.ofNat (48 + value) else Char.ofNat (55 + value)

def digitValue (char : Char) : Option Nat :=
  if '0' ≤ char ∧ char ≤ '9' then some (char.toNat - 48)
  else if 'A' ≤ char ∧ char ≤ 'F' then some (char.toNat - 55)
  else none

/-- High half first. -/
def encodeByte (byte : UInt8) : List Char := [digit (byte.toNat / 16), digit (byte.toNat % 16)]

def encode (bytes : List UInt8) : List Char := bytes.flatMap encodeByte

/-- Text with an odd digit at its end, or with another character, is no text of bytes. -/
def decode : List Char → Option (List UInt8)
  | [] => some []
  | [_] => none
  | high :: low :: rest =>
      match digitValue high, digitValue low, decode rest with
      | some upper, some lower, some bytes => some (UInt8.ofNat (16 * upper + lower) :: bytes)
      | _, _, _ => none

theorem digitValue_digit {value : Nat} (small : value < 16) :
    digitValue (digit value) = some value := by
  have all : ∀ value : Fin 16, digitValue (digit value) = some value.val := by decide
  exact all ⟨value, small⟩

theorem decode_encodeByte (byte : UInt8) (rest : List Char) :
    decode (encodeByte byte ++ rest) = (decode rest).map (byte :: ·) := by
  have bounded : byte.toNat < 256 := byte.toNat_lt
  have high : byte.toNat / 16 < 16 := by omega
  have low : byte.toNat % 16 < 16 := Nat.mod_lt _ (by decide)
  have halves : 16 * (byte.toNat / 16) + byte.toNat % 16 = byte.toNat := Nat.div_add_mod _ _
  simp only [encodeByte, List.cons_append, List.nil_append, decode, digitValue_digit high,
    digitValue_digit low]
  cases decode rest with
  | none => rfl
  | some bytes => simp only [halves, UInt8.ofNat_toNat, Option.map_some]

theorem decode_encode (bytes : List UInt8) : decode (encode bytes) = some bytes := by
  induction bytes with
  | nil => rfl
  | cons byte rest ih =>
      rw [encode, List.flatMap_cons, decode_encodeByte, ← encode, ih]
      rfl

@[simp] theorem length_encode (bytes : List UInt8) : (encode bytes).length = 2 * bytes.length := by
  induction bytes with
  | nil => rfl
  | cons byte rest ih =>
      rw [encode, List.flatMap_cons, List.length_append, ← encode, ih]
      simp only [encodeByte, List.length_cons, List.length_nil]
      omega

end HexText
