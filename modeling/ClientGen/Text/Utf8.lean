/-!
# Reading bytes as text

Bytes are read as UTF-8. Where they are no text, each longest run that a character could start with
stands for one replacement character, so nothing that follows it is lost.
-/

namespace ClientGen.Text.Utf8

/-- A character whose first bytes have been read: the value of those, how many bytes are to come,
and the range in which the next one has to be. -/
structure Pending where
  value : Nat
  missing : Nat
  least : Nat := 0x80
  most : Nat := 0xBF
  deriving DecidableEq, Repr

def replacement : Char := '\uFFFD'

/-- The character that a first byte is, or what it leaves to come. -/
def first (byte : Nat) : Char ⊕ Pending :=
  if byte < 0x80 then .inl (Char.ofNat byte)
  else if byte < 0xC2 then .inl replacement
  else if byte < 0xE0 then .inr { value := byte - 0xC0, missing := 1 }
  else if byte == 0xE0 then .inr { value := 0, missing := 2, least := 0xA0 }
  else if byte == 0xED then .inr { value := 0xD, missing := 2, most := 0x9F }
  else if byte < 0xF0 then .inr { value := byte - 0xE0, missing := 2 }
  else if byte == 0xF0 then .inr { value := 0, missing := 3, least := 0x90 }
  else if byte < 0xF4 then .inr { value := byte - 0xF0, missing := 3 }
  else if byte == 0xF4 then .inr { value := 4, missing := 3, most := 0x8F }
  else .inl replacement

/-- The character that a further byte completes, or what is left to come; none if the byte cannot
follow. -/
def next? (pending : Pending) (byte : Nat) : Option (Char ⊕ Pending) :=
  let value := pending.value * 64 + (byte - 0x80)
  if byte < pending.least || pending.most < byte then none
  else if pending.missing ≤ 1 then some (.inl (Char.ofNat value))
  else some (.inr { value, missing := pending.missing - 1 })

def readFrom : Option Pending → List UInt8 → List Char
  | none, [] => []
  | some _, [] => [replacement]
  | none, byte :: rest =>
      match first byte.toNat with
      | .inl c => c :: readFrom none rest
      | .inr pending => readFrom (some pending) rest
  | some pending, byte :: rest =>
      match next? pending byte.toNat with
      | some (.inl c) => c :: readFrom none rest
      | some (.inr pending) => readFrom (some pending) rest
      | none =>
          replacement ::
            match first byte.toNat with
            | .inl c => c :: readFrom none rest
            | .inr pending => readFrom (some pending) rest

def read (bytes : List UInt8) : List Char :=
  readFrom none bytes

example :
    read [0x61, 0xC3, 0xA9, 0xE2, 0x82, 0xAC, 0xF0, 0x9F, 0x98, 0x80] = ['a', 'é', '€', '😀'] := by
  decide

example :
    read [0xC3, 0x61, 0xE2, 0x82, 0xED, 0xA0] =
      [replacement, 'a', replacement, replacement, replacement] := by
  decide

end ClientGen.Text.Utf8
