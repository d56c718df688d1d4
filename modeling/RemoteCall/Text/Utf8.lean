import RemoteCall.Bytes
/-!
# UTF-8

Texts travel as their UTF-8 octets. Decoding accepts exactly the octet strings that encode
some text; for the others it says where the first defect lies: after how many octets the
well-formed part ends, and whether the sequence there is wrong or merely cut off.
-/

namespace RemoteCall.Utf8

/-- The octets of a text. -/
def encode (s : String) : Bytes :=
  s.toByteArray.data.toList

/-- The text with the given octets, if they encode one. -/
def decode? (bs : Bytes) : Option String :=
  String.fromUTF8? ⟨bs.toArray⟩

/-- The first defect of an octet string that encodes no text. -/
inductive Defect where
  /-- After `start` well-formed octets, `length` octets that begin no character. -/
  | invalid (start length : Nat)
  /-- After `start` well-formed octets, a character whose octets end too early. -/
  | incomplete (start : Nat)
  deriving Repr, DecidableEq

/-- The description of a defect. -/
def Defect.message : Defect → String
  | .invalid start length => s!"invalid utf-8 sequence of {length} bytes from index {start}"
  | .incomplete start => s!"incomplete utf-8 byte sequence from index {start}"

/-- The ranges of the octets that must follow a leading octet, or nothing if no character
begins with it. The first range after `0xE0`, `0xED`, `0xF0` and `0xF4` is narrower than the
others, which rules out overlong forms, surrogates and code points past the last. -/
def followers (b : UInt8) : Option (List (UInt8 × UInt8)) :=
  if b < 0x80 then some []
  else if b < 0xC2 then none
  else if b < 0xE0 then some [(0x80, 0xBF)]
  else if b = 0xE0 then some [(0xA0, 0xBF), (0x80, 0xBF)]
  else if b = 0xED then some [(0x80, 0x9F), (0x80, 0xBF)]
  else if b < 0xF0 then some [(0x80, 0xBF), (0x80, 0xBF)]
  else if b = 0xF0 then some [(0x90, 0xBF), (0x80, 0xBF), (0x80, 0xBF)]
  else if b < 0xF4 then some [(0x80, 0xBF), (0x80, 0xBF), (0x80, 0xBF)]
  else if b = 0xF4 then some [(0x80, 0x8F), (0x80, 0xBF), (0x80, 0xBF)]
  else none

/-- Looks for the first defect. The character being read began at `start`, `seen` of its
octets have been read, and `expected` are the ranges of those still to come. -/
def scan (start seen : Nat) (expected : List (UInt8 × UInt8)) : Bytes → Option Defect
  | [] => if expected.isEmpty then none else some (.incomplete start)
  | b :: bs =>
    match expected with
    | [] =>
      match followers b with
      | none => some (.invalid start 1)
      | some [] => scan (start + 1) 0 [] bs
      | some (r :: rs) => scan start 1 (r :: rs) bs
    | (low, high) :: rs =>
      if low ≤ b ∧ b ≤ high then
        match rs with
        | [] => scan (start + seen + 1) 0 [] bs
        | r :: rs => scan start (seen + 1) (r :: rs) bs
      else some (.invalid start seen)

/-- The first defect of an octet string, if it has one. -/
def defect? (bs : Bytes) : Option Defect :=
  scan 0 0 [] bs

/-- The text with the given octets, or the first defect of the octets. -/
def decode (bs : Bytes) : Except Defect String :=
  match decode? bs with
  | some s => .ok s
  | none => .error ((defect? bs).getD (.incomplete 0))

/-- Decoding gives back the text that was encoded. -/
@[simp]
theorem decode?_encode (s : String) : decode? (encode s) = some s := by
  have h : (⟨s.toByteArray.data.toList.toArray⟩ : ByteArray) = s.toByteArray := by simp
  rw [decode?, encode, h, String.fromUTF8?]
  simp [s.isValidUTF8, String.fromUTF8]

/-- Octets that decode to a text are its encoding. -/
theorem encode_of_decode? {bs : Bytes} {s : String} (h : decode? bs = some s) :
    encode s = bs := by
  rw [decode?, String.fromUTF8?] at h
  split at h
  · cases h
    simp [encode, String.fromUTF8]
  · cases h

end RemoteCall.Utf8
