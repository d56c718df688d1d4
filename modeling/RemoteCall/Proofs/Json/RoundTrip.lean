import RemoteCall.Json.Record
import RemoteCall.Json.Writer
/-!
# Texts that were written

What has been written as JSON is read again, whatever follows it. Strings come first: an octet that
was escaped reads as that octet (`readOctets_escape`), and so does a whole text, of which the octets
are UTF-8. Lists and members of objects are treated for a reader of their own, since such a reader
may refuse what is nested too deep: a list is read exactly if each of its elements is
(`readList_writeArray`).
-/

namespace RemoteCall.Json

/-! ## Blanks -/

/-- No blanks stand in front of another octet. -/
theorem skipBlanks_cons {b : UInt8} (h : isBlank b = false) (rest : Bytes) :
    skipBlanks (b :: rest) = b :: rest := by
  rw [skipBlanks, List.dropWhile_cons_of_neg]
  simp [h]

/-- An octet that is expected is found if it stands in front. -/
theorem expect_cons {b : UInt8} (h : isBlank b = false) (rest : Bytes) :
    expect b (b :: rest) = some rest := by
  rw [expect, skipBlanks_cons h]
  exact if_pos rfl

/-! ## Strings -/

/-- The escape of a control is read as that control. -/
theorem hexWord?_control :
    ∀ n < 32,
      hexWord? 0x30 0x30 (hexDigit (UInt8.ofNat n / 16)) (hexDigit (UInt8.ofNat n % 16)) = some n ∧
        String.utf8EncodeChar (Char.ofNat n) = [UInt8.ofNat n] := by
  decide

/-- An octet of a string reads as it was before it was escaped. -/
theorem readOctets_escape (b : UInt8) (passed rest : Bytes) :
    readOctets passed (escape b ++ rest) = readOctets (b :: passed) rest := by
  unfold escape
  by_cases hquote : b = 0x22
  · subst hquote
    rfl
  by_cases hbackslash : b = 0x5C
  · subst hbackslash
    rfl
  rw [if_neg hquote, if_neg hbackslash]
  by_cases hcontrol : b < 0x20
  · rw [if_pos hcontrol]
    -- Five controls have an escape of two octets.
    by_cases hshort : b = 0x08 ∨ b = 0x09 ∨ b = 0x0A ∨ b = 0x0C ∨ b = 0x0D
    · rcases hshort with rfl | rfl | rfl | rfl | rfl <;> rfl
    · obtain ⟨h8, h9, hA, hC, hD⟩ : b ≠ 0x08 ∧ b ≠ 0x09 ∧ b ≠ 0x0A ∧ b ≠ 0x0C ∧ b ≠ 0x0D := by
        simpa using hshort
      rw [if_neg h8, if_neg h9, if_neg hA, if_neg hC, if_neg hD]
      have hlt : b.toNat < 32 := hcontrol
      obtain ⟨hword, hchar⟩ := hexWord?_control b.toNat hlt
      rw [UInt8.ofNat_toNat] at hword hchar
      have hlow : ¬(0xDC00 ≤ b.toNat ∧ b.toNat ≤ 0xDFFF) := by omega
      have hhigh : ¬(0xD800 ≤ b.toNat ∧ b.toNat ≤ 0xDBFF) := by omega
      simp only [List.cons_append, List.nil_append, readOctets, hword, if_neg hlow, if_neg hhigh,
        hchar, List.reverse_singleton]
  · -- Every other octet stands for itself.
    rw [if_neg hcontrol, List.singleton_append, readOctets]
    · rw [if_neg (by simp [hcontrol, hbackslash])]
    all_goals simp [hquote, hbackslash]

/-- The octets of a string are read up to the closing quote. -/
theorem readOctets_flatMap (octets passed rest : Bytes) :
    readOctets passed (octets.flatMap escape ++ 0x22 :: rest) =
      some (passed.reverse ++ octets, rest) := by
  induction octets generalizing passed with
  | nil =>
    rw [List.append_nil]
    rfl
  | cons b octets ih =>
    rw [List.flatMap_cons, List.append_assoc, readOctets_escape, ih, List.reverse_cons,
      List.append_assoc, List.singleton_append]

/-- A string that was written is read again. -/
theorem readString_writeString (s : String) (rest : Bytes) :
    readString (writeString s rest) = some (s, rest) := by
  have hoctets := readOctets_flatMap (Utf8.encode s) [] rest
  rw [writeString, readString, expect_cons (by decide)]
  simp only [hoctets, List.reverse_nil, List.nil_append, Utf8.decode?_encode, Option.map_some]

/-! ## Lengths -/

theorem length_writeString (s : String) (rest : Bytes) :
    rest.length < (writeString s rest).length := by
  rw [writeString, List.length_cons, List.length_append, List.length_cons]
  omega

theorem length_writeNumber (n : Number) (rest : Bytes) :
    rest.length ≤ (writeNumber n rest).length := by
  unfold writeNumber writeInt
  split
  · split
    · simp
      omega
    · simp
  · simp

mutual

/-- A value is written in front of what follows it. -/
theorem length_writeOnto : (j : Json) → (rest : Bytes) → rest.length ≤ (writeOnto j rest).length
  | null, rest | bool true, rest | bool false, rest | array [], rest | object [], rest => by
    simp only [writeOnto, List.length_cons]
    omega
  | number n, rest => by
    rw [writeOnto]
    exact length_writeNumber n rest
  | string s, rest => by
    rw [writeOnto]
    exact Nat.le_of_lt (length_writeString s rest)
  | array (x :: xs), rest => by
    have hx := length_writeOnto x (writeElements xs rest)
    have hxs := length_writeElements xs rest
    rw [writeOnto, List.length_cons]
    omega
  | object ((k, x) :: ms), rest => by
    have hk := length_writeString k (0x3A :: writeOnto x (writeMembers ms rest))
    have hx := length_writeOnto x (writeMembers ms rest)
    have hms := length_writeMembers ms rest
    rw [writeOnto, List.length_cons]
    rw [List.length_cons] at hk
    omega

/-- Each element takes at least its comma, and the list its bracket. -/
theorem length_writeElements : (xs : List Json) → (rest : Bytes) →
    rest.length + xs.length < (writeElements xs rest).length
  | [], rest => by simp [writeElements]
  | x :: xs, rest => by
    have hx := length_writeOnto x (writeElements xs rest)
    have hxs := length_writeElements xs rest
    rw [writeElements, List.length_cons, List.length_cons]
    omega

/-- Each member takes at least its comma, and the object its brace. -/
theorem length_writeMembers : (ms : List (String × Json)) → (rest : Bytes) →
    rest.length + ms.length < (writeMembers ms rest).length
  | [], rest => by simp [writeMembers]
  | (k, x) :: ms, rest => by
    have hk := length_writeString k (0x3A :: writeOnto x (writeMembers ms rest))
    have hx := length_writeOnto x (writeMembers ms rest)
    have hms := length_writeMembers ms rest
    rw [writeMembers, List.length_cons, List.length_cons]
    rw [List.length_cons] at hk
    omega

end

/-! ## Lists -/

section Lists

variable {α : Type} {element : Reader α} {form : α → Json} {good : α → Prop} [DecidablePred good]

/-- The elements of a list are read if each of them can be read. -/
theorem readElements_writeElements {x : α} {xs : List α}
    (h : ∀ y ∈ x :: xs, ∀ rest, element (writeOnto (form y) rest) =
      if good y then some (y, rest) else none)
    (bound : Bytes) (passed : List α) (hbound : xs.length < bound.length) (rest : Bytes) :
    readElements element bound passed (writeOnto (form x) (writeElements (xs.map form) rest)) =
      if ∀ y ∈ x :: xs, good y then some (passed.reverse ++ x :: xs, rest) else none := by
  induction xs generalizing x bound passed with
  | nil =>
    obtain ⟨b, bound, rfl⟩ := List.exists_cons_of_length_pos hbound
    rw [readElements, h x List.mem_cons_self]
    by_cases hx : good x
    · -- The bracket ends the list.
      simp [hx, writeElements, skipBlanks_cons (show isBlank 0x5D = false by decide)]
    · simp [hx]
  | cons y ys ih =>
    obtain ⟨b, bound, rfl⟩ := List.exists_cons_of_length_pos (Nat.zero_lt_of_lt hbound)
    have hlater := ih (fun z hz => h z (List.mem_cons_of_mem _ hz)) bound (x :: passed)
      (Nat.lt_of_succ_lt_succ hbound)
    rw [readElements, h x List.mem_cons_self]
    by_cases hx : good x
    · -- The comma leads to the next element.
      simp only [hx, if_true, List.map_cons, writeElements,
        skipBlanks_cons (show isBlank 0x2C = false by decide), hlater]
      simp [hx]
    · simp [hx]

/-- A list is read if each of its elements can be read. Its elements must be objects, so that none
of them is mistaken for the end of the list. -/
theorem readList_writeArray {xs : List α} (hne : xs ≠ [])
    (hobject : ∀ x ∈ xs, ∀ rest, ∃ more, writeOnto (form x) rest = 0x7B :: more)
    (h : ∀ x ∈ xs, ∀ rest, element (writeOnto (form x) rest) =
      if good x then some (x, rest) else none) (rest : Bytes) :
    readList element (writeOnto (.array (xs.map form)) rest) =
      if ∀ x ∈ xs, good x then some (xs, rest) else none := by
  cases xs with
  | nil => exact absurd rfl hne
  | cons x xs =>
    -- Each element takes an octet, so that the bound on their number is not reached.
    have hbound : xs.length < (writeOnto (form x) (writeElements (xs.map form) rest)).length := by
      have hx := length_writeOnto (form x) (writeElements (xs.map form) rest)
      have hxs := length_writeElements (xs.map form) rest
      rw [List.length_map] at hxs
      omega
    have helements := readElements_writeElements h _ [] hbound rest
    obtain ⟨more, hmore⟩ := hobject x List.mem_cons_self (writeElements (xs.map form) rest)
    rw [List.map_cons, writeOnto, readList, expect_cons (by decide), Option.bind_some, readListTail]
    rw [hmore] at helements ⊢
    rw [skipBlanks_cons (by decide)]
    exact helements

end Lists

/-! ## Members -/

section Members

variable {σ : Type} {value : String → σ → Reader σ}

/-- A member is read by the reader for its name, and a comma or a brace follows it. -/
theorem readMembers_writeString {bound : Bytes} (hbound : bound ≠ []) (name : String) (s : σ)
    (text : Bytes) :
    readMembers value bound s (writeString name (0x3A :: text)) =
      (value name s text).bind fun (s, rest) =>
        match skipBlanks rest with
        | 0x2C :: rest => readMembers value bound.tail s rest
        | 0x7D :: rest => some (s, rest)
        | _ => none := by
  obtain ⟨b, bound, rfl⟩ := List.exists_cons_of_ne_nil hbound
  rw [readMembers, readString_writeString]
  simp only [expect_cons (show isBlank 0x3A = false by decide)]
  cases value name s text <;> rfl

/-- An object that begins with a name is read member by member. The bound on their number is longer
than what follows the name. -/
theorem readObjectTail_writeString (value : String → σ → Reader σ) (name : String) (start : σ)
    (text : Bytes) :
    ∃ bound : Bytes, text.length < bound.length ∧
      readObjectTail value start (writeString name text) =
        readMembers value bound start (writeString name text) := by
  refine ⟨writeString name text, length_writeString name text, ?_⟩
  rw [readObjectTail, writeString, skipBlanks_cons (by decide)]
  rfl

/-- A record that is written as an object is read from its members. -/
theorem readRecord_object {α : Type} (fields : List (Field σ)) (start : σ) (finish : σ → Option α)
    (rest : Bytes) :
    readRecord fields start finish (0x7B :: rest) =
      (readObjectTail (readMember fields) start rest).bind fun (s, rest) =>
        (finish s).map (·, rest) := by
  rw [readRecord, skipBlanks_cons (by decide)]
  rfl

end Members

end RemoteCall.Json
