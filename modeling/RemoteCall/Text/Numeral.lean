/-!
# Numerals

Reading numbers in a positional notation from the front of a text. A reader returns the
number with what is left of the text, or nothing if no number stands there.
-/

namespace RemoteCall.Text

/-- The value of a digit in a base up to sixteen; letters count in either case. -/
def digit? (base : Nat) (c : Char) : Option Nat :=
  let value :=
    if '0' ≤ c ∧ c ≤ '9' then some (c.toNat - '0'.toNat)
    else if 'a' ≤ c ∧ c ≤ 'f' then some (c.toNat - 'a'.toNat + 10)
    else if 'A' ≤ c ∧ c ≤ 'F' then some (c.toNat - 'A'.toNat + 10)
    else none
  value.filter (· < base)

/-- The number that digits denote, most significant first. -/
def ofDigits (base : Nat) (digits : List Nat) : Nat :=
  digits.foldl (fun n d => base * n + d) 0

/-- The number that decimal digits denote, if it is below `bound`. A number that has reached the
bound stays there with every further digit, so the rest of the digits does not matter then. -/
def decimalBelow? (bound : Nat) (digits : List Nat) : Option Nat :=
  digits.foldlM (fun n d => if 10 * n + d < bound then some (10 * n + d) else none) 0

/-- Reads a number of at least one and at most `width` digits, all digits that follow each
other being taken. Unless `zeros` holds, the number must not have a leading zero. -/
def readNumber (base width : Nat) (zeros : Bool) (cs : List Char) : Option (Nat × List Char) :=
  let digits := cs.takeWhile fun c => (digit? base c).isSome
  let rest := cs.dropWhile fun c => (digit? base c).isSome
  if digits.isEmpty || width < digits.length then none
  else if !zeros && digits.head? == some '0' && 1 < digits.length then none
  else some (ofDigits base (digits.filterMap (digit? base)), rest)

/-- A number below `bound` in decimal digits, with an optional plus sign, as a whole text. -/
def natural? (bound : Nat) (cs : List Char) : Option Nat :=
  let digits := match cs with
    | '+' :: digits => digits
    | digits => digits
  if digits.isEmpty || !digits.all Char.isDigit then none
  else decimalBelow? bound (digits.filterMap (digit? 10))

/-- Further digits make no number smaller. -/
private theorem le_foldl_digits (n : Nat) (digits : List Nat) :
    n ≤ digits.foldl (fun n d => 10 * n + d) n := by
  induction digits generalizing n with
  | nil => exact Nat.le_refl n
  | cons d ds ih => exact Nat.le_trans (by omega) (ih (10 * n + d))

/-- The number is found exactly if it is below the bound. -/
theorem decimalBelow?_eq {bound : Nat} (h : 0 < bound) (digits : List Nat) :
    decimalBelow? bound digits =
      if ofDigits 10 digits < bound then some (ofDigits 10 digits) else none := by
  suffices key : ∀ n < bound,
      digits.foldlM (fun n d => if 10 * n + d < bound then some (10 * n + d) else none) n =
        if digits.foldl (fun n d => 10 * n + d) n < bound
        then some (digits.foldl (fun n d => 10 * n + d) n) else none from key 0 h
  induction digits with
  | nil => intro n hn; simp [hn]
  | cons d ds ih =>
    intro n hn
    by_cases hd : 10 * n + d < bound
    · rw [List.foldlM_cons, if_pos hd]
      exact ih (10 * n + d) hd
    · have hle := le_foldl_digits (10 * n + d) ds
      have hge : ¬ds.foldl (fun n d => 10 * n + d) (10 * n + d) < bound := by omega
      simp [hd, hge]

end RemoteCall.Text
