import Mathlib.Algebra.Ring.Nat
import Mathlib.Data.List.Basic
import Mathlib.Data.List.TakeWhile
import RemoteCall.Text.Numeral
/-!
# Numerals that were written

A number that is written in a base up to sixteen is read as the same number, and what follows its
digits is left over (`Text.readNumber_toDigits`). The numeral has no leading zero, so that it is also
read where leading zeros are not allowed. A decimal numeral is read as a whole text as well, if the
number is below the bound (`Text.natural?_toDigits`).

What is read as a number is a row of digits (`Text.readNumber_spec`). A row of decimal digits without a
leading zero is the numeral of its number (`Text.toDigits_ofDigits`).
-/

namespace RemoteCall.Text

variable {base n : Nat}

/-- The digits of a smaller base are the first digits of base sixteen. -/
theorem digit?_eq_filter (hbase : base ≤ 16) (c : Char) :
    digit? base c = (digit? 16 c).filter (· < base) := by
  simp only [digit?, Option.filter_filter]
  congr 1
  funext d
  simp only [Bool.and_eq_decide, decide_eq_true_eq, decide_eq_decide]
  omega

/-- The character of a digit has the value of the digit. -/
theorem digit?_digitChar {d : Nat} (hbase : base ≤ 16) (hd : d < base) :
    digit? base d.digitChar = some d := by
  have hsixteen : ∀ d < 16, digit? 16 d.digitChar = some d := by decide
  rw [digit?_eq_filter hbase, hsixteen d (by omega)]
  simp [hd]

/-- A numeral is a row of digits that denotes the number. It begins with a zero only if it is one. -/
theorem exists_digits (hbase : 1 < base) (n : Nat) :
    ∃ ds, Nat.toDigits base n = ds.map Nat.digitChar ∧ (∀ d ∈ ds, d < base) ∧
      ofDigits base ds = n ∧ (ds.head? = some 0 → n = 0 ∧ ds = [0]) := by
  induction n using Nat.strongRecOn with
  | ind n ih =>
    rw [Nat.toDigits_eq_if hbase]
    split
    next hn => exact ⟨[n], rfl, by simpa using hn, by simp [ofDigits], by simp⟩
    next hn =>
      obtain ⟨ds, htext, hlt, hvalue, hzero⟩ := ih (n / base) (Nat.div_lt_self (by omega) hbase)
      refine ⟨ds ++ [n % base], by rw [htext, List.map_append]; rfl, ?_, ?_, ?_⟩
      · intro d hd
        rcases List.mem_append.1 hd with hd | hd
        · exact hlt d hd
        · rw [List.mem_singleton.1 hd]
          exact Nat.mod_lt n (by omega)
      · rw [ofDigits, List.foldl_append]
        show base * ofDigits base ds + n % base = n
        rw [hvalue, Nat.div_add_mod]
      · -- The digits in front are those of a number that is not zero.
        intro hhead
        have hdiv : 0 < n / base := Nat.div_pos (by omega) (by omega)
        cases ds with
        | nil =>
          have hnil : n / base = 0 := hvalue.symm
          omega
        | cons d ds =>
          have hnot := (hzero hhead).1
          omega

variable {rest : List Char}

/-- No digit follows. -/
def Ends (base : Nat) (rest : List Char) : Prop :=
  ∀ c ∈ rest.head?, digit? base c = none

theorem ends_nil : Ends base [] :=
  nofun

theorem ends_cons {c : Char} (h : digit? base c = none) : Ends base (c :: rest) := by
  intro c' hc'
  obtain rfl : c = c' := by simpa using hc'
  exact h

/-- If no digit follows, what stands in front is split off at the end of its digits. -/
theorem span_digits {cs : List Char} (hcs : ∀ c ∈ cs, (digit? base c).isSome)
    (hrest : Ends base rest) :
    (cs ++ rest).takeWhile (fun c => (digit? base c).isSome) = cs ∧
      (cs ++ rest).dropWhile (fun c => (digit? base c).isSome) = rest := by
  rw [List.takeWhile_append_of_pos hcs, List.dropWhile_append_of_pos hcs]
  cases rest with
  | nil => simp
  | cons c rest =>
    have hc : digit? base c = none := hrest c rfl
    simp [hc]

/-- The characters of a numeral are digits. -/
theorem isSome_digit?_of_mem_toDigits (hbase : 1 < base) (hle : base ≤ 16) {c : Char}
    (hc : c ∈ Nat.toDigits base n) : (digit? base c).isSome := by
  obtain ⟨ds, htext, hlt, -, -⟩ := exists_digits hbase n
  rw [htext] at hc
  obtain ⟨d, hd, rfl⟩ := List.mem_map.1 hc
  rw [digit?_digitChar hle (hlt d hd)]
  rfl

/-- The values of the characters of a numeral denote the number. -/
theorem ofDigits_toDigits (hbase : 1 < base) (hle : base ≤ 16) (n : Nat) :
    ofDigits base ((Nat.toDigits base n).filterMap (digit? base)) = n := by
  obtain ⟨ds, htext, hlt, hvalue, -⟩ := exists_digits hbase n
  have hback : (ds.map Nat.digitChar).filterMap (digit? base) = ds := by
    rw [List.filterMap_map]
    exact (List.filterMap_congr fun d hd => digit?_digitChar hle (hlt d hd)).trans
      List.filterMap_some
  rw [htext, hback, hvalue]

/-- Digits are read together, if there are not too many and a leading zero is allowed or absent. -/
theorem readNumber_append {width : Nat} {zeros : Bool} {cs : List Char} (hne : cs ≠ [])
    (hlength : cs.length ≤ width) (hcs : ∀ c ∈ cs, (digit? base c).isSome)
    (hzero : zeros = false → cs.head? = some '0' → cs.length ≤ 1) (hrest : Ends base rest) :
    readNumber base width zeros (cs ++ rest) =
      some (ofDigits base (cs.filterMap (digit? base)), rest) := by
  obtain ⟨htake, hdrop⟩ := span_digits hcs hrest
  unfold readNumber
  simp only [htake, hdrop]
  rw [if_neg (by simpa [hne] using hlength), if_neg (by simpa using hzero)]

/-- What is read as a number is a row of such digits, and no digit follows. -/
theorem readNumber_spec {width : Nat} {zeros : Bool} {cs : List Char}
    (h : readNumber base width zeros cs = some (n, rest)) :
    ∃ digits, cs = digits ++ rest ∧ digits ≠ [] ∧ digits.length ≤ width ∧
      (∀ c ∈ digits, (digit? base c).isSome) ∧
      (zeros = false → digits.head? = some '0' → digits.length ≤ 1) ∧
      n = ofDigits base (digits.filterMap (digit? base)) ∧ Ends base rest := by
  have hspan := List.takeWhile_append_dropWhile (p := fun c => (digit? base c).isSome) (l := cs)
  have hall : ∀ c ∈ cs.takeWhile fun c => (digit? base c).isSome, (digit? base c).isSome :=
    fun c hc => List.mem_takeWhile_imp (p := fun c => (digit? base c).isSome) hc
  unfold readNumber at h
  dsimp only at h
  split at h
  next => cases h
  next hlength =>
    split at h
    next => cases h
    next hzero =>
      cases h
      simp only [Bool.or_eq_true, List.isEmpty_iff, decide_eq_true_eq, not_or, Nat.not_lt] at hlength
      refine ⟨_, hspan.symm, hlength.1, hlength.2, hall, by simpa using hzero, rfl, ?_⟩
      intro c hc
      have hnot := List.head?_dropWhile_not (fun c => (digit? base c).isSome) cs
      rw [Option.mem_def.1 hc] at hnot
      simpa using hnot

/-- A number that was written is read again, and what follows its digits is left over. -/
theorem readNumber_toDigits {width : Nat} (hbase : 1 < base) (hle : base ≤ 16)
    (hwidth : 0 < width) (hn : n < base ^ width) (zeros : Bool) (hrest : Ends base rest) :
    readNumber base width zeros (Nat.toDigits base n ++ rest) = some (n, rest) := by
  have hlength : (Nat.toDigits base n).length ≤ width :=
    (Nat.length_toDigits_le_iff hbase hwidth).2 hn
  have hdigits : ∀ c ∈ Nat.toDigits base n, (digit? base c).isSome := fun c hc =>
    isSome_digit?_of_mem_toDigits hbase hle hc
  -- A numeral that begins with a zero is too short for the zero to be in front of another digit.
  have hlead : (Nat.toDigits base n).head? = some '0' → (Nat.toDigits base n).length ≤ 1 := by
    intro hhead
    obtain ⟨ds, htext, -, -, hzero⟩ := exists_digits hbase n
    rw [htext] at hhead ⊢
    cases ds with
    | nil => cases hhead
    | cons d ds =>
      obtain rfl : d = 0 := Nat.digitChar_eq_zero.1 (by simpa using hhead)
      rw [(hzero rfl).2]
      exact Nat.le_refl 1
  rw [readNumber_append Nat.toDigits_ne_nil hlength hdigits (fun _ => hlead) hrest,
    ofDigits_toDigits hbase hle]

/-- A number below the bound that was written in decimal is read again. -/
theorem natural?_toDigits {bound : Nat} (hn : n < bound) :
    natural? bound (Nat.toDigits 10 n) = some n := by
  have hdigits : ∀ c ∈ Nat.toDigits 10 n, c.isDigit := fun c hc =>
    Nat.isDigit_of_mem_toDigits (by decide) (by decide) hc
  have hplus : ∀ cs, Nat.toDigits 10 n ≠ '+' :: cs := by
    intro cs hcs
    have hmem : '+' ∈ Nat.toDigits 10 n := by simp [hcs]
    exact absurd (hdigits '+' hmem) (by decide)
  have hvalue := ofDigits_toDigits (by decide : 1 < 10) (by decide) n
  unfold natural?
  split
  next cs hcs => exact absurd hcs (hplus cs)
  next =>
    rw [if_neg (by simpa using hdigits), decimalBelow?_eq (by omega), hvalue, if_pos hn]

/-- In base ten, the digits are the decimal digits, and letters have no value. -/
theorem digit?_ten (c : Char) :
    digit? 10 c = if c.isDigit then some (c.toNat - '0'.toNat) else none := by
  have hdigit : ('0' ≤ c ∧ c ≤ '9') ↔ c.isDigit := Char.isDigit_iff_toNat.symm
  rw [digit?, if_congr hdigit rfl rfl]
  split
  next h =>
    have hnine : c.toNat ≤ '9'.toNat := (Char.isDigit_iff_toNat.1 h).2
    simp only [Char.reduceToNat] at hnine
    have hlt : c.toNat - 48 < 10 := by omega
    simp [hlt]
  next =>
    -- The value of a letter is ten or more.
    split
    · simp
    · split <;> simp

/-- A decimal digit is the character of its value. -/
theorem digitChar_of_digit? {c : Char} {d : Nat} (h : digit? 10 c = some d) :
    d < 10 ∧ d.digitChar = c := by
  have hback : ∀ n ≤ 9, Nat.digitChar n = Char.ofNat (n + '0'.toNat) := by decide
  rw [digit?_ten] at h
  split at h
  next hdigit =>
    obtain ⟨hzero, hnine⟩ := Char.isDigit_iff_toNat.1 hdigit
    obtain rfl : c.toNat - '0'.toNat = d := Option.some.inj h
    simp only [Char.reduceToNat] at hzero hnine hback ⊢
    refine ⟨by omega, ?_⟩
    rw [hback _ (by omega), Nat.sub_add_cancel hzero, Char.ofNat_toNat]
  next => cases h

/-- Digits that are added behind a numeral continue it. -/
theorem toDigits_foldl (hn : 0 < n) {ds : List Nat} (hds : ∀ d ∈ ds, d < 10) :
    Nat.toDigits 10 (ds.foldl (fun n d => 10 * n + d) n) =
      Nat.toDigits 10 n ++ ds.map Nat.digitChar := by
  induction ds generalizing n with
  | nil => simp
  | cons d ds ih =>
    obtain ⟨hd, hds⟩ := List.forall_mem_cons.1 hds
    rw [List.foldl_cons, ih (by omega) hds, ← Nat.toDigits_append_toDigits (by decide) hn hd,
      Nat.toDigits_of_lt_base hd, List.append_assoc]
    rfl

/-- Decimal digits are the numeral of the number that they denote, if there is no leading zero. -/
theorem toDigits_ofDigits {cs : List Char} (hne : cs ≠ []) (hdigits : ∀ c ∈ cs, (digit? 10 c).isSome)
    (hzero : cs.head? = some '0' → cs.length ≤ 1) :
    Nat.toDigits 10 (ofDigits 10 (cs.filterMap (digit? 10))) = cs := by
  obtain ⟨c, cs, rfl⟩ := List.exists_cons_of_ne_nil hne
  have hmap : ∀ {cs : List Char}, (∀ c ∈ cs, (digit? 10 c).isSome) →
      (cs.filterMap (digit? 10)).map Nat.digitChar = cs := by
    intro cs hcs
    induction cs with
    | nil => rfl
    | cons c cs ih =>
      obtain ⟨hc, hcs⟩ := List.forall_mem_cons.1 hcs
      obtain ⟨d, hd⟩ := Option.isSome_iff_exists.1 hc
      rw [List.filterMap_cons_some hd, List.map_cons, (digitChar_of_digit? hd).2, ih hcs]
  obtain ⟨hc, hcs⟩ := List.forall_mem_cons.1 hdigits
  obtain ⟨d, hd⟩ := Option.isSome_iff_exists.1 hc
  obtain ⟨hlt, rfl⟩ := digitChar_of_digit? hd
  rw [List.filterMap_cons_some hd, ofDigits, List.foldl_cons, Nat.mul_zero, Nat.zero_add]
  rcases Nat.eq_zero_or_pos d with rfl | hpos
  · -- A zero stands alone.
    obtain rfl : cs = [] := by simpa using hzero rfl
    rfl
  · have hrest : ∀ d ∈ cs.filterMap (digit? 10), d < 10 := by
      intro d hd
      obtain ⟨c, -, hc⟩ := List.mem_filterMap.1 hd
      exact (digitChar_of_digit? hc).1
    rw [toDigits_foldl hpos hrest, hmap hcs, Nat.toDigits_of_lt_base hlt]
    rfl
end RemoteCall.Text
