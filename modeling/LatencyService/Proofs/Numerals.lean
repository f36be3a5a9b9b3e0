/-
Whole numbers as a text writes them. A number is written with digits, of which
the first is no zero unless it stands alone, with a sign before them or not,
and with a fraction or an exponent behind them or not. One that is read as a
whole number is written just as the number is in decimal form, however many
digits there are, so that from the number its text is known.
-/

import LatencyService.Proofs.Locality

namespace LatencyService

namespace Json

/-! ### Digits -/

/-- The number that digits write. -/
def decimalValue (digits : Octets) : Nat :=
  digits.foldl (fun value digit => value * 10 + Octet.digitValue digit) 0

/-- Digits as a number begins with them: there is one, and no zero stands before another one. -/
structure IsNatural (digits : Octets) : Prop where
  written : digits ≠ []
  digital : ∀ octet ∈ digits, Octet.isDigit octet = true
  leading : digits.head? = some Octet.zero → digits = [Octet.zero]

theorem decimalValue_append (digits : Octets) (digit : UInt8) :
    decimalValue (digits ++ [digit]) = decimalValue digits * 10 + Octet.digitValue digit := by
  rw [decimalValue, List.foldl_append]
  rfl

theorem digitOctet_digitValue {octet : UInt8} (digit : Octet.isDigit octet = true) :
    digitOctet (Octet.digitValue octet) = octet ∧ Octet.digitValue octet < 10 := by
  have bounds : 0x30 ≤ octet.toNat ∧ octet.toNat ≤ 0x39 := by
    simpa [Octet.isDigit, UInt8.le_iff_toNat_le] using digit
  have parts : 0x30 + (octet.toNat - 0x30) = octet.toNat := Nat.add_sub_cancel' bounds.1
  rw [digitOctet, Octet.digitValue, parts]
  exact ⟨UInt8.ofNat_toNat, by omega⟩

/-- Digits are the decimal form of the number that they write. -/
theorem ofText_repr_decimalValue {digits : Octets} (natural : IsNatural digits) :
    Octets.ofText (decimalValue digits).repr = digits := by
  induction digits using List.reverseRecOn with
  | nil => exact absurd rfl natural.written
  | append_singleton digits digit inductionHypothesis =>
    have last := natural.digital digit (List.mem_append_right _ List.mem_cons_self)
    obtain ⟨same, small⟩ := digitOctet_digitValue last
    rw [decimalValue_append]
    cases digits with
    | nil =>
      show Octets.ofText (0 * 10 + Octet.digitValue digit).repr = [digit]
      rw [Nat.zero_mul, Nat.zero_add, ofText_repr_of_lt small, same]
    | cons first others =>
      have apart : first ≠ Octet.zero := fun zero => by
        have alone := congrArg List.length (natural.leading (congrArg some zero))
        simp at alone
      have before : IsNatural (first :: others) :=
        ⟨nofun, fun octet member => natural.digital octet (List.mem_append_left _ member),
          fun zero => absurd (Option.some.inj zero) apart⟩
      have written := inductionHypothesis before
      have positive : decimalValue (first :: others) ≠ 0 := fun none => by
        rw [none] at written
        exact apart (List.cons.inj written).1.symm
      rw [ofText_repr_of_ge (by omega)]
      have parts : (decimalValue (first :: others) * 10 + Octet.digitValue digit) / 10 =
          decimalValue (first :: others) := by omega
      have rest : (decimalValue (first :: others) * 10 + Octet.digitValue digit) % 10 =
          Octet.digitValue digit := by omega
      rw [parts, rest, written, same]

/-! ### Whole numbers that are read -/

theorem significand_taken_le (start : Nat) (digits : Octets) :
    (significand start digits).2 ≤ digits.length := by
  induction digits generalizing start with
  | nil => exact Nat.le_refl 0
  | cons digit rest inductionHypothesis =>
    rw [significand]
    dsimp only
    split
    · exact Nat.succ_le_succ (inductionHypothesis _)
    · exact Nat.zero_le _

/-- Where all digits are taken, the significand is the number that they write. -/
theorem significand_of_taken {start : Nat} {digits : Octets}
    (taken : (significand start digits).2 = digits.length) :
    (significand start digits).1 =
      digits.foldl (fun value digit => value * 10 + Octet.digitValue digit) start := by
  induction digits generalizing start with
  | nil => rfl
  | cons digit rest inductionHypothesis =>
    rw [significand] at taken ⊢
    dsimp only at taken ⊢
    split at taken
    · rename_i fits
      rw [if_pos fits]
      exact inductionHypothesis (Nat.succ.inj taken)
    · cases taken

/-- A whole number is the one that its digits write, under its sign. -/
theorem integer_of_finishNumber {isPositive : Bool} {digits input rest : Octets} {value : Int}
    (finished : finishNumber isPositive digits input = .ok (.integer value, rest)) :
    rest = input ∧
      value = (if isPositive then (decimalValue digits : Int) else -decimalValue digits) ∧
      (isPositive = false → decimalValue digits ≠ 0) := by
  obtain ⟨rfl, same⟩ := finishNumber_integer finished
  have nothing : Unnumeric ([] : Octets) := rfl
  have alone := same [] nothing
  rw [finishNumber_of_unnumeric isPositive digits nothing] at alone
  dsimp only at alone
  split at alone
  · exact absurd alone (finishDecimal_ne_integer _ _ _ _ _ _)
  · rename_i kept
    have all : (significand 0 digits).2 = digits.length := by
      have most := significand_taken_le 0 digits
      have none : digits.length - (significand 0 digits).2 = 0 := by simpa using kept
      omega
    have written : (significand 0 digits).1 = decimalValue digits := significand_of_taken all
    rw [written] at alone
    cases isPositive with
    | true =>
      cases alone
      exact ⟨rfl, rfl, nofun⟩
    | false =>
      rw [if_neg Bool.false_ne_true] at alone
      split at alone
      · exact absurd alone (finishDecimal_ne_integer _ _ _ _ _ _)
      · rename_i room
        cases alone
        exact ⟨rfl, rfl, fun _ zero => room (by rw [zero]; rfl)⟩

theorem spanDigits_fst (input : Octets) :
    ∀ octet ∈ (spanDigits input).1, Octet.isDigit octet = true := by
  rw [spanDigits, List.span_eq_takeWhile_dropWhile]
  exact fun octet => List.mem_takeWhile_imp

/-- A whole number without its sign begins with the digits that write it. -/
theorem exists_digits_of_readNumber {isPositive : Bool} {input rest : Octets} {value : Int}
    (read : readNumber isPositive input = .ok (.integer value, rest)) :
    ∃ digits, input = digits ++ rest ∧ IsNatural digits ∧
      value = (if isPositive then (decimalValue digits : Int) else -decimalValue digits) ∧
      (isPositive = false → decimalValue digits ≠ 0) := by
  cases input with
  | nil => cases read
  | cons first left =>
    simp only [readNumber] at read
    split at read
    · cases read
    · rename_i digit
      replace digit : Octet.isDigit first = true := by simpa using digit
      split at read
      · rename_i zero
        split at read
        · cases read
        · obtain ⟨rfl, same, sign⟩ := integer_of_finishNumber read
          refine ⟨[first], rfl, ⟨List.cons_ne_nil _ _, by simpa using digit, fun _ => ?_⟩, same,
            sign⟩
          rw [beq_iff_eq.1 zero]
      · rename_i other
        obtain ⟨rfl, same, sign⟩ := integer_of_finishNumber read
        obtain ⟨behind, spans, parts, -⟩ := spanDigits_local left
        have later := spanDigits_fst left
        refine ⟨first :: (spanDigits left).1, ?_, ⟨List.cons_ne_nil _ _, ?_, ?_⟩, same, sign⟩
        · rw [spans]
          exact congrArg _ parts
        · exact List.forall_mem_cons.2 ⟨digit, later⟩
        · exact fun zero => absurd (beq_iff_eq.2 (Option.some.inj zero)) other

/-- A whole number that is read is written in its decimal form. -/
theorem ofText_of_number? {input rest : Octets} {value : Int}
    (read : number? input = some (.ok (.integer value, rest))) :
    input = Octets.ofText (toString value) ++ rest := by
  unfold number? at read
  split at read
  · obtain ⟨digits, rfl, natural, same, sign⟩ :=
      exists_digits_of_readNumber (Option.some.inj read)
    have positive := sign rfl
    rw [if_neg Bool.false_ne_true] at same
    have below : ¬0 ≤ value := by omega
    have magnitude : (-value).toNat = decimalValue digits := by omega
    rw [Int.toString_eq_repr, Int.repr_eq_if, if_neg below, magnitude, Octets.ofText_append,
      ofText_repr_decimalValue natural]
    rfl
  · split at read
    · obtain ⟨digits, parts, natural, rfl, -⟩ := exists_digits_of_readNumber (Option.some.inj read)
      rw [if_pos rfl, Int.toString_eq_repr, Int.repr_eq_if, if_pos (Int.natCast_nonneg _),
        Int.toNat_natCast, ofText_repr_decimalValue natural]
      exact parts
    · cases read
  · cases read

/-! ### Numbers that are written -/

/-- The digits of a number write it. -/
theorem decimalValue_repr (value : Nat) : decimalValue (Octets.ofText value.repr) = value := by
  induction value using Nat.strongRecOn with
  | ind value inductionHypothesis =>
    rcases Nat.lt_or_ge value 10 with single | more
    · rw [ofText_repr_of_lt single]
      show 0 * 10 + Octet.digitValue (digitOctet value) = value
      rw [(digitOctet_facts value single).2.2.1, Nat.zero_mul, Nat.zero_add]
    · rw [ofText_repr_of_ge more, decimalValue_append, inductionHypothesis _ (by omega),
        (digitOctet_facts (value % 10) (by omega)).2.2.1]
      omega

/-- A number as a text may write it, of any length. -/
structure Numeral where
  isPositive : Bool
  digits : Octets
  /-- The fraction and the exponent, as far as they are there. -/
  tail : Octets
  natural : IsNatural digits
  apart : ∀ octet ∈ tail.head?,
    octet = Octet.dot ∨ octet = Octet.smallE ∨ octet = Octet.capitalE

namespace Numeral

/-- The number as it is written. -/
def text (numeral : Numeral) : Octets :=
  (if numeral.isPositive then [] else [Octet.minus]) ++ numeral.digits ++ numeral.tail

/-- The whole number before the fraction and the exponent. -/
def whole (numeral : Numeral) : Int :=
  if numeral.isPositive then decimalValue numeral.digits else -decimalValue numeral.digits

/-- A number that is written with digits alone is the one that these write. -/
theorem of_text {numeral : Numeral} {value : Nat}
    (written : numeral.text = Octets.ofText (toString value)) :
    numeral.tail = [] ∧ numeral.whole = value := by
  have digital : ∀ octet ∈ numeral.text, Octet.isDigit octet = true := by
    rw [written]
    exact isDigit_of_mem_repr value
  have positive : numeral.isPositive = true := by
    refine Bool.of_not_eq_false fun negative => ?_
    have sign := digital Octet.minus (by rw [text, negative]; exact List.mem_cons_self)
    cases sign
  have short : numeral.tail = [] := by
    cases tail : numeral.tail with
    | nil => rfl
    | cons octet rest =>
      have among : octet ∈ numeral.text := by
        rw [text, tail]
        exact List.mem_append_right _ List.mem_cons_self
      have digit := digital octet among
      rcases numeral.apart octet (by rw [tail]; rfl) with rfl | rfl | rfl <;> cases digit
  rw [text, positive, if_pos rfl, short, List.nil_append, List.append_nil] at written
  refine ⟨short, ?_⟩
  rw [whole, positive, if_pos rfl, written]
  exact congrArg _ (decimalValue_repr value)

/-- A number begins with its sign or with a digit. -/
theorem exists_cons (numeral : Numeral) :
    ∃ octet rest, numeral.text = octet :: rest ∧
      (octet = Octet.minus ∨ Octet.isDigit octet = true) := by
  obtain ⟨isPositive, digits, tail, natural, apart⟩ := numeral
  cases isPositive with
  | false => exact ⟨_, _, rfl, .inl rfl⟩
  | true =>
    cases digits with
    | nil => exact absurd rfl natural.written
    | cons first others => exact ⟨_, _, rfl, .inr (natural.digital first List.mem_cons_self)⟩

end Numeral

end Json

end LatencyService
