/-
What is written between the quotes of a JSON string is read as the text that it
was written for, and a whole number as the number; nothing behind them is
touched. So strings and numbers come back unchanged, whatever characters they
hold.
-/

import LatencyService.Json.Container
import LatencyService.Json.Printer
import Mathlib.Data.List.TakeDrop

namespace LatencyService

namespace Octets

/-! ### Texts in octets -/

theorem ofText_append (first second : String) :
    ofText (first ++ second) = ofText first ++ ofText second := by
  simp [ofText, String.toByteArray_append]

theorem ofText_ofList (chars : List Char) :
    ofText (String.ofList chars) = chars.flatMap String.utf8EncodeChar := by
  simp [ofText, List.utf8Encode]

theorem ofText_eq_flatMap (text : String) :
    ofText text = text.toList.flatMap String.utf8EncodeChar := by
  rw [← ofText_ofList, String.ofList_toList]

theorem utf8EncodeChar_ofNat {octet : UInt8} (ascii : octet.toNat < 0x80) :
    String.utf8EncodeChar (Char.ofNat octet.toNat) = [octet] := by
  have code : (Char.ofNat octet.toNat).val.toNat = octet.toNat := by
    rw [Char.ofNat, dif_pos (.inl (by omega))]
    rfl
  rw [String.utf8EncodeChar, code, if_pos (by omega), UInt8.ofNat_toNat]

end Octets

namespace Json

theorem skipBlanks_cons {octet : UInt8} (graphic : isBlank octet = false) (rest : Octets) :
    skipBlanks (octet :: rest) = octet :: rest := by
  rw [skipBlanks, List.dropWhile_cons_of_neg (by rw [graphic]; decide)]

theorem isBlank_of_isDigit {octet : UInt8} (digit : Octet.isDigit octet = true) :
    isBlank octet = false := by
  refine Bool.eq_false_iff.2 fun blank => ?_
  simp only [isBlank, Bool.or_eq_true, beq_iff_eq] at blank
  rcases blank with ((rfl | rfl) | rfl) | rfl <;> cases digit

/-! ### Strings -/

/-- An octet that stands for itself in a string. -/
def IsPlain (octet : UInt8) : Prop :=
  octet ≠ Octet.quote ∧ octet ≠ Octet.backslash ∧ ¬octet < 0x20

theorem isPlain_of_toNat {octet : UInt8} (quote : octet.toNat ≠ 0x22)
    (backslash : octet.toNat ≠ 0x5C) (graphic : 0x20 ≤ octet.toNat) : IsPlain octet := by
  refine ⟨fun same => quote (congrArg UInt8.toNat same),
    fun same => backslash (congrArg UInt8.toNat same), ?_⟩
  rw [UInt8.lt_iff_toNat_lt]
  exact Nat.not_lt.2 graphic

theorem scanString_plain {octet : UInt8} (plain : IsPlain octet) (rest done : Octets) :
    scanString (octet :: rest) done = scanString rest (octet :: done) := by
  obtain ⟨quote, backslash, control⟩ := plain
  rw [scanString.eq_def]
  simp only [beq_iff_eq, quote, backslash, control, if_false]

theorem scanString_plains {octets : Octets} (plain : ∀ octet ∈ octets, IsPlain octet)
    (rest done : Octets) :
    scanString (octets ++ rest) done = scanString rest (octets.reverse ++ done) := by
  induction octets generalizing done with
  | nil => rfl
  | cons octet others inductionHypothesis =>
    rw [List.cons_append, scanString_plain (plain octet List.mem_cons_self),
      inductionHypothesis fun other member => plain other (List.mem_cons_of_mem _ member),
      List.reverse_cons, List.append_assoc]
    rfl

/-- A character that is written as it is. -/
def IsOrdinary (char : Char) : Prop := char ≠ '"' ∧ char ≠ '\\' ∧ 0x20 ≤ char.toNat

theorem isPlain_of_isOrdinary {char : Char} (ordinary : IsOrdinary char) :
    ∀ octet ∈ String.utf8EncodeChar char, IsPlain octet := by
  obtain ⟨quote, backslash, graphic⟩ := ordinary
  have notQuote : char.val.toNat ≠ 0x22 := fun same => quote (Char.ext (UInt32.toNat_inj.1 same))
  have notBackslash : char.val.toNat ≠ 0x5C :=
    fun same => backslash (Char.ext (UInt32.toNat_inj.1 same))
  have beyond (offset code : Nat) (above : 0x80 ≤ offset) (below : offset + code < 0x100) :
      IsPlain (UInt8.ofNat (code + offset)) := by
    have value : (UInt8.ofNat (code + offset)).toNat = code + offset :=
      UInt8.toNat_ofNat_of_lt' (show _ < 256 by omega)
    exact isPlain_of_toNat (by omega) (by omega) (by omega)
  intro octet member
  unfold String.utf8EncodeChar at member
  change 0x20 ≤ char.val.toNat at graphic
  generalize char.val.toNat = code at *
  dsimp only at member
  split at member
  · obtain rfl := List.mem_singleton.1 member
    have value : (UInt8.ofNat code).toNat = code := UInt8.toNat_ofNat_of_lt' (show _ < 256 by omega)
    exact isPlain_of_toNat (by omega) (by omega) (by omega)
  split at member
  · simp only [List.mem_cons, List.not_mem_nil, or_false] at member
    rcases member with rfl | rfl <;> exact beyond _ _ (by omega) (by omega)
  split at member
  · simp only [List.mem_cons, List.not_mem_nil, or_false] at member
    rcases member with rfl | rfl | rfl <;> exact beyond _ _ (by omega) (by omega)
  · simp only [List.mem_cons, List.not_mem_nil, or_false] at member
    rcases member with rfl | rfl | rfl | rfl <;> exact beyond _ _ (by omega) (by omega)

/-- A character with a short form. -/
theorem scanString_short {letter plain : UInt8} (short : shortEscape? letter = some plain)
    (rest done : Octets) :
    scanString (Octet.backslash :: letter :: rest) done = scanString rest (plain :: done) := by
  rw [scanString.eq_def]
  simp only [short]
  rfl

/-- A character that is written by its number. -/
theorem scanString_unit {a b c d : UInt8} {unit : Nat} (number : hexUnit? a b c d = some unit)
    (whole : isTrailing unit = false) (single : isLeading unit = false) (rest done : Octets) :
    scanString (Octet.backslash :: Octet.smallU :: a :: b :: c :: d :: rest) done =
      scanString rest (pushCodePoint unit done) := by
  rw [scanString.eq_def]
  simp only [number, whole, single]
  rfl

theorem hexDigits_control : ∀ code < 0x20,
    hexUnit? Octet.zero Octet.zero
        (UInt8.ofNat (Ascii.hexDigit (code / 16)).toNat)
        (UInt8.ofNat (Ascii.hexDigit (code % 16)).toNat) = some code ∧
      String.utf8EncodeChar (Ascii.hexDigit (code / 16)) =
        [UInt8.ofNat (Ascii.hexDigit (code / 16)).toNat] ∧
      String.utf8EncodeChar (Ascii.hexDigit (code % 16)) =
        [UInt8.ofNat (Ascii.hexDigit (code % 16)).toNat] := by
  decide

/-- What a character is written as is read as the character. -/
theorem scanString_escape (char : Char) (rest done : Octets) :
    scanString ((escape char).flatMap String.utf8EncodeChar ++ rest) done =
      scanString rest ((String.utf8EncodeChar char).reverse ++ done) := by
  unfold escape
  split
  · exact scanString_short rfl rest done
  · exact scanString_short rfl rest done
  · exact scanString_short rfl rest done
  · exact scanString_short rfl rest done
  · exact scanString_short rfl rest done
  · exact scanString_short rfl rest done
  · exact scanString_short rfl rest done
  · rename_i quote backslash _ _ _ _ _
    split
    · rename_i control
      obtain ⟨number, first, second⟩ := hexDigits_control char.toNat control
      have same : Char.ofNat char.toNat = char := Char.ofNat_toNat char
      have whole : isTrailing char.toNat = false := by
        rw [isTrailing]
        simp
        omega
      have single : isLeading char.toNat = false := by
        rw [isLeading]
        simp
        omega
      have read := scanString_unit number whole single rest done
      rw [pushCodePoint, same] at read
      rw [← read]
      simp only [List.flatMap_cons, List.flatMap_nil, first, second]
      rfl
    · rename_i control
      have ordinary : IsOrdinary char := ⟨quote, backslash, Nat.not_lt.1 control⟩
      have plains := scanString_plains (isPlain_of_isOrdinary ordinary) rest done
      simpa using plains

/-- What a text is written as between quotes is read as its octets. -/
theorem scanString_quoted (chars : List Char) (rest done : Octets) :
    scanString ((chars.flatMap escape).flatMap String.utf8EncodeChar ++ Octet.quote :: rest) done =
      .ok ((chars.flatMap String.utf8EncodeChar).reverse ++ done, rest) := by
  induction chars generalizing done with
  | nil =>
    rw [scanString.eq_def]
    rfl
  | cons char others inductionHypothesis =>
    rw [List.flatMap_cons, List.flatMap_append, List.append_assoc, scanString_escape,
      inductionHypothesis, List.flatMap_cons, List.reverse_append, List.append_assoc]

/-- A written string, from its opening quote on. -/
theorem ofText_quote (text : String) :
    Octets.ofText (quote text) =
      Octet.quote ::
        ((text.toList.flatMap escape).flatMap String.utf8EncodeChar ++ [Octet.quote]) := by
  rw [quote, Octets.ofText_ofList, List.flatMap_cons, List.flatMap_append]
  rfl

/-- A string comes back as it was written. -/
theorem readString_quote (text : String) (rest : Octets) :
    ∃ written, Octets.ofText (quote text) = Octet.quote :: written ∧
      readString (written ++ rest) = .ok (text, rest) := by
  refine ⟨_, ofText_quote text, ?_⟩
  rw [readString, List.append_assoc]
  have scanned := scanString_quoted text.toList rest []
  rw [List.append_nil] at scanned
  simp only [List.cons_append, List.nil_append, scanned]
  rw [List.reverse_reverse, ← Octets.ofText_eq_flatMap, Octets.toText?_ofText]

/-! ### Whole numbers -/

/-- What may follow a value that was written: nothing, or the end of the value or of its
container. -/
def Ends (rest : Octets) : Prop :=
  ∀ octet ∈ rest.head?,
    octet = Octet.comma ∨ octet = Octet.closeBracket ∨ octet = Octet.closeBrace

theorem ends_nil : Ends [] := fun _ member => nomatch member

theorem ends_cons {octet : UInt8} {rest : Octets}
    (ends : octet = Octet.comma ∨ octet = Octet.closeBracket ∨ octet = Octet.closeBrace) :
    Ends (octet :: rest) := fun _ member => Option.some.inj member ▸ ends

/-- What ends a value is none of the octets that it goes on with. -/
theorem Ends.head {rest : Octets} (ends : Ends rest) (avoided : UInt8 → Bool)
    (marks : [Octet.comma, Octet.closeBracket, Octet.closeBrace].any avoided = false) :
    rest.head?.any avoided = false := by
  rw [Option.any_eq_false]
  intro octet member
  have apart : avoided Octet.comma = false ∧ avoided Octet.closeBracket = false ∧
      avoided Octet.closeBrace = false := by
    simpa using marks
  rcases ends octet member with rfl | rfl | rfl
  · exact apart.1
  · exact apart.2.1
  · exact apart.2.2

/-- Digits before such an end are all the digits there are. -/
theorem spanDigits_append {digits rest : Octets}
    (all : ∀ octet ∈ digits, Octet.isDigit octet = true) (ends : Ends rest) :
    spanDigits (digits ++ rest) = (digits, rest) := by
  have others := ends.head Octet.isDigit rfl
  rw [spanDigits, List.span_eq_takeWhile_dropWhile, List.takeWhile_append_of_pos all,
    List.dropWhile_append_of_pos all]
  cases rest with
  | nil => rw [List.takeWhile_nil, List.dropWhile_nil, List.append_nil]
  | cons octet later =>
    have last : ¬Octet.isDigit octet := Bool.eq_false_iff.1 others
    rw [List.takeWhile_cons_of_neg last, List.dropWhile_cons_of_neg last, List.append_nil]

/-- The octet of a digit. -/
def digitOctet (digit : Nat) : UInt8 := UInt8.ofNat (0x30 + digit)

theorem digitOctet_facts : ∀ digit < 10,
    Octets.ofText (String.singleton digit.digitChar) = [digitOctet digit] ∧
      Octet.isDigit (digitOctet digit) = true ∧ Octet.digitValue (digitOctet digit) = digit ∧
      (digitOctet digit = Octet.zero → digit = 0) := by
  decide

theorem ofText_repr_of_lt {value : Nat} (single : value < 10) :
    Octets.ofText value.repr = [digitOctet value] := by
  rw [Nat.repr_of_lt single]
  exact (digitOctet_facts value single).1

theorem ofText_repr_of_ge {value : Nat} (more : 10 ≤ value) :
    Octets.ofText value.repr =
      Octets.ofText (value / 10).repr ++ [digitOctet (value % 10)] := by
  rw [Nat.repr_of_ge more, Octets.ofText_append]
  exact congrArg _ (digitOctet_facts (value % 10) (Nat.mod_lt value (by decide))).1

theorem isDigit_of_mem_repr (value : Nat) :
    ∀ octet ∈ Octets.ofText value.repr, Octet.isDigit octet = true := by
  induction value using Nat.strongRecOn with
  | ind value inductionHypothesis =>
    rcases Nat.lt_or_ge value 10 with single | more
    · rw [ofText_repr_of_lt single]
      intro octet member
      rw [List.mem_singleton.1 member]
      exact (digitOctet_facts value single).2.1
    · rw [ofText_repr_of_ge more]
      intro octet member
      rcases List.mem_append.1 member with before | last
      · exact inductionHypothesis (value / 10) (by omega) octet before
      · rw [List.mem_singleton.1 last]
        exact (digitOctet_facts (value % 10) (by omega)).2.1

/-- Only zero begins with a zero. -/
theorem ofText_repr_eq_cons (value : Nat) :
    ∃ first others, Octets.ofText value.repr = first :: others ∧
      (first = Octet.zero → value = 0) := by
  induction value using Nat.strongRecOn with
  | ind value inductionHypothesis =>
    rcases Nat.lt_or_ge value 10 with single | more
    · exact ⟨_, [], ofText_repr_of_lt single, (digitOctet_facts value single).2.2.2⟩
    · obtain ⟨first, others, parts, zero⟩ := inductionHypothesis (value / 10) (by omega)
      refine ⟨first, others ++ [digitOctet (value % 10)], ?_, fun isZero => ?_⟩
      · rw [ofText_repr_of_ge more, parts, List.cons_append]
      · have none : value / 10 = 0 := zero isZero
        omega

/-- One digit more is taken while there is room for it. -/
theorem significand_append {start value : Nat} {digits : Octets} {digit : UInt8}
    (taken : significand start digits = (value, digits.length))
    (room : value * 10 + Octet.digitValue digit ≤ maxNatural) :
    significand start (digits ++ [digit]) =
      (value * 10 + Octet.digitValue digit, digits.length + 1) := by
  induction digits generalizing start with
  | nil =>
    obtain ⟨rfl, -⟩ := Prod.mk.inj taken
    rw [List.nil_append, significand, significand]
    exact if_pos room
  | cons other rest inductionHypothesis =>
    rw [significand] at taken
    dsimp only at taken
    split at taken
    · rename_i fits
      obtain ⟨same, count⟩ := Prod.mk.inj taken
      have before : significand (start * 10 + Octet.digitValue other) rest = (value, rest.length) :=
        Prod.ext same (Nat.succ.inj count)
      rw [List.cons_append, significand]
      dsimp only
      rw [if_pos fits, inductionHypothesis before]
      rfl
    · cases (Prod.mk.inj taken).2

theorem significand_repr {value : Nat} (small : value ≤ maxNatural) :
    significand 0 (Octets.ofText value.repr) = (value, (Octets.ofText value.repr).length) := by
  induction value using Nat.strongRecOn with
  | ind value inductionHypothesis =>
    rcases Nat.lt_or_ge value 10 with single | more
    · have facts := digitOctet_facts value single
      rw [ofText_repr_of_lt single, significand, significand, facts.2.2.1]
      dsimp only
      rw [Nat.zero_mul, Nat.zero_add, if_pos small]
      rfl
    · have facts := digitOctet_facts (value % 10) (by omega)
      have before := inductionHypothesis (value / 10) (by omega) (by omega)
      have parts : value / 10 * 10 + Octet.digitValue (digitOctet (value % 10)) = value := by
        rw [facts.2.2.1]
        omega
      have last := significand_append before (by rw [parts]; exact small)
      rw [ofText_repr_of_ge more, last, parts, List.length_append]
      rfl

/-- The digits of a number without a sign, and what follows them. -/
theorem readNumber_repr (isPositive : Bool) (value : Nat) {rest : Octets} (ends : Ends rest) :
    readNumber isPositive (Octets.ofText value.repr ++ rest) =
      finishNumber isPositive (Octets.ofText value.repr) rest := by
  obtain ⟨first, others, parts, zero⟩ := ofText_repr_eq_cons value
  have digits := isDigit_of_mem_repr value
  rw [parts] at digits ⊢
  have leading := digits first List.mem_cons_self
  rw [List.cons_append, readNumber]
  dsimp only
  rw [leading]
  by_cases isZero : first = Octet.zero
  · have alone : first :: others = [Octet.zero] := by
      rw [← parts, zero isZero]
      rfl
    rw [(List.cons.inj alone).2, List.nil_append, ends.head Octet.isDigit rfl, isZero]
    rfl
  · have apart : (first == Octet.zero) = false := beq_eq_false_iff_ne.2 isZero
    rw [apart, spanDigits_append (fun octet member => digits octet (List.mem_cons_of_mem _ member))
      ends]
    rfl

/-- A whole number is finished where it ends. -/
theorem finishNumber_repr (isPositive : Bool) {value : Nat} (small : value ≤ maxNatural)
    {rest : Octets} (ends : Ends rest) :
    finishNumber isPositive (Octets.ofText value.repr) rest =
      if isPositive then .ok (.integer value, rest)
      else if value == 0 || value > 0x8000000000000000 then finishDecimal false value 0 rest
      else .ok (.integer (-value), rest) := by
  have octets := ends.head (fun octet =>
    octet == Octet.dot || octet == Octet.smallE || octet == Octet.capitalE) rfl
  rw [finishNumber, significand_repr small]
  dsimp only
  rw [Nat.sub_self]
  split
  · cases octets
  · cases octets
  · cases octets
  · rfl

/-- A whole number of sixty-four bits comes back as it was written. -/
theorem number?_repr {value : Int} (low : -0x8000000000000000 ≤ value)
    (high : value ≤ 0xFFFFFFFFFFFFFFFF) {rest : Octets} (ends : Ends rest) :
    number? (Octets.ofText (toString value) ++ rest) = some (.ok (.integer value, rest)) := by
  rw [Int.toString_eq_repr, Int.repr_eq_if]
  split
  · rename_i natural
    obtain ⟨count, rfl⟩ := Int.eq_ofNat_of_zero_le natural
    have small : count ≤ maxNatural := by
      unfold maxNatural
      omega
    have read := (readNumber_repr true count ends).trans (finishNumber_repr true small ends)
    rw [Int.toNat_natCast]
    obtain ⟨first, others, parts, -⟩ := ofText_repr_eq_cons count
    have leading : Octet.isDigit first = true :=
      isDigit_of_mem_repr count first (parts ▸ List.mem_cons_self)
    rw [parts] at read ⊢
    rw [List.cons_append] at read ⊢
    unfold number?
    split
    · rename_i same
      rw [(List.cons.inj same).1] at leading
      cases leading
    · rename_i same
      obtain ⟨rfl, rfl⟩ := List.cons.inj same
      rw [if_pos leading, read]
      rfl
    · rename_i none
      cases none
  · rename_i negative
    obtain ⟨count, magnitude⟩ := Int.eq_ofNat_of_zero_le (show 0 ≤ -value by omega)
    have small : count ≤ maxNatural := by
      unfold maxNatural
      omega
    have read := (readNumber_repr false count ends).trans (finishNumber_repr false small ends)
    have room : (count == 0 || decide (count > 0x8000000000000000)) = false := by
      simp
      omega
    have sign : -(count : Int) = value := by omega
    rw [magnitude, Int.toNat_natCast, Octets.ofText_append]
    rw [room, sign] at read
    exact congrArg some read

end Json

end LatencyService
