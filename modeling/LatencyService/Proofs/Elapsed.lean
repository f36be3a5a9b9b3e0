/-
What the words on the time of an operation keep of it. The seconds go through
milliseconds and a narrower word, and come out as they went in. Their text is
read by taking off what stands around the number; that stops at the number,
which holds none of the letters that begin the opening or end the closing, and
the digits of a number are the digits of no other.
-/

import LatencyService.Operation.Elapsed
import LatencyService.Proofs.Addresses

namespace LatencyService

/-! ### Numbers in decimal digits -/

namespace Ascii

theorem numberOf_eq_ofDigitChars (digits : List Char) :
    ListenAddress.numberOf digits = Nat.ofDigitChars 10 digits 0 := by
  induction digits using List.reverseRecOn with
  | nil => rfl
  | append_singleton before last inductionHypothesis =>
    rw [Nat.ofDigitChars_append, ← inductionHypothesis, Nat.ofDigitChars_cons,
      Nat.ofDigitChars_nil, ListenAddress.numberOf, List.reverse_append, List.reverse_singleton,
      List.singleton_append, List.map_cons, Nat.ofDigits_cons, ← ListenAddress.numberOf]
    exact Nat.add_comm _ _

/-- The decimal form of a number writes it. -/
theorem writesNumber_toString (value : Nat) : WritesNumber (toString value).toList value := by
  rw [Nat.toString_eq_ofList_toDigits, String.toList_ofList]
  refine ⟨[], Nat.toDigits 10 value, rfl, .inl rfl, Nat.toDigits_ne_nil, fun digit member => ?_, ?_⟩
  · exact Char.isDigit_iff_toNat.1 (Nat.isDigit_of_mem_toDigits (by decide) (by decide) member)
  · rw [numberOf_eq_ofDigitChars, Nat.ofDigitChars_ten_toDigits]

namespace WritesNumber

variable {chars : List Char} {value : Nat}

theorem ne_nil (written : WritesNumber chars value) : chars ≠ [] := by
  obtain ⟨sign, digits, rfl, -, filled, -⟩ := written
  exact List.append_ne_nil_of_right_ne_nil sign filled

/-- There is no letter in a number. -/
theorem not_mem (written : WritesNumber chars value) (letter : Char) (above : '9' < letter) :
    letter ∉ chars := by
  obtain ⟨sign, digits, rfl, signed, -, decimal, -⟩ := written
  intro member
  rcases List.mem_append.1 member with inSign | inDigits
  · rcases signed with rfl | rfl
    · cases inSign
    · rw [List.mem_singleton.1 inSign] at above
      exact absurd above (by decide)
  · exact absurd (decimal letter inDigits).2 (Char.not_le.2 above)

end WritesNumber

end Ascii

/-! ### The text and its reader -/

namespace Elapsed

/-- A text tells a number of seconds: the number, with the opening before it and the closing behind
it any number of times. -/
def Tells (text : String) (seconds : UInt64) : Prop :=
  ∃ opened number closed,
    text.toList = (List.replicate opened opening.toList).flatten ++
      (number ++ (List.replicate closed closing.toList).flatten) ∧
    Ascii.WritesNumber number seconds.toNat

variable {number : List Char} {value : Nat}

/-- The opening is over where the number begins. -/
theorem not_opening_prefix (written : Ascii.WritesNumber number value) (behind : List Char) :
    ¬opening.toList <+: number ++ behind := by
  intro begins
  cases number with
  | nil => exact written.ne_nil rfl
  | cons first others =>
    have letter : 'T' = first := (List.cons_prefix_cons.1 begins).1
    exact written.not_mem 'T' (by decide) (letter ▸ List.mem_cons_self)

/-- The closing does not begin before the number ends. -/
theorem not_closing_suffix (written : Ascii.WritesNumber number value) :
    ¬closing.toList <:+ number := fun ends =>
  written.not_mem 's' (by decide) (ends.subset (by decide))

theorem read?_eq_some_iff {text : String} {seconds : UInt64} :
    read? text = some seconds ↔ Tells text seconds := by
  have openingFilled : opening.toList ≠ [] := by decide
  have closingFilled : closing.toList ≠ [] := by decide
  rw [read?, Option.map_eq_some_iff]
  constructor
  · rintro ⟨value, read, rfl⟩
    obtain ⟨written, small⟩ := Ascii.unsigned?_eq_some_iff.1 read
    obtain ⟨⟨opened, parts⟩, -⟩ := Affix.trimStart_spec openingFilled text.toList
    obtain ⟨⟨closed, rest⟩, -⟩ := (Affix.trimEnd_eq_iff closingFilled).1
      (Eq.refl (Affix.trimEnd closing.toList (Affix.trimStart opening.toList text.toList)))
    rw [rest] at parts
    refine ⟨opened, _, closed, parts, ?_⟩
    have kept : value.toUInt64.toNat = value := UInt64.toNat_ofNat_of_lt' small
    rw [kept]
    exact written
  · rintro ⟨opened, number, closed, parts, written⟩
    have opens : Affix.trimStart opening.toList text.toList =
        number ++ (List.replicate closed closing.toList).flatten :=
      (Affix.trimStart_eq_iff openingFilled).2 ⟨⟨opened, parts⟩, not_opening_prefix written _⟩
    have closes : Affix.trimEnd closing.toList
        (number ++ (List.replicate closed closing.toList).flatten) = number :=
      (Affix.trimEnd_eq_iff closingFilled).2 ⟨⟨closed, rfl⟩, not_closing_suffix written⟩
    refine ⟨seconds.toNat, ?_, UInt64.ofNat_toNat⟩
    rw [opens, closes]
    exact Ascii.unsigned?_eq_some_iff.2 ⟨written, seconds.toNat_lt⟩

theorem tells_message (seconds : UInt64) : Tells (message seconds) seconds := by
  have parts : message seconds = opening ++ toString seconds.toNat ++ closing := rfl
  refine ⟨1, (toString seconds.toNat).toList, 1, ?_, Ascii.writesNumber_toString seconds.toNat⟩
  rw [parts, String.toList_append, String.toList_append, List.append_assoc, List.replicate_one,
    List.replicate_one, List.flatten_singleton, List.flatten_singleton]

theorem read?_message (seconds : UInt64) : read? (message seconds) = some seconds :=
  read?_eq_some_iff.2 (tells_message seconds)

theorem message_injective : Function.Injective message := fun first second same => by
  have read := read?_message first
  rw [same, read?_message] at read
  exact (Option.some.inj read).symm

/-! ### The seconds are recovered -/

/-- For every span the way by milliseconds, which fit in twice sixty-four bits, ends at its own
seconds, cut off and not rounded, so that a longer span has no fewer of them. And whatever the number
of seconds, their text is read as that number: the reader takes exactly the texts that tell a number,
and no two numbers have the same text. -/
theorem seconds_recovered :
    (∀ span : Span,
      span.milliseconds = span.length / 1000000 ∧ span.milliseconds < Nat.pow 2 128 ∧
      span.milliseconds / 1000 < UInt64.size ∧
      span.wholeSeconds = span.seconds ∧
      span.wholeSeconds.toNat = span.length / 1000000000) ∧
    (∀ shorter longer : Span, shorter.length ≤ longer.length →
      shorter.wholeSeconds ≤ longer.wholeSeconds) ∧
    (∀ text seconds, read? text = some seconds ↔ Tells text seconds) ∧
    (∀ seconds, read? (message seconds) = some seconds) ∧
    Function.Injective message := by
  refine ⟨fun span => ?_, fun shorter longer => Span.wholeSeconds_le_of_length_le,
    fun text seconds => read?_eq_some_iff, read?_message, message_injective⟩
  have narrow : span.milliseconds / 1000 < UInt64.size := by
    rw [Span.milliseconds_div]
    exact span.seconds.toNat_lt
  exact ⟨span.milliseconds_eq_length_div, span.milliseconds_lt, narrow,
    span.wholeSeconds_eq_seconds, by rw [Span.wholeSeconds_eq_seconds, Span.seconds_eq_length_div]⟩

/-- A nanosecond short of a second, beside the longest span there is, and the text of the latter. -/
theorem seconds_recovered_at_greatest :
    (⟨0, 999999999, by decide⟩ : Span).length ≤
        (⟨0xffffffffffffffff, 999999999, by decide⟩ : Span).length ∧
      (⟨0, 999999999, by decide⟩ : Span).wholeSeconds = 0 ∧
      (⟨0xffffffffffffffff, 999999999, by decide⟩ : Span).wholeSeconds = 0xffffffffffffffff ∧
      (⟨0, 999999999, by decide⟩ : Span).wholeSeconds ≤
        (⟨0xffffffffffffffff, 999999999, by decide⟩ : Span).wholeSeconds ∧
      read? (message 0xffffffffffffffff) = some 0xffffffffffffffff := by
  obtain ⟨own, monotone, -, read, -⟩ := seconds_recovered
  exact ⟨by decide, (own _).2.2.2.1, (own _).2.2.2.1, monotone _ _ (by decide), read _⟩

end Elapsed

end LatencyService
