/-
How far a value reaches in a text. Whatever is read as a value of some type is
passed over, where nobody asks for it, up to the same place; so the two readers
never disagree about where the next part begins. Passing over is a loop over
the containers that are open, and this file says of each value that the loop
comes from its beginning to its end in a number of steps that the length of the
value bounds, whatever containers are open around it.
-/

import LatencyService.Proofs.Spelling
import LatencyService.Schema.Record
import Mathlib.Data.List.DropRight

namespace LatencyService

namespace Json

/-! ### Scalars -/

theorem length_readWord {word input rest : Octets} (read : readWord word input = .ok rest) :
    rest.length ≤ input.length := by
  induction word generalizing input with
  | nil =>
    cases read
    exact Nat.le_refl _
  | cons expected word inductionHypothesis =>
    cases input with
    | nil => cases read
    | cons octet input =>
      rw [readWord] at read
      split at read
      · exact Nat.le_succ_of_le (inductionHypothesis read)
      · cases read

theorem length_skipString {input rest : Octets} (skipped : skipString input = .ok rest) :
    rest.length ≤ input.length := by
  fun_induction skipString input <;> simp_all <;> omega

section Strings

variable {octet letter : UInt8} {rest : Octets}

theorem skipString_short {plain : UInt8} (escape : shortEscape? letter = some plain) :
    skipString (Octet.backslash :: letter :: rest) = skipString rest := by
  rw [skipString.eq_def]
  dsimp only
  rw [if_neg (by decide), if_pos (by decide), escape, if_pos (by rfl)]

theorem skipString_unit {a b c d : UInt8} {unit : Nat} (read : hexUnit? a b c d = some unit) :
    skipString (Octet.backslash :: Octet.smallU :: a :: b :: c :: d :: rest) =
      skipString rest := by
  rw [skipString, if_neg (by decide), if_pos (by decide), if_neg (by decide),
    if_neg (by decide), read, if_pos (by rfl)]

theorem skipString_plain (inner : octet ≠ Octet.quote) (plain : octet ≠ Octet.backslash)
    (graphic : ¬octet < 0x20) : skipString (octet :: rest) = skipString rest := by
  rw [skipString.eq_def]
  dsimp only
  rw [if_neg (by simpa using inner), if_neg (by simpa using plain), if_neg graphic]

/-- A string is passed over as it is read; a pair of units is passed over as two escapes. -/
theorem skipString_of_scanString {input done text : Octets}
    (read : scanString input done = .ok (text, rest)) : skipString input = .ok rest := by
  fun_induction scanString input done <;> try (cases read; done)
  case case2 closes =>
    cases read
    rw [skipString.eq_def]
    exact if_pos closes
  case case4 escapes _ _ _ escape inductionHypothesis =>
    rw [beq_iff_eq.1 escapes, skipString_short escape]
    exact inductionHypothesis read
  case case8 escapes _ _ unit _ _ _ _ _ _ read_unit _ _ inductionHypothesis =>
    obtain rfl : _ = Octet.smallU := by simpa using unit
    rw [beq_iff_eq.1 escapes, skipString_unit read_unit]
    exact inductionHypothesis read
  case case15 escapes _ _ unit _ _ _ _ _ first _ _ _ again _ unitAgain _ _ _ _ _ _ second _
      inductionHypothesis =>
    obtain rfl : _ = Octet.smallU := by simpa using unit
    obtain rfl : _ = Octet.backslash := by simpa using again
    obtain rfl : _ = Octet.smallU := by simpa using unitAgain
    rw [beq_iff_eq.1 escapes, skipString_unit first, skipString_unit second]
    exact inductionHypothesis read
  case case19 inner plain graphic inductionHypothesis =>
    rw [skipString_plain (by simpa using inner) (by simpa using plain) graphic]
    exact inductionHypothesis read

end Strings

section Numbers

variable {isPositive : Bool} {value : Nat} {exponent : Int} {digits input rest : Octets}
  {number : Number}

theorem spanDigits_snd (input : Octets) :
    (spanDigits input).2 = input.dropWhile Octet.isDigit := by
  rw [spanDigits, List.span_eq_takeWhile_dropWhile]

theorem length_spanDigits (input : Octets) : (spanDigits input).2.length ≤ input.length := by
  rw [spanDigits_snd]
  exact (List.dropWhile_sublist _).length_le

theorem rest_of_finishDecimal (finished : finishDecimal isPositive value exponent input =
    .ok (number, rest)) : rest = input := by
  rw [finishDecimal] at finished
  split at finished
  · cases finished
  · cases finished
    rfl

/-- The digits of an exponent end where they end, also when they are too many. -/
theorem rest_of_readExponent (value : Nat) (input : Octets) :
    (∀ power rest, readExponent value input = .ok (power, rest) →
        rest = (spanDigits input).2) ∧
      ∀ rest, readExponent value input = .error rest →
        (spanDigits rest).2 = (spanDigits input).2 := by
  induction input generalizing value with
  | nil => exact ⟨by rintro power rest ⟨⟩; rfl, fun _ => nofun⟩
  | cons octet input inductionHypothesis =>
    rw [spanDigits_snd, readExponent]
    by_cases digit : Octet.isDigit octet = true
    · rw [if_pos digit, List.dropWhile_cons_of_pos digit, ← spanDigits_snd]
      dsimp only
      split
      · exact inductionHypothesis _
      · exact ⟨fun _ _ => nofun, by rintro rest ⟨⟩; rfl⟩
    · rw [if_neg digit, List.dropWhile_cons_of_neg digit]
      exact ⟨by rintro power rest ⟨⟩; rfl, fun _ => nofun⟩

theorem skipExponent_of_finishExponent
    (finished : finishExponent isPositive value exponent input = .ok (number, rest)) :
    skipExponent input = .ok rest := by
  rw [skipExponent]
  unfold finishExponent at finished
  dsimp only at finished
  cases unsigned : (readSign input).2 with
  | nil =>
    rw [unsigned] at finished
    cases finished
  | cons octet left =>
    have known := rest_of_readExponent (Octet.digitValue octet) left
    rw [unsigned] at finished
    dsimp only at finished
    split at finished
    · cases finished
    · rename_i digit
      dsimp only
      rw [if_pos (by simpa using digit)]
      split at finished
      · rename_i taken
        rw [rest_of_finishDecimal finished, known.1 _ _ taken]
      · rename_i taken
        split at finished
        · cases finished
        · cases finished
          rw [known.2 _ taken]

theorem skipFraction_of_finishNumber
    (finished : finishNumber isPositive digits input = .ok (number, rest)) :
    skipFraction input = .ok rest := by
  unfold finishNumber at finished
  dsimp only at finished
  split at finished
  · rename_i behind
    split at finished
    · cases finished
    · rename_i written
      have either : (∃ tail, (spanDigits behind).2 = Octet.smallE :: tail ∧
            skipExponent tail = .ok rest) ∨
          (∃ tail, (spanDigits behind).2 = Octet.capitalE :: tail ∧
            skipExponent tail = .ok rest) ∨
          (∀ tail, (spanDigits behind).2 ≠ Octet.smallE :: tail) ∧
            (∀ tail, (spanDigits behind).2 ≠ Octet.capitalE :: tail) ∧
            rest = (spanDigits behind).2 := by
        split at finished
        · rename_i parts
          exact .inl ⟨_, parts, skipExponent_of_finishExponent finished⟩
        · rename_i parts
          exact .inr (.inl ⟨_, parts, skipExponent_of_finishExponent finished⟩)
        · rename_i small capital
          exact .inr (.inr ⟨small, capital, rest_of_finishDecimal finished⟩)
      rw [skipFraction]
      dsimp only
      rw [if_neg written]
      rcases either with ⟨tail, parts, skipped⟩ | ⟨tail, parts, skipped⟩ | ⟨small, capital, same⟩
      · rw [parts]
        exact skipped
      · rw [parts]
        exact skipped
      · rw [same]
        split
        · rename_i parts
          exact (small _ parts).elim
        · rename_i parts
          exact (capital _ parts).elim
        · rfl
  · exact skipExponent_of_finishExponent finished
  · exact skipExponent_of_finishExponent finished
  · rename_i dot small capital
    have same : rest = input := by
      split at finished
      · exact rest_of_finishDecimal finished
      · split at finished
        · cases finished
          rfl
        · split at finished
          · exact rest_of_finishDecimal finished
          · cases finished
            rfl
    rw [same]
    unfold skipFraction
    split
    · exact (dot _ rfl).elim
    · exact (small _ rfl).elim
    · exact (capital _ rfl).elim
    · rfl

theorem skipNumber_of_readNumber (read : readNumber isPositive input = .ok (number, rest)) :
    skipNumber input = .ok rest := by
  cases input with
  | nil => cases read
  | cons first input =>
    rw [readNumber] at read
    rw [skipNumber]
    split at read
    · cases read
    · rename_i digit
      rw [if_neg digit]
      split at read
      · rename_i zero
        rw [if_pos zero]
        split at read
        · cases read
        · rename_i alone
          rw [if_neg alone]
          exact skipFraction_of_finishNumber read
      · rename_i other
        rw [if_neg other]
        exact skipFraction_of_finishNumber read

/-- A number is passed over as it is read. -/
theorem skipScalar?_of_number? (read : number? input = some (.ok (number, rest))) :
    skipScalar? input = some (.ok rest) := by
  unfold number? at read
  split at read
  · exact congrArg some (skipNumber_of_readNumber (Option.some.inj read))
  · rename_i first others _
    split at read
    · rename_i digit
      have skipped := skipNumber_of_readNumber (Option.some.inj read)
      unfold skipScalar?
      split
      · rename_i same
        rw [(List.cons.inj same).1] at digit
        cases digit
      · rename_i same
        rw [(List.cons.inj same).1] at digit
        cases digit
      · rename_i same
        rw [(List.cons.inj same).1] at digit
        cases digit
      · rename_i same
        rw [(List.cons.inj same).1] at digit
        cases digit
      · rename_i same
        rw [(List.cons.inj same).1] at digit
        cases digit
      · rename_i same
        obtain ⟨rfl, rfl⟩ := List.cons.inj same
        rw [if_pos digit, skipped]
      · rename_i same
        cases same
    · cases read
  · cases read

theorem length_skipExponent (skipped : skipExponent input = .ok rest) :
    rest.length ≤ input.length := by
  have signed : (readSign input).2.length ≤ input.length := by
    unfold readSign
    split <;> simp
  rw [skipExponent] at skipped
  split at skipped
  · cases skipped
  · rename_i octet left same
    split at skipped
    · cases skipped
      have shorter := length_spanDigits left
      rw [same, List.length_cons] at signed
      omega
    · cases skipped

theorem length_skipFraction (skipped : skipFraction input = .ok rest) :
    rest.length ≤ input.length := by
  unfold skipFraction at skipped
  split at skipped
  · rename_i behind
    have shorter := length_spanDigits behind
    dsimp only at skipped
    split at skipped
    · cases skipped
    · split at skipped
      · rename_i same
        have left := length_skipExponent skipped
        rw [same, List.length_cons] at shorter
        rw [List.length_cons]
        omega
      · rename_i same
        have left := length_skipExponent skipped
        rw [same, List.length_cons] at shorter
        rw [List.length_cons]
        omega
      · cases skipped
        exact Nat.le_succ_of_le shorter
  · exact Nat.le_succ_of_le (length_skipExponent skipped)
  · exact Nat.le_succ_of_le (length_skipExponent skipped)
  · cases skipped
    exact Nat.le_refl _

theorem length_skipNumber (skipped : skipNumber input = .ok rest) :
    rest.length < input.length := by
  cases input with
  | nil => cases skipped
  | cons first input =>
    rw [skipNumber] at skipped
    split at skipped
    · cases skipped
    · split at skipped
      · split at skipped
        · cases skipped
        · exact Nat.lt_succ_of_le (length_skipFraction skipped)
      · have shorter := length_spanDigits input
        have left := length_skipFraction skipped
        rw [List.length_cons]
        omega

end Numbers

/-- A scalar is no shorter than an octet. -/
theorem length_skipScalar? {input rest : Octets} (skipped : skipScalar? input = some (.ok rest)) :
    rest.length < input.length := by
  unfold skipScalar? at skipped
  split at skipped
  · exact Nat.lt_succ_of_le (length_readWord (Option.some.inj skipped))
  · exact Nat.lt_succ_of_le (length_readWord (Option.some.inj skipped))
  · exact Nat.lt_succ_of_le (length_readWord (Option.some.inj skipped))
  · exact Nat.lt_succ_of_le (length_skipString (Option.some.inj skipped))
  · exact Nat.lt_succ_of_lt (length_skipNumber (Option.some.inj skipped))
  · split at skipped
    · exact length_skipNumber (Option.some.inj skipped)
    · cases skipped
  · cases skipped

/-! ### Values -/

/-- The loop comes from here to the end of the innermost containers that are given, whatever is open
around them. It takes two steps for an octet at most, and some spare ones. -/
def Passes (spare : Nat) (expectation : Expectation) (frames : List Frame) (input rest : Octets) :
    Prop :=
  ∃ steps, steps + 1 + 2 * rest.length ≤ 2 * input.length + spare ∧
    ∀ fuel outer, skipOpen (fuel + (steps + 1)) expectation (frames ++ outer) input =
      skipOpen fuel .next outer rest

section Loop

variable {spare : Nat} {expectation : Expectation} {frames : List Frame}
  {input rest ending : Octets}

theorem length_skipBlanks (input : Octets) : (skipBlanks input).length ≤ input.length :=
  (List.dropWhile_sublist _).length_le

theorem skipBlanks_skipBlanks (input : Octets) : skipBlanks (skipBlanks input) = skipBlanks input :=
  List.dropWhile_idempotent isBlank input

/-- A value that the loop comes through is passed over. -/
theorem Passes.skipValue (passes : Passes 0 .value [] input rest) :
    skipValue input = .ok rest := by
  obtain ⟨steps, enough, comes⟩ := passes
  have parts : 2 * input.length + 2 = (2 * input.length - steps) + 1 + (steps + 1) := by omega
  have through := comes ((2 * input.length - steps) + 1) []
  rw [List.append_nil] at through
  rw [Json.skipValue, parts, through]
  rfl

/-- Blanks before a value do not count. -/
theorem Passes.of_skipBlanks (passes : Passes 0 .value [] (skipBlanks input) rest) :
    Passes 0 .value [] input rest := by
  obtain ⟨steps, enough, comes⟩ := passes
  have shorter := length_skipBlanks input
  refine ⟨steps, by omega, fun fuel outer => ?_⟩
  rw [← comes, ← Nat.add_assoc, skipOpen, skipOpen, skipBlanks_skipBlanks]

/-- The loop comes through a scalar in one step. -/
theorem passes_scalar (skipped : skipScalar? input = some (.ok rest))
    (graphic : skipBlanks input = input) : Passes 0 .value [] input rest := by
  have shorter := length_skipScalar? skipped
  refine ⟨0, by omega, fun fuel outer => ?_⟩
  rw [List.nil_append, skipOpen, graphic, skipped]

/-- The loop comes through a list whose items it comes through. -/
theorem Passes.list (passes : Passes 1 .first [.list] input rest) :
    Passes 0 .value [] (Octet.openBracket :: input) rest := by
  obtain ⟨steps, enough, comes⟩ := passes
  refine ⟨steps + 1, by rw [List.length_cons]; omega, fun fuel outer => ?_⟩
  rw [← comes]
  rfl

theorem Passes.table (passes : Passes 1 .first [.table] input rest) :
    Passes 0 .value [] (Octet.openBrace :: input) rest := by
  obtain ⟨steps, enough, comes⟩ := passes
  refine ⟨steps + 1, by rw [List.length_cons]; omega, fun fuel outer => ?_⟩
  rw [← comes]
  rfl

/-- What the loop expects where the first part of a container stands, or a later one. -/
def expectationOf (isFirst : Bool) : Expectation := if isFirst then .first else .next

/-- Where an item stands: at the next octet, or behind a comma. -/
theorem nextItem?_some {isFirst : Bool} {value : Octets}
    (next : nextItem? isFirst input = .ok (some value)) :
    (isFirst = true ∧ ∃ octet rest, value = octet :: rest ∧ skipBlanks input = octet :: rest ∧
        (octet == Octet.closeBracket) = false) ∨
      isFirst = false ∧ ∃ rest, skipBlanks input = Octet.comma :: rest ∧
        skipBlanks rest = value := by
  rw [nextItem?] at next
  split at next
  · cases next
  · rename_i octet behind at_octet
    split at next
    · cases next
    · rename_i other
      split at next
      · rename_i first
        cases next
        exact .inl ⟨first, octet, behind, rfl, at_octet, Bool.eq_false_iff.2 other⟩
      · rename_i later
        split at next
        · cases next
        · rename_i comma
          obtain rfl : octet = Octet.comma := by simpa using comma
          split at next
          · cases next
          · rename_i at_value
            split at next
            · cases next
            · cases next
              exact .inr ⟨by simpa using later, behind, at_octet, at_value⟩

/-- Where a key stands, and where the text behind it. -/
theorem nextKey?_some {isFirst : Bool} {key : String}
    (next : nextKey? isFirst input = .ok (some (key, rest))) :
    ∃ text, readString text = .ok (key, rest) ∧
      (isFirst = true ∧ skipBlanks input = Octet.quote :: text ∨
        isFirst = false ∧ ∃ behind, skipBlanks input = Octet.comma :: behind ∧
          skipBlanks behind = Octet.quote :: text) := by
  unfold nextKey? at next
  dsimp only at next
  split at next
  · cases next
  · rename_i octet behind at_octet
    split at next
    · cases next
    · split at next
      · rename_i first
        split at next
        · rename_i quote
          rw [beq_iff_eq.1 quote] at at_octet
          split at next
          · rename_i read
            cases next
            exact ⟨behind, read, .inl ⟨first, at_octet⟩⟩
          · cases next
        · cases next
      · rename_i later
        split at next
        · cases next
        · rename_i comma
          obtain rfl : octet = Octet.comma := by simpa using comma
          split at next
          · cases next
          · rename_i at_key
            split at next
            · rename_i quote
              rw [beq_iff_eq.1 quote] at at_key
              split at next
              · rename_i read
                cases next
                exact ⟨_, read, .inr ⟨by simpa using later, behind, at_octet, at_key⟩⟩
              · cases next
            · split at next
              · cases next
              · cases next

theorem readColon_ok {value : Octets} (read : readColon input = .ok value) :
    skipBlanks input = Octet.colon :: value := by
  rw [readColon] at read
  split at read
  · cases read
  · rename_i at_octet
    split at read
    · rename_i colon
      cases read
      rw [at_octet, beq_iff_eq.1 colon]
    · cases read

theorem skipString_of_readString {text : Octets} {string : String}
    (read : readString text = .ok (string, rest)) : skipString text = .ok rest := by
  rw [readString] at read
  split at read
  · cases read
  · rename_i scanned
    split at read
    · cases read
      exact skipString_of_scanString scanned
    · cases read

/-- A key and its colon are passed over as they are read. -/
theorem skipKey_of_read {text behind value : Octets} {key : String}
    (at_key : skipBlanks behind = Octet.quote :: text)
    (read : readString text = .ok (key, rest)) (colon : readColon rest = .ok value) :
    skipKey behind = .ok value := by
  rw [skipKey, at_key]
  dsimp only
  rw [if_neg (by decide), skipString_of_readString read]
  dsimp only
  rw [readColon_ok colon]
  exact if_pos (beq_self_eq_true _)

section Steps

variable {fuel : Nat} {outer : List Frame} {octet : UInt8} {text value : Octets}

theorem skipOpen_first_item (at_value : skipBlanks input = octet :: rest)
    (inner : (octet == Octet.closeBracket) = false) :
    skipOpen (fuel + 1) .first (.list :: outer) input =
      skipOpen fuel .value (.list :: outer) (octet :: rest) := by
  rw [skipOpen, at_value]
  exact if_neg (Bool.eq_false_iff.1 inner)

theorem skipOpen_next_item (at_comma : skipBlanks input = Octet.comma :: rest) :
    skipOpen (fuel + 1) .next (.list :: outer) input =
      skipOpen fuel .value (.list :: outer) rest := by
  rw [skipOpen, at_comma]
  rfl

theorem skipOpen_first_entry (at_key : skipBlanks input = Octet.quote :: text)
    (key : skipKey (Octet.quote :: text) = .ok value) :
    skipOpen (fuel + 1) .first (.table :: outer) input =
      skipOpen fuel .value (.table :: outer) value := by
  rw [skipOpen, at_key]
  simp only [key]
  rfl

theorem skipOpen_next_entry (at_comma : skipBlanks input = Octet.comma :: rest)
    (key : skipKey rest = .ok value) :
    skipOpen (fuel + 1) .next (.table :: outer) input =
      skipOpen fuel .value (.table :: outer) value := by
  rw [skipOpen, at_comma]
  simp only [key]
  rfl

end Steps

/-- A value in a container, and what is left of the container behind it, behind a step that comes to
the value. -/
theorem Passes.behind {frame : Frame} {value : Octets}
    (step : ∀ fuel outer, skipOpen (fuel + 1) expectation (frame :: outer) input =
      skipOpen fuel .value (frame :: outer) value)
    (shorter : 2 * value.length + 1 ≤ 2 * input.length + spare)
    (passes : Passes 0 .value [] value rest) (later : Passes 0 .next [frame] rest ending) :
    Passes spare expectation [frame] input ending := by
  obtain ⟨first, enough, comes⟩ := passes
  obtain ⟨others, enoughLater, comesLater⟩ := later
  refine ⟨others + 1 + (first + 1), by omega, fun fuel outer => ?_⟩
  calc skipOpen (fuel + (others + 1 + (first + 1) + 1)) expectation (frame :: outer) input
      = skipOpen (fuel + (others + 1) + (first + 1)) .value (frame :: outer) value := by
        rw [← step, Nat.add_assoc fuel, Nat.add_assoc fuel]
    _ = skipOpen (fuel + (others + 1)) .next (frame :: outer) rest := comes _ (frame :: outer)
    _ = skipOpen fuel .next outer ending := comesLater fuel outer

/-- The loop comes through an item and through the items behind it. -/
theorem Passes.item {isFirst : Bool} {value : Octets}
    (next : nextItem? isFirst input = .ok (some value)) (passes : Passes 0 .value [] value rest)
    (later : Passes 0 .next [.list] rest ending) :
    Passes isFirst.toNat (expectationOf isFirst) [.list] input ending := by
  have shorter := length_skipBlanks input
  rcases nextItem?_some next with ⟨rfl, octet, left, rfl, at_value, inner⟩ |
    ⟨rfl, left, at_comma, at_value⟩
  · rw [at_value] at shorter
    refine passes.behind (fun fuel outer => skipOpen_first_item at_value inner) ?_ later
    rw [Bool.toNat_true]
    omega
  · rw [at_comma, List.length_cons] at shorter
    rw [← at_value] at passes
    refine passes.of_skipBlanks.behind (fun fuel outer => skipOpen_next_item at_comma) ?_ later
    rw [Bool.toNat_false]
    omega

/-- The loop comes through an entry and through the entries behind it. -/
theorem Passes.entry {isFirst : Bool} {key : String} {behind value : Octets}
    (next : nextKey? isFirst input = .ok (some (key, behind)))
    (colon : readColon behind = .ok value) (passes : Passes 0 .value [] value rest)
    (later : Passes 0 .next [.table] rest ending) :
    Passes isFirst.toNat (expectationOf isFirst) [.table] input ending := by
  have shorter := length_skipBlanks input
  obtain ⟨text, read, place⟩ := nextKey?_some next
  have keyed : behind.length ≤ text.length := length_skipString (skipString_of_readString read)
  have valued := length_skipBlanks behind
  rw [readColon_ok colon, List.length_cons] at valued
  rcases place with ⟨rfl, at_key⟩ | ⟨rfl, left, at_comma, at_key⟩
  · have key : skipKey (Octet.quote :: text) = .ok value :=
      skipKey_of_read (skipBlanks_cons rfl text) read colon
    rw [at_key, List.length_cons] at shorter
    refine passes.behind (fun fuel outer => skipOpen_first_entry at_key key) ?_ later
    rw [Bool.toNat_true]
    omega
  · have key : skipKey left = .ok value := skipKey_of_read at_key read colon
    have inner := length_skipBlanks left
    rw [at_comma, List.length_cons] at shorter
    rw [at_key, List.length_cons] at inner
    refine passes.behind (fun fuel outer => skipOpen_next_entry at_comma key) ?_ later
    rw [Bool.toNat_false]
    omega

end Loop

theorem length_skipKey {input rest : Octets} (skipped : skipKey input = .ok rest) :
    rest.length < input.length := by
  have shorter := length_skipBlanks input
  rw [skipKey] at skipped
  split at skipped
  · cases skipped
  · rename_i at_quote
    rw [at_quote, List.length_cons] at shorter
    split at skipped
    · cases skipped
    · split at skipped
      · cases skipped
      · rename_i behind string
        have keyed := length_skipString string
        have blank := length_skipBlanks behind
        split at skipped
        · cases skipped
        · rename_i at_colon
          rw [at_colon, List.length_cons] at blank
          split at skipped
          · cases skipped
            omega
          · cases skipped

/-- How many steps the loop may take from here beyond two for each octet. -/
def spareOf : Expectation → Nat
  | .first => 1
  | .value | .next => 0

/-- A step of the loop, whatever the fuel is and whatever containers are open around. -/
structure Step (expectation : Expectation) (frames : List Frame) (input : Octets)
    (later : Expectation) (inner : List Frame) (left : Octets) : Prop where
  framed : later = .first → inner ≠ []
  shorter : 2 * left.length + spareOf later + 1 ≤ 2 * input.length + spareOf expectation
  goes (fuel : Nat) (outer : List Frame) :
    skipOpen (fuel + 1) expectation (frames ++ outer) input =
      skipOpen fuel later (inner ++ outer) left

section Steps

variable {expectation later : Expectation} {frame : Frame} {frames inner : List Frame}
  {fuel : Nat} {input left rest : Octets}

/-- A step of the loop before the rest of its way. -/
theorem Step.passes (step : Step expectation frames input later inner left)
    (behind : later = .next ∧ inner = [] ∧ rest = left ∨
      Passes (spareOf later) later inner left rest) :
    Passes (spareOf expectation) expectation frames input rest := by
  have shorter := step.shorter
  rcases behind with ⟨rfl, rfl, rfl⟩ | ⟨steps, enough, comes⟩
  · exact ⟨0, by rw [spareOf] at shorter; omega, step.goes⟩
  · refine ⟨steps + 1, by omega, fun fuel outer => ?_⟩
    rw [← comes, ← Nat.add_assoc]
    exact step.goes _ outer

/-- The step that closes a container. -/
theorem step_closing (started : expectation ≠ .value)
    (closes : skipBlanks input = frame.closing :: left) :
    Step expectation (frame :: frames) input .next frames left := by
  have shorter := length_skipBlanks input
  rw [closes, List.length_cons] at shorter
  refine ⟨Expectation.noConfusion, by simp only [spareOf]; omega, fun fuel outer => ?_⟩
  cases expectation with
  | value => exact absurd rfl started
  | first | next =>
    rw [List.cons_append, skipOpen, closes]
    exact if_pos (beq_self_eq_true _)

/-- The loop closes a container, where its first part is expected or a later one. -/
theorem passes_end {isFirst : Bool} (closes : skipBlanks input = frame.closing :: rest) :
    Passes isFirst.toNat (expectationOf isFirst) [frame] input rest := by
  have step (expectation : Expectation) (started : expectation ≠ .value) :
      Passes (spareOf expectation) expectation [frame] input rest :=
    (step_closing started closes).passes (.inl ⟨rfl, rfl, rfl⟩)
  cases isFirst with
  | true => exact step .first Expectation.noConfusion
  | false => exact step .next Expectation.noConfusion

/-- The step to a value: past a scalar, or into a container. -/
theorem exists_step_value (skipped : skipOpen (fuel + 1) .value frames input = .ok rest) :
    ∃ later inner left, Step .value frames input later inner left := by
  have shorter := length_skipBlanks input
  rw [skipOpen] at skipped
  split at skipped
  · cases skipped
  · rename_i left scalar
    have consumed := length_skipScalar? scalar
    refine ⟨.next, frames, left, Expectation.noConfusion, by simp only [spareOf]; omega, ?_⟩
    intro fuel outer
    rw [skipOpen, scalar]
  · rename_i scalar
    split at skipped
    · cases skipped
    · rename_i left at_bracket
      rw [at_bracket, List.length_cons] at shorter
      refine ⟨.first, .list :: frames, left, fun _ => List.cons_ne_nil _ _,
        by simp only [spareOf]; omega, fun fuel outer => ?_⟩
      rw [skipOpen, scalar, at_bracket]
      rfl
    · rename_i left at_brace
      rw [at_brace, List.length_cons] at shorter
      refine ⟨.first, .table :: frames, left, fun _ => List.cons_ne_nil _ _,
        by simp only [spareOf]; omega, fun fuel outer => ?_⟩
      rw [skipOpen, scalar, at_brace]
      rfl
    · cases skipped

/-- The step to the first part of a container or to its end. -/
theorem exists_step_first (skipped : skipOpen (fuel + 1) .first (frame :: frames) input = .ok rest) :
    ∃ later inner left, Step .first (frame :: frames) input later inner left := by
  have shorter := length_skipBlanks input
  rw [skipOpen] at skipped
  split at skipped
  · cases skipped
  · rename_i octet behind at_octet
    split at skipped
    · rename_i closes
      exact ⟨_, _, _, step_closing Expectation.noConfusion (beq_iff_eq.1 closes ▸ at_octet)⟩
    · rename_i open_still
      rw [at_octet] at shorter
      cases frame with
      | list =>
        refine ⟨.value, .list :: frames, octet :: behind, Expectation.noConfusion,
          by simp only [spareOf]; omega, fun fuel outer => ?_⟩
        rw [List.cons_append, skipOpen, at_octet]
        exact if_neg open_still
      | table =>
        dsimp only at skipped
        split at skipped
        · cases skipped
        · rename_i left key
          have consumed := length_skipKey key
          refine ⟨.value, .table :: frames, left, Expectation.noConfusion,
            by simp only [spareOf]; omega, fun fuel outer => ?_⟩
          rw [List.cons_append, skipOpen, at_octet]
          dsimp only
          rw [if_neg open_still, key]

/-- The step to a later part of a container or to its end. -/
theorem exists_step_next (skipped : skipOpen (fuel + 1) .next (frame :: frames) input = .ok rest) :
    ∃ later inner left, Step .next (frame :: frames) input later inner left := by
  have shorter := length_skipBlanks input
  rw [skipOpen] at skipped
  split at skipped
  · cases skipped
  · rename_i octet behind at_octet
    split at skipped
    · rename_i closes
      exact ⟨_, _, _, step_closing Expectation.noConfusion (beq_iff_eq.1 closes ▸ at_octet)⟩
    · rename_i open_still
      rw [at_octet, List.length_cons] at shorter
      split at skipped
      · cases skipped
      · rename_i comma
        cases frame with
        | list =>
          refine ⟨.value, .list :: frames, behind, Expectation.noConfusion,
            by simp only [spareOf]; omega, fun fuel outer => ?_⟩
          rw [List.cons_append, skipOpen, at_octet]
          dsimp only
          rw [if_neg open_still, if_neg comma]
        | table =>
          dsimp only at skipped
          split at skipped
          · cases skipped
          · rename_i left key
            have consumed := length_skipKey key
            refine ⟨.value, .table :: frames, left, Expectation.noConfusion,
              by simp only [spareOf]; omega, fun fuel outer => ?_⟩
            rw [List.cons_append, skipOpen, at_octet]
            dsimp only
            rw [if_neg open_still, if_neg comma, key]

/-- Where the loop comes to its end, it takes the same way with more containers open around. -/
theorem passes_skipOpen (fuel : Nat) {expectation : Expectation} {frames : List Frame}
    {input rest : Octets} (framed : expectation = .first → frames ≠ [])
    (skipped : skipOpen fuel expectation frames input = .ok rest) :
    expectation = .next ∧ frames = [] ∧ rest = input ∨
      Passes (spareOf expectation) expectation frames input rest := by
  induction fuel generalizing expectation frames input with
  | zero =>
    rw [skipOpen] at skipped
    cases skipped
  | succ fuel inductionHypothesis =>
    have passes (step : ∃ later inner left, Step expectation frames input later inner left) :
        Passes (spareOf expectation) expectation frames input rest := by
      obtain ⟨later, inner, left, step⟩ := step
      have same := step.goes fuel []
      rw [List.append_nil, List.append_nil, skipped] at same
      exact step.passes (inductionHypothesis step.framed same.symm)
    cases expectation with
    | value => exact .inr (passes (exists_step_value skipped))
    | first =>
      cases frames with
      | nil => exact absurd rfl (framed rfl)
      | cons frame outer => exact .inr (passes (exists_step_first skipped))
    | next =>
      cases frames with
      | nil =>
        cases skipped
        exact .inl ⟨rfl, rfl, rfl⟩
      | cons frame outer => exact .inr (passes (exists_step_next skipped))

end Steps

/-- The loop comes through every value that is passed over. -/
theorem passes_of_skipValue {input rest : Octets} (skipped : skipValue input = .ok rest) :
    Passes 0 .value [] input rest := by
  rcases passes_skipOpen _ (by nofun) skipped with ⟨other, -⟩ | passes
  · cases other
  · exact passes

section Closing

variable {Value : Type} {value other : Value} {input rest : Octets} {isFirst : Bool}

/-- A list is closed where the loop closes it. -/
theorem passes_closeList (closed : closeList (.ok (value, input)) = .ok (other, rest)) :
    Passes isFirst.toNat (expectationOf isFirst) [.list] input rest := by
  have closes : skipBlanks input = Octet.closeBracket :: rest := by
    unfold closeList at closed
    dsimp only at closed
    split at closed
    · cases closed
    · rename_i at_octet
      split at closed
      · rename_i same
        cases closed
        rw [at_octet, beq_iff_eq.1 same]
      · split at closed
        · cases closed
        · split at closed <;> cases closed
  exact passes_end closes

/-- A table is closed where the loop closes it. -/
theorem passes_closeTable (closed : closeTable (.ok (value, input)) = .ok (other, rest)) :
    Passes isFirst.toNat (expectationOf isFirst) [.table] input rest := by
  have closes : skipBlanks input = Octet.closeBrace :: rest := by
    unfold closeTable at closed
    dsimp only at closed
    split at closed
    · cases closed
    · rename_i at_octet
      split at closed
      · rename_i same
        cases closed
        rw [at_octet, beq_iff_eq.1 same]
      · split at closed <;> cases closed
  exact passes_end closes

/-- No list is closed whose items could not be read. -/
theorem closeList_error (fault : Fault) :
    closeList (.error fault : Except Fault (Value × Octets)) ≠ .ok (other, rest) := by
  unfold closeList
  dsimp only
  split <;> nofun

theorem closeTable_error (fault : Fault) :
    closeTable (.error fault : Except Fault (Value × Octets)) ≠ .ok (other, rest) := by
  unfold closeTable
  dsimp only
  split <;> nofun

end Closing

/-! ### Trees -/

/-- What is read as a tree is passed over as it is read. -/
def TreesPass (fuel : Nat) : Prop :=
  ∀ depth input tree rest, readTree fuel depth input = .ok (tree, rest) →
    Passes 0 .value [] input rest

/-- So are the items of a list, with what closes it. -/
def ItemsPass (fuel : Nat) : Prop :=
  ∀ depth index done input tree rest,
    closeList (readTreeItems fuel depth index done input) = .ok (tree, rest) →
      Passes (index == 0).toNat (expectationOf (index == 0)) [.list] input rest

/-- So are the entries of a table, with what closes it. -/
def EntriesPass (fuel : Nat) : Prop :=
  ∀ depth isFirst done input tree rest,
    closeTable (readTreeEntries fuel depth isFirst done input) = .ok (tree, rest) →
      Passes isFirst.toNat (expectationOf isFirst) [.table] input rest

/-- A word, a string or a number is one step; a container is a step and its parts. -/
theorem ItemsPass.trees {fuel : Nat} (items : ItemsPass fuel) (entries : EntriesPass fuel) :
    TreesPass (fuel + 1) := by
  intro depth input tree rest read
  have graphic : skipBlanks (skipBlanks input) = skipBlanks input := skipBlanks_skipBlanks input
  rw [readTree] at read
  refine Passes.of_skipBlanks ?_
  generalize skipBlanks input = text at read graphic
  dsimp only at read
  split at read
  · cases read
  · split at read
    · rename_i word
      cases read
      exact passes_scalar (congrArg some word) graphic
    · cases read
  · split at read
    · rename_i word
      cases read
      exact passes_scalar (congrArg some word) graphic
    · cases read
  · split at read
    · rename_i word
      cases read
      exact passes_scalar (congrArg some word) graphic
    · cases read
  · split at read
    · rename_i string
      cases read
      exact passes_scalar (congrArg some (skipString_of_readString string)) graphic
    · cases read
  · split at read
    · cases read
    · exact (items _ _ _ _ _ _ read).list
  · split at read
    · cases read
    · exact (entries _ _ _ _ _ _ read).table
  · split at read
    · rename_i number
      cases read
      exact passes_scalar (skipScalar?_of_number? number) graphic
    · cases read
    · cases read

theorem TreesPass.items {fuel : Nat} (values : TreesPass fuel) (items : ItemsPass fuel) :
    ItemsPass (fuel + 1) := by
  intro depth index done input tree rest read
  rw [readTreeItems] at read
  split at read
  · exact absurd read (closeList_error _)
  · exact passes_closeList read
  · rename_i value next
    split at read
    · exact absurd read (closeList_error _)
    · rename_i item behind read_item
      exact (values _ _ _ _ read_item).item next (items _ _ _ _ _ _ read)

theorem TreesPass.entries {fuel : Nat} (values : TreesPass fuel) (entries : EntriesPass fuel) :
    EntriesPass (fuel + 1) := by
  intro depth isFirst done input tree rest read
  rw [readTreeEntries] at read
  split at read
  · exact absurd read (closeTable_error _)
  · exact passes_closeTable read
  · rename_i key behind next
    split at read
    · exact absurd read (closeTable_error _)
    · rename_i value colon
      split at read
      · exact absurd read (closeTable_error _)
      · rename_i tree_read
        exact (values _ _ _ _ tree_read).entry next colon (entries _ _ _ _ _ _ read)

theorem passes_readTree (fuel : Nat) : TreesPass fuel ∧ ItemsPass fuel ∧ EntriesPass fuel := by
  induction fuel with
  | zero =>
    refine ⟨fun _ _ _ _ read => ?_, fun _ _ _ _ _ _ read => ?_, fun _ _ _ _ _ _ read => ?_⟩
    · rw [readTree] at read
      cases read
    · rw [readTreeItems] at read
      exact absurd read (closeList_error _)
    · rw [readTreeEntries] at read
      exact absurd read (closeTable_error _)
  | succ fuel inductionHypothesis =>
    obtain ⟨values, items, entries⟩ := inductionHypothesis
    exact ⟨items.trees entries, values.items items, values.entries entries⟩

end Json

/-! ### Shapes -/

namespace Shape

open Json

/-- Whatever the shape reads is passed over as it is read. -/
def Measured {Value : Type} (shape : Shape Value) : Prop :=
  ∀ depth input value rest, shape.read depth input = .ok (value, rest) →
    Passes 0 .value [] input rest

variable {Value Other : Type} {shape : Shape Value}

theorem Measured.skipValue (measured : shape.Measured) {depth : Nat} {input rest : Octets}
    {value : Value} (read : shape.read depth input = .ok (value, rest)) :
    Json.skipValue input = .ok rest := (measured depth input value rest read).skipValue

/-- A value is read where blanks have ended. -/
theorem passes_atValue {read : Octets → Except Fault (Value × Octets)} {input rest : Octets}
    {value : Value} (found : atValue read input = .ok (value, rest))
    (passes : ∀ text, skipBlanks text = text → read text = .ok (value, rest) →
      Passes 0 .value [] text rest) : Passes 0 .value [] input rest := by
  rw [atValue] at found
  split at found
  · cases found
  · exact (passes _ (skipBlanks_skipBlanks input) found).of_skipBlanks

theorem text_measured : text.Measured := by
  intro depth input value rest read
  refine passes_atValue read fun text graphic read => ?_
  split at read
  · exact passes_scalar (congrArg some (skipString_of_readString read)) graphic
  · cases read

theorem whole_measured (name : String) (ofInt? : Int → Option Value) :
    (whole name ofInt?).Measured := by
  intro depth input value rest read
  refine passes_atValue read fun text graphic read => ?_
  split at read
  · rename_i number
    split at read
    · cases read
      exact passes_scalar (skipScalar?_of_number? number) graphic
    · cases read
  · cases read
  · cases read
  · cases read

theorem any_measured : any.Measured := fun depth input tree rest read =>
  (passes_readTree _).1 depth input tree rest read

theorem Measured.map (measured : shape.Measured) (change : Value → Other) :
    (shape.map change).Measured := by
  intro depth input value rest read
  simp only [Shape.map] at read
  split at read
  · rename_i inner
    cases read
    exact measured _ _ _ _ inner
  · cases read

theorem Measured.optional (measured : shape.Measured) : shape.optional.Measured := by
  intro depth input value rest read
  simp only [Shape.optional] at read
  refine Passes.of_skipBlanks ?_
  have graphic : skipBlanks (skipBlanks input) = skipBlanks input := skipBlanks_skipBlanks input
  generalize skipBlanks input = text at read graphic
  split at read
  · split at read
    · rename_i word
      cases read
      exact passes_scalar (congrArg some word) graphic
    · cases read
  · exact measured.map some _ _ _ _ read

theorem Measured.orElse (measured : shape.Measured) (value : Value) :
    (shape.orElse value).Measured := measured.optional.map _

section Records

variable {Record : Type} {fields : List (Field Record)}

/-- Entries are passed over as they are read, those of unknown keys because they were passed over
already. -/
theorem passes_readEntries (measured : ∀ field ∈ fields, field.shape.Measured) (depth fuel : Nat)
    {seen : List String} {isFirst : Bool} {record result : Record} {input rest : Octets}
    (read : closeTable (readEntries fields depth fuel seen isFirst record input) =
      .ok (result, rest)) : Passes isFirst.toNat (expectationOf isFirst) [.table] input rest := by
  induction fuel generalizing seen isFirst record input with
  | zero =>
    rw [readEntries] at read
    exact absurd read (closeTable_error _)
  | succ fuel inductionHypothesis =>
    rw [readEntries] at read
    split at read
    · exact absurd read (closeTable_error _)
    · split at read
      · exact absurd read (closeTable_error _)
      · exact passes_closeTable read
    · rename_i key behind next
      split at read
      · split at read
        · exact absurd read (closeTable_error _)
        · rename_i colon
          split at read
          · exact absurd read (closeTable_error _)
          · rename_i skipped
            exact (passes_of_skipValue skipped).entry next colon (inductionHypothesis read)
      · rename_i field found
        split at read
        · exact absurd read (closeTable_error _)
        · split at read
          · exact absurd read (closeTable_error _)
          · rename_i colon
            split at read
            · exact absurd read (closeTable_error _)
            · rename_i value
              exact (measured field (fieldOf?_some found).1 _ _ _ _ value).entry next colon
                (inductionHypothesis read)

/-- The items of a record are passed over as they are read; a field that is absent takes none. -/
theorem passes_readPositions (name : String) (all depth : Nat)
    (measured : ∀ field ∈ fields, field.shape.Measured) {index : Nat} {record result : Record}
    {input rest : Octets}
    (read : closeList (readPositions name all depth fields index record input) =
      .ok (result, rest)) :
    Passes (index == 0).toNat (expectationOf (index == 0)) [.list] input rest := by
  induction fields generalizing index record input with
  | nil => exact passes_closeList read
  | cons field later inductionHypothesis =>
    replace inductionHypothesis := @inductionHypothesis fun other among =>
      measured other (List.mem_cons_of_mem _ among)
    rw [readPositions] at read
    split at read
    · exact absurd read (closeList_error _)
    · split at read
      · exact inductionHypothesis read
      · exact absurd read (closeList_error _)
    · rename_i next
      split at read
      · exact absurd read (closeList_error _)
      · rename_i value
        exact (measured field List.mem_cons_self _ _ _ _ value).item next (inductionHypothesis read)

/-- A record is passed over if its fields are. -/
theorem record_measured (name : String) (start : Record)
    (measured : ∀ field ∈ fields, field.shape.Measured) :
    (Shape.record name fields start).Measured := by
  intro depth input value rest read
  refine passes_atValue read fun text graphic read => ?_
  split at read
  · split at read
    · cases read
    · exact (passes_readPositions name _ _ measured read).list
  · split at read
    · cases read
    · exact (passes_readEntries measured _ _ read).table
  · cases read

end Records

end Shape

end LatencyService
