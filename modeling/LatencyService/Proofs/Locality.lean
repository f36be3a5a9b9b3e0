/-
What a reader takes of a text does not depend on what comes behind it. Every
reader that succeeds has taken a stretch of its input, and takes the same
stretch, to the same end, from any other text that goes on in another way; only
a number has to be followed by something that cannot be part of it. So a value
is known from its own stretch, and it may be cut out and put somewhere else.
-/

import LatencyService.Proofs.Extents

namespace LatencyService

namespace Json

/-! ### Stretches -/

/-- A way through a text takes a stretch of it, and takes that stretch whatever follows of what may
follow. -/
def Local (follows : Octets → Prop) (goes : Octets → Octets → Prop) : Prop :=
  ∀ input rest, goes input rest →
    ∃ used, input = used ++ rest ∧ ∀ other, follows other → goes (used ++ other) other

/-- Anything may follow. -/
def Free (_ : Octets) : Prop := True

/-- What may follow a value: nothing, a blank, or what ends the value in its container. -/
def Stops (rest : Octets) : Prop :=
  ∀ octet ∈ rest.head?, isBlank octet = true ∨
    octet = Octet.comma ∨ octet = Octet.closeBracket ∨ octet = Octet.closeBrace

theorem stops_nil : Stops [] := fun _ member => nomatch member

/-- What a value stops at is none of the octets that it goes on with. -/
theorem Stops.head {rest : Octets} (stops : Stops rest) (avoided : UInt8 → Bool)
    (marks : [ Octet.comma, Octet.closeBracket, Octet.closeBrace, Octet.space, Octet.lineFeed,
      Octet.tab, Octet.carriageReturn ].any avoided = false) :
    rest.head?.any avoided = false := by
  rw [Option.any_eq_false]
  intro octet member
  rw [List.any_eq_false] at marks
  rw [← Bool.not_eq_true]
  refine marks octet ?_
  rcases stops octet member with blank | rfl | rfl | rfl
  · simp only [isBlank, Bool.or_eq_true, beq_iff_eq] at blank
    rcases blank with ((rfl | rfl) | rfl) | rfl <;> simp
  all_goals simp

section Local

variable {follows : Octets → Prop} {goes first second : Octets → Octets → Prop}

theorem Local.mono {fewer : Octets → Prop} (taken : Local follows goes)
    (less : ∀ rest, fewer rest → follows rest) : Local fewer goes := by
  intro input rest there
  obtain ⟨used, parts, same⟩ := taken input rest there
  exact ⟨used, parts, fun other may => same other (less other may)⟩

theorem Local.congr (taken : Local follows goes)
    (same : ∀ input rest, goes input rest ↔ first input rest) : Local follows first := by
  obtain rfl : goes = first := funext fun input => funext fun rest => propext (same input rest)
  exact taken

/-- One way and then another. -/
theorem Local.behind (taken : Local follows second) (before : Local Free first) :
    Local follows fun input rest => ∃ middle, first input middle ∧ second middle rest := by
  rintro input rest ⟨middle, there, further⟩
  obtain ⟨used, rfl, same⟩ := before _ _ there
  obtain ⟨more, rfl, again⟩ := taken _ _ further
  refine ⟨used ++ more, (List.append_assoc ..).symm, fun other may => ?_⟩
  rw [List.append_assoc]
  exact ⟨more ++ other, same _ trivial, again other may⟩

/-- A stretch that is followed by another, or by what may follow both. -/
theorem any_head_append {used rest other : Octets} {avoided : UInt8 → Bool}
    (before : (used ++ rest).head?.any avoided = false) (behind : other.head?.any avoided = false) :
    (used ++ other).head?.any avoided = false := by
  cases used with
  | nil => exact behind
  | cons octet used => exact before

/-! ### Blanks and words -/

theorem skipBlanks_append {blanks : Octets} (blank : ∀ octet ∈ blanks, isBlank octet = true)
    (rest : Octets) : skipBlanks (blanks ++ rest) = skipBlanks rest :=
  List.dropWhile_append_of_pos blank

/-- What is skipped is blanks. -/
theorem exists_blanks (input : Octets) :
    ∃ blanks, input = blanks ++ skipBlanks input ∧ ∀ octet ∈ blanks, isBlank octet = true :=
  ⟨input.takeWhile isBlank, List.takeWhile_append_dropWhile.symm, fun _ => List.mem_takeWhile_imp⟩

theorem isBlank_of_skipBlanks {octet : UInt8} {input rest : Octets}
    (at_octet : skipBlanks input = octet :: rest) : isBlank octet = false := by
  have head := List.head?_dropWhile_not isBlank input
  rw [show input.dropWhile isBlank = octet :: rest from at_octet] at head
  simpa using head

theorem local_octet (octet : UInt8) :
    Local Free fun input rest => skipBlanks input = octet :: rest := by
  intro input rest at_octet
  obtain ⟨blanks, parts, blank⟩ := exists_blanks input
  rw [at_octet] at parts
  refine ⟨blanks ++ [octet], by simpa using parts, fun other _ => ?_⟩
  show skipBlanks (blanks ++ [octet] ++ other) = octet :: other
  rw [List.append_assoc, skipBlanks_append blank]
  exact skipBlanks_cons (isBlank_of_skipBlanks at_octet) other

/-- A way that begins at an octet that is no blank may begin at blanks before it. -/
theorem Local.behind_blanks (taken : Local follows goes) (nothing : follows [])
    (graphic : ∀ input rest, goes input rest →
      ∃ octet left, input = octet :: left ∧ isBlank octet = false) :
    Local follows fun input rest => goes (skipBlanks input) rest := by
  intro input rest there
  obtain ⟨blanks, parts, blank⟩ := exists_blanks input
  obtain ⟨used, ends, same⟩ := taken _ _ there
  refine ⟨blanks ++ used, by rw [List.append_assoc, ← ends]; exact parts, fun other may => ?_⟩
  obtain ⟨octet, left, begins, plain⟩ := graphic _ _ (same [] nothing)
  rw [List.append_nil] at begins
  have again := same other may
  rw [begins] at again
  show goes (skipBlanks (blanks ++ used ++ other)) other
  rw [List.append_assoc, skipBlanks_append blank, begins, List.cons_append, skipBlanks_cons plain]
  exact again

end Local

/-- A word is read where it stands. -/
theorem readWord_iff {word input rest : Octets} :
    readWord word input = .ok rest ↔ input = word ++ rest := by
  induction word generalizing input with
  | nil =>
    rw [readWord, Except.ok.injEq]
    rfl
  | cons expected word inductionHypothesis =>
    cases input with
    | nil => constructor <;> (intro impossible; cases impossible)
    | cons octet input =>
      rw [readWord, List.cons_append, List.cons.injEq, ← inductionHypothesis]
      by_cases same : octet = expected
      · rw [if_pos (beq_iff_eq.2 same)]
        exact (and_iff_right same).symm
      · rw [if_neg fun equal => same (beq_iff_eq.1 equal)]
        refine ⟨fun read => ?_, fun there => absurd there.1 same⟩
        cases read

theorem local_readWord (word : Octets) :
    Local Free fun input rest => readWord word input = .ok rest :=
  fun _ _ read => ⟨word, readWord_iff.1 read, fun _ _ => readWord_iff.2 rfl⟩

/-! ### Strings -/

theorem scanString_pair {a b c d e f g h : UInt8} {unit second : Nat}
    (first : hexUnit? a b c d = some unit) (whole : isTrailing unit = false)
    (leads : isLeading unit = true) (next : hexUnit? e f g h = some second)
    (trails : isTrailing second = true) (rest done : Octets) :
    scanString (Octet.backslash :: Octet.smallU :: a :: b :: c :: d :: Octet.backslash ::
        Octet.smallU :: e :: f :: g :: h :: rest) done =
      scanString rest
        (pushCodePoint (0x10000 + (unit - 0xD800) * 0x400 + (second - 0xDC00)) done) := by
  rw [scanString.eq_def]
  simp only [first, whole, leads, next, trails]
  rfl

theorem local_scanString (done text : Octets) :
    Local Free fun input rest => scanString input done = .ok (text, rest) := by
  intro input rest read
  fun_induction scanString input done <;> try (cases read; done)
  case case2 closes =>
    cases read
    refine ⟨[_], rfl, fun other _ => ?_⟩
    simp only [List.cons_append, scanString.eq_def (_ :: _), if_pos closes]
    rfl
  case case4 escapes _ _ _ escape inductionHypothesis =>
    obtain ⟨used, rfl, same⟩ := inductionHypothesis read
    rw [beq_iff_eq.1 escapes]
    exact ⟨_ :: _ :: used, rfl, fun other may =>
      (scanString_short escape _ _).trans (same other may)⟩
  case case8 escapes _ _ unit _ _ _ _ _ _ number whole single inductionHypothesis =>
    obtain ⟨used, rfl, same⟩ := inductionHypothesis read
    obtain rfl : _ = Octet.smallU := by simpa using unit
    rw [beq_iff_eq.1 escapes]
    exact ⟨_ :: _ :: _ :: _ :: _ :: _ :: used, rfl, fun other may =>
      (scanString_unit number (by simpa using whole) (by simpa using single) _ _).trans
        (same other may)⟩
  case case15 escapes _ _ unit _ _ _ _ _ first whole leads _ again _ unitAgain _ _ _ _ _ _ second
      trails inductionHypothesis =>
    obtain ⟨used, rfl, same⟩ := inductionHypothesis read
    obtain rfl : _ = Octet.smallU := by simpa using unit
    obtain rfl : _ = Octet.backslash := by simpa using again
    obtain rfl : _ = Octet.smallU := by simpa using unitAgain
    rw [beq_iff_eq.1 escapes]
    exact ⟨_ :: _ :: _ :: _ :: _ :: _ :: _ :: _ :: _ :: _ :: _ :: _ :: used, rfl,
      fun other may => (scanString_pair first (by simpa using whole) (by simpa using leads) second
        (by simpa using trails) _ _).trans (same other may)⟩
  case case19 inner plain graphic inductionHypothesis =>
    obtain ⟨used, rfl, same⟩ := inductionHypothesis read
    exact ⟨_ :: used, rfl, fun other may =>
      (scanString_plain ⟨by simpa using inner, by simpa using plain, graphic⟩ _ _).trans
        (same other may)⟩

theorem local_readString (text : String) :
    Local Free fun input rest => readString input = .ok (text, rest) := by
  intro input rest read
  simp only [readString] at read ⊢
  cases scanned : scanString input [] with
  | error fault =>
    rw [scanned] at read
    cases read
  | ok found =>
    obtain ⟨done, behind⟩ := found
    rw [scanned] at read
    dsimp only at read
    split at read
    · rename_i spelt
      cases read
      obtain ⟨used, rfl, same⟩ := local_scanString [] done _ _ scanned
      refine ⟨used, rfl, fun other may => ?_⟩
      rw [same other may]
      dsimp only
      rw [spelt]
    · cases read

theorem local_skipString : Local Free fun input rest => skipString input = .ok rest := by
  intro input rest skipped
  fun_induction skipString input <;> try (cases skipped; done)
  case case2 closes =>
    cases skipped
    refine ⟨[_], rfl, fun other _ => ?_⟩
    simp only [List.cons_append, skipString.eq_def (_ :: _), if_pos closes]
    rfl
  case case4 escapes _ _ escape inductionHypothesis =>
    obtain ⟨used, rfl, same⟩ := inductionHypothesis skipped
    obtain ⟨plain, known⟩ := Option.isSome_iff_exists.1 escape
    rw [beq_iff_eq.1 escapes]
    exact ⟨_ :: _ :: used, rfl, fun other may => (skipString_short known).trans (same other may)⟩
  case case6 escapes _ _ unit _ _ _ _ _ number inductionHypothesis =>
    obtain ⟨used, rfl, same⟩ := inductionHypothesis skipped
    obtain ⟨value, known⟩ := Option.isSome_iff_exists.1 number
    obtain rfl : _ = Octet.smallU := by simpa using unit
    rw [beq_iff_eq.1 escapes]
    exact ⟨_ :: _ :: _ :: _ :: _ :: _ :: used, rfl, fun other may =>
      (skipString_unit known).trans (same other may)⟩
  case case10 inner plain graphic inductionHypothesis =>
    obtain ⟨used, rfl, same⟩ := inductionHypothesis skipped
    exact ⟨_ :: used, rfl, fun other may =>
      (skipString_plain (by simpa using inner) (by simpa using plain) graphic).trans
        (same other may)⟩

/-! ### Numbers -/

/-- Digits are all the digits there are, before whatever is none. -/
theorem spanDigits_local (input : Octets) :
    ∃ rest, spanDigits input = ((spanDigits input).1, rest) ∧
      input = (spanDigits input).1 ++ rest ∧ rest.head?.any Octet.isDigit = false ∧
      ∀ other, other.head?.any Octet.isDigit = false →
        spanDigits ((spanDigits input).1 ++ other) = ((spanDigits input).1, other) := by
  have spans : spanDigits input =
      (input.takeWhile Octet.isDigit, input.dropWhile Octet.isDigit) :=
    List.span_eq_takeWhile_dropWhile ..
  rw [spans]
  refine ⟨input.dropWhile Octet.isDigit, rfl, List.takeWhile_append_dropWhile.symm, ?_, ?_⟩
  · have head := List.head?_dropWhile_not Octet.isDigit input
    cases left : (input.dropWhile Octet.isDigit).head? with
    | none => rfl
    | some octet =>
      rw [left] at head
      simpa using head
  · intro other others
    have digits : ∀ octet ∈ input.takeWhile Octet.isDigit, Octet.isDigit octet = true :=
      fun _ => List.mem_takeWhile_imp
    rw [spanDigits, List.span_eq_takeWhile_dropWhile, List.takeWhile_append_of_pos digits,
      List.dropWhile_append_of_pos digits]
    cases other with
    | nil => rw [List.takeWhile_nil, List.dropWhile_nil, List.append_nil]
    | cons octet rest =>
      have last : ¬Octet.isDigit octet = true := by simpa using others
      rw [List.takeWhile_cons_of_neg last, List.dropWhile_cons_of_neg last, List.append_nil]

/-- The octets that a number goes on with. -/
def isNumeric (octet : UInt8) : Bool :=
  Octet.isDigit octet || octet == Octet.dot || octet == Octet.smallE || octet == Octet.capitalE

/-- Nothing follows with which a number would go on. -/
def Unnumeric (rest : Octets) : Prop := rest.head?.any isNumeric = false

theorem Stops.unnumeric {rest : Octets} (stops : Stops rest) : Unnumeric rest :=
  stops.head isNumeric (by decide)

theorem Unnumeric.digit {rest : Octets} (others : Unnumeric rest) :
    rest.head?.any Octet.isDigit = false := by
  cases rest with
  | nil => rfl
  | cons octet rest =>
    unfold Unnumeric isNumeric at others
    simp at others ⊢
    exact others.1.1.1

/-- The sign of an exponent is one octet, or none. -/
theorem readSign_local (input : Octets) :
    ∃ before, input = before ++ (readSign input).2 ∧
      ∀ octet rest, Octet.isDigit octet = true →
        (readSign (before ++ octet :: rest)).2 = octet :: rest := by
  unfold readSign
  split
  · exact ⟨[Octet.plus], rfl, fun _ _ _ => rfl⟩
  · exact ⟨[Octet.minus], rfl, fun _ _ _ => rfl⟩
  · refine ⟨[], rfl, fun octet rest digit => ?_⟩
    rw [List.nil_append]
    split
    · rename_i same
      rw [(List.cons.inj same).1] at digit
      cases digit
    · rename_i same
      rw [(List.cons.inj same).1] at digit
      cases digit
    · rfl

theorem local_skipExponent : Local Unnumeric fun input rest => skipExponent input = .ok rest := by
  intro input rest skipped
  obtain ⟨before, parts, again⟩ := readSign_local input
  simp only [skipExponent] at skipped ⊢
  split at skipped
  · cases skipped
  · rename_i octet left unsigned
    split at skipped
    · rename_i digit
      cases skipped
      obtain ⟨rest, spans, digits, -, same⟩ := spanDigits_local left
      rw [spans]
      refine ⟨before ++ octet :: (spanDigits left).1, ?_, fun other others => ?_⟩
      · rw [List.append_assoc, List.cons_append, ← digits, ← unsigned]
        exact parts
      · rw [List.append_assoc, List.cons_append, again _ _ digit]
        dsimp only
        rw [if_pos digit, same other others.digit]
    · cases skipped

/-- Where no number goes on, it ends. -/
theorem skipFraction_of_unnumeric {input : Octets} (others : Unnumeric input) :
    skipFraction input = .ok input := by
  unfold skipFraction
  split
  · cases others
  · cases others
  · cases others
  · rfl

/-- What comes behind the places of a number. -/
theorem skipFraction_places (places behind : Octets) :
    spanDigits (places ++ behind) = (places, behind) → ¬places.isEmpty = true →
      skipFraction (Octet.dot :: (places ++ behind)) =
        match behind with
        | Octet.smallE :: rest => skipExponent rest
        | Octet.capitalE :: rest => skipExponent rest
        | _ => .ok behind := by
  intro digits written
  refine (skipFraction.eq_1 (places ++ behind)).trans ?_
  rw [digits]
  exact if_neg written

theorem local_skipFraction : Local Unnumeric fun input rest => skipFraction input = .ok rest := by
  intro input rest skipped
  -- An exponent follows its letter, wherever that stands.
  have exponent (before : Octets) (letter : UInt8) (left : Octets)
      (marks : ∀ rest, skipFraction (before ++ letter :: rest) = skipExponent rest)
      (skipped : skipExponent left = .ok rest) :
      ∃ used, before ++ letter :: left = used ++ rest ∧
        ∀ other, Unnumeric other → skipFraction (used ++ other) = .ok other := by
    obtain ⟨used, rfl, same⟩ := local_skipExponent left rest skipped
    refine ⟨before ++ letter :: used, by simp, fun other others => ?_⟩
    rw [List.append_assoc, List.cons_append, marks]
    exact same other others
  unfold skipFraction at skipped
  split at skipped
  · rename_i left
    obtain ⟨behind, spans, digits, none, same⟩ := spanDigits_local left
    dsimp only at skipped
    rw [spans] at skipped
    dsimp only at skipped
    split at skipped
    · cases skipped
    · rename_i written
      have marks (letter : UInt8) (last : Octet.isDigit letter = false) (rest : Octets) :=
        skipFraction_places _ _ (same (letter :: rest) (by simpa using last)) written
      rw [digits]
      split at skipped
      · exact exponent (Octet.dot :: (spanDigits left).1) Octet.smallE _
          (marks Octet.smallE (by decide)) skipped
      · exact exponent (Octet.dot :: (spanDigits left).1) Octet.capitalE _
          (marks Octet.capitalE (by decide)) skipped
      · cases skipped
        refine ⟨Octet.dot :: (spanDigits left).1, rfl, fun other others => ?_⟩
        show skipFraction (Octet.dot :: ((spanDigits left).1 ++ other)) = .ok other
        rw [skipFraction_places _ _ (same other others.digit) written]
        split
        · cases others
        · cases others
        · rfl
  · exact exponent [] Octet.smallE _ (fun _ => rfl) skipped
  · exact exponent [] Octet.capitalE _ (fun _ => rfl) skipped
  · cases skipped
    exact ⟨[], rfl, fun other others => skipFraction_of_unnumeric others⟩

theorem local_skipNumber : Local Unnumeric fun input rest => skipNumber input = .ok rest := by
  intro input rest skipped
  cases input with
  | nil => cases skipped
  | cons first left =>
    simp only [skipNumber] at skipped
    split at skipped
    · cases skipped
    · rename_i digit
      split at skipped
      · rename_i zero
        split at skipped
        · cases skipped
        · rename_i alone
          obtain ⟨used, rfl, same⟩ := local_skipFraction left rest skipped
          refine ⟨first :: used, rfl, fun other others => ?_⟩
          have last := any_head_append (Bool.eq_false_iff.2 alone) others.digit
          simp only [List.cons_append, skipNumber, if_neg digit, if_pos zero, last]
          exact same other others
      · rename_i other_digit
        obtain ⟨behind, spans, digits, last, spansAgain⟩ := spanDigits_local left
        rw [spans] at skipped
        obtain ⟨used, rfl, same⟩ := local_skipFraction behind rest skipped
        refine ⟨first :: ((spanDigits left).1 ++ used), ?_, fun other others => ?_⟩
        · rw [List.cons_append, List.append_assoc, ← digits]
        · have next := spansAgain (used ++ other) (any_head_append last others.digit)
          simp only [List.cons_append, List.append_assoc, skipNumber, if_neg digit,
            if_neg other_digit, next]
          exact same other others

/-- Where no number goes on, the digits are the number. -/
theorem finishNumber_of_unnumeric (isPositive : Bool) (digits : Octets) {input : Octets}
    (others : Unnumeric input) :
    finishNumber isPositive digits input =
      let (value, taken) := significand 0 digits
      let dropped := digits.length - taken
      if dropped != 0 then finishDecimal isPositive value dropped input
      else if isPositive then .ok (.integer value, input)
      else if value == 0 || value > 0x8000000000000000 then finishDecimal false value 0 input
      else .ok (.integer (-value), input) := by
  unfold finishNumber
  dsimp only
  split
  · cases others
  · cases others
  · cases others
  · rfl

theorem finishDecimal_ne_integer (isPositive : Bool) (value : Nat) (exponent : Int)
    (input rest : Octets) (whole : Int) :
    finishDecimal isPositive value exponent input ≠ .ok (.integer whole, rest) := by
  intro finished
  rw [finishDecimal] at finished
  split at finished <;> cases finished

/-- What finishes as a whole number is followed by nothing with which a number goes on. -/
theorem finishNumber_integer {isPositive : Bool} {digits input rest : Octets} {value : Int}
    (finished : finishNumber isPositive digits input = .ok (.integer value, rest)) :
    rest = input ∧ ∀ other, Unnumeric other →
      finishNumber isPositive digits other = .ok (.integer value, other) := by
  have decimal (isPositive : Bool) (value : Nat) (exponent : Int) (input : Octets) (whole : Int) :=
    finishDecimal_ne_integer isPositive value exponent input rest whole
  have raised (isPositive : Bool) (value : Nat) (exponent : Int) (input : Octets) (whole : Int) :
      finishExponent isPositive value exponent input ≠ .ok (.integer whole, rest) := by
    unfold finishExponent
    dsimp only
    split
    · nofun
    · split
      · nofun
      · split
        · exact decimal _ _ _ _ _
        · split <;> nofun
  unfold finishNumber at finished
  dsimp only at finished
  split at finished
  · split at finished
    · cases finished
    · split at finished
      · exact absurd finished (raised _ _ _ _ _)
      · exact absurd finished (raised _ _ _ _ _)
      · exact absurd finished (decimal _ _ _ _ _)
  · exact absurd finished (raised _ _ _ _ _)
  · exact absurd finished (raised _ _ _ _ _)
  · have known (other : Octets) (others : Unnumeric other) :=
      finishNumber_of_unnumeric isPositive digits others
    dsimp only at known
    split at finished
    · exact absurd finished (decimal _ _ _ _ _)
    · rename_i kept
      split at finished
      · rename_i positive
        cases finished
        refine ⟨rfl, fun other others => ?_⟩
        rw [known other others, if_neg kept, if_pos positive]
      · rename_i negative
        split at finished
        · exact absurd finished (decimal _ _ _ _ _)
        · rename_i small
          cases finished
          refine ⟨rfl, fun other others => ?_⟩
          rw [known other others, if_neg kept, if_neg negative, if_neg small]

theorem local_readNumber (isPositive : Bool) (value : Int) :
    Local Unnumeric fun input rest => readNumber isPositive input = .ok (.integer value, rest) := by
  intro input rest read
  cases input with
  | nil => cases read
  | cons first left =>
    simp only [readNumber] at read
    split at read
    · cases read
    · rename_i digit
      split at read
      · rename_i zero
        split at read
        · cases read
        · obtain ⟨rfl, same⟩ := finishNumber_integer read
          refine ⟨[first], rfl, fun other others => ?_⟩
          simp only [List.cons_append, List.nil_append, readNumber, if_neg digit, if_pos zero,
            others.digit]
          exact same other others
      · rename_i other_digit
        obtain ⟨behind, spans, digits, -, spansAgain⟩ := spanDigits_local left
        rw [spans] at read
        obtain ⟨rfl, same⟩ := finishNumber_integer read
        refine ⟨first :: (spanDigits left).1, congrArg _ digits, fun other others => ?_⟩
        simp only [List.cons_append, readNumber, if_neg digit, if_neg other_digit,
          spansAgain other others.digit]
        exact same other others

theorem number?_of_digit {first : UInt8} (digit : Octet.isDigit first = true) (rest : Octets) :
    number? (first :: rest) = some (readNumber true (first :: rest)) := by
  unfold number?
  split
  · rename_i same
    rw [(List.cons.inj same).1] at digit
    cases digit
  · rename_i same
    obtain ⟨rfl, rfl⟩ := List.cons.inj same
    rw [if_pos digit]
  · rename_i same
    cases same

theorem local_number? (value : Int) :
    Local Unnumeric fun input rest => number? input = some (.ok (.integer value, rest)) := by
  intro input rest read
  unfold number? at read
  split at read
  · obtain ⟨used, rfl, same⟩ := local_readNumber false value _ _ (Option.some.inj read)
    exact ⟨Octet.minus :: used, rfl, fun other others => congrArg some (same other others)⟩
  · split at read
    · rename_i digit
      obtain ⟨used, parts, same⟩ := local_readNumber true value _ _ (Option.some.inj read)
      have something := same [] rfl
      cases used with
      | nil => cases something
      | cons octet used =>
        obtain ⟨rfl, rfl⟩ := List.cons.inj parts
        exact ⟨_ :: used, rfl, fun other others =>
          (number?_of_digit digit _).trans (congrArg some (same other others))⟩
    · cases read
  · cases read

/-! ### Scalars that are passed over -/

theorem skipScalar?_of_digit {first : UInt8} (digit : Octet.isDigit first = true) (rest : Octets) :
    skipScalar? (first :: rest) = some (skipNumber (first :: rest)) := by
  unfold skipScalar?
  split
  any_goals
    rename_i same
    obtain ⟨rfl, rfl⟩ := List.cons.inj same
    cases digit
  · rename_i same
    obtain ⟨rfl, rfl⟩ := List.cons.inj same
    rw [if_pos digit]
  · rename_i same
    cases same

theorem local_skipScalar? :
    Local Unnumeric fun input rest => skipScalar? input = some (.ok rest) := by
  intro input rest skipped
  have marked {goes : Octets → Octets → Prop} {follows : Octets → Prop} (letter : UInt8)
      {left : Octets} (taken : Local follows goes) (there : goes left rest)
      (marks : ∀ input rest, goes input rest → skipScalar? (letter :: input) = some (.ok rest))
      (fewer : ∀ other, Unnumeric other → follows other) :
      ∃ used, letter :: left = used ++ rest ∧
        ∀ other, Unnumeric other → skipScalar? (used ++ other) = some (.ok other) := by
    obtain ⟨used, rfl, same⟩ := taken _ _ there
    exact ⟨letter :: used, rfl, fun other others => marks _ _ (same other (fewer other others))⟩
  unfold skipScalar? at skipped
  split at skipped
  · exact marked Octet.smallN (local_readWord nullTail) (Option.some.inj skipped)
      (fun _ _ => congrArg some) fun _ _ => trivial
  · exact marked Octet.smallT (local_readWord trueTail) (Option.some.inj skipped)
      (fun _ _ => congrArg some) fun _ _ => trivial
  · exact marked Octet.smallF (local_readWord falseTail) (Option.some.inj skipped)
      (fun _ _ => congrArg some) fun _ _ => trivial
  · exact marked Octet.quote local_skipString (Option.some.inj skipped)
      (fun _ _ => congrArg some) fun _ _ => trivial
  · exact marked Octet.minus local_skipNumber (Option.some.inj skipped)
      (fun _ _ => congrArg some) fun _ => id
  · split at skipped
    · rename_i digit
      obtain ⟨used, parts, same⟩ := local_skipNumber _ _ (Option.some.inj skipped)
      have something := same [] rfl
      cases used with
      | nil => cases something
      | cons octet used =>
        obtain ⟨rfl, rfl⟩ := List.cons.inj parts
        exact ⟨_ :: used, rfl, fun other others =>
          (skipScalar?_of_digit digit _).trans (congrArg some (same other others))⟩
    · cases skipped
  · cases skipped

/-- A scalar begins with no blank. -/
theorem graphic_of_skipScalar? {input : Octets} {result : Except Fault Octets}
    (skipped : skipScalar? input = some result) :
    ∃ octet left, input = octet :: left ∧ isBlank octet = false := by
  unfold skipScalar? at skipped
  split at skipped
  · exact ⟨_, _, rfl, rfl⟩
  · exact ⟨_, _, rfl, rfl⟩
  · exact ⟨_, _, rfl, rfl⟩
  · exact ⟨_, _, rfl, rfl⟩
  · exact ⟨_, _, rfl, rfl⟩
  · split at skipped
    · rename_i digit
      exact ⟨_, _, rfl, isBlank_of_isDigit digit⟩
    · cases skipped
  · cases skipped

/-! ### Keys -/

theorem readColon_iff {input rest : Octets} :
    readColon input = .ok rest ↔ skipBlanks input = Octet.colon :: rest := by
  refine ⟨readColon_ok, fun at_colon => ?_⟩
  rw [readColon, at_colon]
  exact if_pos (beq_self_eq_true _)

theorem local_readColon : Local Free fun input rest => readColon input = .ok rest :=
  (local_octet Octet.colon).congr fun _ _ => readColon_iff.symm

/-- Where the next key stands. -/
theorem nextKey?_iff {isFirst : Bool} {key : String} {input rest : Octets} :
    nextKey? isFirst input = .ok (some (key, rest)) ↔
      ∃ text, (isFirst = true ∧ skipBlanks input = Octet.quote :: text ∨
          isFirst = false ∧ ∃ behind, skipBlanks input = Octet.comma :: behind ∧
            skipBlanks behind = Octet.quote :: text) ∧
        readString text = .ok (key, rest) := by
  constructor
  · intro next
    obtain ⟨text, read, place⟩ := nextKey?_some next
    exact ⟨text, place, read⟩
  · rintro ⟨text, ⟨rfl, at_quote⟩ | ⟨rfl, behind, at_comma, at_quote⟩, read⟩
    · simp only [nextKey?, at_quote, read]
      rfl
    · simp only [nextKey?, at_comma, at_quote, read]
      rfl

theorem local_nextKey? (isFirst : Bool) (key : String) :
    Local Free fun input rest => nextKey? isFirst input = .ok (some (key, rest)) := by
  have quoted := (local_readString key).behind (local_octet Octet.quote)
  cases isFirst with
  | true =>
    refine quoted.congr fun input rest => ?_
    rw [nextKey?_iff]
    simp
  | false =>
    refine (quoted.behind (local_octet Octet.comma)).congr fun input rest => ?_
    rw [nextKey?_iff]
    simp only [Bool.false_eq_true, false_and, true_and, false_or]
    constructor
    · rintro ⟨behind, at_comma, text, at_quote, read⟩
      exact ⟨text, ⟨behind, at_comma, at_quote⟩, read⟩
    · rintro ⟨text, ⟨behind, at_comma, at_quote⟩, read⟩
      exact ⟨behind, at_comma, text, at_quote, read⟩

theorem skipKey_iff {input rest : Octets} :
    skipKey input = .ok rest ↔ ∃ text, skipBlanks input = Octet.quote :: text ∧
      ∃ behind, skipString text = .ok behind ∧ skipBlanks behind = Octet.colon :: rest := by
  constructor
  · intro skipped
    rw [skipKey] at skipped
    split at skipped
    · cases skipped
    · rename_i at_octet
      split at skipped
      · cases skipped
      · rename_i quote
        obtain rfl : _ = Octet.quote := by simpa using quote
        split at skipped
        · cases skipped
        · rename_i string
          split at skipped
          · cases skipped
          · rename_i at_colon
            split at skipped
            · rename_i colon
              cases skipped
              exact ⟨_, at_octet, _, string, beq_iff_eq.1 colon ▸ at_colon⟩
            · cases skipped
  · rintro ⟨text, at_quote, behind, string, at_colon⟩
    simp only [skipKey, at_quote, string, at_colon]
    rfl

theorem local_skipKey : Local Free fun input rest => skipKey input = .ok rest :=
  (((local_octet Octet.colon).behind local_skipString).behind (local_octet Octet.quote)).congr
    fun _ _ => skipKey_iff.symm

end Json

end LatencyService
