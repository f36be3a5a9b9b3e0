/-
Values are known from their own stretches. A value that is passed over is the
same stretch of the text whatever comes behind it, and so is a value that a
shape reads, with the same result; blanks before it do not count either.
-/

import LatencyService.Proofs.Locality
import LatencyService.Proofs.Members

namespace LatencyService

namespace Json

/-! ### Values that are passed over -/

/-- A move of the loop that passes over values: what it expects, which containers are open and what
is left of the text, before the move and behind it. -/
inductive Move : Expectation → List Frame → Octets → Expectation → List Frame → Octets → Prop where
  | scalar {frames : List Frame} {input left : Octets}
      (skipped : skipScalar? (skipBlanks input) = some (.ok left)) :
      Move .value frames input .next frames left
  | list {frames : List Frame} {input left : Octets}
      (at_bracket : skipBlanks input = Octet.openBracket :: left) :
      Move .value frames input .first (.list :: frames) left
  | table {frames : List Frame} {input left : Octets}
      (at_brace : skipBlanks input = Octet.openBrace :: left) :
      Move .value frames input .first (.table :: frames) left
  | closing {expectation : Expectation} {frame : Frame} {frames : List Frame} {input left : Octets}
      (started : expectation ≠ .value) (closes : skipBlanks input = frame.closing :: left) :
      Move expectation (frame :: frames) input .next frames left
  | firstItem {frames : List Frame} {input left : Octets} {octet : UInt8}
      (at_octet : skipBlanks input = octet :: left) (inner : octet ≠ Octet.closeBracket) :
      Move .first (.list :: frames) input .value (.list :: frames) input
  | firstEntry {frames : List Frame} {input left : Octets} (key : skipKey input = .ok left) :
      Move .first (.table :: frames) input .value (.table :: frames) left
  | nextItem {frames : List Frame} {input left : Octets}
      (at_comma : skipBlanks input = Octet.comma :: left) :
      Move .next (.list :: frames) input .value (.list :: frames) left
  | nextEntry {frames : List Frame} {input behind left : Octets}
      (at_comma : skipBlanks input = Octet.comma :: behind) (key : skipKey behind = .ok left) :
      Move .next (.table :: frames) input .value (.table :: frames) left

section Moves

variable {fuel : Nat} {expectation later : Expectation} {frames inner : List Frame}
  {input left rest : Octets}

/-- Blanks before a value do not count. -/
theorem skipOpen_skipBlanks (fuel : Nat) (frames : List Frame) (input : Octets) :
    skipOpen fuel .value frames (skipBlanks input) = .ok rest ↔
      skipOpen fuel .value frames input = .ok rest := by
  cases fuel with
  | zero => exact ⟨nofun, nofun⟩
  | succ fuel => rw [skipOpen, skipOpen, skipBlanks_skipBlanks]

/-- The loop makes the moves that there are. -/
theorem Move.skipOpen (move : Move expectation frames input later inner left)
    (skipped : skipOpen fuel later inner left = .ok rest) :
    skipOpen (fuel + 1) expectation frames input = .ok rest := by
  cases move with
  | scalar there =>
    rw [Json.skipOpen, there]
    exact skipped
  | list at_bracket =>
    rw [Json.skipOpen, at_bracket]
    exact skipped
  | table at_brace =>
    rw [Json.skipOpen, at_brace]
    exact skipped
  | closing started closes =>
    rename_i frame
    have goes := (@step_closing _ frame inner _ _ started closes).goes fuel []
    rw [List.append_nil, List.append_nil] at goes
    exact goes.trans skipped
  | firstItem at_octet inner =>
    rw [← skipOpen_skipBlanks, at_octet] at skipped
    rw [skipOpen_first_item at_octet (beq_eq_false_iff_ne.2 inner)]
    exact skipped
  | firstEntry key =>
    obtain ⟨text, at_quote, behind, string, at_colon⟩ := skipKey_iff.1 key
    have key : skipKey (Octet.quote :: text) = .ok left :=
      skipKey_iff.2 ⟨text, skipBlanks_cons rfl text, behind, string, at_colon⟩
    rw [skipOpen_first_entry at_quote key]
    exact skipped
  | nextItem at_comma =>
    rw [skipOpen_next_item at_comma]
    exact skipped
  | nextEntry at_comma key =>
    rw [skipOpen_next_entry at_comma key]
    exact skipped

theorem exists_move_value (skipped : skipOpen (fuel + 1) .value frames input = .ok rest) :
    ∃ later inner left, Move .value frames input later inner left ∧
      skipOpen fuel later inner left = .ok rest := by
  rw [skipOpen] at skipped
  split at skipped
  · cases skipped
  · rename_i scalar
    exact ⟨_, _, _, .scalar scalar, skipped⟩
  · split at skipped
    · cases skipped
    · rename_i at_bracket
      exact ⟨_, _, _, .list at_bracket, skipped⟩
    · rename_i at_brace
      exact ⟨_, _, _, .table at_brace, skipped⟩
    · cases skipped

theorem exists_move_first {frame : Frame}
    (skipped : skipOpen (fuel + 1) .first (frame :: frames) input = .ok rest) :
    ∃ later inner left, Move .first (frame :: frames) input later inner left ∧
      skipOpen fuel later inner left = .ok rest := by
  rw [skipOpen] at skipped
  split at skipped
  · cases skipped
  · rename_i octet behind at_octet
    split at skipped
    · rename_i closes
      have ended := beq_iff_eq.1 closes ▸ at_octet
      exact ⟨_, _, _, .closing Expectation.noConfusion ended, skipped⟩
    · rename_i open_still
      cases frame with
      | list =>
        dsimp only at skipped
        rw [← at_octet, skipOpen_skipBlanks] at skipped
        exact ⟨_, _, _, .firstItem at_octet fun same => open_still (beq_iff_eq.2 same), skipped⟩
      | table =>
        dsimp only at skipped
        split at skipped
        · cases skipped
        · rename_i key
          obtain ⟨text, at_quote, rest⟩ := skipKey_iff.1 key
          rw [← at_octet, skipBlanks_skipBlanks] at at_quote
          exact ⟨_, _, _, .firstEntry (skipKey_iff.2 ⟨text, at_quote, rest⟩), skipped⟩

theorem exists_move_next {frame : Frame}
    (skipped : skipOpen (fuel + 1) .next (frame :: frames) input = .ok rest) :
    ∃ later inner left, Move .next (frame :: frames) input later inner left ∧
      skipOpen fuel later inner left = .ok rest := by
  rw [skipOpen] at skipped
  split at skipped
  · cases skipped
  · rename_i octet behind at_octet
    split at skipped
    · rename_i closes
      have ended := beq_iff_eq.1 closes ▸ at_octet
      exact ⟨_, _, _, .closing Expectation.noConfusion ended, skipped⟩
    · split at skipped
      · cases skipped
      · rename_i comma
        obtain rfl : octet = Octet.comma := by simpa using comma
        cases frame with
        | list => exact ⟨_, _, _, .nextItem at_octet, skipped⟩
        | table =>
          dsimp only at skipped
          split at skipped
          · cases skipped
          · rename_i key
            exact ⟨_, _, _, .nextEntry at_octet key, skipped⟩

/-- The loop that comes to an end makes moves until nothing is open. -/
theorem exists_move (skipped : skipOpen (fuel + 1) expectation frames input = .ok rest) :
    frames = [] ∧ expectation ≠ .value ∧ rest = input ∨
      ∃ later inner left, Move expectation frames input later inner left ∧
        skipOpen fuel later inner left = .ok rest := by
  cases expectation with
  | value => exact .inr (exists_move_value skipped)
  | first =>
    cases frames with
    | nil =>
      cases skipped
      exact .inl ⟨rfl, nofun, rfl⟩
    | cons frame frames => exact .inr (exists_move_first skipped)
  | next =>
    cases frames with
    | nil =>
      cases skipped
      exact .inl ⟨rfl, nofun, rfl⟩
    | cons frame frames => exact .inr (exists_move_next skipped)

/-- What may follow a move, by what is expected behind it. -/
def Follows : Expectation → Octets → Prop
  | .value, rest => ∃ octet left, skipBlanks rest = octet :: left ∧ octet ≠ Octet.closeBracket
  | .first, _ => True
  | .next, rest => Stops rest

/-- Something that may stand behind a value stands at the first octet that is no blank. -/
theorem stops_of_skipBlanks {octet : UInt8} (at_octet : skipBlanks input = octet :: left)
    (mark : octet = Octet.comma ∨ octet = Octet.closeBracket ∨ octet = Octet.closeBrace) :
    Stops input := by
  intro first there
  cases input with
  | nil => cases there
  | cons head input =>
    obtain rfl : head = first := Option.some.inj there
    by_cases blank : isBlank head = true
    · exact .inl blank
    · rw [skipBlanks_cons (Bool.eq_false_iff.2 blank)] at at_octet
      exact .inr ((List.cons.inj at_octet).1 ▸ mark)

/-- A move begins only with what may follow the one before. -/
theorem Move.follows (move : Move expectation frames input later inner left) :
    Follows expectation input := by
  cases move with
  | scalar there =>
    cases at_octet : skipBlanks input with
    | nil =>
      rw [at_octet] at there
      cases there
    | cons octet left =>
      refine ⟨octet, left, at_octet, ?_⟩
      rintro rfl
      rw [at_octet] at there
      cases there
  | list at_bracket => exact ⟨_, _, at_bracket, by decide⟩
  | table at_brace => exact ⟨_, _, at_brace, by decide⟩
  | @closing expectation frame frames _ _ started closes =>
    cases expectation with
    | value => exact absurd rfl started
    | first => trivial
    | next =>
      refine stops_of_skipBlanks closes (.inr ?_)
      cases frame with
      | list => exact .inl rfl
      | table => exact .inr rfl
  | firstItem at_octet inner => trivial
  | firstEntry key => trivial
  | nextItem at_comma => exact stops_of_skipBlanks at_comma (.inl rfl)
  | nextEntry at_comma key => exact stops_of_skipBlanks at_comma (.inl rfl)

/-- The loop goes on only with what may follow. -/
theorem follows_of_skipOpen (skipped : skipOpen fuel expectation frames input = .ok rest)
    (stops : Stops rest) : Follows expectation input := by
  cases fuel with
  | zero => cases skipped
  | succ fuel =>
    rcases exists_move skipped with ⟨rfl, started, rfl⟩ | ⟨later, inner, left, move, -⟩
    · cases expectation with
      | value => exact absurd rfl started
      | first => trivial
      | next => exact stops
    · exact move.follows

theorem Move.local (expectation later : Expectation) (frames inner : List Frame) :
    Local (Follows later) fun input left => Move expectation frames input later inner left := by
  intro input left move
  have anything {goes : Octets → Octets → Prop} (taken : Local Free goes) (there : goes input left)
      (moves : ∀ input left, goes input left → Move expectation frames input later inner left) :
      ∃ used, input = used ++ left ∧ ∀ other, Follows later other →
        Move expectation frames (used ++ other) later inner other := by
    obtain ⟨used, rfl, same⟩ := taken _ _ there
    exact ⟨used, rfl, fun other _ => moves _ _ (same other trivial)⟩
  cases move with
  | scalar there =>
    obtain ⟨used, rfl, same⟩ :=
      local_skipScalar?.behind_blanks rfl (fun _ _ => graphic_of_skipScalar?) _ _ there
    exact ⟨used, rfl, fun other stops => .scalar (same other (Stops.unnumeric stops))⟩
  | list at_bracket => exact anything (local_octet _) at_bracket fun _ _ => .list
  | table at_brace => exact anything (local_octet _) at_brace fun _ _ => .table
  | closing started closes => exact anything (local_octet _) closes fun _ _ => .closing started
  | firstItem at_octet inner =>
    refine ⟨[], rfl, ?_⟩
    rintro other ⟨octet, behind, at_octet, inner⟩
    exact .firstItem at_octet inner
  | firstEntry key => exact anything local_skipKey key fun _ _ => .firstEntry
  | nextItem at_comma => exact anything (local_octet _) at_comma fun _ _ => .nextItem
  | nextEntry at_comma key =>
    exact anything (local_skipKey.behind (local_octet Octet.comma)) ⟨_, at_comma, key⟩
      fun _ _ there => .nextEntry there.choose_spec.1 there.choose_spec.2

end Moves

/-- The loop takes the stretch that it takes, before whatever else may follow a value. -/
theorem local_skipOpen (fuel : Nat) (expectation : Expectation) (frames : List Frame) :
    Local Stops fun input rest => skipOpen fuel expectation frames input = .ok rest := by
  induction fuel generalizing expectation frames with
  | zero => exact fun _ _ => nofun
  | succ fuel inductionHypothesis =>
    intro input rest skipped
    rcases exists_move skipped with ⟨rfl, started, rfl⟩ | ⟨later, inner, left, move, further⟩
    · refine ⟨[], rfl, fun other _ => ?_⟩
      cases expectation with
      | value => exact absurd rfl started
      | first | next => rfl
    · obtain ⟨used, rfl, moves⟩ := Move.local _ _ _ _ _ _ move
      obtain ⟨more, rfl, again⟩ := inductionHypothesis _ _ _ _ further
      refine ⟨used ++ more, (List.append_assoc ..).symm, fun other stops => ?_⟩
      have goes := again other stops
      have move := moves _ (follows_of_skipOpen goes stops)
      rw [← List.append_assoc] at move
      exact move.skipOpen goes

theorem local_skipValue : Local Stops fun input rest => skipValue input = .ok rest := by
  intro input rest skipped
  obtain ⟨used, parts, same⟩ := local_skipOpen _ _ _ _ _ skipped
  refine ⟨used, parts, fun other stops => ?_⟩
  rcases passes_skipOpen _ (by nofun) (same other stops) with ⟨other, -⟩ | passes
  · cases other
  · exact passes.skipValue

end Json

/-! ### Shapes -/

namespace Shape

open Json (Local Free Stops skipBlanks)

variable {Value Other : Type} {shape : Shape Value}

/-- A shape reads a value from the stretch that the value takes, and from nothing else. -/
structure Steady (shape : Shape Value) : Prop where
  measured : shape.Measured
  taken (depth : Nat) (value : Value) :
    Local Stops fun input rest => shape.read depth input = .ok (value, rest)
  /-- Blanks before a value do not count. -/
  unspaced (depth : Nat) (input : Octets) :
    shape.read depth (skipBlanks input) = shape.read depth input

theorem atValue_skipBlanks (read : Octets → Except Json.Fault (Value × Octets)) (input : Octets) :
    atValue read (skipBlanks input) = atValue read input := by
  rw [atValue, atValue, Json.skipBlanks_skipBlanks]

theorem text_read_iff {depth : Nat} {input rest : Octets} {value : String} :
    text.read depth input = .ok (value, rest) ↔
      ∃ behind, skipBlanks input = Octet.quote :: behind ∧
        Json.readString behind = .ok (value, rest) := by
  constructor
  · intro read
    simp only [text, atValue] at read
    split at read
    · cases read
    · split at read
      · rename_i at_quote
        exact ⟨_, at_quote, read⟩
      · cases read
  · rintro ⟨behind, at_quote, read⟩
    exact (atValue_of_skipBlanks at_quote).trans read

theorem text_steady : text.Steady where
  measured := text_measured
  taken _ value := ((Json.local_readString value).behind (Json.local_octet Octet.quote)).congr
    (fun _ _ => text_read_iff.symm) |>.mono fun _ _ => trivial
  unspaced _ input := atValue_skipBlanks _ input

theorem whole_read_iff {name : String} {ofInt? : Int → Option Value} {depth : Nat}
    {input rest : Octets} {value : Value} :
    (whole name ofInt?).read depth input = .ok (value, rest) ↔
      ∃ number, ofInt? number = some value ∧
        Json.number? (skipBlanks input) = some (.ok (.integer number, rest)) := by
  constructor
  · intro read
    simp only [whole, atValue] at read
    split at read
    · cases read
    · split at read
      · rename_i number
        split at read
        · rename_i held
          cases read
          exact ⟨_, held, number⟩
        · cases read
      · cases read
      · cases read
      · cases read
  · rintro ⟨number, held, read⟩
    simp only [whole, atValue]
    split
    · rename_i nothing
      rw [nothing] at read
      cases read
    · rw [read]
      dsimp only
      rw [held]

theorem whole_steady (name : String) (ofInt? : Int → Option Value) :
    (whole name ofInt?).Steady where
  measured := whole_measured name ofInt?
  taken depth value := by
    intro input rest read
    obtain ⟨number, held, read⟩ := whole_read_iff.1 read
    obtain ⟨used, rfl, same⟩ := (Json.local_number? number).behind_blanks rfl
      (fun _ _ read => Json.graphic_of_skipScalar? (Json.skipScalar?_of_number? read)) _ _ read
    exact ⟨used, rfl, fun other stops =>
      whole_read_iff.2 ⟨number, held, same other (Stops.unnumeric stops)⟩⟩
  unspaced _ input := atValue_skipBlanks _ input

theorem Steady.map (steady : shape.Steady) (change : Value → Other) :
    (shape.map change).Steady where
  measured := steady.measured.map change
  taken depth result := by
    intro input rest read
    obtain ⟨value, inner, rfl⟩ := read_map read
    obtain ⟨used, rfl, same⟩ := steady.taken depth value _ _ inner
    refine ⟨used, rfl, fun other stops => ?_⟩
    simp only [Shape.map, same other stops]
  unspaced depth input := by simp only [Shape.map, steady.unspaced]

/-- A value that is read begins with an octet that is no blank. -/
theorem Steady.begins (steady : shape.Steady) {depth : Nat} {input rest : Octets} {value : Value}
    (read : shape.read depth input = .ok (value, rest)) :
    ∃ octet used, skipBlanks input = octet :: (used ++ rest) ∧ Json.isBlank octet = false ∧
      ∀ other, Stops other → shape.read depth (octet :: (used ++ other)) = .ok (value, other) := by
  have graphic := steady.unspaced depth input
  rw [read] at graphic
  obtain ⟨used, parts, same⟩ := steady.taken depth value _ _ graphic
  cases used with
  | nil =>
    have skipped := steady.measured.skipValue (same [] Json.stops_nil)
    cases skipped
  | cons octet used => exact ⟨octet, used, parts, Json.isBlank_of_skipBlanks parts, same⟩

theorem optional_of_other {depth : Nat} {octet : UInt8} {input left : Octets}
    (at_octet : skipBlanks input = octet :: left) (other : octet ≠ Octet.smallN) :
    shape.optional.read depth input = (shape.map some).read depth (octet :: left) := by
  simp only [Shape.optional, at_octet]
  split
  · rename_i same
    exact absurd (List.cons.inj same).1 other
  · rfl

theorem optional_of_letter {depth : Nat} {input left : Octets}
    (at_letter : skipBlanks input = Octet.smallN :: left) :
    shape.optional.read depth input =
      match Json.readWord Json.nullTail left with
      | .ok rest => .ok (none, rest)
      | .error fault => .error fault := by
  simp only [Shape.optional, at_letter]
  rfl

theorem Steady.optional (steady : shape.Steady) : shape.optional.Steady where
  measured := steady.measured.optional
  taken depth result := by
    intro input rest read
    obtain ⟨blanks, parts, blank⟩ := Json.exists_blanks input
    have again (octet : UInt8) (left : Octets) (graphic : Json.isBlank octet = false) :
        skipBlanks (blanks ++ octet :: left) = octet :: left := by
      rw [Json.skipBlanks_append blank, Json.skipBlanks_cons graphic]
    cases at_octet : skipBlanks input with
    | nil =>
      simp only [Shape.optional, at_octet] at read
      have skipped := (steady.measured.map some).skipValue read
      cases skipped
    | cons octet left =>
      rw [at_octet] at parts
      by_cases letter : octet = Octet.smallN
      · subst letter
        rw [optional_of_letter at_octet] at read
        split at read
        · rename_i word
          cases read
          obtain ⟨used, rfl, same⟩ := Json.local_readWord Json.nullTail _ _ word
          refine ⟨blanks ++ Octet.smallN :: used, by simpa using parts, fun other _ => ?_⟩
          have word := same other trivial
          rw [List.append_assoc]
          show shape.optional.read depth (blanks ++ Octet.smallN :: (used ++ other)) = _
          rw [optional_of_letter (again Octet.smallN (used ++ other) rfl), word]
        · cases read
      · rw [optional_of_other at_octet letter] at read
        obtain ⟨first, used, begins, graphic, same⟩ := (steady.map some).begins read
        rw [Json.skipBlanks_cons (Json.isBlank_of_skipBlanks at_octet)] at begins
        obtain ⟨rfl, rfl⟩ := List.cons.inj begins
        refine ⟨blanks ++ octet :: used, by simpa using parts, fun other stops => ?_⟩
        rw [List.append_assoc]
        show shape.optional.read depth _ = _
        exact (optional_of_other (again octet (used ++ other) graphic) letter).trans
          (same other stops)
  unspaced depth input := by simp only [Shape.optional, Json.skipBlanks_skipBlanks]

theorem Steady.orElse (steady : shape.Steady) (value : Value) : (shape.orElse value).Steady :=
  steady.optional.map _

end Shape

end LatencyService
