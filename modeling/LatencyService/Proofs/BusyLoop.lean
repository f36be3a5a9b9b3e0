/-
What the busy loop counts. The pattern is found in the subject, so that every
match that is tried succeeds and adds one to the count. As long as all of them
together have room in the count, it never wraps on the way, and in the end it
is the number of rounds times the number of matches in a round.

What it takes to find a pattern in a subject is said here piece by piece, and
without a word on how it is looked for.
-/

import LatencyService.Operation.BusyLoop

namespace LatencyService

/-! ### Patterns -/

namespace Pattern

/-- A piece of a pattern. -/
inductive Piece where
  /-- The beginning of the subject. -/
  | beginning
  | char (char : Char)
  /-- Any number of characters without a line break among them. -/
  | anything
  /-- The end of the subject. -/
  | ending
  deriving DecidableEq, Repr

/-- Pieces match a stretch of a subject one after the other; what stands before the stretch is given,
and what stands behind it. -/
inductive Matches : List Piece → List Char → List Char → List Char → Prop where
  | nil {before after : List Char} : Matches [] before [] after
  | beginning {pieces : List Piece} {stretch after : List Char}
      (rest : Matches pieces [] stretch after) : Matches (.beginning :: pieces) [] stretch after
  | char {pieces : List Piece} {before stretch after : List Char} (char : Char)
      (rest : Matches pieces (before ++ [char]) stretch after) :
      Matches (.char char :: pieces) before (char :: stretch) after
  | anything {pieces : List Piece} {before stretch after : List Char} (chars : List Char)
      (unbroken : '\n' ∉ chars) (rest : Matches pieces (before ++ chars) stretch after) :
      Matches (.anything :: pieces) before (chars ++ stretch) after
  | ending {pieces : List Piece} {before : List Char} (rest : Matches pieces before [] []) :
      Matches (.ending :: pieces) before [] []

/-- The pieces match some stretch of the subject. -/
def IsIn (pieces : List Piece) (subject : String) : Prop :=
  ∃ before stretch after, subject.toList = before ++ stretch ++ after ∧
    Matches pieces before stretch after

end Pattern

namespace BusyLoop

open Pattern

/-- The pattern of the busy loop: a capital F at the beginning of the subject, and then anything up
to its end. -/
def pattern : List Piece := [.beginning, .char 'F', .anything, .ending]

theorem matches_pattern_iff {before stretch after : List Char} :
    Matches pattern before stretch after ↔
      before = [] ∧ after = [] ∧ ∃ rest, stretch = 'F' :: rest ∧ '\n' ∉ rest := by
  constructor
  · intro matched
    cases matched with
    | beginning fromF =>
      cases fromF with
      | char _ behindF =>
        cases behindF with
        | anything chars unbroken atEnd =>
          cases atEnd with
          | ending => exact ⟨rfl, rfl, chars, by rw [List.append_nil], unbroken⟩
  · rintro ⟨rfl, rfl, rest, rfl, unbroken⟩
    have tail : Matches [.anything, .ending] ['F'] (rest ++ []) [] :=
      .anything rest unbroken (.ending .nil)
    rw [List.append_nil] at tail
    exact .beginning (.char 'F' tail)

/-- A subject is a match if the pattern is in it. -/
theorem isMatch_iff (subject : String) : isMatch subject = true ↔ IsIn pattern subject := by
  have found : IsIn pattern subject ↔ ∃ rest, subject.toList = 'F' :: rest ∧ '\n' ∉ rest := by
    constructor
    · rintro ⟨before, stretch, after, parts, matched⟩
      obtain ⟨rfl, rfl, rest, rfl, unbroken⟩ := matches_pattern_iff.1 matched
      exact ⟨rest, by simpa using parts, unbroken⟩
    · rintro ⟨rest, parts, unbroken⟩
      exact ⟨[], 'F' :: rest, [], by simpa using parts,
        matches_pattern_iff.2 ⟨rfl, rfl, rest, rfl, unbroken⟩⟩
  rw [found, isMatch]
  split
  case h_1 rest parts =>
    have unbroken : rest.all (· != '\n') = true ↔ '\n' ∉ rest := by
      rw [List.all_eq_true]
      exact ⟨fun all member => absurd rfl (bne_iff_ne.1 (all _ member)),
        fun absent char member => bne_iff_ne.2 fun broken => absent (broken ▸ member)⟩
    rw [parts, unbroken]
    refine ⟨fun absent => ⟨rest, rfl, absent⟩, ?_⟩
    rintro ⟨_, same, absent⟩
    cases same
    exact absent
  case h_2 other =>
    refine ⟨fun hit => Bool.noConfusion hit, ?_⟩
    rintro ⟨rest, parts, -⟩
    exact absurd parts (other rest)

/-! ### The loops -/

variable {hit : Bool} {count : UInt64}

theorem round_add (first second : Nat) :
    round hit (first + second) count = round hit second (round hit first count) := by
  induction first generalizing count with
  | zero => rw [Nat.zero_add, round]
  | succ first inductionHypothesis =>
    rw [Nat.add_right_comm, round, round, inductionHypothesis]

theorem run_add (iterations first second : Nat) :
    run hit iterations (first + second) count =
      run hit iterations second (run hit iterations first count) := by
  induction first generalizing count with
  | zero => rw [Nat.zero_add, run]
  | succ first inductionHypothesis =>
    rw [Nat.add_right_comm, run, run, inductionHypothesis]

/-- A match adds one to a count that has room for it. -/
theorem toNat_add_one (room : count.toNat + 1 < UInt64.size) :
    (count + 1).toNat = count.toNat + 1 := by
  rw [UInt64.toNat_add]
  exact Nat.mod_eq_of_lt room

/-- A round adds as many as it tries, if there is room for them. -/
theorem toNat_round {iterations : Nat} (room : count.toNat + iterations < UInt64.size) :
    (round true iterations count).toNat = count.toNat + iterations := by
  induction iterations generalizing count with
  | zero => rfl
  | succ iterations inductionHypothesis =>
    have one : (count + 1).toNat = count.toNat + 1 := toNat_add_one (by omega)
    rw [round, if_pos rfl, inductionHypothesis (by omega), one]
    omega

/-- Rounds add as many as they try, if there is room for them. -/
theorem toNat_run {iterations rounds : Nat}
    (room : count.toNat + rounds * iterations < UInt64.size) :
    (run true iterations rounds count).toNat = count.toNat + rounds * iterations := by
  induction rounds generalizing count with
  | zero => rw [run, Nat.zero_mul, Nat.add_zero]
  | succ rounds inductionHypothesis =>
    rw [Nat.succ_mul] at room ⊢
    have one : (round true iterations count).toNat = count.toNat + iterations :=
      toNat_round (by omega)
    rw [run, inductionHypothesis (by omega), one]
    omega

/-- The count in the midst of the loops: so many rounds are complete, and so many matches of the next
one have been tried. -/
def countAt (iterations complete tried : Nat) : UInt64 :=
  round (isMatch subject) tried (run (isMatch subject) iterations complete 0)

/-- The loops come through every point in their midst. -/
theorem burn_eq_from {rounds iterations : UInt64} {complete tried : Nat}
    (within : complete < rounds.toNat) (upTo : tried ≤ iterations.toNat) :
    burn rounds iterations =
      run (isMatch subject) iterations.toNat (rounds.toNat - complete - 1)
        (round (isMatch subject) (iterations.toNat - tried)
          (countAt iterations.toNat complete tried)) := by
  have rest : rounds.toNat = complete + (rounds.toNat - complete - 1 + 1) := by omega
  have others : iterations.toNat = tried + (iterations.toNat - tried) := by omega
  calc burn rounds iterations
    _ = run (isMatch subject) iterations.toNat (complete + (rounds.toNat - complete - 1 + 1)) 0 := by
        rw [← rest, burn]
    _ = run (isMatch subject) iterations.toNat (rounds.toNat - complete - 1)
          (round (isMatch subject) (tried + (iterations.toNat - tried))
            (run (isMatch subject) iterations.toNat complete 0)) := by
        rw [← others, run_add, run]
    _ = _ := by rw [round_add, countAt]

/-- The subject is a match. -/
theorem isMatch_subject : isMatch subject = true := by decide

theorem toNat_burn {rounds iterations : UInt64}
    (room : rounds.toNat * iterations.toNat < UInt64.size) :
    (burn rounds iterations).toNat = rounds.toNat * iterations.toNat := by
  have start : (0 : UInt64).toNat + rounds.toNat * iterations.toNat < UInt64.size := by
    rw [UInt64.toNat_zero]
    omega
  rw [burn, isMatch_subject, toNat_run start, UInt64.toNat_zero, Nat.zero_add]

/-- The count never wraps before the end. -/
theorem toNat_countAt {rounds iterations : UInt64}
    (room : rounds.toNat * iterations.toNat < UInt64.size) {complete tried : Nat}
    (within : complete < rounds.toNat) (upTo : tried ≤ iterations.toNat) :
    (countAt iterations.toNat complete tried).toNat = complete * iterations.toNat + tried := by
  have less : (complete + 1) * iterations.toNat ≤ rounds.toNat * iterations.toNat :=
    Nat.mul_le_mul_right _ within
  rw [Nat.succ_mul] at less
  have rounded : (run true iterations.toNat complete 0).toNat =
      complete * iterations.toNat := by
    have start : (0 : UInt64).toNat + complete * iterations.toNat < UInt64.size := by
      rw [UInt64.toNat_zero]
      omega
    rw [toNat_run start, UInt64.toNat_zero, Nat.zero_add]
  rw [countAt, isMatch_subject, toNat_round (by omega), rounded]

/-- Rounds that are made in two parts are counted in two parts. -/
theorem toNat_burn_add {first second iterations : UInt64}
    (room : (first.toNat + second.toNat) * iterations.toNat < UInt64.size) :
    (burn (first + second) iterations).toNat =
      (burn first iterations).toNat + (burn second iterations).toNat := by
  have parts : first.toNat * iterations.toNat + second.toNat * iterations.toNat <
      UInt64.size := by
    rwa [← Nat.add_mul]
  have together : (first + second).toNat * iterations.toNat =
      first.toNat * iterations.toNat + second.toNat * iterations.toNat := by
    -- The number of rounds may wrap, but only where a round is empty.
    by_cases empty : iterations.toNat = 0
    · rw [empty, Nat.mul_zero, Nat.mul_zero, Nat.mul_zero]
    · have least : first.toNat + second.toNat ≤
          (first.toNat + second.toNat) * iterations.toNat :=
        Nat.le_mul_of_pos_right _ (Nat.pos_of_ne_zero empty)
      have whole : (first + second).toNat = first.toNat + second.toNat := by
        rw [UInt64.toNat_add]
        exact Nat.mod_eq_of_lt (Nat.lt_of_le_of_lt least room)
      rw [whole, Nat.add_mul]
  rw [toNat_burn (by omega), toNat_burn (by omega), toNat_burn (by omega), together]

/-! ### The matches are counted -/

/-- The pattern is in the subject, and so whatever number of matches is tried is counted, provided
that the count has room for it: in the end it is the product of rounds and iterations, and nowhere
in the midst of the loops is it anything but the number of matches that have been tried by then. It
is none at all if there are no rounds or no iterations, and the counts of two parts add up to that
of the whole. -/
theorem matches_counted :
    IsIn pattern subject ∧
    (∀ rounds iterations : UInt64, rounds.toNat * iterations.toNat < UInt64.size →
      burn rounds iterations = rounds * iterations ∧
      (burn rounds iterations).toNat = rounds.toNat * iterations.toNat ∧
      ∀ complete tried, complete < rounds.toNat → tried ≤ iterations.toNat →
        burn rounds iterations =
            run (isMatch subject) iterations.toNat (rounds.toNat - complete - 1)
              (round (isMatch subject) (iterations.toNat - tried)
                (countAt iterations.toNat complete tried)) ∧
          (countAt iterations.toNat complete tried).toNat =
            complete * iterations.toNat + tried) ∧
    (∀ number : UInt64, burn 0 number = 0 ∧ burn number 0 = 0) ∧
    ∀ first second iterations : UInt64,
      (first.toNat + second.toNat) * iterations.toNat < UInt64.size →
      burn (first + second) iterations = burn first iterations + burn second iterations ∧
        (burn (first + second) iterations).toNat =
          (burn first iterations).toNat + (burn second iterations).toNat := by
  refine ⟨(isMatch_iff subject).1 isMatch_subject, fun rounds iterations room => ⟨?_, toNat_burn room,
    fun complete tried within upTo => ⟨burn_eq_from within upTo, toNat_countAt room within upTo⟩⟩,
    fun number => ⟨?_, ?_⟩, fun first second iterations room => ⟨?_, toNat_burn_add room⟩⟩
  · rw [← UInt64.toNat_inj, toNat_burn room, UInt64.toNat_mul]
    exact (Nat.mod_eq_of_lt room).symm
  · rw [← UInt64.toNat_inj, toNat_burn (by simp [UInt64.size])]
    simp
  · rw [← UInt64.toNat_inj, toNat_burn (by simp [UInt64.size])]
    simp
  · have whole := toNat_burn_add room
    rw [← UInt64.toNat_inj, UInt64.toNat_add, ← whole]
    exact (Nat.mod_eq_of_lt (UInt64.toNat_lt _)).symm

/-- The counts of the greatest number of rounds, one match each, and of some rounds of a hundred
matches. -/
theorem matches_counted_at_greatest :
    (0xffffffffffffffff : UInt64).toNat * (1 : UInt64).toNat < UInt64.size ∧
      burn 0xffffffffffffffff 1 = 0xffffffffffffffff ∧
      (2 : UInt64).toNat < (7 : UInt64).toNat ∧ 50 ≤ (100 : UInt64).toNat ∧
      (countAt 100 2 50).toNat = 250 ∧
      ((3 : UInt64).toNat + (4 : UInt64).toNat) * (100 : UInt64).toNat < UInt64.size ∧
      burn 7 100 = burn 3 100 + burn 4 100 := by
  obtain ⟨-, counted, -, added⟩ := matches_counted
  have greatest := counted 0xffffffffffffffff 1 (by decide)
  have seven := counted 7 100 (by decide)
  have middle := seven.2.2 2 50 (by decide) (by decide)
  refine ⟨by decide, greatest.1, by decide, by decide, middle.2, by decide, ?_⟩
  exact (added 3 4 100 (by decide)).1

end BusyLoop

end LatencyService
