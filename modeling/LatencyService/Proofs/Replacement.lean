/-
Octets that need not be UTF-8, read as a text. Wherever the octets of a
character stand they read as that character, and what lies between, in which no
character begins, reads as replacement characters. Octets that are UTF-8
throughout come back as the text that they spell.
-/

import LatencyService.Proofs.Spelling
import Mathlib.Data.List.Basic

namespace LatencyService

namespace Octets

/-! ### What octets read as -/

/-- No character begins anywhere in a stretch of octets in front of others. -/
def Broken (piece rest : Octets) : Prop :=
  ∀ before behind, piece = before ++ behind → behind ≠ [] →
    ∀ char, ¬String.utf8EncodeChar char <+: behind ++ rest

/-- The characters that octets read as. -/
inductive Decodes : Octets → List Char → Prop where
  | nil : Decodes [] []
  | char (char : Char) {rest : Octets} {chars : List Char} (later : Decodes rest chars) :
      Decodes (String.utf8EncodeChar char ++ rest) (char :: chars)
  | broken {piece rest : Octets} {chars : List Char} (there : piece ≠ [])
      (broken : Broken piece rest) (later : Decodes rest chars) :
      Decodes (piece ++ rest) ('\uFFFD' :: chars)

/-- A text reads as itself. -/
theorem decodes_ofText (text : String) : Decodes (ofText text) text.toList := by
  rw [ofText_eq_flatMap]
  induction text.toList with
  | nil => exact .nil
  | cons char rest inductionHypothesis => exact .char char inductionHypothesis

/-! ### The first octet of a character -/

/-- A first octet asks for so many continuations, and for a range of the first of them. -/
def Leads (first count low high : Nat) : Prop :=
  0xC2 ≤ first ∧ first ≤ 0xDF ∧ count = 1 ∧ low = 0x80 ∧ high = 0xBF ∨
    first = 0xE0 ∧ count = 2 ∧ low = 0xA0 ∧ high = 0xBF ∨
    first = 0xED ∧ count = 2 ∧ low = 0x80 ∧ high = 0x9F ∨
    0xE1 ≤ first ∧ first ≤ 0xEF ∧ first ≠ 0xED ∧ count = 2 ∧ low = 0x80 ∧ high = 0xBF ∨
    first = 0xF0 ∧ count = 3 ∧ low = 0x90 ∧ high = 0xBF ∨
    0xF1 ≤ first ∧ first ≤ 0xF3 ∧ count = 3 ∧ low = 0x80 ∧ high = 0xBF ∨
    first = 0xF4 ∧ count = 3 ∧ low = 0x80 ∧ high = 0x8F

theorem sequence?_eq_some_iff {first low high : UInt8} {count : Nat} :
    sequence? first = some (count, low, high) ↔
      Leads first.toNat count low.toNat high.toNat := by
  unfold sequence? Leads
  simp only [UInt8.le_iff_toNat_le, Bool.and_eq_true, decide_eq_true_eq, beq_iff_eq,
    ← UInt8.toNat_inj, UInt8.reduceToNat]
  split_ifs <;> simp [← UInt8.toNat_inj] <;> omega

/-- What continues a character. -/
def Continues (octet : UInt8) : Prop := 0x80 ≤ octet.toNat ∧ octet.toNat ≤ 0xBF

/-- The continuations that are found are the first of what follows, and no more than were asked
for. -/
theorem continuations_spec {count : Nat} {low high : UInt8} (rest : Octets)
    (least : 0x80 ≤ low.toNat) (most : high.toNat ≤ 0xBF) :
    continuations count low high rest <+: rest ∧
      (continuations count low high rest).length ≤ count ∧
      (∀ octet ∈ continuations count low high rest, Continues octet) ∧
      ∀ octet ∈ (continuations count low high rest).head?,
        low.toNat ≤ octet.toNat ∧ octet.toNat ≤ high.toNat := by
  induction rest generalizing count low high with
  | nil => simp [continuations]
  | cons octet rest inductionHypothesis =>
    cases count with
    | zero => simp [continuations]
    | succ count =>
      rw [continuations]
      split
      · rename_i within
        simp only [Bool.and_eq_true, decide_eq_true_eq, UInt8.le_iff_toNat_le] at within
        obtain ⟨stands, few, continuing, -⟩ :=
          @inductionHypothesis count 0x80 0xBF (by decide) (by decide)
        refine ⟨List.cons_prefix_cons.2 ⟨rfl, stands⟩, Nat.succ_le_succ few, ?_, ?_⟩
        · intro other member
          rcases List.mem_cons.1 member with rfl | later
          · exact ⟨by omega, by omega⟩
          · exact continuing other later
        · rintro other ⟨⟩
          exact within
      · simp

/-! ### Characters of more than one octet -/

theorem val_ofNat {code : Nat} (valid : code.isValidChar) : (Char.ofNat code).val.toNat = code := by
  rw [Char.ofNat, dif_pos valid]
  rfl

section Encoding

variable {first second third fourth : UInt8}

theorem encode_two (low : 0xC2 ≤ first.toNat) (high : first.toNat ≤ 0xDF)
    (continues : Continues second) :
    String.utf8EncodeChar (Char.ofNat (codePoint first [second])) = [first, second] := by
  obtain ⟨least, most⟩ := continues
  have code : codePoint first [second] = first.toNat % 0x20 * 0x40 + second.toNat % 0x40 := rfl
  have valid : (codePoint first [second]).isValidChar := .inl (by omega)
  rw [String.utf8EncodeChar, val_ofNat valid, code]
  rw [if_neg (by omega), if_pos (by omega)]
  simp only [List.cons.injEq, ← UInt8.toNat_inj, UInt8.toNat_ofNat', and_true]
  omega

theorem encode_three (low : 0xE0 ≤ first.toNat) (high : first.toNat ≤ 0xEF)
    (continues : Continues second) (continuesToo : Continues third)
    (long : first.toNat = 0xE0 → 0xA0 ≤ second.toNat)
    (whole : first.toNat = 0xED → second.toNat ≤ 0x9F) :
    String.utf8EncodeChar (Char.ofNat (codePoint first [second, third])) =
      [first, second, third] := by
  obtain ⟨least, most⟩ := continues
  obtain ⟨least', most'⟩ := continuesToo
  have code : codePoint first [second, third] =
      (first.toNat % 0x10 * 0x40 + second.toNat % 0x40) * 0x40 + third.toNat % 0x40 := rfl
  have valid : (codePoint first [second, third]).isValidChar := by
    unfold Nat.isValidChar
    omega
  rw [String.utf8EncodeChar, val_ofNat valid, code]
  rw [if_neg (by omega), if_neg (by omega), if_pos (by omega)]
  simp only [List.cons.injEq, ← UInt8.toNat_inj, UInt8.toNat_ofNat', and_true]
  omega

theorem encode_four (low : 0xF0 ≤ first.toNat) (high : first.toNat ≤ 0xF4)
    (continues : Continues second) (continuesToo : Continues third)
    (continuesLast : Continues fourth) (long : first.toNat = 0xF0 → 0x90 ≤ second.toNat)
    (within : first.toNat = 0xF4 → second.toNat ≤ 0x8F) :
    String.utf8EncodeChar (Char.ofNat (codePoint first [second, third, fourth])) =
      [first, second, third, fourth] := by
  obtain ⟨least, most⟩ := continues
  obtain ⟨least', most'⟩ := continuesToo
  obtain ⟨least'', most''⟩ := continuesLast
  have code : codePoint first [second, third, fourth] =
      ((first.toNat % 0x08 * 0x40 + second.toNat % 0x40) * 0x40 + third.toNat % 0x40) * 0x40 +
        fourth.toNat % 0x40 := rfl
  have valid : (codePoint first [second, third, fourth]).isValidChar := by
    unfold Nat.isValidChar
    omega
  rw [String.utf8EncodeChar, val_ofNat valid, code]
  rw [if_neg (by omega), if_neg (by omega), if_neg (by omega)]
  simp only [List.cons.injEq, ← UInt8.toNat_inj, UInt8.toNat_ofNat', and_true]
  omega

end Encoding

/-- As many continuations as were asked for, the first of them in its range, spell a character. -/
theorem encode_of_leads {first : UInt8} {tail : Octets} {low high : Nat}
    (leads : Leads first.toNat tail.length low high) (continues : ∀ octet ∈ tail, Continues octet)
    (within : ∀ octet ∈ tail.head?, low ≤ octet.toNat ∧ octet.toNat ≤ high) :
    String.utf8EncodeChar (Char.ofNat (codePoint first tail)) = first :: tail := by
  have length : tail.length = 1 ∨ tail.length = 2 ∨ tail.length = 3 := by
    unfold Leads at leads
    omega
  rcases length with length | length | length
  · obtain ⟨second, rfl⟩ := List.length_eq_one_iff.1 length
    have range := within second rfl
    unfold Leads at leads
    exact encode_two (by omega) (by omega) (continues second List.mem_cons_self)
  · obtain ⟨second, third, rfl⟩ := List.length_eq_two.1 length
    have range := within second rfl
    unfold Leads at leads
    exact encode_three (by omega) (by omega) (continues second List.mem_cons_self)
      (continues third (by simp)) (by omega) (by omega)
  · obtain ⟨second, third, fourth, rfl⟩ := List.length_eq_three.1 length
    have range := within second rfl
    unfold Leads at leads
    exact encode_four (by omega) (by omega) (continues second List.mem_cons_self)
      (continues third (by simp)) (continues fourth (by simp)) (by omega) (by omega)

theorem exists_leads_two {first second : Nat} (low : 0xE0 ≤ first) (high : first ≤ 0xEF)
    (least : 0x80 ≤ second) (most : second ≤ 0xBF) (long : first = 0xE0 → 0xA0 ≤ second)
    (whole : first = 0xED → second ≤ 0x9F) :
    ∃ low high : UInt8, Leads first 2 low.toNat high.toNat ∧
      low.toNat ≤ second ∧ second ≤ high.toNat := by
  by_cases shortest : first = 0xE0
  · exact ⟨0xA0, 0xBF, .inr (.inl ⟨shortest, rfl, rfl, rfl⟩), long shortest, most⟩
  · by_cases paired : first = 0xED
    · exact ⟨0x80, 0x9F, .inr (.inr (.inl ⟨paired, rfl, rfl, rfl⟩)), least, whole paired⟩
    · refine ⟨0x80, 0xBF, .inr (.inr (.inr (.inl ⟨?_, high, paired, rfl, rfl, rfl⟩))), least, most⟩
      omega

theorem exists_leads_three {first second : Nat} (low : 0xF0 ≤ first) (high : first ≤ 0xF4)
    (least : 0x80 ≤ second) (most : second ≤ 0xBF) (long : first = 0xF0 → 0x90 ≤ second)
    (within : first = 0xF4 → second ≤ 0x8F) :
    ∃ low high : UInt8, Leads first 3 low.toNat high.toNat ∧
      low.toNat ≤ second ∧ second ≤ high.toNat := by
  by_cases shortest : first = 0xF0
  · refine ⟨0x90, 0xBF, ?_, long shortest, most⟩
    exact .inr (.inr (.inr (.inr (.inl ⟨shortest, rfl, rfl, rfl⟩))))
  · by_cases last : first = 0xF4
    · refine ⟨0x80, 0x8F, ?_, least, within last⟩
      exact .inr (.inr (.inr (.inr (.inr (.inr ⟨last, rfl, rfl, rfl⟩)))))
    · refine ⟨0x80, 0xBF, ?_, least, most⟩
      exact .inr (.inr (.inr (.inr (.inr (.inl ⟨by omega, by omega, rfl, rfl, rfl⟩)))))

/-- A character is one octet of ASCII, or a first octet with the continuations that it asks for. -/
theorem encode_cases (char : Char) :
    (∃ octet, String.utf8EncodeChar char = [octet] ∧ octet.toNat < 0x80) ∨
      ∃ first tail low high, String.utf8EncodeChar char = first :: tail ∧
        sequence? first = some (tail.length, low, high) ∧
        (∀ octet ∈ tail, Continues octet) ∧
        ∀ octet ∈ tail.head?, low.toNat ≤ octet.toNat ∧ octet.toNat ≤ high.toNat := by
  have valid : char.val.toNat < 0xD800 ∨ 0xDFFF < char.val.toNat ∧ char.val.toNat < 0x110000 :=
    char.valid
  rw [String.utf8EncodeChar]
  generalize char.val.toNat = code at valid ⊢
  split
  · exact .inl ⟨_, rfl, by rw [UInt8.toNat_ofNat']; omega⟩
  refine .inr ?_
  split
  · refine ⟨_, _, 0x80, 0xBF, rfl, ?_, ?_, ?_⟩
    · rw [sequence?_eq_some_iff, UInt8.toNat_ofNat']
      exact .inl ⟨by omega, by omega, rfl, rfl, rfl⟩
    · simp only [List.mem_singleton, forall_eq, Continues, UInt8.toNat_ofNat']
      omega
    · simp only [List.head?_cons, Option.mem_some_iff, forall_eq', UInt8.toNat_ofNat',
        UInt8.reduceToNat]
      omega
  split
  · have begins : ∃ low high : UInt8,
        Leads (UInt8.ofNat (code / 4096 % 16 + 224)).toNat 2 low.toNat high.toNat ∧
          low.toNat ≤ (UInt8.ofNat (code / 64 % 64 + 128)).toNat ∧
          (UInt8.ofNat (code / 64 % 64 + 128)).toNat ≤ high.toNat := by
      apply exists_leads_two <;> simp only [UInt8.toNat_ofNat'] <;> omega
    obtain ⟨low, high, leads, within⟩ := begins
    refine ⟨_, _, low, high, rfl, sequence?_eq_some_iff.2 leads, ?_, ?_⟩
    · simp only [List.mem_cons, List.not_mem_nil, or_false, forall_eq_or_imp, forall_eq, Continues,
        UInt8.toNat_ofNat']
      omega
    · rintro octet ⟨⟩
      exact within
  · have begins : ∃ low high : UInt8,
        Leads (UInt8.ofNat (code / 262144 % 8 + 240)).toNat 3 low.toNat high.toNat ∧
          low.toNat ≤ (UInt8.ofNat (code / 4096 % 64 + 128)).toNat ∧
          (UInt8.ofNat (code / 4096 % 64 + 128)).toNat ≤ high.toNat := by
      apply exists_leads_three <;> simp only [UInt8.toNat_ofNat'] <;> omega
    obtain ⟨low, high, leads, within⟩ := begins
    refine ⟨_, _, low, high, rfl, sequence?_eq_some_iff.2 leads, ?_, ?_⟩
    · simp only [List.mem_cons, List.not_mem_nil, or_false, forall_eq_or_imp, forall_eq, Continues,
        UInt8.toNat_ofNat']
      omega
    · rintro octet ⟨⟩
      exact within

/-- No two characters have the same octets. -/
theorem utf8EncodeChar_injective {first second : Char}
    (same : String.utf8EncodeChar first = String.utf8EncodeChar second) : first = second := by
  have spelled (char : Char) :
      toText? (String.utf8EncodeChar char) = some (String.ofList [char]) := by
    have single := ofText_ofList [char]
    rw [List.flatMap_cons, List.flatMap_nil, List.append_nil] at single
    rw [← single, toText?_ofText]
  have texts := (spelled first).symm.trans (same ▸ spelled second)
  simpa using texts

/-! ### Stretches in which no character begins -/

/-- What continues a character begins none. -/
theorem Continues.begins_none {octet : UInt8} (continues : Continues octet) (rest : Octets)
    (char : Char) : ¬String.utf8EncodeChar char <+: octet :: rest := by
  rintro ⟨behind, same⟩
  obtain ⟨least, most⟩ := continues
  rcases encode_cases char with ⟨first, encoded, ascii⟩ |
    ⟨first, tail, low, high, encoded, begins, -, -⟩
  · rw [encoded] at same
    cases same
    omega
  · rw [encoded] at same
    cases same
    rw [sequence?_eq_some_iff] at begins
    unfold Leads at begins
    omega

/-- All the continuations of a character are found. -/
theorem continuations_tail {tail : Octets} {low high : UInt8} (rest : Octets)
    (continues : ∀ octet ∈ tail, Continues octet)
    (within : ∀ octet ∈ tail.head?, low.toNat ≤ octet.toNat ∧ octet.toNat ≤ high.toNat) :
    continuations tail.length low high (tail ++ rest) = tail := by
  induction tail generalizing low high with
  | nil => cases rest <;> rfl
  | cons octet tail inductionHypothesis =>
    have range : low ≤ octet ∧ octet ≤ high := by
      simpa only [UInt8.le_iff_toNat_le] using within octet rfl
    have later : continuations tail.length 0x80 0xBF (tail ++ rest) = tail :=
      inductionHypothesis (fun other member => continues other (List.mem_cons_of_mem _ member))
        fun other member =>
          continues other (List.mem_cons_of_mem _ (List.mem_of_mem_head? member))
    rw [List.cons_append, List.length_cons, continuations,
      if_pos (by simpa using range), later]

/-- Where a character begins, its first octet and all its continuations are found. -/
theorem continuations_of_prefix {char : Char} {first : UInt8} {rest : Octets}
    (begins : String.utf8EncodeChar char <+: first :: rest) (long : ¬first.toNat < 0x80) :
    ∃ count low high, sequence? first = some (count, low, high) ∧
      (continuations count low high rest).length = count := by
  obtain ⟨behind, same⟩ := begins
  rcases encode_cases char with ⟨octet, encoded, ascii⟩ |
    ⟨octet, tail, low, high, encoded, begins, continues, within⟩
  · rw [encoded] at same
    cases same
    exact absurd ascii long
  · rw [encoded] at same
    cases same
    exact ⟨tail.length, low, high, begins,
      congrArg List.length (continuations_tail behind continues within)⟩

theorem broken_of_first {first : UInt8} {tail rest : Octets}
    (none : ∀ char, ¬String.utf8EncodeChar char <+: first :: (tail ++ rest))
    (continues : ∀ octet ∈ tail, Continues octet) : Broken (first :: tail) rest := by
  intro before behind parts there char
  cases before with
  | nil =>
    rw [List.nil_append] at parts
    rw [← parts]
    exact none char
  | cons octet before =>
    have parts : tail = before ++ behind := (List.cons.inj parts).2
    cases behind with
    | nil => exact absurd rfl there
    | cons octet behind =>
      exact (continues octet (by simp [parts])).begins_none (behind ++ rest) char

/-! ### Reading -/

/-- Octets that spell a text are those of the text. -/
theorem ofText_of_toText? {octets : Octets} {text : String}
    (spelled : toText? octets = some text) : ofText text = octets := by
  rw [toText?, String.fromUTF8?] at spelled
  split at spelled
  · cases spelled
    rfl
  · cases spelled

/-- A first octet is read as a character with all the continuations that it asks for, and as a
replacement character with fewer. -/
theorem decodes_of_sequence? {first : UInt8} {count : Nat} {low high : UInt8} {rest : Octets}
    {chars : List Char} (long : ¬first.toNat < 0x80)
    (known : sequence? first = some (count, low, high))
    (later : Decodes (rest.drop (continuations count low high rest).length) chars) :
    Decodes (first :: rest)
      ((if (continuations count low high rest).length = count then
          Char.ofNat (codePoint first (continuations count low high rest))
        else '\uFFFD') :: chars) := by
  have leads := sequence?_eq_some_iff.1 known
  have least : 0x80 ≤ low.toNat ∧ high.toNat ≤ 0xBF := by
    unfold Leads at leads
    omega
  have found : (continuations count low high rest).length = count ∨
      ∀ char, ¬String.utf8EncodeChar char <+: first :: rest := by
    refine or_iff_not_imp_left.2 fun short char begins => short ?_
    obtain ⟨count', low', high', known', full⟩ := continuations_of_prefix begins long
    cases known.symm.trans known'
    exact full
  obtain ⟨⟨behind, parts⟩, -, continues, within⟩ :=
    @continuations_spec count low high rest least.1 least.2
  generalize continuations count low high rest = tail at found parts continues within later ⊢
  subst parts
  rw [List.drop_left] at later
  split
  · rename_i full
    have encoded := encode_of_leads (full.symm ▸ leads) continues within
    have whole := Decodes.char (Char.ofNat (codePoint first tail)) later
    rwa [encoded] at whole
  · rename_i short
    have none := found.resolve_left short
    exact .broken (List.cons_ne_nil first tail) (broken_of_first none continues) later

/-- Octets are read as the characters that stand in them, and whatever lies between as replacement
characters. -/
theorem exists_charsLossy {fuel : Nat} {octets : Octets} (enough : octets.length ≤ fuel)
    (done : List Char) :
    ∃ chars, charsLossy fuel octets done = done.reverse ++ chars ∧ Decodes octets chars := by
  induction fuel generalizing octets done with
  | zero =>
    rw [List.length_eq_zero_iff.1 (Nat.le_zero.1 enough)]
    exact ⟨[], (List.append_nil _).symm, .nil⟩
  | succ fuel inductionHypothesis =>
    cases octets with
    | nil => exact ⟨[], (List.append_nil _).symm, .nil⟩
    | cons first rest =>
      have left (length : Nat) : (rest.drop length).length ≤ fuel := by
        rw [List.length_drop]
        exact Nat.le_trans (Nat.sub_le _ _) (Nat.le_of_succ_le_succ enough)
      -- One more character is done, and the rest is read in the same way.
      have step (char : Char) (length : Nat) (decodes : ∀ chars,
          Decodes (rest.drop length) chars → Decodes (first :: rest) (char :: chars)) :
          ∃ chars, charsLossy fuel (rest.drop length) (char :: done) = done.reverse ++ chars ∧
            Decodes (first :: rest) chars := by
        obtain ⟨chars, read, later⟩ := inductionHypothesis (left length) (char :: done)
        exact ⟨char :: chars, by simpa using read, decodes chars later⟩
      rw [charsLossy]
      split
      · rename_i ascii
        have encoded := utf8EncodeChar_ofNat (UInt8.lt_iff_toNat_lt.1 ascii)
        refine step _ 0 fun chars later => ?_
        have whole := Decodes.char (Char.ofNat first.toNat) later
        rwa [encoded] at whole
      rename_i long
      have long : ¬first.toNat < 0x80 := fun ascii => long (UInt8.lt_iff_toNat_lt.2 ascii)
      split
      · rename_i unknown
        refine step _ 0 fun chars later => .broken (List.cons_ne_nil first []) ?_ later
        refine broken_of_first (fun char begins => ?_) nofun
        obtain ⟨count, low, high, known, -⟩ := continuations_of_prefix begins long
        cases unknown.symm.trans known
      · rename_i count low high known
        exact step _ _ fun chars later => decodes_of_sequence? long known later

/-- Octets that are not UTF-8 read as the characters that stand in them, and as replacement
characters where there is none. -/
theorem decodes_toTextLossy (octets : Octets) : Decodes octets (toTextLossy octets).toList := by
  rw [toTextLossy]
  split
  · rename_i text spelled
    rw [← ofText_of_toText? spelled]
    exact decodes_ofText text
  · obtain ⟨chars, read, decodes⟩ := exists_charsLossy (Nat.le_refl octets.length) []
    rw [read, String.toList_ofList]
    exact decodes

end Octets

end LatencyService
