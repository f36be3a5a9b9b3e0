/-
Addresses to listen at as a grammar: a host and a port with the last colon
between them, where the host may be anything that is not empty and holds no
white space. Socket addresses are read by readers of their own, which know
nothing of this grammar. Still it holds all of them, since what comes before
their port has no white space, and their port is written in digits alone.
-/

import LatencyService.Config.Validation
import LatencyService.Proofs.Constraints
import Mathlib.Data.List.TakeWhile
import Mathlib.Data.Nat.Digits.Defs

namespace LatencyService

/-! ### The grammar -/

namespace ListenAddress

/-- The number that decimal digits write. -/
def numberOf (digits : List Char) : Nat :=
  Nat.ofDigits 10 (digits.reverse.map fun digit => digit.toNat - '0'.toNat)

/-- A port: one plus sign or none, and then one or more decimal digits, perhaps with zeros in front,
of a number below 65536. -/
def WritesPort (port : List Char) : Prop :=
  ∃ sign digits, port = sign ++ digits ∧ (sign = [] ∨ sign = ['+']) ∧ digits ≠ [] ∧
    (∀ digit ∈ digits, '0' ≤ digit ∧ digit ≤ '9') ∧ numberOf digits ≤ 65535

/-- An address: a host, a colon and a port, which holds no further colon. The host is not empty and
holds no white space. -/
def Writes (text : String) : Prop :=
  ∃ host port, text.toList = host ++ ':' :: port ∧ ':' ∉ port ∧ host ≠ [] ∧
    (∀ char ∈ host, char.toNat ∉ whiteSpace) ∧ WritesPort port

end ListenAddress

/-! ### Digits -/

namespace Ascii

theorem isDigit_iff {char : Char} : isDigit char = true ↔ '0' ≤ char ∧ char ≤ '9' := by
  simp only [isDigit, Bool.and_eq_true, decide_eq_true_eq]

/-- The number of digits is the same from either end. -/
theorem valueOf_eq_numberOf {digits : List Char}
    (decimal : ∀ digit ∈ digits, isDigit digit = true) :
    valueOf 10 digits = ListenAddress.numberOf digits := by
  induction digits using List.reverseRecOn with
  | nil => rfl
  | append_singleton before last inductionHypothesis =>
    have own : digitValue last = last.toNat - '0'.toNat :=
      if_pos (decimal last List.mem_concat_self)
    have earlier := inductionHypothesis fun digit member =>
      decimal digit (List.mem_append_left _ member)
    rw [valueOf, ListenAddress.numberOf] at earlier
    rw [valueOf, List.foldl_append, earlier, ListenAddress.numberOf, List.reverse_append,
      List.reverse_singleton, List.singleton_append, List.map_cons, Nat.ofDigits_cons,
      List.foldl_cons, List.foldl_nil, own]
    omega

theorem decimal?_eq_some_iff {chars : List Char} {value : Nat} :
    decimal? chars = some value ↔
      chars ≠ [] ∧ (∀ digit ∈ chars, '0' ≤ digit ∧ digit ≤ '9') ∧
        ListenAddress.numberOf chars = value := by
  have digits : chars.all isDigit = true ↔ ∀ digit ∈ chars, '0' ≤ digit ∧ digit ≤ '9' := by
    simp only [List.all_eq_true, isDigit_iff]
  rw [decimal?]
  split
  · rename_i improper
    refine iff_of_false (by simp) fun ⟨filled, decimal, _⟩ => ?_
    rw [digits.2 decimal] at improper
    exact filled (by simpa using improper)
  · rename_i proper
    simp only [Bool.or_eq_true, Bool.not_eq_true', not_or, Bool.not_eq_false,
      List.isEmpty_iff] at proper
    rw [Option.some_inj, valueOf_eq_numberOf (List.all_eq_true.1 proper.2)]
    exact ⟨fun same => ⟨proper.1, digits.1 proper.2, same⟩, fun written => written.2.2⟩

/-- The characters write a number: one plus sign or none, and then one or more decimal digits,
perhaps with zeros in front. -/
def WritesNumber (chars : List Char) (value : Nat) : Prop :=
  ∃ sign digits, chars = sign ++ digits ∧ (sign = [] ∨ sign = ['+']) ∧ digits ≠ [] ∧
    (∀ digit ∈ digits, '0' ≤ digit ∧ digit ≤ '9') ∧ ListenAddress.numberOf digits = value

theorem unsigned?_eq_some_iff {limit : Nat} {chars : List Char} {value : Nat} :
    unsigned? limit chars = some value ↔ WritesNumber chars value ∧ value < limit := by
  have unmarked (digits : List Char) :
      (decimal? digits).filter (· < limit) = some value ↔
        (digits ≠ [] ∧ (∀ digit ∈ digits, '0' ≤ digit ∧ digit ≤ '9') ∧
          ListenAddress.numberOf digits = value) ∧ value < limit := by
    rw [Option.filter_eq_some_iff, decimal?_eq_some_iff, decide_eq_true_eq]
  by_cases marked : ∃ rest, chars = '+' :: rest
  · obtain ⟨rest, rfl⟩ := marked
    refine (unmarked rest).trans (and_congr_left' ⟨fun written =>
      ⟨['+'], rest, rfl, .inr rfl, written⟩, ?_⟩)
    rintro ⟨sign, digits, same, rfl | rfl, written⟩
    · -- a plus sign is no digit
      rw [List.nil_append] at same
      exact absurd (written.2.1 '+' (same ▸ List.mem_cons_self)).1 (by decide)
    · cases same
      exact written
  · have whole : unsigned? limit chars = (decimal? chars).filter (· < limit) := by
      rw [unsigned?]
      exact fun rest same => marked ⟨rest, same⟩
    rw [whole, unmarked]
    refine and_congr_left' ⟨fun written => ⟨[], chars, rfl, .inl rfl, written⟩, ?_⟩
    rintro ⟨sign, digits, rfl, rfl | rfl, written⟩
    · exact written
    · exact absurd ⟨digits, rfl⟩ marked

end Ascii

/-! ### A host and a port -/

namespace ListenAddress

theorem isPort_eq_isSome (chars : List Char) :
    isPort chars = (Ascii.unsigned? 65536 chars).isSome := by
  simp only [isPort]
  split
  · rename_i port found
    have read : Ascii.unsigned? 65536 chars = (some port).filter (· < 65536) :=
      congrArg (Option.filter fun value : Nat => decide (value < 65536)) found
    rw [read, Option.isSome_filter, Option.any_some]
    exact decide_eq_decide.2 Nat.lt_succ_iff.symm
  · rename_i missing
    have unread : Ascii.unsigned? 65536 chars = none :=
      congrArg (Option.filter fun value : Nat => decide (value < 65536)) missing
    rw [unread]
    rfl

theorem isPort_iff {chars : List Char} : isPort chars = true ↔ WritesPort chars := by
  rw [isPort_eq_isSome, Option.isSome_iff_exists]
  simp only [Ascii.unsigned?_eq_some_iff]
  constructor
  · rintro ⟨port, ⟨sign, digits, same, signed, filled, decimal, rfl⟩, small⟩
    exact ⟨sign, digits, same, signed, filled, decimal, Nat.le_of_lt_succ small⟩
  · rintro ⟨sign, digits, same, signed, filled, decimal, small⟩
    exact ⟨_, ⟨sign, digits, same, signed, filled, decimal, rfl⟩, Nat.lt_succ_of_le small⟩

theorem splitLast?_eq_some_iff {chars host port : List Char} :
    splitLast? chars = some (host, port) ↔ chars = host ++ ':' :: port ∧ ':' ∉ port := by
  have parts := List.takeWhile_append_dropWhile (p := (· != ':')) (l := chars.reverse)
  have behind : ':' ∉ (chars.reverse.takeWhile (· != ':')).reverse := by
    intro member
    have kept := List.mem_takeWhile_imp (List.mem_reverse.1 member)
    simp at kept
  constructor
  · intro found
    simp only [splitLast?] at found
    split at found
    · rename_i colon before rest
      have first : colon = ':' := by
        have stopped := List.head?_dropWhile_not (· != ':') chars.reverse
        rw [rest] at stopped
        simpa using stopped
      cases found
      refine ⟨?_, behind⟩
      rw [rest, first] at parts
      have same := congrArg List.reverse parts
      simp only [List.reverse_append, List.reverse_cons, List.reverse_reverse,
        List.append_assoc, List.singleton_append] at same
      exact same.symm
    · cases found
  · rintro ⟨rfl, none⟩
    have after : ∀ char ∈ port.reverse, (char != ':') = true := by
      intro char member
      refine bne_iff_ne.2 ?_
      rintro rfl
      exact none (List.mem_reverse.1 member)
    have turned : (host ++ ':' :: port).reverse = port.reverse ++ ':' :: host.reverse := by
      simp
    simp only [splitLast?, turned]
    rw [List.dropWhile_append_of_pos after, List.takeWhile_append_of_pos after]
    simp

theorem isHostAndPort_iff {text : String} : isHostAndPort text = true ↔ Writes text := by
  have solid (host : List Char) :
      host.any isBlankChar = false ↔ ∀ char ∈ host, char.toNat ∉ whiteSpace := by
    simp only [List.any_eq_false, isBlankChar_iff]
  rw [isHostAndPort]
  split
  · rename_i host port found
    obtain ⟨parts, last⟩ := splitLast?_eq_some_iff.1 found
    simp only [Bool.and_eq_true, Bool.not_eq_true', List.isEmpty_eq_false_iff, solid, isPort_iff]
    refine ⟨fun ⟨⟨filled, solid⟩, written⟩ => ⟨host, port, parts, last, filled, solid, written⟩, ?_⟩
    rintro ⟨otherHost, otherPort, otherParts, otherLast, filled, solid, written⟩
    have same := splitLast?_eq_some_iff.2 ⟨otherParts, otherLast⟩
    rw [found] at same
    cases same
    exact ⟨⟨filled, solid⟩, written⟩
  · rename_i unsplit
    refine iff_of_false Bool.false_ne_true ?_
    rintro ⟨host, port, parts, last, -⟩
    rw [splitLast?_eq_some_iff.2 ⟨parts, last⟩] at unsplit
    cases unsplit

end ListenAddress

/-! ### What is read of a socket address -/

namespace SocketAddress

variable {Value First Second : Type}

/-- What a reader takes from the front of the characters holds no white space. -/
def Consumes (reader : Reader Value) : Prop :=
  ∀ chars value rest, reader chars = some (value, rest) →
    ∃ taken, chars = taken ++ rest ∧ ∀ char ∈ taken, char.toNat ∉ whiteSpace

theorem andThen_eq_some_iff {first : Reader First} {second : First → Reader Second}
    {chars : List Char} {result : Second × List Char} :
    andThen first second chars = some result ↔
      ∃ value rest, first chars = some (value, rest) ∧ second value rest = some result := by
  rw [andThen]
  cases first chars with
  | none => simp
  | some read =>
    obtain ⟨value, rest⟩ := read
    simp

theorem Consumes.andThen {first : Reader First} {second : First → Reader Second}
    (front : Consumes first) (behind : ∀ value, Consumes (second value)) :
    Consumes (andThen first second) := by
  intro chars value rest reads
  obtain ⟨early, between, reads_first, reads_second⟩ := andThen_eq_some_iff.1 reads
  obtain ⟨taken, rfl, solid⟩ := front chars early between reads_first
  obtain ⟨later, rfl, solid_later⟩ := behind early between value rest reads_second
  refine ⟨taken ++ later, (List.append_assoc ..).symm, fun char member => ?_⟩
  exact (List.mem_append.1 member).elim (solid char) (solid_later char)

/-- A reader that takes nothing. -/
theorem consumes_nothing (value : Value) : Consumes fun rest => some (value, rest) := by
  rintro chars _ _ ⟨⟩
  exact ⟨[], rfl, List.forall_mem_nil _⟩

theorem consumes_readChar {expected : Char} (solid : expected.toNat ∉ whiteSpace) :
    Consumes (readChar expected) := by
  intro chars value rest reads
  cases chars with
  | nil => cases reads
  | cons char others =>
    rw [readChar] at reads
    split at reads
    · rename_i same
      cases reads
      exact ⟨[char], rfl, by rwa [List.forall_mem_singleton, beq_iff_eq.1 same]⟩
    · cases reads

theorem solid_of_isHexDigit {char : Char} (digit : Ascii.isHexDigit char = true) :
    char.toNat ∉ whiteSpace := by
  simp only [Ascii.isHexDigit, Ascii.isDigit, Bool.or_eq_true, Bool.and_eq_true, decide_eq_true_eq,
    Char.le_def, UInt32.le_iff_toNat_le] at digit
  have code : char.toNat = char.val.toNat := rfl
  simp only [whiteSpace, List.mem_cons, List.not_mem_nil, or_false]
  simp only [show '0'.val.toNat = 48 from rfl, show '9'.val.toNat = 57 from rfl,
    show 'a'.val.toNat = 97 from rfl, show 'f'.val.toNat = 102 from rfl,
    show 'A'.val.toNat = 65 from rfl, show 'F'.val.toNat = 70 from rfl] at digit
  omega

theorem solid_of_isDigit {char : Char} (digit : Ascii.isDigit char = true) :
    char.toNat ∉ whiteSpace :=
  solid_of_isHexDigit (by rw [Ascii.isHexDigit, digit]; rfl)

/-- All characters of a kind at the front are taken, if they will do. -/
theorem consumes_span {among : Char → Bool} (solid : ∀ char, among char = true →
      char.toNat ∉ whiteSpace) (fails : List Char → Bool) (number : List Char → Nat) :
    Consumes fun chars =>
      let (digits, rest) := chars.span among
      if fails digits then none else some (number digits, rest) := by
  intro chars value rest reads
  simp only [List.span_eq_takeWhile_dropWhile] at reads
  split at reads
  · cases reads
  · cases reads
    refine ⟨chars.takeWhile among, List.takeWhile_append_dropWhile.symm, fun char member => ?_⟩
    exact solid char (List.mem_takeWhile_imp member)

theorem consumes_readNumber (limit : Nat) : Consumes (readNumber limit) :=
  consumes_span (fun _ => solid_of_isDigit)
    (fun digits => digits.isEmpty || Ascii.valueOf 10 digits > limit) (Ascii.valueOf 10)

theorem consumes_readOctet : Consumes readOctet :=
  consumes_span (fun _ => solid_of_isDigit)
    (fun digits => digits.isEmpty || digits.length > 3 ||
      (digits.length > 1 && digits.head? == some '0') || Ascii.valueOf 10 digits > 255)
    (Ascii.valueOf 10)

theorem consumes_readGroup : Consumes readGroup :=
  consumes_span (fun _ => solid_of_isHexDigit)
    (fun digits => digits.isEmpty || digits.length > 4) (Ascii.valueOf 16)

theorem consumes_readOctets : Consumes readOctets := by
  have dot : Consumes (readChar '.') := consumes_readChar (by decide)
  refine consumes_readOctet.andThen fun first => dot.andThen fun _ => ?_
  refine consumes_readOctet.andThen fun second => dot.andThen fun _ => ?_
  refine consumes_readOctet.andThen fun third => dot.andThen fun _ => ?_
  exact consumes_readOctet.andThen fun fourth => consumes_nothing _

theorem Consumes.behindColon {reader : Reader Value} (consumes : Consumes reader)
    (isFirst : Bool) : Consumes (behindColon isFirst reader) := by
  cases isFirst with
  | true => exact consumes
  | false => exact (consumes_readChar (by decide)).andThen fun _ => consumes

/-- Groups are taken from the front, however many there are. -/
theorem consumes_readGroups (limit : Nat) (isFirst : Bool) :
    Consumes fun chars =>
      let (groups, isEmbedded, rest) := readGroups limit isFirst chars
      some ((groups, isEmbedded), rest) := by
  intro chars value rest reads
  induction limit generalizing isFirst chars value with
  | zero =>
    cases reads
    exact ⟨[], rfl, List.forall_mem_nil _⟩
  | succ limit inductionHypothesis =>
    simp only [readGroups] at reads
    split at reads
    · rename_i first second third fourth others embedded
      cases reads
      split at embedded
      · cases embedded
      · exact consumes_readOctets.behindColon isFirst _ _ _ embedded
    · split at reads
      · cases reads
        exact ⟨[], rfl, List.forall_mem_nil _⟩
      · rename_i group others read
        obtain ⟨taken, rfl, solid⟩ := consumes_readGroup.behindColon isFirst _ _ _ read
        cases reads
        obtain ⟨later, parts, solid_later⟩ := inductionHypothesis false others _ rfl
        refine ⟨taken ++ later, ?_, fun char member => ?_⟩
        · rw [List.append_assoc, ← parts]
        · exact (List.mem_append.1 member).elim (solid char) (solid_later char)

theorem consumes_readAddress6 : Consumes readAddress6 := by
  have groups (limit : Nat) (chars : List Char) :
      ∃ taken, chars = taken ++ (readGroups limit true chars).2.2 ∧
        ∀ char ∈ taken, char.toNat ∉ whiteSpace :=
    consumes_readGroups limit true chars _ _ rfl
  intro chars value rest reads
  obtain ⟨taken, parts, solid⟩ := groups 8 chars
  rw [readAddress6] at reads
  dsimp only at reads
  split at reads
  · cases reads
    exact ⟨taken, parts, solid⟩
  · split at reads
    · cases reads
    · split at reads
      · rename_i others colons
        cases reads
        obtain ⟨later, same, solid_later⟩ :=
          groups (7 - (readGroups 8 true chars).1.length) others
        refine ⟨taken ++ (':' :: ':' :: later), ?_, fun char member => ?_⟩
        · rw [List.append_assoc, List.cons_append, List.cons_append, ← same, ← colons, ← parts]
        · simp only [List.mem_append, List.mem_cons] at member
          rcases member with early | rfl | rfl | late
          · exact solid char early
          · decide
          · decide
          · exact solid_later char late
      · cases reads

theorem consumes_readScope : Consumes readScope := by
  intro chars value rest reads
  cases chars with
  | nil => exact consumes_nothing 0 [] value rest reads
  | cons char others =>
    by_cases percent : char = '%'
    · subst percent
      obtain ⟨taken, rfl, solid⟩ := consumes_readNumber 0xFFFFFFFF others value rest reads
      exact ⟨'%' :: taken, rfl, List.forall_mem_cons.2 ⟨by decide, solid⟩⟩
    · have none : readScope (char :: others) = some (0, char :: others) := by
        rw [readScope]
        rintro _ ⟨⟩
        exact percent rfl
      rw [none] at reads
      exact consumes_nothing 0 _ value rest reads

/-! ### Socket addresses in the grammar -/

/-- A port at the end is a colon and digits that write a port. -/
theorem writesPort_of_readPort {chars : List Char} {port : Nat}
    (reads : readPort chars = some (port, [])) :
    ∃ digits, chars = ':' :: digits ∧ ':' ∉ digits ∧ ListenAddress.WritesPort digits := by
  obtain ⟨_, digits, colon, number⟩ := andThen_eq_some_iff.1 reads
  have parts : chars = ':' :: digits := by
    cases chars with
    | nil => cases colon
    | cons char others =>
      rw [readChar] at colon
      split at colon
      · rename_i same
        cases colon
        rw [beq_iff_eq.1 same]
      · cases colon
  simp only [readNumber, List.span_eq_takeWhile_dropWhile] at number
  split at number
  · cases number
  · rename_i proper
    obtain ⟨-, ended⟩ := Prod.mk.inj (Option.some.inj number)
    have whole : digits.takeWhile Ascii.isDigit = digits := by
      have parts := List.takeWhile_append_dropWhile (p := Ascii.isDigit) (l := digits)
      rwa [ended, List.append_nil] at parts
    have decimal : ∀ digit ∈ digits, Ascii.isDigit digit = true :=
      List.takeWhile_eq_self_iff.1 whole
    rw [whole] at proper
    simp only [Bool.or_eq_true, decide_eq_true_eq, not_or, List.isEmpty_iff, gt_iff_lt, not_lt,
      Ascii.valueOf_eq_numberOf decimal] at proper
    refine ⟨digits, parts, fun colon => absurd (decimal _ colon) (by decide), [], digits, rfl,
      .inl rfl, proper.1, fun digit member => Ascii.isDigit_iff.1 (decimal digit member), proper.2⟩

/-- Every socket address is written as a host and a port. -/
theorem writes_of_parse? {text : String} {address : SocketAddress}
    (parsed : parse? text = some address) : ListenAddress.Writes text := by
  -- what stands before the port is not empty, since no address begins with a colon
  have ends {host chars : List Char} {port : Nat} (parts : text.toList = host ++ chars)
      (solid : ∀ char ∈ host, char.toNat ∉ whiteSpace) (reads : readPort chars = some (port, []))
      (filled : host ≠ []) : ListenAddress.Writes text := by
    obtain ⟨digits, rfl, last, written⟩ := writesPort_of_readPort reads
    exact ⟨host, digits, parts, last, filled, solid, written⟩
  rw [parse?] at parsed
  split at parsed
  · rename_i found reads
    obtain ⟨octets, rest, front, behind⟩ := andThen_eq_some_iff.1 reads
    obtain ⟨port, left, back, done⟩ := andThen_eq_some_iff.1 behind
    cases done
    obtain ⟨taken, parts, solid⟩ := consumes_readOctets _ _ _ front
    refine ends parts solid back ?_
    rintro rfl
    rw [parts] at front
    obtain ⟨digits, rfl, -⟩ := writesPort_of_readPort back
    cases front
  · split at parsed
    · rename_i found reads
      obtain ⟨_, inner, bracket, behind⟩ := andThen_eq_some_iff.1 reads
      have head : Consumes (andThen (readChar '[') fun _ => andThen readAddress6 fun groups =>
          andThen readScope fun scope => andThen (readChar ']') fun _ rest =>
            some ((groups, scope), rest)) :=
        (consumes_readChar (by decide)).andThen fun _ => consumes_readAddress6.andThen fun groups =>
          consumes_readScope.andThen fun scope =>
            (consumes_readChar (by decide)).andThen fun _ => consumes_nothing _
      obtain ⟨groups, _, groups_read, behind⟩ := andThen_eq_some_iff.1 behind
      obtain ⟨scope, _, scope_read, behind⟩ := andThen_eq_some_iff.1 behind
      obtain ⟨_, rest, closing, behind⟩ := andThen_eq_some_iff.1 behind
      obtain ⟨port, left, back, done⟩ := andThen_eq_some_iff.1 behind
      cases done
      obtain ⟨taken, parts, solid⟩ := head text.toList (groups, scope) rest
        (andThen_eq_some_iff.2 ⟨_, _, bracket, andThen_eq_some_iff.2 ⟨_, _, groups_read,
          andThen_eq_some_iff.2 ⟨_, _, scope_read, andThen_eq_some_iff.2 ⟨_, _, closing, rfl⟩⟩⟩⟩)
      refine ends parts solid back ?_
      rintro rfl
      obtain ⟨digits, rfl, -⟩ := writesPort_of_readPort back
      rw [parts] at bracket
      cases bracket
    · cases parsed

end SocketAddress

/-! ### Addresses to listen at -/

namespace ListenAddress

/-- What is accepted as an address to listen at is what the grammar holds: socket addresses add
nothing to it. -/
theorem isListenAddress_iff {text : String} : isListenAddress text = true ↔ Writes text := by
  rw [isListenAddress, Bool.or_eq_true, isHostAndPort_iff, Option.isSome_iff_exists]
  exact or_iff_right_of_imp fun ⟨_, parsed⟩ => SocketAddress.writes_of_parse? parsed

/-- The addresses to listen at are those of the grammar. Every socket address is one of them, and so
what will do for the metrics will do to listen at as well. -/
theorem listen_addresses (text : String) :
    (isListenAddress text = true ↔ Writes text) ∧
      (∀ address, SocketAddress.parse? text = some address → Writes text) ∧
      ∀ observability : ObservabilitySettings, observability.metricsEnabled = true →
        observability.metricsAddress = text → Settings.metricsObjections observability = [] →
          isListenAddress text = true := by
  refine ⟨isListenAddress_iff, fun _ parsed => SocketAddress.writes_of_parse? parsed, ?_⟩
  rintro observability enabled rfl valid
  have written := Settings.require_eq_nil.1 valid
  rw [enabled, Bool.not_true, Bool.false_or] at written
  rw [isListenAddress, written, Bool.true_or]

/-- An address of the metrics that has a scope and a port with zeros in front. -/
theorem listen_addresses_of_scope :
    Writes "[fe80::1%5]:0080" ∧ isListenAddress "[fe80::1%5]:0080" = true := by
  obtain ⟨-, socket, metrics⟩ := listen_addresses "[fe80::1%5]:0080"
  exact ⟨socket (.version6 [0xfe80, 0, 0, 0, 0, 0, 0, 1] 5 80) (by decide),
    metrics { metricsEnabled := true, metricsAddress := "[fe80::1%5]:0080" } rfl rfl (by decide)⟩

example : isListenAddress "localhost:+0000000080" = true := by decide

end ListenAddress

end LatencyService
