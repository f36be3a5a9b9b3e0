/-
Where the URLs of a client lead. Whatever host and port the base names, and
however many slashes stand at its end, a request arrives at the service with
the path of its endpoint as the target.
-/

import LatencyService.Client.Call
import LatencyService.Http.Route
import Mathlib.Data.List.TakeDrop

namespace LatencyService

/-! ### Slashes at the end of a base -/

/-- Slashes at the end of a base do not count. -/
theorem Client.base_slashes {root : List Char} (bare : root.getLast? ≠ some '/') (count : Nat) :
    base (String.ofList (root ++ List.replicate count '/')) = String.ofList root := by
  have slashes : ∀ char ∈ List.replicate count '/', (char == '/') = true := by
    intro char member
    rw [List.eq_of_mem_replicate member]
    rfl
  rw [base, String.toList_ofList, List.reverse_append, List.reverse_replicate,
    List.dropWhile_append_of_pos slashes]
  congr 1
  cases last : root.reverse with
  | nil =>
    rw [List.reverse_eq_nil_iff] at last
    rw [last]
    rfl
  | cons char before =>
    have other : (char == '/') = false := by
      rw [beq_eq_false_iff_ne]
      rintro rfl
      refine bare ?_
      rw [← List.head?_reverse, last]
      rfl
    rw [List.dropWhile_cons, other, if_neg Bool.false_ne_true, ← last, List.reverse_reverse]

namespace Url

/-! ### Texts without blanks -/

theorem dropWhile_of_forall {Entry : Type} {among : Entry → Bool} {entries : List Entry}
    (none : ∀ entry ∈ entries, among entry = false) : entries.dropWhile among = entries := by
  cases entries with
  | nil => rfl
  | cons first rest =>
    rw [List.dropWhile_cons_of_neg (by rw [none first List.mem_cons_self]; decide)]

/-- What holds of each character of a text is checked one after the other. -/
theorem forall_mem_of_all {chars : List Char} {property : Char → Prop} [DecidablePred property]
    (all : (chars.all fun char => decide (property char)) = true) :
    ∀ char ∈ chars, property char :=
  fun char member => of_decide_eq_true (List.all_eq_true.1 all char member)

/-- A character that stays when a text is cleaned. -/
def IsGraphic (char : Char) : Prop := 0x20 < char.toNat

instance : DecidablePred IsGraphic := fun char => inferInstanceAs (Decidable (0x20 < char.toNat))

theorem clean_of_graphic {chars : List Char} (graphic : ∀ char ∈ chars, IsGraphic char) :
    clean (String.ofList chars) = chars := by
  have inner (char : Char) (member : char ∈ chars) : decide (char.toNat ≤ 0x20) = false :=
    decide_eq_false (Nat.not_le.2 (graphic char member))
  rw [clean, String.toList_ofList, dropWhile_of_forall inner,
    dropWhile_of_forall fun char member => inner char (List.mem_reverse.1 member),
    List.reverse_reverse, List.filter_eq_self]
  intro char member
  have above : 0x20 < char.toNat := graphic char member
  simp only [Bool.not_eq_true', Bool.or_eq_false_iff, beq_eq_false_iff_ne]
  refine ⟨⟨?_, ?_⟩, ?_⟩ <;> rintro rfl <;> revert above <;> decide

/-! ### What stands behind the authority -/

/-- A character that may stand between the slashes before a host and the slash behind it. -/
def IsAuthority (char : Char) : Prop := endsAuthority true char = false ∧ IsGraphic char

instance : DecidablePred IsAuthority := fun char =>
  inferInstanceAs (Decidable (endsAuthority true char = false ∧ IsGraphic char))

/-- The host ends within the authority, or with it. -/
theorem spanHost_suffix {authority : List Char}
    (inner : ∀ char ∈ authority, endsAuthority true char = false) (isBracketed : Bool)
    (path : List Char) :
    ∃ rest, (spanHost true isBracketed (authority ++ '/' :: path)).2 = rest ++ '/' :: path ∧
      (∀ char ∈ rest, char ∈ authority) ∧ rest.head?.all (· == ':') = true := by
  induction authority generalizing isBracketed with
  | nil => exact ⟨[], rfl, fun _ member => member, rfl⟩
  | cons char others inductionHypothesis =>
    rw [List.cons_append, spanHost]
    split
    · rename_i stops
      have colon : (char == ':') = true := by
        rw [inner char List.mem_cons_self, Bool.false_or] at stops
        exact (Bool.and_eq_true_iff.1 stops).1
      exact ⟨char :: others, rfl, fun _ member => member, colon⟩
    · obtain ⟨rest, parts, among, colon⟩ := inductionHypothesis
        (fun other member => inner other (List.mem_cons_of_mem _ member))
        (if char == '[' then true else if char == ']' then false else isBracketed)
      exact ⟨rest, parts, fun other member => List.mem_cons_of_mem _ (among other member), colon⟩

/-- Behind the port, if there is one, the path begins. -/
theorem readPort_path {scheme : String} {rest path : List Char} {port : Option Nat}
    {behind : List Char} (inner : ∀ char ∈ rest, endsAuthority true char = false)
    (colon : rest.head?.all (· == ':') = true)
    (read : readPort scheme (rest ++ '/' :: path) = .ok (port, behind)) :
    behind = '/' :: path := by
  cases rest with
  | nil =>
    cases read
    rfl
  | cons char others =>
    obtain rfl : char = ':' := by simpa using colon
    have behindDigits : (others ++ '/' :: path).drop
        ((others ++ '/' :: path).takeWhile Ascii.isDigit).length =
          others.dropWhile Ascii.isDigit ++ '/' :: path := by
      have parts : (others ++ '/' :: path).takeWhile Ascii.isDigit ++
          (others ++ '/' :: path).dropWhile Ascii.isDigit = others ++ '/' :: path :=
        List.takeWhile_append_dropWhile
      have dropped : ((others ++ '/' :: path).takeWhile Ascii.isDigit ++
          (others ++ '/' :: path).dropWhile Ascii.isDigit).drop
            ((others ++ '/' :: path).takeWhile Ascii.isDigit).length =
          (others ++ '/' :: path).dropWhile Ascii.isDigit := List.drop_left
      rw [parts] at dropped
      rw [dropped, List.dropWhile_append]
      split
      · rename_i all
        rw [List.isEmpty_iff.1 all]
        rfl
      · rfl
    rw [List.cons_append] at read
    have parsed : (if _ then _ else _ : Except UrlFault (Option Nat × List Char)) = _ := read
    rw [behindDigits] at parsed
    cases left : others.dropWhile Ascii.isDigit with
    | nil =>
      rw [left] at parsed
      split at parsed
      · cases parsed
      split at parsed
      · cases parsed
      split at parsed
      · cases parsed
        rfl
      · cases parsed
        rfl
    | cons last more =>
      have member : last ∈ others :=
        (List.dropWhile_sublist Ascii.isDigit).subset (left ▸ List.mem_cons_self)
      have stays : endsAuthority true last = false := inner last (List.mem_cons_of_mem _ member)
      rw [left, List.cons_append, List.head?_cons, Option.all_some, stays] at parsed
      split at parsed
      · cases parsed
      · cases parsed

/-- What stands behind the credentials is a part of the authority. -/
theorem mem_of_splitCredentials? {authority credentials rest : List Char}
    (split : splitCredentials? authority = some (credentials, rest)) :
    ∀ char ∈ rest, char ∈ authority := by
  unfold splitCredentials? at split
  cases before : authority.reverse.dropWhile (· != '@') with
  | nil =>
    rw [before] at split
    cases split
  | cons mark earlier =>
    rw [before] at split
    cases split
    intro char member
    exact List.mem_reverse.1 ((List.takeWhile_sublist _).subset (List.mem_reverse.1 member))

/-- Nothing behind the path is neither a query nor a fragment. -/
theorem withPathAndTail_nil (url : Url) (path : UrlPath) :
    url.withPathAndTail (path, []) = { url with path, query := none, fragment := none } := rfl

/-- A URL of HTTP has the path that stands behind its host and its port. -/
theorem readHostAndPort_path {user password : String} {authority path : List Char} {url : Url}
    (inner : ∀ char ∈ authority, endsAuthority true char = false)
    (read : readHostAndPort "http" user password (authority ++ '/' :: path) = .ok url) :
    ∃ before : Url, before.scheme = "http" ∧ before.host.isSome = true ∧
      url = before.withPathAndTail (readPath "http" ('/' :: path)) := by
  have special : isSpecial "http" = true := by decide
  obtain ⟨rest, parts, among, colon⟩ := spanHost_suffix inner false path
  simp only [readHostAndPort, special, if_pos] at read
  rw [parts] at read
  split at read
  · cases read
  cases hosted : Host.ofDomain (spanHost true false (authority ++ '/' :: path)).1 with
  | error fault =>
    rw [hosted] at read
    cases read
  | ok host =>
    rw [hosted] at read
    dsimp only [bind, Except.bind, pure, Except.pure] at read
    split at read
    · cases read
    cases ported : readPort "http" (rest ++ '/' :: path) with
    | error fault =>
      rw [ported] at read
      cases read
    | ok pair =>
      obtain ⟨port, behind⟩ := pair
      rw [ported] at read
      dsimp only at read
      split at read
      · cases read
      cases read
      rw [readPort_path (fun char member => inner char (among char member)) colon ported]
      exact ⟨_, rfl, rfl, rfl⟩

/-- A URL of HTTP has the path that stands behind its authority. -/
theorem readAuthority_path {authority path : List Char} {url : Url}
    (inner : ∀ char ∈ authority, endsAuthority true char = false)
    (read : readAuthority "http" (authority ++ '/' :: path) = .ok url) :
    ∃ before : Url, before.scheme = "http" ∧ before.host.isSome = true ∧
      url = before.withPathAndTail (readPath "http" ('/' :: path)) := by
  have special : isSpecial "http" = true := by decide
  have stays : ∀ char ∈ authority, (!endsAuthority true char) = true := by
    intro char member
    rw [inner char member]
    rfl
  have spans : (authority ++ '/' :: path).takeWhile (!endsAuthority true ·) = authority := by
    rw [List.takeWhile_append_of_pos stays, List.takeWhile_cons_of_neg (by decide), List.append_nil]
  rw [readAuthority, special, spans, List.drop_left] at read
  cases split : splitCredentials? authority with
  | none =>
    rw [split] at read
    exact readHostAndPort_path inner read
  | some pair =>
    obtain ⟨credentials, rest⟩ := pair
    rw [split] at read
    dsimp only at read
    split at read
    · cases read
    · exact readHostAndPort_path
        (fun char member => inner char (mem_of_splitCredentials? split char member)) read

/-- Behind a scheme and two slashes a named authority is read. -/
theorem parse_eq_readAuthority {authority path : List Char} (named : authority ≠ [])
    (inner : ∀ char ∈ authority, IsAuthority char)
    (graphic : ∀ char ∈ path, IsGraphic char) :
    parse (String.ofList ("http://".toList ++ authority ++ '/' :: path)) =
      readAuthority "http" (authority ++ '/' :: path) := by
  have cleaned : clean (String.ofList ("http://".toList ++ authority ++ '/' :: path)) =
      "http://".toList ++ authority ++ '/' :: path := by
    refine clean_of_graphic fun char member => ?_
    rcases List.mem_append.1 member with before | behind
    · rcases List.mem_append.1 before with scheme | between
      · have all : ∀ char ∈ "http://".toList, 0x20 < char.toNat := forall_mem_of_all (by decide)
        exact all char scheme
      · exact (inner char between).2
    · rcases List.mem_cons.1 behind with rfl | segment
      · exact Nat.lt_of_sub_eq_succ rfl
      · exact graphic char segment
  have scheme : readScheme? ("http://".toList ++ authority ++ '/' :: path) =
      some ("http", '/' :: '/' :: (authority ++ '/' :: path)) := rfl
  have slashes : (('/' :: '/' :: (authority ++ '/' :: path)).takeWhile (isSlash true)).length =
      2 := by
    cases authority with
    | nil => exact absurd rfl named
    | cons first others =>
      have stops : isSlash true first = false := by
        have stays := (inner first List.mem_cons_self).1
        rw [endsAuthority, Bool.or_eq_false_iff, Bool.or_eq_false_iff] at stays
        exact stays.1.1
      rw [List.takeWhile_cons_of_pos rfl, List.takeWhile_cons_of_pos rfl, List.cons_append,
        List.takeWhile_cons_of_neg (by rw [stops]; exact Bool.false_ne_true)]
      rfl
  rw [parse, resolve, cleaned]
  dsimp only
  rw [scheme]
  dsimp only
  rw [if_neg (by decide), if_pos (by decide), slashes]
  rfl

/-- Where a scheme and two slashes stand before a named authority, the URL has the path behind it. -/
theorem parse_path {authority path : List Char} {url : Url} (named : authority ≠ [])
    (inner : ∀ char ∈ authority, IsAuthority char)
    (graphic : ∀ char ∈ path, IsGraphic char)
    (read : parse (String.ofList ("http://".toList ++ authority ++ '/' :: path)) = .ok url) :
    ∃ before : Url, before.scheme = "http" ∧ before.host.isSome = true ∧
      url = before.withPathAndTail (readPath "http" ('/' :: path)) := by
  rw [parse_eq_readAuthority named inner graphic] at read
  exact readAuthority_path (fun char member => (inner char member).1) read

end Url

/-! ### The target -/

/-- A text that names a URL which can be called. -/
theorem Call.urlOf_of_parse {text : String} {url : Url} (named : (Url.parse text).toOption = some url)
    (callable : isCallable (bare url) = true) : urlOf text = .ok url := by
  rw [urlOf]
  cases parsed : Url.parse text with
  | error fault =>
    rw [parsed] at named
    cases named
  | ok other =>
    rw [parsed] at named
    cases named
    exact if_pos callable

/-- A path of segments behind a host is the target as it stands. -/
theorem Call.requestTarget_segments {url : Url} {names : List String} {target : String}
    (host : url.host.isSome = true) (path : url.path = .segments names)
    (bare : url.query = none) (joined : String.join (names.map ("/" ++ ·)) = target)
    (present : target.isEmpty = false) : requestTarget url = target := by
  have rendered : url.renderPath = target := by
    rw [Url.renderPath, path]
    dsimp only
    rw [joined, Option.isNone_eq_false_iff.2 host]
    rfl
  rw [requestTarget, rendered, bare]
  dsimp only
  rw [if_neg (by rw [present]; exact Bool.false_ne_true)]
  exact String.append_empty

namespace Client

/-- What names a service in the URLs of a client: a host, and perhaps credentials and a port, such
that the endpoints can be called there. -/
structure Root where
  authority : List Char
  isNamed : authority ≠ []
  isAuthority : ∀ char ∈ authority, Url.IsAuthority char
  isCallable : ∀ route : Http.Route, ∃ url,
    Call.urlOf (String.ofList ("http://".toList ++ authority) ++ route.path) = .ok url

/-- A service at the loopback address. -/
def Root.loopback : Root where
  authority := "[::1]:8080".toList
  isNamed := by decide
  isAuthority := Url.forall_mem_of_all (by decide)
  isCallable route := by
    let here (names : List String) : Url :=
      { scheme := "http", host := some (.version6 [0, 0, 0, 0, 0, 0, 0, 1]), port := some 8080
        path := .segments names }
    cases route with
    | demo => exact ⟨here ["demo"], Call.urlOf_of_parse (by decide +kernel) (by decide +kernel)⟩
    | demoService =>
      exact ⟨here ["demo", "service"],
        Call.urlOf_of_parse (by decide +kernel) (by decide +kernel)⟩
    | camel => exact ⟨here ["camel"], Call.urlOf_of_parse (by decide +kernel) (by decide +kernel)⟩
    | relay =>
      exact ⟨here ["httpclient"], Call.urlOf_of_parse (by decide +kernel) (by decide +kernel)⟩
    | health => exact ⟨here ["health"], Call.urlOf_of_parse (by decide +kernel) (by decide +kernel)⟩

/-- The base of a service with so many slashes at its end. -/
def Root.baseText (root : Root) (slashes : Nat) : String :=
  String.ofList ("http://".toList ++ root.authority ++ List.replicate slashes '/')

/-- Behind a service's base stands the path, whatever slashes are between. -/
theorem Root.urlText_eq (root : Root) (slashes : Nat) (question : Question) :
    urlText (root.baseText slashes) question =
      String.ofList ("http://".toList ++ root.authority) ++ question.path := by
  have bare : ("http://".toList ++ root.authority).getLast? ≠ some '/' := by
    intro last
    rw [List.getLast?_append, List.getLast?_eq_some_getLast root.isNamed, Option.some_or] at last
    have member : root.authority.getLast root.isNamed ∈ root.authority := List.getLast_mem _
    rw [Option.some.inj last] at member
    have inner : Url.endsAuthority true '/' = false := (root.isAuthority '/' member).1
    cases inner
  have dropped : base (root.baseText slashes) =
      String.ofList ("http://".toList ++ root.authority) := base_slashes bare slashes
  unfold urlText
  rw [dropped]

/-- The request of a question to an endpoint names the path of the endpoint. -/
theorem Root.exists_url (root : Root) (slashes : Nat) {question : Question} {route : Http.Route}
    (asks : question.path = route.path) :
    ∃ url, Call.urlOf (urlText (root.baseText slashes) question) = .ok url ∧
      Call.requestTarget url = route.path := by
  obtain ⟨url, callable⟩ := root.isCallable route
  refine ⟨url, by rw [root.urlText_eq, asks, callable], ?_⟩
  obtain ⟨path, names, written, graphic, read, joined⟩ : ∃ path names,
      route.path = String.ofList ('/' :: path) ∧ (∀ char ∈ path, Url.IsGraphic char) ∧
        Url.readPath "http" ('/' :: path) = (.segments names, []) ∧
        String.join (names.map ("/" ++ ·)) = route.path := by
    have graphic {chars : List Char} :=
      @Url.forall_mem_of_all chars Url.IsGraphic inferInstance
    cases route
    · exact ⟨"demo".toList, ["demo"], rfl, graphic (by decide), by decide, rfl⟩
    · exact ⟨"demo/service".toList, ["demo", "service"], rfl, graphic (by decide), by decide, rfl⟩
    · exact ⟨"camel".toList, ["camel"], rfl, graphic (by decide), by decide, rfl⟩
    · exact ⟨"httpclient".toList, ["httpclient"], rfl, graphic (by decide), by decide, rfl⟩
    · exact ⟨"health".toList, ["health"], rfl, graphic (by decide), by decide, rfl⟩
  have parsed : Url.parse (String.ofList ("http://".toList ++ root.authority ++ '/' :: path)) =
      .ok url := by
    rw [written, ← String.ofList_append, Call.urlOf] at callable
    split at callable
    · cases callable
    · rename_i read
      split at callable
      · cases callable
        exact read
      · cases callable
  obtain ⟨before, scheme, host, rfl⟩ := Url.parse_path root.isNamed root.isAuthority graphic parsed
  rw [read, Url.withPathAndTail_nil]
  exact Call.requestTarget_segments host rfl rfl joined (by cases route <;> rfl)

end Client

end LatencyService
