import Mathlib.Data.List.Basic

set_option autoImplicit false

/-! # Quoting a name only where it needs it

`writeProbablyQuotedStringImpl` (`WriteHelpers.cpp`) writes a name as it is when it is a valid
identifier, and otherwise with the quoting writer its caller passes:
`writeProbablyBackQuotedString`, `writeProbablyDoubleQuotedString` and
`writeProbablyBackQuotedStringMySQL` pass the back quote, the double quote and MySQL's back quote.
Three valid identifiers are quoted all the same, since unquoted they would read as the keywords
`DISTINCT`, `ALL` and `TABLE`. The code tests each of them by its length and `strncasecmp`.

`writeProbablyQuotedStringImpl_eq` says what these tests come to: a name is written bare exactly
when it is a valid identifier and its lower case is none of the three keywords.

`isValidIdentifier` (`Common/StringUtils.h`) and the quoting writers (`IO/WriteHelpers.h`) are not
among the sources; they are parameters. A name is its characters. The code counts and compares
bytes; against the ASCII keywords that decides as comparing characters does, since a character
of several bytes matches no letter of them.
-/

namespace ClickHouse.WriteHelpers

/-- `strncasecmp` (the C library, not among the sources): compares at most `n` characters of two
texts, each put to lower case by `tolower`, and stops at the first that differ or at a NUL in
both; past its end a text reads as the NUL that ends a C string. Zero means equal. -/
def strncasecmp : List Char → List Char → Nat → Int
  | _, _, 0 => 0
  | s1, s2, n + 1 =>
    let c1 := (s1.headD '\x00').toLower
    let c2 := (s2.headD '\x00').toLower
    if c1 ≠ c2 then (c1.toNat : Int) - c2.toNat
    else if c1 = '\x00' then 0
    else strncasecmp s1.tail s2.tail n

/-- The test `writeProbablyQuotedStringImpl` writes out for each keyword:
`s.size == strlen(keyword) && 0 == strncasecmp(s.data, keyword, strlen(keyword))`. -/
def isKeywordIgnoringCase (s keyword : List Char) : Bool :=
  s.length == keyword.length && 0 == strncasecmp s keyword keyword.length

section Quoting

variable (isValidIdentifier : List Char → Bool)

/-- `writeProbablyQuotedStringImpl`: the characters written, `s` itself by `writeString` or what
`write_quoted_string` writes. -/
def writeProbablyQuotedStringImpl (s : List Char) (write_quoted_string : List Char → List Char) :
    List Char :=
  if isValidIdentifier s
      && !isKeywordIgnoringCase s "distinct".data
      && !isKeywordIgnoringCase s "all".data
      && !isKeywordIgnoringCase s "table".data then
    s
  else write_quoted_string s

variable (writeBackQuotedString writeDoubleQuotedString writeBackQuotedStringMySQL :
  List Char → List Char)

/-- `writeProbablyBackQuotedString`. -/
def writeProbablyBackQuotedString (s : List Char) : List Char :=
  writeProbablyQuotedStringImpl isValidIdentifier s writeBackQuotedString

/-- `writeProbablyDoubleQuotedString`. -/
def writeProbablyDoubleQuotedString (s : List Char) : List Char :=
  writeProbablyQuotedStringImpl isValidIdentifier s writeDoubleQuotedString

/-- `writeProbablyBackQuotedStringMySQL`. -/
def writeProbablyBackQuotedStringMySQL (s : List Char) : List Char :=
  writeProbablyQuotedStringImpl isValidIdentifier s writeBackQuotedStringMySQL

end Quoting

/-! ## What the tests decide -/

/-- The valid identifiers that are quoted all the same, in lower case. -/
def quotedKeywords : List (List Char) := ["distinct".data, "all".data, "table".data]

theorem toNat_sub_ne_zero {c1 c2 : Char} (h : c1 ≠ c2) : (c1.toNat : Int) - c2.toNat ≠ 0 := by
  intro h0
  exact h (by simpa using congrArg Char.ofNat (show c1.toNat = c2.toNat by omega))

/-- Over the length of a text `t` in lower case and without NUL, `strncasecmp` finds a text of
the same length equal to it exactly when that text's lower case is `t`. -/
theorem strncasecmp_eq_zero_iff {s t : List Char} (hlen : s.length = t.length)
    (ht : ∀ c ∈ t, c.toLower = c ∧ c ≠ '\x00') :
    strncasecmp s t t.length = 0 ↔ s.map Char.toLower = t := by
  induction t generalizing s with
  | nil => simp_all [strncasecmp]
  | cons b t ih =>
    obtain _ | ⟨a, s⟩ := s
    · simp at hlen
    obtain ⟨hb, hb0⟩ := ht b (.head _)
    simp only [strncasecmp, List.headD_cons, List.tail_cons, hb, List.map_cons, List.cons.injEq]
    by_cases hab : a.toLower = b
    · simp only [hab, ne_eq, not_true_eq_false, if_false, hb0, true_and]
      exact ih (by simpa using hlen) fun c hc => ht c (.tail _ hc)
    · simp [hab, toNat_sub_ne_zero hab]

theorem isKeywordIgnoringCase_iff (s : List Char) {keyword : List Char}
    (hkeyword : ∀ c ∈ keyword, c.toLower = c ∧ c ≠ '\x00') :
    isKeywordIgnoringCase s keyword = true ↔ s.map Char.toLower = keyword := by
  rw [isKeywordIgnoringCase, Bool.and_eq_true, beq_iff_eq, beq_iff_eq, eq_comm (a := 0)]
  constructor
  · exact fun ⟨hlen, h⟩ => (strncasecmp_eq_zero_iff hlen hkeyword).1 h
  · intro h
    have hlen : s.length = keyword.length := by rw [← h, List.length_map]
    exact ⟨hlen, (strncasecmp_eq_zero_iff hlen hkeyword).2 h⟩

/-- **A name is written bare exactly when it is a valid identifier whose lower case is none of
`distinct`, `all` and `table`**; any other name goes to the caller's quoting writer. -/
theorem writeProbablyQuotedStringImpl_eq (isValidIdentifier : List Char → Bool) (s : List Char)
    (write_quoted_string : List Char → List Char) :
    writeProbablyQuotedStringImpl isValidIdentifier s write_quoted_string =
      if isValidIdentifier s = true ∧ s.map Char.toLower ∉ quotedKeywords then s
      else write_quoted_string s := by
  have hlower : ∀ keyword ∈ quotedKeywords, ∀ c ∈ keyword, c.toLower = c ∧ c ≠ '\x00' := by
    decide
  have hkeyword := fun keyword (h : keyword ∈ quotedKeywords) =>
    isKeywordIgnoringCase_iff s (hlower keyword h)
  simp [writeProbablyQuotedStringImpl, quotedKeywords, ← Bool.not_eq_true, hkeyword, and_assoc]

example : writeProbablyDoubleQuotedString (fun _ => true) (fun s => ['"'] ++ s ++ ['"'])
    "TaBle".data = ['"'] ++ "TaBle".data ++ ['"'] := by decide

end ClickHouse.WriteHelpers
