import Mathlib.Data.List.Basic

/-!
# Qt's strings, as `kwinglplatform.cpp` reads them

`GLPlatform::detect` reads the vendor, renderer and version strings of the OpenGL driver
as `QByteArray`s, and some of them as `QString`s. Both are kept here as their characters.
This module gives the Qt functions that `detect` and its chip-class helpers call:
`split(' ')`, `contains`, `startsWith`, `QList::indexOf`, `trimmed`, `toInt`,
`QList::at` and `QByteArray::operator[]`, and the part of `QRegularExpression` that
`extract` uses.

`QList::at` and `operator[]` assert that the index is in range, and read out of bounds in
a release build. Here they return `none` there, and the model stops.

A pattern is matched as PCRE2 matches it: at the first position where it matches at all,
the alternatives tried left to right and optional parts taken when they can be. `Regex`
has the constructs the patterns of `kwinglplatform.cpp` use, and `matchHere` tries them in
that order by passing what remains of the text to the rest of the match.
-/

namespace KWin

namespace Text

/-! ## Splitting and searching -/

/-- `QByteArray::split(separator)`: the pieces between separators, empty pieces
included. A text without a separator is one piece. -/
def split (separator : Char) : List Char → List (List Char)
  | [] => [[]]
  | c :: rest =>
    let pieces := split separator rest
    if c = separator then [] :: pieces else (c :: pieces.headD []) :: pieces.tail

/-- `contains(pattern)`. -/
def contains : List Char → List Char → Bool
  | [], pattern => pattern.isPrefixOf []
  | c :: rest, pattern => pattern.isPrefixOf (c :: rest) || contains rest pattern

/-- `startsWith(prefix)`. -/
def startsWith (text start : List Char) : Bool :=
  start.isPrefixOf text

/-- `QList::indexOf(item)`: the first position of `item`, or `-1`. -/
def indexOf (item : List Char) : List (List Char) → Int
  | [] => -1
  | token :: tokens => if token = item then 0 else
    let index := indexOf item tokens
    if index = -1 then -1 else index + 1

/-- `QList::at(index)`, `none` when `index` is out of range. -/
def listAt {α : Type} (list : List α) (index : Int) : Option α :=
  if 0 ≤ index then list[index.toNat]? else none

/-- `right(count)`: the last `count` characters. -/
def right (count : Nat) (text : List Char) : List Char :=
  text.drop (text.length - count)

/-- `QByteArray::operator[](index)`, `none` when `index` is out of range. -/
def byteAt (text : List Char) (index : Nat) : Option Char :=
  text[index]?

theorem split_ne_nil (separator : Char) (text : List Char) : split separator text ≠ [] := by
  cases text with
  | nil => simp [split]
  | cons c rest =>
    simp only [split]
    split <;> simp

theorem indexOf_bounds (item : List Char) (tokens : List (List Char)) :
    -1 ≤ indexOf item tokens ∧ indexOf item tokens < tokens.length := by
  induction tokens with
  | nil => simp [indexOf]
  | cons token tokens ih =>
    simp only [indexOf, List.length_cons]
    split_ifs <;> omega

/-- Reading the token after the first `item`, as `detect` does for `"Mesa"`, `"NVIDIA"` and
`"Chromium"`, is out of range exactly when that token is the last one. -/
theorem listAt_indexOf_add_one_eq_none_iff (item : List Char) {tokens : List (List Char)}
    (nonempty : tokens ≠ []) :
    listAt tokens (indexOf item tokens + 1) = none ↔ indexOf item tokens + 1 = tokens.length := by
  have ⟨lower, upper⟩ := indexOf_bounds item tokens
  have positive : 0 < tokens.length := List.length_pos.mpr nonempty
  unfold listAt
  rw [if_pos (by omega), List.getElem?_eq_none_iff]
  omega

/-! ## Whitespace and numbers -/

/-- `QChar::isSpace()`: the ASCII whitespace, `U+0085`, and the Unicode space, line and
paragraph separators. -/
def isSpace (c : Char) : Bool :=
  c = ' ' || ('\t' ≤ c && c ≤ '\r') || c.val = 0x85 || c.val = 0xA0 || c.val = 0x1680 ||
    (0x2000 ≤ c.val && c.val ≤ 0x200A) || c.val = 0x2028 || c.val = 0x2029 ||
    c.val = 0x202F || c.val = 0x205F || c.val = 0x3000

/-- The whitespace of `isspace` in the C locale, which `QByteArray` skips. -/
def isAsciiSpace (c : Char) : Bool :=
  c = ' ' || ('\t' ≤ c && c ≤ '\r')

/-- `text` without its trailing whitespace. -/
def trimEnd (space : Char → Bool) : List Char → List Char
  | [] => []
  | c :: rest =>
    let kept := trimEnd space rest
    if kept.isEmpty && space c then [] else c :: kept

/-- `text` without its leading and trailing whitespace. -/
def trim (space : Char → Bool) (text : List Char) : List Char :=
  trimEnd space (text.dropWhile space)

/-- `QString::trimmed()`. -/
def trimmed (text : List Char) : List Char :=
  trim isSpace text

/-- The value a character has as a digit of a base up to 36, or 36 when it is not one. -/
def digitCandidate (c : Char) : Nat :=
  if '0' ≤ c ∧ c ≤ '9' then c.toNat - '0'.toNat
  else if 'a' ≤ c ∧ c ≤ 'z' then c.toNat - 'a'.toNat + 10
  else if 'A' ≤ c ∧ c ≤ 'Z' then c.toNat - 'A'.toNat + 10
  else 36

/-- The value of a digit in `base`, for bases up to 36. -/
def digitValue (base : Nat) (c : Char) : Option Nat :=
  if digitCandidate c < base then some (digitCandidate c) else none

/-- The value of `digits` read in `base` after `accumulated`. -/
def digitsValueFrom (base accumulated : Nat) : List Char → Option Nat
  | [] => some accumulated
  | digit :: rest =>
    (digitValue base digit).bind fun value => digitsValueFrom base (accumulated * base + value) rest

/-- The value of `digits` in `base`, when it is a non-empty run of digits of `base`. -/
def digitsValue (base : Nat) (digits : List Char) : Option Nat :=
  if digits = [] then none else digitsValueFrom base 0 digits

/-- The sign in front of a number, and what follows it. -/
def stripSign : List Char → Bool × List Char
  | '-' :: rest => (true, rest)
  | '+' :: rest => (false, rest)
  | rest => (false, rest)

/-- The digits of a base-16 number after an optional `0x`. -/
def stripHexPrefix : List Char → List Char
  | '0' :: 'x' :: rest => rest
  | '0' :: 'X' :: rest => rest
  | rest => rest

/-- `toInt(&ok, base)` of a `QString` (`space` is `isSpace`) or of a `QByteArray` (`space`
is `isAsciiSpace`). Around whitespace, the text must be an optional sign, in base 16 an
optional `0x`, and digits of the base, with a value that fits an `int`. `none` is a failed
conversion, for which `toInt` returns 0. -/
def toInt (space : Char → Bool) (base : Nat) (text : List Char) : Option Int :=
  let signed := stripSign (trim space text)
  let digits := if base = 16 then stripHexPrefix signed.2 else signed.2
  (digitsValue base digits).bind fun magnitude =>
    let value : Int := if signed.1 then -magnitude else magnitude
    if -2147483648 ≤ value ∧ value ≤ 2147483647 then some value else none

theorem mem_dropWhile_of_not {space : Char → Bool} {c : Char} {text : List Char}
    (mem : c ∈ text) (notSpace : space c = false) : c ∈ text.dropWhile space := by
  induction text with
  | nil => cases mem
  | cons d text ih =>
    rcases List.mem_cons.mp mem with rfl | later
    · simp [List.dropWhile_cons, notSpace]
    · rw [List.dropWhile_cons]
      split
      · exact ih later
      · exact List.mem_cons_of_mem d later

theorem mem_trimEnd_of_not {space : Char → Bool} {c : Char} {text : List Char}
    (mem : c ∈ text) (notSpace : space c = false) : c ∈ trimEnd space text := by
  induction text with
  | nil => cases mem
  | cons d text ih =>
    simp only [trimEnd]
    rcases List.mem_cons.mp mem with rfl | later
    · simp [notSpace]
    · have kept := ih later
      have nonempty : (trimEnd space text).isEmpty = false := by
        cases trimmedRest : trimEnd space text with
        | nil => rw [trimmedRest] at kept; cases kept
        | cons => rfl
      simp [nonempty, kept]

theorem mem_trim_of_not {space : Char → Bool} {c : Char} {text : List Char}
    (mem : c ∈ text) (notSpace : space c = false) : c ∈ trim space text :=
  mem_trimEnd_of_not (mem_dropWhile_of_not mem notSpace) notSpace

theorem trimEnd_cons_of_not {space : Char → Bool} {c : Char} (notSpace : space c = false)
    (rest : List Char) : trimEnd space (c :: rest) = c :: trimEnd space rest := by
  simp [trimEnd, notSpace]

theorem trimEnd_eq_nil_iff {space : Char → Bool} {text : List Char} :
    trimEnd space text = [] ↔ ∀ c ∈ text, space c = true := by
  induction text with
  | nil => simp [trimEnd]
  | cons c rest ih =>
    simp only [trimEnd, List.mem_cons, forall_eq_or_imp]
    split_ifs with ends
    · simp only [Bool.and_eq_true, List.isEmpty_iff] at ends
      exact iff_of_true rfl ⟨ends.2, ih.mp ends.1⟩
    · simp only [Bool.and_eq_true, List.isEmpty_iff, not_and] at ends
      simp only [reduceCtorEq, false_iff, not_and]
      intro spaced rest
      exact ends (ih.mpr rest) spaced

theorem head?_trimEnd {space : Char → Bool} {text : List Char}
    (nonempty : trimEnd space text ≠ []) : (trimEnd space text).head? = text.head? := by
  cases text with
  | nil => rfl
  | cons c rest =>
    simp only [trimEnd] at nonempty ⊢
    split_ifs at nonempty ⊢ with ends
    · exact absurd rfl nonempty
    · rfl

theorem digitsValueFrom_digit {base accumulated : Nat} {digits : List Char} {value : Nat}
    (read : digitsValueFrom base accumulated digits = some value) :
    ∀ c ∈ digits, (digitValue base c).isSome := by
  induction digits generalizing accumulated with
  | nil => intro c mem; cases mem
  | cons digit rest ih =>
    simp only [digitsValueFrom, Option.bind_eq_some] at read
    obtain ⟨first, found, later⟩ := read
    intro c mem
    rcases List.mem_cons.mp mem with rfl | mem
    · simp [found]
    · exact ih later c mem

theorem mem_stripSign {c : Char} {text : List Char} (mem : c ∈ text) :
    c = '-' ∨ c = '+' ∨ c ∈ (stripSign text).2 := by
  unfold stripSign
  split <;> (try simp only [List.mem_cons] at mem) <;> tauto

theorem mem_stripHexPrefix {c : Char} {text : List Char} (mem : c ∈ text) :
    c = '0' ∨ c = 'x' ∨ c = 'X' ∨ c ∈ stripHexPrefix text := by
  unfold stripHexPrefix
  split <;> (try simp only [List.mem_cons] at mem) <;> tauto

/-- A successful `toInt` in base 16 has read hexadecimal digits after the sign and `0x`. -/
theorem digitsValue_of_toInt {space : Char → Bool} {text : List Char} {value : Int}
    (read : toInt space 16 text = some value) :
    ∃ magnitude, digitsValue 16 (stripHexPrefix (stripSign (trim space text)).2) = some magnitude :=
  have ⟨magnitude, digitsRead, _⟩ := Option.bind_eq_some.mp read
  ⟨magnitude, digitsRead⟩

/-- A successful `toInt` in base 16 reads only whitespace, signs, the `x` of `0x`, and
hexadecimal digits. -/
theorem toInt_char {space : Char → Bool} {text : List Char} {value : Int}
    (read : toInt space 16 text = some value) :
    ∀ c ∈ text, space c = true ∨ c = '-' ∨ c = '+' ∨ c = 'x' ∨ c = 'X' ∨
      (digitValue 16 c).isSome := by
  intro c mem
  by_cases spaced : space c = true
  · exact .inl spaced
  obtain ⟨magnitude, digitsRead⟩ := digitsValue_of_toInt read
  unfold digitsValue at digitsRead
  split_ifs at digitsRead
  have digit := digitsValueFrom_digit digitsRead c
  rcases mem_stripSign (mem_trim_of_not mem (Bool.eq_false_iff.mpr spaced)) with
    minus | plus | unsigned
  · exact .inr (.inl minus)
  · exact .inr (.inr (.inl plus))
  rcases mem_stripHexPrefix unsigned with zero | x | capitalX | inDigits
  · exact .inr (.inr (.inr (.inr (.inr (zero ▸ rfl)))))
  · exact .inr (.inr (.inr (.inl x)))
  · exact .inr (.inr (.inr (.inr (.inl capitalX))))
  · exact .inr (.inr (.inr (.inr (.inr (digit inDigits)))))

theorem digitValue_lt {base : Nat} {c : Char} {value : Nat} (read : digitValue base c = some value) :
    value < base := by
  unfold digitValue at read
  split_ifs at read with fits
  cases read
  exact fits

theorem digitsValueFrom_eq_none {base accumulated : Nat} {digits : List Char} {c : Char}
    (mem : c ∈ digits) (notDigit : digitValue base c = none) :
    digitsValueFrom base accumulated digits = none := by
  cases read : digitsValueFrom base accumulated digits with
  | none => rfl
  | some value => simpa [notDigit] using digitsValueFrom_digit read c mem

theorem toInt_eq_none_of_mem {space : Char → Bool} {text : List Char} {c : Char} (mem : c ∈ text)
    (notSpace : space c = false) (notSign : c ≠ '-' ∧ c ≠ '+' ∧ c ≠ 'x' ∧ c ≠ 'X')
    (notDigit : digitValue 16 c = none) : toInt space 16 text = none := by
  cases read : toInt space 16 text with
  | none => rfl
  | some value =>
    rcases toInt_char read c mem with spaced | minus | plus | x | capitalX | digit <;> simp_all

theorem stripSign_cons {c : Char} (notSign : c ≠ '-' ∧ c ≠ '+') (rest : List Char) :
    stripSign (c :: rest) = (false, c :: rest) := by
  unfold stripSign
  split <;> simp_all

theorem stripHexPrefix_cons_cons {c d : Char} (notX : d ≠ 'x' ∧ d ≠ 'X') (rest : List Char) :
    stripHexPrefix (c :: d :: rest) = c :: d :: rest := by
  unfold stripHexPrefix
  split <;> simp_all

theorem digitsValue_pair_lt {high low : Char} {value : Nat}
    (read : digitsValue 16 [high, low] = some value) : value < 256 := by
  simp only [digitsValue, List.cons_ne_nil, if_false, digitsValueFrom, Option.bind_eq_some,
    Option.some.injEq] at read
  obtain ⟨first, firstRead, second, secondRead, rfl⟩ := read
  have := digitValue_lt firstRead
  have := digitValue_lt secondRead
  omega

/-! ## Regular expressions -/

/-- The constructs of `QRegularExpression` that the patterns of `kwinglplatform.cpp` use. -/
inductive Regex where
  /-- One character that `accepts` accepts: a literal character, `[0-9]`, `\d` (the ASCII
  digits, as Qt leaves Unicode properties off), or `[0-9,A-F]`. -/
  | symbol (accepts : Char → Bool)
  /-- The empty pattern. -/
  | empty
  | seq (first second : Regex)
  /-- `first|second`, which tries `first` before `second`. -/
  | alt (first second : Regex)
  /-- `\b`. -/
  | wordBoundary

namespace Regex

/-- A character of `\w`: an ASCII letter or digit, or `_`. The ends of the text are not. -/
def isWordChar : Option Char → Bool
  | some c => c.isAlphanum || c == '_'
  | none => false

/-- Match `regex` at the start of `text`, where `previous` is the character before
`text`, and hand the character before the rest, and the rest, to `onMatch`. The first way
of matching for which `onMatch` succeeds is taken, as PCRE's backtracking takes it. -/
def matchHere : Regex → Option Char → List Char →
    (Option Char → List Char → Option (List Char)) → Option (List Char)
  | symbol accepts, _, c :: rest, onMatch => if accepts c then onMatch (some c) rest else none
  | symbol _, _, [], _ => none
  | empty, previous, text, onMatch => onMatch previous text
  | seq first second, previous, text, onMatch =>
    first.matchHere previous text fun previous text => second.matchHere previous text onMatch
  | alt first second, previous, text, onMatch =>
    (first.matchHere previous text onMatch).or (second.matchHere previous text onMatch)
  | wordBoundary, previous, text, onMatch =>
    if isWordChar previous != isWordChar text.head? then onMatch previous text else none

/-- The text that a match of `regex` at the start of `text` consumes. -/
def matchedPrefix (regex : Regex) (previous : Option Char) (text : List Char) :
    Option (List Char) :=
  (regex.matchHere previous text fun _ rest => some rest).map fun rest =>
    text.take (text.length - rest.length)

/-- The first match of `regex` in `text`, trying each position from the start. -/
def firstMatch (regex : Regex) : Option Char → List Char → Option (List Char)
  | previous, [] => regex.matchedPrefix previous []
  | previous, c :: rest =>
    (regex.matchedPrefix previous (c :: rest)).or (regex.firstMatch (some c) rest)

/-- One literal character. -/
def char (c : Char) : Regex :=
  symbol (· == c)

/-- A literal text. -/
def literal : List Char → Regex
  | [] => empty
  | c :: rest => seq (char c) (literal rest)

/-- `regex{count}`. -/
def times (regex : Regex) : Nat → Regex
  | 0 => empty
  | count + 1 => seq regex (regex.times count)

/-- `regex?`, which takes `regex` when it can. -/
def optional (regex : Regex) : Regex :=
  alt regex empty

/-- The patterns of `parts`, one after the other. -/
def chain : List Regex → Regex
  | [] => empty
  | regex :: rest => seq regex (chain rest)

/-- `[0-9]`, and `\d`. -/
def digit : Regex :=
  symbol Char.isDigit

@[simp] theorem matchHere_symbol_cons (accepts : Char → Bool) (previous : Option Char)
    (c : Char) (rest : List Char) (onMatch : Option Char → List Char → Option (List Char)) :
    (symbol accepts).matchHere previous (c :: rest) onMatch =
      if accepts c then onMatch (some c) rest else none := rfl

@[simp] theorem matchHere_symbol_nil (accepts : Char → Bool) (previous : Option Char)
    (onMatch : Option Char → List Char → Option (List Char)) :
    (symbol accepts).matchHere previous [] onMatch = none := rfl

@[simp] theorem matchHere_empty (previous : Option Char) (text : List Char)
    (onMatch : Option Char → List Char → Option (List Char)) :
    empty.matchHere previous text onMatch = onMatch previous text := rfl

@[simp] theorem matchHere_seq (first second : Regex) (previous : Option Char) (text : List Char)
    (onMatch : Option Char → List Char → Option (List Char)) :
    (seq first second).matchHere previous text onMatch =
      first.matchHere previous text fun previous text => second.matchHere previous text onMatch :=
  rfl

@[simp] theorem matchHere_wordBoundary (previous : Option Char) (text : List Char)
    (onMatch : Option Char → List Char → Option (List Char)) :
    wordBoundary.matchHere previous text onMatch =
      if isWordChar previous != isWordChar text.head? then onMatch previous text else none := rfl

/-- A first match is a match at some position of the text. -/
theorem firstMatch_eq_some {regex : Regex} {previous : Option Char} {text found : List Char}
    (matched : regex.firstMatch previous text = some found) :
    ∃ before after start, text = before ++ after ∧ regex.matchedPrefix start after = some found := by
  induction text generalizing previous with
  | nil => exact ⟨[], [], previous, rfl, matched⟩
  | cons c rest ih =>
    simp only [firstMatch] at matched
    cases here : regex.matchedPrefix previous (c :: rest) with
    | some first =>
      rw [here, Option.or_some] at matched
      exact ⟨[], c :: rest, previous, rfl, matched ▸ here⟩
    | none =>
      rw [here, Option.none_or] at matched
      obtain ⟨before, after, start, rfl, at_⟩ := ih matched
      exact ⟨c :: before, after, start, rfl, at_⟩

end Regex

/-- Only letters and digits are hexadecimal digits. -/
theorem isWordChar_of_digitValue {c : Char} (digit : (digitValue 16 c).isSome) :
    Regex.isWordChar (some c) = true := by
  unfold digitValue digitCandidate at digit
  simp only [Regex.isWordChar, Char.isAlphanum, Char.isAlpha, Char.isUpper, Char.isLower,
    Char.isDigit, Bool.or_eq_true, Bool.and_eq_true, decide_eq_true_eq]
  split_ifs at digit <;> first
    | exact .inl (.inr ‹_›) | exact .inl (.inl (.inr ‹_›)) | exact .inl (.inl (.inl ‹_›))
    | simp_all

/-- `extract(text, pattern)` of `kwinglplatform.cpp`: the first match of `pattern` in
`text`, or an empty string. -/
def extract (text : List Char) (pattern : Regex) : List Char :=
  (pattern.firstMatch none text).getD []

theorem firstMatch_of_extract {text : List Char} {pattern : Regex} (found : extract text pattern ≠ []) :
    pattern.firstMatch none text = some (extract text pattern) := by
  unfold extract at found ⊢
  cases matched : pattern.firstMatch none text with
  | none => rw [matched] at found; exact absurd rfl found
  | some found => rfl

end Text

end KWin
