import NeoRecomp.GameConfig

/-!
# Reading configuration text

The C string functions that `game_config.c` reads its files with.  A character is a byte, and a
string ends at its first NUL.
-/

namespace NeoRecomp

/-! ## Characters -/

-- `isspace` in the C locale.
def isSpace (c : Char) : Bool :=
  c = ' ' || c = '\t' || c = '\n' || c = '\r' || c = '\x0B' || c = '\x0C'

-- `isdigit`
def isDecDigit (c : Char) : Bool := '0' ≤ c && c ≤ '9'

-- `isalpha`
def isLetter (c : Char) : Bool := 'a' ≤ c && c ≤ 'z' || 'A' ≤ c && c ≤ 'Z'

/-- The value of a digit or a letter in a number of base up to 36. -/
def digitValue (c : Char) : Option Nat :=
  if isDecDigit c then some (c.toNat - '0'.toNat)
  else if 'a' ≤ c && c ≤ 'z' then some (c.toNat - 'a'.toNat + 10)
  else if 'A' ≤ c && c ≤ 'Z' then some (c.toNat - 'A'.toNat + 10)
  else none

-- `trim_left`
def trimLeft (s : List Char) : List Char := s.dropWhile isSpace

/-! ## Numbers -/

def isDigitIn (base : Nat) (c : Char) : Bool := (digitValue c).any (· < base)

/-- The number that the leading digits of a string make behind those already read, and the rest of
the string. -/
def readDigits (base : Nat) : Nat → List Char → Nat × List Char
  | acc, [] => (acc, [])
  | acc, c :: cs =>
    if isDigitIn base c then readDigits base (acc * base + (digitValue c).getD 0) cs
    else (acc, c :: cs)

/-- The digits `strtoul` reads with base 0 behind blanks and sign: a `0x` before a hexadecimal
digit selects base 16, another leading 0 base 8. -/
def readUnsigned (s : List Char) : Option (Nat × List Char) :=
  match s with
  | [] => none
  | c :: cs =>
    if isDecDigit c then
      if c = '0' then
        match cs with
        | x :: h :: _ =>
          if (x = 'x' || x = 'X') && isDigitIn 16 h then some (readDigits 16 0 (cs.drop 1))
          else some (readDigits 8 0 s)
        | _ => some (readDigits 8 0 s)
      else some (readDigits 10 0 s)
    else none

-- `ULONG_MAX`
def ulongMax : Nat := 2 ^ 64 - 1

/-- `strtoul(s, &end, 0)` as its value and `end`, or `none` where no number is read. -/
def strtoul (s : List Char) : Option (Nat × List Char) :=
  let s := trimLeft s
  let negative := s.head? = some '-'
  let digits := if negative ∨ s.head? = some '+' then s.tail else s
  (readUnsigned digits).map fun (value, rest) =>
    if ulongMax < value then (ulongMax, rest)
    else if negative then ((2 ^ 64 - value) % 2 ^ 64, rest)
    else (value, rest)

/-- `(uint32_t)strtoul(value, NULL, 0)`. -/
def strtoul32 (value : List Char) : BitVec 32 :=
  BitVec.ofNat 32 ((strtoul value).elim 0 Prod.fst)

/-! ## Lines -/

/-- What one `fgets` reads of a file into a buffer for `room` characters, and what it leaves. -/
def fgets : Nat → List Char → List Char × List Char
  | 0, file => ([], file)
  | _ + 1, [] => ([], [])
  | room + 1, c :: file =>
    if c = '\n' then ([c], file) else (c :: (fgets room file).1, (fgets room file).2)

-- `sizeof(line) - 1` of `ng_game_config_load_into`
def lineRoom : Nat := 511

/-- The pieces that the `fgets` of the loader reads, with a bound on their number. -/
def readPieces : Nat → List Char → List (List Char)
  | 0, _ => []
  | _ + 1, [] => []
  | turns + 1, c :: file =>
    (fgets lineRoom (c :: file)).1 :: readPieces turns (fgets lineRoom (c :: file)).2

/-- The pieces of a file; each holds at least one character. -/
def readLines (file : List Char) : List (List Char) := readPieces file.length file

/-- What the loader keeps of a piece: the string in the buffer up to a `#`, without the blanks in
front. -/
def lineText (piece : List Char) : List Char :=
  trimLeft ((piece.takeWhile (· ≠ '\x00')).takeWhile (· ≠ '#'))

/-! ## Keys and values -/

/-- `key_value_start`: what stands behind the key, an equals sign and blanks. -/
def keyValueStart (line : List Char) (key : String) : Option (List Char) :=
  if key.toList.isPrefixOf line then
    match trimLeft (line.drop key.toList.length) with
    | '=' :: value => some (trimLeft value)
    | _ => none
  else none

/-- `key_starts_array`. -/
def keyStartsArray (line : List Char) (key : String) : Bool := (keyValueStart line key).isSome

/-- Behind the first equals sign, or the whole line. -/
def afterEquals (line : List Char) : List Char :=
  if '=' ∈ line then (line.dropWhile (· ≠ '=')).tail else line

-- Blanks and an opening quote.
def skipQuote (value : List Char) : List Char :=
  match trimLeft value with
  | '\x22' :: rest => rest
  | rest => rest

/-- The numbers in a line up to a `#`, with a bound on the characters still to look at. -/
def lineNumbers : Nat → List Char → List (BitVec 32)
  | 0, _ => []
  | _ + 1, [] => []
  | turns + 1, c :: cs =>
    if c = '#' then []
    else if isDecDigit c then
      match strtoul (c :: cs) with
      | some (value, rest) => BitVec.ofNat 32 value :: lineNumbers turns rest
      | none => lineNumbers turns cs
    else lineNumbers turns cs

/-- The walk of `parse_address_values` and its siblings over a line. -/
def numbersIn (line : List Char) : List (BitVec 32) := lineNumbers line.length line

/-- The quoted strings in a line up to a `#`. -/
def lineStrings : Nat → List Char → List (List Char)
  | 0, _ => []
  | _ + 1, [] => []
  | turns + 1, c :: cs =>
    if c = '#' then []
    else if c = '\x22' then
      match cs.dropWhile (· ≠ '\x22') with
      | [] => []
      | _ :: rest => cs.takeWhile (· ≠ '\x22') :: lineStrings turns rest
    else lineStrings turns cs

/-- The walk of `parse_string_values` and its siblings over a line. -/
def stringsIn (line : List Char) : List (List Char) := lineStrings line.length line

/-! ## Values -/

/-- The word that a format is named with. -/
def formatToken (value : List Char) : List Char :=
  ((skipQuote value).takeWhile fun c => c ≠ '\x22' && c ≠ ',' && !isSpace c).take 31

/-- `parse_string_scalar` into a buffer of `size` characters. -/
def parseStringScalar (value : List Char) (size : Nat) : List Char :=
  ((skipQuote value).takeWhile fun c => c ≠ '\x22' && c ≠ '\n' && c ≠ '\r').take (size - 1)

/-- `parse_areg_value`. -/
def parseAregValue (value : List Char) : BitVec 8 :=
  let value := skipQuote value
  let reg := (strtoul value).elim 0 Prod.fst
  let number : BitVec 8 := if reg ≤ 7 then BitVec.ofNat 8 reg else 0
  match value with
  | a :: d :: _ =>
    if (a = 'A' ∨ a = 'a') ∧ '0' ≤ d ∧ d ≤ '7' then BitVec.ofNat 8 (d.toNat - '0'.toNat)
    else number
  | _ => number

/-- `parse_bool_value`. -/
def parseBoolValue (value : List Char) : Bool :=
  let value := skipQuote value
  value.head? = some '1' || "true".toList.isPrefixOf value || "yes".toList.isPrefixOf value ||
    "on".toList.isPrefixOf value

/-- `parse_range_value`. -/
def parseRangeValue (value : List Char) : Option (BitVec 32 × BitVec 32) :=
  match strtoul (skipQuote value) with
  | none => none
  | some (lo, mid) =>
    match trimLeft mid with
    | '-' :: rest =>
      match strtoul (trimLeft rest) with
      | none => none
      | some (hi, _) => some (BitVec.ofNat 32 lo, BitVec.ofNat 32 hi)
    | _ => none

end NeoRecomp
