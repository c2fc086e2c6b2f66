import FacetsNode.Lib.Encoding
import Mathlib.Data.Nat.Digits.Defs

/-!
# JSON texts

`encoding/json` as a writer. A `Json` value is what the package has in hand before it writes —
numbers are already texts, object fields already in order — and `Json.render` is the text it writes,
byte for byte. Strings are the interesting part: the writer works on bytes, copies well-formed
runes, replaces each byte that does not start one by `U+FFFD`, and escapes control characters,
quotes, backslashes, the two line separators and, on request, the three characters that matter
inside HTML.
-/

namespace FacetsNode

/-! ## Runes -/

namespace Utf8

/-- A continuation byte. -/
def isTail (b : UInt8) : Bool := 0x80 ≤ b && b ≤ 0xBF

/-- Whether `c` may follow the first byte `b` of a rune of three or four bytes: no overlong form, no
surrogate, nothing past `U+10FFFF`. -/
def isSecond (b c : UInt8) : Bool :=
  if b = 0xE0 then 0xA0 ≤ c && c ≤ 0xBF
  else if b = 0xED then 0x80 ≤ c && c ≤ 0x9F
  else if b = 0xF0 then 0x90 ≤ c && c ≤ 0xBF
  else if b = 0xF4 then 0x80 ≤ c && c ≤ 0x8F
  else isTail c

/-- `utf8.DecodeRune`: the length of the rune the text starts with, zero where it starts with
none. -/
def runeLength : GoString → Nat
  | [] => 0
  | b :: rest =>
    if b < 0x80 then 1
    else if 0xC2 ≤ b ∧ b ≤ 0xDF then
      match rest with
      | c :: _ => if isTail c then 2 else 0
      | _ => 0
    else if 0xE0 ≤ b ∧ b ≤ 0xEF then
      match rest with
      | c :: d :: _ => if isSecond b c && isTail d then 3 else 0
      | _ => 0
    else if 0xF0 ≤ b ∧ b ≤ 0xF4 then
      match rest with
      | c :: d :: e :: _ => if isSecond b c && isTail d && isTail e then 4 else 0
      | _ => 0
    else 0

/-- `utf8.Valid`, with `owed` bytes of a rune still to come. -/
def validFrom : Nat → GoString → Bool
  | owed, [] => owed == 0
  | owed + 1, _ :: rest => validFrom owed rest
  | 0, b :: rest =>
    match runeLength (b :: rest) with
    | 0 => false
    | n + 1 => validFrom n rest

def valid (s : GoString) : Bool := validFrom 0 s

/-- The bytes of the runes `unicode.IsSpace` knows. -/
def spaces : List GoString :=
  [[9], [10], [11], [12], [13], [32], [0xC2, 0x85], [0xC2, 0xA0], [0xE1, 0x9A, 0x80],
   [0xE2, 0x80, 0x80], [0xE2, 0x80, 0x81], [0xE2, 0x80, 0x82], [0xE2, 0x80, 0x83],
   [0xE2, 0x80, 0x84], [0xE2, 0x80, 0x85], [0xE2, 0x80, 0x86], [0xE2, 0x80, 0x87],
   [0xE2, 0x80, 0x88], [0xE2, 0x80, 0x89], [0xE2, 0x80, 0x8A], [0xE2, 0x80, 0xA8],
   [0xE2, 0x80, 0xA9], [0xE2, 0x80, 0xAF], [0xE2, 0x81, 0x9F], [0xE3, 0x80, 0x80]]

/-- `strings.TrimSpace(s) == s`, of a valid text: it neither starts nor ends with a space. -/
def trimmed (s : GoString) : Bool :=
  !spaces.any fun space => space.isPrefixOf s || space.isSuffixOf s

/-- `utf8.RuneCountInString`, of a valid text. -/
def runeCount (s : GoString) : Nat := s.countP fun b => !isTail b

end Utf8

/-! ## Values -/

/-- A JSON value about to be written. -/
inductive Json where
  | null
  | bool (b : Bool)
  | num (text : GoString)
  | str (s : GoString)
  | arr (elems : List Json)
  | obj (fields : List (GoString × Json))

namespace Json

/-- The decimal text of a natural number. -/
def natText (n : Nat) : GoString :=
  if n = 0 then [48] else ((Nat.digits 10 n).map (fun d => UInt8.ofNat (48 + d))).reverse

/-- The decimal text of an integer. -/
def intText : Int → GoString
  | .ofNat n => natText n
  | .negSucc n => 45 :: natText (n + 1)

def ofNat (n : Nat) : Json := .num (natText n)

def ofInt (n : Int) : Json := .num (intText n)

/-- `\u00` and two hexadecimal digits. -/
def unicodeEscape (b : UInt8) : GoString :=
  [92, 117, 48, 48, Hex.digit (b.toNat / 16), Hex.digit (b.toNat % 16)]

/-- One byte of an ASCII character inside a string. -/
def quoteAscii (escapeHTML : Bool) (b : UInt8) : GoString :=
  if b = 34 ∨ b = 92 then [92, b]
  else if b = 8 then [92, 98]
  else if b = 12 then [92, 102]
  else if b = 10 then [92, 110]
  else if b = 13 then [92, 114]
  else if b = 9 then [92, 116]
  else if b < 32 ∨ escapeHTML = true ∧ (b = 60 ∨ b = 62 ∨ b = 38) then unicodeEscape b
  else [b]

/-- The bytes of a string between its quotes; `copied` bytes of a rune are still to be copied. -/
def quoteFrom (escapeHTML : Bool) : Nat → GoString → GoString
  | _, [] => []
  | copied + 1, b :: rest => b :: quoteFrom escapeHTML copied rest
  | 0, 0xE2 :: 0x80 :: 0xA8 :: rest =>
    [92, 117, 50, 48, 50, 56] ++ quoteFrom escapeHTML 0 rest
  | 0, 0xE2 :: 0x80 :: 0xA9 :: rest =>
    [92, 117, 50, 48, 50, 57] ++ quoteFrom escapeHTML 0 rest
  | 0, b :: rest =>
    if b < 0x80 then quoteAscii escapeHTML b ++ quoteFrom escapeHTML 0 rest
    else
      match Utf8.runeLength (b :: rest) with
      | 0 => [92, 117, 102, 102, 102, 100] ++ quoteFrom escapeHTML 0 rest
      | n + 1 => b :: quoteFrom escapeHTML n rest

def quote (escapeHTML : Bool) (s : GoString) : GoString := 34 :: quoteFrom escapeHTML 0 s ++ [34]

mutual

/-- The text `encoding/json` writes for a value. -/
def render (escapeHTML : Bool) : Json → GoString
  | .null => [110, 117, 108, 108]
  | .bool true => [116, 114, 117, 101]
  | .bool false => [102, 97, 108, 115, 101]
  | .num text => text
  | .str s => quote escapeHTML s
  | .arr elems => 91 :: renderElems escapeHTML elems ++ [93]
  | .obj fields => 123 :: renderFields escapeHTML fields ++ [125]

def renderElems (escapeHTML : Bool) : List Json → GoString
  | [] => []
  | [v] => render escapeHTML v
  | v :: w :: rest => render escapeHTML v ++ 44 :: renderElems escapeHTML (w :: rest)

def renderFields (escapeHTML : Bool) : List (GoString × Json) → GoString
  | [] => []
  | [(k, v)] => quote escapeHTML k ++ 58 :: render escapeHTML v
  | (k, v) :: f :: rest =>
    quote escapeHTML k ++ 58 :: render escapeHTML v ++ 44 :: renderFields escapeHTML (f :: rest)

end

def marshal (v : Json) : GoString := v.render true

/-- A record with an escaped string and a separator. -/
example : marshal (.obj [(goString "a", .ofInt (-12)),
    (goString "b", .str [60, 92, 9, 0xE2, 0x80, 0xA8])])
    = goString "\x7b\"a\":-12,\"b\":\"\\u003c\\\\\\t\\u2028\"\x7d" := by decide +kernel

end Json

end FacetsNode
