import Mathlib.Tactic.IntervalCases
import Mathlib.Data.List.Basic

/-!
# Go strings and byte encodings

A Go `string` is a sequence of bytes, and so it is here. On top of that, the three encodings of Go's
standard library that wire formats rest on:

* `beUint64` / `readBeUint64` — `binary.BigEndian` on eight bytes;
* `Hex` — `encoding/hex`;
* `Base64Url` — `base64.RawURLEncoding.Strict()`, which ignores line breaks in its input and
  refuses non-zero trailing bits.

Each decoder is a left inverse of its encoder (`Base64Url.decode_encode`, `Hex.decode_encode`,
`readBeUint64_beUint64`), and a lower-case hexadecimal text is the one its bytes encode to
(`Hex.encode_of_decode`).
-/

namespace FacetsNode

/-! ## Go strings -/

/-- A Go `string`: its bytes. `len`, `==` and `<` are those of the list. -/
abbrev GoString := List UInt8

instance : LawfulBEq GoString := inferInstance

/-- The Go string of a literal. -/
def goString (s : String) : GoString := s.toList.flatMap String.utf8EncodeChar

/-- `strings.ToLower` on one byte of an ASCII text. -/
def lowerByte (b : UInt8) : UInt8 := if 65 ≤ b.toNat ∧ b.toNat ≤ 90 then b + 32 else b

/-! ## Big-endian words -/

/-- `binary.BigEndian.PutUint64`. -/
def beUint64 (n : Nat) : List UInt8 :=
  [n / 2 ^ 56, n / 2 ^ 48, n / 2 ^ 40, n / 2 ^ 32, n / 2 ^ 24, n / 2 ^ 16, n / 2 ^ 8, n].map
    UInt8.ofNat

/-- `binary.BigEndian.Uint64`, on any number of bytes. -/
def readBeUint64 (bytes : List UInt8) : Nat := bytes.foldl (fun n b => n * 256 + b.toNat) 0

theorem length_beUint64 (n : Nat) : (beUint64 n).length = 8 := rfl

theorem readBeUint64_beUint64 {n : Nat} (h : n < 2 ^ 64) : readBeUint64 (beUint64 n) = n := by
  simp only [readBeUint64, beUint64, List.map_cons, List.map_nil, List.foldl_cons, List.foldl_nil,
    UInt8.toNat_ofNat']
  omega

/-! ## Hexadecimal -/

namespace Hex

/-- The lower-case digit of a nibble. -/
def digit (n : Nat) : UInt8 := UInt8.ofNat (if n < 10 then 48 + n else 87 + n)

/-- The nibble of a digit, in either case. -/
def value (c : UInt8) : Option Nat :=
  let n := c.toNat
  if 48 ≤ n ∧ n ≤ 57 then some (n - 48)
  else if 97 ≤ n ∧ n ≤ 102 then some (n - 87)
  else if 65 ≤ n ∧ n ≤ 70 then some (n - 55)
  else none

/-- `hex.EncodeToString`. -/
def encode : List UInt8 → GoString
  | [] => []
  | b :: bs => digit (b.toNat / 16) :: digit (b.toNat % 16) :: encode bs

/-- `hex.DecodeString`. -/
def decode : GoString → Option (List UInt8)
  | [] => some []
  | [_] => none
  | c :: d :: cs =>
    match value c, value d, decode cs with
    | some x, some y, some bs => some (UInt8.ofNat (x * 16 + y) :: bs)
    | _, _, _ => none

theorem value_digit {n : Nat} (h : n < 16) : value (digit n) = some n := by
  have hall : ∀ n < 16, value (digit n) = some n := by decide
  exact hall n h

theorem length_encode (l : List UInt8) : (encode l).length = 2 * l.length := by
  induction l with
  | nil => rfl
  | cons b l ih =>
    show (encode l).length + 1 + 1 = 2 * (l.length + 1)
    omega

theorem decode_encode (bytes : List UInt8) : decode (encode bytes) = some bytes := by
  induction bytes with
  | nil => rfl
  | cons b bs ih =>
    have hb : b.toNat < 256 := b.toNat_lt
    have hjoin : b.toNat / 16 * 16 + b.toNat % 16 = b.toNat := by omega
    simp only [encode, decode, value_digit (show b.toNat / 16 < 16 by omega),
      value_digit (show b.toNat % 16 < 16 by omega), ih, hjoin, UInt8.ofNat_toNat]

/-- Among the lower-case digits a value has one digit. -/
theorem digit_of_value {c : UInt8} {n : Nat} (h : value c = some n) (hlower : lowerByte c = c) :
    n < 16 ∧ digit n = c := by
  unfold value at h
  dsimp only at h
  split at h
  · next hc =>
    cases h
    have hlt : c.toNat - 48 < 10 := by omega
    refine ⟨by omega, ?_⟩
    rw [digit, if_pos hlt, Nat.add_sub_cancel' hc.1, UInt8.ofNat_toNat]
  · split at h
    · next hc =>
      cases h
      have hge : ¬ c.toNat - 87 < 10 := by omega
      refine ⟨by omega, ?_⟩
      rw [digit, if_neg hge, Nat.add_sub_cancel' (by omega), UInt8.ofNat_toNat]
    · split at h
      · next hc =>
        -- An upper-case digit is not its own lower-case form.
        have hupper : 65 ≤ c.toNat ∧ c.toNat ≤ 90 := by omega
        rw [lowerByte, if_pos hupper] at hlower
        have hnat := congrArg UInt8.toNat hlower
        rw [UInt8.toNat_add] at hnat
        have h32 : UInt8.toNat 32 = 32 := rfl
        omega
      · cases h

theorem encode_of_decode {text : GoString} {bytes : List UInt8} (h : decode text = some bytes)
    (hlower : text.map lowerByte = text) : encode bytes = text := by
  induction text using decode.induct generalizing bytes with
  | case1 =>
    cases h
    rfl
  | case2 c => cases h
  | case3 c d cs x y bs hcs hy hx ih =>
    simp only [decode, hx, hy, hcs, Option.some.injEq] at h
    subst h
    simp only [List.map_cons, List.cons.injEq] at hlower
    obtain ⟨hc, hd, hlower⟩ := hlower
    obtain ⟨hxlt, hxdigit⟩ := digit_of_value hx hc
    obtain ⟨hylt, hydigit⟩ := digit_of_value hy hd
    have hbyte : (UInt8.ofNat (x * 16 + y)).toNat = x * 16 + y := by
      rw [UInt8.toNat_ofNat']
      omega
    have hhigh : (x * 16 + y) / 16 = x := by omega
    have hlow : (x * 16 + y) % 16 = y := by omega
    rw [encode, hbyte, hhigh, hlow, hxdigit, hydigit, ih hcs hlower]
  | case4 c d cs hnone ih =>
    unfold decode at h
    split at h
    · next hx hy hcs => exact absurd hcs (hnone _ _ _ hx hy)
    · cases h

end Hex

/-! ## Unpadded base64url -/

namespace Base64Url

/-- The character of a sextet. -/
def char (n : Nat) : UInt8 :=
  UInt8.ofNat (if n < 26 then 65 + n
    else if n < 52 then 71 + n
    else if n < 62 then n - 4
    else if n = 62 then 45 else 95)

/-- The sextet of a character. -/
def value (c : UInt8) : Option Nat :=
  let n := c.toNat
  if 65 ≤ n ∧ n ≤ 90 then some (n - 65)
  else if 97 ≤ n ∧ n ≤ 122 then some (n - 71)
  else if 48 ≤ n ∧ n ≤ 57 then some (n + 4)
  else if n = 45 then some 62
  else if n = 95 then some 63
  else none

/-- Split bytes into sextets, three bytes at a time. -/
def sextets : List Nat → List Nat
  | [] => []
  | [a] => [a / 4, a % 4 * 16]
  | [a, b] => [a / 4, a % 4 * 16 + b / 16, b % 16 * 4]
  | a :: b :: c :: rest =>
    (a / 4) :: (a % 4 * 16 + b / 16) :: (b % 16 * 4 + c / 64) :: (c % 64) :: sextets rest

/-- Join sextets into bytes; a trailing group must leave its unused bits zero (`Strict`). -/
def joinSextets : List Nat → Option (List Nat)
  | [] => some []
  | [_] => none
  | [x, y] => if y % 16 = 0 then some [x * 4 + y / 16] else none
  | [x, y, z] => if z % 4 = 0 then some [x * 4 + y / 16, y % 16 * 16 + z / 4] else none
  | x :: y :: z :: w :: rest =>
    (joinSextets rest).map
      (fun bs => (x * 4 + y / 16) :: (y % 16 * 16 + z / 4) :: (z % 4 * 64 + w) :: bs)

/-- `base64.RawURLEncoding.EncodeToString`. -/
def encode (bytes : List UInt8) : GoString := (sextets (bytes.map UInt8.toNat)).map char

/-- Not a line break (`\n` or `\r`), which decoding skips. -/
def significant (c : UInt8) : Bool := c ≠ 10 && c ≠ 13

/-- `base64.RawURLEncoding.Strict().DecodeString`. -/
def decode (s : GoString) : Option (List UInt8) :=
  match (s.filter significant).mapM value with
  | none => none
  | some xs => (joinSextets xs).map (fun bs => bs.map UInt8.ofNat)

/-- The bytes of a canonical encoding: the text decodes and is what its bytes encode to. -/
def canonical (s : GoString) : Option (List UInt8) :=
  match decode s with
  | none => none
  | some bytes => if encode bytes = s then some bytes else none

theorem value_char {n : Nat} (h : n < 64) : value (char n) = some n := by
  have hall : ∀ n < 64, value (char n) = some n := by decide
  exact hall n h

theorem significant_char {n : Nat} (h : n < 64) : significant (char n) = true := by
  have hall : ∀ n < 64, significant (char n) = true := by decide
  exact hall n h

theorem sextets_lt {bs : List Nat} (h : ∀ b ∈ bs, b < 256) : ∀ x ∈ sextets bs, x < 64 := by
  induction bs using sextets.induct with
  | case1 => simp [sextets]
  | case2 a =>
    have ha := h a (by simp)
    simp only [sextets, List.mem_cons, List.not_mem_nil, or_false]
    rintro x (rfl | rfl) <;> omega
  | case3 a b =>
    have ha := h a (by simp)
    have hb := h b (by simp)
    simp only [sextets, List.mem_cons, List.not_mem_nil, or_false]
    rintro x (rfl | rfl | rfl) <;> omega
  | case4 a b c rest ih =>
    have ha := h a (by simp)
    have hb := h b (by simp)
    have hc := h c (by simp)
    simp only [sextets, List.mem_cons]
    rintro x (rfl | rfl | rfl | rfl | hx)
    · omega
    · omega
    · omega
    · omega
    · exact ih (fun y hy => h y (by simp [hy])) x hx

theorem joinSextets_sextets {bs : List Nat} (h : ∀ b ∈ bs, b < 256) :
    joinSextets (sextets bs) = some bs := by
  induction bs using sextets.induct with
  | case1 => rfl
  | case2 a =>
    have ha := h a (by simp)
    have h1 : a % 4 * 16 % 16 = 0 := by omega
    have h2 : a / 4 * 4 + a % 4 * 16 / 16 = a := by omega
    simp only [sextets, joinSextets, h1, h2, if_pos]
  | case3 a b =>
    have hb := h b (by simp)
    have h1 : b % 16 * 4 % 4 = 0 := by omega
    have h2 : a / 4 * 4 + (a % 4 * 16 + b / 16) / 16 = a := by omega
    have h3 : (a % 4 * 16 + b / 16) % 16 * 16 + b % 16 * 4 / 4 = b := by omega
    simp only [sextets, joinSextets, h1, h2, h3, if_pos]
  | case4 a b c rest ih =>
    have hb := h b (by simp)
    have hc := h c (by simp)
    have h1 : a / 4 * 4 + (a % 4 * 16 + b / 16) / 16 = a := by omega
    have h2 : (a % 4 * 16 + b / 16) % 16 * 16 + (b % 16 * 4 + c / 64) / 4 = b := by omega
    have h3 : (b % 16 * 4 + c / 64) % 4 * 64 + c % 64 = c := by omega
    simp only [sextets, joinSextets, ih (fun y hy => h y (by simp [hy])), Option.map_some,
      h1, h2, h3]

theorem mapM_value_char {xs : List Nat} (h : ∀ x ∈ xs, x < 64) :
    (xs.map char).mapM value = some xs := by
  induction xs with
  | nil => rfl
  | cons x xs ih =>
    rw [List.map_cons, List.mapM_cons, value_char (h x (by simp)),
      ih (fun y hy => h y (by simp [hy]))]
    rfl

theorem decode_encode (bytes : List UInt8) : decode (encode bytes) = some bytes := by
  have hb : ∀ b ∈ bytes.map UInt8.toNat, b < 256 := by
    intro b hb
    obtain ⟨u, -, rfl⟩ := List.mem_map.mp hb
    exact u.toNat_lt
  have hx := sextets_lt hb
  have hfilter : ((sextets (bytes.map UInt8.toNat)).map char).filter significant =
      (sextets (bytes.map UInt8.toNat)).map char := by
    rw [List.filter_eq_self]
    intro c hc
    obtain ⟨n, hn, rfl⟩ := List.mem_map.mp hc
    exact significant_char (hx n hn)
  unfold decode encode
  rw [hfilter, mapM_value_char hx]
  simp [joinSextets_sextets hb, List.map_map, Function.comp_def]

theorem canonical_encode (bytes : List UInt8) : canonical (encode bytes) = some bytes := by
  unfold canonical
  rw [decode_encode]
  exact if_pos rfl

end Base64Url

end FacetsNode
