import Mathlib.Data.List.Range
import Mathlib.Tactic.NormNum.Pow

set_option autoImplicit false

/-! # The text of a UUID

`formatUUID` (`WriteHelpers.cpp`) writes a UUID as the 36 characters

    xxxxxxxx-xxxx-xxxx-xxxx-xxxxxxxxxxxx

into an uninitialised `std::array<char, 36>`: one `formatHex` call per group of hex digits and one
assignment per dash. `writeUUIDText` writes that array to a buffer; `finalizePartOnDisk` writes
`uuid.txt` with it.

A `UUID` is a `UInt128`, the two 64-bit words `items[0]` (the low word) and `items[1]`. On a
little-endian machine `formatUUID` reads the 16 bytes of the UUID backwards, from byte 7 down to
byte 0 and then from byte 15 down to byte 8. The text therefore spells `items[0]` and then
`items[1]`, each most significant digit first.

The model keeps the array as a map from index to character; what it held before is a parameter.
`formatUUID_eq_uuidText` shows that the result is `uuidText` of the two words, whatever the array
held: every one of the 36 characters is written. `uuidOfText` reads a text of that form back, and
`uuidOfText_formatUUID` is the round trip.
-/

namespace ClickHouse.WriteHelpers

/-! ## The code -/

/-- Memory holding characters, from index to character. -/
abbrev CharMemory := Nat → Char

/-- Byte `i` of a `UInt128` in the memory of a little-endian machine: bits `8 i` to `8 i + 7`. -/
def UInt128.byte (x i : Nat) : UInt8 := UInt8.ofNat (x / 256 ^ i)

@[simp] theorem UInt128.toNat_byte (x i : Nat) : (UInt128.byte x i).toNat = x / 256 ^ i % 256 :=
  rfl

/-- The words `items[0]` and `items[1]` of a `UInt128`, the low one first. -/
def UInt128.items (x : Nat) : Nat × Nat := (x % 2 ^ 64, x / 2 ^ 64 % 2 ^ 64)

/-- `writeHexByteLowercase` (`base/hex.h`, not among the sources): the two lowercase hex digits of
`byte` at `out` and `out + 1`, the high digit first. -/
def writeHexByteLowercase (byte : UInt8) (out : Nat) (dst : CharMemory) : CharMemory :=
  Function.update (Function.update dst out (Nat.digitChar (byte.toNat / 16))) (out + 1)
    (Nat.digitChar (byte.toNat % 16))

/-- `formatHex`: the bytes `src[0]`, ..., `src[num_bytes - 1]`, two hex digits each, from
`dst_ptr` on. -/
def formatHex (src : Nat → UInt8) (dst_ptr num_bytes : Nat) (dst : CharMemory) : CharMemory :=
  (List.range num_bytes).foldl
    (fun dst src_pos => writeHexByteLowercase (src src_pos) (dst_ptr + 2 * src_pos) dst) dst

/-- `formatUUID` on a little-endian machine, into an array that held `dst`. `src` is
`std::reverse_iterator<const UInt8 *>(src_ptr + 16)`: `src[k]` is byte `15 - k` of the UUID. -/
def formatUUID (uuid : Nat) (dst : CharMemory) : List Char :=
  let src : Nat → UInt8 := fun k => UInt128.byte uuid (15 - k)
  let dst := formatHex (fun k => src (8 + k)) 0 4 dst
  let dst := Function.update dst 8 '-'
  let dst := formatHex (fun k => src (12 + k)) 9 2 dst
  let dst := Function.update dst 13 '-'
  let dst := formatHex (fun k => src (14 + k)) 14 2 dst
  let dst := Function.update dst 18 '-'
  let dst := formatHex src 19 2 dst
  let dst := Function.update dst 23 '-'
  let dst := formatHex (fun k => src (2 + k)) 24 6 dst
  (List.range 36).map dst

/-- `writeUUIDText` (`WriteHelpers.h`, not among the sources): the 36 characters of
`formatUUID`, one byte each. -/
def writeUUIDText (dst : CharMemory) (uuid : Nat) : List UInt8 :=
  (formatUUID uuid dst).map Char.toUInt8

/-! ## The text -/

/-- The `width` lowercase hex digits of `x % 16 ^ width`, the most significant first. -/
def hexDigits : Nat → Nat → List Char
  | 0, _ => []
  | width + 1, x => hexDigits width (x / 16) ++ [Nat.digitChar (x % 16)]

/-- The text of the UUID with words `items`: the 16 hex digits of `items[0]` and then the 16 of
`items[1]`, in groups of 8, 4, 4, 4 and 12 joined by dashes. -/
def uuidText (items : Nat × Nat) : List Char :=
  let digits := hexDigits 16 items.1 ++ hexDigits 16 items.2
  digits.take 8 ++ '-' :: (digits.drop 8).take 4 ++ '-' :: (digits.drop 12).take 4 ++ '-' ::
    (digits.drop 16).take 4 ++ '-' :: digits.drop 20

/-- The value of a lowercase hex digit. -/
def hexDigitValue (c : Char) : Nat := if c.toNat < 97 then c.toNat - 48 else c.toNat - 87

/-- The number that hex digits spell, the most significant first. -/
def hexValue (digits : List Char) : Nat :=
  digits.foldl (fun acc c => 16 * acc + hexDigitValue c) 0

/-- The UUID that a text of the form `uuidText` spells, and `none` for any other text: the words
are read from the first and the last sixteen digits, and the text must be what they print. -/
def uuidOfText (text : List Char) : Option Nat :=
  let digits := text.filter (· != '-')
  let items := (hexValue (digits.take 16), hexValue (digits.drop 16))
  if uuidText items = text then some (items.1 + 2 ^ 64 * items.2) else none

/-- The UUID that the bytes of a text spell, one character a byte. -/
def uuidOfBytes (data : List UInt8) : Option Nat :=
  uuidOfText (data.map fun b => Char.ofNat b.toNat)

/-! ## `formatHex` -/

section FormatHex

variable (src : Nat → UInt8) (dst_ptr : Nat)

theorem formatHex_succ (num_bytes : Nat) (dst : CharMemory) :
    formatHex src dst_ptr (num_bytes + 1) dst =
      writeHexByteLowercase (src num_bytes) (dst_ptr + 2 * num_bytes)
        (formatHex src dst_ptr num_bytes dst) := by
  simp [formatHex, List.range_succ]

/-- `formatHex` writes the `2 * num_bytes` characters from `dst_ptr` on and no other. -/
theorem formatHex_apply_of_not_mem {num_bytes i : Nat}
    (h : i < dst_ptr ∨ dst_ptr + 2 * num_bytes ≤ i) (dst : CharMemory) :
    formatHex src dst_ptr num_bytes dst i = dst i := by
  induction num_bytes with
  | zero => rfl
  | succ n ih =>
    rw [formatHex_succ, writeHexByteLowercase, Function.update_noteq (by omega),
      Function.update_noteq (by omega), ih (by omega)]

/-- The characters `formatHex` writes are the hex digits of the bytes, in order. -/
theorem map_formatHex (num_bytes : Nat) (dst : CharMemory) :
    (List.range' dst_ptr (2 * num_bytes)).map (formatHex src dst_ptr num_bytes dst) =
      (List.range num_bytes).flatMap fun k => hexDigits 2 (src k).toNat := by
  induction num_bytes with
  | zero => rfl
  | succ n ih =>
    have hbyte : (src n).toNat < 256 := (src n).toNat_lt_size
    rw [show 2 * (n + 1) = 2 + 2 * n by omega, ← List.range'_append_1, List.map_append,
      List.range_succ, List.flatMap_append, ← ih, formatHex_succ]
    congr 1
    · refine List.map_congr_left fun i hi => ?_
      rw [List.mem_range'_1] at hi
      rw [writeHexByteLowercase, Function.update_noteq (by omega), Function.update_noteq (by omega)]
    · simp [List.range', writeHexByteLowercase, hexDigits, Nat.mod_eq_of_lt (by omega : (src n).toNat / 16 < 16)]

/-- Where `formatHex` writes nothing, it leaves the characters as they were. -/
theorem map_formatHex_of_disjoint {num_bytes : Nat} {l : List Nat}
    (h : ∀ i ∈ l, i < dst_ptr ∨ dst_ptr + 2 * num_bytes ≤ i) (dst : CharMemory) :
    l.map (formatHex src dst_ptr num_bytes dst) = l.map dst :=
  List.map_congr_left fun i hi => formatHex_apply_of_not_mem src dst_ptr (h i hi) dst

theorem map_range'_formatHex {len num_bytes : Nat} (h : len = 2 * num_bytes) (dst : CharMemory) :
    (List.range' dst_ptr len).map (formatHex src dst_ptr num_bytes dst) =
      (List.range num_bytes).flatMap fun k => hexDigits 2 (src k).toNat := by
  rw [h, map_formatHex]

end FormatHex

theorem map_update_of_not_mem {l : List Nat} {a : Nat} (h : a ∉ l) (v : Char) (dst : CharMemory) :
    l.map (Function.update dst a v) = l.map dst :=
  List.map_congr_left fun i hi => Function.update_noteq (fun he : i = a => h (he ▸ hi)) v dst

/-! ## Hex digits -/

@[simp] theorem length_hexDigits (width x : Nat) : (hexDigits width x).length = width := by
  induction width generalizing x with
  | zero => rfl
  | succ w ih => simp [hexDigits, ih]

/-- The digits of a number split where its value splits. -/
theorem hexDigits_add (a b x : Nat) :
    hexDigits (a + b) x = hexDigits a (x / 16 ^ b) ++ hexDigits b x := by
  induction b generalizing x with
  | zero => simp [hexDigits]
  | succ b ih =>
    rw [← Nat.add_assoc, hexDigits, ih, hexDigits, Nat.div_div_eq_div_mul, ← pow_succ',
      List.append_assoc]

/-- The digits of `x` are those of `x % 16 ^ width`. -/
theorem hexDigits_mod (width x : Nat) : hexDigits width (x % 16 ^ width) = hexDigits width x := by
  induction width generalizing x with
  | zero => rfl
  | succ w ih =>
    rw [hexDigits, hexDigits, pow_succ', Nat.mod_mul_right_div_self, ih,
      Nat.mod_mod_of_dvd _ (Dvd.intro _ rfl)]

theorem hexDigits_congr {width x y : Nat} (h : x % 16 ^ width = y % 16 ^ width) :
    hexDigits width x = hexDigits width y := by
  rw [← hexDigits_mod, h, hexDigits_mod]

/-- `num_bytes` bytes of `x`, read downwards from byte `e`, spell the digits of `x` from there. -/
theorem flatMap_hexDigits_byte (x e num_bytes : Nat) (h : num_bytes ≤ e + 1) :
    ((List.range num_bytes).flatMap fun k => hexDigits 2 (UInt128.byte x (e - k)).toNat) =
      hexDigits (2 * num_bytes) (x / 256 ^ (e + 1 - num_bytes)) := by
  induction num_bytes with
  | zero => rfl
  | succ n ih =>
    have hdiv : x / 256 ^ (e - n) / 16 ^ 2 = x / 256 ^ (e + 1 - n) := by
      rw [Nat.div_div_eq_div_mul, show e + 1 - n = e - n + 1 by omega, pow_succ 256 (e - n)]
      norm_num
    rw [List.range_succ, List.flatMap_append, ih (by omega), List.flatMap_singleton,
      show 2 * (n + 1) = 2 * n + 2 by omega, hexDigits_add, show e + 1 - (n + 1) = e - n by omega,
      hdiv]
    exact congrArg _ (hexDigits_congr (by simp))

/-- What holds of the sixteen digits holds of every character of a number's digits. -/
theorem forall_mem_hexDigits (p : Char → Prop) (hp : ∀ d < 16, p (Nat.digitChar d))
    (width x : Nat) : ∀ c ∈ hexDigits width x, p c := by
  induction width generalizing x with
  | zero => simp [hexDigits]
  | succ w ih =>
    simp only [hexDigits, List.forall_mem_append, List.forall_mem_singleton]
    exact ⟨ih _, hp _ (Nat.mod_lt _ (by norm_num))⟩

theorem hexDigitValue_digitChar : ∀ d < 16, hexDigitValue (Nat.digitChar d) = d := by decide

theorem digitChar_ne_dash : ∀ d < 16, (Nat.digitChar d != '-') = true := by decide

theorem digitChar_toNat_lt : ∀ d < 16, (Nat.digitChar d).toNat < 128 := by decide

@[simp] theorem filter_hexDigits (width x : Nat) :
    (hexDigits width x).filter (· != '-') = hexDigits width x :=
  List.filter_eq_self.2 (forall_mem_hexDigits _ digitChar_ne_dash width x)

/-- Reading the digits of `x` gives back `x % 16 ^ width`. -/
theorem hexValue_hexDigits (width x : Nat) : hexValue (hexDigits width x) = x % 16 ^ width := by
  induction width generalizing x with
  | zero => simp [hexDigits, hexValue, Nat.mod_one]
  | succ w ih =>
    have hlast : hexValue (hexDigits w (x / 16) ++ [Nat.digitChar (x % 16)]) =
        16 * hexValue (hexDigits w (x / 16)) + hexDigitValue (Nat.digitChar (x % 16)) := by
      simp [hexValue]
    rw [hexDigits, hlast, ih, hexDigitValue_digitChar _ (Nat.mod_lt _ (by norm_num)), pow_succ',
      ← Nat.mod_mul_right_div_self,
      ← Nat.mod_mod_of_dvd x (Dvd.intro (16 ^ w) rfl : 16 ∣ 16 * 16 ^ w), Nat.div_add_mod]

/-! ## The text of a UUID -/

/-- The digits of a word are those of its low 64 bits. -/
theorem hexDigits_mod_two_pow_64 (x : Nat) : hexDigits 16 (x % 2 ^ 64) = hexDigits 16 x :=
  hexDigits_mod 16 x

theorem uuidText_mod (a b : Nat) : uuidText (a % 2 ^ 64, b % 2 ^ 64) = uuidText (a, b) := by
  simp only [uuidText, hexDigits_mod_two_pow_64]

/-- The first word's digits, in the groups of a UUID's text. -/
theorem hexDigits_sixteen_groups (x : Nat) :
    hexDigits 16 x = hexDigits 8 (x / 16 ^ 8) ++ hexDigits 4 (x / 16 ^ 4) ++ hexDigits 4 x := by
  rw [List.append_assoc, ← hexDigits_add 4 4 x, ← hexDigits_add 8 8 x]

/-- The five groups of a UUID's text, each the digits of a part of a word. -/
theorem uuidText_eq_groups (a b : Nat) :
    uuidText (a, b) = hexDigits 8 (a / 16 ^ 8) ++ '-' :: hexDigits 4 (a / 16 ^ 4) ++ '-' ::
      hexDigits 4 a ++ '-' :: hexDigits 4 (b / 16 ^ 12) ++ '-' :: hexDigits 12 b := by
  have hb : hexDigits 16 b = hexDigits 4 (b / 16 ^ 12) ++ hexDigits 12 b := hexDigits_add 4 12 b
  simp [uuidText, hexDigits_sixteen_groups a, hb, List.take_append_eq_append_take, List.drop_append_eq_append_drop,
    List.drop_of_length_le, List.take_of_length_le]

/-- **`formatUUID` writes the text of the UUID.** Whatever the array held, the 36 characters are
the digits of `items[0]` and then of `items[1]`, in the groups of `uuidText`. -/
theorem formatUUID_eq_uuidText (uuid : Nat) (dst : CharMemory) :
    formatUUID uuid dst = uuidText (UInt128.items uuid) := by
  have hrange : List.range 36 = List.range' 0 (2 * 4) ++ 8 :: List.range' 9 (2 * 2) ++
      13 :: List.range' 14 (2 * 2) ++ 18 :: List.range' 19 (2 * 2) ++ 23 :: List.range' 24 (2 * 6) := by
    decide
  rw [UInt128.items, uuidText_mod, uuidText_eq_groups]
  unfold formatUUID
  rw [hrange]
  simp (disch := decide) only [List.map_append, List.map_cons, map_formatHex_of_disjoint,
    map_update_of_not_mem, formatHex_apply_of_not_mem, Function.update_noteq, Function.update_same,
    map_range'_formatHex, Nat.sub_add_eq, flatMap_hexDigits_byte, Nat.div_div_eq_div_mul]
  norm_num

/-! ## Reading the text back -/

theorem forall_mem_uuidText (p : Char → Prop) (hp : ∀ d < 16, p (Nat.digitChar d)) (hdash : p '-')
    (a b : Nat) : ∀ c ∈ uuidText (a, b), p c := by
  simp only [uuidText_eq_groups, List.mem_append, List.mem_cons, or_assoc]
  rintro c (hc | rfl | hc | rfl | hc | rfl | hc | rfl | hc)
  all_goals first | exact hdash | exact forall_mem_hexDigits p hp _ _ c hc

/-- The digits of a UUID's text are those of its two words. -/
theorem filter_uuidText (a b : Nat) :
    (uuidText (a, b)).filter (· != '-') = hexDigits 16 a ++ hexDigits 16 b := by
  have hb : hexDigits 16 b = hexDigits 4 (b / 16 ^ 12) ++ hexDigits 12 b := hexDigits_add 4 12 b
  simp [uuidText_eq_groups, hexDigits_sixteen_groups a, hb, List.filter_append]

/-- The text of two words reads back as the `UInt128` they make. -/
theorem uuidOfText_uuidText {a b : Nat} (ha : a < 2 ^ 64) (hb : b < 2 ^ 64) :
    uuidOfText (uuidText (a, b)) = some (a + 2 ^ 64 * b) := by
  have hlt : ∀ x < 2 ^ 64, x % 16 ^ 16 = x := fun x hx => Nat.mod_eq_of_lt (by omega)
  unfold uuidOfText
  dsimp only
  rw [filter_uuidText, List.take_left' (length_hexDigits 16 a), List.drop_left' (length_hexDigits 16 a),
    hexValue_hexDigits, hexValue_hexDigits, hlt a ha, hlt b hb, if_pos rfl]

/-- **The text `formatUUID` writes reads back as the UUID.** -/
theorem uuidOfText_formatUUID (uuid : Nat) (dst : CharMemory) :
    uuidOfText (formatUUID uuid dst) = some (uuid % 2 ^ 128) := by
  rw [formatUUID_eq_uuidText, UInt128.items,
    uuidOfText_uuidText (Nat.mod_lt _ (by norm_num)) (Nat.mod_lt _ (by norm_num))]
  congr 1
  omega

/-- **Two UUIDs have the same text exactly when they are the same `UInt128`**, whatever either
array held before. -/
theorem formatUUID_eq_iff (u v : Nat) (dst dst' : CharMemory) :
    formatUUID u dst = formatUUID v dst' ↔ u % 2 ^ 128 = v % 2 ^ 128 := by
  constructor
  · intro h
    simpa [uuidOfText_formatUUID] using congrArg uuidOfText h
  · intro h
    rw [formatUUID_eq_uuidText, formatUUID_eq_uuidText, UInt128.items, UInt128.items,
      show u % 2 ^ 64 = v % 2 ^ 64 by omega, show u / 2 ^ 64 % 2 ^ 64 = v / 2 ^ 64 % 2 ^ 64 by omega]

/-- The bytes `writeUUIDText` writes read back as the UUID: every character of the text is ASCII,
so one byte carries it. -/
theorem uuidOfBytes_writeUUIDText (dst : CharMemory) (uuid : Nat) :
    uuidOfBytes (writeUUIDText dst uuid) = some (uuid % 2 ^ 128) := by
  have hascii : ∀ c ∈ formatUUID uuid dst, c.toNat < 256 := by
    rw [formatUUID_eq_uuidText]
    exact forall_mem_uuidText _ (fun d hd => (digitChar_toNat_lt d hd).trans (by decide))
      (by decide) _ _
  have hchars : (writeUUIDText dst uuid).map (fun b => Char.ofNat b.toNat) = formatUUID uuid dst := by
    rw [writeUUIDText, List.map_map]
    refine (List.map_congr_left fun c hc => ?_).trans (List.map_id _)
    rw [Function.comp_apply, show c.toUInt8.toNat = c.toNat % 256 from rfl,
      Nat.mod_eq_of_lt (hascii c hc), Char.ofNat_toNat, id]
  rw [uuidOfBytes, hchars, uuidOfText_formatUUID]

end ClickHouse.WriteHelpers
