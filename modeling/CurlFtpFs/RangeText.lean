import Mathlib.Data.Nat.Digits

namespace CurlFtpFs

/-! The `CURLOPT_RANGE` text that `ftpfs_read_chunk` builds when it restarts a
download at a nonzero offset, `snprintf(range, 15, "%lld-", offset)`, and the
offset a download started from that text resumes at. -/

def digitChar (d : Nat) : Char := Char.ofNat (48 + d)

/-- `%lld` of a nonnegative value: its decimal numeral, most significant digit first. -/
def lldText (n : Nat) : List Char :=
  if n = 0 then ['0'] else (Nat.digits 10 n).reverse.map digitChar

/-- `snprintf(range, 15, "%lld-", offset)`: the formatted text cut to the 14
characters that fit before the terminating NUL. -/
def rangeText (offset : Nat) : List Char :=
  (lldText offset ++ ['-']).take 14

def pushDigit (acc : Nat) (c : Char) : Nat := 10 * acc + (c.toNat - 48)

/-- The number a range text starts with, read as libcurl reads the start of a
range: the longest run of leading decimal digits. -/
def leadingNumber (text : List Char) : Nat :=
  (text.takeWhile Char.isDigit).foldl pushDigit 0

/-- The offset a restarted download resumes at: no range is set at offset 0,
otherwise the server is asked for the bytes from the range text's number on. -/
def rangeStart (offset : Nat) : Nat :=
  if offset = 0 then 0 else leadingNumber (rangeText offset)

theorem digitChar_isDigit : ∀ d < 10, (digitChar d).isDigit = true := by decide

theorem digitChar_toNat : ∀ d < 10, (digitChar d).toNat = 48 + d := by decide

theorem pushDigit_digitChar {d : Nat} (acc : Nat) (small : d < 10) :
    pushDigit acc (digitChar d) = 10 * acc + d := by
  simp [pushDigit, digitChar_toNat d small]

theorem foldl_pushDigit (acc : Nat) {digits : List Nat} (small : ∀ d ∈ digits, d < 10) :
    (digits.reverse.map digitChar).foldl pushDigit acc =
      acc * 10 ^ digits.length + Nat.ofDigits 10 digits := by
  induction digits generalizing acc with
  | nil => simp
  | cons d rest induction =>
      have smallRest : ∀ e ∈ rest, e < 10 := fun e member => small e (by simp [member])
      simp only [List.reverse_cons, List.map_append, List.map_cons, List.map_nil,
        List.foldl_append, List.foldl_cons, List.foldl_nil, induction acc smallRest,
        pushDigit_digitChar _ (small d (by simp)), Nat.ofDigits_cons, List.length_cons]
      ring

/-- The range text of a positive offset holds the numeral of the offset with its
last `(digits).length - 14` digits cut off. -/
theorem leadingNumber_rangeText {offset : Nat} (positive : 0 < offset) :
    leadingNumber (rangeText offset) =
      offset / 10 ^ ((Nat.digits 10 offset).length - 14) := by
  set digits := Nat.digits 10 offset
  have small : ∀ d ∈ digits, d < 10 := fun d member => Nat.digits_lt_base (by norm_num) member
  have cut : ∀ d ∈ digits.drop (digits.length - 14), d < 10 :=
    fun d member => small d (List.mem_of_mem_drop member)
  have allDigits : ∀ c ∈ (digits.reverse.map digitChar).take 14, c.isDigit = true := by
    intro c member
    obtain ⟨d, inDigits, rfl⟩ := List.mem_map.mp (List.mem_of_mem_take member)
    exact digitChar_isDigit d (small d (List.mem_reverse.mp inDigits))
  have dashStops : (['-'].take (14 - (digits.reverse.map digitChar).length)).takeWhile
      Char.isDigit = [] := by
    cases 14 - (digits.reverse.map digitChar).length <;> rfl
  rw [leadingNumber, rangeText, lldText, if_neg (Nat.pos_iff_ne_zero.mp positive),
    List.take_append_eq_append_take, List.takeWhile_append_of_pos allDigits, dashStops,
    List.append_nil, ← List.map_take, List.take_reverse, foldl_pushDigit 0 cut,
    Nat.self_div_pow_eq_ofDigits_drop _ _ (by norm_num)]
  simp

theorem digits_length_le_iff {offset : Nat} (positive : 0 < offset) :
    (Nat.digits 10 offset).length ≤ 14 ↔ offset < 10 ^ 14 := by
  constructor
  · intro short
    exact (Nat.lt_base_pow_length_digits (by norm_num)).trans_le
      (Nat.pow_le_pow_right (by norm_num) short)
  · intro below
    by_contra long
    have bound := Nat.base_pow_length_digits_le 10 offset (by norm_num) positive.ne'
    have : 10 ^ 15 ≤ 10 ^ (Nat.digits 10 offset).length :=
      Nat.pow_le_pow_right (by norm_num) (by omega)
    omega

theorem leadingNumber_rangeText_eq_iff {offset : Nat} (positive : 0 < offset) :
    leadingNumber (rangeText offset) = offset ↔ offset < 10 ^ 14 := by
  rw [leadingNumber_rangeText positive, ← digits_length_le_iff positive]
  constructor
  · intro same
    by_contra long
    have : offset / 10 ^ ((Nat.digits 10 offset).length - 14) < offset :=
      Nat.div_lt_self positive (Nat.one_lt_pow (by omega) (by norm_num))
    omega
  · intro short
    simp [Nat.sub_eq_zero_of_le short]

theorem rangeStart_of_lt {offset : Nat} (below : offset < 10 ^ 14) :
    rangeStart offset = offset := by
  unfold rangeStart
  split
  · omega
  · exact (leadingNumber_rangeText_eq_iff (by omega)).mpr below

/-- A restarted download resumes exactly at the requested offset if and only
if the offset is below `10^14`. -/
theorem rangeStart_eq_iff (offset : Nat) : rangeStart offset = offset ↔ offset < 10 ^ 14 := by
  unfold rangeStart
  split
  · next zero => simp [zero]
  · next positive => exact leadingNumber_rangeText_eq_iff (Nat.pos_of_ne_zero positive)

theorem digits_length_ten_pow : (Nat.digits 10 (10 ^ 14)).length = 15 :=
  (Nat.digits_len 10 _ (by norm_num) (by norm_num)).trans
    (congrArg (· + 1) (Nat.log_pow (by norm_num) 14))

/-- At offset `10^14` the dash and the last digit no longer fit, and the range
names the offset `10^13`. -/
theorem rangeText_drops_digit :
    leadingNumber (rangeText (10 ^ 14)) = 10 ^ 13 := by
  rw [leadingNumber_rangeText (by norm_num), digits_length_ten_pow]
  norm_num

theorem rangeStart_ten_pow : rangeStart (10 ^ 14) = 10 ^ 13 := by
  rw [rangeStart, if_neg (by norm_num), leadingNumber_rangeText (by norm_num),
    digits_length_ten_pow]
  norm_num

end CurlFtpFs
