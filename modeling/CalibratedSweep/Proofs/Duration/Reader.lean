import CalibratedSweep.Duration.Reader
import CalibratedSweep.Proofs.Decimal.Reader
import CalibratedSweep.Proofs.Unicode.Alphabetic
/-!
Written durations. The number is rounded to a double, the product with the unit is rounded again, and
only then is it cut; a decimal fraction may so come out one nanosecond short, or one too long if it is
above 2^52 nanoseconds.
-/

namespace CalibratedSweep.Duration

open Double

section Rounding

variable {d : ℚ} {k N : ℕ}

/-- What `d` units of `k` come to before they are cut. -/
def scaled (d : ℚ) (k : ℕ) : ℚ := nearest (nearest d * k)

theorem scaled_nonneg (d : ℚ) (k : ℕ) : 0 ≤ scaled d k := nearest_nonneg _

theorem scaled_of_representable (hd : Representable d) (hvalue : d * k = N) (hN : N ≤ 2 ^ 53) :
    scaled d k = N := by
  rw [scaled, nearest_of_representable hd, hvalue,
    nearest_of_representable (representable_natCast_of_le hN)]

theorem abs_product_sub_lt (hd : 2 ^ (-1022 : ℤ) ≤ d) (hk : 0 < k) (hvalue : d * k = N) :
    |nearest d * k - N| < N / 2 ^ 53 := by
  have hk' : (0 : ℚ) < k := by exact_mod_cast hk
  rw [← hvalue, ← sub_mul, abs_mul, abs_of_pos hk', mul_div_right_comm]
  exact mul_lt_mul_of_pos_right (abs_nearest_sub_lt_mul hd) hk'

theorem scaled_bounds (hd : 2 ^ (-1022 : ℤ) ≤ d) (hk : 0 < k) (hvalue : d * k = N) (hN : N ≤ 2 ^ 53) :
    (N : ℚ) - 1 ≤ scaled d k ∧ scaled d k < N + 2 ∧ (N ≤ 2 ^ 52 → scaled d k < N + 1) := by
  have hclose := abs_product_sub_lt hd hk hvalue
  have hproduct : 0 ≤ nearest d * k := mul_nonneg (nearest_nonneg d) k.cast_nonneg
  have hround := abs_nearest_sub_le_two_mul (representable_natCast_of_le hN) hproduct
  have herror : scaled d k - N < N / 2 ^ 52 := by
    calc scaled d k - N ≤ 2 * |nearest d * k - N| := (le_abs_self _).trans hround
      _ < 2 * (N / 2 ^ 53) := by linarith
      _ = N / 2 ^ 52 := by ring
  have hN' : (N : ℚ) ≤ 2 ^ 53 := by exact_mod_cast hN
  refine ⟨?_, ?_, fun hsmall => ?_⟩
  · obtain rfl | hpos := N.eq_zero_or_pos
    · rw [Nat.cast_zero]
      linarith [scaled_nonneg d k]
    · have hone : (N : ℚ) / 2 ^ 53 ≤ 1 := (div_le_one (by positivity)).mpr hN'
      have hlow : ((N - 1 : ℕ) : ℚ) ≤ nearest d * k := by
        rw [Nat.cast_pred hpos]
        linarith [(abs_lt.mp hclose).1]
      rw [← Nat.cast_pred hpos]
      exact le_nearest (representable_natCast_of_le (N.pred_le.trans hN)) hlow
  · have htwo : (N : ℚ) / 2 ^ 52 ≤ 2 := by
      rw [div_le_iff₀ (by positivity)]
      linarith
    linarith
  · have hsmall' : (N : ℚ) ≤ 2 ^ 52 := by exact_mod_cast hsmall
    have hone : (N : ℚ) / 2 ^ 52 ≤ 1 := (div_le_one (by positivity)).mpr hsmall'
    linarith

theorem floor_scaled_bounds (hd : 2 ^ (-1022 : ℤ) ≤ d) (hk : 0 < k) (hvalue : d * k = N)
    (hN : N ≤ 2 ^ 53) : N ≤ ⌊scaled d k⌋₊ + 1 ∧ ⌊scaled d k⌋₊ ≤ N + 1 ∧
      (N ≤ 2 ^ 52 → ⌊scaled d k⌋₊ ≤ N) := by
  obtain ⟨hlo, hhi, hsmall⟩ := scaled_bounds hd hk hvalue hN
  have hfloor := Nat.floor_le (scaled_nonneg d k)
  have hnext := Nat.lt_floor_add_one (scaled d k)
  have hshort : (N : ℚ) < (⌊scaled d k⌋₊ + 2 : ℕ) := by
    push_cast
    linarith
  have hlong : (⌊scaled d k⌋₊ : ℚ) < (N + 2 : ℕ) := by
    push_cast
    linarith
  refine ⟨Nat.le_of_lt_succ (by exact_mod_cast hshort), Nat.le_of_lt_succ (by exact_mod_cast hlong),
    fun h => ?_⟩
  have hexact : (⌊scaled d k⌋₊ : ℚ) < (N + 1 : ℕ) := by
    push_cast
    linarith [hsmall h]
  exact Nat.le_of_lt_succ (by exact_mod_cast hexact)

theorem number_cases (hk : k < 2 ^ 53) (hpos : 0 < k) (hvalue : d * k = N) :
    d = 0 ∨ 2 ^ (-53 : ℤ) ≤ d := by
  have hpos' : (0 : ℚ) < k := by exact_mod_cast hpos
  obtain rfl | hN := N.eq_zero_or_pos
  · rw [Nat.cast_zero, mul_eq_zero, or_iff_left hpos'.ne'] at hvalue
    exact .inl hvalue
  · have hone : (1 : ℚ) ≤ d * k := by
      rw [hvalue]
      exact_mod_cast hN
    have hd : 0 ≤ d := (pos_of_mul_pos_left (one_pos.trans_le hone) hpos'.le).le
    have hk' : (k : ℚ) ≤ 2 ^ 53 := by exact_mod_cast hk.le
    right
    rw [zpow_neg, inv_le_iff_one_le_mul₀ (two_zpow_pos 53)]
    exact hone.trans (mul_le_mul_of_nonneg_left (by exact_mod_cast hk') hd)

theorem two_pow_lt_ten_pow : (2 : ℚ) ^ 53 < 10 ^ 400 :=
  calc (2 : ℚ) ^ 53 < 10 ^ 16 := by norm_num
    _ ≤ 10 ^ 400 := pow_le_pow_right₀ (by norm_num) (by norm_num)

end Rounding

section Units

/-- The units and their nanoseconds; no unit stands for seconds. -/
def units : List (List Char × UInt64) :=
  [([], 1000000000), (['n', 's'], 1), (['u', 's'], 1000), (['m', 's'], 1000000), (['s'], 1000000000),
    (['m'], 60000000000), (['m', 'i', 'n'], 60000000000)]

variable {letters : List Char} {nanos : UInt64}

theorem isAlpha_of_toLower {c : Char} (h : c.toLower.isAlpha = true) : c.isAlpha = true := by
  unfold Char.toLower at h
  split at h
  · rename_i hupper
    exact (Bool.or_eq_true c.isUpper c.isLower).mpr (.inl (decide_eq_true hupper))
  · exact h

theorem isAlpha_of_units : ∀ u ∈ units, ∀ c ∈ u.1, c.isAlpha = true := by simp [units]

theorem isAlpha_of_unit (h : (letters.map Char.toLower, nanos) ∈ units) :
    ∀ c ∈ letters, c.isAlpha = true := fun _ hc =>
  isAlpha_of_toLower (isAlpha_of_units _ h _ (List.mem_map_of_mem hc))

theorem unit?_of_mem (h : (letters.map Char.toLower, nanos) ∈ units) (hne : letters ≠ []) :
    unit? letters = some nanos := by
  have hname : letters.map Char.toLower ≠ [] := fun hnil => hne (List.map_eq_nil_iff.mp hnil)
  unfold unit?
  generalize letters.map Char.toLower = name at *
  simp only [units, List.mem_cons, Prod.mk.injEq, List.not_mem_nil, or_false] at h
  obtain ⟨rfl, -⟩ | ⟨rfl, rfl⟩ | ⟨rfl, rfl⟩ | ⟨rfl, rfl⟩ | ⟨rfl, rfl⟩ | ⟨rfl, rfl⟩ | ⟨rfl, rfl⟩ := h
  · exact absurd rfl hname
  all_goals rfl

theorem unit_bounds : ∀ u ∈ units, 0 < u.2.toNat ∧ u.2.toNat < 2 ^ 53 := by decide

theorem nanos_of_no_unit (h : ([], nanos) ∈ units) : nanos = 1000000000 := by simpa [units] using h

end Units

section Splitting

variable {p rest : List Char} {c : Char}

theorem splitUnit_of_plain (hp : ∀ c ∈ p, (!Unicode.isAlphabetic c) = true) :
    splitUnit p = (p, ['s']) := by
  unfold splitUnit
  rw [List.takeWhile_eq_self_iff.mpr hp, List.dropWhile_eq_nil_iff.mpr hp]

theorem splitUnit_append (hp : ∀ c ∈ p, (!Unicode.isAlphabetic c) = true)
    (hc : Unicode.isAlphabetic c = true) : splitUnit (p ++ c :: rest) = (p, c :: rest) := by
  have hstop : ¬(!Unicode.isAlphabetic c) = true := by
    rw [hc]
    exact nofun
  unfold splitUnit
  rw [List.takeWhile_append_of_pos hp, List.dropWhile_append_of_pos hp,
    List.takeWhile_cons_of_neg (p := fun a => !Unicode.isAlphabetic a) hstop,
    List.dropWhile_cons_of_neg (p := fun a => !Unicode.isAlphabetic a) hstop, List.append_nil]

end Splitting

structure Written where
  before : List Char
  number : Decimal.Written
  gap : List Char
  unit : List Char
  after : List Char
  nanos : UInt64
  blank : ∀ c ∈ before ++ gap ++ after, Text.isBlank c = true
  named : (unit.map Char.toLower, nanos) ∈ units

namespace Written

variable (w : Written)

def chars : List Char := w.before ++ w.number.chars ++ w.gap ++ w.unit ++ w.after

def text : String := String.ofList w.chars

def value : ℚ := w.number.value * w.nanos.toNat

theorem blank_before : ∀ c ∈ w.before, Text.isBlank c = true := fun c hc => w.blank c (by simp [hc])

theorem blank_gap : ∀ c ∈ w.gap, Text.isBlank c = true := fun c hc => w.blank c (by simp [hc])

theorem blank_after : ∀ c ∈ w.after, Text.isBlank c = true := fun c hc => w.blank c (by simp [hc])

theorem nonblank_of_mem {c : Char} (hc : c ∈ w.number.chars) : Text.isBlank c = false := by
  obtain hd | rfl := w.number.mem_chars hc
  · exact Text.isBlank_of_isDigit hd
  · rfl

theorem plain_of_mem {c : Char} (hc : c ∈ w.number.chars) : (!Unicode.isAlphabetic c) = true := by
  rw [Bool.not_eq_true']
  obtain hd | rfl := w.number.mem_chars hc
  · exact Unicode.not_isAlphabetic_of_isDigit hd
  · rfl

theorem trim_number {s t : List Char} (hs : ∀ c ∈ s, Text.isBlank c = true)
    (ht : ∀ c ∈ t, Text.isBlank c = true) : Text.trim (s ++ w.number.chars ++ t) = w.number.chars :=
  Text.trim_append hs ht w.number.chars_ne_nil (w.nonblank_of_mem (List.head_mem _))
    (w.nonblank_of_mem (List.getLast_mem _))

theorem trim_of_no_unit (hu : w.unit = []) : Text.trim w.chars = w.number.chars := by
  have hsplit : w.chars = w.before ++ w.number.chars ++ (w.gap ++ w.after) := by simp [chars, hu]
  rw [hsplit]
  refine w.trim_number w.blank_before fun c hc => ?_
  exact (List.mem_append.mp hc).elim (w.blank_gap c) (w.blank_after c)

theorem trim_of_unit (hu : w.unit ≠ []) :
    Text.trim w.chars = w.number.chars ++ w.gap ++ w.unit := by
  have hsplit : w.chars = w.before ++ (w.number.chars ++ w.gap ++ w.unit) ++ w.after := by simp [chars]
  have hne : w.number.chars ++ w.gap ≠ [] := List.append_ne_nil_of_left_ne_nil w.number.chars_ne_nil _
  rw [hsplit]
  refine Text.trim_append w.blank_before w.blank_after (List.append_ne_nil_of_left_ne_nil hne _) ?_ ?_
  · rw [List.head_append_of_ne_nil hne, List.head_append_of_ne_nil w.number.chars_ne_nil]
    exact w.nonblank_of_mem (List.head_mem _)
  · rw [List.getLast_append_of_ne_nil _ hu]
    exact Unicode.not_isBlank_of_isAlpha (isAlpha_of_unit w.named _ (List.getLast_mem _))

theorem splitUnit_trim : ∃ part u, splitUnit (Text.trim w.chars) = (part, u) ∧
    Text.trim part = w.number.chars ∧ unit? u = some w.nanos ∧ Text.trim w.chars ≠ [] := by
  cases hu : w.unit with
  | nil =>
    have hnanos : w.nanos = 1000000000 := by
      have hnamed := w.named
      rw [hu] at hnamed
      exact nanos_of_no_unit hnamed
    have hnumber := w.trim_number (s := []) (t := []) nofun nofun
    rw [List.nil_append, List.append_nil] at hnumber
    rw [w.trim_of_no_unit hu, hnanos]
    exact ⟨_, _, splitUnit_of_plain fun c => w.plain_of_mem, hnumber, rfl, w.number.chars_ne_nil⟩
  | cons c rest =>
    have hne : w.unit ≠ [] := hu ▸ List.cons_ne_nil c rest
    have hc : Unicode.isAlphabetic c = true :=
      Unicode.isAlphabetic_of_isAlpha (isAlpha_of_unit w.named c (hu ▸ List.mem_cons_self))
    have hplain : ∀ c ∈ w.number.chars ++ w.gap, (!Unicode.isAlphabetic c) = true := by
      intro c hc
      obtain hc | hc := List.mem_append.mp hc
      · exact w.plain_of_mem hc
      · rw [Unicode.not_isAlphabetic_of_isBlank (w.blank_gap c hc)]
        rfl
    have hunit := unit?_of_mem w.named hne
    rw [w.trim_of_unit hne, hu]
    refine ⟨_, _, splitUnit_append hplain hc, w.trim_number (s := []) nofun w.blank_gap, hu ▸ hunit, ?_⟩
    exact List.append_ne_nil_of_right_ne_nil _ (List.cons_ne_nil c rest)

theorem number_le_value : w.number.value ≤ w.value := by
  obtain ⟨hpos, -⟩ := unit_bounds _ w.named
  have hone : (1 : ℚ) ≤ w.nanos.toNat := by exact_mod_cast hpos
  exact le_mul_of_one_le_right w.number.value_nonneg hone

theorem representable_of_whole {N : ℕ} (hwhole : w.number.fraction = none) (hvalue : w.value = N)
    (hN : N ≤ 2 ^ 53) : Representable w.number.value := by
  obtain ⟨n, hn⟩ := w.number.value_of_whole hwhole
  have hle : (n : ℚ) ≤ N := by
    rw [← hn, ← hvalue]
    exact w.number_le_value
  rw [hn]
  exact representable_natCast_of_le ((Nat.cast_le.mp hle).trans hN)

theorem exists_readNanos (hlo : w.number.value = 0 ∨ 1 ≤ w.number.value * 10 ^ 400)
    (hhi : w.value ≤ 2 ^ 53) :
    ∃ r, readNanos w.text = .ok r ∧ r.toNat = ⌊scaled w.number.value w.nanos.toNat⌋₊ := by
  obtain ⟨part, u, hsplit, hpart, hunit, hne⟩ := w.splitUnit_trim
  obtain ⟨hpos, hexact⟩ := unit_bounds _ w.named
  have hnumber : w.number.value ≤ 2 ^ 53 := w.number_le_value.trans hhi
  obtain ⟨x, hread, hx⟩ := w.number.read?_holds hlo (hnumber.trans_lt two_pow_lt_ten_pow)
  have hx := hx.hasValue_of_le (by norm_num) (nearest_le_two_pow w.number.value_nonneg hnumber)
  have hunitvalue := hasValue_toFloat w.nanos
  rw [nearest_of_representable (representable_natCast hexact)] at hunitvalue
  have hproduct : Holds (x * w.nanos.toFloat) (scaled w.number.value w.nanos.toNat) :=
    holds_mul hx hunitvalue
  have hsmall : scaled w.number.value w.nanos.toNat ≤ 2 ^ 54 := by
    refine nearest_le_two_pow (mul_nonneg (nearest_nonneg _) (Nat.cast_nonneg _)) ?_
    calc nearest w.number.value * w.nanos.toNat
        ≤ 2 * w.number.value * w.nanos.toNat := by
          gcongr
          exact nearest_le_two_mul w.number.value_nonneg
      _ = 2 * w.value := mul_assoc _ _ _
      _ ≤ 2 ^ 54 := by linarith
  have hcut := toNat_toUInt64 (hproduct.hasValue_of_le (by norm_num) hsmall)
    (hsmall.trans_lt (by norm_num))
  refine ⟨_, ?_, hcut⟩
  have hempty : (Text.trim w.chars).isEmpty = false := by simpa using hne
  have hvalid : (!x.isFinite || decide (x < 0.0)) = false := by
    rw [hx.isFinite, decide_eq_false (not_lt_zero hx.nonneg)]
    rfl
  unfold readNanos text
  simp only [String.toList_ofList, hempty, hsplit, hpart, hread, hvalid, hunit, Bool.false_eq_true,
    if_false]

end Written

/--
A written duration of up to 2^53 whole nanoseconds is read, and to the nanosecond if and only if the
rounded product does not leave its place; so it is whenever the number is a double, and always without
a fraction. Otherwise one nanosecond is missing, or above 2^52 there may be one too many.
-/
theorem readNanos_written (w : Written) {N : ℕ} (hvalue : w.value = N) (hN : N ≤ 2 ^ 53) :
    ∃ r, readNanos w.text = .ok r ∧
      (r.toNat = N ↔ N ≤ scaled w.number.value w.nanos.toNat ∧
        scaled w.number.value w.nanos.toNat < N + 1) ∧
      (Representable w.number.value → r.toNat = N) ∧
      (w.number.fraction = none → r.toNat = N) ∧
      N ≤ r.toNat + 1 ∧ r.toNat ≤ N + 1 ∧ (N ≤ 2 ^ 52 → r.toNat ≤ N) := by
  obtain ⟨hpos, hfew⟩ := unit_bounds _ w.named
  set k := w.nanos.toNat with hk
  set d := w.number.value with hd
  have hvalue' : d * k = N := hvalue
  have hnumber := number_cases hfew hpos hvalue'
  have hlo : d = 0 ∨ 1 ≤ d * 10 ^ 400 := by
    refine hnumber.imp_right fun hd => ?_
    calc (1 : ℚ) = 2 ^ (-53 : ℤ) * 2 ^ 53 := by norm_num
      _ ≤ d * 10 ^ 400 := by
        exact mul_le_mul hd two_pow_lt_ten_pow.le (by positivity) ((two_zpow_pos _).le.trans hd)
  obtain ⟨r, hr, hnanos⟩ := w.exists_readNanos hlo (hvalue.trans_le (by exact_mod_cast hN))
  have hexact (hrep : Representable d) : r.toNat = N := by
    rw [hnanos, ← hd, ← hk, scaled_of_representable hrep hvalue' hN, Nat.floor_natCast]
  refine ⟨r, hr, ?_, hexact,
    fun hwhole => hexact (w.representable_of_whole hwhole hvalue hN), ?_⟩
  · rw [hnanos]
    exact Nat.floor_eq_iff (scaled_nonneg d k)
  · obtain hzero | hlarge := hnumber
    · have hsame := hexact (hzero ▸ representable_natCast_of_le (Nat.zero_le _))
      omega
    · rw [hnanos]
      exact floor_scaled_bounds ((zpow_le_zpow_right₀ one_le_two (by norm_num)).trans hlarge) hpos
        hvalue' hN

def minuteAndHalf : Written where
  before := []
  number := ⟨['1'], some ['5'], by simp, by simp, by simp⟩
  gap := [' ']
  unit := ['M', 'i', 'n']
  after := []
  nanos := 60000000000
  blank := List.forall_mem_singleton.mpr rfl
  named := by decide +kernel

theorem readNanos_written_minutes : minuteAndHalf.value = 90000000000 ∧
    ∃ r, readNanos "1.5 Min" = .ok r ∧ r.toNat = 90000000000 := by
  have hnumber : minuteAndHalf.number.value = 3 / 2 := by
    have hdigits : minuteAndHalf.number.value = (1 : ℕ) + (5 : ℕ) / 10 ^ 1 := rfl
    rw [hdigits]
    norm_num
  have hunit : minuteAndHalf.nanos.toNat = 60000000000 := rfl
  have hvalue : minuteAndHalf.value = (90000000000 : ℕ) := by
    rw [Written.value, hnumber, hunit]
    norm_num
  obtain ⟨r, hr, -, hexact, -⟩ := readNanos_written minuteAndHalf hvalue (by norm_num)
  refine ⟨by exact_mod_cast hvalue, r, hr, hexact ?_⟩
  rw [hnumber]
  exact ⟨3, -1, by norm_num, by norm_num, by norm_num⟩

def microsecondAndMore : Written where
  before := []
  number := ⟨['1'], some ['0', '0', '1'], by simp, by simp, by simp⟩
  gap := []
  unit := ['u', 's']
  after := []
  nanos := 1000
  blank := nofun
  named := by decide +kernel

theorem nanosecond_missing : microsecondAndMore.text = "1.001us" ∧ microsecondAndMore.value = 1001 ∧
    readNanos "1.001us" = .ok 1000 := by
  have hvalue : microsecondAndMore.value = ((1 : ℕ) + (1 : ℕ) / 10 ^ 3) * (1000 : ℕ) := rfl
  refine ⟨rfl, ?_, by decide +kernel⟩
  rw [hvalue]
  norm_num

end CalibratedSweep.Duration
