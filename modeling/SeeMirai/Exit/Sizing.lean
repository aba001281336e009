/-
When `evaluateExitSizing` (application/exit-engine/sizing.ts) lets an exit through: its conditions as plain arithmetic
on the amounts that the texts denote, equalities at the thresholds included.

The sign of the dust threshold is read off its sign bit. A threshold written as a negative zero is therefore refused,
although its value is not negative.

Results:
- `rejectSizingAmounts_none_iff` / `sizePosition_valid_iff`: the two groups of checks.
- `sizing_exact_iff`: where the arithmetic is exact, the sizing is exact unless a sizable exit has such a threshold.
-/
import SeeMirai.Exit.Submission

namespace SeeMirai.Exit

open Execution

/-! ## What a sizing stands for -/

/-- the amounts of a sizing as values -/
structure SizingValues where
  requested : ℚ
  total : ℚ
  dust : ℚ
  minimum : ℚ
  tick : ℚ
  current : ℚ
  price : ℚ

/-- an exit that the exchange takes and that strands nothing -/
structure SizingValues.Sound (v : SizingValues) : Prop where
  minimum_pos : 0 < v.minimum
  dust_nonneg : 0 ≤ v.dust
  tick_pos : 0 < v.tick
  current_pos : 0 < v.current
  price_pos : 0 < v.price
  aligned : ∃ k : ℤ, v.price = k * v.tick
  requested_pos : 0 < v.requested
  within : v.requested ≤ v.total
  orderable : v.minimum ≤ v.requested * v.price
  remainder : v.total - v.requested = 0 ∨
    v.dust < v.total - v.requested ∧ v.minimum ≤ (v.total - v.requested) * v.current

/-- the results of the arithmetic have no more digits than are kept -/
structure SizingValues.Exact (v : SizingValues) : Prop where
  remainder : decimalRound (v.total - v.requested) = v.total - v.requested
  notional : decimalRound (v.requested * v.price) = v.requested * v.price
  remainderNotional : decimalRound ((v.total - v.requested) * v.current) = (v.total - v.requested) * v.current

def SizingAmounts.values (amounts : SizingAmounts) : SizingValues :=
  ⟨amounts.requestedQty.value, amounts.totalQty.value, amounts.dustThreshold.value, amounts.minOrderNotional.value,
    amounts.tickSize.value, amounts.currentPrice.value, amounts.requestedPrice.value⟩

section Host

variable [Host]

/-- the texts of the options denote these values -/
structure SizingValues.Reads (v : SizingValues) (options : ExitSizingOptions) : Prop where
  requested : Host.valueOf options.requestedQuantity = some v.requested
  total : Host.valueOf options.positionScope.totalQuantity = some v.total
  dust : Host.valueOf options.policySnapshot.dustThreshold = some v.dust
  minimum : Host.valueOf options.policySnapshot.minOrderNotional = some v.minimum
  tick : Host.valueOf options.policySnapshot.tickSize = some v.tick
  current : Host.valueOf options.currentPrice = some v.current
  price : Host.valueOf options.requestedPrice = some v.price

/-- the scope matches, every amount is a number, and the exit is sound -/
def Sizable (options : ExitSizingOptions) : Prop :=
  (options.market = options.positionScope.market ∧ options.strategyId = options.positionScope.strategyId) ∧
    ∃ v : SizingValues, v.Reads options ∧ v.Sound

/-- exact arithmetic on the amounts of the options -/
def ExactSizing (options : ExitSizingOptions) : Prop := ∀ v : SizingValues, v.Reads options → v.Exact

/-- valid just where the exit is sizable, with the whole requested quantity and otherwise with none -/
structure SizingIsExact (options : ExitSizingOptions) : Prop where
  valid : (evaluateExitSizing options).valid = true ↔ Sizable options
  executable : (evaluateExitSizing options).valid = true →
    ∃ requested, Host.valueOf options.requestedQuantity = some requested ∧
      (evaluateExitSizing options).executableQuantity = Host.toFixed requested
  blocked : (evaluateExitSizing options).valid = false → (evaluateExitSizing options).executableQuantity = "0"

/-- the dust threshold is a zero with a minus sign -/
def NegativeZeroDust (options : ExitSizingOptions) : Prop :=
  ∃ d : Dec, Host.decimal options.policySnapshot.dustThreshold = .finite d ∧ d.isNegative = true ∧ d.value = 0

/-! ## The checks -/

omit [Host] in
theorem decimalRound_eq_zero {x : ℚ} : decimalRound x = 0 ↔ x = 0 := by
  constructor
  · intro h
    have herror := roundSignificant_error 20 x
    have hunit : halfUnit 20 ≤ 1 / 2 := by unfold halfUnit; norm_num
    rw [decimalRound] at h
    rw [h, zero_sub, abs_neg] at herror
    have hlost : halfUnit 20 * |x| ≤ 1 / 2 * |x| := mul_le_mul_of_nonneg_right hunit (abs_nonneg x)
    exact abs_eq_zero.1 (le_antisymm (by linarith) (abs_nonneg x))
  · rintro rfl
    exact roundSignificant_zero 20

omit [Host] in
/-- the remainder is zero just where the price is a multiple of the tick -/
theorem decimalMod_eq_zero {x y : ℚ} (hx : 0 < x) (hy : 0 < y) : decimalMod x y = 0 ↔ ∃ k : ℤ, x = k * y := by
  have hquotient : 0 ≤ x / y := (div_pos hx hy).le
  unfold decimalMod
  dsimp only
  rw [if_pos hquotient, decimalRound_eq_zero, sub_eq_zero]
  constructor
  · intro h
    exact ⟨_, h⟩
  · rintro ⟨k, rfl⟩
    rw [mul_div_cancel_right₀ _ hy.ne', Int.floor_intCast]

omit [Host] in
theorem Dec.positive_iff {d : Dec} : ¬ (d.value = 0 ∨ d.isNegative = true) ↔ 0 < d.value := by
  have hsign := d.sign
  cases hnegative : d.isNegative with
  | false =>
    rw [hnegative] at hsign
    have hnonneg : 0 ≤ d.value := by simpa using hsign
    simpa using (lt_iff_le_and_ne.trans ⟨fun h => Ne.symm h.2, fun h => ⟨hnonneg, Ne.symm h⟩⟩).symm
  | true =>
    rw [hnegative] at hsign
    simpa using hsign

theorem parseDecimal_iff {value : String} {d : Dec} : parseDecimal value = some d ↔ Host.decimal value = .finite d := by
  rw [← parseDec_eq_ok, parseDecimal]
  cases parseDec value <;> simp [Except.toOption]

theorem valueOf_iff {value : String} {q : ℚ} :
    Host.valueOf value = some q ↔ ∃ d, parseDecimal value = some d ∧ d.value = q := by
  simp only [parseDecimal_iff, Host.valueOf]
  cases Host.decimal value <;> simp

theorem reads_iff {options : ExitSizingOptions} {v : SizingValues} :
    v.Reads options ↔ ∃ amounts, readSizingAmounts options = some amounts ∧ amounts.values = v := by
  constructor
  · intro h
    obtain ⟨requested, hrequested, hrequestedValue⟩ := valueOf_iff.1 h.requested
    obtain ⟨total, htotal, htotalValue⟩ := valueOf_iff.1 h.total
    obtain ⟨dust, hdust, hdustValue⟩ := valueOf_iff.1 h.dust
    obtain ⟨minimum, hminimum, hminimumValue⟩ := valueOf_iff.1 h.minimum
    obtain ⟨tick, htick, htickValue⟩ := valueOf_iff.1 h.tick
    obtain ⟨current, hcurrent, hcurrentValue⟩ := valueOf_iff.1 h.current
    obtain ⟨price, hprice, hpriceValue⟩ := valueOf_iff.1 h.price
    refine ⟨⟨requested, total, dust, minimum, tick, current, price⟩, ?_, ?_⟩
    · simp [readSizingAmounts, hrequested, htotal, hdust, hminimum, htick, hcurrent, hprice]
    · simp [SizingAmounts.values, hrequestedValue, htotalValue, hdustValue, hminimumValue, htickValue, hcurrentValue,
        hpriceValue]
  · rintro ⟨amounts, hread, rfl⟩
    unfold readSizingAmounts at hread
    simp only [bind, Option.bind_eq_some_iff, pure, Option.some.injEq] at hread
    obtain ⟨requested, hrequested, total, htotal, dust, hdust, minimum, hminimum, tick, htick, current, hcurrent, price,
      hprice, rfl⟩ := hread
    exact ⟨valueOf_iff.2 ⟨_, hrequested, rfl⟩, valueOf_iff.2 ⟨_, htotal, rfl⟩, valueOf_iff.2 ⟨_, hdust, rfl⟩,
      valueOf_iff.2 ⟨_, hminimum, rfl⟩, valueOf_iff.2 ⟨_, htick, rfl⟩, valueOf_iff.2 ⟨_, hcurrent, rfl⟩,
      valueOf_iff.2 ⟨_, hprice, rfl⟩⟩

/-- the checks of the policy and of the amounts one by one -/
structure Admitted (amounts : SizingAmounts) : Prop where
  minimum_pos : 0 < amounts.minOrderNotional.value
  dust_unsigned : amounts.dustThreshold.isNegative = false
  tick_pos : 0 < amounts.tickSize.value
  current_pos : 0 < amounts.currentPrice.value
  price_pos : 0 < amounts.requestedPrice.value
  aligned : ∃ k : ℤ, amounts.requestedPrice.value = k * amounts.tickSize.value
  total_pos : 0 < amounts.totalQty.value
  requested_pos : 0 < amounts.requestedQty.value

theorem rejectSizingAmounts_none_iff {options : ExitSizingOptions} {amounts : SizingAmounts} :
    rejectSizingAmounts options amounts = none ↔ Admitted amounts := by
  unfold rejectSizingAmounts
  dsimp only
  constructor
  · intro h
    split_ifs at h with hminimum hdust htick hcurrent hprice haligned htotal hrequested
    exact ⟨hminimum, by simpa using hdust, htick, hcurrent, hprice, (decimalMod_eq_zero hprice htick).1 (not_not.1 haligned),
      Dec.positive_iff.1 htotal, Dec.positive_iff.1 hrequested⟩
  · intro h
    rw [if_neg (not_not.2 h.minimum_pos), if_neg (by simp [h.dust_unsigned]), if_neg (not_not.2 h.tick_pos),
      if_neg (not_not.2 h.current_pos), if_neg (not_not.2 h.price_pos),
      if_neg (not_not.2 ((decimalMod_eq_zero h.price_pos h.tick_pos).2 h.aligned)),
      if_neg (Dec.positive_iff.2 h.total_pos), if_neg (Dec.positive_iff.2 h.requested_pos)]

/-- the checks of the quantity against the position, in exact arithmetic -/
theorem sizePosition_valid_iff {amounts : SizingAmounts} (hexact : amounts.values.Exact) :
    (sizePosition amounts).valid = true ↔
      amounts.values.requested ≤ amounts.values.total ∧
      amounts.values.minimum ≤ amounts.values.requested * amounts.values.price ∧
      (amounts.values.total - amounts.values.requested = 0 ∨
        amounts.values.dust < amounts.values.total - amounts.values.requested ∧
          amounts.values.minimum ≤ (amounts.values.total - amounts.values.requested) * amounts.values.current) := by
  obtain ⟨hremainder, hnotional, hremainderNotional⟩ := hexact
  simp only [SizingAmounts.values] at hremainder hnotional hremainderNotional ⊢
  unfold sizePosition
  dsimp only
  rw [hremainder, hnotional, hremainderNotional]
  split_ifs with hexceeds hbelow hdust hstranded
  · exact iff_of_false not_false fun h => absurd h.1 (not_le.2 hexceeds)
  · exact iff_of_false not_false fun h => absurd h.2.1 (not_le.2 hbelow)
  · refine iff_of_false not_false fun h => ?_
    rcases h.2.2 with hzero | hrest
    · exact hdust.1.ne' hzero
    · exact absurd hrest.1 (not_lt.2 hdust.2)
  · refine iff_of_false not_false fun h => ?_
    rcases h.2.2 with hzero | hrest
    · exact hstranded.1.ne' hzero
    · exact absurd hrest.2 (not_le.2 hstranded.2)
  · refine iff_of_true rfl ⟨not_lt.1 hexceeds, not_lt.1 hbelow, ?_⟩
    rcases (sub_nonneg.2 (not_lt.1 hexceeds)).eq_or_lt with hzero | hpos
    · exact Or.inl hzero.symm
    · exact Or.inr ⟨not_le.1 fun h => hdust ⟨hpos, h⟩, not_lt.1 fun h => hstranded ⟨hpos, h⟩⟩

theorem sizePosition_blocked {amounts : SizingAmounts} (h : (sizePosition amounts).valid = false) :
    (sizePosition amounts).executableQuantity = "0" := by
  unfold sizePosition at h ⊢
  dsimp only at h ⊢
  split_ifs at h ⊢
  · rfl
  · rfl
  · rfl
  · rfl

theorem rejectSizingAmounts_executable {options : ExitSizingOptions} {amounts : SizingAmounts} {sizing : ExitSizing}
    (h : rejectSizingAmounts options amounts = some sizing) : sizing.executableQuantity = "0" := by
  unfold rejectSizingAmounts at h
  dsimp only at h
  split_ifs at h <;> cases h <;> rfl

/-! ## The sizing -/

/-- what the checks of a matching scope come to -/
theorem evaluateExitSizing_of_reads {options : ExitSizingOptions} {amounts : SizingAmounts}
    (hscope : options.market = options.positionScope.market ∧ options.strategyId = options.positionScope.strategyId)
    (hread : readSizingAmounts options = some amounts) :
    evaluateExitSizing options = (rejectSizingAmounts options amounts).getD (sizePosition amounts) := by
  unfold evaluateExitSizing
  rw [if_neg (by simp [hscope.1, hscope.2]), hread]

/-- an admitted exit within the position is a sound one, and a sound one whose threshold is unsigned is admitted -/
theorem sound_iff {amounts : SizingAmounts} (hexact : amounts.values.Exact) :
    amounts.values.Sound ∧ amounts.dustThreshold.isNegative = false ↔
      Admitted amounts ∧ (sizePosition amounts).valid = true := by
  rw [sizePosition_valid_iff hexact]
  constructor
  · rintro ⟨h, hsign⟩
    exact ⟨⟨h.minimum_pos, hsign, h.tick_pos, h.current_pos, h.price_pos, h.aligned, h.requested_pos.trans_le h.within,
      h.requested_pos⟩, h.within, h.orderable, h.remainder⟩
  · rintro ⟨h, hwithin, horderable, hremainder⟩
    exact ⟨⟨h.minimum_pos, Dec.value_nonneg h.dust_unsigned, h.tick_pos, h.current_pos, h.price_pos, h.aligned,
      h.requested_pos, hwithin, horderable, hremainder⟩, h.dust_unsigned⟩

/-- a sizing is valid just where the exit is sizable and the sign bit of the threshold is not set -/
theorem evaluateExitSizing_valid_iff {options : ExitSizingOptions} (hexact : ExactSizing options) :
    (evaluateExitSizing options).valid = true ↔
      Sizable options ∧ ∀ d, Host.decimal options.policySnapshot.dustThreshold = .finite d → d.isNegative = false := by
  by_cases hscope : options.market = options.positionScope.market ∧ options.strategyId = options.positionScope.strategyId
  · cases hread : readSizingAmounts options with
    | none =>
      have hinvalid : (evaluateExitSizing options).valid = false := by
        unfold evaluateExitSizing
        rw [if_neg (by simp [hscope.1, hscope.2]), hread]
        rfl
      rw [hinvalid]
      refine iff_of_false Bool.false_ne_true fun h => ?_
      obtain ⟨v, hv, -⟩ := h.1.2
      obtain ⟨amounts, hamounts, -⟩ := reads_iff.1 hv
      rw [hread] at hamounts
      cases hamounts
    | some amounts =>
      have hvalues : amounts.values.Reads options := reads_iff.2 ⟨amounts, hread, rfl⟩
      have hsign : (∀ d, Host.decimal options.policySnapshot.dustThreshold = .finite d → d.isNegative = false) ↔
          amounts.dustThreshold.isNegative = false := by
        have hdust : Host.decimal options.policySnapshot.dustThreshold = .finite amounts.dustThreshold := by
          unfold readSizingAmounts at hread
          simp only [bind, Option.bind_eq_some_iff, pure, Option.some.injEq] at hread
          obtain ⟨_, -, _, -, dust, hdust, _, -, _, -, _, -, _, -, rfl⟩ := hread
          exact parseDecimal_iff.1 hdust
        rw [hdust]
        simp
      have hsizable : Sizable options ↔ amounts.values.Sound := by
        constructor
        · rintro ⟨-, v, hv, hsound⟩
          obtain ⟨amounts', hread', rfl⟩ := reads_iff.1 hv
          rw [hread] at hread'
          cases hread'
          exact hsound
        · exact fun hsound => ⟨hscope, _, hvalues, hsound⟩
      rw [hsign, hsizable, sound_iff (hexact _ hvalues), evaluateExitSizing_of_reads hscope hread]
      cases hrejected : rejectSizingAmounts options amounts with
      | none => simp [rejectSizingAmounts_none_iff.1 hrejected]
      | some sizing =>
        rw [Option.getD_some, rejectSizingAmounts_invalid hrejected]
        refine iff_of_false Bool.false_ne_true fun h => ?_
        rw [rejectSizingAmounts_none_iff.2 h.1] at hrejected
        cases hrejected
  · have hinvalid : (evaluateExitSizing options).valid = false := by
      unfold evaluateExitSizing
      rw [if_pos (by tauto)]
      rfl
    rw [hinvalid]
    exact iff_of_false Bool.false_ne_true fun h => hscope h.1.1

/-- an invalid sizing lets nothing through -/
theorem evaluateExitSizing_blocked {options : ExitSizingOptions} (h : (evaluateExitSizing options).valid = false) :
    (evaluateExitSizing options).executableQuantity = "0" := by
  unfold evaluateExitSizing at h ⊢
  split_ifs at h ⊢ with hscope
  · rfl
  · cases hread : readSizingAmounts options with
    | none => rfl
    | some amounts =>
      rw [hread] at h
      dsimp only at h ⊢
      cases hrejected : rejectSizingAmounts options amounts with
      | some sizing => exact rejectSizingAmounts_executable hrejected
      | none =>
        rw [hrejected] at h
        exact sizePosition_blocked h

/-- a valid sizing lets the requested quantity through -/
theorem evaluateExitSizing_executable {options : ExitSizingOptions} (h : (evaluateExitSizing options).valid = true) :
    ∃ requested, Host.valueOf options.requestedQuantity = some requested ∧
      (evaluateExitSizing options).executableQuantity = Host.toFixed requested := by
  unfold evaluateExitSizing at h ⊢
  split_ifs at h ⊢ with hscope
  · cases h
  · cases hread : readSizingAmounts options with
    | none =>
      rw [hread] at h
      cases h
    | some amounts =>
      rw [hread] at h
      dsimp only at h ⊢
      cases hrejected : rejectSizingAmounts options amounts with
      | some sizing =>
        rw [hrejected, Option.getD_some, rejectSizingAmounts_invalid hrejected] at h
        cases h
      | none =>
        rw [hrejected, Option.getD_none] at h
        exact ⟨_, (reads_iff.2 ⟨amounts, hread, rfl⟩).requested, (sizePosition_valid h).2.1⟩

/-- **Exact sizing.** Where the arithmetic is exact, a sizing is exact unless a sizable exit has a negative zero for its
dust threshold. -/
theorem sizing_exact_iff (options : ExitSizingOptions) (hexact : ExactSizing options) :
    SizingIsExact options ↔ ¬ (Sizable options ∧ NegativeZeroDust options) := by
  have hvalid := evaluateExitSizing_valid_iff hexact
  constructor
  · rintro h ⟨hsizable, d, hd, hnegative, -⟩
    have hunsigned := (hvalid.1 (h.valid.2 hsizable)).2 d hd
    rw [hnegative] at hunsigned
    cases hunsigned
  · intro h
    refine ⟨?_, evaluateExitSizing_executable, evaluateExitSizing_blocked⟩
    rw [hvalid]
    refine and_iff_left_of_imp fun hsizable d hd => ?_
    obtain ⟨v, hreads, hsound⟩ := hsizable.2
    have hdust : d.value = v.dust := by
      have hread := hreads.dust
      rw [Host.valueOf, hd] at hread
      exact Option.some.inj hread
    -- a sound threshold is not negative, so a set sign bit means a negative zero
    cases hnegative : d.isNegative with
    | false => rfl
    | true =>
      have hsign := d.sign
      rw [if_pos hnegative, hdust] at hsign
      exact absurd ⟨hsizable, d, hd, hnegative, hdust.trans (le_antisymm hsign hsound.dust_nonneg)⟩ h

end Host

/-! ## A full exit -/

/-- a full exit of two units at ten, with a dust threshold of the caller's -/
def fullExit (dustThreshold : String) : ExitSizingOptions :=
  { sampleOptions "5" with policySnapshot := { samplePolicy "5" with dustThreshold := dustThreshold } }

def fullExitValues : SizingValues := ⟨2, 2, 0, 10, 1, 10, 10⟩

section Plain

attribute [local instance] plainHost

theorem fullExit_reads {dustThreshold : String} (h : Host.valueOf dustThreshold = some 0) :
    fullExitValues.Reads (fullExit dustThreshold) where
  requested := (by decide +kernel : Host.valueOf "2" = some 2)
  total := (by decide +kernel : Host.valueOf "2" = some 2)
  dust := h
  minimum := (by decide +kernel : Host.valueOf "10" = some 10)
  tick := (by decide +kernel : Host.valueOf "1" = some 1)
  current := (by decide +kernel : Host.valueOf "10" = some 10)
  price := (by decide +kernel : Host.valueOf "10" = some 10)

theorem fullExit_exact {dustThreshold : String} (h : Host.valueOf dustThreshold = some 0) :
    ExactSizing (fullExit dustThreshold) := by
  intro v hv
  have hreads := fullExit_reads h
  have hrequested : v.requested = 2 := Option.some.inj (hv.requested.symm.trans hreads.requested)
  have htotal : v.total = 2 := Option.some.inj (hv.total.symm.trans hreads.total)
  have hprice : v.price = 10 := Option.some.inj (hv.price.symm.trans hreads.price)
  have hzero : decimalRound 0 = 0 := roundSignificant_zero 20
  refine ⟨?_, ?_, ?_⟩
  · rw [htotal, hrequested, sub_self, hzero]
  · rw [hrequested, hprice]
    decide +kernel
  · rw [htotal, hrequested, sub_self, zero_mul, hzero]

theorem fullExit_sizable {dustThreshold : String} (h : Host.valueOf dustThreshold = some 0) :
    Sizable (fullExit dustThreshold) :=
  ⟨⟨rfl, rfl⟩, fullExitValues, fullExit_reads h, by norm_num [fullExitValues], by norm_num [fullExitValues],
    by norm_num [fullExitValues], by norm_num [fullExitValues], by norm_num [fullExitValues],
    ⟨10, by norm_num [fullExitValues]⟩, by norm_num [fullExitValues], by norm_num [fullExitValues],
    by norm_num [fullExitValues], Or.inl (by norm_num [fullExitValues])⟩

theorem fullExit_zero_exact : SizingIsExact (fullExit "0") := by
  have hzero : Host.valueOf "0" = some 0 := by decide +kernel
  refine (sizing_exact_iff (fullExit "0") (fullExit_exact hzero)).2 ?_
  rintro ⟨-, d, hd, hnegative, -⟩
  have hplain : Host.decimal "0" = .finite ⟨false, 0, by simp⟩ := by decide +kernel
  have hsame : DecimalText.finite d = .finite ⟨false, 0, by simp⟩ := hd.symm.trans hplain
  cases hsame
  cases hnegative

/-- a sizable exit that a negative zero for its dust threshold blocks -/
theorem fullExit_negative_zero_blocked : ¬ SizingIsExact (fullExit "-0") := by
  intro h
  have hzero : Host.valueOf "-0" = some 0 := by decide +kernel
  have hvalid := h.valid.2 (fullExit_sizable hzero)
  have hblocked : (evaluateExitSizing (fullExit "-0")).valid = false := by decide +kernel
  rw [hblocked] at hvalid
  cases hvalid

end Plain

end SeeMirai.Exit
