/-
Reconciliation: a report lists exactly the currencies whose balance is not what the journal
explains.

* `movedIn`: what records credit a currency with, or debit it by; `leftIn`: what they leave of it;
* `HasModestTotals`: the amounts of the records are whole cents above zero, and in no currency do
  they come to 790000000000000000000000000;
* `Balances.IsNetOf`: sums by currency are exactly what the records leave;
  `HasModestTotals.exists_isNetOf`: such records have such sums, in whichever order they come;
* `IntegrityReport.mismatches_eq`: which currencies a report lists, and in which order;
* `IntegrityReport.IsExact`: a report lists the currencies that drift and no others;
  `HasModestTotals.exists_isExact`: so does the report on any balances and such records, and it goes
  with the records: their order does not matter, and one record more or less moves its own currency
  only.
-/
import Teller.Proofs.Store.Audit

namespace Teller

open Decimal

/-! ### Totals by currency -/

/-- What records credit a currency with, or debit it by. -/
def movedIn (records : List TransactionRecord) (c : Currency) (direction : Direction) : ℚ :=
  ((records.filter fun r => r.currency = c ∧ r.direction = direction).map (·.amount.toRat)).sum

/-- What records leave of a currency: what they credit without what they debit. -/
def leftIn (records : List TransactionRecord) (c : Currency) : ℚ :=
  movedIn records c .credit - movedIn records c .debit

/-- Some record is in this currency. -/
def Occurs (records : List TransactionRecord) (c : Currency) : Prop :=
  ∃ r ∈ records, r.currency = c

instance (records : List TransactionRecord) (c : Currency) : Decidable (Occurs records c) :=
  inferInstanceAs (Decidable (∃ r ∈ records, r.currency = c))

section Totals

variable {records others : List TransactionRecord} {r : TransactionRecord} {c : Currency}
  {direction : Direction}

lemma movedIn_append : movedIn (records ++ others) c direction
    = movedIn records c direction + movedIn others c direction := by
  rw [movedIn, List.filter_append, List.map_append, List.sum_append, ← movedIn, ← movedIn]

lemma movedIn_singleton_self : movedIn [r] r.currency r.direction = r.amount.toRat := by
  simp [movedIn]

lemma movedIn_singleton_of_ne (h : ¬ (r.currency = c ∧ r.direction = direction)) :
    movedIn [r] c direction = 0 := by
  rw [movedIn, List.filter_cons_of_neg (by simpa using h)]
  rfl

/-- The order of the records does not matter. -/
lemma movedIn_perm (h : records.Perm others) : movedIn records c direction
    = movedIn others c direction :=
  ((h.filter _).map _).sum_eq

lemma leftIn_append : leftIn (records ++ others) c = leftIn records c + leftIn others c := by
  rw [leftIn, movedIn_append, movedIn_append, leftIn, leftIn]
  ring

/-- One record leaves its signed amount. -/
lemma leftIn_singleton_self : leftIn [r] r.currency = r.signedAmount.toRat := by
  have hsigned : r.signedAmount = r.direction.signed r.amount := rfl
  have hself := movedIn_singleton_self (r := r)
  cases hd : r.direction with
  | credit =>
      have hnone : movedIn [r] r.currency .debit = 0 := movedIn_singleton_of_ne (by simp [hd])
      rw [hd] at hself hsigned
      rw [leftIn, hself, hnone, sub_zero, hsigned, Direction.signed]
  | debit =>
      have hnone : movedIn [r] r.currency .credit = 0 := movedIn_singleton_of_ne (by simp [hd])
      rw [hd] at hself hsigned
      rw [leftIn, hself, hnone, zero_sub, hsigned, Direction.signed, toRat_neg]

lemma leftIn_singleton_of_ne (h : r.currency ≠ c) : leftIn [r] c = 0 := by
  rw [leftIn, movedIn_singleton_of_ne (mt And.left h), movedIn_singleton_of_ne (mt And.left h),
    sub_zero]

/-- A currency without records is left as it was. -/
lemma leftIn_of_not_occurs (h : ¬ Occurs records c) : leftIn records c = 0 := by
  induction records with
  | nil => simp [leftIn, movedIn]
  | cons r records ih =>
      rw [Occurs, List.exists_mem_cons_iff, not_or] at h
      rw [← List.singleton_append, leftIn_append, leftIn_singleton_of_ne h.1, ih h.2, add_zero]

/-- The order of the records does not matter. -/
lemma leftIn_perm (h : records.Perm others) : leftIn records c = leftIn others c := by
  rw [leftIn, movedIn_perm h, movedIn_perm h, ← leftIn]

lemma occurs_perm (h : records.Perm others) : Occurs records c ↔ Occurs others c :=
  exists_congr fun _ => and_congr_left fun _ => h.mem_iff

/-- What amounts come to is a whole number of cents. -/
lemma exists_movedIn_eq (h : ∀ r ∈ records, r.amount.IsAmount) (c : Currency)
    (direction : Direction) : ∃ n : ℕ, movedIn records c direction = n / 100 := by
  induction records with
  | nil => exact ⟨0, by simp [movedIn]⟩
  | cons r records ih =>
      obtain ⟨n, hn⟩ := ih fun r' hr' => h r' (.tail _ hr')
      rw [← List.singleton_append, movedIn_append, hn]
      by_cases hr : r.currency = c ∧ r.direction = direction
      · obtain ⟨rfl, rfl⟩ := hr
        obtain ⟨m, -, hm⟩ := h r (.head _)
        refine ⟨m + n, ?_⟩
        rw [movedIn_singleton_self, show r.amount.toRat = _ from hm]
        push_cast
        ring
      · exact ⟨n, by rw [movedIn_singleton_of_ne hr, zero_add]⟩

end Totals

/-! ### Sums of a journal -/

/-- Amounts are whole cents above zero, and in no currency do they come to 79 * 10 ^ 25. -/
structure HasModestTotals (records : List TransactionRecord) : Prop where
  isAmount : ∀ r ∈ records, r.amount.IsAmount
  lt (c : Currency) : movedIn records c .credit + movedIn records c .debit < 79 * 10 ^ 25

/-- The sums are those of the records: a currency has one if a record is in it, and then it is
exactly what the records leave. -/
def Balances.IsNetOf (sums : Balances) (records : List TransactionRecord) : Prop :=
  ∀ c, (sums.get? c).map toRat = if Occurs records c then some (leftIn records c) else none

/-- Where no sum counts as zero, the sum is what the records leave. -/
lemma Balances.IsNetOf.toRat_getD {sums : Balances} {records : List TransactionRecord}
    (h : sums.IsNetOf records) (c : Currency) :
    ((sums.get? c).getD .zero).toRat = leftIn records c := by
  have hc := h c
  split at hc
  · obtain ⟨sum, hsum, hleft⟩ := Option.map_eq_some_iff.mp hc
    rw [hsum, Option.getD_some, hleft]
  · next hnot =>
    rw [Option.map_eq_none_iff.mp hc, Option.getD_none, toRat_zero, leftIn_of_not_occurs hnot]

namespace HasModestTotals

variable {records others : List TransactionRecord} {r : TransactionRecord}

lemma perm (h : HasModestTotals records) (hperm : records.Perm others) :
    HasModestTotals others where
  isAmount r hr := h.isAmount r (hperm.mem_iff.mpr hr)
  lt c := by
    rw [← movedIn_perm hperm, ← movedIn_perm hperm]
    exact h.lt c

/-- Fewer records do not come to more. -/
lemma of_append (h : HasModestTotals (records ++ others)) : HasModestTotals records where
  isAmount r hr := h.isAmount r (List.mem_append_left _ hr)
  lt c := by
    have hothers := fun r hr => h.isAmount r (List.mem_append_right records hr)
    obtain ⟨m, hm⟩ := exists_movedIn_eq hothers c .credit
    obtain ⟨n, hn⟩ := exists_movedIn_eq hothers c .debit
    have hlt := h.lt c
    rw [movedIn_append, movedIn_append, hm, hn] at hlt
    have hmoved : (0 : ℚ) ≤ m / 100 + n / 100 := by positivity
    linarith

/-- What is left is a whole number of cents that fits a mantissa. -/
lemma exists_leftIn_eq (h : HasModestTotals records) (c : Currency) :
    ∃ n : ℤ, leftIn records c = n / 100 ∧ n.natAbs < 2 ^ 96 := by
  obtain ⟨m, hm⟩ := exists_movedIn_eq h.isAmount c .credit
  obtain ⟨n, hn⟩ := exists_movedIn_eq h.isAmount c .debit
  have hlt := h.lt c
  rw [hm, hn] at hlt
  have hcents : m + n < 79 * 10 ^ 27 := by
    have : ((m + n : ℕ) : ℚ) < (79 * 10 ^ 27 : ℕ) := by
      push_cast
      linarith
    exact_mod_cast this
  refine ⟨m - n, ?_, by omega⟩
  rw [leftIn, hm, hn]
  push_cast
  ring

/-- One more record is added exactly: what is left before it and after it fits a mantissa. -/
lemma exists_addRecord? (h : HasModestTotals (records ++ [r])) {sums : Balances}
    (hsums : sums.IsNetOf records) :
    ∃ next, addRecord? sums r = some next ∧ next.IsNetOf (records ++ [r]) := by
  obtain ⟨m, hm, -⟩ := h.of_append.exists_leftIn_eq r.currency
  obtain ⟨n, hn, hfits⟩ := h.exists_leftIn_eq r.currency
  obtain ⟨k, hk⟩ := (h.isAmount r (by simp)).signed r.direction
  have hsigned : r.signedAmount.IsCents k := hk
  have hcurrent : ((sums.get? r.currency).getD .zero).IsCents m := (hsums.toRat_getD _).trans hm
  have hnext : n = m + k := by
    rw [leftIn_append, leftIn_singleton_self, hm, show r.signedAmount.toRat = _ from hsigned] at hn
    have : (n : ℚ) = (m + k : ℤ) := by
      push_cast
      linarith
    exact_mod_cast this
  obtain ⟨sum, hsum, hcents⟩ := add?_isCents hcurrent hsigned (hnext ▸ hfits)
  refine ⟨sums.insert r.currency sum, ?_, fun c => ?_⟩
  · rw [addRecord?, show Arithmetic.sum? _ _ = some sum from hsum, Option.map_some]
  rw [CurrencyMap.get?_insert]
  by_cases hc : c = r.currency
  · subst hc
    have hoccurs : Occurs (records ++ [r]) r.currency := ⟨r, by simp, rfl⟩
    rw [if_pos rfl, if_pos hoccurs, Option.map_some, hn, hnext]
    exact congrArg some hcents
  · have hoccurs : Occurs (records ++ [r]) c ↔ Occurs records c := by
      simp [Occurs, or_and_right, exists_or, Ne.symm hc]
    rw [if_neg hc, hsums c, leftIn_append, leftIn_singleton_of_ne (Ne.symm hc), add_zero]
    simp only [hoccurs]

/-- Such records have sums, and the sums are exact. -/
theorem exists_isNetOf (h : HasModestTotals records) :
    ∃ sums, netBalances? records = some sums ∧ sums.IsNetOf records := by
  induction records using List.reverseRecOn with
  | nil => exact ⟨.empty, rfl, fun c => by simp [Occurs]⟩
  | append_singleton records r ih =>
      obtain ⟨sums, hsums, hnet⟩ := ih h.of_append
      obtain ⟨next, hnext, hnet'⟩ := h.exists_addRecord? hnet
      exact ⟨next, by rw [netBalances?_concat, hsums, Option.bind_some, hnext], hnet'⟩

end HasModestTotals

/-! ### Reports -/

/-- The keys of the entries that a condition selects. -/
lemma CurrencyMap.map_filter_toList {α : Type} (m : CurrencyMap α) (p : Currency × α → Bool) :
    (m.toList.filter p).map (·.1)
      = Currency.all.filter fun c => (m.get? c).any fun a => p (c, a) := by
  rw [toList]
  induction Currency.all with
  | nil => rfl
  | cons c cs ih =>
      cases hc : m.get? c with
      | none => simpa [hc] using ih
      | some a => cases hp : p (c, a) <;> simpa [hc, hp] using ih

namespace IntegrityReport

variable {account : AccountId} {balances audited audited' : Balances} {c : Currency}

/-- First come the currencies with a balance other than the sum, then those with a sum alone. -/
lemma mismatches_eq (account : AccountId) (balances audited : Balances) :
    (IntegrityReport.of account balances audited).mismatches
      = (Currency.all.filter fun c => (balances.get? c).any fun balance =>
          decide (((audited.get? c).getD .zero).toRat ≠ balance.toRat)) ++
        Currency.all.filter fun c => (audited.get? c).isSome && (balances.get? c).isNone := by
  rw [IntegrityReport.of, List.map_append, CurrencyMap.map_filter_toList,
    CurrencyMap.map_filter_toList]
  refine congrArg₂ (· ++ ·) (List.filter_congr fun c _ => ?_) (List.filter_congr fun c _ => ?_)
  · cases balances.get? c with
    | none => rfl
    | some balance => simp [sameValue_iff]
  · cases audited.get? c <;> simp

lemma mem_mismatches_iff : c ∈ (IntegrityReport.of account balances audited).mismatches ↔
    (∃ balance, balances.get? c = some balance ∧
      ((audited.get? c).getD .zero).toRat ≠ balance.toRat) ∨
    (balances.get? c = none ∧ (audited.get? c).isSome = true) := by
  simp only [mismatches_eq, List.mem_append, List.mem_filter, c.mem_all, true_and,
    Option.any_eq_true, decide_eq_true_eq, Bool.and_eq_true, Option.isNone_iff_eq_none]
  rw [and_comm (a := (audited.get? c).isSome = true)]

/-- No currency is listed twice: it has a balance or it has none. -/
lemma nodup_mismatches : (IntegrityReport.of account balances audited).mismatches.Nodup := by
  have hall : Currency.all.Nodup := by decide
  rw [mismatches_eq]
  refine (hall.filter _).append (hall.filter _) fun c hleft hright => ?_
  have hsome := (List.mem_filter.mp hleft).2
  have hnone := (List.mem_filter.mp hright).2
  rw [Bool.and_eq_true, Option.isNone_iff_eq_none] at hnone
  simp [hnone.2] at hsome

/-- Only the values of the sums matter. -/
lemma mismatches_congr (h : ∀ c, (audited.get? c).map toRat = (audited'.get? c).map toRat) :
    (IntegrityReport.of account balances audited).mismatches
      = (IntegrityReport.of account balances audited').mismatches := by
  have hvalue : ∀ c, ((audited.get? c).getD .zero).toRat = ((audited'.get? c).getD .zero).toRat :=
    fun c => by
      have hc := congrArg (·.getD (toRat .zero)) (h c)
      simpa only [Option.getD_map] using hc
  have hsome : ∀ c, (audited.get? c).isSome = (audited'.get? c).isSome := fun c => by
    simpa only [Option.isSome_map] using congrArg Option.isSome (h c)
  simp only [mismatches_eq, hvalue, hsome]

/-- The report on balances beside the sums of records, if there are such sums. -/
def on? (account : AccountId) (balances : Balances) (records : List TransactionRecord) :
    Option IntegrityReport :=
  (netBalances? records).map (.of account balances)

end IntegrityReport

/-- Reconciliation reports on the balances and the records of an account that exists. -/
lemma Store.reconcile_eq (s : Store) (account : AccountId) : s.reconcile account =
    if (s.readBalances account).isEmpty then .error (.refused (.accountNotFound account))
    else
      match IntegrityReport.on? account (s.readBalances account) (s.transactionRecords account) with
      | none => .error .overflow
      | some report => .ok report := by
  rw [reconcile, IntegrityReport.on?]
  cases netBalances? (s.transactionRecords account) <;> rfl

/-- A currency drifts: it has a balance that is not what the records leave, or it has none though
a record is in it. -/
def Drifts (balances : Balances) (records : List TransactionRecord) (c : Currency) : Prop :=
  (∃ balance, balances.get? c = some balance ∧
    balance.toRat ≠ movedIn records c .credit - movedIn records c .debit) ∨
  (balances.get? c = none ∧ Occurs records c)

/-- The report shows what the records leave of each currency, and lists once each currency that
drifts and no other. -/
structure IntegrityReport.IsExact (report : IntegrityReport) (account : AccountId)
    (balances : Balances) (records : List TransactionRecord) : Prop where
  account_eq : report.account = account
  balances_eq : report.balances = balances
  audited : report.audited.IsNetOf records
  mem_mismatches (c : Currency) : c ∈ report.mismatches ↔ Drifts balances records c
  nodup : report.mismatches.Nodup

section Reports

variable {records others before after : List TransactionRecord} {r : TransactionRecord}
  {balances : Balances} {c : Currency}

/-- A report on exact sums is exact. -/
lemma Balances.IsNetOf.isExact_of {audited : Balances} (h : audited.IsNetOf records)
    (account : AccountId) (balances : Balances) :
    (IntegrityReport.of account balances audited).IsExact account balances records where
  account_eq := rfl
  balances_eq := rfl
  audited := h
  nodup := IntegrityReport.nodup_mismatches
  mem_mismatches c := by
    have hsome : (audited.get? c).isSome = true ↔ Occurs records c := by
      rw [← Option.isSome_map (f := toRat), h c]
      split <;> simpa
    rw [IntegrityReport.mem_mismatches_iff, h.toRat_getD, hsome, Drifts]
    exact or_congr (exists_congr fun _ => and_congr_right fun _ => ne_comm) Iff.rfl

/-- A record of another currency does not make a currency drift, nor does it stop it. -/
lemma drifts_of_ne (h : c ≠ r.currency) :
    Drifts balances (before ++ r :: after) c ↔ Drifts balances (before ++ after) c := by
  have hperm : (before ++ r :: after).Perm ([r] ++ (before ++ after)) := List.perm_middle
  have hleft : leftIn (before ++ r :: after) c = leftIn (before ++ after) c := by
    rw [leftIn_perm hperm, leftIn_append, leftIn_singleton_of_ne h.symm, zero_add]
  have hoccurs : Occurs (before ++ r :: after) c ↔ Occurs (before ++ after) c := by
    rw [occurs_perm hperm]
    simp [Occurs, h.symm]
  rw [Drifts, Drifts, ← leftIn, ← leftIn, hleft, hoccurs]

/-- With a balance, a currency drifts with a record of its own or without it. -/
lemma drifts_or_drifts (hr : r.amount.IsAmount) (hbalance : (balances.get? r.currency).isSome) :
    Drifts balances (before ++ r :: after) r.currency ∨
      Drifts balances (before ++ after) r.currency := by
  obtain ⟨balance, hb⟩ := Option.isSome_iff_exists.mp hbalance
  have hperm : (before ++ r :: after).Perm ([r] ++ (before ++ after)) := List.perm_middle
  have hleft : leftIn (before ++ r :: after) r.currency
      = r.signedAmount.toRat + leftIn (before ++ after) r.currency := by
    rw [leftIn_perm hperm, leftIn_append, leftIn_singleton_self]
  have hpos := hr.toRat_pos
  have hne : r.signedAmount.toRat ≠ 0 := by
    rw [TransactionRecord.signedAmount]
    cases r.direction with
    | credit => exact hpos.ne'
    | debit =>
        rw [Direction.signed, toRat_neg]
        exact neg_ne_zero.mpr hpos.ne'
  by_contra hnot
  obtain ⟨hwith, hwithout⟩ := not_or.mp hnot
  have hwith' : balance.toRat = leftIn (before ++ r :: after) r.currency :=
    not_not.mp fun hdiffers => hwith (.inl ⟨balance, hb, hdiffers⟩)
  have hwithout' : balance.toRat = leftIn (before ++ after) r.currency :=
    not_not.mp fun hdiffers => hwithout (.inl ⟨balance, hb, hdiffers⟩)
  rw [hleft, ← hwithout'] at hwith'
  exact hne (by linarith)

end Reports

/-- **Reconciliation**: beside any balances, records of whole cents with modest totals have an exact
report. In any other order they have a report with the same mismatches and sums of the same values.
Without any one of them they have an exact report too: the two do not both find the currency of that
record in order, if it has a balance, and agree on every other currency. -/
theorem HasModestTotals.exists_isExact {records : List TransactionRecord}
    (h : HasModestTotals records) (account : AccountId) (balances : Balances) :
    ∃ report, IntegrityReport.on? account balances records = some report ∧
      report.IsExact account balances records ∧
      (∀ others, records.Perm others →
        ∃ report', IntegrityReport.on? account balances others = some report' ∧
          report'.mismatches = report.mismatches ∧
          ∀ c, (report'.audited.get? c).map toRat = (report.audited.get? c).map toRat) ∧
      (∀ before r after, records = before ++ r :: after →
        ∃ report', IntegrityReport.on? account balances (before ++ after) = some report' ∧
          report'.IsExact account balances (before ++ after) ∧
          ((balances.get? r.currency).isSome = true →
            r.currency ∈ report.mismatches ∨ r.currency ∈ report'.mismatches) ∧
          ∀ c ≠ r.currency, c ∈ report.mismatches ↔ c ∈ report'.mismatches) := by
  obtain ⟨sums, hsums, hnet⟩ := h.exists_isNetOf
  have hreport := hnet.isExact_of account balances
  refine ⟨.of account balances sums, by rw [IntegrityReport.on?, hsums, Option.map_some], hreport,
    fun others hperm => ?_, ?_⟩
  · -- modest totals do not depend on the order, and exact sums neither
    obtain ⟨sums', hsums', hnet'⟩ := (h.perm hperm).exists_isNetOf
    have hvalues : ∀ c, (sums'.get? c).map toRat = (sums.get? c).map toRat := fun c => by
      rw [hnet' c, hnet c, leftIn_perm hperm]
      simp only [occurs_perm hperm]
    exact ⟨.of account balances sums', by rw [IntegrityReport.on?, hsums', Option.map_some],
      IntegrityReport.mismatches_congr hvalues, hvalues⟩
  · rintro before r after rfl
    -- without a record totals are still modest: it is brought to the end and left out
    have hperm : (before ++ r :: after).Perm (before ++ after ++ [r]) :=
      List.perm_middle.trans (List.perm_append_singleton r _).symm
    obtain ⟨sums', hsums', hnet'⟩ := (h.perm hperm).of_append.exists_isNetOf
    have hreport' := hnet'.isExact_of account balances
    refine ⟨.of account balances sums', by rw [IntegrityReport.on?, hsums', Option.map_some],
      hreport', fun hbalance => ?_, fun c hc => ?_⟩
    · rw [hreport.mem_mismatches, hreport'.mem_mismatches]
      exact drifts_or_drifts (h.isAmount r (by simp)) hbalance
    · rw [hreport.mem_mismatches, hreport'.mem_mismatches]
      exact drifts_of_ne hc

/-- Beside a balance of 1.5 dollars stand the records of 1.5 dollars and of 2 roubles. -/
theorem exists_isExact_dollars_roubles :
    let records : List TransactionRecord :=
      [⟨⟨.random 1⟩, ⟨.random 2⟩, .usd, ⟨false, 15, 1, by decide, by decide⟩, .credit, .deposit,
          none, .ofEpochMillis 0⟩,
        ⟨⟨.random 3⟩, ⟨.random 4⟩, .rub, ⟨false, 200, 2, by decide, by decide⟩, .credit, .deposit,
          none, .ofEpochMillis 0⟩]
    let balances : Balances := .ofList [(.usd, ⟨false, 150, 2, by decide, by decide⟩)]
    HasModestTotals records ∧ ∃ report,
      IntegrityReport.on? ⟨.random 0⟩ balances records = some report ∧
        (Currency.usd ∉ report.mismatches ∧ Currency.rub ∈ report.mismatches) := by
  intro records balances
  have hmodest : HasModestTotals records := by
    refine ⟨?_, fun c => by cases c <;> decide +kernel⟩
    simp only [records, List.forall_mem_cons, List.not_mem_nil, false_implies, implies_true,
      and_true]
    exact ⟨⟨150, by decide, isCents_iff_isUnits.mpr (isUnits_iff.mpr (by decide))⟩,
      ⟨200, by decide, isCents_iff_isUnits.mpr (isUnits_iff.mpr (by decide))⟩⟩
  obtain ⟨report, hreport, hexact, -⟩ := hmodest.exists_isExact ⟨.random 0⟩ balances
  refine ⟨hmodest, report, hreport, ?_⟩
  rw [hexact.mem_mismatches, hexact.mem_mismatches]
  refine ⟨?_, .inr ⟨rfl, _, .tail _ (.head _), rfl⟩⟩
  rintro (⟨balance, hbalance, hdiffers⟩ | ⟨hnone, -⟩)
  · obtain rfl := Option.some.inj hbalance
    exact hdiffers (by decide +kernel)
  · exact absurd hnone (by decide)

end Teller
