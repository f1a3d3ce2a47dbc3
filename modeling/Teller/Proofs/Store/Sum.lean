/-
Sums of balances and amounts, whatever is done about sums that are not exact.

* `Decimal.AddsUp`: a sum that is exact;
* `Arithmetic.Lawful`: sums that are exact are those of decimals, and what is above the largest
  balance stays above it; any other sum may be anything, or nothing;
* `Arithmetic.exact` refuses all sums that are not exact, `Arithmetic.except` replaces a single one;
* `Settles`: a computation comes to the same result by every lawful arithmetic;
* `settles_sum?`: sums of whole cents settle as long as they fit a mantissa;
* `Store.adjusted`: what the adjustment of a balance comes to; for every balance and every amount
  the sum that decides it settles (`Store.settles_nextBalance?`), and what it leaves is a balance
  again (`Store.isBalance_of_adjusted`).
-/
import Teller.Proofs.Decimal.Cents
import Teller.Store.Waiting

namespace Teller

open Decimal

/-- The decimals `a` and `b` add up to `c`, and nothing has been rounded. -/
def Decimal.AddsUp (a b c : Decimal) : Prop :=
  a.add? b = some c ∧ c.toRat = a.toRat + b.toRat

/-- Exact sums are those of decimals, and whole cents whose sum is above the largest balance do not
come to a balance. Nothing is known of any other sum. -/
class Arithmetic.Lawful (A : Arithmetic) : Prop where
  sum?_eq {a b c : Decimal} : a.AddsUp b c → A.sum? a b = some c
  not_le {a b c : Decimal} {m n : ℤ} : a.IsCents m → b.IsCents n →
    99999999999999999999 < m + n → A.sum? a b = some c → ¬ c ≤ Money.maxValue

/-- A sum of whole cents is above the largest balance if it has more of them. -/
lemma Decimal.maxValue_lt_add_iff {a b : Decimal} {m n : ℤ} (ha : a.IsCents m) (hb : b.IsCents n) :
    Money.maxValue.toRat < a.toRat + b.toRat ↔ 99999999999999999999 < m + n := by
  rw [show Money.maxValue.toRat = _ from isCents_maxValue, show a.toRat = _ from ha,
    show b.toRat = _ from hb, ← add_div, div_lt_div_iff_of_pos_right (by norm_num)]
  norm_cast

namespace Arithmetic

/-- Whole cents whose sum is above the largest balance come to more than that, rounded or not. -/
lemma not_add?_le {a b c : Decimal} {m n : ℤ} (ha : a.IsCents m) (hb : b.IsCents n)
    (h : 99999999999999999999 < m + n) (hc : a.add? b = some c) : ¬ c ≤ Money.maxValue := by
  -- a sum that fits a mantissa is exact, and any larger one keeps all digits before the point
  rcases Int.lt_or_le (m + n) (2 ^ 96) with hfit | hfit
  · obtain ⟨c', hc', hcents⟩ := add?_isCents ha hb (by omega)
    obtain rfl := Option.some.inj (hc.symm.trans hc')
    exact fun hle => absurd ((hcents.le_iff isCents_maxValue).mp hle) (by omega)
  · exact not_add?_le_maxValue (show 0 ≤ 8 by omega) ha.isUnits hb.isUnits hfit hc

instance : Arithmetic.decimal.Lawful where
  sum?_eq h := h.1
  not_le := not_add?_le

/-- Sums that are never rounded: one that is not exact has no result. -/
@[reducible]
def exact : Arithmetic :=
  ⟨fun a b => (a.add? b).filter fun c => c.toRat = a.toRat + b.toRat⟩

instance : Arithmetic.exact.Lawful where
  sum?_eq h := Option.filter_eq_some_iff.mpr ⟨h.1, by simpa using h.2⟩
  not_le ha hb h hc := not_add?_le ha hb h (Option.filter_eq_some_iff.mp hc).1

/-- The sums of decimals, except that `a` and `b` come to `c`. -/
@[reducible]
def except (a b : Decimal) (c : Option Decimal) : Arithmetic :=
  ⟨fun x y => if x = a ∧ y = b then c else x.add? y⟩

/-- A sum that is not exact, and is not above the largest balance, may be anything. -/
lemma lawful_except {a b : Decimal} (c : Option Decimal) (hinexact : ¬ ∃ d, a.AddsUp b d)
    (hle : ¬ Money.maxValue.toRat < a.toRat + b.toRat) : (except a b c).Lawful where
  sum?_eq {x y d} h := by
    have hne : ¬ (x = a ∧ y = b) := by
      rintro ⟨rfl, rfl⟩
      exact hinexact ⟨d, h⟩
    exact (if_neg hne).trans h.1
  not_le {x y d m n} hx hy h hd := by
    have hne : ¬ (x = a ∧ y = b) := by
      rintro ⟨rfl, rfl⟩
      exact hle ((maxValue_lt_add_iff hx hy).mpr h)
    exact not_add?_le hx hy h ((if_neg hne).symm.trans hd)

end Arithmetic

/-- The computation comes to this result by every lawful arithmetic. -/
structure Settles {α : Type} (f : [Arithmetic] → α) (a : α) : Prop where
  eq (A : Arithmetic) [A.Lawful] : f = a

/-- Whole cents add up to the same by every lawful arithmetic. -/
lemma settles_sum? {a b : Decimal} {m n : ℤ} (ha : a.IsCents m) (hb : b.IsCents n)
    (h : (m + n).natAbs < 2 ^ 96) :
    ∃ c, Settles (Arithmetic.sum? a b) (some c) ∧ a.add? b = some c ∧ c.IsCents (m + n) := by
  obtain ⟨c, hc, hcents⟩ := add?_isCents ha hb h
  have hexact : c.toRat = a.toRat + b.toRat := by
    rw [show c.toRat = _ from hcents, show a.toRat = _ from ha, show b.toRat = _ from hb]
    push_cast
    ring
  exact ⟨c, ⟨fun _ _ => Arithmetic.Lawful.sum?_eq ⟨hc, hexact⟩⟩, hc, hcents⟩

namespace Store

/-- What the adjustment of a balance comes to: the next balance, or the error that refuses it. -/
def adjusted (currency : Currency) (balance amount : Decimal) (direction : Direction) :
    Except LedgerError Decimal :=
  if direction = .debit ∧ balance < amount then .error (.insufficientFunds currency amount)
  else
    match nextBalance? balance (direction.signed amount) with
    | none => .error (.validation (.balanceRange currency balance direction amount))
    | some next => .ok next

/-- The next balance in cents: up to the largest balance it exists and is exact, and above that it
does not exist, be it that the sum is too large or that it is no decimal. -/
lemma settles_nextBalance?_cents {balance delta : Decimal} {m n : ℤ} (hb : balance.IsCents m)
    (hd : delta.IsCents n) (hsum : 0 ≤ m + n) :
    if m + n ≤ 99999999999999999999 then
      ∃ next, Settles (nextBalance? balance delta) (some next) ∧ balance.add? delta = some next ∧
        next.IsCents (m + n)
    else Settles (nextBalance? balance delta) none := by
  split
  · next hle =>
    obtain ⟨c, hc, hadd, hcents⟩ := settles_sum? hb hd (by omega)
    have hmax : c ≤ Money.maxValue := (hcents.le_iff isCents_maxValue).mpr hle
    refine ⟨c, ⟨fun A _ => ?_⟩, hadd, hcents⟩
    rw [nextBalance?, hc.eq A, Option.filter_some, if_pos (by simpa using hmax)]
  · next hgt =>
    refine ⟨fun A _ => ?_⟩
    rw [nextBalance?, Option.filter_eq_none_iff]
    intro c hc
    simpa using Arithmetic.Lawful.not_le hb hd (by omega) hc

/-- The sum that decides an adjustment is not below zero unless the adjustment is refused for
that. -/
lemma IsBalance.exists_cents {balance amount : Decimal} {direction : Direction}
    (hb : balance.IsBalance) (ha : amount.IsAmount)
    (h : ¬ (direction = .debit ∧ balance < amount)) : ∃ (m : ℕ) (n : ℤ),
      m ≤ 99999999999999999999 ∧ balance.IsCents m ∧ (direction.signed amount).IsCents n ∧
        0 ≤ m + n := by
  obtain ⟨m, hm, hbc⟩ := hb
  obtain ⟨n, hn, hac⟩ := ha
  cases direction with
  | credit => exact ⟨m, n, hm, hbc, hac, by omega⟩
  | debit =>
      rw [hbc.lt_iff hac, not_and, not_lt] at h
      have hle := h rfl
      exact ⟨m, -n, hm, hbc, hac.neg, by omega⟩

/-- The sum that decides an adjustment settles. -/
lemma settles_nextBalance? {balance amount : Decimal} {direction : Direction}
    (hb : balance.IsBalance) (ha : amount.IsAmount)
    (h : ¬ (direction = .debit ∧ balance < amount)) :
    Settles (nextBalance? balance (direction.signed amount))
      (nextBalance? balance (direction.signed amount)) := by
  obtain ⟨m, n, -, hm, hn, hsum⟩ := IsBalance.exists_cents hb ha h
  have hnext := settles_nextBalance?_cents hm hn hsum
  split at hnext
  · obtain ⟨next, hs, -⟩ := hnext
    exact ⟨fun A _ => (hs.eq A).trans (hs.eq .decimal).symm⟩
  · exact ⟨fun A _ => (hnext.eq A).trans (hnext.eq .decimal).symm⟩

/-- There is a next balance unless it would be above the largest. -/
lemma nextBalance?_eq_none_iff {balance amount : Decimal} {direction : Direction}
    (hb : balance.IsBalance) (ha : amount.IsAmount)
    (h : ¬ (direction = .debit ∧ balance < amount)) :
    nextBalance? balance (direction.signed amount) = none ↔
      Money.maxValue.toRat < balance.toRat + (direction.signed amount).toRat := by
  obtain ⟨m, n, -, hm, hn, hsum⟩ := IsBalance.exists_cents hb ha h
  have hnext := settles_nextBalance?_cents hm hn hsum
  rw [maxValue_lt_add_iff hm hn]
  split at hnext
  · next hle =>
    obtain ⟨next, hsettles, -⟩ := hnext
    rw [hsettles.eq .decimal]
    simpa using hle
  · next hgt =>
    rw [hnext.eq .decimal]
    simpa using hgt

/-- The sum that decides an adjustment is exact, or it is above the largest balance and there is no
next balance. -/
lemma addsUp_or_above {balance amount : Decimal} {direction : Direction}
    (hb : balance.IsBalance) (ha : amount.IsAmount)
    (h : ¬ (direction = .debit ∧ balance < amount)) :
    (∃ next, balance.AddsUp (direction.signed amount) next) ∨
      (Money.maxValue.toRat < balance.toRat + (direction.signed amount).toRat ∧
        nextBalance? balance (direction.signed amount) = none) := by
  obtain ⟨m, n, -, hm, hn, hsum⟩ := IsBalance.exists_cents hb ha h
  have hnext := settles_nextBalance?_cents hm hn hsum
  split at hnext
  · obtain ⟨next, -, hadd, hcents⟩ := hnext
    refine .inl ⟨next, hadd, ?_⟩
    rw [show next.toRat = _ from hcents, show balance.toRat = _ from hm,
      show (direction.signed amount).toRat = _ from hn, Int.cast_add, add_div]
  · have hnone := hnext.eq .decimal
    exact .inr ⟨(nextBalance?_eq_none_iff hb ha h).mp hnone, hnone⟩

/-- An adjustment that is not refused leaves a balance, the exact sum of the two. -/
lemma isBalance_of_adjusted {currency : Currency} {balance amount next : Decimal}
    {direction : Direction} (hb : balance.IsBalance) (ha : amount.IsAmount)
    (h : adjusted currency balance amount direction = .ok next) :
    next.IsBalance ∧ Settles (Arithmetic.sum? balance (direction.signed amount)) (some next) ∧
      next.toRat = balance.toRat + (direction.signed amount).toRat := by
  rw [adjusted] at h
  split at h
  · simp at h
  · next hrefused =>
    obtain ⟨m, n, hmax, hm, hn, hsum⟩ := IsBalance.exists_cents hb ha hrefused
    have hnext := settles_nextBalance?_cents hm hn hsum
    split at hnext
    · next hle =>
      obtain ⟨c, hs, hadd, hcents⟩ := hnext
      rw [hs.eq .decimal] at h
      obtain rfl := Except.ok.inj h
      obtain ⟨c', hs', hadd', -⟩ := settles_sum? hm hn (by omega)
      obtain rfl := Option.some.inj (hadd.symm.trans hadd')
      refine ⟨⟨(m + n).toNat, by omega, ?_⟩, hs', ?_⟩
      · rwa [Int.toNat_of_nonneg hsum]
      · rw [show c.toRat = _ from hcents, show balance.toRat = _ from hm,
          show (direction.signed amount).toRat = _ from hn]
        push_cast
        ring
    · rw [hnext.eq .decimal] at h
      simp at h

end Store

end Teller
