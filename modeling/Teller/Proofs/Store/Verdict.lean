/-
Why movements are refused, and what they leave, by exact numbers.

* `Direction.change`: what an adjustment adds to a balance; `Direction.refusal?`: why it is refused,
  if it is;
* `Store.adjusted_eq_error_iff`: so it is refused, whatever the scales of balance and amount;
* `Movement.refusal?`: why a movement is refused, if it is; `Movement.apply_eq_error_iff`;
* `Store.Changes`: a row keeps its wallet, whose balance changes by some number;
  `Store.Posted.changes` says what a transaction leaves at the rows that its movements name, and at
  all others.
-/
import Teller.Proofs.Store.During

namespace Teller

/-! ### Adjustments -/

/-- What an adjustment adds to a balance. -/
def Direction.change (direction : Direction) (amount : Decimal) : ℚ :=
  match direction with
  | credit => amount.toRat
  | debit => -amount.toRat

lemma Direction.toRat_signed (direction : Direction) (amount : Decimal) :
    (direction.signed amount).toRat = direction.change amount := by
  cases direction with
  | credit => rfl
  | debit => exact Decimal.toRat_neg amount

/-- Why the adjustment of a balance is refused, if it is: a credit that would lift the balance above
the largest, or a debit of more than there is. -/
def Direction.refusal? (direction : Direction) (currency : Currency) (balance amount : Decimal) :
    Option LedgerError :=
  match direction with
  | credit =>
    if Money.maxValue.toRat < balance.toRat + amount.toRat then
      some (.validation (.balanceRange currency balance .credit amount))
    else none
  | debit =>
    if balance.toRat < amount.toRat then some (.insufficientFunds currency amount) else none

namespace Store

variable {currency : Currency} {balance amount : Decimal} {direction : Direction} {e : LedgerError}

/-- A debit of no more than there is leaves a balance that is not too large. -/
lemma IsBalance.add_change_debit_le (hb : balance.IsBalance) (ha : amount.IsAmount) :
    balance.toRat + Direction.change .debit amount ≤ Money.maxValue.toRat := by
  obtain ⟨n, hn, hcents⟩ := hb
  have hpos := ha.toRat_pos
  have hmax : balance.toRat ≤ Money.maxValue.toRat := by
    rw [← Decimal.le_iff_toRat, hcents.le_iff Decimal.isCents_maxValue]
    exact_mod_cast hn
  rw [Direction.change]
  linarith

/-- An adjustment is refused for the reason that the exact numbers give, and for no other. -/
theorem adjusted_eq_error_iff (hb : balance.IsBalance) (ha : amount.IsAmount) :
    adjusted currency balance amount direction = .error e ↔
      direction.refusal? currency balance amount = some e := by
  cases direction with
  | credit =>
      have hnot : ¬ (Direction.credit = .debit ∧ balance < amount) := by simp
      have hnext := nextBalance?_eq_none_iff hb ha hnot
      rw [Direction.toRat_signed, Direction.change] at hnext
      rw [adjusted, if_neg hnot, Direction.refusal?]
      cases hsum : nextBalance? balance (Direction.credit.signed amount) with
      | none =>
          rw [if_pos (hnext.mp hsum)]
          simp
      | some next =>
          rw [if_neg (hnext.not.mp (by simp [hsum]))]
          simp
  | debit =>
      rw [adjusted, Direction.refusal?]
      by_cases hfunds : balance < amount
      · rw [if_pos ⟨rfl, hfunds⟩, if_pos (Decimal.lt_iff_toRat.mp hfunds)]
        simp
      · have hnot : ¬ (Direction.debit = .debit ∧ balance < amount) := fun h => hfunds h.2
        have hnext := nextBalance?_eq_none_iff hb ha hnot
        rw [Direction.toRat_signed] at hnext
        obtain ⟨next, hsome⟩ := Option.ne_none_iff_exists'.mp
          (hnext.not.mpr (not_lt.mpr (IsBalance.add_change_debit_le hb ha)))
        rw [if_neg hnot, if_neg (mt Decimal.lt_iff_toRat.mpr hfunds), hsome]
        simp

end Store

/-! ### Movements -/

namespace Movement

variable {m : Movement} {sheet : Sheet} {e : LedgerError}

/-- Why a movement is refused, if it is. -/
def refusal? (m : Movement) (sheet : Sheet) : Option LedgerError :=
  match sheet m.key with
  | none => some (.walletNotFound m.key.account m.key.currency)
  | some balance => m.direction.refusal? m.key.currency balance m.amount

/-- A movement is refused for the reason that the exact numbers give, and for no other. -/
theorem apply_eq_error_iff (hs : sheet.IsProper) (ha : m.amount.IsAmount) :
    m.apply sheet = .error e ↔ m.refusal? sheet = some e := by
  rw [apply, refusal?]
  cases hrow : sheet m.key with
  | none => simp [verdict, Except.map]
  | some balance =>
      have hiff : Store.adjusted m.key.currency balance m.amount m.direction = .error e ↔
          m.direction.refusal? m.key.currency balance m.amount = some e :=
        Store.adjusted_eq_error_iff (hs hrow) ha
      simp only [verdict]
      rw [← hiff]
      cases Store.adjusted m.key.currency balance m.amount m.direction <;> simp [Except.map]

/-- A movement that is made was not to be refused. -/
lemma refusal?_eq_none_of_apply {sheet' : Sheet} (hs : sheet.IsProper) (ha : m.amount.IsAmount)
    (h : m.apply sheet = .ok sheet') : m.refusal? sheet = none := by
  rw [Option.eq_none_iff_forall_ne_some]
  intro e he
  rw [← apply_eq_error_iff hs ha, h] at he
  simp at he

end Movement

/-! ### Rows -/

namespace Store

/-- A row keeps its wallet, whose balance changes by this number. -/
structure Changes (s s' : Store) (key : WalletKey) (wallet : Wallet) (change : ℚ) : Prop where
  before : s.wallets.get? key = some wallet
  after : ∃ balance, s'.wallets.get? key = some { wallet with balance } ∧
    balance.toRat = wallet.balance.toRat + change

variable {tx : TxId} {s₀ s : Store} {sheet : Sheet} {records : List TransactionRecord}
  {events : List OutboxEvent} {key : WalletKey} {wallet : Wallet}

lemma Changes.id_eq {change : ℚ} (h : s₀.Changes s key wallet change) {id : WalletId}
    (hid : (s₀.wallets.get? key).map (·.id) = some id) : wallet.id = id := by
  rw [h.before] at hid
  exact Option.some.inj hid

namespace Posted

/-- A wallet stays the same wallet. -/
lemma get?_of_some (hp : Posted tx s₀ s sheet records events)
    (hw : s₀.wallets.get? key = some wallet) {balance : Decimal}
    (hbalance : sheet key = some balance) :
    s.wallets.get? key = some { wallet with balance } := by
  have hid := hp.id (show (s₀.wallets.get? key).map (·.id) = some wallet.id by rw [hw]; rfl)
  obtain ⟨⟨id, balance'⟩, hw', rfl⟩ := Option.map_eq_some_iff.mp hid
  rw [← hp.sheet_eq, sheet_of_get? hw'] at hbalance
  rw [hw', ← Option.some.inj hbalance]

/-- A row whose balance stays as it is stays as it is. -/
lemma get?_eq (hp : Posted tx s₀ s sheet records events) (hsame : sheet key = s₀.sheet key) :
    s.wallets.get? key = s₀.wallets.get? key := by
  cases hw : s₀.wallets.get? key with
  | some wallet => exact hp.get?_of_some hw (hsame.trans (sheet_of_get? hw))
  | none =>
      rw [Store.sheet, Sheet.of, hw, ← hp.sheet_eq] at hsame
      exact Option.map_eq_none_iff.mp hsame

/-- A transaction made of movements changes the balance of each row that it names by the exact
amount, and no other row. -/
theorem changes (hp : Posted tx s₀ s sheet records events) {ms : List Movement}
    (hs : s₀.sheet.IsProper) (ha : ∀ m ∈ ms, m.amount.IsAmount) (hnodup : (ms.map (·.key)).Nodup)
    (hsheet : ms.foldlM Movement.apply s₀.sheet = .ok sheet) :
    (∀ m ∈ ms, ∃ wallet, s₀.Changes s m.key wallet (m.direction.change m.amount)) ∧
      ∀ key ∉ ms.map (·.key), s.wallets.get? key = s₀.wallets.get? key := by
  obtain ⟨hmem, hother⟩ := Movement.of_foldlM_apply hnodup hsheet
  refine ⟨fun m hm => ?_, fun key hkey => hp.get?_eq (hother key hkey)⟩
  obtain ⟨balance, next, hrow, hadjusted, hnext⟩ := hmem m hm
  obtain ⟨-, -, hsum⟩ := isBalance_of_adjusted (hs hrow) (ha m hm) hadjusted
  rw [Direction.toRat_signed] at hsum
  obtain ⟨wallet, hw, rfl⟩ := Option.map_eq_some_iff.mp hrow
  exact ⟨wallet, hw, next, hp.get?_of_some hw hnext, hsum⟩

end Posted

end Store

end Teller
