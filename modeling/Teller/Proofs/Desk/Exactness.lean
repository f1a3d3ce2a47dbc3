/-
No overdraft, no overflow, no lost fraction.

* `Phase.Carries.visible`: what a transaction sees of a row is a balance in range;
* `Desk.IsSound.settles_step`: an event comes to the same by every lawful arithmetic, also by that
  which refuses all sums that are not exact;
* `Desk.Forms`: an event forms a sum;
* `Desk.IsExact`, `Desk.isExact_run`: at all times of every run all balances are in range, those of
  open transactions included, and no sum is rounded or leaves the range of decimals unless it is
  above the largest balance and is tried for an adjustment, which is then refused;
* `Desk.forms_rounded_sum`: such a sum is formed, and is rounded.
-/
import Teller.Proofs.Desk.Conservation
import Teller.Proofs.Desk.Idle

namespace Teller

/-! ### What open transactions see -/

/-- What a transaction that waits for a row sees of any row is in range. -/
lemma Phase.Carries.visible {phase : Phase} {s : Store} {tx : TxId} {ticket : Ticket}
    (h : phase.Carries s tx ticket) (hproper : s.sheet.IsProper) (key : WalletKey) :
    ∃ balance, Settles (s.visibleBalance? tx key) (some balance) ∧
      ∀ b, balance = some b → b.IsBalance := by
  have hmoved : ∀ {t ms sheet}, s.Moved tx t ms sheet → ∃ balance,
      Settles (s.visibleBalance? tx key) (some balance) ∧
        ∀ b, balance = some b → b.IsBalance := by
    intro t ms sheet hm
    refine ⟨sheet key, hm.settles_visibleBalance? key, fun b hb => ?_⟩
    exact hm.isProper.moves hm.isAmount hm.outcome hb
  cases h with
  | @provisioning wait t done herrand htx ho hall =>
      refine ⟨s.baseBalance? tx key, ⟨fun _ _ => ?_⟩, fun b hb => ?_⟩
      · rw [Store.visibleBalance?, Store.transaction, ho.content, Option.getD_some, ho.deltas,
          Table.get?_empty]
      · rw [Store.baseBalance?] at hb
        rcases Option.or_eq_some_iff.mp hb with hrow | ⟨-, hnew⟩
        · exact hproper hrow
        · obtain ⟨_, -, rfl⟩ := Option.map_eq_some_iff.mp hnew
          exact Decimal.isBalance_zero
  | adjusting herrand hadj hcontent hid => exact hmoved (.fresh hcontent hproper)
  | crediting herrand htx hadj hcontent hid => exact hmoved (.fresh hcontent hproper)
  | debiting herrand htx hadj hm => exact hmoved hm

/-- What a transaction sees of a row that it has touched is an exact sum, if it settles. -/
lemma Store.addsUp_of_settles {s : Store} {tx : TxId} {key : WalletKey} {delta : Decimal}
    {balance : Option Decimal} (h : Settles (s.visibleBalance? tx key) (some balance))
    (hdelta : (s.transaction tx).deltas.get? key = some delta) :
    ∃ sum, balance = some sum ∧ ((s.baseBalance? tx key).getD .zero).AddsUp delta sum := by
  -- sums that are not exact are refused here, so this one is
  have hexact : @Store.visibleBalance? .exact s tx key = some balance := h.eq .exact
  simp only [Store.visibleBalance?, hdelta] at hexact
  obtain ⟨sum, hsum, rfl⟩ := Option.map_eq_some_iff.mp hexact
  obtain ⟨hadd, hrat⟩ := Option.filter_eq_some_iff.mp hsum
  exact ⟨sum, rfl, hadd, by simpa using hrat⟩

/-! ### Accounts -/

namespace Store.IsAudited

variable {s : Store} {account : AccountId}

/-- The reconciliation of any account settles. -/
lemma settles_reconcile_self (h : s.IsAudited) (hapart : s.names.Apart) (account : AccountId) :
    Settles (s.reconcile account) (s.reconcile account) := by
  cases hexists : (s.readBalances account).isEmpty with
  | true => exact ⟨fun A _ => by simp only [reconcile, hexists, if_true]⟩
  | false =>
      obtain ⟨report, hsettles, -⟩ := h.settles_reconcile hapart hexists
      exact ⟨fun A _ => (hsettles.eq A).trans (hsettles.eq .decimal).symm⟩

end Store.IsAudited

namespace Desk

variable {σ : Type} [RateProvider σ] {d : Desk σ} {event : Event σ} {events : List (Event σ)}

/-! ### Events -/

omit [RateProvider σ] in
/-- What an open transaction of a desk sees of any row is in range. -/
lemma IsSound.visible (hd : d.IsSound) {tx : TxId} (key : WalletKey)
    (ho : d.bank.store.IsOpen tx) :
    ∃ balance, Settles (d.bank.store.visibleBalance? tx key) (some balance) ∧
      ∀ b, balance = some b → b.IsBalance := by
  obtain ⟨id, howns⟩ := hd.owned ho
  obtain ⟨ticket, call, -, hc⟩ := hd.carries howns
  exact hc.visible hd.isProper key

omit [RateProvider σ] in
/-- An open transaction of a desk sees all balances of an account. -/
lemma IsSound.visibleBalances (hd : d.IsSound) {tx : TxId} (account : AccountId)
    (ho : d.bank.store.IsOpen tx) :
    ∃ balances : Balances, Settles (d.bank.store.visibleBalances? tx account) (some balances) ∧
      ∀ c, Settles (d.bank.store.visibleBalance? tx ⟨account, c⟩) (some (balances.get? c)) := by
  choose seen hsettles _ using fun c => hd.visible (⟨account, c⟩ : WalletKey) ho
  refine ⟨.ofFn seen, Store.settles_visibleBalances?_of_rows hsettles, fun c => ?_⟩
  rw [CurrencyMap.get?_ofFn]
  exact hsettles c

/-- An event comes to the same by every lawful arithmetic, if the verification of an account
does. -/
theorem IsSound.settles_step (hd : d.IsSound)
    (hverify : ∀ deadline account, event = .start deadline (.verify account) →
      Settles (d.bank.store.reconcile account) (d.bank.store.reconcile account)) :
    Settles (d.step event) (d.step event) := by
  cases event with
  | start deadline request =>
      have hsettles := (Bank.comes_startCall hd.disciplined hd.isProper deadline request
        fun account heq => hverify deadline account (by rw [heq])).settles
      refine ⟨fun A _ => ?_⟩
      simp only [Desk.step, hsettles.eq A]
  | resume id =>
      refine ⟨fun A _ => ?_⟩
      simp only [Desk.step]
      cases hw : d.waiting.get? id with
      | none => rfl
      | some pair =>
          obtain ⟨ticket, call⟩ := pair
          obtain ⟨tx, -, hcomes⟩ := hd.exists_acts hw
          simp only [hcomes.settles.eq A]
  | _ => exact ⟨fun _ _ => rfl⟩

/-- If the event is a verification, different wallets have different identifiers. -/
def TellsWallets (d : Desk σ) (event : Event σ) : Prop :=
  ∀ deadline account, event = .start deadline (.verify account) → d.bank.store.names.Apart

/-- Whatever happens at a desk whose accounts add up comes to the same by every lawful arithmetic,
if a verification tells the wallets apart. -/
lemma IsSound.settles_step_of_tellsWallets (hd : d.IsSound)
    (haudited : d.bank.store.names.Apart → d.bank.store.IsAudited) (h : d.TellsWallets event) :
    Settles (d.step event) (d.step event) := by
  refine hd.settles_step fun deadline account heq => ?_
  have hapart := h deadline account heq
  exact (haudited hapart).settles_reconcile_self hapart account

/-! ### Sums that are formed -/

/-- The event forms the sum of `a` and `b`: what it comes to depends on what they come to. -/
def Forms (d : Desk σ) (event : Event σ) (a b : Decimal) : Prop :=
  ∃ c, @Desk.step σ _ (.except a b c) d event ≠ d.step event

/-- An event that comes to the same by every lawful arithmetic forms no sums but those that are
exact or above the largest balance. -/
lemma Forms.addsUp_or_above {a b : Decimal} (h : d.Forms event a b)
    (hsettles : Settles (d.step event) (d.step event)) :
    (∃ c, a.AddsUp b c) ∨ Money.maxValue.toRat < a.toRat + b.toRat := by
  by_contra hnot
  obtain ⟨hinexact, hle⟩ := not_or.mp hnot
  obtain ⟨c, hne⟩ := h
  have := Arithmetic.lawful_except c hinexact hle
  exact hne (hsettles.eq (.except a b c))

/-! ### Runs -/

/-- All balances are in range, and all sums are exact but those that are tried for an adjustment
that is refused because it would leave more than the largest balance. -/
structure IsExact (d : Desk σ) : Prop where
  /-- Every balance is a whole number of cents, from zero to the largest balance. -/
  committed {key : WalletKey} {wallet : Wallet} :
    d.bank.store.wallets.get? key = some wallet → wallet.balance.IsBalance
  /-- So is every balance that an open transaction sees, whatever the arithmetic. -/
  visible {tx : TxId} (key : WalletKey) : d.bank.store.IsOpen tx →
    ∃ balance, Settles (d.bank.store.visibleBalance? tx key) (some balance) ∧
      ∀ b, balance = some b → b.IsBalance
  /-- What it sees of a row that it has touched is the exact sum of the balance and the change. -/
  touched {tx : TxId} {key : WalletKey} {delta : Decimal} : d.bank.store.IsOpen tx →
    (d.bank.store.transaction tx).deltas.get? key = some delta →
    ∃ sum, ((d.bank.store.baseBalance? tx key).getD .zero).AddsUp delta sum ∧ sum.IsBalance
  /-- The sum that an open transaction tries before it adjusts a row is exact, unless it is above
  the largest balance. Then the adjustment is refused for that, whatever the arithmetic, and changes
  nothing. -/
  tried {tx : TxId} {key : WalletKey} {balance amount : Decimal} {direction : Direction} :
    d.bank.store.IsOpen tx →
    d.bank.store.visibleBalance? tx key = some (some balance) → amount.IsAmount →
    ¬ (direction = .debit ∧ balance < amount) →
    (∃ next, balance.AddsUp (direction.signed amount) next) ∨
      (Money.maxValue.toRat < balance.toRat + (direction.signed amount).toRat ∧
        ∀ wallet, Settles (d.bank.store.adjustHeld ⟨tx, key, amount, direction⟩ wallet)
          (d.bank.store, .error (.refused (.validation
            (.balanceRange key.currency balance direction amount)))))
  /-- Whatever happens next comes to the same by every lawful arithmetic: when sums that are not
  exact are refused, or have another result that is not below the largest balance if they are above
  it. -/
  step {event : Event σ} : d.TellsWallets event → Settles (d.step event) (d.step event)
  /-- The sums that it forms are exact or above the largest balance. -/
  formed {event : Event σ} {a b : Decimal} : d.TellsWallets event → d.Forms event a b →
    (∃ c, a.AddsUp b c) ∨ Money.maxValue.toRat < a.toRat + b.toRat
  /-- A call about a change that fails has been refused: it has not stopped at a sum out of range,
  or at a balance below zero. -/
  refused {id : Nat} {ticket : Ticket} {outcome : Outcome} {failure : Failure} :
    .ended id ticket outcome ∈ d.log → ticket.request.isMutation = true →
    outcome.result = .error failure → ∃ e, failure = .refused e
  /-- If different wallets have different identifiers, the sums over the records of an account
  exist, and are the same by every lawful arithmetic. -/
  audited : d.bank.store.names.Apart → ∀ account, ∃ sums,
    Settles (netBalances? (d.bank.store.transactionRecords account)) (some sums)

/-- In every run all balances are in range, and all sums are exact but those that are tried and
refused because they are above the largest balance. -/
theorem isExact_run (clock : Clock) (lockTimeout : Nat) (ids : IdSupply) (rates : RateCache σ)
    (thresholds : Thresholds) (events : List (Event σ)) :
    ((fresh clock lockTimeout ids rates thresholds).run events).IsExact := by
  have hd₀ := isSound_fresh clock lockTimeout ids rates thresholds
  have hd := hd₀.run events
  -- what has been committed stays explained by the records, which bounds the sums over them
  have haudited := @IsSound.isAudited_run _ _ _ hd₀
    (isAudited_fresh clock lockTimeout ids rates thresholds) events
  constructor
  case committed =>
    intro key wallet hw
    exact hd.isProper (Store.sheet_of_get? hw)
  case visible => exact fun {tx} key ho => hd.visible key ho
  case touched =>
    intro tx key delta ho hdelta
    obtain ⟨balance, hseen, hrange⟩ := hd.visible key ho
    obtain ⟨sum, rfl, hsum⟩ := Store.addsUp_of_settles hseen hdelta
    exact ⟨sum, hsum, hrange sum rfl⟩
  case tried =>
    intro tx key balance amount direction ho hseen ha hcovered
    obtain ⟨balance', hseen', hrange⟩ := hd.visible key ho
    -- what is seen by the decimals is what every lawful arithmetic sees
    have hbalance := hrange balance (Option.some.inj ((hseen'.eq .decimal).symm.trans hseen))
    rcases Store.addsUp_or_above hbalance ha hcovered with hexact | ⟨habove, hnone⟩
    · exact .inl hexact
    · have hnext := Store.settles_nextBalance? hbalance ha hcovered
      rw [hnone] at hnext
      obtain ⟨balances, hall, hrows⟩ := hd.visibleBalances key.account ho
      have hrow : balances.get? key.currency = some balance :=
        Option.some.inj (((hrows key.currency).eq .decimal).symm.trans hseen)
      exact .inr ⟨habove, fun wallet => Store.settles_adjustHeld_of_none hall hrow hcovered hnext⟩
  case step => exact hd.settles_step_of_tellsWallets haudited
  case formed =>
    intro event a b htells hforms
    exact hforms.addsUp_or_above (hd.settles_step_of_tellsWallets haudited htells)
  case refused =>
    intro id ticket outcome failure he hmutation hresult
    obtain ⟨n, event, d₁, tx, turn, -, h, hturn⟩ :=
      hd₀.exists_turn_of_ended_run (by simp [fresh]) he
    have hcame := h.came
    rw [Came, hturn, Turn.map, hresult] at hcame
    exact hcame.refused_of_error hmutation
  case audited =>
    intro hapart account
    obtain ⟨sums, hsettles, -⟩ :=
      (haudited hapart).settles_netBalances? hapart account (List.prefix_refl _)
    exact ⟨sums, hsettles⟩

/-- A sum is formed that is rounded: there is a cent, and the largest amount is exchanged at ten
thousand million. The exchange would go through if the sum were nothing. -/
theorem forms_rounded_sum :
    let largest : Decimal := ⟨false, 99999999999999999999, 2, by decide, by decide⟩
    let cent : Decimal := ⟨false, 1, 2, by decide, by decide⟩
    let credit : Decimal := ⟨false, 9999999999999999999900000000, 0, by decide, by decide⟩
    let desk := (funded ⟨false, 10000000000, 0, by decide, by decide⟩ largest).step
      (.start none (.deposit ⟨.random 0⟩ .eur cent))
    desk.Forms (.start none (.exchange ⟨.random 0⟩ .usd .eur largest)) cent credit ∧
      cent.add? credit = some credit ∧ credit.toRat ≠ cent.toRat + credit.toRat := by
  intro largest cent credit desk
  -- with a sum of nothing in its place the exchange leaves records, and without it none
  refine ⟨⟨some .zero, fun hsame => ?_⟩, by decide +kernel, by decide +kernel⟩
  have hlength := congrArg (fun d => d.bank.store.journal.length) hsame
  exact absurd hlength (by decide +kernel)

end Desk

end Teller
