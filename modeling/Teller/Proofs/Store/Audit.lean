/-
The journal against the balances.

* `net`: what records add to one wallet; `total`: what they credit it with, or debit it by;
* `Audit`: the journal explains the balances: every record is about a wallet that exists, in its
  currency, every balance is what the records add to its wallet, and so was every first part of the
  journal some balance;
* `Audit.record`, `Audit.opened`: it goes on to do so when a movement is recorded, and when wallets
  are opened;
* `Store.IsAudited.settles_netBalances?`: the sums over the records of an account are exact;
  `Store.IsAudited.settles_reconcile`: they are its balances.
-/
import Teller.Bank.Account
import Teller.Proofs.Store.Movement
import Teller.Proofs.Store.Naming

namespace Teller

open Decimal

/-! ### Sums over records -/

/-- What records add to a wallet. -/
def net (records : List TransactionRecord) (wallet : WalletId) : ℚ :=
  ((records.filter (·.wallet = wallet)).map (·.signedAmount.toRat)).sum

/-- What records credit a wallet with, or debit it by. -/
def total (records : List TransactionRecord) (wallet : WalletId) (direction : Direction) : ℚ :=
  ((records.filter fun r => r.wallet = wallet ∧ r.direction = direction).map (·.amount.toRat)).sum

section Sums

variable {records : List TransactionRecord} {r : TransactionRecord} {wallet : WalletId}

lemma net_nil : net [] wallet = 0 := rfl

lemma net_concat : net (records ++ [r]) wallet
    = net records wallet + if r.wallet = wallet then r.signedAmount.toRat else 0 := by
  rw [net, List.filter_append, List.map_append, List.sum_append, ← net]
  by_cases h : r.wallet = wallet <;> simp [h]

lemma net_concat_self : net (records ++ [r]) r.wallet
    = net records r.wallet + r.signedAmount.toRat := by
  rw [net_concat, if_pos rfl]

lemma net_concat_of_ne (h : wallet ≠ r.wallet) :
    net (records ++ [r]) wallet = net records wallet := by
  rw [net_concat, if_neg h.symm, add_zero]

/-- Records about other wallets add nothing. -/
lemma net_eq_zero (h : ∀ r ∈ records, r.wallet ≠ wallet) : net records wallet = 0 := by
  have hnone : records.filter (·.wallet = wallet) = [] :=
    List.filter_eq_nil_iff.mpr fun r hr => by simpa using h r hr
  rw [net, hnone]
  rfl

/-- What is added is what is credited without what is debited. -/
lemma net_eq_totals (records : List TransactionRecord) (wallet : WalletId) :
    net records wallet = total records wallet .credit - total records wallet .debit := by
  induction records with
  | nil => simp [net, total]
  | cons r records ih =>
      rw [net, total, total] at ih ⊢
      by_cases hw : r.wallet = wallet
      · have hsigned : r.signedAmount = r.direction.signed r.amount := rfl
        cases hd : r.direction <;> rw [hd, Direction.signed] at hsigned
        · simp [hw, hd, hsigned] at ih ⊢
          rw [ih]
          ring
        · simp [hw, hd, hsigned, toRat_neg] at ih ⊢
          rw [ih]
          ring
      · simpa [hw] using ih

end Sums

/-! ### Audits -/

/-- A journal explains balances. -/
structure Audit (names : Names) (sheet : Sheet) (journal : List TransactionRecord) : Prop where
  backed {r : TransactionRecord} : r ∈ journal →
    ∃ key, names key = some r.wallet ∧ key.currency = r.currency
  isCents {r : TransactionRecord} : r ∈ journal → ∃ n, r.signedAmount.IsCents n
  balanced {key : WalletKey} {id : WalletId} {balance : Decimal} : names key = some id →
    sheet key = some balance → balance.toRat = net journal id
  bounded {part : List TransactionRecord} (id : WalletId) : part <+: journal →
    ∃ balance : Decimal, balance.IsBalance ∧ balance.toRat = net part id

namespace Audit

variable {names names' : Names} {sheet sheet' : Sheet} {journal : List TransactionRecord}

lemma empty (names : Names) (hsheet : ∀ key, sheet key = none) : Audit names sheet [] where
  backed := by simp
  isCents := by simp
  balanced _ hbalance := absurd hbalance (by simp [hsheet])
  bounded id h := by
    rw [List.prefix_nil.mp h]
    exact ⟨.zero, isBalance_zero, toRat_zero⟩

/-- A movement that is recorded is explained. -/
theorem record (h : Audit names sheet journal) (hapart : names.Apart) {m : Movement}
    {r : TransactionRecord} (hid : names m.key = some r.wallet)
    (hcurrency : m.key.currency = r.currency) (hsigned : r.signedAmount = m.delta)
    (hp : sheet.IsProper) (ha : m.amount.IsAmount) (hm : m.apply sheet = .ok sheet') :
    Audit names sheet' (journal ++ [r]) := by
  obtain ⟨balance, next, hbalance, hadj, rfl⟩ := Movement.apply_eq_ok hm
  obtain ⟨hnext, -, hsum⟩ := Store.isBalance_of_adjusted (hp hbalance) ha hadj
  have hself : next.toRat = net (journal ++ [r]) r.wallet := by
    rw [net_concat_self, ← h.balanced hid hbalance, hsigned]
    exact hsum
  refine ⟨fun hr => ?_, fun hr => ?_, fun {key id other} hname hother => ?_,
    fun {part} id hpart => ?_⟩
  · rcases List.mem_append.mp hr with hr | hr
    · exact h.backed hr
    · rw [List.mem_singleton.mp hr]
      exact ⟨m.key, hid, hcurrency⟩
  · rcases List.mem_append.mp hr with hr | hr
    · exact h.isCents hr
    · rw [List.mem_singleton.mp hr, hsigned]
      exact ha.signed m.direction
  · -- the record counts for the row that is moved, and for no other: names are apart
    by_cases hkey : key = m.key
    · subst hkey
      rw [Function.update_self] at hother
      obtain rfl := Option.some.inj hother
      obtain rfl := Option.some.inj (hid.symm.trans hname)
      exact hself
    · rw [Function.update_of_ne hkey] at hother
      have hne : id ≠ r.wallet := by
        rintro rfl
        exact hkey (hapart hname hid)
      rw [net_concat_of_ne hne]
      exact h.balanced hname hother
  · -- a beginning of the journal is the whole of it, or one of the journal before
    rcases List.prefix_concat_iff.mp hpart with rfl | hpart
    · by_cases hne : id = r.wallet
      · exact ⟨next, hnext, hne ▸ hself⟩
      · rw [net_concat_of_ne hne]
        exact h.bounded id (List.prefix_refl _)
    · exact h.bounded id hpart

/-- New wallets, with a balance of zero and identifiers of their own, are explained. -/
theorem opened (h : Audit names sheet journal) (hapart : names'.Apart)
    (hold : ∀ ⦃key id⦄, names key = some id → names' key = some id)
    (hnew : ∀ ⦃key id balance⦄, names' key = some id → sheet' key = some balance →
      (names key = some id ∧ sheet key = some balance) ∨ (names key = none ∧ balance = .zero)) :
    Audit names' sheet' journal where
  backed hr := by
    obtain ⟨key, hname, hcurrency⟩ := h.backed hr
    exact ⟨key, hold hname, hcurrency⟩
  isCents hr := h.isCents hr
  balanced {key id balance} hname hbalance := by
    rcases hnew hname hbalance with ⟨hname', hbalance'⟩ | ⟨hnone, rfl⟩
    · exact h.balanced hname' hbalance'
    · -- no record is about a wallet that did not exist
      rw [net_eq_zero fun r hr heq => ?_]
      · exact toRat_zero
      · obtain ⟨key', hname', -⟩ := h.backed hr
        rw [heq] at hname'
        obtain rfl := hapart (hold hname') hname
        simp [hnone] at hname'
  bounded id hpart := h.bounded id hpart

/-- Adding a record to the sum over those before it is exact: before it and after it the sum is some
past balance. -/
lemma settles_sum? (h : Audit names sheet journal) {part : List TransactionRecord}
    {r : TransactionRecord} (hpart : part ++ [r] <+: journal) {sum : Decimal}
    (hsum : sum.toRat = net part r.wallet) :
    ∃ next, Settles (Arithmetic.sum? sum r.signedAmount) (some next) ∧
      next.toRat = sum.toRat + r.signedAmount.toRat := by
  obtain ⟨before, ⟨m, hm, hbefore⟩, hnet⟩ :=
    h.bounded r.wallet ((List.prefix_append part [r]).trans hpart)
  obtain ⟨after, ⟨k, hk, hafter⟩, hnet'⟩ := h.bounded r.wallet hpart
  have hr : r ∈ journal := hpart.subset (by simp)
  obtain ⟨n, hn⟩ := h.isCents hr
  rw [IsCents] at hbefore hafter hn
  have hcurrent : sum.IsCents m := by
    rw [IsCents, hsum, ← hnet]
    exact hbefore
  have hfits : (m : ℤ) + n = k := by
    rw [net_concat_self, ← hnet, hbefore, hn, hafter] at hnet'
    have : ((m + n : ℤ) : ℚ) = (k : ℤ) := by
      push_cast at hnet' ⊢
      linarith
    exact_mod_cast this
  obtain ⟨next, hs, -, hnext⟩ := Teller.settles_sum? hcurrent hn (by omega)
  refine ⟨next, hs, ?_⟩
  rw [IsCents] at hcurrent hnext
  rw [hnext, hcurrent, hn]
  push_cast
  ring

end Audit

/-! ### Reconciliation -/

lemma CurrencyMap.mem_toList {α : Type} {m : CurrencyMap α} {c : Currency} {a : α} :
    (c, a) ∈ m.toList ↔ m.get? c = some a := by
  rw [toList, List.mem_filterMap]
  constructor
  · rintro ⟨c', -, heq⟩
    obtain ⟨a', ha, hpair⟩ := Option.map_eq_some_iff.mp heq
    obtain ⟨rfl, rfl⟩ := Prod.mk.inj hpair
    exact ha
  · intro ha
    exact ⟨c, c.mem_all, by rw [ha, Option.map_some]⟩

lemma netBalances?_concat [Arithmetic] (records : List TransactionRecord) (r : TransactionRecord) :
    netBalances? (records ++ [r]) = (netBalances? records).bind fun sums => addRecord? sums r := by
  rw [netBalances?, List.foldlM_append, ← netBalances?]
  cases netBalances? records with
  | none => rfl
  | some sums =>
      show [r].foldlM addRecord? sums = addRecord? sums r
      rw [List.foldlM_cons]
      cases addRecord? sums r <;> rfl

namespace Store

/-- The journal of a store explains its balances. -/
def IsAudited (s : Store) : Prop := Audit s.names s.sheet s.journal

variable {s : Store} {account : AccountId}

lemma sheet_eq_none_iff {key : WalletKey} : s.sheet key = none ↔ s.names key = none := by
  rw [Store.sheet, Sheet.of, names, Option.map_eq_none_iff, Option.map_eq_none_iff]

/-- Is the record about a wallet of the account? -/
def concerns (s : Store) (account : AccountId) (r : TransactionRecord) : Bool :=
  ((s.walletsOf account).toList.map fun (_, wallet) => wallet.id).contains r.wallet

lemma transactionRecords_eq (s : Store) (account : AccountId) :
    s.transactionRecords account = s.journal.filter (s.concerns account) := rfl

lemma concerns_iff {r : TransactionRecord} :
    s.concerns account r = true ↔ ∃ c, s.names ⟨account, c⟩ = some r.wallet := by
  simp only [concerns, List.contains_iff_mem, List.mem_map, Prod.exists, CurrencyMap.mem_toList,
    walletsOf, CurrencyMap.get?_ofFn, names, Option.map_eq_some_iff]

/-- These are the sums over a part of the journal for the wallets of an account. -/
structure Tallies (s : Store) (account : AccountId) (part : List TransactionRecord)
    (sums : Balances) : Prop where
  sum {c : Currency} {id : WalletId} : s.names ⟨account, c⟩ = some id →
    ((sums.get? c).getD .zero).toRat = net part id
  backed {c : Currency} : s.names ⟨account, c⟩ = none → sums.get? c = none

/-- One more record about the account. -/
lemma Tallies.concat {part : List TransactionRecord} {sums : Balances}
    (h : s.Tallies account part sums) (hapart : s.names.Apart) {r : TransactionRecord}
    (hname : s.names ⟨account, r.currency⟩ = some r.wallet) {sum : Decimal}
    (hsum : sum.toRat = ((sums.get? r.currency).getD .zero).toRat + r.signedAmount.toRat) :
    s.Tallies account (part ++ [r]) (sums.insert r.currency sum) where
  sum {c id} hid := by
    rw [CurrencyMap.get?_insert]
    by_cases hc : c = r.currency
    · subst hc
      obtain rfl := Option.some.inj (hname.symm.trans hid)
      rw [if_pos rfl, Option.getD_some, hsum, h.sum hname, net_concat_self]
    · have hne : id ≠ r.wallet := by
        rintro rfl
        exact hc (congrArg WalletKey.currency (hapart hid hname))
      rw [if_neg hc, h.sum hid, net_concat_of_ne hne]
  backed {c} hnone := by
    rw [CurrencyMap.get?_insert, if_neg]
    · exact h.backed hnone
    · rintro rfl
      simp [hname] at hnone

/-- One more record about another account. -/
lemma Tallies.skip {part : List TransactionRecord} {sums : Balances}
    (h : s.Tallies account part sums) {r : TransactionRecord}
    (hnot : ¬ s.concerns account r = true) : s.Tallies account (part ++ [r]) sums where
  sum {c id} hid := by
    have hne : id ≠ r.wallet := by
      rintro rfl
      exact hnot (concerns_iff.mpr ⟨c, hid⟩)
    rw [h.sum hid, net_concat_of_ne hne]
  backed hnone := h.backed hnone

lemma get?_readBalances (s : Store) (account : AccountId) (c : Currency) :
    (s.readBalances account).get? c = s.sheet ⟨account, c⟩ := by
  rw [readBalances, CurrencyMap.get?_map, walletsOf, CurrencyMap.get?_ofFn]
  rfl

/-- Sums over the whole journal agree with the balances that it explains. -/
lemma Tallies.mismatches_eq {sums : Balances} (htallies : s.Tallies account s.journal sums)
    (h : s.IsAudited) :
    (IntegrityReport.of account (s.readBalances account) sums).mismatches = [] := by
  rw [IntegrityReport.of, List.map_eq_nil_iff, List.append_eq_nil_iff, List.filter_eq_nil_iff,
    List.filter_eq_nil_iff]
  constructor
  · rintro ⟨c, balance⟩ hmem
    rw [CurrencyMap.mem_toList, get?_readBalances] at hmem
    obtain ⟨wallet, hw, rfl⟩ := Option.map_eq_some_iff.mp hmem
    have hname := names_of_get? hw
    have hsame := (htallies.sum hname).trans (h.balanced hname hmem).symm
    simp [sameValue_iff, hsame]
  · rintro ⟨c, sum⟩ hmem
    rw [CurrencyMap.mem_toList] at hmem
    rw [Option.isNone_iff_eq_none, get?_readBalances]
    intro hnone
    have hname := sheet_eq_none_iff.mp hnone
    simp [htallies.backed hname] at hmem

namespace IsAudited

/-- The sums over the records of an account are exact, part for part. -/
theorem settles_netBalances? (h : s.IsAudited) (hapart : s.names.Apart) (account : AccountId)
    {part : List TransactionRecord} (hpart : part <+: s.journal) :
    ∃ sums, Settles (netBalances? (part.filter (s.concerns account))) (some sums) ∧
      s.Tallies account part sums := by
  induction part using List.reverseRecOn with
  | nil =>
      refine ⟨.empty, ⟨fun _ _ => rfl⟩, fun _ => ?_, fun _ => ?_⟩
      · rw [CurrencyMap.get?_empty, net_nil]
        exact toRat_zero
      · exact CurrencyMap.get?_empty _
  | append_singleton part r ih =>
      obtain ⟨sums, hsettles, htallies⟩ := ih ((List.prefix_append _ _).trans hpart)
      rw [List.filter_append]
      by_cases hc : s.concerns account r = true
      · have hr : r ∈ s.journal := hpart.subset (by simp)
        obtain ⟨c, hname⟩ := concerns_iff.mp hc
        obtain ⟨key, hkey, hcurrency⟩ := h.backed hr
        obtain rfl : key = ⟨account, c⟩ := hapart hkey hname
        obtain rfl : c = r.currency := hcurrency
        obtain ⟨sum, hs, hsum⟩ := Audit.settles_sum? h hpart (htallies.sum hname)
        refine ⟨sums.insert r.currency sum, ⟨fun A _ => ?_⟩, htallies.concat hapart hname hsum⟩
        rw [List.filter_cons_of_pos hc, List.filter_nil, netBalances?_concat, hsettles.eq A]
        simp only [Option.bind_some, addRecord?, hs.eq A, Option.map_some]
      · refine ⟨sums, ⟨fun A _ => ?_⟩, htallies.skip hc⟩
        rw [List.filter_cons_of_neg hc, List.filter_nil, List.append_nil, hsettles.eq A]

/-- An account that exists is found in order, by every lawful arithmetic. -/
theorem settles_reconcile (h : s.IsAudited) (hapart : s.names.Apart) {account : AccountId}
    (hexists : (s.readBalances account).isEmpty = false) :
    ∃ report, Settles (s.reconcile account) (.ok report) ∧ report.account = account ∧
      report.balances = s.readBalances account ∧ report.mismatches = [] := by
  obtain ⟨sums, hsettles, htallies⟩ := h.settles_netBalances? hapart account (List.prefix_refl _)
  refine ⟨.of account (s.readBalances account) sums, ⟨fun A _ => ?_⟩, rfl, rfl,
    htallies.mismatches_eq h⟩
  rw [reconcile, transactionRecords_eq, hsettles.eq A]
  simp only [hexists, Bool.false_eq_true, if_false]

end IsAudited

end Store

end Teller
