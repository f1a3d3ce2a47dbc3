/-
What is respected by every operation that neither adjusts a balance, nor hands in a row, nor
commits.

* `Store.IsFrame`: a relation of stores to later ones that does not mind when faults, locks,
  identifiers or new wallets change, nor when what a transaction is about to change is forgotten;
* `IsFrame.begin`, `IsFrame.rollback`, `IsFrame.provision`, `IsFrame.resumeProvision`: so the
  operations respect it that do no more than that.
-/
import Teller.Proofs.Store.Discipline

namespace Teller.Store

/-- The relation holds when only faults, locks, identifiers and new wallets change, and when what a
transaction is about to change is forgotten. -/
structure IsFrame (R : Store → Store → Prop) : Prop where
  trans {s s' s'' : Store} : R s s' → R s' s'' → R s s''
  of_eq {s s' : Store} : s'.wallets = s.wallets → s'.journal = s.journal → s'.outbox = s.outbox →
    s'.transactions = s.transactions → R s s'
  makes (s : Store) (tx : TxId) (provisioned : Table WalletKey WalletId) :
    R s (s.setTransaction tx { s.transaction tx with provisioned })
  opens (s : Store) (tx : TxId) : R s (s.setTransaction tx .fresh)
  discard (s : Store) (tx : TxId) : R s (s.discard tx)

namespace IsFrame

variable {R : Store → Store → Prop} {s s' : Store}

lemma refl (hR : IsFrame R) (s : Store) : R s s := hR.of_eq rfl rfl rfl rfl

lemma strike (hR : IsFrame R) {point : FaultPoint} (h : s.takeFault? point = some s') : R s s' := by
  obtain ⟨-, rfl⟩ := takeFault?_eq_some h
  exact hR.of_eq rfl rfl rfl rfl

/-! ### The beginning and the end of a transaction -/

lemma begin (hR : IsFrame R) (s : Store) : R s s.begin.1 := by
  rw [Store.begin]
  split
  · next h => exact hR.strike h
  · exact hR.trans (hR.opens s ⟨s.begun⟩) (hR.of_eq rfl rfl rfl rfl)

lemma rollback (hR : IsFrame R) (s : Store) (tx : TxId) : R s (s.rollback tx).1 := by
  rw [Store.rollback]
  split
  · next h => exact hR.trans (hR.strike h) (hR.discard _ tx)
  · exact hR.discard s tx

/-! ### New wallets -/

lemma provisionHeld (hR : IsFrame R) (s : Store) (now : Nat) (tx : TxId) (key : WalletKey) :
    R s (s.provisionHeld now tx key).1 := by
  rw [Store.provisionHeld]
  split
  · exact hR.refl s
  · exact hR.trans (hR.makes s tx _) (hR.of_eq rfl rfl rfl rfl)

/-- A wallet is made in one row, and what comes after respects the relation too. -/
lemma provisionRow (hR : IsFrame R) (s : Store) (clock : Clock) (w : ProvisionWait)
    {next : Store → Store × Turn ProvisionWait (Except LedgerError Unit)}
    (hnext : ∀ s, R s (next s).1) : R s (s.provisionRow clock w next).1 := by
  have hheld := hR.provisionHeld s clock.now w.tx w.row.key
  rw [Store.provisionRow]
  split
  · split
    · next heq =>
      rw [heq] at hheld
      exact hheld
    · next heq =>
      rw [heq] at hheld
      exact hR.trans hheld (hnext _)
  · exact hR.refl s
  · exact hR.of_eq rfl rfl rfl rfl

lemma provisionFrom (hR : IsFrame R) (clock : Clock) (tx : TxId) (account : AccountId)
    (rest : List Currency) (s : Store) : R s (Store.provisionFrom clock tx account rest s).1 := by
  induction rest generalizing s with
  | nil => exact hR.refl s
  | cons c rest ih =>
      rw [Store.provisionFrom]
      have hasked : R s (s.requestRow tx ⟨account, c⟩) := hR.of_eq rfl rfl rfl rfl
      exact hR.trans hasked (hR.provisionRow _ clock _ ih)

lemma provision (hR : IsFrame R) (s : Store) (clock : Clock) (tx : TxId) (account : AccountId) :
    R s (s.provision clock tx account).1 :=
  hR.provisionFrom clock tx account Currency.all s

lemma resumeProvision (hR : IsFrame R) (s : Store) (clock : Clock) (w : ProvisionWait) :
    R s (s.resumeProvision clock w).1 :=
  hR.provisionRow s clock w fun s => hR.provisionFrom clock w.tx w.account w.rest s

end IsFrame

end Teller.Store
