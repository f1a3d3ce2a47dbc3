/-
What commits write, those that are stopped included.

* `Store.Writes`: what a commit leaves of the wallets: rows that the transaction does not touch
  stay, its new wallets are added, and every other row keeps its identifier and gets its change or
  not;
* `Store.writes_committedWallets` and `Store.writes_stoppedWallets`: so it is with commits that make
  all changes, and with those that are stopped by one;
* `Store.commit_cases`: a fault strikes and nothing is written, or wallets are written;
* `Orderly.commit`: every commit keeps accounts in order.
-/
import Teller.Proofs.Store.Provisioning

namespace Teller.Store

variable {s s' : Store} {tx other : TxId} {t : Transaction} {key : WalletKey}
  {wallets wallets' : Table WalletKey Wallet} {deltas : List (WalletKey × Decimal)}

/-- What the commit of a transaction leaves of the wallets. -/
structure Writes (wallets : Table WalletKey Wallet) (t : Transaction)
    (wallets' : Table WalletKey Wallet) : Prop where
  kept {key : WalletKey} : ¬ t.Touches key → wallets'.get? key = wallets.get? key
  added {key : WalletKey} : key ∈ t.provisioned.keys → ∃ wallet, wallets'.get? key = some wallet
  none {key : WalletKey} : key ∉ t.provisioned.keys → wallets.get? key = none →
    wallets'.get? key = none
  changed {key : WalletKey} {wallet : Wallet} : key ∉ t.provisioned.keys →
    wallets.get? key = some wallet → ∃ balance, wallets'.get? key = some { wallet with balance } ∧
      (balance = wallet.balance ∨ ∃ delta, t.deltas.get? key = some delta ∧
        Arithmetic.sum? wallet.balance delta = some balance)

/-! ### Changes of balances -/

/-- What has been written of a change of one balance, row by row. -/
lemma get?_writeDelta (entry : WalletKey × Decimal) :
    (key ≠ entry.1 → (writeDelta wallets entry).get? key = wallets.get? key) ∧
    (wallets.get? key = none → (writeDelta wallets entry).get? key = none) ∧
    ∀ wallet, wallets.get? key = some wallet → ∃ balance,
      (writeDelta wallets entry).get? key = some { wallet with balance } ∧
        (balance = wallet.balance ∨
          key = entry.1 ∧ Arithmetic.sum? wallet.balance entry.2 = some balance) := by
  rw [writeDelta]
  split
  · exact ⟨fun _ => rfl, id, fun wallet hw => ⟨_, hw, .inl rfl⟩⟩
  · next row hrow =>
    split
    · exact ⟨fun _ => rfl, id, fun wallet hw => ⟨_, hw, .inl rfl⟩⟩
    · next balance hsum =>
      rw [Table.get?_insert]
      refine ⟨fun hne => if_neg hne.symm, fun hnone => ?_, fun wallet hw => ?_⟩
      · rw [if_neg fun heq => by simp [← heq, hrow] at hnone]
        exact hnone
      · split
        · next heq =>
          obtain rfl := Option.some.inj ((heq ▸ hrow).symm.trans hw)
          exact ⟨balance, rfl, .inr ⟨heq.symm, hsum⟩⟩
        · exact ⟨_, hw, .inl rfl⟩

/-- What has been written of changes of balances, row by row, if there is one change for each. -/
lemma get?_foldl_writeDelta (hnodup : (deltas.map (·.1)).Nodup) :
    (key ∉ deltas.map (·.1) → (deltas.foldl writeDelta wallets).get? key = wallets.get? key) ∧
    (wallets.get? key = none → (deltas.foldl writeDelta wallets).get? key = none) ∧
    ∀ wallet, wallets.get? key = some wallet → ∃ balance,
      (deltas.foldl writeDelta wallets).get? key = some { wallet with balance } ∧
        (balance = wallet.balance ∨ ∃ delta, (key, delta) ∈ deltas ∧
          Arithmetic.sum? wallet.balance delta = some balance) := by
  induction deltas generalizing wallets with
  | nil => exact ⟨fun _ => rfl, id, fun wallet hw => ⟨_, hw, .inl rfl⟩⟩
  | cons entry deltas ih =>
      rw [List.map_cons, List.nodup_cons] at hnodup
      obtain ⟨hkept, hnone, hchanged⟩ := @get?_writeDelta key wallets entry
      obtain ⟨hkept', hnone', hchanged'⟩ := @ih (writeDelta wallets entry) hnodup.2
      rw [List.foldl_cons]
      refine ⟨fun hk => ?_, fun hw => hnone' (hnone hw), fun wallet hw => ?_⟩
      · rw [List.map_cons, List.mem_cons, not_or] at hk
        rw [hkept' hk.2, hkept hk.1]
      · obtain ⟨balance, hw', hbalance⟩ := hchanged wallet hw
        rcases hbalance with rfl | ⟨rfl, hsum⟩
        · obtain ⟨balance, hw'', hbalance⟩ := hchanged' _ hw'
          refine ⟨balance, hw'', hbalance.imp_right ?_⟩
          rintro ⟨delta, hmem, hsum⟩
          exact ⟨delta, List.mem_cons_of_mem _ hmem, hsum⟩
        · -- this is the only change of the row
          rw [hkept' hnodup.1]
          exact ⟨balance, hw', .inr ⟨entry.2, List.mem_cons_self, hsum⟩⟩

/-- Changes that are all made have been written one after the other. -/
lemma eq_foldl_writeDelta (h : deltas.foldlM addDelta wallets = .ok wallets') :
    wallets' = deltas.foldl writeDelta wallets := by
  induction deltas generalizing wallets with
  | nil => exact (Except.ok.inj h).symm
  | cons entry deltas ih =>
      rw [List.foldlM_cons] at h
      cases hd : addDelta wallets entry with
      | error f => simp [hd, bind, Except.bind] at h
      | ok mid =>
          rw [hd] at h
          have hmid : mid = writeDelta wallets entry := by
            rw [addDelta] at hd
            rw [writeDelta]
            split at hd
            · next hw => simpa [hw] using (Except.ok.inj hd).symm
            · next hw =>
              split at hd
              · simp at hd
              · next hsum =>
                split at hd
                · simp at hd
                · simpa [hw, hsum] using (Except.ok.inj hd).symm
          rw [List.foldl_cons, ← hmid]
          exact ih h

/-- Changes up to one that stops the commit have been written one after the other. -/
lemma exists_writeUntilStopped_eq (deltas : List (WalletKey × Decimal))
    (wallets : Table WalletKey Wallet) :
    ∃ n, writeUntilStopped deltas wallets = (deltas.take n).foldl writeDelta wallets := by
  induction deltas generalizing wallets with
  | nil => exact ⟨0, rfl⟩
  | cons entry deltas ih =>
      rw [writeUntilStopped]
      cases hd : addDelta wallets entry with
      | error f => exact ⟨1, by simp⟩
      | ok mid =>
          have hmid : [entry].foldlM addDelta wallets = .ok mid := by
            rw [List.foldlM_cons, hd]
            rfl
          obtain ⟨n, hn⟩ := ih mid
          refine ⟨n + 1, ?_⟩
          rw [List.take_succ_cons, List.foldl_cons]
          exact hn.trans (by rw [eq_foldl_writeDelta hmid]; rfl)

/-! ### Commits -/

/-- New wallets and some of the changes have been written. -/
lemma writes_take (hnodup : t.deltas.keys.Nodup) (wallets : Table WalletKey Wallet) (n : Nat) :
    Writes wallets t ((t.deltas.toList.take n).foldl writeDelta
      (t.provisioned.toList.foldl addWallet wallets)) := by
  have hsub : ((t.deltas.toList.take n).map (·.1)).Sublist t.deltas.keys :=
    (List.take_sublist ..).map _
  have hw := fun {key} => @get?_foldl_writeDelta key
    (t.provisioned.toList.foldl addWallet wallets) _ (hnodup.sublist hsub)
  have hnew := fun {key} => @get?_addWallets wallets key t.provisioned.toList
  refine ⟨fun hk => ?_, fun hk => ?_, fun hk hnone => ?_, fun {key wallet} hk hrow => ?_⟩
  · rw [Transaction.Touches, not_or] at hk
    rw [hw.1 fun hmem => hk.1 (hsub.subset hmem), hnew.1 hk.2]
  · obtain ⟨id, -, hrow⟩ := hnew.2 hk
    obtain ⟨balance, hrow', -⟩ := hw.2.2 _ hrow
    exact ⟨_, hrow'⟩
  · exact hw.2.1 ((hnew.1 hk).trans hnone)
  · obtain ⟨balance, hrow', hbalance⟩ := hw.2.2 wallet ((hnew.1 hk).trans hrow)
    refine ⟨balance, hrow', hbalance.imp_right ?_⟩
    rintro ⟨delta, hmem, hsum⟩
    exact ⟨delta, Table.get?_of_mem_entries hnodup (List.mem_of_mem_take hmem), hsum⟩

lemma writes_committedWallets (hnodup : t.deltas.keys.Nodup)
    (h : committedWallets wallets t = .ok wallets') : Writes wallets t wallets' := by
  rw [eq_foldl_writeDelta h, ← List.take_length (l := t.deltas.toList)]
  exact writes_take hnodup wallets _

lemma writes_stoppedWallets (hnodup : t.deltas.keys.Nodup) (wallets : Table WalletKey Wallet) :
    Writes wallets t (stoppedWallets wallets t) := by
  obtain ⟨n, hn⟩ := exists_writeUntilStopped_eq t.deltas.toList
    (t.provisioned.toList.foldl addWallet wallets)
  rw [stoppedWallets, hn]
  exact writes_take hnodup wallets n

/-- The store after a transaction has ended that has written wallets, records and events. -/
def closed (s : Store) (tx : TxId) (wallets : Table WalletKey Wallet)
    (records : List TransactionRecord) (events : List OutboxEvent) : Store :=
  { s.discard tx with
    wallets
    journal := s.journal ++ records
    outbox := s.outbox ++ events.map fun event => ⟨event, false⟩ }

/-- A fault strikes a commit, or all is written, or the commit is stopped after it has written some
wallets. -/
lemma commit_cases (ht : s.transactions.get? tx = some t) (hnodup : t.deltas.keys.Nodup) :
    (∃ s', s.takeFault? .commit = some s' ∧ (s.commit tx).1 = s'.discard tx) ∨
    s.takeFault? .commit = none ∧ ∃ wallets, Writes s.wallets t wallets ∧
      (((s.commit tx).2.isOk = true ∧ (s.commit tx).1 = s.closed tx wallets t.records t.events) ∨
        ((s.commit tx).2.isOk = false ∧ (s.commit tx).1 = s.closed tx wallets [] [])) := by
  rw [commit]
  cases hf : s.takeFault? .commit with
  | some struck => exact .inl ⟨struck, rfl, rfl⟩
  | none =>
      refine .inr ⟨rfl, ?_⟩
      rw [transaction, ht, Option.getD_some]
      cases hw : committedWallets s.wallets t with
      | ok wallets =>
          refine ⟨wallets, writes_committedWallets hnodup hw, .inl ?_⟩
          simp only [hw]
          exact ⟨rfl, rfl⟩
      | error f =>
          refine ⟨_, writes_stoppedWallets hnodup s.wallets, .inr ?_⟩
          simp only [hw]
          exact ⟨rfl, by simp [closed, discard]⟩

/-- The transaction that ends leaves to the others what they hold: it touches no row of theirs. -/
lemma Leaves.closed (hs : s.Disciplined) (ht : s.transactions.get? tx = some t)
    (hw : Writes s.wallets t wallets) (records : List TransactionRecord)
    (events : List OutboxEvent) : Leaves tx s (s.closed tx wallets records events) := by
  have hdiscard : Leaves tx s (s.discard tx) := .of_act hs .discard
  have hrow : ∀ {other key}, tx ≠ other → (s.lock key).holder = some other →
      wallets.get? key = s.wallets.get? key := by
    intro other key hne hother
    refine hw.kept fun htouch => hne ?_
    exact Option.some.inj ((hs.holder ht htouch).symm.trans hother)
  constructor
  case disciplined =>
    obtain ⟨hknows, hserial, hholder, hnoRow⟩ := hdiscard.disciplined
    refine ⟨hknows, hserial, hholder, fun {tx' t' key} ht' hk => ?_⟩
    have hne := (isOpen_discard.mp ⟨_, ht'⟩).1
    have hcontent := (hdiscard.later hne).content.symm.trans ht'
    exact (hrow hne (hs.holder hcontent (.inr hk))).trans (hnoRow ht' hk)
  case later =>
    intro other hne
    obtain ⟨hcontent, hholder, -, -⟩ := hdiscard.later hne
    refine ⟨hcontent, hholder, hrow hne, fun {key id} hid => ?_⟩
    obtain ⟨wallet, hwallet, rfl⟩ := Option.map_eq_some_iff.mp hid
    have hnot : key ∉ t.provisioned.keys := fun hk => by
      simp [hs.noRow ht hk] at hwallet
    obtain ⟨balance, hwallet', -⟩ := hw.changed hnot hwallet
    exact Option.map_eq_some_iff.mpr ⟨_, hwallet', rfl⟩
  case knows => exact fun hne hk => hdiscard.knows hne hk

/-- A transaction that ends keeps accounts in order: it makes the wallets of whole accounts. -/
lemma Orderly.closed (hs : s.Orderly) (ht : s.transactions.get? tx = some t)
    (hw : Writes s.wallets t wallets) (records : List TransactionRecord)
    (events : List OutboxEvent) : (s.closed tx wallets records events).Orderly := by
  have hrow : ∀ key, (s.closed tx wallets records events).HasRow key ↔
      s.HasRow key ∨ key ∈ t.provisioned.keys := by
    intro key
    by_cases hk : key ∈ t.provisioned.keys
    · exact iff_of_true (hw.added hk) (.inr hk)
    · constructor
      · intro hnew
        by_contra hnot
        rw [not_or, not_hasRow_iff] at hnot
        obtain ⟨wallet, hwallet⟩ := hnew
        exact absurd (hwallet.symm.trans (hw.none hk hnot.1)) (by simp)
      · rintro (⟨wallet, hwallet⟩ | hk')
        · obtain ⟨balance, hwallet', -⟩ := hw.changed hk hwallet
          exact ⟨_, hwallet'⟩
        · exact absurd hk' hk
  refine hs.of_leaves (.closed hs.disciplined ht hw records events) (fun key => ?_)
    (fun t' ht' => ?_) fun key hk => ?_
  · rw [hrow, hrow, hs.rows key, (hs.isWhole ht).provisioned key]
  · have hnone : (s.discard tx).transactions.get? tx = some t' := ht'
    rw [get?_discard, if_pos rfl] at hnone
    exact absurd hnone (by simp)
  · have hknows : ((s.discard tx).lock key).Knows tx := hk
    rw [lock_discard] at hknows
    exact absurd rfl (RowLock.knows_of_leave hknows).2

end Teller.Store
