/-
Transactions that make the wallets of a new account.

* `Sheet.opened`: the balances after the opening of an account, or why it is refused;
* `Store.Opened`: an open transaction has made wallets in some currencies and no other change;
* `Store.Provisioned`: what a turn of a provisioning comes to; `During.provision` and
  `During.resumeProvision` say that every turn comes to one of these;
* `Opened.commits`: the commit adds a balance of zero in every currency.
-/
import Teller.Proofs.Store.During

namespace Teller

open Decimal

/-- The balances after the opening of an account that has no wallet yet. -/
def Sheet.opened (sheet : Sheet) (account : AccountId) : Except LedgerError Sheet :=
  if Currency.all.any fun c => (sheet ⟨account, c⟩).isSome then
    .error (.walletsAlreadyProvisioned account)
  else .ok fun key => if key.account = account then some .zero else sheet key

lemma Sheet.opened_eq_ok {sheet sheet' : Sheet} {account : AccountId}
    (h : sheet.opened account = .ok sheet') : (∀ c, sheet ⟨account, c⟩ = none) ∧
      ∀ key, sheet' key = if key.account = account then some .zero else sheet key := by
  rw [opened] at h
  split at h
  · simp at h
  · next hnone =>
    obtain rfl := Except.ok.inj h
    simp only [List.any_eq_true, not_exists, not_and, Option.isSome_iff_ne_none, not_not] at hnone
    exact ⟨fun c => hnone c c.mem_all, fun _ => rfl⟩

namespace Store

/-- An open transaction has made wallets of an account in these currencies. -/
structure Opened (s : Store) (tx : TxId) (t : Transaction) (account : AccountId)
    (done : List Currency) : Prop where
  content : s.transactions.get? tx = some t
  deltas : t.deltas = .empty
  records : t.records = []
  events : t.events = []
  keys : t.provisioned.keys = done.map fun c => ⟨account, c⟩

variable {alone : Prop} {tx : TxId} {s₀ s s' : Store} {t : Transaction} {account : AccountId}
  {done : List Currency}

/-- What a turn of a provisioning comes to. -/
inductive Provisioned (alone : Prop) (tx : TxId) (s₀ : Store) (account : AccountId) :
    Store → Turn ProvisionWait (Except LedgerError Unit) → Prop where
  /-- Somebody else holds the next row. -/
  | waits {s : Store} {t : Transaction} {done : List Currency} {w : ProvisionWait}
      (hd : During alone tx s₀ s) (ho : s.Opened tx t account done) (htx : w.tx = tx)
      (haccount : w.account = account) (hall : done ++ w.currency :: w.rest = Currency.all)
      (hnot : ¬ alone) : Provisioned alone tx s₀ account s (.waiting w)
  /-- Somebody else has held the next row for too long. -/
  | troubled {s : Store} {e : LedgerError} (hd : During alone tx s₀ s) (he : e.isTrouble)
      (hnot : ¬ alone) : Provisioned alone tx s₀ account s (.done (.error e))
  | refused {s : Store} {e : LedgerError} (hd : During alone tx s₀ s)
      (he : s₀.sheet.opened account = .error e) :
      Provisioned alone tx s₀ account s (.done (.error e))
  | opens {s : Store} {t : Transaction} (hd : During alone tx s₀ s)
      (ho : s.Opened tx t account Currency.all) :
      Provisioned alone tx s₀ account s (.done (.ok ()))

namespace Opened

/-- A transaction that has just begun. -/
lemma fresh (account : AccountId) (ht : s.transactions.get? tx = some .fresh) :
    s.Opened tx .fresh account [] :=
  ⟨ht, rfl, rfl, rfl, rfl⟩

lemma later (h : s.Opened tx t account done) (hl : Later tx s s') : s'.Opened tx t account done :=
  ⟨hl.content.trans h.content, h.deltas, h.records, h.events, h.keys⟩

lemma mem_keys_iff (h : s.Opened tx t account done) {key : WalletKey} :
    key ∈ t.provisioned.keys ↔ key.account = account ∧ key.currency ∈ done := by
  obtain ⟨other, currency⟩ := key
  simp only [h.keys, List.mem_map, WalletKey.mk.injEq]
  constructor
  · rintro ⟨c, hc, rfl, rfl⟩
    exact ⟨rfl, hc⟩
  · rintro ⟨rfl, hc⟩
    exact ⟨currency, hc, rfl, rfl⟩

/-- A transaction finds a wallet in a further currency only if it has been committed. -/
lemma walletId?_eq (h : s.Opened tx t account done) {c : Currency} (hc : c ∉ done) :
    s.walletId? tx ⟨account, c⟩ = (s.wallets.get? ⟨account, c⟩).map (·.id) := by
  have hnone : t.provisioned.get? ⟨account, c⟩ = none :=
    Table.get?_eq_none_iff.mpr fun hk => hc (h.mem_keys_iff.mp hk).2
  rw [walletId?, transaction, h.content, Option.getD_some, hnone, Option.none_or]

/-- A wallet is made in one more currency. -/
lemma provision (h : s.Opened tx t account done) {c : Currency} (hc : c ∉ done) (id : WalletId)
    (ids : IdSupply) :
    { s.setTransaction tx { t with provisioned := t.provisioned.insert ⟨account, c⟩ id } with
      ids }.Opened tx { t with provisioned := t.provisioned.insert ⟨account, c⟩ id } account
        (done ++ [c]) where
  content := get?_setTransaction.trans (if_pos rfl)
  deltas := h.deltas
  records := h.records
  events := h.events
  keys := by
    have hnot : (⟨account, c⟩ : WalletKey) ∉ t.provisioned.keys :=
      fun hk => hc (h.mem_keys_iff.mp hk).2
    rw [Table.keys, Table.entries_insert hnot, List.map_append, ← Table.keys, h.keys,
      List.map_append]
    rfl

/-- The commit adds a balance of zero in every currency. -/
theorem commits (h : s.Opened tx t account Currency.all) (hs : s.Disciplined) :
    ∃ sheet, s.sheet.opened account = .ok sheet ∧ s.Commits t sheet := by
  have hkey : ∀ c, (⟨account, c⟩ : WalletKey) ∈ t.provisioned.keys :=
    fun c => h.mem_keys_iff.mpr ⟨rfl, c.mem_all⟩
  have hnoRow : ∀ c, s.sheet ⟨account, c⟩ = none := by
    intro c
    rw [Store.sheet, Sheet.of, hs.noRow h.content (hkey c)]
    rfl
  refine ⟨_, if_neg (by simp [hnoRow]), t.provisioned.toList.foldl addWallet s.wallets,
    ⟨fun A _ => ?_⟩, ?_, fun key id hid => ?_⟩
  · rw [committedWallets, h.deltas]
    rfl
  · funext key
    obtain ⟨other, c⟩ := key
    by_cases hother : other = account
    · subst hother
      obtain ⟨id, -, hrow⟩ := (@get?_addWallets s.wallets _ t.provisioned.entries).2 (hkey c)
      rw [if_pos rfl, Sheet.of, Table.toList, hrow]
      rfl
    · have hnot : (⟨other, c⟩ : WalletKey) ∉ t.provisioned.keys :=
        fun hk => hother (h.mem_keys_iff.mp hk).1
      rw [if_neg hother, Sheet.of, Table.toList,
        (@get?_addWallets s.wallets _ t.provisioned.entries).1 hnot]
      rfl
  · by_cases hk : key ∈ t.provisioned.keys
    · simp [hs.noRow h.content hk] at hid
    · rw [Table.toList, (@get?_addWallets s.wallets _ t.provisioned.entries).1 hk]
      exact hid

end Opened

lemma not_mem_of_append_eq_all {c : Currency} {rest : List Currency}
    (hall : done ++ c :: rest = Currency.all) : c ∉ done := by
  have hnodup : (done ++ c :: rest).Nodup := by rw [hall]; decide
  intro hc
  exact (List.nodup_append.mp hnodup).2.2 c hc c List.mem_cons_self rfl

namespace During

/-- A wallet is made in a row that the transaction holds, or there is one already. -/
lemma provisionHeld (h : During alone tx s₀ s) {c : Currency} (ho : s.Opened tx t account done)
    (hc : c ∉ done) (hheld : (s.lock ⟨account, c⟩).holder = some tx) (now : Nat) :
    (s.provisionHeld now tx ⟨account, c⟩ = (s, .error (.walletsAlreadyProvisioned account)) ∧
      s₀.sheet.opened account = .error (.walletsAlreadyProvisioned account)) ∨
    ∃ s' t', s.provisionHeld now tx ⟨account, c⟩ = (s', .ok ()) ∧ During alone tx s₀ s' ∧
      s'.Opened tx t' account (done ++ [c]) := by
  have hid := ho.walletId?_eq hc
  rw [Store.provisionHeld]
  cases hrow : s.wallets.get? ⟨account, c⟩ with
  | some wallet =>
      rw [hrow] at hid
      refine .inl ⟨by rw [hid]; rfl, if_pos ?_⟩
      rw [List.any_eq_true]
      refine ⟨c, c.mem_all, ?_⟩
      rw [← h.sheet_eq, Store.sheet, Sheet.of, hrow]
      rfl
  | none =>
      rw [hrow] at hid
      have htx : s.transaction tx = t := by rw [transaction, ho.content, Option.getD_some]
      refine .inr ⟨_, _, by rw [hid, htx]; rfl, ?_, ho.provision hc _ _⟩
      exact h.act (.provision ⟨account, c⟩ now ho.content hheld hid) rfl rfl rfl

/-- A turn at a row, if what comes after it is in order. -/
lemma provisionRow (h : During alone tx s₀ s) (ho : s.Opened tx t account done) {clock : Clock}
    {w : ProvisionWait} (htx : w.tx = tx) (haccount : w.account = account)
    (hall : done ++ w.currency :: w.rest = Currency.all)
    (halone : alone → (s.lock ⟨account, w.currency⟩).holder = some tx)
    {next : Store → Store × Turn ProvisionWait (Except LedgerError Unit)}
    (hnext : ∀ s' t', During alone tx s₀ s' → s'.Opened tx t' account (done ++ [w.currency]) →
      ∃ s'' turn, next s' = (s'', turn) ∧ Provisioned alone tx s₀ account s'' turn) :
    ∃ s'' turn, s.provisionRow clock w next = (s'', turn) ∧
      Provisioned alone tx s₀ account s'' turn := by
  obtain ⟨_, _, c, rest, giveUpAt⟩ := w
  obtain rfl := htx.symm
  obtain rfl := haccount.symm
  have hc := not_mem_of_append_eq_all hall
  rw [Store.provisionRow]
  by_cases hheld : (s.lock ⟨account, c⟩).holder = some tx
  · have hlook : s.lookRow clock (ProvisionWait.row ⟨tx, account, c, rest, giveUpAt⟩) = .granted :=
      lookRow_of_holder hheld
    rw [hlook]
    rcases h.provisionHeld ho hc hheld clock.now with ⟨heq, herror⟩ | ⟨s', t', heq, h', ho'⟩
    · exact ⟨s, _, by simp only [ProvisionWait.row, heq], .refused h herror⟩
    · simp only [ProvisionWait.row, heq]
      exact hnext s' t' h' ho'
  · have hnot : ¬ alone := fun hq => hheld (halone hq)
    rcases lookRow_of_holder_ne clock
      (w := ProvisionWait.row ⟨tx, account, c, rest, giveUpAt⟩) hheld with hlook | hlook
    · exact ⟨s, _, by rw [hlook], .waits h ho rfl rfl hall hnot⟩
    · exact ⟨s.leaveRow tx ⟨account, c⟩, .done (.error (rowWaitError ⟨account, c⟩)),
        by rw [hlook]; rfl, .troubled (h.act (.leave _ hheld) rfl rfl rfl) rfl hnot⟩

/-- A provisioning from a currency on. -/
lemma provisionFrom (h : During alone tx s₀ s) (ho : s.Opened tx t account done) (clock : Clock)
    {rest : List Currency} (hall : done ++ rest = Currency.all) :
    ∃ s' turn, Store.provisionFrom clock tx account rest s = (s', turn) ∧
      Provisioned alone tx s₀ account s' turn := by
  induction rest generalizing s t done with
  | nil =>
      rw [List.append_nil] at hall
      exact ⟨s, _, rfl, .opens h (hall ▸ ho)⟩
  | cons c rest ih =>
      rw [Store.provisionFrom]
      have hasked : Act tx s (s.requestRow tx ⟨account, c⟩) := .request _ ⟨_, ho.content⟩
      refine (h.act hasked rfl rfl rfl).provisionRow
        ⟨ho.content, ho.deltas, ho.records, ho.events, ho.keys⟩ rfl rfl hall
        (fun hq => (h.alone hq).holder_request h.disciplined _) fun s' t' h' ho' => ?_
      exact ih h' ho' (by rw [List.append_assoc]; exact hall)

/-- A provisioning from its start. -/
lemma provision (h : During alone tx s₀ s) (ht : s.transactions.get? tx = some .fresh)
    (clock : Clock) (account : AccountId) :
    ∃ s' turn, s.provision clock tx account = (s', turn) ∧
      Provisioned alone tx s₀ account s' turn :=
  h.provisionFrom (.fresh account ht) clock rfl

/-- A provisioning that has waited for a row. -/
lemma resumeProvision (h : During alone tx s₀ s) (ho : s.Opened tx t account done) (clock : Clock)
    {w : ProvisionWait} (htx : w.tx = tx) (haccount : w.account = account)
    (hall : done ++ w.currency :: w.rest = Currency.all) (hnot : ¬ alone) :
    ∃ s' turn, s.resumeProvision clock w = (s', turn) ∧
      Provisioned alone tx s₀ account s' turn := by
  refine h.provisionRow ho htx haccount hall (fun hq => absurd hq hnot) fun s' t' h' ho' => ?_
  rw [htx, haccount]
  exact h'.provisionFrom ho' clock (by rw [List.append_assoc]; exact hall)

end During

end Store

end Teller
