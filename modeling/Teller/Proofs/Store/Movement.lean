/-
Movements of balances, and transactions that are made of them.

* `Movement`: an amount that is to be credited to a row or debited from it; `Movement.apply` says
  what that does to the balances of all rows, or why it is refused;
* `Sheet.IsProper`: all balances are in range, which movements keep (`Sheet.IsProper.moves`);
* `Store.Moved`: an open transaction is about to make these movements and no other change;
  `Moved.settles_visibleBalance?`: the balances that it sees are those after the movements;
* `Moved.commits`: its commit leaves those balances, whatever the arithmetic.
-/
import Teller.Proofs.Store.Discipline
import Teller.Proofs.Store.Sum

namespace Teller

open Decimal

/-- The balances of all rows. -/
abbrev Sheet := WalletKey → Option Decimal

/-- The balances in a table of wallets. -/
def Sheet.of (wallets : Table WalletKey Wallet) : Sheet :=
  fun key => (wallets.get? key).map (·.balance)

/-- The committed balances. -/
def Store.sheet (s : Store) : Sheet := .of s.wallets

lemma Store.sheet_of_get? {s : Store} {key : WalletKey} {wallet : Wallet}
    (h : s.wallets.get? key = some wallet) : s.sheet key = some wallet.balance := by
  rw [Store.sheet, Sheet.of, h, Option.map_some]

/-- All balances are in range. -/
def Sheet.IsProper (sheet : Sheet) : Prop :=
  ∀ ⦃key balance⦄, sheet key = some balance → balance.IsBalance

/-- An amount that is to be credited to a row or debited from it. -/
structure Movement where
  key : WalletKey
  amount : Decimal
  direction : Direction

namespace Movement

/-- What the movement adds to the balance of its row. -/
def delta (m : Movement) : Decimal := m.direction.signed m.amount

/-- What the movement adds, at its row. -/
def entry (m : Movement) : WalletKey × Decimal := (m.key, m.delta)

/-- The balance that the movement leaves in its row, or why it is refused. -/
def verdict (m : Movement) : Option Decimal → Except LedgerError Decimal
  | none => .error (.walletNotFound m.key.account m.key.currency)
  | some balance => Store.adjusted m.key.currency balance m.amount m.direction

/-- The balances that the movement leaves, or why it is refused. -/
def apply (sheet : Sheet) (m : Movement) : Except LedgerError Sheet :=
  (m.verdict (sheet m.key)).map fun next => Function.update sheet m.key (some next)

/-- The change that a transaction is asked for. -/
def adjustment (m : Movement) (tx : TxId) : Adjustment := ⟨tx, m.key, m.amount, m.direction⟩

variable {m : Movement} {ms : List Movement} {sheet sheet' : Sheet} {balance next : Decimal}

lemma apply_eq_ok (h : m.apply sheet = .ok sheet') : ∃ balance next, sheet m.key = some balance ∧
    Store.adjusted m.key.currency balance m.amount m.direction = .ok next ∧
      sheet' = Function.update sheet m.key (some next) := by
  rw [apply] at h
  cases hb : sheet m.key with
  | none => simp [hb, verdict, Except.map] at h
  | some balance =>
      cases ha : Store.adjusted m.key.currency balance m.amount m.direction with
      | error e => simp [hb, verdict, ha, Except.map] at h
      | ok next =>
          refine ⟨balance, next, rfl, ha, ?_⟩
          simpa [hb, verdict, ha, Except.map] using h.symm

lemma apply_of_adjusted (hb : sheet m.key = some balance)
    (ha : Store.adjusted m.key.currency balance m.amount m.direction = .ok next) :
    m.apply sheet = .ok (Function.update sheet m.key (some next)) := by
  simp [apply, hb, verdict, ha, Except.map]

/-- A movement changes no other row. -/
lemma apply_of_ne {key : WalletKey} (h : m.apply sheet = .ok sheet') (hne : key ≠ m.key) :
    sheet' key = sheet key := by
  obtain ⟨balance, next, -, -, rfl⟩ := apply_eq_ok h
  exact Function.update_of_ne hne _ _

lemma foldlM_apply_cons (h : (m :: ms).foldlM apply sheet = .ok sheet') :
    ∃ mid, m.apply sheet = .ok mid ∧ ms.foldlM apply mid = .ok sheet' := by
  rw [List.foldlM_cons] at h
  cases hm : m.apply sheet with
  | error e => simp [hm, bind, Except.bind] at h
  | ok mid => exact ⟨mid, rfl, by simpa [hm, bind, Except.bind] using h⟩

/-- One movement on its own. -/
lemma foldlM_apply_one (m : Movement) (sheet : Sheet) : [m].foldlM apply sheet = m.apply sheet := by
  rw [List.foldlM_cons]
  exact bind_pure _

lemma foldlM_apply_singleton (h : [m].foldlM apply sheet = .ok sheet') :
    m.apply sheet = .ok sheet' :=
  (foldlM_apply_one m sheet).symm.trans h

lemma foldlM_apply_pair {m' : Movement} (h : [m, m'].foldlM apply sheet = .ok sheet') :
    ∃ mid, m.apply sheet = .ok mid ∧ m'.apply mid = .ok sheet' := by
  obtain ⟨mid, hm, hrest⟩ := foldlM_apply_cons h
  exact ⟨mid, hm, foldlM_apply_singleton hrest⟩

lemma foldlM_apply_concat (h : ms.foldlM apply sheet = .ok sheet') :
    (ms ++ [m]).foldlM apply sheet = m.apply sheet' := by
  rw [List.foldlM_append, h]
  exact foldlM_apply_one m sheet'

/-- Movements change the rows that they name, each by what it is alone, and no other. -/
lemma of_foldlM_apply (hnodup : (ms.map (·.key)).Nodup) (h : ms.foldlM apply sheet = .ok sheet') :
    (∀ m ∈ ms, ∃ balance next, sheet m.key = some balance ∧
      Store.adjusted m.key.currency balance m.amount m.direction = .ok next ∧
        sheet' m.key = some next) ∧
      ∀ key ∉ ms.map (·.key), sheet' key = sheet key := by
  induction ms generalizing sheet with
  | nil =>
      obtain rfl := Except.ok.inj h
      simp
  | cons m ms ih =>
      obtain ⟨mid, hm, hms⟩ := foldlM_apply_cons h
      obtain ⟨balance, next, hb, ha, rfl⟩ := apply_eq_ok hm
      rw [List.map_cons, List.nodup_cons] at hnodup
      obtain ⟨hmem, hother⟩ := ih hnodup.2 hms
      constructor
      · intro m' hm'
        rcases List.mem_cons.mp hm' with rfl | hm'
        · exact ⟨balance, next, hb, ha, by rw [hother _ hnodup.1, Function.update_self]⟩
        · have hne : m'.key ≠ m.key :=
            fun heq => hnodup.1 (heq ▸ List.mem_map_of_mem hm')
          obtain ⟨balance', next', hb', ha', hnext⟩ := hmem m' hm'
          rw [Function.update_of_ne hne] at hb'
          exact ⟨balance', next', hb', ha', hnext⟩
      · intro key hkey
        rw [List.map_cons, List.mem_cons, not_or] at hkey
        rw [hother key hkey.2, Function.update_of_ne hkey.1]

/-- Movements of different rows are possible together if each of them is. -/
lemma exists_foldlM_apply (hnodup : (ms.map (·.key)).Nodup)
    (h : ∀ m ∈ ms, ∃ balance next, sheet m.key = some balance ∧
      Store.adjusted m.key.currency balance m.amount m.direction = .ok next) :
    ∃ sheet', ms.foldlM apply sheet = .ok sheet' := by
  induction ms generalizing sheet with
  | nil => exact ⟨sheet, rfl⟩
  | cons m ms ih =>
      rw [List.map_cons, List.nodup_cons] at hnodup
      rw [List.forall_mem_cons] at h
      obtain ⟨⟨balance, next, hb, ha⟩, hms⟩ := h
      have hm := apply_of_adjusted hb ha
      have hrest : ∀ m' ∈ ms, ∃ balance' next',
          Function.update sheet m.key (some next) m'.key = some balance' ∧
            Store.adjusted m'.key.currency balance' m'.amount m'.direction = .ok next' := by
        intro m' hm'
        have hne : m'.key ≠ m.key := fun heq => hnodup.1 (heq ▸ List.mem_map_of_mem hm')
        rw [Function.update_of_ne hne]
        exact hms m' hm'
      obtain ⟨sheet', hsheet'⟩ := ih hnodup.2 hrest
      refine ⟨sheet', ?_⟩
      rw [List.foldlM_cons, hm]
      exact hsheet'

end Movement

/-- Movements of amounts keep all balances in range. -/
lemma Sheet.IsProper.apply {sheet sheet' : Sheet} {m : Movement} (hs : sheet.IsProper)
    (ha : m.amount.IsAmount) (h : m.apply sheet = .ok sheet') : sheet'.IsProper := by
  obtain ⟨balance, next, hb, hadj, rfl⟩ := Movement.apply_eq_ok h
  intro key other hother
  rw [Function.update_apply] at hother
  split at hother
  · obtain rfl := Option.some.inj hother
    exact (Store.isBalance_of_adjusted (hs hb) ha hadj).1
  · exact hs hother

lemma Sheet.IsProper.moves {sheet sheet' : Sheet} {ms : List Movement} (hs : sheet.IsProper)
    (ha : ∀ m ∈ ms, m.amount.IsAmount) (h : ms.foldlM Movement.apply sheet = .ok sheet') :
    sheet'.IsProper := by
  induction ms generalizing sheet with
  | nil => exact Except.ok.inj h ▸ hs
  | cons m ms ih =>
      obtain ⟨mid, hm, hms⟩ := Movement.foldlM_apply_cons h
      rw [List.forall_mem_cons] at ha
      exact ih (hs.apply ha.1 hm) ha.2 hms

namespace Store

/-- The balances of an account settle once those of all its rows do. -/
lemma settles_visibleBalances?_of_rows {s : Store} {tx : TxId} {account : AccountId}
    {seen : Currency → Option Decimal}
    (h : ∀ c, Settles (s.visibleBalance? tx ⟨account, c⟩) (some (seen c))) :
    Settles (s.visibleBalances? tx account) (some (.ofFn seen)) := by
  refine ⟨fun A _ => ?_⟩
  rw [visibleBalances?, (h .usd).eq A, (h .eur).eq A, (h .rub).eq A]
  rfl

/-! ### Transactions made of movements -/

/-- An open transaction is about to make these movements, after which it sees these balances. -/
structure Moved (s : Store) (tx : TxId) (t : Transaction) (ms : List Movement) (sheet : Sheet) :
    Prop where
  content : s.transactions.get? tx = some t
  deltas : t.deltas.entries = ms.map Movement.entry
  provisioned : t.provisioned = .empty
  nodup : (ms.map (·.key)).Nodup
  isAmount : ∀ m ∈ ms, m.amount.IsAmount
  isProper : s.sheet.IsProper
  outcome : ms.foldlM Movement.apply s.sheet = .ok sheet

namespace Moved

variable {s : Store} {tx : TxId} {t : Transaction} {ms : List Movement} {sheet : Sheet}
  {m : Movement} {key : WalletKey}

/-- A transaction that has just begun. -/
lemma fresh (ht : s.transactions.get? tx = some .fresh) (hs : s.sheet.IsProper) :
    s.Moved tx .fresh [] s.sheet where
  content := ht
  deltas := rfl
  provisioned := rfl
  nodup := List.nodup_nil
  isAmount := by simp
  isProper := hs
  outcome := rfl

lemma transaction_eq (h : s.Moved tx t ms sheet) : s.transaction tx = t := by
  rw [transaction, h.content, Option.getD_some]

lemma mem_keys_iff (h : s.Moved tx t ms sheet) : key ∈ t.deltas.keys ↔ key ∈ ms.map (·.key) := by
  rw [Table.keys, h.deltas, List.map_map]
  rfl

lemma walletId?_eq (h : s.Moved tx t ms sheet) :
    s.walletId? tx key = (s.wallets.get? key).map (·.id) := by
  rw [walletId?, h.transaction_eq, h.provisioned]
  rfl

lemma baseBalance?_eq (h : s.Moved tx t ms sheet) : s.baseBalance? tx key = s.sheet key := by
  rw [baseBalance?, h.transaction_eq, h.provisioned]
  exact Option.or_none

/-- A transaction sees the balances that its movements leave. -/
lemma settles_visibleBalance? (h : s.Moved tx t ms sheet) (key : WalletKey) :
    Settles (s.visibleBalance? tx key) (some (sheet key)) := by
  obtain ⟨hmem, hother⟩ := Movement.of_foldlM_apply h.nodup h.outcome
  refine ⟨fun A _ => ?_⟩
  rw [visibleBalance?, h.transaction_eq, h.baseBalance?_eq]
  cases hd : t.deltas.get? key with
  | none =>
      rw [Table.get?_eq_none_iff, h.mem_keys_iff] at hd
      rw [hother key hd]
  | some delta =>
      have hentry := Table.mem_entries_of_get? hd
      rw [h.deltas] at hentry
      obtain ⟨m, hm, heq⟩ := List.mem_map.mp hentry
      obtain ⟨rfl, rfl⟩ := Prod.mk.inj heq
      obtain ⟨balance, next, hb, ha, hnext⟩ := hmem m hm
      have hsum := (isBalance_of_adjusted (h.isProper hb) (h.isAmount m hm) ha).2.1
      rw [hnext, hb]
      exact congrArg (Option.map some) (hsum.eq A)

/-- All balances of an account, as a transaction sees them. -/
lemma settles_visibleBalances? (h : s.Moved tx t ms sheet) (account : AccountId) :
    Settles (s.visibleBalances? tx account) (some (.ofFn fun c => sheet ⟨account, c⟩)) :=
  settles_visibleBalances?_of_rows fun c => h.settles_visibleBalance? ⟨account, c⟩

/-- One more movement, of a row that has not been touched yet. -/
lemma move (h : s.Moved tx t ms sheet) (hnew : m.key ∉ ms.map (·.key)) (ha : m.amount.IsAmount)
    {sheet' : Sheet} (hm : m.apply sheet = .ok sheet') :
    (s.setTransaction tx { t with deltas := t.deltas.insert m.key m.delta }).Moved tx
      { t with deltas := t.deltas.insert m.key m.delta } (ms ++ [m]) sheet' where
  content := by rw [get?_setTransaction, if_pos rfl]
  deltas := by
    rw [Table.entries_insert (fun hk => hnew (h.mem_keys_iff.mp hk)), h.deltas, List.map_append]
    rfl
  provisioned := h.provisioned
  nodup := by
    rw [List.map_append, List.nodup_append]
    refine ⟨h.nodup, List.nodup_singleton _, ?_⟩
    rintro key hkey _ hm rfl
    rw [List.map_singleton, List.mem_singleton] at hm
    exact hnew (hm ▸ hkey)
  isAmount := by
    rintro m' hm'
    rcases List.mem_append.mp hm' with hm' | hm'
    · exact h.isAmount m' hm'
    · rwa [List.mem_singleton.mp hm']
  isProper := h.isProper
  outcome := (Movement.foldlM_apply_concat h.outcome).trans hm

/-- The movements of a transaction stay possible while others act, as it holds their rows. -/
lemma later (h : s.Moved tx t ms sheet) {s' : Store} (hl : Later tx s s') (hs : s.Disciplined)
    (hs' : s'.sheet.IsProper) :
    ∃ sheet', s'.Moved tx t ms sheet' ∧ ∀ m ∈ ms, sheet' m.key = sheet m.key := by
  have hmem := (Movement.of_foldlM_apply h.nodup h.outcome).1
  have hrow : ∀ m ∈ ms, s'.sheet m.key = s.sheet m.key := by
    intro m hm
    have htouch : t.Touches m.key := .inl (h.mem_keys_iff.mpr (List.mem_map_of_mem hm))
    rw [Store.sheet, Store.sheet, Sheet.of, Sheet.of, hl.row (hs.holder h.content htouch)]
  have hposs : ∀ m ∈ ms, ∃ balance next, s'.sheet m.key = some balance ∧
      adjusted m.key.currency balance m.amount m.direction = .ok next := by
    intro m hm
    obtain ⟨balance, next, hb, ha, -⟩ := hmem m hm
    exact ⟨balance, next, (hrow m hm).trans hb, ha⟩
  obtain ⟨sheet', houtcome⟩ := Movement.exists_foldlM_apply h.nodup hposs
  refine ⟨sheet', ⟨hl.content.trans h.content, h.deltas, h.provisioned, h.nodup, h.isAmount, hs',
    houtcome⟩, fun m hm => ?_⟩
  obtain ⟨balance, next, hb, ha, hnext⟩ := hmem m hm
  obtain ⟨balance', next', hb', ha', hnext'⟩ :=
    (Movement.of_foldlM_apply h.nodup houtcome).1 m hm
  obtain rfl := Option.some.inj (hb'.symm.trans ((hrow m hm).trans hb))
  obtain rfl := Except.ok.inj (ha.symm.trans ha')
  exact hnext'.trans hnext.symm

end Moved

/-! ### Their commits -/

/-- The commit of one movement. -/
lemma settles_addDelta {wallets : Table WalletKey Wallet} {m : Movement} {sheet : Sheet}
    (hs : (Sheet.of wallets).IsProper) (ha : m.amount.IsAmount)
    (h : m.apply (.of wallets) = .ok sheet) :
    ∃ wallets', Settles (addDelta wallets m.entry) (.ok wallets') ∧ Sheet.of wallets' = sheet := by
  obtain ⟨balance, next, hb, hadj, rfl⟩ := Movement.apply_eq_ok h
  obtain ⟨hnext, hsum, -⟩ := isBalance_of_adjusted (hs hb) ha hadj
  obtain ⟨wallet, hw, rfl⟩ := Option.map_eq_some_iff.mp hb
  refine ⟨wallets.insert m.key { wallet with balance := next }, ⟨fun A _ => ?_⟩, ?_⟩
  · rw [addDelta, show m.entry = (m.key, m.direction.signed m.amount) from rfl]
    simp only [hw, hsum.eq A, if_neg hnext.not_neg]
  · funext key
    rw [Sheet.of, Table.get?_insert, Function.update_apply]
    by_cases hk : key = m.key
    · simp [hk]
    · rw [if_neg (Ne.symm hk), if_neg hk, Sheet.of]

lemma settles_addDeltas {wallets : Table WalletKey Wallet} {ms : List Movement} {sheet : Sheet}
    (hs : (Sheet.of wallets).IsProper) (ha : ∀ m ∈ ms, m.amount.IsAmount)
    (h : ms.foldlM Movement.apply (.of wallets) = .ok sheet) :
    ∃ wallets', Settles ((ms.map Movement.entry).foldlM addDelta wallets) (.ok wallets') ∧
      Sheet.of wallets' = sheet := by
  induction ms generalizing wallets with
  | nil => exact ⟨wallets, ⟨fun _ _ => rfl⟩, Except.ok.inj h⟩
  | cons m ms ih =>
      obtain ⟨mid, hm, hms⟩ := Movement.foldlM_apply_cons h
      rw [List.forall_mem_cons] at ha
      obtain ⟨walletsMid, hstep, rfl⟩ := settles_addDelta hs ha.1 hm
      obtain ⟨wallets', hrest, hsheet⟩ := ih (hs.apply ha.1 hm) ha.2 hms
      refine ⟨wallets', ⟨fun A _ => ?_⟩, hsheet⟩
      rw [List.map_cons, List.foldlM_cons, hstep.eq A]
      exact hrest.eq A

/-- A commit of these changes leaves these balances, whatever the arithmetic, and every wallet that
exists its identifier. -/
def Commits (s : Store) (t : Transaction) (sheet : Sheet) : Prop :=
  ∃ wallets, Settles (committedWallets s.wallets t) (.ok wallets) ∧ Sheet.of wallets = sheet ∧
    ∀ key id, (s.wallets.get? key).map (·.id) = some id → (wallets.get? key).map (·.id) = some id

/-- Records and events do not matter to the balances that a commit leaves. -/
lemma Commits.congr {s s' : Store} {t t' : Transaction} {sheet : Sheet} (h : s.Commits t sheet)
    (hwallets : s'.wallets = s.wallets) (hdeltas : t'.deltas = t.deltas)
    (hprovisioned : t'.provisioned = t.provisioned) : s'.Commits t' sheet := by
  obtain ⟨wallets, hsettles, hsheet, hid⟩ := h
  refine ⟨wallets, ⟨fun A _ => ?_⟩, hsheet, by rwa [hwallets]⟩
  rw [committedWallets, hwallets, hdeltas, hprovisioned]
  exact hsettles.eq A

/-- The commit of a transaction made of movements leaves the balances that it saw. -/
theorem Moved.commits {s : Store} {tx : TxId} {t : Transaction} {ms : List Movement} {sheet : Sheet}
    (h : s.Moved tx t ms sheet) : s.Commits t sheet := by
  obtain ⟨wallets, hsettles, hsheet⟩ := settles_addDeltas h.isProper h.isAmount h.outcome
  have hcommit : Settles (committedWallets s.wallets t) (.ok wallets) := by
    refine ⟨fun A _ => ?_⟩
    rw [committedWallets, h.provisioned, show t.deltas.toList = _ from h.deltas]
    exact hsettles.eq A
  refine ⟨wallets, hcommit, hsheet, fun key id hid => ?_⟩
  refine (id_committedWallets (hcommit.eq .decimal) ?_).trans hid
  rw [h.provisioned]
  exact List.not_mem_nil

end Store

end Teller
