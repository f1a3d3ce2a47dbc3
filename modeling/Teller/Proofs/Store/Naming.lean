/-
The identifiers of wallets.

* `Names`, `Names.Apart`: the identifiers of all rows; different wallets have different ones;
* `Uuid.serial_of_timeOrdered_eq`: an identifier tells its serial number up to multiples of
  `2 ^ 62`;
* `Store.IsNamed`: the identifiers of all wallets, also of those that transactions are about to
  make, have been drawn since the supply was at a certain number, each for one row only;
* `Store.IsNamed.path`: transactions keep that as long as no more than `2 ^ 62` are drawn.
-/
import Teller.Proofs.Store.Discipline

namespace Teller

/-- The identifiers of the wallets of all rows. -/
abbrev Names := WalletKey → Option WalletId

/-- Different wallets have different identifiers. -/
def Names.Apart (names : Names) : Prop :=
  ∀ ⦃key key' id⦄, names key = some id → names key' = some id → key = key'

lemma Names.Apart.of_le {names names' : Names} (h : names'.Apart)
    (hle : ∀ ⦃key id⦄, names key = some id → names' key = some id) : names.Apart :=
  fun _ _ _ hid hid' => h (hle hid) (hle hid')

/-- An identifier tells its serial number, up to multiples of `2 ^ 62`. -/
lemma Uuid.serial_of_timeOrdered_eq {millis millis' serial serial' : Nat}
    (h : timeOrdered millis serial = timeOrdered millis' serial') :
    serial % 2 ^ 62 = serial' % 2 ^ 62 := by
  have hvalue := congrArg Uuid.value h
  simp only [timeOrdered] at hvalue
  omega

namespace Store

variable {s s' : Store} {tx : TxId} {key : WalletKey} {id : WalletId} {first : Nat}

/-- The identifiers of the committed wallets. -/
def names (s : Store) : Names := fun key => (s.wallets.get? key).map (·.id)

lemma names_of_get? {wallet : Wallet} (h : s.wallets.get? key = some wallet) :
    s.names key = some wallet.id := by
  rw [names, h, Option.map_some]

lemma names_congr (h : s'.wallets = s.wallets) : s'.names = s.names := by
  funext key
  rw [names, names, h]

/-- A wallet of this row has this identifier, or an open transaction is about to make it. -/
def Uses (s : Store) (key : WalletKey) (id : WalletId) : Prop :=
  s.names key = some id ∨
    ∃ tx t, s.transactions.get? tx = some t ∧ (key, id) ∈ t.provisioned.entries

/-- All identifiers have been drawn since this number, each for one row only. -/
structure IsNamed (first : Nat) (s : Store) : Prop where
  le : first ≤ s.ids.drawn
  drawn {key : WalletKey} {id : WalletId} : s.Uses key id → ∃ millis serial,
    first ≤ serial ∧ serial < s.ids.drawn ∧ id = ⟨.timeOrdered millis serial⟩
  apart {key key' : WalletKey} {id : WalletId} : s.Uses key id → s.Uses key' id → key = key'

namespace IsNamed

lemma empty (lockTimeout : Nat) (ids : IdSupply) :
    (Store.empty lockTimeout ids).IsNamed ids.drawn where
  le := le_rfl
  drawn h := by simp [Uses, names, Store.empty] at h
  apart h := by simp [Uses, names, Store.empty] at h

lemma names_apart (h : s.IsNamed first) : s.names.Apart :=
  fun _ _ _ hid hid' => h.apart (.inl hid) (.inl hid')

/-- No new identifier is used. -/
lemma of_uses (h : s.IsNamed first) (hle : s.ids.drawn ≤ s'.ids.drawn)
    (huses : ∀ key id, s'.Uses key id → s.Uses key id) : s'.IsNamed first where
  le := h.le.trans hle
  drawn {key id} hu := by
    obtain ⟨millis, serial, hfirst, hlt, heq⟩ := h.drawn (huses key id hu)
    exact ⟨millis, serial, hfirst, hlt.trans_le hle, heq⟩
  apart {key key' id} hu hu' := h.apart (huses key id hu) (huses key' id hu')

/-- A transaction goes on with the wallets that it is about to make. -/
lemma uses_setTransaction {t t' : Transaction} (hu : (s.setTransaction tx t').Uses key id)
    (ht : s.transactions.get? tx = some t) (hsame : t'.provisioned = t.provisioned) :
    s.Uses key id := by
  rcases hu with hid | ⟨tx', t'', ht'', hmem⟩
  · exact .inl hid
  · rw [get?_setTransaction] at ht''
    split at ht''
    · obtain rfl := Option.some.inj ht''
      exact .inr ⟨tx, t, ht, hsame ▸ hmem⟩
    · exact .inr ⟨tx', t'', ht'', hmem⟩

/-- A transaction ends without a change. -/
lemma uses_discard (hu : (s.discard tx).Uses key id) : s.Uses key id := by
  rcases hu with hid | ⟨tx', t', ht', hmem⟩
  · exact .inl hid
  · rw [get?_discard] at ht'
    split at ht'
    · simp at ht'
    · exact .inr ⟨tx', t', ht', hmem⟩

/-- A new wallet gets an identifier that no other has. -/
lemma provision (h : s.IsNamed first) {t : Transaction} (ht : s.transactions.get? tx = some t)
    (key : WalletKey) (now : Nat) (hfew : s.ids.drawn < first + 2 ^ 62) :
    IsNamed first { s.setTransaction tx
      { t with provisioned := t.provisioned.insert key (s.ids.wallet now).1 } with
        ids := s.ids.next } := by
  have huses : ∀ {key' id}, Uses { s.setTransaction tx
      { t with provisioned := t.provisioned.insert key (s.ids.wallet now).1 } with
        ids := s.ids.next } key' id →
      (key' = key ∧ id = (s.ids.wallet now).1) ∨ s.Uses key' id := by
    rintro key' id (hid | ⟨tx', t', ht', hmem⟩)
    · exact .inr (.inl hid)
    · rw [show Table.get? _ tx' = _ from get?_setTransaction] at ht'
      split at ht'
      · obtain rfl := Option.some.inj ht'
        rcases Table.mem_entries_insert hmem with heq | hmem
        · exact .inl (Prod.mk.inj heq)
        · exact .inr (.inr ⟨tx, t, ht, hmem⟩)
      · exact .inr (.inr ⟨tx', t', ht', hmem⟩)
  -- an identifier ends in the number with which it was drawn, and this number is new
  have hnew : ∀ {key'}, ¬ s.Uses key' (s.ids.wallet now).1 := by
    intro key' hu
    obtain ⟨millis, serial, hfirst, hlt, heq⟩ := h.drawn hu
    have hserial := Uuid.serial_of_timeOrdered_eq (congrArg WalletId.uuid heq)
    omega
  constructor
  case le => exact h.le.trans (Nat.le_succ _)
  case drawn =>
    intro key' id hu
    rcases huses hu with ⟨-, rfl⟩ | hu
    · exact ⟨now, s.ids.drawn, h.le, Nat.lt_succ_self _, rfl⟩
    · obtain ⟨millis, serial, hfirst, hlt, heq⟩ := h.drawn hu
      exact ⟨millis, serial, hfirst, Nat.lt_succ_of_lt hlt, heq⟩
  case apart =>
    intro key₁ key₂ id hu₁ hu₂
    rcases huses hu₁ with ⟨rfl, rfl⟩ | hold₁
    · rcases huses hu₂ with ⟨rfl, -⟩ | hold₂
      · rfl
      · exact absurd hold₂ hnew
    · rcases huses hu₂ with ⟨rfl, rfl⟩ | hold₂
      · exact absurd hold₁ hnew
      · exact h.apart hold₁ hold₂

/-- The wallets of a transaction that is committed are those that it was about to make. -/
lemma uses_commit {t : Transaction} {wallets : Table WalletKey Wallet}
    (ht : s.transactions.get? tx = some t) (hw : committedWallets s.wallets t = .ok wallets)
    {journal : List TransactionRecord} {outbox : List OutboxRow}
    (hu : { s.discard tx with wallets, journal, outbox }.Uses key id) : s.Uses key id := by
  rcases hu with hid | hopen
  · -- a row of the table after the commit was there, or the transaction was about to make it
    by_cases hk : key ∈ t.provisioned.keys
    · obtain ⟨id', hmem, hid'⟩ := exists_committedWallets hw hk
      obtain rfl := Option.some.inj (hid'.symm.trans hid)
      exact .inr ⟨tx, t, ht, hmem⟩
    · exact .inl ((id_committedWallets hw hk).symm.trans hid)
  · have hu : (s.discard tx).Uses key id := .inr hopen
    exact uses_discard hu

/-- Every act keeps identifiers apart. -/
theorem act (h : s.IsNamed first) (ha : Act tx s s') (hfew : s'.ids.drawn ≤ first + 2 ^ 62) :
    s'.IsNamed first := by
  cases ha with
  | strike hf =>
      obtain ⟨-, rfl⟩ := takeFault?_eq_some hf
      exact h.of_uses le_rfl fun _ _ hu => hu
  | begin =>
      refine h.of_uses le_rfl fun key id hu => ?_
      rcases hu with hid | ⟨tx', t', ht', hmem⟩
      · exact .inl hid
      · rw [show Table.get? _ tx' = _ from get?_setTransaction] at ht'
        split at ht'
        · obtain rfl := Option.some.inj ht'
          simp [Transaction.fresh, Table.empty] at hmem
        · exact .inr ⟨tx', t', ht', hmem⟩
  | request => exact h.of_uses le_rfl fun _ _ hu => hu
  | leave => exact h.of_uses le_rfl fun _ _ hu => hu
  | adjust key total ht =>
      exact h.of_uses le_rfl fun _ _ hu => uses_setTransaction hu ht rfl
  | note records events ht =>
      exact h.of_uses le_rfl fun _ _ hu => uses_setTransaction hu ht rfl
  | draw => exact h.of_uses (Nat.le_succ _) fun _ _ hu => hu
  | provision key now ht => exact h.provision ht key now hfew
  | discard => exact h.of_uses le_rfl fun _ _ hu => uses_discard hu
  | commit ht hw => exact h.of_uses le_rfl fun _ _ hu => uses_commit ht hw hu

/-- Any number of acts keeps identifiers apart. -/
theorem path (h : s.IsNamed first) (hp : Path tx s s') (hfew : s'.ids.drawn ≤ first + 2 ^ 62) :
    s'.IsNamed first := by
  induction hp with
  | refl => exact h
  | tail _ ha ih => exact (ih (ha.le.2.trans hfew)).act ha hfew

end IsNamed

end Store

end Teller
