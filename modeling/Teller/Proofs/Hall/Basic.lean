/-
Withdrawals from one row that are made side by side.

* `Withdrawals`: a row, and the amounts that are to be withdrawn from it, each in a call of its own;
* `Place`: where a call is: it halts between two operations of the store, or it has ended;
* `Hall`: a bank, and the places of the calls; `Move`: a call does its next operation, others act on
  the store, time passes, alarms ring; `Withdrawals.step` and `Withdrawals.run` follow any moves;
* `Withdrawals.run_of_drives`: a turn of a call at the bank is a number of its operations here;
* `Withdrawals.IsRush`: in these moves no call is given up, and others keep away from the row;
* `Withdrawals.Settles`: in the row is what there was, without what has been paid, and that is too
  little for those that have been refused;
* `Withdrawals.InRush`: the invariant of every rush; `InRush.step`, `InRush.run`.
-/
import Teller.Proofs.Bank.Withdrawing

namespace Teller

/-- A row, and amounts that are to be withdrawn from it. -/
structure Withdrawals (n : ℕ) where
  row : WalletKey
  amount : Fin n → Decimal

/-! ### Places -/

/-- Where a call is. -/
inductive Place where
  | halts (halt : Halt)
  | ended (result : Except Failure Reply)

namespace Place

/-- The transaction of a call that halts. -/
def tx? : Place → Option TxId
  | halts halt => halt.tx?
  | ended _ => none

/-- The call has been paid. -/
def isPaid : Place → Bool
  | halts _ => false
  | ended result => result.isOk

/-- Where a deposit or withdrawal is after a turn. -/
def afterTurn? : Turn Phase Outcome → Option Place
  | .done outcome => some (.ended outcome.result)
  | .waiting (.adjusting trail _ wait) => some (.halts (.waiting trail wait))
  | .waiting _ => none

/-- No more operations are left than this, looks at a row that is not granted apart. -/
def rank : Place → ℕ
  | halts halt => halt.rank
  | ended _ => 0

/-- The time of a call that waits for its row is not over, unless the row is granted. -/
def IsInTime {σ : Type} (b : Bank σ) : Place → Prop
  | halts halt => halt.IsInTime b
  | ended _ => True

instance {σ : Type} (b : Bank σ) (place : Place) : Decidable (place.IsInTime b) :=
  match place with
  | halts (.waiting _ wait) =>
    inferInstanceAs (Decidable (b.store.lookRow b.clock wait.row ≠ .timedOut))
  | halts (.opening _) => .isTrue trivial
  | halts (.asking ..) => .isTrue trivial
  | halts (.recording ..) => .isTrue trivial
  | halts (.noting ..) => .isTrue trivial
  | halts (.committing ..) => .isTrue trivial
  | halts (.failing ..) => .isTrue trivial
  | ended _ => .isTrue trivial

/-- Where a call is when its transaction has acted: it halts in it, or it has ended, and the
transaction with it. -/
inductive Follows (s : Store) (key : WalletKey) (amount : Decimal) (tx : TxId) : Place → Prop where
  | halts {halt : Halt} (htx : halt.tx? = some tx) (hstands : halt.Stands s key amount) :
      Follows s key amount tx (.halts halt)
  | ended {result : Except Failure Reply} (hclosed : ¬ s.IsOpen tx) :
      Follows s key amount tx (.ended result)

/-- It has no other transaction. -/
lemma Follows.tx_eq {s : Store} {key : WalletKey} {amount : Decimal} {tx tx' : TxId} {place : Place}
    (h : place.Follows s key amount tx) (htx : place.tx? = some tx') : tx' = tx := by
  cases h with
  | halts htx' => exact Option.some.inj (htx.symm.trans htx')
  | ended => simp [tx?] at htx

end Place

/-- A bank, and calls that are made to it side by side. -/
structure Hall (σ : Type) (n : ℕ) where
  bank : Bank σ
  places : Fin n → Place

/-- What can happen in a hall. -/
inductive Move (n : ℕ) where
  /-- A call does its next operation. -/
  | turn (i : Fin n)
  /-- Others change the store. -/
  | others (store : Store)
  | pass (millis : ℕ)
  | ring

namespace Store

/-- Others do one thing to a store: a transaction that is not one of these acts, keeps away from the
row and keeps balances in range, or events are marked as delivered. -/
inductive Elsewhere (ours : TxId → Prop) (key : WalletKey) (s : Store) : Store → Prop where
  | acts {s' : Store} {tx : TxId} (ha : Act tx s s') (hother : ¬ ours tx)
      (havoids : Avoids key s s') (hproper : s'.sheet.IsProper) : Elsewhere ours key s s'
  | publishes (ids : List EventId) : Elsewhere ours key s (s.markPublished ids)

end Store

namespace Hall

variable {σ : Type} {n : ℕ} {h : Hall σ n} {i j : Fin n} {place : Place}

/-- All calls are about to begin. -/
def enter (n : ℕ) (bank : Bank σ) : Hall σ n := ⟨bank, fun _ => .halts (.opening .withdraw)⟩

/-- The hall after an operation of one call. -/
def put (h : Hall σ n) (bank : Bank σ) (i : Fin n) (place : Place) : Hall σ n :=
  ⟨bank, Function.update h.places i place⟩

/-- The transaction belongs to this call. -/
def Owns (h : Hall σ n) (i : Fin n) (tx : TxId) : Prop := (h.places i).tx? = some tx

/-- All calls have ended. -/
def HasEnded (h : Hall σ n) : Prop := ∀ i, ∃ result, h.places i = .ended result

/-- The hall after the next operation of a call. One that waits for its row stays where it is. -/
def after (h : Hall σ n) (i : Fin n) : Bank σ × (Halt ⊕ Turn Phase Outcome) → Hall σ n
  | (bank, .inl halt) => h.put bank i (.halts halt)
  | (bank, .inr (.waiting _)) => { h with bank }
  | (bank, .inr (.done outcome)) => h.put bank i (.ended outcome.result)

lemma places_put_self (h : Hall σ n) (bank : Bank σ) (i : Fin n) (place : Place) :
    (h.put bank i place).places i = place :=
  Function.update_self ..

lemma places_put_of_ne (h : Hall σ n) (bank : Bank σ) (place : Place) (hne : j ≠ i) :
    (h.put bank i place).places j = h.places j :=
  Function.update_of_ne hne ..

lemma owns_put_self {bank : Bank σ} {tx : TxId} :
    (h.put bank i place).Owns i tx ↔ place.tx? = some tx := by
  rw [Owns, places_put_self]

lemma owns_put_of_ne {bank : Bank σ} {tx : TxId} (hne : j ≠ i) :
    (h.put bank i place).Owns j tx ↔ h.Owns j tx := by
  rw [Owns, Owns, places_put_of_ne h bank place hne]

/-- Sums over the calls change by the change at the call that has moved. -/
lemma sum_put {M : Type} [AddCommMonoid M] (f : Fin n → Place → M) (h : Hall σ n) (bank : Bank σ)
    (i : Fin n) (place : Place) :
    ∑ j, f j ((h.put bank i place).places j) + f i (h.places i)
      = ∑ j, f j (h.places j) + f i place := by
  have hrest : ∑ j ∈ Finset.univ.erase i, f j ((h.put bank i place).places j)
      = ∑ j ∈ Finset.univ.erase i, f j (h.places j) := by
    refine Finset.sum_congr rfl fun j hj => ?_
    rw [places_put_of_ne h bank place (Finset.ne_of_mem_erase hj)]
  rw [← Finset.add_sum_erase _ _ (Finset.mem_univ i), hrest, places_put_self,
    ← Finset.add_sum_erase _ (fun j => f j (h.places j)) (Finset.mem_univ i)]
  abel

end Hall

namespace Withdrawals

variable {σ : Type} {n : ℕ} {w : Withdrawals n} {h : Hall σ n} {move : Move n}
  {moves : List (Move n)} {i j : Fin n} {halt : Halt} {place : Place} {tx : TxId} {opening : ℚ}

/-- What the i-th call is to withdraw. -/
def money (w : Withdrawals n) (i : Fin n) : Money := ⟨w.amount i, w.row.currency⟩

/-- What has been paid. -/
def paid (w : Withdrawals n) (h : Hall σ n) : ℚ :=
  ∑ i, if (h.places i).isPaid then (w.amount i).toRat else 0

/-- A call that halted has been paid when it ends so. -/
lemma paid_put (hplace : h.places i = .halts halt) (bank : Bank σ) (place : Place) :
    w.paid (h.put bank i place) = w.paid h + if place.isPaid then (w.amount i).toRat else 0 := by
  have hsum :=
    h.sum_put (fun j place => if place.isPaid then (w.amount j).toRat else 0) bank i place
  rwa [hplace, show (Place.halts halt).isPaid = false from rfl, if_neg Bool.false_ne_true,
    add_zero] at hsum

/-! ### Runs -/

/-- What happens in a hall. -/
def step (w : Withdrawals n) (h : Hall σ n) : Move n → Hall σ n
  | .turn i =>
    match h.places i with
    | .ended _ => h
    | .halts halt => h.after i (h.bank.operate w.row.account (w.money i) halt)
  | .others store => { h with bank := h.bank.withStore store }
  | .pass millis => { h with bank := { h.bank with clock := h.bank.clock.advance millis } }
  | .ring => { h with bank := { h.bank with clock := h.bank.clock.ring } }

/-- What happens in a hall, one thing after the other. -/
def run (w : Withdrawals n) (h : Hall σ n) (moves : List (Move n)) : Hall σ n :=
  moves.foldl w.step h

lemma run_append (moves moves' : List (Move n)) :
    w.run h (moves ++ moves') = w.run (w.run h moves) moves' :=
  List.foldl_append

lemma step_turn (hplace : h.places i = .halts halt) :
    w.step h (.turn i) = h.after i (h.bank.operate w.row.account (w.money i) halt) := by
  rw [step, hplace]

/-- A turn of a call that nobody interrupts is a number of its operations. -/
theorem run_of_drives {turn : Bank.Step σ}
    (hd : Bank.Drives w.row.account (w.money i) h.bank halt turn)
    (hplace : h.places i = .halts halt) : ∃ k place, Place.afterTurn? turn.2 = some place ∧
      w.run h (List.replicate k (.turn i)) = h.put turn.1 i place := by
  generalize hbank : h.bank = b at hd
  -- on the operations of the turn
  induction hd generalizing h with
  | @ends b b' halt turn hop =>
      subst hbank
      have honce : w.run h (List.replicate 1 (.turn i)) = h.after i (b', .inr turn) :=
        (step_turn hplace).trans (congrArg _ hop)
      cases turn with
      | done outcome => exact ⟨1, .ended outcome.result, rfl, honce⟩
      | waiting phase =>
          obtain ⟨trail, wait, rfl, rfl⟩ := Bank.operate_eq_waiting hop
          refine ⟨1, .halts (.waiting trail wait), rfl, honce.trans ?_⟩
          rw [Hall.put, ← hplace, Function.update_eq_self]
          rfl
  | @goes b b' halt halt' turn hop hrest ih =>
      subst hbank
      obtain ⟨k, place, hafter, hrun⟩ :=
        @ih (h.put b' i (.halts halt')) (h.places_put_self b' i _) rfl
      refine ⟨k + 1, place, hafter, ?_⟩
      calc w.run h (List.replicate (k + 1) (.turn i))
          = w.run (w.step h (.turn i)) (List.replicate k (.turn i)) := rfl
        _ = w.run (h.put b' i (.halts halt')) (List.replicate k (.turn i)) := by
            rw [step_turn hplace, hop]
            rfl
        _ = h.put turn.1 i place := by
            rw [hrun, Hall.put, Hall.put, Hall.put, Function.update_idem]

/-- No call is given up because its row has not been granted in time, and others keep away from the
row. -/
def Allows (w : Withdrawals n) (h : Hall σ n) : Move n → Prop
  | .turn i => (h.places i).IsInTime h.bank
  | .others store => h.bank.store.Elsewhere (fun tx => ∃ i, h.Owns i tx) w.row store
  | .pass _ => True
  | .ring => True

instance (w : Withdrawals n) (h : Hall σ n) (i : Fin n) : Decidable (w.Allows h (.turn i)) :=
  inferInstanceAs (Decidable ((h.places i).IsInTime h.bank))

/-- All of these moves are like that. -/
def IsRush (w : Withdrawals n) : Hall σ n → List (Move n) → Prop
  | _, [] => True
  | h, move :: moves => w.Allows h move ∧ IsRush w (w.step h move) moves

lemma isRush_append {moves' : List (Move n)} :
    w.IsRush h (moves ++ moves') ↔ w.IsRush h moves ∧ w.IsRush (w.run h moves) moves' := by
  induction moves generalizing h with
  | nil => exact (true_and _).symm.to_iff
  | cons move moves ih =>
      rw [List.cons_append, IsRush, IsRush, ih, and_assoc]
      rfl

/-! ### The invariant -/

/-- The call has been paid, or there was less than its amount, and no more than this is left. -/
def IsAnswered (w : Withdrawals n) (rest : ℚ) (i : Fin n) (result : Except Failure Reply) : Prop :=
  result.isOk ∨
    (result = .error (.refused (.insufficientFunds w.row.currency (w.amount i))) ∧
      rest < (w.amount i).toRat)

/-- A call that has ended stays answered when less is left. -/
lemma IsAnswered.mono {rest rest' : ℚ} {result : Except Failure Reply}
    (ha : w.IsAnswered rest i result) (hle : rest' ≤ rest) : w.IsAnswered rest' i result :=
  ha.imp id fun ⟨hresult, hshort⟩ => ⟨hresult, hle.trans_lt hshort⟩

/-- This is in the row: what there was, without what has been paid; and it is too little for those
that have been refused. -/
def Settles (w : Withdrawals n) (opening : ℚ) (h : Hall σ n) (rest : Decimal) : Prop :=
  h.bank.store.sheet w.row = some rest ∧ rest.toRat = opening - w.paid h ∧
    ∀ i result, h.places i = .ended result → w.IsAnswered rest.toRat i result

/-- A call halts again, is paid what it takes from the row, or is refused. -/
lemma Settles.put {rest rest' : Decimal} (hs : w.Settles opening h rest)
    (ha : (w.amount i).IsAmount) (hplace : h.places i = .halts halt) {s : Store}
    (hrow : s.sheet w.row = some rest')
    (hrest : rest'.toRat = rest.toRat - if place.isPaid then (w.amount i).toRat else 0)
    (hanswered : ∀ result, place = .ended result → w.IsAnswered rest'.toRat i result) :
    w.Settles opening (h.put (h.bank.withStore s) i place) rest' := by
  obtain ⟨-, hsum, hall⟩ := hs
  have hle : rest'.toRat ≤ rest.toRat := by
    have hpos := ha.toRat_pos
    split at hrest <;> linarith
  refine ⟨hrow, ?_, fun j result hj => ?_⟩
  · rw [hrest, hsum, paid_put hplace]
    ring
  · by_cases hne : j = i
    · subst hne
      rw [Hall.places_put_self] at hj
      exact hanswered result hj
    · rw [Hall.places_put_of_ne _ _ _ hne] at hj
      exact (hall j result hj).mono hle

/-- What holds of a hall in a rush on a row in which there was this much. -/
structure InRush (w : Withdrawals n) (opening : ℚ) (h : Hall σ n) : Prop where
  isAmount (i : Fin n) : (w.amount i).IsAmount
  faults : h.bank.store.faults = []
  disciplined : h.bank.store.Disciplined
  isProper : h.bank.store.sheet.IsProper
  isManned : (h.bank.store.lock w.row).IsManned
  stands {i : Fin n} {halt : Halt} : h.places i = .halts halt →
    halt.Stands h.bank.store w.row (w.amount i)
  owner_eq {i j : Fin n} {tx : TxId} : h.Owns i tx → h.Owns j tx → i = j
  knows {tx : TxId} : (h.bank.store.lock w.row).Knows tx → ∃ i, h.Owns i tx
  funds : ∃ rest, w.Settles opening h rest

namespace InRush

lemma isOpen (hr : w.InRush opening h) (ho : h.Owns i tx) : h.bank.store.IsOpen tx := by
  rw [Hall.Owns] at ho
  cases hplace : h.places i with
  | ended result => simp [hplace, Place.tx?] at ho
  | halts halt =>
      rw [hplace] at ho
      exact (hr.stands hplace).isOpen ho

/-- The transaction that acts for a call belongs to no other. -/
lemma ne_actor (hr : w.InRush opening h) (hplace : h.places i = .halts halt) (hne : j ≠ i)
    (ho : h.Owns j tx) : halt.actor h.bank.store ≠ tx := by
  rintro rfl
  cases htx : halt.tx? with
  | none =>
      rw [Halt.actor, htx] at ho
      exact hr.disciplined.not_isOpen_begun (hr.isOpen ho)
  | some tx =>
      rw [Halt.actor, htx] at ho
      have hi : h.Owns i tx := by rw [Hall.Owns, hplace, Place.tx?, htx]
      exact hne (hr.owner_eq ho hi)

/-- What others leave to the calls. -/
lemma stands_of_later (hr : w.InRush opening h) {s : Store} (hp : s.sheet.IsProper)
    (hl : ∀ tx, h.Owns i tx → Store.Later tx h.bank.store s ∧
      ((h.bank.store.lock w.row).Knows tx → (s.lock w.row).Knows tx))
    (hplace : h.places i = .halts halt) : halt.Stands s w.row (w.amount i) := by
  refine (hr.stands hplace).later hr.disciplined hp fun tx htx => hl tx ?_
  rw [Hall.Owns, hplace]
  exact htx

/-! ### Others -/

/-- The calls do not see what others do. -/
lemma elsewhere (hr : w.InRush opening h) {s : Store}
    (hs : h.bank.store.Elsewhere (fun tx => ∃ i, h.Owns i tx) w.row s) :
    w.InRush opening { h with bank := h.bank.withStore s } := by
  cases hs with
  | @acts _ tx ha hother havoids hproper =>
      have hne : ∀ {i tx'}, h.Owns i tx' → tx' ≠ tx := fun ho heq => hother ⟨_, heq ▸ ho⟩
      -- only the holder of a row can change it, and this row is held by a call or by nobody
      have hrow : s.wallets.get? w.row = h.bank.store.wallets.get? w.row := by
        refine ha.get?_of_not_holder hr.disciplined fun hheld => hother ?_
        exact hr.knows (.inl hheld)
      refine ⟨hr.isAmount, ha.faults_eq_nil hr.faults, hr.disciplined.act ha, hproper,
        ha.isManned hr.isManned, fun hplace => ?_, hr.owner_eq, fun hk => hr.knows (havoids hk), ?_⟩
      · exact hr.stands_of_later hproper (fun tx' ho =>
          ⟨.of_act hr.disciplined ha (hne ho).symm, ha.knows_of_ne (hne ho)⟩) hplace
      · obtain ⟨rest, hrest, hsum, hall⟩ := hr.funds
        refine ⟨rest, ?_, hsum, hall⟩
        rw [Store.sheet, Sheet.of, Bank.withStore, hrow]
        exact hrest
  | publishes ids =>
      refine ⟨hr.isAmount, hr.faults, hr.disciplined.of_eq rfl rfl rfl rfl, hr.isProper,
        hr.isManned, fun hplace => ?_, hr.owner_eq, hr.knows, hr.funds⟩
      exact hr.stands_of_later hr.isProper (fun tx _ => ⟨.of_eq rfl rfl rfl, id⟩) hplace

/-! ### Operations -/

/-- After an operation of a call, transactions belong to the calls that they belonged to; the one
that acted belongs to this call, if to any. -/
lemma owns_of_put (hr : w.InRush opening h) (hplace : h.places i = .halts halt) {s : Store}
    (hfollows : place.Follows s w.row (w.amount i) (halt.actor h.bank.store))
    (ho : (h.put (h.bank.withStore s) i place).Owns j tx) :
    (j = i ∧ tx = halt.actor h.bank.store) ∨
      (j ≠ i ∧ h.Owns j tx ∧ tx ≠ halt.actor h.bank.store) := by
  by_cases hne : j = i
  · subst hne
    exact .inl ⟨rfl, hfollows.tx_eq (Hall.owns_put_self.mp ho)⟩
  · rw [Hall.owns_put_of_ne hne] at ho
    exact .inr ⟨hne, ho, (hr.ne_actor hplace hne ho).symm⟩

/-- Whoever knows the row after an operation is one of the calls. -/
lemma exists_owns_put (hr : w.InRush opening h) (hplace : h.places i = .halts halt) {s : Store}
    (hpath : Store.Path (halt.actor h.bank.store) h.bank.store s)
    (hfollows : place.Follows s w.row (w.amount i) (halt.actor h.bank.store))
    (hk : (s.lock w.row).Knows tx) : ∃ j, (h.put (h.bank.withStore s) i place).Owns j tx := by
  by_cases htx : tx = halt.actor h.bank.store
  · subst htx
    cases hfollows with
    | halts htx => exact ⟨i, Hall.owns_put_self.mpr htx⟩
    | ended hclosed =>
        exact absurd ((hpath.disciplined hr.disciplined).isOpen_of_knows hk) hclosed
  · obtain ⟨j, hj⟩ := hr.knows ((hpath.knows hk).resolve_right htx)
    have hne : j ≠ i := by
      rintro rfl
      rw [Hall.Owns, hplace, Place.tx?] at hj
      exact htx (by rw [Halt.actor, hj, Option.getD_some])
    exact ⟨j, (Hall.owns_put_of_ne hne).mpr hj⟩

/-- What an operation of a call leaves to be shown: where the call is, and what is in the row. -/
lemma put (hr : w.InRush opening h) (hplace : h.places i = .halts halt) {s : Store}
    (hpath : Store.Path (halt.actor h.bank.store) h.bank.store s) (hproper : s.sheet.IsProper)
    (hfollows : place.Follows s w.row (w.amount i) (halt.actor h.bank.store))
    (hfunds : ∃ rest, w.Settles opening (h.put (h.bank.withStore s) i place) rest) :
    w.InRush opening (h.put (h.bank.withStore s) i place) where
  isAmount := hr.isAmount
  faults := hpath.faults_eq_nil hr.faults
  disciplined := hpath.disciplined hr.disciplined
  isProper := hproper
  isManned := hpath.isManned hr.isManned
  stands {j halt'} hj := by
    -- for the call that has moved this is given; the others keep what they rely on
    by_cases hne : j = i
    · subst hne
      rw [Hall.places_put_self] at hj
      subst hj
      cases hfollows with
      | halts htx hstands => exact hstands
    · rw [Hall.places_put_of_ne _ _ _ hne] at hj
      exact hr.stands_of_later hproper (fun tx ho =>
        ⟨hpath.later hr.disciplined (hr.ne_actor hplace hne ho),
          hpath.knows_of_ne (hr.ne_actor hplace hne ho).symm⟩) hj
  owner_eq {j k tx} hj hk := by
    rcases hr.owns_of_put hplace hfollows hj with ⟨rfl, rfl⟩ | ⟨-, hj, hother⟩
    · rcases hr.owns_of_put hplace hfollows hk with ⟨rfl, -⟩ | ⟨-, -, hother⟩
      · rfl
      · exact absurd rfl hother
    · rcases hr.owns_of_put hplace hfollows hk with ⟨-, rfl⟩ | ⟨-, hk, -⟩
      · exact absurd rfl hother
      · exact hr.owner_eq hj hk
  knows hk := hr.exists_owns_put hplace hpath hfollows hk
  funds := hfunds

/-- Every operation of a call keeps the invariant. -/
lemma after (hr : w.InRush opening h) (hplace : h.places i = .halts halt) {rest : Decimal}
    (hrest : w.Settles opening h rest) {out : Bank σ × (Halt ⊕ Turn Phase Outcome)}
    (hop : h.bank.Operates w.row (w.amount i) rest halt out) :
    w.InRush opening (h.after i out) := by
  have ha := hr.isAmount i
  -- money is only taken where the call ends well, and only a call that is refused leaves a bound
  cases hop with
  | stays => exact hr
  | @goes s halt' hpath hwallets htx hstands =>
      have hsheet : s.sheet = h.bank.store.sheet := by rw [Store.sheet, Store.sheet, hwallets]
      refine hr.put hplace hpath (hsheet ▸ hr.isProper) (.halts htx hstands) ⟨rest, ?_⟩
      refine hrest.put ha hplace ((congrFun hsheet w.row).trans hrest.1) ?_ ?_
      · simp [Place.isPaid]
      · simp
  | @pays s outcome next hpath hclosed hproper hok hnext hsum =>
      refine hr.put hplace hpath hproper (.ended hclosed) ⟨next, ?_⟩
      refine hrest.put ha hplace hnext ?_ ?_
      · rw [hsum, Place.isPaid, if_pos hok]
      · rintro result heq
        exact Place.ended.inj heq ▸ .inl hok
  | @refuses s outcome hpath hclosed hwallets hresult hshort =>
      have hsheet : s.sheet = h.bank.store.sheet := by rw [Store.sheet, Store.sheet, hwallets]
      refine hr.put hplace hpath (hsheet ▸ hr.isProper) (.ended hclosed) ⟨rest, ?_⟩
      refine hrest.put ha hplace ((congrFun hsheet w.row).trans hrest.1) ?_ ?_
      · rw [Place.isPaid, hresult, Except.isOk, Except.toBool, if_neg Bool.false_ne_true, sub_zero]
      · rintro result heq
        exact Place.ended.inj heq ▸ .inr ⟨hresult, hshort⟩

/-- What the next operation of a call comes to. -/
lemma operates (hr : w.InRush opening h) (hplace : h.places i = .halts halt)
    (hallows : w.Allows h (.turn i)) {rest : Decimal} (hrest : w.Settles opening h rest) :
    h.bank.Operates w.row (w.amount i) rest halt
      (h.bank.operate w.row.account (w.money i) halt) := by
  rw [Allows, hplace] at hallows
  exact (hr.stands hplace).operates hr.faults hr.isProper (hr.isAmount i) hrest.1 hallows

/-- Every move of a rush keeps the invariant. -/
theorem step (hr : w.InRush opening h) (hallows : w.Allows h move) :
    w.InRush opening (w.step h move) := by
  cases move with
  | turn i =>
      cases hplace : h.places i with
      | ended result =>
          rw [Withdrawals.step, hplace]
          exact hr
      | halts halt =>
          obtain ⟨rest, hrest⟩ := hr.funds
          rw [step_turn hplace]
          exact hr.after hplace hrest (hr.operates hplace hallows hrest)
  | others store => exact hr.elsewhere hallows
  | pass => exact ⟨hr.isAmount, hr.faults, hr.disciplined, hr.isProper, hr.isManned, hr.stands,
      hr.owner_eq, hr.knows, hr.funds⟩
  | ring => exact ⟨hr.isAmount, hr.faults, hr.disciplined, hr.isProper, hr.isManned, hr.stands,
      hr.owner_eq, hr.knows, hr.funds⟩

/-- So does every rush. -/
theorem run (hr : w.InRush opening h) (hrush : w.IsRush h moves) :
    w.InRush opening (w.run h moves) := by
  induction moves generalizing h with
  | nil => exact hr
  | cons move moves ih => exact ih (hr.step hrush.1) hrush.2

end InRush

end Withdrawals

end Teller
