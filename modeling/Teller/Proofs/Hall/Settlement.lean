/-
What comes of withdrawals that are made side by side.

* `Hall.rank`: no more operations than this are left, looks at a row that is not granted apart; a
  rush never makes it larger (`InRush.rank_run_le`);
* `Hall.IsReady`: the next operation of a call is no such look; as long as not all calls have ended,
  one of them is ready (`InRush.exists_isReady`), for a row that calls wait for is held by one of
  them; it stays so until its turn, and its turn makes the rank smaller (`InRush.rank_turn_lt`);
* `Hall.IsRound`: every call has a turn; `InRush.ends`: after enough rounds all calls have ended;
* `Withdrawals.IsSettled`: what comes of withdrawals in the end and on the way;
  `Withdrawals.isSettled_run`: so it is for every order of their operations.
-/
import Teller.Proofs.Desk.Rows
import Teller.Proofs.Hall.Basic

namespace Teller

namespace Hall

variable {σ : Type} {n : ℕ} {h : Hall σ n} {i j : Fin n} {halt : Halt}
  {out : Bank σ × (Halt ⊕ Turn Phase Outcome)}

/-- No more operations of all calls together are left than this. -/
def rank (h : Hall σ n) : ℕ := ∑ i, (h.places i).rank

/-- The call halts, and if it waits for its row the row is granted. -/
def IsReady (h : Hall σ n) (i : Fin n) : Prop :=
  ∃ halt, h.places i = .halts halt ∧ halt.IsReady h.bank.store

/-- A round of turns: every call has one at least. -/
def IsRound (moves : List (Move n)) : Prop := ∀ i, .turn i ∈ moves

lemma rank_put (h : Hall σ n) (bank : Bank σ) (i : Fin n) (place : Place) :
    (h.put bank i place).rank + (h.places i).rank = h.rank + place.rank :=
  h.sum_put (fun _ => Place.rank) bank i place

lemma rank_le (h : Hall σ n) : h.rank ≤ 6 * n := by
  have hle : ∀ i ∈ Finset.univ, (h.places i).rank ≤ 6 := by
    intro i _
    cases h.places i with
    | halts halt => exact halt.rank_le
    | ended => exact Nat.zero_le 6
  calc h.rank ≤ (Finset.univ : Finset (Fin n)).card • 6 := Finset.sum_le_card_nsmul _ _ 6 hle
    _ = 6 * n := by rw [Finset.card_univ, Fintype.card_fin, smul_eq_mul, mul_comm]

/-- All calls have ended when no operation is left. -/
lemma hasEnded_iff : h.HasEnded ↔ h.rank = 0 := by
  rw [HasEnded, rank, Finset.sum_eq_zero_iff]
  refine forall_congr' fun i => ?_
  cases h.places i with
  | halts halt => simp [Place.rank, halt.rank_pos.ne']
  | ended result => simp [Place.rank]

lemma bank_after (h : Hall σ n) (i : Fin n) : (h.after i out).bank = out.1 := by
  rcases out with ⟨bank, halt | turn⟩
  · rfl
  · cases turn <;> rfl

lemma places_after_of_ne (hne : j ≠ i) : (h.after i out).places j = h.places j := by
  rcases out with ⟨bank, halt | turn⟩
  · exact h.places_put_of_ne bank _ hne
  · cases turn with
    | waiting => rfl
    | done => exact h.places_put_of_ne bank _ hne

/-- An operation is one of those that were left, unless it looks at a row that is not granted. -/
lemma rank_after {key : WalletKey} {amount rest : Decimal} (hplace : h.places i = .halts halt)
    (hop : h.bank.Operates key amount rest halt out) :
    (h.after i out).rank ≤ h.rank ∧
      (halt.IsReady h.bank.store → (h.after i out).rank < h.rank) := by
  have hless : ∀ bank place, place.rank < halt.rank → (h.put bank i place).rank < h.rank := by
    intro bank place hlt
    have hput := h.rank_put bank i place
    rw [hplace, Place.rank] at hput
    omega
  have hends : ∀ bank result, (h.put bank i (.ended result)).rank < h.rank :=
    fun bank result => hless bank (.ended result) halt.rank_pos
  cases hop with
  | stays hnot => exact ⟨le_rfl, fun hready => absurd hready hnot⟩
  | @goes s halt' _ _ _ _ hrank =>
      have hgoes := hless (h.bank.withStore s) (.halts halt') hrank
      exact ⟨hgoes.le, fun _ => hgoes⟩
  | pays => exact ⟨(hends _ _).le, fun _ => hends _ _⟩
  | refuses => exact ⟨(hends _ _).le, fun _ => hends _ _⟩

end Hall

namespace Withdrawals

variable {σ : Type} {n : ℕ} {w : Withdrawals n} {h : Hall σ n} {move : Move n}
  {moves : List (Move n)} {i j : Fin n} {halt : Halt} {place : Place} {tx : TxId} {opening : ℚ}

namespace InRush

/-! ### What is left to do -/

lemma rank_step_le (hr : w.InRush opening h) (hallows : w.Allows h move) :
    (w.step h move).rank ≤ h.rank := by
  cases move with
  | turn i =>
      cases hplace : h.places i with
      | ended result => rw [Withdrawals.step, hplace]
      | halts halt =>
          obtain ⟨rest, hrest⟩ := hr.funds
          rw [step_turn hplace]
          exact (Hall.rank_after hplace (hr.operates hplace hallows hrest)).1
  | _ => exact le_rfl

lemma rank_run_le (hr : w.InRush opening h) (hrush : w.IsRush h moves) :
    (w.run h moves).rank ≤ h.rank := by
  induction moves generalizing h with
  | nil => exact le_rfl
  | cons move moves ih =>
      calc (w.run (w.step h move) moves).rank
          ≤ (w.step h move).rank := ih (hr.step hrush.1) hrush.2
        _ ≤ h.rank := hr.rank_step_le hrush.1

/-- The turn of a call that is ready is not in vain. -/
lemma rank_turn_lt (hr : w.InRush opening h) (hready : h.IsReady i)
    (hallows : w.Allows h (.turn i)) : (w.step h (.turn i)).rank < h.rank := by
  obtain ⟨halt, hplace, hready⟩ := hready
  obtain ⟨rest, hrest⟩ := hr.funds
  rw [step_turn hplace]
  exact (Hall.rank_after hplace (hr.operates hplace hallows hrest)).2 hready

/-- Before its turn a call stays where it is, and it can rely on its locks. -/
lemma leaves (hr : w.InRush opening h) (hallows : w.Allows h move) (hne : move ≠ .turn i) :
    (w.step h move).places i = h.places i ∧
      ∀ tx, h.Owns i tx → Store.Later tx h.bank.store (w.step h move).bank.store := by
  cases move with
  | turn j =>
      have hother : i ≠ j := fun heq => hne (heq ▸ rfl)
      cases hplace : h.places j with
      | ended result =>
          rw [Withdrawals.step, hplace]
          exact ⟨rfl, fun tx _ => .refl tx _⟩
      | halts halt =>
          obtain ⟨rest, hrest⟩ := hr.funds
          have hop := hr.operates hplace hallows hrest
          rw [step_turn hplace]
          refine ⟨Hall.places_after_of_ne hother, fun tx ho => ?_⟩
          rw [Hall.bank_after]
          exact hop.path.later hr.disciplined (hr.ne_actor hplace hother ho)
  | others store =>
      refine ⟨rfl, fun tx ho => ?_⟩
      cases hallows with
      | acts ha hnot => exact .of_act hr.disciplined ha fun heq => hnot ⟨i, heq ▸ ho⟩
      | publishes => exact .of_eq rfl rfl rfl
  | pass => exact ⟨rfl, fun tx _ => .refl tx _⟩
  | ring => exact ⟨rfl, fun tx _ => .refl tx _⟩

/-- A call that is ready stays ready until its turn. -/
lemma isReady_step (hr : w.InRush opening h) (hallows : w.Allows h move) (hne : move ≠ .turn i)
    (hready : h.IsReady i) : (w.step h move).IsReady i := by
  obtain ⟨halt, hplace, hready⟩ := hready
  obtain ⟨hstays, hlater⟩ := hr.leaves hallows hne
  refine ⟨halt, hstays.trans hplace, ?_⟩
  cases halt with
  | waiting trail wait => exact (hlater _ (congrArg Place.tx? hplace)).holder hready
  | _ => trivial

lemma isReady_run (hr : w.InRush opening h) (hrush : w.IsRush h moves) (hnot : .turn i ∉ moves)
    (hready : h.IsReady i) : (w.run h moves).IsReady i := by
  induction moves generalizing h with
  | nil => exact hready
  | cons move moves ih =>
      rw [List.mem_cons, not_or] at hnot
      exact ih (hr.step hrush.1) hrush.2 hnot.2
        (hr.isReady_step hrush.1 (Ne.symm hnot.1) hready)

/-- A call that holds the row is ready. -/
lemma isReady_of_holder (hr : w.InRush opening h) (ho : h.Owns i tx)
    (hheld : (h.bank.store.lock w.row).holder = some tx) : h.IsReady i := by
  rw [Hall.Owns] at ho
  cases hplace : h.places i with
  | ended result => simp [hplace, Place.tx?] at ho
  | halts halt =>
      rw [hplace] at ho
      refine ⟨halt, hplace, ?_⟩
      cases hr.stands hplace with
      | waiting => exact hheld.trans ho.symm
      | _ => trivial

/-- While not all calls have ended, one of them is ready: if one waits for the row, then one of them
holds it. -/
lemma exists_isReady (hr : w.InRush opening h) (hnot : ¬ h.HasEnded) : ∃ i, h.IsReady i := by
  obtain ⟨i, hi⟩ := not_forall.mp hnot
  cases hplace : h.places i with
  | ended result => exact absurd ⟨result, hplace⟩ hi
  | halts halt =>
      cases hr.stands hplace with
      | waiting hcontent hknows =>
          -- the row is held, and by a call, for nobody else knows it
          obtain ⟨tx, hheld⟩ := hr.isManned.exists_holder hknows
          obtain ⟨j, ho⟩ := hr.knows (.inl hheld)
          exact ⟨j, hr.isReady_of_holder ho hheld⟩
      | _ => exact ⟨i, _, hplace, trivial⟩

/-! ### Rounds of turns -/

/-- A round of turns is not in vain while not all calls have ended. -/
lemma rank_round_lt (hr : w.InRush opening h) (hrush : w.IsRush h moves)
    (hround : Hall.IsRound moves) (hnot : ¬ h.HasEnded) : (w.run h moves).rank < h.rank := by
  obtain ⟨i, hready⟩ := hr.exists_isReady hnot
  -- until its first turn the call stays ready
  obtain ⟨before, after, rfl, hfirst⟩ := List.eq_append_cons_of_mem (hround i)
  obtain ⟨hbefore, hturn, hafter⟩ := isRush_append.mp hrush
  have hr' := hr.run hbefore
  rw [run_append]
  calc (w.run (w.step (w.run h before) (.turn i)) after).rank
      ≤ (w.step (w.run h before) (.turn i)).rank := (hr'.step hturn).rank_run_le hafter
    _ < (w.run h before).rank := hr'.rank_turn_lt (hr.isReady_run hbefore hfirst hready) hturn
    _ ≤ h.rank := hr.rank_run_le hbefore

/-- After as many rounds as operations are left, all calls have ended. -/
theorem ends (hr : w.InRush opening h) {rounds : List (List (Move n))}
    (hrush : w.IsRush h rounds.flatten) (hrounds : ∀ round ∈ rounds, Hall.IsRound round)
    (hlength : h.rank ≤ rounds.length) : (w.run h rounds.flatten).HasEnded := by
  -- on the rounds: each of them lowers the number of operations that are left
  induction rounds generalizing h with
  | nil => exact Hall.hasEnded_iff.mpr (Nat.le_zero.mp hlength)
  | cons round rounds ih =>
      rw [List.flatten_cons] at hrush ⊢
      obtain ⟨hfirst, hrest⟩ := isRush_append.mp hrush
      rw [List.forall_mem_cons] at hrounds
      rw [List.length_cons] at hlength
      rw [run_append]
      refine ih (hr.run hfirst) hrest hrounds.2 ?_
      by_cases hended : h.HasEnded
      · have hle := hr.rank_run_le hfirst
        rw [Hall.hasEnded_iff] at hended
        omega
      · have hlt := hr.rank_round_lt hfirst hrounds.1 hended
        omega

end InRush

/-! ### What comes of withdrawals -/

/-- As many of n equal amounts as a balance allows, when the next one would be too much. -/
lemma eq_min_floor {k n : ℕ} {a balance : ℚ} (ha : 0 < a) (hk : k ≤ n) (hle : k * a ≤ balance)
    (hshort : k < n → balance < (k + 1) * a) : k = min n ⌊balance / a⌋₊ := by
  have hfloor : k ≤ ⌊balance / a⌋₊ := Nat.le_floor ((le_div_iff₀ ha).mpr hle)
  rcases hk.eq_or_lt with rfl | hlt
  · rw [min_eq_left hfloor]
  · have hpos : 0 ≤ balance / a := le_trans (by positivity) ((le_div_iff₀ ha).mpr hle)
    have hceil : ⌊balance / a⌋₊ < k + 1 := by
      rw [Nat.floor_lt hpos, div_lt_iff₀ ha]
      push_cast
      exact hshort hlt
    omega

/-- What is paid in equal amounts. -/
lemma paid_of_equal {a : ℚ} (hequal : ∀ i, (w.amount i).toRat = a) :
    w.paid h = (Finset.univ.filter fun i => (h.places i).isPaid).card * a := by
  simp only [paid, hequal]
  rw [← Finset.sum_filter, Finset.sum_const, nsmul_eq_mul]

/-- Of equal amounts as many are paid as the balance allows, or all of them. -/
lemma InRush.card_isPaid (hr : w.InRush opening h) {a : ℚ} (hequal : ∀ i, (w.amount i).toRat = a)
    (hended : h.HasEnded) :
    (Finset.univ.filter fun i => (h.places i).isPaid).card = min n ⌊opening / a⌋₊ := by
  obtain ⟨rest, hrow, hsum, hall⟩ := hr.funds
  have hpos : 0 ≤ rest.toRat := (hr.isProper hrow).toRat_nonneg
  rw [paid_of_equal hequal] at hsum
  rcases n.eq_zero_or_pos with rfl | hn
  · simp
  have ha : 0 < a := hequal ⟨0, hn⟩ ▸ (hr.isAmount ⟨0, hn⟩).toRat_pos
  refine eq_min_floor ha ?_ (by linarith) fun hlt => ?_
  · exact (Finset.card_filter_le ..).trans_eq (Finset.card_fin n)
  · -- somebody was refused, so less than the amount is left
    obtain ⟨i, hi⟩ : ∃ i, ¬ (h.places i).isPaid = true := by
      by_contra! hpaid
      rw [Finset.filter_true_of_mem fun i _ => hpaid i, Finset.card_fin] at hlt
      exact lt_irrefl n hlt
    obtain ⟨result, hresult⟩ := hended i
    rw [hresult] at hi
    obtain ⟨-, hshort⟩ := (hall i result hresult).resolve_left hi
    rw [hequal i] at hshort
    linarith

/-- What comes of withdrawals from a row in which there was this balance. -/
structure IsSettled (w : Withdrawals n) (balance : Decimal) (h : Hall σ n) : Prop where
  /-- What has not been paid is left, and those that have ended were paid, or refused for more than
  is left. -/
  rest : ∃ rest, w.Settles balance.toRat h rest
  /-- No more is paid than there was. -/
  paid_le : w.paid h ≤ balance.toRat
  /-- All of them end: they have ended after so many rounds of turns. -/
  ends (rounds : List (List (Move n))) : 6 * n ≤ rounds.length → w.IsRush h rounds.flatten →
    (∀ round ∈ rounds, Hall.IsRound round) → (w.run h rounds.flatten).HasEnded
  /-- Of equal amounts as many are paid as the balance allows, or all of them. -/
  equal {a : ℚ} : (∀ i, (w.amount i).toRat = a) → h.HasEnded →
    (Finset.univ.filter fun i => (h.places i).isPaid).card = min n ⌊balance.toRat / a⌋₊

lemma InRush.isSettled {balance : Decimal} (hr : w.InRush balance.toRat h) :
    w.IsSettled balance h where
  rest := hr.funds
  paid_le := by
    obtain ⟨rest, hrow, hsum, -⟩ := hr.funds
    have hpos : 0 ≤ rest.toRat := (hr.isProper hrow).toRat_nonneg
    linarith
  ends rounds hlength hrush hrounds := hr.ends hrush hrounds (h.rank_le.trans hlength)
  equal hequal hended := hr.card_isPaid hequal hended

/-- The hall at the beginning of a rush. -/
lemma inRush_enter [RateProvider σ] {d : Desk σ} (hreach : d.IsReachable)
    (hfaults : d.bank.store.faults = []) (hquiet : d.IsQuietAt w.row) {balance : Decimal}
    (hrow : d.bank.store.sheet w.row = some balance)
    (haccepted : ∀ i, ∃ money, Money.positive (w.amount i) w.row.currency = .ok money) :
    w.InRush balance.toRat (.enter n d.bank) where
  isAmount i := by
    obtain ⟨money, hm⟩ := haccepted i
    exact (Money.isAmount_of_positive hm).2
  faults := hfaults
  disciplined := hreach.isSound.disciplined
  isProper := hreach.isSound.isProper
  isManned := hreach.keepsRows.isManned w.row
  stands {i halt} hplace := Place.halts.inj hplace ▸ .opening
  owner_eq ho := by simp [Hall.Owns, Hall.enter, Place.tx?, Halt.tx?] at ho
  knows hk := by
    obtain ⟨id, ho⟩ := hreach.keepsRows.knows hk
    exact absurd ho hquiet.not_ownsAt
  funds := by
    refine ⟨balance, hrow, ?_, fun i result hplace => by simp [Hall.enter] at hplace⟩
    simp [paid, Hall.enter, Place.isPaid]

/-- Withdrawals of accepted amounts that are made from one wallet side by side, while others keep
away from it, nothing is made to fail and no call is given up, are paid as long as there is enough,
in whatever order their operations on the store come. -/
theorem isSettled_run [RateProvider σ] {d : Desk σ} (hreach : d.IsReachable)
    (hfaults : d.bank.store.faults = []) (hquiet : d.IsQuietAt w.row) {balance : Decimal}
    (hrow : d.bank.store.sheet w.row = some balance)
    (haccepted : ∀ i, ∃ money, Money.positive (w.amount i) w.row.currency = .ok money)
    (hrush : w.IsRush (.enter n d.bank) moves) :
    w.IsSettled balance (w.run (.enter n d.bank) moves) :=
  ((inRush_enter hreach hfaults hquiet hrow haccepted).run hrush).isSettled

/-- The one that asks first is paid, though the other was the first to begin; what is left is too
little for the other. -/
theorem isSettled_run_funded :
    let desk := Desk.funded ⟨false, 92, 2, by decide, by decide⟩
      ⟨false, 1250, 2, by decide, by decide⟩
    let w : Withdrawals 2 := ⟨⟨⟨.random 0⟩, .usd⟩,
      ![⟨false, 1000, 2, by decide, by decide⟩, ⟨false, 500, 2, by decide, by decide⟩]⟩
    let moves : List (Move 2) := [.turn 0, .turn 1, .turn 1, .turn 0, .turn 0, .turn 1, .turn 0,
      .turn 1, .turn 1, .turn 1, .turn 0, .turn 0]
    w.IsRush (.enter 2 desk.bank) moves ∧
      (List.finRange 2).map (fun i => ((w.run (.enter 2 desk.bank) moves).places i).isPaid)
        = [false, true] ∧
      w.IsSettled ⟨false, 1250, 2, by decide, by decide⟩ (w.run (.enter 2 desk.bank) moves) := by
  intro desk w moves
  have hrush : w.IsRush (.enter 2 desk.bank) moves := by
    refine ⟨?_, ?_, ?_, ?_, ?_, ?_, ?_, ?_, ?_, ?_, ?_, ?_, trivial⟩ <;> decide +kernel
  refine ⟨hrush, by decide +kernel,
    isSettled_run (Desk.isReachable_funded _ _) (by decide +kernel) ?_ ?_ ?_ hrush⟩
  · exact Desk.isQuietAt_of_keys (by decide +kernel)
  · decide +kernel
  · intro i
    fin_cases i
    · exact ⟨⟨⟨false, 1000, 2, by decide, by decide⟩, .usd⟩, by decide +kernel⟩
    · exact ⟨⟨⟨false, 500, 2, by decide, by decide⟩, .usd⟩, by decide +kernel⟩

end Withdrawals

end Teller
