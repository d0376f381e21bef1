import SportsBetting.Schema
import Mathlib.Logic.Function.Basic

/-!
# Bets and their outbox rows

The ledger carries the unique placement key `(casinoGroupId, userId,
idempotencyKey)` of its bets as a field, next to the keys of its two tables.
-/

namespace SportsBetting

structure Ledger where
  bets : Table Bet Bet.id
  walletOutbox : Table WalletOutbox WalletOutbox.key
  placements : (bets.rows.map Bet.placement).Nodup
  deriving DecidableEq

namespace Ledger

def empty : Ledger := ⟨.empty, .empty, List.nodup_nil⟩

/-- Two bets under one placement key are one bet. -/
theorem eq_of_placement {ledger : Ledger} {first second : Bet} (hfirst : first ∈ ledger.bets)
    (hsecond : second ∈ ledger.bets) (same : first.placement = second.placement) :
    first = second :=
  List.inj_on_of_nodup_map ledger.placements hfirst hsecond same

def findBetByKey (ledger : Ledger) (placement : String × String × String) : Option Bet :=
  ledger.bets.rows.find? fun bet => bet.placement = placement

def outboxOf (ledger : Ledger) (betId : String) (type : OutboxType) : Option WalletOutbox :=
  ledger.walletOutbox.get? (betId, type)

section Writes

/-- Create a bet with its nested outbox row; every unique key must be free. -/
def createBet (ledger : Ledger) (bet : Bet) (row : WalletOutbox) : Option Ledger :=
  if fresh : ∀ other ∈ ledger.bets.rows, other.placement ≠ bet.placement then
    if ledger.walletOutbox.rows.any fun other => other.transactionCode = row.transactionCode then
      none
    else
      match inserted : ledger.bets.insert? bet, ledger.walletOutbox.insert? row with
      | some bets, some walletOutbox => some ⟨bets, walletOutbox, by
          rw [Table.rows_of_insert? inserted, List.map_append, List.nodup_append]
          refine ⟨ledger.placements, by simp, ?_⟩
          rintro _ taken _ new rfl
          obtain ⟨other, member, same⟩ := List.mem_map.mp taken
          exact fresh other member (by simpa [same] using new)⟩
      | _, _ => none
  else none

/-- Update the chosen bets, keeping their keys. -/
def modifyBets (ledger : Ledger) (chosen : Bet → Bool) (change : Bet → Bet)
    (keepsId : ∀ bet, (change bet).id = bet.id := by intro bet; rfl)
    (keepsPlacement : ∀ bet, (change bet).placement = bet.placement := by intro bet; rfl) :
    Ledger where
  bets := ledger.bets.updateWhere chosen change keepsId
  walletOutbox := ledger.walletOutbox
  placements := by
    have same : (ledger.bets.updateWhere chosen change keepsId).rows.map Bet.placement =
        ledger.bets.rows.map Bet.placement := by
      unfold Table.updateWhere
      rw [List.map_map]
      refine List.map_congr_left fun bet _ => ?_
      by_cases hit : chosen bet = true <;> simp [hit, keepsPlacement]
    rw [same]
    exact ledger.placements

def modifyOutbox (ledger : Ledger) (chosen : WalletOutbox → Bool)
    (change : WalletOutbox → WalletOutbox)
    (keeps : ∀ row, (change row).key = row.key := by intro row; rfl) : Ledger :=
  { ledger with walletOutbox := ledger.walletOutbox.updateWhere chosen change keeps }

/-- Create an outbox row; its key and its transaction code must be free. -/
def createOutbox (ledger : Ledger) (row : WalletOutbox) : Option Ledger :=
  if ledger.walletOutbox.rows.any fun other => other.transactionCode = row.transactionCode then
    none
  else (ledger.walletOutbox.insert? row).map fun walletOutbox => { ledger with walletOutbox }

/-- Delete bets together with their outbox rows. -/
def deleteBets (ledger : Ledger) (doomed : String → Bool) : Ledger where
  bets := ledger.bets.deleteWhere fun bet => doomed bet.id
  walletOutbox := ledger.walletOutbox.deleteWhere fun row => doomed row.betId
  placements := (List.Sublist.map Bet.placement List.filter_sublist).nodup ledger.placements

end Writes

/-- What the ledger has on one bet: the bet and its outbox rows. -/
structure Entry where
  bet : Option Bet
  reserve : Option WalletOutbox
  settle : Option WalletOutbox
  staffVoid : Option WalletOutbox

def entry (ledger : Ledger) (betId : String) : Entry where
  bet := ledger.bets.get? betId
  reserve := ledger.outboxOf betId .walletReserve
  settle := ledger.outboxOf betId .walletSettle
  staffVoid := ledger.outboxOf betId .walletStaffVoid

section Entries

variable {ledger after : Ledger}

/-- Change the entry where it has a bet, and its rows. -/
def Entry.map (onBet : Bet → Bet) (onRow : WalletOutbox → WalletOutbox) (entry : Entry) : Entry where
  bet := entry.bet.map onBet
  reserve := entry.reserve.map onRow
  settle := entry.settle.map onRow
  staffVoid := entry.staffVoid.map onRow

theorem Entry.map_id (entry : Entry) : entry.map (fun bet => bet) (fun row => row) = entry := by
  simp [Entry.map]

theorem entry_modifyBets (chosen : Bet → Bool) (change : Bet → Bet)
    (keepsId : ∀ bet, (change bet).id = bet.id)
    (keepsPlacement : ∀ bet, (change bet).placement = bet.placement) (betId : String) :
    (ledger.modifyBets chosen change keepsId keepsPlacement).entry betId =
      (ledger.entry betId).map (fun bet => if chosen bet then change bet else bet)
        (fun row => row) := by
  simp [entry, Entry.map, modifyBets, outboxOf, Table.get?_updateWhere]

theorem entry_modifyOutbox (chosen : WalletOutbox → Bool) (change : WalletOutbox → WalletOutbox)
    (keeps : ∀ row, (change row).key = row.key) (betId : String) :
    (ledger.modifyOutbox chosen change keeps).entry betId =
      (ledger.entry betId).map (fun bet => bet)
        (fun row => if chosen row then change row else row) := by
  simp [entry, Entry.map, modifyOutbox, outboxOf, Table.get?_updateWhere]

theorem entry_bet {betId : String} {bet : Bet} :
    (ledger.entry betId).bet = some bet ↔ bet ∈ ledger.bets ∧ bet.id = betId :=
  Table.get?_eq_some_iff

theorem entry_of_bet {bet : Bet} (stored : bet ∈ ledger.bets) :
    (ledger.entry bet.id).bet = some bet :=
  Table.get?_of_mem stored

/-- The row of a type in an entry. -/
def Entry.row (entry : Entry) : OutboxType → Option WalletOutbox
  | .walletReserve => entry.reserve
  | .walletSettle => entry.settle
  | .walletStaffVoid => entry.staffVoid

theorem outboxOf_eq_row (betId : String) (type : OutboxType) :
    ledger.outboxOf betId type = (ledger.entry betId).row type := by
  cases type <;> rfl

theorem entry_row {betId : String} {type : OutboxType} {row : WalletOutbox} :
    (ledger.entry betId).row type = some row ↔
      row ∈ ledger.walletOutbox ∧ row.betId = betId ∧ row.type = type := by
  rw [← outboxOf_eq_row, outboxOf, Table.get?_eq_some_iff]
  simp [WalletOutbox.key]

theorem Entry.ext_row {first second : Entry} (bet : first.bet = second.bet)
    (rows : ∀ type, first.row type = second.row type) : first = second := by
  cases first
  cases second
  have reserve := rows .walletReserve
  have settle := rows .walletSettle
  have staffVoid := rows .walletStaffVoid
  simp only [Entry.row] at bet reserve settle staffVoid
  simp only [bet, reserve, settle, staffVoid]

/-- Put a row into the place of its type. -/
def Entry.setRow (entry : Entry) (row : WalletOutbox) : Entry :=
  match row.type with
  | .walletReserve => { entry with reserve := some row }
  | .walletSettle => { entry with settle := some row }
  | .walletStaffVoid => { entry with staffVoid := some row }

def Entry.setBet (entry : Entry) (bet : Bet) : Entry := { entry with bet := some bet }

@[simp] theorem Entry.setBet_bet (entry : Entry) (bet : Bet) :
    (entry.setBet bet).bet = some bet := rfl

@[simp] theorem Entry.setBet_row (entry : Entry) (bet : Bet) (type : OutboxType) :
    (entry.setBet bet).row type = entry.row type := by
  cases type <;> rfl

@[simp] theorem Entry.setRow_bet (entry : Entry) (row : WalletOutbox) :
    (entry.setRow row).bet = entry.bet := by
  unfold setRow
  cases row.type <;> rfl

theorem Entry.setRow_row (entry : Entry) (row : WalletOutbox) (type : OutboxType) :
    (entry.setRow row).row type = if row.type = type then some row else entry.row type := by
  unfold setRow
  cases row.type <;> cases type <;> rfl

@[simp] theorem Entry.map_row (entry : Entry) (onBet : Bet → Bet)
    (onRow : WalletOutbox → WalletOutbox) (type : OutboxType) :
    (entry.map onBet onRow).row type = (entry.row type).map onRow := by
  cases type <;> rfl

/-- Where an entry is written with a bet and a row, a bet is this one or was there before. -/
theorem bet_of_update {betId other : String} {bet found : Bet} {row : WalletOutbox}
    (entries : after.entry = Function.update ledger.entry betId
      (((ledger.entry betId).setBet bet).setRow row))
    (stored : (after.entry other).bet = some found) :
    other = betId ∧ found = bet ∨ other ≠ betId ∧ (ledger.entry other).bet = some found := by
  rw [entries] at stored
  by_cases here : other = betId
  · subst here
    rw [Function.update_self, Entry.setRow_bet, Entry.setBet_bet] at stored
    exact .inl ⟨rfl, (Option.some.inj stored).symm⟩
  · rw [Function.update_of_ne here] at stored
    exact .inr ⟨here, stored⟩

theorem row_of_update {betId other : String} {bet : Bet} {row found : WalletOutbox}
    {type : OutboxType} (entries : after.entry = Function.update ledger.entry betId
      (((ledger.entry betId).setBet bet).setRow row))
    (stored : (after.entry other).row type = some found) :
    other = betId ∧ row.type = type ∧ found = row ∨ (ledger.entry other).row type = some found := by
  rw [entries] at stored
  by_cases here : other = betId
  · subst here
    rw [Function.update_self, Entry.setRow_row, Entry.setBet_row] at stored
    by_cases hit : row.type = type
    · rw [if_pos hit] at stored
      exact .inl ⟨rfl, hit, (Option.some.inj stored).symm⟩
    · rw [if_neg hit] at stored
      exact .inr stored
  · rw [Function.update_of_ne here] at stored
    exact .inr stored

/-- A new bet comes with its row, and both keys and the transaction code were free. -/
theorem createBet_some {bet : Bet} {row : WalletOutbox} (own : row.betId = bet.id)
    (created : ledger.createBet bet row = some after) :
    (ledger.entry bet.id).bet = none ∧ (ledger.entry bet.id).row row.type = none ∧
    after.entry = Function.update ledger.entry bet.id
      (((ledger.entry bet.id).setBet bet).setRow row) := by
  unfold createBet at created
  split at created
  · split at created
    · cases created
    · split at created
      · next bets walletOutbox inserted row? =>
          obtain rfl := Option.some.inj created
          have fresh : ledger.walletOutbox.get? (bet.id, row.type) = none := by
            rw [← own]
            exact Table.get?_eq_none_iff.mpr (Table.insert?_spec row?).1
          refine ⟨Table.get?_eq_none_iff.mpr (Table.insert?_spec inserted).1, ?_, ?_⟩
          · rwa [← outboxOf_eq_row]
          · funext betId
            have bet? := Table.get?_of_insert? inserted betId
            have row?' := fun type => Table.get?_of_insert? row? (betId, type)
            by_cases here : betId = bet.id
            · subst here
              rw [Function.update_self]
              apply Entry.ext_row
              · simpa [entry] using bet?
              · intro type
                rw [Entry.setRow_row, Entry.setBet_row, ← outboxOf_eq_row, ← outboxOf_eq_row]
                simpa [outboxOf, WalletOutbox.key, own] using row?' type
            · rw [Function.update_of_ne here]
              apply Entry.ext_row
              · simpa [entry, Ne.symm here] using bet?
              · intro type
                rw [← outboxOf_eq_row, ← outboxOf_eq_row]
                simpa [outboxOf, WalletOutbox.key, own, Ne.symm here] using row?' type
      · cases created
  · cases created

theorem createOutbox_some {row : WalletOutbox} (created : ledger.createOutbox row = some after) :
    (ledger.entry row.betId).row row.type = none ∧
    after.entry = Function.update ledger.entry row.betId ((ledger.entry row.betId).setRow row) := by
  unfold createOutbox at created
  split at created
  · cases created
  · obtain ⟨walletOutbox, inserted, rfl⟩ := Option.map_eq_some_iff.mp created
    constructor
    · rw [← outboxOf_eq_row]
      exact Table.get?_eq_none_iff.mpr (Table.insert?_spec inserted).1
    · funext betId
      have row? := fun type => Table.get?_of_insert? inserted (betId, type)
      by_cases here : betId = row.betId
      · subst here
        rw [Function.update_self]
        apply Entry.ext_row
        · simp [entry]
        · intro type
          rw [Entry.setRow_row, ← outboxOf_eq_row, ← outboxOf_eq_row]
          simpa [outboxOf, WalletOutbox.key] using row? type
      · rw [Function.update_of_ne here]
        apply Entry.ext_row
        · simp [entry]
        · intro type
          rw [← outboxOf_eq_row, ← outboxOf_eq_row]
          simpa [outboxOf, WalletOutbox.key, Ne.symm here] using row? type

/-- Updating one bet changes its entry only. -/
theorem entry_modifyBet {betId : String} {bet : Bet} (change : Bet → Bet)
    (keepsId : ∀ bet, (change bet).id = bet.id)
    (keepsPlacement : ∀ bet, (change bet).placement = bet.placement)
    (stored : (ledger.entry betId).bet = some bet) :
    (ledger.modifyBets (fun bet => bet.id = betId) change keepsId keepsPlacement).entry =
      Function.update ledger.entry betId ((ledger.entry betId).setBet (change bet)) := by
  funext other
  rw [entry_modifyBets]
  by_cases here : other = betId
  · subst here
    rw [Function.update_self]
    apply Entry.ext_row
    · simp [Entry.map, stored, (entry_bet.mp stored).2]
    · simp
  · rw [Function.update_of_ne here]
    apply Entry.ext_row
    · cases found : (ledger.entry other).bet with
      | none => simp [Entry.map, found]
      | some stored => simp [Entry.map, found, (entry_bet.mp found).2, here]
    · simp

/-- Updating one row changes its entry only. -/
theorem entry_modifyRow (key : String × OutboxType) {row : WalletOutbox}
    (change : WalletOutbox → WalletOutbox) (keeps : ∀ row, (change row).key = row.key)
    (stored : (ledger.entry key.1).row key.2 = some row) :
    (ledger.modifyOutbox (fun row => row.key = key) change keeps).entry =
      Function.update ledger.entry key.1 ((ledger.entry key.1).setRow (change row)) := by
  have type : (change row).type = key.2 :=
    (Prod.mk.inj (keeps row)).2.trans (entry_row.mp stored).2.2
  funext other
  rw [entry_modifyOutbox]
  by_cases here : other = key.1
  · subst here
    rw [Function.update_self]
    apply Entry.ext_row
    · simp [Entry.map]
    · intro wanted
      rw [Entry.setRow_row, Entry.map_row, type]
      cases found : (ledger.entry key.1).row wanted with
      | none =>
          have apart : key.2 ≠ wanted := by
            rintro rfl
            rw [stored] at found
            cases found
          simp [apart]
      | some other =>
          obtain ⟨_, bet, same⟩ := entry_row.mp found
          by_cases hit : key.2 = wanted
          · subst hit
            obtain rfl := Option.some.inj (stored.symm.trans found)
            simp [WalletOutbox.key, bet, same]
          · have apart : other.key ≠ key := by
              rintro rfl
              exact hit same
            simp [hit, apart]
  · rw [Function.update_of_ne here]
    apply Entry.ext_row
    · simp [Entry.map]
    · intro wanted
      rw [Entry.map_row]
      cases found : (ledger.entry other).row wanted with
      | none => rfl
      | some row =>
          have apart : row.key ≠ key := by
            rintro rfl
            exact here (entry_row.mp found).2.1.symm
          simp [apart]

end Entries

end Ledger

end SportsBetting
