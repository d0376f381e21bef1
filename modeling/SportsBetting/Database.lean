import SportsBetting.Async.Query
import SportsBetting.Ledger

/-!
# The database and its query programs
-/

namespace SportsBetting

open Async

structure AuditEntry where
  actorType : String
  actorId : String
  /-- None where the entry belongs to no tenant. -/
  casinoGroupId : Option String
  action : String
  entityType : String
  entityId : String
  before : List (String × String)
  after : List (String × String)
  reason : Option String
  deriving DecidableEq

structure Database where
  catalog : Catalog
  ledger : Ledger
  audit : List AuditEntry
  staff : StaffTables := .empty

/-- A service that awaits database queries. -/
abbrev Service := Program (Query Database Failure) Failure

abbrev databaseMachine : Machine (Query Database Failure) Failure :=
  Query.machine Database Failure.database

/-- Run alone, a service keeps an invariant of the database. -/
abbrev Keeps {α : Type} (invariant : Database → Prop) (post : α → Database → Prop)
    (service : Service α) (db : Database) : Prop :=
  Upholds Failure.database invariant post service db

def read {α : Type} (view : Database → α) : Service α := Program.call (Query.read view)

def write (change : Database → Database) : Service Unit := Program.call (Query.write change)

def attempt (change : Database → Except Failure Database) : Service Unit :=
  Program.call (Query.attempt change)

def transaction {α : Type} (change : Database → Except Failure (α × Database)) : Service α :=
  Program.call (Query.transaction change)

/-- Audit entries are written on a best effort: a failure is only logged. -/
def recordAudit (entry : AuditEntry) : Service Unit :=
  (write fun db => { db with audit := db.audit ++ [entry] }).handle fun _ => pure ()

section Joins

variable (db : Database)

/-- The selection is one of a market of the event. -/
def selectionOfEvent (eventRef : String) (selection : Selection) : Bool :=
  match db.catalog.markets.get? selection.market with
  | some market => market.event = eventRef
  | none => false

theorem selectionOfEvent_iff {db : Database} {eventRef : String} {selection : Selection} :
    selectionOfEvent db eventRef selection = true ↔
      ∃ market ∈ db.catalog.markets,
        market.providerRef = selection.market ∧ market.event = eventRef := by
  unfold selectionOfEvent
  cases found : db.catalog.markets.get? selection.market with
  | none =>
      rw [Table.get?_eq_none_iff] at found
      simpa using fun market member same => absurd same (found market member)
  | some market =>
      obtain ⟨member, same⟩ := Table.get?_eq_some_iff.mp found
      constructor
      · intro on
        exact ⟨market, member, same, by simpa using on⟩
      · rintro ⟨other, present, named, on⟩
        rw [Table.eq_of_key member present (same.trans named.symm)]
        simpa using on

def leagueEnabled (casinoGroupId league : String) : Bool :=
  ((db.catalog.casinoGroupLeagues.get? (casinoGroupId, league)).map
    CasinoGroupLeague.enabled).getD false

/-- The event offers its league to the group. -/
def eventOffered (casinoGroupId : String) (event : Event) : Bool :=
  match db.catalog.fixtures.get? event.fixture with
  | some fixture => leagueEnabled db casinoGroupId fixture.league
  | none => false

end Joins

end SportsBetting
