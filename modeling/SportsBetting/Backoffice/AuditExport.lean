import SportsBetting.Data.Csv

/-!
# The export of the audit log

Rows are written as comma-separated values under a header. Cells with a quote, a
comma or a line feed are enclosed in quotes; those with a carriage return are not.
-/

namespace SportsBetting

structure AuditExportRow where
  id : String
  createdAt : String
  actorType : String
  actorId : Option String
  casinoGroupId : Option String
  action : String
  entityType : String
  entityId : Option String
  reason : Option String

namespace AuditExportRow

/-- The cells of a row, of which missing ones are empty. -/
def cells (row : AuditExportRow) : List String :=
  [row.id, row.createdAt, row.actorType, row.actorId.getD "", row.casinoGroupId.getD "",
    row.action, row.entityType, row.entityId.getD "", row.reason.getD ""]

end AuditExportRow

namespace AuditExport

/-- The cell matches `/[",\n]/`. -/
def encloses (cell : Csv.Cell) : Bool :=
  cell.any fun symbol => symbol = '"' || symbol = ',' || symbol = '\n'

def escapeCsv (value : String) : String :=
  if encloses value.toList then "\"" ++ String.ofList (Csv.double value.toList) ++ "\"" else value

def header : List String :=
  ["id", "createdAt", "actorType", "actorId", "casinoGroupId", "action", "entityType", "entityId",
    "reason"]

def auditRowsToCsv (rows : List AuditExportRow) : String :=
  let lines := rows.map fun row => ",".intercalate (row.cells.map escapeCsv)
  "\n".intercalate (",".intercalate header :: lines)

/-- The records that the text is meant to hold. -/
def records (rows : List AuditExportRow) : List Csv.Record :=
  (header :: rows.map AuditExportRow.cells).map fun record => record.map String.toList

section Text

theorem toList_escapeCsv (value : String) :
    (escapeCsv value).toList = Csv.writeCell encloses value.toList := by
  rw [escapeCsv, Csv.writeCell]
  split <;> simp

theorem toList_line (record : List String) :
    (",".intercalate (record.map escapeCsv)).toList =
      Csv.writeRecord encloses (record.map String.toList) := by
  rw [String.toList_intercalate, Csv.writeRecord, List.map_map, List.map_map]
  congr 1
  apply List.map_congr_left
  exact fun value _ => toList_escapeCsv value

theorem header_plain : header.map escapeCsv = header := by decide +kernel

theorem toList_auditRowsToCsv (rows : List AuditExportRow) :
    (auditRowsToCsv rows).toList = Csv.write encloses (records rows) := by
  have lines : ",".intercalate header :: rows.map (fun row =>
      ",".intercalate (row.cells.map escapeCsv)) =
        (header :: rows.map AuditExportRow.cells).map fun record =>
          ",".intercalate (record.map escapeCsv) := by
    rw [List.map_cons, header_plain, List.map_map]
    rfl
  rw [auditRowsToCsv, lines, String.toList_intercalate, Csv.write, records, List.map_map,
    List.map_map]
  congr 1
  apply List.map_congr_left
  exact fun record _ => toList_line record

end Text

theorem encloses_iff {cell : Csv.Cell} : encloses cell = true ↔
    ∃ symbol ∈ cell, symbol = '"' ∨ symbol = ',' ∨ symbol = '\n' := by
  simp [encloses, or_assoc]

theorem covers_encloses : Csv.Covers encloses := by
  intro cell symbol member special
  exact encloses_iff.mpr ⟨symbol, member, special⟩

/-- A cell is written as it reads, unless a carriage return is all that is special in it. -/
theorem proper_iff {cell : Csv.Cell} : Csv.Proper encloses cell ↔
    ('\r' ∈ cell → ∃ symbol ∈ cell, symbol = '"' ∨ symbol = ',' ∨ symbol = '\n') := by
  rw [Csv.Proper, encloses_iff]
  constructor
  · intro proper carriage
    apply proper.resolve_right
    exact fun ordinary => absurd (ordinary '\r' carriage) (by decide)
  · intro enclosed
    by_cases carriage : '\r' ∈ cell
    · exact .inl (enclosed carriage)
    · by_cases special : ∃ symbol ∈ cell, symbol = '"' ∨ symbol = ',' ∨ symbol = '\n'
      · exact .inl special
      · right
        intro symbol member
        have other : symbol ≠ '\r' := fun same => carriage (same ▸ member)
        have spared := not_exists.mp special symbol
        simp only [member, true_and, not_or] at spared
        simp [Csv.isSpecial, other, spared]

theorem length_records (rows : List AuditExportRow) :
    ∀ record ∈ records rows, record.length = 9 := by
  intro record member
  obtain ⟨known, inside, rfl⟩ := List.mem_map.mp member
  rw [List.length_map]
  rcases List.mem_cons.mp inside with rfl | inside
  · rfl
  · obtain ⟨row, _, rfl⟩ := List.mem_map.mp inside
    rfl

/-- The export reads back as the header and the rows exactly if every cell with a carriage
return also has a quote, a comma or a line feed. -/
theorem export_reads_back_iff (rows : List AuditExportRow) :
    Csv.parse (auditRowsToCsv rows).toList = some (records rows) ↔
      ∀ row ∈ rows, ∀ cell ∈ row.cells, '\r' ∈ cell.toList →
        ∃ symbol ∈ cell.toList, symbol = '"' ∨ symbol = ',' ∨ symbol = '\n' := by
  have long : ∀ record ∈ records rows, 2 ≤ record.length := by
    intro record member
    rw [length_records rows record member]
    decide
  rw [toList_auditRowsToCsv, Csv.parse_write_iff covers_encloses long]
  have headed : ∀ cell ∈ header, '\r' ∈ cell.toList →
      ∃ symbol ∈ cell.toList, symbol = '"' ∨ symbol = ',' ∨ symbol = '\n' := by
    decide +kernel
  simp only [records, List.map_cons, List.forall_mem_cons, List.map_map, List.forall_mem_map,
    Function.comp_apply, proper_iff]
  exact and_iff_right headed

/-- A reason with a carriage return, such as text pasted from elsewhere. -/
def pastedReason : AuditExportRow :=
  ⟨"a1", "2026-06-05T10:00:00.000Z", "staff", some "staff-1", some "cg1", "bets.voided", "Bet",
    some "bet-1", some "first\rsecond"⟩

theorem carriage_return_unreadable :
    Csv.parse (auditRowsToCsv [pastedReason]).toList = none := by
  rw [toList_auditRowsToCsv]
  decide +kernel

end AuditExport

end SportsBetting
