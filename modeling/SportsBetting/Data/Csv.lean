import Mathlib.Data.List.Infix

/-!
# Comma-separated values

The reader of RFC 4180 takes a text apart symbol by symbol. What a writer
encloses in quotes is up to the writer; the text reads back as written exactly
if that includes every cell with a quote, a comma or a line break.
-/

namespace Csv

abbrev Cell := List Char

abbrev Record := List Cell

inductive Mode
  /-- Nothing of the cell has been read. -/
  | start
  | plain
  | quoted
  /-- A quote in a quoted cell: the first of two, or the end of the cell. -/
  | closing
  /-- A carriage return outside quotes. -/
  | carriage
  deriving DecidableEq

structure Reader where
  mode : Mode
  cell : Cell
  record : Record
  records : List Record
  deriving DecidableEq

namespace Reader

variable (reader : Reader)

def push (mode : Mode) (symbol : Char) : Reader :=
  { reader with mode, cell := reader.cell ++ [symbol] }

def endCell : Reader :=
  { reader with mode := .start, cell := [], record := reader.record ++ [reader.cell] }

def endRecord : Reader :=
  ⟨.start, [], [], reader.records ++ [reader.record ++ [reader.cell]]⟩

/-- What may follow a cell that is complete. -/
def separate (symbol : Char) : Option Reader :=
  if symbol = ',' then some reader.endCell
  else if symbol = '\n' then some reader.endRecord
  else if symbol = '\r' then some { reader with mode := .carriage }
  else none

/-- None where the text is not well formed. -/
def step (symbol : Char) : Option Reader :=
  match reader.mode with
  | .start =>
      if symbol = '"' then some { reader with mode := .quoted }
      else (reader.separate symbol).or (some (reader.push .plain symbol))
  | .plain =>
      if symbol = '"' then none
      else (reader.separate symbol).or (some (reader.push .plain symbol))
  | .quoted =>
      if symbol = '"' then some { reader with mode := .closing }
      else some (reader.push .quoted symbol)
  | .closing => if symbol = '"' then some (reader.push .quoted symbol) else reader.separate symbol
  | .carriage => if symbol = '\n' then some reader.endRecord else none

def read (text : List Char) : Option Reader := text.foldlM step reader

/-- The records at the end of the text. The last line break may be missing. -/
def finish : Option (List Record) :=
  match reader.mode with
  | .quoted | .carriage => none
  | .start =>
      if reader.record = [] then some reader.records else some reader.endRecord.records
  | .plain | .closing => some reader.endRecord.records

end Reader

def empty : Reader := ⟨.start, [], [], []⟩

def parse (text : List Char) : Option (List Record) := (empty.read text).bind Reader.finish

/-- In quotes, a quote is written twice. -/
def double (cell : Cell) : List Char :=
  cell.flatMap fun symbol => if symbol = '"' then ['"', '"'] else [symbol]

section Writer

variable (enclosed : Cell → Bool)

/-- The writer encloses some cells in quotes. -/
def writeCell (cell : Cell) : List Char :=
  if enclosed cell then '"' :: double cell ++ ['"'] else cell

def writeRecord (record : Record) : List Char := [','].intercalate (record.map (writeCell enclosed))

def write (records : List Record) : List Char :=
  ['\n'].intercalate (records.map (writeRecord enclosed))

end Writer

/-- A symbol that does not stand for itself outside quotes. -/
def isSpecial (symbol : Char) : Bool :=
  symbol = '"' || symbol = ',' || symbol = '\n' || symbol = '\r'

/-- A cell that is written as it reads. -/
def Proper (enclosed : Cell → Bool) (cell : Cell) : Prop :=
  enclosed cell = true ∨ ∀ symbol ∈ cell, isSpecial symbol = false

namespace Reader

variable {reader : Reader} {symbol : Char} {cell : Cell} {enclosed : Cell → Bool}

theorem read_cons (text : List Char) :
    reader.read (symbol :: text) = (reader.step symbol).bind fun next => next.read text := rfl

theorem read_append (first second : List Char) :
    reader.read (first ++ second) = (reader.read first).bind fun next => next.read second :=
  List.foldlM_append

theorem separate_ordinary (ordinary : isSpecial symbol = false) :
    reader.separate symbol = none := by
  simp only [isSpecial, Bool.or_eq_false_iff, decide_eq_false_iff_not] at ordinary
  obtain ⟨⟨⟨_, comma⟩, newline⟩, carriage⟩ := ordinary
  rw [separate, if_neg comma, if_neg newline, if_neg carriage]

theorem step_ordinary (ordinary : isSpecial symbol = false)
    (outside : reader.mode = .start ∨ reader.mode = .plain) :
    reader.step symbol = some (reader.push .plain symbol) := by
  have unquoted : symbol ≠ '"' := by
    rintro rfl
    exact absurd ordinary (by decide)
  rcases outside with mode | mode <;>
    simp [step, mode, unquoted, separate_ordinary ordinary]

theorem read_plain (ordinary : ∀ symbol ∈ cell, isSpecial symbol = false)
    (plain : reader.mode = .plain) :
    reader.read cell = some { reader with cell := reader.cell ++ cell } := by
  induction cell generalizing reader with
  | nil => simp [read]
  | cons symbol rest ih =>
      have others : ∀ other ∈ rest, isSpecial other = false :=
        fun other member => ordinary other (List.mem_cons_of_mem _ member)
      rw [read_cons, step_ordinary (ordinary symbol List.mem_cons_self) (.inr plain),
        Option.bind_some, ih others rfl]
      simp [push, plain]

/-- Ordinary symbols are read as they stand. -/
theorem read_ordinary (ordinary : ∀ symbol ∈ cell, isSpecial symbol = false)
    (start : reader.mode = .start) (fresh : reader.cell = []) :
    reader.read cell = some { reader with mode := if cell = [] then .start else .plain, cell } := by
  cases cell with
  | nil =>
      cases reader with
      | mk mode known record records =>
          cases start
          cases fresh
          rfl
  | cons symbol rest =>
      have others : ∀ other ∈ rest, isSpecial other = false :=
        fun other member => ordinary other (List.mem_cons_of_mem _ member)
      rw [read_cons, step_ordinary (ordinary symbol List.mem_cons_self) (.inl start),
        Option.bind_some, read_plain others rfl]
      simp [push, fresh]

theorem read_double (quoted : reader.mode = .quoted) :
    reader.read (double cell) = some { reader with cell := reader.cell ++ cell } := by
  induction cell generalizing reader with
  | nil => simp [read, double]
  | cons symbol rest ih =>
      have front : double (symbol :: rest) =
          (if symbol = '"' then ['"', '"'] else [symbol]) ++ double rest := rfl
      have pushed : reader.read (if symbol = '"' then ['"', '"'] else [symbol]) =
          some (reader.push .quoted symbol) := by
        split
        · next quote => simp [read, step, quoted, quote, push]
        · next other => simp [read, step, quoted, other]
      rw [front, read_append, pushed, Option.bind_some, ih rfl]
      simp [push, quoted]

/-- A cell has been read to its end. -/
def Complete (reader : Reader) : Prop :=
  reader.mode = .start ∨ reader.mode = .plain ∨ reader.mode = .closing

theorem read_cell (proper : Proper enclosed cell) (start : reader.mode = .start)
    (fresh : reader.cell = []) :
    ∃ mode, reader.read (writeCell enclosed cell) = some { reader with mode, cell } ∧
      (mode = .start ∨ mode = .plain ∨ mode = .closing) := by
  by_cases quotes : enclosed cell = true
  · refine ⟨.closing, ?_, .inr (.inr rfl)⟩
    have opened : reader.step '"' = some { reader with mode := .quoted } := by
      simp [step, start]
    rw [writeCell, if_pos quotes, List.cons_append, read_cons, opened, Option.bind_some,
      read_append, read_double rfl]
    simp [read, step, fresh]
  · refine ⟨if cell = [] then .start else .plain, ?_, ?_⟩
    · rw [writeCell, if_neg quotes]
      exact read_ordinary (proper.resolve_left quotes) start fresh
    · split
      · exact .inl rfl
      · exact .inr (.inl rfl)

theorem Complete.step_comma (complete : reader.Complete) : reader.step ',' = some reader.endCell := by
  rcases complete with mode | mode | mode <;> simp [step, mode, separate]

theorem Complete.step_newline (complete : reader.Complete) :
    reader.step '\n' = some reader.endRecord := by
  rcases complete with mode | mode | mode <;> simp [step, mode, separate]

theorem Complete.finish (complete : reader.Complete) (some_cell : reader.record ≠ []) :
    reader.finish = some reader.endRecord.records := by
  rcases complete with mode | mode | mode <;> simp [Reader.finish, mode, some_cell]

/-- A record has been read to the end of its last cell. -/
structure Holds (reader : Reader) (records : List Record) : Prop where
  complete : reader.Complete
  some_cell : reader.record ≠ []
  ended : reader.endRecord = ⟨.start, [], [], records⟩

variable (reader) in
theorem read_record {record : Record} (proper : ∀ cell ∈ record, Proper enclosed cell)
    (start : reader.mode = .start) (fresh : reader.cell = [])
    (some_cell : record ≠ []) (long : reader.record ≠ [] ∨ 2 ≤ record.length) :
    ∃ after, reader.read (writeRecord enclosed record) = some after ∧
      after.Holds (reader.records ++ [reader.record ++ record]) := by
  induction record generalizing reader with
  | nil => exact absurd rfl some_cell
  | cons cell rest ih =>
      obtain ⟨mode, done, complete⟩ :=
        read_cell (proper cell List.mem_cons_self) start fresh
      cases rest with
      | nil =>
          rw [writeRecord, List.map_singleton, List.intercalate_singleton]
          refine ⟨_, done, complete, long.resolve_right (by simp), rfl⟩
      | cons other rest =>
          have next : Reader.step ⟨mode, cell, reader.record, reader.records⟩ ',' =
              some ⟨.start, [], reader.record ++ [cell], reader.records⟩ :=
            Complete.step_comma complete
          obtain ⟨after, remaining, holds⟩ := ih
            ⟨.start, [], reader.record ++ [cell], reader.records⟩
            (fun known member => proper known (List.mem_cons_of_mem _ member)) rfl rfl (by simp)
            (.inl (by simp))
          refine ⟨after, ?_, ?_⟩
          · rw [writeRecord, List.map_cons, List.map_cons, List.intercalate_cons_cons,
              List.append_assoc, read_append, done, Option.bind_some, List.singleton_append,
              read_cons, next, Option.bind_some, ← List.map_cons]
            exact remaining
          · simpa using holds

end Reader

/-- What is written reads back. -/
theorem parse_write_from {enclosed : Cell → Bool} {records : List Record}
    (proper : ∀ record ∈ records, ∀ cell ∈ record, Proper enclosed cell)
    (long : ∀ record ∈ records, 2 ≤ record.length) (before : List Record) :
    ((⟨.start, [], [], before⟩ : Reader).read (write enclosed records)).bind Reader.finish =
      some (before ++ records) := by
  induction records generalizing before with
  | nil => simp [write, Reader.read, Reader.finish]
  | cons record rest ih =>
      have width := long record List.mem_cons_self
      obtain ⟨after, done, holds⟩ := Reader.read_record
        ⟨.start, [], [], before⟩ (proper record List.mem_cons_self) rfl rfl
        (List.ne_nil_of_length_pos (by omega)) (.inr width)
      cases rest with
      | nil =>
          rw [write, List.map_singleton, List.intercalate_singleton, done, Option.bind_some,
            holds.complete.finish holds.some_cell, holds.ended, List.nil_append]
      | cons other rest =>
          rw [write, List.map_cons, List.map_cons, List.intercalate_cons_cons, List.append_assoc,
            Reader.read_append, done, Option.bind_some, List.singleton_append, Reader.read_cons,
            holds.complete.step_newline, Option.bind_some, holds.ended, List.nil_append,
            ← List.map_cons]
          refine (ih (fun known member => proper known (List.mem_cons_of_mem _ member))
            (fun known member => long known (List.mem_cons_of_mem _ member)) _).trans ?_
          simp

section Improper

variable {enclosed : Cell → Bool} {cell : Cell} {expected : List Record}

/-- The writer encloses cells with a quote, a comma or a line feed. -/
def Covers (enclosed : Cell → Bool) : Prop :=
  ∀ cell, ∀ symbol ∈ cell, symbol = '"' ∨ symbol = ',' ∨ symbol = '\n' → enclosed cell = true

theorem exists_first_special (special : ¬ ∀ symbol ∈ cell, isSpecial symbol = false) :
    ∃ front symbol back, cell = front ++ symbol :: back ∧
      (∀ known ∈ front, isSpecial known = false) ∧ isSpecial symbol = true := by
  induction cell with
  | nil => exact absurd (by simp) special
  | cons first rest ih =>
      cases kind : isSpecial first with
      | true => exact ⟨[], first, rest, rfl, by simp, kind⟩
      | false =>
          have later : ¬ ∀ symbol ∈ rest, isSpecial symbol = false := by
            intro all
            exact special (List.forall_mem_cons.mpr ⟨kind, all⟩)
          obtain ⟨front, symbol, back, split, ordinary, found⟩ := ih later
          exact ⟨first :: front, symbol, back, by rw [split]; rfl,
            List.forall_mem_cons.mpr ⟨kind, ordinary⟩, found⟩

/-- A cell that is not written as it reads has a bare carriage return. -/
theorem exists_carriage (covers : Covers enclosed) (improper : ¬ Proper enclosed cell) :
    writeCell enclosed cell = cell ∧ ∃ front back, cell = front ++ '\r' :: back ∧
      (∀ known ∈ front, isSpecial known = false) ∧ '\n' ∉ back := by
  obtain ⟨bare, special⟩ := not_or.mp improper
  obtain ⟨front, symbol, back, split, ordinary, found⟩ := exists_first_special special
  have spared : ∀ known ∈ cell, ¬ (known = '"' ∨ known = ',' ∨ known = '\n') :=
    fun known member covered => bare (covers cell known member covered)
  have carriage : symbol = '\r' := by
    have other := spared symbol (by simp [split])
    simp only [isSpecial, Bool.or_eq_true, decide_eq_true_eq] at found
    tauto
  refine ⟨if_neg bare, front, back, carriage ▸ split, ordinary, ?_⟩
  intro newline
  exact spared '\n' (by simp [split, newline]) (.inr (.inr rfl))

namespace Reader

variable {reader : Reader}

theorem records_endRecord : reader.records <+: reader.endRecord.records :=
  List.prefix_append ..

theorem records_separate {symbol : Char} {next : Reader}
    (separated : reader.separate symbol = some next) : reader.records <+: next.records := by
  unfold separate at separated
  split_ifs at separated <;> cases separated
  · exact List.prefix_rfl
  · exact records_endRecord
  · exact List.prefix_rfl

theorem records_step {symbol : Char} {next : Reader} (stepped : reader.step symbol = some next) :
    reader.records <+: next.records := by
  unfold step at stepped
  cases mode : reader.mode <;> simp only [mode] at stepped <;> split at stepped
  case carriage.isTrue =>
      cases stepped
      exact records_endRecord
  case closing.isFalse => exact records_separate stepped
  case start.isFalse | plain.isFalse =>
      rcases Option.or_eq_some_iff.mp stepped with separated | ⟨_, pushed⟩
      · exact records_separate separated
      · cases pushed
        exact List.prefix_rfl
  all_goals
    cases stepped
    try exact List.prefix_rfl

theorem records_read {text : List Char} {next : Reader} (done : reader.read text = some next) :
    reader.records <+: next.records := by
  induction text generalizing reader with
  | nil =>
      cases done
      exact List.prefix_rfl
  | cons symbol text ih =>
      obtain ⟨middle, stepped, rest⟩ := Option.bind_eq_some_iff.mp done
      exact (records_step stepped).trans (ih rest)

theorem records_finish {records : List Record} (finished : reader.finish = some records) :
    reader.records <+: records := by
  unfold finish at finished
  cases mode : reader.mode <;> simp only [mode] at finished
  case start =>
      split at finished <;> cases finished
      · exact List.prefix_rfl
      · exact records_endRecord
  case plain | closing =>
      cases finished
      exact records_endRecord
  case quoted | carriage => cases finished

/-- The records that were read stay. -/
theorem records_parse {text : List Char}
    (parsed : (reader.read text).bind Reader.finish = some expected) :
    reader.records <+: expected := by
  obtain ⟨after, done, finished⟩ := Option.bind_eq_some_iff.mp parsed
  exact (records_read done).trans (records_finish finished)

theorem read_to_carriage {front : List Char} (ordinary : ∀ known ∈ front, isSpecial known = false)
    (start : reader.mode = .start) (fresh : reader.cell = []) (text : List Char) :
    reader.read (front ++ '\r' :: text) =
      (⟨.carriage, front, reader.record, reader.records⟩ : Reader).read text := by
  rw [read_append, read_ordinary ordinary start fresh, Option.bind_some, read_cons]
  split <;> simp [step, separate]

/-- A bare carriage return is no part of any cell that is read. -/
theorem parse_carriage (covers : Covers enclosed) (improper : ¬ Proper enclosed cell)
    (start : reader.mode = .start) (fresh : reader.cell = []) (text : List Char) {others : Record}
    (begins : reader.records ++ [reader.record ++ cell :: others] <+: expected) :
    (reader.read (writeCell enclosed cell ++ text)).bind finish ≠ some expected := by
  obtain ⟨bare, front, back, split, ordinary, unbroken⟩ := exists_carriage covers improper
  rw [bare, split, List.append_assoc, List.cons_append, read_to_carriage ordinary start fresh]
  intro parsed
  cases rest : back ++ text with
  | nil =>
      rw [rest] at parsed
      cases parsed
  | cons symbol more =>
      rw [rest, read_cons] at parsed
      by_cases newline : symbol = '\n'
      · -- The carriage return and the line feed end the record, without the carriage return.
        obtain rfl : back = [] := by
          cases back with
          | nil => rfl
          | cons first back =>
              have same := (List.cons.inj rest).1
              exact absurd (List.mem_cons.mpr (.inl (same.trans newline).symm)) unbroken
        rw [newline] at parsed
        have kept := records_parse parsed
        have same := List.prefix_of_prefix_length_le kept begins (by simp [endRecord])
        have ended := same.eq_of_length (by simp [endRecord])
        have cells : reader.record ++ [front] = reader.record ++ cell :: others := by
          simpa [endRecord] using ended
        have front_eq := (List.cons.inj (List.append_cancel_left cells)).1
        rw [split] at front_eq
        simpa using congrArg List.length front_eq
      · simp [step, newline] at parsed

variable (reader) in
theorem parse_improper_record (covers : Covers enclosed) {record : Record}
    (improper : ¬ ∀ cell ∈ record, Proper enclosed cell)
    (start : reader.mode = .start) (fresh : reader.cell = []) (text : List Char)
    (begins : reader.records ++ [reader.record ++ record] <+: expected) :
    (reader.read (writeRecord enclosed record ++ text)).bind finish ≠ some expected := by
  induction record generalizing reader with
  | nil => exact absurd (by simp) improper
  | cons cell rest ih =>
      by_cases proper : Proper enclosed cell
      · have later : ¬ ∀ cell ∈ rest, Proper enclosed cell := by
          intro all
          exact improper (List.forall_mem_cons.mpr ⟨proper, all⟩)
        obtain ⟨mode, done, complete⟩ := read_cell proper start fresh
        cases rest with
        | nil => exact absurd (by simp) later
        | cons other rest =>
            have next : Reader.step ⟨mode, cell, reader.record, reader.records⟩ ',' =
                some ⟨.start, [], reader.record ++ [cell], reader.records⟩ :=
              Complete.step_comma complete
            rw [writeRecord, List.map_cons, List.map_cons, List.intercalate_cons_cons,
              List.append_assoc, List.append_assoc, read_append, done, Option.bind_some,
              List.singleton_append, read_cons, next, Option.bind_some, ← List.map_cons]
            exact ih ⟨.start, [], reader.record ++ [cell], reader.records⟩ later rfl rfl
              (by simpa using begins)
      · cases rest with
        | nil =>
            rw [writeRecord, List.map_singleton, List.intercalate_singleton]
            exact parse_carriage covers proper start fresh text begins
        | cons other rest =>
            rw [writeRecord, List.map_cons, List.map_cons, List.intercalate_cons_cons,
              List.append_assoc, List.append_assoc]
            exact parse_carriage covers proper start fresh _ begins

end Reader

theorem parse_improper_from (covers : Covers enclosed) {records : List Record}
    (improper : ¬ ∀ record ∈ records, ∀ cell ∈ record, Proper enclosed cell)
    (long : ∀ record ∈ records, 2 ≤ record.length) (before : List Record) :
    ((⟨.start, [], [], before⟩ : Reader).read (write enclosed records)).bind Reader.finish ≠
      some (before ++ records) := by
  induction records generalizing before with
  | nil => exact absurd (by simp) improper
  | cons record rest ih =>
      have width := long record List.mem_cons_self
      by_cases proper : ∀ cell ∈ record, Proper enclosed cell
      · have later : ¬ ∀ record ∈ rest, ∀ cell ∈ record, Proper enclosed cell := by
          intro all
          exact improper (List.forall_mem_cons.mpr ⟨proper, all⟩)
        obtain ⟨after, done, holds⟩ := Reader.read_record ⟨.start, [], [], before⟩ proper rfl rfl
          (List.ne_nil_of_length_pos (by omega)) (.inr width)
        cases rest with
        | nil => exact absurd (by simp) later
        | cons other rest =>
            have remains := ih later (fun known member => long known (List.mem_cons_of_mem _ member))
              (before ++ [record])
            rw [write, List.map_cons, List.map_cons, List.intercalate_cons_cons, List.append_assoc,
              Reader.read_append, done, Option.bind_some, List.singleton_append, Reader.read_cons,
              holds.complete.step_newline, Option.bind_some, holds.ended, List.nil_append,
              ← List.map_cons]
            rw [List.append_assoc, List.singleton_append] at remains
            exact remains
      · have begins : before ++ [[] ++ record] <+: before ++ record :: rest := by
          rw [List.nil_append]
          exact ⟨rest, by simp⟩
        cases rest with
        | nil =>
            have ends := Reader.parse_improper_record ⟨.start, [], [], before⟩ covers proper rfl rfl
              [] begins
            rw [List.append_nil] at ends
            rw [write, List.map_singleton, List.intercalate_singleton]
            exact ends
        | cons other rest =>
            rw [write, List.map_cons, List.map_cons, List.intercalate_cons_cons, List.append_assoc]
            exact Reader.parse_improper_record ⟨.start, [], [], before⟩ covers proper rfl rfl _ begins

/-- A text reads back as written exactly if every cell with a carriage return is enclosed. -/
theorem parse_write_iff (covers : Covers enclosed) {records : List Record}
    (long : ∀ record ∈ records, 2 ≤ record.length) :
    parse (write enclosed records) = some records ↔
      ∀ record ∈ records, ∀ cell ∈ record, Proper enclosed cell := by
  constructor
  · intro parsed
    by_contra improper
    exact parse_improper_from covers improper long [] parsed
  · intro proper
    exact parse_write_from proper long []

end Improper

end Csv
