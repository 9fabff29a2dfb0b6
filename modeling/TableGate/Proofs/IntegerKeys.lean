import TableGate.Proofs.IntegerRounding
import TableGate.Proofs.RowIdentity

/-! Integers as keys. The id of a row spells an integer key exactly, but the condition that the id
leads to is printed from the floating point number that the digits are read as: it compares the key
field with the integer itself for the integers that are floating point numbers, and with a
neighbour for all others. -/
namespace TableGate.IntegerKeys
open Text Fallible DecimalReading IdParts IntegerRounding KeyCondition NumberText RowIdentity TextFacts

variable {table : Table} {column : Column} {row : Row} {settings : Settings} {n m : Int}
  {id part literal : Text} {hash : Bool}

/-! ### The digits of an integer in an id -/

theorem signed_injective (same : signed n = signed m) : n = m := by
  have digits {k : Nat} {rest : Text} : ofNat k ≠ '-' :: rest := by
    intro shape
    have sign : '-' ∈ ofNat k := by
      rw [shape]
      exact List.mem_cons_self
    cases ofNat_digits sign
  have magnitude {k l : Nat} (same : ofNat k = ofNat l) : k = l := by
    rw [← digitsValue_ofNat k, same, digitsValue_ofNat]
  unfold signed at same
  by_cases negative : n < 0 <;> by_cases other : m < 0
  · rw [if_pos negative, if_pos other] at same
    have := magnitude (List.append_cancel_left same)
    omega
  · rw [if_pos negative, if_neg other] at same
    exact absurd same.symm digits
  · rw [if_neg negative, if_pos other] at same
    exact absurd same digits
  · rw [if_neg negative, if_neg other] at same
    have := magnitude same
    omega

private theorem digit_safe : ∀ k < 10, isUriSafe (Char.ofNat (48 + k)) = true ∧
    Char.ofNat (48 + k) ∈ '%' :: hex (48 + k) := by decide

private theorem digit_cases {c : Char} (digit : c.isDigit = true) :
    isUriSafe c = true ∧ c ∈ '%' :: hex c.toNat := by
  have bounds := digit_bounds digit
  have known := digit_safe (c.toNat - 48) (by omega)
  rw [show 48 + (c.toNat - 48) = c.toNat by omega, Char.ofNat_toNat] at known
  exact known

private theorem percentEncode_signed (n : Int) : percentEncode (signed n) = signed n := by
  have safe : ∀ c ∈ signed n, percentChar c = [c] := by
    intro c member
    have safe : isUriSafe c = true := by
      rcases signed_chars member with rfl | digit
      · decide
      · exact (digit_cases digit).1
    rw [percentChar, if_pos safe]
  rw [percentEncode, List.flatMap_congr safe]
  exact List.flatMap_singleton' _

/-- A separator among the digits of an integer is in its own escape too, and cuts the id. -/
private theorem free_of_single (single : (settings.splitId (settings.joinId [signed n])).length = 1) :
    settings.idSeparator ∉ ofNat n.natAbs := by
  intro digit
  have inside : settings.idSeparator ∈ settings.idPart (signed n) := by
    rw [Settings.idPart, percentEncode_signed, replaceChar]
    refine List.mem_flatMap.mpr ⟨settings.idSeparator, List.mem_append_right _ digit, ?_⟩
    rw [if_pos rfl, Settings.escapedSeparator]
    exact (digit_cases (ofNat_digits digit)).2
  rw [Settings.splitId, List.length_map] at single
  have pieces : (splitOn settings.idSeparator (join [settings.idSeparator]
      [settings.idPart (signed n)])).length = [settings.idPart (signed n)].length := single
  exact free_of_length pieces _ List.mem_cons_self inside

/-- Any other separator leaves the integer whole; a sign that is the separator is escaped. -/
private theorem split_signed (free : settings.idSeparator ∉ ofNat n.natAbs) :
    settings.splitId (settings.joinId [signed n]) = [signed n] := by
  by_cases separates : Separates settings
  · exact splitId_joinId separates (List.cons_ne_nil _ _)
  · have digit : settings.idSeparator ∈ escapeDigits := not_not.mp separates
    have outside : settings.idSeparator ∉ signed n := by
      intro member
      rcases List.mem_append.mp member with sign | later
      · have hyphen : settings.idSeparator = '-' := by
          split at sign
          · exact List.mem_singleton.mp sign
          · cases sign
        rw [hyphen] at digit
        exact absurd digit (by decide)
      · exact free later
    have written : settings.joinId [signed n] = signed n := by
      rw [Settings.joinId, List.map_singleton, join, Settings.idPart, percentEncode_signed,
        replaceChar_of_not_mem outside]
    rw [written, Settings.splitId, splitOn_of_not_mem outside, List.map_singleton]
    have decoded := percentDecode_percentEncode (signed n)
    rw [percentEncode_signed] at decoded
    rw [decoded]

/-! ### The id of an integer key -/

/-- The integer that a number key is written as: itself, but in a boolean column whether it is
zero. -/
def keyInteger (table : Table) (column : Column) (n : Int) : Int :=
  if table.engine.typeClass column.sqlType = .boolean then (if n = 0 then 0 else 1) else n

private theorem keyText_integer (sqlite : table.engine = .sqlite) (number : column.kind = .number) :
    table.keyText column (.int n) = Integer.text (keyInteger table column n) := by
  have serialized : column.serialize table.engine (Cell.int n) =
      table.engine.readValue (Cell.int n) column.sqlType >>= column.serializeRead := by
    simp [Column.serialize, number]
  rw [Table.keyText, serialized, keyInteger, sqlite]
  by_cases boolean : Engine.sqlite.typeClass column.sqlType = .boolean
  · have read : Engine.sqlite.readValue (Cell.int n) column.sqlType = .ok (.bool (n != 0)) := by
      simp [Engine.readValue, DriverValue.toCell, boolean, Engine.readBoolean]
    have written (value : Bool) : column.serializeRead (.bool value) =
        .ok (.text (if value then "1" else "0")) := by
      simp [Column.serializeRead, number, Column.numberText, Except.map]
    rw [if_pos boolean, read]
    by_cases zero : n = 0
    · rw [if_pos zero, zero]
      simp only [bind, Except.bind, written]
      rfl
    · rw [if_neg zero]
      simp only [bind, Except.bind, written, bne_iff_ne, ne_eq, zero, not_false_eq_true, if_true]
      rfl
  · have read : Engine.sqlite.readValue (Cell.int n) column.sqlType = .ok (.int n) := by
      simp [Engine.readValue, DriverValue.toCell, boolean]
    have written : column.serializeRead (.int n) = (Integer.text n).map .text := by
      simp only [Column.serializeRead, number, Column.numberText, Cell.toText, Cell.shown]
    rw [if_neg boolean, read]
    simp only [bind, Except.bind, written]
    cases Integer.text n <;> rfl

private theorem rowId_eq_ok (sqlite : table.engine = .sqlite) (plain : table.hasher = none)
    (number : column.kind = .number) (single : keyCells table row = [(column, .int n)]) :
    table.rowId hash row = .ok id ↔
      (ofNat (keyInteger table column n).natAbs).length ≤ ConversionProblem.digitLimit ∧
        id = table.settings.joinId [signed (keyInteger table column n)] := by
  have cells : (cellsOf table.columns row).filter (·.1.isPrimaryKey) = [(column, .int n)] := single
  have undisguised (value : Text) : table.disguise column value = value := by
    rw [Table.disguise, plain]
  rw [Table.rowId, Table.keyValues, cells, map_eq_ok]
  simp only [List.mapM_cons, List.mapM_nil, keyText_integer sqlite number, undisguised, ite_self]
  constructor
  · rintro ⟨values, found, rfl⟩
    obtain ⟨value, read, found⟩ := bind_eq_ok.mp found
    obtain ⟨same, printed, shape⟩ := bind_eq_ok.mp read
    cases shape
    cases found
    obtain ⟨short, rfl⟩ := integer_text_eq_ok.mp printed
    exact ⟨short, rfl⟩
  · rintro ⟨short, rfl⟩
    rw [integer_text_eq_ok.mpr ⟨short, rfl⟩]
    exact ⟨_, rfl, rfl⟩

/-! ### The condition on a single key -/

private theorem clause_single (keys : table.keys = [column]) : clause table [literal] =
    '(' :: (column.quoted table.engine ++ '=' :: literal) ++ ")" := by
  rw [clause, keys]
  rfl

private theorem keys_single (single : keyCells table row = [(column, .int n)]) : table.keys = [column] := by
  rw [← keyCells_columns table row, single]
  rfl

private theorem clause_injective {other : Text} (keys : table.keys = [column])
    (same : clause table [literal] = clause table [other]) : literal = other := by
  rw [clause_single keys, clause_single keys] at same
  have behind := List.append_cancel_left (List.append_cancel_right (List.cons.inj same).2)
  exact (List.cons.inj behind).2

private theorem locates_condition {literals : List Text} :
    Locates table id literals ↔ table.idCondition id = .ok (clause table literals) := by
  unfold Locates Table.deleteSql
  constructor
  · intro printed
    obtain ⟨condition, located, same⟩ := bind_eq_ok.mp printed
    have condition_eq := List.append_cancel_left (List.append_cancel_right (Except.ok.inj same))
    rw [located, condition_eq]
  · intro located
    rw [located]
    rfl

private theorem locates_iff (keys : table.keys = [column]) : Locates table id [literal] ↔
    ∃ part, table.settings.splitId id = [part] ∧ Stands table column part literal := by
  rw [locates_condition, id_condition_eq_ok, keys]
  constructor
  · rintro ⟨arity, literals, each, same⟩
    obtain ⟨part, split⟩ := List.length_eq_one_iff.mp arity
    rw [split] at each
    cases each with
    | cons stands rest =>
      cases rest
      rw [clause_injective keys same]
      exact ⟨part, split, stands⟩
  · rintro ⟨part, split, stands⟩
    rw [split]
    exact ⟨rfl, [literal], .cons stands .nil, rfl⟩

/-- The number that the digits of an integer are read as. -/
def asRead (n : Int) : Binary64 := Numeral.toBinary64 ⟨decide (n < 0), n.natAbs, 0⟩

private theorem readNumber_signed (n : Int) : column.readNumber (.text (signed n)) =
    if (asRead n).isFinite then .ok (asRead n)
    else .error (.value (.fieldNotNumber column.name (signed n))) := by
  have read : Binary64.ofText? (signed n) = some (asRead n) := ofText_signed n
  cases finite : (asRead n).isFinite <;>
    simp [Column.readNumber, Cell.number?, read, Option.filter, finite, Except.bind, Cell.toText, bind]

private theorem stands_signed_iff (plain : table.hasher = none) (number : column.kind = .number) :
    Stands table column (signed n) literal ↔
      (asRead n).isFinite = true ∧ column.literal table.engine (.float (asRead n)) = .ok literal := by
  obtain ⟨c, rest, shape⟩ : ∃ c rest, signed n = c :: rest :=
    List.exists_cons_of_ne_nil fun empty => ofNat_ne_nil _ (List.append_eq_nil_iff.mp empty).2
  have shown : reveal table column (signed n) = signed n := by rw [reveal, plain]
  have decoded : column.deserialize (.text (signed n)) = (column.readNumber (.text (signed n))).map .float := by
    simp [Column.deserialize, number, shape]
  unfold Stands
  rw [shown, decoded, readNumber_signed]
  constructor
  · rintro ⟨cell, found, -, printed⟩
    obtain ⟨number, kept, rfl⟩ := map_eq_ok.mp found
    split at kept
    · rename_i finite
      cases kept
      exact ⟨finite, printed⟩
    · cases kept
  · rintro ⟨finite, printed⟩
    rw [if_pos finite]
    exact ⟨.float (asRead n), rfl, rfl, printed⟩

/-! ### Literals -/

/-- In a number column an integer is printed as itself exactly if it is a floating point number. -/
private theorem number_literal_iff (typed : Engine.sqlite.typeClass column.sqlType = .number) :
    (asRead n).isFinite = true ∧ column.literal .sqlite (.float (asRead n)) = .ok (signed n) ↔
      IsDouble n.natAbs := by
  have sign : withSign (decide (n < 0)) n.natAbs = n := by
    unfold withSign
    split <;> rename_i negative <;> simp only [decide_eq_true_eq] at negative <;> omega
  have whole : (asRead n).toInt? = some (withSign (decide (n < 0)) n.natAbs) ↔ IsDouble n.natAbs :=
    toBinary64_whole_iff ..
  rw [sign] at whole
  have printed (finite : (asRead n).isFinite = true) :
      column.literal .sqlite (.float (asRead n)) = Cell.finiteText (asRead n) := by
    simp [Column.literal, Engine.literal, typed, Cell.numberText, Cell.number?, finite]
  constructor
  · rintro ⟨finite, literal⟩
    rcases toBinary64_nearest (decide (n < 0)) n.natAbs with ⟨infinite, -⟩ | ⟨nearby, -⟩
    · rw [asRead, infinite] at finite
      cases finite
    · have other : (asRead n).toInt? = some (withSign (decide (n < 0)) (nearest n.natAbs)) := nearby
      rw [printed finite, Cell.finiteText, other] at literal
      obtain ⟨-, same⟩ := integer_text_eq_ok.mp literal
      rw [← signed_injective same] at other
      exact whole.mp other
  · intro double
    have exact := whole.mpr double
    have finite := isFinite_of_toInt exact
    have short := Nat.le_trans (length_double double) (by decide : 309 ≤ ConversionProblem.digitLimit)
    refine ⟨finite, ?_⟩
    rw [printed finite, Cell.finiteText, exact]
    exact integer_text_eq_ok.mpr ⟨short, rfl⟩

private theorem float_text (value : Binary64) : (Cell.float value).toText = .ok value.text := by
  simp only [Cell.toText, Cell.shown]

/-- In a boolean column zero and one, which keys are written as there, are both printed as true. -/
private theorem boolean_literal (typed : Engine.sqlite.typeClass column.sqlType = .boolean)
    (bit : n = 0 ∨ n = 1) : (asRead n).isFinite = true ∧
      column.literal .sqlite (.float (asRead n)) = .ok "1" := by
  have word : (asRead n).isFinite = true ∧ Cell.isFalseText (asRead n).text = false := by
    rcases bit with rfl | rfl <;> decide +kernel
  refine ⟨word.1, ?_⟩
  have isFalse : (Cell.float (asRead n)).isFalse = .ok false := by
    simp only [Cell.isFalse, float_text, bind, Except.bind, word.2]
  simp only [Column.literal, Engine.literal, typed, Engine.booleanLiteral, isFalse]
  rfl

/-- In any other column the number is printed as a text. -/
private theorem text_literal {value : Binary64} (unnumbered : Engine.sqlite.typeClass column.sqlType ≠ .number)
    (unbool : Engine.sqlite.typeClass column.sqlType ≠ .boolean)
    (printed : column.literal .sqlite (.float value) = .ok literal) : literal.head? = some '\'' := by
  cases typed : Engine.sqlite.typeClass column.sqlType with
  | number => exact absurd typed unnumbered
  | boolean => exact absurd typed unbool
  | _ =>
    simp only [Column.literal, Engine.literal, typed, Engine.textLiteral, float_text, bind, Except.bind] at printed
    cases printed
    rfl

/-! ### Rows and their own ids -/

/-- The integers that their own ids lead back to: no digit is the separator, and the integer is a
floating point number. In a boolean column only one is printed as itself. -/
def Addressed (table : Table) (column : Column) (n : Int) : Prop :=
  table.settings.idSeparator ∉ ofNat n.natAbs ∧
    (table.engine.typeClass column.sqlType = .number ∧ IsDouble n.natAbs ∨
      table.engine.typeClass column.sqlType = .boolean ∧ n = 1)

/-- A row's own id leads to some digits exactly where it can be spelled, is left whole, and is read
as a number that prints as these digits. -/
private theorem own_id_iff (hash : Bool) (literal : Text) (sqlite : table.engine = .sqlite)
    (plain : table.hasher = none) (number : column.kind = .number) (single : keyCells table row = [(column, .int n)])
    (spelled : keyInteger table column n = m) :
    (∃ id, table.rowId hash row = .ok id ∧ Locates table id [literal]) ↔
      (ofNat m.natAbs).length ≤ ConversionProblem.digitLimit ∧
        table.settings.idSeparator ∉ ofNat m.natAbs ∧
        (asRead m).isFinite = true ∧ column.literal .sqlite (.float (asRead m)) = .ok literal := by
  simp only [rowId_eq_ok sqlite plain number single, spelled, locates_iff (keys_single single)]
  rw [← sqlite, ← stands_signed_iff plain number]
  constructor
  · rintro ⟨id, ⟨short, rfl⟩, part, split, stands⟩
    have free := free_of_single (congrArg List.length split)
    rw [split_signed free] at split
    cases split
    exact ⟨short, free, stands⟩
  · rintro ⟨short, free, stands⟩
    exact ⟨_, ⟨short, rfl⟩, _, split_signed free, stands⟩

private theorem own_id_locates_iff (sqlite : table.engine = .sqlite) (plain : table.hasher = none)
    (number : column.kind = .number) (single : keyCells table row = [(column, .int n)]) :
    (∃ id, table.rowId hash row = .ok id ∧ Locates table id [signed n]) ↔ Addressed table column n := by
  have leads {k : Int} (spelled : keyInteger table column n = k) :=
    own_id_iff hash (signed n) sqlite plain number single spelled
  rw [Addressed, sqlite]
  cases typed : Engine.sqlite.typeClass column.sqlType with
  | number =>
    rw [leads (if_neg (by rw [sqlite, typed]; decide)), number_literal_iff typed]
    constructor
    · rintro ⟨-, free, double⟩
      exact ⟨free, .inl ⟨rfl, double⟩⟩
    · rintro ⟨free, ⟨-, double⟩ | ⟨boolean, -⟩⟩
      · exact ⟨Nat.le_trans (length_double double) (by decide), free, double⟩
      · cases boolean
  | boolean =>
    have bit : (if n = 0 then 0 else 1 : Int) = 0 ∨ (if n = 0 then 0 else 1 : Int) = 1 := by
      split
      · exact .inl rfl
      · exact .inr rfl
    obtain ⟨finite, one⟩ := boolean_literal typed bit
    rw [leads (if_pos (by rw [sqlite, typed])), one]
    constructor
    · rintro ⟨-, free, -, same⟩
      have digits : signed n = signed 1 := (Except.ok.inj same).symm
      obtain rfl := signed_injective digits
      exact ⟨free, .inr ⟨rfl, rfl⟩⟩
    · rintro ⟨free, ⟨number, -⟩ | ⟨-, rfl⟩⟩
      · cases number
      · exact ⟨by decide, free, finite, rfl⟩
  | _ =>
    rw [leads (if_neg (by rw [sqlite, typed]; decide))]
    constructor
    · rintro ⟨-, -, -, printed⟩
      -- A literal in quotes has no digit or sign in front.
      have quoted := text_literal (by simp [typed]) (by simp [typed]) printed
      rcases signed_chars (List.mem_of_head? quoted) with hyphen | digit
      · cases hyphen
      · cases digit
    · rintro ⟨-, ⟨number, -⟩ | ⟨boolean, -⟩⟩
      · cases number
      · cases boolean

/-- An integer key leads to its own row for the integers that are floating point numbers, and for no
others: whatever the integer, the separator and the type of the column, these are the ones whose
digits stand in the statement that the row's own id leads to, and the ids of two of them never lead
to the same condition. -/
theorem integer_key_addressed_iff (table : Table) (column : Column) (hash : Bool)
    (sqlite : table.engine = .sqlite) (plain : table.hasher = none) (number : column.kind = .number)
    (row : Row) (n : Int) (single : keyCells table row = [(column, .int n)]) :
    ((∃ id, table.rowId hash row = .ok id ∧ Locates table id [signed n]) ↔ Addressed table column n) ∧
    ∀ other m, keyCells table other = [(column, .int m)] → m ≠ n →
      Addressed table column n → Addressed table column m →
      ∀ id otherId, table.rowId hash row = .ok id → table.rowId hash other = .ok otherId →
        table.idCondition id ≠ table.idCondition otherId := by
  refine ⟨own_id_locates_iff sqlite plain number single, ?_⟩
  intro other m otherSingle apart addressed otherAddressed id otherId named otherNamed same
  obtain ⟨own, found, located⟩ := (own_id_locates_iff sqlite plain number single).mpr addressed
  obtain ⟨otherOwn, otherFound, otherLocated⟩ :=
    (own_id_locates_iff sqlite plain number otherSingle).mpr otherAddressed
  rw [named] at found
  rw [otherNamed] at otherFound
  cases found
  cases otherFound
  have conditions := (locates_condition.mp located).symm.trans
    (same.trans (locates_condition.mp otherLocated))
  exact apart (signed_injective (clause_injective (keys_single single) (Except.ok.inj conditions))).symm

/-- A table whose key is an integer. -/
def counters : Table where
  engine := .sqlite
  options := { tableName := "t" }
  columns := [{ name := "k", kind := .number, sqlType := "INTEGER", isPrimaryKey := true }]

/-- Beyond 53 bits the even integers still lead to their own rows. -/
theorem even_integers_addressed :
    (∃ id, counters.rowId false [.int 9007199254740992] = .ok id ∧
      Locates counters id [signed 9007199254740992]) ∧
    counters.idCondition "9007199254740992" ≠ counters.idCondition "9007199254740994" := by
  have addressed (n : Int) (free : '_' ∉ ofNat n.natAbs) (double : IsDouble n.natAbs) :
      Addressed counters (counters.columns[0]) n := ⟨free, .inl ⟨by decide, double⟩⟩
  have first := addressed 9007199254740992 (by decide) (by decide +kernel)
  have second := addressed 9007199254740994 (by decide) (by decide +kernel)
  have own := integer_key_addressed_iff counters (counters.columns[0]) false rfl rfl rfl
    [.int 9007199254740992] 9007199254740992 rfl
  exact ⟨own.1.mpr first, own.2 [.int 9007199254740994] 9007199254740994 rfl (by decide) first second
    _ _ (by decide +kernel) (by decide +kernel)⟩

/-- The odd integer between two of them leads to the row of its even neighbour. -/
theorem odd_integer_hits_its_neighbour :
    counters.rowId false [.int 9007199254740993] = .ok "9007199254740993" ∧
      counters.deleteSql "9007199254740993" = .ok "DELETE FROM [t] WHERE (\"k\"=9007199254740992);" ∧
      counters.rowId false [.int 9007199254740992] = .ok "9007199254740992" ∧
      counters.deleteSql "9007199254740992" = .ok "DELETE FROM [t] WHERE (\"k\"=9007199254740992);" := by
  decide +kernel

end TableGate.IntegerKeys
