import SpecterCloud.Foundations.SchemaOperations

/-! What operations keep. Contents that a schema allows stay allowed under every operation that
succeeds, and no rows can stand in the way of a drop, of a new table or index, or of a new column
that is NULL everywhere: for these the checks on the schema are all that there is.
-/

namespace SpecterCloud.Foundations.Relational

variable {Ty Default Value : Type}

-----------------------------------------------------------------------------------------
-- Values of rows
-----------------------------------------------------------------------------------------

section Values

variable {row : Row Value} {column other : String} {columns : List String}

theorem valueOf_eraseColumn (apart : other ≠ column)
    : valueOf (eraseColumn column row) other = valueOf row other := by
  unfold valueOf eraseColumn
  congr 1
  induction row with
  | nil => rfl
  | cons entry rest ih =>
      obtain ⟨name, value⟩ := entry
      by_cases erased : name = column
      · have missed : (other == name) = false := by simp [erased, apart]
        rw [List.filter_cons_of_neg (by simp [erased]), List.lookup_cons, missed, ih]
      · rw [List.filter_cons_of_pos (by simp [erased]), List.lookup_cons, List.lookup_cons, ih]

/-- A NULL at the end of a row is nothing that can be read. -/
theorem valueOf_append_null : valueOf (row ++ [(column, none)]) other = valueOf row other := by
  unfold valueOf
  rw [List.lookup_append]
  cases row.lookup other with
  | some value => rfl
  | none =>
      rw [List.lookup_cons]
      split <;> rfl

theorem keyOf_congr {changed : Row Value}
    (same : ∀ column ∈ columns, valueOf changed column = valueOf row column)
    : keyOf columns changed = keyOf columns row := by
  have values : columns.map (valueOf changed) = columns.map (valueOf row) :=
    List.map_congr_left same
  simp only [keyOf, values]

theorem eraseColumn_append (fresh : column ∉ row.map Prod.fst) (value : Option Value)
    : eraseColumn column (row ++ [(column, value)]) = row := by
  rw [eraseColumn, List.filter_append, List.filter_cons_of_neg (by simp), List.filter_nil,
    List.append_nil, List.filter_eq_self]
  intro entry member
  have apart : entry.1 ≠ column := fun same => fresh (same ▸ List.mem_map_of_mem member)
  simpa using apart

theorem eraseColumn_names (row : Row Value) (column : String)
    : (eraseColumn column row).map Prod.fst = (row.map Prod.fst).filter (· ≠ column) := by
  rw [eraseColumn, List.filter_map]
  rfl

end Values

-----------------------------------------------------------------------------------------
-- Rules over changed rows
-----------------------------------------------------------------------------------------

section Rules

variable {rows changed : Rows Value} {table name column : String} {columns : List String}

/-- A rule holds of rows with the same keys, as long as no key is lost that they refer to. -/
theorem Rule.Holds.transfer {rule : Rule} (holds : rule.Holds rows table)
    (own : keysOf changed table rule.columns = keysOf rows table rule.columns)
    (referred
      : ∀ referent referred, rule.reference = some (referent, referred)
        → keysOf rows referent referred ⊆ keysOf changed referent referred)
    : rule.Holds changed table := by
  cases rule with
  | primaryKey columns =>
      simp only [Rule.columns] at own
      simpa only [Rule.Holds, own] using holds
  | unique columns =>
      simp only [Rule.columns] at own
      simpa only [Rule.Holds, own] using holds
  | foreignKey columns referent referred_ onDelete =>
      simp only [Rule.columns] at own
      intro key member present
      rw [own] at member
      exact referred referent referred_ rfl (holds key member present)

/-- Rows of other tables have the same keys. -/
theorem keysOf_update_ne (apart : name ≠ table) (given : List (Row Value))
    : keysOf (Function.update rows table given) name columns = keysOf rows name columns := by
  rw [keysOf, Function.update_of_ne apart, keysOf]

/-- Changed rows of a table that keep some columns have the same keys on these. -/
theorem keysOf_update_map {change : Row Value → Row Value}
    (same
      : ∀ row ∈ rows table, ∀ column ∈ columns, valueOf (change row) column = valueOf row column)
    : keysOf (Function.update rows table ((rows table).map change)) name columns
      = keysOf rows name columns := by
  by_cases here : name = table
  · subst here
    rw [keysOf, Function.update_self, List.map_map, keysOf]
    exact List.map_congr_left fun row stored => keyOf_congr (same row stored)
  · exact keysOf_update_ne here _

/-- A rule holds of a table without rows. -/
theorem Rule.holds_empty (rule : Rule) (empty : rows table = []) : rule.Holds rows table := by
  cases rule <;> simp [Rule.Holds, keysOf, empty]

end Rules

-----------------------------------------------------------------------------------------
-- Checks
-----------------------------------------------------------------------------------------

section Checks

variable [DecidableEq Ty] {schema after : Schema Ty Default Value}
  {operation : Operation Ty Default Value} {operations : List (Operation Ty Default Value)}

/-- Every check of the operation holds. -/
def Operation.passes (schema : Schema Ty Default Value) (operation : Operation Ty Default Value)
    : Bool :=
  (operation.checks schema).all Prod.fst

/-- Every check of the operations holds where it is made. -/
def passesAll : List (Operation Ty Default Value) → Schema Ty Default Value → Bool
  | [], _ => true
  | operation :: rest, schema =>
      operation.passes schema && passesAll rest (operation.edit schema)

/-- The schema after operations that pass their checks. -/
def editAll (operations : List (Operation Ty Default Value)) (schema : Schema Ty Default Value)
    : Schema Ty Default Value :=
  operations.foldl (fun schema operation => operation.edit schema) schema

theorem Operation.alter_ok_iff
    : operation.alter schema = .ok after
      ↔ operation.passes schema = true ∧ after = operation.edit schema := by
  unfold alter passes
  cases failed : (operation.checks schema).find? (fun check => !check.1) with
  | some check =>
      have fails : check.1 = false := by simpa using List.find?_some failed
      refine iff_of_false nofun fun ⟨passes, _⟩ => ?_
      have holds := List.all_eq_true.mp passes check (List.mem_of_find?_eq_some failed)
      exact absurd (fails.symm.trans holds) nofun
  | none =>
      have passes : (operation.checks schema).all Prod.fst = true := by
        rw [List.all_eq_true]
        intro check member
        simpa using List.find?_eq_none.mp failed check member
      simp [passes, eq_comm]

/-- A check of an operation that passes. -/
theorem Operation.passes_check (passes : operation.passes schema = true) {check : Check}
    (member : check ∈ operation.checks schema)
    : check.1 = true :=
  List.all_eq_true.mp passes check member

theorem passesAll_append (first second : List (Operation Ty Default Value))
    (schema : Schema Ty Default Value)
    : passesAll (first ++ second) schema
      = (passesAll first schema && passesAll second (editAll first schema)) := by
  induction first generalizing schema with
  | nil => rfl
  | cons operation rest ih =>
      rw [List.cons_append, passesAll, passesAll, ih, Bool.and_assoc]
      rfl

/-- Operations succeed on a schema exactly when they pass, by induction on them. -/
theorem alterAll_ok_iff
    : alterAll operations schema = .ok after
      ↔ passesAll operations schema = true ∧ after = editAll operations schema := by
  induction operations generalizing schema with
  | nil => simp [alterAll, passesAll, editAll, eq_comm]
  | cons operation rest ih =>
      rw [alterAll, passesAll, Bool.and_eq_true]
      cases altered : operation.alter schema with
      | error refusal =>
          have failed : ¬ operation.passes schema = true := by
            intro passes
            cases altered.symm.trans (Operation.alter_ok_iff.mpr ⟨passes, rfl⟩)
          exact iff_of_false nofun fun both => failed both.1.1
      | ok next =>
          obtain ⟨passes, rfl⟩ := Operation.alter_ok_iff.mp altered
          show alterAll rest _ = _ ↔ _
          rw [ih]
          simp only [passes, true_and]
          rfl

end Checks

-----------------------------------------------------------------------------------------
-- Operations that no rows stand in the way of
-----------------------------------------------------------------------------------------

section Unobstructed

variable {admits : Ty → Value → Bool} {schema : Schema Ty Default Value}
  {rows changed : Rows Value} {table after : Table Ty Default Value} {name column : String}

/-- Changed rows that have the columns of the changed table, with values that these accept, meet
it if its constraints are old ones that read nothing that has changed.
-/
theorem Table.Meets.mapped (meets : table.Meets admits rows) {change : Row Value → Row Value}
    (same : after.name = table.name)
    (changes : changed table.name = (rows table.name).map change)
    (shape : ∀ row ∈ rows table.name, (change row).map Prod.fst = after.columnNames)
    (accepted
      : ∀ row ∈ rows table.name, ∀ column ∈ after.columns,
          column.accepts admits (valueOf (change row) column.name) = true)
    (fewer : after.constraints ⊆ table.constraints)
    (kept
      : ∀ constraint ∈ after.constraints, ∀ column ∈ constraint.rule.columns,
          ∀ row ∈ rows table.name, valueOf (change row) column = valueOf row column)
    (referred
      : ∀ constraint ∈ after.constraints, ∀ referent referred,
          constraint.rule.reference = some (referent, referred)
          → keysOf rows referent referred ⊆ keysOf changed referent referred)
    : after.Meets admits changed := by
  refine ⟨?_, ?_, ?_⟩
  · rw [same, changes]
    exact List.forall_mem_map.mpr shape
  · rw [same, changes]
    exact List.forall_mem_map.mpr accepted
  · intro constraint member
    rw [same]
    refine (meets.rules constraint (fewer member)).transfer ?_ (referred constraint member)
    rw [keysOf, changes, List.map_map, keysOf]
    apply List.map_congr_left
    exact fun row stored =>
      keyOf_congr fun column read => kept constraint member column read row stored

/-- A table with the same columns and no new constraints allows the same rows. -/
theorem Table.Meets.fewer (meets : table.Meets admits rows) (same : after.name = table.name)
    (columns : after.columns = table.columns) (fewer : after.constraints ⊆ table.constraints)
    : after.Meets admits rows := by
  refine meets.mapped same (List.map_id _).symm ?_ ?_ fewer (fun _ _ _ _ _ _ => rfl)
    (fun _ _ _ _ _ => List.Subset.refl _)
  · rw [columnNames, columns]
    exact meets.shape
  · rw [columns]
    exact meets.accepted

/-- A table whose rows stay meets its rules, as long as no key is lost that it refers to. -/
theorem Table.Meets.untouched (meets : table.Meets admits rows)
    (same : changed table.name = rows table.name)
    (referred
      : ∀ constraint ∈ table.constraints, ∀ referent referred,
          constraint.rule.reference = some (referent, referred)
          → keysOf rows referent referred ⊆ keysOf changed referent referred)
    : table.Meets admits changed :=
  meets.mapped rfl (same.trans (List.map_id _).symm) meets.shape meets.accepted
    (List.Subset.refl _) (fun _ _ _ _ _ _ => rfl) referred

/-- A table without rows meets whatever it demands. -/
theorem Table.meets_empty (empty : rows table.name = []) : table.Meets admits rows := by
  refine ⟨?_, ?_, fun constraint _ => constraint.rule.holds_empty empty⟩
  · rw [empty]
    nofun
  · rw [empty]
    nofun

theorem Schema.refersTo_true (stored : table ∈ schema) (apart : table.name ≠ name)
    {constraint : Constraint} (demanded : constraint ∈ table.constraints)
    {referred : List String} (refers : constraint.rule.reference = some (name, referred))
    : schema.refersTo name = true := by
  refine List.any_eq_true.mpr ⟨table, stored, ?_⟩
  rw [Bool.and_eq_true]
  refine ⟨decide_eq_true apart, List.any_eq_true.mpr ⟨constraint, demanded, ?_⟩⟩
  simp [refers]

/-- The rows of a table that nothing refers to can go with it. -/
theorem Store.Meets.dropTable (meets : Store.Meets admits ⟨schema, rows⟩)
    (unreferred : schema.refersTo name = false)
    : Store.Meets admits
        ⟨schema.filter (fun table => table.name ≠ name), Function.update rows name []⟩ := by
  intro table member
  obtain ⟨stored, apart⟩ := List.mem_filter.mp member
  have apart : table.name ≠ name := of_decide_eq_true apart
  refine (meets table stored).untouched (Function.update_of_ne apart _ _) ?_
  intro constraint demanded referent referred refers
  have kept : referent ≠ name := by
    rintro rfl
    cases (Schema.refersTo_true stored apart demanded refers).symm.trans unreferred
  rw [keysOf_update_ne kept]
  exact List.Subset.refl _

theorem Schema.refersToColumn_true (stored : table ∈ schema) {constraint : Constraint}
    (demanded : constraint ∈ table.constraints) {referred : List String}
    (refers : constraint.rule.reference = some (name, referred)) (read : column ∈ referred)
    (outside : table.name ≠ name ∨ column ∉ constraint.rule.columns)
    : schema.refersToColumn name column = true := by
  refine List.any_eq_true.mpr ⟨table, stored, List.any_eq_true.mpr ⟨constraint, demanded, ?_⟩⟩
  rw [Bool.and_eq_true]
  refine ⟨by simp [refers, read], ?_⟩
  rcases outside with apart | unread
  · simp [apart]
  · simp [unread]

/-- The tables of a name can be changed with their rows, if they meet what they come to demand
and the other tables lose no key that they refer to.
-/
theorem Store.Meets.change (meets : Store.Meets admits ⟨schema, rows⟩)
    {edit : Table Ty Default Value → Table Ty Default Value} {given : List (Row Value)}
    (own
      : ∀ table ∈ schema, table.name = name → table.Meets admits rows
        → (edit table).Meets admits (Function.update rows name given))
    (referred
      : ∀ table ∈ schema, table.name ≠ name → ∀ constraint ∈ table.constraints,
          ∀ referent referred, constraint.rule.reference = some (referent, referred)
          → keysOf rows referent referred
              ⊆ keysOf (Function.update rows name given) referent referred)
    : Store.Meets admits ⟨schema.change name edit, Function.update rows name given⟩ := by
  intro table member
  obtain ⟨old, stored, rfl⟩ := mem_rewriteWhere.mp member
  have before := meets old stored
  by_cases here : old.name = name
  · rw [if_pos (decide_eq_true here)]
    exact own old stored here before
  · rw [if_neg (by simpa using here)]
    exact before.untouched (Function.update_of_ne here _ _) (referred old stored here)

/-- The rows without a column meet the table without it. -/
theorem Table.Meets.withoutColumn (meets : table.Meets admits rows)
    (erased : changed table.name = (rows table.name).map (eraseColumn column))
    (referred
      : ∀ constraint ∈ table.constraints, column ∉ constraint.rule.columns
        → ∀ referent referred, constraint.rule.reference = some (referent, referred)
        → keysOf rows referent referred ⊆ keysOf changed referent referred)
    : (table.withoutColumn column).Meets admits changed := by
  have unread
      : ∀ constraint ∈ (table.withoutColumn column).constraints,
          constraint ∈ table.constraints ∧ column ∉ constraint.rule.columns := by
    intro constraint demanded
    obtain ⟨demanded, unread⟩ := List.mem_filter.mp demanded
    exact ⟨demanded, by simpa using unread⟩
  refine meets.mapped rfl erased ?_ ?_
    (fun constraint demanded => (unread constraint demanded).1) ?_ ?_
  · intro row stored
    rw [eraseColumn_names, meets.shape row stored, Table.columnNames, Table.columnNames,
      Table.withoutColumn, List.filter_map]
    rfl
  · intro row stored other remaining
    obtain ⟨storedColumn, apart⟩ := List.mem_filter.mp remaining
    rw [valueOf_eraseColumn (of_decide_eq_true apart)]
    exact meets.accepted row stored other storedColumn
  · exact fun constraint demanded other read row _ =>
      valueOf_eraseColumn fun same => (unread constraint demanded).2 (same ▸ read)
  · intro constraint demanded
    obtain ⟨demanded, unread⟩ := unread constraint demanded
    exact referred constraint demanded unread

/-- A column that nothing outside refers to can go, with what reads it. -/
theorem Store.Meets.dropColumn (meets : Store.Meets admits ⟨schema, rows⟩)
    (unreferred : schema.refersToColumn name column = false)
    : Store.Meets admits
        ⟨schema.change name (Table.withoutColumn column),
          Function.update rows name ((rows name).map (eraseColumn column))⟩ := by
  have kept
      : ∀ table ∈ schema, ∀ constraint ∈ table.constraints,
          (table.name ≠ name ∨ column ∉ constraint.rule.columns)
          → ∀ referent referred, constraint.rule.reference = some (referent, referred)
          → keysOf rows referent referred
              ⊆ keysOf (Function.update rows name ((rows name).map (eraseColumn column)))
                  referent referred := by
    intro table stored constraint demanded outside referent referred refers
    by_cases here : referent = name
    · subst here
      have unread : column ∉ referred := by
        intro read
        have found := Schema.refersToColumn_true stored demanded refers read outside
        cases found.symm.trans unreferred
      rw [keysOf_update_map]
      · exact List.Subset.refl _
      · exact fun row _ other read => valueOf_eraseColumn fun same => unread (same ▸ read)
    · rw [keysOf_update_ne here]
      exact List.Subset.refl _
  refine meets.change ?_ ?_
  · rintro table stored rfl before
    exact before.withoutColumn (Function.update_self ..)
      (fun constraint demanded unread => kept table stored constraint demanded (.inr unread))
  · exact fun table stored apart constraint demanded =>
      kept table stored constraint demanded (.inl apart)

/-- A schema with the same columns and no new constraints allows the same rows. -/
theorem Store.Meets.fewer (meets : Store.Meets admits ⟨schema, rows⟩)
    {new : Schema Ty Default Value}
    (known
      : ∀ table ∈ new, ∃ old ∈ schema,
          table.name = old.name ∧ table.columns = old.columns
          ∧ table.constraints ⊆ old.constraints)
    : Store.Meets admits ⟨new, rows⟩ := by
  intro table member
  obtain ⟨old, stored, same, columns, fewer⟩ := known table member
  exact (meets old stored).fewer same columns fewer

theorem Schema.hasColumns_true (stored : table ∈ schema) (same : table.name = name)
    {columns : List String} (present : ∀ column ∈ columns, column ∈ table.columnNames)
    : schema.hasColumns name columns = true := by
  refine List.any_eq_true.mpr ⟨table, stored, ?_⟩
  simpa [same] using present

theorem valueOf_absent {row : Row Value} (absent : column ∉ row.map Prod.fst)
    : valueOf row column = none := by
  have missed : row.lookup column = none := by
    rw [List.lookup_eq_none_iff]
    intro entry member
    have apart : column ≠ entry.1 := fun same => absent (same ▸ List.mem_map_of_mem member)
    simpa using apart
  rw [valueOf, missed]
  rfl

/-- The rows with NULL in a new nullable column meet the table with the column. -/
theorem Table.Meets.withColumn {new : Column Ty Default} (meets : table.Meets admits rows)
    (absent : new.name ∉ table.columnNames) (nullable : new.nullable = true)
    (appended
      : changed table.name
        = (rows table.name).map (fun row => row ++ [(new.name, none)]))
    (kept : ∀ referent referred, keysOf rows referent referred ⊆ keysOf changed referent referred)
    : ({ table with columns := table.columns ++ [new] } : Table Ty Default Value).Meets admits
        changed := by
  refine meets.mapped rfl appended ?_ ?_ (List.Subset.refl _)
    (fun _ _ _ _ _ _ => valueOf_append_null) (fun _ _ referent referred _ => kept _ _)
  · intro row stored
    rw [List.map_append, meets.shape row stored]
    simp [Table.columnNames]
  · intro row stored column present
    rw [valueOf_append_null]
    rcases List.mem_append.mp present with old | added
    · exact meets.accepted row stored column old
    · obtain rfl := List.mem_singleton.mp added
      rw [valueOf_absent (meets.shape row stored ▸ absent)]
      exact nullable

/-- A nullable column can be added as NULL everywhere. -/
theorem Store.Meets.addColumn {new : Column Ty Default}
    (meets : Store.Meets admits ⟨schema, rows⟩)
    (fresh : schema.hasColumns name [new.name] = false) (nullable : new.nullable = true)
    : Store.Meets admits
        ⟨schema.change name (fun table => { table with columns := table.columns ++ [new] }),
          Function.update rows name
            ((rows name).map (fun row => row ++ [(new.name, none)]))⟩ := by
  have kept
      : ∀ referent referred,
          keysOf rows referent referred
          ⊆ keysOf
              (Function.update rows name
                ((rows name).map (fun row => row ++ [(new.name, none)])))
              referent referred := by
    intro referent referred
    rw [keysOf_update_map fun _ _ _ _ => valueOf_append_null]
    exact List.Subset.refl _
  refine meets.change ?_ (fun _ _ _ _ _ _ _ _ => kept _ _)
  rintro table stored rfl before
  have absent : new.name ∉ table.columnNames := by
    intro present
    have found : schema.hasColumns table.name [new.name] = true :=
      Schema.hasColumns_true stored rfl (List.forall_mem_singleton.mpr present)
    cases found.symm.trans fresh
  exact before.withColumn absent nullable (Function.update_self ..) kept

/-- A constraint can be added to rows that it holds of. -/
theorem Store.Meets.addConstraint (meets : Store.Meets admits ⟨schema, rows⟩)
    {constraint : Constraint} (holds : constraint.rule.Holds rows name)
    : Store.Meets admits
        ⟨schema.change name (fun table =>
          { table with constraints := table.constraints ++ [constraint] }), rows⟩ := by
  intro table member
  obtain ⟨old, stored, rfl⟩ := mem_rewriteWhere.mp member
  have before := meets old stored
  split
  · rename_i here
    have here : old.name = name := of_decide_eq_true here
    subst here
    refine ⟨before.shape, before.accepted, fun other demanded => ?_⟩
    rcases List.mem_append.mp demanded with old_ | added
    · exact before.rules other old_
    · obtain rfl := List.mem_singleton.mp added
      exact holds
  · exact before

/-- Rows can be inserted that their own table allows; the other tables lose no key. -/
theorem Store.Meets.bulkInsert (meets : Store.Meets admits ⟨schema, rows⟩)
    {inserted : List (Row Value)}
    (own
      : ∀ table ∈ schema, table.name = name
        → table.Meets admits (Function.update rows name (rows name ++ inserted)))
    : Store.Meets admits ⟨schema, Function.update rows name (rows name ++ inserted)⟩ := by
  intro table stored
  by_cases here : table.name = name
  · exact own table stored here
  · refine (meets table stored).untouched (Function.update_of_ne here _ _) ?_
    intro constraint _ referent referred _ key member
    by_cases grown : referent = name
    · subst grown
      show key ∈ (Function.update rows referent (rows referent ++ inserted) referent).map _
      rw [Function.update_self, List.map_append]
      exact List.mem_append_left _ member
    · rw [keysOf_update_ne grown]
      exact member

/-- No row of a table has a column that the table does not have. -/
theorem Store.Valid.fresh {store : Store Ty Default Value} (valid : store.Valid admits)
    (fresh : store.tables.hasColumns name [column] = false)
    : ∀ row ∈ store.rows name, column ∉ row.map Prod.fst := by
  intro row stored present
  by_cases known : name ∈ store.tables.tableNames
  · obtain ⟨table, member, rfl⟩ := List.mem_map.mp known
    rw [(valid.meets table member).shape row stored] at present
    have found : store.tables.hasColumns table.name [column] = true :=
      Schema.hasColumns_true member rfl (List.forall_mem_singleton.mpr present)
    cases found.symm.trans fresh
  · rw [valid.absent name known] at stored
    cases stored

section Filled

variable {evaluate other : Default → Value} {given : List (List (String × Value))}

theorem valueOf_fillRow (columns : List (Column Ty Default)) (given : List (String × Value))
    (name : String)
    : valueOf (fillRow evaluate columns given) name
      = (findBy Column.name name columns).bind
          (fun column => (given.lookup name).or (column.serverDefault.map evaluate)) := by
  induction columns with
  | nil => rfl
  | cons column rest ih =>
      unfold valueOf at ih ⊢
      rw [fillRow, List.map_cons, List.lookup_cons, findBy, List.find?_cons]
      by_cases here : column.name = name
      · subst here
        simp
      · have missed : (name == column.name) = false := by simpa using fun same => here same.symm
        rw [missed, decide_eq_false here]
        exact ih

/-- Rows that other values are filled into meet the table as well, if the same columns accept
these and no rule reads them.
-/
theorem Table.Meets.refilled
    (meets : table.Meets admits (fun _ => given.map (fillRow other table.columns)))
    (same : ∀ type default, admits type (evaluate default) = admits type (other default))
    (read
      : ∀ constraint ∈ table.constraints, constraint.rule.reference = none
        ∧ ∀ row ∈ given, ∀ column ∈ constraint.rule.columns, (row.lookup column).isSome = true)
    : table.Meets admits (fun _ => given.map (fillRow evaluate table.columns)) := by
  refine ⟨?_, ?_, ?_⟩
  · refine List.forall_mem_map.mpr fun row _ => ?_
    simp [fillRow, columnNames]
  · refine List.forall_mem_map.mpr fun row member column stored => ?_
    have before := meets.accepted _ (List.mem_map_of_mem member) column stored
    rw [valueOf_fillRow] at before ⊢
    cases found : findBy Column.name column.name table.columns with
    | none => simpa [found] using before
    | some first =>
        rw [found] at before
        cases given_ : row.lookup column.name with
        | some value => simpa [given_] using before
        | none =>
            cases default_ : first.serverDefault with
            | none => simpa [given_, default_] using before
            | some default => simpa [given_, default_, Column.accepts, same] using before
  · intro constraint demanded
    obtain ⟨refersNot, given_⟩ := read constraint demanded
    refine (meets.rules constraint demanded).transfer ?_ ?_
    · rw [keysOf, keysOf, List.map_map, List.map_map]
      apply List.map_congr_left
      intro row member
      refine keyOf_congr fun column columnRead => ?_
      obtain ⟨value, held⟩ := Option.isSome_iff_exists.mp (given_ row member column columnRead)
      rw [valueOf_fillRow, valueOf_fillRow, held]
      rfl
    · rw [refersNot]
      nofun

end Filled

end Unobstructed

-----------------------------------------------------------------------------------------
-- Results
-----------------------------------------------------------------------------------------

/-- The operations that no rows can stand in the way of. -/
def Operation.unobstructed : Operation Ty Default Value → Bool
  | addColumn _ column => column.nullable && column.serverDefault.isNone
  | addConstraint _ _ => false
  | bulkInsert _ _ => false
  | _ => true

section Results

variable {evaluate : Default → Value} {admits : Ty → Value → Bool}
  {store after : Store Ty Default Value}
  {operation : Operation Ty Default Value} {operations : List (Operation Ty Default Value)}

/-- The store that an operation leads to if it succeeds. -/
def Operation.result (evaluate : Default → Value) (store : Store Ty Default Value)
    (operation : Operation Ty Default Value)
    : Store Ty Default Value where
  tables := operation.edit store.tables
  rows := operation.rewrite evaluate store.tables store.rows

/-- The store that operations lead to if they succeed. -/
def resultAll (evaluate : Default → Value) (operations : List (Operation Ty Default Value))
    (store : Store Ty Default Value)
    : Store Ty Default Value :=
  operations.foldl (fun store operation => operation.result evaluate store) store

theorem resultAll_tables
    : (resultAll evaluate operations store).tables = editAll operations store.tables := by
  induction operations generalizing store with
  | nil => rfl
  | cons operation rest ih => exact ih

/-- Operations that pass pass in two parts, the second one on what the first one leads to. -/
theorem passesAll_parts [DecidableEq Ty] {first second : List (Operation Ty Default Value)}
    (evaluate : Default → Value)
    (passes : passesAll (first ++ second) store.tables = true)
    : passesAll first store.tables = true
      ∧ passesAll second (resultAll evaluate first store).tables = true := by
  rw [passesAll_append, Bool.and_eq_true] at passes
  rwa [resultAll_tables]

/-- A change that keeps the names of tables keeps all of them. -/
theorem Schema.mem_tableNames_change {schema : Schema Ty Default Value} {name changed : String}
    {edit : Table Ty Default Value → Table Ty Default Value}
    (same : ∀ table, (edit table).name = table.name) (present : name ∈ schema.tableNames)
    : name ∈ (schema.change changed edit).tableNames := by
  rw [Schema.tableNames, Schema.change, map_rewriteWhere same]
  exact present

/-- A table goes only when it is dropped. -/
theorem Operation.mem_tableNames_edit {schema : Schema Ty Default Value} {name : String}
    (present : name ∈ schema.tableNames) (kept : operation ≠ .dropTable name)
    : name ∈ (operation.edit schema).tableNames := by
  cases operation with
  | createTable table columns constraints =>
      obtain ⟨old, stored, rfl⟩ := List.mem_map.mp present
      exact List.mem_map_of_mem (List.mem_append_left _ stored)
  | dropTable table =>
      obtain ⟨old, stored, rfl⟩ := List.mem_map.mp present
      have apart : old.name ≠ table := by
        rintro rfl
        exact kept rfl
      exact List.mem_map_of_mem (List.mem_filter.mpr ⟨stored, decide_eq_true apart⟩)
  | dropIndex index =>
      obtain ⟨old, stored, rfl⟩ := List.mem_map.mp present
      exact List.mem_map.mpr ⟨_, List.mem_map_of_mem stored, rfl⟩
  | addColumn | dropColumn | addConstraint | dropConstraint | createIndex =>
      exact Schema.mem_tableNames_change (fun _ => rfl) present
  | bulkInsert table given => exact present

theorem Schema.hasTable_iff {schema : Schema Ty Default Value} {name : String}
    : schema.hasTable name = true ↔ name ∈ schema.tableNames := by
  simp [hasTable, anyNamed, tableNames]

theorem Schema.mem_relationNames {schema : Schema Ty Default Value} {name : String}
    (present : name ∈ schema.tableNames)
    : name ∈ schema.relationNames := by
  obtain ⟨table, stored, rfl⟩ := List.mem_map.mp present
  refine List.mem_flatMap.mpr ⟨table, stored, ?_⟩
  simp [Table.relationNames]

variable [DecidableEq Ty]

/-- An operation that passes gives no rows to a table that is not there. -/
theorem Operation.rewrite_absent {schema : Schema Ty Default Value} {rows : Rows Value}
    {name : String} (passes : operation.passes schema = true)
    (missing : name ∉ schema.tableNames) (empty : rows name = [])
    : operation.rewrite evaluate schema rows name = [] := by
  have changed
      : ∀ table (change : Row Value → Row Value),
          Function.update rows table ((rows table).map change) name = [] := by
    intro table change
    by_cases here : name = table
    · subst here
      rw [Function.update_self, empty]
      rfl
    · rw [Function.update_of_ne here]
      exact empty
  cases operation with
  | dropTable table =>
      by_cases here : name = table
      · subst here
        exact Function.update_self ..
      · exact (Function.update_of_ne here _ _).trans empty
  | addColumn table column => exact changed table _
  | dropColumn table column => exact changed table _
  | bulkInsert table given =>
      have present := Schema.hasTable_iff.mp (passes_check passes (.head _))
      have apart : name ≠ table := by
        rintro rfl
        exact missing present
      exact (Function.update_of_ne apart _ _).trans empty
  | createTable | addConstraint | dropConstraint | createIndex | dropIndex => exact empty

/-- A table that is not there after an operation has no rows then. -/
theorem Operation.result_absent (passes : operation.passes store.tables = true)
    (absent : ∀ name, name ∉ store.tables.tableNames → store.rows name = [])
    : ∀ name,
        name ∉ (operation.result evaluate store).tables.tableNames
        → (operation.result evaluate store).rows name = [] := by
  intro name missing
  by_cases dropped : operation = .dropTable name
  · subst dropped
    exact Function.update_self ..
  · have missing : name ∉ store.tables.tableNames :=
      fun present => missing (mem_tableNames_edit present dropped)
    exact rewrite_absent passes missing (absent name missing)

/-- What an operation that passes leaves, if no rows can stand in its way. -/
theorem Operation.result_meets (valid : store.Valid admits)
    (passes : operation.passes store.tables = true) (free : operation.unobstructed = true)
    : (operation.result evaluate store).Meets admits := by
  have meets : Store.Meets admits ⟨store.tables, store.rows⟩ := valid.meets
  cases operation with
  | createTable name columns constraints =>
      have fresh := List.all_eq_true.mp (passes_check passes (.head _)) name (.head _)
      have missing : name ∉ store.tables.tableNames :=
        fun present => absurd (Schema.mem_relationNames present) (by simpa using fresh)
      intro table member
      rcases List.mem_append.mp member with stored | new
      · exact meets table stored
      · obtain rfl := List.mem_singleton.mp new
        exact Table.meets_empty (valid.absent name missing)
  | dropTable name =>
      have unreferred := passes_check passes (.tail _ (.head _))
      exact meets.dropTable (by simpa using unreferred)
  | addColumn table column =>
      have fresh := passes_check passes (.tail _ (.head _))
      obtain ⟨nullable, unset⟩ := Bool.and_eq_true_iff.mp free
      have result := meets.addColumn (by simpa using fresh) nullable
      rw [Operation.result, Operation.rewrite, Option.isNone_iff_eq_none.mp unset]
      exact result
  | dropColumn table column =>
      have unreferred := passes_check passes (.tail _ (.tail _ (.head _)))
      exact meets.dropColumn (by simpa using unreferred)
  | dropConstraint table name =>
      refine meets.fewer fun after member => ?_
      obtain ⟨old, stored, rfl⟩ := mem_rewriteWhere.mp member
      refine ⟨old, stored, ?_⟩
      split
      · exact ⟨rfl, rfl, List.filter_sublist.subset⟩
      · exact ⟨rfl, rfl, List.Subset.refl _⟩
  | createIndex table index =>
      refine meets.fewer fun after member => ?_
      obtain ⟨old, stored, rfl⟩ := mem_rewriteWhere.mp member
      refine ⟨old, stored, ?_⟩
      split <;> exact ⟨rfl, rfl, List.Subset.refl _⟩
  | dropIndex name =>
      refine meets.fewer fun after member => ?_
      obtain ⟨old, stored, rfl⟩ := List.mem_map.mp member
      exact ⟨old, stored, rfl, rfl, List.Subset.refl _⟩
  | addConstraint table constraint => cases free
  | bulkInsert table given => cases free

variable [DecidableEq Value]

/-- An operation succeeds exactly when its checks hold and its result is allowed. -/
theorem Operation.apply_ok_iff
    : operation.apply evaluate admits store = .ok after
      ↔ operation.passes store.tables = true
        ∧ (operation.result evaluate store).Meets admits
        ∧ after = operation.result evaluate store := by
  unfold apply
  cases altered : operation.alter store.tables with
  | error refusal =>
      refine iff_of_false nofun fun ⟨passes, _⟩ => ?_
      cases altered.symm.trans (alter_ok_iff.mpr ⟨passes, rfl⟩)
  | ok tables =>
      obtain ⟨passes, rfl⟩ := alter_ok_iff.mp altered
      show (if (operation.result evaluate store).meets admits then _ else _) = _ ↔ _
      by_cases meets : (operation.result evaluate store).Meets admits
      · rw [if_pos ((Store.meets_iff admits).mpr meets)]
        simp only [passes, meets, true_and, Except.ok.injEq]
        exact eq_comm
      · rw [if_neg (mt (Store.meets_iff admits).mp meets)]
        exact iff_of_false nofun fun both => meets both.2.1

/-- An operation that succeeds leaves what the schema allows. -/
theorem Operation.apply_valid (valid : store.Valid admits)
    (applied : operation.apply evaluate admits store = .ok after)
    : after.Valid admits := by
  obtain ⟨passes, meets, rfl⟩ := apply_ok_iff.mp applied
  exact ⟨meets, result_absent passes valid.absent⟩

/-- So do operations one after another, by induction on them. -/
theorem applyAll_valid (valid : store.Valid admits)
    (applied : applyAll evaluate admits operations store = .ok after)
    : after.Valid admits := by
  induction operations generalizing store with
  | nil =>
      cases applied
      exact valid
  | cons operation rest ih =>
      rw [applyAll] at applied
      cases first : operation.apply evaluate admits store with
      | error refusal =>
          rw [first] at applied
          cases applied
      | ok middle =>
          rw [first] at applied
          exact ih (operation.apply_valid valid first) applied

/-- The operations all succeed, one after another. -/
def Succeeds (evaluate : Default → Value) (admits : Ty → Value → Bool)
    (operations : List (Operation Ty Default Value)) (store : Store Ty Default Value)
    : Prop :=
  applyAll evaluate admits operations store = .ok (resultAll evaluate operations store)

/-- Operations that end in a store have all succeeded, by induction on them. -/
theorem applyAll_ok_result (applied : applyAll evaluate admits operations store = .ok after)
    : after = resultAll evaluate operations store := by
  induction operations generalizing store with
  | nil => exact (Except.ok.inj applied).symm
  | cons operation rest ih =>
      rw [applyAll] at applied
      cases first : operation.apply evaluate admits store with
      | error refusal =>
          rw [first] at applied
          cases applied
      | ok middle =>
          obtain rfl := (Operation.apply_ok_iff.mp first).2.2
          rw [first] at applied
          exact ih applied

theorem Succeeds.of_isOk (ok : (applyAll evaluate admits operations store).isOk = true)
    : Succeeds evaluate admits operations store := by
  cases applied : applyAll evaluate admits operations store with
  | error refusal =>
      rw [applied] at ok
      cases ok
  | ok after => rw [Succeeds, applied, applyAll_ok_result applied]

theorem Succeeds.single (passes : operation.passes store.tables = true)
    (meets : (operation.result evaluate store).Meets admits)
    : Succeeds evaluate admits [operation] store := by
  rw [Succeeds, applyAll, Operation.apply_ok_iff.mpr ⟨passes, meets, rfl⟩]
  rfl

/-- Operations succeed that succeed after others, by induction on these. -/
theorem Succeeds.append {first second : List (Operation Ty Default Value)}
    (start : Succeeds evaluate admits first store)
    (rest : Succeeds evaluate admits second (resultAll evaluate first store))
    : Succeeds evaluate admits (first ++ second) store := by
  induction first generalizing store with
  | nil => exact rest
  | cons operation others ih =>
      rw [Succeeds, applyAll] at start
      cases applied : operation.apply evaluate admits store with
      | error refusal =>
          rw [applied] at start
          cases start
      | ok middle =>
          obtain rfl := (Operation.apply_ok_iff.mp applied).2.2
          rw [applied] at start
          rw [Succeeds, List.cons_append, applyAll, applied]
          exact ih start rest

/-- Operations that pass their checks all succeed, if no rows can stand in their way; by
induction on them.
-/
theorem Succeeds.unobstructed (valid : store.Valid admits)
    (free : operations.all Operation.unobstructed = true)
    (passes : passesAll operations store.tables = true)
    : Succeeds evaluate admits operations store := by
  induction operations generalizing store with
  | nil => rfl
  | cons operation rest ih =>
      obtain ⟨freeFirst, freeRest⟩ := Bool.and_eq_true_iff.mp free
      obtain ⟨passesFirst, passesRest⟩ := Bool.and_eq_true_iff.mp passes
      have meets : (operation.result evaluate store).Meets admits :=
        Operation.result_meets valid passesFirst freeFirst
      have applied := Operation.apply_ok_iff.mpr ⟨passesFirst, meets, rfl⟩
      exact (Succeeds.single passesFirst meets).append
        (ih (operation.apply_valid valid applied) freeRest passesRest)

/-- What operations that succeed leave is what the schema allows. -/
theorem Succeeds.valid (succeeds : Succeeds evaluate admits operations store)
    (valid : store.Valid admits)
    : (resultAll evaluate operations store).Valid admits :=
  applyAll_valid valid succeeds

end Results

end SpecterCloud.Foundations.Relational
