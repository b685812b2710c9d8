import SchemaEvolution.Operation.Apply
import SchemaEvolution.Proofs.Dialect.Placeholders
import SchemaEvolution.Proofs.Procedure.Run

/-!
# The parameters of calls on rows

Every call on rows sends at most one statement. Its placeholders are numbered through from the first
one, over the row and the filter alike, and each of them binds the value that stands at its place.
-/

namespace SchemaEvolution

open Text (Shows placeholders)

variable {σ α β : Type}

namespace Action

/-- The calls that an action makes against a backend, in order. -/
def requests (backend : Backend σ) (s : σ) (action : Action α) : List Call :=
  (action.runFrom backend s).exchanges.map (·.request)

variable {backend : Backend σ} {s : σ}

@[simp] theorem requests_call (c : Call) : (call c).requests backend s = [c] := by
  cases hanswer : (backend.answer c).run s with
  | mk answer t =>
    cases answer with
    | ok value => rw [requests, runFrom_call_of_ok hanswer, List.map_singleton]
    | error cause => rw [requests, runFrom_call_of_error hanswer, List.map_singleton]

/-- What becomes of the result of an action does not change what it asks. -/
@[simp] theorem requests_bind_pure (action : Action α) (f : α → β) :
    Action.requests backend s (action >>= fun a => pure (f a)) = action.requests backend s := by
  cases hcourse : action.runFrom backend s with
  | mk result t exchanges =>
    cases result with
    | ok a => rw [requests, requests, runFrom_bind_of_ok hcourse, hcourse, runFrom_pure,
        Course.after_mk, List.append_nil]
    | error e => rw [requests, requests, runFrom_bind_of_error hcourse, hcourse]

@[simp] theorem requests_forget (action : Action α) :
    (Operation.forget action).requests backend s = action.requests backend s :=
  requests_bind_pure action fun _ => ()

end Action

/-- A call on the rows of a database. -/
inductive DataCall where
  | insert (table : String) (columns : List String) (values : Option (List Value))
  | insertReturning (table returned : String) (columns : List String)
      (values : Option (List Value))
  | update (table : String) (columns : List String) (values : Option (List Value))
      (filter : Option Filter)
  | delete (table : String) (filter : Option Filter)
  | count (table : String) (filter : Option Filter)
  | hasRow (table : String) (filter : Option Filter)
  | select (query : Select)
  deriving DecidableEq, Repr

namespace DataCall

/-- Makes the call, whatever it gives. -/
def run (c : Client) : DataCall → Action Unit
  | insert table columns values => Operation.forget (c.insert table columns values)
  | insertReturning table returned columns values =>
    Operation.forget (c.insertReturning table returned columns values)
  | update table columns values filter =>
    Operation.forget (c.update table columns values filter)
  | delete table filter => Operation.forget (c.delete table filter)
  | count table filter => Operation.forget (c.count table filter)
  | hasRow table filter => Operation.forget (c.hasRow table filter)
  | select query => Operation.forget (c.select query)

/-- The columns that the call refers to in its filter, its projection and its sorting. -/
def references : DataCall → List String
  | insert _ _ _ => []
  | insertReturning _ _ _ _ => []
  | update _ _ _ filter => filter.elim [] Filter.columns
  | delete _ filter => filter.elim [] Filter.columns
  | count _ filter => filter.elim [] Filter.columns
  | hasRow _ filter => filter.elim [] Filter.columns
  | select query =>
    query.filter.elim [] Filter.columns ++ query.columns ++ query.sortedBy.map (·.column)

/-- The values of a row: as many as it has columns, or nulls when none are given. -/
def row (columns : List String) : Option (List Value) → Option (List Value)
  | none => some (columns.map fun _ => .null)
  | some values => if values.length = columns.length then some values else none

/-- The values that the call binds, in order: those of its row, nulls included, and then the
operands of its filter. Nothing is bound by a call that is refused: one whose row has another number
of values than of columns, an update of no columns and a select from no table. -/
def bound : DataCall → Option (List Value)
  | insert _ columns values => row columns values
  | insertReturning _ _ columns values => row columns values
  | update _ columns values filter =>
    if columns.isEmpty then none else (row columns values).map (· ++ Filter.operandsOf filter)
  | delete _ filter => some (Filter.operandsOf filter)
  | count _ filter => some (Filter.operandsOf filter)
  | hasRow _ filter => some (Filter.operandsOf filter)
  | select query =>
    if query.tables.isEmpty then none else some (Filter.operandsOf query.filter)

/-- The output slots of the call. -/
def slots : DataCall → List OutParameter
  | insertReturning _ returned _ _ => [OutParameter.returning returned]
  | _ => []

end DataCall

/-- The input parameters that bind values from the first position on. -/
def Parameter.binding (values : List Value) : List Parameter :=
  values.mapIdx fun i value => .input ⟨"par" ++ toString i, i, value⟩

/-- A call binds values: it carries them as its input parameters, shows a placeholder for each of
them, in order, and no others. -/
def Call.Binds (k : Dialect.Supported) (call : Call) (values : List Value)
    (slots : List OutParameter) : Prop :=
  call.parameters = Parameter.binding values ++ slots.map .output ∧
    placeholders k.delimiters call.sql = (List.range values.length).map k.dialect.placeholder

/-! ### What a call is made of -/

namespace Dialect.Supported

variable (k : Dialect.Supported)

/-- Numbered parameters are named by their positions. -/
theorem inputs_number (values : List Value) :
    Parameter.inputs (InParameter.number k.dialect.parameterName 0 values) =
      Parameter.binding values := by
  simp [Parameter.inputs, InParameter.number, Parameter.binding, List.mapIdx_eq_zipIdx_map,
    Function.comp_def, k.parameterName_eq]

/-- The condition of a filter, if there is one, with its parameters. -/
theorem condition_eq (schema : Option String) (config : ClientConfig) (filter : Option Filter)
    (start : Nat) :
    Client.condition ⟨k.dialect, schema, config⟩ filter start =
      .ok (following (filter.map fun f => k.conditionText f start),
        InParameter.number k.dialect.parameterName start (Filter.operandsOf filter)) := by
  cases filter with
  | none => rfl
  | some filter =>
    rw [Client.condition, k.whereClause_eq]
    rfl

end Dialect.Supported

/-- The parameters of two parts are numbered through. -/
theorem InParameter.number_append (name : Nat → String) (start : Nat) (first second : List Value) :
    number name start (first ++ second) =
      number name start first ++ number name (start + first.length) second := by
  simp [number, List.mapIdx_append, Nat.add_assoc, Nat.add_comm first.length]

namespace DataCall

theorem rowValues_of_some {columns : List String} {values : Option (List Value)}
    {bound : List Value} (h : row columns values = some bound) :
    Client.rowValues columns values = .ok bound ∧ bound.length = columns.length := by
  cases values with
  | none =>
    cases h
    exact ⟨rfl, by simp⟩
  | some values =>
    by_cases hlength : values.length = columns.length
    · rw [row, if_pos hlength] at h
      cases h
      exact ⟨by rw [Client.rowValues, if_pos hlength], hlength⟩
    · rw [row, if_neg hlength] at h
      cases h

theorem rowValues_of_none {columns : List String} {values : Option (List Value)}
    (h : row columns values = none) : ∃ e, Client.rowValues columns values = .error e := by
  cases values with
  | none => cases h
  | some values =>
    by_cases hlength : values.length = columns.length
    · rw [row, if_pos hlength] at h
      cases h
    · exact ⟨_, by rw [Client.rowValues, if_neg hlength]⟩

end DataCall

/-! ### Each kind of call -/

/-- Against any backend, an action makes one call, which binds values. -/
def Action.SendsBinding (k : Dialect.Supported) (action : Action α) (values : List Value)
    (slots : List OutParameter) : Prop :=
  ∀ {σ : Type} (backend : Backend σ) (s : σ), ∃ request,
    action.requests backend s = [request] ∧ request.Binds k values slots

namespace Dialect.Supported

variable (k : Dialect.Supported) (schema : Option String) (config : ClientConfig)

/-- A client of the dialect. -/
abbrev client : Client := ⟨k.dialect, schema, config⟩

theorem sends_insert (table : String) {columns : List String} {values : Option (List Value)}
    {bound : List Value} (h : DataCall.row columns values = some bound) :
    ((k.client schema config).insert table columns values).SendsBinding k bound [] := by
  obtain ⟨hvalues, hlength⟩ := DataCall.rowValues_of_some h
  intro σ backend s
  refine ⟨.execute (k.dialect.insert ((k.client schema config).tableName table) columns)
    (Parameter.inputs (k.dialect.nameParameters 0 bound)), ?_, ?_, ?_⟩
  · rw [Client.insert, hvalues]
    exact Action.requests_call _
  · rw [k.plain.nameParameters, List.map_nil, List.append_nil]
    exact k.inputs_number bound
  · rw [hlength]
    exact (k.shows_insert _ columns).placeholders_eq

theorem sends_insertReturning (table returned : String) {columns : List String}
    {values : Option (List Value)} {bound : List Value}
    (h : DataCall.row columns values = some bound) :
    ((k.client schema config).insertReturning table returned columns values).SendsBinding k bound
      [OutParameter.returning returned] := by
  obtain ⟨hvalues, hlength⟩ := DataCall.rowValues_of_some h
  obtain ⟨sql, hsql, hshows⟩ := k.shows_insertReturning ((k.client schema config).tableName table)
    columns returned (OutParameter.returning returned)
  have hwritten : (k.client schema config).returningInsert table returned columns values =
      .ok ⟨sql, k.dialect.nameParameters 0 bound, OutParameter.returning returned⟩ := by
    rw [Client.returningInsert, hvalues]
    change (k.dialect.insertReturning _ _ _ _ >>= _) = _
    rw [hsql]
    rfl
  intro σ backend s
  refine ⟨.insertReturning sql (Parameter.inputs (k.dialect.nameParameters 0 bound) ++
    [.output (OutParameter.returning returned)]), ?_, ?_, ?_⟩
  · rw [Client.insertReturning, hwritten]
    exact Action.requests_call _
  · rw [k.plain.nameParameters]
    exact congrArg (· ++ _) (k.inputs_number bound)
  · rw [hlength]
    exact hshows.placeholders_eq

theorem sends_update (table : String) {columns : List String} {values : Option (List Value)}
    {filter : Option Filter} {bound : List Value} (hcolumns : columns.isEmpty = false)
    (h : DataCall.row columns values = some bound) (hfilter : ∀ f ∈ filter, f.Plain) :
    ((k.client schema config).update table columns values filter).SendsBinding k
      (bound ++ Filter.operandsOf filter) [] := by
  obtain ⟨hvalues, hlength⟩ := DataCall.rowValues_of_some h
  intro σ backend s
  refine ⟨.execute (k.dialect.update ((k.client schema config).tableName table) columns ++
      following (filter.map fun f => k.conditionText f bound.length))
    (Parameter.inputs (InParameter.number k.dialect.parameterName 0
      (bound ++ Filter.operandsOf filter))), ?_, ?_, ?_⟩
  · have hnumbered :
        (InParameter.number k.dialect.parameterName 0 bound).length = bound.length := by
      simp [InParameter.number]
    rw [Client.update, hcolumns, if_neg Bool.false_ne_true, hvalues]
    change Action.requests backend s (Action.ofExcept ((k.client schema config).condition filter
      (k.dialect.nameParameters 0 bound).length) >>= fun p => Client.execute _
        (Parameter.inputs (k.dialect.nameParameters 0 bound ++ p.2))) = _
    rw [k.plain.nameParameters, hnumbered, k.condition_eq, InParameter.number_append, Nat.zero_add]
    exact Action.requests_call _
  · rw [List.map_nil, List.append_nil]
    exact k.inputs_number _
  · rw [List.length_append, List.range_eq_range', ← List.range'_append_1, List.map_append,
      Nat.zero_add, ← List.range_eq_range', hlength]
    exact (k.shows_following hfilter _ (k.shows_update _ columns)).placeholders_eq

theorem sends_delete (table : String) {filter : Option Filter} (hfilter : ∀ f ∈ filter, f.Plain) :
    ((k.client schema config).delete table filter).SendsBinding k
      (Filter.operandsOf filter) [] := by
  intro σ backend s
  refine ⟨.execute (k.dialect.delete ((k.client schema config).tableName table) ++
      following (filter.map fun f => k.conditionText f 0))
    (Parameter.inputs (InParameter.number k.dialect.parameterName 0 (Filter.operandsOf filter))),
    ?_, ?_, ?_⟩
  · rw [Client.delete, k.condition_eq]
    exact Action.requests_call _
  · rw [List.map_nil, List.append_nil]
    exact k.inputs_number _
  · rw [List.range_eq_range']
    exact (k.shows_following hfilter 0 (k.shows_delete _)).placeholders_eq

theorem sends_count (table : String) {filter : Option Filter} (hfilter : ∀ f ∈ filter, f.Plain) :
    ((k.client schema config).count table filter).SendsBinding k (Filter.operandsOf filter) [] := by
  intro σ backend s
  refine ⟨.scalar (k.dialect.count ((k.client schema config).tableName table) ++
      following (filter.map fun f => k.conditionText f 0))
    (Parameter.inputs (InParameter.number k.dialect.parameterName 0 (Filter.operandsOf filter))),
    ?_, ?_, ?_⟩
  · rw [Client.count, k.condition_eq]
    exact (Action.requests_bind_pure _ _).trans (Action.requests_call _)
  · rw [List.map_nil, List.append_nil]
    exact k.inputs_number _
  · rw [List.range_eq_range']
    exact (k.shows_following hfilter 0 (k.shows_count _)).placeholders_eq

theorem sends_hasRow (table : String) {filter : Option Filter} (hfilter : ∀ f ∈ filter, f.Plain) :
    ((k.client schema config).hasRow table filter).SendsBinding k
      (Filter.operandsOf filter) [] := by
  have hclause : (filter.mapM fun f => k.dialect.whereClause f 0) =
      .ok (filter.map fun f => ⟨k.conditionText f 0,
        InParameter.number k.dialect.parameterName 0 f.operands⟩) := by
    cases filter with
    | none => rfl
    | some filter =>
      rw [Option.mapM_some, k.whereClause_eq]
      rfl
  intro σ backend s
  refine ⟨.scalar (k.dialect.hasRow ((k.client schema config).tableName table)
      (filter.map fun f => k.conditionText f 0))
    (Parameter.inputs (InParameter.number k.dialect.parameterName 0 (Filter.operandsOf filter))),
    ?_, ?_, ?_⟩
  · rw [Client.hasRow, hclause]
    cases filter <;> exact (Action.requests_bind_pure _ _).trans (Action.requests_call _)
  · rw [List.map_nil, List.append_nil]
    exact k.inputs_number _
  · exact (k.shows_hasRow hfilter _).placeholders_eq

theorem sends_select {query : Select} (htables : query.tables.isEmpty = false)
    (hplain : query.Plain) :
    ((k.client schema config).select query).SendsBinding k (Filter.operandsOf query.filter) [] := by
  obtain ⟨tables, columns, filter, sortedBy, skip, take⟩ := query
  have hqualified : (tables.map (k.client schema config).tableName).isEmpty = false := by
    rw [List.isEmpty_map]
    exact htables
  intro σ backend s
  refine ⟨.query (k.dialect.select ⟨tables.map (k.client schema config).tableName, columns, filter,
      sortedBy, skip, take⟩ (filter.map fun f => k.conditionText f 0))
    (Parameter.inputs (InParameter.number k.dialect.parameterName 0 (Filter.operandsOf filter))),
    ?_, ?_, ?_⟩
  · change Action.requests backend s (Action.ofExcept (Select.build _ k.dialect) >>= _) = _
    rw [k.build_eq hqualified]
    exact Action.requests_call _
  · rw [List.map_nil, List.append_nil]
    exact k.inputs_number _
  · have hshows := @shows_select k ⟨tables.map (k.client schema config).tableName, columns, filter,
      sortedBy, skip, take⟩ ⟨hplain.filter, hplain.columns, hplain.sortedBy⟩
    exact hshows.placeholders_eq

end Dialect.Supported

namespace DataCall

variable (k : Dialect.Supported) (schema : Option String) (config : ClientConfig)

/-- A call that is refused asks nothing of the backend. -/
theorem requests_of_refused {call : DataCall} (h : call.bound = none) (backend : Backend σ)
    (s : σ) : (call.run (k.client schema config)).requests backend s = [] := by
  have hrefused {α : Type} {row : Except Error (List Value)} (hrow : ∃ e, row = .error e)
      (next : List Value → Action α) :
      Action.requests backend s (Action.ofExcept row >>= next) = [] := by
    obtain ⟨e, rfl⟩ := hrow
    rfl
  cases call with
  | insert table columns values =>
    exact (Action.requests_forget _).trans (hrefused (rowValues_of_none h) _)
  | insertReturning table returned columns values =>
    obtain ⟨e, he⟩ := rowValues_of_none h
    rw [run, Action.requests_forget, Client.insertReturning, Client.returningInsert, he]
    rfl
  | update table columns values filter =>
    rw [run, Action.requests_forget, Client.update]
    by_cases hcolumns : columns.isEmpty = true
    · rw [if_pos hcolumns]
      rfl
    · rw [bound, if_neg hcolumns, Option.map_eq_none_iff] at h
      rw [if_neg hcolumns]
      exact hrefused (rowValues_of_none h) _
  | select query =>
    have htables : query.tables.isEmpty = true := by simpa [bound] using h
    have hqualified : (query.tables.map (k.client schema config).tableName).isEmpty = true := by
      rw [List.isEmpty_map, htables]
    have hbuilt : Select.build { query with
        tables := query.tables.map (k.client schema config).tableName } k.dialect =
          .error (.invalidArgument .selectWithoutTable) := by
      rw [Select.build, hqualified, if_pos rfl]
    rw [run, Action.requests_forget, Client.select, hbuilt]
    rfl
  | _ => cases h

/-- Any other call is one statement, which binds the values of the call. -/
theorem sends_of_bound {call : DataCall} {values : List Value} (h : call.bound = some values)
    (hplain : ∀ column ∈ call.references, PlainReference column) :
    (call.run (k.client schema config)).SendsBinding k values call.slots := by
  have hfilters {filter : Option Filter}
      (h : ∀ column ∈ filter.elim [] Filter.columns, PlainReference column) :
      ∀ f ∈ filter, f.Plain := by
    rintro f rfl
    exact h
  intro σ backend s
  cases call with
  | insert table columns values =>
    rw [run, Action.requests_forget]
    exact k.sends_insert schema config table h backend s
  | insertReturning table returned columns values =>
    rw [run, Action.requests_forget]
    exact k.sends_insertReturning schema config table returned h backend s
  | update table columns values filter =>
    rw [run, Action.requests_forget]
    by_cases hcolumns : columns.isEmpty = true
    · rw [bound, if_pos hcolumns] at h
      cases h
    · rw [bound, if_neg hcolumns, Option.map_eq_some_iff] at h
      obtain ⟨assigned, hassigned, rfl⟩ := h
      exact k.sends_update schema config table (Bool.eq_false_iff.mpr hcolumns) hassigned
        (hfilters hplain) backend s
  | delete table filter =>
    cases h
    rw [run, Action.requests_forget]
    exact k.sends_delete schema config table (hfilters hplain) backend s
  | count table filter =>
    cases h
    rw [run, Action.requests_forget]
    exact k.sends_count schema config table (hfilters hplain) backend s
  | hasRow table filter =>
    cases h
    rw [run, Action.requests_forget]
    exact k.sends_hasRow schema config table (hfilters hplain) backend s
  | select query =>
    rw [run, Action.requests_forget]
    by_cases htables : query.tables.isEmpty = true
    · rw [bound, if_pos htables] at h
      cases h
    · rw [bound, if_neg htables] at h
      cases h
      have hcolumns : ∀ column ∈ query.columns, PlainReference column := fun column hcolumn =>
        hplain column (List.mem_append_left _ (List.mem_append_right _ hcolumn))
      have hsorted : ∀ term ∈ query.sortedBy, PlainReference term.column := fun term hterm =>
        hplain term.column (List.mem_append_right _ (List.mem_map_of_mem hterm))
      have hfilter : ∀ f ∈ query.filter, f.Plain := hfilters fun column hcolumn =>
        hplain column (List.mem_append_left _ (List.mem_append_left _ hcolumn))
      exact k.sends_select schema config (Bool.eq_false_iff.mpr htables)
        ⟨hfilter, hcolumns, hsorted⟩ backend s

end DataCall

/-- A call on rows that reaches the backend sends one statement, in every dialect and with every
schema. Its input parameters are numbered from zero and carry, in order, the values of the row,
nulls included, and the operands of the filter without its nulls; an output slot follows them where a
column of the new row is handed back, and nowhere else. Outside names and literals the statement
shows the placeholders of these parameters and no others, each once and in order. -/
theorem data_call_binds (k : Dialect.Supported) (schema : Option String) (config : ClientConfig)
    (backend : Backend σ) (s : σ) (call : DataCall)
    (h : ∀ column ∈ call.references, PlainReference column) :
    (call.bound = none → (call.run ⟨k.dialect, schema, config⟩).requests backend s = []) ∧
    ∀ values, call.bound = some values → ∃ request,
      (call.run ⟨k.dialect, schema, config⟩).requests backend s = [request] ∧
      request.parameters = Parameter.binding values ++ call.slots.map .output ∧
      placeholders k.delimiters request.sql =
        (List.range values.length).map k.dialect.placeholder :=
  ⟨fun hnone => call.requests_of_refused k schema config hnone backend s,
    fun _ hbound => DataCall.sends_of_bound k schema config hbound h backend s⟩

/-- Against a backend that refuses everything: an update whose names look like placeholders and
quotes, with a null in its row and one in its filter. -/
theorem data_call_binds_of_update :
    ∃ request,
      ((DataCall.update "a.$9" ["x\"$3", "y"] (some [.int 1, .null])
        (some (.and (.compare "z" .less (.int 2)) (.compare "?1" .equal .null)))).run
          ⟨Dialect.postgres, none, {}⟩).requests ⟨fun _ => pure (.error .closed)⟩ () = [request] ∧
      request.parameters = Parameter.binding [.int 1, .null, .int 2] ∧
      placeholders .quotes request.sql = ["$1", "$2", "$3"] := by
  have hplain : ∀ column ∈ ["z", "?1"], PlainReference column := by simp [PlainReference]
  exact (data_call_binds .postgres none {} ⟨fun _ => pure (.error .closed)⟩ ()
    (.update "a.$9" ["x\"$3", "y"] (some [.int 1, .null])
      (some (.and (.compare "z" .less (.int 2)) (.compare "?1" .equal .null)))) hplain).2 _ rfl

end SchemaEvolution
