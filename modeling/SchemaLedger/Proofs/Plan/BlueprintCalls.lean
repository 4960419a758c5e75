import SchemaLedger.Proofs.Plan.ImpliedCommands

/-! # Blueprints that are put together call by call

Callers declare and remove columns, queue commands, and may have commands implied or statements
compiled at any time and any number of times. Columns come and go by declarations and removals only.
Commands are never removed: each call keeps those that are queued, and puts others before or behind
them.
-/

namespace SchemaLedger

set_option autoImplicit false

namespace Blueprint

inductive Call where
  | declare (column : Column)
  | removeColumn (name : String)
  | queue (command : Command)
  | imply
  /-- Commands are implied before statements are compiled, also when these fail. -/
  | toSql (grammar : Grammar)

def call (blueprint : Blueprint) : Call → Blueprint
  | .declare column => blueprint.declare column
  | .removeColumn name => blueprint.removeColumn name
  | .queue command => blueprint.queue command
  | .imply | .toSql _ => blueprint.addImplied

def callAll (blueprint : Blueprint) (calls : List Call) : Blueprint :=
  calls.foldl call blueprint

def ofCalls (table : String) (calls : List Call) : Blueprint :=
  ({ table } : Blueprint).callAll calls

namespace Call

def command? : Call → Option Command
  | queue command => some command
  | _ => none

def implies : Call → Bool
  | imply | toSql _ => true
  | _ => false

/-- What the call makes of the columns. -/
def columns (columns : List Column) : Call → List Column
  | declare column => columns ++ [column]
  | removeColumn name => columns.filter (·.name ≠ name)
  | _ => columns

end Call

/-- The commands that are queued by the caller. -/
def declaredCommands (calls : List Call) : List Command :=
  calls.filterMap Call.command?

/-- The columns that are declared and not removed again. -/
def declaredColumns (calls : List Call) : List Column :=
  calls.foldl Call.columns []

variable (blueprint : Blueprint)

/-- The indexes that are queued for flagged columns. -/
def impliedIndexes : List Command :=
  (firstNamed blueprint.usualName blueprint.indexNames blueprint.flagged).map blueprint.impliedIndex

theorem notMem_of_mem_impliedIndexes {command : Command} (h : command ∈ blueprint.impliedIndexes) :
    command ∉ [.create, .change, .add] := by
  obtain ⟨wanted, -, rfl⟩ := List.mem_map.1 h
  rw [impliedIndex]
  cases wanted.1 <;> simp [Command.ofIndex]

theorem commands_addImplied : blueprint.addImplied.commands =
    blueprint.leadingCommands ++ blueprint.commands ++ blueprint.impliedIndexes := by
  rw [addImplied_eq_append]
  rfl

theorem columns_addImplied : blueprint.addImplied.columns = blueprint.columns := by
  rw [addImplied_eq_append]

theorem table_addImplied : blueprint.addImplied.table = blueprint.table := by
  rw [addImplied_eq_append]

theorem table_call (call : Call) : (blueprint.call call).table = blueprint.table := by
  cases call <;> first | rfl | exact blueprint.table_addImplied

theorem columns_call (call : Call) :
    (blueprint.call call).columns = call.columns blueprint.columns := by
  cases call <;> first | rfl | exact blueprint.columns_addImplied

/-- The commands that a call puts behind those that are queued. -/
def queuedBehind (call : Call) : List Command :=
  call.command?.toList ++ if call.implies then blueprint.impliedIndexes else []

theorem mem_queuedBehind {call : Call} {command : Command}
    (h : command ∈ blueprint.queuedBehind call) :
    command ∈ call.command? ∨ command ∉ [.create, .change, .add] := by
  obtain hcaller | himplied := List.mem_append.1 h
  · exact .inl (Option.mem_toList.1 hcaller)
  · rw [List.mem_ite_nil_right] at himplied
    exact .inr (blueprint.notMem_of_mem_impliedIndexes himplied.2)

/-- One call queues the command of the caller, or the commands that are implied. -/
theorem commands_call (call : Call) : (blueprint.call call).commands =
    (if call.implies then blueprint.leadingCommands else []) ++ blueprint.commands ++
      blueprint.queuedBehind call := by
  cases call with
  | declare | removeColumn =>
    simp [call, queuedBehind, Call.implies, Call.command?, declare, removeColumn]
  | queue command => simp [call, queuedBehind, Call.implies, Call.command?, queue]
  | imply | toSql =>
    rw [call, commands_addImplied]
    simp [queuedBehind, Call.implies, Call.command?]

theorem callAll_cons (first : Call) (rest : List Call) :
    blueprint.callAll (first :: rest) = (blueprint.call first).callAll rest := rfl

theorem declaredCommands_cons (first : Call) (rest : List Call) :
    declaredCommands (first :: rest) = first.command?.toList ++ declaredCommands rest := by
  rw [declaredCommands, List.filterMap_cons]
  cases first.command? <;> rfl

theorem table_callAll (calls : List Call) : (blueprint.callAll calls).table = blueprint.table := by
  induction calls generalizing blueprint with
  | nil => rfl
  | cons first rest ih => rw [callAll_cons, ih, table_call]

theorem columns_callAll (calls : List Call) :
    (blueprint.callAll calls).columns = calls.foldl Call.columns blueprint.columns := by
  induction calls generalizing blueprint with
  | nil => rfl
  | cons first rest ih => rw [callAll_cons, ih, columns_call, List.foldl_cons]

end Blueprint

end SchemaLedger
