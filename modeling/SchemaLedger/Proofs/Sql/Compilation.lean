import SchemaLedger.Sql.Grammar

/-! # Compiling a list of commands

A list of commands compiles when every one of them does, to the statements of all in order, and
fails with the error of the first that does not.
-/

namespace SchemaLedger

set_option autoImplicit false

namespace Grammar

variable (grammar : Grammar) (source : Source)

def Compiles (command : Command) : Prop :=
  (grammar.compile source command).isOk

instance (command : Command) : Decidable (grammar.Compiles source command) :=
  inferInstanceAs (Decidable (_ = _))

/-- The statements of a command, or none of one that does not compile. -/
def outputs (command : Command) : List String :=
  ((grammar.compile source command).toOption.map Compiled.toList).getD []

/-- The commands before the first that does not compile. -/
def compiling (commands : List Command) : List Command :=
  commands.takeWhile (grammar.Compiles source ·)

variable {grammar source} {commands : List Command}

theorem outputs_of_ok {command : Command} {compiled : Compiled}
    (h : grammar.compile source command = .ok compiled) :
    grammar.outputs source command = compiled.toList := by
  simp [outputs, h, Except.toOption]

theorem compiles_of_ok {command : Command} {compiled : Compiled}
    (h : grammar.compile source command = .ok compiled) : grammar.Compiles source command := by
  simp [Compiles, h, Except.isOk, Except.toBool]

theorem not_compiles_of_error {command : Command} {error : Error}
    (h : grammar.compile source command = .error error) : ¬ grammar.Compiles source command := by
  simp [Compiles, h, Except.isOk, Except.toBool]

theorem Compiles.exists_ok {command : Command} (h : grammar.Compiles source command) :
    ∃ compiled, grammar.compile source command = .ok compiled := by
  unfold Compiles at h
  cases hcompile : grammar.compile source command with
  | error error => exact absurd h (not_compiles_of_error hcompile)
  | ok compiled => exact ⟨compiled, rfl⟩

theorem compileEach_cons_of_ok {command : Command} {compiled : Compiled}
    (h : grammar.compile source command = .ok compiled) (rest : List Command) :
    grammar.compileEach source (command :: rest) =
      (grammar.compileEach source rest).map (compiled.toList ++ ·) := by
  rw [compileEach, h]

theorem compileEach_cons_of_error {command : Command} {error : Error}
    (h : grammar.compile source command = .error error) (rest : List Command) :
    grammar.compileEach source (command :: rest) = .error error := by
  rw [compileEach, h]

theorem compileEach_cons_eq_error_iff {command : Command} {compiled : Compiled} {error : Error}
    {rest : List Command} (h : grammar.compile source command = .ok compiled) :
    grammar.compileEach source (command :: rest) = .error error ↔
      grammar.compileEach source rest = .error error := by
  rw [compileEach_cons_of_ok h]
  cases grammar.compileEach source rest <;> simp [Except.map]

theorem compiling_cons_of_ok {command : Command} {compiled : Compiled}
    (h : grammar.compile source command = .ok compiled) (rest : List Command) :
    grammar.compiling source (command :: rest) = command :: grammar.compiling source rest := by
  simp [compiling, compiles_of_ok h]

theorem compiling_cons_of_error {command : Command} {error : Error}
    (h : grammar.compile source command = .error error) (rest : List Command) :
    grammar.compiling source (command :: rest) = [] := by
  simp [compiling, not_compiles_of_error h]

theorem compileEach_eq_ok_iff {statements : List String} :
    grammar.compileEach source commands = .ok statements ↔
      (∀ command ∈ commands, grammar.Compiles source command) ∧
        statements = commands.flatMap (grammar.outputs source) := by
  induction commands generalizing statements with
  | nil => simp [compileEach, eq_comm]
  | cons command rest ih =>
    cases hcompile : grammar.compile source command with
    | error error =>
      simp [compileEach_cons_of_error hcompile, not_compiles_of_error hcompile]
    | ok compiled =>
      rw [compileEach_cons_of_ok hcompile, List.forall_mem_cons, List.flatMap_cons,
        outputs_of_ok hcompile]
      constructor
      · intro h
        cases hrest : grammar.compileEach source rest with
        | error error => simp [hrest, Except.map] at h
        | ok later =>
          obtain ⟨hcompiles, rfl⟩ := ih.1 hrest
          rw [hrest] at h
          cases h
          exact ⟨⟨compiles_of_ok hcompile, hcompiles⟩, rfl⟩
      · rintro ⟨⟨-, hcompiles⟩, rfl⟩
        rw [ih.2 ⟨hcompiles, rfl⟩]
        rfl

/-- The error of a list is that of the first command that does not compile. -/
theorem compileEach_eq_error_iff {error : Error} :
    grammar.compileEach source commands = .error error ↔
      ∃ command, commands.find? (¬ grammar.Compiles source ·) = some command ∧
        grammar.compile source command = .error error := by
  induction commands with
  | nil => simp [compileEach]
  | cons first later ih =>
    cases hcompile : grammar.compile source first with
    | error other =>
      have hfirst := not_compiles_of_error hcompile
      have hfind : (first :: later).find? (¬ grammar.Compiles source ·) = some first :=
        List.find?_cons_of_pos (by simpa using hfirst)
      rw [compileEach_cons_of_error hcompile, hfind]
      simp [hcompile]
    | ok compiled =>
      have hfirst := compiles_of_ok hcompile
      have hfind : (first :: later).find? (¬ grammar.Compiles source ·) =
          later.find? (¬ grammar.Compiles source ·) :=
        List.find?_cons_of_neg (by simpa using hfirst)
      rw [compileEach_cons_eq_error_iff hcompile, ih, hfind]

end Grammar

end SchemaLedger
