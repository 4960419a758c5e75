import SchemaLedger.Proofs.Plan.ColumnDefinitions

/-! # The lists of a statement

A statement is made of words and of lists whose items come from the caller: columns, clauses that
alter a table, keys and values. A command that is not malformed compiles to the statement that is
written with the lists of its own, and to none when it adds or changes columns and there are none.
-/

namespace SchemaLedger

set_option autoImplicit false

open Text

inductive Piece where
  | words (text : String)
  | items (texts : List String)
  deriving DecidableEq

namespace Piece

def text : Piece → String
  | words text => text
  | items texts => joined ", " texts

def textAll (pieces : List Piece) : String :=
  pieces.foldr (fun piece behind => piece.text ++ behind) ""

end Piece

namespace Source

variable (source : Source)

/-- The command lacks what its statement needs: one of its lists is empty, its foreign key refers to
no table, or it defines columns while two columns of the source have one name. -/
def IsMalformed : Command → Prop
  | .create | .add | .change => ¬ (source.columns.map (·.name)).Nodup
  | .dropColumns columns => columns = []
  | .primary new | .unique new | .index new => new.columns = []
  | .foreign key => key.target = none ∨ key.columns = [] ∨ key.references = []
  | .insert data | .update data => data.entries = []
  | _ => False

/-- The command adds or changes columns, and there are none to be added or changed. -/
def IsIdle : Command → Prop
  | .add => source.addedColumns = []
  | .change => source.changedColumns = []
  | _ => False

instance : DecidablePred source.IsMalformed
  | .create | .add | .change => inferInstanceAs (Decidable (¬ List.Nodup _))
  | .dropColumns _ | .primary _ | .unique _ | .index _ | .insert _ | .update _ =>
      inferInstanceAs (Decidable (_ = []))
  | .foreign _ => inferInstanceAs (Decidable (_ = none ∨ _ = [] ∨ _ = []))
  | .drop | .dropIfExists | .rename _ | .renameColumn _ _ | .delete | .find =>
      inferInstanceAs (Decidable False)

instance : DecidablePred source.IsIdle
  | .add | .change => inferInstanceAs (Decidable (_ = []))
  | .create | .drop | .dropIfExists | .rename _ | .dropColumns _ | .renameColumn _ _ | .primary _
  | .unique _ | .index _ | .foreign _ | .insert _ | .update _ | .delete | .find =>
      inferInstanceAs (Decidable False)

end Source

namespace MySql

variable (dialect : MySql) (source : Source)

def clausePieces (clauses : List String) : List Piece :=
  [.words (dialect.alterTable source ""), .items clauses]

def indexPieces (new : Index) (what : String) : List Piece :=
  [.words (dialect.alterTable source
      ("ADD " ++ what ++ optional " USING " (new.algorithm.map upper) ++ " (")),
    .items (new.columns.map identifier), .words ")"]

/-- The words and the lists that the statement of a command is written with. -/
def pieces : Command → List Piece
  | .create => [.words ("CREATE TABLE " ++ dialect.tableName source.table ++ " ( "),
      .items (source.columns.map columnDefinition), .words " )"]
  | .add => dialect.clausePieces source
      (source.addedColumns.map fun column => "ADD " ++ columnDefinition column)
  | .change => dialect.clausePieces source
      (source.changedColumns.map fun column => "MODIFY " ++ columnDefinition column)
  | .drop => [.words ("DROP TABLE " ++ dialect.tableName source.table)]
  | .dropIfExists => [.words ("DROP TABLE IF EXISTS " ++ dialect.tableName source.table)]
  | .rename newName => [.words ("RENAME TABLE " ++ dialect.tableName source.table ++ " TO " ++
      dialect.tableName newName)]
  | .dropColumns columns => dialect.clausePieces source
      (columns.map fun column => "DROP " ++ identifier column)
  | .renameColumn oldName newName => [.words (dialect.alterTable source
      ("RENAME COLUMN " ++ identifier oldName ++ " TO " ++ identifier newName))]
  | .primary new => dialect.indexPieces source new "PRIMARY KEY"
  | .unique new => dialect.indexPieces source new ("UNIQUE " ++ identifier new.name)
  | .index new => dialect.indexPieces source new ("INDEX " ++ identifier new.name)
  | .foreign key => [.words (dialect.alterTable source
        ("ADD CONSTRAINT " ++ identifier key.name ++ " FOREIGN KEY (")),
      .items (key.columns.map identifier),
      .words (") REFERENCES " ++ dialect.tableName (key.target.getD "") ++ " ("),
      .items (key.references.map identifier),
      .words (")" ++ optional " ON DELETE " (key.onDelete.map upper) ++
        optional " ON UPDATE " (key.onUpdate.map upper))]
  | .insert data => [.words ("INSERT INTO " ++ dialect.tableName source.table ++ " ("),
      .items (data.keys.map identifier), .words ") VALUES (", .items (data.values.map assigned),
      .words ")"]
  | .update data => [.words ("UPDATE " ++ dialect.tableName source.table ++ " SET "),
      .items (data.entries.map fun (key, value) => identifier key ++ "=" ++ assigned value),
      .words (whereClause source)]
  | .delete => [.words (dialect.delete source)]
  | .find => [.words (dialect.find source)]

variable {dialect source}

theorem addIndex_of_columns {new : Index} (h : new.columns ≠ []) (what : String) :
    dialect.addIndex source new what =
      .ok (.one (Piece.textAll (dialect.indexPieces source new what))) := by
  have hcolumns : new.columns.isEmpty = false := List.isEmpty_eq_false_iff.2 h
  simp [addIndex, hcolumns, pure, Except.pure, indexPieces, Piece.textAll, Piece.text, alterTable,
    identifiers, String.append_assoc]

theorem addForeignKey_of_target {key : ForeignKey} {target : String} (htarget : key.target = some target)
    (hcolumns : key.columns ≠ []) (hreferences : key.references ≠ []) :
    dialect.addForeignKey source key =
      .ok (.one (Piece.textAll (dialect.pieces source (.foreign key)))) := by
  have hlists : (key.columns.isEmpty || key.references.isEmpty) = false := by
    simp [hcolumns, hreferences]
  simp [addForeignKey, htarget, hlists, pure, Except.pure, pieces, Piece.textAll, Piece.text,
    alterTable, identifiers, String.append_assoc]

theorem alterColumns_of_distinct (hdistinct : (source.columns.map (·.name)).Nodup)
    (columns : List Column) (verb : String) : dialect.alterColumns source columns verb =
      .ok (if columns = [] then .statements [] else .one (Piece.textAll (dialect.clausePieces source
        (columns.map fun column => verb ++ " " ++ columnDefinition column)))) := by
  refine alterColumns_eq_ok_iff.2 ⟨hdistinct, ?_⟩
  simp [clausePieces, Piece.textAll, Piece.text, alterTable, String.append_assoc]

/-- What is not malformed compiles to the statement with its lists, unless there is nothing to
write. -/
theorem compile_of_not_malformed {command : Command} (h : ¬ source.IsMalformed command) :
    dialect.compile source command = .ok (if source.IsIdle command then .statements []
      else .one (Piece.textAll (dialect.pieces source command))) := by
  cases command with
  | create =>
    refine create_eq_ok_iff.2 ⟨not_not.1 h, ?_⟩
    unfold Definer.text
    simp [Source.IsIdle, pieces, Piece.textAll, Piece.text, String.append_assoc]
  | add | change => exact alterColumns_of_distinct (not_not.1 h) _ _
  | drop | dropIfExists | rename newName | renameColumn oldName newName | delete | find =>
    simp [compile, Source.IsIdle, pieces, Piece.textAll, Piece.text]
  | dropColumns columns =>
    have hcolumns : columns.isEmpty = false := List.isEmpty_eq_false_iff.2 h
    simp [compile, dropColumns, hcolumns, pure, Except.pure, Source.IsIdle, pieces, clausePieces,
      Piece.textAll, Piece.text, alterTable, String.append_assoc]
  | primary new | unique new | index new => exact addIndex_of_columns h _
  | foreign key =>
    obtain ⟨htarget, hlists⟩ := not_or.1 h
    obtain ⟨hcolumns, hreferences⟩ := not_or.1 hlists
    obtain ⟨target, htarget⟩ := Option.ne_none_iff_exists'.1 htarget
    exact addForeignKey_of_target htarget hcolumns hreferences
  | insert data =>
    have hdata : data.isEmpty = false := List.isEmpty_eq_false_iff.2 h
    simp [compile, insert, hdata, pure, Except.pure, Source.IsIdle, pieces, Piece.textAll,
      Piece.text, identifiers, String.append_assoc]
  | update data =>
    have hdata : data.isEmpty = false := List.isEmpty_eq_false_iff.2 h
    simp [compile, update, hdata, pure, Except.pure, Source.IsIdle, pieces, Piece.textAll,
      Piece.text, String.append_assoc]

end MySql

end SchemaLedger
