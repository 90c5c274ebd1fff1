/-
# Saving and loading sheets

A sheet is saved as its document. Loading takes over the cells of a document and keeps the
view; if the file cannot be read, or its document is refused, the sheet stays as it was.

What has been done to a sheet, loading among it, is its history (`Edit`).
-/

import FormulaGrid.Disk
import FormulaGrid.Document.Read
import FormulaGrid.Document.Write
import FormulaGrid.Sheet.Edit

namespace FormulaGrid

open Text (Bytes)

/-- Why a sheet was not saved or loaded. -/
inductive StorageError where
  /-- A document was refused, with this wording. -/
  | corrupt (reason : String)
  | file (e : FileError)

/-- The wording of a storage error. -/
def StorageError.text : StorageError → String
  | corrupt reason => "File is corrupt or has an invalid format: " ++ reason
  | file e => "IO error: " ++ e.text

namespace Sheet

/-- The sheet with the cells of a document in place of its own. -/
def load (s : Sheet) (doc : Bytes) : Except StorageError Sheet :=
  match Document.sheet doc with
  | .ok other => .ok (s.replaceCells other)
  | .error refusal => .error (.corrupt refusal.text)

/-- The document of a sheet, to be put where there is room for a number of bytes. -/
def saveWithin (s : Sheet) (room : Nat) : Except StorageError Bytes :=
  let doc := Document.ofSheet s
  if doc.length ≤ room then .ok doc else .error (.file .full)

/-- **Saves a sheet to a file.** -/
def saveTo (s : Sheet) (d : Disk) (path : String) : Except StorageError Disk :=
  (d.write path (Document.ofSheet s)).mapError .file

/-- **Loads a sheet from a file.** -/
def loadFrom (s : Sheet) (d : Disk) (path : String) : Except StorageError Sheet :=
  match d.read path with
  | .ok doc => s.load doc
  | .error e => .error (.file e)

/-! ## Histories -/

/-- **What can be done to a sheet.** An edit that is refused does nothing. -/
inductive Edit where
  | update (a : Address) (text : String)
  | addRow
  | addColumn
  | deleteRow
  | deleteColumn
  | toggleView
  | recalculate
  | replace (other : Sheet)
  | load (doc : Bytes)

/-- The sheet after an edit. -/
def Edit.apply (s : Sheet) : Edit → Sheet
  | update a text => (s.update? a text).getD s
  | addRow => s.addRow
  | addColumn => s.addColumn
  | deleteRow => s.deleteRow?.getD s
  | deleteColumn => s.deleteColumn?.getD s
  | toggleView => s.toggleView
  | recalculate => s.recalculate
  | replace other => s.replaceCells other
  | load doc =>
    match s.load doc with
    | .ok t => t
    | .error _ => s

/-- **A sheet with a history:** the edits made to an empty one, the first one first. -/
def edited (rows cols : Nat) (edits : List Edit) : Sheet := edits.foldl Edit.apply (blank rows cols)

end Sheet
end FormulaGrid
