import Ncd.Texts
import Ncd.HashMaps
import Ncd.LabelledRuns

/- The configuration editor: its state, made from the devices found and the saved file, what
   keys and pastes do to it, and the configuration that it saves. none is the panic of an
   index or a slice that is out of range. -/
namespace NcdTuiState
open Texts HashMaps LabelledRuns
open String (utf8Len utf8Len_nil utf8Len_cons utf8Len_append)

abbrev Options := HashMap Text Text

structure DeviceInfo where
  identifier : Text
  name : Text
  description : Text
  options : Options
  adapterName : Text
  defaultPort : UInt16
  deriving DecidableEq

structure DeviceEntry where
  driver : Text
  deviceIdentifier : Text
  deviceName : Text
  port : UInt16
  options : Options
  deriving DecidableEq

structure HostConfig where
  device : List DeviceEntry
  deriving DecidableEq

/-- Field 0 is the port, and from 1 on come the options. -/
inductive Mode where
  | normal
  | editing (field : Nat)
  deriving DecidableEq, Repr

structure DeviceRow where
  info : DeviceInfo
  enabled : Bool
  portStr : Text
  fieldValues : List Text
  optionKeys : List Text
  deriving DecidableEq

structure TuiState where
  rows : List DeviceRow
  selected : Nat := 0
  mode : Mode := .normal
  shouldQuit : Bool := false
  wantsSave : Bool := false
  deriving DecidableEq

def DeviceRow.new (info : DeviceInfo) : DeviceRow :=
  { info := info
    enabled := false
    portStr := toText info.defaultPort
    fieldValues := info.options.pairs.map Prod.snd
    optionKeys := info.options.pairs.map Prod.fst }

def DeviceRow.mergeOption (row : DeviceRow) (option : Text × Text) : Option DeviceRow :=
  match row.optionKeys.idxOf? option.1 with
  | some pos =>
    if pos < row.fieldValues.length then
      some { row with fieldValues := row.fieldValues.set pos option.2 }
    else none
  | none =>
    some { row with
      optionKeys := row.optionKeys ++ [option.1]
      fieldValues := row.fieldValues ++ [option.2] }

def DeviceRow.mergeEntry (row : DeviceRow) (entry : DeviceEntry) : Option DeviceRow :=
  entry.options.pairs.foldlM DeviceRow.mergeOption
    { row with enabled := true, portStr := toText entry.port }

def isFor (entry : DeviceEntry) (row : DeviceRow) : Bool :=
  row.info.adapterName = entry.driver && row.info.identifier = entry.deviceIdentifier

/-- rows.iter_mut().find, and what is done with the row. -/
def mergeInto : List DeviceRow → DeviceEntry → Option (List DeviceRow)
  | [], _ => some []
  | row :: rows, entry =>
    if isFor entry row then (row.mergeEntry entry).map (· :: rows)
    else (mergeInto rows entry).map (row :: ·)

/-- devices are those of get_all_devices, and saved is what HostConfig::load returns. -/
def TuiState.new (devices : List DeviceInfo) (saved : Option HostConfig) : Option TuiState :=
  let rows := devices.map DeviceRow.new
  let merged :=
    match saved with
    | some cfg => cfg.device.foldlM mergeInto rows
    | none => some rows
  merged.map fun rows => { rows := rows }

def TuiState.selectedRow (s : TuiState) : Option DeviceRow := s.rows[s.selected]?

def TuiState.setRow (s : TuiState) (row : DeviceRow) : TuiState :=
  { s with rows := s.rows.set s.selected row }

def TuiState.fieldCount (s : TuiState) : Option Nat :=
  if s.rows = [] then some 0 else s.selectedRow.map fun row => 1 + row.optionKeys.length

/-- get_field_value_mut, and what is done with the value. -/
def TuiState.modifyField (s : TuiState) (idx : Nat) (change : Text → Text) : Option TuiState :=
  s.selectedRow.bind fun row =>
    if idx = 0 then some (s.setRow { row with portStr := change row.portStr })
    else
      row.fieldValues[idx - 1]?.map fun value =>
        s.setRow { row with fieldValues := row.fieldValues.set (idx - 1) (change value) }

def TuiState.fieldLabel (s : TuiState) (idx : Nat) : Option Text :=
  if idx = 0 then some "Port".toList
  else s.selectedRow.map fun row => row.optionKeys[idx - 1]?.getD "Unknown".toList

def TuiState.fieldValue (s : TuiState) (idx : Nat) : Option Text :=
  s.selectedRow.map fun row =>
    if idx = 0 then row.portStr else row.fieldValues[idx - 1]?.getD []

def filePath : Text := "file_path".toList

def doubleQuote : Char := Char.ofNat 0x22
def singleQuote : Char := Char.ofNat 0x27

def quoted (text : Text) : Bool :=
  2 ≤ utf8Len text &&
    ((startsWith text doubleQuote && endsWith text doubleQuote) ||
      (startsWith text singleQuote && endsWith text singleQuote))

def sanitizeOptionValue (key value : Text) : Option Text :=
  if key ≠ filePath then some value
  else
    let trimmed := trim value
    if quoted trimmed then slice trimmed 1 (utf8Len trimmed - 1) else some trimmed

def DeviceRow.fields (row : DeviceRow) : List (Text × Text) := row.optionKeys.zip row.fieldValues

def DeviceRow.buildEntry (row : DeviceRow) : Option DeviceEntry :=
  (row.fields.mapM fun field => (sanitizeOptionValue field.1 field.2).map (field.1, ·)).map
    fun options =>
      { driver := row.info.adapterName
        deviceIdentifier := row.info.identifier
        deviceName := row.info.name
        port := (parseU16 row.portStr).getD row.info.defaultPort
        options := collect options }

def TuiState.buildConfig (s : TuiState) : Option HostConfig :=
  ((s.rows.filter DeviceRow.enabled).mapM DeviceRow.buildEntry).map HostConfig.mk

/-- other: a key that no arm names. -/
inductive KeyCode where
  | up
  | down
  | enter
  | tab
  | esc
  | backspace
  | char (c : Char)
  | other
  deriving DecidableEq, Repr

def TuiState.moveUp (s : TuiState) : TuiState :=
  if 0 < s.selected then { s with selected := s.selected - 1 } else s

def TuiState.moveDown (s : TuiState) : TuiState :=
  if s.selected + 1 < s.rows.length then { s with selected := s.selected + 1 } else s

def TuiState.toggle (s : TuiState) : Option TuiState :=
  if s.rows = [] then some s
  else s.selectedRow.map fun row => s.setRow { row with enabled := !row.enabled }

def TuiState.startEditing (s : TuiState) : Option TuiState :=
  if s.rows = [] then some s
  else s.selectedRow.map fun row => if row.enabled then { s with mode := .editing 0 } else s

def TuiState.quit (s : TuiState) (save : Bool) : TuiState :=
  { s with wantsSave := save, shouldQuit := true }

def TuiState.handleNormalKey (s : TuiState) : KeyCode → Option TuiState
  | .up => some s.moveUp
  | .down => some s.moveDown
  | .enter => s.startEditing
  | .tab => s.startEditing
  | .esc => some (s.quit false)
  | .char c =>
    if c = 'k' then some s.moveUp
    else if c = 'j' then some s.moveDown
    else if c = ' ' then s.toggle
    else if c = 's' then some (s.quit true)
    else if c = 'q' then some (s.quit false)
    else some s
  | .backspace => some s
  | .other => some s

def TuiState.nextField (s : TuiState) (field : Nat) : Option TuiState :=
  s.fieldCount.map fun count =>
    if count ≤ field + 1 then { s with mode := .normal }
    else { s with mode := .editing (field + 1) }

def TuiState.fieldBelow (s : TuiState) (field : Nat) : Option TuiState :=
  s.fieldCount.map fun count =>
    if field + 1 < count then { s with mode := .editing (field + 1) } else s

def TuiState.handleEditingKey (s : TuiState) (field : Nat) : KeyCode → Option TuiState
  | .esc => some { s with mode := .normal }
  | .enter => s.nextField field
  | .tab => s.nextField field
  | .up => some (if 0 < field then { s with mode := .editing (field - 1) } else s)
  | .down => s.fieldBelow field
  | .backspace => s.modifyField field List.dropLast
  | .char c => s.modifyField field (· ++ [c])
  | .other => some s

def TuiState.handleKey (s : TuiState) (key : KeyCode) : Option TuiState :=
  match s.mode with
  | .normal => s.handleNormalKey key
  | .editing field => s.handleEditingKey field key

def TuiState.handlePaste (s : TuiState) (text : Text) : Option TuiState :=
  match s.mode with
  | .normal => some s
  | .editing field => s.modifyField field (· ++ text)

inductive UiEvent where
  | key (code : KeyCode)
  | paste (text : Text)
  deriving DecidableEq, Repr

def TuiState.step (s : TuiState) : UiEvent → Option TuiState
  | .key code => s.handleKey code
  | .paste text => s.handlePaste text

/-- The device that file.py lists, with the defaults of its adapter. -/
def fileDevice : DeviceInfo :=
  { identifier := "file_device".toList
    name := "File Device".toList
    description := "Cursor-based read/write, raw bytes, no framing".toList
    options := collect [(filePath, "/path/to/file".toList)]
    adapterName := "file".toList
    defaultPort := 8000 }

def cleaned (key value : Text) : Text :=
  if key = filePath then
    if quoted (trim value) then (trim value).tail.dropLast else trim value
  else value

def DeviceRow.entry (row : DeviceRow) : DeviceEntry :=
  { driver := row.info.adapterName
    deviceIdentifier := row.info.identifier
    deviceName := row.info.name
    port := (parseU16 row.portStr).getD row.info.defaultPort
    options := collect (row.fields.map fun field => (field.1, cleaned field.1 field.2)) }

theorem quoted_shape {text : Text} (quotes : quoted text = true) :
    ∃ quote, quote.utf8Size = 1 ∧ text = [quote] ++ text.tail.dropLast ++ [quote] := by
  have pair : ∃ quote : Char, quote.utf8Size = 1 ∧ 2 ≤ utf8Len text ∧ text.head? = some quote ∧
      text.getLast? = some quote := by
    simp only [quoted, startsWith, endsWith, Bool.and_eq_true, Bool.or_eq_true,
      decide_eq_true_eq] at quotes
    rcases quotes with ⟨long, ⟨first, last⟩ | ⟨first, last⟩⟩
    · exact ⟨doubleQuote, rfl, long, first, last⟩
    · exact ⟨singleQuote, rfl, long, first, last⟩
  obtain ⟨quote, size, long, first, last⟩ := pair
  refine ⟨quote, size, ?_⟩
  cases text with
  | nil => cases first
  | cons c rest =>
    cases first
    cases rest with
    | nil =>
      simp only [utf8Len_cons, utf8Len_nil, size] at long
      omega
    | cons c rest =>
      rw [List.getLast?_cons_cons] at last
      exact congrArg (quote :: ·) (List.dropLast_append_getLast? _ last).symm

theorem sanitize_cleaned (key value : Text) :
    sanitizeOptionValue key value = some (cleaned key value) := by
  unfold sanitizeOptionValue cleaned
  by_cases path : key = filePath
  · rw [if_neg (not_not.mpr path), if_pos path]
    dsimp only
    split
    · rename_i quotes
      obtain ⟨quote, size, shape⟩ := quoted_shape quotes
      have cut := slice_append [quote] (trim value).tail.dropLast [quote]
      rw [← shape] at cut
      have front : utf8Len [quote] = 1 := by simp [size]
      have stop : utf8Len (trim value) - 1 = 1 + utf8Len (trim value).tail.dropLast := by
        conv_lhs => rw [shape]
        rw [utf8Len_append, utf8Len_append, front, Nat.add_sub_cancel]
      rw [front] at cut
      rw [stop, cut]
    · rfl
  · rw [if_pos path, if_neg path]

theorem buildEntry_entry (row : DeviceRow) : row.buildEntry = some row.entry := by
  have each : (fun field : Text × Text =>
      (sanitizeOptionValue field.1 field.2).map (field.1, ·)) =
      fun field => some (field.1, cleaned field.1 field.2) := by
    funext field
    rw [sanitize_cleaned]
    rfl
  rw [DeviceRow.buildEntry, each]
  have all := List.mapM_pure (m := Option) (l := row.fields)
    (f := fun field => (field.1, cleaned field.1 field.2))
  exact congrArg _ all

theorem buildConfig_entries (s : TuiState) :
    s.buildConfig = some ⟨(s.rows.filter DeviceRow.enabled).map DeviceRow.entry⟩ := by
  rw [TuiState.buildConfig, funext buildEntry_entry]
  exact congrArg _ List.mapM_pure

end NcdTuiState
