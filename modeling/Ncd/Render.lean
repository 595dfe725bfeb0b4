import Ncd.ConfigEditor

/- What the configuration editor draws, and when it does not come to that. none is the panic
   of a slice inside a character or of an addition of 16 bits that overflows. -/
namespace NcdRender
open Texts NcdTuiState NcdConfigEditor LabelledRuns
open String (utf8Len)

inductive Color where
  | white
  | black
  | grey
  | darkGrey
  | reset
  deriving DecidableEq, Repr

inductive Attribute where
  | bold
  | reset
  deriving DecidableEq, Repr

inductive Command where
  | clear
  | setForegroundColor (color : Color)
  | setBackgroundColor (color : Color)
  | setAttribute (kind : Attribute)
  | moveTo (x y : UInt16)
  | print (text : Text)
  | showCursor
  | hideCursor
  deriving DecidableEq

def plus (a b : UInt16) : Option UInt16 :=
  if a.toNat + b.toNat < 2 ^ 16 then some (a + b) else none

def saturatingSub (a b : UInt16) : UInt16 := UInt16.ofNat (a.toNat - b.toNat)

def pad (text : Text) (width : UInt16) : Text :=
  text ++ List.replicate (width.toNat - text.length) (Char.ofNat 0x20)

def margin : UInt16 := 4
def fieldIndent : UInt16 := 4

def helpEmpty : Text := " q/ESC:quit".toList
def helpNormal : Text := " s:save  q/ESC:quit  Space:toggle  Enter/Tab:edit  ↑↓/jk:navigate".toList
def helpEditing : Text := " Esc:cancel  Enter/Tab:next  ↑↓:switch field  Backspace/type:edit".toList

def drawRowHeader (cols : UInt16) (row : DeviceRow) (isSelected : Bool) (y : UInt16) :
    List Command :=
  let checkbox := if row.enabled then "[x]".toList else "[ ]".toList
  let desc := if row.info.description = [] then [] else "  — ".toList ++ row.info.description
  let line := "  ".toList ++ checkbox ++ " ".toList ++ row.info.name ++ desc
  [.moveTo 0 y] ++
    (if isSelected then [.setBackgroundColor .white, .setForegroundColor .black] else []) ++
    [.print (pad line cols), .setBackgroundColor .reset, .setForegroundColor .white]

def drawField (label value : Text) (isEditingThis : Bool) (y : UInt16) : List Command :=
  let display := label ++ ": ".toList ++ value ++ if isEditingThis then "▌".toList else []
  [.moveTo fieldIndent y] ++
    (if isEditingThis then [.setAttribute .bold, .setForegroundColor .white]
      else [.setForegroundColor .grey]) ++
    [.print display, .setAttribute .reset, .setForegroundColor .white]

/-- The loop of draw_fields over the indices that are left, with the row below the last one. -/
def drawFieldLoop (s : TuiState) : List Nat → UInt16 → Option (List Command × UInt16)
  | [], y => some ([], y)
  | idx :: rest, y => do
    let label ← s.fieldLabel idx
    let value ← s.fieldValue idx
    let next ← plus y 1
    let (below, last) ← drawFieldLoop s rest next
    return (drawField label value (s.mode = .editing idx) y ++ below, last)

def drawFields (s : TuiState) (y : UInt16) : Option (List Command × UInt16) := do
  let row ← s.selectedRow
  drawFieldLoop s (List.range (1 + row.optionKeys.length)) y

/-- The loop over the rows from row i on. draw_row_header asks for the width of the terminal
    each time, which is colsAt i. -/
def drawRowLoop (s : TuiState) (colsAt : Nat → UInt16) :
    List DeviceRow → Nat → UInt16 → Option (List Command × UInt16)
  | [], _, y => some ([], y)
  | row :: rows, i, y => do
    let isSelected : Bool := i = s.selected
    let next ← plus y 1
    let (fields, next) ← if isSelected && row.enabled then drawFields s next else some ([], next)
    let (below, last) ← drawRowLoop s colsAt rows (i + 1) next
    return (drawRowHeader (colsAt i) row isSelected y ++ fields ++ below, last)

def help (s : TuiState) : Text :=
  match s.mode with
  | .normal => if s.rows = [] then helpEmpty else helpNormal
  | .editing _ => helpEditing

def helpDisplay (cols : UInt16) (s : TuiState) : Option Text :=
  if cols.toNat < utf8Len (help s) then slice (help s) 0 cols.toNat else some (help s)

def fieldCursorPosition (s : TuiState) (field : Nat) : Option (UInt16 × UInt16) := do
  let y ← plus 3 (UInt16.ofNat s.selected)
  let y ← plus y (UInt16.ofNat field)
  let label ← s.fieldLabel field
  let value ← s.fieldValue field
  let x ← plus fieldIndent (UInt16.ofNat (utf8Len label))
  let x ← plus x 2
  let x ← plus x (UInt16.ofNat (utf8Len value))
  return (x, y)

def drawCursor (s : TuiState) : Option (List Command) :=
  match s.mode with
  | .editing field => do
    let (fx, fy) ← fieldCursorPosition s field
    return [.moveTo fx fy, .showCursor]
  | .normal => some [.hideCursor]

def drawHeader (cols : UInt16) : List Command :=
  let header := "NCD Configuration".toList
  [.clear, .setForegroundColor .white, .moveTo 0 0,
    .moveTo (saturatingSub cols (UInt16.ofNat (utf8Len header)) / 2) 0,
    .setAttribute .bold, .print header, .setAttribute .reset]

def drawSeparator (cols y : UInt16) : List Command :=
  [.moveTo 0 y, .setForegroundColor .darkGrey, .print (List.replicate cols.toNat '─'),
    .setForegroundColor .white]

def drawList (s : TuiState) (colsAt : Nat → UInt16) (y : UInt16) :
    Option (List Command × UInt16) :=
  if s.rows = [] then
    some ([.moveTo margin y, .setForegroundColor .darkGrey, .print "No devices found.".toList,
      .setForegroundColor .white], y)
  else drawRowLoop s colsAt s.rows 0 y

def drawFooter (cols rows : UInt16) (shown : Text) : List Command :=
  [.moveTo 0 (saturatingSub rows 1), .setForegroundColor .darkGrey, .print (pad shown cols),
    .setForegroundColor .white]

def render (cols rows : UInt16) (colsAt : Nat → UInt16) (s : TuiState) :
    Option (List Command) := do
  let separator ← plus 0 1
  let first ← plus separator 1
  let (list, _) ← drawList s colsAt first
  let shown ← helpDisplay cols s
  let place ← drawCursor s
  return drawHeader cols ++ drawSeparator cols separator ++ list ++
    drawFooter cols rows shown ++ place

/-- The columns at which the help line would be cut inside one of its arrows. -/
def arrowColumns (s : TuiState) : List Nat :=
  match s.mode with
  | .normal => if s.rows = [] then [] else [52, 53, 55, 56]
  | .editing _ => [30, 31, 33, 34]

theorem plus_some {a b : UInt16} (small : a.toNat + b.toNat < 2 ^ 16) :
    ∃ c, plus a b = some c ∧ c.toNat = a.toNat + b.toNat := by
  refine ⟨a + b, if_pos small, ?_⟩
  rw [UInt16.toNat_add, Nat.mod_eq_of_lt small]

theorem plus_bind_isSome {α : Type} (a b : UInt16) (f : UInt16 → Option α) :
    ((plus a b).bind f).isSome ↔ a.toNat + b.toNat < 2 ^ 16 ∧ (f (a + b)).isSome := by
  unfold plus
  split
  · rename_i small
    rw [Option.bind_some, and_iff_right small]
  · rename_i large
    exact iff_of_false (by simp) fun both => large both.1

theorem label_some {s : TuiState} {row : DeviceRow} (here : s.selectedRow = some row) (idx : Nat) :
    ∃ label, s.fieldLabel idx = some label := by
  unfold TuiState.fieldLabel
  split
  · exact ⟨_, rfl⟩
  · exact ⟨_, by rw [here]; rfl⟩

theorem value_some {s : TuiState} {row : DeviceRow} (here : s.selectedRow = some row) (idx : Nat) :
    ∃ value, s.fieldValue idx = some value :=
  ⟨_, by rw [TuiState.fieldValue, here]; rfl⟩

theorem fieldLoop_some {s : TuiState} {row : DeviceRow} (here : s.selectedRow = some row)
    (rest : List Nat) {y : UInt16} (small : y.toNat + rest.length < 2 ^ 16) :
    ∃ drawn last, drawFieldLoop s rest y = some (drawn, last) ∧
      last.toNat = y.toNat + rest.length := by
  induction rest generalizing y with
  | nil => exact ⟨[], y, rfl, rfl⟩
  | cons idx rest ih =>
    rw [List.length_cons] at small
    obtain ⟨label, named⟩ := label_some here idx
    obtain ⟨value, given⟩ := value_some here idx
    obtain ⟨next, step, down⟩ := plus_some (a := y) (b := 1) (by simp; omega)
    rw [UInt16.toNat_one] at down
    obtain ⟨below, last, drawn, bottom⟩ := ih (y := next) (by omega)
    refine ⟨drawField label value (s.mode = .editing idx) y ++ below, last, ?_, ?_⟩
    · simp only [drawFieldLoop, named, given, step, drawn, Option.bind_eq_bind, Option.bind_some]
      rfl
    · rw [bottom, down, List.length_cons]
      omega

theorem drawFields_some {s : TuiState} {row : DeviceRow} (here : s.selectedRow = some row)
    {y : UInt16} (small : y.toNat + (1 + row.optionKeys.length) < 2 ^ 16) :
    ∃ drawn last, drawFields s y = some (drawn, last) ∧
      last.toNat = y.toNat + (1 + row.optionKeys.length) := by
  have loop := fieldLoop_some here (List.range (1 + row.optionKeys.length)) (y := y)
  rw [List.length_range] at loop
  obtain ⟨drawn, last, fields, bottom⟩ := loop small
  refine ⟨drawn, last, ?_, bottom⟩
  rw [drawFields, here]
  exact fields

theorem rowLoop_some {s : TuiState} {selected : DeviceRow} (here : s.selectedRow = some selected)
    (colsAt : Nat → UInt16) (rows : List DeviceRow) (i : Nat) {y : UInt16}
    (small : y.toNat + rows.length +
      (if i ≤ s.selected then 1 + selected.optionKeys.length else 0) < 2 ^ 16) :
    ∃ drawn, drawRowLoop s colsAt rows i y = some drawn := by
  induction rows generalizing i y with
  | nil => exact ⟨_, rfl⟩
  | cons row rows ih =>
    rw [List.length_cons] at small
    obtain ⟨next, step, down⟩ := plus_some (a := y) (b := 1) (by rw [UInt16.toNat_one]; omega)
    rw [UInt16.toNat_one] at down
    unfold drawRowLoop
    rw [step]
    simp only [Option.bind_eq_bind, Option.bind_some]
    split
    · rename_i open_
      have is : i = s.selected := by simpa using (Bool.and_eq_true_iff.mp open_).1
      rw [if_pos (by omega)] at small
      obtain ⟨fields, last, drawn, bottom⟩ := drawFields_some here (y := next) (by omega)
      have after : ¬ i + 1 ≤ s.selected := by omega
      obtain ⟨⟨below, end_⟩, rest⟩ := ih (i + 1) (y := last) (by rw [if_neg after]; omega)
      simp only [drawn, rest, Option.bind_some]
      exact ⟨_, rfl⟩
    · have after : (if i + 1 ≤ s.selected then 1 + selected.optionKeys.length else 0) ≤
          (if i ≤ s.selected then 1 + selected.optionKeys.length else 0) := by
        split <;> split <;> omega
      obtain ⟨⟨below, end_⟩, rest⟩ := ih (i + 1) (y := next) (by omega)
      simp only [rest, Option.bind_some]
      exact ⟨_, rfl⟩

theorem help_length (s : TuiState) : ∀ column ∈ arrowColumns s, column < utf8Len (help s) := by
  unfold arrowColumns help
  cases s.mode with
  | normal =>
    by_cases empty : s.rows = []
    · simp [empty]
    · simp only [if_neg empty]
      decide
  | editing field =>
    dsimp only
    decide

/-- The arrows are the only characters of the help lines with more than one byte. -/
theorem help_cut (s : TuiState) :
    ∀ n < utf8Len (help s), (cutAt (help s) n).isSome ↔ n ∉ arrowColumns s := by
  unfold arrowColumns help
  cases s.mode with
  | normal =>
    by_cases empty : s.rows = []
    · simp only [if_pos empty]
      decide
    · simp only [if_neg empty]
      decide
  | editing field =>
    dsimp only
    decide

theorem helpDisplay_isSome (cols : UInt16) (s : TuiState) :
    (helpDisplay cols s).isSome ↔ cols.toNat ∉ arrowColumns s := by
  unfold helpDisplay
  split
  · rename_i short
    rw [slice_front, Option.isSome_map, help_cut s _ short]
  · rename_i long
    simp only [Option.isSome_some, true_iff]
    exact fun member => long (help_length s _ member)

/-- The column of the edit cursor fits in 16 bits, with the two lengths cut down to 16 bits. -/
def CursorFits (s : TuiState) : Prop :=
  ∀ field label value, s.mode = .editing field → s.fieldLabel field = some label →
    s.fieldValue field = some value →
    6 + utf8Len label % 2 ^ 16 + utf8Len value % 2 ^ 16 < 2 ^ 16

theorem cursor_isSome {s : TuiState} {field : Nat} {label value : Text}
    (low : 3 + s.selected + field < 2 ^ 16) (named : s.fieldLabel field = some label)
    (given : s.fieldValue field = some value) :
    (fieldCursorPosition s field).isSome ↔
      6 + utf8Len label % 2 ^ 16 + utf8Len value % 2 ^ 16 < 2 ^ 16 := by
  have sums : (fieldCursorPosition s field).isSome ↔
      3 + s.selected % 2 ^ 16 < 2 ^ 16 ∧
      (3 + s.selected % 2 ^ 16) % 2 ^ 16 + field % 2 ^ 16 < 2 ^ 16 ∧
      4 + utf8Len label % 2 ^ 16 < 2 ^ 16 ∧
      (4 + utf8Len label % 2 ^ 16) % 2 ^ 16 + 2 < 2 ^ 16 ∧
      ((4 + utf8Len label % 2 ^ 16) % 2 ^ 16 + 2) % 2 ^ 16 + utf8Len value % 2 ^ 16 < 2 ^ 16 := by
    simp only [fieldCursorPosition, fieldIndent, named, given, Option.bind_eq_bind,
      Option.bind_some, plus_bind_isSome, UInt16.toNat_add, UInt16.toNat_ofNat', Option.pure_def,
      Option.isSome_some, and_true]
    rfl
  rw [sums]
  omega

theorem drawCursor_isSome {s : TuiState} (sound : Sound s) (rows : s.rows.length < 30000)
    (options : ∀ row ∈ s.rows, row.optionKeys.length < 30000) :
    (drawCursor s).isSome ↔ CursorFits s := by
  unfold drawCursor CursorFits
  cases mode : s.mode with
  | normal => simp
  | editing field =>
    obtain ⟨row, here, _, inside⟩ := sound.editing field mode
    obtain ⟨label, named⟩ := label_some here field
    obtain ⟨value, given⟩ := value_some here field
    have few := options row (List.mem_of_getElem? here)
    have shown := (selected_rows here).2
    have fits := cursor_isSome (by omega) named given
    constructor
    · intro drawn field' label' value' same named' given'
      cases same
      rw [named, Option.some.injEq] at named'
      rw [given, Option.some.injEq] at given'
      subst named' given'
      obtain ⟨commands, drawn⟩ := Option.isSome_iff_exists.mp drawn
      obtain ⟨place, at_, _⟩ := Option.bind_eq_some_iff.mp drawn
      exact fits.mp (by rw [at_]; rfl)
    · intro all
      obtain ⟨place, at_⟩ := Option.isSome_iff_exists.mp (fits.mpr (all field _ _ rfl named given))
      simp only [at_, Option.bind_eq_bind, Option.bind_some]
      rfl

theorem drawList_some {s : TuiState} (sound : Sound s) (rows : s.rows.length < 30000)
    (options : ∀ row ∈ s.rows, row.optionKeys.length < 30000) (colsAt : Nat → UInt16) :
    ∃ drawn, drawList s colsAt 2 = some drawn := by
  unfold drawList
  split
  · exact ⟨_, rfl⟩
  · rename_i nonempty
    obtain ⟨row, here⟩ := sound_selected sound nonempty
    have few := options row (List.mem_of_getElem? here)
    refine rowLoop_some here colsAt s.rows 0 ?_
    rw [if_pos (Nat.zero_le _), show (2 : UInt16).toNat = 2 from rfl]
    omega

theorem render_isSome {s : TuiState} (sound : Sound s) (rows : s.rows.length < 30000)
    (options : ∀ row ∈ s.rows, row.optionKeys.length < 30000) (cols lines : UInt16)
    (colsAt : Nat → UInt16) :
    (render cols lines colsAt s).isSome ↔ cols.toNat ∉ arrowColumns s ∧ CursorFits s := by
  obtain ⟨⟨list, last⟩, listed⟩ := drawList_some sound rows options colsAt
  have top : plus 0 1 = some 1 ∧ plus 1 1 = some 2 := by decide
  rw [← helpDisplay_isSome, ← drawCursor_isSome sound rows options]
  unfold render
  simp only [top.1, top.2, listed, Option.bind_eq_bind, Option.bind_some]
  cases helpDisplay cols s with
  | none => simp
  | some shown =>
    cases drawCursor s with
    | none => simp
    | some place => simp

/-- The editor is drawn exactly if the help line is not cut inside an arrow and the column of
    the edit cursor fits. -/
theorem render_completes_iff {devices : List DeviceInfo} {saved : Option HostConfig}
    {events : List UiEvent} {s₀ s : TuiState} (start : TuiState.new devices saved = some s₀)
    (rows : s₀.rows.length < 30000) (options : ∀ row ∈ s₀.rows, row.optionKeys.length < 30000)
    (run : exec TuiState.step s₀ events = some s) (cols lines : UInt16) (colsAt : Nat → UInt16) :
    (render cols lines colsAt s).isSome ↔ cols.toNat ∉ arrowColumns s ∧ CursorFits s := by
  obtain ⟨sound, same⟩ := reached_sound start run
  have count : s.rows.length = s₀.rows.length := by
    have lengths := congrArg List.length same
    rwa [List.length_map, List.length_map] at lengths
  refine render_isSome sound (count ▸ rows) ?_ cols lines colsAt
  intro row member
  have old := List.mem_map_of_mem (f := outline) member
  rw [same] at old
  obtain ⟨row₀, first, equal⟩ := List.mem_map.mp old
  have keys : row₀.optionKeys = row.optionKeys := congrArg Prod.snd equal
  exact keys ▸ options row₀ first

theorem render_completes_wide :
    (render 80 24 (fun _ => 80) { rows := [DeviceRow.new fileDevice] }).isSome ↔
      (80 : UInt16).toNat ∉ arrowColumns { rows := [DeviceRow.new fileDevice] } ∧
        CursorFits { rows := [DeviceRow.new fileDevice] } :=
  @render_completes_iff [fileDevice] none [] _ _ rfl (by decide) (by decide) rfl 80 24 fun _ => 80

theorem arrow_panics : ¬ ∀ (devices : List DeviceInfo) (saved : Option HostConfig)
    (events : List UiEvent) (s₀ s : TuiState), TuiState.new devices saved = some s₀ →
    s₀.rows.length < 30000 → (∀ row ∈ s₀.rows, row.optionKeys.length < 30000) →
    exec TuiState.step s₀ events = some s →
    ∀ (cols lines : UInt16) (colsAt : Nat → UInt16), (render cols lines colsAt s).isSome := by
  intro always
  have drawn := always [fileDevice] none [] { rows := [DeviceRow.new fileDevice] } _ rfl
    (by decide) (by decide) rfl 52 24 (fun _ => 52)
  revert drawn
  decide

end NcdRender
