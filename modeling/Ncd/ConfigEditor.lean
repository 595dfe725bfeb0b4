import Ncd.TuiState

/- The invariant of the configuration editor, and that none of its indices is ever out of
   range. -/
namespace NcdConfigEditor
open Texts HashMaps NcdTuiState LabelledRuns

/-- Each key has one value, and no key comes twice. -/
structure Even (row : DeviceRow) : Prop where
  length : row.fieldValues.length = row.optionKeys.length
  distinct : row.optionKeys.Nodup

structure Sound (s : TuiState) : Prop where
  selected : s.rows = [] ∨ s.selected < s.rows.length
  rows : ∀ row ∈ s.rows, Even row
  editing : ∀ field, s.mode = .editing field →
    ∃ row, s.selectedRow = some row ∧ row.enabled = true ∧ field < 1 + row.optionKeys.length

structure Merged (row : DeviceRow) (options : List (Text × Text)) (row' : DeviceRow) : Prop where
  even : Even row'
  info : row'.info = row.info
  enabled : row'.enabled = row.enabled
  port : row'.portStr = row.portStr
  keys : ∀ k, k ∈ row'.optionKeys ↔ k ∈ row.optionKeys ∨ k ∈ options.map Prod.fst
  fields : ∀ k v, (k, v) ∈ row'.fields ↔
    (k, v) ∈ options ∨ k ∉ options.map Prod.fst ∧ (k, v) ∈ row.fields

theorem mem_fields {row : DeviceRow} {k v : Text} : (k, v) ∈ row.fields ↔
    ∃ i : Nat, row.optionKeys[i]? = some k ∧ row.fieldValues[i]? = some v := by
  rw [DeviceRow.fields, List.mem_iff_getElem?]
  exact exists_congr fun i => List.getElem?_zip_eq_some

theorem same_index {row : DeviceRow} (even : Even row) {i j : Nat} {k : Text}
    (first : row.optionKeys[i]? = some k) (second : row.optionKeys[j]? = some k) : i = j := by
  have inside : i < row.optionKeys.length := (List.getElem?_eq_some_iff.mp first).1
  exact (List.getElem?_inj inside even.distinct).mp (first.trans second.symm)

theorem new_even (info : DeviceInfo) : Even (DeviceRow.new info) :=
  ⟨by simp [DeviceRow.new], pairs_nodup info.options⟩

theorem replaced_merged {row : DeviceRow} (even : Even row) {pos : Nat} {key value : Text}
    (here : row.optionKeys[pos]? = some key) :
    Merged row [(key, value)] { row with fieldValues := row.fieldValues.set pos value } := by
  have inside : pos < row.fieldValues.length :=
    even.length ▸ (List.getElem?_eq_some_iff.mp here).1
  refine ⟨⟨by simp [even.length], even.distinct⟩, rfl, rfl, rfl, ?_, ?_⟩
  · intro k
    simp only [List.map_cons, List.map_nil, List.mem_singleton]
    constructor
    · exact Or.inl
    · rintro (old | rfl)
      · exact old
      · exact List.mem_of_getElem? here
  · intro k v
    simp only [mem_fields, List.mem_singleton, Prod.mk.injEq, List.map_cons, List.map_nil]
    constructor
    · rintro ⟨i, is, given⟩
      by_cases same : i = pos
      · subst same
        rw [List.getElem?_set_self inside] at given
        exact .inl ⟨Option.some.inj (is.symm.trans here), (Option.some.inj given).symm⟩
      · rw [List.getElem?_set_ne (Ne.symm same)] at given
        refine .inr ⟨?_, i, is, given⟩
        rintro rfl
        exact same (same_index even is here)
    · rintro (⟨rfl, rfl⟩ | ⟨other, i, is, given⟩)
      · exact ⟨pos, here, List.getElem?_set_self inside⟩
      · have apart : pos ≠ i := by
          rintro rfl
          exact other (Option.some.inj (is.symm.trans here))
        exact ⟨i, is, by rw [List.getElem?_set_ne apart, given]⟩

theorem added_merged {row : DeviceRow} (even : Even row) {key : Text} (value : Text)
    (absent : key ∉ row.optionKeys) :
    Merged row [(key, value)] { row with
      optionKeys := row.optionKeys ++ [key], fieldValues := row.fieldValues ++ [value] } := by
  refine ⟨⟨by simp [even.length], ?_⟩, rfl, rfl, rfl, by simp, ?_⟩
  · exact List.nodup_append.mpr ⟨even.distinct, by simp, by
      intro k old k' new
      rw [List.mem_singleton.mp new]
      rintro rfl
      exact absent old⟩
  · intro k v
    have fields : (row.optionKeys ++ [key]).zip (row.fieldValues ++ [value]) =
        row.fields ++ [(key, value)] := List.zip_append even.length.symm
    have old : (k, v) ∈ row.fields → k ≠ key := by
      rintro member rfl
      exact absent (List.of_mem_zip member).1
    simp only [DeviceRow.fields] at fields old ⊢
    rw [fields]
    simp only [List.mem_append, List.mem_singleton, Prod.mk.injEq, List.map_cons, List.map_nil]
    constructor
    · rintro (member | new)
      · exact .inr ⟨old member, member⟩
      · exact .inl new
    · rintro (new | ⟨_, member⟩)
      · exact .inr new
      · exact .inl member

theorem mergeOption_merged {row : DeviceRow} (even : Even row) (option : Text × Text) :
    ∃ row', row.mergeOption option = some row' ∧ Merged row [option] row' := by
  obtain ⟨key, value⟩ := option
  unfold DeviceRow.mergeOption
  cases found : row.optionKeys.idxOf? key with
  | some pos =>
    obtain ⟨inside, is, _⟩ := List.idxOf?_eq_some_iff.mp found
    have here : row.optionKeys[pos]? = some key := List.getElem?_eq_some_iff.mpr ⟨inside, is⟩
    exact ⟨_, if_pos (even.length ▸ inside), replaced_merged even here⟩
  | none =>
    exact ⟨_, rfl, added_merged even value (List.idxOf?_eq_none_iff.mp found)⟩

theorem merged_refl {row : DeviceRow} (even : Even row) : Merged row [] row :=
  ⟨even, rfl, rfl, rfl, by simp, by simp⟩

theorem merged_cons {row row' row'' : DeviceRow} {option : Text × Text}
    {options : List (Text × Text)} (fresh : option.1 ∉ options.map Prod.fst)
    (first : Merged row [option] row') (rest : Merged row' options row'') :
    Merged row (option :: options) row'' := by
  refine ⟨rest.even, rest.info.trans first.info, rest.enabled.trans first.enabled,
    rest.port.trans first.port, ?_, ?_⟩
  · intro k
    simp only [rest.keys, first.keys, List.map_cons, List.map_nil, List.mem_cons,
      List.not_mem_nil, or_false, or_assoc]
  · intro k v
    rw [rest.fields, first.fields]
    simp only [List.map_cons, List.map_nil, List.mem_cons, List.not_mem_nil, or_false, not_or]
    constructor
    · rintro (later | ⟨other, new | ⟨apart, old⟩⟩)
      · exact .inl (.inr later)
      · exact .inl (.inl new)
      · exact .inr ⟨⟨apart, other⟩, old⟩
    · rintro ((new | later) | ⟨⟨apart, other⟩, old⟩)
      · have key : k = option.1 := congrArg Prod.fst new
        exact .inr ⟨key ▸ fresh, .inl new⟩
      · exact .inl later
      · exact .inr ⟨other, .inr ⟨apart, old⟩⟩

theorem mergeOptions_merged {row : DeviceRow} (even : Even row) {options : List (Text × Text)}
    (distinct : (options.map Prod.fst).Nodup) :
    ∃ row', options.foldlM DeviceRow.mergeOption row = some row' ∧ Merged row options row' := by
  induction options generalizing row with
  | nil => exact ⟨row, rfl, merged_refl even⟩
  | cons option options ih =>
    simp only [List.map_cons, List.nodup_cons] at distinct
    obtain ⟨row', first, merged⟩ := mergeOption_merged even option
    obtain ⟨row'', rest, later⟩ := ih merged.even distinct.2
    refine ⟨row'', ?_, merged_cons distinct.1 merged later⟩
    rw [List.foldlM_cons, first]
    exact rest

theorem mergeEntry_merged {row : DeviceRow} (even : Even row) (entry : DeviceEntry) :
    ∃ row', row.mergeEntry entry = some row' ∧
      Merged { row with enabled := true, portStr := toText entry.port } entry.options.pairs
        row' := by
  have even' : Even { row with enabled := true, portStr := toText entry.port } :=
    ⟨even.length, even.distinct⟩
  exact mergeOptions_merged even' (pairs_nodup entry.options)

structure Grown (row row' : DeviceRow) : Prop where
  even : Even row'
  info : row'.info = row.info
  keys : ∀ k ∈ row.optionKeys, k ∈ row'.optionKeys

theorem grown_refl {row : DeviceRow} (even : Even row) : Grown row row := ⟨even, rfl, fun _ => id⟩

theorem grown_all {rows : List DeviceRow} (even : ∀ row ∈ rows, Even row) :
    List.Forall₂ Grown rows rows :=
  List.forall₂_same.mpr fun row member => grown_refl (even row member)

theorem mergeInto_grown {rows : List DeviceRow} (even : ∀ row ∈ rows, Even row)
    (entry : DeviceEntry) :
    ∃ rows', mergeInto rows entry = some rows' ∧ List.Forall₂ Grown rows rows' := by
  induction rows with
  | nil => exact ⟨[], rfl, .nil⟩
  | cons row rows ih =>
    rw [List.forall_mem_cons] at even
    unfold mergeInto
    split
    · obtain ⟨row', merge, merged⟩ := mergeEntry_merged even.1 entry
      have grown : Grown row row' := ⟨merged.even, merged.info, fun k old =>
        (merged.keys k).mpr (.inl old)⟩
      exact ⟨row' :: rows, by rw [merge]; rfl, .cons grown (grown_all even.2)⟩
    · obtain ⟨rows', merge, others⟩ := ih even.2
      exact ⟨row :: rows', by rw [merge]; rfl, .cons (grown_refl even.1) others⟩

theorem grown_even {rows rows' : List DeviceRow} (grown : List.Forall₂ Grown rows rows') :
    ∀ row ∈ rows', Even row := by
  induction grown with
  | nil => simp
  | cons first _ ih => exact List.forall_mem_cons.mpr ⟨first.even, ih⟩

theorem grown_trans {rows rows' rows'' : List DeviceRow} (first : List.Forall₂ Grown rows rows')
    (second : List.Forall₂ Grown rows' rows'') : List.Forall₂ Grown rows rows'' := by
  induction first generalizing rows'' with
  | nil => exact second
  | cons one _ ih =>
    cases second with
    | cons two others =>
      exact .cons ⟨two.even, two.info.trans one.info, fun k old => two.keys k (one.keys k old)⟩
        (ih others)

theorem mergeAll_grown {rows : List DeviceRow} (even : ∀ row ∈ rows, Even row)
    (entries : List DeviceEntry) :
    ∃ rows', entries.foldlM mergeInto rows = some rows' ∧ List.Forall₂ Grown rows rows' := by
  induction entries generalizing rows with
  | nil => exact ⟨rows, rfl, grown_all even⟩
  | cons entry entries ih =>
    obtain ⟨rows', merge, first⟩ := mergeInto_grown even entry
    obtain ⟨rows'', rest, second⟩ := ih (grown_even first)
    refine ⟨rows'', ?_, grown_trans first second⟩
    rw [List.foldlM_cons, merge]
    exact rest

theorem new_grown (devices : List DeviceInfo) (saved : Option HostConfig) :
    ∃ rows, TuiState.new devices saved = some { rows := rows } ∧
      List.Forall₂ Grown (devices.map DeviceRow.new) rows := by
  have even : ∀ row ∈ devices.map DeviceRow.new, Even row := by
    intro row member
    obtain ⟨info, _, rfl⟩ := List.mem_map.mp member
    exact new_even info
  cases saved with
  | none => exact ⟨_, rfl, grown_all even⟩
  | some cfg =>
    obtain ⟨rows, merge, grown⟩ := mergeAll_grown even cfg.device
    refine ⟨rows, ?_, grown⟩
    rw [TuiState.new, merge]
    rfl

theorem first_sound {rows : List DeviceRow} (even : ∀ row ∈ rows, Even row) :
    Sound { rows := rows } := by
  refine ⟨?_, even, nofun⟩
  cases rows with
  | nil => exact .inl rfl
  | cons row rows => exact .inr (Nat.succ_pos _)

theorem new_sound (devices : List DeviceInfo) (saved : Option HostConfig) :
    ∃ s, TuiState.new devices saved = some s ∧ Sound s := by
  obtain ⟨rows, start, grown⟩ := new_grown devices saved
  exact ⟨_, start, first_sound (grown_even grown)⟩

inductive Change (s : TuiState) : TuiState → Prop where
  | stays : Change s s
  | moves {selected : Nat} (navigating : s.mode = .normal)
      (inside : s.rows = [] ∨ selected < s.rows.length) : Change s { s with selected := selected }
  | edits {row row' : DeviceRow} (here : s.selectedRow = some row) (info : row'.info = row.info)
      (keys : row'.optionKeys = row.optionKeys)
      (length : row'.fieldValues.length = row.fieldValues.length)
      (enabled : s.mode = .normal ∨ row'.enabled = row.enabled) : Change s (s.setRow row')
  | enters {row : DeviceRow} {field : Nat} (here : s.selectedRow = some row)
      (enabled : row.enabled = true) (inside : field < 1 + row.optionKeys.length) :
      Change s { s with mode := .editing field }
  | leaves : Change s { s with mode := .normal }
  | quits (save : Bool) : Change s (s.quit save)

theorem sound_selected {s : TuiState} (sound : Sound s) (nonempty : s.rows ≠ []) :
    ∃ row, s.selectedRow = some row := by
  have inside := sound.selected.resolve_left nonempty
  exact ⟨_, List.getElem?_eq_some_iff.mpr ⟨inside, rfl⟩⟩

theorem selected_even {s : TuiState} (sound : Sound s) {row : DeviceRow}
    (here : s.selectedRow = some row) : Even row :=
  sound.rows row (List.mem_of_getElem? here)

theorem selected_rows {s : TuiState} {row : DeviceRow} (here : s.selectedRow = some row) :
    s.rows ≠ [] ∧ s.selected < s.rows.length := by
  have inside := (List.getElem?_eq_some_iff.mp here).1
  exact ⟨List.ne_nil_of_length_pos (by omega), inside⟩

theorem setRow_selected {s : TuiState} {row row' : DeviceRow} (here : s.selectedRow = some row) :
    (s.setRow row').selectedRow = some row' :=
  List.getElem?_set_self (selected_rows here).2

theorem modifyField_change {s : TuiState} (sound : Sound s) {field : Nat}
    (editing : s.mode = .editing field) (change : Text → Text) :
    ∃ t, s.modifyField field change = some t ∧ Change s t := by
  obtain ⟨row, here, _, inside⟩ := sound.editing field editing
  unfold TuiState.modifyField
  rw [here, Option.bind_some]
  by_cases port : field = 0
  · exact ⟨_, if_pos port, .edits here rfl rfl rfl (.inr rfl)⟩
  · have even := selected_even sound here
    have present : field - 1 < row.fieldValues.length := by
      rw [even.length]
      omega
    rw [if_neg port, List.getElem?_eq_getElem present]
    exact ⟨_, rfl, .edits here rfl rfl (by simp) (.inr rfl)⟩

theorem startEditing_change {s : TuiState} (sound : Sound s) :
    ∃ t, s.startEditing = some t ∧ Change s t := by
  unfold TuiState.startEditing
  split
  · exact ⟨s, rfl, .stays⟩
  · rename_i nonempty
    obtain ⟨row, here⟩ := sound_selected sound nonempty
    rw [here]
    refine ⟨_, rfl, ?_⟩
    dsimp only
    split
    · rename_i enabled
      exact .enters here enabled (by omega)
    · exact .stays

theorem toggle_change {s : TuiState} (sound : Sound s) (navigating : s.mode = .normal) :
    ∃ t, s.toggle = some t ∧ Change s t := by
  unfold TuiState.toggle
  split
  · exact ⟨s, rfl, .stays⟩
  · rename_i nonempty
    obtain ⟨row, here⟩ := sound_selected sound nonempty
    rw [here]
    exact ⟨_, rfl, .edits here rfl rfl rfl (.inl navigating)⟩

theorem moveUp_change {s : TuiState} (sound : Sound s) (navigating : s.mode = .normal) :
    Change s s.moveUp := by
  unfold TuiState.moveUp
  split
  · exact .moves navigating (sound.selected.imp id fun inside => by omega)
  · exact .stays

theorem moveDown_change {s : TuiState} (navigating : s.mode = .normal) : Change s s.moveDown := by
  unfold TuiState.moveDown
  split
  · rename_i inside
    exact .moves navigating (.inr inside)
  · exact .stays

theorem fieldCount_some {s : TuiState} {row : DeviceRow} (here : s.selectedRow = some row) :
    s.fieldCount = some (1 + row.optionKeys.length) := by
  rw [TuiState.fieldCount, if_neg (selected_rows here).1, here]
  rfl

theorem normalKey_change {s : TuiState} (sound : Sound s) (navigating : s.mode = .normal)
    (key : KeyCode) : ∃ t, s.handleNormalKey key = some t ∧ Change s t := by
  cases key with
  | up => exact ⟨_, rfl, moveUp_change sound navigating⟩
  | down => exact ⟨_, rfl, moveDown_change navigating⟩
  | enter => exact startEditing_change sound
  | tab => exact startEditing_change sound
  | esc => exact ⟨_, rfl, .quits false⟩
  | backspace => exact ⟨s, rfl, .stays⟩
  | other => exact ⟨s, rfl, .stays⟩
  | char c =>
    unfold TuiState.handleNormalKey
    dsimp only
    split
    · exact ⟨_, rfl, moveUp_change sound navigating⟩
    split
    · exact ⟨_, rfl, moveDown_change navigating⟩
    split
    · exact toggle_change sound navigating
    split
    · exact ⟨_, rfl, .quits true⟩
    split
    · exact ⟨_, rfl, .quits false⟩
    · exact ⟨s, rfl, .stays⟩

theorem editingKey_change {s : TuiState} (sound : Sound s) {field : Nat}
    (editing : s.mode = .editing field) (key : KeyCode) :
    ∃ t, s.handleEditingKey field key = some t ∧ Change s t := by
  obtain ⟨row, here, enabled, inside⟩ := sound.editing field editing
  have next : ∃ t, s.nextField field = some t ∧ Change s t := by
    rw [TuiState.nextField, fieldCount_some here]
    refine ⟨_, rfl, ?_⟩
    dsimp only
    split
    · exact .leaves
    · rename_i more
      exact .enters here enabled (by omega)
  cases key with
  | esc => exact ⟨_, rfl, .leaves⟩
  | enter => exact next
  | tab => exact next
  | up =>
    refine ⟨_, rfl, ?_⟩
    split
    · exact .enters here enabled (by omega)
    · exact .stays
  | down =>
    rw [TuiState.handleEditingKey, TuiState.fieldBelow, fieldCount_some here]
    refine ⟨_, rfl, ?_⟩
    dsimp only
    split
    · rename_i more
      exact .enters here enabled more
    · exact .stays
  | backspace => exact modifyField_change sound editing _
  | char c => exact modifyField_change sound editing _
  | other => exact ⟨s, rfl, .stays⟩

theorem step_change {s : TuiState} (sound : Sound s) (event : UiEvent) :
    ∃ t, s.step event = some t ∧ Change s t := by
  cases event with
  | key code =>
    simp only [TuiState.step, TuiState.handleKey]
    cases mode : s.mode with
    | normal => exact normalKey_change sound mode code
    | editing field => exact editingKey_change sound mode code
  | paste text =>
    simp only [TuiState.step, TuiState.handlePaste]
    cases mode : s.mode with
    | normal => exact ⟨s, rfl, .stays⟩
    | editing field => exact modifyField_change sound mode _

theorem change_sound {s t : TuiState} (sound : Sound s) (change : Change s t) : Sound t := by
  cases change with
  | stays => exact sound
  | moves navigating inside =>
    exact ⟨inside, sound.rows, fun field editing => by rw [navigating] at editing; cases editing⟩
  | @edits row row' here info keys length enabled =>
    have even := selected_even sound here
    refine ⟨?_, ?_, ?_⟩
    · exact .inr (by simpa [TuiState.setRow] using (selected_rows here).2)
    · intro other member
      rcases List.mem_or_eq_of_mem_set member with old | rfl
      · exact sound.rows other old
      · exact ⟨by rw [length, keys, even.length], keys ▸ even.distinct⟩
    · intro field editing
      obtain ⟨old, is, on, inside⟩ := sound.editing field editing
      rw [here, Option.some.injEq] at is
      subst is
      have same : row'.enabled = row.enabled := enabled.resolve_left (by
        rw [show s.mode = .editing field from editing]
        nofun)
      exact ⟨row', setRow_selected here, same.trans on, keys ▸ inside⟩
  | enters here enabled inside =>
    refine ⟨sound.selected, sound.rows, fun field editing => ?_⟩
    cases editing
    exact ⟨_, here, enabled, inside⟩
  | leaves => exact ⟨sound.selected, sound.rows, nofun⟩
  | quits save => exact ⟨sound.selected, sound.rows, sound.editing⟩

def outline (row : DeviceRow) : DeviceInfo × List Text := (row.info, row.optionKeys)

theorem change_outline {s t : TuiState} (change : Change s t) :
    t.rows.map outline = s.rows.map outline := by
  cases change with
  | @edits row row' here info keys =>
    have same : outline row' = outline row := by rw [outline, info, keys, outline]
    have old : (s.rows.map outline)[s.selected]? = some (outline row) := by
      rw [List.getElem?_map, show s.rows[s.selected]? = some row from here, Option.map_some]
    obtain ⟨inside, is⟩ := List.getElem?_eq_some_iff.mp old
    rw [TuiState.setRow, List.map_set, same, ← is, List.set_getElem_self]
  | _ => rfl

theorem run_sound {s : TuiState} (sound : Sound s) (events : List UiEvent) :
    ∃ t, exec TuiState.step s events = some t ∧ Sound t ∧
      t.rows.map outline = s.rows.map outline := by
  induction events generalizing s with
  | nil => exact ⟨s, rfl, sound, rfl⟩
  | cons event events ih =>
    obtain ⟨m, step, change⟩ := step_change sound event
    obtain ⟨t, rest, sound', same⟩ := ih (change_sound sound change)
    refine ⟨t, ?_, sound', same.trans (change_outline change)⟩
    rw [exec, step]
    exact rest

theorem reached_sound {devices : List DeviceInfo} {saved : Option HostConfig}
    {events : List UiEvent} {s₀ s : TuiState} (start : TuiState.new devices saved = some s₀)
    (run : exec TuiState.step s₀ events = some s) :
    Sound s ∧ s.rows.map outline = s₀.rows.map outline := by
  obtain ⟨_, first, sound⟩ := new_sound devices saved
  rw [start, Option.some.injEq] at first
  subst first
  obtain ⟨_, reached, sound', same⟩ := run_sound sound events
  rw [run, Option.some.injEq] at reached
  subst reached
  exact ⟨sound', same⟩

/-- From any devices and any saved file on, no sequence of keys and pastes breaks the
    invariant or finds an index out of range. -/
theorem editor_indexes_in_range (devices : List DeviceInfo) (saved : Option HostConfig) :
    ∃ s₀, TuiState.new devices saved = some s₀ ∧ ∀ events : List UiEvent,
      ∃ s, exec TuiState.step s₀ events = some s ∧ Sound s ∧
        (∀ key, ∃ t, s.handleKey key = some t) ∧ (∀ text, ∃ t, s.handlePaste text = some t) ∧
        ∃ config, s.buildConfig = some config := by
  obtain ⟨s₀, start, sound⟩ := new_sound devices saved
  refine ⟨s₀, start, fun events => ?_⟩
  obtain ⟨s, run, sound', _⟩ := run_sound sound events
  refine ⟨s, run, sound', ?_, ?_, _, buildConfig_entries s⟩
  · intro key
    obtain ⟨t, step, _⟩ := step_change sound' (.key key)
    exact ⟨t, step⟩
  · intro text
    obtain ⟨t, step, _⟩ := step_change sound' (.paste text)
    exact ⟨t, step⟩

end NcdConfigEditor
