import Ncd.ConfigEditor

/- A configuration saved, loaded again over the same devices and saved once more. The order in
   which a hash map is gone through may be another one each time. -/
namespace NcdResave
open Texts HashMaps NcdTuiState NcdConfigEditor LabelledRuns

structure SameDevice (d d' : DeviceInfo) : Prop where
  identifier : d'.identifier = d.identifier
  name : d'.name = d.name
  description : d'.description = d.description
  options : Same d.options d'.options
  adapterName : d'.adapterName = d.adapterName
  defaultPort : d'.defaultPort = d.defaultPort

structure SameEntry (e e' : DeviceEntry) : Prop where
  driver : e'.driver = e.driver
  deviceIdentifier : e'.deviceIdentifier = e.deviceIdentifier
  deviceName : e'.deviceName = e.deviceName
  port : e'.port = e.port
  options : Same e.options e'.options

def SameConfig (c c' : HostConfig) : Prop := List.Forall₂ SameEntry c.device c'.device

/-- Start over the devices with c as the saved file, and save at once. -/
def resave (devices : List DeviceInfo) (c : HostConfig) : Option HostConfig :=
  (TuiState.new devices (some c)).bind TuiState.buildConfig

def deviceKey (d : DeviceInfo) : Text × Text := (d.adapterName, d.identifier)

def entryKey (e : DeviceEntry) : Text × Text := (e.driver, e.deviceIdentifier)

theorem SameDevice.key {d d' : DeviceInfo} (same : SameDevice d d') :
    deviceKey d' = deviceKey d := by
  rw [deviceKey, same.adapterName, same.identifier, deviceKey]

theorem SameEntry.key {e e' : DeviceEntry} (same : SameEntry e e') : entryKey e' = entryKey e := by
  rw [entryKey, same.driver, same.deviceIdentifier, entryKey]

/-- Behind the pair of quotes that the clean-up takes away, there is something more for it
    to take away. -/
def Layered (value : Text) : Prop :=
  let inner := (trim value).tail.dropLast
  quoted (trim value) = true ∧ (trim inner ≠ inner ∨ quoted inner = true)

theorem isFor_iff {entry : DeviceEntry} {row : DeviceRow} :
    isFor entry row = true ↔ deviceKey row.info = entryKey entry := by
  simp [isFor, deviceKey, entryKey]

theorem unquoted_shorter {text : Text} (quotes : quoted text = true) :
    text.tail.dropLast.length < text.length := by
  obtain ⟨quote, _, shape⟩ := quoted_shape quotes
  have length := congrArg List.length shape
  simp only [List.length_append, List.length_singleton] at length
  omega

theorem cleaned_fixed (value : Text) :
    cleaned filePath value = value ↔ trim value = value ∧ quoted value = false := by
  rw [cleaned, if_pos rfl]
  constructor
  · intro fixed
    split at fixed
    · rename_i quotes
      have shorter := unquoted_shorter quotes
      have trimmed := trim_length value
      rw [fixed] at shorter
      omega
    · rename_i plain
      rw [fixed] at plain
      exact ⟨fixed, by simpa using plain⟩
  · rintro ⟨trimmed, plain⟩
    rw [trimmed, plain]
    rfl

theorem cleaned_twice (value : Text) :
    cleaned filePath (cleaned filePath value) = cleaned filePath value ↔ ¬ Layered value := by
  rw [cleaned_fixed]
  by_cases quotes : quoted (trim value) = true
  · have inner : cleaned filePath value = (trim value).tail.dropLast := by
      rw [cleaned, if_pos rfl, if_pos quotes]
    simp only [inner, Layered, quotes, true_and, not_or, not_not, Bool.not_eq_true]
  · have trimmed : cleaned filePath value = trim value := by
      rw [cleaned, if_pos rfl, if_neg quotes]
    rw [trimmed]
    simp [Layered, quotes, trim_trim]

theorem entry_options {row : DeviceRow} (even : Even row) (k v : Text) :
    row.entry.options.lookup k = some v ↔ ∃ w, (k, w) ∈ row.fields ∧ cleaned k w = v := by
  have keys : (row.fields.map fun field => (field.1, cleaned field.1 field.2)).map Prod.fst =
      row.optionKeys := by
    rw [List.map_map]
    exact List.map_fst_zip even.length.ge
  rw [DeviceRow.entry, lookup_collect_iff (by rw [keys]; exact even.distinct)]
  simp only [List.mem_map, Prod.mk.injEq, Prod.exists]
  constructor
  · rintro ⟨_, w, member, rfl, clean⟩
    exact ⟨w, member, clean⟩
  · rintro ⟨w, member, clean⟩
    exact ⟨k, w, member, rfl, clean⟩

theorem entry_keys {row : DeviceRow} (even : Even row) (k : Text) :
    k ∈ row.optionKeys ↔ ∃ v, row.entry.options.lookup k = some v := by
  simp only [entry_options even]
  constructor
  · intro member
    obtain ⟨i, inside, is⟩ := List.mem_iff_getElem.mp member
    have here : row.optionKeys[i]? = some k := List.getElem?_eq_some_iff.mpr ⟨inside, is⟩
    have given := List.getElem?_eq_getElem (even.length ▸ inside)
    exact ⟨_, _, mem_fields.mpr ⟨i, here, given⟩, rfl⟩
  · rintro ⟨_, w, member, _⟩
    exact (List.of_mem_zip member).1

structure RowFor (d : DeviceInfo) (row : DeviceRow) : Prop where
  info : row.info = d
  keys : ∀ k ∈ (DeviceRow.new d).optionKeys, k ∈ row.optionKeys

structure RowOf (row : DeviceRow) (d : DeviceInfo) : Prop where
  even : Even row
  same : SameDevice row.info d
  keys : ∀ k ∈ (DeviceRow.new d).optionKeys, k ∈ row.optionKeys

/-- A row of the editor, and the row that the editor starts with when the configuration has
    been saved. -/
structure Restored (row row' : DeviceRow) : Prop where
  even : Even row'
  same : SameDevice row.info row'.info
  enabled : row'.enabled = row.enabled
  port : row.enabled = true → row'.portStr = toText row.entry.port
  fields : row.enabled = true → ∀ k v, (k, v) ∈ row'.fields ↔ row.entry.options.lookup k = some v

theorem restored_off {row : DeviceRow} {d : DeviceInfo} (of : RowOf row d)
    (off : row.enabled = false) : Restored row (DeviceRow.new d) :=
  ⟨new_even d, of.same, off.symm, by simp [off], by simp [off]⟩

theorem restored_on {row : DeviceRow} {d : DeviceInfo} (of : RowOf row d)
    (on : row.enabled = true) {entry : DeviceEntry} (saved : SameEntry row.entry entry) :
    ∃ row', (DeviceRow.new d).mergeEntry entry = some row' ∧ Restored row row' := by
  obtain ⟨row', merge, merged⟩ := mergeEntry_merged (new_even d) entry
  refine ⟨row', merge, merged.even, ?_, merged.enabled.trans on.symm, fun _ => ?_, fun _ k v => ?_⟩
  · rw [merged.info]
    exact of.same
  · rw [merged.port, saved.port]
  · rw [merged.fields, mem_pairs, ← saved.options k]
    -- every field that the new row starts with has been saved
    have covered : k ∉ entry.options.pairs.map Prod.fst → (k, v) ∉ (DeviceRow.new d).fields := by
      intro unsaved member
      obtain ⟨w, given⟩ := (entry_keys of.even k).mp (of.keys k (List.of_mem_zip member).1)
      rw [saved.options k] at given
      exact unsaved (List.mem_map.mpr ⟨_, mem_pairs.mpr given, rfl⟩)
    constructor
    · rintro (given | ⟨unsaved, member⟩)
      · exact given
      · exact absurd member (covered unsaved)
    · exact Or.inl

theorem mergeAll_skip {row : DeviceRow} (entries : List DeviceEntry)
    (others : ∀ entry ∈ entries, isFor entry row = false) (rows : List DeviceRow) :
    entries.foldlM mergeInto (row :: rows) = (entries.foldlM mergeInto rows).map (row :: ·) := by
  induction entries generalizing rows with
  | nil => rfl
  | cons entry entries ih =>
    rw [List.forall_mem_cons] at others
    have head : mergeInto (row :: rows) entry = (mergeInto rows entry).map (row :: ·) := by
      rw [mergeInto, others.1]
      rfl
    rw [List.foldlM_cons, List.foldlM_cons, head]
    cases mergeInto rows entry with
    | none => rfl
    | some rows' => exact ih others.2 rows'

def entries (rows : List DeviceRow) : List DeviceEntry :=
  (rows.filter DeviceRow.enabled).map DeviceRow.entry

theorem saved_keys {built saved : List DeviceEntry} (same : List.Forall₂ SameEntry built saved) :
    saved.map entryKey = built.map entryKey := by
  induction same with
  | nil => rfl
  | cons first _ ih => rw [List.map_cons, List.map_cons, ih, first.key]

theorem saved_for_others {row : DeviceRow} {rows : List DeviceRow}
    (distinct : ((row :: rows).map fun row => deviceKey row.info).Nodup) {saved : List DeviceEntry}
    (same : List.Forall₂ SameEntry (entries rows) saved) {row' : DeviceRow}
    (again : SameDevice row.info row'.info) : ∀ entry ∈ saved, isFor entry row' = false := by
  intro entry member
  rw [← Bool.not_eq_true, isFor_iff, again.key]
  intro matched
  have present := List.mem_map_of_mem (f := entryKey) member
  rw [saved_keys same] at present
  obtain ⟨_, built, key⟩ := List.mem_map.mp present
  obtain ⟨other, enabled, rfl⟩ := List.mem_map.mp built
  rw [List.map_cons, List.nodup_cons] at distinct
  exact distinct.1 (List.mem_map.mpr
    ⟨other, (List.mem_filter.mp enabled).1, (matched.trans key.symm).symm⟩)

/-- Each entry comes back to the row that it was made from. -/
theorem mergeAll_restored {rows : List DeviceRow} {devices : List DeviceInfo}
    (of : List.Forall₂ RowOf rows devices)
    (distinct : (rows.map fun row => deviceKey row.info).Nodup) {saved : List DeviceEntry}
    (same : List.Forall₂ SameEntry (entries rows) saved) :
    ∃ rows', saved.foldlM mergeInto (devices.map DeviceRow.new) = some rows' ∧
      List.Forall₂ Restored rows rows' := by
  induction of generalizing saved with
  | nil =>
    cases same
    exact ⟨[], rfl, .nil⟩
  | @cons row d rows devices first _ ih =>
    have rest := (List.nodup_cons.mp distinct).2
    rw [List.map_cons]
    cases enabled : row.enabled with
    | false =>
      have fewer : entries (row :: rows) = entries rows := by simp [entries, enabled]
      rw [fewer] at same
      obtain ⟨rows', merge, restored⟩ := ih rest same
      refine ⟨DeviceRow.new d :: rows', ?_, .cons (restored_off first enabled) restored⟩
      rw [mergeAll_skip saved (saved_for_others distinct same first.same), merge]
      rfl
    | true =>
      have more : entries (row :: rows) = row.entry :: entries rows := by simp [entries, enabled]
      rw [more] at same
      cases same with
      | @cons _ entry _ saved one others =>
        obtain ⟨row', mergeOne, back⟩ := restored_on first enabled one
        obtain ⟨rows', merge, restored⟩ := ih rest others
        have here : isFor entry (DeviceRow.new d) = true := by
          rw [isFor_iff, one.key]
          exact first.same.key
        refine ⟨row' :: rows', ?_, .cons back restored⟩
        rw [List.foldlM_cons, mergeInto, if_pos here, mergeOne, Option.map_some]
        exact (mergeAll_skip saved (saved_for_others distinct others back.same) _).trans
          (congrArg _ merge)

/-- What is saved the second time has the options as the clean-up leaves them. -/
theorem restored_entry {row row' : DeviceRow} (even : Even row) (restored : Restored row row')
    (enabled : row.enabled = true) : SameEntry row.entry row'.entry ↔
      ∀ value, (filePath, value) ∈ row.fields → ¬ Layered value := by
  have again : ∀ k v, row'.entry.options.lookup k = some v ↔
      ∃ w, row.entry.options.lookup k = some w ∧ cleaned k w = v := by
    intro k v
    simp only [entry_options restored.even, restored.fields enabled]
  constructor
  · intro same value member
    have first := (entry_options even filePath _).mpr ⟨value, member, rfl⟩
    have second := (again filePath _).mpr ⟨_, first, rfl⟩
    rw [← same.options, first] at second
    exact (cleaned_twice value).mp (Option.some.inj second).symm
  · intro plain
    have fixed : ∀ k w, row.entry.options.lookup k = some w → cleaned k w = w := by
      intro k w given
      obtain ⟨value, member, rfl⟩ := (entry_options even k w).mp given
      by_cases path : k = filePath
      · subst path
        exact (cleaned_twice value).mpr (plain value member)
      · simp only [cleaned, if_neg path]
    refine ⟨restored.same.adapterName, restored.same.identifier, restored.same.name, ?_, ?_⟩
    · rw [DeviceRow.entry, restored.port enabled, parseU16_toText, Option.getD_some]
    · rw [same_iff]
      intro k v
      rw [again]
      constructor
      · intro given
        exact ⟨v, given, fixed k v given⟩
      · rintro ⟨w, given, rfl⟩
        rw [fixed k w given]
        exact given

theorem restored_entries {rows rows' : List DeviceRow} (even : ∀ row ∈ rows, Even row)
    (restored : List.Forall₂ Restored rows rows') :
    List.Forall₂ SameEntry (entries rows) (entries rows') ↔
      ∀ row ∈ rows, row.enabled = true →
        ∀ value, (filePath, value) ∈ row.fields → ¬ Layered value := by
  induction restored with
  | nil => simp [entries]
  | @cons row row' rows rows' first _ ih =>
    rw [List.forall_mem_cons] at even ⊢
    rw [← ih even.2]
    cases enabled : row.enabled with
    | false =>
      have off : row'.enabled = false := first.enabled.trans enabled
      simp [entries, enabled, off]
    | true =>
      have on : row'.enabled = true := first.enabled.trans enabled
      have head := restored_entry even.1 first enabled
      simp only [entries, List.filter_cons, enabled, on, if_true, List.map_cons,
        List.forall₂_cons, head, forall_const]

theorem new_keys {d d' : DeviceInfo} (same : SameDevice d d') (k : Text) :
    k ∈ (DeviceRow.new d').optionKeys ↔ k ∈ (DeviceRow.new d).optionKeys := by
  have listed : ∀ d : DeviceInfo, k ∈ (DeviceRow.new d).optionKeys ↔
      ∃ v, d.options.lookup k = some v := by
    intro d
    simp [DeviceRow.new, mem_pairs]
  rw [listed, listed, same.options k]

theorem rows_of {devices devices' : List DeviceInfo} {rows : List DeviceRow}
    (edited : List.Forall₂ RowFor devices rows)
    (found : List.Forall₂ SameDevice devices devices') (even : ∀ row ∈ rows, Even row) :
    List.Forall₂ RowOf rows devices' := by
  induction edited generalizing devices' with
  | nil =>
    cases found
    exact .nil
  | cons first _ ih =>
    rw [List.forall_mem_cons] at even
    cases found with
    | cons same others =>
      refine .cons ⟨even.1, first.info ▸ same, fun k member => ?_⟩ (ih others even.2)
      exact first.keys k ((new_keys same k).mp member)

theorem edited_rows {devices : List DeviceInfo} {saved : Option HostConfig} {s₀ s : TuiState}
    (start : TuiState.new devices saved = some s₀)
    (same : s.rows.map outline = s₀.rows.map outline) :
    List.Forall₂ RowFor devices s.rows := by
  obtain ⟨rows, first, grown⟩ := new_grown devices saved
  rw [start] at first
  cases first
  have outlined : List.Forall₂ (fun d (o : DeviceInfo × List Text) => o.1 = d ∧
      ∀ k ∈ (DeviceRow.new d).optionKeys, k ∈ o.2) devices (rows.map outline) := by
    rw [List.forall₂_map_right_iff]
    rw [List.forall₂_map_left_iff] at grown
    exact grown.imp fun d row grown => ⟨grown.info, grown.keys⟩
  rw [← same, List.forall₂_map_right_iff] at outlined
  exact outlined.imp fun d row made => ⟨made.1, made.2⟩

theorem edited_keys {devices : List DeviceInfo} {rows : List DeviceRow}
    (edited : List.Forall₂ RowFor devices rows) :
    (rows.map fun row => deviceKey row.info) = devices.map deviceKey := by
  induction edited with
  | nil => rfl
  | cons first _ ih => rw [List.map_cons, List.map_cons, ih, first.info]

/-- The second save gives the same configuration exactly if no path had quotes with blanks or
    quotes behind them. -/
theorem resave_same_iff {devices devices' : List DeviceInfo} {saved : Option HostConfig}
    {events : List UiEvent} {s₀ s : TuiState} {c c' : HostConfig}
    (distinct : (devices.map deviceKey).Nodup) (start : TuiState.new devices saved = some s₀)
    (run : exec TuiState.step s₀ events = some s) (built : s.buildConfig = some c)
    (found : List.Forall₂ SameDevice devices devices') (loaded : SameConfig c c') :
    ∃ c'', resave devices' c' = some c'' ∧
      (SameConfig c c'' ↔ ∀ row ∈ s.rows, row.enabled = true →
        ∀ value, (filePath, value) ∈ row.fields → ¬ Layered value) := by
  obtain ⟨sound, same⟩ := reached_sound start run
  have edited := edited_rows start same
  rw [buildConfig_entries] at built
  cases built
  obtain ⟨rows', merge, restored⟩ :=
    mergeAll_restored (rows_of edited found sound.rows) (edited_keys edited ▸ distinct) loaded
  refine ⟨⟨entries rows'⟩, ?_, restored_entries sound.rows restored⟩
  rw [resave, TuiState.new, merge]
  exact buildConfig_entries _

theorem sameDevice_refl (d : DeviceInfo) : SameDevice d d :=
  ⟨rfl, rfl, rfl, same_refl _, rfl, rfl⟩

theorem sameConfig_refl (c : HostConfig) : SameConfig c c :=
  List.forall₂_same.mpr fun _ _ => ⟨rfl, rfl, rfl, rfl, same_refl _⟩

def fileConfig (path : Text) : HostConfig :=
  ⟨[{ driver := "file".toList
      deviceIdentifier := "file_device".toList
      deviceName := "File Device".toList
      port := 8000
      options := collect [(filePath, path)] }]⟩

def enable : UiEvent := .key (.char (Char.ofNat 0x20))

/-- With nothing but the device enabled. -/
theorem resave_same_enabled : ∃ c'',
    resave [fileDevice] (fileConfig "/path/to/file".toList) = some c'' ∧
    (SameConfig (fileConfig "/path/to/file".toList) c'' ↔
      ∀ row ∈ [{ DeviceRow.new fileDevice with enabled := true }], row.enabled = true →
        ∀ value, (filePath, value) ∈ row.fields → ¬ Layered value) :=
  @resave_same_iff [fileDevice] [fileDevice] none [enable] { rows := [DeviceRow.new fileDevice] }
    { rows := [{ DeviceRow.new fileDevice with enabled := true }] } _ _
    (by decide) rfl rfl rfl (.cons (sameDevice_refl _) .nil) (sameConfig_refl _)

def enterPath : List UiEvent :=
  [enable, .key .enter, .key .tab] ++ List.replicate 13 (.key .backspace) ++
    [.paste "\" a \"".toList]

theorem blanks_lost_on_resave : ¬ ∀ (devices : List DeviceInfo) (saved : Option HostConfig)
    (events : List UiEvent) (s₀ s : TuiState) (c c'' : HostConfig),
    (devices.map deviceKey).Nodup → TuiState.new devices saved = some s₀ →
    exec TuiState.step s₀ events = some s → s.buildConfig = some c →
    resave devices c = some c'' → SameConfig c c'' := by
  intro unchanged
  obtain ⟨s, run⟩ := Option.isSome_iff_exists.mp (by decide :
    (exec TuiState.step { rows := [DeviceRow.new fileDevice] } enterPath).isSome = true)
  have first : (exec TuiState.step { rows := [DeviceRow.new fileDevice] } enterPath).bind
      TuiState.buildConfig = some (fileConfig " a ".toList) := rfl
  rw [run, Option.bind_some] at first
  have second : resave [fileDevice] (fileConfig " a ".toList) = some (fileConfig "a".toList) := rfl
  have same := unchanged [fileDevice] none enterPath _ s _ _ (by decide) rfl run first second
  cases same with
  | cons entry _ =>
    have path := entry.options filePath
    revert path
    decide

end NcdResave
