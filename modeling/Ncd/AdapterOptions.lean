import Ncd.TuiState

/- The options of a device on their way to its adapter: from the map of the configuration to
   the arguments of the process, and from those to the dictionary that the adapter gets. -/
namespace NcdAdapterOptions
open Texts HashMaps NcdTuiState

def portKey : Text := "port".toList

/-- What device_actor hands to spawn. -/
def adapterOptions (port : UInt16) (options : Options) : Options :=
  match options.lookup portKey with
  | some _ => options
  | none => options.insert portKey (toText port)

def dashes : Text := "--".toList

/-- The arguments of spawn behind the identifier and the name. -/
def spawnArgs (options : Options) : List Text :=
  options.pairs.flatMap fun option => [dashes ++ option.1, option.2]

def isOption (token : Text) : Bool := dashes.isPrefixOf token

def undash (key : Text) : Text := key.map fun c => if c = '-' then '_' else c

/-- The while loop of parse_arg. A value is not stepped over: the loop comes to it next. -/
def parseLoop : List Text → Options → Options
  | [], options => options
  | token :: unknown, options =>
    if isOption token then
      let value :=
        match unknown with
        | next :: _ => if isOption next then [] else next
        | [] => []
      parseLoop unknown (options.insert (undash (token.drop 2)) value)
    else parseLoop unknown options

def parseArg (unknown : List Text) : Options := parseLoop unknown ∅

theorem parse_option (key : Text) {value : Text} (plain : isOption value = false)
    (unknown : List Text) (options : Options) :
    parseLoop ((dashes ++ key) :: value :: unknown) options =
      parseLoop unknown (options.insert (undash key) value) := by
  have option : isOption (dashes ++ key) = true := by
    rw [isOption, List.isPrefixOf_iff_prefix]
    exact List.prefix_append _ _
  have name : (dashes ++ key).drop 2 = key := rfl
  simp only [parseLoop, option, name, plain, if_true, Bool.false_eq_true, if_false]

theorem parse_options {pairs : List (Text × Text)}
    (plain : ∀ option ∈ pairs, isOption option.2 = false) (options : Options) :
    parseLoop (pairs.flatMap fun option => [dashes ++ option.1, option.2]) options =
      insertAll options (pairs.map fun option => (undash option.1, option.2)) := by
  induction pairs generalizing options with
  | nil => rfl
  | cons option pairs ih =>
    rw [List.forall_mem_cons] at plain
    rw [List.flatMap_cons, List.cons_append, List.cons_append, List.nil_append,
      parse_option option.1 plain.1, ih plain.2]
    rfl

theorem undash_plain {key : Text} (plain : '-' ∉ key) : undash key = key := by
  have each : ∀ c ∈ key, (if c = '-' then '_' else c) = id c := by
    intro c member
    rw [if_neg (by rintro rfl; exact plain member), id]
  rw [undash, List.map_congr_left each, List.map_id]

theorem parse_spawnArgs {options : Options}
    (plain : ∀ key value, (key, value) ∈ options.pairs → isOption value = false) :
    parseArg (spawnArgs options) =
      collect (options.pairs.map fun option => (undash option.1, option.2)) :=
  parse_options (fun option member => plain option.1 option.2 member) ∅

theorem parse_same {options : Options}
    (plain : ∀ key value, (key, value) ∈ options.pairs → isOption value = false)
    (undashed : ∀ key value, (key, value) ∈ options.pairs → '-' ∉ key) :
    Same (parseArg (spawnArgs options)) options := by
  have kept : (options.pairs.map fun option => (undash option.1, option.2)) = options.pairs := by
    have each : ∀ option ∈ options.pairs, (undash option.1, option.2) = id option := by
      intro option member
      rw [undash_plain (undashed option.1 option.2 member), id]
    rw [List.map_congr_left each, List.map_id]
  rw [parse_spawnArgs plain, kept]
  exact collect_pairs options

theorem port_plain (port : UInt16) : isOption (toText port) = false := by
  rw [← Bool.not_eq_true, isOption, List.isPrefixOf_iff_prefix]
  intro front
  have dash : '-' ∈ toText port := front.subset (by decide)
  have digit := toText_isDigit dash
  revert digit
  decide

/-- Every option arrives under its key with underscores for the dashes, and no other. -/
theorem options_arrive {options : Options}
    (plain : ∀ key value, (key, value) ∈ options.pairs → isOption value = false) :
    parseArg (spawnArgs options) =
        collect (options.pairs.map fun option => (undash option.1, option.2)) ∧
      ((∀ key value, (key, value) ∈ options.pairs → '-' ∉ key) →
        Same (parseArg (spawnArgs options)) options) :=
  ⟨parse_spawnArgs plain, parse_same plain⟩

theorem options_arrive_default :
    parseArg (spawnArgs (adapterOptions 8000 ∅)) =
        collect ((adapterOptions 8000 ∅).pairs.map fun option => (undash option.1, option.2)) ∧
      ((∀ key value, (key, value) ∈ (adapterOptions 8000 ∅).pairs → '-' ∉ key) →
        Same (parseArg (spawnArgs (adapterOptions 8000 ∅))) (adapterOptions 8000 ∅)) :=
  options_arrive fun key value member => by
    cases List.mem_singleton.mp member
    exact port_plain 8000

/-- A dash in a key is replaced, and a value that begins with two of them is taken for an
    option. -/
theorem dashes_change_options :
    (¬ ∀ options : Options, (∀ key value, (key, value) ∈ options.pairs → key ≠ []) →
      Same (parseArg (spawnArgs options)) options) ∧
    ¬ ∀ options : Options, (∀ key value, (key, value) ∈ options.pairs → key ≠ [] ∧ '-' ∉ key) →
      Same (parseArg (spawnArgs options)) options := by
  constructor
  · intro same
    have arrived := same (collect [("baud-rate".toList, "9600".toList)]) (by
      intro key value member
      cases List.mem_singleton.mp member
      decide) "baud-rate".toList
    revert arrived
    decide
  · intro same
    have arrived := same (collect [("command".toList, "--version".toList)]) (by
      intro key value member
      cases List.mem_singleton.mp member
      decide) "command".toList
    revert arrived
    decide

end NcdAdapterOptions
