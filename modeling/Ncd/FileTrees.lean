import Ncd.HashMaps

/- Trees of named files, and what lies below one directory of a file system as a map from
   paths to nodes. -/
namespace FileTrees
open HashMaps

abbrev Name := List Char

/-- Relative to the directory; [] is the directory itself. -/
abbrev Path := List Name

inductive Node where
  | dir
  | file (bytes : List UInt8) (executable : Bool)
  | symlink (target : List Char)
  deriving DecidableEq, Repr

/-- The entries of a directory, in the order in which it lists them. -/
inductive Forest where
  | nil
  | file (name : Name) (bytes : List UInt8) (executable : Bool) (rest : Forest)
  | symlink (name : Name) (target : List Char) (rest : Forest)
  | dir (name : Name) (sub rest : Forest)
  deriving DecidableEq, Repr

abbrev Files := HashMap Path Node

def Forest.names : Forest → List Name
  | .nil => []
  | .file name _ _ rest | .symlink name _ rest | .dir name _ rest => name :: rest.names

def Forest.nodes : Forest → Path → List (Path × Node)
  | .nil, _ => []
  | .file name bytes executable rest, below =>
    (below ++ [name], .file bytes executable) :: rest.nodes below
  | .symlink name target rest, below => (below ++ [name], .symlink target) :: rest.nodes below
  | .dir name sub rest, below =>
    (below ++ [name], .dir) :: (sub.nodes (below ++ [name]) ++ rest.nodes below)

def Forest.Named (fine : Name → Prop) : Forest → Prop
  | .nil => True
  | .file name _ _ rest | .symlink name _ rest =>
    fine name ∧ name ∉ rest.names ∧ rest.Named fine
  | .dir name sub rest => fine name ∧ name ∉ rest.names ∧ sub.Named fine ∧ rest.Named fine

def Forest.decideNamed (fine : Name → Prop) [DecidablePred fine] :
    (forest : Forest) → Decidable (forest.Named fine)
  | .nil => .isTrue trivial
  | .file _ _ _ rest | .symlink _ _ rest =>
    have := rest.decideNamed fine
    inferInstanceAs (Decidable (_ ∧ _ ∧ _))
  | .dir _ sub rest =>
    have := sub.decideNamed fine
    have := rest.decideNamed fine
    inferInstanceAs (Decidable (_ ∧ _ ∧ _ ∧ _))

instance (fine : Name → Prop) [DecidablePred fine] (forest : Forest) :
    Decidable (forest.Named fine) := forest.decideNamed fine

def Dirs (files : Files) (path : Path) : Prop :=
  ∀ above, above <+: path → above ≠ [] → files.lookup above = some .dir

/-- Make the missing directories, the outermost first; none if something else is there. -/
def ensureDirs (files : Files) (done : Path) : List Name → Option Files
  | [] => some files
  | name :: names =>
    match files.lookup (done ++ [name]) with
    | none => ensureDirs (files.insert (done ++ [name]) .dir) (done ++ [name]) names
    | some .dir => ensureDirs files (done ++ [name]) names
    | some _ => none

def createDirAll (files : Files) (path : Path) : Option Files := ensureDirs files [] path

variable {files : Files} {path below : Path} {name : Name}

theorem ensureDirs_there {done : Path} {names : List Name} (dirs : Dirs files (done ++ names)) :
    ensureDirs files done names = some files := by
  induction names generalizing done with
  | nil => rfl
  | cons name names ih =>
    have here : files.lookup (done ++ [name]) = some .dir :=
      dirs _ ⟨names, by simp⟩ (by simp)
    simp only [ensureDirs, here]
    exact ih (by simpa using dirs)

theorem createDirAll_there (dirs : Dirs files path) : createDirAll files path = some files :=
  ensureDirs_there (by simpa using dirs)

theorem ensureDirs_new {done : Path} {names : List Name} (dirs : Dirs files (done ++ names))
    (absent : files.lookup (done ++ names ++ [name]) = none) :
    ensureDirs files done (names ++ [name]) =
      some (files.insert (done ++ names ++ [name]) .dir) := by
  induction names generalizing done with
  | nil =>
    rw [List.append_nil] at absent ⊢
    simp [ensureDirs, absent]
  | cons first names ih =>
    have here : files.lookup (done ++ [first]) = some .dir :=
      dirs _ ⟨names, by simp⟩ (by simp)
    simp only [List.cons_append, ensureDirs, here]
    have same : done ++ first :: names = done ++ [first] ++ names := by simp
    rw [same] at dirs absent ⊢
    exact ih dirs absent

theorem createDirAll_new (dirs : Dirs files path) (absent : files.lookup (path ++ [name]) = none) :
    createDirAll files (path ++ [name]) = some (files.insert (path ++ [name]) .dir) := by
  have dirs' : Dirs files ([] ++ path) := by simpa using dirs
  have absent' : files.lookup ([] ++ path ++ [name]) = none := by simpa using absent
  simpa [createDirAll] using ensureDirs_new dirs' absent'

theorem nodes_below {forest : Forest} {node : Node} (member : (path, node) ∈ forest.nodes below) :
    ∃ name ∈ forest.names, below ++ [name] <+: path := by
  induction forest generalizing below with
  | nil => simp [Forest.nodes] at member
  | file name bytes executable rest ih | symlink name target rest ih =>
    simp only [Forest.nodes, List.mem_cons, Prod.mk.injEq] at member
    obtain ⟨rfl, -⟩ | later := member
    · exact ⟨name, by simp [Forest.names], List.prefix_refl _⟩
    · obtain ⟨other, here, under⟩ := ih later
      exact ⟨other, by simp [Forest.names, here], under⟩
  | dir name sub rest inner outer =>
    simp only [Forest.nodes, List.mem_cons, List.mem_append, Prod.mk.injEq] at member
    obtain ⟨rfl, -⟩ | inside | later := member
    · exact ⟨name, by simp [Forest.names], List.prefix_refl _⟩
    · obtain ⟨other, -, under⟩ := inner inside
      exact ⟨name, by simp [Forest.names], (List.prefix_append _ _).trans under⟩
    · obtain ⟨other, here, under⟩ := outer later
      exact ⟨other, by simp [Forest.names, here], under⟩

theorem nodes_nonempty {forest : Forest} {node : Node}
    (member : (path, node) ∈ forest.nodes below) : path ≠ [] := by
  obtain ⟨name, -, rest, rfl⟩ := nodes_below member
  simp

theorem nodes_fine {fine : Name → Prop} {forest : Forest} {node : Node} (named : forest.Named fine)
    (above : ∀ name ∈ below, fine name) (member : (path, node) ∈ forest.nodes below) :
    ∀ name ∈ path, fine name := by
  have deeper : ∀ {below : Path} {name : Name}, (∀ other ∈ below, fine other) → fine name →
      ∀ other ∈ below ++ [name], fine other := by
    intro below name above good other here
    obtain here | here := List.mem_append.mp here
    · exact above other here
    · rwa [List.mem_singleton.mp here]
  induction forest generalizing below with
  | nil => simp [Forest.nodes] at member
  | file name bytes executable rest ih | symlink name target rest ih =>
    simp only [Forest.nodes, List.mem_cons, Prod.mk.injEq] at member
    obtain ⟨rfl, -⟩ | later := member
    · exact deeper above named.1
    · exact ih named.2.2 above later
  | dir name sub rest inner outer =>
    simp only [Forest.nodes, List.mem_cons, List.mem_append, Prod.mk.injEq] at member
    obtain ⟨rfl, -⟩ | inside | later := member
    · exact deeper above named.1
    · exact inner named.2.2.1 (deeper above named.1) inside
    · exact outer named.2.2.2 above later

theorem apart {name name' : Name} {path' : Path} (different : name ≠ name')
    (under : below ++ [name] <+: path) (under' : below ++ [name'] <+: path') : path ≠ path' := by
  obtain ⟨rest, rfl⟩ := under
  obtain ⟨rest', rfl⟩ := under'
  simp [different]

theorem nodes_nodup {fine : Name → Prop} {forest : Forest} (named : forest.Named fine) :
    ((forest.nodes below).map Prod.fst).Nodup := by
  have missing : ∀ {name : Name} {rest : Forest}, name ∉ rest.names →
      ∀ {path node}, (path, node) ∈ rest.nodes below → ∀ {path'}, below ++ [name] <+: path' →
        path' ≠ path := by
    intro name rest absent path node member path' under
    obtain ⟨other, here, under'⟩ := nodes_below member
    have different : name ≠ other := by
      rintro rfl
      exact absent here
    exact apart different under under'
  induction forest generalizing below with
  | nil => exact List.nodup_nil
  | file name bytes executable rest ih | symlink name target rest ih =>
    obtain ⟨-, absent, named⟩ := named
    simp only [Forest.nodes, List.map_cons, List.nodup_cons, List.mem_map, Prod.exists]
    refine ⟨?_, ih named missing⟩
    rintro ⟨path, node, member, same⟩
    exact missing absent member (List.prefix_refl _) same.symm
  | dir name sub rest inner outer =>
    obtain ⟨-, absent, named, named'⟩ := named
    simp only [Forest.nodes, List.map_cons, List.map_append, List.nodup_cons, List.nodup_append,
      List.mem_append, List.mem_map, Prod.exists]
    refine ⟨?_, inner named ?_, outer named' missing, ?_⟩
    · rintro (⟨path, node, member, same⟩ | ⟨path, node, member, same⟩)
      · obtain ⟨other, -, under⟩ := nodes_below member
        have long := under.length_le
        simp only [same, List.length_append, List.length_cons, List.length_nil] at long
        omega
      · exact missing absent member (List.prefix_refl _) same.symm
    · intro other others unused path node member path' under
      obtain ⟨last, here, under'⟩ := nodes_below member
      have different : other ≠ last := by
        rintro rfl
        exact unused here
      exact apart different under under'
    · rintro _ ⟨path, node, member, rfl⟩ _ ⟨path', node', member', rfl⟩
      obtain ⟨other, -, under⟩ := nodes_below member
      exact missing absent member' ((List.prefix_append _ _).trans under)

theorem nodes_ordered {forest : Forest} {done rest : List (Path × Node)} {node : Node}
    (split : forest.nodes below = done ++ (path, node) :: rest) :
    ∀ above, above <+: path → above ≠ path → below.length < above.length →
      (above, .dir) ∈ done := by
  intro above under proper inside
  have leaf : ∀ {below : Path} {name : Name}, below ++ [name] = path →
      ¬ below.length < above.length := by
    rintro below name rfl inside
    have long := under.length_le
    rw [List.length_append, List.length_singleton] at long
    exact proper (under.eq_of_length (by rw [List.length_append, List.length_singleton]; omega))
  induction forest generalizing below done rest with
  | nil => simp [Forest.nodes] at split
  | file name bytes executable others ih | symlink name target others ih =>
    cases done with
    | nil =>
      simp only [Forest.nodes, List.nil_append, List.cons.injEq, Prod.mk.injEq] at split
      exact absurd inside (leaf split.1.1)
    | cons first done =>
      simp only [Forest.nodes, List.cons_append, List.cons.injEq] at split
      exact List.mem_cons_of_mem _ (ih split.2 inside)
  | dir name sub others inner outer =>
    cases done with
    | nil =>
      simp only [Forest.nodes, List.nil_append, List.cons.injEq, Prod.mk.injEq] at split
      exact absurd inside (leaf split.1.1)
    | cons first done =>
      simp only [Forest.nodes, List.cons_append, List.cons.injEq] at split
      obtain ⟨rfl, split⟩ := split
      obtain ⟨middle, rfl, later⟩ | ⟨middle, here, later⟩ := List.append_eq_append_iff.mp split
      · exact List.mem_cons_of_mem _ (List.mem_append_right _ (outer later inside))
      cases middle with
      | nil =>
        have first : others.nodes below = [] ++ (path, node) :: rest := later.symm
        exact absurd (outer first inside) List.not_mem_nil
      | cons last middle =>
        rw [List.cons_append, List.cons.injEq] at later
        obtain ⟨rfl, -⟩ := later
        have member : (path, node) ∈ sub.nodes (below ++ [name]) := by
          rw [here]
          simp
        obtain ⟨other, -, deep⟩ := nodes_below member
        by_cases top : above = below ++ [name]
        · rw [top]
          exact List.mem_cons_self
        · have within : below ++ [name] <+: above :=
            List.prefix_of_prefix_length_le ((List.prefix_append _ _).trans deep) under (by simpa)
          have longer : (below ++ [name]).length < above.length := by
            refine Nat.lt_of_le_of_ne within.length_le fun same => ?_
            exact top (within.eq_of_length same).symm
          exact List.mem_cons_of_mem _ (inner here longer)

/-- Put down in this order, every node finds its directory there and its own path free. -/
theorem nodes_fit {fine : Name → Prop} {forest : Forest} (named : forest.Named fine)
    (put : Path × Node → Path × Node) (paths : ∀ entry, (put entry).1 = entry.1)
    (dirs : ∀ path, put (path, .dir) = (path, .dir)) {done rest : List (Path × Node)} {node : Node}
    (split : forest.nodes [] = done ++ (path, node) :: rest) :
    Dirs (collect (done.map put)) path.dropLast ∧ (collect (done.map put)).lookup path = none := by
  have kept : (done.map put).map Prod.fst = done.map Prod.fst := by
    rw [List.map_map]
    exact List.map_congr_left fun entry _ => paths entry
  have distinct : ((forest.nodes []).map Prod.fst).Nodup := nodes_nodup named
  rw [split, List.map_append, List.map_cons, List.nodup_append] at distinct
  have there : ((done.map put).map Prod.fst).Nodup := kept ▸ distinct.1
  constructor
  · intro above under nonempty
    rw [lookup_collect_iff there, List.mem_map]
    have short := under.length_le
    rw [List.length_dropLast] at short
    have proper : above ≠ path := by
      rintro rfl
      have := List.length_pos_of_ne_nil nonempty
      omega
    have inner := under.trans (List.dropLast_prefix path)
    refine ⟨_, nodes_ordered split above inner proper ?_, dirs _⟩
    exact List.length_pos_of_ne_nil nonempty
  · rw [Option.eq_none_iff_forall_ne_some]
    intro other found
    rw [lookup_collect_iff there] at found
    have seen : path ∈ done.map Prod.fst := kept ▸ List.mem_map_of_mem (f := Prod.fst) found
    exact distinct.2.2 path seen path List.mem_cons_self rfl

end FileTrees
