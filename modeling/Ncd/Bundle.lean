import Ncd.FileTrees
import Ncd.Texts
import Ncd.LabelledRuns

/- The Python runtime inside ncd: the archive that its build packs from a directory, and
   the directory that ncd extracts it to, wherever the extraction was interrupted. -/
namespace NcdBundle
open FileTrees HashMaps LabelledRuns Texts
open String (utf8EncodeChar)

inductive Content where
  | data (bytes : List UInt8)
  | link (target : Text)
  deriving DecidableEq, Repr

structure ZipEntry where
  name : Text
  unixMode : Nat
  content : Content
  deriving DecidableEq, Repr

/-- The name of a directory gets a slash at its end. -/
def addDirectory (zipPath : Text) : ZipEntry := ⟨zipPath ++ ['/'], 0o755, .data []⟩

def addSymlink (zipPath target : Text) : ZipEntry := ⟨zipPath, 0o755, .link target⟩

def fileMode (isExecutable : Bool) : Nat := if isExecutable then 0o755 else 0o644

def startFile (zipPath : Text) (isExecutable : Bool) (bytes : List UInt8) : ZipEntry :=
  ⟨zipPath, fileMode isExecutable, .data bytes⟩

def zipPath (above name : Text) : Text := if above = [] then name else above ++ '/' :: name

def addDirToZip : Forest → Text → List ZipEntry
  | .nil, _ => []
  | .dir name sub rest, above =>
    addDirectory (zipPath above name) ::
      (addDirToZip sub (zipPath above name) ++ addDirToZip rest above)
  | .symlink name target rest, above =>
    addSymlink (zipPath above name) target :: addDirToZip rest above
  | .file name bytes executable rest, above =>
    startFile (zipPath above name) executable bytes :: addDirToZip rest above

def ZipEntry.isDir (entry : ZipEntry) : Bool :=
  endsWith entry.name '/' || endsWith entry.name '\\'

/-- The components of a relative path; empty ones and "." do not count. -/
def components (name : Text) : Path :=
  (name.splitOn '/').filter fun part => part ≠ [] ∧ part ≠ ['.']

/-- BUNDLE_BYTES is here its entries and its fingerprint. -/
structure Embedded where
  archive : List ZipEntry
  fingerprint : Text
  BUNDLE_HASH : Text

inductive Pc where
  | idle
  | removing
  | creating
  | extracting (left : List ZipEntry)
  | copying (outPath : Path) (unixMode : Nat) (left : List UInt8) (others : List ZipEntry)
  | verifying
  | discarding
  | marking
  | stamping (left : List UInt8)
  | ready
  deriving DecidableEq, Repr

/-- The cache directory, if it exists, and how far the one process is that uses it. -/
structure Cache where
  dir : Option Files
  pc : Pc

/-- stop is the end of the process, by an error or from outside. -/
inductive Event where
  | start
  | remove (path : Path)
  | removed
  | create
  | extract
  | copy (count : Nat)
  | permissions (set : Bool)
  | verify
  | mark
  | stamp (count : Nat)
  | stop
  deriving DecidableEq, Repr

def hashMarker : Path := [".bundle_hash".toList]

def readToString (bytes : List UInt8) : Option Text :=
  (ByteArray.mk bytes.toArray).utf8Decode?.map Array.toList

def encode (text : Text) : List UInt8 := text.flatMap utf8EncodeChar

def needsExtract (e : Embedded) (dir : Option Files) : Bool :=
  match dir.bind fun files => files.lookup hashMarker with
  | some (.file bytes _) => (readToString bytes).elim true fun s => trim s ≠ e.BUNDLE_HASH
  | _ => true

/-- None of the links leads back into the tree, so that no path goes through one. -/
def createFile (files : Files) (outPath : Path) : Option Files :=
  match files.lookup outPath with
  | none => some (files.insert outPath (.file [] false))
  | some (.file _ executable) => some (files.insert outPath (.file [] executable))
  | some _ => none

def removeFile (files : Files) (outPath : Path) : Files :=
  match files.lookup outPath with
  | some .dir | none => files
  | some _ => files.erase outPath

def symlink (files : Files) (target : Text) (outPath : Path) : Option Files :=
  match files.lookup outPath with
  | none => some (files.insert outPath (.symlink target))
  | some _ => none

def write (files : Files) (path : Path) (bytes : List UInt8) : Files :=
  match files.lookup path with
  | some (.file before executable) => files.insert path (.file (before ++ bytes) executable)
  | _ => files

def setPermissions (files : Files) (path : Path) (unixMode : Nat) : Files :=
  match files.lookup path with
  | some (.file bytes _) => files.insert path (.file bytes (unixMode &&& 0o111 ≠ 0))
  | _ => files

/-- One entry, as far as the first byte of its content; an error ends the process. -/
def extractEntry (files : Files) (entry : ZipEntry) (others : List ZipEntry) : Option Cache :=
  let outPath := components entry.name
  if entry.isDir then do
    let files ← createDirAll files outPath
    some ⟨some files, .extracting others⟩
  else
    match entry.content with
    | .link target => do
      let files ← createDirAll files outPath.dropLast
      let files ← symlink (removeFile files outPath) (trim target) outPath
      some ⟨some files, .extracting others⟩
    | .data bytes => do
      let files ← createDirAll files outPath.dropLast
      let files ← createFile files outPath
      some ⟨some files, .copying outPath entry.unixMode bytes others⟩

def childless (files : Files) (path : Path) : Bool :=
  files.keys.all fun other => !path.isPrefixOf other || other = path

def step (e : Embedded) (c : Cache) : Event → Option Cache
  | .start =>
    match c.pc with
    | .idle =>
      if needsExtract e c.dir then
        some { c with pc := if c.dir.isSome then .removing else .creating }
      else some { c with pc := .ready }
    | _ => none
  | .remove path =>
    match c.pc, c.dir with
    | .removing, some files | .discarding, some files =>
      if path ∈ files ∧ childless files path then some { c with dir := some (files.erase path) }
      else none
    | _, _ => none
  | .removed =>
    match c.pc, c.dir with
    | .removing, some files => if files.keys = [] then some ⟨none, .creating⟩ else none
    | .discarding, some files => if files.keys = [] then some ⟨none, .idle⟩ else none
    | _, _ => none
  | .create =>
    match c.pc with
    | .creating => some ⟨some (c.dir.getD ∅), .extracting e.archive⟩
    | _ => none
  | .extract =>
    match c.pc, c.dir with
    | .extracting [], _ => some { c with pc := .verifying }
    | .extracting (entry :: others), some files =>
      some ((extractEntry files entry others).getD { c with pc := .idle })
    | _, _ => none
  | .copy count =>
    match c.pc, c.dir with
    | .copying path mode left others, some files =>
      some ⟨some (write files path (left.take count)),
        .copying path mode (left.drop count) others⟩
    | _, _ => none
  | .permissions set =>
    match c.pc, c.dir with
    | .copying path mode [] others, some files =>
      some ⟨some (if set then setPermissions files path mode else files), .extracting others⟩
    | _, _ => none
  | .verify =>
    match c.pc with
    | .verifying =>
      some { c with pc := if e.fingerprint = e.BUNDLE_HASH then .marking else .discarding }
    | _ => none
  | .mark =>
    match c.pc, c.dir with
    | .marking, some files =>
      match createFile files hashMarker with
      | some files => some ⟨some files, .stamping (encode e.BUNDLE_HASH)⟩
      | none => some { c with pc := .idle }
    | _, _ => none
  | .stamp count =>
    match c.pc, c.dir with
    | .stamping [], _ => some { c with pc := .ready }
    | .stamping left, some files =>
      some ⟨some (write files hashMarker (left.take count)), .stamping (left.drop count)⟩
    | _, _ => none
  | .stop => if c.pc = .idle then none else some { c with pc := .idle }

/-- A name that read_dir can give on Linux and that the archive keeps: the zip crate takes a last
    backslash for the end of a directory's name. -/
def Plain (name : Name) : Prop :=
  name ≠ [] ∧ '/' ∉ name ∧ name ≠ ['.'] ∧ name ≠ ['.', '.'] ∧ name.getLast? ≠ some '\\'

instance : DecidablePred Plain := fun _ => inferInstanceAs (Decidable (_ ∧ _ ∧ _ ∧ _ ∧ _))

/-- What extraction makes of a node: the blanks around the target of a link are cut off. -/
def extracted : Path × Node → Path × Node
  | (path, .symlink target) => (path, .symlink (trim target))
  | entry => entry

def joined (path : Path) : Text := ['/'].intercalate path

def entryOf : Path × Node → ZipEntry
  | (path, .dir) => addDirectory (joined path)
  | (path, .symlink target) => addSymlink (joined path) target
  | (path, .file bytes executable) => startFile (joined path) executable bytes

section Packing
variable {path : Path} {name : Name} {below : Path}

theorem joined_snoc (nonempty : below ≠ []) :
    joined (below ++ [name]) = joined below ++ '/' :: name := by
  induction below with
  | nil => exact absurd rfl nonempty
  | cons first below ih =>
    cases below with
    | nil => simp [joined, List.intercalate_cons_cons]
    | cons second below =>
      have next := ih (List.cons_ne_nil _ _)
      simp only [joined, List.cons_append, List.intercalate_cons_cons] at next ⊢
      rw [next]
      simp

theorem joined_empty (plain : ∀ name ∈ path, Plain name) : joined path = [] ↔ path = [] := by
  rcases List.eq_nil_or_concat path with rfl | ⟨below, name, rfl⟩
  · simp [joined]
  · rw [List.concat_eq_append] at plain ⊢
    cases below with
    | nil => simpa [joined] using (plain name (by simp)).1
    | cons first below =>
      rw [joined_snoc (List.cons_ne_nil _ _)]
      simp

theorem zipPath_joined (plain : ∀ name ∈ below, Plain name) :
    zipPath (joined below) name = joined (below ++ [name]) := by
  unfold zipPath
  by_cases top : below = []
  · subst top
    simp [joined]
  · rw [if_neg (by rwa [joined_empty plain]), joined_snoc top]

theorem addDirToZip_nodes {tree : Forest} (named : tree.Named Plain)
    (plain : ∀ name ∈ below, Plain name) :
    addDirToZip tree (joined below) = (tree.nodes below).map entryOf := by
  induction tree generalizing below with
  | nil => rfl
  | file name bytes executable rest ih | symlink name target rest ih =>
    simp only [addDirToZip, Forest.nodes, List.map_cons, entryOf, zipPath_joined plain,
      ih named.2.2 plain]
  | dir name sub rest inner outer =>
    obtain ⟨good, -, named, named'⟩ := named
    have deeper : ∀ other ∈ below ++ [name], Plain other := by
      intro other member
      obtain member | member := List.mem_append.mp member
      · exact plain other member
      · rwa [List.mem_singleton.mp member]
    simp only [addDirToZip, Forest.nodes, List.map_cons, List.map_append, entryOf,
      zipPath_joined plain, inner named deeper, outer named' plain]

theorem components_of_plain (plain : ∀ name ∈ path, Plain name) (nonempty : path ≠ []) :
    components (joined path) = path ∧ components (joined path ++ ['/']) = path := by
  have good : path.filter (fun part => part ≠ [] ∧ part ≠ ['.']) = path :=
    List.filter_eq_self.mpr fun name member => by
      obtain ⟨full, -, notDot, -⟩ := plain name member
      simp [full, notDot]
  constructor
  · have noSlash : ∀ l ∈ path, '/' ∉ l := fun l member => (plain l member).2.1
    rw [components, joined, List.splitOn_intercalate _ noSlash nonempty, good]
  · have slash : joined path ++ ['/'] = joined (path ++ [[]]) := (joined_snoc nonempty).symm
    have noSlash : ∀ l ∈ path ++ [[]], '/' ∉ l := by
      intro l member
      obtain member | member := List.mem_append.mp member
      · exact (plain l member).2.1
      · rw [List.mem_singleton.mp member]
        exact List.not_mem_nil
    rw [slash, components, joined, List.splitOn_intercalate _ noSlash (by simp), List.filter_append,
      good]
    simp

theorem getLast_joined (nonempty : path ≠ []) (plain : ∀ name ∈ path, Plain name) :
    (joined path).getLast? = (path.getLast nonempty).getLast? := by
  rcases List.eq_nil_or_concat path with rfl | ⟨below, name, rfl⟩
  · exact absurd rfl nonempty
  · have full : name ≠ [] := (plain name (by simp)).1
    simp only [List.concat_eq_append, List.getLast_append_singleton]
    by_cases top : below = []
    · subst top
      simp [joined]
    · rw [joined_snoc top, List.getLast?_append, List.getLast?_cons_of_ne_nil full]
      simp [List.getLast?_eq_getLast_of_ne_nil full]

theorem isDir_entryOf {node : Node} (nonempty : path ≠ []) (plain : ∀ name ∈ path, Plain name) :
    (entryOf (path, node)).isDir = true ↔ node = .dir := by
  have last := getLast_joined nonempty plain
  obtain ⟨-, noSlash, -, -, noBack⟩ := plain _ (List.getLast_mem nonempty)
  have slash : (path.getLast nonempty).getLast? ≠ some '/' := by
    intro here
    exact noSlash (List.mem_of_getLast? here)
  cases node with
  | dir => simp [entryOf, addDirectory, ZipEntry.isDir, endsWith]
  | file bytes executable =>
    simp [entryOf, startFile, ZipEntry.isDir, endsWith, last, slash, noBack]
  | symlink target => simp [entryOf, addSymlink, ZipEntry.isDir, endsWith, last, slash, noBack]

end Packing

/-- What the cache holds in the end: the tree and the marker. -/
def contents (e : Embedded) (tree : Forest) : List (Path × Node) :=
  (tree.nodes []).map extracted ++ [(hashMarker, .file (encode e.BUNDLE_HASH) false)]

def Complete (e : Embedded) (tree : Forest) (dir : Option Files) : Prop :=
  ∃ files, dir = some files ∧ ∀ path node, files.lookup path = some node ↔
    (path, node) ∈ contents e tree

def unpacked (done : List (Path × Node)) : Files := collect (done.map extracted)

inductive Stage (e : Embedded) (tree : Forest) : Cache → Prop where
  | idle {dir : Option Files} (sound : needsExtract e dir = false → Complete e tree dir) :
      Stage e tree ⟨dir, .idle⟩
  | removing {files : Files} (stale : needsExtract e (some files) = true) :
      Stage e tree ⟨some files, .removing⟩
  | discarding {files : Files} (stale : needsExtract e (some files) = true) :
      Stage e tree ⟨some files, .discarding⟩
  | creating : Stage e tree ⟨none, .creating⟩
  | extracting {done left : List (Path × Node)} (split : tree.nodes [] = done ++ left) :
      Stage e tree ⟨some (unpacked done), .extracting (left.map entryOf)⟩
  | copying {done others : List (Path × Node)} {path : Path} {written left : List UInt8}
      {executable : Bool}
      (split : tree.nodes [] = done ++ (path, .file (written ++ left) executable) :: others) :
      Stage e tree ⟨some ((unpacked done).insert path (.file written false)),
        .copying path (fileMode executable) left (others.map entryOf)⟩
  | verifying : Stage e tree ⟨some (unpacked (tree.nodes [])), .verifying⟩
  | marking : Stage e tree ⟨some (unpacked (tree.nodes [])), .marking⟩
  | stamping {written left : List UInt8} (split : encode e.BUNDLE_HASH = written ++ left) :
      Stage e tree ⟨some ((unpacked (tree.nodes [])).insert hashMarker (.file written false)),
        .stamping left⟩
  | ready {dir : Option Files} (complete : Complete e tree dir) : Stage e tree ⟨dir, .ready⟩

section Marker
variable {e : Embedded} {files : Files}

theorem readToString_eq {bytes : List UInt8} {s : Text} (read : readToString bytes = some s) :
    bytes = encode s := by
  obtain ⟨chars, decoded, rfl⟩ := Option.map_eq_some_iff.mp read
  have some? : (ByteArray.mk bytes.toArray).utf8Decode?.isSome := by simp [decoded]
  have back := ByteArray.utf8Encode_get_utf8Decode? (h := some?)
  simp only [decoded, Option.get_some, List.utf8Encode] at back
  have lists := congrArg (fun array => array.data.toList) back
  simpa [encode] using lists.symm

theorem readToString_encode (s : Text) : readToString (encode s) = some s := by
  have back := List.utf8Decode?_utf8Encode (l := s)
  have same : s.utf8Encode = ByteArray.mk (encode s).toArray := by
    rw [ByteArray.ext_iff]
    simp [List.utf8Encode, encode, List.data_toByteArray]
  rw [readToString, ← same, back]
  rfl

theorem needs_unmarked (absent : files.lookup hashMarker = none) :
    needsExtract e (some files) = true := by
  simp [needsExtract, absent]

theorem needs_erased {path : Path} (stale : needsExtract e (some files) = true) :
    needsExtract e (some (files.erase path)) = true := by
  by_cases here : hashMarker = path
  · subst here
    exact needs_unmarked (AList.lookup_erase _ _)
  · simpa [needsExtract, AList.lookup_erase_ne here] using stale

theorem trim_within (s : Text) : ∃ before after, s = before ++ trim s ++ after := by
  obtain ⟨before, front⟩ := List.dropWhile_suffix (l := s) isWhitespace
  obtain ⟨after, back⟩ := List.rdropWhile_prefix isWhitespace (l := s.dropWhile isWhitespace)
  refine ⟨before, after, ?_⟩
  rw [List.append_assoc, trim, back, front]

/-- A marker that was written in part does not count. -/
theorem valid_marker {bytes left : List UInt8} {executable : Bool}
    (found : files.lookup hashMarker = some (.file bytes executable))
    (split : encode e.BUNDLE_HASH = bytes ++ left)
    (valid : needsExtract e (some files) = false) : bytes = encode e.BUNDLE_HASH := by
  simp only [needsExtract, Option.bind_some, found] at valid
  cases read : readToString bytes with
  | none => simp [read] at valid
  | some s =>
    have trimmed : trim s = e.BUNDLE_HASH := by simpa [read] using valid
    obtain ⟨before, after, parts⟩ := trim_within s
    have size : (encode e.BUNDLE_HASH).length ≤ bytes.length := by
      rw [readToString_eq read, parts, trimmed]
      simp only [encode, List.flatMap_append, List.length_append]
      omega
    have total := congrArg List.length split
    rw [List.length_append] at total
    rw [split, List.eq_nil_of_length_eq_zero (l := left) (by omega), List.append_nil]

end Marker

section Extraction
variable {e : Embedded} {tree : Forest} {path : Path} {done others : List (Path × Node)}
  {node : Node}

theorem write_inserted {files : Files} {written bytes : List UInt8} {executable : Bool} :
    write (files.insert path (.file written executable)) path bytes =
      files.insert path (.file (written ++ bytes) executable) := by
  simp [write, AList.lookup_insert, AList.insert_insert]

theorem setPermissions_inserted {files : Files} {bytes : List UInt8} {executable set : Bool} :
    setPermissions (files.insert path (.file bytes set)) path (fileMode executable) =
      files.insert path (.file bytes executable) := by
  cases executable <;>
    simp [setPermissions, fileMode, AList.lookup_insert, AList.insert_insert]

theorem unpacked_snoc (entry : Path × Node) :
    unpacked (done ++ [entry]) =
      (unpacked done).insert (extracted entry).1 (extracted entry).2 := by
  simp [unpacked, collect, insertAll]

theorem extracted_path (entry : Path × Node) : (extracted entry).1 = entry.1 := by
  obtain ⟨path, node⟩ := entry
  cases node <;> rfl

theorem extractEntry_node (named : tree.Named Plain)
    (split : tree.nodes [] = done ++ (path, node) :: others) :
    extractEntry (unpacked done) (entryOf (path, node)) (others.map entryOf) =
      some (match node with
        | .file bytes executable => ⟨some ((unpacked done).insert path (.file [] false)),
            .copying path (fileMode executable) bytes (others.map entryOf)⟩
        | _ => ⟨some (unpacked (done ++ [(path, node)])), .extracting (others.map entryOf)⟩) := by
  obtain ⟨dirs, absent⟩ := nodes_fit named extracted extracted_path (fun _ => rfl) split
  have member : (path, node) ∈ tree.nodes [] := by simp [split]
  have nonempty := nodes_nonempty member
  have plain := nodes_fine named (by simp) member
  have kind : (entryOf (path, node)).isDir = true ↔ node = .dir := isDir_entryOf nonempty plain
  obtain ⟨same, slashed⟩ := components_of_plain plain nonempty
  rw [← unpacked] at dirs absent
  cases node with
  | dir =>
    have made : createDirAll (unpacked done) path = some ((unpacked done).insert path .dir) := by
      rw [← List.dropLast_append_getLast nonempty] at absent ⊢
      exact createDirAll_new dirs absent
    rw [extractEntry, if_pos (by simpa using kind)]
    simp only [entryOf, addDirectory, slashed, made, unpacked_snoc, extracted]
    rfl
  | symlink target =>
    rw [extractEntry, if_neg (by simpa using kind)]
    have linked : symlink (removeFile (unpacked done) path) (trim target) path =
        some ((unpacked done).insert path (.symlink (trim target))) := by
      simp [removeFile, symlink, absent]
    simp only [entryOf, addSymlink, same, createDirAll_there dirs, Option.bind_eq_bind,
      Option.bind_some, linked, unpacked_snoc, extracted]
  | file bytes executable =>
    rw [extractEntry, if_neg (by simpa using kind)]
    have created : createFile (unpacked done) path =
        some ((unpacked done).insert path (.file [] false)) := by
      simp [createFile, absent]
    simp only [entryOf, startFile, same, createDirAll_there dirs, Option.bind_eq_bind,
      Option.bind_some, created]

theorem unpacked_paths : (done.map extracted).map Prod.fst = done.map Prod.fst := by
  rw [List.map_map]
  exact List.map_congr_left fun entry _ => extracted_path entry

theorem unpacked_lookup (named : tree.Named Plain) (split : tree.nodes [] = done ++ others) :
    (unpacked done).lookup path = some node ↔ (path, node) ∈ done.map extracted := by
  have distinct : ((tree.nodes []).map Prod.fst).Nodup := nodes_nodup named
  rw [split, List.map_append, List.nodup_append] at distinct
  exact lookup_collect_iff (by rw [unpacked_paths]; exact distinct.1)

theorem unmarked_nodes (unmarked : ".bundle_hash".toList ∉ tree.names) :
    (hashMarker, node) ∉ (tree.nodes []).map extracted := by
  intro member
  obtain ⟨⟨path, node'⟩, there, same⟩ := List.mem_map.mp member
  have here : path = hashMarker := by
    have paths := congrArg Prod.fst same
    rwa [extracted_path] at paths
  obtain ⟨name, top, under⟩ := nodes_below there
  rw [here, List.nil_append, hashMarker, List.prefix_cons_iff] at under
  simp_all

theorem unmarked_lookup (unmarked : ".bundle_hash".toList ∉ tree.names)
    (named : tree.Named Plain) (split : tree.nodes [] = done ++ others) :
    (unpacked done).lookup hashMarker = none := by
  rw [Option.eq_none_iff_forall_ne_some]
  intro node found
  rw [unpacked_lookup named split] at found
  have absent : (hashMarker, node) ∉ (tree.nodes []).map extracted := unmarked_nodes unmarked
  rw [split, List.map_append] at absent
  exact absent (List.mem_append_left _ found)

theorem stamped_complete (named : tree.Named Plain)
    (unmarked : ".bundle_hash".toList ∉ tree.names) :
    Complete e tree (some ((unpacked (tree.nodes [])).insert hashMarker
      (.file (encode e.BUNDLE_HASH) false))) := by
  refine ⟨_, rfl, fun path node => ?_⟩
  rw [contents, List.mem_append, List.mem_singleton, Prod.mk.injEq]
  by_cases here : path = hashMarker
  · subst here
    rw [AList.lookup_insert, Option.some.injEq]
    have absent : (hashMarker, node) ∉ (tree.nodes []).map extracted := unmarked_nodes unmarked
    simp [absent, eq_comm]
  · rw [AList.lookup_insert_ne here, unpacked_lookup named (List.append_nil _).symm]
    simp [here]

theorem stop_stage (named : tree.Named Plain) (unmarked : ".bundle_hash".toList ∉ tree.names)
    {c : Cache} (stage : Stage e tree c) : Stage e tree ⟨c.dir, .idle⟩ := by
  have stale : ∀ {dir}, needsExtract e dir = true → Stage e tree ⟨dir, .idle⟩ := by
    intro dir needs
    exact .idle fun valid => by rw [needs] at valid; cases valid
  have whole : (unpacked (tree.nodes [])).lookup hashMarker = none :=
    unmarked_lookup unmarked named (List.append_nil _).symm
  cases stage with
  | idle sound => exact .idle sound
  | removing needs | discarding needs => exact stale needs
  | creating => exact stale rfl
  | extracting split => exact stale (needs_unmarked (unmarked_lookup unmarked named split))
  | @copying done others path written left executable split =>
    have other : hashMarker ≠ path := by
      rintro rfl
      have absent : extracted (hashMarker, .file (written ++ left) executable) ∉
          (tree.nodes []).map extracted := unmarked_nodes unmarked
      rw [split, List.map_append, List.map_cons] at absent
      exact absent (List.mem_append_right _ List.mem_cons_self)
    apply stale (needs_unmarked _)
    rw [AList.lookup_insert_ne other, unmarked_lookup unmarked named split]
  | verifying | marking => exact stale (needs_unmarked whole)
  | stamping split =>
    refine .idle fun valid => ?_
    rw [valid_marker (AList.lookup_insert _) split valid]
    exact stamped_complete named unmarked
  | ready complete => exact .idle fun _ => complete

end Extraction

theorem step_stage {e : Embedded} {tree : Forest} (named : tree.Named Plain)
    (unmarked : ".bundle_hash".toList ∉ tree.names) (packed : e.archive = addDirToZip tree [])
    {c d : Cache} {event : Event} (stage : Stage e tree c) (set : event ≠ .permissions false)
    (moves : step e c event = some d) : Stage e tree d := by
  have whole : (unpacked (tree.nodes [])).lookup hashMarker = none :=
    unmarked_lookup unmarked named (List.append_nil _).symm
  cases event with
  | start =>
    cases stage <;> simp only [step, reduceCtorEq] at moves
    case idle dir sound =>
      split at moves <;> cases moves
      · cases dir with
        | none => exact .creating
        | some files => exact .removing ‹_›
      · exact .ready (sound (Bool.eq_false_iff.mpr ‹_›))
  | remove path =>
    cases stage <;> simp only [step, reduceCtorEq] at moves
    case removing files stale =>
      split at moves <;> cases moves
      exact .removing (needs_erased stale)
    case discarding files stale =>
      split at moves <;> cases moves
      exact .discarding (needs_erased stale)
  | removed =>
    cases stage <;> simp only [step, reduceCtorEq] at moves
    case removing =>
      split at moves <;> cases moves
      exact .creating
    case discarding =>
      split at moves <;> cases moves
      exact .idle nofun
  | create =>
    cases stage <;> simp only [step, reduceCtorEq] at moves
    cases moves
    have entries : addDirToZip tree (joined []) = (tree.nodes []).map entryOf :=
      addDirToZip_nodes named (by simp)
    have split : tree.nodes [] = [] ++ tree.nodes [] := rfl
    rw [packed, show ([] : Text) = joined [] from rfl, entries]
    exact .extracting split
  | extract =>
    cases stage <;> simp only [step, reduceCtorEq] at moves
    case extracting done left split =>
      cases left with
      | nil =>
        cases moves
        rw [List.append_nil] at split
        rw [← split]
        exact .verifying
      | cons entry others =>
        obtain ⟨path, node⟩ := entry
        simp only [List.map_cons, extractEntry_node named split, Option.getD_some,
          Option.some.injEq] at moves
        subst moves
        cases node with
        | file bytes executable =>
          have unwritten : tree.nodes [] = done ++ (path, .file ([] ++ bytes) executable) :: others :=
            split
          exact .copying unwritten
        | dir | symlink => exact .extracting (by rw [split]; simp)
  | copy count =>
    cases stage <;> simp only [step, reduceCtorEq] at moves
    case copying done others path written left executable split =>
      cases moves
      rw [write_inserted]
      apply Stage.copying
      rw [split, List.append_assoc, List.take_append_drop]
  | permissions ok =>
    cases stage <;> simp only [step, reduceCtorEq] at moves
    case copying done others path written left executable split =>
      cases left <;> simp only [reduceCtorEq] at moves
      cases moves
      rw [List.append_nil] at split
      have kept : ok = true := by cases ok <;> simp_all
      rw [if_pos kept, setPermissions_inserted]
      have next : (unpacked done).insert path (.file written executable) =
          unpacked (done ++ [(path, .file written executable)]) := by
        rw [unpacked_snoc]
        rfl
      rw [next]
      exact .extracting (by rw [split]; simp)
  | verify =>
    cases stage <;> simp only [step, reduceCtorEq] at moves
    cases moves
    split
    · exact .marking
    · exact .discarding (needs_unmarked whole)
  | mark =>
    cases stage <;> simp only [step, reduceCtorEq] at moves
    have made : createFile (unpacked (tree.nodes [])) hashMarker =
        some ((unpacked (tree.nodes [])).insert hashMarker (.file [] false)) := by
      simp [createFile, whole]
    rw [made] at moves
    cases moves
    have unwritten : encode e.BUNDLE_HASH = [] ++ encode e.BUNDLE_HASH := rfl
    exact .stamping unwritten
  | stamp count =>
    cases stage <;> simp only [step, reduceCtorEq] at moves
    case stamping written left split =>
      cases left with
      | nil =>
        cases moves
        rw [List.append_nil] at split
        rw [← split]
        exact .ready (stamped_complete named unmarked)
      | cons first left =>
        cases moves
        rw [write_inserted]
        apply Stage.stamping
        rw [split, List.append_assoc, List.take_append_drop]
  | stop =>
    simp only [step] at moves
    split at moves <;> cases moves
    exact stop_stage named unmarked stage

/-- No chmod of the extraction fails; ncd ignores it if one does. -/
def Permitted (_ : Cache) (event : Event) : Prop := event ≠ .permissions false

instance (c : Cache) (event : Event) : Decidable (Permitted c event) :=
  inferInstanceAs (Decidable (_ ≠ _))

theorem complete_kept {e : Embedded} {tree : Forest} (hex : trim e.BUNDLE_HASH = e.BUNDLE_HASH)
    {c d : Cache} (complete : Complete e tree c.dir) (ready : c.pc = .ready)
    (run : Reaches (step e) Any c d) : d.dir = c.dir := by
  obtain ⟨files, there, holds⟩ := complete
  have found : files.lookup hashMarker = some (.file (encode e.BUNDLE_HASH) false) := by
    rw [holds, contents, List.mem_append]
    exact .inr List.mem_cons_self
  have valid : needsExtract e c.dir = false := by
    simp [needsExtract, there, found, readToString_encode, hex]
  have still : d.dir = c.dir ∧ (d.pc = .idle ∨ d.pc = .ready) := by
    refine run.keeps (I := fun d => d.dir = c.dir ∧ (d.pc = .idle ∨ d.pc = .ready)) ?_
      ⟨rfl, .inr ready⟩
    rintro ⟨dir, pc⟩ event t ⟨rfl, rest⟩ - moves
    obtain rfl | rfl := rest <;> cases event <;>
      simp only [step, valid, reduceCtorEq, if_true, if_false, Bool.false_eq_true,
        Option.some.injEq] at moves <;>
      subst moves <;> simp
  exact still.1

/-- Whatever run of ncd comes first past the extraction, after any interrupted ones, finds in
    the cache the tree that was packed, and so does every later one. -/
theorem ready_complete {e : Embedded} {tree : Forest} (named : tree.Named Plain)
    (unmarked : ".bundle_hash".toList ∉ tree.names) (packed : e.archive = addDirToZip tree [])
    (hex : trim e.BUNDLE_HASH = e.BUNDLE_HASH)
    {dir : Option Files} (stale : needsExtract e dir = true) {c : Cache}
    (run : Reaches (step e) Permitted ⟨dir, .idle⟩ c) (ready : c.pc = .ready) :
    Complete e tree c.dir ∧ ∀ d, Reaches (step e) Any c d → d.dir = c.dir := by
  have stage : Stage e tree c := by
    refine run.keeps (step_stage named unmarked packed) (.idle fun valid => ?_)
    rw [stale] at valid
    cases valid
  cases stage with
  | ready complete => exact ⟨complete, fun d later => complete_kept hex complete rfl later⟩
  | idle | removing | discarding | creating | extracting | copying | verifying | marking
    | stamping => cases ready

section Sample

def sampleTree : Forest :=
  .dir "python".toList
    (.dir "bin".toList (.file "python3".toList [0x7F, 0x45] true .nil)
      (.symlink "lib64".toList "lib".toList .nil))
    .nil

def sampleBundle : Embedded := ⟨addDirToZip sampleTree [], "5e".toList, "5e".toList⟩

/-- Stopped in the middle of python3, and once more before the marker is whole. -/
def sampleEvents : List Event :=
  [.start, .create, .extract, .extract, .extract, .copy 1, .stop,
   .start, .remove ["python".toList, "bin".toList, "python3".toList],
   .remove ["python".toList, "bin".toList], .remove ["python".toList], .removed, .create,
   .extract, .extract, .extract, .copy 2, .permissions true, .extract, .extract, .verify, .mark,
   .stamp 2, .stamp 0]

theorem interrupted_ready_complete : ∃ c,
    execIf (step sampleBundle) Permitted ⟨none, .idle⟩ sampleEvents = some c ∧
      Complete sampleBundle sampleTree c.dir ∧
      ∀ d, Reaches (step sampleBundle) Any c d → d.dir = c.dir := by
  have ends : (execIf (step sampleBundle) Permitted ⟨none, .idle⟩ sampleEvents).map Cache.pc =
      some .ready := by decide +kernel
  obtain ⟨c, run, ready⟩ := Option.map_eq_some_iff.mp ends
  exact ⟨c, run, ready_complete (by decide) (by decide) rfl (by decide) rfl
    (reaches_of_execIf sampleEvents run) ready⟩

end Sample

end NcdBundle
