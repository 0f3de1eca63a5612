import ApiCompiler.CommandLine.Generate
import ApiCompiler.Proofs.MadeDirectories

/-!
Writing files below a directory, one after the other. A file that is written makes the directory
that it lies in, if that is missing, and leaves all other places as they are. So files whose names
do not stand in each other's way can all be written, and all are found afterwards.
-/

set_option autoImplicit false

namespace ApiCompiler

namespace Path

/-- A name leads one level down, and a file can have it. -/
structure IsName (name : String) : Prop where
  named : isVoid name = false
  down : name ≠ ".."
  stored : isStorable name = true

/-- The pieces of a file that lies in a directory or one level below it. -/
inductive IsShort : List String → Prop
  | file {name : String} (own : IsName name) : IsShort [name]
  | nested {above name : String} (upper : IsName above) (own : IsName name) :
      IsShort [above, name]

theorem storable_iff {name : String} :
    isStorable name = true ↔ holdsNul name = false ∧ isLong name = false := by
  rw [isStorable, Bool.and_eq_true, Bool.not_eq_true', Bool.not_eq_true']

theorem IsName.letters {name : String} (own : IsName name) : name ≠ "" := by
  rintro rfl
  cases own.named

theorem IsShort.last {names : List String} (short : IsShort names) :
    ∃ front name, names = front ++ [name] ∧ IsName name := by
  cases short with
  | file own => exact ⟨[], _, rfl, own⟩
  | nested upper own => exact ⟨[_], _, rfl, own⟩

theorem relative_of_first {path : String} (first : (pieces path).head? ≠ some "") :
    isRooted path = false := by
  by_contra rooted
  have slash : path.toList.head? = some '/' := by simpa [isRooted] using rooted
  obtain ⟨rest, shape⟩ := List.head?_eq_some_iff.mp slash
  apply first
  rw [pieces, shape, Text.pieces]
  rfl

theorem relative_of_short {path : String} (short : IsShort (pieces path)) :
    isRooted path = false := by
  apply relative_of_first
  cases shape : pieces path with
  | nil => exact nofun
  | cons front others =>
      rw [shape] at short
      intro first
      cases Option.some.inj first
      cases short with
      | file own => exact own.letters rfl
      | nested upper own => exact upper.letters rfl

theorem ends_in_name {path name : String} {front : List String}
    (whole : pieces path = front ++ [name]) (own : IsName name) :
    path ≠ "" ∧ path.toList.getLast? ≠ some '/' := by
  constructor
  · rintro rfl
    have last := congrArg List.getLast? whole
    rw [List.getLast?_concat] at last
    exact own.letters (Option.some.inj last).symm
  · intro slash
    obtain ⟨before, _, longer⟩ := ends_in_slash slash
    have last := congrArg List.getLast? (longer.symm.trans whole)
    rw [List.getLast?_concat, List.getLast?_concat] at last
    exact own.letters (Option.some.inj last).symm

end Path

def BundleFile.names (file : BundleFile) : List String := Path.pieces file.path

def BundleFile.bytes (file : BundleFile) : List UInt8 := Text.toUtf8 file.contents

namespace FileTree

variable {tree after : FileTree} {directory path name : String} {place names : List String}

theorem opens_base_iff (letters : directory ≠ "") :
    tree.Opens (Path.base directory) place ↔ tree.Opens (Path.trail directory) place := by
  rw [← Path.trimmed_base letters, opens_trimmed_iff]

theorem opens_below {front : List String} (opens : tree.Opens front place)
    (own : Path.IsName name) : tree.walk (front ++ [name]) = .ok (place ++ [name]) := by
  obtain ⟨noNul, short⟩ := Path.storable_iff.mp own.stored
  have followed := (follow_name_iff own.named own.down).mpr ⟨opens.2, short, rfl⟩
  exact walk_append_iff.mpr ⟨place, opens.1, by simpa using noNul, followed⟩

theorem read_ok_iff {bytes : List UInt8} : tree.read path = .ok bytes ↔
    path ≠ "" ∧ ∃ place, tree.walk (Path.pieces path) = .ok place ∧
      tree.status place = .file bytes := by
  rw [read, bind_ok_iff, locate]
  by_cases none : path = ""
  · simp [none]
  · rw [if_neg (by simpa [String.isEmpty_iff] using none), and_iff_right none]
    refine exists_congr fun place => and_congr_right fun _ => ?_
    cases tree.status place <;> simp [pure, Except.pure]

/-- A file can be made at some names below a place: no directory is there, and no file is on the
way. -/
structure Room (tree : FileTree) (place names : List String) : Prop where
  vacant : tree.status (place ++ names) ≠ .directory
  clear : ∀ front, front <+: names → ∀ contents, tree.status (place ++ front) ≠ .file contents

/-- Places have one status in two trees. -/
def Alike (left right : FileTree) : Prop := ∀ place, left.status place = right.status place

/-- A directory on the way to a new file need not have been made before. -/
theorem put_file_with_directory (tree : FileTree) (front : List String) (name : String)
    (contents : List UInt8) :
    ((tree.withDirectory front).putFile (front ++ [name]) contents).Alike
      (tree.putFile (front ++ [name]) contents) := by
  intro other
  have above : isAbove other (front ++ [name]) = true ↔
      other = front ∨ isAbove other front = true := by
    rw [is_above_iff, is_above_iff, List.prefix_concat_iff]
    constructor
    · intro parts
      rcases parts with ⟨own | shorter, different⟩
      · exact absurd own different
      · exact (eq_or_ne other front).imp_right fun apart => ⟨shorter, apart⟩
    · intro either
      rcases either with rfl | ⟨shorter, _⟩
      · exact ⟨.inr (List.prefix_refl _), by simp⟩
      · refine ⟨.inr shorter, ?_⟩
        rintro rfl
        have longer := shorter.length_le
        rw [List.length_append, List.length_singleton] at longer
        omega
  simp only [status_put_file, status_with_directory, above]
  split_ifs <;> simp_all

theorem write_below {front : List String} {contents : List UInt8}
    (whole : Path.pieces path = front ++ [name]) (own : Path.IsName name)
    (opens : tree.Opens front place) (vacant : tree.status (place ++ [name]) ≠ .directory) :
    tree.write path contents = .ok (tree.putFile (place ++ [name]) contents) := by
  obtain ⟨letters, noSlash⟩ := Path.ends_in_name whole own
  have located : tree.locateNew path = .ok (place ++ [name]) := by
    rw [locateNew, if_neg (by simpa [endsInSlash] using noSlash), locate,
      if_neg (by simpa [String.isEmpty_iff] using letters), whole]
    exact opens_below opens own
  rw [write, located]
  cases status : tree.status (place ++ [name]) with
  | directory => exact absurd status vacant
  | missing => simp only [bind, Except.bind, status]; rfl
  | file found => simp only [bind, Except.bind, status]; rfl

/-- The directory of a nested file is there already, or it is made, and that changes nothing for
the file. -/
theorem create_above {front : List String} {above parent : String}
    (opens : tree.Opens front place) (upper : Path.IsName above)
    (clear : ∀ contents, tree.status (place ++ [above]) ≠ .file contents)
    (letters : parent ≠ "") (trail : Path.trail parent = front ++ [above]) :
    ∃ made, tree.createDirectories parent = .ok made ∧ tree.Keeps made ∧
      made.Opens (front ++ [above]) (place ++ [above]) ∧
      ∀ name, made.status (place ++ [above] ++ [name]) = tree.status (place ++ [above] ++ [name]) ∧
        ∀ contents, (made.putFile (place ++ [above] ++ [name]) contents).Alike
          (tree.putFile (place ++ [above] ++ [name]) contents) := by
  have located := opens_below opens upper
  cases status : tree.status (place ++ [above]) with
  | file contents => exact absurd status (clear contents)
  | directory =>
      have opened : tree.Opens (front ++ [above]) (place ++ [above]) := ⟨located, status⟩
      have same := create_directories_of_opens letters (trail.symm ▸ opened)
      exact ⟨tree, same, Keeps.refl tree, opened, fun _ => ⟨rfl, fun _ _ => rfl⟩⟩
  | missing =>
      have keeps := keeps_with_directory tree (place ++ [above])
      have opened : (tree.withDirectory (place ++ [above])).status (place ++ [above]) =
          .directory := by
        rw [status_with_directory, status, if_pos ⟨.inl rfl, rfl⟩]
      refine ⟨_, create_directories_of_missing letters (trail.symm ▸ located) status, keeps,
        ⟨keeps.walk located, opened⟩, fun name => ⟨?_, put_file_with_directory tree _ name⟩⟩
      have beyond : ¬isAbove (place ++ [above] ++ [name]) (place ++ [above]) = true := by
        rw [is_above_iff]
        intro parts
        simpa using parts.1.length_le
      have different : place ++ [above] ++ [name] ≠ place ++ [above] := by
        intro same
        simpa using congrArg List.length same
      rw [status_with_directory, if_neg fun parts => parts.1.elim different beyond]

end FileTree

namespace CommandLine

variable {tree made after : FileTree} {directory parent path : String} {file : BundleFile}
  {place : List String}

theorem update_run (change : FileTree → Except FileFault FileTree) (tree : FileTree) :
    (FileTree.update change).run tree =
      match change tree with
      | .ok after => (.ok (), after)
      | .error fault => (.error fault, tree) := by
  change StateT.run (match change tree with | .ok made => _ | .error fault => _) tree = _
  cases change tree <;> rfl

theorem attempt_run (attempt : String) (change : FileTree → Except FileFault FileTree)
    (tree : FileTree) :
    (attemptingFile attempt (FileTree.update change)).run.run tree =
      match change tree with
      | .ok after => (.ok (), after)
      | .error fault => (.error (.ofFile attempt fault), tree) := by
  change (((FileTree.update change).run tree).1.mapError _,
    ((FileTree.update change).run tree).2) = _
  rw [update_run]
  cases change tree <;> rfl

/-- An action follows another one unless that has failed. -/
theorem then_run {α β : Type} (first : Action (StateM FileTree) α)
    (next : α → Action (StateM FileTree) β) (tree : FileTree) :
    (first >>= next).run.run tree =
      match first.run.run tree with
      | (.ok value, after) => (next value).run.run after
      | (.error failure, after) => (.error failure, after) := by
  change StateT.run (first.run >>= fun result => ExceptT.bindCont next result) tree = _
  rw [StateT.run_bind]
  obtain ⟨result, after⟩ := first.run.run tree
  cases result <;> rfl

theorem create_parent_run (above : Path.parent? path = some parent)
    (opened : tree.createDirectories parent = .ok made) :
    (createParent FileTree.system path).run.run tree = (.ok (), made) := by
  rw [createParent, above]
  change (attemptingFile _ (FileTree.update _)).run.run tree = _
  rw [attempt_run, opened]

theorem write_output_run (above : Path.parent? (Path.join directory file.path) = some parent)
    (opened : tree.createDirectories parent = .ok made)
    (written : made.write (Path.join directory file.path) file.bytes = .ok after) :
    (writeOutput FileTree.system directory file).run.run tree = (.ok (), after) := by
  rw [writeOutput, then_run, create_parent_run above opened]
  change (attemptingFile _ (FileTree.update fun tree => tree.write _ file.bytes)).run.run made = _
  rw [attempt_run, written]

theorem pieces_of_output (short : Path.IsShort file.names) (directory : String) :
    Path.pieces (Path.join directory file.path) = Path.base directory ++ file.names :=
  Path.pieces_join (Path.relative_of_short short) directory

/-- A file right in a directory needs just this directory. -/
theorem parent_of_output {name : String} (letters : directory ≠ "") (single : file.names = [name])
    (own : Path.IsName name) : Path.parent? (Path.join directory file.path) =
      some (Path.ofPieces (Path.trail directory)) := by
  have short : Path.IsShort file.names := single.symm ▸ .file own
  have whole := pieces_of_output short directory
  rw [single] at whole
  rw [Path.parent_of_pieces whole own.named, if_neg (Path.base_cases letters).1,
    Path.trimmed_base letters]

/-- A file one level further down needs a directory of its own. -/
theorem parent_of_nested {above name : String} (nested : file.names = [above, name])
    (upper : Path.IsName above) (own : Path.IsName name) (directory : String) :
    ∃ parent, Path.parent? (Path.join directory file.path) = some parent ∧ parent ≠ "" ∧
      Path.trail parent = Path.base directory ++ [above] := by
  have short : Path.IsShort file.names := nested.symm ▸ .nested upper own
  have whole := pieces_of_output short directory
  rw [nested, List.append_cons] at whole
  have unbroken : ∀ piece ∈ Path.base directory ++ [above], '/' ∉ piece.toList := by
    intro piece listed
    exact Path.pieces_unbroken (whole ▸ List.mem_append_left _ listed)
  have long : Path.base directory ++ [above] ≠ [] := by simp
  have trail := Path.trail_of_trimmed long unbroken
  have parent := Path.parent_of_pieces whole own.named
  rw [if_neg long] at parent
  rw [Path.trimmed_concat upper.named] at trail parent
  exact ⟨_, parent, Path.of_pieces_ne_empty long unbroken, trail⟩

theorem create_base (letters : directory ≠ "") (opens : tree.Opens (Path.base directory) place) :
    tree.createDirectories (Path.ofPieces (Path.trail directory)) = .ok tree := by
  rw [FileTree.create_directories_trimmed tree letters]
  exact FileTree.create_directories_of_opens letters ((FileTree.opens_base_iff letters).mp opens)

/-- The pieces of a file lead to its own place below the directory's. -/
def Finds (tree : FileTree) (directory : String) (place : List String) (file : BundleFile) : Prop :=
  tree.walk (Path.base directory ++ file.names) = .ok (place ++ file.names)

/-- Writing one file. Besides the file, only the directory that it lies in can be new, and that one
is a directory wherever the file is. -/
theorem write_output_step (letters : directory ≠ "")
    (opens : tree.Opens (Path.base directory) place) (short : Path.IsShort file.names)
    (room : tree.Room place file.names) :
    ∃ after, (writeOutput FileTree.system directory file).run.run tree = (.ok (), after) ∧
      tree.Keeps after ∧ after.Alike (tree.putFile (place ++ file.names) file.bytes) ∧
      Finds after directory place file := by
  have whole := pieces_of_output short directory
  obtain ⟨vacant, clear⟩ := room
  unfold Finds
  generalize shape : file.names = names at *
  cases short with
  | @file name own =>
      have parent := parent_of_output letters shape own
      have keeps := FileTree.keeps_put_file file.bytes vacant
      exact ⟨_, write_output_run parent (create_base letters opens)
        (FileTree.write_below whole own opens vacant), keeps, fun _ => rfl,
        keeps.walk (FileTree.opens_below opens own)⟩
  | @nested above name upper own =>
      obtain ⟨parent, directly, filled, trail⟩ := parent_of_nested shape upper own directory
      rw [List.append_cons] at whole vacant
      rw [List.append_cons place, List.append_cons (Path.base directory)]
      obtain ⟨made, opened, keeps, opens', alike⟩ :=
        FileTree.create_above opens upper (clear [above] ⟨[name], rfl⟩) filled trail
      rw [← (alike name).1] at vacant
      have keeps' := FileTree.keeps_put_file file.bytes vacant
      exact ⟨_, write_output_run directly opened (FileTree.write_below whole own opens' vacant),
        keeps.trans keeps', (alike name).2 _, keeps'.walk (FileTree.opens_below opens' own)⟩

theorem read_of_finds (short : Path.IsShort file.names) (finds : Finds tree directory place file)
    (found : tree.status (place ++ file.names) = .file file.bytes) :
    tree.read (Path.join directory file.path) = .ok file.bytes := by
  have whole := pieces_of_output short directory
  have letters : Path.join directory file.path ≠ "" := by
    obtain ⟨front, name, shape, own⟩ := short.last
    rw [shape, ← List.append_assoc] at whole
    exact (Path.ends_in_name whole own).1
  apply FileTree.read_ok_iff.mpr
  exact ⟨letters, _, whole ▸ finds, found⟩

/-- Neither of two files lies where the other one does, or below it. -/
def Apart (left right : List String) : Prop := ¬left <+: right ∧ ¬right <+: left

theorem room_of_apart {names names' : List String} {contents : List UInt8}
    (room : tree.Room place names') (apart : Apart names names')
    (alike : after.Alike (tree.putFile (place ++ names) contents)) : after.Room place names' := by
  have different : ∀ front, front <+: names' → place ++ front ≠ place ++ names := by
    intro front shorter same
    rw [List.append_cancel_left same] at shorter
    exact apart.1 shorter
  have beside : ¬FileTree.isAbove (place ++ names') (place ++ names) = true := by
    rw [FileTree.is_above_append, FileTree.is_above_iff]
    exact fun parts => apart.2 parts.1
  constructor
  · rw [alike, FileTree.status_put_file, if_neg (different _ (List.prefix_refl _)),
      if_neg fun parts => beside parts.1]
    exact room.vacant
  · intro front shorter found
    rw [alike, FileTree.status_put_file, if_neg (different _ shorter)]
    split_ifs
    · exact nofun
    · exact room.clear front shorter found

/-- Writing files that are apart, each of which there is room for. All are there in the end, and so
is every file that was there before. The induction is on the files; each step leaves the directory
open and leaves room for the files that are still to come. -/
theorem write_outputs_run {files : List BundleFile} (letters : directory ≠ "")
    (opens : tree.Opens (Path.base directory) place)
    (short : ∀ file ∈ files, Path.IsShort file.names)
    (apart : (files.map BundleFile.names).Pairwise Apart)
    (room : ∀ file ∈ files, tree.Room place file.names) :
    ∃ after, (writeOutputs FileTree.system directory files).run.run tree = (.ok (), after) ∧
      tree.Keeps after ∧
      (∀ other contents, (∀ file ∈ files, other ≠ place ++ file.names) →
        tree.status other = .file contents → after.status other = .file contents) ∧
      ∀ file ∈ files, after.read (Path.join directory file.path) = .ok file.bytes := by
  induction files generalizing tree with
  | nil => exact ⟨tree, rfl, FileTree.Keeps.refl tree, fun _ _ _ same => same, by simp⟩
  | cons file rest induction =>
      rw [List.forall_mem_cons] at short room
      rw [List.map_cons, List.pairwise_cons] at apart
      obtain ⟨made, written, keeps, alike, finds⟩ :=
        write_output_step letters opens short.1 room.1
      have beside : ∀ other ∈ rest, Apart file.names other.names :=
        fun other listed => apart.1 _ (List.mem_map_of_mem listed)
      have room' : ∀ other ∈ rest, made.Room place other.names :=
        fun other listed => room_of_apart (room.2 other listed) (beside other listed) alike
      obtain ⟨after, onward, keeps', stays, found⟩ :=
        induction (keeps.opens opens) short.2 apart.2 room'
      have own : made.status (place ++ file.names) = .file file.bytes := by
        rw [alike, FileTree.status_put_file, if_pos rfl]
      have untouched : ∀ other ∈ rest, place ++ file.names ≠ place ++ other.names := by
        intro other listed same
        have named : file.names = other.names := List.append_cancel_left same
        exact (beside other listed).1 (named ▸ List.prefix_refl file.names)
      refine ⟨after, ?_, keeps.trans keeps', ?_, ?_⟩
      · rw [writeOutputs, then_run, written]
        exact onward
      · intro other contents elsewhere before
        rw [List.forall_mem_cons] at elsewhere
        apply stays other contents elsewhere.2
        rw [alike, FileTree.status_put_file, if_neg elsewhere.1, before]
        simp
      · rw [List.forall_mem_cons]
        exact ⟨read_of_finds short.1 (keeps'.walk finds) (stays _ _ untouched own), found⟩

/-! ### What was written is not taken away -/

/-- Whatever has been a file, an action leaves a file. -/
def Retains (action : Action (StateM FileTree) Unit) : Prop :=
  ∀ tree place, (tree.files.lookup place).isSome →
    ((action.run.run tree).2.files.lookup place).isSome

theorem retains_attempt {change : FileTree → Except FileFault FileTree} (attempt : String)
    (kept : ∀ tree after place, change tree = .ok after → (tree.files.lookup place).isSome →
      (after.files.lookup place).isSome) :
    Retains (attemptingFile attempt (FileTree.update change)) := by
  intro tree place found
  rw [attempt_run]
  cases changed : change tree with
  | ok after => exact kept tree after place changed found
  | error fault => exact found

theorem retains_then {first next : Action (StateM FileTree) Unit} (begins : Retains first)
    (continues : Retains next) : Retains (first >>= fun _ => next) := by
  intro tree place found
  have between := begins tree place found
  rw [then_run]
  generalize first.run.run tree = done at between
  obtain ⟨result, made⟩ := done
  cases result with
  | ok value => exact continues made place between
  | error failure => exact between

theorem retains_parent (path : String) : Retains (createParent FileTree.system path) := by
  rw [createParent]
  split
  · exact fun _ _ found => found
  · apply retains_attempt
    intro tree after place made found
    rwa [FileTree.create_directories_files made]

theorem retains_write (directory : String) (file : BundleFile) :
    Retains (writeOutput FileTree.system directory file) := by
  apply retains_then (retains_parent _)
  apply retains_attempt
  intro tree after place written found
  obtain ⟨own, _, written⟩ := bind_ok_iff.mp written
  have same : after = tree.putFile own file.bytes := by
    split at written <;> cases written
    rfl
  rw [same, FileTree.lookup_put_file]
  split_ifs
  · rfl
  · exact found

theorem retains_writes (directory : String) (files : List BundleFile) :
    Retains (writeOutputs FileTree.system directory files) := by
  induction files with
  | nil => exact fun _ _ found => found
  | cons file rest induction => exact retains_then (retains_write directory file) induction

end CommandLine

end ApiCompiler
