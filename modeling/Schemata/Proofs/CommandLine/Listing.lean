import Schemata.Proofs.CommandLine.Artifacts
import Schemata.Proofs.Text.Bytes

/-!
# The order in which directories are listed

File systems list the entries of a directory in any order. A `Listing` is such an order, and
`Listing.files` is the file tree as a run sees it under that order. The definition files of a
directory are sorted by their names before anything else is done with them, so all of a run is the
same under every order, by `listing_irrelevant`. The files of the directory that are compiled are
those with one of two extensions whose paths are not too long to be followed.
-/

namespace Schemata.CommandLine

/-! ## Extensions -/

/-- A name has an extension if it ends in a period and the extension, with something in front. -/
theorem Path.extension_eq_some_iff {name extension : String} (h : '.' ∉ extension.toList) :
    extension? name = some extension ↔ ∃ stem, stem ≠ "" ∧ name = stem ++ "." ++ extension := by
  constructor
  · intro hsome
    have hsplit := List.takeWhile_append_dropWhile (p := (· != '.')) (l := name.toList.reverse)
    have hstop := List.head?_dropWhile_not (· != '.') name.toList.reverse
    rw [extension?] at hsome
    match hdrop : name.toList.reverse.dropWhile (· != '.'), hsome with
    | c :: d :: rest, hsome =>
        rw [hdrop] at hsplit hstop
        obtain rfl : c = '.' := by simpa using hstop
        have htake := congrArg String.toList (Option.some.inj hsome)
        rw [String.toList_ofList] at htake
        refine ⟨String.ofList (d :: rest).reverse, by simp, ?_⟩
        rw [← String.toList_inj, ← List.reverse_inj, ← hsplit]
        simp [← htake]
  · rintro ⟨stem, hstem, rfl⟩
    have hall : ∀ c ∈ extension.toList.reverse, (c != '.') = true := by
      intro c hc
      rw [bne_iff_ne]
      rintro rfl
      exact h (List.mem_reverse.1 hc)
    obtain ⟨c, rest, hcons⟩ := List.exists_cons_of_ne_nil
      (show stem.toList.reverse ≠ [] by simpa using hstem)
    simp [extension?, hcons, List.dropWhile_append_of_pos hall,
      List.takeWhile_append_of_pos hall]

/-- The name is that of a definition file. -/
def IsDefinitionName (name : String) : Prop :=
  ∃ stem, stem ≠ "" ∧ (name = stem ++ ".tdl" ∨ name = stem ++ ".ele")

/-- The definition files of a directory are the files with one of two extensions. -/
theorem is_definition_iff {entry : Entry} :
    isDefinition entry = true ↔ entry.isFile = true ∧ IsDefinitionName entry.name := by
  simp only [isDefinition, Bool.and_eq_true, Bool.or_eq_true, beq_iff_eq, IsDefinitionName]
  rw [Path.extension_eq_some_iff (by decide), Path.extension_eq_some_iff (by decide), ← exists_or]
  refine and_congr_right fun _ => exists_congr fun stem => ?_
  rw [String.append_assoc, String.append_assoc, ← and_or_left]
  rfl

/-! ## Sorting names -/

/-- The names of the definition files among the entries of a directory, in order. -/
def definitionNames (entries : List Entry) : List String :=
  ((entries.filter isDefinition).map (·.name)).mergeSort fun left right => decide (left ≤ right)

/-- The paths of definition files are those of their names. -/
theorem definition_files_eq (directory : String) (entries : List Entry) :
    definitionFiles directory entries = (definitionNames entries).map (Path.join directory) :=
  rfl

/-- Names are sorted. -/
theorem definition_names_sorted (entries : List Entry) :
    (definitionNames entries).Pairwise (· ≤ ·) := by
  refine (List.pairwise_mergeSort (fun a b c hab hbc => ?_) (fun a b => ?_) _).imp ?_
  · rw [decide_eq_true_eq] at hab hbc ⊢
    exact String.le_trans hab hbc
  · rw [Bool.or_eq_true, decide_eq_true_eq, decide_eq_true_eq]
    exact String.le_total a b
  · exact of_decide_eq_true

/-- The names are those of the definition files. -/
theorem mem_definition_names_iff {entries : List Entry} {name : String} :
    name ∈ definitionNames entries ↔
      ∃ entry ∈ entries, isDefinition entry = true ∧ entry.name = name := by
  rw [definitionNames, List.mem_mergeSort, List.mem_map]
  simp only [List.mem_filter, and_assoc]

/-- The names do not depend on the order of the entries. -/
theorem definition_names_perm {left right : List Entry} (h : left.Perm right) :
    definitionNames left = definitionNames right := by
  have hnames := (h.filter isDefinition).map (·.name)
  have hperm : (definitionNames left).Perm (definitionNames right) :=
    (List.mergeSort_perm _ _).trans (hnames.trans (List.mergeSort_perm _ _).symm)
  refine List.Perm.eq_of_pairwise (fun a b _ _ hab hba => ?_) (definition_names_sorted left)
    (definition_names_sorted right) hperm
  exact String.le_antisymm hab hba

/-- Names of different entries increase in the order of their bytes. -/
theorem definition_names_increase {entries : List Entry} (h : (entries.map (·.name)).Nodup) :
    (definitionNames entries).Pairwise fun left right => Text.bytes left < Text.bytes right := by
  have hdistinct : (definitionNames entries).Nodup := by
    rw [definitionNames, (List.mergeSort_perm _ _).nodup_iff]
    exact h.sublist (List.filter_sublist.map _)
  refine ((definition_names_sorted entries).and hdistinct).imp fun ⟨hle, hne⟩ => ?_
  refine Text.bytes_lt (Decidable.byContradiction fun hlt => hne ?_)
  exact String.le_antisymm hle (String.not_lt.1 hlt)

/-! ## Paths of entries -/

namespace Path

variable {name : String}

/-- The path of a name in a directory is that of the directory with the name behind it. -/
theorem join_cases (directory : String) (h : '/' ∉ name.toList) :
    join directory name = directory ++ name ∨ join directory name = directory ++ "/" ++ name := by
  rw [join, is_absolute_eq_false h, if_neg Bool.false_ne_true]
  split
  · exact .inl rfl
  · exact .inr rfl

/-- The path of a name in a directory is not shorter than both together. -/
theorem size_le_size_join (directory : String) (h : '/' ∉ name.toList) :
    directory.utf8ByteSize + name.utf8ByteSize ≤ (join directory name).utf8ByteSize := by
  rcases join_cases directory h with hjoin | hjoin
  · rw [hjoin, String.utf8ByteSize_append]
  · rw [hjoin, String.utf8ByteSize_append, String.utf8ByteSize_append]
    omega

/-- The path of an entry of a directory is not empty. -/
theorem IsEntry.join_ne_empty (h : IsEntry name) (directory : String) :
    join directory name ≠ "" := by
  have hname : name ≠ "" := by
    rintro rfl
    exact absurd h.idle (by decide)
  rcases join_cases directory h.slash with hjoin | hjoin
  · rw [hjoin]
    simp [hname]
  · rw [hjoin]
    simp

/-- The name can be that of a file or a directory: it is the name of an entry, it holds no zero
character, and it is not too long. -/
structure IsStored (name : String) : Prop extends IsEntry name where
  nul : Char.ofNat 0 ∉ name.toList
  size : name.utf8ByteSize ≤ maxNameSize

instance (name : String) : Decidable (IsStored name) :=
  decidable_of_iff
    (('/' ∉ name.toList ∧ isIdle name = false ∧ name ≠ "..") ∧
      Char.ofNat 0 ∉ name.toList ∧ name.utf8ByteSize ≤ maxNameSize)
    ⟨fun ⟨⟨slash, idle, up⟩, nul, size⟩ => ⟨⟨slash, idle, up⟩, nul, size⟩,
      fun ⟨⟨slash, idle, up⟩, nul, size⟩ => ⟨⟨slash, idle, up⟩, nul, size⟩⟩

end Path

/-- A path can be followed if it is not empty, not too long, and holds no zero character. -/
theorem path_fault_eq_none_iff {path : String} :
    pathFault? path = none ↔
      path ≠ "" ∧ Char.ofNat 0 ∉ path.toList ∧ path.utf8ByteSize ≤ maxPathSize := by
  unfold pathFault?
  split
  · next hempty =>
      rw [String.isEmpty_iff] at hempty
      simp [hempty]
  · next hempty =>
      rw [String.isEmpty_iff] at hempty
      split
      · next hnul =>
          rw [List.contains_iff_mem] at hnul
          simp [hnul]
      · next hnul =>
          rw [List.contains_iff_mem] at hnul
          split <;> simp [hempty, hnul] <;> omega

namespace FileTree

variable {tree : FileTree} {place : Place} {path name : String}

/-- An empty name leads nowhere else. -/
theorem follow_empty {found : Place} (h : tree.follow place [""] = .ok found) : found = place := by
  unfold follow at h
  split at h
  · cases h
  · cases h
  · split at h
    · cases h
    · exact (Except.ok.inj h).symm

/-- The name of an entry leads from a directory to the place below it. -/
theorem follow_entry (hname : Path.IsStored name) (hnode : tree.node? place = some .directory) :
    tree.follow place [name] = .ok (place ++ [name]) := by
  rw [follow, hnode]
  simp [Nat.not_lt.2 hname.size, hname.idle, hname.up, follow]

/-- The path of an entry of a directory leads to the place below it, unless it is too long. -/
theorem locate_join (hname : Path.IsStored name) (hlocate : tree.locate path = .ok place)
    (hnode : tree.node? place = some .directory)
    (hsize : (Path.join path name).utf8ByteSize ≤ maxPathSize) :
    tree.locate (Path.join path name) = .ok (place ++ [name]) := by
  obtain ⟨above, hpath, hjoin⟩ := Path.names_join path
  obtain ⟨hnames, habsolute⟩ := hjoin name hname.slash
  unfold locate reach at hlocate ⊢
  split at hlocate
  · cases hlocate
  · next hfault =>
      have hnul : Char.ofNat 0 ∉ (Path.join path name).toList := by
        have hpath := (path_fault_eq_none_iff.1 hfault).2.1
        rcases Path.join_cases path hname.slash with hjoin | hjoin
        · simp [hjoin, hpath, hname.nul]
        · simp [hjoin, hpath, hname.nul]
      have habove : tree.follow (tree.origin path) above = .ok place := by
        rcases hpath with hpath | hpath
        · rw [← hpath]
          exact hlocate
        · rw [hpath, follow_append, bind_eq_ok_iff] at hlocate
          obtain ⟨middle, hmiddle, hempty⟩ := hlocate
          rw [follow_empty hempty]
          exact hmiddle
      have horigin : tree.origin (Path.join path name) = tree.origin path := by
        rw [origin, origin, habsolute]
      rw [path_fault_eq_none_iff.2 ⟨hname.join_ne_empty path, hnul, hsize⟩, hnames, horigin,
        follow_append, habove]
      exact follow_entry hname hnode

/-- A file is found at a place if the place has a content. -/
theorem node_eq_file_iff {content : ByteArray} :
    tree.node? place = some (.file content) ↔ tree.content? place = some content := by
  unfold node?
  split
  · next found hfound => simp [hfound]
  · next hnone =>
      split <;> simp [hnone]

/-- An entry of a directory is seen as a file if it is one, unless its path is too long. -/
theorem is_file_join_iff (hname : Path.IsStored name) (hlocate : tree.locate path = .ok place)
    (hnode : tree.node? place = some .directory) :
    tree.isFile (Path.join path name) = true ↔
      (∃ content, tree.node? (place ++ [name]) = some (.file content)) ∧
        (Path.join path name).utf8ByteSize ≤ maxPathSize := by
  by_cases hsize : (Path.join path name).utf8ByteSize ≤ maxPathSize
  · rw [isFile, lookup, locate_join hname hlocate hnode hsize]
    simp only [hsize, and_true, bind, Except.bind]
    cases tree.node? (place ++ [name]) with
    | none => simp
    | some node => cases node <;> simp [pure, Except.pure]
  · have hfault : ∃ fault, pathFault? (Path.join path name) = some fault := by
      rw [← Option.ne_none_iff_exists', ne_eq, path_fault_eq_none_iff]
      exact fun h => hsize h.2.2
    obtain ⟨fault, hfault⟩ := hfault
    simp [isFile, lookup, locate, reach, hfault, hsize, bind, Except.bind]

/-- All places of a tree. -/
def places (tree : FileTree) : List Place :=
  tree.files.map (·.1) ++ tree.directories

/-- The tree is that of a file system: no place is taken twice, and all names can be stored. -/
structure Proper (tree : FileTree) : Prop where
  distinct : tree.places.Nodup
  stored : ∀ place ∈ tree.places, ∀ name ∈ place, Path.IsStored name

instance (tree : FileTree) : Decidable tree.Proper :=
  decidable_of_iff (tree.places.Nodup ∧ ∀ place ∈ tree.places, ∀ name ∈ place, Path.IsStored name)
    ⟨fun ⟨distinct, stored⟩ => ⟨distinct, stored⟩, fun ⟨distinct, stored⟩ => ⟨distinct, stored⟩⟩

/-- The places right below another one are those with one more name. -/
theorem name_below_eq_some_iff {other : Place} :
    nameBelow? place other = some name ↔ other = place ++ [name] := by
  unfold nameBelow?
  rcases List.eq_nil_or_concat other with rfl | ⟨parent, last, rfl⟩
  · simp
  · simp [and_comm]

/-- The entries of a directory have different names, and they are what the tree holds below it. -/
theorem entries_of_directory (hproper : tree.Proper) (hlocate : tree.locate path = .ok place)
    (hnode : tree.node? place = some .directory) :
    ∃ entries, tree.entries path = .ok entries ∧ (entries.map (·.name)).Nodup ∧
      ∀ entry, entry ∈ entries ↔
        place ++ [entry.name] ∈ tree.places ∧
          entry.isFile = tree.isFile (Path.join path entry.name) := by
  refine ⟨(tree.places.filterMap (nameBelow? place)).map fun name =>
    ⟨name, tree.isFile (Path.join path name)⟩, ?_, ?_, ?_⟩
  · rw [entries, hlocate]
    simp only [bind, Except.bind, hnode]
    rfl
  · rw [List.map_map]
    refine List.Nodup.map (fun left right h => h) (hproper.distinct.filterMap ?_)
    intro left right name hleft hright
    rw [Option.mem_def, name_below_eq_some_iff] at hleft hright
    rw [hleft, hright]
  · intro entry
    simp only [List.mem_map, List.mem_filterMap, name_below_eq_some_iff, exists_eq_right]
    constructor
    · rintro ⟨name, hname, rfl⟩
      exact ⟨hname, rfl⟩
    · rintro ⟨hname, hfile⟩
      exact ⟨entry.name, hname, by rw [← hfile]⟩

/-- The definition files of a directory are the files right below it whose names have one of the two
extensions and whose paths are not too long. -/
theorem mem_definition_names_of_directory (hproper : tree.Proper)
    (hlocate : tree.locate path = .ok place) (hnode : tree.node? place = some .directory)
    {entries : List Entry} (hentries : ∀ entry, entry ∈ entries ↔
      place ++ [entry.name] ∈ tree.places ∧
        entry.isFile = tree.isFile (Path.join path entry.name)) :
    name ∈ definitionNames entries ↔
      (∃ content, tree.node? (place ++ [name]) = some (.file content)) ∧ IsDefinitionName name ∧
        (Path.join path name).utf8ByteSize ≤ maxPathSize := by
  rw [mem_definition_names_iff]
  constructor
  · rintro ⟨entry, hentry, hdefinition, rfl⟩
    obtain ⟨hplace, hfile⟩ := (hentries entry).1 hentry
    obtain ⟨his, hname⟩ := is_definition_iff.1 hdefinition
    have hstored := hproper.stored _ hplace entry.name (by simp)
    rw [hfile, is_file_join_iff hstored hlocate hnode] at his
    exact ⟨his.1, hname, his.2⟩
  · rintro ⟨⟨content, hcontent⟩, hname, hsize⟩
    have hplace : place ++ [name] ∈ tree.places := by
      rw [node_eq_file_iff, content?, Option.map_eq_some_iff] at hcontent
      obtain ⟨file, hfile, -⟩ := hcontent
      refine List.mem_append_left _ (List.mem_map.2 ⟨file, List.mem_of_find?_eq_some hfile, ?_⟩)
      simpa using List.find?_some hfile
    have hstored := hproper.stored _ hplace name (by simp)
    have hfile := (is_file_join_iff hstored hlocate hnode).2 ⟨⟨content, hcontent⟩, hsize⟩
    exact ⟨⟨name, true⟩, (hentries _).2 ⟨hplace, hfile.symm⟩, is_definition_iff.2 ⟨rfl, hname⟩, rfl⟩

end FileTree

/-! ## Runs under an order -/

/-- An operation on files whose failure is worded. -/
theorem perform_attempt {α : Type} (failure : FileFault → Failure)
    (operation : Session (Except FileFault α)) (start : World) :
    perform (attempt failure operation) start =
      match operation.run start with
      | (.ok result, final) => (.ok result, final)
      | (.error fault, final) => (.error (failure fault), final) := by
  have hlift : perform (ExceptT.lift operation) start =
      (.ok (operation.run start).1, (operation.run start).2) := rfl
  show perform (ExceptT.lift operation >>= _) start = _
  rw [perform_bind, hlift]
  rcases operation.run start with ⟨fault | result, final⟩
  · rfl
  · rfl

/-- An order in which directories are listed. It may depend on the directory and on everything that
was done before. -/
structure Listing where
  arrange : World → String → List Entry → List Entry
  perm : ∀ world path entries, (arrange world path entries).Perm entries

namespace Listing

/-- The operations of a run on a file tree whose directories are listed in the given order. -/
@[reducible]
def files (listing : Listing) : Files Session :=
  { (inferInstance : Files Session) with
    entries := fun path world =>
      ((world.tree.entries path).map (listing.arrange world path), world) }

/-- The definition files of an input, for every order. -/
theorem perform_input_files (listing : Listing) (input : String) (start : World) :
    perform (@inputFiles Session _ listing.files input) start =
      (if start.tree.isDirectory input then
        match start.tree.entries input with
        | .ok entries => .ok ((definitionNames entries).map (Path.join input))
        | .error fault => .error (.read input fault)
      else
        .ok [input], start) := by
  unfold inputFiles
  rw [perform_bind]
  show perform (if start.tree.isDirectory input then _ else _) start = _
  split
  · rw [map_eq_pure_bind, perform_bind, perform_attempt]
    have hlisted : (listing.files.entries input).run start =
        ((start.tree.entries input).map (listing.arrange start input), start) := rfl
    rw [hlisted]
    cases start.tree.entries input with
    | error fault => rfl
    | ok entries =>
        show (Except.ok (definitionFiles input (listing.arrange start input entries)), start) = _
        rw [definition_files_eq, definition_names_perm (listing.perm start input entries)]
  · rfl

/-- The definition files of an input are the same for all orders. -/
theorem input_files_eq (first second : Listing) (input : String) :
    @inputFiles Session _ first.files input = @inputFiles Session _ second.files input := by
  refine funext fun start => ?_
  exact (first.perform_input_files input start).trans (second.perform_input_files input start).symm

/-- Making directories is the same for all orders. -/
theorem make_directories_eq (first second : Listing) (path : String) :
    @makeDirectories Session _ first.files path = @makeDirectories Session _ second.files path := by
  have hdirectory : @ensureDirectory Session _ first.files =
      @ensureDirectory Session _ second.files := rfl
  have hbelow (above : List String) : @ensureBelow Session _ first.files path above =
      @ensureBelow Session _ second.files path above := by
    induction above generalizing path with
    | nil =>
        unfold ensureBelow
        rw [hdirectory]
    | cons parent above ih =>
        unfold ensureBelow
        rw [hdirectory, ih]
  unfold makeDirectories
  rw [hbelow]

/-- All of a run is the same for all orders. -/
theorem run_with_eq (first second : Listing) (reader : SettingsReader) (request : Request) :
    @runWith Session _ first.files reader request =
      @runWith Session _ second.files reader request := by
  have hload : @loadSettings Session _ first.files = @loadSettings Session _ second.files := rfl
  have hread : first.files.readText = second.files.readText := rfl
  have hgenerate : @generateBundles Session _ first.files =
      @generateBundles Session _ second.files := rfl
  have hwrite : @writeArtifact Session _ first.files = @writeArtifact Session _ second.files := rfl
  have hreport : @report Session _ first.files = @report Session _ second.files := rfl
  unfold runWith
  rw [input_files_eq first second, make_directories_eq first second, hload, hread, hgenerate,
    hwrite, hreport]

/-- The definition files of a directory, for every order: their names increase, and they are the
names of the files right below the directory that have one of the two extensions and whose paths are
not too long. -/
theorem input_files_of_directory (listing : Listing) {input : String} {start : World}
    {place : Place} (hproper : start.tree.Proper) (hlocate : start.tree.locate input = .ok place)
    (hnode : start.tree.node? place = some .directory) :
    ∃ names : List String, perform (@inputFiles Session _ listing.files input) start =
        (.ok (names.map (Path.join input)), start) ∧
      names.Pairwise (fun left right => Text.bytes left < Text.bytes right) ∧
      ∀ name, name ∈ names ↔
        (∃ content, start.tree.node? (place ++ [name]) = some (.file content)) ∧
          IsDefinitionName name ∧ (Path.join input name).utf8ByteSize ≤ maxPathSize := by
  obtain ⟨entries, hentries, hdistinct, hmem⟩ :=
    FileTree.entries_of_directory hproper hlocate hnode
  have hdirectory : start.tree.isDirectory input = true := by
    simp [FileTree.isDirectory, FileTree.lookup, hlocate, hnode, bind, Except.bind, pure,
      Except.pure]
  refine ⟨definitionNames entries, ?_, definition_names_increase hdistinct, fun name => ?_⟩
  · rw [perform_input_files, hentries, if_pos hdirectory]
  · exact FileTree.mem_definition_names_of_directory hproper hlocate hnode hmem

end Listing

/-- The order in which directories are listed makes no difference. For any two orders the definition
files of an input are the same, and so is all of a run, however it reads its settings: its result or
its failure, the files that it writes and the events that it reports. The definition files of a
directory are the files right below it whose extension is `tdl` or `ele`, as far as their paths are
not too long to be followed, in the order of the bytes of their names. -/
theorem listing_irrelevant (first second : Listing) (start : World) :
    (∀ input, perform (@inputFiles Session _ first.files input) start =
      perform (@inputFiles Session _ second.files input) start) ∧
    (∀ input place, start.tree.Proper → start.tree.locate input = .ok place →
      start.tree.node? place = some .directory →
      ∃ names : List String, perform (@inputFiles Session _ first.files input) start =
          (.ok (names.map (Path.join input)), start) ∧
        names.Pairwise (fun left right => Text.bytes left < Text.bytes right) ∧
        ∀ name, name ∈ names ↔
          (∃ content, start.tree.node? (place ++ [name]) = some (.file content)) ∧
            IsDefinitionName name ∧ (Path.join input name).utf8ByteSize ≤ maxPathSize) ∧
    ∀ reader request, perform (@runWith Session _ first.files reader request) start =
      perform (@runWith Session _ second.files reader request) start := by
  refine ⟨fun input => ?_, fun input place hproper hlocate hnode => ?_, fun reader request => ?_⟩
  · rw [first.input_files_eq second]
  · exact first.input_files_of_directory hproper hlocate hnode
  · rw [first.run_with_eq second]

/-- The order in which the tree stores its entries. -/
def storedOrder : Listing :=
  ⟨fun _ _ entries => entries, fun _ _ entries => .refl entries⟩

/-- The order against the one in which the tree stores its entries. -/
def reversedOrder : Listing :=
  ⟨fun _ _ entries => entries.reverse, fun _ _ entries => entries.reverse_perm⟩

/-- A directory with two definition files, another file, and a directory whose name ends like that
of a definition file. -/
def mixedWorld : World :=
  { tree :=
      { directories := [["in"], ["in", "nested.tdl"]]
        files := [(["in", "b.ele"], "u \x7b id int pk \x7d".toUTF8),
          (["in", "notes.txt"], "".toUTF8),
          (["in", "a.tdl"], "t \x7b id int pk \x7d".toUTF8)] } }

/-- The definition files of a directory are listed in order, and nothing else is listed. -/
theorem mixed_directory_listed :
    ∃ names : List String,
      perform (@inputFiles Session _ reversedOrder.files "in") mixedWorld =
        (.ok (names.map (Path.join "in")), mixedWorld) ∧
      names.Pairwise (fun left right => Text.bytes left < Text.bytes right) ∧
      "a.tdl" ∈ names ∧ "b.ele" ∈ names ∧ "notes.txt" ∉ names ∧ "nested.tdl" ∉ names := by
  obtain ⟨-, hlisted, -⟩ := listing_irrelevant reversedOrder storedOrder mixedWorld
  obtain ⟨names, hresult, hincrease, hmem⟩ :=
    hlisted "in" ["in"] (by decide +kernel) (by decide +kernel) rfl
  refine ⟨names, hresult, hincrease, ?_, ?_, ?_, ?_⟩
  · exact (hmem _).2 ⟨⟨_, rfl⟩, ⟨"a", by decide, .inl rfl⟩, by decide +kernel⟩
  · exact (hmem _).2 ⟨⟨_, rfl⟩, ⟨"b", by decide, .inr rfl⟩, by decide +kernel⟩
  · intro h
    obtain ⟨-, hname, -⟩ := (hmem _).1 h
    have hdefinition : isDefinition ⟨"notes.txt", true⟩ = true :=
      is_definition_iff.2 ⟨rfl, hname⟩
    exact absurd hdefinition (by decide +kernel)
  · intro h
    obtain ⟨⟨content, hcontent⟩, -⟩ := (hmem _).1 h
    cases hcontent

/-! ## Paths that are too long -/

/-- A path with names in front that lead from the working directory to itself. -/
def Path.idled : Nat → String → String
  | 0, path => path
  | n + 1, path => "./" ++ idled n path

namespace Path

variable (n : Nat) (path : String)

/-- The names in front are all of one kind. -/
theorem names_idled : names (idled n path) = List.replicate n "." ++ names path := by
  induction n with
  | zero => rfl
  | succ n ih =>
      have hlist : (idled (n + 1) path).toList = ['.'] ++ '/' :: (idled n path).toList := by
        simp [idled]
      rw [names, hlist, List.splitOn_append_cons_self_of_not_mem (by decide), List.map_cons,
        ← names, ih, List.replicate_succ, List.cons_append]

/-- Each name in front takes two bytes. -/
theorem size_idled : (idled n path).utf8ByteSize = 2 * n + path.utf8ByteSize := by
  induction n with
  | zero => simp [idled]
  | succ n ih =>
      rw [idled, String.utf8ByteSize_append, ih]
      have hsize : "./".utf8ByteSize = 2 := rfl
      omega

/-- The names in front hold no zero character. -/
theorem nul_idled (h : Char.ofNat 0 ∉ path.toList) : Char.ofNat 0 ∉ (idled n path).toList := by
  induction n with
  | zero => exact h
  | succ n ih => simpa [idled] using ih

end Path

/-- The names in front make no difference to where a path leads from the working directory. -/
theorem FileTree.locate_idled {tree : FileTree} {n : Nat} {path : String}
    (hworking : tree.node? tree.working = some .directory) (hnul : Char.ofNat 0 ∉ path.toList)
    (hsize : 2 * (n + 1) + path.utf8ByteSize ≤ maxPathSize) :
    tree.locate (Path.idled (n + 1) path) = tree.follow tree.working (Path.names path) := by
  have hfault : pathFault? (Path.idled (n + 1) path) = none := by
    rw [path_fault_eq_none_iff, Path.size_idled]
    refine ⟨?_, Path.nul_idled (n + 1) path hnul, hsize⟩
    rw [Path.idled]
    simp
  have horigin : tree.origin (Path.idled (n + 1) path) = tree.working := by
    refine if_neg fun habsolute => ?_
    rw [Path.is_absolute_iff] at habsolute
    simp [Path.idled] at habsolute
  have hfollow (n : Nat) : tree.follow tree.working (List.replicate n "." ++ Path.names path) =
      tree.follow tree.working (Path.names path) := by
    induction n with
    | zero => rfl
    | succ n ih =>
        rw [List.replicate_succ, List.cons_append, follow, hworking]
        exact ih
  rw [locate, reach, hfault, Path.names_idled, horigin]
  exact hfollow (n + 1)

/-- A directory with a definition file of a short and one of a longer name. -/
def deepWorld : World :=
  { tree :=
      { directories := [["d"]]
        files := [(["d", "a.tdl"], "t \x7b id int pk \x7d".toUTF8),
          (["d", "longer.tdl"], "u \x7b id int pk \x7d".toUTF8)] } }

/-- A path to the directory that leaves no room for the longer name. -/
def deepPath : String :=
  Path.idled 2043 "d"

/-- The definition files of a directory are not all of its files with the two extensions: a file
whose path is too long is not listed. -/
theorem deep_directory_unlisted :
    deepWorld.tree.Proper ∧ deepWorld.tree.locate deepPath = .ok ["d"] ∧
      deepWorld.tree.node? ["d"] = some .directory ∧
      ¬ ∃ names : List String,
        perform (@inputFiles Session _ storedOrder.files deepPath) deepWorld =
          (.ok (names.map (Path.join deepPath)), deepWorld) ∧
        names.Pairwise (fun left right => Text.bytes left < Text.bytes right) ∧
        ∀ name, name ∈ names ↔
          (∃ content, deepWorld.tree.node? (["d"] ++ [name]) = some (.file content)) ∧
            IsDefinitionName name := by
  have hproper : deepWorld.tree.Proper := by decide +kernel
  have hlocate : deepWorld.tree.locate deepPath = .ok ["d"] :=
    (FileTree.locate_idled rfl (by decide) (by decide +kernel)).trans (by decide +kernel)
  refine ⟨hproper, hlocate, rfl, ?_⟩
  rintro ⟨names, hresult, -, hmem⟩
  obtain ⟨found, hfound, -, hshort⟩ := storedOrder.input_files_of_directory hproper hlocate rfl
  have hlonger : "longer.tdl" ∈ names :=
    (hmem _).2 ⟨⟨_, rfl⟩, "longer", by decide, .inl rfl⟩
  have hsame : names.map (Path.join deepPath) = found.map (Path.join deepPath) :=
    Except.ok.inj (congrArg Prod.fst (hresult.symm.trans hfound))
  have hpath : Path.join deepPath "longer.tdl" ∈ found.map (Path.join deepPath) :=
    hsame ▸ List.mem_map_of_mem hlonger
  obtain ⟨name, hname, hjoin⟩ := List.mem_map.1 hpath
  have hsize := ((hshort name).1 hname).2.2
  rw [hjoin] at hsize
  have hlong := Path.size_le_size_join deepPath (show '/' ∉ "longer.tdl".toList by decide)
  rw [deepPath, Path.size_idled] at hlong
  exact absurd (hlong.trans hsize) (by decide +kernel)

end Schemata.CommandLine
