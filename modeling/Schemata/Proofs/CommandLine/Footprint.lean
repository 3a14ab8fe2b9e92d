import Mathlib.Order.Defs.Unbundled
import Schemata.Proofs.CommandLine.Artifacts

/-!
# What a run touches

A run reads and generates everything before it makes a directory or writes a file. `Obeys` says of a
program what every run of it does to the file tree, whether it succeeds or fails, and with which
failures it ends; it is put together along the program. By `run_footprint` a run that cannot compile
its input leaves the tree exactly as it was, and every other run changes at most the files of its
bundles, each of which it writes as a whole, and makes at most the output directory and those above
it.
-/

namespace Schemata.CommandLine

variable {α β : Type} {relation : FileTree → FileTree → Prop} {failures : Failure → Prop}

/-! ## Programs and the tree they leave behind -/

/-- `Obeys relation failures program` says that every run of the program leaves a tree behind that
stands in the relation to the one it found, and that it fails with the given failures only. -/
def Obeys (relation : FileTree → FileTree → Prop) (failures : Failure → Prop)
    (program : ExceptT Failure Session α) : Prop :=
  ∀ start, relation start.tree (perform program start).2.tree ∧
    ∀ failure, (perform program start).1 = .error failure → failures failure

/-- Every run of the operation leaves a tree behind that stands in the relation to the one it
found. -/
def Leaves (relation : FileTree → FileTree → Prop) (operation : Session α) : Prop :=
  ∀ start, relation start.tree (operation.run start).2.tree

namespace Leaves

/-- An operation that goes on with the result of another one. -/
theorem bind [IsTrans FileTree relation] {operation : Session α} {next : α → Session β}
    (h : Leaves relation operation) (hnext : ∀ a, Leaves relation (next a)) :
    Leaves relation (operation >>= next) := by
  intro start
  exact trans_of relation (h start) (hnext (operation.run start).1 (operation.run start).2)

/-- A result by itself. -/
theorem pure [Std.Refl relation] (a : α) : Leaves relation (pure a : Session α) :=
  fun start => refl_of relation start.tree

/-- An operation that changes the tree unless the change fails. -/
theorem change [Std.Refl relation] {update : FileTree → Except FileFault FileTree}
    (h : ∀ tree final, update tree = .ok final → relation tree final) :
    Leaves relation (Session.change update) := by
  intro start
  show relation start.tree (Session.change update start).2.tree
  unfold Session.change
  split
  · next tree htree => exact h start.tree tree htree
  · exact refl_of relation start.tree

end Leaves

namespace Obeys

/-- A program that goes on with the result of another one. -/
theorem bind [IsTrans FileTree relation] {program : ExceptT Failure Session α}
    {next : α → ExceptT Failure Session β} (h : Obeys relation failures program)
    (hnext : ∀ a, Obeys relation failures (next a)) :
    Obeys relation failures (program >>= next) := by
  intro start
  have hfirst := h start
  rw [perform_bind]
  generalize perform program start = ended at hfirst
  obtain ⟨cause | a, middle⟩ := ended
  · refine ⟨hfirst.1, fun failure hfailure => hfirst.2 failure ?_⟩
    cases hfailure
    rfl
  · obtain ⟨hrelation, hfails⟩ := hnext a middle
    exact ⟨trans_of relation hfirst.1 hrelation, hfails⟩

/-- A program that fails in fewer ways. -/
theorem mono {program : ExceptT Failure Session α} {more : Failure → Prop}
    (hmore : ∀ failure, failures failure → more failure) (h : Obeys relation failures program) :
    Obeys relation more program := fun start =>
  ⟨(h start).1, fun failure hfailure => hmore failure ((h start).2 failure hfailure)⟩

/-- A result by itself. -/
theorem pure [Std.Refl relation] (a : α) :
    Obeys relation failures (pure a : ExceptT Failure Session α) := fun start =>
  ⟨refl_of relation start.tree, fun _ hfailure => by cases hfailure⟩

/-- A failure by itself. -/
theorem throw [Std.Refl relation] {failure : Failure} (h : failures failure) :
    Obeys relation failures (throw failure : ExceptT Failure Session α) := fun start =>
  ⟨refl_of relation start.tree, fun _ hfailure => by cases hfailure; exact h⟩

/-- An operation that cannot fail. -/
theorem lift {operation : Session α} (h : Leaves relation operation) :
    Obeys relation failures (ExceptT.lift operation) := fun start =>
  ⟨h start, fun _ hfailure => by cases hfailure⟩

/-- An operation on files. -/
theorem attempt [IsPreorder FileTree relation] {operation : Session (Except FileFault α)}
    {failure : FileFault → Failure} (h : Leaves relation operation)
    (hfailure : ∀ fault, failures (failure fault)) :
    Obeys relation failures (attempt failure operation) := by
  refine bind (lift h) fun outcome => ?_
  cases outcome with
  | ok result => exact pure result
  | error fault => exact throw (hfailure fault)

/-- A report of an event. -/
theorem report [Std.Refl relation] (event : Event) :
    Obeys relation failures (report event) :=
  lift fun start => refl_of relation start.tree

/-- A program for each entry of a list, in order. -/
theorem for_m [IsPreorder FileTree relation] {program : α → ExceptT Failure Session Unit}
    {entries : List α} (h : ∀ entry ∈ entries, Obeys relation failures (program entry)) :
    Obeys relation failures (entries.forM program) := by
  induction entries with
  | nil => exact pure ()
  | cons entry entries ih =>
      rw [List.forall_mem_cons] at h
      exact bind h.1 fun _ => ih h.2

/-- A program for each entry of a list that collects the results. -/
theorem map_m [IsPreorder FileTree relation] {program : α → ExceptT Failure Session β}
    (h : ∀ entry, Obeys relation failures (program entry)) (entries : List α) :
    Obeys relation failures (entries.mapM program) := by
  induction entries with
  | nil => exact pure []
  | cons entry entries ih =>
      rw [List.mapM_cons]
      exact bind (h entry) fun _ => bind ih fun _ => pure _

end Obeys

/-! ## Before the first change -/

/-- The run failed before it changed anything: while it loaded its settings, listed or read its
definition files, or generated its bundles. -/
def Failure.isEarly : Failure → Bool
  | settings _ | readSettings .. | read .. | generate _ => true
  | create .. | write .. => false

section Early

variable (reader : SettingsReader) (request : Request)

/-- Loading the settings changes nothing. -/
theorem load_settings_obeys : Obeys Eq (·.isEarly = true) (loadSettings reader request) := by
  unfold loadSettings
  split
  · exact .pure _
  · refine .bind (.attempt (fun _ => rfl) fun _ => rfl) fun text => ?_
    split
    · exact .pure _
    · exact .throw rfl

/-- Listing the definition files changes nothing. -/
theorem input_files_obeys (input : String) : Obeys Eq (·.isEarly = true) (inputFiles input) := by
  refine .bind (.lift fun _ => rfl) fun isDirectory => ?_
  split
  · rw [map_eq_pure_bind]
    exact .bind (.attempt (fun _ => rfl) fun _ => rfl) fun _ => .pure _
  · exact .pure _

/-- Reading the definition files changes nothing. -/
theorem read_texts_obeys (files : List String) :
    Obeys Eq (·.isEarly = true)
      (files.mapM fun file => attempt (.read file) (Files.readText file)) := by
  refine .map_m (fun file => ?_) files
  exact .attempt (fun _ => rfl) fun _ => rfl

/-- Generating bundles changes nothing, and it fails only if the generator does. -/
theorem generate_bundles_obeys (settings : Settings) (texts : List String) :
    Obeys Eq (fun failure => ∃ error, failure = .generate error ∧
      generate settings texts = .error error) (generateBundles settings texts) := by
  refine .bind (.for_m fun event _ => .report event) fun _ => ?_
  split
  · exact .pure _
  · next error herror => exact .throw ⟨error, rfl, herror⟩

/-- Everything that comes before the first change changes nothing. -/
theorem compile_obeys : Obeys Eq (·.isEarly = true) (compile reader request) := by
  refine .bind (load_settings_obeys reader request) fun settings => ?_
  refine .bind (input_files_obeys request.input) fun files => ?_
  refine .bind (read_texts_obeys files) fun texts => ?_
  refine .bind (.mono ?_ (generate_bundles_obeys settings texts)) fun bundles => .pure _
  rintro failure ⟨error, rfl, -⟩
  rfl

end Early

/-! ## Making directories and writing files -/

/-- `Touches output files tree final` says what may have become of a tree: files hold the text of one
of the given files, as a whole and where its path leads, or what they held before; all directories
are still there, and only the output directory and those above it were made. -/
structure Touches (output : String) (files : List (String × String)) (tree final : FileTree) :
    Prop where
  working : final.working = tree.working
  changed : ∀ place, final.content? place ≠ tree.content? place →
    ∃ file ∈ files, final.locate file.1 = .ok place ∧ final.content? place = some file.2.toUTF8
  kept : ∀ place, tree.node? place = some .directory → final.node? place = some .directory
  made : ∀ place ∈ final.directories, place ∉ tree.directories →
    ∃ path ∈ output :: Path.above output, final.reach path (Path.namesToLast path) = .ok place

section Late

variable {output : String} {files : List (String × String)} {tree final : FileTree}

/-- A tree that stays as it is. -/
theorem Touches.refl (tree : FileTree) : Touches output files tree tree where
  working := rfl
  changed _ hne := absurd rfl hne
  kept _ h := h
  made _ hmem hnew := absurd hmem hnew

/-- One change after another. What was written first is still there, unless it was written over. -/
theorem Touches.trans {middle : FileTree} (h : Touches output files tree middle)
    (h' : Touches output files middle final) : Touches output files tree final where
  working := h'.working.trans h.working
  changed place hne := by
    by_cases hlater : final.content? place = middle.content? place
    · rw [hlater] at hne ⊢
      obtain ⟨file, hfile, hlocate, hcontent⟩ := h.changed place hne
      exact ⟨file, hfile, FileTree.reach_mono h'.working h'.kept hlocate, hcontent⟩
    · exact h'.changed place hlater
  kept place hdirectory := h'.kept place (h.kept place hdirectory)
  made place hmem hnew := by
    by_cases hmiddle : place ∈ middle.directories
    · obtain ⟨path, hpath, hreach⟩ := h.made place hmiddle hnew
      exact ⟨path, hpath, FileTree.reach_mono h'.working h'.kept hreach⟩
    · exact h'.made place hmem hmiddle

instance : IsPreorder FileTree (Touches output files) where
  refl := Touches.refl
  trans _ _ _ := Touches.trans

/-- Writing one of the files. -/
theorem Touches.write {file : String × String} (hfile : file ∈ files)
    (h : tree.writeFile file.1 file.2.toUTF8 = .ok final) : Touches output files tree final := by
  have hwritten := h
  obtain ⟨spot, hlocate, hspot, rfl⟩ := FileTree.write_file_eq_ok_iff.1 h
  refine ⟨FileTree.working_set_file .., fun place hne => ?_, fun place hdirectory => ?_, ?_⟩
  · have hplace : place = spot := by
      by_contra hother
      exact hne (FileTree.content_set_file_of_ne hother)
    subst hplace
    exact ⟨file, hfile, FileTree.locate_write_file hwritten hlocate,
      FileTree.content_set_file ..⟩
  · exact FileTree.directory_set_file hspot hdirectory
  · rw [FileTree.directories_set_file]
    exact fun place hmem hnew => absurd hmem hnew

/-- Making one of the directories that a run makes. -/
theorem Touches.make {path : String} (hpath : path ∈ output :: Path.above output)
    (h : tree.makeDirectory path = .ok final) : Touches output files tree final := by
  rw [FileTree.makeDirectory, bind_eq_ok_iff] at h
  obtain ⟨spot, hreach, h⟩ := h
  split at h
  · cases h
  · cases h
    have hkept (place : Place) (hdirectory : tree.node? place = some .directory) :
        ({ tree with directories := tree.directories ++ [spot] } : FileTree).node? place =
          some .directory := by
      unfold FileTree.node? at hdirectory ⊢
      split at hdirectory
      · cases hdirectory
      · next hnone =>
          have hcontent : ({ tree with directories := tree.directories ++ [spot] } :
              FileTree).content? place = none := hnone
          rw [hcontent]
          split at hdirectory
          · next hplace =>
              exact if_pos (hplace.imp_right (List.mem_append_left _))
          · cases hdirectory
    refine ⟨rfl, fun place hne => absurd rfl hne, hkept, fun place hmem hnew => ?_⟩
    have hspot : place = spot := by
      simpa [hnew] using hmem
    subst hspot
    refine ⟨path, hpath, FileTree.reach_mono ?_ hkept hreach⟩
    rfl

/-- Making a directory unless it is there. -/
theorem ensure_directory_leaves {path : String} (hpath : path ∈ output :: Path.above output) :
    Leaves (Touches output files) (ensureDirectory path : Session (Except FileFault Unit)) := by
  refine .bind (.change fun tree final h => .make hpath h) fun outcome => ?_
  cases outcome with
  | ok done => exact .pure _
  | error fault =>
      refine .bind (fun start => .refl start.tree) fun isDirectory => ?_
      split <;> exact .pure _

/-- Making a directory below others that are made before where they are missing. -/
theorem ensure_below_leaves {path : String} {above : List String}
    (hpaths : ∀ other ∈ path :: above, other ∈ output :: Path.above output) :
    Leaves (Touches output files) (ensureBelow path above : Session (Except FileFault Unit)) := by
  induction above generalizing path with
  | nil => exact ensure_directory_leaves (hpaths path List.mem_cons_self)
  | cons parent above ih =>
      rw [List.forall_mem_cons] at hpaths
      have hdirectory : Leaves (Touches output files)
          (ensureDirectory path : Session (Except FileFault Unit)) :=
        ensure_directory_leaves hpaths.1
      refine .bind hdirectory fun outcome => ?_
      split
      · refine .bind (ih hpaths.2) fun made => ?_
        split
        · exact hdirectory
        · exact .pure _
      · exact .pure _

/-- Making the output directory and those above it that are missing. -/
theorem make_directories_leaves :
    Leaves (Touches output files) (makeDirectories output : Session (Except FileFault Unit)) := by
  unfold makeDirectories
  split
  · exact .pure _
  · exact ensure_below_leaves fun _ h => h

/-- Writing the files makes no other changes. -/
theorem write_artifacts_obeys :
    Obeys (Touches output files) (·.isEarly = false) (files.forM writeArtifact) := by
  refine .for_m fun file hfile => ?_
  refine .bind (.attempt (.change fun tree final h => .write hfile h) fun _ => rfl) fun _ => ?_
  exact .report _

end Late

/-! ## Runs -/

section Runs

variable {reader : SettingsReader} {request : Request} {start : World} {settings : Settings}
  {files texts : List String}

/-- Making directories and writing files touches nothing else. -/
theorem emit_obeys (request : Request) (files : List String) (bundles : List Bundle) :
    Obeys (Touches request.output (artifacts request bundles)) (·.isEarly = false)
      (emit request files bundles) := by
  refine .bind (.attempt make_directories_leaves fun _ => rfl) fun _ => ?_
  exact .bind write_artifacts_obeys fun _ => .report _

/-- Reading files that can all be read succeeds. -/
theorem read_texts_ends
    (h : List.Forall₂ (fun file text => start.tree.readText file = .ok text) files texts) :
    Ends (files.mapM fun file => attempt (.read file) (Files.readText file)) start texts start := by
  induction h with
  | nil => exact ends_pure_iff.2 ⟨rfl, rfl⟩
  | @cons file text files texts htext _ ih =>
      have hfirst : Ends (attempt (.read file) (Files.readText file)) start text start := by
        refine ends_attempt_iff.2 ?_
        show (start.tree.readText file, start) = _
        rw [htext]
      rw [List.mapM_cons]
      simp only [ends_bind_iff]
      exact ⟨text, start, hfirst, texts, start, ih, ends_pure_iff.2 ⟨rfl, rfl⟩⟩

/-- What can be compiled is compiled by every run. -/
theorem Compiles.ends {bundles : List Bundle}
    (h : Compiles reader request start settings files texts bundles) :
    ∃ final, Ends (compile reader request) start (files, bundles) final := by
  obtain ⟨final, hgenerated⟩ : ∃ final,
      Ends (generateBundles settings texts) start bundles final := by
    cases hresult : (perform (generateBundles settings texts) start).1 with
    | error failure =>
        obtain ⟨error, -, herror⟩ := (generate_bundles_obeys settings texts start).2 failure hresult
        rw [h.generated] at herror
        cases herror
    | ok found =>
        have hends := ends_of_result hresult
        obtain rfl : bundles = found :=
          Except.ok.inj (h.generated.symm.trans (ends_generate_bundles hends).2)
        exact ⟨_, hends⟩
  refine ⟨final, ?_⟩
  simp only [compile, ends_bind_iff, ends_pure_iff]
  exact ⟨settings, start, h.loaded, files, start, h.listed, texts, start, read_texts_ends h.read,
    bundles, final, hgenerated, rfl, rfl⟩

/-- However a run reads its settings: if it cannot compile its input, because it fails while it
loads its settings, lists or reads its definition files or generates its bundles, it leaves every
file and directory as it was. Every other run changes no files but those of the bundles that were
generated, and whether it succeeds or fails, each file that it changed holds the whole text of one
of them. -/
theorem run_footprint (reader : SettingsReader) (request : Request) (start : World) :
    (∃ failure, (perform (runWith reader request) start).1 = .error failure ∧
      failure.isEarly = true ∧
      (∀ settings files texts bundles,
        ¬ Compiles reader request start settings files texts bundles) ∧
      (perform (runWith reader request) start).2.tree = start.tree) ∨
    ∃ settings files texts bundles, Compiles reader request start settings files texts bundles ∧
      (∀ failure, (perform (runWith reader request) start).1 = .error failure →
        failure.isEarly = false) ∧
      Touches request.output (artifacts request bundles) start.tree
        (perform (runWith reader request) start).2.tree := by
  obtain ⟨htree, hearly⟩ := compile_obeys reader request start
  rw [run_with_eq, perform_bind]
  cases hended : perform (compile reader request) start with
  | mk outcome middle =>
  rw [hended] at htree hearly
  cases outcome with
  | error failure =>
      refine .inl ⟨failure, rfl, hearly failure rfl, ?_, htree.symm⟩
      intro settings files texts bundles h
      obtain ⟨final, hends⟩ := h.ends
      cases hended.symm.trans hends
  | ok found =>
      obtain ⟨-, settings, texts, hcompiles⟩ := ends_compile hended
      obtain ⟨htouches, hlate⟩ := emit_obeys request found.1 found.2 middle
      rw [← show start.tree = middle.tree from htree] at htouches
      exact .inr ⟨settings, found.1, texts, found.2, hcompiles, hlate, htouches⟩

end Runs

end Schemata.CommandLine
