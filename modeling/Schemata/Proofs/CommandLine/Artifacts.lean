import Schemata.CommandLine.Run
import Schemata.Proofs.CommandLine.Writing
import Schemata.Proofs.Definition.Words
import Schemata.Proofs.Generation

/-!
# What is left of the files of a run

A run that succeeds wrote all files of all bundles, one after the other. The names of the files come
from the names of the classes, which need not differ where the tables do, and a file that is written
twice holds what was written last. `artifacts_kept_iff` says when nothing is lost that way: where
files of the same name have the same text.
-/

namespace Schemata.CommandLine

/-- What a program that starts in a world yields: its result or its failure, and the world that it
leaves behind. -/
def perform {α : Type} (program : ExceptT Failure Session α) (start : World) :
    Except Failure α × World :=
  program.run.run start

/-- `Ends program start result final` says that a program that starts in a world succeeds with a
result and leaves another world behind. -/
def Ends {α : Type} (program : ExceptT Failure Session α) (start : World) (result : α)
    (final : World) : Prop :=
  perform program start = (.ok result, final)

section Programs

variable {α β : Type} {start final : World}

/-- A program that yields a result leaves some world behind. -/
theorem ends_of_result {program : ExceptT Failure Session α} {result : α}
    (h : (perform program start).1 = .ok result) :
    Ends program start result (perform program start).2 :=
  Prod.ext h rfl

/-- A program that goes on with the result of another one starts where the other one ended, and it
is not carried out if the other one fails. -/
theorem perform_bind (program : ExceptT Failure Session α)
    (next : α → ExceptT Failure Session β) (start : World) :
    perform (program >>= next) start =
      match perform program start with
      | (.ok a, middle) => perform (next a) middle
      | (.error cause, middle) => (.error cause, middle) := by
  unfold perform
  rw [ExceptT.run_bind, StateT.run_bind]
  show (match program.run.run start with | (outcome, middle) => _) = _
  rcases program.run.run start with ⟨outcome, middle⟩
  cases outcome <;> rfl

/-- A program that goes on with the result of another one succeeds if both do. -/
theorem ends_bind_iff {program : ExceptT Failure Session α}
    {next : α → ExceptT Failure Session β} {result : β} :
    Ends (program >>= next) start result final ↔
      ∃ a middle, Ends program start a middle ∧ Ends (next a) middle result final := by
  unfold Ends
  rw [perform_bind]
  rcases perform program start with ⟨cause | a, middle⟩
  · constructor
    · rintro ⟨⟩
    · rintro ⟨_, _, ⟨⟩, -⟩
  · constructor
    · intro h
      exact ⟨a, middle, rfl, h⟩
    · rintro ⟨_, _, ⟨⟩, h⟩
      exact h

/-- A result by itself leaves the world as it is. -/
theorem ends_pure_iff {a result : α} :
    Ends (pure a) start result final ↔ a = result ∧ start = final := by
  show ((Except.ok a, start) : Except Failure α × World) = _ ↔ _
  simp

/-- An operation that cannot fail. -/
theorem ends_lift_iff {operation : Session α} {result : α} :
    Ends (ExceptT.lift operation) start result final ↔ operation.run start = (result, final) := by
  show (match operation.run start with
    | (a, middle) => ((.ok a, middle) : Except Failure α × World)) = _ ↔ _
  rcases operation.run start with ⟨a, middle⟩
  simp only [Prod.mk.injEq, Except.ok.injEq]
  exact Prod.mk.injEq .. ▸ Iff.rfl

/-- An operation on files that succeeds. -/
theorem ends_attempt_iff {failure : FileFault → Failure} {operation : Session (Except FileFault α)}
    {result : α} :
    Ends (attempt failure operation) start result final ↔
      operation.run start = (.ok result, final) := by
  show Ends (ExceptT.lift operation >>= _) start result final ↔ _
  rw [ends_bind_iff]
  simp only [ends_lift_iff]
  constructor
  · rintro ⟨outcome | a, middle, hrun, hend⟩
    · cases hend
    · cases hend
      exact hrun
  · intro hrun
    exact ⟨_, _, hrun, ends_pure_iff.2 ⟨rfl, rfl⟩⟩

/-- A program for each entry of a list, in order, that only looks at the world. -/
theorem ends_map_m {program : α → ExceptT Failure Session β} {relation : α → β → Prop}
    (hprogram : ∀ a b final, Ends (program a) start b final → final = start ∧ relation a b)
    {entries : List α} {results : List β} (h : Ends (entries.mapM program) start results final) :
    final = start ∧ List.Forall₂ relation entries results := by
  induction entries generalizing results final with
  | nil =>
      obtain ⟨rfl, rfl⟩ := ends_pure_iff.1 h
      exact ⟨rfl, .nil⟩
  | cons entry entries ih =>
      rw [List.mapM_cons] at h
      simp only [ends_bind_iff] at h
      obtain ⟨result, middle, hfirst, rest, last, hrest, hpure⟩ := h
      obtain ⟨rfl, rfl⟩ := ends_pure_iff.1 hpure
      obtain ⟨rfl, hrelation⟩ := hprogram entry result middle hfirst
      obtain ⟨rfl, hentries⟩ := ih hrest
      exact ⟨rfl, .cons hrelation hentries⟩

/-- Reporting an event does not touch the files. -/
theorem ends_report {event : Event} (h : Ends (report event) start () final) :
    final.tree = start.tree := by
  cases ends_lift_iff.1 h
  rfl

/-- Reporting events does not touch the files. -/
theorem ends_reports {events : List Event} (h : Ends (events.forM report) start () final) :
    final.tree = start.tree := by
  induction events generalizing start with
  | nil =>
      obtain ⟨-, rfl⟩ := ends_pure_iff.1 h
      rfl
  | cons event events ih =>
      rw [List.forM, ends_bind_iff] at h
      obtain ⟨_, middle, hreport, hrest⟩ := h
      rw [ih hrest]
      exact ends_report hreport

end Programs

/-! ## What a run reads and writes -/

section Runs

variable {reader : SettingsReader} {request : Request} {start final : World} {settings : Settings}

/-- Reading a text does not change the world. -/
theorem ends_read_text {failure : FileFault → Failure} {path text : String}
    (h : Ends (attempt failure (Files.readText path)) start text final) :
    final = start ∧ start.tree.readText path = .ok text := by
  rw [ends_attempt_iff] at h
  exact ⟨(congrArg Prod.snd h).symm, congrArg Prod.fst h⟩

/-- Reading the definition files does not change the world. -/
theorem ends_read_texts {files texts : List String}
    (h : Ends (files.mapM fun file => attempt (.read file) (Files.readText file)) start texts
      final) :
    final = start ∧
      List.Forall₂ (fun file text => start.tree.readText file = .ok text) files texts := by
  refine ends_map_m (fun file text world htext => ?_) h
  exact ends_read_text htext

/-- Loading the settings does not change the world. -/
theorem ends_load_settings (h : Ends (loadSettings reader request) start settings final) :
    final = start := by
  rw [loadSettings] at h
  split at h
  · simp only [ends_bind_iff, ends_pure_iff] at h
    obtain ⟨_, _, ⟨-, rfl⟩, -, rfl⟩ := h
    rfl
  · rw [ends_bind_iff] at h
    obtain ⟨text, middle, htext, hread⟩ := h
    obtain ⟨rfl, -⟩ := ends_read_text htext
    split at hread
    · simp only [ends_bind_iff, ends_pure_iff] at hread
      obtain ⟨_, _, ⟨-, rfl⟩, -, rfl⟩ := hread
      rfl
    · cases hread

/-- Listing the definition files does not change the world. -/
theorem ends_input_files {input : String} {files : List String}
    (h : Ends (inputFiles input) start files final) : final = start := by
  rw [inputFiles, ends_bind_iff] at h
  obtain ⟨isDirectory, middle, hlift, hfiles⟩ := h
  cases ends_lift_iff.1 hlift
  split at hfiles
  · rw [map_eq_pure_bind, ends_bind_iff] at hfiles
    obtain ⟨entries, world, hentries, hpure⟩ := hfiles
    obtain ⟨-, rfl⟩ := ends_pure_iff.1 hpure
    rw [ends_attempt_iff] at hentries
    exact (congrArg Prod.snd hentries).symm
  · exact (ends_pure_iff.1 hfiles).2.symm

/-- Generating bundles does not touch the files. -/
theorem ends_generate_bundles {texts : List String} {bundles : List Bundle}
    (h : Ends (generateBundles settings texts) start bundles final) :
    final.tree = start.tree ∧ generate settings texts = .ok bundles := by
  rw [generateBundles, ends_bind_iff] at h
  obtain ⟨_, middle, hreports, hbundles⟩ := h
  split at hbundles
  · next found hfound =>
      obtain ⟨rfl, rfl⟩ := ends_pure_iff.1 hbundles
      exact ⟨ends_reports hreports, hfound⟩
  · cases hbundles

/-- Writing a file sets it in the tree. -/
theorem ends_write_artifact {file : String × String}
    (h : Ends (writeArtifact file) start () final) :
    start.tree.writeFile file.1 file.2.toUTF8 = .ok final.tree := by
  rw [writeArtifact, ends_bind_iff] at h
  obtain ⟨_, middle, hwrite, hreport⟩ := h
  rw [ends_report hreport]
  have hchange : Session.change (·.writeFile file.1 file.2.toUTF8) start = (.ok (), middle) :=
    ends_attempt_iff.1 hwrite
  unfold Session.change at hchange
  split at hchange
  · next tree htree =>
      cases hchange
      exact htree
  · cases hchange

/-- Writing files one after the other sets them in the tree. -/
theorem ends_write_artifacts {files : List (String × String)}
    (h : Ends (files.forM writeArtifact) start () final) :
    start.tree.writeAll files = .ok final.tree := by
  induction files generalizing start with
  | nil =>
      obtain ⟨-, rfl⟩ := ends_pure_iff.1 h
      rfl
  | cons file files ih =>
      rw [List.forM, ends_bind_iff] at h
      obtain ⟨_, middle, hwrite, hrest⟩ := h
      rw [FileTree.writeAll, List.foldlM_cons, ends_write_artifact hwrite]
      exact ih hrest

/-- `Compiles reader request start settings files texts bundles` says that a request, in the given
world and with a reader of settings, has these settings and definition files, which hold these
texts, and that these bundles are generated from them. -/
structure Compiles (reader : SettingsReader) (request : Request) (start : World)
    (settings : Settings) (files texts : List String) (bundles : List Bundle) : Prop where
  loaded : Ends (loadSettings reader request) start settings start
  listed : Ends (inputFiles request.input) start files start
  read : List.Forall₂ (fun file text => start.tree.readText file = .ok text) files texts
  generated : generate settings texts = .ok bundles

/-- What a request compiles is determined by the world. -/
theorem Compiles.unique {other : Settings} {files files' texts texts' : List String}
    {bundles bundles' : List Bundle}
    (h : Compiles reader request start settings files texts bundles)
    (h' : Compiles reader request start other files' texts' bundles') :
    settings = other ∧ bundles = bundles' := by
  have hsettings : settings = other :=
    Except.ok.inj (congrArg Prod.fst (h.loaded.symm.trans h'.loaded))
  have hfiles : files = files' :=
    Except.ok.inj (congrArg Prod.fst (h.listed.symm.trans h'.listed))
  subst hsettings hfiles
  have htexts : texts = texts' :=
    Except.ok.inj ((map_m_eq_ok_iff.2 h.read).symm.trans (map_m_eq_ok_iff.2 h'.read))
  subst htexts
  exact ⟨rfl, Except.ok.inj (h.generated.symm.trans h'.generated)⟩

/-- What a request compiles can be computed. -/
theorem compiles_of_results {files texts : List String} {bundles : List Bundle}
    (hloaded : (perform (loadSettings reader request) start).1 = .ok settings)
    (hlisted : (perform (inputFiles request.input) start).1 = .ok files)
    (hread : files.mapM start.tree.readText = .ok texts)
    (hgenerated : generate settings texts = .ok bundles) :
    Compiles reader request start settings files texts bundles := by
  have hsettings := ends_of_result hloaded
  have hfiles := ends_of_result hlisted
  rw [ends_load_settings hsettings] at hsettings
  rw [ends_input_files hfiles] at hfiles
  exact ⟨hsettings, hfiles, map_m_eq_ok_iff.1 hread, hgenerated⟩

/-- The artifacts of bundles with the paths of their files: the statement that creates the table and
the source of the record class under the name of the object, and the source of the repository class
under its own name. -/
def artifacts (request : Request) (bundles : List Bundle) : List (String × String) :=
  bundles.flatMap fun bundle =>
    [(Path.join request.output (bundle.objectName ++ ".sql"), bundle.statements.creation),
      (Path.join request.output (bundle.objectName ++ ".cs"), bundle.record.source),
      (Path.join request.output (bundle.repositoryName ++ ".cs"), bundle.repository.source)]

/-- The files that a run writes for its bundles are their artifacts. -/
theorem bundle_files_eq (request : Request) (bundles : List Bundle) :
    bundles.flatMap (bundleFiles request.output) = artifacts request bundles :=
  rfl

/-- The part of a run that reads and generates: its definition files, and their bundles. -/
def compile (reader : SettingsReader) (request : Request) :
    ExceptT Failure Session (List String × List Bundle) := do
  let settings ← loadSettings reader request
  let files ← inputFiles request.input
  let texts ← files.mapM fun file => attempt (.read file) (Files.readText file)
  let bundles ← generateBundles settings texts
  pure (files, bundles)

/-- The part of a run that makes directories and writes files. -/
def emit (request : Request) (files : List String) (bundles : List Bundle) :
    ExceptT Failure Session Unit := do
  attempt (.create request.output) (makeDirectories request.output)
  (artifacts request bundles).forM writeArtifact
  report (.finished bundles.length files.length request.output)

/-- A run generates everything before it makes or writes anything. -/
theorem run_with_eq (reader : SettingsReader) (request : Request) :
    runWith reader request =
      compile reader request >>= fun found => emit request found.1 found.2 := by
  simp only [runWith, compile, emit, bundle_files_eq, bind_assoc, pure_bind]

/-- What a run compiles comes from what it finds, and it does not touch the files. -/
theorem ends_compile {files : List String} {bundles : List Bundle}
    (h : Ends (compile reader request) start (files, bundles) final) :
    final.tree = start.tree ∧
      ∃ settings texts, Compiles reader request start settings files texts bundles := by
  rw [compile, ends_bind_iff] at h
  obtain ⟨settings, _, hsettings, h⟩ := h
  obtain rfl := ends_load_settings hsettings
  rw [ends_bind_iff] at h
  obtain ⟨found, _, hfiles, h⟩ := h
  obtain rfl := ends_input_files hfiles
  rw [ends_bind_iff] at h
  obtain ⟨texts, _, htexts, h⟩ := h
  obtain ⟨rfl, hread⟩ := ends_read_texts htexts
  rw [ends_bind_iff] at h
  obtain ⟨generated, _, hbundles, h⟩ := h
  obtain ⟨htree, hgenerate⟩ := ends_generate_bundles hbundles
  obtain ⟨hfound, rfl⟩ := ends_pure_iff.1 h
  cases hfound
  exact ⟨htree, settings, texts, hsettings, hfiles, hread, hgenerate⟩

/-- A run that succeeds generates bundles from what it finds, and writes their files one after the
other. -/
theorem run_writes (h : Ends (runWith reader request) start () final) :
    ∃ settings files texts bundles, Compiles reader request start settings files texts bundles ∧
      ∃ tree : FileTree, tree.writeAll (artifacts request bundles) = .ok final.tree := by
  rw [run_with_eq, ends_bind_iff] at h
  obtain ⟨⟨files, bundles⟩, _, hcompile, h⟩ := h
  obtain ⟨-, settings, texts, hcompiles⟩ := ends_compile hcompile
  rw [emit, ends_bind_iff] at h
  obtain ⟨_, made, -, h⟩ := h
  rw [ends_bind_iff] at h
  obtain ⟨_, written, hwrite, hreport⟩ := h
  refine ⟨settings, files, texts, bundles, hcompiles, made.tree, ?_⟩
  rw [ends_report hreport]
  exact ends_write_artifacts hwrite

end Runs

/-! ## Names in the output directory -/

namespace Path

variable {path name : String}

/-- A path is absolute if its first character is a slash. -/
theorem is_absolute_iff : isAbsolute path = true ↔ path.toList.head? = some '/' := by
  rw [isAbsolute, String.startsWith_string_iff]
  cases path.toList with
  | nil => simp
  | cons c rest => simp [List.cons_prefix_cons, eq_comm]

/-- A name without slashes is no absolute path. -/
theorem is_absolute_eq_false (h : '/' ∉ name.toList) : isAbsolute name = false := by
  rw [Bool.eq_false_iff, ne_eq, is_absolute_iff]
  exact fun hhead => h (List.mem_of_mem_head? hhead)

/-- The names of a path that ends in a name. -/
theorem names_append (h : '/' ∉ name.toList) :
    names (path ++ "/" ++ name) = names path ++ [name] := by
  have hlist : (path ++ "/" ++ name).toList = path.toList ++ '/' :: name.toList := by simp
  rw [names, hlist, List.splitOn_append_cons_self, List.splitOn_eq_singleton h, List.map_append]
  simp [names]

/-- The path of a name in a directory ends in the name, and what comes before are the names of the
directory, but for a last one that is empty. -/
theorem names_join (directory : String) :
    ∃ above, (names directory = above ∨ names directory = above ++ [""]) ∧
      ∀ name : String, '/' ∉ name.toList →
        names (join directory name) = above ++ [name] ∧
          isAbsolute (join directory name) = isAbsolute directory := by
  by_cases hempty : directory.isEmpty = true
  · have hdirectory : directory = "" := by simpa using hempty
    subst hdirectory
    refine ⟨[], .inr rfl, fun name h => ?_⟩
    have hjoin : join "" name = name := by simp [join, is_absolute_eq_false h]
    rw [hjoin, is_absolute_eq_false h, names, List.splitOn_eq_singleton h]
    simp [is_absolute_eq_false]
  · have hne : directory.toList ≠ [] := by simpa using hempty
    by_cases hslash : directory.endsWith "/" = true
    · -- the slash at the end of the directory separates it from the name
      obtain ⟨parent, hparent⟩ := String.Slice.endsWith_string_iff.1 hslash
      have hdirectory : directory = String.ofList parent ++ "/" := by
        apply String.toList_inj.1
        simpa using hparent.symm
      have hnames : names directory = names (String.ofList parent) ++ [""] := by
        rw [hdirectory, ← names_append (by simp), String.append_empty]
      refine ⟨names (String.ofList parent), .inr hnames, fun name h => ?_⟩
      have hjoin : join directory name = String.ofList parent ++ "/" ++ name := by
        simp only [join, is_absolute_eq_false h, hempty, hslash]
        rw [hdirectory]
        rfl
      rw [hjoin, names_append h, Bool.eq_iff_iff, is_absolute_iff, is_absolute_iff, hdirectory]
      cases parent <;> simp
    · refine ⟨names directory, .inl rfl, fun name h => ?_⟩
      have hjoin : join directory name = directory ++ "/" ++ name := by
        simp only [join, is_absolute_eq_false h, hempty, hslash]
        rfl
      rw [hjoin, names_append h, Bool.eq_iff_iff, is_absolute_iff, is_absolute_iff]
      obtain ⟨c, rest, hcons⟩ := List.exists_cons_of_ne_nil hne
      simp [hcons]

/-- The name is that of an entry of a directory: it holds no slash, and it leads neither back to the
directory nor above it. -/
structure IsEntry (name : String) : Prop where
  slash : '/' ∉ name.toList
  idle : isIdle name = false
  up : name ≠ ".."

/-- A name with one of the extensions of generated files is that of an entry. -/
theorem entry_of_extension {stem extension : String} (h : '/' ∉ stem.toList)
    (hextension : extension ∈ [".sql", ".cs"]) : IsEntry (stem ++ extension) := by
  have hlength : 3 ≤ (stem ++ extension).length := by
    rw [String.length_append]
    have hall : ∀ extension ∈ [".sql", ".cs"], 3 ≤ extension.length := by decide
    have := hall extension hextension
    omega
  have hne {short : String} (hshort : short.length < 3) : stem ++ extension ≠ short := by
    rintro rfl
    omega
  refine ⟨?_, ?_, hne (by decide)⟩
  · have hall : ∀ extension ∈ [".sql", ".cs"], '/' ∉ extension.toList := by decide
    rw [String.toList_append, List.mem_append, not_or]
    exact ⟨h, hall extension hextension⟩
  · simp only [isIdle, Bool.or_eq_false_iff, beq_eq_false_iff_ne]
    exact ⟨hne (by decide), hne (by decide)⟩

end Path

/-- Following names one after the other. -/
theorem FileTree.follow_append {tree : FileTree} {place : Place} {left right : List String} :
    tree.follow place (left ++ right) =
      tree.follow place left >>= fun middle => tree.follow middle right := by
  induction left generalizing place with
  | nil => rfl
  | cons name left ih =>
    rw [List.cons_append, follow, follow]
    split
    · rfl
    · rfl
    · split
      · rfl
      · split
        · exact ih
        · split
          · exact ih
          · exact ih

/-- Two entries of a directory lead to the same place only if they have the same name. -/
theorem FileTree.locate_join_inj {tree : FileTree} {directory left right : String} {place : Place}
    (hleft : Path.IsEntry left) (hright : Path.IsEntry right)
    (hlocate : tree.locate (Path.join directory left) = .ok place)
    (hsame : tree.locate (Path.join directory right) = .ok place) : left = right := by
  obtain ⟨above, -, hnames⟩ := Path.names_join directory
  -- both paths start at the same place, and lead through the same names to the same directory
  have hplace {name : String} (hname : Path.IsEntry name)
      (hlocate : tree.locate (Path.join directory name) = .ok place) :
      ∃ middle, tree.follow (if Path.isAbsolute directory then [] else tree.working) above =
        .ok middle ∧ place = middle ++ [name] := by
    obtain ⟨hsplit, habsolute⟩ := hnames name hname.slash
    unfold locate reach at hlocate
    split at hlocate
    · cases hlocate
    · rw [hsplit, origin, habsolute, follow_append, bind_eq_ok_iff] at hlocate
      obtain ⟨middle, hmiddle, hlast⟩ := hlocate
      refine ⟨middle, hmiddle, ?_⟩
      unfold follow at hlast
      split at hlast
      · cases hlast
      · cases hlast
      · split at hlast
        · cases hlast
        · simp only [hname.idle, hname.up, Bool.false_eq_true, if_false, follow] at hlast
          exact (Except.ok.inj hlast).symm
  obtain ⟨middle, hmiddle, hplaceLeft⟩ := hplace hleft hlocate
  obtain ⟨other, hother, hplaceRight⟩ := hplace hright hsame
  rw [hmiddle] at hother
  cases hother
  simpa using hplaceLeft.symm.trans hplaceRight

/-- The files of generated bundles are entries of the output directory, if the names of repositories
hold no slash. -/
theorem artifact_entry {request : Request} {settings : Settings} {texts : List String}
    {bundles : List Bundle} (hsuffix : '/' ∉ settings.repositorySuffix.toList)
    (h : generate settings texts = .ok bundles) {file : String × String}
    (hfile : file ∈ artifacts request bundles) :
    ∃ name, Path.IsEntry name ∧ file.1 = Path.join request.output name := by
  obtain ⟨bundle, hbundle, hfile⟩ := List.mem_flatMap.1 hfile
  obtain ⟨text, -, tables, hparse, table, htable, hbundle⟩ := generate_ok h hbundle
  have hclass : '/' ∉ table.className.toList := fun hslash =>
    absurd ((Definition.parsed_worded hparse htable).className '/' hslash) (by decide)
  obtain ⟨hobject, hrepository⟩ := bundle_names hbundle
  simp only [List.mem_cons, List.not_mem_nil, or_false] at hfile
  rcases hfile with rfl | rfl | rfl
  · refine ⟨_, Path.entry_of_extension (hobject ▸ hclass) (by simp), rfl⟩
  · refine ⟨_, Path.entry_of_extension (hobject ▸ hclass) (by simp), rfl⟩
  · refine ⟨_, Path.entry_of_extension ?_ (by simp), rfl⟩
    rw [hrepository, String.toList_append, List.mem_append, not_or]
    exact ⟨hclass, hsuffix⟩

/-- A run that succeeds generates bundles from what it finds, however it reads its settings. The
path of each of their files holds what was written last to the place to which it leads, and all of
them hold their texts exactly if files that lead to the same place have the same text. Unless the
suffix of repositories holds a slash, these are the files of the same name. -/
theorem artifacts_kept_iff {reader : SettingsReader} {request : Request} {start final : World}
    (h : Ends (runWith reader request) start () final) :
    ∃ settings files texts bundles, Compiles reader request start settings files texts bundles ∧
      (∀ file ∈ artifacts request bundles, ∃ before last after,
        artifacts request bundles = before ++ last :: after ∧
        final.tree.locate last.1 = final.tree.locate file.1 ∧
        (∀ later ∈ after, final.tree.locate later.1 ≠ final.tree.locate file.1) ∧
        final.tree.readText file.1 = .ok last.2) ∧
      ((∀ file ∈ artifacts request bundles, final.tree.readText file.1 = .ok file.2) ↔
        ∀ left ∈ artifacts request bundles, ∀ right ∈ artifacts request bundles,
          final.tree.locate left.1 = final.tree.locate right.1 → left.2 = right.2) ∧
      ('/' ∉ settings.repositorySuffix.toList →
        ((∀ file ∈ artifacts request bundles, final.tree.readText file.1 = .ok file.2) ↔
          ∀ left ∈ artifacts request bundles, ∀ right ∈ artifacts request bundles,
            left.1 = right.1 → left.2 = right.2)) := by
  obtain ⟨settings, files, texts, bundles, hcompiles, tree, hwrite⟩ := run_writes h
  refine ⟨settings, files, texts, bundles, hcompiles, ?_, FileTree.write_all_kept_iff hwrite, ?_⟩
  · exact fun file hfile => FileTree.write_all_last hwrite hfile
  · intro hsuffix
    rw [FileTree.write_all_kept_iff hwrite]
    refine forall₂_congr fun left hleft => forall₂_congr fun right hright => ?_
    have hsame : final.tree.locate left.1 = final.tree.locate right.1 ↔ left.1 = right.1 := by
      refine ⟨fun hsame => ?_, congrArg _⟩
      obtain ⟨place, hplace⟩ := FileTree.write_all_locate hwrite hleft
      obtain ⟨name, hname, hpath⟩ := artifact_entry hsuffix hcompiles.generated hleft
      obtain ⟨other, hother, hotherPath⟩ := artifact_entry hsuffix hcompiles.generated hright
      rw [hplace] at hsame
      rw [hpath] at hplace
      rw [hotherPath] at hsame
      rw [hpath, hotherPath, FileTree.locate_join_inj hname hother hplace hsame.symm]
    rw [hsame]

/-- A request to compile one file. -/
def fileRequest : Request :=
  ⟨false, "in.tdl", "out", none, none⟩

/-- A world with one file of the given text. -/
def fileWorld (text : String) : World :=
  { tree := { files := [(["in.tdl"], text.toUTF8)] } }

/-- A run on tables with different class names leaves all files as they were generated. -/
theorem distinct_classes_kept :
    ∃ final bundles,
      Ends (run fileRequest) (fileWorld "user \x7b id int pk \x7d, pet \x7b id int pk \x7d") ()
        final ∧
      Compiles Settings.read fileRequest
        (fileWorld "user \x7b id int pk \x7d, pet \x7b id int pk \x7d") {} ["in.tdl"]
        ["user \x7b id int pk \x7d, pet \x7b id int pk \x7d"] bundles ∧
      bundles.length = 2 ∧
      ∀ file ∈ artifacts fileRequest bundles, final.tree.readText file.1 = .ok file.2 := by
  have hsome : ∃ bundles,
      generate {} ["user \x7b id int pk \x7d, pet \x7b id int pk \x7d"] = .ok bundles ∧
      bundles.length = 2 ∧ ((artifacts fileRequest bundles).map Prod.fst).Nodup :=
    exists_eq_ok (by decide +kernel)
  obtain ⟨bundles, hok, hlength, hpaths⟩ := hsome
  have hcompiles : Compiles Settings.read fileRequest
      (fileWorld "user \x7b id int pk \x7d, pet \x7b id int pk \x7d") {} ["in.tdl"]
      ["user \x7b id int pk \x7d, pet \x7b id int pk \x7d"] bundles :=
    compiles_of_results (by decide +kernel) (by decide +kernel) (by decide +kernel) hok
  have hruns : ∃ final, Ends (run fileRequest)
      (fileWorld "user \x7b id int pk \x7d, pet \x7b id int pk \x7d") () final :=
    ⟨_, ends_of_result (by decide +kernel)⟩
  obtain ⟨final, hends⟩ := hruns
  obtain ⟨settings, files, texts, found, hfound, -, -, hkept⟩ := artifacts_kept_iff hends
  obtain ⟨rfl, rfl⟩ := hcompiles.unique hfound
  refine ⟨final, bundles, hends, hcompiles, hlength, (hkept (by decide)).2 ?_⟩
  intro left hleft right hright hsame
  rw [List.inj_on_of_nodup_map hpaths hleft hright hsame]

/-- Two tables of the same name in different schemas: the run succeeds, and the statement that
creates the first table is lost. -/
theorem same_class_overwritten :
    ∃ final bundles,
      Ends (run fileRequest) (fileWorld "a.user \x7b id int pk \x7d\nb.user \x7b id guid pk \x7d")
        () final ∧
      Compiles Settings.read fileRequest
        (fileWorld "a.user \x7b id int pk \x7d\nb.user \x7b id guid pk \x7d") {} ["in.tdl"]
        ["a.user \x7b id int pk \x7d\nb.user \x7b id guid pk \x7d"] bundles ∧
      (∃ bundle ∈ bundles, bundle.objectName = "User" ∧
        bundle.statements.creation = "CREATE TABLE a.user (\n    id int4 PRIMARY KEY\n);") ∧
      final.tree.readText "out/User.sql" =
        .ok "CREATE TABLE b.user (\n    id uuid PRIMARY KEY\n);" := by
  have hsome : ∃ bundles,
      generate {} ["a.user \x7b id int pk \x7d\nb.user \x7b id guid pk \x7d"] = .ok bundles ∧
      ∃ bundle ∈ bundles, bundle.objectName = "User" ∧
        bundle.statements.creation = "CREATE TABLE a.user (\n    id int4 PRIMARY KEY\n);" :=
    exists_eq_ok (by decide +kernel)
  obtain ⟨bundles, hok, hfirst⟩ := hsome
  refine ⟨_, bundles, ends_of_result (by decide +kernel), ?_, hfirst, by decide +kernel⟩
  exact compiles_of_results (by decide +kernel) (by decide +kernel) (by decide +kernel) hok

end Schemata.CommandLine
