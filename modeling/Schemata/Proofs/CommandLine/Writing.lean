import Mathlib.Data.List.Infix
import Schemata.CommandLine.FileTree
import Schemata.Proofs.Error

/-!
# Writing files one after the other

Writing a file changes what is found at one place and nothing else. Paths that lead somewhere lead
to the same place afterwards, because a file is never written over a directory. So after a list of
files was written, a path of the list holds what was written last to the place it leads to, by
`write_all_last`, and all files hold what was written to them exactly if no two of them that share a
place differ, by `write_all_kept_iff`.
-/

namespace Schemata.CommandLine.FileTree

variable {tree : FileTree} {place other : Place} {content : ByteArray}

/-! ## Setting one file -/

/-- The place of a file holds what is set. -/
theorem content_set_file (tree : FileTree) (place : Place) (content : ByteArray) :
    (tree.setFile place content).content? place = some content := by
  unfold setFile content?
  split
  · next hany =>
      obtain ⟨file, hfile, hplace⟩ := List.any_eq_true.1 hany
      have hfound : (tree.files.find? (·.1 == place)).isSome = true :=
        List.find?_isSome.2 ⟨file, hfile, hplace⟩
      obtain ⟨found, hfound⟩ := Option.isSome_iff_exists.1 hfound
      have hsame : (fun file : Place × ByteArray =>
          (if file.1 = place then (place, content) else file).1 == place) =
          fun file => file.1 == place := by
        funext file
        split
        · next heq => simp [heq]
        · rfl
      have hat : found.1 = place := by simpa using List.find?_some hfound
      rw [List.find?_map, Function.comp_def, hsame, hfound]
      simp [hat]
  · next hany =>
      have hnone : tree.files.find? (·.1 == place) = none := by
        rw [List.find?_eq_none]
        intro file hfile hplace
        exact hany (List.any_eq_true.2 ⟨file, hfile, hplace⟩)
      rw [List.find?_append, hnone]
      simp

/-- Every other place holds what it held before. -/
theorem content_set_file_of_ne (h : other ≠ place) :
    (tree.setFile place content).content? other = tree.content? other := by
  unfold setFile content?
  split
  · have hsame : (fun file : Place × ByteArray =>
        (if file.1 = place then (place, content) else file).1 == other) =
        fun file => file.1 == other := by
      funext file
      split
      · next heq => simp [heq]
      · rfl
    rw [List.find?_map, Function.comp_def, hsame]
    cases hfound : tree.files.find? (·.1 == other) with
    | none => rfl
    | some file =>
        have hat : file.1 = other := by simpa using List.find?_some hfound
        simp [hat, h]
  · rw [List.find?_append]
    simp [h.symm]

/-- Setting a file makes no directory. -/
theorem directories_set_file (tree : FileTree) (place : Place) (content : ByteArray) :
    (tree.setFile place content).directories = tree.directories := by
  unfold setFile
  split <;> rfl

/-- Setting a file does not change the working directory. -/
theorem working_set_file (tree : FileTree) (place : Place) (content : ByteArray) :
    (tree.setFile place content).working = tree.working := by
  unfold setFile
  split <;> rfl

/-- Every other place is what it was before. -/
theorem node_set_file_of_ne (h : other ≠ place) :
    (tree.setFile place content).node? other = tree.node? other := by
  rw [node?, node?, content_set_file_of_ne h, directories_set_file]

/-- Names that lead somewhere lead to the same place in a tree that has all directories of the
tree. -/
theorem follow_mono {final : FileTree}
    (hkept : ∀ place, tree.node? place = some .directory → final.node? place = some .directory)
    {start found : Place} {names : List String} (h : tree.follow start names = .ok found) :
    final.follow start names = .ok found := by
  induction names generalizing start with
  | nil => exact h
  | cons name names ih =>
      -- all names lead through directories
      have hdirectory : tree.node? start = some .directory := by
        unfold follow at h
        split at h
        · cases h
        · cases h
        · assumption
      rw [follow, hdirectory] at h
      rw [follow, hkept start hdirectory]
      simp only at h ⊢
      split at h
      · cases h
      · next hsize =>
          rw [if_neg hsize]
          split at h
          · next hidle =>
              rw [if_pos hidle]
              exact ih h
          · next hidle =>
              rw [if_neg hidle]
              split at h
              · next hup =>
                  rw [if_pos hup]
                  exact ih h
              · next hup =>
                  rw [if_neg hup]
                  exact ih h

/-- A path that leads somewhere leads to the same place in a tree that has the same working directory
and all directories of the tree. -/
theorem reach_mono {final : FileTree} (hworking : final.working = tree.working)
    (hkept : ∀ place, tree.node? place = some .directory → final.node? place = some .directory)
    {path : String} {names : List String} (h : tree.reach path names = .ok place) :
    final.reach path names = .ok place := by
  have horigin : final.origin path = tree.origin path := by rw [origin, origin, hworking]
  unfold reach at h ⊢
  split at h
  · cases h
  · rw [horigin]
    exact follow_mono hkept h

/-- Setting a file at a place that is no directory keeps all directories. -/
theorem directory_set_file (hplace : tree.node? place ≠ some .directory)
    (h : tree.node? other = some .directory) :
    (tree.setFile place content).node? other = some .directory := by
  have hne : other ≠ place := by
    rintro rfl
    exact hplace h
  rw [node_set_file_of_ne hne, h]

/-! ## Writing one file -/

variable {final : FileTree} {path text : String}

/-- Writing a file sets it at the place to which its path leads. -/
theorem write_file_eq_ok_iff :
    tree.writeFile path content = .ok final ↔
      ∃ place, tree.locate path = .ok place ∧ tree.node? place ≠ some .directory ∧
        final = tree.setFile place content := by
  rw [writeFile, bind_eq_ok_iff]
  refine exists_congr fun place => and_congr_right fun _ => ?_
  split
  · next hnode => simp [hnode]
  · next hnode =>
      simp only [pure, Except.pure, Except.ok.injEq]
      constructor
      · rintro rfl
        exact ⟨hnode, rfl⟩
      · rintro ⟨-, rfl⟩
        rfl

/-- A path that leads somewhere leads to the same place after a file was written. -/
theorem locate_write_file {written : String} (h : tree.writeFile written content = .ok final)
    (hlocate : tree.locate path = .ok place) : final.locate path = .ok place := by
  obtain ⟨spot, -, hspot, rfl⟩ := write_file_eq_ok_iff.1 h
  exact reach_mono (working_set_file tree spot content)
    (fun _ hdirectory => directory_set_file hspot hdirectory) hlocate

/-- A text that is written to a place can be read from it. -/
theorem read_text_of_content (hlocate : tree.locate path = .ok place)
    (hcontent : tree.content? place = some text.toUTF8) : tree.readText path = .ok text := by
  have hlookup : tree.lookup path = .ok (.file text.toUTF8) := by
    rw [lookup, hlocate]
    simp only [bind, Except.bind, node?, hcontent, pure, Except.pure]
  have hutf8 : String.fromUTF8? text.toUTF8 = some text := by
    rw [String.fromUTF8?, String.toUTF8_eq_toByteArray, dif_pos text.isValidUTF8]
    rfl
  rw [readText, hlookup]
  simp only [bind, Except.bind, hutf8, pure, Except.pure]

/-- What is read from a path depends on the place to which it leads. -/
theorem read_text_congr {tree' : FileTree} {path' : String} (hlocate : tree.locate path = .ok place)
    (hlocate' : tree'.locate path' = .ok place) (hnode : tree.node? place = tree'.node? place) :
    tree.readText path = tree'.readText path' := by
  rw [readText, readText, lookup, lookup, hlocate, hlocate']
  simp only [bind, Except.bind, hnode]

/-- The path of a file that was written holds its text. -/
theorem read_text_write_file (h : tree.writeFile path text.toUTF8 = .ok final) :
    ∃ place, final.locate path = .ok place ∧ final.readText path = .ok text := by
  have hwritten := h
  obtain ⟨place, hlocate, -, rfl⟩ := write_file_eq_ok_iff.1 h
  have hfinal := locate_write_file hwritten hlocate
  exact ⟨place, hfinal, read_text_of_content hfinal (content_set_file tree place text.toUTF8)⟩

/-- A path to another place holds what it held before. -/
theorem read_text_write_file_of_ne {written : String}
    (h : tree.writeFile written content = .ok final) (hlocate : tree.locate path = .ok place)
    (hne : final.locate written ≠ .ok place) : final.readText path = tree.readText path := by
  have hwritten := h
  obtain ⟨spot, hspot, -, rfl⟩ := write_file_eq_ok_iff.1 h
  rw [locate_write_file hwritten hspot, ne_eq, Except.ok.injEq] at hne
  exact read_text_congr (locate_write_file hwritten hlocate) hlocate
    (node_set_file_of_ne (Ne.symm hne))

/-! ## Writing many files -/

/-- Writes files, given by their paths and texts, one after the other. -/
def writeAll (tree : FileTree) (files : List (String × String)) : Except FileFault FileTree :=
  files.foldlM (fun tree file => tree.writeFile file.1 file.2.toUTF8) tree

variable {files : List (String × String)}

/-- Writing one more file. -/
theorem write_all_snoc {file : String × String} :
    tree.writeAll (files ++ [file]) = .ok final ↔
      ∃ middle, tree.writeAll files = .ok middle ∧
        middle.writeFile file.1 file.2.toUTF8 = .ok final := by
  rw [writeAll, List.foldlM_append, bind_eq_ok_iff]
  refine exists_congr fun middle => and_congr_right fun _ => ?_
  simp

/-- After files were written, the path of each of them leads to a place. -/
theorem write_all_locate (h : tree.writeAll files = .ok final) {file : String × String}
    (hfile : file ∈ files) : ∃ place, final.locate file.1 = .ok place := by
  induction files using List.reverseRecOn generalizing final with
  | nil => simp at hfile
  | append_singleton files newest ih =>
      obtain ⟨middle, hmiddle, hnewest⟩ := write_all_snoc.1 h
      rcases List.mem_append.1 hfile with hfile | hfile
      · obtain ⟨place, hplace⟩ := ih hmiddle hfile
        exact ⟨place, locate_write_file hnewest hplace⟩
      · obtain ⟨place, hplace, -⟩ := read_text_write_file hnewest
        rw [List.mem_singleton.1 hfile]
        exact ⟨place, hplace⟩

/-- After files were written, the path of each of them holds the text that was written last to the
place to which it leads. -/
theorem write_all_last (h : tree.writeAll files = .ok final) {file : String × String}
    (hfile : file ∈ files) :
    ∃ before last after, files = before ++ last :: after ∧
      final.locate last.1 = final.locate file.1 ∧
      (∀ later ∈ after, final.locate later.1 ≠ final.locate file.1) ∧
      final.readText file.1 = .ok last.2 := by
  induction files using List.reverseRecOn generalizing final with
  | nil => simp at hfile
  | append_singleton files newest ih =>
      obtain ⟨middle, hmiddle, hnewest⟩ := write_all_snoc.1 h
      obtain ⟨spot, hspot, hread⟩ := read_text_write_file hnewest
      by_cases hsame : final.locate file.1 = .ok spot
      · -- the newest file shares the place
        refine ⟨files, newest, [], rfl, hspot.trans hsame.symm, by simp, ?_⟩
        rw [← hread]
        exact read_text_congr hsame hspot rfl
      · have hearlier : file ∈ files := by
          rcases List.mem_append.1 hfile with hfile | hfile
          · exact hfile
          · rw [List.mem_singleton.1 hfile] at hsame
            exact absurd hspot hsame
        obtain ⟨before, last, after, rfl, hlast, hafter, hheld⟩ := ih hmiddle hearlier
        -- all earlier paths still lead to the places to which they led before
        have hkept {earlier : String × String} (hmem : earlier ∈ before ++ last :: after) :
            final.locate earlier.1 = middle.locate earlier.1 := by
          obtain ⟨place, hplace⟩ := write_all_locate hmiddle hmem
          rw [hplace]
          exact locate_write_file hnewest hplace
        obtain ⟨place, hplace⟩ := write_all_locate hmiddle hearlier
        have hother : final.locate newest.1 ≠ .ok place := by
          rw [hspot, ← hplace, ← hkept hearlier]
          exact fun heq => hsame heq.symm
        refine ⟨before, last, after ++ [newest], by simp, ?_, ?_, ?_⟩
        · rw [hkept (by simp), hkept hearlier]
          exact hlast
        · intro later hlater
          rw [hkept hearlier]
          rcases List.mem_append.1 hlater with hlater | hlater
          · rw [hkept (by simp [hlater])]
            exact hafter later hlater
          · rw [List.mem_singleton.1 hlater, hplace]
            exact hother
        · rw [read_text_write_file_of_ne hnewest hplace hother, hheld]

/-- All files that were written hold their texts exactly if files that share a place have the same
text. -/
theorem write_all_kept_iff (h : tree.writeAll files = .ok final) :
    (∀ file ∈ files, final.readText file.1 = .ok file.2) ↔
      ∀ left ∈ files, ∀ right ∈ files, final.locate left.1 = final.locate right.1 →
        left.2 = right.2 := by
  constructor
  · intro hkept left hleft right hright hsame
    obtain ⟨place, hplace⟩ := write_all_locate h hright
    have hread := read_text_congr (hsame.trans hplace) hplace rfl
    rw [hkept left hleft, hkept right hright] at hread
    exact Except.ok.inj hread
  · intro hagree file hfile
    obtain ⟨before, last, after, hsplit, hlast, -, hread⟩ := write_all_last h hfile
    rw [hread, hagree last (by simp [hsplit]) file hfile hlast]

end Schemata.CommandLine.FileTree
