/-
Writing and checking agree.

A check that follows a write finds each output as the last write to it left it, whatever
the spellings of the paths and however many inputs share an output (`check_after_write`).
A check in place of a write is clean exactly if the write would change nothing, step by
step (`clean_check_iff_writes_keep`).
-/
import ErrorTable.Proofs.Runs
import ErrorTable.Proofs.Tree
import Mathlib.Data.List.Pairwise

namespace ErrorTable

/-! ## Checking after writing -/

namespace WriteRun

variable {fs last : FileSystem} {inputs : List Path} {gs : List Generated}

theorem generated_last (h : WriteRun fs inputs gs last)
    (apart : ∀ g ∈ gs, ∀ input ∈ inputs, last.sameFile g.output input = false) :
    List.Forall₂ (fun input g => last.generated input = .ok g) inputs gs := by
  induction h with
  | nil => exact .nil
  | @cons fs next last input inputs g gs generated wrote rest ih =>
    have hwhole := WriteRun.cons generated wrote rest
    have hinput : ∀ g' ∈ g :: gs, last.sameFile g'.output input = false :=
      fun g' hg' => apart g' hg' input List.mem_cons_self
    refine .cons ((hwhole.generated_iff_of_apart hinput).2 generated) (ih fun g' hg' i hi => ?_)
    exact apart g' (List.mem_cons_of_mem _ hg') i (List.mem_cons_of_mem _ hi)

theorem generated_around (h : WriteRun fs inputs gs last)
    (apart : ∀ g ∈ gs, ∀ input ∈ inputs, last.sameFile g.output input = false) :
    List.Forall₂ (fun input g => fs.generated input = .ok g ∧ last.generated input = .ok g)
      inputs gs := by
  obtain ⟨hlength, hlast⟩ := List.forall₂_iff_zip.1 (h.generated_last apart)
  refine List.forall₂_iff_zip.2 ⟨hlength, fun {input g} hmem => ⟨?_, hlast hmem⟩⟩
  have hinput := (List.of_mem_zip hmem).1
  exact (h.generated_iff_of_apart fun g' hg' => apart g' hg' input hinput).1 (hlast hmem)

/-- Something was written to the file that an output of a batch names: its own fragment, if
nothing else was written there later. -/
theorem exists_lastWritten (h : WriteRun fs inputs gs last) {g : Generated} (hg : g ∈ gs) :
    ∃ g' ∈ gs, last.sameFile g'.output g.output = true ∧
      last.lastWritten gs g.output = some g' := by
  have hmem : g ∈ gs.filter fun g' => last.sameFile g'.output g.output :=
    List.mem_filter.2 ⟨hg, h.sameFile_self hg⟩
  have hsome := List.getLast?_eq_some_getLast (List.ne_nil_of_mem hmem)
  obtain ⟨hg', hsame⟩ := List.mem_filter.1 (List.mem_of_getLast? hsome)
  exact ⟨_, hg', hsame, hsome⟩

theorem holds_iff_lastWritten (h : WriteRun fs inputs gs last) {g : Generated} (hg : g ∈ gs) :
    last.holds g = true ↔
      (last.lastWritten gs g.output).map (·.fragment) = some g.fragment := by
  obtain ⟨g', -, -, hlast⟩ := h.exists_lastWritten hg
  rw [holds_iff, h.read_iff, hlast]
  simp [String.toByteArray_inj, eq_comm]

theorem holds_of_pairwise (h : WriteRun fs inputs gs last)
    (different : gs.Pairwise fun a b => last.sameFile a.output b.output = false)
    {g : Generated} (hg : g ∈ gs) : last.holds g = true := by
  obtain ⟨g', hg', hsame, hlast⟩ := h.exists_lastWritten hg
  have : Std.Symm fun a b : Generated => last.sameFile a.output b.output = false :=
    ⟨fun a b hab => (last.sameFile_comm b.output a.output).trans hab⟩
  have heq : g' = g := by
    by_contra hne
    simp [different.forall hg' hg hne] at hsame
  rw [h.holds_iff_lastWritten hg, hlast, heq]
  rfl

end WriteRun

/-- **Checking after writing.** A batch is written, and none of its outputs names one of its
inputs. Then the check of the same batch succeeds and leaves the file system alone. Each
input gives what it gave in the batch that was written (`gs`, position by position), and its
output is up to date exactly if the last fragment written to the file that the output names
is its own text. If the outputs name different files, the check is clean. -/
theorem check_after_write {fs after : FileSystem} {inputs : List Path} {summary : Summary}
    (hwrite : ((generateAll .write inputs).run fs).result = .ok summary)
    (hafter : ((generateAll .write inputs).run fs).files = after)
    (apart : ∀ output ∈ summary.written, ∀ input ∈ inputs, after.sameFile output input = false) :
    ∃ gs : List Generated, WriteRun fs inputs gs after ∧
      List.Forall₂ (fun input g => fs.generated input = .ok g ∧ after.generated input = .ok g)
        inputs gs ∧
      summary.written = gs.map (·.output) ∧
      ((generateAll .check inputs).run after).files = after ∧
      ∃ checked, ((generateAll .check inputs).run after).result = .ok checked ∧
        checked.written = [] ∧
        checked.upToDate = (gs.filter fun g =>
          (after.lastWritten gs g.output).map (·.fragment) = some g.fragment).map (·.output) ∧
        checked.stale = (gs.filter fun g =>
          (after.lastWritten gs g.output).map (·.fragment) ≠ some g.fragment).map (·.output) ∧
        (summary.written.Pairwise (fun a b => after.sameFile a b = false) →
          checked.isClean = true ∧ checked.upToDate = summary.written) := by
  obtain ⟨gs, hrun, rfl⟩ := write_eq_ok.1 ⟨hwrite, hafter⟩
  simp only [List.forall_mem_map] at apart
  have hall := hrun.generated_around apart
  have hcheck := check_eq_ok.2 ⟨gs, hall.imp fun _ _ h => h.2, rfl⟩
  refine ⟨gs, hrun, hall, rfl, files_check inputs after, _, hcheck, rfl, ?_, ?_, ?_⟩
  · refine congrArg (List.map _) (List.filter_congr fun g hg => ?_)
    rw [Bool.eq_iff_iff, hrun.holds_iff_lastWritten hg, decide_eq_true_eq]
  · refine congrArg (List.map _) (List.filter_congr fun g hg => ?_)
    rw [Bool.eq_iff_iff, Bool.not_eq_true', ← Bool.not_eq_true, hrun.holds_iff_lastWritten hg,
      decide_eq_true_eq]
  · intro different
    have hholds : ∀ g ∈ gs, after.holds g = true :=
      fun g hg => hrun.holds_of_pairwise (List.pairwise_map.1 different) hg
    exact ⟨isClean_checkSummary.2 hholds, upToDate_checkSummary hholds⟩

/-- Two definition files that name one output, in two spellings. -/
def sharedOutput : FileSystem where
  nodes := [(["d"], .directory), (["a.in"], .file "OUTPUT=x\nE X F first\n".toUTF8),
    (["b.in"], .file "OUTPUT=d/../x\nE X F second\n".toUTF8)]

/-- Three inputs, of which the last is the first one again. -/
def sharedInputs : List Path := [⟨"a.in"⟩, ⟨"./b.in"⟩, ⟨"d/../a.in"⟩]

theorem check_after_write_sharedOutput :
    ((generateAll .write sharedInputs).run sharedOutput).result =
      .ok { written := [⟨"./x"⟩, ⟨"./d/../x"⟩, ⟨"d/../x"⟩] } ∧
    ∃ gs : List Generated,
      List.Forall₂ (fun input g => sharedOutput.generated input = .ok g) sharedInputs gs ∧
      ∃ checked, ((generateAll .check sharedInputs).run
          ((generateAll .write sharedInputs).run sharedOutput).files).result = .ok checked ∧
        checked.stale = (gs.filter fun g =>
          (((generateAll .write sharedInputs).run sharedOutput).files.lastWritten gs g.output).map
            (·.fragment) ≠ some g.fragment).map (·.output) := by
  have hwrite : ((generateAll .write sharedInputs).run sharedOutput).result =
      .ok { written := [⟨"./x"⟩, ⟨"./d/../x"⟩, ⟨"d/../x"⟩] } :=
    eq_ok_of_toOption (by decide +kernel)
  obtain ⟨gs, -, hgs, -, -, checked, hcheck, -, -, hstale, -⟩ :=
    check_after_write hwrite rfl (by decide +kernel)
  exact ⟨hwrite, gs, hgs.imp fun _ _ h => h.1, checked, hcheck, hstale⟩

/-! ## Checking instead of writing -/

theorem writeRun_of_holds {fs : FileSystem} (tree : fs.IsTree) {inputs : List Path}
    {gs : List Generated}
    (hall : List.Forall₂ (fun input g => fs.generated input = .ok g) inputs gs)
    (hholds : ∀ g ∈ gs, fs.holds g = true) :
    WriteRun fs inputs gs fs ∧
      ∀ change ∈ (generateAll .write inputs).changes fs, change.after = change.before := by
  induction hall with
  | nil => exact ⟨.nil fs, by simp [generateAll, Program.changes]⟩
  | @cons input g inputs gs hg _ ih =>
    have hw : fs.write g.output g.fragment.toUTF8 = .ok fs :=
      tree.write_eq_self (holds_iff.1 (hholds g List.mem_cons_self))
    obtain ⟨hrun, hkeep⟩ := ih fun g' hg' => hholds g' (List.mem_cons_of_mem _ hg')
    refine ⟨.cons hg hw hrun, ?_⟩
    rw [changes_write_cons inputs hg hw]
    exact List.forall_mem_cons.2 ⟨rfl, hkeep⟩

/-- If every write of a batch leaves every place as it was, the file system is the same all
the way, so every output held its fragment before the batch. -/
theorem WriteRun.holds_of_keep {fs last : FileSystem} {inputs : List Path} {gs : List Generated}
    (h : WriteRun fs inputs gs last)
    (hkeep : ∀ change ∈ (generateAll .write inputs).changes fs,
      ∀ place, change.after.node? place = change.before.node? place) :
    List.Forall₂ (fun input g => fs.generated input = .ok g) inputs gs ∧
      ∀ g ∈ gs, fs.holds g = true := by
  induction h with
  | nil => exact ⟨.nil, by simp⟩
  | @cons fs next last input inputs g gs generated wrote rest ih =>
    rw [changes_write_cons inputs generated wrote, List.forall_mem_cons] at hkeep
    obtain rfl : next = fs := FileSystem.eq_of_write wrote hkeep.1
    obtain ⟨hall, hholds⟩ := ih hkeep.2
    have hg : next.holds g = true := holds_iff.2 (FileSystem.read_write_self wrote)
    exact ⟨.cons generated hall, List.forall_mem_cons.2 ⟨hg, hholds⟩⟩

theorem write_of_clean_check {fs : FileSystem} (tree : fs.IsTree) {inputs : List Path}
    {checked : Summary} (hcheck : ((generateAll .check inputs).run fs).result = .ok checked)
    (hclean : checked.isClean = true) :
    ((generateAll .write inputs).run fs).result = .ok { written := checked.upToDate } ∧
      ((generateAll .write inputs).run fs).files = fs ∧
      ∀ change ∈ (generateAll .write inputs).changes fs, change.after = change.before := by
  obtain ⟨gs, hall, rfl⟩ := check_eq_ok.1 hcheck
  have hholds := isClean_checkSummary.1 hclean
  obtain ⟨hrun, hkeep⟩ := writeRun_of_holds tree hall hholds
  obtain ⟨hwrite, hfiles⟩ := write_eq_ok.2 ⟨gs, hrun, rfl⟩
  rw [upToDate_checkSummary hholds]
  exact ⟨hwrite, hfiles, hkeep⟩

/-- **A check predicts the writes.** The check of a batch is clean exactly if the batch can be
written and every single write of it leaves the bytes of every file and the entries of every
directory as they were. What is then written is what the check found up to date. Outputs may
name inputs, or each other. -/
theorem clean_check_iff_writes_keep {fs : FileSystem} (tree : fs.IsTree) (inputs : List Path) :
    ((∃ checked, ((generateAll .check inputs).run fs).result = .ok checked ∧
        checked.isClean = true) ↔
      (∃ summary, ((generateAll .write inputs).run fs).result = .ok summary) ∧
        ∀ change ∈ (generateAll .write inputs).changes fs,
          ∀ place, change.after.node? place = change.before.node? place) ∧
    ∀ checked summary, ((generateAll .check inputs).run fs).result = .ok checked →
      checked.isClean = true → ((generateAll .write inputs).run fs).result = .ok summary →
        summary.written = checked.upToDate := by
  refine ⟨⟨?_, ?_⟩, ?_⟩
  · intro h
    obtain ⟨checked, hcheck, hclean⟩ := h
    obtain ⟨hwrite, -, hkeep⟩ := write_of_clean_check tree hcheck hclean
    exact ⟨⟨_, hwrite⟩, fun change hmem place => by rw [hkeep change hmem]⟩
  · intro h
    obtain ⟨⟨summary, hwrite⟩, hkeep⟩ := h
    obtain ⟨gs, hrun, -⟩ := write_eq_ok.1 ⟨hwrite, rfl⟩
    obtain ⟨hall, hholds⟩ := hrun.holds_of_keep hkeep
    exact ⟨_, check_eq_ok.2 ⟨gs, hall, rfl⟩, isClean_checkSummary.2 hholds⟩
  · intro checked summary hcheck hclean hwrite
    cases hwrite.symm.trans (write_of_clean_check tree hcheck hclean).1
    rfl

def generatedText : String := "OUTPUT_VAR=t\nOUTPUT=d/x\nE X F m\n"

/-- A definition file whose output holds its fragment. -/
def generatedFiles : FileSystem where
  nodes := [(["d"], .directory), (["a.in"], .file generatedText.toUTF8),
    (["x", "d"], .file (Fragment.render "t" [⟨"E", "X", "F", "m"⟩]).toUTF8)]

/-- The definition file twice, in two spellings. -/
def generatedInputs : List Path := [⟨"a.in"⟩, ⟨"d/../a.in"⟩]

theorem isTree_generatedFiles : generatedFiles.IsTree := by
  apply FileSystem.isTree_of_nodes
  simp only [generatedFiles, List.forall_mem_cons]
  exact ⟨rfl, rfl, rfl, nofun⟩

theorem check_generatedFiles :
    ∃ checked, ((generateAll .check generatedInputs).run generatedFiles).result = .ok checked ∧
      checked.isClean = true := by
  let g (input : Path) := (Definition.parse generatedText).generated input "d/x"
  have hparse : Definition.parse generatedText =
      { directives := { arrayName := some "t", output := some "d/x" }
        entries := [⟨"E", "X", "F", "m"⟩] } := by
    decide +kernel
  have hgen : ∀ input ∈ generatedInputs, generatedFiles.generated input = .ok (g input) := by
    intro input hinput
    refine generated_eq_ok.2 ⟨_, _, FileSystem.readText_eq_ok.2 (FileSystem.read_eq_ok.2
      ⟨["a.in"], eq_ok_of_toOption ?_, rfl⟩), by rw [hparse]; rfl, rfl⟩
    revert input
    decide +kernel
  have hholds : ∀ input ∈ generatedInputs, generatedFiles.holds (g input) = true := by
    intro input hinput
    refine holds_iff.2 (FileSystem.read_eq_ok.2 ⟨["x", "d"], eq_ok_of_toOption ?_, ?_⟩)
    · revert input
      decide +kernel
    · simp only [g, hparse]
      rfl
  refine ⟨_, check_eq_ok.2 ⟨generatedInputs.map g, ?_, rfl⟩, isClean_checkSummary.2 ?_⟩
  · exact List.forall₂_map_right_iff.2 (List.forall₂_same.2 hgen)
  · exact List.forall_mem_map.2 hholds

theorem clean_check_generatedFiles :
    generatedFiles.IsTree ∧
    (∃ summary, ((generateAll .write generatedInputs).run generatedFiles).result = .ok summary) ∧
      ∀ change ∈ (generateAll .write generatedInputs).changes generatedFiles,
        ∀ place, change.after.node? place = change.before.node? place :=
  ⟨isTree_generatedFiles, (clean_check_iff_writes_keep isTree_generatedFiles
    generatedInputs).1.1 check_generatedFiles⟩

end ErrorTable
