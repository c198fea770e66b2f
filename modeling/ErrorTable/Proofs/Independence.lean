/-
A batch is the sum of its files.

If no output of a batch is an input of it later on, every input gives what it would give
alone, before anything is written (`WriteRun.generated_before`). A place then holds the last
fragment that is written to it, and every place to which nothing is written is as it was
(`WriteRun.node?_eq`). If moreover the outputs are apart from each other and from all inputs,
the order of the batch makes no difference (`exists_writeRun`, `lastWrittenAt_perm`).
-/
import ErrorTable.Proofs.Runs
import Mathlib.Data.List.Perm.Basic

namespace ErrorTable

namespace FileSystem

/-- Of the fragments of a batch, the last one that is written to a place. -/
def lastWrittenAt (fs : FileSystem) (gs : List Generated) (place : Location) :
    Option Generated :=
  (gs.filter fun g => fs.leadsTo g.output place).getLast?

theorem SameDirectories.lastWrittenAt {a b : FileSystem} (h : SameDirectories a b)
    (gs : List Generated) (place : Location) :
    a.lastWrittenAt gs place = b.lastWrittenAt gs place := by
  simp only [FileSystem.lastWrittenAt, h.leadsTo]

/-- If the outputs name different files, at most one fragment is written to a place, and it is
found in whatever order the fragments are listed. -/
theorem lastWrittenAt_perm {fs : FileSystem} {gs gs' : List Generated} (hperm : gs'.Perm gs)
    (different : gs.Pairwise fun a b => fs.sameFile a.output b.output = false)
    (place : Location) : fs.lastWrittenAt gs' place = fs.lastWrittenAt gs place := by
  have hfilter := hperm.filter fun g => fs.leadsTo g.output place
  have hpairwise := different.filter fun g => fs.leadsTo g.output place
  have hleads : ∀ g ∈ gs.filter fun g => fs.leadsTo g.output place,
      fs.resolve g.output = .ok place := by
    intro g hg
    exact leadsTo_iff.1 (List.mem_filter.1 hg).2
  unfold lastWrittenAt
  cases hgs : gs.filter fun g => fs.leadsTo g.output place with
  | nil =>
    rw [hgs] at hfilter
    rw [hfilter.eq_nil]
  | cons g rest =>
    rw [hgs] at hfilter hpairwise hleads
    cases rest with
    | nil => rw [hfilter.eq_singleton]
    | cons g' rest =>
      have hsame : fs.sameFile g.output g'.output = true :=
        sameFile_iff.2 ⟨place, hleads g (by simp), hleads g' (by simp)⟩
      rw [(List.pairwise_cons.1 hpairwise).1 g' (by simp)] at hsame
      cases hsame

end FileSystem

theorem forall₂_imp_of_mem {α β : Type} {R S : α → β → Prop} {l : List α} {m : List β}
    (h : List.Forall₂ R l m) (himp : ∀ a ∈ l, ∀ b, R a b → S a b) : List.Forall₂ S l m := by
  induction h with
  | nil => exact .nil
  | cons hab _ ih =>
    exact .cons (himp _ List.mem_cons_self _ hab) (ih fun a ha => himp a (List.mem_cons_of_mem _ ha))

theorem generated_write_iff {fs next : FileSystem} {path input : Path} {content : ByteArray}
    (wrote : fs.write path content = .ok next) (apart : fs.sameFile path input = false)
    {g : Generated} : next.generated input = .ok g ↔ fs.generated input = .ok g := by
  simp only [generated_eq_ok, FileSystem.readText_eq_ok, FileSystem.read_write_iff wrote, apart,
    Bool.false_eq_true, if_false]

namespace WriteRun

variable {fs last : FileSystem} {inputs : List Path} {gs : List Generated}

/-- **What a batch does to a file system.** A place holds the last fragment that was written to
it, and what it held before if nothing was. -/
theorem node?_eq (h : WriteRun fs inputs gs last) (place : Location) :
    last.node? place =
      match fs.lastWrittenAt gs place with
      | some g => some (.file g.fragment.toUTF8)
      | none => fs.node? place := by
  induction h with
  | nil => rfl
  | @cons fs next last input inputs g gs generated wrote rest ih =>
    rw [ih, ← (FileSystem.sameDirectories_write wrote).lastWrittenAt, FileSystem.node?_write wrote]
    simp only [FileSystem.lastWrittenAt, getLast?_filter_cons]
    cases (gs.filter fun g => fs.leadsTo g.output place).getLast? with
    | some g' => rfl
    | none => cases fs.leadsTo g.output place <;> rfl

theorem length_eq (h : WriteRun fs inputs gs last) : inputs.length = gs.length := by
  induction h with
  | nil => rfl
  | cons _ _ _ ih => simp [ih]

theorem generated_at (h : WriteRun fs inputs gs last) {i : Nat} {input : Path} {g : Generated}
    (hinput : inputs[i]? = some input) (hg : gs[i]? = some g)
    (apart : ∀ j g', j < i → gs[j]? = some g' → fs.sameFile g'.output input = false) :
    fs.generated input = .ok g := by
  induction h generalizing i with
  | nil => simp at hg
  | @cons fs next last first inputs g₀ gs generated wrote rest ih =>
    cases i with
    | zero =>
      cases hinput
      cases hg
      exact generated
    | succ i =>
      refine (generated_write_iff wrote (apart 0 g₀ (by omega) rfl)).1 (ih hinput hg ?_)
      intro j g' hj hg'
      rw [← (FileSystem.sameDirectories_write wrote).sameFile]
      exact apart (j + 1) g' (by omega) hg'

theorem generated_before (h : WriteRun fs inputs gs last)
    (apart : ∀ (i j : Nat) (g : Generated) (input : Path), i < j → gs[i]? = some g →
      inputs[j]? = some input → fs.sameFile g.output input = false) :
    List.Forall₂ (fun input g => fs.generated input = .ok g) inputs gs := by
  refine List.forall₂_iff_get.2 ⟨h.length_eq, fun j hj hj' => ?_⟩
  have hinput : inputs[j]? = some (inputs.get ⟨j, hj⟩) := List.getElem?_eq_getElem hj
  exact h.generated_at hinput (List.getElem?_eq_getElem hj') fun i g hij hg =>
    apart i j g _ hij hg hinput

theorem destination (h : WriteRun fs inputs gs last) {g : Generated} (hg : g ∈ gs) :
    ∃ place, fs.destination g.output = .ok place := by
  induction h with
  | nil => simp at hg
  | cons generated wrote rest ih =>
    rcases List.mem_cons.1 hg with rfl | hg
    · obtain ⟨place, hd, -⟩ := FileSystem.write_eq_ok.1 wrote
      exact ⟨place, hd⟩
    · obtain ⟨place, hd⟩ := ih hg
      exact ⟨place, (FileSystem.sameDirectories_write wrote).destination.2 hd⟩

end WriteRun

/-- A batch can be written if something is generated from every input, every output can be
written on its own, and no output is an input. -/
theorem exists_writeRun {fs : FileSystem} {inputs : List Path} {gs : List Generated}
    (hall : List.Forall₂ (fun input g => fs.generated input = .ok g) inputs gs)
    (writable : ∀ g ∈ gs, ∃ place, fs.destination g.output = .ok place)
    (apart : ∀ g ∈ gs, ∀ input ∈ inputs, fs.sameFile g.output input = false) :
    ∃ last, WriteRun fs inputs gs last := by
  induction inputs generalizing fs gs with
  | nil =>
    cases hall
    exact ⟨fs, .nil fs⟩
  | cons input inputs ih =>
    cases hall with
    | @cons _ g _ gs generated hrest =>
      obtain ⟨place, hd⟩ := writable g List.mem_cons_self
      obtain ⟨next, wrote⟩ : ∃ next, fs.write g.output g.fragment.toUTF8 = .ok next :=
        ⟨_, FileSystem.write_eq_ok.2 ⟨place, hd, rfl⟩⟩
      have hsame := FileSystem.sameDirectories_write wrote
      -- The first write leaves the rest of the batch as it found it.
      have hgenerated := forall₂_imp_of_mem hrest fun input' hmem g' hg' =>
        (generated_write_iff wrote (apart g List.mem_cons_self input'
          (List.mem_cons_of_mem _ hmem))).2 hg'
      have hwritable : ∀ g' ∈ gs, ∃ place, next.destination g'.output = .ok place := by
        intro g' hg'
        obtain ⟨place', hd'⟩ := writable g' (List.mem_cons_of_mem _ hg')
        exact ⟨place', hsame.destination.1 hd'⟩
      have hapart : ∀ g' ∈ gs, ∀ input' ∈ inputs, next.sameFile g'.output input' = false := by
        intro g' hg' input' hmem
        rw [← hsame.sameFile]
        exact apart g' (List.mem_cons_of_mem _ hg') input' (List.mem_cons_of_mem _ hmem)
      obtain ⟨last, hlast⟩ := ih hgenerated hwritable hapart
      exact ⟨last, .cons generated wrote hlast⟩

/-- **A batch is the sum of its files.** A batch is written, and no output of it is an input at
a later position. Then every input gives what it gives alone on the initial file system (`gs`,
position by position), a place to which outputs lead holds the fragment of the last of them,
and every other place is as it was: no file appears or disappears besides, and no directory.

If moreover the outputs name different files, none of them an input, the batch succeeds in any
other order, writes the outputs in that order and leaves the same behind. -/
theorem write_eq_sum {fs after : FileSystem} {inputs : List Path} {summary : Summary}
    (hwrite : ((generateAll .write inputs).run fs).result = .ok summary)
    (hafter : ((generateAll .write inputs).run fs).files = after)
    (apart : ∀ (i j : Nat) (output input : Path), i < j → summary.written[i]? = some output →
      inputs[j]? = some input → fs.sameFile output input = false) :
    ∃ gs : List Generated,
      List.Forall₂ (fun input g => fs.generated input = .ok g) inputs gs ∧
      summary = { written := gs.map (·.output) } ∧
      (∀ place, after.node? place =
        match fs.lastWrittenAt gs place with
        | some g => some (.file g.fragment.toUTF8)
        | none => fs.node? place) ∧
      (∀ place, after.node? place = some .directory ↔ fs.node? place = some .directory) ∧
      (summary.written.Pairwise (fun a b => fs.sameFile a b = false) →
        (∀ output ∈ summary.written, ∀ input ∈ inputs, fs.sameFile output input = false) →
        ∀ reordered : List Path, reordered.Perm inputs →
          ∃ gs' : List Generated, gs'.Perm gs ∧
            List.Forall₂ (fun input g => fs.generated input = .ok g) reordered gs' ∧
            ((generateAll .write reordered).run fs).result =
              .ok { written := gs'.map (·.output) } ∧
            ∀ place, ((generateAll .write reordered).run fs).files.node? place =
              after.node? place) := by
  obtain ⟨gs, hrun, rfl⟩ := write_eq_ok.1 ⟨hwrite, hafter⟩
  have hall := hrun.generated_before fun i j g input hij hg hinput =>
    apart i j g.output input hij (by simp [hg]) hinput
  refine ⟨gs, hall, rfl, hrun.node?_eq, fun place => (hrun.sameDirectories.directory place).symm,
    ?_⟩
  intro different inputsApart reordered hperm
  simp only [List.forall_mem_map] at inputsApart
  obtain ⟨gs', hall', hperm'⟩ := List.perm_comp_forall₂ hperm hall
  obtain ⟨last, hrun'⟩ := exists_writeRun hall'
    (fun g hg => hrun.destination (hperm'.mem_iff.1 hg))
    (fun g hg input hinput =>
      inputsApart g (hperm'.mem_iff.1 hg) input (hperm.mem_iff.1 hinput))
  obtain ⟨hresult, hfiles⟩ := write_eq_ok.2 ⟨gs', hrun', rfl⟩
  refine ⟨gs', hperm', hall', hresult, fun place => ?_⟩
  rw [hfiles, hrun'.node?_eq, hrun.node?_eq,
    FileSystem.lastWrittenAt_perm hperm' (List.pairwise_map.1 different)]

/-- Two definition files in two directories, each with its output in the directory of the
other. One of the outputs is there already. -/
def crossedFiles : FileSystem where
  nodes := [(["d"], .directory), (["a.in"], .file "OUTPUT=d/x\nE X F first\n".toUTF8),
    (["b.in", "d"], .file "OUTPUT=../y\nE X F second\n".toUTF8), (["y"], .file "old".toUTF8)]

def crossedInputs : List Path := [⟨"a.in"⟩, ⟨"d/b.in"⟩]

theorem write_eq_sum_crossedFiles :
    ((generateAll .write crossedInputs).run crossedFiles).result =
      .ok { written := [⟨"./d/x"⟩, ⟨"d/../y"⟩] } ∧
    ∃ summary, ((generateAll .write crossedInputs.reverse).run crossedFiles).result = .ok summary ∧
      ∀ place, ((generateAll .write crossedInputs.reverse).run crossedFiles).files.node? place =
        ((generateAll .write crossedInputs).run crossedFiles).files.node? place := by
  have hwrite : ((generateAll .write crossedInputs).run crossedFiles).result =
      .ok { written := [⟨"./d/x"⟩, ⟨"d/../y"⟩] } :=
    eq_ok_of_toOption (by decide +kernel)
  have hapart : ∀ output ∈ [⟨"./d/x"⟩, ⟨"d/../y"⟩], ∀ input ∈ crossedInputs,
      crossedFiles.sameFile output input = false := by
    decide +kernel
  obtain ⟨gs, -, -, -, -, hreorder⟩ := write_eq_sum hwrite rfl
    fun _ _ output input _ houtput hinput =>
      hapart output (List.mem_of_getElem? houtput) input (List.mem_of_getElem? hinput)
  obtain ⟨gs', -, -, hresult, hplaces⟩ :=
    hreorder (by decide +kernel) hapart _ (List.reverse_perm crossedInputs)
  exact ⟨hwrite, _, hresult, hplaces⟩

end ErrorTable
