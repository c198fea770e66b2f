/-
What a batch can write over.

A batch keeps no record of its outputs, so it can lose a table and still succeed. Two inputs can
name one output, and then the later fragment replaces the earlier one; and an output can be an
input later on, which is then no longer the definition file that it was (`tables_lost`). These
are the only ways: a table whose input no earlier output names, and whose output no later output
names, is there at the end (`tables_kept`).
-/
import ErrorTable.Proofs.Agreement
import ErrorTable.Proofs.Independence
import ErrorTable.Proofs.Rereading

namespace ErrorTable

/-! ## Two inputs -/

theorem write_pair {fs : FileSystem} {first second : Path} {place place' : Location}
    {g g' : Generated} (hg : fs.generated first = .ok g)
    (hplace : fs.destination g.output = .ok place)
    (hg' : ∀ next, fs.write g.output g.fragment.toUTF8 = .ok next →
      next.generated second = .ok g')
    (hplace' : fs.destination g'.output = .ok place') :
    ((generateAll .write [first, second]).run fs).result =
        .ok { written := [g.output, g'.output] } ∧
      ∀ path, fs.sameFile g'.output path = true →
        ((generateAll .write [first, second]).run fs).files.read path =
          .ok g'.fragment.toUTF8 := by
  obtain ⟨next, hw⟩ := FileSystem.exists_write hplace g.fragment.toUTF8
  have hsame := FileSystem.sameDirectories_write hw
  obtain ⟨last, hw'⟩ := FileSystem.exists_write (hsame.destination.1 hplace') g'.fragment.toUTF8
  obtain ⟨hresult, hfiles⟩ := write_eq_ok.2
    ⟨_, .cons hg hw (.cons (hg' next hw) hw' (.nil last)), rfl⟩
  refine ⟨hresult, fun path hpath => ?_⟩
  rw [hfiles, FileSystem.read_write_iff hw', if_pos (by rwa [← hsame.sameFile])]

theorem write_sharedOutput :
    ((generateAll .write [⟨"a.in"⟩, ⟨"b.in"⟩]).run sharedOutput).result =
      .ok { written := [⟨"./x"⟩, ⟨"./d/../x"⟩] } ∧
    ∃ g, sharedOutput.generated ⟨"a.in"⟩ = .ok g ∧ g.output = ⟨"./x"⟩ ∧
      ((generateAll .write [⟨"a.in"⟩, ⟨"b.in"⟩]).run sharedOutput).files.read ⟨"./x"⟩ ≠
        .ok g.fragment.toUTF8 := by
  have hfirst : Definition.parse "OUTPUT=x\nE X F first\n" =
      { directives := { output := some "x" }, entries := [⟨"E", "X", "F", "first"⟩] } := by
    decide
  have hsecond : Definition.parse "OUTPUT=d/../x\nE X F second\n" =
      { directives := { output := some "d/../x" }, entries := [⟨"E", "X", "F", "second"⟩] } := by
    decide
  have ha : sharedOutput.generated ⟨"a.in"⟩ =
      .ok ((Definition.parse "OUTPUT=x\nE X F first\n").generated ⟨"a.in"⟩ "x") :=
    generated_of_read (FileSystem.read_eq_ok.2 ⟨["a.in"], by decide, rfl⟩)
      (by rw [hfirst]; rfl)
  have hb : sharedOutput.generated ⟨"b.in"⟩ =
      .ok ((Definition.parse "OUTPUT=d/../x\nE X F second\n").generated ⟨"b.in"⟩ "d/../x") :=
    generated_of_read (FileSystem.read_eq_ok.2 ⟨["b.in"], by decide, rfl⟩)
      (by rw [hsecond]; rfl)
  obtain ⟨hresult, hread⟩ := write_pair ha (by decide : _ = Except.ok ["x"])
    (fun next hw => (generated_write_iff hw (by decide)).2 hb)
    (by decide : _ = Except.ok ["x"])
  refine ⟨hresult, _, ha, rfl, ?_⟩
  rw [hread ⟨"./x"⟩ (by decide), Ne, FileSystem.ok_toUTF8_inj, Definition.generated,
    Definition.generated, Definition.render_parse_eq_iff, hfirst, hsecond]
  simp

/-! ## Tables that are kept -/

theorem FileSystem.lastWritten_eq {fs : FileSystem} {gs : List Generated} {path : Path} {i : Nat}
    {g : Generated} (hg : gs[i]? = some g) (hsame : fs.sameFile g.output path = true)
    (later : ∀ j g', i < j → gs[j]? = some g' → fs.sameFile g'.output path = false) :
    fs.lastWritten gs path = some g := by
  induction gs generalizing i with
  | nil => simp at hg
  | cons first gs ih =>
    rw [lastWritten_cons]
    cases i with
    | zero =>
      cases hg
      have hnone : fs.lastWritten gs path = none := by
        simp only [lastWritten, List.getLast?_eq_none_iff, List.filter_eq_nil_iff]
        intro g' hg'
        obtain ⟨j, hj⟩ := List.mem_iff_getElem?.1 hg'
        simp [later (j + 1) g' (by omega) hj]
      simp [hnone, hsame]
    | succ i =>
      rw [ih hg fun j g' hj hg' => later (j + 1) g' (by omega) hg']
      rfl

/-- **What becomes of the tables of a batch.** A batch is written. Each output holds at the end
the last fragment that was written to the file it names, so it holds what its own input gives on
the initial file system exactly if that is the same text. If no earlier output names the input,
the input gives in the batch what it gives on the initial file system; and if moreover no later
output names the same file as its output, its fragment is there at the end. -/
theorem tables_kept {fs after : FileSystem} {inputs : List Path} {summary : Summary}
    (hwrite : ((generateAll .write inputs).run fs).result = .ok summary)
    (hafter : ((generateAll .write inputs).run fs).files = after) :
    ∃ gs : List Generated, WriteRun fs inputs gs after ∧ summary.written = gs.map (·.output) ∧
      ∀ (i : Nat) (input : Path) (g : Generated), inputs[i]? = some input → gs[i]? = some g →
        (∃ g', after.lastWritten gs g.output = some g' ∧
          after.read g.output = .ok g'.fragment.toUTF8 ∧
          ∀ own, fs.generated input = .ok own →
            (after.read g.output = .ok own.fragment.toUTF8 ↔ g'.fragment = own.fragment)) ∧
        ((∀ j output, j < i → summary.written[j]? = some output →
            fs.sameFile output input = false) →
          fs.generated input = .ok g ∧
          ((∀ j output, i < j → summary.written[j]? = some output →
              fs.sameFile output g.output = false) →
            after.read g.output = .ok g.fragment.toUTF8)) := by
  obtain ⟨gs, hrun, rfl⟩ := write_eq_ok.1 ⟨hwrite, hafter⟩
  refine ⟨gs, hrun, rfl, fun i input g hinput hg => ⟨?_, fun earlier => ⟨?_, fun later => ?_⟩⟩⟩
  · obtain ⟨g', -, -, hlast⟩ := hrun.exists_lastWritten (List.mem_of_getElem? hg)
    have hread : after.read g.output = .ok g'.fragment.toUTF8 :=
      hrun.read_iff.2 (by rw [hlast])
    refine ⟨g', hlast, hread, fun own _ => ?_⟩
    rw [hread, FileSystem.ok_toUTF8_inj]
  · exact hrun.generated_at hinput hg fun j g' hj hg' =>
      earlier j g'.output hj (by simp [hg'])
  · have hlast := FileSystem.lastWritten_eq hg (hrun.sameFile_self (List.mem_of_getElem? hg))
      fun j g' hj hg' => by
        rw [← hrun.sameDirectories.sameFile]
        exact later j g'.output hj (by simp [hg'])
    exact hrun.read_iff.2 (by rw [hlast])

theorem tables_kept_sharedOutput :
    ((generateAll .write [⟨"a.in"⟩, ⟨"b.in"⟩]).run sharedOutput).result =
      .ok { written := [⟨"./x"⟩, ⟨"./d/../x"⟩] } ∧
    ∃ g, sharedOutput.generated ⟨"b.in"⟩ = .ok g ∧
      ((generateAll .write [⟨"a.in"⟩, ⟨"b.in"⟩]).run sharedOutput).files.read g.output =
        .ok g.fragment.toUTF8 := by
  obtain ⟨hwrite, -⟩ := write_sharedOutput
  have apart : ∀ output ∈ [⟨"./x"⟩, ⟨"./d/../x"⟩],
      sharedOutput.sameFile output ⟨"b.in"⟩ = false := by
    decide
  obtain ⟨gs, hrun, -, hkept⟩ := tables_kept hwrite rfl
  have hlength : gs.length = 2 := hrun.length_eq.symm
  obtain ⟨hgenerated, hread⟩ := (hkept 1 ⟨"b.in"⟩ gs[1] rfl
    (List.getElem?_eq_getElem _)).2 fun j output _ hj => apart output (List.mem_of_getElem? hj)
  refine ⟨hwrite, _, hgenerated, hread fun j output hlt hj => ?_⟩
  -- The output is the last one of the batch.
  have hbound := (List.getElem?_eq_some_iff.1 hj).1
  simp only [List.length_cons, List.length_nil] at hbound
  omega

/-! ## Tables that are lost -/

def chainedText : String := "OUTPUT=b.in\nE X F OUTPUT=y\n"

/-- A definition file whose output is another one. -/
def chainedOutput : FileSystem where
  nodes := [(["a.in"], .file chainedText.toUTF8),
    (["b.in"], .file "OUTPUT=y,\nE X F second\n".toUTF8)]

/-- What the first definition file gives. -/
def chainedTable : Generated := (Definition.parse chainedText).generated ⟨"a.in"⟩ "b.in"

/-- The fragment of the first definition file is a definition file: the line of its message is a
directive, and its opening line is an entry. -/
theorem parse_chainedTable :
    (Definition.parse chainedText).output? = some "b.in" ∧
    Definition.parse chainedTable.fragment =
      { directives := { output := some "y," }, entries := [Fragment.openingEntry ""] } := by
  have hparse : Definition.parse chainedText =
      { directives := { output := some "b.in" }, entries := [⟨"E", "X", "F", "OUTPUT=y"⟩] } := by
    decide
  have hreread := Definition.parse_render (Definition.isField_arrayName chainedText)
    (Definition.wellFormed_parse chainedText).entry
  refine ⟨by rw [hparse]; rfl, hreread.trans ?_⟩
  rw [hparse]
  decide

theorem write_chainedOutput :
    ((generateAll .write [⟨"a.in"⟩, ⟨"b.in"⟩]).run chainedOutput).result =
      .ok { written := [⟨"./b.in"⟩, ⟨"./y,"⟩] } ∧
    ∃ g, chainedOutput.generated ⟨"b.in"⟩ = .ok g ∧ g.output = ⟨"./y,"⟩ ∧
      ((generateAll .write [⟨"a.in"⟩, ⟨"b.in"⟩]).run chainedOutput).files.read ⟨"./y,"⟩ ≠
        .ok g.fragment.toUTF8 := by
  obtain ⟨hnamed, hreread⟩ := parse_chainedTable
  have hparse : Definition.parse "OUTPUT=y,\nE X F second\n" =
      { directives := { output := some "y," }, entries := [⟨"E", "X", "F", "second"⟩] } := by
    decide
  have ha : chainedOutput.generated ⟨"a.in"⟩ = .ok chainedTable :=
    generated_of_read (FileSystem.read_eq_ok.2 ⟨["a.in"], by decide, rfl⟩) hnamed
  have hb : chainedOutput.generated ⟨"b.in"⟩ =
      .ok ((Definition.parse "OUTPUT=y,\nE X F second\n").generated ⟨"b.in"⟩ "y,") :=
    generated_of_read (FileSystem.read_eq_ok.2 ⟨["b.in"], by decide, rfl⟩)
      (by rw [hparse]; rfl)
  have hsecond : ∀ next, chainedOutput.write ⟨"./b.in"⟩ chainedTable.fragment.toUTF8 = .ok next →
      next.generated ⟨"b.in"⟩ =
        .ok ((Definition.parse chainedTable.fragment).generated ⟨"b.in"⟩ "y,") := by
    intro next hw
    refine generated_of_read ?_ (by rw [hreread]; rfl)
    rw [FileSystem.read_write_iff hw, if_pos (by decide)]
  obtain ⟨hresult, hread⟩ := write_pair ha (by decide : _ = Except.ok ["b.in"])
    hsecond (by decide : _ = Except.ok ["y,"])
  refine ⟨hresult, _, hb, rfl, ?_⟩
  rw [hread ⟨"./y,"⟩ (by decide), Ne, FileSystem.ok_toUTF8_inj, Definition.generated,
    Definition.generated, Definition.render_parse_eq_iff, hreread, hparse]
  simp [Fragment.openingEntry]

/-- **A batch can lose a table and succeed.** An output can be written over by a later one, and
an input by an earlier output. -/
theorem tables_lost :
    (((generateAll .write [⟨"a.in"⟩, ⟨"b.in"⟩]).run sharedOutput).result =
        .ok { written := [⟨"./x"⟩, ⟨"./d/../x"⟩] } ∧
      ∃ g, sharedOutput.generated ⟨"a.in"⟩ = .ok g ∧ g.output = ⟨"./x"⟩ ∧
        ((generateAll .write [⟨"a.in"⟩, ⟨"b.in"⟩]).run sharedOutput).files.read ⟨"./x"⟩ ≠
          .ok g.fragment.toUTF8) ∧
    ((generateAll .write [⟨"a.in"⟩, ⟨"b.in"⟩]).run chainedOutput).result =
        .ok { written := [⟨"./b.in"⟩, ⟨"./y,"⟩] } ∧
      ∃ g, chainedOutput.generated ⟨"b.in"⟩ = .ok g ∧ g.output = ⟨"./y,"⟩ ∧
        ((generateAll .write [⟨"a.in"⟩, ⟨"b.in"⟩]).run chainedOutput).files.read ⟨"./y,"⟩ ≠
          .ok g.fragment.toUTF8 :=
  ⟨write_sharedOutput, write_chainedOutput⟩

end ErrorTable
