/-
An output is stale exactly if its table has changed.

A definition file is written and then edited. What the output holds is the fragment of the
old text, what the check compares it with is the fragment of the new one, and fragments
tell any two tables apart (`Definition.render_parse_eq_iff`). So the check notices every
change of the table and nothing else (`stale_iff_table_changed`).
-/
import ErrorTable.Proofs.Parsing
import ErrorTable.Proofs.Runs

namespace ErrorTable

theorem write_of_singleton {fs after : FileSystem} {path : Path} {g : Generated}
    {summary : Summary} (hg : fs.generated path = .ok g)
    (hwrite : ((generateAll .write [path]).run fs).result = .ok summary)
    (hafter : ((generateAll .write [path]).run fs).files = after) :
    fs.write g.output g.fragment.toUTF8 = .ok after := by
  obtain ⟨g', hg', wrote, -⟩ := write_singleton_eq_ok.1 ⟨hwrite, hafter⟩
  cases hg.symm.trans hg'
  exact wrote

/-- Editing a file does not touch an output apart from it: an output that was written holds
its fragment still. -/
theorem read_output_of_edit {fs after edited : FileSystem} {path output : Path}
    {fragment text : String} (wrote : fs.write output fragment.toUTF8 = .ok after)
    (apart : fs.sameFile output path = false)
    (edit : after.write path text.toUTF8 = .ok edited) :
    edited.read output = .ok fragment.toUTF8 := by
  have hsame := (FileSystem.sameDirectories_write wrote).sameFile path output
  rw [FileSystem.sameFile_comm, apart] at hsame
  rw [FileSystem.read_write_iff edit, ← hsame]
  exact FileSystem.read_write_self wrote

theorem check_singleton {fs : FileSystem} {path : Path} {g : Generated} {fragment : String}
    (hg : fs.generated path = .ok g) (held : fs.read g.output = .ok fragment.toUTF8) :
    ((generateAll .check [path]).run fs).result =
      .ok (if fragment = g.fragment then { upToDate := [g.output] }
        else { stale := [g.output] }) := by
  have hholds : fs.holds g = true ↔ fragment = g.fragment := by
    rw [holds_iff, held, Except.ok.injEq, String.toUTF8_eq_toByteArray,
      String.toUTF8_eq_toByteArray, String.toByteArray_inj]
  refine check_eq_ok.2 ⟨[g], .cons hg .nil, ?_⟩
  rw [checkSummary_cons, if_congr hholds rfl rfl]
  split <;> rfl

/-- **Staleness is exact.** A definition file that holds `before` is written, and its output
is not the definition file itself. Then the definition file is edited to hold `content`,
which names the same output. The check succeeds, and it finds the output stale exactly if
the two texts differ in their entries or in the name they give to the array. -/
theorem stale_iff_table_changed {fs after edited : FileSystem} {path : Path}
    {before content output : String} {summary : Summary}
    (hbefore : fs.readText path = .ok before)
    (outputBefore : Definition.lastValue? .output before = some output)
    (outputAfter : Definition.lastValue? .output content = some output)
    (nonempty : output ≠ "")
    (apart : fs.sameFile (path.dir.join ⟨output⟩) path = false)
    (hwrite : ((generateAll .write [path]).run fs).result = .ok summary)
    (hafter : ((generateAll .write [path]).run fs).files = after)
    (edit : after.write path content.toUTF8 = .ok edited) :
    ∃ checked, ((generateAll .check [path]).run edited).result = .ok checked ∧
      (checked = { stale := [path.dir.join ⟨output⟩] } ↔
        (Definition.parse before).entries ≠ (Definition.parse content).entries ∨
          (Definition.lastValue? .arrayName before).getD "" ≠
            (Definition.lastValue? .arrayName content).getD "") ∧
      (checked = { upToDate := [path.dir.join ⟨output⟩] } ↔
        (Definition.parse before).entries = (Definition.parse content).entries ∧
          (Definition.lastValue? .arrayName before).getD "" =
            (Definition.lastValue? .arrayName content).getD "") := by
  have hold : fs.generated path = .ok ((Definition.parse before).generated path output) :=
    generated_eq_ok.2 ⟨before, output, hbefore, Definition.output?_parse.2
      ⟨outputBefore, nonempty⟩, rfl⟩
  have hnew : edited.generated path = .ok ((Definition.parse content).generated path output) := by
    have hread := FileSystem.readText_eq_ok.2 (FileSystem.read_write_self edit)
    exact generated_eq_ok.2 ⟨content, output, hread, Definition.output?_parse.2
      ⟨outputAfter, nonempty⟩, rfl⟩
  have held := read_output_of_edit (write_of_singleton hold hwrite hafter) apart edit
  refine ⟨_, check_singleton hnew held, ?_⟩
  have hfragment : ((Definition.parse before).generated path output).fragment =
        ((Definition.parse content).generated path output).fragment ↔
      (Definition.parse before).entries = (Definition.parse content).entries ∧
        (Definition.lastValue? .arrayName before).getD "" =
          (Definition.lastValue? .arrayName content).getD "" := by
    rw [← Definition.arrayName_parse, ← Definition.arrayName_parse, and_comm]
    exact Definition.render_parse_eq_iff before content
  rw [if_congr hfragment rfl rfl, ← not_and_or]
  split
  · next h => simp [h, Definition.generated]
  · next h => simp [h, Definition.generated]

def editedBefore : String := "OUTPUT_VAR=t\nOUTPUT=d/x\nE X F m\n"

/-- The same output under another order of the directives, and one message that has got the
end of a record. -/
def editedContent : String := "# edited\r\nOUTPUT= d/x\r\nOUTPUT_VAR=t\r\nE X F m,\t\x7d,\r\n"

def editedFiles : FileSystem where
  nodes := [(["d"], .directory), (["a.in"], .file editedBefore.toUTF8)]

theorem stale_editedFiles :
    ∃ after edited, ((generateAll .write [⟨"a.in"⟩]).run editedFiles).files = after ∧
      after.write ⟨"a.in"⟩ editedContent.toUTF8 = .ok edited ∧
        ((generateAll .check [⟨"a.in"⟩]).run edited).result = .ok { stale := [⟨"./d/x"⟩] } := by
  have hwrite : ((generateAll .write [⟨"a.in"⟩]).run editedFiles).result =
      .ok { written := [⟨"./d/x"⟩] } :=
    eq_ok_of_toOption (by decide +kernel)
  have hedit : (((generateAll .write [⟨"a.in"⟩]).run editedFiles).files.write ⟨"a.in"⟩
      editedContent.toUTF8).toOption.isSome := by
    decide +kernel
  obtain ⟨edited, hedited⟩ := Option.isSome_iff_exists.1 hedit
  have hread : editedFiles.readText ⟨"a.in"⟩ = .ok editedBefore :=
    FileSystem.readText_eq_ok.2 (FileSystem.read_eq_ok.2
      ⟨["a.in"], eq_ok_of_toOption (by decide +kernel), rfl⟩)
  obtain ⟨checked, hcheck, hstale, -⟩ := stale_iff_table_changed hread
    (by decide +kernel : Definition.lastValue? .output editedBefore = some "d/x")
    (by decide +kernel : Definition.lastValue? .output editedContent = some "d/x")
    (by decide) (by decide +kernel) hwrite rfl (eq_ok_of_toOption hedited)
  have hchanged : checked = { stale := [⟨"./d/x"⟩] } := hstale.2 (.inl (by decide +kernel))
  exact ⟨_, edited, rfl, eq_ok_of_toOption hedited, hchanged ▸ hcheck⟩

end ErrorTable
