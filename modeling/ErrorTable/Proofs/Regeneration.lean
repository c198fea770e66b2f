/-
Generating a table once more.

Writing what was just written changes nothing (`FileSystem.write_again`), so a table that is
generated once more stays as it is, if its definition file does. The definition file changes if
the output names it, and then the table is not made again: the definition file has become a
fragment, and no fragment is the definition file of its own table (`fragment_ne_of_reread`). So
generating is idempotent exactly if the output is apart from the definition file
(`regenerate_iff_apart`).
-/
import ErrorTable.Proofs.Failures
import ErrorTable.Proofs.Independence
import ErrorTable.Proofs.Rereading

namespace ErrorTable

theorem FileSystem.write_again {fs next : FileSystem} {path : Path} {content : ByteArray}
    (h : fs.write path content = .ok next) : next.write path content = .ok next := by
  have hsame := sameDirectories_write h
  obtain ⟨place, hd, rfl⟩ := write_eq_ok.1 h
  have hne := ne_nil_of_destination hd
  exact write_eq_ok.2 ⟨place, hsame.destination.1 hd,
    (put_eq_self hne (node?_put_self fs hne _)).symm⟩

theorem fragment_ne_of_reread {fs after : FileSystem} {path : Path} {g g' : Generated}
    (hg : fs.generated path = .ok g) (hread : after.read path = .ok g.fragment.toUTF8)
    (hg' : after.generated path = .ok g') : g'.fragment ≠ g.fragment := by
  intro heq
  obtain ⟨content, output, -, -, rfl⟩ := generated_eq_ok.1 hg
  obtain ⟨content', output', hread', houtput', rfl⟩ := generated_eq_ok.1 hg'
  obtain rfl := FileSystem.ok_toUTF8_inj.1
    ((FileSystem.readText_eq_ok.1 hread').symm.trans hread)
  obtain ⟨hname, hentries⟩ := (Definition.render_parse_eq_iff _ content).1 heq
  cases houtput'.symm.trans (Definition.output?_parse_render hname hentries)

/-- **When generating is idempotent.** A definition file is written. Writing it once more
succeeds, gives the same output, and leaves every place as it is, exactly if the output does not
name the definition file. -/
theorem regenerate_iff_apart {fs after : FileSystem} {path : Path} {summary : Summary}
    (hwrite : ((generateAll .write [path]).run fs).result = .ok summary)
    (hafter : ((generateAll .write [path]).run fs).files = after) :
    ∃ output, summary.written = [output] ∧
      (((generateAll .write [path]).run after).result = .ok summary ∧
          (∀ place, ((generateAll .write [path]).run after).files.node? place =
            after.node? place) ↔
        fs.sameFile output path = false) := by
  obtain ⟨g, hg, hw, rfl⟩ := write_singleton_eq_ok.1 ⟨hwrite, hafter⟩
  refine ⟨g.output, rfl, ?_, ?_⟩
  · intro h
    obtain ⟨hagain, hkeep⟩ := h
    obtain ⟨g', hg', hw', hsummary⟩ := write_singleton_eq_ok.1 ⟨hagain, rfl⟩
    have houtput : g.output = g'.output := by simpa using congrArg Summary.written hsummary
    rw [FileSystem.eq_of_write hw' hkeep, ← houtput] at hw'
    rw [Bool.eq_false_iff]
    intro hsame
    have hread : after.read path = .ok g.fragment.toUTF8 := by
      rw [FileSystem.read_write_iff hw, if_pos hsame]
    refine fragment_ne_of_reread hg hread hg' (FileSystem.ok_toUTF8_inj.1 ?_)
    rw [← FileSystem.read_write_self hw', FileSystem.read_write_self hw]
  · intro apart
    have hg' : after.generated path = .ok g := (generated_write_iff hw apart).2 hg
    obtain ⟨hagain, hfiles⟩ := write_singleton_eq_ok.2 ⟨g, hg', FileSystem.write_again hw, rfl⟩
    exact ⟨hagain, fun place => by rw [hfiles]⟩

theorem regenerate_sharedOutput :
    ((generateAll .write [⟨"b.in"⟩]).run sharedOutput).result =
      .ok { written := [⟨"./d/../x"⟩] } ∧
    ((generateAll .write [⟨"b.in"⟩]).run
      ((generateAll .write [⟨"b.in"⟩]).run sharedOutput).files).result =
        .ok { written := [⟨"./d/../x"⟩] } := by
  have hwrite : ((generateAll .write [⟨"b.in"⟩]).run sharedOutput).result =
      .ok { written := [⟨"./d/../x"⟩] } := by
    decide
  obtain ⟨output, hwritten, hiff⟩ := regenerate_iff_apart hwrite rfl
  cases hwritten
  exact ⟨hwrite, (hiff.2 (by decide)).1⟩

def selfText : String := "OUTPUT_VAR=t\nOUTPUT=a.in\nE X F m\n"

/-- A definition file that names itself as its output. -/
def selfOutput : FileSystem where
  nodes := [(["a.in"], .file selfText.toUTF8)]

/-- What the definition file gives. -/
def selfTable : Generated := (Definition.parse selfText).generated ⟨"a.in"⟩ "a.in"

theorem output?_selfTable : (Definition.parse selfTable.fragment).output? = none := by
  have hparse := Definition.parse_render (Definition.isField_arrayName selfText)
    (Definition.wellFormed_parse selfText).entry
  refine (congrArg Definition.output? hparse).trans ?_
  decide

/-- **Generating a table can destroy its definition file.** The definition file is replaced with
its own fragment, and nothing is generated from it any more. -/
theorem definition_file_destroyed :
    ((generateAll .write [⟨"a.in"⟩]).run selfOutput).result = .ok { written := [⟨"./a.in"⟩] } ∧
    ((generateAll .write [⟨"a.in"⟩]).run
      ((generateAll .write [⟨"a.in"⟩]).run selfOutput).files).result =
        .error (.missingOutput ⟨"a.in"⟩) := by
  have hg : selfOutput.generated ⟨"a.in"⟩ = .ok selfTable :=
    generated_of_read (FileSystem.read_eq_ok.2 ⟨["a.in"], by decide, rfl⟩)
      (by decide)
  obtain ⟨after, hw⟩ := FileSystem.exists_write
    (by decide : selfOutput.destination ⟨"./a.in"⟩ = .ok ["a.in"])
    selfTable.fragment.toUTF8
  obtain ⟨hresult, hfiles⟩ := write_singleton_eq_ok.2 ⟨_, hg, hw, rfl⟩
  have hread : after.readText ⟨"a.in"⟩ = .ok selfTable.fragment := by
    rw [FileSystem.readText_eq_ok, FileSystem.read_write_iff hw, if_pos (by decide)]
  refine ⟨hresult, ?_⟩
  rw [hfiles]
  exact (generateAll_cons_of_fails (.output hread output?_selfTable) []).1

end ErrorTable
