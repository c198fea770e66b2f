/-
A check only reads, and it says the same in whatever order its inputs come.

A check leaves the file system alone after every input, so what it says of one input does not
depend on the others. One function from inputs to what is generated from them therefore describes
the checks of all orders at once: each input has its output once in one of two lists, and another
order of the inputs is another order of both lists (`check_eq_ok_iff_isCheckOf`,
`check_reordered`).
-/
import ErrorTable.Proofs.Runs

namespace ErrorTable

/-- What a check says of some inputs, if `f` is what is generated from them. Nothing is written.
The output of each input is up to date if it can be read and holds exactly the fragment, and stale
if not, and both lists are in the order of the inputs. -/
structure Summary.IsCheckOf (summary : Summary) (fs : FileSystem) (f : Path → Generated)
    (inputs : List Path) : Prop where
  written : summary.written = []
  upToDate : summary.upToDate =
    (inputs.filter fun input => fs.read (f input).output = .ok (f input).fragment.toUTF8).map
      fun input => (f input).output
  stale : summary.stale =
    (inputs.filter fun input => fs.read (f input).output ≠ .ok (f input).fragment.toUTF8).map
      fun input => (f input).output

/-- Something is generated from each of some inputs, and `f` is what. -/
def FileSystem.Generates (fs : FileSystem) (f : Path → Generated) (inputs : List Path) : Prop :=
  ∀ input ∈ inputs, fs.generated input = .ok (f input)

variable {fs : FileSystem} {f : Path → Generated} {inputs reordered : List Path}
  {summary summary' : Summary}

theorem FileSystem.Generates.of_perm (h : fs.Generates f inputs)
    (perm : reordered.Perm inputs) : fs.Generates f reordered :=
  fun input hinput => h input (perm.mem_iff.1 hinput)

theorem FileSystem.Generates.forall₂ (h : fs.Generates f inputs) :
    List.Forall₂ (fun input g => fs.generated input = .ok g) inputs (inputs.map f) :=
  List.forall₂_map_right_iff.2 (List.forall₂_same.2 h)

/-- The same is generated from an input each time that it comes, so there is one function for all
of them. -/
theorem FileSystem.exists_generates {gs : List Generated}
    (h : List.Forall₂ (fun input g => fs.generated input = .ok g) inputs gs) :
    ∃ f, fs.Generates f inputs ∧ inputs.map f = gs := by
  have hunique : ∀ input, ∃ g, ∀ g', fs.generated input = .ok g' → g = g' := by
    intro input
    cases fs.generated input with
    | ok g => exact ⟨g, fun _ hg => Except.ok.inj hg⟩
    | error failure => exact ⟨⟨input, input, "", 0⟩, nofun⟩
  obtain ⟨f, hf⟩ := Classical.skolem.1 hunique
  refine ⟨f, ?_⟩
  induction h with
  | nil => exact ⟨nofun, rfl⟩
  | @cons input g inputs gs hg _ ih =>
    obtain ⟨hgenerates, hgs⟩ := ih
    have hfirst := hf input g hg
    refine ⟨List.forall_mem_cons.2 ⟨?_, hgenerates⟩, ?_⟩
    · rw [hfirst, hg]
    · rw [List.map_cons, hfirst, hgs]

/-- A summary has exactly one way to say all this. -/
theorem Summary.isCheckOf_iff :
    summary.IsCheckOf fs f inputs ↔ summary = checkSummary fs (inputs.map f) := by
  have hholds : ∀ input, fs.holds (f input) =
      decide (fs.read (f input).output = .ok (f input).fragment.toUTF8) := by
    intro input
    rw [Bool.eq_iff_iff, holds_iff, decide_eq_true_eq]
  obtain ⟨written, upToDate, stale⟩ := summary
  simp only [checkSummary, List.filter_map, List.map_map, Function.comp_def, hholds,
    Summary.mk.injEq]
  constructor
  · intro h
    exact ⟨h.written, h.upToDate, by simpa using h.stale⟩
  · intro h
    obtain ⟨hwritten, hupToDate, hstale⟩ := h
    exact ⟨hwritten, hupToDate, by simpa using hstale⟩

/-- **A check, by its inputs.** It succeeds if something is generated from each of them. -/
theorem check_eq_ok_iff_isCheckOf :
    ((generateAll .check inputs).run fs).result = .ok summary ↔
      ∃ f, fs.Generates f inputs ∧ summary.IsCheckOf fs f inputs := by
  simp only [check_eq_ok, Summary.isCheckOf_iff]
  constructor
  · intro h
    obtain ⟨gs, hgs, rfl⟩ := h
    obtain ⟨f, hf, rfl⟩ := FileSystem.exists_generates hgs
    exact ⟨f, hf, rfl⟩
  · intro h
    obtain ⟨f, hf, rfl⟩ := h
    exact ⟨_, hf.forall₂, rfl⟩

theorem check_succeeds_iff :
    (∃ summary, ((generateAll .check inputs).run fs).result = .ok summary) ↔
      ∃ f, fs.Generates f inputs := by
  simp only [check_eq_ok_iff_isCheckOf]
  constructor
  · intro h
    obtain ⟨_, f, hf, -⟩ := h
    exact ⟨f, hf⟩
  · intro h
    obtain ⟨f, hf⟩ := h
    exact ⟨_, f, hf, Summary.isCheckOf_iff.2 rfl⟩

namespace Summary.IsCheckOf

theorem upToDate_perm (h : summary.IsCheckOf fs f inputs) (h' : summary'.IsCheckOf fs f reordered)
    (perm : reordered.Perm inputs) : summary'.upToDate.Perm summary.upToDate := by
  rw [h.upToDate, h'.upToDate]
  exact (perm.filter _).map _

theorem stale_perm (h : summary.IsCheckOf fs f inputs) (h' : summary'.IsCheckOf fs f reordered)
    (perm : reordered.Perm inputs) : summary'.stale.Perm summary.stale := by
  rw [h.stale, h'.stale]
  exact (perm.filter _).map _

end Summary.IsCheckOf

/-- **Checking is reading, in any order.** The check of a batch leaves the file system alone,
whether it succeeds or not. If it succeeds, it has written nothing and says of the output of each
input whether the fragment is there. The check of the same inputs in another order succeeds exactly
if this one does, and then it says the same of each input, in that other order, and is clean exactly
if this one is. -/
theorem check_reordered (fs : FileSystem) (inputs : List Path) :
    ((generateAll .check inputs).run fs).files = fs ∧
    (∀ summary, ((generateAll .check inputs).run fs).result = .ok summary →
      ∃ f, fs.Generates f inputs ∧ summary.IsCheckOf fs f inputs ∧
        ∀ reordered, reordered.Perm inputs →
          ∃ summary', ((generateAll .check reordered).run fs).result = .ok summary' ∧
            summary'.IsCheckOf fs f reordered ∧
            summary'.upToDate.Perm summary.upToDate ∧ summary'.stale.Perm summary.stale ∧
            summary'.isClean = summary.isClean) ∧
    ∀ reordered, reordered.Perm inputs →
      ((∃ summary', ((generateAll .check reordered).run fs).result = .ok summary') ↔
        ∃ summary, ((generateAll .check inputs).run fs).result = .ok summary) := by
  refine ⟨files_check inputs fs, ?_, ?_⟩
  · intro summary hsummary
    obtain ⟨f, hf, hcheck⟩ := check_eq_ok_iff_isCheckOf.1 hsummary
    refine ⟨f, hf, hcheck, fun reordered perm => ?_⟩
    have hcheck' := Summary.isCheckOf_iff.2 (rfl : checkSummary fs (reordered.map f) = _)
    have hstale := hcheck.stale_perm hcheck' perm
    exact ⟨_, check_eq_ok_iff_isCheckOf.2 ⟨f, hf.of_perm perm, hcheck'⟩, hcheck',
      hcheck.upToDate_perm hcheck' perm, hstale, hstale.isEmpty_eq⟩
  · intro reordered perm
    rw [check_succeeds_iff, check_succeeds_iff]
    exact exists_congr fun f => ⟨fun h => h.of_perm perm.symm, fun h => h.of_perm perm⟩

def checkedText : String := "OUTPUT_VAR=t\nOUTPUT=x\nE X F m\n"

/-- One text in two definition files. The fragment is beside the first and missing beside the
second. -/
def checkedFiles : FileSystem where
  nodes := [(["a.in"], .file checkedText.toUTF8), (["d"], .directory),
    (["a.in", "d"], .file checkedText.toUTF8),
    (["x"], .file (Fragment.render "t" [⟨"E", "X", "F", "m"⟩]).toUTF8)]

/-- The first of the definition files twice, in two spellings, and the second between them. -/
def checkedInputs : List Path := [⟨"a.in"⟩, ⟨"d/a.in"⟩, ⟨"./a.in"⟩]

theorem check_checkedFiles :
    ((generateAll .check checkedInputs).run checkedFiles).result =
      .ok { upToDate := [⟨"./x"⟩, ⟨"./x"⟩], stale := [⟨"d/x"⟩] } := by
  let f (input : Path) := (Definition.parse checkedText).generated input "x"
  have hparse : Definition.parse checkedText =
      { directives := { arrayName := some "t", output := some "x" }
        entries := [⟨"E", "X", "F", "m"⟩] } := by
    decide +kernel
  have hgenerates : checkedFiles.Generates f checkedInputs := by
    intro input hinput
    have hread : checkedFiles.read input = .ok checkedText.toUTF8 := by
      revert input
      decide +kernel
    exact generated_of_read hread (by rw [hparse]; rfl)
  have hpresent : ∀ input : Path, (f input).output = ⟨"./x"⟩ →
      checkedFiles.holds (f input) = true := by
    intro input houtput
    refine holds_iff.2 (FileSystem.read_eq_ok.2 ⟨["x"], eq_ok_of_toOption ?_, ?_⟩)
    · rw [houtput]
      decide +kernel
    · simp only [f, hparse]
      rfl
  have hfirst : checkedFiles.holds (f ⟨"a.in"⟩) = true := hpresent _ (by decide +kernel)
  have hsecond : checkedFiles.holds (f ⟨"d/a.in"⟩) = false := by decide +kernel
  have hthird : checkedFiles.holds (f ⟨"./a.in"⟩) = true := hpresent _ (by decide +kernel)
  refine check_eq_ok.2 ⟨_, hgenerates.forall₂, ?_⟩
  simp only [checkedInputs, List.map_cons, List.map_nil, checkSummary_cons, hfirst, hsecond, hthird]
  decide +kernel

theorem check_reordered_checkedFiles :
    let reordered : List Path := [⟨"d/a.in"⟩, ⟨"./a.in"⟩, ⟨"a.in"⟩]
    reordered.Perm checkedInputs ∧
    ((generateAll .check checkedInputs).run checkedFiles).result =
      .ok { upToDate := [⟨"./x"⟩, ⟨"./x"⟩], stale := [⟨"d/x"⟩] } ∧
    ∃ summary', ((generateAll .check reordered).run checkedFiles).result = .ok summary' ∧
      summary'.upToDate.Perm [⟨"./x"⟩, ⟨"./x"⟩] ∧ summary'.stale.Perm [⟨"d/x"⟩] ∧
      summary'.isClean = false := by
  intro reordered
  have hperm : reordered.Perm checkedInputs := by decide
  obtain ⟨f, -, -, hreordered⟩ :=
    (check_reordered checkedFiles checkedInputs).2.1 _ check_checkedFiles
  obtain ⟨summary', hcheck, -, hupToDate, hstale, hclean⟩ := hreordered reordered hperm
  exact ⟨hperm, check_checkedFiles, summary', hcheck, hupToDate, hstale, hclean⟩

end ErrorTable
