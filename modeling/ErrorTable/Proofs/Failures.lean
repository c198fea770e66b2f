/-
A batch that fails stops at one input.

Each input of a batch is processed on the file system that the inputs before it left
(`generateAll_cons`), and an input that fails leaves that file system alone
(`run_processInput_of_fails`). So the inputs before the failing one have all of their effect, the
failing one has none, and those behind it are never looked at: whatever stands there, the batch
ends in the same way (`run_append_of_fails`).
-/
import ErrorTable.Proofs.Agreement

namespace ErrorTable

/-- One input of a batch: a fragment is generated from it, and written or compared. -/
def processInput (mode : Mode) (input : Path) : Program Summary := do
  let generated ← generate input
  generated.process mode

/-- Why an input fails: it cannot be read, it names no output, or its output cannot be written. -/
inductive Fails (fs : FileSystem) (input : Path) : Mode → Failure → Prop where
  | read {mode : Mode} {error : FileError} (unreadable : fs.readText input = .error error) :
      Fails fs input mode (.readInput input error)
  | output {mode : Mode} {content : String} (readable : fs.readText input = .ok content)
      (unnamed : (Definition.parse content).output? = none) :
      Fails fs input mode (.missingOutput input)
  | write {g : Generated} {error : FileError} (generated : fs.generated input = .ok g)
      (refused : fs.write g.output g.fragment.toUTF8 = .error error) :
      Fails fs input .write (.writeOutput g.output error)

/-! ## One input -/

theorem result_processInput (mode : Mode) (input : Path) (fs : FileSystem) :
    ((processInput mode input).run fs).result =
      fs.generated input >>= fun g => ((g.process mode).run fs).result := by
  rw [processInput, Program.result_bind, files_generate]
  rfl

theorem fails_of_generated {mode : Mode} {input : Path} {fs : FileSystem} {failure : Failure}
    (h : fs.generated input = .error failure) : Fails fs input mode failure := by
  rw [FileSystem.generated, run_generate] at h
  cases hread : fs.readText input with
  | error error =>
    rw [hread] at h
    cases h
    exact .read hread
  | ok content =>
    cases houtput : (Definition.parse content).output? with
    | none =>
      simp only [hread, houtput] at h
      cases h
      exact .output hread houtput
    | some output =>
      simp only [hread, houtput] at h
      cases h

theorem fails_of_result {mode : Mode} {input : Path} {fs : FileSystem} {failure : Failure}
    (h : ((processInput mode input).run fs).result = .error failure) :
    Fails fs input mode failure := by
  rw [result_processInput] at h
  cases hg : fs.generated input with
  | error failure' =>
    rw [hg] at h
    cases h
    exact fails_of_generated hg
  | ok g =>
    rw [hg] at h
    change ((g.process mode).run fs).result = .error failure at h
    cases mode with
    | check =>
      rw [result_process_check] at h
      cases h
    | write =>
      rw [run_process_write] at h
      cases hw : fs.write g.output g.fragment.toUTF8 with
      | ok next =>
        rw [hw] at h
        cases h
      | error error =>
        rw [hw] at h
        cases h
        exact .write hg hw

/-- An input that fails leaves the file system alone. -/
theorem run_processInput_of_fails {mode : Mode} {input : Path} {fs : FileSystem}
    {failure : Failure} (h : Fails fs input mode failure) :
    ((processInput mode input).run fs).result = .error failure ∧
      ((processInput mode input).run fs).files = fs := by
  rw [processInput, Program.result_bind, Program.files_bind, files_generate]
  cases h with
  | read unreadable => simp [run_generate, unreadable, bind, Except.bind]
  | output readable unnamed => simp [run_generate, readable, unnamed, bind, Except.bind]
  | write generated refused =>
    rw [FileSystem.generated] at generated
    simp only [generated, run_process_write, refused, bind, Except.bind, and_self]

/-! ## One input after the other -/

theorem Summary.append_assoc (a b c : Summary) : a ++ b ++ c = a ++ (b ++ c) := by
  have happend : ∀ x y : Summary,
      x ++ y = ⟨x.written ++ y.written, x.upToDate ++ y.upToDate, x.stale ++ y.stale⟩ :=
    fun _ _ => rfl
  simp [happend]

theorem generateAll_cons (mode : Mode) (input : Path) (inputs : List Path) :
    generateAll mode (input :: inputs) = (do
      let first ← processInput mode input
      let rest ← generateAll mode inputs
      return first ++ rest) := by
  rw [generateAll, processInput, bind_assoc]

theorem generateAll_append (mode : Mode) (before rest : List Path) :
    generateAll mode (before ++ rest) = (do
      let first ← generateAll mode before
      let second ← generateAll mode rest
      return first ++ second) := by
  induction before with
  | nil => exact (bind_pure _).symm
  | cons input before ih =>
    rw [List.cons_append, generateAll_cons, generateAll_cons, ih]
    simp only [bind_assoc, pure_bind, Summary.append_assoc]

theorem generateAll_cons_of_ok {mode : Mode} {input : Path} {fs : FileSystem} {first : Summary}
    (hfirst : ((processInput mode input).run fs).result = .ok first) (inputs : List Path) :
    ((generateAll mode (input :: inputs)).run fs).result =
        (((generateAll mode inputs).run ((processInput mode input).run fs).files).result >>=
          fun rest => .ok (first ++ rest)) ∧
      ((generateAll mode (input :: inputs)).run fs).files =
        ((generateAll mode inputs).run ((processInput mode input).run fs).files).files := by
  rw [generateAll_cons]
  simp only [Program.result_bind, Program.files_bind, Program.run_bind_pure, hfirst, and_true]
  rfl

theorem generateAll_cons_of_fails {mode : Mode} {input : Path} {fs : FileSystem}
    {failure : Failure} (hfails : Fails fs input mode failure) (inputs : List Path) :
    ((generateAll mode (input :: inputs)).run fs).result = .error failure ∧
      ((generateAll mode (input :: inputs)).run fs).files = fs := by
  obtain ⟨hresult, hfiles⟩ := run_processInput_of_fails hfails
  rw [generateAll_cons]
  simp only [Program.result_bind, Program.files_bind, hresult, hfiles, and_true]
  rfl

/-- **A failure ends a batch.** If the inputs before it are processed and an input then fails,
the batch fails with it, and leaves what the inputs before it left. What stands behind it makes
no difference. -/
theorem run_append_of_fails {mode : Mode} {before : List Path} {input : Path} {fs : FileSystem}
    {summary : Summary} {failure : Failure}
    (hbefore : ((generateAll mode before).run fs).result = .ok summary)
    (hfails : Fails ((generateAll mode before).run fs).files input mode failure)
    (rest : List Path) :
    ((generateAll mode (before ++ input :: rest)).run fs).result = .error failure ∧
      ((generateAll mode (before ++ input :: rest)).run fs).files =
        ((generateAll mode before).run fs).files := by
  obtain ⟨hresult, hfiles⟩ := generateAll_cons_of_fails hfails rest
  rw [generateAll_append]
  simp only [Program.result_bind, Program.files_bind, Program.run_bind_pure, hbefore, hresult,
    hfiles, and_true]
  rfl

theorem exists_fails {mode : Mode} {inputs : List Path} {fs : FileSystem} {failure : Failure}
    (h : ((generateAll mode inputs).run fs).result = .error failure) :
    ∃ before input rest summary, inputs = before ++ input :: rest ∧
      ((generateAll mode before).run fs).result = .ok summary ∧
      Fails ((generateAll mode before).run fs).files input mode failure := by
  induction inputs generalizing fs with
  | nil => cases h
  | cons head inputs ih =>
    cases hhead : ((processInput mode head).run fs).result with
    | error failure' =>
      have hfails := fails_of_result hhead
      rw [(generateAll_cons_of_fails hfails inputs).1] at h
      cases h
      exact ⟨[], head, inputs, {}, rfl, rfl, hfails⟩
    | ok first =>
      have hrest : ((generateAll mode inputs).run ((processInput mode head).run fs).files).result =
          .error failure := by
        rw [(generateAll_cons_of_ok hhead inputs).1] at h
        revert h
        cases ((generateAll mode inputs).run ((processInput mode head).run fs).files).result with
        | error failure' => exact id
        | ok summary => intro h; cases h
      obtain ⟨before, input, rest, summary, rfl, hbefore, hfails⟩ := ih hrest
      obtain ⟨hresult, hfiles⟩ := generateAll_cons_of_ok hhead before
      refine ⟨head :: before, input, rest, first ++ summary, rfl, ?_, ?_⟩
      · rw [hresult, hbefore]
        rfl
      · rw [hfiles]
        exact hfails

/-! ## Where a batch stops -/

/-- A batch stops at a position: the inputs before it are processed, and the input there fails
on the file system that they leave. -/
def StopsAt (fs : FileSystem) (mode : Mode) (inputs : List Path) (failure : Failure)
    (k : Nat) : Prop :=
  ∃ input summary, inputs[k]? = some input ∧
    ((generateAll mode (inputs.take k)).run fs).result = .ok summary ∧
    ((processInput mode input).run ((generateAll mode (inputs.take k)).run fs).files).result =
      .error failure

theorem eq_take_append_drop {α : Type} {l : List α} {k : Nat} {a : α} (h : l[k]? = some a) :
    l = l.take k ++ a :: l.drop (k + 1) := by
  obtain ⟨hk, rfl⟩ := List.getElem?_eq_some_iff.1 h
  rw [List.getElem_cons_drop, List.take_append_drop]

theorem StopsAt.le {fs : FileSystem} {mode : Mode} {inputs : List Path} {a b : Failure}
    {j k : Nat} (ha : StopsAt fs mode inputs a j) (hb : StopsAt fs mode inputs b k) : k ≤ j := by
  obtain ⟨input, _, hinput, hbefore, hfail⟩ := ha
  obtain ⟨_, _, _, hprocessed, _⟩ := hb
  by_contra hlt
  have hj : (inputs.take k)[j]? = some input := by
    rw [List.getElem?_take_of_lt (by omega), hinput]
  have hcut := eq_take_append_drop hj
  rw [List.take_take, Nat.min_eq_left (by omega)] at hcut
  rw [hcut, (run_append_of_fails hbefore (fails_of_result hfail) _).1] at hprocessed
  cases hprocessed

/-- A batch stops at one position, with one failure. -/
theorem StopsAt.unique {fs : FileSystem} {mode : Mode} {inputs : List Path} {a b : Failure}
    {j k : Nat} (ha : StopsAt fs mode inputs a j) (hb : StopsAt fs mode inputs b k) :
    a = b ∧ j = k := by
  obtain rfl : j = k := Nat.le_antisymm (hb.le ha) (ha.le hb)
  obtain ⟨input, _, hinput, -, ha⟩ := ha
  obtain ⟨input', _, hinput', -, hb⟩ := hb
  cases hinput.symm.trans hinput'
  cases ha.symm.trans hb
  exact ⟨rfl, rfl⟩

/-- **A batch that fails stops cleanly.** There is one position at which it stops: the inputs
before it are processed, and the input there fails on the file system that they leave (`left`).
It fails for a reason of its own, with its own path or that of its output, and changes nothing.
So the batch leaves `left` behind, where each output that was written before holds the last
fragment written to it. Whatever inputs stand behind the position instead, the batch fails in
the same way and leaves the same. -/
theorem failing_batch_stops {mode : Mode} {inputs : List Path} {fs : FileSystem}
    {failure : Failure} (hfail : ((generateAll mode inputs).run fs).result = .error failure) :
    ∃ k input summary left, inputs[k]? = some input ∧
      ((generateAll mode (inputs.take k)).run fs).result = .ok summary ∧
      ((generateAll mode (inputs.take k)).run fs).files = left ∧
      ((processInput mode input).run left).result = .error failure ∧
      ((processInput mode input).run left).files = left ∧
      ((generateAll mode inputs).run fs).files = left ∧
      (∀ other k', StopsAt fs mode inputs other k' ↔ other = failure ∧ k' = k) ∧
      Fails left input mode failure ∧
      (mode = .write → ∃ gs, WriteRun fs (inputs.take k) gs left ∧
        summary.written = gs.map (·.output) ∧
        ∀ g ∈ gs, ∃ g', left.lastWritten gs g.output = some g' ∧
          left.read g.output = .ok g'.fragment.toUTF8) ∧
      ∀ rest, ((generateAll mode (inputs.take (k + 1) ++ rest)).run fs).result = .error failure ∧
        ((generateAll mode (inputs.take (k + 1) ++ rest)).run fs).files = left := by
  obtain ⟨before, input, rest, summary, rfl, hbefore, hfails⟩ := exists_fails hfail
  have hinput : (before ++ input :: rest)[before.length]? = some input := by simp
  have htake : (before ++ input :: rest).take before.length = before := List.take_left
  have hnext : (before ++ input :: rest).take (before.length + 1) = before ++ [input] := by
    simp [List.take_add_one, htake]
  obtain ⟨hresult, hfiles⟩ := run_processInput_of_fails hfails
  have hstops : StopsAt fs mode (before ++ input :: rest) failure before.length :=
    ⟨input, summary, hinput, by rw [htake, hbefore], by rw [htake, hresult]⟩
  refine ⟨before.length, input, summary, ((generateAll mode before).run fs).files, hinput, ?_⟩
  rw [htake, hnext]
  refine ⟨hbefore, rfl, hresult, hfiles, (run_append_of_fails hbefore hfails rest).2, ?_, hfails,
    ?_, ?_⟩
  · intro other k'
    constructor
    · exact fun hother => hother.unique hstops
    · rintro ⟨rfl, rfl⟩
      exact hstops
  · rintro rfl
    obtain ⟨gs, hrun, rfl⟩ := write_eq_ok.1 ⟨hbefore, rfl⟩
    refine ⟨gs, hrun, rfl, fun g hg => ?_⟩
    obtain ⟨g', -, -, hlast⟩ := hrun.exists_lastWritten hg
    exact ⟨g', hlast, hrun.read_iff.2 (by rw [hlast])⟩
  · intro rest'
    rw [List.append_assoc]
    exact run_append_of_fails hbefore hfails rest'

/-- Three definition files. The output of the first stands where the second takes a directory
to be. -/
def stoppedFiles : FileSystem where
  nodes := [(["a.in"], .file "OUTPUT=d\nE X F first\n".toUTF8),
    (["b.in"], .file "OUTPUT=d/x\nE X F second\n".toUTF8),
    (["c.in"], .file "OUTPUT=z\nE X F third\n".toUTF8)]

def stoppedInputs : List Path := [⟨"a.in"⟩, ⟨"./b.in"⟩, ⟨"c.in"⟩]

theorem failing_batch_stoppedFiles :
    ((generateAll .write stoppedInputs).run stoppedFiles).result =
      .error (.writeOutput ⟨"./d/x"⟩ .notDirectory) ∧
    ∃ left, ((generateAll .write [⟨"a.in"⟩]).run stoppedFiles).files = left ∧
      ((generateAll .write stoppedInputs).run stoppedFiles).files = left ∧
      Fails left ⟨"./b.in"⟩ .write (.writeOutput ⟨"./d/x"⟩ .notDirectory) ∧
      ∀ rest, ((generateAll .write ([⟨"a.in"⟩, ⟨"./b.in"⟩] ++ rest)).run stoppedFiles).files =
        left := by
  have hbefore : ((generateAll .write [⟨"a.in"⟩]).run stoppedFiles).result =
      .ok { written := [⟨"./d"⟩] } := by
    decide
  have hsecond : ((processInput .write ⟨"./b.in"⟩).run
      ((generateAll .write [⟨"a.in"⟩]).run stoppedFiles).files).result =
        .error (.writeOutput ⟨"./d/x"⟩ .notDirectory) := by
    decide +kernel
  obtain ⟨hfail, -⟩ := run_append_of_fails hbefore (fails_of_result hsecond) [⟨"c.in"⟩]
  have hstops : StopsAt stoppedFiles .write stoppedInputs
      (.writeOutput ⟨"./d/x"⟩ .notDirectory) 1 :=
    ⟨⟨"./b.in"⟩, _, rfl, hbefore, hsecond⟩
  obtain ⟨k, input, summary, left, hinput, -, hleft, -, -, hfiles, hunique, hfails, -, hrest⟩ :=
    failing_batch_stops hfail
  obtain ⟨-, rfl⟩ := (hunique _ _).1 hstops
  cases hinput
  exact ⟨hfail, left, hleft, hfiles, hfails, fun rest => (hrest rest).2⟩

end ErrorTable
