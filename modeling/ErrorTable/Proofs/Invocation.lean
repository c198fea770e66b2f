/-
An invocation does what its batch does.

An accepted command line runs one batch. What is reported before and after it changes no file,
so the invocation leaves the file system that the batch leaves (`files_program`), and its exit
status tells whether the batch succeeded and, if it was a check, whether it was clean
(`exitCode_program_eq_zero`). A command line that is refused runs nothing. So the exit status of
a check says of the file system as it stands whether every output holds its fragment
(`clean_check_iff`), and this is all that a build has to ask (`invocation_refines_batch`).
-/
import ErrorTable.Tool
import ErrorTable.Proofs.Agreement

namespace ErrorTable

/-! ## The exit status of a batch -/

/-- The exit status of a batch that succeeds. -/
def Summary.exitCode (summary : Summary) : Mode → Nat
  | .write => 0
  | .check => if summary.isClean then 0 else 1

theorem Summary.exitCode_eq_zero {summary : Summary} {mode : Mode} :
    summary.exitCode mode = 0 ↔ mode = .write ∨ summary.isClean = true := by
  cases mode with
  | write => simp [exitCode]
  | check => simp [exitCode]

theorem Summary.exitCode_le_one (summary : Summary) (mode : Mode) : summary.exitCode mode ≤ 1 := by
  cases mode with
  | write => simp [exitCode]
  | check => cases hclean : summary.isClean <;> simp [exitCode, hclean]

theorem result_program (options : Options) (fs : FileSystem) :
    (options.program.run fs).result =
      ((generateAll options.mode options.files).run fs).result >>= fun summary =>
        .ok (summary.exitCode options.mode) := by
  rw [Options.program, Program.result_bind]
  congr 1
  funext summary
  cases options.mode with
  | write => simp [Program.run_bind, Program.run, Summary.exitCode]
  | check =>
    simp only [Summary.exitCode]
    split <;> simp [Program.run_bind, Program.run]

/-- What is reported around a batch leaves the file system alone. -/
theorem files_program (options : Options) (fs : FileSystem) :
    (options.program.run fs).files = ((generateAll options.mode options.files).run fs).files := by
  rw [Options.program, Program.files_bind]
  split
  · cases options.mode with
    | write => simp [Program.run_bind, Program.run]
    | check =>
      simp only
      split <;> simp [Program.run_bind, Program.run]
  · rfl

theorem exitCode_program_eq_zero {options : Options} {fs : FileSystem} :
    exitCodeOf (options.program.run fs).result = 0 ↔
      ∃ summary, ((generateAll options.mode options.files).run fs).result = .ok summary ∧
        (options.mode = .write ∨ summary.isClean = true) := by
  rw [result_program]
  cases ((generateAll options.mode options.files).run fs).result with
  | error failure => simp [exitCodeOf, bind, Except.bind]
  | ok summary => simpa [exitCodeOf, bind, Except.bind] using Summary.exitCode_eq_zero

theorem exitCode_program_le_one (options : Options) (fs : FileSystem) :
    exitCodeOf (options.program.run fs).result ≤ 1 := by
  rw [result_program]
  cases ((generateAll options.mode options.files).run fs).result with
  | error failure => exact Nat.le_refl 1
  | ok summary => exact summary.exitCode_le_one options.mode

/-! ## A check that is clean -/

theorem exists_forall₂_iff {α β : Type} {R : α → β → Prop} {P : β → Prop} {l : List α} :
    (∃ m, List.Forall₂ R l m ∧ ∀ b ∈ m, P b) ↔ ∀ a ∈ l, ∃ b, R a b ∧ P b := by
  induction l with
  | nil => simp
  | cons a l ih =>
    rw [List.forall_mem_cons, ← ih]
    constructor
    · intro h
      obtain ⟨_, hm, hP⟩ := h
      cases hm with
      | cons hab hm =>
        obtain ⟨hb, hP⟩ := List.forall_mem_cons.1 hP
        exact ⟨⟨_, hab, hb⟩, _, hm, hP⟩
    · intro h
      obtain ⟨⟨b, hab, hb⟩, m, hm, hP⟩ := h
      exact ⟨b :: m, .cons hab hm, List.forall_mem_cons.2 ⟨hb, hP⟩⟩

/-- A check is clean exactly if every input gives a fragment and every output holds it. -/
theorem clean_check_iff {inputs : List Path} {fs : FileSystem} :
    (∃ summary, ((generateAll .check inputs).run fs).result = .ok summary ∧
        summary.isClean = true) ↔
      ∀ input ∈ inputs, ∃ g, fs.generated input = .ok g ∧
        fs.read g.output = .ok g.fragment.toUTF8 := by
  simp only [← holds_iff, ← exists_forall₂_iff, ← isClean_checkSummary, check_eq_ok]
  constructor
  · intro h
    obtain ⟨_, ⟨gs, hgs, rfl⟩, hclean⟩ := h
    exact ⟨gs, hgs, hclean⟩
  · intro h
    obtain ⟨gs, hgs, hclean⟩ := h
    exact ⟨_, ⟨gs, hgs, rfl⟩, hclean⟩

/-! ## Invocations -/

theorem invoke_of_accepted {arguments : List String} {options : Options}
    (h : Options.parse arguments = .ok options) (setting : Option String) (fs : FileSystem) :
    (invoke arguments setting fs).exitCode = exitCodeOf (options.program.run fs).result ∧
      (invoke arguments setting fs).files = (options.program.run fs).files := by
  rw [invoke, h]
  exact ⟨rfl, rfl⟩

theorem invoke_of_refused {arguments : List String} {reply : Reply}
    (h : Options.parse arguments = .error reply) (setting : Option String) (fs : FileSystem) :
    invoke arguments setting fs = .ofReply reply fs := by
  rw [invoke, h]

/-- **An invocation does what its batch does.** Whatever the arguments, the filter and the file
system: an accepted command line leaves the file system that its batch leaves, and ends with zero
exactly if the batch succeeds and, in a check, finds nothing stale, and with one otherwise. So a
check changes nothing, and ends with zero exactly if every input gives a fragment and every
output holds its bytes. A command line that is not accepted ends with zero if it asks for help or
for the version and with two otherwise; it changes nothing, and what it prints is the same on
every file system. -/
theorem invocation_refines_batch (arguments : List String) (setting : Option String)
    (fs : FileSystem) :
    (∀ options, Options.parse arguments = .ok options →
      (invoke arguments setting fs).files =
        ((generateAll (if options.check then .check else .write) options.files).run fs).files ∧
      ((invoke arguments setting fs).exitCode = 0 ↔
        ∃ summary,
          ((generateAll (if options.check then .check else .write) options.files).run fs).result =
            .ok summary ∧ (options.check = false ∨ summary.isClean = true)) ∧
      ((invoke arguments setting fs).exitCode ≠ 0 → (invoke arguments setting fs).exitCode = 1) ∧
      (options.check = true →
        (invoke arguments setting fs).files = fs ∧
        ((invoke arguments setting fs).exitCode = 0 ↔
          ∀ input ∈ options.files, ∃ g, fs.generated input = .ok g ∧
            fs.read g.output = .ok g.fragment.toUTF8))) ∧
    (∀ reply, Options.parse arguments = .error reply →
      ((reply = .help ∨ reply = .version) ∧ (invoke arguments setting fs).exitCode = 0 ∨
        (∃ error, reply = .usage error) ∧ (invoke arguments setting fs).exitCode = 2) ∧
      (invoke arguments setting fs).files = fs ∧
      ∀ other, invoke arguments setting other =
        { invoke arguments setting fs with files := other }) := by
  refine ⟨fun options hparse => ?_, fun reply hparse => ?_⟩
  · obtain ⟨hexit, hfiles⟩ := invoke_of_accepted hparse setting fs
    have hwrite : options.mode = .write ↔ options.check = false := by
      cases hcheck : options.check <;> simp [Options.mode, hcheck]
    rw [hexit, hfiles, files_program, exitCode_program_eq_zero, hwrite]
    refine ⟨rfl, Iff.rfl, fun hne => ?_, fun hcheck => ?_⟩
    · have hle := exitCode_program_le_one options fs
      omega
    · have hmode : options.mode = .check := by simp [Options.mode, hcheck]
      rw [hmode, hcheck, ← clean_check_iff]
      exact ⟨files_check options.files fs, by simp⟩
  · simp only [invoke_of_refused hparse]
    refine ⟨?_, rfl, fun other => rfl⟩
    cases reply with
    | help => exact .inl ⟨.inl rfl, rfl⟩
    | version => exact .inl ⟨.inr rfl, rfl⟩
    | usage error => exact .inr ⟨⟨error, rfl⟩, rfl⟩

/-- A check that finds a stale output and then fails, and a command line that is refused. -/
theorem invocation_refines_sharedOutput :
    Options.parse ["--check", "a.in", "--", "-q"] =
      .ok { check := true, quiet := false, files := [⟨"a.in"⟩, ⟨"-q"⟩] } ∧
    Options.parse ["a.in", "-qq"] = .error (.usage (.repeatedFlag .quiet)) ∧
    ∀ setting,
      (invoke ["--check", "a.in", "--", "-q"] setting sharedOutput).exitCode = 1 ∧
      (invoke ["--check", "a.in", "--", "-q"] setting sharedOutput).files = sharedOutput ∧
      (invoke ["a.in", "-qq"] setting sharedOutput).exitCode = 2 ∧
      (invoke ["a.in", "-qq"] setting sharedOutput).files = sharedOutput := by
  have haccepted : Options.parse ["--check", "a.in", "--", "-q"] =
      .ok { check := true, quiet := false, files := [⟨"a.in"⟩, ⟨"-q"⟩] } := by
    decide
  have hrefused : Options.parse ["a.in", "-qq"] = .error (.usage (.repeatedFlag .quiet)) := by
    decide
  have hmissing : sharedOutput.generated ⟨"-q"⟩ = .error (.readInput ⟨"-q"⟩ .notFound) := by
    decide
  refine ⟨haccepted, hrefused, fun setting => ?_⟩
  obtain ⟨-, -, hone, hcheck⟩ :=
    (invocation_refines_batch ["--check", "a.in", "--", "-q"] setting sharedOutput).1 _ haccepted
  obtain ⟨hfiles, hzero⟩ := hcheck rfl
  obtain ⟨htwo, hkeep, -⟩ :=
    (invocation_refines_batch ["a.in", "-qq"] setting sharedOutput).2 _ hrefused
  refine ⟨hone fun hexit => ?_, hfiles, ?_, hkeep⟩
  · obtain ⟨g, hg, -⟩ := hzero.1 hexit ⟨"-q"⟩ (by simp)
    cases hmissing.symm.trans hg
  · obtain ⟨hanswer, -⟩ | ⟨-, hexit⟩ := htwo
    · simp at hanswer
    · exact hexit

end ErrorTable
