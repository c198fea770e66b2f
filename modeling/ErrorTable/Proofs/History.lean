/-
File systems as they come about.

A file system starts empty, and then the tool is invoked on it, or files and directories are made
and removed from outside (`Action`). No action leaves anything outside of a directory
(`IsTree.act`), so whatever has been done so far, the file system is a tree (`isTree_after`), and
what is true of trees is true of it. So the exit status of a check is a promise: if it is zero, the
same command line without the check ends with zero as well, and changes nothing
(`clean_check_promises`).
-/
import ErrorTable.Proofs.Invocation

namespace ErrorTable

/-- Something that is done to a file system. -/
inductive Action where
  | invoke (arguments : List String) (setting : Option String)
  | write (path : Path) (content : ByteArray)
  | remove (path : Path)
  | makeDirectories (path : Path)

namespace FileSystem

/-- The file system after an action. A write or a removal that is refused changes nothing. -/
def act (fs : FileSystem) : Action → FileSystem
  | .invoke arguments setting => (invoke arguments setting fs).files
  | .write path content => (fs.write path content).toOption.getD fs
  | .remove path => (fs.remove path).toOption.getD fs
  | .makeDirectories path => (fs.makeDirectories path).1

/-- The file system after some actions in a row. -/
def after (fs : FileSystem) (history : List Action) : FileSystem :=
  history.foldl act fs

theorem IsTree.invoke {fs : FileSystem} (tree : fs.IsTree) (arguments : List String)
    (setting : Option String) : (ErrorTable.invoke arguments setting fs).files.IsTree := by
  cases hparse : Options.parse arguments with
  | error reply =>
    rw [invoke_of_refused hparse]
    exact tree
  | ok options =>
    rw [(invoke_of_accepted hparse setting fs).2]
    exact tree.run options.program

theorem IsTree.act {fs : FileSystem} (tree : fs.IsTree) (action : Action) :
    (fs.act action).IsTree := by
  cases action with
  | invoke arguments setting => exact tree.invoke arguments setting
  | write path content =>
    simp only [FileSystem.act]
    cases hw : fs.write path content with
    | ok next => exact tree.write hw
    | error error => exact tree
  | remove path =>
    simp only [FileSystem.act]
    cases hr : fs.remove path with
    | ok next => exact tree.remove hr
    | error error => exact tree
  | makeDirectories path => exact tree.makeDirectories path

theorem IsTree.after {fs : FileSystem} (tree : fs.IsTree) (history : List Action) :
    (fs.after history).IsTree := by
  induction history generalizing fs with
  | nil => exact tree
  | cons action history ih => exact ih (tree.act action)

/-- Whatever has been done to an empty file system, it is a tree. -/
theorem isTree_after (cwd : Location) (history : List Action) :
    (after { cwd } history).IsTree :=
  (isTree_empty cwd).after history

/-- What is written below the current directory is listed with its size. -/
theorem listed_of_write {fs next : FileSystem} {path : Path} {content : ByteArray}
    {place : Location} {names : List String} (h : fs.write path content = .ok next)
    (hplace : fs.destination path = .ok place) (hbelow : fs.namesBelow place = some names) :
    ⟨String.intercalate "/" names, some content.size⟩ ∈ next.listing := by
  obtain ⟨place', hplace', rfl⟩ := write_eq_ok.1 h
  obtain rfl : place = place' := Except.ok.inj (hplace.symm.trans hplace')
  have hlookup := node?_put_self fs (ne_nil_of_destination hplace) (.file content)
  rw [node?_eq_lookup _ (ne_nil_of_destination hplace)] at hlookup
  obtain ⟨before, rest, hnodes, -⟩ := List.lookup_eq_some_iff.1 hlookup
  refine List.mem_map.2 ⟨(names, .file content), List.mem_mergeSort.2 (List.mem_filterMap.2
    ⟨(place, .file content), by simp [hnodes], ?_⟩), rfl⟩
  exact congrArg (Option.map (·, Node.file content)) hbelow

end FileSystem

/-- **A clean check is a promise**, whatever has been done to the file system before. Two accepted
command lines name the same files, and one of them is a check. If the check ends with zero, then so
does the other one, and it leaves the file system as it is. -/
theorem clean_check_promises {a b : List String} {p q : Options} (ha : Options.parse a = .ok p)
    (hb : Options.parse b = .ok q) (hcheck : p.check = true) (hwrite : q.check = false)
    (hfiles : p.files = q.files) (s t : Option String) (cwd : Location) (history : List Action)
    (hzero : (invoke a s (.after { cwd } history)).exitCode = 0) :
    (invoke b t (.after { cwd } history)).exitCode = 0 ∧
      (invoke b t (.after { cwd } history)).files = .after { cwd } history := by
  have tree := FileSystem.isTree_after cwd history
  generalize FileSystem.after { cwd } history = fs at hzero tree ⊢
  have hmode : p.mode = .check := by rw [Options.mode, if_pos hcheck]
  have hmode' : q.mode = .write := by simp [Options.mode, hwrite]
  rw [(invoke_of_accepted ha s fs).1, exitCode_program_eq_zero, hmode] at hzero
  obtain ⟨checked, hchecked, hclean⟩ := hzero
  obtain ⟨hsummary, hkeep, -⟩ := write_of_clean_check tree hchecked (by simpa using hclean)
  rw [(invoke_of_accepted hb t fs).1, (invoke_of_accepted hb t fs).2, exitCode_program_eq_zero,
    files_program, hmode', ← hfiles]
  exact ⟨⟨_, hsummary, .inl rfl⟩, hkeep⟩

end ErrorTable
