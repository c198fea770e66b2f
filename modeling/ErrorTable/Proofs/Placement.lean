/-
An output lands next to its definition file.

Where an output belongs is found by cutting and gluing texts, without a look at the file system.
That is right in every file system: the directory of a path leads to the directory that holds
the file the path names (`resolve_dir`), and a path glued to it leads to where it would lead from
there (`resolve_join`). Only the length of the whole path is a matter of the texts: a name can be
a path that the system accepts and be too long for it behind the directory
(`output_name_too_long`).
-/
import ErrorTable.Proofs.Paths
import ErrorTable.Proofs.Printing
import ErrorTable.Proofs.Runs
import ErrorTable.Proofs.Tree

namespace ErrorTable

namespace FileSystem

/-! ## Following paths -/

theorem walk_cons (fs : FileSystem) (start : Location) (piece : String) (pieces : List String) :
    fs.walk start (piece :: pieces) = fs.step start piece >>= fun place => fs.walk place pieces := by
  simp [walk]

theorem step_idle {fs : FileSystem} {place : Location} {piece : String}
    (hdir : fs.node? place = some .directory) (hidle : Path.isIdle piece = true) :
    fs.step place piece = .ok place :=
  step_eq_ok.2 ⟨hdir, by rw [if_pos hidle]⟩

/-- Pieces at the end that lead nowhere can be left out. -/
theorem walk_dropIdle {fs : FileSystem} {start place : Location} {pieces : List String}
    (h : fs.walk start pieces = .ok place) : fs.walk start (Path.dropIdle pieces) = .ok place := by
  induction pieces using List.reverseRecOn with
  | nil => exact h
  | append_singleton pieces piece ih =>
    cases hidle : Path.isIdle piece with
    | false => rwa [Path.dropIdle_concat_of_not_idle pieces hidle]
    | true =>
      have hdrop : Path.dropIdle (pieces ++ [piece]) = Path.dropIdle pieces := by
        simp [Path.dropIdle, hidle]
      rw [walk_concat, bind_eq_ok] at h
      obtain ⟨place', hwalk, hstep⟩ := h
      rw [step_eq_ok, if_pos hidle] at hstep
      cases hstep.2
      rw [hdrop]
      exact ih hwalk

theorem checkPath_eq_ok {path : Path} :
    checkPath path = .ok () ↔ '\x00' ∉ path.text.toList ∧ path.text ≠ "" ∧
      path.text.utf8ByteSize ≤ maxPathSize := by
  unfold checkPath
  split
  · next h => simp_all
  · split
    · next h => simp_all
    · split
      · next h => simp_all
      · next h => simp_all

theorem checkPath_dir {path : Path} (hname : path.EndsInName) (h : checkPath path = .ok ()) :
    checkPath path.dir = .ok () := by
  obtain ⟨hnul, -, hsize⟩ := checkPath_eq_ok.1 h
  obtain ⟨hne, hcurrent | ⟨rest, hrest⟩⟩ := Path.isPrefix_dir hname
  · rw [hcurrent]
    decide
  · have htext : path.text = path.dir.text ++ String.ofList rest := by
      apply String.toList_inj.1
      simp [hrest]
    refine checkPath_eq_ok.2 ⟨?_, hne, ?_⟩
    · rw [← hrest] at hnul
      exact fun hmem => hnul (List.mem_append_left _ hmem)
    · rw [htext, String.utf8ByteSize_append] at hsize
      omega

/-- **The directory of a path is the directory that holds its file.** A path that ends in a name
leads to that name in the directory that the path's directory leads to. -/
theorem resolve_dir {fs : FileSystem} {path : Path} {target : Location}
    (hname : path.EndsInName) (h : fs.resolve path = .ok target) :
    ∃ name place, target = name :: place ∧ fs.node? place = some .directory ∧
      fs.resolve path.dir = .ok place := by
  obtain ⟨above, name, hpieces, hidle, hup⟩ := id hname
  simp only [resolve, bind_eq_ok] at h ⊢
  obtain ⟨_, hcheck, hwalk⟩ := h
  rw [hpieces, walk_name_eq_ok hidle hup] at hwalk
  obtain ⟨place, hwalk, hdir, hentry⟩ := hwalk
  refine ⟨name, place, eq_of_entryAt hentry, hdir, (), checkPath_dir hname hcheck, ?_⟩
  have hempty : ∀ place : Location, fs.node? place = some .directory →
      fs.step place "" = .ok place := fun _ hd => step_idle hd (by decide)
  rcases Path.dir_cases hpieces hidle (List.forall_mem_nil _) with
    ⟨rfl, hcurrent⟩ | ⟨mid, rfl, hmid, hroot⟩ | ⟨first, mid, rfl, hne, hdirPieces⟩
  · -- A bare name stands in the current directory.
    have hrel : ¬path.isAbsolute = true := by
      rw [Path.isAbsolute_iff hpieces]
      simp
    rw [origin, if_neg hrel] at hwalk
    cases hwalk
    rw [hcurrent, origin, if_neg (by decide), Path.pieces_current, walk_cons,
      step_idle hdir (by decide)]
    rfl
  · -- Nothing but slashes and dots stands before the name, so it stands in the root.
    have habs : path.isAbsolute = true := (Path.isAbsolute_iff hpieces).2 ⟨rfl, by simp⟩
    rw [origin, if_pos habs, walk_cons, hempty [] fs.node?_root] at hwalk
    have hplace := walk_dropIdle hwalk
    rw [hmid] at hplace
    cases hplace
    rw [hroot, origin, if_pos (by decide), Path.pieces_root, walk_cons, hempty [] fs.node?_root]
    exact hempty [] fs.node?_root
  · -- The directory keeps the first piece, so it starts where the path does, and it loses only
    -- idle pieces at its end.
    have horigin : fs.origin path.dir = fs.origin path := by
      simp only [origin, Path.isAbsolute_iff hpieces, Path.isAbsolute_iff hdirPieces]
      by_cases hfirst : first = ""
      · simp [hfirst, hne.resolve_left (not_not.2 hfirst)]
      · simp [hfirst]
    rw [walk_cons, bind_eq_ok] at hwalk
    obtain ⟨place', hfirst, hmid⟩ := hwalk
    rw [hdirPieces, horigin, walk_cons, bind_eq_ok]
    exact ⟨place', hfirst, walk_dropIdle hmid⟩

/-- The file system seen from another current directory. -/
def seenFrom (fs : FileSystem) (place : Location) : FileSystem :=
  { fs with cwd := place }

theorem resolve_seenFrom (fs : FileSystem) (place : Location) {target : Path}
    (hrel : target.isAbsolute = false) :
    (fs.seenFrom place).resolve target =
      checkPath target >>= fun _ => fs.walk place target.pieces := by
  have horigin : (fs.seenFrom place).origin target = place := by
    rw [origin, if_neg (by simp [hrel])]
    rfl
  rw [resolve, horigin]
  rfl

/-- A joined path is followed from where its directory leads to. -/
theorem walk_join {fs : FileSystem} {dir target : Path} {place : Location}
    (hdir : fs.resolve dir = .ok place) (hrel : target.isAbsolute = false) :
    fs.walk (fs.origin (dir.join target)) (dir.join target).pieces =
      fs.walk place target.pieces := by
  simp only [resolve, bind_eq_ok] at hdir
  obtain ⟨_, hcheck, hwalk⟩ := hdir
  have hne := text_ne_empty_of_checkPath hcheck
  obtain ⟨before, hpieces, hbefore⟩ := Path.pieces_join hne hrel
  have horigin : fs.origin (dir.join target) = fs.origin dir := by
    rw [origin, Path.isAbsolute_join hne hrel, origin]
  have hplace : fs.walk (fs.origin dir) before = .ok place := by
    rcases hbefore with h | h
    · rwa [h] at hwalk
    · rw [h, walk_concat, bind_eq_ok] at hwalk
      obtain ⟨place', hwalk, hstep⟩ := hwalk
      obtain ⟨-, hlast⟩ := step_eq_ok.1 hstep
      rw [if_pos (by decide)] at hlast
      cases hlast
      exact hwalk
  rw [hpieces, horigin, walk_append, hplace]
  rfl

/-- A joined path is refused like its target, unless the target makes it too long. -/
theorem checkPath_join {dir target : Path} (hdir : checkPath dir = .ok ())
    (hrel : target.isAbsolute = false) (hne : target.text ≠ "") :
    checkPath (dir.join target) =
      if '\x00' ∉ target.text.toList ∧ maxPathSize < (dir.join target).text.utf8ByteSize then
        .error .nameTooLong
      else checkPath target := by
  obtain ⟨hnul, hdirne, -⟩ := checkPath_eq_ok.1 hdir
  have htext : (dir.join target).text =
      dir.text ++ (if dir.text = "" || dir.endsInSlash then "" else "/") ++ target.text :=
    Path.text_join hrel
  have hjoinNul : '\x00' ∈ (dir.join target).text.toList ↔ '\x00' ∈ target.text.toList := by
    rw [htext]
    split <;> simp [hnul]
  have hjoinne : (dir.join target).text ≠ "" := by
    rw [htext]
    simp [hdirne]
  have hsize : target.text.utf8ByteSize ≤ (dir.join target).text.utf8ByteSize := by
    rw [htext, String.utf8ByteSize_append]
    omega
  simp only [checkPath, List.contains_iff_mem, hjoinNul, if_neg hjoinne, if_neg hne, gt_iff_lt]
  by_cases htargetNul : '\x00' ∈ target.text.toList
  · simp [htargetNul]
  · by_cases hlong : maxPathSize < (dir.join target).text.utf8ByteSize
    · simp [htargetNul, hlong]
    · have hshort : ¬maxPathSize < target.text.utf8ByteSize := by omega
      simp [htargetNul, hlong, hshort]

/-- **Where a joined path leads.** It leads to where its target leads from the directory, unless
the two texts together are too long for a path. -/
theorem resolve_join {fs : FileSystem} {dir target : Path} {place : Location}
    (hdir : fs.resolve dir = .ok place) (hrel : target.isAbsolute = false)
    (hne : target.text ≠ "") :
    fs.resolve (dir.join target) =
      if '\x00' ∉ target.text.toList ∧ maxPathSize < (dir.join target).text.utf8ByteSize then
        .error .nameTooLong
      else (fs.seenFrom place).resolve target := by
  obtain ⟨_, hcheck, -⟩ := bind_eq_ok.1 hdir
  rw [resolve_seenFrom fs place hrel, resolve, walk_join hdir hrel,
    checkPath_join hcheck hrel hne]
  split <;> rfl

theorem resolve_join_absolute (fs : FileSystem) (dir : Path) {target : Path}
    (habs : target.isAbsolute = true) :
    fs.resolve (dir.join target) = (fs.seenFrom []).resolve target := by
  have horigin : (fs.seenFrom []).origin target = fs.origin target := by
    rw [origin, if_pos habs, origin, if_pos habs]
  rw [Path.join, if_pos habs, resolve, resolve, horigin]
  rfl

/-- A file that can be written under a name without slashes stands in the directory itself. -/
theorem resolve_join_name {fs : FileSystem} {dir : Path} {place target : Location} {name : String}
    (hdir : fs.resolve dir = .ok place) (hslash : '/' ∉ name.toList)
    (hd : fs.destination (dir.join ⟨name⟩) = .ok target) : target = name :: place := by
  -- The name is the last piece of the joined path, so a destination there is an entry of `place`.
  have hpieces : (⟨name⟩ : Path).pieces = [name] := by
    simp [Path.pieces, List.splitOn_eq_singleton hslash]
  have hrel : (⟨name⟩ : Path).isAbsolute = false := by
    rw [← Bool.not_eq_true, Path.isAbsolute_iff hpieces]
    simp
  obtain ⟨_, hcheck, -⟩ := bind_eq_ok.1 hdir
  obtain ⟨⟨above, last, hlast, hidle, hup⟩, hres, -⟩ := destination_eq_ok.1 hd
  obtain ⟨before, hjoin, -⟩ := Path.pieces_join (text_ne_empty_of_checkPath hcheck) hrel
  obtain ⟨-, hname⟩ := List.append_inj' (hjoin.symm.trans hlast) (by simp [hpieces])
  rw [hpieces] at hname
  cases hname
  obtain ⟨_, -, hwalk⟩ := bind_eq_ok.1 hres
  rw [walk_join hdir hrel, hpieces, ← List.nil_append [name], walk_name_eq_ok hidle hup] at hwalk
  obtain ⟨place', hplace, -, hentry⟩ := hwalk
  cases hplace
  exact eq_of_entryAt hentry

end FileSystem

theorem write_of_run {g : Generated} {fs : FileSystem} (h : (g.write.run fs).result = .ok ()) :
    fs.write g.output g.fragment.toUTF8 = .ok (g.write.run fs).files := by
  rw [run_write] at h ⊢
  cases hw : fs.write g.output g.fragment.toUTF8 with
  | ok next => rfl
  | error e =>
    rw [hw] at h
    cases h

/-- **An output lands next to its definition file.** The directory of the path of a definition
file leads to the directory that holds the file. The output leads to where its name leads from
the root, if it is absolute, and otherwise to where it leads from that directory; but a name that
makes the whole output path too long is refused, wherever it would lead. If the name has no
slash and the fragment is written, the entry of that name in that directory changes and nothing
else. -/
theorem output_beside_definition {fs : FileSystem} (tree : fs.IsTree) {path : Path}
    {content : String} (hread : fs.readText path = .ok content) :
    ∃ name place, fs.resolve path = .ok (name :: place) ∧
      fs.node? (name :: place) = some (.file content.toUTF8) ∧
      fs.node? place = some .directory ∧ fs.resolve path.dir = .ok place ∧
      ∀ output, (Definition.parse content).output? = some output →
        ∃ g, fs.generated path = .ok g ∧
          ((⟨output⟩ : Path).isAbsolute = true →
            fs.resolve g.output = (fs.seenFrom []).resolve ⟨output⟩) ∧
          ((⟨output⟩ : Path).isAbsolute = false →
            fs.resolve g.output =
              if '\x00' ∉ output.toList ∧ FileSystem.maxPathSize < g.output.text.utf8ByteSize then
                .error .nameTooLong
              else (fs.seenFrom place).resolve ⟨output⟩) ∧
          ('/' ∉ output.toList → (g.write.run fs).result = .ok () →
            ∀ other, (g.write.run fs).files.node? other =
              if other = output :: place then some (.file g.fragment.toUTF8)
              else fs.node? other) := by
  have hbytes := FileSystem.readText_eq_ok.1 hread
  obtain ⟨target, hres, hfile⟩ := FileSystem.read_eq_ok.1 hbytes
  obtain ⟨name, place, rfl, hnode, hdir⟩ := FileSystem.resolve_dir (tree.endsInName hbytes) hres
  refine ⟨name, place, hres, hfile, hnode, hdir, fun output houtput => ?_⟩
  have hne : output ≠ "" := (Definition.output?_parse.1 houtput).2
  refine ⟨_, generated_eq_ok.2 ⟨content, output, hread, houtput, rfl⟩,
    FileSystem.resolve_join_absolute fs path.dir,
    fun hrel => FileSystem.resolve_join hdir hrel hne, fun hslash hwrote other => ?_⟩
  have hwrite := write_of_run hwrote
  obtain ⟨target, hd, -⟩ := FileSystem.write_eq_ok.1 hwrite
  have htarget := FileSystem.resolve_join_name hdir hslash hd
  have hleads := (FileSystem.destination_eq_ok.1 hd).2.1
  rw [FileSystem.node?_write hwrite other]
  refine if_congr ?_ rfl rfl
  rw [FileSystem.leadsTo_iff, hleads, Except.ok.injEq, htarget, eq_comm]

/-- A definition file, and the directory that it stands in as the current one. -/
def besideFiles : FileSystem where
  nodes := [(["d"], .directory), (["e", "d"], .directory),
    (["a.in", "d"], .file "OUTPUT=x\n".toUTF8)]
  cwd := ["d"]

/-- The definition file, found by a way through another directory. -/
def besidePath : Path := ⟨"./e/..//a.in"⟩

theorem output_beside_besideFiles :
    besideFiles.IsTree ∧ besideFiles.readText besidePath = .ok "OUTPUT=x\n" ∧
      besideFiles.resolve besidePath.dir = .ok ["d"] ∧
      ∃ g, besideFiles.generated besidePath = .ok g ∧ (g.write.run besideFiles).result = .ok () ∧
        ∀ other, (g.write.run besideFiles).files.node? other =
          if other = ["x", "d"] then some (.file g.fragment.toUTF8)
          else besideFiles.node? other := by
  have tree : besideFiles.IsTree := by
    apply FileSystem.isTree_of_nodes
    simp only [besideFiles, List.forall_mem_cons]
    exact ⟨rfl, rfl, rfl, nofun⟩
  have hres : besideFiles.resolve besidePath = .ok ["a.in", "d"] :=
    eq_ok_of_toOption (by decide +kernel)
  have hread : besideFiles.readText besidePath = .ok "OUTPUT=x\n" :=
    FileSystem.readText_eq_ok.2 (FileSystem.read_eq_ok.2 ⟨_, hres, rfl⟩)
  have houtput : (Definition.parse "OUTPUT=x\n").output? = some "x" := by decide +kernel
  obtain ⟨name, place, hres', -, -, hdir, hall⟩ := output_beside_definition tree hread
  cases hres.symm.trans hres'
  obtain ⟨g, hg, -, -, hwrite⟩ := hall "x" houtput
  have hwrote : (g.write.run besideFiles).result = .ok () := by
    cases hg.symm.trans (generated_eq_ok.2 ⟨_, _, hread, houtput, rfl⟩)
    exact eq_ok_of_toOption (by decide +kernel)
  exact ⟨tree, hread, hdir, g, hg, hwrote, hwrite (by decide) hwrote⟩

/-! ## A name that is too long -/

/-- A name for the file `x` in which every two characters in front lead nowhere. -/
def dottedName : Nat → String
  | 0 => "x"
  | n + 1 => "./" ++ dottedName n

theorem mem_dottedName {n : Nat} {c : Char} (h : c ∈ (dottedName n).toList) :
    c = '.' ∨ c = '/' ∨ c = 'x' := by
  induction n with
  | zero => exact .inr (.inr (by simpa [dottedName] using h))
  | succ n ih =>
    rw [dottedName, String.toList_append] at h
    rcases List.mem_append.1 h with hfront | hrest
    · have hcases : c = '.' ∨ c = '/' := by simpa using hfront
      exact hcases.imp_right .inl
    · exact ih hrest

theorem utf8ByteSize_dottedName (n : Nat) : (dottedName n).utf8ByteSize = 2 * n + 1 := by
  induction n with
  | zero => decide
  | succ n ih =>
    have hfront : "./".utf8ByteSize = 2 := by decide
    rw [dottedName, String.utf8ByteSize_append, ih, hfront]
    omega

theorem walk_dottedName {fs : FileSystem} {place : Location}
    (hdir : fs.node? place = some .directory) (n : Nat) :
    fs.walk place (⟨dottedName n⟩ : Path).pieces = .ok ("x" :: place) := by
  induction n with
  | zero =>
    have hpieces : (⟨dottedName 0⟩ : Path).pieces = [] ++ ["x"] := by decide +kernel
    rw [hpieces, FileSystem.walk_name_eq_ok (by decide) (by decide)]
    exact ⟨place, rfl, hdir, rfl⟩
  | succ n ih =>
    have hpieces : (⟨dottedName (n + 1)⟩ : Path).pieces = "." :: (⟨dottedName n⟩ : Path).pieces := by
      have htext : (dottedName (n + 1)).toList = ['.'] ++ '/' :: (dottedName n).toList := by
        simp [dottedName]
      rw [Path.pieces, htext, List.splitOn_append_cons_self]
      rfl
    rw [hpieces, FileSystem.walk_cons, FileSystem.step_idle hdir (by decide)]
    exact ih

theorem isField_dottedName (n : Nat) : Text.IsField (dottedName n).toList := by
  have hsolid : ∀ c ∈ (dottedName n).toList, Text.isBlank c = false := by
    intro c hc
    rcases mem_dottedName hc with rfl | rfl | rfl <;> decide
  refine ⟨Text.trim_eq_self_iff.2 ⟨fun c hc => hsolid c (List.mem_of_mem_head? hc),
    fun c hc => hsolid c (List.mem_of_mem_getLast? hc)⟩, fun hmem => ?_⟩
  exact absurd (hsolid _ hmem) (by decide)

theorem isAbsolute_dottedName (n : Nat) : (⟨dottedName n⟩ : Path).isAbsolute = false := by
  cases n <;> simp [Path.isAbsolute, dottedName]

theorem dottedName_ne_empty (n : Nat) : dottedName n ≠ "" := by
  cases n <;> simp [dottedName]

/-- A definition file with such an output. -/
def dottedText (n : Nat) : String :=
  Definition.write [(.directive .output (dottedName n), .plain)]

def dottedFiles (n : Nat) : FileSystem where
  nodes := [(["a.in"], .file (dottedText n).toUTF8)]

theorem output?_dottedText (n : Nat) :
    (Definition.parse (dottedText n)).output? = some (dottedName n) := by
  have hparse : Definition.parse (dottedText n) =
      Definition.ofLines [.directive .output (dottedName n)] := by
    refine Definition.parse_write ?_
    simpa [Line.WellFormed] using isField_dottedName n
  rw [hparse]
  exact Option.filter_eq_some_iff.2 ⟨rfl, by simpa using dottedName_ne_empty n⟩

/-- A name that is a path of its own is refused if it is too long behind the directory of its
definition file, even if that is the current directory. -/
theorem dottedName_refused {n : Nat} (hfits : 2 * n + 1 ≤ FileSystem.maxPathSize)
    (hlong : FileSystem.maxPathSize < 2 * n + 3) :
    (dottedFiles n).IsTree ∧ (dottedFiles n).readText ⟨"a.in"⟩ = .ok (dottedText n) ∧
      (Definition.parse (dottedText n)).output? = some (dottedName n) ∧
      (dottedFiles n).resolve (⟨"a.in"⟩ : Path).dir = .ok [] ∧
      ((dottedFiles n).seenFrom []).resolve ⟨dottedName n⟩ = .ok ["x"] ∧
      ∃ g, (dottedFiles n).generated ⟨"a.in"⟩ = .ok g ∧
        (dottedFiles n).resolve g.output = .error .nameTooLong := by
  have hpieces : (⟨"a.in"⟩ : Path).pieces = [] ++ ["a.in"] := by decide +kernel
  have hres : (dottedFiles n).resolve ⟨"a.in"⟩ = .ok ["a.in"] := by
    refine FileSystem.bind_eq_ok.2 ⟨(), by decide, ?_⟩
    rw [hpieces, FileSystem.walk_name_eq_ok (by decide) (by decide)]
    exact ⟨[], rfl, rfl, rfl⟩
  have hread : (dottedFiles n).readText ⟨"a.in"⟩ = .ok (dottedText n) :=
    FileSystem.readText_eq_ok.2 (FileSystem.read_eq_ok.2 ⟨["a.in"], hres, rfl⟩)
  have hdir : (dottedFiles n).resolve (⟨"a.in"⟩ : Path).dir = .ok [] := by
    obtain ⟨_, _, hplace, -, hdir⟩ :=
      FileSystem.resolve_dir ⟨[], "a.in", hpieces, by decide, by decide⟩ hres
    cases hplace
    exact hdir
  have hnul : '\x00' ∉ (dottedName n).toList := by
    intro hmem
    rcases mem_dottedName hmem with h | h | h <;> exact absurd h (by decide)
  have hrel := isAbsolute_dottedName n
  have hne := dottedName_ne_empty n
  refine ⟨?_, hread, output?_dottedText n, hdir, ?_, _,
    generated_eq_ok.2 ⟨_, _, hread, output?_dottedText n, rfl⟩, ?_⟩
  · apply FileSystem.isTree_of_nodes
    simp [dottedFiles]
  · have hcheck : FileSystem.checkPath ⟨dottedName n⟩ = .ok () :=
      FileSystem.checkPath_eq_ok.2 ⟨hnul, hne, (utf8ByteSize_dottedName n).trans_le hfits⟩
    rw [FileSystem.resolve_seenFrom _ _ hrel, hcheck]
    exact walk_dottedName (dottedFiles n).node?_root n
  · have hsize : ((⟨"a.in"⟩ : Path).dir.join ⟨dottedName n⟩).text.utf8ByteSize = 2 * n + 3 := by
      have hfront : (⟨"a.in"⟩ : Path).dir.text ++
          (if (⟨"a.in"⟩ : Path).dir.text = "" || (⟨"a.in"⟩ : Path).dir.endsInSlash then ""
            else "/") = "./" := by
        decide +kernel
      have htwo : "./".utf8ByteSize = 2 := by decide
      rw [Path.text_join hrel, hfront, String.utf8ByteSize_append, utf8ByteSize_dottedName, htwo]
      omega
    exact (FileSystem.resolve_join hdir hrel hne).trans (if_pos ⟨hnul, hsize ▸ hlong⟩)

theorem output_name_too_long :
    (dottedFiles 2047).IsTree ∧
      (dottedFiles 2047).readText ⟨"a.in"⟩ = .ok (dottedText 2047) ∧
      (Definition.parse (dottedText 2047)).output? = some (dottedName 2047) ∧
      (dottedFiles 2047).resolve (⟨"a.in"⟩ : Path).dir = .ok [] ∧
      ((dottedFiles 2047).seenFrom []).resolve ⟨dottedName 2047⟩ = .ok ["x"] ∧
      ∃ g, (dottedFiles 2047).generated ⟨"a.in"⟩ = .ok g ∧
        (dottedFiles 2047).resolve g.output = .error .nameTooLong :=
  dottedName_refused (by decide) (by decide)

end ErrorTable
