/-
The grammar of the command line.

Before the first `--` an argument is a file or asks for flags, spelled out or by letters; behind it
every argument is a file. A flag can be asked for once, in whatever way. That is all that counts:
where the flags stand among the files makes no difference, and no argument can be read in two ways.

`Scan.take` is the step of the scan, and takes in an argument exactly if it is of one of these
kinds and asks for no flag again (`take_eq_ok`). So a scan that started with nothing has in the end
the files of all arguments and the flags that all of them asked for (`read_eq_ok`).
-/
import ErrorTable.CommandLine.Parse
import ErrorTable.Proofs.Access
import Mathlib.Data.List.Nodup

namespace ErrorTable

/-! ## The grammar -/

namespace Argument

/-- The argument is a file wherever it stands: a lone dash, or a text that does not start with
one. -/
def IsFile (argument : String) : Prop :=
  argument = "-" ∨ argument.toList.head? ≠ some '-'

/-- The argument asks for flags by their letters: a dash, and then one letter or more. -/
def IsGroup (argument : String) : Prop :=
  argument.toList.head? = some '-' ∧ argument.toList.tail ≠ [] ∧
    ∀ c ∈ argument.toList.tail, c = 'c' ∨ c = 'q'

/-- The argument asks for flags. -/
def AsksForFlags (argument : String) : Prop :=
  argument = "--check" ∨ argument = "--quiet" ∨ IsGroup argument

instance (argument : String) : Decidable (IsFile argument) :=
  inferInstanceAs (Decidable (_ ∨ _))

instance (argument : String) : Decidable (IsGroup argument) :=
  -- The letters are run through, and not all characters.
  letI := List.decidableBAll (fun c => c = 'c' ∨ c = 'q') argument.toList.tail
  inferInstanceAs (Decidable (_ ∧ _ ∧ _))

instance (argument : String) : Decidable (AsksForFlags argument) :=
  inferInstanceAs (Decidable (_ ∨ _ ∨ _))

/-- The flag that a letter of a group asks for. -/
def flagOf (letter : Char) : Flag :=
  if letter = 'c' then .check else .quiet

/-- The flags that an argument asks for, in order. -/
def asked (argument : String) : List Flag :=
  if argument = "--check" then [.check]
  else if argument = "--quiet" then [.quiet]
  else if IsGroup argument then argument.toList.tail.map flagOf
  else []

/-- The arguments before the first separator. -/
def leading (arguments : List String) : List String :=
  arguments.takeWhile (· ≠ "--")

/-- The arguments behind the first separator. -/
def trailing (arguments : List String) : List String :=
  (arguments.dropWhile (· ≠ "--")).tail

/-- The files of a command line, in order. -/
def fileNames (arguments : List String) : List String :=
  (leading arguments).filter (IsFile ·) ++ trailing arguments

/-- How often a command line asks for a flag. -/
def requests (flag : Flag) (arguments : List String) : Nat :=
  ((leading arguments).flatMap asked).count flag

/-! ## Arguments of one kind -/

theorem asked_of_isFile {argument : String} (h : IsFile argument) : asked argument = [] := by
  have hgroup : ¬IsGroup argument := by
    rintro ⟨hhead, htail, -⟩
    rcases h with rfl | h
    · exact htail rfl
    · exact h hhead
  have hcheck : argument ≠ "--check" := by
    rintro rfl
    exact absurd h (by decide)
  have hquiet : argument ≠ "--quiet" := by
    rintro rfl
    exact absurd h (by decide)
  rw [asked, if_neg hcheck, if_neg hquiet, if_neg hgroup]

theorem eq_check_or_quiet_of_mem_asked {argument : String} {flag : Flag}
    (h : flag ∈ asked argument) : flag = .check ∨ flag = .quiet := by
  unfold asked at h
  split at h
  · exact .inl (List.mem_singleton.1 h)
  · split at h
    · exact .inr (List.mem_singleton.1 h)
    · split at h
      · obtain ⟨c, -, rfl⟩ := List.mem_map.1 h
        unfold flagOf
        split
        · exact .inl rfl
        · exact .inr rfl
      · cases h

/-- What an argument is by its dashes, and the text that it then has. -/
inductive Kind (argument : String) : Prop where
  | file (isFile : IsFile argument) (read : ofString argument = .file argument)
  | separator (text : argument = "--")
  | long (name : String) (value : Option String) (rest : List Char)
      (text : argument.toList = '-' :: '-' :: rest) (read : ofString argument = .long name value)
      (bare : value = none → argument = "--" ++ name)
  | short (letters : List Char) (text : argument.toList = '-' :: letters)
      (some : letters ≠ []) (single : letters.head? ≠ Option.some '-')
      (read : ofString argument = .short letters)

theorem kind (argument : String) : Kind argument := by
  rcases htext : argument.toList with _ | ⟨c, _ | ⟨d, rest⟩⟩
  · exact .file (.inr (by simp [htext])) (by simp [ofString, htext])
  · refine .file ?_ (by simp [ofString, htext])
    by_cases hc : c = '-'
    · exact .inl (String.toList_inj.1 (by simp [htext, hc]))
    · exact .inr (by simpa [htext] using hc)
  · by_cases hc : c = '-'
    · subst hc
      by_cases hd : d = '-'
      · subst hd
        by_cases hrest : rest = []
        · exact .separator (String.toList_inj.1 (by simp [htext, hrest]))
        · have hsplit := List.takeWhile_append_dropWhile (p := (· ≠ '=')) (l := rest)
          cases hvalue : rest.dropWhile (· ≠ '=') with
          | nil =>
            rw [hvalue, List.append_nil] at hsplit
            exact .long (String.ofList rest) none rest htext
              (by simp only [ofString, htext, hvalue, hsplit])
              fun _ => String.toList_inj.1 (by simp [htext])
          | cons e value =>
            exact .long (String.ofList (rest.takeWhile (· ≠ '='))) (some (String.ofList value)) rest
              htext (by simp only [ofString, htext, hvalue]) nofun
      · exact .short (d :: rest) htext (by simp) (by simpa using hd) (by simp [ofString, htext, hd])
    · exact .file (.inr (by simpa [htext] using hc)) (by simp [ofString, htext, hc])

end Argument

/-! ## One argument -/

namespace Scan

open Argument
open FileSystem (bind_eq_ok)

/-- Takes in flags that have not been given. -/
def addFlags (scan : Scan) (flags : List Flag) : Scan :=
  { scan with flags := scan.flags ++ flags }

@[simp] theorem flags_addFlags (scan : Scan) (flags : List Flag) :
    (scan.addFlags flags).flags = scan.flags ++ flags := rfl

@[simp] theorem files_addFlags (scan : Scan) (flags : List Flag) :
    (scan.addFlags flags).files = scan.files := rfl

theorem accept_eq_ok {scan next : Scan} (hfiles : "" ∉ scan.files) {flag : Flag} :
    scan.accept flag = .ok next ↔
      (flag = .check ∨ flag = .quiet) ∧ flag ∉ scan.flags ∧ next = scan.addFlags [flag] := by
  have hcheck : scan.checkFiles = .ok () := if_neg hfiles
  unfold accept
  rw [hcheck]
  simp only [bind, Except.bind]
  cases flag with
  | check | quiet =>
    simp only
    split
    · next hgiven => simp [hgiven]
    · next hnew => simp [hnew, addFlags, eq_comm]
  | help | version => simp

/-- No other letter than those of the two flags is taken in. -/
theorem acceptLetter_eq_ok {scan next : Scan} (hfiles : "" ∉ scan.files) {letter : Char} :
    scan.acceptLetter letter = .ok next ↔
      (letter = 'c' ∨ letter = 'q') ∧ flagOf letter ∉ scan.flags ∧
        next = scan.addFlags [flagOf letter] := by
  by_cases hknown : letter = 'c' ∨ letter = 'q'
  · have hletter : Flag.ofLetter? letter = some (flagOf letter) := by
      rcases hknown with rfl | rfl <;> rfl
    have hflag : flagOf letter = .check ∨ flagOf letter = .quiet := by
      rcases hknown with rfl | rfl <;> decide
    simp [acceptLetter, hletter, accept_eq_ok hfiles, hknown, hflag]
  · simp only [hknown, false_and, iff_false, acceptLetter]
    split
    · next flag hletter =>
      rw [accept_eq_ok hfiles]
      rintro ⟨hflag, -⟩
      have hfound := List.find?_some hletter
      rcases hflag with rfl | rfl
      · exact hknown (.inl (by simpa [Flag.letter, eq_comm] using hfound))
      · exact hknown (.inr (by simpa [Flag.letter, eq_comm] using hfound))
    · simp

/-- **A group of letters** is taken in exactly if each is the letter of a flag, and no flag is
given twice by all that has been read. -/
theorem foldlM_acceptLetter_eq_ok {letters : List Char} {scan next : Scan}
    (hfiles : "" ∉ scan.files) (hflags : scan.flags.Nodup) :
    letters.foldlM acceptLetter scan = .ok next ↔
      (∀ c ∈ letters, c = 'c' ∨ c = 'q') ∧ (scan.flags ++ letters.map flagOf).Nodup ∧
        next = scan.addFlags (letters.map flagOf) := by
  induction letters generalizing scan with
  | nil => simp [hflags, addFlags, pure, Except.pure, eq_comm]
  | cons letter letters ih =>
    have hadd : scan.addFlags ((letter :: letters).map flagOf) =
        (scan.addFlags [flagOf letter]).addFlags (letters.map flagOf) := by
      simp [addFlags]
    have hnodup : (scan.flags ++ (letter :: letters).map flagOf).Nodup ↔
        flagOf letter ∉ scan.flags ∧
          ((scan.addFlags [flagOf letter]).flags ++ letters.map flagOf).Nodup := by
      rw [flags_addFlags, List.append_assoc, List.singleton_append, List.map_cons, iff_and_self,
        List.nodup_middle, List.nodup_cons]
      exact fun h hmem => h.1 (List.mem_append_left _ hmem)
    have hfiles' : "" ∉ (scan.addFlags [flagOf letter]).files := hfiles
    rw [List.foldlM_cons, bind_eq_ok, List.forall_mem_cons, hadd, hnodup]
    simp only [acceptLetter_eq_ok hfiles]
    constructor
    · intro h
      obtain ⟨_, ⟨hletter, hnew, rfl⟩, hrest⟩ := h
      have hflags' : (scan.addFlags [flagOf letter]).flags.Nodup := by
        simpa using List.Nodup.concat hnew hflags
      obtain ⟨hletters, hrest⟩ := (ih hfiles' hflags').1 hrest
      exact ⟨⟨hletter, hletters⟩, ⟨hnew, hrest.1⟩, hrest.2⟩
    · intro h
      obtain ⟨⟨hletter, hletters⟩, ⟨hnew, hrest⟩, rfl⟩ := h
      exact ⟨_, ⟨hletter, hnew, rfl⟩,
        (ih hfiles' (List.Nodup.of_append_left hrest)).2 ⟨hletters, hrest, rfl⟩⟩

theorem acceptName_eq_ok {scan next : Scan} (hfiles : "" ∉ scan.files) {name : String}
    {value : Option String} :
    scan.acceptName name value = .ok next ↔ value = none ∧
      ∃ flag, (flag = .check ∨ flag = .quiet) ∧ name = flag.name ∧ flag ∉ scan.flags ∧
        next = scan.addFlags [flag] := by
  unfold acceptName
  split
  · next flag hname =>
    rw [accept_eq_ok hfiles]
    have hflag : name = flag.name := by simpa [eq_comm] using List.find?_some hname
    constructor
    · intro h
      exact ⟨rfl, flag, h.1, hflag, h.2⟩
    · intro h
      obtain ⟨-, other, hother, hname', hnew⟩ := h
      have hsame : some flag = some other := by rw [← hname, hname', Flag.ofName?_name]
      cases hsame
      exact ⟨hother, hnew⟩
  · simp
  · next hname =>
    have hnone : ¬∃ flag, (flag = Flag.check ∨ flag = .quiet) ∧ name = flag.name ∧
        flag ∉ scan.flags ∧ next = scan.addFlags [flag] := by
      rintro ⟨flag, -, rfl, -⟩
      simp at hname
    split <;> simp [hnone]

/-- Takes in one argument before the separator. -/
def take (scan : Scan) (argument : String) : Except Reply Scan :=
  match Argument.ofString argument with
  | .file name => .ok (scan.addFiles [name])
  | .separator => .ok scan
  | .long name value => scan.acceptName name value
  | .short letters => letters.foldlM acceptLetter scan

theorem read_cons {argument : String} (h : argument ≠ "--") (scan : Scan) (rest : List String) :
    scan.read (argument :: rest) = scan.take argument >>= fun next => next.read rest := by
  rw [Scan.read, take]
  cases kind argument with
  | file isFile read =>
    rw [read]
    rfl
  | separator text => exact absurd text h
  | long name value rest text read bare => rw [read]
  | short letters text some single read => rw [read]

theorem take_of_long {scan next : Scan} {argument name : String} {value : Option String}
    {rest : List Char} (text : argument.toList = '-' :: '-' :: rest)
    (read : ofString argument = .long name value) (bare : value = none → argument = "--" ++ name)
    (hfiles : "" ∉ scan.files) (hflags : scan.flags.Nodup) :
    scan.take argument = .ok next ↔ AsksForFlags argument ∧
      (scan.flags ++ asked argument).Nodup ∧ next = scan.addFlags (asked argument) := by
  have hgroup : ¬IsGroup argument := by
    rintro ⟨-, -, hletters⟩
    exact absurd (hletters '-' (by simp [text])) (by decide)
  have hasks : AsksForFlags argument ↔
      ∃ flag, (flag = Flag.check ∨ flag = .quiet) ∧ argument = flag.spelling := by
    simp [AsksForFlags, hgroup, Flag.spelling, Flag.name]
  have hasked : ∀ flag, flag = Flag.check ∨ flag = .quiet → asked flag.spelling = [flag] := by
    rintro _ (rfl | rfl) <;> decide
  have hspelled : ∀ flag, flag = Flag.check ∨ flag = .quiet →
      ofString flag.spelling = .long flag.name none := by
    rintro _ (rfl | rfl) <;> decide
  rw [take, read]
  simp only [acceptName_eq_ok hfiles, hasks]
  constructor
  · intro h
    obtain ⟨hvalue, flag, hflag, hname, hnew, rfl⟩ := h
    obtain rfl : argument = flag.spelling := by rw [bare hvalue, hname, Flag.spelling]
    rw [hasked flag hflag]
    exact ⟨⟨flag, hflag, rfl⟩, by simpa using List.Nodup.concat hnew hflags, rfl⟩
  · intro h
    obtain ⟨⟨flag, hflag, rfl⟩, hnodup, rfl⟩ := h
    cases read.symm.trans (hspelled flag hflag)
    rw [hasked flag hflag, ← List.concat_eq_append, List.nodup_concat] at hnodup
    exact ⟨rfl, flag, hflag, rfl, hnodup.1, by rw [hasked flag hflag]⟩

theorem take_of_short {scan next : Scan} {argument : String} {letters : List Char}
    (text : argument.toList = '-' :: letters) (some : letters ≠ [])
    (single : letters.head? ≠ Option.some '-') (read : ofString argument = .short letters)
    (hfiles : "" ∉ scan.files) (hflags : scan.flags.Nodup) :
    scan.take argument = .ok next ↔ AsksForFlags argument ∧
      (scan.flags ++ asked argument).Nodup ∧ next = scan.addFlags (asked argument) := by
  have hspelled : argument ≠ "--check" ∧ argument ≠ "--quiet" := by
    constructor
    · rintro rfl
      cases text
      exact single rfl
    · rintro rfl
      cases text
      exact single rfl
  have hgroup : IsGroup argument ↔ ∀ c ∈ letters, c = 'c' ∨ c = 'q' := by
    simp [IsGroup, text, some]
  have hasks : AsksForFlags argument ↔ ∀ c ∈ letters, c = 'c' ∨ c = 'q' := by
    simp [AsksForFlags, hspelled, hgroup]
  rw [take, read]
  simp only [foldlM_acceptLetter_eq_ok hfiles hflags, hasks]
  refine and_congr_right fun hletters => ?_
  rw [asked, if_neg hspelled.1, if_neg hspelled.2, if_pos (hgroup.2 hletters), text, List.tail_cons]

/-- **One argument** before the separator is taken in exactly if it is a file or asks for flags,
and no flag is given twice by all that has been read. -/
theorem take_eq_ok {scan next : Scan} {argument : String} (h : argument ≠ "--")
    (hfiles : "" ∉ scan.files) (hflags : scan.flags.Nodup) :
    scan.take argument = .ok next ↔
      (IsFile argument ∨ AsksForFlags argument) ∧ (scan.flags ++ asked argument).Nodup ∧
        next = (scan.addFlags (asked argument)).addFiles
          (if IsFile argument then [argument] else []) := by
  have hnone : ∀ scan : Scan, scan.addFiles [] = scan := by simp [addFiles]
  cases kind argument with
  | file isFile read =>
    simp [take, read, isFile, asked_of_isFile isFile, hflags, addFlags, eq_comm]
  | separator text => exact absurd text h
  | long name value rest text read bare =>
    have hfile : ¬IsFile argument := by
      rintro (rfl | hhead)
      · cases text
      · simp [text] at hhead
    simp only [take_of_long text read bare hfiles hflags, hfile, false_or, if_false, hnone]
  | short letters text some single read =>
    have hfile : ¬IsFile argument := by
      rintro (rfl | hhead)
      · cases text
        exact some rfl
      · simp [text] at hhead
    simp only [take_of_short text some single read hfiles hflags, hfile, false_or, if_false, hnone]

/-! ## The whole command line -/

theorem finish_eq_ok {scan : Scan} {options : Options} (hfiles : "" ∉ scan.files) :
    scan.finish = .ok options ↔ scan.files ≠ [] ∧
      options = {
        check := .check ∈ scan.flags
        quiet := .quiet ∈ scan.flags
        files := scan.files.map Path.mk } := by
  have hcheck : scan.checkFiles = .ok () := if_neg hfiles
  simp only [finish, hcheck, bind, Except.bind]
  split
  · next hnone => simp [hnone]
  · next hsome => simp [hsome, eq_comm]

/-- **A scan** succeeds exactly if every argument before the separator is of some kind, no flag is
given twice, and in the end there is a file. It ends with all flags asked for and all files. -/
theorem read_eq_ok {arguments : List String} {scan : Scan} {options : Options}
    (hempty : "" ∉ arguments) (hfiles : "" ∉ scan.files) (hflags : scan.flags.Nodup) :
    scan.read arguments = .ok options ↔
      (∀ argument ∈ leading arguments, IsFile argument ∨ AsksForFlags argument) ∧
        (scan.flags ++ (leading arguments).flatMap asked).Nodup ∧
        ((scan.addFlags ((leading arguments).flatMap asked)).addFiles
          (fileNames arguments)).finish = .ok options := by
  induction arguments generalizing scan with
  | nil => simp [Scan.read, leading, trailing, fileNames, addFlags, addFiles, hflags]
  | cons argument rest ih =>
    rw [List.mem_cons, not_or] at hempty
    obtain ⟨hargument, hrest⟩ := hempty
    by_cases hseparator : argument = "--"
    · subst hseparator
      have hread : scan.read ("--" :: rest) = (scan.addFiles rest).finish := rfl
      simp [hread, leading, trailing, fileNames, addFlags, hflags]
    · have hleading : leading (argument :: rest) = argument :: leading rest := by
        simp [leading, hseparator]
      have htrailing : trailing (argument :: rest) = trailing rest := by
        simp [trailing, hseparator]
      have hnames : fileNames (argument :: rest) =
          (if IsFile argument then [argument] else []) ++ fileNames rest := by
        rw [fileNames, fileNames, hleading, htrailing, List.filter_cons]
        split <;> simp_all
      rw [read_cons hseparator, bind_eq_ok, hleading, hnames, List.forall_mem_cons,
        List.flatMap_cons]
      simp only [take_eq_ok hseparator hfiles hflags]
      have hfiles' : "" ∉ scan.files ++ if IsFile argument then [argument] else [] := by
        split <;> simp [hfiles, hargument]
      constructor
      · intro h
        obtain ⟨_, ⟨hkind, hnodup, rfl⟩, hread⟩ := h
        obtain ⟨hkinds, hnodups, hfinish⟩ := (ih hrest hfiles' hnodup).1 hread
        refine ⟨⟨hkind, hkinds⟩, by simpa [addFiles] using hnodups,
          by simpa [addFiles, addFlags] using hfinish⟩
      · intro h
        obtain ⟨⟨hkind, hkinds⟩, hnodup, hfinish⟩ := h
        rw [← List.append_assoc] at hnodup
        have hnodup' := List.Nodup.of_append_left hnodup
        refine ⟨_, ⟨hkind, hnodup', rfl⟩, (ih hrest hfiles' hnodup').2 ⟨hkinds, hnodup, ?_⟩⟩
        simpa [addFiles, addFlags] using hfinish

end Scan

open Argument

theorem Argument.mem_of_mem_fileNames {argument : String} {arguments : List String}
    (h : argument ∈ fileNames arguments) : argument ∈ arguments := by
  rcases List.mem_append.1 h with hleading | htrailing
  · exact List.takeWhile_subset _ (List.mem_filter.1 hleading).1
  · exact List.dropWhile_subset _ (List.mem_of_mem_tail htrailing)

/-- The flags asked for are all different exactly if each of the two is asked for at most once. -/
theorem Argument.nodup_asked_iff (arguments : List String) :
    ((leading arguments).flatMap asked).Nodup ↔
      requests .check arguments ≤ 1 ∧ requests .quiet arguments ≤ 1 := by
  rw [List.nodup_iff_count_le_one]
  constructor
  · intro h
    exact ⟨h .check, h .quiet⟩
  · intro h flag
    by_cases hflag : flag ∈ (leading arguments).flatMap asked
    · obtain ⟨_, -, hasked⟩ := List.mem_flatMap.1 hflag
      rcases eq_check_or_quiet_of_mem_asked hasked with rfl | rfl
      · exact h.1
      · exact h.2
    · rw [List.count_eq_zero.2 hflag]
      exact Nat.zero_le 1

/-- **The command line accepts exactly its grammar**, if no argument is empty. Every argument before
the first `--` is a file, or `--check`, or `--quiet`, or a dash and letters `c` and `q`; check is
asked for at most once by all of them, and so is quiet; every argument behind the first `--` is a
file as it stands; and there is a file. Then the two flags are set that were asked for, and the
files are all files in their order, wherever the flags stand among them. -/
theorem accepted_iff_grammar {arguments : List String} (hempty : "" ∉ arguments)
    {options : Options} :
    Options.parse arguments = .ok options ↔
      (∀ argument ∈ leading arguments,
        IsFile argument ∨ argument = "--check" ∨ argument = "--quiet" ∨ IsGroup argument) ∧
      requests .check arguments ≤ 1 ∧ requests .quiet arguments ≤ 1 ∧
      (leading arguments).filter (IsFile ·) ++ trailing arguments ≠ [] ∧
      options = {
        check := 0 < requests .check arguments
        quiet := 0 < requests .quiet arguments
        files := ((leading arguments).filter (IsFile ·) ++ trailing arguments).map Path.mk } := by
  have hnames : "" ∉ ((({} : Scan).addFlags ((leading arguments).flatMap asked)).addFiles
      (fileNames arguments)).files :=
    fun h => hempty (mem_of_mem_fileNames h)
  have hflags : ({} : Scan).flags.Nodup := List.nodup_nil
  rw [Options.parse, Scan.read_eq_ok hempty List.not_mem_nil hflags, Scan.finish_eq_ok hnames]
  simp only [Scan.addFlags, Scan.addFiles, List.nil_append, nodup_asked_iff, requests,
    List.count_pos_iff, and_assoc]
  rfl

/-- Flags by letters and spelled out, a lone dash, and files behind the separator that look like
flags and like another separator. -/
theorem accepted_mixedArguments :
    let arguments := ["-", "-q", "a.in", "--check", "--", "--", "-c", "-qq"]
    "" ∉ arguments ∧ Options.parse arguments =
      .ok {
        check := true
        quiet := true
        files := [⟨"-"⟩, ⟨"a.in"⟩, ⟨"--"⟩, ⟨"-c"⟩, ⟨"-qq"⟩] } := by
  intro arguments
  have hempty : "" ∉ arguments := by decide
  exact ⟨hempty, (accepted_iff_grammar hempty).2 (by decide)⟩

end ErrorTable
