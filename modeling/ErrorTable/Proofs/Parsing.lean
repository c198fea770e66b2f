/-
What a definition file says, line by line.

Every entry comes from a line that is one, and the value of a key from the last line that
sets it (`get?_parse`). So whatever the grammar of a line promises of a field holds of the
fields of a definition: none of them has a line feed.
-/
import ErrorTable.Generate
import ErrorTable.Proofs.Format
import ErrorTable.Proofs.Grammar

namespace ErrorTable

/-! ## Fields without line feeds -/

theorem Text.mem_of_mem_trim {c : Char} {cs : List Char} (h : c ∈ Text.trim cs) : c ∈ cs := by
  simp only [Text.trim, Text.trimEnd, Text.trimStart, List.mem_reverse] at h
  exact List.dropWhile_subset _ (List.mem_reverse.1 (List.dropWhile_subset _ h))

namespace Line

theorem IsWord.newline_notMem {cs : List Char} (h : IsWord cs) : '\n' ∉ cs :=
  fun hmem => absurd (h.2 '\n' hmem) (by decide)

theorem onOneLine_of_classify {text : String} {e : Entry} (h : classify text = .entry e) :
    e.OnOneLine := by
  obtain ⟨_, _, _, -, hcode, -, hexception, -, hflag, -, hmessage⟩ := classify_eq_entry.1 h
  exact ⟨hcode.newline_notMem, hexception.newline_notMem, hflag.newline_notMem,
    hmessage.noNewline⟩

theorem newline_notMem_of_classify {text : String} {key : DirectiveKey} {value : String}
    (h : classify text = .directive key value) : '\n' ∉ value.toList := by
  obtain ⟨rest, -, hrest, rfl⟩ := classify_eq_directive.1 h
  rw [String.toList_ofList]
  exact fun hmem => hrest (Text.mem_of_mem_trim hmem)

theorem asEntry_eq_some {line : Line} {e : Entry} : line.asEntry = some e ↔ line = .entry e := by
  cases line <;> simp [asEntry]

/-! ## The last value of a key -/

/-- The value that a line sets for a key. -/
def valueFor? (key : DirectiveKey) : Line → Option String
  | .directive other value => if other = key then some value else none
  | _ => none

theorem valueFor?_eq_some {key : DirectiveKey} {line : Line} {value : String} :
    line.valueFor? key = some value ↔ line = .directive key value := by
  cases line with
  | directive other value' =>
    by_cases h : other = key <;> simp [valueFor?, h]
  | entry | ignored => simp [valueFor?]

end Line

namespace Directives

theorem get?_add (directives : Directives) (line : Line) (key : DirectiveKey) :
    (directives.add line).get? key = (line.valueFor? key).or (directives.get? key) := by
  cases line with
  | directive other value =>
    by_cases h : other = key
    · subst h
      simp [add, Line.valueFor?]
    · simp [add, Line.valueFor?, h, get?_set_other directives value (Ne.symm h)]
  | entry | ignored => rfl

/-- After some lines a key has the value that the last of them sets, or the value it had if
none does. -/
theorem get?_foldl_add (ls : List Line) (directives : Directives) (key : DirectiveKey) :
    (ls.foldl add directives).get? key =
      (ls.filterMap (Line.valueFor? key)).getLast?.or (directives.get? key) := by
  induction ls generalizing directives with
  | nil => rfl
  | cons line ls ih =>
    rw [List.foldl_cons, ih, get?_add]
    cases h : line.valueFor? key with
    | none => simp [h]
    | some value =>
      rw [List.filterMap_cons_some h, List.getLast?_cons]
      cases (ls.filterMap (Line.valueFor? key)).getLast? <;> rfl

end Directives

/-! ## Whole definitions -/

namespace Definition

theorem get?_ofLines (ls : List Line) (key : DirectiveKey) :
    (ofLines ls).directives.get? key = (ls.filterMap (Line.valueFor? key)).getLast? := by
  have hempty : ({} : Directives).get? key = none := by cases key <;> rfl
  rw [ofLines, Directives.get?_foldl_add, hempty, Option.or_none]

/-- The value that the last line of a definition file for a key sets. -/
def lastValue? (key : DirectiveKey) (content : String) : Option String :=
  (((lines content).map Line.classify).filterMap (Line.valueFor? key)).getLast?

/-- **The value of a key** in a definition file is the one that its last line for that key
sets. -/
theorem get?_parse (content : String) (key : DirectiveKey) :
    (parse content).directives.get? key = lastValue? key content :=
  get?_ofLines _ key

theorem newline_notMem_get? {content value : String} {key : DirectiveKey}
    (h : (parse content).directives.get? key = some value) : '\n' ∉ value.toList := by
  rw [get?_parse] at h
  obtain ⟨_, hline, hvalue⟩ := List.mem_filterMap.1 (List.mem_of_getLast? h)
  obtain ⟨text, -, rfl⟩ := List.mem_map.1 hline
  exact Line.newline_notMem_of_classify (Line.valueFor?_eq_some.1 hvalue)

theorem newline_notMem_arrayName (content : String) :
    '\n' ∉ (parse content).arrayName.toList := by
  unfold arrayName
  cases h : (parse content).directives.arrayName with
  | none => simp
  | some value =>
    have hget : (parse content).directives.get? .arrayName = some value := h
    exact newline_notMem_get? hget

theorem arrayName_parse (content : String) :
    (parse content).arrayName = (lastValue? .arrayName content).getD "" := by
  rw [← get?_parse]
  rfl

theorem output?_parse {content output : String} :
    (parse content).output? = some output ↔
      lastValue? .output content = some output ∧ output ≠ "" := by
  rw [← get?_parse]
  simp [output?, Directives.get?, Option.filter_eq_some_iff]

theorem onOneLine_of_mem_parse {content : String} {e : Entry} (h : e ∈ (parse content).entries) :
    e.OnOneLine := by
  obtain ⟨line, hline, he⟩ := List.mem_filterMap.1 h
  obtain ⟨text, -, rfl⟩ := List.mem_map.1 hline
  exact Line.onOneLine_of_classify (Line.asEntry_eq_some.1 he)

/-- What is generated declares an array with the name that the definition gives. -/
theorem decode_generated (content : String) (input : Path) (output : String) :
    Fragment.decode ((parse content).generated input output).fragment =
      some ((parse content).arrayName, (parse content).entries) :=
  Fragment.decode_render (newline_notMem_arrayName content) fun _ => onOneLine_of_mem_parse

/-- Two definition files give the same fragment exactly if they name the array alike and
list the same entries. -/
theorem render_parse_eq_iff (before after : String) :
    Fragment.render (parse before).arrayName (parse before).entries =
        Fragment.render (parse after).arrayName (parse after).entries ↔
      (parse before).arrayName = (parse after).arrayName ∧
        (parse before).entries = (parse after).entries :=
  Fragment.render_inj (newline_notMem_arrayName before) (fun _ => onOneLine_of_mem_parse)
    (newline_notMem_arrayName after) (fun _ => onOneLine_of_mem_parse)

end Definition

end ErrorTable
