/-
Where the directives of a definition file stand makes no difference.

A definition is its entries in their order and the last value of each key (`ofLines_eq_iff`).
So of a definition file four sequences of lines count, that of the entries and that of the
directives with each key, and each counts on its own: how they are interleaved, and what is
ignored between them, cannot be seen in the definition (`parse_eq_of_interleaved`).

The lines are taken as they stand in the text. A byte-order mark in front of the first one would
make it another line than the one that is read, so no line may start with a mark.
-/
import ErrorTable.Proofs.Segments

namespace ErrorTable

/-! ## Lines as they stand -/

namespace Text

theorem head?_dropReturn {c : Char} (hreturn : c ≠ '\r') (cs : List Char) :
    (dropReturn (c :: cs)).head? = some c := by
  unfold dropReturn
  split
  · next hlast =>
    cases cs with
    | nil => exact absurd (by simpa using hlast) hreturn
    | cons d cs => rfl
  · rfl

theorem exists_line_head {c : Char} (hnewline : c ≠ '\n') (hreturn : c ≠ '\r') (cs : List Char) :
    ∃ line ∈ lines (c :: cs), line.head? = some c := by
  obtain ⟨first, rest, hcut⟩ : ∃ first rest, (c :: cs).splitOn '\n' = (c :: first) :: rest := by
    obtain ⟨first, rest, hcs⟩ := List.exists_cons_of_ne_nil (List.splitOn_ne_nil '\n' cs)
    refine ⟨first, rest, ?_⟩
    rw [List.splitOn_cons_eq_if_modifyHead, if_neg (by simpa using hnewline), hcs]
    rfl
  rw [lines, hcut]
  cases rest with
  | nil => exact ⟨c :: first, by simp, rfl⟩
  | cons next rest => exact ⟨dropReturn (c :: first), by simp, head?_dropReturn hreturn first⟩

end Text

namespace Definition

/-- The lines of a text as they stand, also if the first one starts with a byte-order mark. -/
def textLines (content : String) : List String :=
  (Text.lines content.toList).map String.ofList

/-- No line of a text starts with a byte-order mark. -/
def Unmarked (content : String) : Prop :=
  ∀ line ∈ textLines content, line.toList.head? ≠ some Text.byteOrderMark

theorem lines_eq_textLines {content : String} (h : Unmarked content) :
    lines content = textLines content := by
  have hhead : content.toList.head? ≠ some Text.byteOrderMark := by
    intro hmark
    obtain ⟨cs, hcs⟩ := List.head?_eq_some_iff.1 hmark
    obtain ⟨line, hline, hstart⟩ := Text.exists_line_head
      (by decide : Text.byteOrderMark ≠ '\n') (by decide) cs
    refine h (String.ofList line) ?_ (by simpa using hstart)
    rw [textLines, hcs]
    exact List.mem_map_of_mem hline
  rw [lines, dropMark_eq_self hhead, textLines]

/-! ## What counts in a sequence of lines -/

/-- **A definition** is its entries and the last value of each key. -/
theorem ofLines_eq_iff {a b : List Line} :
    ofLines a = ofLines b ↔
      a.filterMap Line.asEntry = b.filterMap Line.asEntry ∧
        ∀ key, (a.filterMap (Line.valueFor? key)).getLast? =
          (b.filterMap (Line.valueFor? key)).getLast? := by
  simp only [← get?_ofLines]
  constructor
  · intro h
    exact ⟨congrArg entries h, fun key => by rw [h]⟩
  · intro h
    obtain ⟨hentries, hkeys⟩ := h
    have hdirectives := Directives.ext_get? hkeys
    calc ofLines a = ⟨(ofLines a).directives, a.filterMap Line.asEntry⟩ := rfl
      _ = ⟨(ofLines b).directives, b.filterMap Line.asEntry⟩ := by rw [hdirectives, hentries]
      _ = ofLines b := rfl

theorem filterMap_classify_of_filter {β : Type} {f : Line → Option β} {a b : List String}
    (h : (a.filter fun line => (f (Line.classify line)).isSome) =
      b.filter fun line => (f (Line.classify line)).isSome) :
    (a.map Line.classify).filterMap f = (b.map Line.classify).filterMap f := by
  have hfilter : ∀ ls : List String, (ls.map Line.classify).filterMap f =
      (ls.filter fun line => (f (Line.classify line)).isSome).filterMap (f ∘ Line.classify) := by
    intro ls
    rw [List.filterMap_map, List.filterMap_filter]
    refine List.filterMap_congr fun line _ => ?_
    cases hline : f (Line.classify line) <;> simp [hline]
  rw [hfilter, hfilter, h]

end Definition

/-! ## Interleaved lines -/

namespace Line

/-- Whether a line is an entry. -/
def isEntry (line : String) : Bool := (classify line).asEntry.isSome

/-- Whether a line is a directive with the given key. -/
def isDirective (key : DirectiveKey) (line : String) : Bool :=
  ((classify line).valueFor? key).isSome

end Line

namespace Definition

/-- **Directives can stand anywhere.** Two texts with the same entry lines, and for each key the
same directive lines with that key, each in the same order, give the same definition. Between
the four sequences no order is kept, and all other lines may differ. -/
theorem parse_eq_of_interleaved {a b : String} (ha : Unmarked a) (hb : Unmarked b)
    (hentries : (textLines a).filter Line.isEntry = (textLines b).filter Line.isEntry)
    (hkeys : ∀ key, (textLines a).filter (Line.isDirective key) =
      (textLines b).filter (Line.isDirective key)) :
    parse a = parse b := by
  rw [parse, parse, lines_eq_textLines ha, lines_eq_textLines hb, ofLines_eq_iff]
  refine ⟨filterMap_classify_of_filter hentries, fun key => ?_⟩
  exact congrArg List.getLast? (filterMap_classify_of_filter (hkeys key))

theorem parse_eq_scattered :
    let a := "OUTPUT=a\nOUTPUT=b\nOUTPUT_VAR=t\nE X F OUTPUT=c\n"
    let b := "#\r\nOUTPUT=a\r\nE X F OUTPUT=c\nOUTPUT_VAR=t\n\nOUTPUT=b"
    Unmarked a ∧ Unmarked b ∧
      (textLines a).filter Line.isEntry = (textLines b).filter Line.isEntry ∧
      (∀ key, (textLines a).filter (Line.isDirective key) =
        (textLines b).filter (Line.isDirective key)) ∧
      parse a = parse b := by
  intro a b
  have hlinesA : textLines a = ["OUTPUT=a", "OUTPUT=b", "OUTPUT_VAR=t", "E X F OUTPUT=c"] := by
    decide +kernel
  have hlinesB : textLines b =
      ["#", "OUTPUT=a", "E X F OUTPUT=c", "OUTPUT_VAR=t", "", "OUTPUT=b"] := by
    decide +kernel
  have ha : Unmarked a := by
    rw [Unmarked, hlinesA]
    decide +kernel
  have hb : Unmarked b := by
    rw [Unmarked, hlinesB]
    decide +kernel
  have hentries : (textLines a).filter Line.isEntry = (textLines b).filter Line.isEntry := by
    rw [hlinesA, hlinesB]
    decide +kernel
  have hkeys : ∀ key, (textLines a).filter (Line.isDirective key) =
      (textLines b).filter (Line.isDirective key) := by
    intro key
    rw [hlinesA, hlinesB]
    cases key <;> decide +kernel
  exact ⟨ha, hb, hentries, hkeys, parse_eq_of_interleaved ha hb hentries hkeys⟩

end Definition

end ErrorTable
