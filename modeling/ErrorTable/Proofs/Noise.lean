/-
What cannot be seen in a definition file.

Of a line only its trimmed text counts. So blanks can be inserted at the start and at the end of
any line, and neither the definition nor the numbers of the unrecognized lines change
(`sameTrimmed_of_inserts`, `readsAlike_of_sameTrimmed`). A carriage return in front of a line feed
is such a blank, so the kind of the line endings makes no difference either
(`inserts_withReturns`), and a byte-order mark in front of everything is not read at all
(`readsAlike_mark`).
-/
import ErrorTable.Proofs.Printing
import Mathlib.Data.List.Forall2
import Mathlib.Logic.Relation

namespace ErrorTable

open Relation (ReflTransGen)

/-! ## Texts with blanks inserted -/

namespace Text

/-- Blanks are inserted into a text, at the start or at the end of a line. A line starts with the
text or behind a line feed, and ends with the text or in front of its line ending. -/
inductive Inserts : List Char → List Char → Prop where
  | atStart {before after blanks : List Char} (hblanks : IsSpacing blanks)
      (hstart : before = [] ∨ ['\n'] <:+ before) :
      Inserts (before ++ after) (before ++ blanks ++ after)
  | atEnd {before after blanks : List Char} (hblanks : IsSpacing blanks)
      (hend : after = [] ∨ ['\n'] <+: after ∨ ['\r', '\n'] <+: after) :
      Inserts (before ++ after) (before ++ blanks ++ after)

/-- The text with a carriage return in front of every line feed. -/
def withReturns (cs : List Char) : List Char :=
  cs.flatMap fun c => if c = '\n' then ['\r', '\n'] else [c]

/-- Two texts have the same segments once each of these is trimmed. -/
def SameTrimmed (a b : List Char) : Prop :=
  (a.splitOn '\n').map trim = (b.splitOn '\n').map trim

/-- A text is one line, or a line, a line feed and another text. -/
@[elab_as_elim] theorem lineInduction {motive : List Char → Prop}
    (last : ∀ line, '\n' ∉ line → motive line)
    (more : ∀ line rest, '\n' ∉ line → motive rest → motive (line ++ '\n' :: rest))
    (cs : List Char) : motive cs := by
  by_cases hmem : '\n' ∈ cs
  · obtain ⟨line, rest, rfl, hline⟩ := List.eq_append_cons_of_mem hmem
    exact more line rest hline (lineInduction last more rest)
  · exact last cs hmem
termination_by cs.length

theorem SameTrimmed.refl (cs : List Char) : SameTrimmed cs cs := rfl

theorem SameTrimmed.of_lines {a b : List Char} (ha : '\n' ∉ a) (hb : '\n' ∉ b)
    (h : trim a = trim b) : SameTrimmed a b := by
  rw [SameTrimmed, List.splitOn_eq_singleton ha, List.splitOn_eq_singleton hb, List.map_singleton,
    List.map_singleton, h]

theorem SameTrimmed.append_newline {a b c d : List Char} (hab : SameTrimmed a b)
    (hcd : SameTrimmed c d) : SameTrimmed (a ++ '\n' :: c) (b ++ '\n' :: d) := by
  rw [SameTrimmed, List.splitOn_append_cons_self, List.splitOn_append_cons_self, List.map_append,
    List.map_append, hab, hcd]

theorem sameTrimmed_blanks_append {blanks : List Char} (h : IsSpacing blanks) (cs : List Char) :
    SameTrimmed (blanks ++ cs) cs := by
  have hline : ∀ line, '\n' ∉ line → SameTrimmed (blanks ++ line) line := by
    intro line hline
    refine .of_lines ?_ hline (trim_blanks_append h.isBlank line)
    simp [h.newline_notMem, hline]
  induction cs using lineInduction with
  | last line hnewline => exact hline line hnewline
  | more line rest hnewline _ =>
    rw [← List.append_assoc]
    exact (hline line hnewline).append_newline (.refl rest)

theorem sameTrimmed_append_blanks {blanks : List Char} (h : IsSpacing blanks) (cs : List Char) :
    SameTrimmed (cs ++ blanks) cs := by
  induction cs using lineInduction with
  | last line hnewline =>
    refine .of_lines ?_ hnewline (trim_append_blanks h.isBlank line)
    simp [h.newline_notMem, hnewline]
  | more line rest hnewline ih =>
    rw [List.append_assoc, List.cons_append]
    exact (SameTrimmed.refl line).append_newline ih

/-- Blanks at the ends of lines are trimmed away. -/
theorem sameTrimmed_of_inserts {cs padded : List Char} (h : Inserts cs padded) :
    SameTrimmed padded cs := by
  cases h with
  | @atStart before after blanks hblanks hstart =>
    rcases hstart with rfl | ⟨lines, rfl⟩
    · exact sameTrimmed_blanks_append hblanks after
    · simp only [List.append_assoc, List.singleton_append]
      exact (SameTrimmed.refl lines).append_newline (sameTrimmed_blanks_append hblanks after)
  | @atEnd before after blanks hblanks hend =>
    rcases hend with rfl | ⟨rest, rfl⟩ | ⟨rest, rfl⟩
    · rw [List.append_nil, List.append_nil]
      exact sameTrimmed_append_blanks hblanks before
    · exact (sameTrimmed_append_blanks hblanks before).append_newline (.refl rest)
    · -- The carriage return of the line ending is a blank at the end of the line as well.
      have hreturn : IsSpacing ['\r'] := by decide
      have hboth : IsSpacing (blanks ++ ['\r']) := List.forall_mem_append.2 ⟨hblanks, hreturn⟩
      have hline : SameTrimmed (before ++ (blanks ++ ['\r'])) (before ++ ['\r']) :=
        (sameTrimmed_append_blanks hboth before).trans (sameTrimmed_append_blanks hreturn before).symm
      simpa using hline.append_newline (.refl rest)

/-- Carriage returns in front of line feeds are inserted one after the other. -/
theorem inserts_withReturns (before cs : List Char) :
    ReflTransGen Inserts (before ++ cs) (before ++ withReturns cs) := by
  induction cs generalizing before with
  | nil => exact .refl
  | cons c cs ih =>
    by_cases hc : c = '\n'
    · subst hc
      have hstep : Inserts (before ++ '\n' :: cs) (before ++ ['\r'] ++ '\n' :: cs) :=
        .atEnd (by decide) (.inr (.inl ⟨cs, rfl⟩))
      refine .head hstep ?_
      simpa [withReturns] using ih (before ++ ['\r', '\n'])
    · simpa [withReturns, hc] using ih (before ++ [c])

/-- A text does not get a byte-order mark at its start by blanks inserted into it. -/
theorem head_ne_mark_of_inserts {cs padded : List Char} (h : Inserts cs padded)
    (hcs : cs.head? ≠ some byteOrderMark) : padded.head? ≠ some byteOrderMark := by
  have hblank : ∀ {before after blanks : List Char}, IsSpacing blanks →
      (before ++ after).head? ≠ some byteOrderMark →
        (before ++ blanks ++ after).head? ≠ some byteOrderMark := by
    intro before after blanks hblanks hhead
    cases before with
    | cons c before => exact hhead
    | nil =>
      cases blanks with
      | nil => exact hhead
      | cons c blanks =>
        intro hmark
        cases hmark
        exact hblanks.mark_notMem List.mem_cons_self
  cases h with
  | atStart hblanks _ => exact hblank hblanks hcs
  | atEnd hblanks _ => exact hblank hblanks hcs

end Text

/-! ## Texts that are read alike -/

namespace Definition

/-- Two texts give the same definition, and the same lines of them are reported as unrecognized. -/
def ReadsAlike (a b : String) : Prop :=
  parse a = parse b ∧
    (unrecognizedLines a).map Event.unrecognizedLine =
      (unrecognizedLines b).map Event.unrecognizedLine

/-- Which segments are unrecognized says which numbers are reported. -/
theorem unrecognizedLines_eq_of_segments {a b : String}
    (h : (segments a).map Line.isUnrecognized = (segments b).map Line.isUnrecognized) :
    unrecognizedLines a = unrecognizedLines b := by
  have hflags : ∀ content, unrecognizedLines content =
      (((segments content).map Line.isUnrecognized).zipIdx 1).filterMap fun flag =>
        if flag.1 then some flag.2 else none := by
    intro content
    rw [unrecognizedLines_eq_segments, List.zipIdx_map, List.filterMap_map]
    rfl
  rw [hflags, hflags, h]

theorem segments_of_unmarked {content : String}
    (h : content.toList.head? ≠ some Text.byteOrderMark) :
    segments content = (content.toList.splitOn '\n').map String.ofList := by
  rw [segments, dropMark_eq_self h]

theorem readsAlike_of_sameTrimmed {a b : String}
    (ha : a.toList.head? ≠ some Text.byteOrderMark)
    (hb : b.toList.head? ≠ some Text.byteOrderMark)
    (h : Text.SameTrimmed a.toList b.toList) : ReadsAlike a b := by
  -- What depends on trimmed lines only is the same, segment by segment.
  have hsegments : ∀ {β : Type} {f : String → β},
      (∀ {s t : String}, Text.trim s.toList = Text.trim t.toList → f s = f t) →
        (segments a).map f = (segments b).map f := by
    intro β f hf
    have htrimmed : ∀ content : String, content.toList.head? ≠ some Text.byteOrderMark →
        (segments content).map f =
          ((content.toList.splitOn '\n').map Text.trim).map (f ∘ String.ofList) := by
      intro content hcontent
      rw [segments_of_unmarked hcontent, List.map_map, List.map_map]
      exact List.map_congr_left fun line _ => hf (by simp)
    rw [htrimmed a ha, htrimmed b hb, h]
  refine ⟨?_, ?_⟩
  · rw [parse_eq_segments, parse_eq_segments, hsegments Line.classify_of_trim_eq]
  · rw [unrecognizedLines_eq_of_segments (hsegments Line.isUnrecognized_of_trim_eq)]

theorem readsAlike_of_inserts {content : String} {padded : List Char}
    (hcontent : content.toList.head? ≠ some Text.byteOrderMark)
    (h : ReflTransGen Text.Inserts content.toList padded) :
    ReadsAlike (String.ofList padded) content := by
  have hall : padded.head? ≠ some Text.byteOrderMark ∧
      Text.SameTrimmed padded content.toList := by
    induction h with
    | refl => exact ⟨hcontent, .refl _⟩
    | tail _ hstep ih =>
      exact ⟨Text.head_ne_mark_of_inserts hstep ih.1,
        (Text.sameTrimmed_of_inserts hstep).trans ih.2⟩
  refine readsAlike_of_sameTrimmed ?_ hcontent ?_
  · simpa using hall.1
  · simpa using hall.2

theorem readsAlike_mark {content : String}
    (h : content.toList.head? ≠ some Text.byteOrderMark) :
    ReadsAlike ("\ufeff" ++ content) content := by
  have hlines : lines ("\ufeff" ++ content) = lines content := by
    have hmarked : ("\ufeff" ++ content).toList = Text.byteOrderMark :: content.toList := by
      rw [String.toList_append]
      rfl
    rw [lines, lines, hmarked, Text.dropMark_cons_byteOrderMark, dropMark_eq_self h]
  rw [ReadsAlike, parse, parse, unrecognizedLines, unrecognizedLines, hlines]
  exact ⟨rfl, rfl⟩

/-- **Noise is invisible.** A text that does not start with a byte-order mark gives the same
definition and the same numbers of unrecognized lines with such a mark in front of it, with a
carriage return in front of every line feed, and with blanks inserted at the starts and ends of its
lines, as many and as often as may be. -/
theorem noise_invisible {content : String}
    (h : content.toList.head? ≠ some Text.byteOrderMark) :
    ReadsAlike ("\ufeff" ++ content) content ∧
      ReadsAlike (String.ofList (Text.withReturns content.toList)) content ∧
      ∀ padded, ReflTransGen Text.Inserts content.toList padded →
        ReadsAlike (String.ofList padded) content :=
  ⟨readsAlike_mark h, readsAlike_of_inserts h (Text.inserts_withReturns [] content.toList),
    fun _ hpadded => readsAlike_of_inserts h hpadded⟩

/-- A text with three kinds of line endings, none of them behind its last line. -/
def mixedEndings : String := "OUTPUT=x\r\njunk\r\r\n\nE X F m"

/-- The same text with blanks in front of its first line and behind its last one. -/
def mixedPadded : String := "\t OUTPUT=x\r\njunk\r\r\n\nE X F m\u3000\r"

theorem noise_invisible_mixedEndings :
    mixedEndings.toList.head? ≠ some Text.byteOrderMark ∧
      ReflTransGen Text.Inserts mixedEndings.toList mixedPadded.toList ∧
      ReadsAlike ("\ufeff" ++ mixedEndings) mixedEndings ∧
      ReadsAlike mixedPadded mixedEndings ∧
      parse mixedEndings = ⟨{ output := some "x" }, [⟨"E", "X", "F", "m"⟩]⟩ ∧
      unrecognizedLines mixedEndings = [2] := by
  have hhead : mixedEndings.toList.head? ≠ some Text.byteOrderMark := by decide +kernel
  have hstart : Text.Inserts mixedEndings.toList (['\t', ' '] ++ mixedEndings.toList) :=
    .atStart (by decide) (.inl rfl)
  have hend : Text.Inserts (['\t', ' '] ++ mixedEndings.toList ++ [])
      (['\t', ' '] ++ mixedEndings.toList ++ ['\u3000', '\r'] ++ []) :=
    .atEnd (by decide) (.inl rfl)
  have hpadded : ReflTransGen Text.Inserts mixedEndings.toList mixedPadded.toList :=
    .head hstart (.single hend)
  obtain ⟨hmark, -, hblanks⟩ := noise_invisible hhead
  have halike := hblanks _ hpadded
  rw [String.ofList_toList] at halike
  exact ⟨hhead, hpadded, hmark, halike, by decide +kernel, by decide +kernel⟩

end Definition

end ErrorTable
