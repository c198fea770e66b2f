/-
What the patterns of a line capture.

A pattern takes as many characters as it can, piece by piece, and gives some back if the pieces
behind do not match what is left. Several ways to match a text can remain, and the first of them in
this order decides what the groups capture. `Pattern.groups` lists all of them in this order.

`Line.classify` looks at one way only, the longest word and the longest gap each time. No other way
comes before it (`classify_eq_captured`), since it never helps to give characters back: a shorter
word would be followed by a word character, where a gap has to start, and a shorter gap by a blank,
where a word has to start. A message can start with a blank, but then there is also one behind the
longest gap, because a trimmed text does not end with a blank.
-/
import ErrorTable.Proofs.Segments

namespace ErrorTable

/-- A piece of a pattern. -/
inductive Piece where
  | literal (text : List Char)
  /-- Characters of a class, at least so many, and as many as possible. -/
  | many (least : Nat) (p : Char → Bool) (captured : Bool)

/-- Pieces that stand for a whole text. -/
abbrev Pattern := List Piece

namespace Pattern

/-- The ways to cut a text behind characters of a class, the longest part in front first. -/
def cuts (p : Char → Bool) : List Char → List (List Char × List Char)
  | [] => [([], [])]
  | c :: cs =>
    (if p c then (cuts p cs).map fun cut => (c :: cut.1, cut.2) else []) ++ [([], c :: cs)]

/-- What the groups of a pattern capture in each way that it matches a text, in the order in which
these ways are tried. -/
def groups : Pattern → List Char → List (List (List Char))
  | [], cs => if cs = [] then [[]] else []
  | .literal text :: pieces, cs =>
    if text.isPrefixOf cs then groups pieces (cs.drop text.length) else []
  | .many least p captured :: pieces, cs =>
    (cuts p cs).flatMap fun cut =>
      if least ≤ cut.1.length then
        (groups pieces cut.2).map fun rest => if captured then cut.1 :: rest else rest
      else []

/-- What the groups capture in the first match, if there is a match. -/
def captures (pattern : Pattern) (cs : List Char) : Option (List (List Char)) :=
  (groups pattern cs).head?

/-! ## The first match -/

theorem cuts_eq_cons (p : Char → Bool) (cs : List Char) :
    ∃ shorter, cuts p cs = (cs.takeWhile p, cs.dropWhile p) :: shorter := by
  induction cs with
  | nil => exact ⟨[], rfl⟩
  | cons c cs ih =>
    obtain ⟨shorter, hcuts⟩ := ih
    cases hc : p c with
    | true => simp [cuts, hc, hcuts]
    | false => simp [cuts, hc]

theorem of_mem_cuts {p : Char → Bool} {cs : List Char} {cut : List Char × List Char}
    (h : cut ∈ cuts p cs) : cs = cut.1 ++ cut.2 ∧ ∀ c ∈ cut.1, p c = true := by
  induction cs generalizing cut with
  | nil =>
    cases List.mem_singleton.1 h
    exact ⟨rfl, nofun⟩
  | cons c cs ih =>
    rcases List.mem_append.1 h with hlonger | hlast
    · split at hlonger
      · next hc =>
        obtain ⟨cut, hcut, rfl⟩ := List.mem_map.1 hlonger
        obtain ⟨rfl, hall⟩ := ih hcut
        exact ⟨rfl, List.forall_mem_cons.2 ⟨hc, hall⟩⟩
      · cases hlonger
    · cases List.mem_singleton.1 hlast
      exact ⟨rfl, nofun⟩

theorem head?_flatMap_cons {α β : Type} {f : α → List β} {a : α} {l : List α}
    (h : ∀ b ∈ l, f b ≠ [] → f a ≠ []) : ((a :: l).flatMap f).head? = (f a).head? := by
  rw [List.flatMap_cons]
  cases ha : f a with
  | cons b bs => rfl
  | nil =>
    have hnone : l.flatMap f = [] :=
      List.flatMap_eq_nil_iff.2 fun b hb => not_not.1 fun hne => h b hb hne ha
    rw [hnone]
    rfl

/-- **Giving back does not help** if the pieces behind match behind the longest part whenever they
match behind a shorter one. -/
theorem captures_many {least : Nat} {p : Char → Bool} {captured : Bool} {pieces : Pattern}
    {cs : List Char} (hrest : ∀ part rest, cs = part ++ rest → (∀ c ∈ part, p c = true) →
      groups pieces rest ≠ [] → groups pieces (cs.dropWhile p) ≠ []) :
    captures (.many least p captured :: pieces) cs =
      if least ≤ (cs.takeWhile p).length then
        (captures pieces (cs.dropWhile p)).map fun rest =>
          if captured then cs.takeWhile p :: rest else rest
      else none := by
  obtain ⟨shorter, hcuts⟩ := cuts_eq_cons p cs
  rw [captures, groups, hcuts, head?_flatMap_cons]
  · simp only [apply_ite List.head?, List.head?_map, List.head?_nil, captures]
  · intro cut hcut hmatch
    obtain ⟨hcs, hall⟩ := of_mem_cuts (hcuts ▸ List.mem_cons_of_mem _ hcut)
    simp only [ne_eq, ite_eq_right_iff, List.map_eq_nil_iff, Classical.not_imp] at hmatch ⊢
    obtain ⟨hleast, hgroups⟩ := hmatch
    refine ⟨hleast.trans ?_, hrest cut.1 cut.2 hcs hall hgroups⟩
    rw [hcs, List.takeWhile_append_of_pos hall, List.length_append]
    exact Nat.le_add_right _ _

theorem exists_head_of_groups {p : Char → Bool} {captured : Bool} {pieces : Pattern}
    {cs : List Char} (h : groups (.many 1 p captured :: pieces) cs ≠ []) :
    ∃ c ∈ cs.head?, p c = true := by
  simp only [groups, ne_eq, List.flatMap_eq_nil_iff, not_forall] at h
  obtain ⟨⟨part, rest⟩, hcut, hne⟩ := h
  obtain ⟨rfl, hall⟩ := of_mem_cuts hcut
  cases part with
  | nil => simp at hne
  | cons c part => exact ⟨c, rfl, hall c List.mem_cons_self⟩

theorem captures_line (least : Nat) (cs : List Char) :
    captures [.many least (· ≠ '\n') true] cs =
      if '\n' ∈ cs ∨ cs.length < least then none else some [cs] := by
  have hend : ∀ rest : List Char, groups [] rest ≠ [] ↔ rest = [] := by
    intro rest
    simp [groups]
  rw [captures_many fun part rest hcs hall hrest => ?_]
  · by_cases hline : '\n' ∈ cs
    · simp [captures, groups, hline]
    · have hall : ∀ c ∈ cs, decide (c ≠ '\n') = true := fun c hc =>
        decide_eq_true fun heq => hline (heq ▸ hc)
      rw [List.takeWhile_eq_self_iff.2 hall, List.dropWhile_eq_nil_iff.2 hall]
      by_cases hleast : least ≤ cs.length
      · simp [captures, groups, hline, hleast, Nat.not_lt.2 hleast]
      · simp [hline, hleast, Nat.not_le.1 hleast]
  · obtain rfl := (hend rest).1 hrest
    rw [hend, List.dropWhile_eq_nil_iff, hcs, List.append_nil]
    exact hall

/-! ## The patterns of a line -/

/-- A key, `=` and a value. -/
def directive (key : DirectiveKey) : Pattern :=
  [.literal (key.name.toList ++ ['=']), .many 0 (· ≠ '\n') true]

/-- A word and the gap behind it. -/
def field (behind : Pattern) : Pattern :=
  .many 1 Line.isWordChar true :: .many 1 Text.isBlank false :: behind

/-- Three words and a message. -/
def entry : Pattern := field (field (field [.many 1 (· ≠ '\n') true]))

theorem groups_field_startsSolid {behind : Pattern} {cs : List Char}
    (h : groups (field behind) cs ≠ []) : cs.dropWhile Text.isBlank = cs := by
  obtain ⟨c, hc, hword⟩ := exists_head_of_groups h
  refine Line.dropWhile_span (w := []) (r := cs) nofun fun c' hc' => ?_
  obtain rfl : c = c' := Option.some.inj (hc.symm.trans hc')
  exact Text.isBlank_eq_false_of_isWordChar hword

theorem takeWhile_eq_nil_iff {p : Char → Bool} {cs : List Char} :
    cs.takeWhile p = [] ↔ cs.head?.any p = false := by
  cases cs with
  | nil => simp
  | cons c cs => simp [List.takeWhile_cons]

/-- **A word and its gap** are cut off by one scan, if what stands behind them matches behind the
longest gap whenever it matches behind a shorter one. -/
theorem captures_field {behind : Pattern} {cs : List Char}
    (hbehind : ∀ rest, rest <:+ cs → groups behind rest ≠ [] →
      groups behind (rest.dropWhile Text.isBlank) ≠ []) :
    captures (field behind) cs =
      (Line.word? cs).bind fun cut => (captures behind cut.2).map (cut.1 :: ·) := by
  have hgap : captures (.many 1 Text.isBlank false :: behind) (cs.dropWhile Line.isWordChar) =
      if 1 ≤ ((cs.dropWhile Line.isWordChar).takeWhile Text.isBlank).length then
        (captures behind ((cs.dropWhile Line.isWordChar).dropWhile Text.isBlank)).map id
      else none := by
    refine captures_many fun part rest hcs hall hgroups => ?_
    rw [hcs, List.dropWhile_append_of_pos hall]
    have hsuffix : rest <:+ cs.dropWhile Line.isWordChar := hcs ▸ List.suffix_append part rest
    exact hbehind rest (hsuffix.trans (List.dropWhile_suffix _)) hgroups
  have hword : captures (field behind) cs =
      if 1 ≤ (cs.takeWhile Line.isWordChar).length then
        (captures (.many 1 Text.isBlank false :: behind) (cs.dropWhile Line.isWordChar)).map
          (cs.takeWhile Line.isWordChar :: ·)
      else none := by
    refine captures_many fun part rest hcs hall hgroups => ?_
    obtain ⟨c, hc, hblank⟩ := exists_head_of_groups hgroups
    have hstop : ∀ c ∈ rest.head?, Line.isWordChar c = false := by
      intro c' hc'
      obtain rfl : c = c' := Option.some.inj (hc.symm.trans hc')
      rw [← Bool.not_eq_true]
      intro hword
      rw [Text.isBlank_eq_false_of_isWordChar hword] at hblank
      cases hblank
    rwa [hcs, Line.dropWhile_span hall hstop]
  rw [hword, hgap, Line.word?]
  simp only [Nat.one_le_iff_ne_zero, ne_eq, List.length_eq_zero_iff,
    takeWhile_eq_nil_iff (p := Text.isBlank), Bool.not_eq_false]
  by_cases hne : cs.takeWhile Line.isWordChar = []
  · simp [hne]
  · by_cases hblank : (cs.dropWhile Line.isWordChar).head?.any Text.isBlank = true <;>
      simp [hne, hblank]

theorem captures_directive (key : DirectiveKey) (cs : List Char) :
    captures (directive key) cs =
      if (key.name.toList ++ ['=']).isPrefixOf cs then
        if '\n' ∈ cs.drop (key.name.toList ++ ['=']).length then none
        else some [cs.drop (key.name.toList ++ ['=']).length]
      else none := by
  have hline := captures_line 0 (cs.drop (key.name.toList ++ ['=']).length)
  simp only [Nat.not_lt_zero, or_false] at hline
  rw [← hline, captures, directive, groups, apply_ite List.head?]
  rfl

/-- A text that does not end with a blank has a message behind its longest gap if it has one behind
a shorter gap. -/
theorem groups_message_dropWhile {cs : List Char} (hend : Line.EndsSolid cs)
    (h : groups [.many 1 (· ≠ '\n') true] cs ≠ []) :
    groups [.many 1 (· ≠ '\n') true] (cs.dropWhile Text.isBlank) ≠ [] := by
  have hmatch : ∀ rest : List Char, groups [.many 1 (· ≠ '\n') true] rest ≠ [] ↔
      '\n' ∉ rest ∧ rest ≠ [] := by
    intro rest
    rw [ne_eq, ← List.head?_eq_none_iff, ← captures, captures_line]
    simp [List.length_eq_zero_iff]
  obtain ⟨hline, hne⟩ := (hmatch cs).1 h
  have hlast := hend _ (List.getLast?_eq_some_getLast hne)
  refine (hmatch _).2 ⟨fun hmem => hline ((List.dropWhile_suffix _).mem hmem), fun hnil => ?_⟩
  rw [List.dropWhile_eq_nil_iff.1 hnil _ (List.getLast_mem hne)] at hlast
  cases hlast

theorem endsSolid_of_suffix {rest cs : List Char} (hend : Line.EndsSolid cs) (h : rest <:+ cs) :
    Line.EndsSolid rest := by
  intro c hc
  obtain ⟨before, rfl⟩ := h
  exact hend c (by rw [List.getLast?_append, Option.mem_def.1 hc]; rfl)

theorem captures_field_field (behind : Pattern) (cs : List Char) :
    captures (field (field behind)) cs =
      (Line.word? cs).bind fun cut => (captures (field behind) cut.2).map (cut.1 :: ·) :=
  captures_field fun rest _ h => by rwa [groups_field_startsSolid h]

theorem captures_field_message {cs : List Char} (hend : Line.EndsSolid cs) :
    captures (field [.many 1 (· ≠ '\n') true]) cs = (Line.word? cs).bind fun cut =>
      if '\n' ∈ cut.2 ∨ cut.2 = [] then none else some [cut.1, cut.2] := by
  rw [captures_field fun rest hrest => groups_message_dropWhile (endsSolid_of_suffix hend hrest)]
  congr 1
  funext cut
  simp only [captures_line, Nat.lt_one_iff, List.length_eq_zero_iff]
  split <;> rfl

end Pattern

namespace Line

theorem suffix_of_word? {cs : List Char} {cut : List Char × List Char} (h : word? cs = some cut) :
    cut.2 <:+ cs := by
  obtain ⟨gap, rfl, -⟩ := word?_eq_some.1 h
  exact ⟨cut.1 ++ gap, by simp⟩

/-- The directive whose pattern is the first to match a trimmed text. -/
def directiveOfCaptures? (cs : List Char) : Option Line :=
  DirectiveKey.all.findSome? fun key =>
    match Pattern.captures (.directive key) cs with
    | some [value] => some (directive key (String.ofList (Text.trim value)))
    | _ => none

/-- The entry that the pattern for it makes of a trimmed text. -/
def entryOfCaptures? (cs : List Char) : Option Entry :=
  match Pattern.captures .entry cs with
  | some [code, exception, flag, message] => some {
      code := String.ofList code
      exception := String.ofList exception
      flag := String.ofList flag
      message := String.ofList (Text.trim message) }
  | _ => none

/-- The line that the patterns make of a text: the first of them that matches decides. -/
def captured (line : String) : Line :=
  let cs := Text.trim line.toList
  (directiveOfCaptures? cs).getD (((entryOfCaptures? cs).map entry).getD ignored)

theorem directiveOfCaptures?_eq (cs : List Char) : directiveOfCaptures? cs = directiveOf? cs := by
  unfold directiveOfCaptures? directiveOf?
  congr 1
  funext key
  rw [Pattern.captures_directive, valueOf?]
  by_cases hstart : (key.name.toList ++ ['=']).isPrefixOf cs = true
  · by_cases hline : '\n' ∈ cs.drop (key.name.toList ++ ['=']).length
    · rw [if_pos hstart, if_pos hline, if_neg fun h => h.2 hline]
      rfl
    · rw [if_pos hstart, if_neg hline, if_pos ⟨hstart, hline⟩]
      rfl
  · rw [if_neg hstart, if_neg fun h => hstart h.1]
    rfl

/-- In a trimmed text the message is trimmed as well. -/
theorem entryOfCaptures?_eq {cs : List Char} (hend : EndsSolid cs) :
    entryOfCaptures? cs = entryOf? cs := by
  rw [entryOfCaptures?, Pattern.entry, Pattern.captures_field_field, entryOf?]
  cases hcode : word? cs with
  | none => rfl
  | some code =>
    have hend₁ := Pattern.endsSolid_of_suffix hend (suffix_of_word? hcode)
    simp only [Option.bind_some, Option.bind_eq_bind, Pattern.captures_field_field]
    cases hexception : word? code.2 with
    | none => rfl
    | some exception =>
      have hend₂ := Pattern.endsSolid_of_suffix hend₁ (suffix_of_word? hexception)
      simp only [Option.bind_some, Pattern.captures_field_message hend₂]
      cases hflag : word? exception.2 with
      | none => rfl
      | some flag =>
        have hend₃ := Pattern.endsSolid_of_suffix hend₂ (suffix_of_word? hflag)
        obtain ⟨-, -, -, -, hstart⟩ := word?_eq_some.1 hflag
        have htrim : Text.trim flag.2 = flag.2 := Text.trim_eq_self_iff.2 ⟨hstart, hend₃⟩
        by_cases hmessage : '\n' ∈ flag.2 ∨ flag.2 = []
        · simp [hmessage, or_comm.1 hmessage]
        · simp [hmessage, mt or_comm.1 hmessage, htrim]

/-- **The scan finds what the patterns capture.** -/
theorem classify_eq_captured (line : String) : classify line = captured line := by
  rw [classify, captured, directiveOfCaptures?_eq, entryOfCaptures?_eq (Text.endsSolid_trim _)]

/-- The gap in front of the message is as long as possible, also where `.` matches a blank. -/
example : captured "a b c \u3000 d" = .entry ⟨"a", "b", "c", "d"⟩ := by
  decide +kernel

end Line

end ErrorTable
