/-
The grammar of a line, and that `Line.classify` decides it.

A `Form` is a way of writing a line: a key, `=` and a value, or three words and a message
with gaps between them. It is a decomposition of the whole text, so a text that could be read
in two ways would have two forms. None has (`Form.text_injective`): words and gaps share no
character, so each ends where the next begins, and the character behind a key is `=`, which
stands in no word and no gap. That the patterns of `classify` are tried in a certain order
therefore makes no difference. That each is matched by one scan, which takes the longest word and
the longest gap, makes none either (`classify_eq_captured`).
-/
import ErrorTable.Line
import Mathlib.Data.List.TakeWhile

namespace ErrorTable

theorem Text.isBlank_eq_false_of_isWordChar {c : Char} (h : Line.isWordChar c = true) :
    Text.isBlank c = false := by
  have hrange : (0x30 ≤ c.toNat ∧ c.toNat ≤ 0x39) ∨ (0x41 ≤ c.toNat ∧ c.toNat ≤ 0x5A) ∨
      c.toNat = 0x5F ∨ (0x61 ≤ c.toNat ∧ c.toNat ≤ 0x7A) := by
    delta Line.isWordChar Char.isAlphanum Char.isAlpha Char.isUpper Char.isLower Char.isDigit at h
    simp only [Bool.or_eq_true, Bool.and_eq_true, decide_eq_true_eq, ge_iff_le,
      UInt32.le_iff_toNat_le, beq_iff_eq] at h
    rcases h with ((h | h) | h) | rfl
    · exact .inr (.inl h)
    · exact .inr (.inr (.inr h))
    · exact .inl h
    · exact .inr (.inr (.inl rfl))
  simp only [Text.isBlank, Text.blankRanges, List.any_cons, List.any_nil, Bool.or_eq_false_iff,
    Bool.and_eq_false_iff, decide_eq_false_iff_not, and_true]
  omega

namespace Line

/-- One word character or more. -/
def IsWord (cs : List Char) : Prop :=
  cs ≠ [] ∧ ∀ c ∈ cs, isWordChar c = true

/-- One blank or more, line feeds among them. -/
def IsGap (cs : List Char) : Prop :=
  cs ≠ [] ∧ ∀ c ∈ cs, Text.isBlank c = true

/-- The text is empty or starts with something else than a blank. -/
def StartsSolid (cs : List Char) : Prop :=
  ∀ c ∈ cs.head?, Text.isBlank c = false

/-- A text on one line that is not empty and does not start with a blank. -/
structure IsMessage (cs : List Char) : Prop where
  ne_nil : cs ≠ []
  noNewline : '\n' ∉ cs
  startsSolid : StartsSolid cs

/-- A way of writing a line. -/
inductive Form where
  | directive (key : DirectiveKey) (rest : List Char) (noNewline : '\n' ∉ rest)
  | entry (code gap₁ exception gap₂ flag gap₃ message : List Char) (hcode : IsWord code)
      (hgap₁ : IsGap gap₁) (hexception : IsWord exception) (hgap₂ : IsGap gap₂)
      (hflag : IsWord flag) (hgap₃ : IsGap gap₃) (hmessage : IsMessage message)

/-- The text that is written. -/
def Form.text : Form → List Char
  | directive key rest _ => key.name.toList ++ '=' :: rest
  | entry code gap₁ exception gap₂ flag gap₃ message .. =>
    code ++ (gap₁ ++ (exception ++ (gap₂ ++ (flag ++ (gap₃ ++ message)))))

/-- The line that is meant. -/
def Form.line : Form → Line
  | directive key rest _ => .directive key (String.ofList (Text.trim rest))
  | entry code _ exception _ flag _ message .. =>
    .entry ⟨String.ofList code, String.ofList exception, String.ofList flag, String.ofList message⟩

/-! ## One text, one form -/

theorem takeWhile_span {p : Char → Bool} {w r : List Char} (hw : ∀ c ∈ w, p c = true)
    (hr : ∀ c ∈ r.head?, p c = false) : (w ++ r).takeWhile p = w := by
  rw [List.takeWhile_append_of_pos hw]
  cases r with
  | nil => simp
  | cons c r => simp [hr c rfl]

theorem dropWhile_span {p : Char → Bool} {w r : List Char} (hw : ∀ c ∈ w, p c = true)
    (hr : ∀ c ∈ r.head?, p c = false) : (w ++ r).dropWhile p = r := by
  rw [List.dropWhile_append_of_pos hw]
  cases r with
  | nil => simp
  | cons c r => simp [hr c rfl]

theorem head_dropWhile {p : Char → Bool} {cs : List Char} :
    ∀ c ∈ (cs.dropWhile p).head?, p c = false := by
  intro c hc
  have hstop := List.head?_dropWhile_not p cs
  rw [Option.mem_def.1 hc] at hstop
  exact hstop

/-- A text is cut in one way only behind the characters of a class that it starts with. -/
theorem span_unique {p : Char → Bool} {w w' r r' : List Char} (hw : ∀ c ∈ w, p c = true)
    (hw' : ∀ c ∈ w', p c = true) (hr : ∀ c ∈ r.head?, p c = false)
    (hr' : ∀ c ∈ r'.head?, p c = false) (h : w ++ r = w' ++ r') : w = w' ∧ r = r' := by
  constructor
  · rw [← takeWhile_span hw hr, h, takeWhile_span hw' hr']
  · rw [← dropWhile_span hw hr, h, dropWhile_span hw' hr']

theorem IsGap.head {g : List Char} (h : IsGap g) (r : List Char) :
    ∃ c, (g ++ r).head? = some c ∧ Text.isBlank c = true := by
  obtain ⟨hne, hall⟩ := h
  cases g with
  | nil => exact absurd rfl hne
  | cons c g => exact ⟨c, rfl, hall c List.mem_cons_self⟩

theorem IsWord.startsSolid {w : List Char} (h : IsWord w) (r : List Char) :
    StartsSolid (w ++ r) := by
  obtain ⟨hne, hall⟩ := h
  cases w with
  | nil => exact absurd rfl hne
  | cons c w =>
    simpa [StartsSolid] using Text.isBlank_eq_false_of_isWordChar (hall c List.mem_cons_self)

theorem IsGap.not_word {g : List Char} (h : IsGap g) (r : List Char) :
    ∀ c ∈ (g ++ r).head?, isWordChar c = false := by
  intro c hc
  obtain ⟨c', hc', hblank⟩ := h.head r
  obtain rfl : c' = c := Option.some.inj (hc'.symm.trans hc)
  rw [← Bool.not_eq_true]
  intro hword
  rw [Text.isBlank_eq_false_of_isWordChar hword] at hblank
  cases hblank

/-- A word and the gap behind it are cut off in one way only. -/
theorem word_gap_unique {w w' g g' r r' : List Char} (hw : IsWord w) (hw' : IsWord w')
    (hg : IsGap g) (hg' : IsGap g') (hr : StartsSolid r) (hr' : StartsSolid r')
    (h : w ++ (g ++ r) = w' ++ (g' ++ r')) : w = w' ∧ g = g' ∧ r = r' := by
  obtain ⟨rfl, hrest⟩ := span_unique hw.2 hw'.2 (hg.not_word r) (hg'.not_word r') h
  exact ⟨rfl, span_unique hg.2 hg'.2 hr hr' hrest⟩

theorem isWordChar_of_mem_name (key : DirectiveKey) :
    ∀ c ∈ key.name.toList, isWordChar c = true := by
  have hall : key.name.toList.all isWordChar = true := by
    cases key <;> decide +kernel
  exact List.all_eq_true.1 hall

theorem name_toList_injective {key key' : DirectiveKey}
    (h : key.name.toList = key'.name.toList) : key = key' :=
  DirectiveKey.name_injective (String.toList_inj.1 h)

theorem equals_not_word (rest : List Char) : ∀ c ∈ ('=' :: rest).head?, isWordChar c = false := by
  intro c hc
  cases hc
  decide

/-- A directive is not an entry: behind its first word there is no gap. -/
theorem directive_ne_entry (key : DirectiveKey) (rest : List Char) {code gap : List Char}
    (hcode : IsWord code) (hgap : IsGap gap) (r : List Char) :
    key.name.toList ++ '=' :: rest ≠ code ++ (gap ++ r) := by
  intro h
  obtain ⟨-, hrest⟩ := span_unique (isWordChar_of_mem_name key) hcode.2 (equals_not_word rest)
    (hgap.not_word r) h
  obtain ⟨c, hc, hblank⟩ := hgap.head r
  rw [← hrest] at hc
  cases hc
  exact absurd hblank (by decide)

/-- **One text, one form.** No text can be read as a line in two ways. -/
theorem Form.text_injective : Function.Injective Form.text := by
  intro a b h
  cases a with
  | directive key rest =>
    cases b with
    | directive key' rest' =>
      obtain ⟨hkey, hrest⟩ := span_unique (isWordChar_of_mem_name key)
        (isWordChar_of_mem_name key') (equals_not_word rest) (equals_not_word rest') h
      cases name_toList_injective hkey
      cases hrest
      rfl
    | entry _ _ _ _ _ _ _ hcode hgap₁ => exact absurd h (directive_ne_entry key rest hcode hgap₁ _)
  | entry _ _ _ _ _ _ _ hcode hgap₁ hexception hgap₂ hflag hgap₃ hmessage =>
    cases b with
    | directive key rest => exact absurd h.symm (directive_ne_entry key rest hcode hgap₁ _)
    | entry _ _ _ _ _ _ _ hcode' hgap₁' hexception' hgap₂' hflag' hgap₃' hmessage' =>
      obtain ⟨rfl, rfl, h₁⟩ := word_gap_unique hcode hcode' hgap₁ hgap₁'
        (hexception.startsSolid _) (hexception'.startsSolid _) h
      obtain ⟨rfl, rfl, h₂⟩ := word_gap_unique hexception hexception' hgap₂ hgap₂'
        (hflag.startsSolid _) (hflag'.startsSolid _) h₁
      obtain ⟨rfl, rfl, rfl⟩ := word_gap_unique hflag hflag' hgap₃ hgap₃'
        hmessage.startsSolid hmessage'.startsSolid h₂
      rfl

/-! ## What the patterns match -/

theorem valueOf?_eq_some {key : DirectiveKey} {cs : List Char} {value : String} :
    valueOf? key cs = some value ↔
      ∃ rest, cs = key.name.toList ++ '=' :: rest ∧ '\n' ∉ rest ∧
        value = String.ofList (Text.trim rest) := by
  simp only [valueOf?, Option.ite_none_right_eq_some, Option.some.injEq]
  constructor
  · intro h
    obtain ⟨⟨hstart, hline⟩, rfl⟩ := h
    obtain ⟨rest, rfl⟩ := List.isPrefixOf_iff_prefix.1 hstart
    rw [List.drop_left] at hline ⊢
    exact ⟨rest, by simp, hline, rfl⟩
  · intro h
    obtain ⟨rest, rfl, hline, rfl⟩ := h
    have hcut : key.name.toList ++ '=' :: rest = key.name.toList ++ ['='] ++ rest := by simp
    rw [hcut, List.drop_left]
    exact ⟨⟨List.isPrefixOf_iff_prefix.2 (List.prefix_append _ _), hline⟩, rfl⟩

/-- The longest word and the longest gap behind it are the only ones that leave a rest
that goes on with something else. -/
theorem word?_eq_some {cs word rest : List Char} :
    word? cs = some (word, rest) ↔
      ∃ gap, cs = word ++ (gap ++ rest) ∧ IsWord word ∧ IsGap gap ∧ StartsSolid rest := by
  simp only [word?, Option.ite_none_right_eq_some, Option.some.injEq, Prod.mk.injEq,
    Option.any_eq_true]
  constructor
  · intro h
    obtain ⟨⟨hne, c, hc, hblank⟩, rfl, rfl⟩ := h
    refine ⟨(cs.dropWhile isWordChar).takeWhile Text.isBlank, by simp,
      ⟨hne, fun _ => List.mem_takeWhile_imp⟩, ⟨?_, fun _ => List.mem_takeWhile_imp⟩,
      head_dropWhile⟩
    rw [ne_eq, ← List.head?_eq_none_iff, List.head?_takeWhile, hc]
    simp [hblank]
  · intro h
    obtain ⟨gap, rfl, hword, hgap, hrest⟩ := h
    rw [takeWhile_span hword.2 (hgap.not_word rest), dropWhile_span hword.2 (hgap.not_word rest)]
    exact ⟨⟨hword.1, hgap.head rest⟩, rfl, dropWhile_span hgap.2 hrest⟩

theorem entryOf?_eq_some {cs : List Char} {e : Entry} :
    entryOf? cs = some e ↔
      ∃ code gap₁ exception gap₂ flag gap₃ message,
        cs = code ++ (gap₁ ++ (exception ++ (gap₂ ++ (flag ++ (gap₃ ++ message))))) ∧
        (IsWord code ∧ IsGap gap₁ ∧ IsWord exception ∧ IsGap gap₂ ∧ IsWord flag ∧ IsGap gap₃ ∧
          IsMessage message) ∧
        e = ⟨String.ofList code, String.ofList exception, String.ofList flag,
          String.ofList message⟩ := by
  simp only [entryOf?, Option.bind_eq_bind, Option.bind_eq_some_iff, Prod.exists, word?_eq_some,
    Option.ite_none_left_eq_some, Option.some.injEq, not_or]
  constructor
  · intro h
    obtain ⟨code, _, ⟨gap₁, rfl, hcode, hgap₁, -⟩, exception, _, ⟨gap₂, rfl, hexc, hgap₂, -⟩,
      flag, message, ⟨gap₃, rfl, hflag, hgap₃, hsolid⟩, ⟨hne, hline⟩, rfl⟩ := h
    exact ⟨code, gap₁, exception, gap₂, flag, gap₃, message, rfl,
      ⟨hcode, hgap₁, hexc, hgap₂, hflag, hgap₃, ⟨hne, hline, hsolid⟩⟩, rfl⟩
  · intro h
    obtain ⟨code, gap₁, exception, gap₂, flag, gap₃, message, rfl,
      ⟨hcode, hgap₁, hexc, hgap₂, hflag, hgap₃, ⟨hne, hline, hsolid⟩⟩, rfl⟩ := h
    exact ⟨code, _, ⟨gap₁, rfl, hcode, hgap₁, hexc.startsSolid _⟩,
      exception, _, ⟨gap₂, rfl, hexc, hgap₂, hflag.startsSolid _⟩,
      flag, message, ⟨gap₃, rfl, hflag, hgap₃, hsolid⟩, ⟨hne, hline⟩, rfl⟩

/-- The patterns that a trimmed text is compared with, in their order. -/
def patterns : List (List Char → Option Line) :=
  DirectiveKey.all.map (fun key cs => (valueOf? key cs).map (directive key)) ++
    [fun cs => (entryOf? cs).map entry]

/-- The line that the first pattern to match makes of a trimmed text. -/
def firstMatch (ps : List (List Char → Option Line)) (cs : List Char) : Line :=
  (ps.findSome? fun p => p cs).getD ignored

theorem classify_eq_firstMatch (line : String) :
    classify line = firstMatch patterns (Text.trim line.toList) := by
  simp only [classify, firstMatch, patterns, directiveOf?, List.findSome?_append,
    List.findSome?_map, List.findSome?_singleton, Function.comp_def]
  generalize DirectiveKey.all.findSome? _ = d
  cases d <;> rfl

/-- A pattern matches the texts of its forms and nothing else. -/
theorem exists_pattern_iff {cs : List Char} {line : Line} :
    (∃ p ∈ patterns, p cs = some line) ↔ ∃ form : Form, form.text = cs ∧ form.line = line := by
  simp only [patterns, List.mem_append, List.mem_map, List.mem_singleton]
  constructor
  · intro h
    rcases h with ⟨_, ⟨key, -, rfl⟩ | rfl, h⟩
    · obtain ⟨value, hvalue, rfl⟩ := Option.map_eq_some_iff.1 h
      obtain ⟨rest, rfl, hrest, rfl⟩ := valueOf?_eq_some.1 hvalue
      exact ⟨.directive key rest hrest, rfl, rfl⟩
    · obtain ⟨e, he, rfl⟩ := Option.map_eq_some_iff.1 h
      obtain ⟨code, gap₁, exception, gap₂, flag, gap₃, message, rfl,
        ⟨hcode, hgap₁, hexception, hgap₂, hflag, hgap₃, hmessage⟩, rfl⟩ := entryOf?_eq_some.1 he
      exact ⟨.entry code gap₁ exception gap₂ flag gap₃ message hcode hgap₁ hexception hgap₂ hflag
        hgap₃ hmessage, rfl, rfl⟩
  · intro h
    obtain ⟨form, rfl, rfl⟩ := h
    cases form with
    | directive key rest hrest =>
      refine ⟨_, .inl ⟨key, key.mem_all, rfl⟩, ?_⟩
      simp [Form.text, Form.line, valueOf?_eq_some.2 ⟨rest, rfl, hrest, rfl⟩]
    | entry code gap₁ exception gap₂ flag gap₃ message hcode hgap₁ hexception hgap₂ hflag hgap₃
        hmessage =>
      refine ⟨_, .inr rfl, ?_⟩
      simp [Form.text, Form.line, entryOf?_eq_some.2 ⟨_, _, _, _, _, _, _, rfl,
        ⟨hcode, hgap₁, hexception, hgap₂, hflag, hgap₃, hmessage⟩, rfl⟩]

/-- The first match among the patterns, in any order, is the line of the form that the text
has, if it has one. -/
theorem firstMatch_eq_iff {ps : List (List Char → Option Line)} (hps : ps.Perm patterns)
    {cs : List Char} {line : Line} :
    firstMatch ps cs = line ↔ (∃ form : Form, form.text = cs ∧ form.line = line) ∨
      (∀ form : Form, form.text ≠ cs) ∧ line = ignored := by
  unfold firstMatch
  cases hfind : ps.findSome? fun p => p cs with
  | some found =>
    obtain ⟨p, hp, hmatch⟩ := List.exists_of_findSome?_eq_some hfind
    obtain ⟨form, htext, rfl⟩ := exists_pattern_iff.1 ⟨p, hps.mem_iff.1 hp, hmatch⟩
    constructor
    · intro h
      subst h
      exact .inl ⟨form, htext, rfl⟩
    · intro h
      rcases h with ⟨form', htext', rfl⟩ | ⟨hnone, -⟩
      · rw [Form.text_injective (htext'.trans htext.symm)]
        rfl
      · exact absurd htext (hnone form)
  | none =>
    have hnone : ∀ form : Form, form.text ≠ cs := by
      intro form htext
      obtain ⟨p, hp, hmatch⟩ := exists_pattern_iff.2 ⟨form, htext, rfl⟩
      simp [List.findSome?_eq_none_iff.1 hfind p (hps.mem_iff.2 hp)] at hmatch
    constructor
    · intro h
      subst h
      exact .inr ⟨hnone, rfl⟩
    · intro h
      rcases h with ⟨form, htext, -⟩ | ⟨-, rfl⟩
      · exact absurd htext (hnone form)
      · rfl

/-! ## What `classify` decides -/

theorem classify_eq_iff {text : String} {line : Line} :
    classify text = line ↔
      (∃ form : Form, form.text = Text.trim text.toList ∧ form.line = line) ∨
        (∀ form : Form, form.text ≠ Text.trim text.toList) ∧ line = ignored := by
  rw [classify_eq_firstMatch, firstMatch_eq_iff (.refl patterns)]

theorem classify_eq_directive {text : String} {key : DirectiveKey} {value : String} :
    classify text = .directive key value ↔
      ∃ rest, Text.trim text.toList = key.name.toList ++ '=' :: rest ∧ '\n' ∉ rest ∧
        value = String.ofList (Text.trim rest) := by
  rw [classify_eq_iff]
  constructor
  · intro h
    rcases h with ⟨form, htext, hline⟩ | ⟨-, hline⟩
    · cases form with
      | directive key' rest hrest =>
        cases hline
        exact ⟨rest, htext.symm, hrest, rfl⟩
      | entry => cases hline
    · cases hline
  · intro h
    obtain ⟨rest, htext, hrest, rfl⟩ := h
    exact .inl ⟨.directive key rest hrest, htext.symm, rfl⟩

theorem classify_eq_entry {text : String} {e : Entry} :
    classify text = .entry e ↔
      ∃ gap₁ gap₂ gap₃, Text.trim text.toList = e.code.toList ++ gap₁ ++ e.exception.toList ++
          gap₂ ++ e.flag.toList ++ gap₃ ++ e.message.toList ∧
        IsWord e.code.toList ∧ IsGap gap₁ ∧ IsWord e.exception.toList ∧ IsGap gap₂ ∧
          IsWord e.flag.toList ∧ IsGap gap₃ ∧ IsMessage e.message.toList := by
  rw [classify_eq_iff]
  constructor
  · intro h
    rcases h with ⟨form, htext, hline⟩ | ⟨-, hline⟩
    · cases form with
      | directive => cases hline
      | entry code gap₁ exception gap₂ flag gap₃ message hcode hgap₁ hexception hgap₂ hflag hgap₃
          hmessage =>
        cases hline
        simp only [String.toList_ofList]
        exact ⟨gap₁, gap₂, gap₃, by simp [← htext, Form.text], hcode, hgap₁, hexception, hgap₂,
          hflag, hgap₃, hmessage⟩
    · cases hline
  · intro h
    obtain ⟨gap₁, gap₂, gap₃, htext, hcode, hgap₁, hexception, hgap₂, hflag, hgap₃, hmessage⟩ := h
    exact .inl ⟨.entry _ gap₁ _ gap₂ _ gap₃ _ hcode hgap₁ hexception hgap₂ hflag hgap₃ hmessage,
      by simp [htext, Form.text], by simp [Form.line]⟩

theorem classify_eq_ignored {text : String} :
    classify text = .ignored ↔ ∀ form : Form, form.text ≠ Text.trim text.toList := by
  rw [classify_eq_iff]
  constructor
  · intro h
    rcases h with ⟨form, -, hline⟩ | ⟨hnone, -⟩
    · cases form <;> cases hline
    · exact hnone
  · exact fun hnone => .inr ⟨hnone, rfl⟩

/-- **`classify` decides the grammar of a line.** With the blanks at its ends removed, a text
is a directive exactly if it is a key, `=` and a rest without a line feed, and an entry exactly
if it is three words and a message with gaps between them; otherwise it is ignored. It has at
most one form, so no two of the four kinds of form (three keys, and the entry) share a text,
and the patterns could be tried in any order. -/
theorem classify_iff_form (text : String) :
    (∀ key value, classify text = .directive key value ↔
      ∃ rest, Text.trim text.toList = key.name.toList ++ '=' :: rest ∧ '\n' ∉ rest ∧
        value = String.ofList (Text.trim rest)) ∧
    (∀ e : Entry, classify text = .entry e ↔
      ∃ gap₁ gap₂ gap₃, Text.trim text.toList = e.code.toList ++ gap₁ ++ e.exception.toList ++
          gap₂ ++ e.flag.toList ++ gap₃ ++ e.message.toList ∧
        IsWord e.code.toList ∧ IsGap gap₁ ∧ IsWord e.exception.toList ∧ IsGap gap₂ ∧
          IsWord e.flag.toList ∧ IsGap gap₃ ∧ IsMessage e.message.toList) ∧
    (classify text = .ignored ↔ ∀ form : Form, form.text ≠ Text.trim text.toList) ∧
    (∀ a b : Form, a.text = Text.trim text.toList → b.text = Text.trim text.toList → a = b) ∧
    ∀ ps : List (List Char → Option Line), ps.Perm patterns →
      firstMatch ps (Text.trim text.toList) = classify text := by
  refine ⟨fun _ _ => classify_eq_directive, fun _ => classify_eq_entry, classify_eq_ignored,
    fun a b ha hb => Form.text_injective (ha.trans hb.symm), fun ps hps => ?_⟩
  rw [firstMatch_eq_iff hps, ← classify_eq_iff]

theorem classify_reversed_patterns :
    firstMatch patterns.reverse (Text.trim " OUTPUT_VAR= OUTPUT=x y z".toList) =
        classify " OUTPUT_VAR= OUTPUT=x y z" ∧
      classify " OUTPUT_VAR= OUTPUT=x y z" = .directive .arrayName "OUTPUT=x y z" :=
  ⟨(classify_iff_form _).2.2.2.2 _ (List.reverse_perm patterns), by decide +kernel⟩

end Line

end ErrorTable
