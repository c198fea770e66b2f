/-
What a filter shows.

What is shown depends on the level of an event alone under the filters that matter most: those
with one rule for all targets (`shows_bare`), and the standard one, which has a rule for each
target that there is (`shows_standard`). A setting that is a level and nothing else stands for a
filter of the first kind, however it spells the level (`isBare_of_verbosityOf?`), so of two such
settings the more verbose one shows whatever the other one does (`IsBare.mono`).
-/
import ErrorTable.Log.Filter
import ErrorTable.Proofs.Grammar

namespace ErrorTable

theorem Level.verbosity_pos (level : Level) : 0 < level.verbosity := by
  cases level <;> decide

theorem Level.verbosity_le_error {level : Level} :
    level.verbosity ≤ Level.error.verbosity ↔ level = .error := by
  cases level <;> decide

/-- The targets that events have. -/
def Event.targets : List String :=
  ["error_info::definition", "error_info::generate", "make_error_info"]

theorem Event.target_mem_targets (event : Event) : event.target ∈ targets := by
  cases event <;> simp [target, targets]

/-! ## Levels in settings -/

namespace FilterRule

/-- A letter of ASCII, by its code point. -/
def IsLetter (c : Char) : Prop :=
  (0x41 ≤ c.toNat ∧ c.toNat ≤ 0x5A) ∨ (0x61 ≤ c.toNat ∧ c.toNat ≤ 0x7A)

theorem isLetter_of_toUpper {c : Char} (h : c.toUpper.isUpper = true) : IsLetter c := by
  delta Char.toUpper at h
  split at h
  · next hlower => exact .inr (by simpa [UInt32.le_iff_toNat_le] using hlower)
  · delta Char.isUpper at h
    exact .inl (by simpa [UInt32.le_iff_toNat_le] using h)

theorem IsLetter.isAlphanum {c : Char} (h : IsLetter c) : c.isAlphanum = true := by
  delta Char.isAlphanum Char.isAlpha Char.isUpper Char.isLower Char.isDigit
  simp only [Bool.or_eq_true, Bool.and_eq_true, decide_eq_true_eq, ge_iff_le,
    UInt32.le_iff_toNat_le]
  exact .inl h

theorem IsLetter.isDigit_eq_false {c : Char} (h : IsLetter c) : c.isDigit = false := by
  have hbig : 0x39 < c.toNat := by
    unfold IsLetter at h
    omega
  delta Char.isDigit
  simp only [Bool.and_eq_false_iff, decide_eq_false_iff_not, UInt32.le_iff_toNat_le]
  exact .inr (Nat.not_le.2 hbig)

/-- The names of verbosities in capitals, each with its number. -/
def verbosityNames : List (String × Nat) :=
  ("OFF", 0) :: Level.all.map fun level => (level.name, level.verbosity)

theorem isLetter_of_map_toUpper {text : List Char} {named : String × Nat}
    (hnamed : named ∈ verbosityNames) (h : text.map Char.toUpper = named.1.toList) :
    text ≠ [] ∧ ∀ c ∈ text, IsLetter c := by
  have hcapitals : ∀ named ∈ verbosityNames, named.1.toList ≠ [] ∧
      named.1.toList.all Char.isUpper = true := by
    decide +kernel
  obtain ⟨hne, hupper⟩ := hcapitals named hnamed
  rw [← h] at hne hupper
  rw [List.all_eq_true] at hupper
  exact ⟨fun htext => hne (by rw [htext, List.map_nil]), fun c hc =>
    isLetter_of_toUpper (hupper _ (List.mem_map_of_mem hc))⟩

theorem decimal?_of_isLetter {text : List Char} (hne : text ≠ [])
    (hletters : ∀ c ∈ text, IsLetter c) : decimal? text = none := by
  obtain ⟨c, cs, rfl⟩ := List.exists_cons_of_ne_nil hne
  have hc := hletters c List.mem_cons_self
  have hplus : c ≠ '+' := by
    rintro rfl
    exact absurd hc.isAlphanum (by decide)
  simp [decimal?, hplus, hc.isDigit_eq_false]

theorem verbosityOf?_of_map_toUpper {text : List Char} {named : String × Nat}
    (hnamed : named ∈ verbosityNames) (h : text.map Char.toUpper = named.1.toList) :
    verbosityOf? text = some named.2 := by
  obtain ⟨hne, hletters⟩ := isLetter_of_map_toUpper hnamed h
  rw [verbosityOf?, decimal?_of_isLetter hne hletters, h, String.ofList_toList]
  clear h
  revert named
  decide +kernel

/-- A text that names a verbosity has letters and digits only, unless it starts with a sign. -/
theorem isAlphanum_of_verbosityOf? {text : List Char} {verbosity : Nat}
    (h : verbosityOf? text = some verbosity) (unsigned : text.head? ≠ some '+') :
    text ≠ [] ∧ ∀ c ∈ text, c.isAlphanum = true := by
  unfold verbosityOf? at h
  split at h
  · next number hnumber =>
    simp only [decimal?, if_neg unsigned, Option.ite_none_right_eq_some, Bool.and_eq_true,
      decide_eq_true_eq, List.all_eq_true] at hnumber
    obtain ⟨⟨hne, hdigit⟩, -⟩ := hnumber
    refine ⟨hne, fun c hc => ?_⟩
    change (c.isUpper || c.isLower || c.isDigit) = true
    rw [hdigit c hc, Bool.or_true]
  · have hname : ∃ named ∈ verbosityNames, text.map Char.toUpper = named.1.toList := by
      simp only at h
      split at h
      · next hoff => exact ⟨("OFF", 0), List.mem_cons_self, by rw [← hoff, String.toList_ofList]⟩
      · obtain ⟨level, hfind, -⟩ := Option.map_eq_some_iff.1 h
        have hlevel := List.find?_some hfind
        rw [decide_eq_true_eq] at hlevel
        exact ⟨(level.name, level.verbosity), List.mem_cons_of_mem _ (List.mem_map_of_mem
          (List.mem_of_find?_eq_some hfind)), by rw [hlevel, String.toList_ofList]⟩
    obtain ⟨named, hnamed, hname⟩ := hname
    obtain ⟨hne, hletters⟩ := isLetter_of_map_toUpper hnamed hname
    exact ⟨hne, fun c hc => (hletters c hc).isAlphanum⟩

theorem parse?_of_verbosityOf? {text : List Char} {verbosity : Nat}
    (h : verbosityOf? text = some verbosity) (unsigned : text.head? ≠ some '+') :
    parse? text = some ⟨"", verbosity⟩ := by
  obtain ⟨hne, hall⟩ := isAlphanum_of_verbosityOf? h unsigned
  obtain ⟨c, cs, rfl⟩ := List.exists_cons_of_ne_nil hne
  have hc : c.isAlphanum = true := hall c List.mem_cons_self
  have hblank : Text.isBlank c = false :=
    Text.isBlank_eq_false_of_isWordChar (by simp [Line.isWordChar, hc])
  have htrim : Text.trimStart (c :: cs) = c :: cs := by
    simp [Text.trimStart, hblank]
  simp [parse?, h, htrim, isRuleStart, Text.isAlphanumeric_of_isAlphanum hc]

end FilterRule

/-! ## What is shown -/

namespace Filter

/-- The filter with one rule, which covers every target. -/
def bare (verbosity : Nat) : Filter := [⟨"", verbosity⟩]

theorem shows_bare (verbosity : Nat) (event : Event) :
    (bare verbosity).shows event = decide (event.level.verbosity ≤ verbosity) := by
  simp [bare, shows, ruleFor?, FilterRule.covers]

/-- The standard filter has a rule for every target, so it shows what a bare one would. -/
theorem shows_standard (quiet : Bool) (event : Event) :
    (standard quiet).shows event = decide (event.level.verbosity ≤
      if quiet then Level.error.verbosity else Level.info.verbosity) := by
  cases quiet with
  | true => exact shows_bare Level.error.verbosity event
  | false =>
    have hrule : ∀ target ∈ Event.targets, ((standard false).ruleFor? target).map (·.verbosity) =
        some Level.info.verbosity := by
      decide +kernel
    obtain ⟨rule, hfor, hverbosity⟩ :=
      Option.map_eq_some_iff.1 (hrule _ event.target_mem_targets)
    rw [shows, hfor, Option.any_some, hverbosity]
    rfl

/-- The setting is a bare level, or it has no rule at all and is as silent as `off`. -/
def IsBare (setting : String) (verbosity : Nat) : Prop :=
  parse? setting = some (bare verbosity) ∨ parse? setting = some [] ∧ verbosity = 0

theorem isBare_empty : IsBare "" 0 := by
  exact .inr ⟨by decide, rfl⟩

/-- Every spelling of a level is a bare level: its name in any case of letters, `off` or a
number. -/
theorem isBare_of_verbosityOf? {setting : String} {verbosity : Nat}
    (h : FilterRule.verbosityOf? setting.toList = some verbosity)
    (unsigned : setting.toList.head? ≠ some '+') : IsBare setting verbosity := by
  obtain ⟨hne, hall⟩ := FilterRule.isAlphanum_of_verbosityOf? h unsigned
  have hcomma : ',' ∉ setting.toList := fun hmem => absurd (hall _ hmem) (by decide)
  left
  simp [parse?, List.splitOn_eq_singleton hcomma, hne, FilterRule.parse?_of_verbosityOf? h unsigned,
    bare]

/-- So `warn`, `Warn` and `WARN` are bare levels, and so are `off` and the other names. -/
theorem isBare_of_map_toUpper {setting : String} {named : String × Nat}
    (hnamed : named ∈ FilterRule.verbosityNames)
    (h : setting.toList.map Char.toUpper = named.1.toList) : IsBare setting named.2 := by
  refine isBare_of_verbosityOf? (FilterRule.verbosityOf?_of_map_toUpper hnamed h) fun hplus => ?_
  obtain ⟨-, hletters⟩ := FilterRule.isLetter_of_map_toUpper hnamed h
  exact absurd (hletters _ (List.mem_of_mem_head? hplus)).isAlphanum (by decide)

/-- Under a bare level, an event is shown if its own level is no more verbose. -/
theorem IsBare.shows_eq {setting : String} {verbosity : Nat} (h : IsBare setting verbosity)
    (quiet : Bool) (event : Event) :
    (ofSetting (some setting) quiet).shows event =
      decide (event.level.verbosity ≤ verbosity) := by
  rw [ofSetting, Option.bind_some]
  rcases h with hbare | ⟨hempty, rfl⟩
  · rw [hbare, Option.getD_some, shows_bare]
  · have hpos := event.level.verbosity_pos
    rw [hempty, Option.getD_some]
    simp only [shows, ruleFor?, List.foldl_nil, Option.any_none, false_eq_decide_iff]
    omega

theorem IsBare.mono {setting other : String} {v w : Nat} (h : IsBare setting v)
    (hother : IsBare other w) (hle : v ≤ w) (quiet quiet' : Bool) {event : Event}
    (hshown : (ofSetting (some setting) quiet).shows event = true) :
    (ofSetting (some other) quiet').shows event = true := by
  rw [h.shows_eq, decide_eq_true_eq] at hshown
  rw [hother.shows_eq, decide_eq_true_eq]
  exact Nat.le_trans hshown hle

end Filter

end ErrorTable
