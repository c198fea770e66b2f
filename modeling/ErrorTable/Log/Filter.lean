/-
Filters: which records of the log are shown.

A filter is a list of rules. A rule covers the targets that start with its own, and the
rule with the longest target decides, the later one of two with the same target. A target
that no rule covers shows nothing.
-/
import ErrorTable.Event
import ErrorTable.Text.Alphanumeric
import ErrorTable.Text.Blank

namespace ErrorTable

/-- One rule of a filter. -/
structure FilterRule where
  /-- The start of the targets that the rule covers; empty if it covers all. -/
  target : String
  /-- How verbose those targets are: the number of the least severe level shown, zero
  for none. -/
  verbosity : Nat
  deriving DecidableEq, Repr

/-- The rules that decide which records are shown. -/
abbrev Filter := List FilterRule

namespace FilterRule

/-- The number that a text of decimal digits stands for; a plus sign may stand before it. -/
def decimal? (text : List Char) : Option Nat :=
  let digits := if text.head? = some '+' then text.tail else text
  if digits ≠ [] && digits.all Char.isDigit then some (Nat.ofDigitChars 10 digits 0) else none

/-- The verbosity that a text names: a level in any case of letters, or `off`, or the
number itself. -/
def verbosityOf? (text : List Char) : Option Nat :=
  match decimal? text with
  | some number => if number ≤ Level.trace.verbosity then some number else none
  | none =>
    let name := String.ofList (text.map Char.toUpper)
    if name = "OFF" then some 0 else (Level.all.find? (·.name = name)).map (·.verbosity)

/-- The characters that a rule can start with. -/
def isRuleStart (c : Char) : Bool :=
  Text.isAlphanumeric c || c = '_' || c = ':' || c = '-'

/-- The rule that a text states: a bare level for all targets, or a target, to which `=`
and a level may be added. A target without a level is shown at every level. Blanks around a
bare level or a bare target make it another target, which nothing has; before a target with
a level they are refused. -/
def parse? (text : List Char) : Option FilterRule :=
  let target := String.ofList (text.takeWhile (· ≠ '='))
  if !(Text.trimStart text).head?.any isRuleStart then none
  else
    match verbosityOf? text, text.dropWhile (· ≠ '=') with
    | some verbosity, _ => some ⟨"", verbosity⟩
    | none, [] => some ⟨target, Level.trace.verbosity⟩
    | none, _ :: level =>
      if text.head?.any Text.isBlank then none
      else if level = [] then some ⟨target, Level.trace.verbosity⟩
      else (verbosityOf? level).map (⟨target, ·⟩)

/-- Whether the rule covers a target. -/
def covers (rule : FilterRule) (target : String) : Bool :=
  rule.target.toList.isPrefixOf target.toList

end FilterRule

namespace Filter

/-- The filter that a text states: rules with commas between them. It is `none` if one of
them is malformed. -/
def parse? (text : String) : Option Filter :=
  let items := (text.toList.splitOn ',').filter (· ≠ [])
  items.mapM FilterRule.parse?

/-- The rule that decides about a target: the last of the most specific ones that cover
it. -/
def ruleFor? (filter : Filter) (target : String) : Option FilterRule :=
  filter.foldl (fun best rule =>
    if rule.covers target && (best.all (·.target.length ≤ rule.target.length)) then some rule
    else best) none

/-- Whether an event is shown. -/
def shows (filter : Filter) (event : Event) : Bool :=
  (filter.ruleFor? event.target).any fun rule => event.level.verbosity ≤ rule.verbosity

/-- The filter of a run that is told nothing else: everything from `info` up, and with
the quiet flag errors only. -/
def standard (quiet : Bool) : Filter :=
  if quiet then [⟨"", Level.error.verbosity⟩]
  else [⟨"make_error_info", Level.info.verbosity⟩, ⟨"error_info", Level.info.verbosity⟩]

/-- The filter of a run. A setting from outside replaces the standard filter, with or
without the quiet flag; a malformed setting counts as none. -/
def ofSetting (setting : Option String) (quiet : Bool) : Filter :=
  (setting.bind parse?).getD (standard quiet)

end Filter

end ErrorTable
