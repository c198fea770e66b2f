/-
Directives: the `KEY=value` lines of a definition file.
-/

namespace ErrorTable

/-- The keys that a directive can have. -/
inductive DirectiveKey where
  /-- A former way of naming the output, understood and reported but never followed. -/
  | legacyOutput
  /-- The name of the generated array. -/
  | arrayName
  /-- The output file, relative to the directory of the definition file. -/
  | output
  deriving DecidableEq, Repr

namespace DirectiveKey

/-- The key as a definition file writes it, without the `=`. -/
def name : DirectiveKey → String
  | legacyOutput => "OUTPUT_FILE"
  | arrayName => "OUTPUT_VAR"
  | output => "OUTPUT"

/-- Every key, in the order in which a line is compared with them. -/
def all : List DirectiveKey := [legacyOutput, arrayName, output]

/-- The key with the given name. -/
def ofName? (name : String) : Option DirectiveKey :=
  all.find? (·.name = name)

theorem mem_all (key : DirectiveKey) : key ∈ all := by
  cases key <;> simp [all]

@[simp] theorem ofName?_name (key : DirectiveKey) : ofName? key.name = some key := by
  cases key <;> decide

theorem name_injective : Function.Injective name := by
  intro a b h
  cases a <;> cases b <;> simp_all [name]

end DirectiveKey

/-- The values that the directives of a definition file have set. -/
structure Directives where
  legacyOutput : Option String := none
  arrayName : Option String := none
  output : Option String := none
  deriving DecidableEq, Repr

namespace Directives

/-- The value set for a key. -/
def get? (directives : Directives) : DirectiveKey → Option String
  | .legacyOutput => directives.legacyOutput
  | .arrayName => directives.arrayName
  | .output => directives.output

/-- Sets a key; an earlier value of that key is replaced. -/
def set (directives : Directives) (key : DirectiveKey) (value : String) : Directives :=
  match key with
  | .legacyOutput => { directives with legacyOutput := some value }
  | .arrayName => { directives with arrayName := some value }
  | .output => { directives with output := some value }

@[simp] theorem get?_set_self (directives : Directives) (key : DirectiveKey) (value : String) :
    (directives.set key value).get? key = some value := by
  cases key <;> rfl

theorem get?_set_other (directives : Directives) {key other : DirectiveKey} (value : String)
    (h : other ≠ key) : (directives.set key value).get? other = directives.get? other := by
  cases key <;> cases other <;> first | rfl | exact absurd rfl h

/-- Directives are determined by the values of their keys. -/
theorem ext_get? {a b : Directives} (h : ∀ key, a.get? key = b.get? key) : a = b := by
  obtain ⟨_, _, _⟩ := a
  obtain ⟨_, _, _⟩ := b
  have legacy := h .legacyOutput
  have array := h .arrayName
  have out := h .output
  simp_all [get?]

end Directives

end ErrorTable
