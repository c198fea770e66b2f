/-
Texts without terminal control.

What a user typed is repeated in messages, and may hold control characters or sequences
that would move a terminal's cursor or change its colours. These are left out: the control
characters other than white space, and every sequence that an escape character starts, as
far as it goes. Sequences are told apart by the rules of ECMA-48.
-/

namespace ErrorTable.Text

/-- Where in a control sequence a reader stands. -/
inductive ControlState where
  /-- In no sequence. -/
  | text
  /-- Behind an escape character. -/
  | escape
  /-- In an escape sequence that ends with its first character from `0` on. -/
  | escapeRest
  /-- In a control sequence (`[`), which ends with its first character from `@` on. -/
  | control
  /-- In a device control string (`P`), before its parameters. -/
  | deviceStart
  /-- In the parameters of a device control string. -/
  | deviceParameters
  /-- Behind the parameters of a device control string. -/
  | deviceRest
  /-- In the body of a string that only the string terminator ends. -/
  | body
  /-- In an operating system command (`]`), which a bell ends. -/
  | command
  deriving DecidableEq, Repr

/-- The control characters that are white space. -/
def isLayout (c : Char) : Bool :=
  c = '\t' || c = '\n' || c = '\x0c' || c = '\r'

/-- Whether a character outside of sequences is shown. -/
def isShown (c : Char) : Bool :=
  isLayout c || (' ' ≤ c && c ≠ '\x7f')

/-- Whether the string terminator is one of the bytes of a character. -/
def hasTerminator (c : Char) : Bool :=
  (String.utf8EncodeChar c).contains 0x9C

namespace ControlState

/-- Where a reader stands behind one more character, and whether that character is shown.
An escape character starts a new sequence anywhere, and the cancel and substitute
characters end any. -/
def next (state : ControlState) (c : Char) : ControlState × Bool :=
  if c = '\x1b' then (escape, false)
  else if c = '\x18' || c = '\x1a' then (text, false)
  else
    match state with
    | text => (text, isShown c)
    | escape =>
      if isLayout c then (escape, true)
      else if ' ' ≤ c && c ≤ '/' then (escapeRest, false)
      else if c = '[' then (control, false)
      else if c = ']' then (command, false)
      else if c = 'P' then (deviceStart, false)
      else if c = 'X' || c = '^' || c = '_' then (body, false)
      else if '0' ≤ c && c ≤ '~' then (text, false)
      else (escape, false)
    | escapeRest =>
      if isLayout c then (escapeRest, true)
      else if '0' ≤ c && c ≤ '~' then (text, false)
      else (escapeRest, false)
    | control =>
      if isLayout c then (control, true)
      else if '@' ≤ c && c ≤ '~' then (text, false)
      else (control, false)
    | deviceStart =>
      if ' ' ≤ c && c ≤ '/' then (deviceRest, false)
      else if '0' ≤ c && c ≤ '?' then (deviceParameters, false)
      else if '@' ≤ c && c ≤ '~' then (body, false)
      else (deviceStart, false)
    | deviceParameters =>
      if ' ' ≤ c && c ≤ '/' then (deviceRest, false)
      else if '<' ≤ c && c ≤ '~' then (body, false)
      else (deviceParameters, false)
    | deviceRest =>
      if '0' ≤ c && c ≤ '~' then (body, false) else (deviceRest, false)
    | body => if hasTerminator c then (text, false) else (body, false)
    | command => if c = '\x07' then (text, false) else (command, false)

/-- The characters that are shown of a text. White space inside a sequence is shown and
interrupts it: what follows is shown too, up to a character that is never shown, where the
sequence goes on. A character beyond ASCII ends an interrupted sequence. -/
def reveal (state : ControlState) (interrupted : Bool) : List Char → List Char
  | [] => []
  | c :: rest =>
    if interrupted && isShown c then
      c :: (if c ≤ '\x7f' then state else text).reveal true rest
    else
      match state.next c with
      | (next, true) => c :: next.reveal true rest
      | (next, false) => next.reveal false rest

end ControlState

/-- A text without terminal control. -/
def withoutControl (text : String) : String :=
  String.ofList (ControlState.text.reveal false text.toList)

end ErrorTable.Text
