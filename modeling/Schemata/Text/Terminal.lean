/-!
# Texts for a terminal

A terminal takes parts of a text as commands: after an escape come control sequences, which
set colours and move the cursor, and control strings, which carry data for the terminal.
Where no terminal reads the text, those parts and the controls other than white space are left
out.

* `Terminal.bold`, `Terminal.heading` — a text with the sequences that set its style;
* `Terminal.State` — where the reader of a text stands between commands and text;
* `Terminal.plain` — the text without commands.

All that is left of a text is shown (`shows_of_mem_plainChars`), and a text of such characters
is left as it is (`plainChars_eq_self`).
-/

namespace Schemata

namespace Terminal

/-! ### Styles -/

/-- The text in bold. -/
def bold (s : String) : String :=
  "\x1b[1m" ++ s ++ "\x1b[0m"

/-- The text in bold and underlined. -/
def heading (s : String) : String :=
  "\x1b[1m\x1b[4m" ++ s ++ "\x1b[0m"

/-! ### Characters -/

/-- Whether the code point of the character lies between the two bounds. -/
def within (first last : Nat) (c : Char) : Bool :=
  decide (first ≤ c.toNat) && decide (c.toNat ≤ last)

/-- Whether the character is a white-space control: tab, line feed, form feed or return. -/
def isSpacing (c : Char) : Bool :=
  c == '\t' || c == '\n' || c == '\x0c' || c == '\x0d'

/-- Whether the character is shown outside commands. -/
def isShown (c : Char) : Bool :=
  isSpacing c || within 0x20 0x7E c || decide (0x80 ≤ c.toNat)

/-- Whether the UTF-8 form of the character has the byte 9C, which terminals that work on bytes
take for the end of a control string. -/
def hasTerminator (c : Char) : Bool :=
  (String.utf8EncodeChar c).contains 0x9C

/-! ### Commands -/

/-- Where a reader stands. -/
inductive State where
  /-- Outside commands. -/
  | text
  /-- After an escape. -/
  | escape
  /-- After an escape and an intermediate character. -/
  | escapeIntermediate
  /-- In a control sequence. -/
  | sequence
  /-- At the start of a device control string. -/
  | device
  /-- In the parameters of a device control string. -/
  | deviceParameters
  /-- In the intermediate characters of a device control string. -/
  | deviceIntermediate
  /-- In the data of a device control string. -/
  | deviceData
  /-- In a command for the operating system. -/
  | systemCommand
  /-- In a string without a meaning to the terminal. -/
  | message
deriving DecidableEq, Repr

namespace State

/-- The state after an escape and the character. -/
def afterEscape (c : Char) : State :=
  if c = '[' then .sequence
  else if c = ']' then .systemCommand
  else if c = 'P' then .device
  else if c = 'X' ∨ c = '^' ∨ c = '_' then .message
  else if within 0x20 0x2F c then .escapeIntermediate
  else if within 0x30 0x7E c then .text
  else .escape

/-- The state after a character that is not shown.  Cancel and substitute end every command,
and an escape starts a new one. -/
def next (s : State) (c : Char) : State :=
  if c = '\x18' ∨ c = '\x1a' then .text
  else if c = '\x1b' then .escape
  else
    match s with
    | .text => .text
    | .escape => afterEscape c
    | .escapeIntermediate => if within 0x30 0x7E c then .text else s
    | .sequence => if within 0x40 0x7E c then .text else s
    | .device =>
      if within 0x20 0x2F c then .deviceIntermediate
      else if within 0x30 0x3F c then .deviceParameters
      else if within 0x40 0x7E c then .deviceData
      else s
    | .deviceParameters =>
      if within 0x20 0x2F c then .deviceIntermediate
      else if within 0x3C 0x7E c then .deviceData
      else s
    | .deviceIntermediate => if within 0x30 0x7E c then .deviceData else s
    | .deviceData | .message => if hasTerminator c then .text else s
    | .systemCommand => if c = '\x07' then .text else s

/-- Whether a character is shown.  White-space controls are carried out inside escapes and
control sequences. -/
def shows (s : State) (c : Char) : Bool :=
  match s with
  | .text => isShown c
  | .escape | .escapeIntermediate | .sequence => isSpacing c
  | _ => false

theorem isShown_of_shows {s : State} {c : Char} (h : s.shows c = true) : isShown c = true := by
  cases s <;> simp_all [shows, isShown]

end State

/-! ### Reading -/

/-- A reader of a text. -/
structure Reader where
  /-- Where it stands. -/
  state : State := .text
  /-- Whether the character before was shown. -/
  showing : Bool := false
deriving DecidableEq, Repr

namespace Reader

/-- Whether a character is shown.  What follows a shown character is read as text. -/
def shows (r : Reader) (c : Char) : Bool :=
  (if r.showing then State.text else r.state).shows c

/-- The reader after a character.  A command that a white-space control interrupts goes on at the
next character that is not shown, unless a character beyond ASCII has ended it. -/
def next (r : Reader) (c : Char) : Reader :=
  if r.shows c then
    { state := if c.toNat < 0x80 then r.state else .text, showing := true }
  else { state := r.state.next c, showing := false }

theorem shows_text (b : Bool) (c : Char) : Reader.shows ⟨.text, b⟩ c = isShown c := by
  cases b <;> rfl

theorem next_text {b : Bool} {c : Char} (h : isShown c = true) :
    Reader.next ⟨.text, b⟩ c = ⟨.text, true⟩ := by
  simp [next, shows_text, h]

end Reader

/-- The characters that the reader shows. -/
def plainChars (r : Reader) : List Char → List Char
  | [] => []
  | c :: cs => if r.shows c then c :: plainChars (r.next c) cs else plainChars (r.next c) cs

/-- The text without commands. -/
def plain (s : String) : String :=
  String.ofList (plainChars {} s.toList)

theorem shows_of_mem_plainChars {r : Reader} {cs : List Char} {c : Char}
    (h : c ∈ plainChars r cs) : isShown c = true := by
  induction cs generalizing r with
  | nil => simp [plainChars] at h
  | cons d cs ih =>
    rw [plainChars] at h
    split at h
    next hd =>
      rcases List.mem_cons.1 h with rfl | h
      · exact State.isShown_of_shows hd
      · exact ih h
    next => exact ih h

theorem plainChars_eq_self {b : Bool} {cs : List Char} (h : ∀ c ∈ cs, isShown c = true) :
    plainChars ⟨.text, b⟩ cs = cs := by
  induction cs generalizing b with
  | nil => rfl
  | cons c cs ih =>
    have hc := h c List.mem_cons_self
    rw [plainChars, Reader.shows_text, if_pos hc, Reader.next_text hc,
      ih fun d hd => h d (List.mem_cons_of_mem _ hd)]

end Terminal

end Schemata
