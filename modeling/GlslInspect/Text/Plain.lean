/-
Plain text: what is left of a text when nothing in it may drive a terminal.

Control characters go, blank ones apart, and so do the sequences that an escape character starts: short commands,
commands with numbers, titles, and strings for devices. A `Phase` is what is being read. A blank control inside a
command shows and suspends the command: what comes after shows as well, until the next control character resumes the
command or a character beyond ASCII ends it. A text without control characters is plain already (`plain_eq_self`), and
nothing else is left (`isPlain_of_mem_plain`).
-/
import GlslInspect.Text.Basic

namespace GlslInspect.Text

/-- what a terminal is reading -/
inductive Phase where
  /-- text that shows -/
  | shown
  /-- the character after an escape -/
  | escape
  /-- the rest of a short command -/
  | shortCommand
  /-- a command with numbers, up to its letter -/
  | command
  /-- a title, up to a bell -/
  | title
  /-- the first character of a device string -/
  | device
  /-- the numbers of a device string -/
  | deviceNumbers
  /-- what stands between the numbers and the letter of a device string -/
  | deviceMarks
  /-- a string that is passed over, up to its terminator -/
  | passed
  deriving DecidableEq, Repr

/-- the blank controls: tab, newline, form feed and carriage return -/
def isBlankControl (c : Char) : Bool := c = '\t' || c = '\n' || c.toNat = 0xc || c = '\r'

/-- what may stand in plain text: blank controls, and everything that is no ASCII control -/
def isPlain (c : Char) : Bool := isBlankControl c || (decide (0x20 ≤ c.toNat) && c.toNat != 0x7f)

/-- whether a character lies between two others -/
def within (low high c : Char) : Bool := decide (low ≤ c) && decide (c ≤ high)

/-- whether the byte 0x9c, a string terminator, continues the encoding of a character -/
def holdsTerminator (c : Char) : Bool :=
  let n := c.toNat
  (decide (0x80 ≤ n) && n % 64 = 0x1c) || (decide (0x800 ≤ n) && n / 64 % 64 = 0x1c) ||
    (decide (0x10000 ≤ n) && n / 4096 % 64 = 0x1c)

namespace Phase

def after (phase : Phase) (c : Char) : Phase :=
  if c.toNat = 0x1b then .escape
  else if c.toNat = 0x18 || c.toNat = 0x1a then .shown
  else
    match phase with
    | .shown => .shown
    | .escape =>
      if c = '[' then .command
      else if c = ']' then .title
      else if c = 'P' then .device
      else if c = 'X' || c = '^' || c = '_' then .passed
      else if within ' ' '/' c then .shortCommand
      else if within '0' '~' c then .shown
      else .escape
    | .shortCommand => if within '0' '~' c then .shown else .shortCommand
    | .command => if within '@' '~' c then .shown else .command
    | .title => if c.toNat = 0x7 then .shown else .title
    | .device =>
      if within '@' '~' c then .passed
      else if within '0' '?' c then .deviceNumbers
      else if within ' ' '/' c then .deviceMarks
      else .device
    | .deviceNumbers =>
      if within '<' '~' c then .passed
      else if within ' ' '/' c then .deviceMarks
      else .deviceNumbers
    | .deviceMarks => if within '0' '~' c then .passed else .deviceMarks
    | .passed => if holdsTerminator c then .shown else .passed

/-- whether blank controls show in a phase that is not text itself -/
def letsBlanksThrough : Phase → Bool
  | .escape | .shortCommand | .command => true
  | _ => false

end Phase

/-- what is left of a text that begins in a phase, suspended or not -/
def plainFrom (phase : Phase) (suspended : Bool) : Text → Text
  | [] => []
  | c :: rest =>
    if (phase = .shown || suspended) && isPlain c then
      c :: plainFrom (if c.toNat < 128 then phase else .shown) suspended rest
    else if phase.letsBlanksThrough && isBlankControl c then c :: plainFrom phase true rest
    else plainFrom (phase.after c) false rest

/-- what is left of a text when nothing in it may drive a terminal -/
def plain (t : Text) : Text := plainFrom .shown false t

theorem plainFrom_shown {t : Text} (h : ∀ c ∈ t, isPlain c = true) : plainFrom .shown false t = t := by
  induction t with
  | nil => rfl
  | cons c rest ih =>
    have first := h c (by simp)
    have others := ih fun d hd => h d (by simp [hd])
    by_cases wide : c.toNat < 128 <;> simp [plainFrom, first, wide, others]

theorem isPlain_of_mem_plainFrom {t : Text} {phase : Phase} {suspended : Bool} {c : Char}
    (h : c ∈ plainFrom phase suspended t) : isPlain c = true := by
  induction t generalizing phase suspended with
  | nil => simp [plainFrom] at h
  | cons d rest ih =>
    unfold plainFrom at h
    split at h
    · rename_i shows
      rcases List.mem_cons.1 h with rfl | h
      · exact (Bool.and_eq_true_iff.1 shows).2
      · exact ih h
    · split at h
      · rename_i blank
        rcases List.mem_cons.1 h with rfl | h
        · simp [isPlain, (Bool.and_eq_true_iff.1 blank).2]
        · exact ih h
      · exact ih h

/-- a text of plain characters is left as it is -/
theorem plain_eq_self {t : Text} (h : ∀ c ∈ t, isPlain c = true) : plain t = t := plainFrom_shown h

theorem isPlain_of_mem_plain {t : Text} {c : Char} (h : c ∈ plain t) : isPlain c = true :=
  isPlain_of_mem_plainFrom h

end GlslInspect.Text
