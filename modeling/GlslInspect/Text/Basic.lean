/-
Texts as lists of characters, and the ways the tool cuts, trims, searches and joins them.

A text is a `List Char`, so every function on it is a recursion on its characters. String literals are read as texts.
`pieces` cuts after each newline and loses nothing (`flatten_pieces`); `splitOn` cuts at a separator and drops it;
`lines` is what a reader of a log sees.
-/

namespace GlslInspect

/-- a text is the list of its characters -/
abbrev Text := List Char

instance : Coe String Text := ⟨String.toList⟩

namespace Text

/-- a natural number in decimal -/
def ofNat (n : Nat) : Text := Nat.toDigits 10 n

def repeated (n : Nat) (t : Text) : Text := (List.replicate n t).flatten

def byteLength (t : Text) : Nat := t.foldl (fun n c => n + c.utf8Size) 0

/-- put a unit in front of the first part -/
def consHead {α : Type} (c : α) : List (List α) → List (List α)
  | [] => [[c]]
  | p :: ps => (c :: p) :: ps

/-- cut after each newline; a final part without newline is kept, an empty one is not -/
def pieces : Text → List Text
  | [] => []
  | c :: rest => if c = '\n' then [c] :: pieces rest else consHead c (pieces rest)

/-- cut at each separator, dropping it; there is always a last part, possibly empty -/
def splitOn {α : Type} [DecidableEq α] (sep : α) : List α → List (List α)
  | [] => [[]]
  | c :: rest => if c = sep then [] :: splitOn sep rest else consHead c (splitOn sep rest)

/-- write the parts with a separator between them -/
def join {α : Type} (sep : List α) : List (List α) → List α
  | [] => []
  | [t] => t
  | t :: u :: rest => t ++ sep ++ join sep (u :: rest)

/-- drop the longest final run of characters of a kind -/
def dropEndWhile (p : Char → Bool) (t : Text) : Text := (t.reverse.dropWhile p).reverse

def after? : (start t : Text) → Option Text
  | [], t => some t
  | _ :: _, [] => none
  | c :: start, d :: t => if c = d then after? start t else none

/-- whether a text begins with another -/
def startsWith (start t : Text) : Bool := (after? start t).isSome

def occursIn (needle : Text) : Text → Bool
  | [] => startsWith needle []
  | c :: rest => startsWith needle (c :: rest) || occursIn needle rest

def afterFirst? (needle : Text) : Text → Option Text
  | [] => after? needle []
  | c :: rest =>
    match after? needle (c :: rest) with
    | some t => some t
    | none => afterFirst? needle rest

/-- replace every occurrence of a non-empty text, from the left and without overlap -/
def replace (needle new : Text) : Text → Text
  | [] => []
  | c :: rest =>
    if startsWith needle (c :: rest) then new ++ replace needle new (rest.drop (needle.length - 1))
    else c :: replace needle new rest
termination_by t => t.length

/-- drop the line ending of a piece: a newline, and a carriage return in front of it -/
def dropLineEnding (piece : Text) : Text :=
  match piece.reverse with
  | '\n' :: '\r' :: rest => rest.reverse
  | '\n' :: rest => rest.reverse
  | _ => piece

def lines (t : Text) : List Text := (pieces t).map dropLineEnding

def toLowerAscii (t : Text) : Text := t.map Char.toLower

/-- the order of texts by code points -/
def le : Text → Text → Bool
  | [], _ => true
  | _ :: _, [] => false
  | c :: t, d :: u => if c = d then le t u else decide (c < d)

theorem consHead_flatten {α : Type} (c : α) (ps : List (List α)) : (consHead c ps).flatten = c :: ps.flatten := by
  cases ps <;> simp [consHead]

theorem flatten_pieces (t : Text) : (pieces t).flatten = t := by
  induction t with
  | nil => rfl
  | cons c t ih =>
    by_cases h : c = '\n'
    · simp [pieces, h, ih]
    · simp [pieces, h, ih, consHead_flatten]

theorem after?_eq_some_iff {start t rest : Text} : after? start t = some rest ↔ t = start ++ rest := by
  induction start generalizing t with
  | nil => simp [after?, eq_comm]
  | cons c start ih =>
    cases t with
    | nil => simp [after?]
    | cons d t =>
      by_cases h : c = d
      · simp [after?, h, ih]
      · simp [after?, h, Ne.symm h]

end Text

end GlslInspect
