/-!
# Scanning a text for tokens

A reader says which token, if any, stands at the start of a text and how many characters it takes.
`scan` goes through a text from the left and lists the tokens it meets and the characters between
them.
-/

namespace SqlBuilder.Text

/-- A token of a text, or a character outside every token. -/
inductive Lexeme (κ : Type)
  | plain (c : Char)
  | token (k : κ)

/-- Scans a text; `skip` counts the characters of the last token that are still to be passed over. -/
def scanFrom {κ : Type} (read : List Char → Option (κ × Nat)) : Nat → List Char → List (Lexeme κ)
  | _, [] => []
  | skip + 1, _ :: cs => scanFrom read skip cs
  | 0, c :: cs =>
    match read (c :: cs) with
    | some (k, width) => .token k :: scanFrom read (width - 1) cs
    | none => .plain c :: scanFrom read 0 cs

/-- The tokens of a text and the characters between them, from the left. -/
def scan {κ : Type} (read : List Char → Option (κ × Nat)) (cs : List Char) : List (Lexeme κ) :=
  scanFrom read 0 cs

/-- The tokens of a text, from the left. -/
def tokens {κ : Type} (read : List Char → Option (κ × Nat)) (cs : List Char) : List κ :=
  (scan read cs).filterMap fun
    | .token k => some k
    | .plain _ => none

end SqlBuilder.Text
