/-
# TemplateLookup.Text.Pieces -- splitting at a character

`pieces sep cs` lists the texts between the occurrences of `sep`, empty ones
included, so there is always one piece more than there are separators and
joining them with the separator gives the text back.
-/

namespace TemplateLookup.Text

/-- The pieces of a text between the occurrences of a separator. -/
def pieces (sep : Char) : List Char → List (List Char)
  | [] => [[]]
  | c :: rest =>
    if c = sep then [] :: pieces sep rest
    else match pieces sep rest with
      | [] => [[c]]
      | p :: ps => (c :: p) :: ps

/-- The pieces joined again, with the separator between neighbours. -/
def unite (sep : Char) : List (List Char) → List Char
  | [] => []
  | [p] => p
  | p :: q :: ps => p ++ sep :: unite sep (q :: ps)

theorem pieces_ne_nil (sep : Char) (cs : List Char) : pieces sep cs ≠ [] := by
  cases cs with
  | nil => simp [pieces]
  | cons c rest =>
    unfold pieces
    split
    · simp
    · split <;> simp

theorem unite_pieces (sep : Char) (cs : List Char) : unite sep (pieces sep cs) = cs := by
  induction cs with
  | nil => rfl
  | cons c rest ih =>
    unfold pieces
    split
    · -- a separator opens a new, empty piece
      rename_i h
      cases hp : pieces sep rest with
      | nil => exact absurd hp (pieces_ne_nil sep rest)
      | cons p ps =>
        rw [hp] at ih
        simp [unite, ih, h]
    · -- any other character joins the first piece
      cases hp : pieces sep rest with
      | nil => exact absurd hp (pieces_ne_nil sep rest)
      | cons p ps =>
        rw [hp] at ih
        cases ps with
        | nil => simpa [unite] using ih
        | cons q qs => simpa [unite] using ih

/-- `pieces` on strings. -/
def split (sep : Char) (s : String) : List String := (pieces sep s.toList).map String.ofList

/-- The strings joined with a separating string. -/
def joinWith (sep : String) : List String → String
  | [] => ""
  | [s] => s
  | s :: t :: rest => s ++ sep ++ joinWith sep (t :: rest)

/-- The text before and after the first occurrence of a character, if it occurs. -/
def cutAt (sep : Char) : List Char → Option (List Char × List Char)
  | [] => none
  | c :: rest =>
    if c = sep then some ([], rest)
    else (cutAt sep rest).map fun (before, after) => (c :: before, after)

end TemplateLookup.Text
