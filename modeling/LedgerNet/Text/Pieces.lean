/-!
# Pieces of text

Text cut at every occurrence of a separator. There is one piece more than separators, so that pieces
may be empty.
-/

namespace LedgerNet.Text

/-- The pieces of a text between the occurrences of a separator. -/
def pieces (sep : Char) : List Char → List (List Char)
  | [] => [[]]
  | c :: rest =>
    match pieces sep rest with
    | [] => [[c]]
    | p :: ps => if c = sep then [] :: p :: ps else (c :: p) :: ps

end LedgerNet.Text
