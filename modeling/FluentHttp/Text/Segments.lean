/-!
# FluentHttp.Text.Segments

Text cut at a separator. There is one segment more than there are separators, so the empty text has
one empty segment.
-/

namespace FluentHttp.Text

/-- The pieces of a text between separators. -/
def segmentsOf (separator : Char) : List Char → List (List Char)
  | [] => [[]]
  | c :: rest =>
    if c = separator then [] :: segmentsOf separator rest
    else
      match segmentsOf separator rest with
      | [] => [[c]]
      | segment :: segments => (c :: segment) :: segments

/-- The pieces of a text between separators. -/
def segments (separator : Char) (text : String) : List String :=
  (segmentsOf separator text.toList).map String.ofList

end FluentHttp.Text
