namespace CallGuard

/-!
# Parts of a text

A text is cut at every occurrence of a separator. There is one part more than
there are separators, so an empty text has one empty part.
-/

/-- The parts of a list of characters between separators. -/
def splitAtEach (separator : Char) : List Char → List (List Char)
  | [] => [[]]
  | c :: rest =>
      match splitAtEach separator rest with
      | [] => [[c]]
      | part :: parts =>
          if c = separator then [] :: part :: parts else (c :: part) :: parts

/-- The parts of a text between separators. -/
def textParts
    (separator : Char)
    (text : String) :
    List String :=
  (splitAtEach separator text.toList).map String.ofList

end CallGuard
