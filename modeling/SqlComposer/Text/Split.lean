/-!
# Splitting and doubling

A text is cut at every separator, so the parts are one more than the separators. Doubling writes
each occurrence of a mark twice, which is how a closing quote is kept inside quotes.
-/

namespace SqlComposer.Text

/-- Cuts before and after every separator; the first part and the parts that follow it. -/
def split (isSeparator : Char → Bool) : List Char → List Char × List (List Char)
  | [] => ([], [])
  | c :: cs =>
    let (first, rest) := split isSeparator cs
    if isSeparator c then ([], first :: rest) else (c :: first, rest)

/-- All parts between separators, never none. -/
def splitAll (isSeparator : Char → Bool) (cs : List Char) : List (List Char) :=
  (split isSeparator cs).1 :: (split isSeparator cs).2

def splitAt (separator : Char) (s : String) : List String :=
  (splitAll (· == separator) s.toList).map String.ofList

/-- Writes each occurrence of `mark` twice, from left to right; the first `skip` characters belong
to an occurrence that has been seen already. -/
def doubleFrom (mark : List Char) : Nat → List Char → List Char
  | _, [] => []
  | skip + 1, c :: cs => c :: doubleFrom mark skip cs
  | 0, c :: cs =>
    if mark.isPrefixOf (c :: cs) then mark ++ c :: doubleFrom mark (mark.length - 1) cs
    else c :: doubleFrom mark 0 cs

/-- Writes each occurrence of `mark` twice. An empty mark changes nothing. -/
def double (mark : String) (s : String) : String :=
  if mark.isEmpty then s else String.ofList (doubleFrom mark.toList 0 s.toList)

end SqlComposer.Text
